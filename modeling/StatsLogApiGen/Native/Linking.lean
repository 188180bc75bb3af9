import StatsLogApiGen.Native.Run
import StatsLogApiGen.Program.Linking

/-!
# Calls between native methods

A non-chained method calls `stats_write` with a chain of one node.  It compiles
when the source has that overload.
-/

namespace StatsLogApiGen.Native

open Std
open StatsLogApiGen.Container
open StatsLogApiGen.Collation
open StatsLogApiGen.Program
open StatsLogApiGen.Writer

/-! ## Overloads and calls -/

/-- The type of the parameter that a variable is passed for: a copy drops `const`, and
a vector is passed by reference. -/
def parameterTypeOf (typeName : String) : String :=
  if typeName = "const size_t" then "size_t"
  else if typeName = "const std::vector<char const*>" then "const std::vector<char const*>&"
  else typeName

def Method.overload (method : Method) : Overload String String :=
  ⟨method.name, method.parameters.map Parameter.typeName⟩

/-- The variables of a body that forwards, with their types. -/
def Method.scope (method : Method) (locals : List Local) : List (Variable × String) :=
  (locals.map fun declared => (declared.name, declared.typeName)) ++
    method.parameters.map fun parameter => (parameter.name, parameter.typeName)

/-- The calls of other generated methods. -/
def Method.calls (method : Method) : List (Call String String) :=
  match method.body with
  | .forward locals call =>
      [⟨call.name, call.arguments.map fun name =>
        ((method.scope locals).lookup name).map parameterTypeOf⟩]
  | _ => []

/-- Every call of a method resolves to a method of the same source. -/
def CallsResolve (methods : List Method) : Prop :=
  Linked (methods.map Method.overload) (methods.flatMap Method.calls)

instance (methods : List Method) : Decidable (CallsResolve methods) :=
  inferInstanceAs (Decidable (Linked _ _))

/-! ## Non-chained methods -/

section NonChained

variable {rest : Signature} (noChain : ∀ type ∈ rest, type ≠ .attributionChain)

include noChain

/-- A non-chained method passes on its parameters after the first two. -/
theorem callArgumentsFrom_eq (argIndex : Int) :
    callArgumentsFrom attributionDecl argIndex rest =
      (nativeSignatureParameters attributionDecl false argIndex rest).map Parameter.name := by
  induction rest generalizing argIndex with
  | nil => rfl
  | cons type later ih =>
      have first := noChain type List.mem_cons_self
      have others : ∀ other ∈ later, other ≠ .attributionChain :=
        fun other member => noChain other (List.mem_cons_of_mem type member)
      rw [callArgumentsFrom, nativeSignatureParameters, List.map_append, ih others,
        callArguments, nativeArgParameters, if_neg first, if_neg first]
      cases type <;> rfl

/-- Types of parameters are passed for themselves. -/
theorem parameterTypeOf_typeName (argIndex : Int) :
    ∀ parameter ∈ nativeSignatureParameters attributionDecl false argIndex rest,
      parameterTypeOf parameter.typeName = parameter.typeName := by
  induction rest generalizing argIndex with
  | nil => simp [nativeSignatureParameters]
  | cons type later ih =>
      intro parameter member
      rcases List.mem_append.mp member with here | there
      · rw [nativeArgParameters, if_neg (noChain type List.mem_cons_self)] at here
        cases type <;> simp at here <;> first
          | (subst here; rfl)
          | (rcases here with rfl | rfl <;> rfl)
      · apply ih _ _ parameter there
        exact fun other otherMem => noChain other (List.mem_cons_of_mem type otherMem)

/-- The variables that a non-chained method declares for the chain. -/
def chainLocals : List Local :=
  [⟨"const int32_t*", .chain "uid", .addressOf (.arg 1)⟩,
    ⟨"const size_t", .chainLength "uid", .size 1⟩,
    ⟨"const std::vector<char const*>", .chain "tag", .vectorOf 1 (.arg 2)⟩]

/-- The variables that are in scope in a non-chained method. -/
def nonChainedScope (rest : Signature) : List (Variable × String) :=
  (writeNativeStatsWriteNonChainedMethod attributionDecl (.int :: .string :: rest)).scope
    chainLocals

/-- The variables in a non-chained method have distinct names. -/
theorem nodup_nonChainedScope : ((nonChainedScope rest).map Prod.fst).Nodup := by
  let own : List Variable := [.chain "uid", .chainLength "uid", .chain "tag", .code]
  have names : (nonChainedScope rest).map Prod.fst =
      own ++ convention.namesFrom 1 (.int :: .string :: rest) := by
    rw [← nativeSignatureParameters_names]
    change _ :: _ :: _ :: List.map _ (List.map _ (_ :: _)) = _
    rw [List.map_map]
    rfl
  have plain : ∀ type ∈ (.int :: .string :: rest : Signature), type ≠ .attributionChain := by
    simpa using noChain
  have ownNone : ∀ name ∈ own, name.argIndex? = none := by
    decide
  rw [names, List.nodup_append']
  refine ⟨by decide, Convention.nodup_namesFrom convention_valid plain, ?_⟩
  intro name ownMem parameterMem
  obtain ⟨owner, ownerEq, -⟩ :=
    Convention.namesFrom_owner convention_valid plain name parameterMem
  rw [ownNone name ownMem] at ownerEq
  contradiction

/-- What a non-chained method passes to `stats_write`. -/
def passedVariables (rest : Signature) : List (Variable × String) :=
  [(.code, "int32_t"), (.chain "uid", "const int32_t*"), (.chainLength "uid", "const size_t"),
    (.chain "tag", "const std::vector<char const*>")] ++
    (nativeSignatureParameters attributionDecl false 3 rest).map fun parameter =>
      (parameter.name, parameter.typeName)

omit noChain in
theorem passedVariables_subset : passedVariables rest ⊆ nonChainedScope rest := by
  intro pair member
  rcases List.mem_append.mp member with own | later
  · simp only [List.mem_cons, List.not_mem_nil, or_false] at own
    rcases own with rfl | rfl | rfl | rfl <;>
      simp [nonChainedScope, Method.scope, chainLocals, writeNativeStatsWriteNonChainedMethod,
        writeNativeMethodSignature]
  · obtain ⟨parameter, parameterMem, rfl⟩ := List.mem_map.mp later
    apply List.mem_append_right
    apply List.mem_map_of_mem
    exact List.mem_cons_of_mem _ (List.mem_cons_of_mem _ (List.mem_cons_of_mem _ parameterMem))

theorem passedVariables_types :
    (passedVariables rest).map (fun pair => parameterTypeOf pair.2) =
      nativeParameterTypes (.attributionChain :: rest) := by
  have later : (nativeSignatureParameters attributionDecl false 3 rest).map
      (fun parameter => parameterTypeOf parameter.typeName) = rest.flatMap nativeTypesOf := by
    rw [← nativeSignatureParameters_typeName 3]
    exact List.map_congr_left (parameterTypeOf_typeName noChain 3)
  rw [nativeParameterTypes_eq, List.flatMap_cons, ← later, passedVariables, List.map_append,
    List.map_map]
  rfl

/-- The overload that a non-chained method calls. -/
theorem nonChained_calls :
    (writeNativeStatsWriteNonChainedMethod attributionDecl (.int :: .string :: rest)).calls =
      [Overload.call ⟨"stats_write", nativeParameterTypes (.attributionChain :: rest)⟩] := by
  have arguments : (writeNativeMethodCall "stats_write" (.attributionChain :: rest)
      attributionDecl 2).arguments = (passedVariables rest).map Prod.fst := by
    change .code :: .chain "uid" :: .chainLength "uid" :: .chain "tag" ::
      callArgumentsFrom attributionDecl 3 rest = _
    rw [callArgumentsFrom_eq noChain, passedVariables, List.map_append, List.map_map]
    rfl
  have found := map_lookup_of_subset (nodup_nonChainedScope noChain) passedVariables_subset
  have types : (writeNativeMethodCall "stats_write" (.attributionChain :: rest)
      attributionDecl 2).arguments.map
        (fun name => ((nonChainedScope rest).lookup name).map parameterTypeOf) =
      (nativeParameterTypes (.attributionChain :: rest)).map some := by
    rw [arguments, ← passedVariables_types noChain, List.map_map]
    rw [List.map_map, List.map_map] at found
    have mapped := congrArg (List.map (Option.map parameterTypeOf)) found
    rw [List.map_map, List.map_map] at mapped
    rw [List.map_map]
    exact mapped
  change [(⟨"stats_write", _⟩ : Call String String)] = _
  rw [Overload.call, ← types]
  rfl

end NonChained

/-! ## The generated source -/

section Source

variable {constants : AnnotationIdConstants} {atoms : Atoms} {minApiLevel : Int}
  {methods : List Method} {method : Method} {entry : Signature × FieldNumberToAtomDeclSet}

theorem writeNativeStatsWriteMethod_overload
    (written : writeNativeStatsWriteMethod constants attributionDecl minApiLevel false entry =
      .ok method) :
    method.overload = ⟨"stats_write", nativeParameterTypes entry.1⟩ ∧ method.calls = [] := by
  obtain ⟨body, bodyWritten, rfl⟩ := map_eq_ok_iff.mp written
  refine ⟨rfl, ?_⟩
  rw [if_neg (by simp)] at bodyWritten
  split at bodyWritten
  · obtain ⟨code, -, rfl⟩ := map_eq_ok_iff.mp bodyWritten
    rfl
  · obtain ⟨code, -, rfl⟩ := map_eq_ok_iff.mp bodyWritten
    rfl

theorem writeNativeBuildStatsEventMethod_overload
    (written : writeNativeBuildStatsEventMethod constants attributionDecl minApiLevel entry =
      .ok method) :
    method.name = "addAStatsEvent" ∧ method.calls = [] := by
  obtain ⟨code, -, rfl⟩ := map_eq_ok_iff.mp written
  exact ⟨rfl, rfl⟩

variable (source : writeStatsLogCpp constants atoms attributionDecl minApiLevel false =
  .ok methods)

include source

/-- The overloads of `stats_write` are those of the pushed signatures. -/
theorem mem_statsWrite_iff {types : List String} :
    ⟨"stats_write", types⟩ ∈ methods.map Method.overload ↔
      ∃ signature ∈ atoms.signatureInfoMap, nativeParameterTypes signature = types := by
  rw [List.mem_map]
  constructor
  · rintro ⟨method, member, isOverload⟩
    have name : method.name = "stats_write" := congrArg Overload.name isOverload
    rcases (mem_methods_iff source).mp member with
      ⟨entry, entryMem, written⟩ | ⟨entry, -, rfl⟩ | ⟨entry, -, written⟩
    · rw [(writeNativeStatsWriteMethod_overload written).1, Overload.mk.injEq] at isOverload
      exact ⟨entry.1, mem_of_mem_toList entryMem, isOverload.2⟩
    · change "stats_write_non_chained" = "stats_write" at name
      exact absurd name (by decide)
    · rw [(writeNativeBuildStatsEventMethod_overload written).1] at name
      exact absurd name (by decide)
  · rintro ⟨signature, member, rfl⟩
    obtain ⟨entry, entryMem, rfl⟩ := exists_mem_toList member
    obtain ⟨pushed, pushedWritten, rest⟩ := bind_eq_ok_iff.mp source
    obtain ⟨method, written⟩ := exists_ok_of_mapM pushedWritten entryMem
    exact ⟨method, (mem_methods_iff source).mpr (Or.inl ⟨entry, entryMem, written⟩),
      (writeNativeStatsWriteMethod_overload written).1⟩

/-- The calls resolve when every flattened signature has the overload of its chain. -/
theorem callsResolve_iff
    (keys : ∀ key ∈ atoms.nonChainedSignatureInfoMap, ∃ rest : Signature,
      (∀ type ∈ rest, type ≠ .attributionChain) ∧ key = .int :: .string :: rest) :
    CallsResolve methods ↔
      ∀ rest : Signature, .int :: .string :: rest ∈ atoms.nonChainedSignatureInfoMap →
        ∃ signature ∈ atoms.signatureInfoMap,
          nativeParameterTypes signature = nativeParameterTypes (.attributionChain :: rest) := by
  rw [CallsResolve, linked_flatMap]
  constructor
  · intro linked rest present
    obtain ⟨entry, entryMem, isKey⟩ := exists_mem_toList present
    obtain ⟨other, noChain, equal⟩ := keys _ present
    obtain rfl : rest = other := by simpa using equal
    have member := (mem_methods_iff source).mpr (Or.inr (Or.inl ⟨entry, entryMem, rfl⟩))
    have resolved := linked _ member
    rw [isKey, nonChained_calls noChain, linked_singleton_iff] at resolved
    exact (mem_statsWrite_iff source).mp resolved
  · intro targets method member
    rcases (mem_methods_iff source).mp member with
      ⟨entry, -, written⟩ | ⟨entry, entryMem, rfl⟩ | ⟨entry, -, written⟩
    · rw [(writeNativeStatsWriteMethod_overload written).2]
      exact linked_nil
    · have present := mem_of_mem_toList entryMem
      obtain ⟨rest, noChain, isKey⟩ := keys _ present
      rw [isKey] at present ⊢
      rw [nonChained_calls noChain, linked_singleton_iff]
      exact (mem_statsWrite_iff source).mpr (targets rest present)
    · rw [(writeNativeBuildStatsEventMethod_overload written).2]
      exact linked_nil

end Source

end StatsLogApiGen.Native
