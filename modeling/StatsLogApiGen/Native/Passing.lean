import StatsLogApiGen.Native.Linking
import StatsLogApiGen.Writer.Event

/-!
# What the C++ wrapper passes on

`stats_write_non_chained` builds a chain of one node from its first two arguments and
passes the others on.
-/

namespace StatsLogApiGen.Native

open StatsLogApiGen.Container
open StatsLogApiGen.Collation
open StatsLogApiGen.Program
open StatsLogApiGen.Writer

section Execution

variable {α : Type}

/-- The value of a local variable: a pointer to one uid, a length, or a vector of equal
tags. -/
def Initializer.eval (bindings : Bindings α) : Initializer → Option (Passed α)
  | .addressOf name =>
      match bindings.lookup name with
      | some (.uid uid) => some (.uids [uid])
      | _ => none
  | .size count => some (.length count)
  | .vectorOf count element =>
      match bindings.lookup element with
      | some (.tag tag) => some (.tags (List.replicate count tag))
      | _ => none

/-- A local variable with its value. -/
def Local.eval (bindings : Bindings α) (declared : Local) : Option (Variable × Passed α) :=
  (declared.value.eval bindings).map fun value => (declared.name, value)

/-- The call of a body that forwards. -/
def Method.invoke (method : Method) (locals : List Local) (call : MethodCall)
    (values : List (Passed α)) : Option (PassedCall α) :=
  let bindings := (method.parameters.map Parameter.name).zip values
  let types := call.arguments.map fun name =>
    ((method.scope locals).lookup name).map parameterTypeOf
  (locals.mapM (Local.eval bindings)).bind fun own =>
    (call.arguments.mapM fun name => (own ++ bindings).lookup name).bind fun passed =>
      (Call.overload? ⟨call.name, types⟩).map fun target => ⟨target, passed⟩

/-- A method forwards its call or acts itself. -/
def Method.react (method : Method) (values : List (Passed α)) :
    Option (Reaction String String (Passed α)) :=
  match method.body with
  | .forward locals call => (method.invoke locals call values).map fun other => .calls [other]
  | _ => some .acts

/-- How the methods of a generated source call each other. -/
def linkage (α : Type) : Linkage Method String String (Passed α) where
  overload := Method.overload
  react := Method.react

/-- The values that are passed for an argument: a boolean array comes with its length. -/
def passedFor (type : JavaType) (argument : α × Nat) : List (Passed α) :=
  .argument argument.1 :: if type = .booleanArray then [.length argument.2] else []

/-- The values that are passed for the arguments after the chain. -/
def passedArguments (types : Signature) (arguments : List (α × Nat)) : List (Passed α) :=
  (types.zip arguments).flatMap fun pair => passedFor pair.1 pair.2

/-- A call of `stats_write_non_chained`. -/
def nonChainedCall (types : Signature) (code : Int) (uid : BitVec 32) (tag : Option String)
    (arguments : List (α × Nat)) : PassedCall α where
  target := ⟨"stats_write_non_chained", nativeParameterTypes (.int :: .string :: types)⟩
  values := .code code :: .uid uid :: .tag tag :: passedArguments types arguments

/-- A call of `stats_write` with a chain. -/
def chainedCall (types : Signature) (code : Int) (uids : List (BitVec 32))
    (tags : List (Option String)) (arguments : List (α × Nat)) : PassedCall α where
  target := ⟨"stats_write", nativeParameterTypes (.attributionChain :: types)⟩
  values := .code code :: .uids uids :: .length uids.length :: .tags tags ::
    passedArguments types arguments

variable {types : Signature} (noChain : ∀ type ∈ types, type ≠ .attributionChain)

include noChain

theorem length_passedArguments (argIndex : Int) {arguments : List (α × Nat)}
    (lengths : arguments.length = types.length) :
    (convention.namesFrom argIndex types).length = (passedArguments types arguments).length := by
  induction types generalizing argIndex arguments with
  | nil => simp [Convention.namesFrom, passedArguments]
  | cons type rest ih =>
      cases arguments with
      | nil => simp at lengths
      | cons argument later =>
          have others : ∀ other ∈ rest, other ≠ .attributionChain :=
            fun other member => noChain other (List.mem_cons_of_mem type member)
          have remaining : (passedArguments (type :: rest) (argument :: later)) =
              passedFor type argument ++ passedArguments rest later := rfl
          rw [Convention.namesFrom, remaining, List.length_append, List.length_append,
            ih others (argIndex + 1) (by simpa using lengths),
            convention_names_of_ne argIndex (noChain type List.mem_cons_self), passedFor]
          split <;> rfl

/-- The call that the wrapper makes. -/
def wrapperCall (types : Signature) : MethodCall :=
  writeNativeMethodCall "stats_write" (.attributionChain :: types) attributionDecl 2

/-- The variables of the arguments after the chain. -/
def laterBindings (types : Signature) (arguments : List (α × Nat)) : Bindings α :=
  (convention.namesFrom 3 types).zip (passedArguments types arguments)

/-- The parameters of the wrapper. -/
def wrapperBindings (types : Signature) (code : Int) (uid : BitVec 32) (tag : Option String)
    (arguments : List (α × Nat)) : Bindings α :=
  (.code, .code code) :: (.arg 1, .uid uid) :: (.arg 2, .tag tag) ::
    laterBindings types arguments

/-- The local variables of the wrapper: the chain of one node. -/
def nodeBindings (uid : BitVec 32) (tag : Option String) : Bindings α :=
  [(.chain "uid", .uids [uid]), (.chainLength "uid", .length 1), (.chain "tag", .tags [tag])]

omit noChain in
theorem zip_parameters (code : Int) (uid : BitVec 32) (tag : Option String)
    (arguments : List (α × Nat)) :
    ((writeNativeStatsWriteNonChainedMethod attributionDecl
        (.int :: .string :: types)).parameters.map Parameter.name).zip
        (nonChainedCall types code uid tag arguments).values =
      wrapperBindings types code uid tag arguments := by
  change (Variable.code, Passed.code code) :: (Variable.arg 1, Passed.uid uid) ::
    (Variable.arg 2, Passed.tag tag) :: ((nativeSignatureParameters attributionDecl false 3
      types).map Parameter.name).zip (passedArguments types arguments) = _
  rw [nativeSignatureParameters_names]
  rfl

section Lengths

variable {arguments : List (α × Nat)} (lengths : arguments.length = types.length)

include lengths

theorem laterBindings_fst :
    (laterBindings types arguments).map Prod.fst = convention.namesFrom 3 types :=
  List.map_fst_zip (length_passedArguments noChain 3 lengths).le

theorem laterBindings_snd :
    (laterBindings types arguments).map Prod.snd = passedArguments types arguments :=
  List.map_snd_zip (length_passedArguments noChain 3 lengths).ge

/-- The variables of the wrapper have distinct names. -/
theorem nodup_wrapperBindings (code : Int) (uid : BitVec 32) (tag : Option String) :
    ((nodeBindings uid tag ++ wrapperBindings types code uid tag arguments).map
      Prod.fst).Nodup := by
  have scope := nodup_nonChainedScope noChain
  have scopeNames : (nonChainedScope types).map Prod.fst =
      [.chain "uid", .chainLength "uid", .chain "tag", .code, .arg 1, .arg 2] ++
        convention.namesFrom 3 types := by
    rw [← nativeSignatureParameters_names]
    change _ :: _ :: _ :: _ :: _ :: _ :: ((nativeSignatureParameters attributionDecl false 3
      types).map fun parameter => (parameter.name, parameter.typeName)).map Prod.fst = _
    rw [List.map_map]
    rfl
  rw [scopeNames, ← laterBindings_fst noChain lengths] at scope
  exact scope

/-- The wrapper passes on the code, the chain and the arguments after it. -/
theorem lookup_wrapperCall (code : Int) (uid : BitVec 32) (tag : Option String) :
    (wrapperCall types).arguments.mapM (fun name =>
        (nodeBindings uid tag ++ wrapperBindings types code uid tag arguments).lookup name) =
      some (chainedCall types code [uid] [tag] arguments).values := by
  let pairs : Bindings α :=
    (.code, .code code) :: nodeBindings uid tag ++ laterBindings types arguments
  have subset :
      pairs ⊆ nodeBindings uid tag ++ wrapperBindings types code uid tag arguments := by
    intro pair member
    simp only [pairs, wrapperBindings, List.cons_append, List.mem_cons, List.mem_append]
      at member ⊢
    tauto
  have names : (wrapperCall types).arguments = pairs.map Prod.fst := by
    change .code :: .chain "uid" :: .chainLength "uid" :: .chain "tag" ::
      callArgumentsFrom attributionDecl 3 types = .code :: .chain "uid" ::
        .chainLength "uid" :: .chain "tag" :: (laterBindings types arguments).map Prod.fst
    rw [callArgumentsFrom_eq noChain, laterBindings_fst noChain lengths,
      nativeSignatureParameters_names]
  rw [names, mapM_lookup_of_subset (nodup_wrapperBindings noChain lengths code uid tag) subset]
  change some (_ :: _ :: _ :: _ :: (laterBindings types arguments).map Prod.snd) = _
  rw [laterBindings_snd noChain lengths]
  rfl

/-- The wrapper calls `stats_write` with a chain of one node. -/
theorem react_nonChained (code : Int) (uid : BitVec 32) (tag : Option String) :
    (writeNativeStatsWriteNonChainedMethod attributionDecl (.int :: .string :: types)).react
        (nonChainedCall types code uid tag arguments).values =
      some (.calls [chainedCall types code [uid] [tag] arguments]) := by
  let method := writeNativeStatsWriteNonChainedMethod attributionDecl (.int :: .string :: types)
  have declared : chainLocals.mapM (Local.eval (wrapperBindings types code uid tag arguments)) =
      some (nodeBindings uid tag) := rfl
  have target : Call.overload? ⟨(wrapperCall types).name,
      (wrapperCall types).arguments.map fun name =>
        ((method.scope chainLocals).lookup name).map parameterTypeOf⟩ =
      some (chainedCall types code [uid] [tag] arguments).target := by
    have calls : (⟨(wrapperCall types).name, (wrapperCall types).arguments.map fun name =>
        ((method.scope chainLocals).lookup name).map parameterTypeOf⟩ : Call String String) = _ :=
      (List.cons.inj (nonChained_calls noChain)).1
    rw [calls, overload?_call]
    rfl
  change (method.invoke chainLocals (wrapperCall types) _).map
    (fun other => Reaction.calls [other]) = _
  rw [Method.invoke, zip_parameters, declared, Option.bind_some,
    lookup_wrapperCall noChain lengths, Option.bind_some, target]
  rfl

end Lengths

end Execution

/-! ## Delivery -/

section Lowered

theorem nativeSignatureParameters_lowered (argIndex : Int) (types : Signature) :
    nativeSignatureParameters attributionDecl false argIndex (types.map lowered) =
      nativeSignatureParameters attributionDecl false argIndex types := by
  induction types generalizing argIndex with
  | nil => rfl
  | cons type rest ih =>
      rw [List.map_cons, nativeSignatureParameters, nativeSignatureParameters, ih]
      cases type <;> rfl

theorem callArgumentsFrom_lowered (argIndex : Int) (types : Signature) :
    callArgumentsFrom attributionDecl argIndex (types.map lowered) =
      callArgumentsFrom attributionDecl argIndex types := by
  induction types generalizing argIndex with
  | nil => rfl
  | cons type rest ih =>
      rw [List.map_cons, callArgumentsFrom, callArgumentsFrom, ih]
      cases type <;> rfl

/-- An enum is passed like the integer it is lowered to. -/
theorem writeNativeStatsWriteNonChainedMethod_lowered (types : Signature) :
    writeNativeStatsWriteNonChainedMethod attributionDecl
        (.int :: .string :: types.map lowered) =
      writeNativeStatsWriteNonChainedMethod attributionDecl (.int :: .string :: types) := by
  have parameters := nativeSignatureParameters_lowered 1 (.int :: .string :: types)
  have arguments := callArgumentsFrom_lowered 2 (.attributionChain :: types)
  simp only [List.map_cons, lowered] at parameters arguments
  simp only [writeNativeStatsWriteNonChainedMethod, writeNativeMethodSignature,
    writeNativeMethodCall, List.drop_succ_cons, List.drop_zero, parameters, arguments]

end Lowered

section Delivery

variable {constants : AnnotationIdConstants} {atoms : Atoms} {minApiLevel : Int}
  {methods : List Method}
  (source : writeStatsLogCpp constants atoms attributionDecl minApiLevel false = .ok methods)

include source

/-- A `stats_write` acts itself. -/
theorem react_statsWrite {α : Type} {method : Method} (member : method ∈ methods)
    (name : method.name = "stats_write") (values : List (Passed α)) :
    method.react values = some .acts := by
  rcases (mem_methods_iff source).mp member with
    ⟨entry, -, written⟩ | ⟨entry, -, rfl⟩ | ⟨entry, -, written⟩
  · rcases map_eq_ok_iff.mp written with ⟨body, bodyWritten, rfl⟩
    rw [if_neg (by simp)] at bodyWritten
    split at bodyWritten
    · rcases map_eq_ok_iff.mp bodyWritten with ⟨code, -, rfl⟩
      rfl
    · rcases map_eq_ok_iff.mp bodyWritten with ⟨code, -, rfl⟩
      rfl
  · change "stats_write_non_chained" = "stats_write" at name
    contradiction
  · rw [(writeNativeBuildStatsEventMethod_overload written).1] at name
    contradiction

variable (keys : ∀ key ∈ atoms.nonChainedSignatureInfoMap, ∃ rest : Signature,
  key = .int :: .string :: rest ∧ ∀ type ∈ rest.map lowered, IsArgument type)

include keys

/-- Methods with the overload of a wrapper are the wrapper. -/
theorem eq_nonChained_of_overload {types : Signature}
    (areArguments : ∀ type ∈ types, IsArgument type) {method : Method}
    (member : method ∈ methods)
    (isOverload : method.overload =
      ⟨"stats_write_non_chained", nativeParameterTypes (.int :: .string :: types)⟩) :
    method = writeNativeStatsWriteNonChainedMethod attributionDecl (.int :: .string :: types) := by
  have name : method.name = "stats_write_non_chained" := congrArg Overload.name isOverload
  rcases (mem_methods_iff source).mp member with
    ⟨entry, -, written⟩ | ⟨entry, entryMem, rfl⟩ | ⟨entry, -, written⟩
  · have other := congrArg Overload.name (writeNativeStatsWriteMethod_overload written).1
    change method.name = "stats_write" at other
    rw [name] at other
    contradiction
  · rcases keys entry.1 (mem_of_mem_toList entryMem) with ⟨rest, isKey, restArguments⟩
    rw [isKey] at isOverload ⊢
    have supported {others : Signature} (arguments : ∀ type ∈ others, IsArgument type) :
        ∀ type ∈ (.int :: .string :: others : Signature), type ∈ signatureTypes := by
      intro type typeMem
      rcases List.mem_cons.mp typeMem with rfl | later
      · decide
      · rcases List.mem_cons.mp later with rfl | there
        · decide
        · exact List.mem_of_mem_tail (mem_signatureTypes_tail (arguments type there))
    have sameTypes : nativeParameterTypes (.int :: .string :: rest.map lowered) =
        nativeParameterTypes (.int :: .string :: types) :=
      (nativeParameterTypes_lowered (.int :: .string :: rest)).trans
        (congrArg Overload.types isOverload)
    have same := nativeParameterTypes_injective (supported restArguments)
      (supported areArguments) sameTypes
    rw [← same, writeNativeStatsWriteNonChainedMethod_lowered]
  · rw [(writeNativeBuildStatsEventMethod_overload written).1] at name
    contradiction

/-- A call of `stats_write_non_chained` leads to one call of `stats_write`. -/
theorem deliver_nonChained {types : Signature} (areArguments : ∀ type ∈ types, IsArgument type)
    (chained : .attributionChain :: types ∈ atoms.signatureInfoMap)
    (flattened : ∃ rest : Signature, .int :: .string :: rest ∈ atoms.nonChainedSignatureInfoMap ∧
      rest.map lowered = types)
    {α : Type} (fuel : Nat) (code : Int) (uid : BitVec 32) (tag : Option String)
    {arguments : List (α × Nat)} (lengths : arguments.length = types.length) :
    deliver (linkage α) methods (fuel + 2) (nonChainedCall types code uid tag arguments) =
      some [chainedCall types code [uid] [tag] arguments] := by
  have noChain : ∀ type ∈ types, type ≠ .attributionChain := by
    rintro type member rfl
    exact areArguments _ member
  have wrapperPresent : (nonChainedCall types code uid tag arguments).target ∈
      methods.map (linkage α).overload := by
    rcases flattened with ⟨rest, keyMem, rfl⟩
    rcases exists_mem_toList keyMem with ⟨entry, entryMem, isKey⟩
    have member := (mem_methods_iff source).mpr (Or.inr (Or.inl ⟨entry, entryMem, rfl⟩))
    rw [isKey, ← writeNativeStatsWriteNonChainedMethod_lowered] at member
    exact List.mem_map.mpr ⟨_, member, rfl⟩
  have writePresent : (chainedCall types code [uid] [tag] arguments).target ∈
      methods.map (linkage α).overload :=
    (mem_statsWrite_iff source).mpr ⟨_, chained, rfl⟩
  have delivered : [chainedCall types code [uid] [tag] arguments].mapM
      (deliver (linkage α) methods (fuel + 1)) =
      some [[chainedCall types code [uid] [tag] arguments]] := by
    have acted := deliver_acts fuel writePresent fun method member isTarget =>
      react_statsWrite source member (congrArg Overload.name isTarget) _
    rw [List.mapM_cons, acted]
    rfl
  apply deliver_calls wrapperPresent _ delivered
  intro method member isTarget
  rw [eq_nonChained_of_overload source keys areArguments member isTarget]
  exact react_nonChained noChain lengths code uid tag

end Delivery

end StatsLogApiGen.Native
