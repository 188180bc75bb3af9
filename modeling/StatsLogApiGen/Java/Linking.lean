import StatsLogApiGen.Java.Run
import StatsLogApiGen.Program.Linking

/-!
# Calls between Java methods

Non-chained methods, methods for work sources and, for Q, the class `QLogger` are
called with arguments that are made from a chain or made into one.
-/

namespace StatsLogApiGen.Java

open Std
open StatsLogApiGen.Container
open StatsLogApiGen.Collation
open StatsLogApiGen.Program
open StatsLogApiGen.Writer

/-! ## Overloads and calls -/

/-- The type of what is passed, where its variables are in scope. -/
def Expression.typeIn (scope : List (Variable × String)) : Expression → Option String
  | .name passed => scope.lookup passed
  | .arrayOf typeName element =>
      if scope.lookup element = some typeName then some (typeName ++ "[]") else none
  | .workSourceUid => (scope.lookup .workSource).map fun _ => "int"
  | .workSourcePackageName => (scope.lookup .workSource).map fun _ => "java.lang.String"
  | .workChainUids => (scope.lookup .workSource).map fun _ => "int[]"
  | .workChainTags => (scope.lookup .workSource).map fun _ => "java.lang.String[]"

def Method.overload (method : Method) : Overload String String :=
  ⟨method.name, method.parameters.map Parameter.typeName⟩

/-- The parameters as variables with their types. -/
def scopeOf (parameters : List Parameter) : List (Variable × String) :=
  parameters.map fun parameter => (parameter.name, parameter.typeName)

def MethodCall.typed (call : MethodCall) (scope : List (Variable × String)) :
    Call String String :=
  ⟨call.name, call.arguments.map fun argument => argument.typeIn scope⟩

/-- The calls of other generated methods. -/
def Body.calls : Body → List MethodCall
  | .write _ => []
  | .writeOrQLogger _ qLogger => [qLogger]
  | .buildStatsEvent _ => []
  | .forward call => [call]
  | .workSource eachUid eachWorkChain => [eachUid, eachWorkChain]

def Method.calls (method : Method) : List (Call String String) :=
  method.body.calls.map fun call => call.typed (scopeOf method.parameters)

/-- The methods that can be called in the class: its own and those of `QLogger`. -/
def Output.overloads (output : Output) : List (Overload String String) :=
  output.methods.map Method.overload ++
    output.qLogger.toList.flatMap fun qLogger => qLogger.methods.map fun method =>
      ⟨"QLogger.write", method.parameters.map Parameter.typeName⟩

/-- Every call of a method resolves. -/
def CallsResolve (output : Output) : Prop :=
  Linked output.overloads (output.methods.flatMap Method.calls)

instance (output : Output) : Decidable (CallsResolve output) :=
  inferInstanceAs (Decidable (Linked _ _))

/-! ## Scopes -/

/-- The indices of the arguments from `argIndex` on. -/
def indicesFrom : Int → Signature → List Int
  | _, [] => []
  | argIndex, _ :: rest => argIndex :: indicesFrom (argIndex + 1) rest

theorem argIndices_eq (signature : Signature) : argIndices signature = indicesFrom 1 signature := by
  have shifted (argIndex : Int) :
      (List.range signature.length).map (fun position : Nat => (position : Int) + argIndex) =
        indicesFrom argIndex signature := by
    induction signature generalizing argIndex with
    | nil => rfl
    | cons type rest ih =>
        rw [indicesFrom, ← ih, List.length_cons, List.range_succ_eq_map, List.map_cons,
          List.map_map, Int.natCast_zero, Int.zero_add]
        congr 2
        funext position
        simp only [Function.comp_apply, Nat.succ_eq_add_one]
        omega
  exact shifted 1

theorem mem_indicesFrom {argIndex : Int} {signature : Signature} {index : Nat}
    (bound : index < signature.length) : argIndex + index ∈ indicesFrom argIndex signature := by
  induction signature generalizing argIndex index with
  | nil => simp at bound
  | cons type rest ih =>
      cases index with
      | zero => simp [indicesFrom]
      | succ index =>
          have later : argIndex + 1 + index ∈ indicesFrom (argIndex + 1) rest :=
            ih (by simpa using bound)
          rw [Int.add_assoc, Int.add_comm 1] at later
          exact List.mem_cons_of_mem argIndex later

section Scopes

variable {rest : Signature} (noChain : ∀ type ∈ rest, type ≠ .attributionChain)

include noChain

theorem javaSignatureParameters_eq (argIndex : Int) :
    javaSignatureParameters attributionDecl argIndex rest =
      ((indicesFrom argIndex rest).zip rest).map fun arg => ⟨javaTypeName arg.2, .arg arg.1⟩ := by
  induction rest generalizing argIndex with
  | nil => rfl
  | cons type later ih =>
      have others : ∀ other ∈ later, other ≠ .attributionChain :=
        fun other member => noChain other (List.mem_cons_of_mem type member)
      rw [javaSignatureParameters, javaArgParameters, if_neg (noChain type List.mem_cons_self),
        ih others]
      rfl

theorem map_fst_scopeOf (argIndex : Int) :
    (scopeOf (javaSignatureParameters attributionDecl argIndex rest)).map Prod.fst =
      (indicesFrom argIndex rest).map Variable.arg := by
  have lengths : (indicesFrom argIndex rest).length = rest.length := by
    clear noChain
    induction rest generalizing argIndex with
    | nil => rfl
    | cons type later ih => simp [indicesFrom, ih]
  rw [javaSignatureParameters_eq noChain, scopeOf, List.map_map, List.map_map]
  change ((indicesFrom argIndex rest).zip rest).map (Variable.arg ∘ Prod.fst) = _
  rw [← List.map_map, List.map_fst_zip lengths.le]

/-- Arguments that are passed on have the types of their parameters. -/
theorem typeIn_names {scope : List (Variable × String)} {argIndex : Int}
    (distinct : (scope.map Prod.fst).Nodup)
    (subset : scopeOf (javaSignatureParameters attributionDecl argIndex rest) ⊆ scope) :
    ((indicesFrom argIndex rest).map fun index => (Expression.name (.arg index)).typeIn scope) =
      (rest.flatMap javaTypesOf).map some := by
  have found := map_lookup_of_subset distinct subset
  rw [map_fst_scopeOf noChain] at found
  have types : (scopeOf (javaSignatureParameters attributionDecl argIndex rest)).map Prod.snd =
      rest.flatMap javaTypesOf := by
    rw [← javaSignatureParameters_typeName argIndex, scopeOf, List.map_map]
    rfl
  rw [types, List.map_map] at found
  exact found

/-- The names of parameters without a chain are distinct from other variables. -/
theorem nodup_scope {own : List (Variable × String)} (argIndex : Int)
    (ownDistinct : (own.map Prod.fst).Nodup)
    (ownNone : ∀ pair ∈ own, pair.1.argIndex? = none) :
    ((own ++ scopeOf (javaSignatureParameters attributionDecl argIndex rest)).map
      Prod.fst).Nodup := by
  have names : (scopeOf (javaSignatureParameters attributionDecl argIndex rest)).map Prod.fst =
      plainConvention.namesFrom argIndex rest := by
    rw [← javaSignatureParameters_names, scopeOf, List.map_map]
    rfl
  rw [List.map_append, names, List.nodup_append']
  refine ⟨ownDistinct, Convention.nodup_namesFrom plainConvention_valid noChain, ?_⟩
  intro name ownMem parameterMem
  obtain ⟨owner, ownerEq, -⟩ :=
    Convention.namesFrom_owner plainConvention_valid noChain name parameterMem
  obtain ⟨pair, pairMem, rfl⟩ := List.mem_map.mp ownMem
  rw [ownNone pair pairMem] at ownerEq
  contradiction

end Scopes

/-! ## Generated methods -/

section Methods

variable {constants : AnnotationIdConstants} {minApiLevel : Int} {method : Method}
  {entry : Signature × FieldNumberToAtomDeclSet}

theorem printedParameters_eq (signature : Signature) :
    printedParameters signature attributionDecl =
      javaSignatureParameters attributionDecl 1 signature := by
  rw [printedParameters, writeJavaMethodSignature_eq]

/-- The variables of a pushed method. -/
def pushedScope (signature : Signature) : List (Variable × String) :=
  scopeOf (⟨"int", .code⟩ :: javaSignatureParameters attributionDecl 1 signature)

theorem nodup_pushedScope {signature : Signature} (accepted : AcceptedSignature signature) :
    ((pushedScope signature).map Prod.fst).Nodup := by
  have names : (pushedScope signature).map Prod.fst =
      .code :: plainConvention.namesFrom 1 signature := by
    rw [← javaSignatureParameters_names, pushedScope, scopeOf, List.map_map]
    rfl
  rw [names]
  exact Convention.nodup_names plainConvention_valid accepted

/-- What is passed to `QLogger` are the variables of the method. -/
theorem qLoggerArguments_eq {signature : Signature} {argIndex : Int}
    {arguments : List (List Expression)}
    (printed : eachArg (qLoggerArguments attributionDecl) argIndex signature = .ok arguments) :
    arguments.flatten =
      (javaSignatureParameters attributionDecl argIndex signature).map fun parameter =>
        .name parameter.name := by
  induction signature generalizing argIndex arguments with
  | nil =>
      cases printed
      rfl
  | cons type rest ih =>
      obtain ⟨first, firstPrinted, restPrinted⟩ := bind_eq_ok_iff.mp printed
      obtain ⟨later, laterPrinted, rfl⟩ := map_eq_ok_iff.mp restPrinted
      rw [List.flatten_cons, ih laterPrinted, javaSignatureParameters, List.map_append]
      congr 1
      unfold qLoggerArguments at firstPrinted
      rw [javaArgParameters]
      split at firstPrinted
      · rename_i isChain
        cases firstPrinted
        rw [if_pos isChain]
        rfl
      · rename_i notChain
        rw [if_neg notChain]
        split at firstPrinted
        · contradiction
        · cases firstPrinted
          rfl

/-- A pushed method calls nothing but, for Q, the method of `QLogger` with its own
parameters. -/
theorem writeJavaPushedMethod_overload (accepted : AcceptedSignature entry.1)
    (written : writeJavaPushedMethod constants attributionDecl minApiLevel entry =
      .ok method) :
    method.overload = ⟨"write", javaParameterTypes entry.1⟩ ∧
      (method.calls = [] ∨ minApiLevel = apiQ ∧
        method.calls = [Overload.call ⟨"QLogger.write", javaParameterTypes entry.1⟩]) := by
  obtain ⟨code, -, rest⟩ := bind_eq_ok_iff.mp written
  dsimp only at rest
  rw [printedParameters_eq] at rest
  split at rest
  · rename_i isQ
    obtain ⟨arguments, argumentsPrinted, rfl⟩ := map_eq_ok_iff.mp rest
    refine ⟨rfl, Or.inr ⟨isQ, ?_⟩⟩
    have found := map_lookup_of_subset (nodup_pushedScope accepted)
      (List.Subset.refl (pushedScope entry.1))
    have types : (pushedScope entry.1).map Prod.snd = javaParameterTypes entry.1 := by
      rw [pushedScope, scopeOf, List.map_map]
      rfl
    rw [types, List.map_map, pushedScope, scopeOf, List.map_map, ← scopeOf, ← pushedScope] at found
    change [MethodCall.typed ⟨"QLogger.write", .name .code :: arguments.flatten⟩
      (pushedScope entry.1)] = _
    rw [Overload.call, ← found, MethodCall.typed, qLoggerArguments_eq argumentsPrinted,
      List.map_cons, List.map_cons, List.map_map]
    rfl
  · cases rest
    exact ⟨rfl, Or.inl rfl⟩

theorem writeJavaPulledMethod_calls
    (written : writeJavaPulledMethod constants attributionDecl minApiLevel entry =
      .ok method) : method.calls = [] := by
  obtain ⟨parameters, -, rest⟩ := bind_eq_ok_iff.mp written
  obtain ⟨code, -, rfl⟩ := map_eq_ok_iff.mp rest
  rfl

section NonChained

variable {rest : Signature} (noChain : ∀ type ∈ rest, type ≠ .attributionChain)

include noChain

theorem eachArg_nonChainedParameter (argIndex : Int) :
    eachArg nonChainedParameter argIndex rest =
      .ok (javaSignatureParameters attributionDecl argIndex rest) := by
  induction rest generalizing argIndex with
  | nil => rfl
  | cons type later ih =>
      have first := noChain type List.mem_cons_self
      have others : ∀ other ∈ later, other ≠ .attributionChain :=
        fun other member => noChain other (List.mem_cons_of_mem type member)
      rw [eachArg, ih others, nonChainedParameter, if_neg first, javaSignatureParameters,
        javaArgParameters, if_neg first]
      rfl

omit noChain in
/-- The arguments after the first two are passed on. -/
theorem map_nonChainedArgument {argIndex : Int} (later : argIndex ≥ 3) :
    (indicesFrom argIndex rest).map nonChainedArgument =
      (indicesFrom argIndex rest).map fun index => .name (.arg index) := by
  induction rest generalizing argIndex with
  | nil => rfl
  | cons type others ih =>
      rw [indicesFrom, List.map_cons, List.map_cons, ih (by omega), nonChainedArgument,
        if_neg (by omega), if_neg (by omega)]

/-- The overload of a non-chained method, and the one that it calls. -/
theorem writeJavaNonChainedMethod_overload
    (written : writeJavaNonChainedMethod (.int :: .string :: rest) = .ok method) :
    method.overload = ⟨"write_non_chained", javaParameterTypes (.int :: .string :: rest)⟩ ∧
      method.calls =
        [Overload.call ⟨"write", javaParameterTypes (.attributionChain :: rest)⟩] := by
  have plain : ∀ type ∈ (.int :: .string :: rest : Signature), type ≠ .attributionChain := by
    simpa using noChain
  rw [writeJavaNonChainedMethod, eachArg_nonChainedParameter plain] at written
  cases written
  refine ⟨rfl, ?_⟩
  let own : List (Variable × String) := [(.code, "int")]
  let scope := own ++ scopeOf (javaSignatureParameters attributionDecl 1 (.int :: .string :: rest))
  have distinct : (scope.map Prod.fst).Nodup :=
    nodup_scope plain 1 (by decide) (by decide)
  have subset : scopeOf (javaSignatureParameters attributionDecl 3 rest) ⊆ scope := by
    intro pair member
    exact List.mem_cons_of_mem _ (List.mem_cons_of_mem _ (List.mem_cons_of_mem _ member))
  have types := typeIn_names noChain distinct subset
  change [MethodCall.typed ⟨"write", .name .code ::
    (argIndices (.int :: .string :: rest)).map nonChainedArgument⟩ scope] = _
  rw [Overload.call, javaParameterTypes_eq, argIndices_eq]
  change [(⟨"write", some "int" :: _ :: _ ::
    ((indicesFrom 3 rest).map nonChainedArgument).map fun argument =>
      argument.typeIn scope⟩ : Call String String)] = _
  rw [map_nonChainedArgument (by omega), List.map_map]
  exact congrArg (fun later => [(⟨"write", some "int" :: some "int[]" ::
    some "java.lang.String[]" :: later⟩ : Call String String)]) types

theorem findAttributionArg_of_noChain (attributionArg argIndexMax : Int) :
    findAttributionArg attributionArg argIndexMax rest = .ok attributionArg := by
  induction rest generalizing argIndexMax with
  | nil => rfl
  | cons type later ih =>
      rw [findAttributionArg, if_neg (noChain type List.mem_cons_self)]
      exact ih (fun other member => noChain other (List.mem_cons_of_mem type member)) _

theorem workSourceParameters_eq (argIndex : Int) :
    ((indicesFrom argIndex rest).zip rest).map (fun arg => workSourceParameter arg.1 arg.2) =
      javaSignatureParameters attributionDecl argIndex rest := by
  rw [javaSignatureParameters_eq noChain]
  apply List.map_congr_left
  intro arg member
  exact if_neg (noChain arg.2 (List.of_mem_zip member).2)

/-- The arguments after the chain are passed on. -/
theorem flatMap_workSourceArgument {argIndex : Int} (later : argIndex ≥ 2)
    (chain : List Expression) :
    ((indicesFrom argIndex rest).flatMap fun index =>
        if index = 1 then chain else [.name (.arg index)]) =
      (indicesFrom argIndex rest).map fun index => .name (.arg index) := by
  induction rest generalizing argIndex with
  | nil => rfl
  | cons type others ih =>
      have othersNoChain : ∀ other ∈ others, other ≠ .attributionChain :=
        fun other member => noChain other (List.mem_cons_of_mem type member)
      rw [indicesFrom, List.flatMap_cons, List.map_cons, ih othersNoChain (by omega),
        if_neg (by omega)]
      rfl

omit noChain in
/-- A signature without a chain gets no method for work sources. -/
theorem writeJavaWorkSourceMethod_of_noChain (noChain : ∀ type ∈ rest, type ≠ .attributionChain) :
    writeJavaWorkSourceMethod rest = .ok [] := by
  rw [writeJavaWorkSourceMethod, findAttributionArg_of_noChain noChain]
  rfl

/-- The two overloads that a method for work sources calls. -/
theorem writeJavaWorkSourceMethod_calls {methods : List Method}
    (written : writeJavaWorkSourceMethod (.attributionChain :: rest) = .ok methods) :
    ∀ method ∈ methods, method.calls =
      [Overload.call ⟨"write_non_chained", javaParameterTypes (.int :: .string :: rest)⟩,
        Overload.call ⟨"write", javaParameterTypes (.attributionChain :: rest)⟩] := by
  rw [writeJavaWorkSourceMethod, findAttributionArg, if_pos rfl, if_neg (by decide),
    findAttributionArg_of_noChain noChain] at written
  cases written
  intro method member
  dsimp only at member
  rw [if_neg (by decide), List.mem_singleton] at member
  subst member
  let own : List (Variable × String) := [(.code, "int"), (.workSource, "android.os.WorkSource")]
  let scope := own ++ scopeOf (javaSignatureParameters attributionDecl 2 rest)
  have distinct : (scope.map Prod.fst).Nodup :=
    nodup_scope noChain 2 (by decide) (by decide)
  have subset : scopeOf (javaSignatureParameters attributionDecl 2 rest) ⊆ scope :=
    List.subset_append_right _ _
  have types := typeIn_names noChain distinct subset
  have call (name : String) (chain : List Expression) :
      MethodCall.typed ⟨name, workSourceArguments (.attributionChain :: rest) 1 chain⟩ scope =
        ⟨name, some "int" :: (chain.map (fun argument => argument.typeIn scope) ++
          (rest.flatMap javaTypesOf).map some)⟩ := by
    rw [← types, MethodCall.typed, workSourceArguments, argIndices_eq, indicesFrom,
      List.flatMap_cons, if_pos rfl, flatMap_workSourceArgument noChain (by omega),
      List.map_cons, List.map_append, List.map_map]
    rfl
  have parameters : (⟨"int", .code⟩ :: ((argIndices (.attributionChain :: rest)).zip
      (.attributionChain :: rest)).map fun arg => workSourceParameter arg.1 arg.2) =
        ⟨"int", .code⟩ :: ⟨"android.os.WorkSource", .workSource⟩ ::
          javaSignatureParameters attributionDecl 2 rest := by
    rw [argIndices_eq, indicesFrom, List.zip_cons_cons, List.map_cons,
      workSourceParameters_eq noChain]
    rfl
  rw [Method.calls]
  dsimp only
  rw [parameters]
  change [MethodCall.typed ⟨_, workSourceArguments (.attributionChain :: rest) 1 _⟩ scope,
    MethodCall.typed ⟨_, workSourceArguments (.attributionChain :: rest) 1 _⟩ scope] = _
  rw [call, call, Overload.call, Overload.call, javaParameterTypes_eq, javaParameterTypes_eq]
  rfl

end NonChained

end Methods

/-! ## The generated class -/

section Class

variable {constants : AnnotationIdConstants} {atoms : Atoms} {minApiLevel : Int}
  {supportWorkSource : Bool}

/-- A method of `QLogger` has the parameters of the method that calls it. -/
theorem parametersFrom_eq (argIndex : Int) (signature : Signature) :
    QSchema.parametersFrom attributionDecl argIndex signature =
      javaSignatureParameters attributionDecl argIndex signature := by
  induction signature generalizing argIndex with
  | nil => rfl
  | cons type rest ih =>
      rw [QSchema.parametersFrom, javaSignatureParameters, ih]
      rfl

/-- The class `QLogger` has an overload for every pushed signature. -/
theorem mem_qLogger_overloads {signature : Signature}
    (member : signature ∈ atoms.signatureInfoMap)
    (generated : (QSchema.writeJavaMethodsQSchema atoms.signatureInfoMap
      attributionDecl).isOk = true) :
    ⟨"QLogger.write", javaParameterTypes signature⟩ ∈
      (writeStatsLogJava constants atoms attributionDecl apiQ supportWorkSource).overloads := by
  obtain ⟨qLogger, written⟩ := isOk_iff_exists.mp generated
  have isGenerated : (writeStatsLogJava constants atoms attributionDecl apiQ
      supportWorkSource).qLogger = some qLogger := by
    rw [writeStatsLogJava]
    dsimp only
    rw [if_pos rfl, written]
    rfl
  obtain ⟨methods, traversed, rfl⟩ := map_eq_ok_iff.mp written
  obtain ⟨entry, entryMem, rfl⟩ := exists_mem_toList member
  obtain ⟨method, methodWritten⟩ := exists_ok_of_mapM traversed entryMem
  have methodMem := (mem_of_mapM_eq_ok traversed).mpr ⟨entry, entryMem, methodWritten⟩
  obtain ⟨sizes, -, rest⟩ := bind_eq_ok_iff.mp methodWritten
  obtain ⟨writes, -, rfl⟩ := map_eq_ok_iff.mp rest
  apply List.mem_append_right
  rw [isGenerated, Option.toList_some, List.flatMap_singleton]
  refine List.mem_map.mpr ⟨_, methodMem, ?_⟩
  rw [parametersFrom_eq]
  rfl

variable (maps : ∀ signature ∈ atoms.signatureInfoMap, AcceptedSignature signature)
  (keys : ∀ key ∈ atoms.nonChainedSignatureInfoMap, ∃ rest : Signature,
    (∀ type ∈ rest, type ≠ .attributionChain) ∧ key = .int :: .string :: rest)
  (noErrors : (writeStatsLogJava constants atoms attributionDecl minApiLevel
    supportWorkSource).errors = 0)

include maps keys noErrors

/-- The calls resolve when a chained signature and its flattened signature come
together, and `QLogger` is generated for Q. -/
theorem callsResolve
    (targets : ∀ rest : Signature, .int :: .string :: rest ∈ atoms.nonChainedSignatureInfoMap →
      ∃ signature ∈ atoms.signatureInfoMap,
        javaParameterTypes signature = javaParameterTypes (.attributionChain :: rest))
    (flattened : ∀ rest : Signature, .attributionChain :: rest ∈ atoms.signatureInfoMap →
      ∃ key ∈ atoms.nonChainedSignatureInfoMap,
        javaParameterTypes key = javaParameterTypes (.int :: .string :: rest))
    (generated : minApiLevel = apiQ → (QSchema.writeJavaMethodsQSchema atoms.signatureInfoMap
      attributionDecl).isOk = true) :
    CallsResolve (writeStatsLogJava constants atoms attributionDecl minApiLevel
      supportWorkSource) := by
  let output := writeStatsLogJava constants atoms attributionDecl minApiLevel supportWorkSource
  have statsWrite {signature : Signature} (member : signature ∈ atoms.signatureInfoMap) :
      ⟨"write", javaParameterTypes signature⟩ ∈ output.overloads := by
    obtain ⟨entry, rfl, method, methodMem, written⟩ := exists_pushedMethod noErrors member
    rw [← (writeJavaPushedMethod_overload (maps entry.1 member) written).1]
    exact List.mem_append_left _ (List.mem_map_of_mem methodMem)
  have nonChained {key : Signature} (member : key ∈ atoms.nonChainedSignatureInfoMap) :
      ⟨"write_non_chained", javaParameterTypes key⟩ ∈ output.overloads := by
    obtain ⟨method, methodMem, written⟩ := exists_nonChainedMethod noErrors member
    obtain ⟨rest, noChain, isKey⟩ := keys key member
    rw [isKey] at written ⊢
    rw [← (writeJavaNonChainedMethod_overload noChain written).1]
    exact List.mem_append_left _ (List.mem_map_of_mem methodMem)
  rw [CallsResolve, linked_flatMap]
  intro method member
  rcases (mem_methods_iff noErrors).mp member with
    ⟨entry, entryMem, written⟩ | ⟨entry, entryMem, written⟩ | ⟨entry, -, written⟩ |
      ⟨-, entry, entryMem, methods, written, methodMem⟩
  · have present := mem_of_mem_toList entryMem
    rcases (writeJavaPushedMethod_overload (maps entry.1 present) written).2 with
      none | ⟨rfl, qLogger⟩
    · rw [none]
      exact linked_nil
    · rw [qLogger, linked_singleton_iff]
      exact mem_qLogger_overloads present (generated rfl)
  · have present := mem_of_mem_toList entryMem
    obtain ⟨rest, noChain, isKey⟩ := keys entry.1 present
    rw [isKey] at written present
    rw [(writeJavaNonChainedMethod_overload noChain written).2, linked_singleton_iff]
    obtain ⟨signature, signatureMem, sameTypes⟩ := targets rest present
    rw [← sameTypes]
    exact statsWrite signatureMem
  · rw [writeJavaPulledMethod_calls written]
    exact linked_nil
  · have present := mem_of_mem_toList entryMem
    have notChain {types : Signature} (areArguments : ∀ type ∈ types, IsArgument type) :
        ∀ type ∈ types, type ≠ .attributionChain := by
      rintro type typeMem rfl
      exact areArguments _ typeMem
    obtain ⟨rest, areArguments, isPlain | isChained⟩ := maps entry.1 present
    · rw [isPlain, writeJavaWorkSourceMethod_of_noChain (notChain areArguments)] at written
      cases written
      contradiction
    · rw [isChained] at written present
      rw [writeJavaWorkSourceMethod_calls (notChain areArguments) written method methodMem]
      intro call callMem
      rcases List.mem_pair.mp callMem with rfl | rfl
      · obtain ⟨key, keyMem, sameTypes⟩ := flattened rest present
        rw [resolves_call_iff, ← sameTypes]
        exact nonChained keyMem
      · rw [resolves_call_iff]
        exact statsWrite present

end Class

end StatsLogApiGen.Java
