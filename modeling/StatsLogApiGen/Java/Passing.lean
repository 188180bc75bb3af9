import StatsLogApiGen.Java.Linking
import StatsLogApiGen.Writer.Event

/-!
# What the Java wrappers pass on

`write_non_chained` makes arrays of its first two arguments.  A method for work sources
calls it for every flat uid, and the chained write for every work chain.
-/

namespace StatsLogApiGen.Java

open StatsLogApiGen.Container
open StatsLogApiGen.Collation
open StatsLogApiGen.Program
open StatsLogApiGen.Writer

section Execution

variable {α : Type}

/-! ## Execution -/

/-- Where a call stands: outside the loops of a method for work sources, or in a round of one
of them. -/
inductive Round where
  | outside
  | flatUid (uid : BitVec 32) (packageName : Option String)
  | workChain (uids : List (BitVec 32)) (tags : List (Option String))

/-- The value of what is passed. -/
def Expression.eval (bindings : Bindings α) (round : Round) : Expression → Option (Passed α)
  | .name passed => bindings.lookup passed
  | .arrayOf _ element =>
      match bindings.lookup element with
      | some (.uid uid) => some (.uids [uid])
      | some (.tag tag) => some (.tags [tag])
      | _ => none
  | .workSourceUid =>
      match round with
      | .flatUid uid _ => some (.uid uid)
      | _ => none
  | .workSourcePackageName =>
      match round with
      | .flatUid _ packageName => some (.tag packageName)
      | _ => none
  | .workChainUids =>
      match round with
      | .workChain uids _ => some (.uids uids)
      | _ => none
  | .workChainTags =>
      match round with
      | .workChain _ tags => some (.tags tags)
      | _ => none

/-- A call in a method with the values it passes. -/
def Method.invoke (method : Method) (bindings : Bindings α) (round : Round)
    (call : MethodCall) : Option (PassedCall α) :=
  (call.arguments.mapM (Expression.eval bindings round)).bind fun passed =>
    (call.typed (scopeOf method.parameters)).overload?.map fun target => ⟨target, passed⟩

/-- A method forwards its call, or goes through a work source, or acts itself.  There is no
loop over work chains when `getWorkChains` returns null. -/
def Method.react (method : Method) (values : List (Passed α)) :
    Option (Reaction String String (Passed α)) :=
  let bindings := (method.parameters.map Parameter.name).zip values
  match method.body with
  | .forward call =>
      (method.invoke bindings .outside call).map fun other => .calls [other]
  | .workSource eachUid eachWorkChain =>
      match bindings.lookup .workSource with
      | some (.workSource workSource) =>
          (workSource.flatUids.mapM fun node =>
              method.invoke bindings (.flatUid node.1 node.2) eachUid).bind fun flat =>
            ((workSource.workChains.getD []).mapM fun chain =>
                method.invoke bindings (.workChain chain.1 chain.2) eachWorkChain).map
              fun chained => .calls (flat ++ chained)
      | _ => none
  | _ => some .acts

/-- How the methods of a generated class call each other. -/
def linkage (α : Type) : Linkage Method String String (Passed α) where
  overload := Method.overload
  react := Method.react

/-! ## Calls -/

/-- A call of `write_non_chained`. -/
def nonChainedCall (types : Signature) (code : Int) (uid : BitVec 32) (tag : Option String)
    (arguments : List α) : PassedCall α where
  target := ⟨"write_non_chained", javaParameterTypes (.int :: .string :: types)⟩
  values := .code code :: .uid uid :: .tag tag :: arguments.map .argument

/-- A call of `write` with a chain. -/
def chainedCall (types : Signature) (code : Int) (uids : List (BitVec 32))
    (tags : List (Option String)) (arguments : List α) : PassedCall α where
  target := ⟨"write", javaParameterTypes (.attributionChain :: types)⟩
  values := .code code :: .uids uids :: .tags tags :: arguments.map .argument

/-- The parameter types of a method for work sources. -/
def workSourceTypes (types : Signature) : List String :=
  "int" :: "android.os.WorkSource" :: types.flatMap javaTypesOf

/-- A call of `write` with a work source. -/
def workSourceCall (types : Signature) (code : Int) (workSource : WorkSource)
    (arguments : List α) : PassedCall α where
  target := ⟨"write", workSourceTypes types⟩
  values := .code code :: .workSource workSource :: arguments.map .argument

/-! ## Bindings -/

/-- The variables from `argIndex` on with their values. -/
def bindingsFrom (argIndex : Int) (types : Signature) (values : List (Passed α)) : Bindings α :=
  (plainConvention.namesFrom argIndex types).zip values

section Bindings

variable {types : Signature} (noChain : ∀ type ∈ types, type ≠ .attributionChain)

include noChain

theorem namesFrom_eq (argIndex : Int) :
    plainConvention.namesFrom argIndex types = (indicesFrom argIndex types).map Variable.arg := by
  rw [← javaSignatureParameters_names, ← map_fst_scopeOf noChain, scopeOf, List.map_map]
  rfl

theorem length_namesFrom (argIndex : Int) :
    (plainConvention.namesFrom argIndex types).length = types.length := by
  induction types generalizing argIndex with
  | nil => rfl
  | cons type rest ih =>
      have others : ∀ other ∈ rest, other ≠ .attributionChain :=
        fun other member => noChain other (List.mem_cons_of_mem type member)
      rw [Convention.namesFrom, List.length_append, ih others,
        plainConvention_names_of_ne argIndex (noChain type List.mem_cons_self),
        List.length_singleton, List.length_cons, Nat.add_comm]

theorem nodup_bindings {own : Bindings α} (argIndex : Int) (values : List (Passed α))
    (lengths : values.length = types.length) (ownDistinct : (own.map Prod.fst).Nodup)
    (ownNone : ∀ pair ∈ own, pair.1.argIndex? = none) :
    ((own ++ bindingsFrom argIndex types values).map Prod.fst).Nodup := by
  rw [List.map_append, bindingsFrom,
    List.map_fst_zip (by rw [length_namesFrom noChain, lengths]), List.nodup_append']
  refine ⟨ownDistinct, Convention.nodup_namesFrom plainConvention_valid noChain, ?_⟩
  intro name ownMem parameterMem
  rcases Convention.namesFrom_owner plainConvention_valid noChain name parameterMem with
    ⟨owner, ownerEq, -⟩
  rcases List.mem_map.mp ownMem with ⟨pair, pairMem, rfl⟩
  rw [ownNone pair pairMem] at ownerEq
  contradiction

/-- Arguments that are passed on keep their values. -/
theorem eval_names {bindings : Bindings α} {argIndex : Int} {values : List (Passed α)}
    (lengths : values.length = types.length) (distinct : (bindings.map Prod.fst).Nodup)
    (subset : bindingsFrom argIndex types values ⊆ bindings) (round : Round) :
    ((indicesFrom argIndex types).map fun index => Expression.name (.arg index)).mapM
        (Expression.eval bindings round) = some values := by
  have found := map_lookup_of_subset distinct subset
  rw [bindingsFrom, List.map_fst_zip (by rw [length_namesFrom noChain, lengths]),
    List.map_snd_zip (by rw [length_namesFrom noChain, lengths]), namesFrom_eq noChain,
    List.map_map] at found
  apply mapM_eq_some_of_map
  rw [List.map_map]
  exact found

end Bindings

/-- A call goes to the overload of its types with the values that it passes. -/
theorem invoke_eq {method : Method} {bindings : Bindings α} {round : Round} {call : MethodCall}
    {passed : List (Passed α)} {target : Overload String String}
    (typed : call.typed (scopeOf method.parameters) = target.call)
    (evaluated : call.arguments.mapM (Expression.eval bindings round) = some passed) :
    method.invoke bindings round call = some ⟨target, passed⟩ := by
  rw [Method.invoke, evaluated, Option.bind_some, typed, overload?_call]
  rfl

/-! ## Reactions -/

section Reactions

variable {types : Signature} (noChain : ∀ type ∈ types, type ≠ .attributionChain)
  {arguments : List α} (lengths : arguments.length = types.length)

include noChain lengths

/-- `write_non_chained` calls `write` with a chain of one node. -/
theorem react_nonChained {method : Method}
    (written : writeJavaNonChainedMethod (.int :: .string :: types) = .ok method)
    (code : Int) (uid : BitVec 32) (tag : Option String) :
    method.react (nonChainedCall types code uid tag arguments).values =
      some (.calls [chainedCall types code [uid] [tag] arguments]) := by
  have calls := (writeJavaNonChainedMethod_overload noChain written).2
  have plain : ∀ type ∈ (.int :: .string :: types : Signature), type ≠ .attributionChain := by
    simpa using noChain
  rw [writeJavaNonChainedMethod, eachArg_nonChainedParameter plain] at written
  cases written
  let later : List (Passed α) := arguments.map .argument
  let bindings : Bindings α :=
    [(.code, .code code)] ++
      bindingsFrom 1 (.int :: .string :: types) (.uid uid :: .tag tag :: later)
  have laterLengths : later.length = types.length := by
    rw [List.length_map, lengths]
  have distinct : (bindings.map Prod.fst).Nodup := by
    apply nodup_bindings plain
    · simp [laterLengths]
    · simp
    · simp [Variable.argIndex?]
  have subset : bindingsFrom 3 types later ⊆ bindings := by
    intro pair member
    exact List.mem_cons_of_mem _ (List.mem_cons_of_mem _ (List.mem_cons_of_mem _ member))
  have chain : [Expression.name .code, .arrayOf "int" (.arg 1),
      .arrayOf "java.lang.String" (.arg 2)].mapM (Expression.eval bindings .outside) =
        some [.code code, .uids [uid], .tags [tag]] := rfl
  have evaluated := mapM_append_eq_some chain
    (eval_names noChain laterLengths distinct subset .outside)
  rw [← map_nonChainedArgument (by omega)] at evaluated
  have zipped : ((⟨"int", .code⟩ :: javaSignatureParameters attributionDecl 1
      (.int :: .string :: types)).map Parameter.name).zip
        (nonChainedCall types code uid tag arguments).values = bindings := by
    rw [List.map_cons, javaSignatureParameters_names]
    rfl
  have passes : (Expression.name .code ::
      (argIndices (.int :: .string :: types)).map nonChainedArgument).mapM
        (Expression.eval bindings .outside) =
          some (chainedCall types code [uid] [tag] arguments).values := by
    rw [argIndices_eq]
    exact evaluated
  rw [Method.react]
  dsimp only
  rw [zipped, invoke_eq (List.cons.inj calls).1 passes]
  rfl

omit noChain lengths in
theorem mapM_invoke_eq {β : Type} {items : List β} {invoked : β → Option (PassedCall α)}
    {result : β → PassedCall α} (each : ∀ item, invoked item = some (result item)) :
    items.mapM invoked = some (items.map result) := by
  apply mapM_eq_some_of_map
  rw [List.map_map]
  exact List.map_congr_left fun item _ => each item

omit lengths in
/-- The chain stands between the code and the arguments after it. -/
theorem workSourceArguments_eq (chain : List Expression) :
    workSourceArguments (.attributionChain :: types) 1 chain =
      [.name .code] ++ chain ++ (indicesFrom 2 types).map fun index => .name (.arg index) := by
  rw [workSourceArguments, argIndices_eq, indicesFrom, List.flatMap_cons, if_pos rfl,
    flatMap_workSourceArgument noChain (by omega), List.append_assoc]
  rfl

omit lengths in
/-- The work source takes the place of the chain. -/
theorem map_workSourceParameter :
    ((argIndices (.attributionChain :: types)).zip (.attributionChain :: types)).map
        (fun arg => workSourceParameter arg.1 arg.2) =
      ⟨"android.os.WorkSource", .workSource⟩ ::
        javaSignatureParameters attributionDecl 2 types := by
  rw [argIndices_eq, indicesFrom, List.zip_cons_cons, List.map_cons,
    workSourceParameters_eq noChain]
  rfl

/-- A method for work sources calls `write_non_chained` for the flat uids, then `write` for
the work chains. -/
theorem react_workSource {methods : List Method}
    (written : writeJavaWorkSourceMethod (.attributionChain :: types) = .ok methods)
    (code : Int) (workSource : WorkSource) :
    ∀ method ∈ methods, method.react (workSourceCall types code workSource arguments).values =
      some (.calls
        ((workSource.flatUids.map fun node =>
            nonChainedCall types code node.1 node.2 arguments) ++
          (workSource.workChains.getD []).map fun chain =>
            chainedCall types code chain.1 chain.2 arguments)) := by
  have calls := writeJavaWorkSourceMethod_calls noChain written
  rw [writeJavaWorkSourceMethod, findAttributionArg, if_pos rfl, if_neg (by decide),
    findAttributionArg_of_noChain noChain] at written
  cases written
  intro method member
  have called := calls method member
  dsimp only at member
  rw [if_neg (by decide), List.mem_singleton] at member
  subst member
  let later : List (Passed α) := arguments.map .argument
  let bindings : Bindings α :=
    [(.code, .code code), (.workSource, .workSource workSource)] ++ bindingsFrom 2 types later
  have laterLengths : later.length = types.length := by
    rw [List.length_map, lengths]
  have distinct : (bindings.map Prod.fst).Nodup := by
    apply nodup_bindings noChain 2 later laterLengths
    · simp
    · simp [Variable.argIndex?]
  have passes (round : Round) {chain : List Expression} (values : List (Passed α))
      (evaluated : chain.mapM (Expression.eval bindings round) = some values) :
      (workSourceArguments (.attributionChain :: types) 1 chain).mapM
        (Expression.eval bindings round) = some ([.code code] ++ values ++ later) := by
    have first : [Expression.name .code].mapM (Expression.eval bindings round) =
        some [.code code] := rfl
    rw [workSourceArguments_eq noChain]
    exact mapM_append_eq_some (mapM_append_eq_some first evaluated)
      (eval_names noChain laterLengths distinct (List.subset_append_right _ _) round)
  have zipped : ((⟨"int", .code⟩ :: ((argIndices (.attributionChain :: types)).zip
      (.attributionChain :: types)).map fun arg =>
        workSourceParameter arg.1 arg.2).map Parameter.name).zip
          (workSourceCall types code workSource arguments).values = bindings := by
    rw [map_workSourceParameter noChain, List.map_cons, List.map_cons,
      javaSignatureParameters_names]
    rfl
  rcases List.cons.inj called with ⟨flatTyped, others⟩
  have chainTyped := (List.cons.inj others).1
  have flat (node : BitVec 32 × Option String) := invoke_eq flatTyped
    (passes (.flatUid node.1 node.2) [.uid node.1, .tag node.2] rfl)
  have chained (chain : List (BitVec 32) × List (Option String)) := invoke_eq chainTyped
    (passes (.workChain chain.1 chain.2) [.uids chain.1, .tags chain.2] rfl)
  have found : bindings.lookup .workSource = some (.workSource workSource) := rfl
  rw [Method.react]
  dsimp only
  rw [zipped, found]
  dsimp only
  rw [mapM_invoke_eq flat, Option.bind_some, mapM_invoke_eq chained]
  rfl

end Reactions

end Execution

/-! ## Overloads -/

theorem mem_javaTypesOf_ne {type : JavaType} {name : String} (member : name ∈ javaTypesOf type) :
    name ≠ "android.os.WorkSource" := by
  rintro rfl
  revert member
  cases type <;> decide

/-- A signature has the parameter types of a method for work sources only by its chain. -/
theorem javaParameterTypes_ne_workSourceTypes (signature types : Signature) :
    javaParameterTypes signature ≠ workSourceTypes types := by
  intro same
  rw [javaParameterTypes_eq, workSourceTypes, List.cons.injEq] at same
  have member : "android.os.WorkSource" ∈ signature.flatMap javaTypesOf := by
    rw [same.2]
    exact List.mem_cons_self
  rcases List.mem_flatMap.mp member with ⟨type, -, typeMem⟩
  exact mem_javaTypesOf_ne typeMem rfl

theorem writeJavaPulledMethod_name {constants : AnnotationIdConstants} {minApiLevel : Int}
    {entry : Signature × FieldNumberToAtomDeclSet} {method : Method}
    (written : writeJavaPulledMethod constants attributionDecl minApiLevel entry =
      .ok method) : method.name = "buildStatsEvent" := by
  rcases bind_eq_ok_iff.mp written with ⟨parameters, -, rest⟩
  rcases map_eq_ok_iff.mp rest with ⟨code, -, rfl⟩
  rfl

theorem react_pushed {α : Type} {constants : AnnotationIdConstants} {minApiLevel : Int}
    {entry : Signature × FieldNumberToAtomDeclSet} {method : Method}
    (written : writeJavaPushedMethod constants attributionDecl minApiLevel entry = .ok method)
    (values : List (Passed α)) : method.react values = some .acts := by
  rcases bind_eq_ok_iff.mp written with ⟨code, -, rest⟩
  dsimp only at rest
  split at rest
  · rcases map_eq_ok_iff.mp rest with ⟨arguments, -, rfl⟩
    rfl
  · cases rest
    rfl

section Same

variable {types others : Signature} (noChain : ∀ type ∈ types, type ≠ .attributionChain)

include noChain

/-- A method for work sources has the parameter types of its signature. -/
theorem writeJavaWorkSourceMethod_overload {methods : List Method}
    (written : writeJavaWorkSourceMethod (.attributionChain :: types) = .ok methods) :
    methods.map Method.overload = [⟨"write", workSourceTypes types⟩] := by
  rw [writeJavaWorkSourceMethod, findAttributionArg, if_pos rfl, if_neg (by decide),
    findAttributionArg_of_noChain noChain] at written
  cases written
  dsimp only
  rw [if_neg (by decide), map_workSourceParameter noChain, workSourceTypes,
    ← javaSignatureParameters_typeName 2]
  rfl

theorem length_flatMap_javaTypesOf : (types.flatMap javaTypesOf).length = types.length := by
  induction types with
  | nil => rfl
  | cons type rest ih =>
      have later := ih fun other member => noChain other (List.mem_cons_of_mem type member)
      have single : (javaTypesOf type).length = 1 := by
        cases type with
        | attributionChain => exact absurd rfl (noChain _ List.mem_cons_self)
        | _ => rfl
      rw [List.flatMap_cons, List.length_append, single, later, List.length_cons, Nat.add_comm]

omit noChain in
/-- Signatures with the same Java types get the same calls. -/
theorem chainedCall_congr {α : Type} (same : types.flatMap javaTypesOf = others.flatMap javaTypesOf)
    (code : Int) (uids : List (BitVec 32)) (tags : List (Option String)) (arguments : List α) :
    chainedCall types code uids tags arguments = chainedCall others code uids tags arguments := by
  rw [chainedCall, chainedCall, javaParameterTypes_eq, javaParameterTypes_eq, List.flatMap_cons,
    List.flatMap_cons, same]

omit noChain in
theorem nonChainedCall_congr {α : Type}
    (same : types.flatMap javaTypesOf = others.flatMap javaTypesOf) (code : Int) (uid : BitVec 32)
    (tag : Option String) (arguments : List α) :
    nonChainedCall types code uid tag arguments = nonChainedCall others code uid tag arguments := by
  have parameters (signature : Signature) : javaParameterTypes (.int :: .string :: signature) =
      "int" :: "int" :: "java.lang.String" :: signature.flatMap javaTypesOf :=
    javaParameterTypes_eq _
  rw [nonChainedCall, nonChainedCall, parameters, parameters, same]

end Same

/-- A method for work sources comes from a signature with a chain. -/
theorem exists_chain_of_workSource {signature : Signature} (accepted : AcceptedSignature signature)
    {methods : List Method} (written : writeJavaWorkSourceMethod signature = .ok methods)
    {method : Method} (member : method ∈ methods) :
    ∃ rest : Signature, (∀ type ∈ rest, type ≠ .attributionChain) ∧
      signature = .attributionChain :: rest := by
  rcases accepted with ⟨rest, areArguments, isPlain | isChained⟩
  all_goals
    have noChain : ∀ type ∈ rest, type ≠ .attributionChain := by
      rintro type typeMem rfl
      exact areArguments _ typeMem
  · rw [isPlain, writeJavaWorkSourceMethod_of_noChain noChain] at written
    cases written
    contradiction
  · exact ⟨rest, noChain, isChained⟩

/-- Which generator a method of the class comes from, with its overload. -/
inductive Origin (constants : AnnotationIdConstants) (minApiLevel : Int) (method : Method) :
    Prop where
  | pushed (entry : Signature × FieldNumberToAtomDeclSet)
      (written : writeJavaPushedMethod constants attributionDecl minApiLevel entry = .ok method)
      (overload : method.overload = ⟨"write", javaParameterTypes entry.1⟩)
  | nonChained (rest : Signature) (noChain : ∀ type ∈ rest, type ≠ .attributionChain)
      (written : writeJavaNonChainedMethod (.int :: .string :: rest) = .ok method)
      (overload : method.overload =
        ⟨"write_non_chained", javaParameterTypes (.int :: .string :: rest)⟩)
  | pulled (name : method.name = "buildStatsEvent")
  | workSource (rest : Signature) (noChain : ∀ type ∈ rest, type ≠ .attributionChain)
      (methods : List Method)
      (written : writeJavaWorkSourceMethod (.attributionChain :: rest) = .ok methods)
      (member : method ∈ methods) (overload : method.overload = ⟨"write", workSourceTypes rest⟩)

/-! ## Delivery -/

section Delivery

variable {α : Type} {constants : AnnotationIdConstants} {atoms : Atoms} {minApiLevel : Int}
  {supportWorkSource : Bool}
  (maps : ∀ signature ∈ atoms.signatureInfoMap, AcceptedSignature signature)
  (keys : ∀ key ∈ atoms.nonChainedSignatureInfoMap, ∃ rest : Signature,
    (∀ type ∈ rest, type ≠ .attributionChain) ∧ key = .int :: .string :: rest)
  (noErrors : (writeStatsLogJava constants atoms attributionDecl minApiLevel
    supportWorkSource).errors = 0)

include maps keys noErrors

theorem origin {method : Method}
    (member : method ∈ (writeStatsLogJava constants atoms attributionDecl minApiLevel
      supportWorkSource).methods) : Origin constants minApiLevel method := by
  rcases (mem_methods_iff noErrors).mp member with
    ⟨entry, entryMem, written⟩ | ⟨entry, entryMem, written⟩ | ⟨entry, -, written⟩ |
      ⟨-, entry, entryMem, methods, written, methodMem⟩
  · have accepted := maps entry.1 (mem_of_mem_toList entryMem)
    exact .pushed entry written (writeJavaPushedMethod_overload accepted written).1
  · rcases keys entry.1 (mem_of_mem_toList entryMem) with ⟨rest, noChain, isKey⟩
    rw [isKey] at written
    exact .nonChained rest noChain written (writeJavaNonChainedMethod_overload noChain written).1
  · exact .pulled (writeJavaPulledMethod_name written)
  · rcases exists_chain_of_workSource (maps entry.1 (mem_of_mem_toList entryMem)) written
      methodMem with ⟨rest, noChain, isChained⟩
    rw [isChained] at written
    have overload : method.overload ∈ methods.map Method.overload := List.mem_map_of_mem methodMem
    rw [writeJavaWorkSourceMethod_overload noChain written, List.mem_singleton] at overload
    exact .workSource rest noChain methods written methodMem overload

/-- A `write` without a work source acts itself. -/
theorem react_of_write {signature : Signature} {method : Method}
    (member : method ∈ (writeStatsLogJava constants atoms attributionDecl minApiLevel
      supportWorkSource).methods)
    (isOverload : method.overload = ⟨"write", javaParameterTypes signature⟩)
    (values : List (Passed α)) : method.react values = some .acts := by
  have name : method.name = "write" := congrArg Overload.name isOverload
  cases origin maps keys noErrors member with
  | pushed entry written overload => exact react_pushed written values
  | nonChained rest noChain written overload =>
      rw [isOverload] at overload
      have other : "write" = "write_non_chained" := congrArg Overload.name overload
      contradiction
  | pulled other =>
      rw [name] at other
      contradiction
  | workSource rest noChain methods written methodMem overload =>
      rw [isOverload] at overload
      exact absurd (congrArg Overload.types overload)
        (javaParameterTypes_ne_workSourceTypes signature rest)

section Types

variable {types : Signature} (noChain : ∀ type ∈ types, type ≠ .attributionChain)
  {arguments : List α} (lengths : arguments.length = types.length)

include noChain lengths

/-- Every method with the overload of a wrapper makes its call. -/
theorem react_of_nonChained {method : Method}
    (member : method ∈ (writeStatsLogJava constants atoms attributionDecl minApiLevel
      supportWorkSource).methods)
    (code : Int) (uid : BitVec 32) (tag : Option String)
    (isTarget : method.overload = (nonChainedCall types code uid tag arguments).target) :
    method.react (nonChainedCall types code uid tag arguments).values =
      some (.calls [chainedCall types code [uid] [tag] arguments]) := by
  have name : method.name = "write_non_chained" := congrArg Overload.name isTarget
  cases origin maps keys noErrors member with
  | pushed entry written overload =>
      rw [isTarget] at overload
      have other : "write_non_chained" = "write" := congrArg Overload.name overload
      contradiction
  | nonChained rest restNoChain written overload =>
      have sameTypes : javaParameterTypes (.int :: .string :: rest) =
          javaParameterTypes (.int :: .string :: types) :=
        congrArg Overload.types (overload.symm.trans isTarget)
      have same : rest.flatMap javaTypesOf = types.flatMap javaTypesOf := by
        rw [javaParameterTypes_eq, javaParameterTypes_eq] at sameTypes
        exact (List.cons.inj (List.cons.inj (List.cons.inj sameTypes).2).2).2
      have restLengths : arguments.length = rest.length := by
        rw [lengths, ← length_flatMap_javaTypesOf noChain, ← same,
          length_flatMap_javaTypesOf restNoChain]
      rw [← chainedCall_congr same, ← nonChainedCall_congr same]
      exact react_nonChained restNoChain restLengths written code uid tag
  | pulled other =>
      rw [name] at other
      contradiction
  | workSource rest restNoChain methods written methodMem overload =>
      rw [isTarget] at overload
      have other : "write_non_chained" = "write" := congrArg Overload.name overload
      contradiction

/-- Every method with the overload of a method for work sources makes its calls. -/
theorem react_of_workSource {method : Method}
    (member : method ∈ (writeStatsLogJava constants atoms attributionDecl minApiLevel
      supportWorkSource).methods)
    (code : Int) (workSource : WorkSource)
    (isTarget : method.overload = (workSourceCall types code workSource arguments).target) :
    method.react (workSourceCall types code workSource arguments).values =
      some (.calls
        ((workSource.flatUids.map fun node =>
            nonChainedCall types code node.1 node.2 arguments) ++
          (workSource.workChains.getD []).map fun chain =>
            chainedCall types code chain.1 chain.2 arguments)) := by
  have name : method.name = "write" := congrArg Overload.name isTarget
  cases origin maps keys noErrors member with
  | pushed entry written overload =>
      exact absurd (congrArg Overload.types (overload.symm.trans isTarget))
        (javaParameterTypes_ne_workSourceTypes entry.1 types)
  | nonChained rest restNoChain written overload =>
      rw [isTarget] at overload
      have other : "write" = "write_non_chained" := congrArg Overload.name overload
      contradiction
  | pulled other =>
      rw [name] at other
      contradiction
  | workSource rest restNoChain methods written methodMem overload =>
      have same : rest.flatMap javaTypesOf = types.flatMap javaTypesOf := by
        have sameTypes := congrArg Overload.types (overload.symm.trans isTarget)
        exact (List.cons.inj (List.cons.inj sameTypes).2).2
      have restLengths : arguments.length = rest.length := by
        rw [lengths, ← length_flatMap_javaTypesOf noChain, ← same,
          length_flatMap_javaTypesOf restNoChain]
      have reaction := react_workSource restNoChain restLengths written code workSource method
        methodMem
      simp only [nonChainedCall_congr same, chainedCall_congr same] at reaction
      exact reaction

end Types

section Chained

variable {types : Signature} (noChain : ∀ type ∈ types, type ≠ .attributionChain)
  (chained : .attributionChain :: types ∈ atoms.signatureInfoMap)

include chained

/-- A call of `write` with a chain is delivered where it goes. -/
theorem deliver_chained (fuel : Nat) (code : Int) (uids : List (BitVec 32))
    (tags : List (Option String)) (arguments : List α) :
    deliver (linkage α) (writeStatsLogJava constants atoms attributionDecl minApiLevel
        supportWorkSource).methods (fuel + 1) (chainedCall types code uids tags arguments) =
      some [chainedCall types code uids tags arguments] := by
  apply deliver_acts
  · rcases exists_pushedMethod noErrors chained with ⟨entry, isEntry, method, member, written⟩
    have overload := (writeJavaPushedMethod_overload
      (isEntry ▸ maps _ chained) written).1
    rw [isEntry] at overload
    exact List.mem_map.mpr ⟨method, member, overload⟩
  · intro method member isTarget
    exact react_of_write maps keys noErrors member isTarget _

variable (flattened : ∃ key ∈ atoms.nonChainedSignatureInfoMap,
    javaParameterTypes key = javaParameterTypes (.int :: .string :: types))
  {arguments : List α} (lengths : arguments.length = types.length)

include noChain flattened lengths

/-- A call of `write_non_chained` leads to one call of `write`. -/
theorem deliver_nonChained (fuel : Nat) (code : Int) (uid : BitVec 32) (tag : Option String) :
    deliver (linkage α) (writeStatsLogJava constants atoms attributionDecl minApiLevel
        supportWorkSource).methods (fuel + 2) (nonChainedCall types code uid tag arguments) =
      some [chainedCall types code [uid] [tag] arguments] := by
  have delivered : [chainedCall types code [uid] [tag] arguments].mapM
      (deliver (linkage α) (writeStatsLogJava constants atoms attributionDecl minApiLevel
        supportWorkSource).methods (fuel + 1)) =
      some [[chainedCall types code [uid] [tag] arguments]] := by
    rw [List.mapM_cons, deliver_chained maps keys noErrors chained]
    rfl
  apply deliver_calls _ _ delivered
  · rcases flattened with ⟨key, keyMem, sameTypes⟩
    rcases exists_nonChainedMethod noErrors keyMem with ⟨method, member, written⟩
    rcases keys key keyMem with ⟨rest, restNoChain, isKey⟩
    rw [isKey] at written
    have overload := (writeJavaNonChainedMethod_overload restNoChain written).1
    rw [← isKey, sameTypes] at overload
    exact List.mem_map.mpr ⟨method, member, overload⟩
  · intro method member isTarget
    exact react_of_nonChained maps keys noErrors noChain lengths member code uid tag isTarget

/-- A call of `write` with a work source leads to one call of `write` for every flat uid,
then to one for every work chain. -/
theorem deliver_workSource (supported : supportWorkSource = true) (fuel : Nat) (code : Int)
    (workSource : WorkSource) :
    deliver (linkage α) (writeStatsLogJava constants atoms attributionDecl minApiLevel
        supportWorkSource).methods (fuel + 3) (workSourceCall types code workSource arguments) =
      some
        ((workSource.flatUids.map fun node =>
            chainedCall types code [node.1] [node.2] arguments) ++
          (workSource.workChains.getD []).map fun chain =>
            chainedCall types code chain.1 chain.2 arguments) := by
  let methods := (writeStatsLogJava constants atoms attributionDecl minApiLevel
    supportWorkSource).methods
  have flat : (workSource.flatUids.map fun node =>
      nonChainedCall types code node.1 node.2 arguments).mapM
        (deliver (linkage α) methods (fuel + 2)) =
      some (workSource.flatUids.map fun node =>
        [chainedCall types code [node.1] [node.2] arguments]) := by
    apply mapM_map_eq_some
    intro node _
    exact deliver_nonChained maps keys noErrors noChain chained flattened lengths fuel code _ _
  have chains : ((workSource.workChains.getD []).map fun chain =>
      chainedCall types code chain.1 chain.2 arguments).mapM
        (deliver (linkage α) methods (fuel + 2)) =
      some ((workSource.workChains.getD []).map fun chain =>
        [chainedCall types code chain.1 chain.2 arguments]) := by
    apply mapM_map_eq_some
    intro chain _
    exact deliver_chained maps keys noErrors chained (fuel + 1) code _ _ arguments
  have present : (workSourceCall types code workSource arguments).target ∈
      methods.map Method.overload := by
    rcases exists_workSourceMethods noErrors supported chained with ⟨others, written, subset⟩
    have overloads := writeJavaWorkSourceMethod_overload noChain written
    apply List.map_subset Method.overload subset
    rw [overloads]
    exact List.mem_singleton_self _
  rw [deliver_calls present (fun method member isTarget =>
      react_of_workSource maps keys noErrors noChain lengths member code workSource isTarget)
    (mapM_append_eq_some flat chains), List.flatten_append]
  rw [← List.flatMap_def, ← List.flatMap_def, ← List.map_eq_flatMap, ← List.map_eq_flatMap]

end Chained

end Delivery

end StatsLogApiGen.Java
