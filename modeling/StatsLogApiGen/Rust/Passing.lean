import StatsLogApiGen.Program.Delivery
import StatsLogApiGen.Rust.Linking

/-!
# What Rust functions pass on

The method of the structure of an atom passes on the values of the fields, and a non-chained
function passes on a slice with the uid and a slice with the tag.  This file follows such a
call to the function that logs the atom.
-/

namespace StatsLogApiGen.Rust

open StatsLogApiGen.Container
open StatsLogApiGen.Collation
open StatsLogApiGen.Program
open StatsLogApiGen.Writer

/-! ## Values -/

/-- A reference to an array with one element. -/
def sliceOf : Value → Option Value
  | .argument (.int value) => some (.argument (.intArray [value]))
  | .argument (.string value) => some (.argument (.stringArray [value]))
  | _ => none

/-- The value of what is passed, where its variable has a value. -/
def Expression.valueIn (scope fields : List (Name × Value)) : Expression → Option Value
  | .name passed => scope.lookup passed
  | .slice element => (scope.lookup element).bind sliceOf
  | .selfField field => fields.lookup field
  | .empty => none

/-- Parameters or fields as variables with their values. -/
def valuesOf (parameters : List Parameter) (values : List Value) : List (Name × Value) :=
  (parameters.map Parameter.name).zip values

section Calls

variable (fields : List Parameter) (self : List Value)

/-- The call that a function with some parameters makes, or a method of a structure with
some fields. -/
def FunctionCall.invoke (call : FunctionCall) (parameters : List Parameter)
    (values : List Value) : Option (Invocation String RustType Value) :=
  let types := call.arguments.map fun argument =>
    argument.typeIn (scopeOf parameters) (scopeOf fields)
  (call.arguments.mapM fun (argument : Expression) =>
      argument.valueIn (valuesOf parameters values) (valuesOf fields self)).bind fun passed =>
    (Call.overload? ⟨call.name, types⟩).map fun target => ⟨target, passed⟩

/-- A function forwards its call or acts itself. -/
def Function.react (function : Function) (values : List Value) :
    Option (Reaction String RustType Value) :=
  match function.body with
  | .forward call =>
      (call.invoke fields self function.parameters values).map fun other => .calls [other]
  | _ => some .acts

end Calls

/-- How the functions of a module call each other. -/
def linkage : Linkage Function String RustType Value where
  overload := Function.overload
  react := Function.react [] []

/-- Follow a call of the method of the structure, whose fields have values. -/
def Module.callMethod (module : Module) (fuel : Nat) (self values : List Value) :
    Option (List (Invocation String RustType Value)) :=
  match module.struct.method.body with
  | .forward call =>
      (call.invoke module.struct.fields self module.struct.method.parameters values).bind
        (deliver linkage module.functions fuel)
  | _ => none

/-- The list of events that is passed for a pulled atom. -/
def pulledValues (atomType : AtomType) : List Value :=
  if atomType = .pulled then [.eventList] else []

section Values

variable {parameters fields : List Parameter} {self values passed : List Value}
  {overload : Overload String RustType}

/-- Variables with distinct names have their values. -/
theorem map_lookup_valuesOf (distinct : (parameters.map Parameter.name).Nodup)
    (lengths : parameters.length = values.length) :
    parameters.map (fun parameter => (valuesOf parameters values).lookup parameter.name) =
      values.map some := by
  have names : (valuesOf parameters values).map Prod.fst = parameters.map Parameter.name := by
    apply List.map_fst_zip
    rw [List.length_map, lengths]
  have bound : (valuesOf parameters values).map Prod.snd = values := by
    apply List.map_snd_zip
    rw [List.length_map, lengths]
  have found := map_lookup_of_subset (names ▸ distinct)
    (List.Subset.refl (valuesOf parameters values))
  rw [names, bound, List.map_map] at found
  exact found

/-- A call that resolves to an overload passes the values of its arguments to it. -/
theorem FunctionCall.invoke_eq {call : FunctionCall}
    (types : (⟨call.name, call.arguments.map fun argument =>
      argument.typeIn (scopeOf parameters) (scopeOf fields)⟩ : Call String RustType) =
        overload.call)
    (valued : call.arguments.map (fun argument =>
      argument.valueIn (valuesOf parameters values) (valuesOf fields self)) =
        passed.map some) :
    call.invoke fields self parameters values = some ⟨overload, passed⟩ := by
  rw [FunctionCall.invoke, mapM_eq_some_of_map valued, Option.bind_some, types, overload?_call]
  rfl

end Values

/-! ## The method of the structure -/

section Struct

variable {decl : AtomDecl} {arguments : List Argument}

/-- The structure has a field for every value of an argument. -/
theorem length_structFields (typed : arguments.map Argument.type = decl.signature) :
    (structFieldsFrom attributionDecl 1 decl.fields).length =
      (arguments.flatMap plainValues).length := by
  have reads : (structFieldsFrom attributionDecl 1 decl.fields).map (fun field =>
      field.name.reads) = plainConvention.namesFrom 1 (arguments.map Argument.type) := by
    have names := congrArg (List.map Name.reads) (structFieldsFrom_name 1 decl.fields)
    rw [List.map_map, List.map_map] at names
    rw [typed]
    exact names.trans (signatureParameters_reads false 1 decl.fields)
  have lengths := congrArg List.length reads
  rw [List.length_map, Convention.length_namesFrom plainConvention_valid] at lengths
  exact lengths

/-- The method of the structure passes the values of the fields to the function of the
atom. -/
theorem callMethod_eq (accepted : AcceptedSignature decl.signature)
    (typed : arguments.map Argument.type = decl.signature) {module : Module}
    (isStruct : module.struct = writeRustStruct attributionDecl decl) (fuel : Nat) :
    module.callMethod fuel (arguments.flatMap plainValues) (pulledValues decl.atomType) =
      deliver linkage module.functions fuel
        ⟨statsWriteOverload decl,
          pulledValues decl.atomType ++ arguments.flatMap plainValues⟩ := by
  let fields := structFieldsFrom attributionDecl 1 decl.fields
  have distinct : (fields.map Parameter.name).Nodup := by
    have names := nodup_structFields accepted
    rw [scopeOf, List.map_map] at names
    exact names
  have found := map_lookup_valuesOf distinct (length_structFields typed)
  have values (scope : List (Name × Value)) :
      (fields.map fun field => Expression.selfField field.name).map (fun argument =>
        argument.valueIn scope (valuesOf fields (arguments.flatMap plainValues))) =
      (arguments.flatMap plainValues).map some := by
    rw [List.map_map]
    exact found
  have calls := writeRustStruct_calls accepted
  rw [Module.callMethod, isStruct]
  cases kind : decl.atomType with
  | pushed =>
      rw [writeRustStruct, kind, Function.calls, List.singleton_inj] at calls
      rw [writeRustStruct, kind]
      dsimp only
      rw [FunctionCall.invoke_eq calls (values _), Option.bind_some]
      rfl
  | pulled =>
      rw [writeRustStruct, kind, Function.calls, List.singleton_inj] at calls
      let pulledData : Name := ⟨"pulled_data", .pulledData⟩
      have passed := congrArg (List.cons (some Value.eventList)) (values
        [(pulledData, .eventList)])
      have invoked := @FunctionCall.invoke_eq
        [⟨.named "&mut AStatsEventList", pulledData⟩] fields (arguments.flatMap plainValues)
        [.eventList] (.eventList :: arguments.flatMap plainValues) _ _ calls passed
      rw [writeRustStruct, kind]
      dsimp only [pulledValues]
      rw [if_pos rfl, invoked, Option.bind_some]
      rfl

end Struct

/-! ## The non-chained function -/

section NonChained

variable {flattened : List AtomField} {decl : AtomDecl} {later : List Argument}
  (noChain : ∀ atomField ∈ flattened, atomField.javaType ≠ .attributionChain)
  (fields : decl.fields = attributionDecl.fields ++ flattened)
  (isPushed : decl.atomType = .pushed)
  (typed : later.map Argument.type = flattened.map fun field => lowered field.javaType)

include fields isPushed in
/-- The parameters are the uid, the tag and those of the fields after the node. -/
theorem nonChained_parameters :
    (writeRustStatsWriteNonChainedMethod attributionDecl decl).parameters =
      ⟨.named "i32", ⟨"uid_non_chained_", .arg 1⟩⟩ ::
        ⟨.str false, ⟨"tag_non_chained_", .arg 2⟩⟩ ::
          signatureParameters attributionDecl true 3 flattened := by
  rw [writeRustStatsWriteNonChainedMethod, writeRustMethodSignature, isPushed, fields,
    attributionDecl_fields]
  rfl

include noChain fields in
theorem nonChained_arguments :
    nonChainedArgumentsFrom attributionDecl 1 decl.fields =
      .slice ⟨"uid_non_chained_", .arg 1⟩ :: .slice ⟨"tag_non_chained_", .arg 2⟩ ::
        (signatureParameters attributionDecl true 3 flattened).map fun parameter =>
          .name parameter.name := by
  rw [← nonChainedArgumentsFrom_eq noChain (by omega), fields, attributionDecl_fields]
  rfl

/-- The values that a non-chained function gets. -/
def nonChainedValues (uid : BitVec 32) (tag : String) (later : List Argument) : List Value :=
  .argument (.int uid) :: .argument (.string tag) :: later.flatMap plainValues

/-- What a non-chained function calls. -/
def chainedOverload (flattened : List AtomField) : Overload String RustType :=
  ⟨"stats_write", .slice false (.named "i32") :: .slice false (.str false) ::
    flattened.flatMap fieldTypes⟩

include noChain fields isPushed typed

/-- A non-chained function passes on a chain of one node and the other values. -/
theorem nonChained_react (uid : BitVec 32) (tag : String) :
    (writeRustStatsWriteNonChainedMethod attributionDecl decl).react [] []
        (nonChainedValues uid tag later) =
      some (.calls [⟨chainedOverload flattened,
        (.attributionChain [uid] [tag] :: later).flatMap plainValues⟩]) := by
  let function := writeRustStatsWriteNonChainedMethod attributionDecl decl
  let parameters := signatureParameters attributionDecl true 3 flattened
  have isParameters := nonChained_parameters fields isPushed
  have distinct : (function.parameters.map Parameter.name).Nodup := by
    have names := nodup_nonChainedScope noChain decl fields
    rw [scopeOf, List.map_map] at names
    exact names
  have lengths : function.parameters.length = (nonChainedValues uid tag later).length := by
    have reads := congrArg List.length (signatureParameters_reads true 3 flattened)
    rw [List.length_map, ← typed, Convention.length_namesFrom plainConvention_valid] at reads
    rw [isParameters, nonChainedValues, List.length_cons, List.length_cons, reads]
    rfl
  have found := map_lookup_valuesOf distinct lengths
  rw [isParameters, List.map_cons, List.map_cons, nonChainedValues, List.map_cons, List.map_cons,
    ← isParameters, ← nonChainedValues, List.cons.injEq, List.cons.injEq] at found
  obtain ⟨uidFound, tagFound, laterFound⟩ := found
  let scope := valuesOf function.parameters (nonChainedValues uid tag later)
  have uidPassed : (Expression.slice ⟨"uid_non_chained_", .arg 1⟩).valueIn scope [] =
      some (.argument (.intArray [uid])) :=
    congrArg (fun value => value.bind sliceOf) uidFound
  have tagPassed : (Expression.slice ⟨"tag_non_chained_", .arg 2⟩).valueIn scope [] =
      some (.argument (.stringArray [tag])) :=
    congrArg (fun value => value.bind sliceOf) tagFound
  have passed : (nonChainedArgumentsFrom attributionDecl 1 decl.fields).map (fun argument =>
      argument.valueIn scope (valuesOf [] [])) =
      ((.attributionChain [uid] [tag] :: later).flatMap plainValues).map some := by
    rw [nonChained_arguments noChain fields, List.map_cons, List.map_cons, List.map_map,
      List.flatMap_cons, List.map_append, ← laterFound]
    exact congrArg₂ List.cons uidPassed (congrArg (fun value => value :: _) tagPassed)
  have calls := List.singleton_inj.mp (nonChained_calls noChain decl fields)
  have invoked := FunctionCall.invoke_eq calls passed
  exact congrArg (Option.map fun other => Reaction.calls [other]) invoked

/-- A call of the non-chained function of a module arrives at its `stats_write`. -/
theorem deliver_nonChained {statsWrite : Function}
    (isStatsWrite : statsWrite.overload = chainedOverload flattened)
    (acts : ∀ values, statsWrite.react [] [] values = some .acts) (fuel : Nat)
    (uid : BitVec 32) (tag : String) :
    deliver linkage [statsWrite, writeRustStatsWriteNonChainedMethod attributionDecl decl]
        (fuel + 2) ⟨(writeRustStatsWriteNonChainedMethod attributionDecl decl).overload,
          nonChainedValues uid tag later⟩ =
      some [⟨chainedOverload flattened,
        (.attributionChain [uid] [tag] :: later).flatMap plainValues⟩] := by
  let nonChained := writeRustStatsWriteNonChainedMethod attributionDecl decl
  have apart : statsWrite.overload ≠ nonChained.overload := by
    rw [isStatsWrite]
    intro same
    have names : "stats_write" = "stats_write_non_chained" := congrArg Overload.name same
    exact absurd names (by decide)
  have arrives : deliver linkage [statsWrite, nonChained] (fuel + 1)
      ⟨chainedOverload flattened, (.attributionChain [uid] [tag] :: later).flatMap plainValues⟩ =
        some [⟨chainedOverload flattened,
          (.attributionChain [uid] [tag] :: later).flatMap plainValues⟩] := by
    apply deliver_acts
    · exact List.mem_map.mpr ⟨statsWrite, List.mem_cons_self, isStatsWrite⟩
    · intro function member isTarget
      rcases List.mem_pair.mp member with rfl | rfl
      · exact acts _
      · exact absurd (isStatsWrite.trans isTarget.symm) apart
  have followed := @deliver_calls _ _ _ _ _ _ linkage [statsWrite, nonChained]
    ⟨nonChained.overload, nonChainedValues uid tag later⟩ (fuel + 1) _ _
    (List.mem_map_of_mem (List.mem_cons_of_mem _ List.mem_cons_self))
    (by
      intro function member isTarget
      rcases List.mem_pair.mp member with rfl | rfl
      · exact absurd isTarget apart
      · exact nonChained_react noChain fields isPushed typed uid tag)
    ((List.mapM_cons).trans (by rw [arrives]; rfl))
  exact followed

end NonChained

end StatsLogApiGen.Rust
