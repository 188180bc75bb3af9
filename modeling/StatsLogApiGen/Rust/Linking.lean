import StatsLogApiGen.Program.Linking
import StatsLogApiGen.Rust.Run
import StatsLogApiGen.Writer.NonChained

/-!
# Calls between Rust functions

In the module of an atom the method of its structure calls the function that logs
the atom, and a non-chained function calls `stats_write`.
-/

namespace StatsLogApiGen.Rust

open Std
open StatsLogApiGen.Container
open StatsLogApiGen.Proto
open StatsLogApiGen.Collation
open StatsLogApiGen.Program
open StatsLogApiGen.Writer

/-! ## Functions and calls -/

/-- A reference is passed for one with any lifetime. -/
def RustType.eraseLifetime : RustType → RustType
  | .named name => .named name
  | .str _ => .str false
  | .bytes _ => .bytes false
  | .slice _ element => .slice false element.eraseLifetime

/-- The type of what is passed, where its variable is in scope. -/
def Expression.typeIn (scope fields : List (Name × RustType)) : Expression → Option RustType
  | .name passed => scope.lookup passed
  | .slice element => (scope.lookup element).map (RustType.slice false)
  | .selfField field => (fields.lookup field).map RustType.eraseLifetime
  | .empty => none

def Function.overload (function : Function) : Overload String RustType :=
  ⟨function.name, function.parameters.map Parameter.type⟩

/-- Parameters or fields as variables with their types. -/
def scopeOf (parameters : List Parameter) : List (Name × RustType) :=
  parameters.map fun parameter => (parameter.name, parameter.type)

/-- The calls of a function of the module by a function or by a method of a structure
with the given fields. -/
def Function.calls (function : Function) (fields : List Parameter) :
    List (Call String RustType) :=
  match function.body with
  | .forward call =>
      [⟨call.name, call.arguments.map fun argument =>
        argument.typeIn (scopeOf function.parameters) (scopeOf fields)⟩]
  | _ => []

/-- Every call in a module resolves to a function of the module. -/
def Module.CallsResolve (module : Module) : Prop :=
  Linked (module.functions.map Function.overload)
    (module.struct.method.calls module.struct.fields ++
      module.functions.flatMap fun function => function.calls [])

instance (module : Module) : Decidable module.CallsResolve :=
  inferInstanceAs (Decidable (Linked _ _))

/-! ## Types of parameters -/

/-- The types of the parameters for a field. -/
def fieldTypes (atomField : AtomField) : List RustType :=
  if atomField.javaType = .attributionChain then [.slice false (.named "i32"),
    .slice false (.str false)]
  else [fieldType atomField false]

theorem fieldParameters_type (isNonChained : Bool) (argIndex : Int) (atomField : AtomField) :
    (fieldParameters attributionDecl isNonChained argIndex atomField).map Parameter.type =
      fieldTypes atomField := by
  unfold fieldParameters fieldTypes
  split <;> rfl

theorem signatureParameters_type (isNonChained : Bool) (argIndex : Int)
    (fields : List AtomField) :
    (signatureParameters attributionDecl isNonChained argIndex fields).map Parameter.type =
      fields.flatMap fieldTypes := by
  induction fields generalizing argIndex with
  | nil => rfl
  | cons atomField rest ih =>
      rw [signatureParameters, List.map_append, fieldParameters_type, ih, List.flatMap_cons]

/-- The types are those of fields with the same names and types. -/
theorem flatMap_fieldTypes_congr {first second : List AtomField}
    (same : first.map fieldHeader = second.map fieldHeader) :
    first.flatMap fieldTypes = second.flatMap fieldTypes := by
  let typesOf (header : String × JavaType) : List RustType :=
    fieldTypes { name := header.1, javaType := header.2 }
  have through (fields : List AtomField) :
      fields.flatMap fieldTypes = (fields.map fieldHeader).flatMap typesOf := by
    rw [List.flatMap_map]
    rfl
  rw [through, through, same]

/-- The parameter for the list of events of a pulled atom. -/
def pulledTypes (atomType : AtomType) : List RustType :=
  if atomType = .pulled then [.named "&mut AStatsEventList"] else []

/-- The function that logs an atom, as it is seen in the module. -/
def statsWriteOverload (decl : AtomDecl) : Overload String RustType :=
  ⟨statsWriteName decl.atomType, pulledTypes decl.atomType ++ decl.fields.flatMap fieldTypes⟩

theorem writeRustMethodSignature_type (decl : AtomDecl) (isNonChained : Bool) :
    (writeRustMethodSignature attributionDecl decl isNonChained).map Parameter.type =
      pulledTypes decl.atomType ++ decl.fields.flatMap fieldTypes := by
  rw [writeRustMethodSignature, List.map_append, signatureParameters_type, pulledTypes]
  split <;> rfl

/-! ## The function of an atom -/

theorem writeRustStatsWriteMethod_overload {constants : AnnotationIdConstants}
    {minApiLevel : Int} {decl : AtomDecl} {function : Function}
    (written : writeRustStatsWriteMethod constants attributionDecl minApiLevel decl =
      .ok function) :
    function.overload = statsWriteOverload decl ∧ function.calls [] = [] := by
  obtain ⟨code, -, rfl⟩ := map_eq_ok_iff.mp written
  constructor
  · rw [Function.overload, writeRustMethodSignature_type]
    rfl
  · rw [Function.calls]
    cases decl.atomType <;> rfl

/-! ## The method of the structure -/

theorem structFieldsFrom_name (argIndex : Int) (fields : List AtomField) :
    (structFieldsFrom attributionDecl argIndex fields).map Parameter.name =
      (signatureParameters attributionDecl false argIndex fields).map Parameter.name := by
  induction fields generalizing argIndex with
  | nil => rfl
  | cons atomField rest ih =>
      rw [structFieldsFrom, signatureParameters, List.map_append, List.map_append, ih,
        structFields, fieldParameters]
      split <;> rfl

/-- The fields of the structure are passed for the parameters of the function. -/
theorem structFieldsFrom_type (argIndex : Int) (fields : List AtomField) :
    (structFieldsFrom attributionDecl argIndex fields).map (fun field =>
      field.type.eraseLifetime) = fields.flatMap fieldTypes := by
  induction fields generalizing argIndex with
  | nil => rfl
  | cons atomField rest ih =>
      have first : (structFields attributionDecl argIndex atomField).map (fun field =>
          field.type.eraseLifetime) = fieldTypes atomField := by
        rcases atomField with ⟨name, javaType, enumValues, enumTypeName⟩
        cases javaType <;> rfl
      rw [structFieldsFrom, List.map_append, ih, first, List.flatMap_cons]

/-- The variables of a declaration with an accepted signature are distinct. -/
theorem nodup_structFields {decl : AtomDecl} (accepted : AcceptedSignature decl.signature) :
    ((scopeOf (structFieldsFrom attributionDecl 1 decl.fields)).map Prod.fst).Nodup := by
  have names : (scopeOf (structFieldsFrom attributionDecl 1 decl.fields)).map Prod.fst =
      (signatureParameters attributionDecl false 1 decl.fields).map Parameter.name := by
    rw [← structFieldsFrom_name, scopeOf, List.map_map]
    rfl
  have reads : ((signatureParameters attributionDecl false 1 decl.fields).map
      Parameter.name).map Name.reads = plainConvention.namesFrom 1 decl.signature := by
    rw [List.map_map]
    exact signatureParameters_reads false 1 decl.fields
  have distinct := Convention.nodup_names plainConvention_valid accepted
  rw [List.nodup_cons, ← reads] at distinct
  rw [names]
  exact distinct.2.of_map Name.reads

/-- The method of the structure calls the function of the atom. -/
theorem writeRustStruct_calls {decl : AtomDecl} (accepted : AcceptedSignature decl.signature) :
    (writeRustStruct attributionDecl decl).method.calls
        (writeRustStruct attributionDecl decl).fields =
      [(statsWriteOverload decl).call] := by
  let fields := structFieldsFrom attributionDecl 1 decl.fields
  have found := map_lookup_of_subset (nodup_structFields accepted)
    (List.Subset.refl (scopeOf fields))
  have values (scope : List (Name × RustType)) :
      (fields.map fun field => Expression.selfField field.name).map (fun argument =>
        argument.typeIn scope (scopeOf fields)) =
      (decl.fields.flatMap fieldTypes).map some := by
    have erased := congrArg (List.map (Option.map RustType.eraseLifetime)) found
    rw [← structFieldsFrom_type 1, List.map_map, List.map_map]
    simp only [scopeOf, List.map_map] at erased
    exact erased
  cases kind : decl.atomType with
  | pushed =>
      have pushed := values []
      rw [statsWriteOverload, Overload.call, writeRustStruct, kind]
      exact congrArg (fun types => [(⟨"stats_write", types⟩ : Call String RustType)]) pushed
  | pulled =>
      let pulledData : Name := ⟨"pulled_data", .pulledData⟩
      have pulled := values [(pulledData, .named "&mut AStatsEventList")]
      rw [statsWriteOverload, Overload.call, writeRustStruct, kind]
      exact congrArg (fun types => [(⟨"add_astats_event",
        some (.named "&mut AStatsEventList") :: types⟩ : Call String RustType)]) pulled

/-! ## The non-chained function -/

section NonChained

variable {flattened : List AtomField}
  (noChain : ∀ atomField ∈ flattened, atomField.javaType ≠ .attributionChain)

include noChain

/-- The fields after the attribution node are passed on. -/
theorem nonChainedArgumentsFrom_eq {argIndex : Int} (later : argIndex ≥ 3) :
    nonChainedArgumentsFrom attributionDecl argIndex flattened =
      (signatureParameters attributionDecl true argIndex flattened).map fun parameter =>
        .name parameter.name := by
  induction flattened generalizing argIndex with
  | nil => rfl
  | cons atomField rest ih =>
      have others : ∀ other ∈ rest, other.javaType ≠ .attributionChain :=
        fun other member => noChain other (List.mem_cons_of_mem atomField member)
      have notChain := noChain atomField List.mem_cons_self
      rw [nonChainedArgumentsFrom, signatureParameters, List.map_append, ih others (by omega),
        nonChainedArguments, fieldParameters, if_neg (by omega), if_neg notChain,
        if_neg notChain, parameterName, if_neg (by omega)]
      rfl

/-- The variables of a non-chained function are distinct. -/
theorem nodup_nonChainedScope (decl : AtomDecl)
    (fields : decl.fields = attributionDecl.fields ++ flattened) :
    ((scopeOf (writeRustMethodSignature attributionDecl decl true)).map Prod.fst).Nodup := by
  have plain : ∀ type ∈ decl.fields.map fun field => lowered field.javaType,
      type ≠ .attributionChain := by
    intro type member isChain
    obtain ⟨field, fieldMem, rfl⟩ := List.mem_map.mp member
    rw [fields, attributionDecl_fields] at fieldMem
    rcases List.mem_append.mp fieldMem with node | later
    · rcases List.mem_pair.mp node with rfl | rfl <;> contradiction
    · have notChain := noChain field later
      cases javaType : field.javaType <;> simp_all [lowered]
  have reads : ((scopeOf (writeRustMethodSignature attributionDecl decl true)).map
      Prod.fst).map Name.reads =
        (if decl.atomType = .pulled then [.pulledData] else []) ++
          plainConvention.namesFrom 1 (decl.fields.map fun field => lowered field.javaType) := by
    rw [← signatureParameters_reads true, writeRustMethodSignature, scopeOf, List.map_map,
      List.map_map, List.map_append]
    split <;> rfl
  apply List.Nodup.of_map Name.reads
  rw [reads, List.nodup_append']
  refine ⟨by split <;> simp, Convention.nodup_namesFrom plainConvention_valid plain, ?_⟩
  intro name own parameter
  obtain ⟨owner, ownerEq, -⟩ :=
    Convention.namesFrom_owner plainConvention_valid plain name parameter
  split at own
  · rw [List.mem_singleton.mp own] at ownerEq
    contradiction
  · contradiction

/-- A non-chained function calls `stats_write` with slices of one element. -/
theorem nonChained_calls (decl : AtomDecl)
    (fields : decl.fields = attributionDecl.fields ++ flattened) :
    (writeRustStatsWriteNonChainedMethod attributionDecl decl).calls [] =
      [Overload.call ⟨"stats_write", .slice false (.named "i32") ::
        .slice false (.str false) :: flattened.flatMap fieldTypes⟩] := by
  let scope := scopeOf (writeRustMethodSignature attributionDecl decl true)
  let later := signatureParameters attributionDecl true 3 flattened
  have distinct := nodup_nonChainedScope noChain decl fields
  let node : List (Name × RustType) :=
    [(⟨"uid_non_chained_", .arg 1⟩, .named "i32"), (⟨"tag_non_chained_", .arg 2⟩, .str false)]
  have split : signatureParameters attributionDecl true 1 decl.fields =
      node.map (fun pair => ⟨pair.2, pair.1⟩) ++ later := by
    rw [fields, attributionDecl_fields]
    rfl
  have subset : node ++ scopeOf later ⊆ scope := by
    intro pair member
    have inFields : pair ∈ scopeOf (signatureParameters attributionDecl true 1 decl.fields) := by
      rw [split, scopeOf, List.map_append, List.map_map]
      exact member
    obtain ⟨parameter, parameterMem, rfl⟩ := List.mem_map.mp inFields
    exact List.mem_map_of_mem (List.mem_append_right _ parameterMem)
  have uid : scope.lookup ⟨"uid_non_chained_", .arg 1⟩ = some (.named "i32") :=
    lookup_eq_some_of_mem distinct (subset List.mem_cons_self)
  have tag : scope.lookup ⟨"tag_non_chained_", .arg 2⟩ = some (.str false) :=
    lookup_eq_some_of_mem distinct (subset (List.mem_cons_of_mem _ List.mem_cons_self))
  have others : later.map (fun parameter => scope.lookup parameter.name) =
      (flattened.flatMap fieldTypes).map some := by
    have found := map_lookup_of_subset distinct (fun pair member =>
      subset (List.mem_append_right node member) : scopeOf later ⊆ scope)
    rw [← signatureParameters_type true 3, List.map_map]
    simp only [scopeOf, List.map_map] at found
    exact found
  have arguments : nonChainedArgumentsFrom attributionDecl 1 decl.fields =
      .slice ⟨"uid_non_chained_", .arg 1⟩ :: .slice ⟨"tag_non_chained_", .arg 2⟩ ::
        later.map fun parameter => .name parameter.name := by
    rw [← nonChainedArgumentsFrom_eq noChain (by omega), fields, attributionDecl_fields]
    rfl
  change [(⟨"stats_write", (nonChainedArgumentsFrom attributionDecl 1 decl.fields).map
    fun argument => argument.typeIn scope []⟩ : Call String RustType)] = _
  rw [arguments, List.map_cons, List.map_cons, List.map_map, Overload.call, List.map_cons,
    List.map_cons, ← others]
  simp only [Expression.typeIn, uid, tag, Option.map_some]
  rfl

end NonChained

/-! ## The module of an atom -/

section Modules

variable {constants : AnnotationIdConstants} {minApiLevel : Int}
  {registrations : List Registration} {atoms : Atoms} {registration : Registration}
  {module : Module}

/-- The calls in the module of an atom resolve unless the atom is pulled and has a
chain. -/
theorem module_callsResolve_iff (registered : Registered registrations atoms)
    (registrationMem : registration ∈ registrations)
    (written : writeRustModule attributionDecl constants minApiLevel atoms.nonChainedDecls
      registration.decl = .ok module) :
    module.CallsResolve ↔
      ¬(registration.decl.atomType = .pulled ∧ HasChain registration.atom) := by
  obtain ⟨function, functionWritten, rfl⟩ := map_eq_ok_iff.mp written
  obtain ⟨isOverload, noCalls⟩ := writeRustStatsWriteMethod_overload functionWritten
  obtain ⟨chained, notChained⟩ := getElem?_nonChainedDecls registered registrationMem
  have accepted : AcceptedSignature registration.decl.signature := by
    rw [← registration.signatureOf_eq]
    exact registration.rule.message.acceptedSignature
  rw [Module.CallsResolve, linked_append]
  dsimp only
  rw [writeRustStruct_calls accepted, linked_singleton_iff, ← isOverload]
  by_cases hasChain : HasChain registration.atom
  · obtain ⟨chain, later, flattened, fields, isChain, noChain, nonChainedFields, sameHeaders⟩ :=
      exists_flattenedFields registration hasChain
    have types : registration.decl.fields.flatMap fieldTypes =
        .slice false (.named "i32") :: .slice false (.str false) ::
          flattened.flatMap fieldTypes := by
      rw [fields, List.flatMap_cons, fieldTypes, if_pos isChain,
        flatMap_fieldTypes_congr sameHeaders]
      rfl
    rw [chained hasChain]
    dsimp only
    rw [List.flatMap_cons, List.flatMap_singleton, noCalls, List.nil_append,
      nonChained_calls noChain _ nonChainedFields, linked_singleton_iff, ← types]
    cases kind : registration.decl.atomType with
    | pushed =>
        have present : (⟨"stats_write", registration.decl.fields.flatMap fieldTypes⟩ :
            Overload String RustType) ∈ [function, writeRustStatsWriteNonChainedMethod
              attributionDecl registration.nonChained.1].map Function.overload := by
          rw [List.map_cons, isOverload, statsWriteOverload, kind]
          exact List.mem_cons_self
        constructor
        · intro _ both
          cases both.1
        · intro _
          exact ⟨List.mem_cons_self, present⟩
    | pulled =>
        have absent : (⟨"stats_write", registration.decl.fields.flatMap fieldTypes⟩ :
            Overload String RustType) ∉ [function, writeRustStatsWriteNonChainedMethod
              attributionDecl registration.nonChained.1].map Function.overload := by
          rw [List.map_cons, List.map_singleton, isOverload, statsWriteOverload, kind]
          intro member
          rcases List.mem_pair.mp member with same | same
          · exact absurd (congrArg Overload.name same) (by simp [statsWriteName])
          · exact absurd (congrArg Overload.name same) (by
              simp [Function.overload, writeRustStatsWriteNonChainedMethod])
        constructor
        · intro both
          exact absurd both.2 absent
        · intro notBoth
          exact absurd ⟨rfl, hasChain⟩ notBoth
  · rw [notChained hasChain]
    dsimp only
    rw [List.flatMap_singleton, noCalls]
    constructor
    · intro _ both
      exact hasChain both.2
    · intro _
      exact ⟨List.mem_cons_self, linked_nil⟩

end Modules

end StatsLogApiGen.Rust
