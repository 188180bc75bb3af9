import StatsLogApiGen.Vendor.Agreement

/-!
# States of integer fields

Collation refuses exclusive states on chains, messages, bytes and repeated fields only.
This file shows that all writers print comparisons of integers for an accepted
descriptor exactly when no state that is reset is a flag, a float or a string.
-/

namespace StatsLogApiGen.Writer

open Std
open StatsLogApiGen.Container
open StatsLogApiGen.Proto
open StatsLogApiGen.Collation
open StatsLogApiGen.Program
open StatsLogApiGen.Vendor

/-! ## States that are reset -/

/-- The option of an exclusive state that is reset: it declares both states, neither of
which is the -1 that stands for none. -/
structure AsksForReset (option : StateAtomFieldOption) : Prop where
  exclusiveState : option.exclusiveState = true
  defaultState : ∃ state, option.defaultStateValue = some state ∧ state ≠ -1
  resetState : ∃ state, option.triggerStateResetValue = some state ∧ state ≠ -1

/-- Fields whose states are reset are no flags, floats or strings. -/
def ResetsIntegerFields (descriptor : AtomDescriptor) (moduleName : String) : Prop :=
  ∀ atomField ∈ selectedAtoms descriptor moduleName, ∀ atom, atomField.type = .message atom →
    ∀ field ∈ atom.fields, ∀ option, field.options.stateFieldOption = some option →
      AsksForReset option → field.type ∉ [.bool, .float, .string]

/-- Wherever a writer compares an argument with a state, the argument is an integer. -/
structure ComparesIntegerStates (atoms : Atoms) : Prop where
  native : ∀ constants minApiLevel bootstrap methods,
    Native.writeStatsLogCpp constants atoms attributionDecl minApiLevel bootstrap = .ok methods →
      ∀ method ∈ methods, method.ComparesIntegers
  java : ∀ constants minApiLevel supportWorkSource,
    ∀ method ∈ (Java.writeStatsLogJava constants atoms attributionDecl minApiLevel
      supportWorkSource).methods, method.ComparesIntegers
  rust : ∀ constants minApiLevel modules,
    Rust.writeStatsLogRust constants atoms attributionDecl minApiLevel = .ok modules →
      ∀ module ∈ modules, module.ComparesIntegers
  vendorNative : ∀ constants methods,
    Vendor.Native.writeNativeCreateVendorAtomMethods constants attributionDecl
      atoms.signatureInfoMap = .ok methods → ∀ method ∈ methods, method.ComparesIntegers
  vendorJava : ∀ constants methods,
    Vendor.Java.writeJavaPushedMethodsVendor constants atoms.signatureInfoMap = .ok methods →
      ∀ method ∈ methods, method.ComparesIntegers

section Registered

variable {registration : Registration}

/-- A state of a registered atom is the one that the options of a field declare. -/
theorem declaredState_ne_iff {annotationId : AnnotationId}
    (isState : annotationId = .triggerStateReset ∨ annotationId = .defaultState)
    {fieldNumber : Int} :
    declaredState annotationId (annotationsOf registration.decl fieldNumber) ≠ -1 ↔
      ∃ state, declRequests registration.atomField registration.atom fieldNumber annotationId =
        some (.int state) ∧ state ≠ -1 := by
  have stores := registration.describes.stores
  constructor
  · intro declared
    rcases exists_mem_of_declaredState declared with ⟨ann, member, rfl⟩
    have requested := requested_of_mem member
    rcases declRequests_state isState requested with ⟨-, -, -, -, -, state, isValue⟩
    rw [isValue] at requested
    refine ⟨state, requested, ?_⟩
    rwa [← declaredState_of_stores stores requested]
  · rintro ⟨state, requested, notNone⟩
    rw [annotationsOf, declaredState_of_stores stores requested]
    exact notNone

theorem fieldRequests_defaultState_iff {options : FieldOptions} {state : Int} :
    fieldRequests options .defaultState = some (.int state) ↔
      ∃ option, options.stateFieldOption = some option ∧ option.exclusiveState = true ∧
        option.defaultStateValue = some state := by
  cases declared : options.stateFieldOption <;>
    simp [fieldRequests, flag, FieldRestrictionOption.asksFor, StateAtomFieldOption.requests,
      declared]

theorem fieldRequests_triggerStateReset_iff {options : FieldOptions} {state : Int} :
    fieldRequests options .triggerStateReset = some (.int state) ↔
      ∃ option, options.stateFieldOption = some option ∧ option.exclusiveState = true ∧
        option.triggerStateResetValue = some state := by
  cases declared : options.stateFieldOption <;>
    simp [fieldRequests, flag, FieldRestrictionOption.asksFor, StateAtomFieldOption.requests,
      declared]

/-- An accepted field is reset when its option asks for it. -/
theorem hasReset_iff {field : MessageFieldDescriptor} (member : field ∈ registration.atom.fields) :
    HasReset (annotationsOf registration.decl field.number) ↔
      ∃ option, field.options.stateFieldOption = some option ∧ AsksForReset option := by
  have notAtom : field.number ≠ atomIdFieldNumber := by
    have positive := number_pos registration.rule.message.numbers member
    rw [atomIdFieldNumber]
    omega
  rw [HasReset, declaredState_ne_iff (Or.inr rfl), declaredState_ne_iff (Or.inl rfl),
    declRequests_of_mem member notAtom]
  simp only [fieldRequests_defaultState_iff, fieldRequests_triggerStateReset_iff]
  constructor
  · rintro ⟨⟨defaultState, ⟨option, declared, exclusive, isDefault⟩, defaultNotNone⟩,
      resetState, ⟨other, otherDeclared, -, isReset⟩, resetNotNone⟩
    cases declared.symm.trans otherDeclared
    exact ⟨option, declared, exclusive, ⟨_, isDefault, defaultNotNone⟩, _, isReset, resetNotNone⟩
  · rintro ⟨option, declared, exclusive, ⟨defaultState, isDefault, defaultNotNone⟩,
      resetState, isReset, resetNotNone⟩
    exact ⟨⟨_, ⟨option, declared, exclusive, isDefault⟩, defaultNotNone⟩,
      _, ⟨option, declared, exclusive, isReset⟩, resetNotNone⟩

/-- What is reset in a registered atom is one of its fields. -/
theorem exists_field_of_hasReset {fieldNumber : Int}
    (hasReset : HasReset (annotationsOf registration.decl fieldNumber)) :
    ∃ field ∈ registration.atom.fields, field.number = fieldNumber := by
  rcases exists_mem_of_declaredState hasReset.2 with ⟨ann, member, isReset⟩
  rcases declRequests_state (Or.inl isReset) (requested_of_mem member) with
    ⟨-, field, fieldMem, number, -⟩
  exact ⟨field, fieldMem, number⟩

/-- The field with number `n` is described by the `n`-th entry. -/
theorem getElem?_decl_fields {field : MessageFieldDescriptor}
    (member : field ∈ registration.atom.fields) :
    ∃ atomField, registration.decl.fields[(field.number - 1).toNat]? = some atomField ∧
      atomField.javaType = declaredType field := by
  have sorted := registration.rule.message.getElem?_sortedFields member
  rw [registration.decl_fields, atomFieldsOf, List.getElem?_map, sorted]
  refine ⟨_, rfl, ?_⟩
  rw [buildAtomField_javaType, javaType_eq_declaredType]
  exact registration.shape (mem_sortedFields.mpr member)

/-- An exclusive state that is accepted has an integer type, or it is a flag, a float or
a string. -/
theorem isInteger_declaredType_iff {isUintAllowed : Bool} {field : MessageFieldDescriptor}
    (shape : FieldShape isUintAllowed field) {option : StateAtomFieldOption}
    (rule : StateRule field option) (exclusive : option.exclusiveState = true) :
    IsInteger (declaredType field) ↔ field.type ∉ [.bool, .float, .string] := by
  have notMessage := rule.exclusiveState exclusive
  have singular := rule.singular
  obtain ⟨name, number, type, isRepeated, options⟩ := field
  cases shape with
  | plain isPlain _ =>
      cases type <;> cases isRepeated <;> simp_all [isPlainType, declaredType, IsInteger]
  | attributionChain isNode => simp_all [isMessageOrBytes]
  | message messageType isMessage notNode singular binary => simp_all [isMessageOrBytes]
  | bytes isBytes _ => simp_all [isMessageOrBytes]
  | uint allowed isUint _ =>
      cases type <;> simp_all [isUintType, declaredType, IsInteger]

/-- The entries of a registered atom that are reset are integers exactly when its fields are. -/
theorem comparesResets_rustComparable_iff :
    ComparesResets 0 rustComparable registration.decl ↔
      ∀ field ∈ registration.atom.fields, ∀ option,
        field.options.stateFieldOption = some option → AsksForReset option →
          field.type ∉ [.bool, .float, .string] := by
  have typed {field : MessageFieldDescriptor} (fieldMem : field ∈ registration.atom.fields)
      {option : StateAtomFieldOption} (declared : field.options.stateFieldOption = some option)
      (asks : AsksForReset option) :
      IsInteger (declaredType field) ↔ field.type ∉ [.bool, .float, .string] := by
    have rule := registration.rule.message.fields field fieldMem
    exact isInteger_declaredType_iff rule.shape (rule.state option declared) asks.exclusiveState
  constructor
  · intro compares field fieldMem option declared asks
    have hasReset := (hasReset_iff fieldMem).mpr ⟨option, declared, asks⟩
    rcases getElem?_decl_fields fieldMem with ⟨described, found, isType⟩
    have position : field.number = 1 + ((field.number - 1).toNat : Int) := by
      have positive := number_pos registration.rule.message.numbers fieldMem
      omega
    have entry : registration.decl.signature[(field.number - 1).toNat]? =
        some (lowered (declaredType field)) := by
      rw [AtomDecl.signature, List.getElem?_map, found, Option.map_some, isType]
    rw [position] at hasReset
    have isInteger := rustComparable_iff.mp (compares _ _ (Nat.zero_le _) entry hasReset)
    exact (typed fieldMem declared asks).mp (isInteger_lowered_iff.mp isInteger)
  · intro integers index type _ isType hasReset
    rcases exists_field_of_hasReset hasReset with ⟨field, fieldMem, number⟩
    rw [← number] at hasReset
    rcases (hasReset_iff fieldMem).mp hasReset with ⟨option, declared, asks⟩
    rcases getElem?_decl_fields fieldMem with ⟨described, found, isDescribed⟩
    have position : (field.number - 1).toNat = index := by omega
    rw [AtomDecl.signature, List.getElem?_map, ← position, found, Option.map_some,
      isDescribed] at isType
    cases isType
    rw [rustComparable_iff, isInteger_lowered_iff, typed fieldMem declared asks]
    exact integers field fieldMem option declared asks

end Registered

section Accepted

variable {descriptor : AtomDescriptor} {moduleName : String} {atoms : Atoms}
  (accepted : collateAtoms descriptor moduleName {} = (0, atoms))

include accepted

/-- The states that the declarations of a run reset are integers exactly when the fields are. -/
theorem exists_registered_resets :
    ∃ registrations, Registered registrations atoms ∧
      ((∀ registration ∈ registrations, ComparesResets 0 rustComparable registration.decl) ↔
        ResetsIntegerFields descriptor moduleName) := by
  rcases collateAtoms_registered accepted with ⟨registrations, selected, registered⟩
  refine ⟨registrations, registered, ?_⟩
  simp only [comparesResets_rustComparable_iff]
  constructor
  · intro integers atomField selectedMem atom type
    rcases exists_registration selected selectedMem type with
      ⟨registration, registrationMem, rfl, rfl⟩
    exact integers registration registrationMem
  · intro integers registration registrationMem
    exact integers registration.atomField (selected ▸ List.mem_map_of_mem registrationMem) _
      registration.rule.type

/-- Every writer compares integers when the fields whose states are reset are integers. -/
theorem comparesIntegerStates_of_resetsIntegerFields
    (integers : ResetsIntegerFields descriptor moduleName) : ComparesIntegerStates atoms := by
  rcases exists_registered_resets accepted with ⟨registrations, registered, exact⟩
  have compared := exact.mpr integers
  have ofEntry {entry : Signature × FieldNumberToAtomDeclSet}
      (listed : entry ∈ atoms.signatureInfoMap.toList) :
      (signatureMap atoms .pushed)[entry.1]? = some entry.2 :=
    ExtTreeMap.mem_toList_iff_getElem?_eq_some.mp listed
  have fromOne {registration : Registration} (member : registration ∈ registrations) :
      ComparesResets 1 rustComparable registration.decl :=
    fun index type _ => compared registration member index type (Nat.zero_le index)
  constructor
  · intro constants minApiLevel bootstrap methods source
    cases bootstrap with
    | true => exact Native.compares_bootstrap source _
    | false =>
        exact (Native.compares_source_iff registered
          cppIntegers_iff source).mpr compared
  · intro constants minApiLevel supportWorkSource
    exact Java.compares_class registered javaIntegers_iff
      compared
  · intro constants minApiLevel modules crate module member
    exact Rust.comparesIntegers_crate registered compared crate member
  · intro constants methods source method member
    rcases (mem_of_mapM_eq_ok source).mp member with ⟨entry, entryMem, written⟩
    exact (Vendor.Native.compares_createVendorAtom_iff registered
      cppIntegers_iff (ofEntry entryMem) written).mpr
        fun registration registrationMem _ _ => fromOne registrationMem
  · intro constants methods source method member
    rcases (mem_of_mapM_eq_ok source).mp member with ⟨entry, entryMem, written⟩
    exact (Vendor.Java.compares_createVendorAtom_iff registered
      javaIntegers_iff (ofEntry entryMem) written).mpr
        fun registration registrationMem _ _ => fromOne registrationMem

/-- The C++ source for a recent platform compares integers only if the fields whose states are
reset are integers. -/
theorem resetsIntegerFields_of_comparesIntegerStates (compares : ComparesIntegerStates atoms) :
    ResetsIntegerFields descriptor moduleName := by
  rcases exists_registered_resets accepted with ⟨registrations, registered, exact⟩
  rcases isOk_iff_exists.mp ((writeStatsLogCpp_isOk (acceptedMaps registered)
    (getAnnotationIdConstants annotationConstantNamePrefix) apiT).mpr (Or.inl le_rfl)) with
    ⟨methods, source⟩
  refine exact.mp ((Native.compares_source_iff registered
    cppIntegers_iff source).mp ?_)
  exact compares.native _ _ _ methods source

end Accepted

/-- For an accepted descriptor all writers compare integers with states exactly when no
field whose state is reset is a flag, a float or a string. -/
theorem comparesIntegerStates_iff (descriptor : AtomDescriptor) (moduleName : String)
    (atoms : Atoms) (accepted : collateAtoms descriptor moduleName {} = (0, atoms)) :
    ComparesIntegerStates atoms ↔ ResetsIntegerFields descriptor moduleName :=
  ⟨resetsIntegerFields_of_comparesIntegerStates accepted,
    comparesIntegerStates_of_resetsIntegerFields accepted⟩

theorem comparesIntegerStates_iff_vendorDescriptor :
    ComparesIntegerStates vendorAtoms ↔ ResetsIntegerFields vendorDescriptor "test" :=
  comparesIntegerStates_iff vendorDescriptor "test" vendorAtoms (Prod.ext (by decide) rfl)

/-- A state that is reset. -/
def playbackState : StateAtomFieldOption where
  exclusiveState := true
  defaultStateValue := some 0
  triggerStateResetValue := some 2

/-- An atom whose state is a string. -/
def playbackStateChanged : Descriptor where
  name := "PlaybackStateChanged"
  fields :=
    [{ name := "state", number := 1, type := .string,
       options := { stateFieldOption := some playbackState } }]
  numbers_nodup := by decide

def playbackDescriptor : AtomDescriptor where
  fields := [{ name := "playback_state_changed", number := 10,
               type := .message playbackStateChanged }]
  extensions := []
  numbers_nodup := by decide

/-- The string is accepted as a state, and it is compared with the number 2. -/
theorem not_comparesIntegerStates_playback :
    (collateAtoms playbackDescriptor defaultModuleName {}).1 = 0 ∧
      ¬ComparesIntegerStates (collateAtoms playbackDescriptor defaultModuleName {}).2 := by
  have accepted : (collateAtoms playbackDescriptor defaultModuleName {}).1 = 0 := by decide
  refine ⟨accepted, fun compares => ?_⟩
  have integers := resetsIntegerFields_of_comparesIntegerStates (Prod.ext accepted rfl) compares
  have asks : AsksForReset playbackState := ⟨rfl, ⟨0, rfl, by decide⟩, 2, rfl, by decide⟩
  have notString := integers _ List.mem_cons_self playbackStateChanged rfl _ List.mem_cons_self
    playbackState rfl asks
  exact notString (by simp)

end StatsLogApiGen.Writer
