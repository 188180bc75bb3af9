import StatsLogApiGen.Collation.Step

/-!
# What collating one atom does

The loop of `collateAtom` visits the fields in ascending order.  Its signature
and its fields are a map over the visited fields whether or not errors occur;
it is silent exactly when every field is accepted after the fields before it,
and then its declaration stores what the options of the fields request.
-/

namespace StatsLogApiGen.Collation

open Std
open StatsLogApiGen.Container
open StatsLogApiGen.Proto
open Collated (OptionsAccepted isExclusiveState)

/-! ## Sorted fields -/

theorem mem_sortedFields {atom : Descriptor} {field : MessageFieldDescriptor} :
    field ∈ sortedFields atom ↔ field ∈ atom.fields :=
  mem_elements_indexBy atom.numbers_nodup

/-- The fields are visited in strictly ascending order of their numbers. -/
theorem pairwise_sortedFields (atom : Descriptor) :
    (sortedFields atom).Pairwise fun first second => first.number < second.number := by
  apply (pairwise_elements_indexBy atom.numbers_nodup).imp
  intro first second before
  exact Std.compare_eq_lt.mp before

theorem sortedFields_numbers_nodup (atom : Descriptor) :
    ((sortedFields atom).map FieldDescriptor.number).Nodup := by
  rw [List.Nodup, List.pairwise_map]
  exact (pairwise_sortedFields atom).imp fun before => Int.ne_of_lt before

theorem sortedFields_perm (atom : Descriptor) : (sortedFields atom).Perm atom.fields := by
  apply (List.perm_ext_iff_of_nodup _ _).mpr fun field => mem_sortedFields
  · exact List.Nodup.of_map FieldDescriptor.number (sortedFields_numbers_nodup atom)
  · exact List.Nodup.of_map FieldDescriptor.number atom.numbers_nodup

/-- In a message a field number belongs to one field. -/
theorem eq_of_number_eq {atom : Descriptor} {first second : MessageFieldDescriptor}
    (firstMem : first ∈ atom.fields) (secondMem : second ∈ atom.fields)
    (sameNumber : first.number = second.number) : first = second :=
  List.inj_on_of_nodup_map atom.numbers_nodup firstMem secondMem sameNumber

/-! ## The loop over the fields -/

/-- The signature entry of a field. -/
def signatureEntry (isUintAllowed : Bool) (field : MessageFieldDescriptor) : JavaType :=
  lowerType (javaType field isUintAllowed) (isBinaryField field)

/-- Every field is accepted after the fields before it. -/
def FieldsAccepted (restricted isUintAllowed : Bool) :
    Int → List MessageFieldDescriptor → Prop
  | _, [] => True
  | exclusiveField, field :: rest =>
      OptionsAccepted restricted exclusiveField (javaType field isUintAllowed) field.options ∧
      FieldsAccepted restricted isUintAllowed
        (if isExclusiveState field.options then field.number else exclusiveField) rest

/-- The exclusive state field found by the end of the loop. -/
def exclusiveFieldAfter (exclusiveField : Int) (fields : List MessageFieldDescriptor) : Int :=
  fields.foldl
    (fun exclusiveField field =>
      if isExclusiveState field.options then field.number else exclusiveField)
    exclusiveField

/-- The requests of the visited fields. -/
def requestFields (fields : List MessageFieldDescriptor) (requests : Requests) : Requests :=
  fields.foldl
    (fun requests field => Function.update requests field.number (fieldRequests field.options))
    requests

/-- One round of the loop, read as a step on the declaration with the field
already pushed. -/
theorem collateField_step (isUintAllowed : Bool) (state : Collated × Signature)
    (field : MessageFieldDescriptor) :
    ∃ pushed primary exclusive asks,
      pushed.atomDecl = { state.1.atomDecl with
        fields := state.1.atomDecl.fields ++
          [buildAtomField field (javaType field isUintAllowed)] } ∧
      pushed.errors = state.1.errors ∧
      Step pushed (collateField isUintAllowed state field).1
        (OptionsAccepted state.1.atomDecl.restricted state.1.atomDecl.exclusiveField
          (javaType field isUintAllowed) field.options)
        primary exclusive asks ∧
      (OptionsAccepted state.1.atomDecl.restricted state.1.atomDecl.exclusiveField
          (javaType field isUintAllowed) field.options →
        primary = Collated.primaryFieldsOf field.options field.number ∧
        exclusive = (if isExclusiveState field.options then field.number
          else state.1.atomDecl.exclusiveField) ∧
        asks = Collated.addOptions (field.options.stateFieldOption.getD {}) field.options
          field.number) := by
  let pushed : Collated :=
    { state.1 with
      atomDecl := { state.1.atomDecl with
        fields := state.1.atomDecl.fields ++
          [buildAtomField field (javaType field isUintAllowed)] } }
  obtain ⟨primary, exclusive, asks, step, effect⟩ :=
    Collated.collateFieldAnnotations_step field field.number (javaType field isUintAllowed) pushed
  exact ⟨pushed, primary, exclusive, asks, rfl, rfl, step, effect⟩

theorem foldl_collateField_signature (isUintAllowed : Bool)
    (fields : List MessageFieldDescriptor) (state : Collated × Signature) :
    (fields.foldl (collateField isUintAllowed) state).2 =
      state.2 ++ fields.map (signatureEntry isUintAllowed) := by
  induction fields generalizing state with
  | nil => simp
  | cons field rest ih =>
      rw [List.foldl_cons, ih]
      simp [collateField, signatureEntry]

theorem foldl_collateField_header (isUintAllowed : Bool)
    (fields : List MessageFieldDescriptor) (state : Collated × Signature) :
    (fields.foldl (collateField isUintAllowed) state).1.atomDecl.header =
      { state.1.atomDecl.header with
        fields := state.1.atomDecl.fields ++
          fields.map fun field => buildAtomField field (javaType field isUintAllowed) } := by
  induction fields generalizing state with
  | nil => simp [AtomDecl.header]
  | cons field rest ih =>
      obtain ⟨pushed, _, _, _, declEq, _, step, _⟩ := collateField_step isUintAllowed state field
      rw [List.foldl_cons, ih]
      have fieldsEq := congrArg AtomDecl.Header.fields step.header
      simp only [AtomDecl.header] at fieldsEq
      rw [step.header, fieldsEq, declEq]
      simp [AtomDecl.header]

theorem foldl_collateField_errors (isUintAllowed : Bool)
    (fields : List MessageFieldDescriptor) (state : Collated × Signature) :
    (fields.foldl (collateField isUintAllowed) state).1.errors = [] ↔
      state.1.errors = [] ∧
      FieldsAccepted state.1.atomDecl.restricted isUintAllowed
        state.1.atomDecl.exclusiveField fields := by
  induction fields generalizing state with
  | nil => simp [FieldsAccepted]
  | cons field rest ih =>
      obtain ⟨pushed, _, _, _, declEq, errorsEq, step, effect⟩ :=
        collateField_step isUintAllowed state field
      have restrictedEq :
          (collateField isUintAllowed state field).1.atomDecl.restricted =
            state.1.atomDecl.restricted :=
        step.restricted_eq.trans (by rw [declEq])
      rw [List.foldl_cons, ih, step.errors, errorsEq, restrictedEq, step.exclusiveField,
        FieldsAccepted, and_assoc]
      refine and_congr_right fun _ => and_congr_right fun accepted => ?_
      rw [(effect accepted).2.1]

/-- The effect of a silent loop on the declaration. -/
theorem foldl_collateField_effect (isUintAllowed : Bool)
    (fields : List MessageFieldDescriptor) (state : Collated × Signature)
    (accepted : FieldsAccepted state.1.atomDecl.restricted isUintAllowed
      state.1.atomDecl.exclusiveField fields) :
    let result := (fields.foldl (collateField isUintAllowed) state).1.atomDecl
    result.primaryFields = state.1.atomDecl.primaryFields ++
      fields.flatMap (fun field => Collated.primaryFieldsOf field.options field.number) ∧
    result.exclusiveField = exclusiveFieldAfter state.1.atomDecl.exclusiveField fields := by
  induction fields generalizing state with
  | nil => simp [exclusiveFieldAfter]
  | cons field rest ih =>
      obtain ⟨pushed, _, _, _, declEq, errorsEq, step, effect⟩ :=
        collateField_step isUintAllowed state field
      obtain ⟨primaryEq, exclusiveEq, _⟩ := effect accepted.1
      have restrictedEq :
          (collateField isUintAllowed state field).1.atomDecl.restricted =
            state.1.atomDecl.restricted :=
        step.restricted_eq.trans (by rw [declEq])
      have restAccepted := accepted.2
      rw [← exclusiveEq, ← step.exclusiveField, ← restrictedEq] at restAccepted
      obtain ⟨primaryRest, exclusiveRest⟩ := ih _ restAccepted
      constructor
      · rw [List.foldl_cons, primaryRest, step.primaryFields, primaryEq, declEq]
        simp
      · rw [List.foldl_cons, exclusiveRest, step.exclusiveField, exclusiveEq]
        rfl

/-- The annotations that a silent loop stores. -/
theorem foldl_collateField_stores (isUintAllowed : Bool)
    (fields : List MessageFieldDescriptor) (state : Collated × Signature)
    (accepted : FieldsAccepted state.1.atomDecl.restricted isUintAllowed
      state.1.atomDecl.exclusiveField fields)
    (distinct : (fields.map FieldDescriptor.number).Nodup) {requests : Requests}
    (fresh : ∀ field ∈ fields, ∀ annotationId, requests field.number annotationId = none)
    (stored : Stores state.1.atomDecl.code state.1.atomDecl.fieldNumberToAnnotations requests) :
    Stores state.1.atomDecl.code
      (fields.foldl (collateField isUintAllowed) state).1.atomDecl.fieldNumberToAnnotations
      (requestFields fields requests) := by
  induction fields generalizing state requests with
  | nil => exact stored
  | cons field rest ih =>
      obtain ⟨pushed, _, _, _, declEq, errorsEq, step, effect⟩ :=
        collateField_step isUintAllowed state field
      obtain ⟨_, exclusiveEq, asksEq⟩ := effect accepted.1
      have restrictedEq :
          (collateField isUintAllowed state field).1.atomDecl.restricted =
            state.1.atomDecl.restricted :=
        step.restricted_eq.trans (by rw [declEq])
      have codeEq : (collateField isUintAllowed state field).1.atomDecl.code =
          state.1.atomDecl.code :=
        step.code_eq.trans (by rw [declEq])
      have restAccepted := accepted.2
      rw [← exclusiveEq, ← step.exclusiveField, ← restrictedEq] at restAccepted
      have afterField := step.stores requests (by rw [declEq]; exact stored)
      rw [asksEq, Collated.addOptions_eq_update field.options field.number requests
        (fresh field List.mem_cons_self)] at afterField
      rw [List.map_cons, List.nodup_cons] at distinct
      have restFresh : ∀ other ∈ rest, ∀ annotationId,
          Function.update requests field.number (fieldRequests field.options)
            other.number annotationId = none := by
        intro other otherMem annotationId
        have notEqual : other.number ≠ field.number := fun same =>
          distinct.1 (same ▸ List.mem_map_of_mem otherMem)
        rw [Function.update_of_ne notEqual]
        exact fresh other (List.mem_cons_of_mem _ otherMem) annotationId
      have result := ih _ restAccepted distinct.2 restFresh afterField
      rwa [codeEq] at result

/-! ## The whole atom -/

/-- The list checks that `collateAtom` makes before it builds the signature. -/
def checkFields (atom : Descriptor) (restricted : Bool) (message : String) :
    List CollationError :=
  let isUintAllowed := atom.name ∈ uintAtomAllowlist
  checkFieldNumbers 1 (sortedFields atom) ++
    (sortedFields atom).flatMap (checkFieldType restricted message isUintAllowed) ++
    (sortedFields atom).flatMap (checkAttributionChainPosition atom isUintAllowed)

/-- The signature of an atom message. -/
def signatureOf (atom : Descriptor) : Signature :=
  (sortedFields atom).map (signatureEntry (atom.name ∈ uintAtomAllowlist))

/-- The fields of the declaration of an atom message. -/
def atomFieldsOf (atom : Descriptor) : List AtomField :=
  (sortedFields atom).map fun field =>
    buildAtomField field (javaType field (atom.name ∈ uintAtomAllowlist))

@[simp]
theorem collateAtom_signature (atom : Descriptor) (atomDecl : AtomDecl) :
    (collateAtom atom atomDecl).2 = signatureOf atom := by
  simp [collateAtom, foldl_collateField_signature, signatureOf]

theorem collateAtom_header (atom : Descriptor) (atomDecl : AtomDecl) :
    (collateAtom atom atomDecl).1.atomDecl.header =
      { atomDecl.header with fields := atomDecl.fields ++ atomFieldsOf atom } := by
  simp [collateAtom, foldl_collateField_header, atomFieldsOf]

theorem collateAtom_errors (atom : Descriptor) (atomDecl : AtomDecl) :
    (collateAtom atom atomDecl).1.errors = [] ↔
      checkFields atom atomDecl.restricted atomDecl.message = [] ∧
      FieldsAccepted atomDecl.restricted (atom.name ∈ uintAtomAllowlist)
        atomDecl.exclusiveField (sortedFields atom) := by
  simp only [collateAtom, foldl_collateField_errors, checkFields]

theorem requestFields_apply (fields : List MessageFieldDescriptor)
    (distinct : (fields.map FieldDescriptor.number).Nodup) (requests : Requests)
    (fieldNumber : Int) :
    requestFields fields requests fieldNumber =
      match fields.find? (·.number = fieldNumber) with
      | some field => fieldRequests field.options
      | none => requests fieldNumber := by
  induction fields generalizing requests with
  | nil => rfl
  | cons field rest ih =>
      rw [List.map_cons, List.nodup_cons] at distinct
      change requestFields rest
        (Function.update requests field.number (fieldRequests field.options)) fieldNumber = _
      rw [ih distinct.2, List.find?_cons]
      by_cases same : field.number = fieldNumber
      · subst fieldNumber
        have missing : rest.find? (·.number = field.number) = none := by
          rw [List.find?_eq_none]
          intro other otherMem
          have listed : other.number ∈ rest.map FieldDescriptor.number :=
            List.mem_map_of_mem otherMem
          simpa using fun equal : other.number = field.number => distinct.1 (equal ▸ listed)
        simp [missing]
      · simp [same, Function.update_of_ne (Ne.symm same)]

/-- The requests of all fields of a message, looked up by field number. -/
def messageRequests (atom : Descriptor) : Requests := fun fieldNumber =>
  match atom.fields.find? (·.number = fieldNumber) with
  | some field => fieldRequests field.options
  | none => fun _ => none

theorem find?_sortedFields (atom : Descriptor) (fieldNumber : Int) :
    (sortedFields atom).find? (·.number = fieldNumber) =
      atom.fields.find? (·.number = fieldNumber) := by
  cases found : atom.fields.find? (·.number = fieldNumber) with
  | none =>
      rw [List.find?_eq_none] at found ⊢
      intro field member
      exact found field (mem_sortedFields.mp member)
  | some field =>
      have member := List.mem_of_find?_eq_some found
      have numberEq : field.number = fieldNumber := by
        simpa using List.find?_some found
      cases sortedFound : (sortedFields atom).find? (·.number = fieldNumber) with
      | none =>
          rw [List.find?_eq_none] at sortedFound
          exact absurd numberEq (by simpa using sortedFound field (mem_sortedFields.mpr member))
      | some other =>
          have otherMem := mem_sortedFields.mp (List.mem_of_find?_eq_some sortedFound)
          have otherEq : other.number = fieldNumber := by
            simpa using List.find?_some sortedFound
          rw [eq_of_number_eq otherMem member (otherEq.trans numberEq.symm)]

/-- An accepted atom records the primary fields and the exclusive state field of
its options, and stores what its options request. -/
theorem collateAtom_effect (atom : Descriptor) (atomDecl : AtomDecl)
    (accepted : (collateAtom atom atomDecl).1.errors = []) :
    let result := (collateAtom atom atomDecl).1.atomDecl
    result.primaryFields = atomDecl.primaryFields ++
      (sortedFields atom).flatMap
        (fun field => Collated.primaryFieldsOf field.options field.number) ∧
    result.exclusiveField = exclusiveFieldAfter atomDecl.exclusiveField (sortedFields atom) :=
  foldl_collateField_effect _ _ _ ((collateAtom_errors atom atomDecl).mp accepted).2

theorem collateAtom_stores (atom : Descriptor) (atomDecl : AtomDecl)
    (accepted : (collateAtom atom atomDecl).1.errors = []) {requests : Requests}
    (fresh : ∀ field ∈ atom.fields, ∀ annotationId, requests field.number annotationId = none)
    (stored : Stores atomDecl.code atomDecl.fieldNumberToAnnotations requests) :
    Stores atomDecl.code (collateAtom atom atomDecl).1.atomDecl.fieldNumberToAnnotations
      (requestFields (sortedFields atom) requests) :=
  foldl_collateField_stores _ _ _ ((collateAtom_errors atom atomDecl).mp accepted).2
    (sortedFields_numbers_nodup atom)
    (fun field member => fresh field (mem_sortedFields.mp member)) stored

/-! ## The atom field -/

/-- The requests of the atom itself, under the number of atom-level annotations. -/
def atomLevelRequests (options : FieldOptions) : Requests :=
  Function.update Requests.none atomIdFieldNumber (atomRequests options)

/-- The timestamp is asked for first, then the restriction. -/
theorem atomLevelRequests_eq_add (options : FieldOptions) :
    atomLevelRequests options =
      (Requests.none.add atomIdFieldNumber .truncateTimestamp
        (flag options.getTruncateTimestamp)).add atomIdFieldNumber .restrictionCategory
          (options.restrictionCategory.map fun category => .int category.number) := by
  funext fieldNumber annotationId
  by_cases same : fieldNumber = atomIdFieldNumber
  · subst fieldNumber
    cases annotationId <;> simp [atomLevelRequests, atomRequests, Requests.add, Requests.none]
  · simp [atomLevelRequests, Requests.add, Requests.none, same]

/-- The options of an atom field mark the declaration and ask for the atom-level
annotations, unless they restrict a pulled atom. -/
theorem collateAtomOptions_cases (atomField : AtomFieldDescriptor) (atomDecl : AtomDecl)
    (empty : atomDecl.fieldNumberToAnnotations = ∅) (unrestricted : atomDecl.restricted = false) :
    ((atomField.options.restrictionCategory.isSome ∧ atomDecl.atomType = .pulled) ∧
      collateAtomOptions atomField atomDecl = .error (.restrictedPulled atomField.name)) ∨
    (¬(atomField.options.restrictionCategory.isSome ∧ atomDecl.atomType = .pulled) ∧
      ∃ stored : FieldNumberToAnnotations,
        collateAtomOptions atomField atomDecl = .ok { atomDecl with
          restricted := atomField.options.restrictionCategory.isSome
          fieldNumberToAnnotations := stored } ∧
        Stores atomDecl.code stored (atomLevelRequests atomField.options)) := by
  obtain ⟨truncated, truncateEq, truncateStores⟩ :
      ∃ stored : FieldNumberToAnnotations,
        (if atomField.options.getTruncateTimestamp then
          Collated.addAnnotationToAtomDecl ⟨atomDecl, []⟩ atomIdFieldNumber .truncateTimestamp
            (.bool true)
        else ⟨atomDecl, []⟩) =
          (⟨{ atomDecl with fieldNumberToAnnotations := stored }, []⟩ : Collated) ∧
        Stores atomDecl.code stored (Requests.none.add atomIdFieldNumber .truncateTimestamp
          (flag atomField.options.getTruncateTimestamp)) := by
    have none : Stores atomDecl.code atomDecl.fieldNumberToAnnotations Requests.none := by
      rw [empty]
      exact stores_none _
    by_cases truncate : atomField.options.getTruncateTimestamp
    · simp only [truncate, if_true]
      exact ⟨_, rfl, Stores.add ⟨atomDecl, []⟩ none atomIdFieldNumber _ _⟩
    · simp only [truncate]
      exact ⟨_, rfl, by simpa [flag] using none⟩
  unfold collateAtomOptions
  simp only [truncateEq]
  cases category : atomField.options.restrictionCategory with
  | none =>
      right
      refine ⟨by simp, truncated, ?_, ?_⟩
      · simp [← unrestricted]
      · rw [atomLevelRequests_eq_add, category, Option.map_none, Requests.add_none]
        exact truncateStores
  | some restrictionCategory =>
      by_cases pulled : atomDecl.atomType = .pulled
      · left
        simp [pulled]
      · right
        let marked : Collated :=
          ⟨{ atomDecl with restricted := true, fieldNumberToAnnotations := truncated }, []⟩
        have both := Stores.add marked truncateStores atomIdFieldNumber .restrictionCategory
          (.int restrictionCategory.number)
        refine ⟨fun both => pulled both.2,
          (marked.addAnnotationToAtomDecl atomIdFieldNumber .restrictionCategory
            (.int restrictionCategory.number)).atomDecl.fieldNumberToAnnotations, ?_, ?_⟩
        · simp only [pulled, if_false, Option.isSome_some]
          rfl
        · rw [atomLevelRequests_eq_add, category, Option.map_some]
          exact both

/-- The requests of an atom: its own under `atomIdFieldNumber` and those of its
fields. -/
def declRequests (atomField : AtomFieldDescriptor) (atom : Descriptor) : Requests :=
  fun fieldNumber =>
    if fieldNumber = atomIdFieldNumber then atomRequests atomField.options
    else messageRequests atom fieldNumber

/-- What collation records about an accepted atom. -/
structure Describes (atomField : AtomFieldDescriptor) (atom : Descriptor) (decl : AtomDecl) :
    Prop where
  header : decl.header =
    ⟨atomField.number, atomField.name, atom.name, atomFieldsOf atom,
      getAtomType atomField.number, atomField.options.restrictionCategory.isSome⟩
  stores : Stores atomField.number decl.fieldNumberToAnnotations (declRequests atomField atom)

/-- The declaration after the options of the atom field. -/
def optionsDecl (atomField : AtomFieldDescriptor) (atom : Descriptor)
    (stored : FieldNumberToAnnotations) : AtomDecl :=
  { initialDecl atomField atom with
    restricted := atomField.options.restrictionCategory.isSome
    fieldNumberToAnnotations := stored }

theorem requestFields_sortedFields (atomField : AtomFieldDescriptor) (atom : Descriptor)
    (notAtomId : ∀ field ∈ atom.fields, field.number ≠ atomIdFieldNumber) :
    requestFields (sortedFields atom) (atomLevelRequests atomField.options) =
      declRequests atomField atom := by
  funext fieldNumber
  rw [requestFields_apply _ (sortedFields_numbers_nodup atom), find?_sortedFields,
    declRequests, messageRequests]
  cases found : atom.fields.find? (·.number = fieldNumber) with
  | none =>
      by_cases same : fieldNumber = atomIdFieldNumber
      · simp [same, atomLevelRequests]
      · rw [if_neg same, atomLevelRequests, Function.update_of_ne same]
        rfl
  | some field =>
      have numberEq : field.number = fieldNumber := by
        simpa using List.find?_some found
      rw [if_neg]
      exact numberEq ▸ notAtomId field (List.mem_of_find?_eq_some found)

/-- An atom whose options and fields are accepted is described by its
declaration. -/
theorem describes_collateAtom (atomField : AtomFieldDescriptor) (atom : Descriptor)
    (stored : FieldNumberToAnnotations)
    (stores : Stores atomField.number stored (atomLevelRequests atomField.options))
    (positive : ∀ field ∈ atom.fields, 0 < field.number)
    (accepted : (collateAtom atom (optionsDecl atomField atom stored)).1.errors = []) :
    Describes atomField atom (collateAtom atom (optionsDecl atomField atom stored)).1.atomDecl := by
  have notAtomId : ∀ field ∈ atom.fields, field.number ≠ atomIdFieldNumber := by
    intro field member equal
    have fieldPositive := positive field member
    rw [equal] at fieldPositive
    exact absurd fieldPositive (by decide)
  have fresh : ∀ field ∈ atom.fields, ∀ annotationId,
      atomLevelRequests atomField.options field.number annotationId = none := by
    intro field member annotationId
    rw [atomLevelRequests, Function.update_of_ne (notAtomId field member)]
    rfl
  constructor
  · rw [collateAtom_header]
    simp [AtomDecl.header, optionsDecl, initialDecl]
  · rw [← requestFields_sortedFields atomField atom notAtomId]
    exact collateAtom_stores atom (optionsDecl atomField atom stored) accepted fresh stores

/-! ## Requested states -/

theorem messageRequests_of_mem {atom : Descriptor} {field : MessageFieldDescriptor}
    (member : field ∈ atom.fields) :
    messageRequests atom field.number = fieldRequests field.options := by
  rw [messageRequests]
  cases found : atom.fields.find? (·.number = field.number) with
  | none =>
      rw [List.find?_eq_none] at found
      exact absurd (decide_eq_true rfl) (found field member)
  | some other =>
      have sameNumber : other.number = field.number := by
        simpa using List.find?_some found
      rw [eq_of_number_eq (List.mem_of_find?_eq_some found) member sameNumber]

theorem fieldRequests_state {options : FieldOptions} {annotationId : AnnotationId}
    {value : AnnotationValue}
    (isState : annotationId = .triggerStateReset ∨ annotationId = .defaultState)
    (requested : fieldRequests options annotationId = some value) :
    Collated.isExclusiveState options = true ∧ ∃ state, value = .int state := by
  rcases isState with rfl | rfl <;>
    simp [fieldRequests, flag, FieldRestrictionOption.asksFor, StateAtomFieldOption.requests]
      at requested
  · rcases requested with ⟨exclusive, state, -, isState⟩
    exact ⟨exclusive, state, isState.symm⟩
  · rcases requested with ⟨exclusive, state, -, isState⟩
    exact ⟨exclusive, state, isState.symm⟩

/-- A state is requested on an exclusive state field, as a number. -/
theorem declRequests_state {atomField : AtomFieldDescriptor} {atom : Descriptor}
    {fieldNumber : Int} {annotationId : AnnotationId} {value : AnnotationValue}
    (isState : annotationId = .triggerStateReset ∨ annotationId = .defaultState)
    (requested : declRequests atomField atom fieldNumber annotationId = some value) :
    fieldNumber ≠ atomIdFieldNumber ∧ ∃ field ∈ atom.fields, field.number = fieldNumber ∧
      Collated.isExclusiveState field.options = true ∧ ∃ state, value = .int state := by
  rw [declRequests] at requested
  by_cases isAtom : fieldNumber = atomIdFieldNumber
  · rw [if_pos isAtom] at requested
    rcases isState with rfl | rfl <;> cases requested
  · rw [if_neg isAtom, messageRequests] at requested
    cases found : atom.fields.find? (·.number = fieldNumber) with
    | none =>
        rw [found] at requested
        cases requested
    | some field =>
        rw [found] at requested
        have number : field.number = fieldNumber := by simpa using List.find?_some found
        exact ⟨isAtom, field, List.mem_of_find?_eq_some found, number,
          fieldRequests_state isState requested⟩

theorem declRequests_of_mem {atomField : AtomFieldDescriptor} {atom : Descriptor}
    {field : MessageFieldDescriptor} (member : field ∈ atom.fields)
    (notAtom : field.number ≠ atomIdFieldNumber) :
    declRequests atomField atom field.number = fieldRequests field.options := by
  rw [← messageRequests_of_mem member]
  funext annotationId
  rw [declRequests, if_neg notAtom]

end StatsLogApiGen.Collation
