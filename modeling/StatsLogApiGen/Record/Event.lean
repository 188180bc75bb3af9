import StatsLogApiGen.Record.Atom

/-!
# Events are records

The event that every logger issues for an atom is the event of the record of the message
that is logged.
-/

namespace StatsLogApiGen.Record

open StatsLogApiGen.Container
open StatsLogApiGen.Format
open StatsLogApiGen.Proto
open StatsLogApiGen.Collation
open StatsLogApiGen.Writer

/-! ## Fields -/

section Registration

variable (registration : Registration)

theorem declRequests_atomId :
    declRequests registration.atomField registration.atom atomIdFieldNumber =
      atomRequests registration.atomField.options :=
  funext fun _ => by rw [declRequests, if_pos rfl]

/-- An atom itself has no states. -/
theorem noSentinel_atomId : NoSentinel
    (declRequests registration.atomField registration.atom atomIdFieldNumber) := by
  rw [declRequests_atomId]
  exact ⟨by simp [requestedState, atomRequests], by simp [requestedState, atomRequests]⟩

variable {registration}

/-- The fields are numbered from 1. -/
theorem number_of_getElem? {index : Nat} {field : MessageFieldDescriptor}
    (found : (sortedFields registration.atom)[index]? = some field) :
    field.number = 1 + index := by
  have numbers := (checkFieldNumbers_eq_nil_iff 1 (sortedFields registration.atom)).mp
    ((checkFieldNumbers_sortedFields registration.atom).mpr registration.rule.message.numbers)
  have here := congrArg (fun list : List Int => list[index]?) numbers
  have inRange := (List.getElem?_eq_some_iff.mp found).1
  simpa [List.getElem?_map, found, List.getElem?_range inRange] using here

theorem declRequests_field {index : Nat} {field : MessageFieldDescriptor}
    (found : (sortedFields registration.atom)[index]? = some field) :
    declRequests registration.atomField registration.atom (1 + index) =
      fieldRequests field.options := by
  rw [← number_of_getElem? found]
  apply declRequests_of_mem (mem_sortedFields.mp (List.mem_of_getElem? found))
  rw [number_of_getElem? found, atomIdFieldNumber]
  omega

/-- The arguments for a message have the types of the signature. -/
theorem callArguments_types {message : MessageValue} (fits : Fits message registration.atom) :
    (callArguments registration.atom message).map Argument.type =
      registration.decl.signature := by
  rw [← registration.signatureOf_eq, signatureOf, callArguments, List.map_map]
  apply List.map_congr_left
  intro field member
  exact (fits field (mem_sortedFields.mp member)).trans
    (signatureEntry_eq_lowered (registration.shape member)).symm

end Registration

/-- The declaration with the number of a selected atom is the one that is recorded for
it. -/
theorem exists_registered_of_code {registrations : List Registration}
    {descriptor : AtomDescriptor} {moduleName : String} {atoms : Atoms}
    (registered : Registered registrations atoms)
    (selected : registrations.map Registration.atomField = selectedAtoms descriptor moduleName)
    {atomField : AtomFieldDescriptor} (isSelected : atomField ∈ selectedAtoms descriptor moduleName)
    {atom : Descriptor} (type : atomField.type = .message atom) {decl : AtomDecl}
    (member : decl ∈ elements atoms.decls) (code : decl.code = atomField.number) :
    ∃ registration ∈ registrations, registration.atomField = atomField ∧
      registration.atom = atom ∧ registration.decl = decl := by
  obtain ⟨registration, registrationMem, isField, isAtom⟩ :=
    exists_registration selected isSelected type
  refine ⟨registration, registrationMem, isField, isAtom, ?_⟩
  apply List.inj_on_of_nodup_map (registered.faithful selected).codes_nodup
  · exact registered.decls.mem_elements.mpr (List.mem_map_of_mem registrationMem)
  · exact member
  · rw [code, registration.decl_code, isField]

theorem exists_registration_of_code {descriptor : AtomDescriptor} {moduleName : String}
    {atoms : Atoms} (accepted : collateAtoms descriptor moduleName {} = (0, atoms))
    {atomField : AtomFieldDescriptor} (isSelected : atomField ∈ selectedAtoms descriptor moduleName)
    {atom : Descriptor} (type : atomField.type = .message atom) {decl : AtomDecl}
    (member : decl ∈ elements atoms.decls) (code : decl.code = atomField.number) :
    ∃ registration : Registration, registration.atomField = atomField ∧
      registration.atom = atom ∧ registration.decl = decl := by
  obtain ⟨registrations, selected, registered⟩ := collateAtoms_registered accepted
  obtain ⟨registration, -, found⟩ :=
    exists_registered_of_code registered selected isSelected type member code
  exact ⟨registration, found⟩

/-! ## Operations -/

/-- A label as it is written to an event. -/
def eventLabel (label : Label AnnotationId) : Label Int :=
  ⟨label.annotationId.value, label.value⟩

theorem annotationOp_eq (ann : Annotation) :
    annotationOp ann = labelOp (eventLabel (labelOf ann)) := by
  obtain ⟨annotationId, atomId, value⟩ := ann
  cases value <;> rfl

theorem resetOps_eq (annotations : List Annotation) (equals : Int → Bool) :
    resetOps annotations equals =
      (stateResets annotations equals).map fun defaultState =>
        labelOp (eventLabel ⟨.triggerStateReset, .int defaultState⟩) := by
  rw [resetOps, stateResets]
  split <;> rfl

/-- The annotations of a field are written as the labels that the options ask for. -/
theorem fieldOps_decl (registration : Registration) {fieldNumber : Int}
    (noSentinel : NoSentinel
      (declRequests registration.atomField registration.atom fieldNumber))
    (equals : Int → Bool) :
    fieldOps registration.decl fieldNumber equals =
      ((labels (declRequests registration.atomField registration.atom fieldNumber)
        equals).map eventLabel).map labelOp := by
  have direct (annotations : List Annotation) :
      (annotations.map labelOf).map (labelOp ∘ eventLabel) = annotations.map annotationOp := by
    rw [List.map_map]
    exact List.map_congr_left fun ann _ => (annotationOp_eq ann).symm
  rw [fieldOps, annotationOps, annotationsOf_decl,
    labels_eq registration.atomField.number
      (integerStates_declRequests registration.atomField registration.atom fieldNumber) noSentinel,
    resetOps_eq, List.map_map, List.map_append, direct, List.map_map]
  rfl

section Message

variable {registration : Registration} {message : MessageValue}
  (fits : Fits message registration.atom) (keeps : KeepsStates registration.atom)

include fits keeps

/-- The comparison of a field with its state is exact. -/
theorem labels_field {index : Nat} {field : MessageFieldDescriptor}
    (found : (sortedFields registration.atom)[index]? = some field) :
    labels (declRequests registration.atomField registration.atom (1 + index))
        (message field.number).equals = (fieldRecord message field).labels := by
  have member := mem_sortedFields.mp (List.mem_of_getElem? found)
  rw [declRequests_field found]
  apply labels_congr
  intro state isState
  apply Argument.equals_eq_isNumber
  intro isFloat
  exact keeps.exact field member ((fits field member).symm.trans isFloat) state isState

omit fits in
theorem noSentinel_field {index : Nat} {field : MessageFieldDescriptor}
    (found : (sortedFields registration.atom)[index]? = some field) :
    NoSentinel (declRequests registration.atomField registration.atom (1 + index)) := by
  rw [declRequests_field found]
  exact keeps.noSentinel field (mem_sortedFields.mp (List.mem_of_getElem? found))

/-- The arguments from a field on are written as the records of the fields. -/
theorem argumentOps_decl {argIndex : Nat} {fields : List MessageFieldDescriptor}
    (isDrop : (sortedFields registration.atom).drop argIndex = fields) :
    argumentOps registration.decl (1 + argIndex)
        (fields.map fun field => message field.number) =
      (fields.map (Group.map eventLabel ∘ fieldRecord message)).flatMap valueOps := by
  induction fields generalizing argIndex with
  | nil => rfl
  | cons field rest ih =>
      have found : (sortedFields registration.atom)[argIndex]? = some field := by
        rw [← List.head?_drop, isDrop, List.head?_cons]
      have isRest : (sortedFields registration.atom).drop (argIndex + 1) = rest := by
        rw [← List.tail_drop, isDrop, List.tail_cons]
      have later := ih isRest
      rw [Int.natCast_add, Int.natCast_one, ← Int.add_assoc] at later
      rw [List.map_cons, argumentOps, fieldOps_decl registration (noSentinel_field keeps found),
        labels_field fits keeps found, later, List.map_cons, List.flatMap_cons]
      rfl

/-- The event of an atom is the event of the record of its message. -/
theorem atomEvent_decl :
    atomEvent registration.decl (callArguments registration.atom message) =
      recordEvent ((recordOf registration.atomField registration.atom message).map
        eventLabel) := by
  have values := argumentOps_decl fits keeps (@List.drop_zero _ (sortedFields registration.atom))
  rw [Int.natCast_zero, Int.add_zero, ← List.map_map] at values
  rw [atomEvent, fieldOps_decl registration (noSentinel_atomId registration),
    declRequests_atomId, callArguments, values, registration.decl_code]
  rfl

end Message

end StatsLogApiGen.Record
