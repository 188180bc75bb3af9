import StatsLogApiGen.Collation.Collate

/-!
# Annotation stores as partial functions

`fieldNumberToAnnotations` is a map of sets that the subscript operator and
`set::insert` fill.  What it stores is a partial function from a field number
and an annotation id to a value.  This file relates the two, says what every
step of collation asks for, and gives the annotations that the options of a
field or of an atom request without reference to the collating code.
-/

namespace StatsLogApiGen.Collation

open Std
open StatsLogApiGen.Container
open StatsLogApiGen.Proto

/-! ## Stores -/

/-- The values requested for one field, by annotation id. -/
abbrev FieldRequests := AnnotationId → Option AnnotationValue

/-- The values requested for every field number of an atom. -/
abbrev Requests := Int → FieldRequests

namespace Requests

def none : Requests := fun _ _ => .none

/-- Add a request, if there is one.  An earlier request for the same annotation
stays. -/
def add (requests : Requests) (fieldNumber : Int) (annotationId : AnnotationId)
    (value : Option AnnotationValue) : Requests :=
  fun field id =>
    if field = fieldNumber ∧ id = annotationId then
      (requests field id).or value
    else
      requests field id

@[simp]
theorem add_none (requests : Requests) (fieldNumber : Int) (annotationId : AnnotationId) :
    requests.add fieldNumber annotationId .none = requests := by
  funext field id
  simp [add]

theorem add_apply_self (requests : Requests) (fieldNumber : Int)
    (annotationId : AnnotationId) (value : Option AnnotationValue) (id : AnnotationId) :
    requests.add fieldNumber annotationId value fieldNumber id =
      if id = annotationId then (requests fieldNumber id).or value
      else requests fieldNumber id := by
  simp [add]

theorem add_apply_of_ne (requests : Requests) {fieldNumber other : Int}
    (notEqual : other ≠ fieldNumber) (annotationId : AnnotationId)
    (value : Option AnnotationValue) :
    requests.add fieldNumber annotationId value other = requests other := by
  funext id
  simp [add, notEqual]

end Requests

/-- The stored annotations of one field are exactly the requested ones: the
field has a set when something is requested, and the set holds every requested
annotation with its value and no other. -/
def StoresField (code : Int) (stored : Option AnnotationSet) (requests : FieldRequests) :
    Prop :=
  match stored with
  | none => ∀ annotationId, requests annotationId = none
  | some annotations =>
      (∃ annotationId, requests annotationId ≠ none) ∧
      ∀ key : AnnotationKey, annotations[key]? =
        if key.atomId = code then
          (requests key.annotationId).map fun value => ⟨key.annotationId, code, value⟩
        else
          none

/-- The annotations of an atom are exactly the requested ones. -/
def Stores (code : Int) (stored : FieldNumberToAnnotations) (requests : Requests) : Prop :=
  ∀ fieldNumber : Int, StoresField code stored[fieldNumber]? (requests fieldNumber)

theorem stores_none (code : Int) : Stores code ∅ Requests.none := by
  intro fieldNumber
  simp [StoresField, Requests.none]

/-- A field has an entry exactly when something is requested for it. -/
theorem Stores.mem_iff {code : Int} {stored : FieldNumberToAnnotations}
    {requests : Requests} (stores : Stores code stored requests) (fieldNumber : Int) :
    fieldNumber ∈ stored ↔ ∃ annotationId, requests fieldNumber annotationId ≠ none := by
  have field := stores fieldNumber
  rw [mem_iff_exists_getElem?]
  cases found : stored[fieldNumber]? with
  | none =>
      rw [found] at field
      simpa [StoresField] using field
  | some annotations =>
      rw [found] at field
      simpa using field.1

/-- The annotations of a field are the requested ones. -/
theorem Stores.mem_elements_iff {code : Int} {stored : FieldNumberToAnnotations}
    {requests : Requests} (stores : Stores code stored requests) {fieldNumber : Int}
    {ann : Annotation} :
    ann ∈ elements (stored[fieldNumber]?.getD ∅) ↔
      ann.atomId = code ∧ requests fieldNumber ann.annotationId = some ann.value := by
  have content := stores fieldNumber
  cases found : stored[fieldNumber]? with
  | none =>
      rw [found] at content
      rw [content ann.annotationId]
      simp [elements]
  | some annotations =>
      rw [found] at content
      rw [Option.getD_some, Container.mem_elements_iff]
      constructor
      · rintro ⟨key, listed⟩
        rw [content.2 key] at listed
        split at listed
        · rcases Option.map_eq_some_iff.mp listed with ⟨value, requested, rfl⟩
          exact ⟨rfl, requested⟩
        · contradiction
      · rintro ⟨isAtom, requested⟩
        refine ⟨⟨code, ann.annotationId⟩, ?_⟩
        rw [content.2, if_pos rfl, requested, ← isAtom]
        rfl

theorem StoresField.insertEntry {code : Int} {annotations : AnnotationSet}
    {requests : FieldRequests} (annotationId : AnnotationId) (value : AnnotationValue)
    (stored : ∀ key : AnnotationKey, annotations[key]? =
      if key.atomId = code then
        (requests key.annotationId).map fun value => ⟨key.annotationId, code, value⟩
      else
        none) :
    StoresField code (some (annotations.insertEntry ⟨annotationId, code, value⟩))
      (fun id => if id = annotationId then (requests id).or (some value) else requests id) := by
  constructor
  · refine ⟨annotationId, ?_⟩
    cases requests annotationId <;> simp
  · rintro ⟨atomId, id⟩
    rw [AnnotationSet.insertEntry, getElem?_insertIfNew, stored, stored]
    by_cases sameAtom : atomId = code
    · by_cases sameId : id = annotationId
      · subst atomId id
        cases requests annotationId <;> simp +contextual [ Annotation.key]
      · simp [sameId, Ne.symm sameId, Annotation.key]
    · simp [sameAtom, Ne.symm sameAtom, Annotation.key]

/-- `addAnnotationToAtomDecl` adds one request. -/
theorem Stores.add (collated : Collated) {requests : Requests}
    (stores : Stores collated.atomDecl.code collated.atomDecl.fieldNumberToAnnotations requests)
    (fieldNumber : Int) (annotationId : AnnotationId) (value : AnnotationValue) :
    Stores collated.atomDecl.code
      (collated.addAnnotationToAtomDecl fieldNumber annotationId
        value).atomDecl.fieldNumberToAnnotations
      (requests.add fieldNumber annotationId (some value)) := by
  intro field
  simp only [Collated.addAnnotationToAtomDecl, getElem?_upsert]
  by_cases sameField : fieldNumber = field
  · subst field
    rw [if_pos rfl]
    have before := stores fieldNumber
    have requested : requests.add fieldNumber annotationId (some value) fieldNumber =
        fun id => if id = annotationId then (requests fieldNumber id).or (some value)
          else requests fieldNumber id :=
      funext (Requests.add_apply_self requests fieldNumber annotationId (some value))
    rw [requested]
    cases found : collated.atomDecl.fieldNumberToAnnotations[fieldNumber]? with
    | none =>
        rw [found] at before
        apply StoresField.insertEntry
        intro key
        simp [before key.annotationId]
    | some annotations =>
        rw [found] at before
        exact StoresField.insertEntry annotationId value before.2
  · rw [if_neg sameField, Requests.add_apply_of_ne requests (Ne.symm sameField)]
    exact stores field

/-! ## What the options request -/

/-- The request of an option flag. -/
def flag (isSet : Bool) : Option AnnotationValue :=
  if isSet then some (.bool true) else none

/-- The annotations that the state option of a field asks for.  Default, reset
and nested values count on the exclusive state field only. -/
def StateAtomFieldOption.requests (option : StateAtomFieldOption) : FieldRequests
  | .primaryField => flag option.primaryField
  | .primaryFieldFirstUid => flag option.primaryFieldFirstUid
  | .exclusiveState => flag option.exclusiveState
  | .defaultState => if option.exclusiveState then option.defaultStateValue.map .int else none
  | .triggerStateReset =>
      if option.exclusiveState then option.triggerStateResetValue.map .int else none
  | .stateNested => if option.exclusiveState then option.nested.map .bool else none
  | _ => none

/-- The flag of a field restriction that asks for an annotation. -/
def FieldRestrictionOption.asksFor (option : FieldRestrictionOption) : AnnotationId → Bool
  | .fieldRestrictionPeripheralDeviceInfo => option.peripheralDeviceInfo
  | .fieldRestrictionAppUsage => option.appUsage
  | .fieldRestrictionAppActivity => option.appActivity
  | .fieldRestrictionHealthConnect => option.healthConnect
  | .fieldRestrictionAccessibility => option.accessibility
  | .fieldRestrictionSystemSearch => option.systemSearch
  | .fieldRestrictionUserEngagement => option.userEngagement
  | .fieldRestrictionAmbientSensing => option.ambientSensing
  | .fieldRestrictionDemographicClassification => option.demographicClassification
  | _ => false

/-- The annotations that the options of a message field ask for. -/
def fieldRequests (options : FieldOptions) : FieldRequests
  | .isUid => flag options.getIsUid
  | annotationId =>
      (flag (FieldRestrictionOption.asksFor (options.fieldRestrictionOption.getD {})
        annotationId)).or
      (StateAtomFieldOption.requests (options.stateFieldOption.getD {}) annotationId)

/-- The annotations that the options of an atom field ask for. -/
def atomRequests (options : FieldOptions) : FieldRequests
  | .truncateTimestamp => flag options.getTruncateTimestamp
  | .restrictionCategory => options.restrictionCategory.map fun category => .int category.number
  | _ => none

end StatsLogApiGen.Collation
