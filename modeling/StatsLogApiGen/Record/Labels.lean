import StatsLogApiGen.Container.OrderedMap
import StatsLogApiGen.Writer.StateReset

/-!
# Labels

The labels that the options of a field ask for, read off the descriptor without any set
of annotations.  The annotations that collation stores, in the order in which every
writer goes over them, come to the same labels.
-/

namespace StatsLogApiGen.Record

open Std
open StatsLogApiGen.Container
open StatsLogApiGen.Proto
open StatsLogApiGen.Collation
open StatsLogApiGen.Writer

universe u

/-- An annotation at a value, with what identifies it. -/
structure Label (ι : Type u) where
  annotationId : ι
  value : AnnotationValue
  deriving DecidableEq, Repr

/-! ## Requested labels -/

/-- The two states of a reset are no labels of their own. -/
def isStateId : AnnotationId → Bool
  | .triggerStateReset | .defaultState => true
  | _ => false

section Requests

variable (requests : FieldRequests)

/-- The label that an annotation id gets whatever the value is. -/
def directLabel? (annotationId : AnnotationId) : Option (Label AnnotationId) :=
  if isStateId annotationId then none
  else (requests annotationId).map fun value => ⟨annotationId, value⟩

/-- A requested state. -/
def requestedState (annotationId : AnnotationId) : Option Int :=
  match requests annotationId with
  | some (.int state) => some state
  | _ => none

/-- The reset to the default state, where the value is the state that triggers it. -/
def resetLabels (isNumber : Int → Bool) : List (Label AnnotationId) :=
  match requestedState requests .defaultState, requestedState requests .triggerStateReset with
  | some defaultState, some resetState =>
      if isNumber resetState then [⟨.triggerStateReset, .int defaultState⟩] else []
  | _, _ => []

/-- The labels of a value that is the numbers for which `isNumber` holds. -/
def labels (isNumber : Int → Bool) : List (Label AnnotationId) :=
  annotationIds.filterMap (directLabel? requests) ++ resetLabels requests isNumber

/-- The labels depend on whether the value is the state that triggers the reset. -/
theorem labels_congr {first second : Int → Bool}
    (same : ∀ state ∈ requestedState requests .triggerStateReset, first state = second state) :
    labels requests first = labels requests second := by
  rw [labels, labels, resetLabels, resetLabels]
  cases isReset : requestedState requests .triggerStateReset with
  | none => cases requestedState requests .defaultState <;> rfl
  | some resetState =>
      cases requestedState requests .defaultState with
      | none => rfl
      | some defaultState => simp only [same resetState isReset]

/-- No requested state is -1, which the writers take for none. -/
structure NoSentinel : Prop where
  defaultState : requestedState requests .defaultState ≠ some (-1)
  resetState : requestedState requests .triggerStateReset ≠ some (-1)

instance : Decidable (NoSentinel requests) :=
  decidable_of_iff (_ ∧ _) ⟨fun both => ⟨both.1, both.2⟩, fun apart => ⟨apart.1, apart.2⟩⟩

end Requests

/-- The states are requested as numbers. -/
def IntegerStates (requests : FieldRequests) : Prop :=
  ∀ annotationId value, isStateId annotationId = true → requests annotationId = some value →
    ∃ state, value = .int state

theorem integerStates_declRequests (atomField : AtomFieldDescriptor) (atom : Descriptor)
    (fieldNumber : Int) : IntegerStates (declRequests atomField atom fieldNumber) := by
  intro annotationId value isState isRequested
  have stateCases : annotationId = .triggerStateReset ∨ annotationId = .defaultState := by
    cases annotationId <;> first | exact .inl rfl | exact .inr rfl | contradiction
  obtain ⟨-, field, -, -, -, state, isNumber⟩ := declRequests_state stateCases isRequested
  exact ⟨state, isNumber⟩

/-! ## Requested annotations -/

/-- The annotation that is stored for a request. -/
def requested? (code : Int) (requests : FieldRequests) (annotationId : AnnotationId) :
    Option Annotation :=
  (requests annotationId).map fun value => ⟨annotationId, code, value⟩

/-- The annotations that are stored for a field, in the order of the constants table. -/
def requestedAnnotations (code : Int) (requests : FieldRequests) : List Annotation :=
  annotationIds.filterMap (requested? code requests)

theorem mem_annotationIds (annotationId : AnnotationId) : annotationId ∈ annotationIds := by
  cases annotationId <;> decide

theorem ascending_annotationIds : Ascending id annotationIds :=
  (by decide : annotationIds.Pairwise (Precedes id))

theorem compare_annotationKey (code : Int) (first second : AnnotationId) :
    compare (AnnotationKey.mk code first) ⟨code, second⟩ = compare first second := by
  change (compare code code).then (compare first second) = _
  rw [ReflOrd.compare_self]
  rfl

section Requested

variable {code : Int} {requests : FieldRequests}

theorem requested?_eq_some {annotationId : AnnotationId} {value : AnnotationValue}
    (isRequested : requests annotationId = some value) :
    requested? code requests annotationId = some ⟨annotationId, code, value⟩ := by
  rw [requested?, isRequested]
  rfl

theorem mem_requestedAnnotations {ann : Annotation} :
    ann ∈ requestedAnnotations code requests ↔
      ann.atomId = code ∧ requests ann.annotationId = some ann.value := by
  rw [requestedAnnotations, List.mem_filterMap]
  constructor
  · rintro ⟨annotationId, -, isAnn⟩
    obtain ⟨value, isRequested, rfl⟩ := Option.map_eq_some_iff.mp isAnn
    exact ⟨rfl, isRequested⟩
  · rintro ⟨rfl, isRequested⟩
    exact ⟨ann.annotationId, mem_annotationIds _, requested?_eq_some isRequested⟩

theorem ascending_requestedAnnotations (code : Int) (requests : FieldRequests) :
    Ascending Annotation.key (requestedAnnotations code requests) := by
  apply ascending_annotationIds.filterMap
  intro first second ann other isAnn isOther before
  obtain ⟨value, -, rfl⟩ := Option.map_eq_some_iff.mp isAnn
  obtain ⟨otherValue, -, rfl⟩ := Option.map_eq_some_iff.mp isOther
  exact (compare_annotationKey code first second).trans before

/-- The state that the loop over the annotations finds is the requested one. -/
theorem requestedState_eq (code : Int) (integerStates : IntegerStates requests)
    {annotationId : AnnotationId} (isState : isStateId annotationId = true)
    (notSentinel : requestedState requests annotationId ≠ some (-1)) :
    requestedState requests annotationId =
      if declaredState annotationId (requestedAnnotations code requests) = -1 then none
      else some (declaredState annotationId (requestedAnnotations code requests)) := by
  rw [requestedState] at notSentinel ⊢
  cases isRequested : requests annotationId with
  | none =>
      have absent : ∀ ann ∈ requestedAnnotations code requests,
          ann.annotationId ≠ annotationId := by
        rintro ann member rfl
        rw [(mem_requestedAnnotations.mp member).2] at isRequested
        contradiction
      rw [declaredState, foldl_nextState_of_absent absent]
      rfl
  | some value =>
      obtain ⟨state, rfl⟩ := integerStates annotationId value isState isRequested
      have declared :
          declaredState annotationId (requestedAnnotations code requests) = state := by
        apply foldl_nextState_of_present
        · rintro ann member rfl
          rw [(mem_requestedAnnotations.mp member).2] at isRequested
          exact Option.some.inj isRequested
        · exact ⟨⟨annotationId, code, .int state⟩,
            mem_requestedAnnotations.mpr ⟨rfl, isRequested⟩, rfl⟩
      rw [isRequested] at notSentinel
      rw [declared, if_neg]
      rintro rfl
      exact notSentinel rfl

/-- The reset that the writers print is the requested one. -/
theorem resetLabels_eq (code : Int) (integerStates : IntegerStates requests)
    (noSentinel : NoSentinel requests) (equals : Int → Bool) :
    resetLabels requests equals =
      (stateResets (requestedAnnotations code requests) equals).map fun defaultState =>
        ⟨.triggerStateReset, .int defaultState⟩ := by
  have defaultState := requestedState_eq code integerStates rfl noSentinel.defaultState
  have resetState := requestedState_eq code integerStates rfl noSentinel.resetState
  rw [resetLabels, defaultState, resetState, stateResets]
  by_cases noDefault :
      declaredState .defaultState (requestedAnnotations code requests) = -1
  · simp [HasReset, noDefault]
  · by_cases noReset :
        declaredState .triggerStateReset (requestedAnnotations code requests) = -1
    · simp [HasReset, noReset]
    · simp only [HasReset, noDefault, noReset, if_false, ne_eq, not_false_eq_true, and_self,
        true_and]
      split <;> rfl

theorem declaresState_eq (integerStates : IntegerStates requests)
    {annotationId : AnnotationId} {value : AnnotationValue}
    (isRequested : requests annotationId = some value) :
    declaresState ⟨annotationId, code, value⟩ = isStateId annotationId := by
  cases value with
  | int state => cases annotationId <;> rfl
  | bool isSet =>
      cases isState : isStateId annotationId with
      | false => rfl
      | true =>
          obtain ⟨state, isNumber⟩ := integerStates annotationId _ isState isRequested
          contradiction

/-- The label of an annotation that is no state. -/
def labelOf (ann : Annotation) : Label AnnotationId :=
  ⟨ann.annotationId, ann.value⟩

/-- The annotations that are printed in order are the ones that are no states. -/
theorem map_labelOf_directAnnotations (code : Int) (integerStates : IntegerStates requests) :
    (directAnnotations (requestedAnnotations code requests)).map labelOf =
      annotationIds.filterMap (directLabel? requests) := by
  rw [requestedAnnotations]
  induction annotationIds with
  | nil => rfl
  | cons annotationId rest ih =>
      cases isRequested : requests annotationId with
      | none =>
          have noAnn : requested? code requests annotationId = none := by
            rw [requested?, isRequested]
            rfl
          have noLabel : directLabel? requests annotationId = none := by
            rw [directLabel?, isRequested]
            exact ite_self _
          rw [List.filterMap_cons_none noAnn, List.filterMap_cons_none noLabel, ih]
      | some value =>
          have direct := @declaresState_eq code _ integerStates _ _ isRequested
          rw [List.filterMap_cons_some (requested?_eq_some isRequested), directAnnotations,
            List.filter_cons, direct]
          cases isState : isStateId annotationId with
          | true =>
              have noLabel : directLabel? requests annotationId = none := by
                rw [directLabel?, isState]
                rfl
              rw [List.filterMap_cons_none noLabel, ← ih]
              rfl
          | false =>
              have isLabel : directLabel? requests annotationId = some ⟨annotationId, value⟩ := by
                rw [directLabel?, isState, isRequested]
                rfl
              rw [List.filterMap_cons_some isLabel, ← ih]
              rfl

/-- What is printed in order, and the reset at the end, are the labels of the requests. -/
theorem labels_eq (code : Int) (integerStates : IntegerStates requests)
    (noSentinel : NoSentinel requests) (equals : Int → Bool) :
    labels requests equals =
      (directAnnotations (requestedAnnotations code requests)).map labelOf ++
        (stateResets (requestedAnnotations code requests) equals).map fun defaultState =>
          ⟨.triggerStateReset, .int defaultState⟩ := by
  rw [labels, map_labelOf_directAnnotations code integerStates,
    resetLabels_eq code integerStates noSentinel]

end Requested

/-! ## Stored annotations -/

section Stored

variable {code : Int} {stored : FieldNumberToAnnotations} {requests : Requests}

/-- A stored annotation can be found under its own key only. -/
theorem key_of_stores (stores : Stores code stored requests) {fieldNumber : Int}
    (key : AnnotationKey) (ann : Annotation)
    (found : (stored[fieldNumber]?.getD ∅)[key]? = some ann) : ann.key = key := by
  have content := stores fieldNumber
  cases isSet : stored[fieldNumber]? with
  | none =>
      rw [isSet] at found
      simp at found
  | some annotations =>
      rw [isSet] at content found
      rw [Option.getD_some, content.2] at found
      split at found
      · rename_i isCode
        obtain ⟨value, -, rfl⟩ := Option.map_eq_some_iff.mp found
        rw [ Annotation.key, ← isCode]
      · contradiction

/-- The stored annotations are visited in the order of the constants table. -/
theorem elements_of_stores (stores : Stores code stored requests) (fieldNumber : Int) :
    elements (stored[fieldNumber]?.getD ∅) =
      requestedAnnotations code (requests fieldNumber) := by
  apply Ascending.eq_of_mem_iff (pairwise_elements_of_keyed (key_of_stores stores))
    (ascending_requestedAnnotations code (requests fieldNumber))
  intro ann
  rw [stores.mem_elements_iff, mem_requestedAnnotations]

end Stored

/-- The annotations of a declaration are the ones that the options of its atom ask for. -/
theorem annotationsOf_decl (registration : Registration) (fieldNumber : Int) :
    annotationsOf registration.decl fieldNumber =
      requestedAnnotations registration.atomField.number
        (declRequests registration.atomField registration.atom fieldNumber) :=
  elements_of_stores registration.describes.stores fieldNumber

end StatsLogApiGen.Record
