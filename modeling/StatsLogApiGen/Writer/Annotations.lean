import StatsLogApiGen.Writer.Event

/-!
# Annotations of a generated body

Every writer walks over the annotations of a field in the same way: the two
state annotations are put aside, the others are printed in order, and at the end
the reset is printed under a comparison with the argument.  The writers differ
in what they print for one annotation.
-/

namespace StatsLogApiGen.Writer

open Std
open StatsLogApiGen.Container
open StatsLogApiGen.Collation
open StatsLogApiGen.Program

universe u v w

/-! ## The annotations of a declaration -/

/-- The operation that an annotation asks for. -/
def annotationOp (ann : Annotation) : EventOp :=
  match ann.value with
  | .int intValue => .addAnnotationInt32 ann.annotationId.value intValue
  | .bool boolValue => .addAnnotationBool ann.annotationId.value boolValue

/-- The default state and the state that triggers a reset. -/
def declaresState (ann : Annotation) : Bool :=
  match ann.value with
  | .int _ => ann.annotationId = .triggerStateReset ∨ ann.annotationId = .defaultState
  | .bool _ => false

/-- The annotations that do not depend on the argument. -/
def directAnnotations (annotations : List Annotation) : List Annotation :=
  annotations.filter fun ann => !declaresState ann

/-- One step of `stateFrom`. -/
def nextState (annotationId : AnnotationId) (state : Int) (ann : Annotation) : Int :=
  match ann.value with
  | .int intValue => if ann.annotationId = annotationId then intValue else state
  | .bool _ => state

/-- The state that a state annotation declares; -1 stands for none. -/
def declaredState (annotationId : AnnotationId) (annotations : List Annotation) : Int :=
  annotations.foldl (nextState annotationId) (-1)

/-- Both states of a reset are declared. -/
def HasReset (annotations : List Annotation) : Prop :=
  declaredState .defaultState annotations ≠ -1 ∧
    declaredState .triggerStateReset annotations ≠ -1

instance (annotations : List Annotation) : Decidable (HasReset annotations) :=
  inferInstanceAs (Decidable (_ ∧ _))

/-- The reset that follows when the written value equals the state that triggers it. -/
def resetOps (annotations : List Annotation) (equals : Int → Bool) : List EventOp :=
  if HasReset annotations ∧ equals (declaredState .triggerStateReset annotations) then
    [.addAnnotationInt32 AnnotationId.triggerStateReset.value
      (declaredState .defaultState annotations)]
  else
    []

/-- The operations that the annotations of a field ask for when its value is compared by
`equals`. -/
def annotationOps (annotations : List Annotation) (equals : Int → Bool) : List EventOp :=
  (directAnnotations annotations).map annotationOp ++ resetOps annotations equals

/-- The annotations of a field in iteration order. -/
def annotationsOf (decl : AtomDecl) (fieldNumber : Int) : List Annotation :=
  elements (decl.fieldNumberToAnnotations[fieldNumber]?.getD ∅)

/-- The operations for the annotations of one field of a declaration. -/
def fieldOps (decl : AtomDecl) (fieldNumber : Int) (equals : Int → Bool) : List EventOp :=
  annotationOps (annotationsOf decl fieldNumber) equals

/-! ## Printing annotations -/

/-- What a writer prints for one annotation, and for the reset at the end. -/
structure AnnotationTemplates (α : Type u) where
  restriction : AnnotationStruct → Int → α
  int : AnnotationStruct → Int → α
  bool : AnnotationStruct → Bool → α
  reset : AnnotationStruct → Int → α

/-- The variables of the loop over an annotation set. -/
structure AnnotationScan (α : Type u) where
  resetState : Int := -1
  defaultState : Int := -1
  calls : List α := []

namespace AnnotationTemplates

variable {α : Type u}

/-- The body of the loop over an annotation set. -/
def scan (templates : AnnotationTemplates α) (constants : AnnotationIdConstants)
    (state : AnnotationScan α) (ann : Annotation) : AnnotationScan α :=
  let annotationConstant := constants ann.annotationId
  match ann.value with
  | .int intValue =>
      if ann.annotationId = .triggerStateReset then
        { state with resetState := intValue }
      else if ann.annotationId = .defaultState then
        { state with defaultState := intValue }
      else if ann.annotationId = .restrictionCategory then
        { state with
          calls := state.calls ++ [templates.restriction annotationConstant intValue] }
      else
        { state with calls := state.calls ++ [templates.int annotationConstant intValue] }
  | .bool boolValue =>
      { state with calls := state.calls ++ [templates.bool annotationConstant boolValue] }

/-- What is printed for an annotation that is no state. -/
def print (templates : AnnotationTemplates α) (constants : AnnotationIdConstants)
    (ann : Annotation) : α :=
  match ann.value with
  | .int intValue =>
      if ann.annotationId = .restrictionCategory then
        templates.restriction (constants ann.annotationId) intValue
      else
        templates.int (constants ann.annotationId) intValue
  | .bool boolValue => templates.bool (constants ann.annotationId) boolValue

/-- The loop finds the states and prints the other annotations in order. -/
theorem foldl_scan (templates : AnnotationTemplates α) (constants : AnnotationIdConstants)
    (annotations : List Annotation) (state : AnnotationScan α) :
    annotations.foldl (templates.scan constants) state =
      { resetState := annotations.foldl (nextState .triggerStateReset) state.resetState
        defaultState := annotations.foldl (nextState .defaultState) state.defaultState
        calls := state.calls ++
          (directAnnotations annotations).map (templates.print constants) } := by
  induction annotations generalizing state with
  | nil => simp [directAnnotations]
  | cons ann rest ih =>
      rw [List.foldl_cons, ih]
      obtain ⟨annotationId, atomId, value⟩ := ann
      cases value with
      | bool boolValue => simp [scan, nextState, directAnnotations, declaresState, print]
      | int intValue =>
          by_cases isReset : annotationId = .triggerStateReset
          · subst isReset
            simp [scan, nextState, directAnnotations, declaresState]
          · by_cases isDefault : annotationId = .defaultState
            · subst isDefault
              simp [scan, nextState, directAnnotations, declaresState]
            · by_cases isCategory : annotationId = .restrictionCategory
              · subst isCategory
                simp [scan, nextState, directAnnotations, declaresState, print]
              · simp [scan, nextState, directAnnotations, declaresState, print, isReset,
                  isDefault, isCategory]

end AnnotationTemplates

/-- The loop over an annotation set followed by the comparison for the reset. -/
def writeAnnotationSet {κ : Type u} {α : Type v} (templates : AnnotationTemplates α)
    (constants : AnnotationIdConstants) (isState : Int → κ) (annotations : AnnotationSet) :
    List (Code κ α) :=
  let scanned := (elements annotations).foldl (templates.scan constants) {}
  scanned.calls.map .call ++
    if scanned.defaultState ≠ -1 ∧ scanned.resetState ≠ -1 then
      [.when (isState scanned.resetState)
        (.call (templates.reset (constants .triggerStateReset) scanned.defaultState))]
    else
      []

/-- What is printed for an annotation set, without the loop. -/
theorem writeAnnotationSet_eq {κ : Type u} {α : Type v} (templates : AnnotationTemplates α)
    (constants : AnnotationIdConstants) (isState : Int → κ) (annotations : AnnotationSet) :
    writeAnnotationSet templates constants isState annotations =
      ((directAnnotations (elements annotations)).map fun ann =>
        .call (templates.print constants ann)) ++
      if HasReset (elements annotations) then
        [.when (isState (declaredState .triggerStateReset (elements annotations)))
          (.call (templates.reset (constants .triggerStateReset)
            (declaredState .defaultState (elements annotations))))]
      else
        [] := by
  rw [writeAnnotationSet, templates.foldl_scan, List.nil_append, List.map_map]
  rfl

/-- The loop over the declarations that are annotated on a field.  A declaration
of the set has annotations on the field, so `at` finds them. -/
def writeDeclAnnotations {α : Type v} (templates : AnnotationTemplates α)
    (constants : AnnotationIdConstants) (argIndex : Int)
    (fieldNumberToAtomDeclSet : FieldNumberToAtomDeclSet) : List (Code Condition α) :=
  match fieldNumberToAtomDeclSet[argIndex]? with
  | none => []
  | some atomDeclSet =>
      (elements atomDeclSet).map fun atomDecl =>
        .when (.codeIs (makeConstantName atomDecl.name))
          (.block (writeAnnotationSet templates constants (.argIs argIndex)
            (atomDecl.fieldNumberToAnnotations[argIndex]?.getD ∅)))

/-! ## Printed actions -/

section Printed

variable {κ : Type u} {α : Type v} {templates : AnnotationTemplates α} {property : α → Prop}

/-- Everything that is printed for annotations has a property. -/
structure AnnotationTemplates.All (templates : AnnotationTemplates α) (property : α → Prop) :
    Prop where
  restriction : ∀ constant category, property (templates.restriction constant category)
  int : ∀ constant value, property (templates.int constant value)
  bool : ∀ constant value, property (templates.bool constant value)
  reset : ∀ constant value, property (templates.reset constant value)

theorem AnnotationTemplates.All.print (all : templates.All property)
    (constants : AnnotationIdConstants) (ann : Annotation) :
    property (templates.print constants ann) := by
  rw [AnnotationTemplates.print]
  split
  · split
    · exact all.restriction _ _
    · exact all.int _ _
  · exact all.bool _ _

theorem allActions_annotationSet (all : templates.All property)
    (constants : AnnotationIdConstants) (isState : Int → κ) (annotations : AnnotationSet) :
    AllActions property (writeAnnotationSet templates constants isState annotations) := by
  rw [writeAnnotationSet_eq, allActions_append, allActions_map]
  constructor
  · intro ann _ action listed
    rw [List.mem_singleton.mp listed]
    exact all.print constants ann
  · split
    · intro code member action listed
      rw [List.mem_singleton.mp member] at listed
      rw [List.mem_singleton.mp listed]
      exact all.reset _ _
    · exact allActions_nil

theorem allActions_declAnnotations (all : templates.All property)
    (constants : AnnotationIdConstants) (argIndex : Int)
    (declSets : FieldNumberToAtomDeclSet) :
    AllActions property (writeDeclAnnotations templates constants argIndex declSets) := by
  rw [writeDeclAnnotations]
  split
  · exact allActions_nil
  · rw [allActions_map_when]
    intro atomDecl _
    exact allActions_annotationSet all constants _ _

end Printed

/-! ## Execution -/

section Execution

variable {κ : Type u} {α : Type v} {ε : Type w} {recorder : Recorder κ α EventOp ε}
  {templates : AnnotationTemplates α} {constants : AnnotationIdConstants}

/-- What the writer prints for an annotation that is no restriction category issues it. -/
structure IssuesAnnotations (recorder : Recorder κ α EventOp ε)
    (templates : AnnotationTemplates α) (constants : AnnotationIdConstants) : Prop where
  int : ∀ annotationId : AnnotationId, ∀ value : Int,
    recorder.event (templates.int (constants annotationId) value) =
      .ok (.addAnnotationInt32 annotationId.value value)
  bool : ∀ annotationId : AnnotationId, ∀ value : Bool,
    recorder.event (templates.bool (constants annotationId) value) =
      .ok (.addAnnotationBool annotationId.value value)
  reset : ∀ value : Int,
    recorder.event (templates.reset (constants .triggerStateReset) value) =
      .ok (.addAnnotationInt32 AnnotationId.triggerStateReset.value value)

/-- What the writer prints for the restriction categories with a property issues them. -/
def IssuesCategories (recorder : Recorder κ α EventOp ε) (templates : AnnotationTemplates α)
    (constants : AnnotationIdConstants) (allowed : Int → Prop) : Prop :=
  ∀ category, allowed category →
    recorder.event (templates.restriction (constants .restrictionCategory) category) =
      .ok (.addAnnotationInt32 AnnotationId.restrictionCategory.value category)

/-- A restriction category is one of the allowed ones. -/
def AllowsCategory (allowed : Int → Prop) (ann : Annotation) : Prop :=
  ann.annotationId = .restrictionCategory → ∀ category, ann.value = .int category →
    allowed category

theorem AllowsCategory.imp {allowed permitted : Int → Prop} {ann : Annotation}
    (allows : AllowsCategory allowed ann)
    (imp : ∀ category, allowed category → permitted category) :
    AllowsCategory permitted ann :=
  fun isCategory category isValue => imp category (allows isCategory category isValue)

/-- A restriction category has one of the four names. -/
def HasNamedCategory (ann : Annotation) : Prop :=
  ann.annotationId = .restrictionCategory →
    ann.value ∈ [.int 1, .int 2, .int 3, .int 4]

instance : DecidablePred HasNamedCategory :=
  fun ann => inferInstanceAs (Decidable (ann.annotationId = .restrictionCategory → _))

theorem HasNamedCategory.allowsCategory {ann : Annotation} (named : HasNamedCategory ann) :
    AllowsCategory IsNamedCategory ann := by
  intro isCategory category isValue
  have listed := named isCategory
  rw [isValue] at listed
  simp only [List.mem_cons, AnnotationValue.int.injEq, List.not_mem_nil, or_false] at listed
  rw [IsNamedCategory]
  omega

variable {allowed : Int → Prop} (issues : IssuesAnnotations recorder templates constants)
  (categories : IssuesCategories recorder templates constants allowed)

include issues categories

theorem IssuesAnnotations.print {ann : Annotation} (allows : AllowsCategory allowed ann) :
    recorder.event (templates.print constants ann) = .ok (annotationOp ann) := by
  obtain ⟨annotationId, atomId, value⟩ := ann
  cases value with
  | bool boolValue => exact issues.bool annotationId boolValue
  | int intValue =>
      by_cases isCategory : annotationId = .restrictionCategory
      · subst isCategory
        exact categories intValue (allows rfl intValue rfl)
      · change recorder.event (if annotationId = .restrictionCategory then _ else _) = _
        rw [if_neg isCategory]
        exact issues.int annotationId intValue

/-- The code for an annotation set issues what the set asks for. -/
theorem emits_annotationSet {isState : Int → κ} {annotations : AnnotationSet}
    {equals : Int → Bool}
    (allows : ∀ ann ∈ elements annotations, AllowsCategory allowed ann)
    (compared : HasReset (elements annotations) →
      recorder.holds (isState (declaredState .triggerStateReset (elements annotations))) =
        .ok (equals (declaredState .triggerStateReset (elements annotations)))) :
    Emits recorder (.block (writeAnnotationSet templates constants isState annotations))
      (annotationOps (elements annotations) equals) := by
  rw [writeAnnotationSet_eq, annotationOps]
  apply Emits.block_append
  · apply emits_block_calls
    intro ann member
    exact issues.print categories (allows ann (List.mem_of_mem_filter member))
  · by_cases hasReset : HasReset (elements annotations)
    · have holds := compared hasReset
      rw [if_pos hasReset, resetOps]
      apply Emits.singleton
      cases isReset : equals (declaredState .triggerStateReset (elements annotations)) with
      | true =>
          rw [if_pos ⟨hasReset, rfl⟩]
          apply Emits.when_true
          · rw [holds, isReset]
          · exact emits_call (issues.reset _)
      | false =>
          rw [if_neg fun both => Bool.false_ne_true both.2]
          apply emits_when_false
          rw [holds, isReset]
    · rw [if_neg hasReset, resetOps, if_neg fun both => hasReset both.1]
      exact emits_skip

end Execution

end StatsLogApiGen.Writer
