import StatsLogApiGen.Collation.Faithful
import StatsLogApiGen.Vendor.JavaRun
import StatsLogApiGen.Vendor.NativeWriter

/-!
# The annotations in vendor methods

Both vendor writers print the names of the annotation constants, and the values with them, at the
same places of a method.  Which annotations these are does not depend on the names, so a method
tells which names it was written with as soon as it has an annotation.
-/

namespace StatsLogApiGen.Vendor

open Std
open StatsLogApiGen.Container
open StatsLogApiGen.Proto
open StatsLogApiGen.Collation
open StatsLogApiGen.Program
open StatsLogApiGen.Writer

/-! ## Printed annotations -/

/-- The annotations that are printed for a field of a declaration, with their values, the reset
last. -/
def printedAnnotations (annotations : List Annotation) : List (AnnotationId × ValueOperand) :=
  (directAnnotations annotations).map (fun ann => (ann.annotationId, printedValue ann)) ++
    if HasReset annotations then
      [(.triggerStateReset, .intValue (.literal (declaredState .defaultState annotations)))]
    else
      []

/-- The annotations that are printed for a field. -/
def fieldAnnotations (argIndex : Int) (atomDeclSet : AtomDeclSet) :
    List (AnnotationId × ValueOperand) :=
  (elements atomDeclSet).flatMap fun atomDecl =>
    printedAnnotations (annotationsOf atomDecl argIndex)

/-- The annotations that are printed in the method for a signature. -/
def methodAnnotations (entry : Signature × FieldNumberToAtomDeclSet) :
    List (AnnotationId × ValueOperand) :=
  fieldAnnotations atomIdFieldNumber (getAnnotations atomIdFieldNumber entry.2) ++
    (valueArgIndices entry.1).flatMap fun argIndex =>
      fieldAnnotations argIndex (getAnnotations argIndex entry.2)

/-- Annotations under the names of their constants. -/
def withNames (constants : AnnotationIdConstants) (printed : List (AnnotationId × ValueOperand)) :
    List (String × ValueOperand) :=
  printed.map fun pair => ((constants pair.1).name, pair.2)

theorem fieldAnnotations_of_empty {argIndex : Int} {atomDeclSet : AtomDeclSet}
    (empty : ¬(elements atomDeclSet).length > 0) : fieldAnnotations argIndex atomDeclSet = [] := by
  rw [fieldAnnotations, List.eq_nil_of_length_eq_zero (Nat.eq_zero_of_not_pos empty)]
  rfl

theorem valuesAnnotations_of_none {signature : Signature} {declSets : FieldNumberToAtomDeclSet}
    (none : ¬atomWithFieldsAnnotations signature declSets = true) :
    ((valueArgIndices signature).flatMap fun argIndex =>
      fieldAnnotations argIndex (getAnnotations argIndex declSets)) = [] := by
  rw [List.flatMap_eq_nil_iff]
  intro argIndex member
  apply fieldAnnotations_of_empty
  intro annotated
  apply none
  exact List.any_eq_true.mpr ⟨argIndex, member, decide_eq_true annotated⟩

/-! ## Annotated fields of accepted atoms -/

/-- The options that ask for a state on a field also ask for the exclusive state. -/
theorem exists_direct_request {atomField : AtomFieldDescriptor} {atom : Descriptor}
    {fieldNumber : Int}
    (requested : ∃ annotationId, declRequests atomField atom fieldNumber annotationId ≠ none) :
    ∃ annotationId, declRequests atomField atom fieldNumber annotationId ≠ none ∧
      annotationId ≠ .triggerStateReset ∧ annotationId ≠ .defaultState := by
  rcases requested with ⟨annotationId, asked⟩
  by_cases isState : annotationId = .triggerStateReset ∨ annotationId = .defaultState
  · refine ⟨.exclusiveState, ?_, by decide, by decide⟩
    rw [declRequests] at asked ⊢
    by_cases isAtomId : fieldNumber = atomIdFieldNumber
    · rw [if_pos isAtomId] at asked
      rcases isState with rfl | rfl <;> exact absurd rfl asked
    · rw [if_neg isAtomId, messageRequests] at asked ⊢
      cases found : atom.fields.find? (·.number = fieldNumber) with
      | none =>
          rw [found] at asked
          exact absurd rfl asked
      | some field =>
          rw [found] at asked
          have exclusive :
              (field.options.stateFieldOption.getD {}).exclusiveState = true := by
            by_contra notExclusive
            rcases isState with rfl | rfl <;>
              simp [fieldRequests, flag, FieldRestrictionOption.asksFor,
                StateAtomFieldOption.requests, notExclusive] at asked
          simp [fieldRequests, flag, FieldRestrictionOption.asksFor,
            StateAtomFieldOption.requests, exclusive]
  · rw [not_or] at isState
    exact ⟨annotationId, asked, isState.1, isState.2⟩

/-- An annotated field of an accepted atom has an annotation that is no state. -/
theorem exists_direct_of_stores {atomField : AtomFieldDescriptor} {atom : Descriptor}
    {code fieldNumber : Int} {stored : FieldNumberToAnnotations}
    (stores : Stores code stored (declRequests atomField atom))
    (annotated : fieldNumber ∈ stored) :
    ∃ ann ∈ elements (stored[fieldNumber]?.getD ∅), ann.annotationId ≠ .triggerStateReset ∧
      ann.annotationId ≠ .defaultState := by
  rcases exists_direct_request ((stores.mem_iff fieldNumber).mp annotated) with
    ⟨annotationId, asked, notReset, notDefault⟩
  rcases Option.ne_none_iff_exists'.mp asked with ⟨value, requested⟩
  exact ⟨⟨annotationId, code, value⟩, stores.mem_elements_iff.mpr ⟨rfl, requested⟩, notReset,
    notDefault⟩

/-- Only the two states depend on the argument. -/
theorem declaresState_eq_false {ann : Annotation} (notReset : ann.annotationId ≠ .triggerStateReset)
    (notDefault : ann.annotationId ≠ .defaultState) : declaresState ann = false := by
  rcases ann with ⟨annotationId, atomId, value⟩
  cases value <;> simp_all [declaresState]

/-- Something is printed for an annotated field of an accepted atom. -/
theorem printedAnnotations_ne_nil {registration : Registration} {fieldNumber : Int}
    (annotated : fieldNumber ∈ registration.decl.fieldNumberToAnnotations) :
    printedAnnotations (annotationsOf registration.decl fieldNumber) ≠ [] := by
  rcases exists_direct_of_stores registration.describes.stores annotated with
    ⟨ann, member, notReset, notDefault⟩
  have direct := declaresState_eq_false notReset notDefault
  have listed : ann ∈ directAnnotations (annotationsOf registration.decl fieldNumber) :=
    List.mem_filter.mpr ⟨member, by rw [direct]; rfl⟩
  rw [printedAnnotations]
  intro empty
  have none := List.map_eq_nil_iff.mp (List.append_eq_nil_iff.mp empty).1
  rw [none] at listed
  contradiction

/-! ## Annotations in code -/

section Names

variable {κ α ι : Type} (stored? : α → Option (String × ValueOperand))

/-- The annotations that the statements of a body store, in order. -/
def storedAnnotations (body : List (Code κ α)) : List (String × ValueOperand) :=
  (body.flatMap Code.actions).filterMap stored?

@[simp]
theorem storedAnnotations_append (first second : List (Code κ α)) :
    storedAnnotations stored? (first ++ second) =
      storedAnnotations stored? first ++ storedAnnotations stored? second := by
  rw [storedAnnotations, List.flatMap_append, List.filterMap_append]
  rfl

theorem storedAnnotations_cons (first : Code κ α) (rest : List (Code κ α)) :
    storedAnnotations stored? (first :: rest) =
      first.actions.filterMap stored? ++ storedAnnotations stored? rest := by
  rw [storedAnnotations, List.flatMap_cons, List.filterMap_append]
  rfl

theorem storedAnnotations_flatMap (items : List ι) (code : ι → List (Code κ α)) :
    storedAnnotations stored? (items.flatMap code) =
      items.flatMap fun item => storedAnnotations stored? (code item) := by
  induction items with
  | nil => rfl
  | cons item rest ih =>
      rw [List.flatMap_cons, storedAnnotations_append, ih, List.flatMap_cons]

theorem storedAnnotations_map (items : List ι) (code : ι → Code κ α) :
    storedAnnotations stored? (items.map code) =
      items.flatMap fun item => (code item).actions.filterMap stored? := by
  induction items with
  | nil => rfl
  | cons item rest ih =>
      rw [List.map_cons, storedAnnotations_cons, ih, List.flatMap_cons]

theorem storedAnnotations_eq_nil {body : List (Code κ α)}
    (silent : ∀ code ∈ body, code.actions.filterMap stored? = []) :
    storedAnnotations stored? body = [] := by
  rw [storedAnnotations, List.filterMap_flatMap, List.flatMap_eq_nil_iff]
  exact silent

/-- The loop over the values stores nothing. -/
theorem storedAnnotations_setValues {setValue : Int → ValueTag → Int → α}
    {argIndex : Int} {signature : Signature} {values : List (Code κ α)}
    (written : eachArg (fun argIndex argType => (valueTag argType).map fun tag =>
      .call (setValue (argIndex - 2) tag argIndex)) argIndex signature = .ok values)
    (silent : ∀ slot tag position, stored? (setValue slot tag position) = none) :
    storedAnnotations stored? values = [] := by
  apply storedAnnotations_eq_nil
  intro code member
  rcases exists_setValue_of_mem setValue written member with ⟨slot, tag, position, rfl⟩
  exact List.filterMap_cons_none (silent slot tag position)

theorem filterMap_actions_block (body : List (Code κ α)) :
    (Code.block body).actions.filterMap stored? = storedAnnotations stored? body := by
  rw [actions_block]
  rfl

end Names

theorem withNames_flatMap {ι : Type} (constants : AnnotationIdConstants) (items : List ι)
    (printed : ι → List (AnnotationId × ValueOperand)) :
    withNames constants (items.flatMap printed) =
      items.flatMap fun item => withNames constants (printed item) :=
  List.map_flatMap

theorem withNames_append (constants : AnnotationIdConstants)
    (first second : List (AnnotationId × ValueOperand)) :
    withNames constants (first ++ second) =
      withNames constants first ++ withNames constants second :=
  List.map_append

/-! ## The native methods -/

namespace Native

/-- The annotation that a statement stores. -/
def Statement.stored? : Statement → Option (String × ValueOperand)
  | .pushBack constantName value => some (constantName, value)
  | _ => none

variable (constants : AnnotationIdConstants)

theorem stored?_print (ann : Annotation) :
    (annotationTemplates.print constants ann).stored? =
      some ((constants ann.annotationId).name, printedValue ann) := by
  rw [AnnotationTemplates.print, printedValue]
  cases ann.value with
  | bool boolValue => rfl
  | int intValue =>
      dsimp only
      split <;> rfl

theorem storedAnnotations_writeAnnotationSet (isState : Int → Test) (annotations : AnnotationSet) :
    storedAnnotations Statement.stored?
        (writeAnnotationSet annotationTemplates constants isState annotations) =
      withNames constants (printedAnnotations (elements annotations)) := by
  rw [writeAnnotationSet_eq, storedAnnotations_append, storedAnnotations_map, printedAnnotations,
    withNames_append]
  congr 1
  · rw [withNames, List.map_map, List.map_eq_flatMap]
    apply List.flatMap_congr
    intro ann _
    simp [Code.actions, stored?_print]
  · split <;> rfl

theorem storedAnnotations_writeNativeAnnotationsVendorForField (argIndex : Int)
    (atomDeclSet : AtomDeclSet) :
    storedAnnotations Statement.stored?
        (writeNativeAnnotationsVendorForField constants argIndex atomDeclSet) =
      withNames constants (fieldAnnotations argIndex atomDeclSet) := by
  rw [writeNativeAnnotationsVendorForField, storedAnnotations_map, fieldAnnotations,
    withNames_flatMap]
  apply List.flatMap_congr
  intro atomDecl _
  have handedOver : (handOver argIndex).actions.filterMap Statement.stored? = [] := by
    rw [handOver]
    split <;> rfl
  rw [Code.actions, writeDeclBlock, filterMap_actions_block, storedAnnotations_cons,
    storedAnnotations_append, storedAnnotations_writeAnnotationSet, storedAnnotations_cons,
    handedOver]
  simp [Code.actions, Statement.stored?, storedAnnotations, annotationsOf]

theorem storedAnnotations_writeAtomAnnotations (declSets : FieldNumberToAtomDeclSet) :
    storedAnnotations Statement.stored? (writeAtomAnnotations constants declSets) =
      withNames constants
        (fieldAnnotations atomIdFieldNumber (getAnnotations atomIdFieldNumber declSets)) := by
  rw [writeAtomAnnotations]
  split
  · rw [storedAnnotations_cons, storedAnnotations_append,
      storedAnnotations_writeNativeAnnotationsVendorForField]
    simp [Code.actions, Statement.stored?, storedAnnotations, List.filterMap_cons]
  · rename_i empty
    rw [fieldAnnotations_of_empty empty]
    rfl

theorem storedAnnotations_writeFieldsAnnotations (signature : Signature)
    (declSets : FieldNumberToAtomDeclSet) :
    storedAnnotations Statement.stored?
        (writeFieldsAnnotations constants signature declSets) =
      withNames constants ((valueArgIndices signature).flatMap fun argIndex =>
        fieldAnnotations argIndex (getAnnotations argIndex declSets)) := by
  rw [writeFieldsAnnotations]
  split
  · rw [storedAnnotations_cons, storedAnnotations_append, storedAnnotations_flatMap,
      withNames_flatMap]
    simp only [storedAnnotations_writeNativeAnnotationsVendorForField]
    simp [Code.actions, Statement.stored?, storedAnnotations, List.filterMap_cons]
  · rename_i none
    rw [valuesAnnotations_of_none none]
    rfl

/-- The names in a completed method are those of its annotations. -/
theorem storedAnnotations_method {attributionDecl : AtomDecl}
    {entry : Signature × FieldNumberToAtomDeclSet} {method : Method}
    (written : writeNativeCreateVendorAtomMethod constants attributionDecl entry = .ok method) :
    storedAnnotations Statement.stored? method.body =
      withNames constants (methodAnnotations entry) := by
  rcases map_eq_ok_iff.mp written with ⟨values, valuesWritten, rfl⟩
  have silent : storedAnnotations Statement.stored? values = [] :=
    storedAnnotations_setValues _ valuesWritten fun _ _ _ => rfl
  simp only [storedAnnotations_append, storedAnnotations_writeAtomAnnotations,
    storedAnnotations_writeFieldsAnnotations, silent, methodAnnotations, withNames_append]
  simp [storedAnnotations, Code.actions, Statement.stored?, List.filterMap_cons]

end Native

/-! ## The Java methods -/

namespace Java

/-- The annotation that a statement stores. -/
def Statement.stored? : Statement → Option (String × ValueOperand)
  | .store constantName value => some (constantName, value)
  | _ => none

variable (constants : AnnotationIdConstants)

theorem storedAnnotations_stores (annotations : List Annotation) :
    storedAnnotations Statement.stored? (annotations.flatMap (writeStore constants)) =
      withNames constants
        ((directAnnotations annotations).map fun ann => (ann.annotationId, printedValue ann)) := by
  rw [flatMap_writeStore, storedAnnotations_map, withNames, List.map_map, List.map_eq_flatMap]
  rfl

theorem storedAnnotations_whenReset (argIndex : Int) (states : States) (statement : Statement) :
    storedAnnotations Statement.stored? (whenReset argIndex states statement) =
      if states.defaultState ≠ -1 ∧ states.resetState ≠ -1 then
        [statement].filterMap Statement.stored? else [] := by
  rw [whenReset]
  split <;> rfl

theorem storedAnnotations_writeAnnotationsBlock (argIndex : Int) (annotations : List Annotation) :
    storedAnnotations Statement.stored?
        (writeAnnotationsBlock constants argIndex annotations) =
      withNames constants (printedAnnotations annotations) := by
  have handedOver : (handOver argIndex).actions.filterMap Statement.stored? = [] := by
    rw [handOver]
    split <;> rfl
  have scanned : annotations.foldl States.scan {} =
      ⟨declaredState .triggerStateReset annotations, declaredState .defaultState annotations⟩ :=
    foldl_scan annotations {}
  have hasReset_iff : declaredState .defaultState annotations ≠ -1 ∧
      declaredState .triggerStateReset annotations ≠ -1 ↔ HasReset annotations := Iff.rfl
  rw [writeAnnotationsBlock, scanned, printedAnnotations, withNames_append]
  simp only [storedAnnotations_append, storedAnnotations_stores, storedAnnotations_whenReset,
    hasReset_iff, storedAnnotations_cons, handedOver]
  by_cases hasReset : HasReset annotations
  · simp [hasReset, withNames, storedAnnotations, Code.actions, Statement.stored?,
      List.filterMap_cons]
  · simp [hasReset, withNames, storedAnnotations, Code.actions, Statement.stored?,
      List.filterMap_cons]

theorem storedAnnotations_writeAnnotationsVendorForField (argIndex : Int)
    (atomDeclSet : AtomDeclSet) :
    storedAnnotations Statement.stored?
        (writeAnnotationsVendorForField constants argIndex atomDeclSet) =
      withNames constants (fieldAnnotations argIndex atomDeclSet) := by
  rw [writeAnnotationsVendorForField, storedAnnotations_map, fieldAnnotations, withNames_flatMap]
  apply List.flatMap_congr
  intro atomDecl _
  rw [Code.actions, filterMap_actions_block, storedAnnotations_writeAnnotationsBlock]
  rfl

theorem storedAnnotations_writeAtomAnnotations (declSets : FieldNumberToAtomDeclSet) :
    storedAnnotations Statement.stored? (writeAtomAnnotations constants declSets) =
      withNames constants
        (fieldAnnotations atomIdFieldNumber (getAnnotations atomIdFieldNumber declSets)) := by
  rw [writeAtomAnnotations]
  split
  · rw [storedAnnotations_cons, storedAnnotations_append,
      storedAnnotations_writeAnnotationsVendorForField]
    simp [Code.actions, Statement.stored?, storedAnnotations, List.filterMap_cons]
  · rename_i empty
    rw [fieldAnnotations_of_empty empty]
    rfl

/-- Creating a list mentions no annotation. -/
theorem storedAnnotations_foldl_add (declarations : List AtomDecl) (inits : ArrayInits)
    (silent : storedAnnotations Statement.stored? inits.code = []) :
    storedAnnotations Statement.stored? (declarations.foldl ArrayInits.add inits).code =
      [] := by
  induction declarations generalizing inits with
  | nil => exact silent
  | cons atomDecl rest ih =>
      apply ih
      rw [ArrayInits.add]
      split
      · exact silent
      · rw [storedAnnotations_append, silent]
        rfl

theorem storedAnnotations_inits (declSets : FieldNumberToAtomDeclSet) (argIndices : List Int)
    (inits : ArrayInits) (silent : storedAnnotations Statement.stored? inits.code = []) :
    storedAnnotations Statement.stored? (argIndices.foldl (fun inits argIndex =>
      writeValueAnnotationsArrayInit inits (getAnnotations argIndex declSets)) inits).code =
      [] := by
  induction argIndices generalizing inits with
  | nil => exact silent
  | cons argIndex rest ih => exact ih _ (storedAnnotations_foldl_add _ inits silent)

theorem storedAnnotations_writeFieldsAnnotations (signature : Signature)
    (declSets : FieldNumberToAtomDeclSet) :
    storedAnnotations Statement.stored?
        (writeFieldsAnnotations constants signature declSets) =
      withNames constants ((valueArgIndices signature).flatMap fun argIndex =>
        fieldAnnotations argIndex (getAnnotations argIndex declSets)) := by
  rw [writeFieldsAnnotations]
  split
  · rw [storedAnnotations_cons, storedAnnotations_append, storedAnnotations_append,
      storedAnnotations_flatMap, withNames_flatMap, storedAnnotations_inits _ _ _ rfl]
    simp only [storedAnnotations_writeAnnotationsVendorForField]
    simp [Code.actions, Statement.stored?, storedAnnotations, List.filterMap_cons]
  · rename_i none
    rw [valuesAnnotations_of_none none]
    rfl

/-- The names in a completed method are those of its annotations. -/
theorem storedAnnotations_method {entry : Signature × FieldNumberToAtomDeclSet} {method : Method}
    (written : writeJavaPushedMethodVendor constants entry = .ok method) :
    storedAnnotations Statement.stored? method.body =
      withNames constants (methodAnnotations entry) := by
  rcases bind_eq_ok_iff.mp written with ⟨parameters, -, later⟩
  rcases map_eq_ok_iff.mp later with ⟨body, bodyWritten, rfl⟩
  rcases map_eq_ok_iff.mp bodyWritten with ⟨values, valuesWritten, rfl⟩
  have silent : storedAnnotations Statement.stored? values = [] :=
    storedAnnotations_setValues _ valuesWritten fun _ _ _ => rfl
  simp only [storedAnnotations_append, storedAnnotations_writeAtomAnnotations,
    storedAnnotations_writeFieldsAnnotations, silent, methodAnnotations, withNames_append]
  simp [storedAnnotations, Code.actions, Statement.stored?, List.filterMap_cons]

end Java

end StatsLogApiGen.Vendor
