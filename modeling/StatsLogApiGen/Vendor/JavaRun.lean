import StatsLogApiGen.Vendor.JavaWriter

/-!
# Running Java vendor methods

A generated `createVendorAtom` of the Java class returns the parcel of the atom it is
called for.  The array of annotations has exactly the length that is filled, and the
list of annotation sets is created once, before it is used.
-/

namespace StatsLogApiGen.Vendor.Java

open StatsLogApiGen.Container
open StatsLogApiGen.Collation
open StatsLogApiGen.Program
open StatsLogApiGen.Writer

/-! ## What is printed for a declaration -/

theorem foldl_scan (annotations : List Annotation) (states : States) :
    annotations.foldl States.scan states =
      { resetState := annotations.foldl (nextState .triggerStateReset) states.resetState
        defaultState := annotations.foldl (nextState .defaultState) states.defaultState } := by
  induction annotations generalizing states with
  | nil => rfl
  | cons ann rest ih =>
      rw [List.foldl_cons, ih]
      obtain ⟨annotationId, atomId, value⟩ := ann
      cases value with
      | bool boolValue => rfl
      | int intValue =>
          by_cases isReset : annotationId = .triggerStateReset
          · subst isReset
            rfl
          · by_cases isDefault : annotationId = .defaultState
            · subst isDefault
              rfl
            · simp [States.scan, nextState, isReset, isDefault]

/-- The counted annotations are those that do not depend on the value. -/
theorem countP_isCounted (annotations : List Annotation) :
    annotations.countP isCounted = (directAnnotations annotations).length := by
  rw [directAnnotations, ← List.countP_eq_length_filter]
  apply List.countP_congr
  intro ann _
  obtain ⟨annotationId, atomId, value⟩ := ann
  cases value <;> simp [isCounted, declaresState]

/-- The counted annotations are those that are stored. -/
theorem flatMap_writeStore (constants : AnnotationIdConstants) (annotations : List Annotation) :
    annotations.flatMap (writeStore constants) =
      (directAnnotations annotations).map fun ann =>
        .call (.store (constants ann.annotationId).name (printedValue ann)) := by
  induction annotations with
  | nil => rfl
  | cons ann rest ih =>
      rw [List.flatMap_cons, ih]
      obtain ⟨annotationId, atomId, value⟩ := ann
      cases value with
      | bool boolValue => rfl
      | int intValue =>
          by_cases isReset : annotationId = .triggerStateReset
          · subst isReset
            rfl
          · by_cases isDefault : annotationId = .defaultState
            · subst isDefault
              rfl
            · by_cases isCategory : annotationId = .restrictionCategory
              · subst isCategory
                rfl
              · simp [writeStore, directAnnotations, declaresState, printedValue, isReset,
                  isDefault, isCategory]

section Run

variable {frame : Frame} {atoms : Atoms} {declSets : FieldNumberToAtomDeclSet} {decl : AtomDecl}
  {namePrefix : String} {numbers : AnnotationNumbers} {arguments : List Argument}

/-! ## The array of annotations -/

/-- A state in which the first annotations of the array are stored. -/
def State.filled (state : State) (stored : List AnnotationParcel) (free : Nat) : State :=
  { state with
    annotations := stored.map some ++ List.replicate free none
    annotationIdx := stored.length }

/-- A store goes to the first free element. -/
theorem run_store {constantName : String} {value : ValueOperand} {parcel : AnnotationParcel}
    (made : makeParcel frame constantName value = .ok parcel) (state : State)
    (stored : List AnnotationParcel) (free : Nat) :
    run (interpreter frame) (.call (.store constantName value))
      (state.filled stored (free + 1)) = .ok (state.filled (stored ++ [parcel]) free) := by
  have place : storeAt (stored.map some ++ none :: List.replicate free none)
      (stored.map some).length (some parcel) =
      .ok (stored.map some ++ some parcel :: List.replicate free none) :=
    storeAt_append _ _ _ _
  rw [List.length_map] at place
  change (makeParcel frame constantName value).bind _ = _
  rw [made]
  change (storeAt (stored.map some ++ none :: List.replicate free none) stored.length _).map _ = _
  rw [place]
  simp [State.filled, Except.map]

/-- Printed annotations are stored in order. -/
theorem run_stores {annotations : List Annotation}
    (numbered : ∀ ann ∈ annotations, Numbered frame.constants namePrefix numbers ann)
    (state : State) (stored : List AnnotationParcel) (free : Nat) :
    run (interpreter frame) (.block (annotations.map fun ann =>
      .call (.store (getAnnotationIdConstants namePrefix ann.annotationId).name
        (printedValue ann)))) (state.filled stored (annotations.length + free)) =
      .ok (state.filled (stored ++ annotations.map numbers.parcel) free) := by
  induction annotations generalizing stored with
  | nil => simp [Code.block]
  | cons ann rest ih =>
      have made := makeParcel_printedValue (numbered ann List.mem_cons_self)
      have length : (ann :: rest).length + free = (rest.length + free) + 1 := by
        rw [List.length_cons]
        omega
      rw [List.map_cons, Code.block, length, run_seq_of_ok (run_store made state stored _),
        ih fun other member => numbered other (List.mem_cons_of_mem ann member),
        List.append_assoc, List.map_cons]
      rfl

/-- A statement for the reset is executed when the value equals the state that triggers
it. -/
theorem run_whenReset {annotations : List Annotation} {fieldNumber : Int}
    {equals : Int → Bool}
    (compared : HasReset annotations →
      frame.holds (.argIs fieldNumber (declaredState .triggerStateReset annotations)) =
        .ok (equals (declaredState .triggerStateReset annotations)))
    (statement : Statement) (state : State) :
    run (interpreter frame) (.block (whenReset fieldNumber (annotations.foldl States.scan {})
      statement)) state =
      if HasReset annotations ∧ equals (declaredState .triggerStateReset annotations) then
        run (interpreter frame) (.call statement) state
      else
        .ok state := by
  rw [foldl_scan]
  change run _ (.block (if HasReset annotations then _ else _)) _ = _
  by_cases hasReset : HasReset annotations
  · have holds := compared hasReset
    rw [if_pos hasReset, run_block_singleton]
    cases isReset : equals (declaredState .triggerStateReset annotations) with
    | true =>
        rw [if_pos ⟨hasReset, rfl⟩, run_when_of_true]
        change read (frame.holds _) = _
        rw [← isReset, ← read_ok, ← holds]
        rfl
    | false =>
        rw [if_neg fun both => Bool.false_ne_true both.2, run_when_of_false]
        change read (frame.holds _) = _
        rw [← isReset, ← read_ok, ← holds]
        rfl
  · rw [if_neg hasReset, if_neg fun both => hasReset both.1]
    rfl

variable (creates : Creates frame atoms declSets decl namePrefix numbers arguments)

include creates

/-- The array has room for the reset, and the reset fills it. -/
theorem run_resetStore {fieldNumber : Int} {equals : Int → Bool}
    (compared : HasReset (annotationsOf decl fieldNumber) →
      frame.holds (.argIs fieldNumber
        (declaredState .triggerStateReset (annotationsOf decl fieldNumber))) =
        .ok (equals (declaredState .triggerStateReset (annotationsOf decl fieldNumber))))
    (state : State) (stored : List AnnotationParcel) :
    let annotations := annotationsOf decl fieldNumber
    run (interpreter frame) (.block (whenReset fieldNumber (annotations.foldl States.scan {})
      (.store (getAnnotationIdConstants namePrefix .triggerStateReset).name
        (.intValue (.literal (annotations.foldl States.scan {}).defaultState)))))
      (state.filled stored (numbers.reset annotations equals).length) =
      .ok (state.filled (stored ++ numbers.reset annotations equals) 0) := by
  intro annotations
  rw [run_whenReset compared, AnnotationNumbers.reset]
  split
  · rename_i both
    have made := makeParcel_reset (creates.numberedReset both.1)
      (declaredState .defaultState annotations)
    rw [foldl_scan]
    exact run_store made state stored 0
  · rw [List.append_nil]
    rfl

/-- The block of a declaration fills an array with its annotations on the field. -/
theorem run_annotationsBlock {fieldNumber : Int} {equals : Int → Bool}
    (compared : HasReset (annotationsOf decl fieldNumber) →
      frame.holds (.argIs fieldNumber
        (declaredState .triggerStateReset (annotationsOf decl fieldNumber))) =
        .ok (equals (declaredState .triggerStateReset (annotationsOf decl fieldNumber))))
    (state : State) :
    let parcels := fieldParcels numbers decl fieldNumber equals
    run (interpreter frame) (.block (writeAnnotationsBlock (getAnnotationIdConstants namePrefix)
      fieldNumber (annotationsOf decl fieldNumber))) state =
      run (interpreter frame) (handOver fieldNumber)
        (({ state with annotationsCount := parcels.length }).filled parcels 0) := by
  intro parcels
  let direct := directAnnotations (annotationsOf decl fieldNumber)
  let reset := numbers.reset (annotationsOf decl fieldNumber) equals
  have numbered : ∀ ann ∈ direct, Numbered frame.constants namePrefix numbers ann :=
    fun ann member => creates.numbered fieldNumber ann (List.mem_of_mem_filter member)
  have length : direct.length + reset.length = parcels.length := by
    simp [parcels, fieldParcels, direct, reset]
  have counted : run (interpreter frame) (.block ([.call (.declareAnnotationsCount
      ((annotationsOf decl fieldNumber).countP isCounted))] ++
        whenReset fieldNumber ((annotationsOf decl fieldNumber).foldl States.scan {})
          .incrementAnnotationsCount)) state =
      .ok { state with annotationsCount := parcels.length } := by
    rw [run_block_append_of_ok (rfl : run (interpreter frame) (.block [.call
        (.declareAnnotationsCount ((annotationsOf decl fieldNumber).countP isCounted))]) state =
        .ok _), run_whenReset compared, ← length, countP_isCounted]
    dsimp only [reset, AnnotationNumbers.reset]
    split
    · rfl
    · rfl
  have allocated : run (interpreter frame)
      (.block [.call .newAnnotations, .call .declareAnnotationIdx])
        { state with annotationsCount := parcels.length } =
      .ok (({ state with annotationsCount := parcels.length }).filled []
        (direct.length + reset.length)) := by
    rw [length]
    rfl
  rw [writeAnnotationsBlock, List.append_assoc, List.append_assoc, List.append_assoc,
    run_block_append_of_ok counted, run_block_append_of_ok allocated, flatMap_writeStore,
    run_block_append_of_ok (run_stores numbered _ [] reset.length),
    run_block_append_of_ok (run_resetStore creates compared _ _), run_block_singleton]
  rfl

/-! ## One field -/

/-- Of the blocks for a field, the one of the declaration is executed. -/
theorem run_forField {fieldNumber : Int}
    (listed : decl ∈ elements (getAnnotations fieldNumber declSets)) (state : State) :
    run (interpreter frame) (.block (writeAnnotationsVendorForField
      (getAnnotationIdConstants namePrefix) fieldNumber
      (getAnnotations fieldNumber declSets))) state =
      run (interpreter frame) (.block (writeAnnotationsBlock
        (getAnnotationIdConstants namePrefix) fieldNumber (annotationsOf decl fieldNumber)))
        state :=
  run_dispatch (fun _ _ => rfl) creates.dispatches creates.runs listed state

theorem run_forField_of_not_listed {fieldNumber : Int}
    (notListed : decl ∉ elements (getAnnotations fieldNumber declSets)) (state : State) :
    run (interpreter frame) (.block (writeAnnotationsVendorForField
      (getAnnotationIdConstants namePrefix) fieldNumber
      (getAnnotations fieldNumber declSets))) state = .ok state :=
  run_dispatch_of_not_listed (fun _ _ => rfl) creates.dispatches creates.runs notListed state

omit creates in
/-- An annotation set is added to a list that exists. -/
theorem run_addFieldAnnotations {state : State} {annotationSets : List AnnotationSetParcel}
    (created : state.fieldsAnnotations = some annotationSets) (valueIndex : Int) :
    run (interpreter frame) (.call (.addFieldAnnotations valueIndex)) state =
      .ok { state with
        fieldsAnnotations := some (annotationSets ++ [⟨valueIndex, state.annotations⟩]) } := by
  rw [run_call]
  dsimp only [interpreter, Statement.perform]
  rw [created]

/-- Into a list that exists, the blocks for a field add the annotation set of its
value. -/
theorem run_field {index : Nat} {argument : Argument} (isValue : 1 ≤ index)
    (found : arguments[index]? = some argument) {state : State}
    {annotationSets : List AnnotationSetParcel}
    (created : state.fieldsAnnotations = some annotationSets) :
    ∃ next,
      run (interpreter frame) (.block (writeAnnotationsVendorForField
        (getAnnotationIdConstants namePrefix) (1 + index)
        (getAnnotations (1 + index) declSets))) state = .ok next ∧
      next.fieldsAnnotations =
        some (annotationSets ++ valueAnnotations numbers decl (1 + index) argument) ∧
      next.atom = state.atom ∧ next.lost = state.lost := by
  by_cases listed : decl ∈ elements (getAnnotations (1 + index) declSets)
  · have notAtom : (1 + index : Int) ≠ atomIdFieldNumber := by
      unfold atomIdFieldNumber
      omega
    rw [run_forField creates listed,
      run_annotationsBlock creates (creates.holds_argIs isValue found), handOver, if_neg notAtom]
    let parcels := fieldParcels numbers decl (1 + index) argument.equals
    change ∃ next : State,
      run _ _ (({ state with annotationsCount := parcels.length }).filled parcels 0) = _ ∧
      next.fieldsAnnotations = some (annotationSets ++
        if parcels = [] then [] else [⟨1 + index - 2, parcels.map some⟩]) ∧ _
    by_cases empty : parcels = []
    · rw [if_pos empty, List.append_nil, run_when_of_false]
      · exact ⟨_, rfl, created, rfl, rfl⟩
      · exact congrArg Except.ok (decide_eq_false (by simp [empty, State.filled]))
    · rw [if_neg empty, run_when_of_true]
      · have filledCreated : (State.filled { state with annotationsCount := parcels.length }
            parcels 0).fieldsAnnotations = some annotationSets := created
        rw [run_addFieldAnnotations filledCreated]
        refine ⟨_, rfl, ?_, rfl, rfl⟩
        simp [State.filled]
      · exact congrArg Except.ok (decide_eq_true (List.length_pos_of_ne_nil empty))
  · have unannotated := annotationsOf_eq_nil_of_not_listed creates.dispatches listed
    rw [run_forField_of_not_listed creates listed, valueAnnotations_eq_nil unannotated,
      List.append_nil]
    exact ⟨state, rfl, created, rfl, rfl⟩

end Run

/-! ## The list of annotation sets -/

/-- After a loop that creates lists, exactly the atoms that were listed are processed,
and the list of the atom is created once. -/
structure Initializes (frame : Frame) (decl : AtomDecl) (listed : List AtomDecl)
    (inits : ArrayInits) : Prop where
  processed : makeConstantName decl.name ∈ inits.processedAtomNames ↔ decl ∈ listed
  ran : ∀ state : State, state.fieldsAnnotations = none →
    run (interpreter frame) (.block inits.code) state =
      .ok (if makeConstantName decl.name ∈ inits.processedAtomNames then
        { state with fieldsAnnotations := some [] } else state)

section Initialize

variable {frame : Frame} {decl : AtomDecl} {listed : List AtomDecl} {inits : ArrayInits}

theorem initializes_nil : Initializes frame decl [] {} where
  processed := by simp
  ran state _ := rfl

theorem holds_newFieldsAnnotations {other : AtomDecl} {isTrue : Bool}
    (judged : frame.holds (.codeIs (makeConstantName other.name)) = .ok isTrue) (state : State) :
    (interpreter frame).holds (.reads (.codeIs (makeConstantName other.name))) state =
      .ok isTrue := by
  change read (frame.holds _) = _
  rw [judged, read_ok]

/-- One more declaration is processed. -/
theorem Initializes.add (initializes : Initializes frame decl listed inits)
    (isDecl : frame.holds (.codeIs (makeConstantName decl.name)) = .ok true) {other : AtomDecl}
    (notDecl : other ≠ decl →
      frame.holds (.codeIs (makeConstantName other.name)) = .ok false) :
    Initializes frame decl (listed ++ [other]) (inits.add other) := by
  have distinct : other ≠ decl → makeConstantName decl.name ≠ makeConstantName other.name := by
    intro different equal
    rw [equal, notDecl different] at isDecl
    cases isDecl
  rw [ArrayInits.add]
  by_cases processed : makeConstantName other.name ∈ inits.processedAtomNames
  · rw [if_pos processed]
    refine ⟨?_, initializes.ran⟩
    rw [initializes.processed, List.mem_append, List.mem_singleton]
    constructor
    · exact Or.inl
    · rintro (member | rfl)
      · exact member
      · exact initializes.processed.mp processed
  · rw [if_neg processed]
    constructor
    · rw [List.mem_cons, initializes.processed, List.mem_append, List.mem_singleton, or_comm]
      apply or_congr_right
      constructor
      · intro sameConstant
        by_contra different
        exact distinct (Ne.symm different) sameConstant
      · rintro rfl
        rfl
    · intro state absent
      rw [run_block_append_of_ok (initializes.ran state absent), run_block_singleton]
      by_cases same : other = decl
      · subst same
        rw [if_neg processed, if_pos List.mem_cons_self,
          run_when_of_true (holds_newFieldsAnnotations isDecl state)]
        change Except.ok { state with fieldsAnnotations := some [], lost := _ } = _
        rw [absent, Option.getD_none, List.append_nil]
      · rw [run_when_of_false (holds_newFieldsAnnotations (notDecl same) _)]
        simp only [List.mem_cons, distinct same, false_or]

/-- The loop over declarations processes them all. -/
theorem Initializes.foldl_add (initializes : Initializes frame decl listed inits)
    (isDecl : frame.holds (.codeIs (makeConstantName decl.name)) = .ok true)
    {others : List AtomDecl} (notDecl : ∀ other ∈ others, other ≠ decl →
      frame.holds (.codeIs (makeConstantName other.name)) = .ok false) :
    Initializes frame decl (listed ++ others) (others.foldl ArrayInits.add inits) := by
  induction others generalizing listed inits with
  | nil => rwa [List.append_nil]
  | cons other rest ih =>
      rw [List.foldl_cons, List.append_cons]
      apply ih (initializes.add isDecl (notDecl other List.mem_cons_self))
      exact fun later member => notDecl later (List.mem_cons_of_mem other member)

end Initialize

section Fields

variable {frame : Frame} {atoms : Atoms} {declSets : FieldNumberToAtomDeclSet} {decl : AtomDecl}
  {namePrefix : String} {numbers : AnnotationNumbers} {arguments : List Argument}
  (creates : Creates frame atoms declSets decl namePrefix numbers arguments)

include creates

/-- The loops over the fields create the list of the atom when it is listed. -/
theorem initializes_fields (argIndices : List Int) :
    Initializes frame decl
      (argIndices.flatMap fun argIndex => elements (getAnnotations argIndex declSets))
      (argIndices.foldl (fun inits argIndex =>
        writeValueAnnotationsArrayInit inits (getAnnotations argIndex declSets)) {}) := by
  let listed := argIndices.flatMap fun argIndex => elements (getAnnotations argIndex declSets)
  have notDecl : ∀ other ∈ listed, other ≠ decl →
      frame.holds (.codeIs (makeConstantName other.name)) = .ok false := by
    intro other member different
    obtain ⟨argIndex, -, otherListed⟩ := List.mem_flatMap.mp member
    exact holds_codeIs_other creates.dispatches creates.runs otherListed different
  have all : Initializes frame decl ([] ++ listed) (listed.foldl ArrayInits.add {}) :=
    initializes_nil.foldl_add (holds_codeIs_decl creates.dispatches creates.runs) notDecl
  rwa [List.nil_append, List.foldl_flatMap] at all

/-! ## All fields -/

/-- Into a list that exists, the blocks for the remaining fields add the sets of their
values. -/
theorem run_fields {index : Nat} {later : List Argument} (isValue : 1 ≤ index)
    (remain : arguments.drop index = later) {state : State}
    {annotationSets : List AnnotationSetParcel}
    (created : state.fieldsAnnotations = some annotationSets) :
    ∃ next,
      run (interpreter frame) (.block
        ((StatsLogApiGen.Java.indicesFrom (1 + index) (later.map Argument.type)).flatMap
          fun argIndex =>
            writeAnnotationsVendorForField (getAnnotationIdConstants namePrefix) argIndex
              (getAnnotations argIndex declSets))) state = .ok next ∧
      next.fieldsAnnotations =
        some (annotationSets ++ valuesAnnotationsFrom numbers decl (1 + index) later) ∧
      next.atom = state.atom ∧ next.lost = state.lost := by
  induction later generalizing index state annotationSets with
  | nil =>
      refine ⟨state, rfl, ?_, rfl, rfl⟩
      rw [valuesAnnotationsFrom, List.append_nil, created]
  | cons argument rest ih =>
      obtain ⟨found, restRemain⟩ := getElem?_and_drop_of_drop remain
      have shift : (1 + index : Int) + 1 = 1 + ((index + 1 : Nat) : Int) := by omega
      obtain ⟨middle, first, middleSets, middleAtom, middleLost⟩ :=
        run_field creates isValue found created
      obtain ⟨final, later, finalSets, finalAtom, finalLost⟩ :=
        ih (by omega) restRemain middleSets
      refine ⟨final, ?_, ?_, finalAtom.trans middleAtom, finalLost.trans middleLost⟩
      · rw [List.map_cons, StatsLogApiGen.Java.indicesFrom, List.flatMap_cons,
          run_block_append_of_ok first, shift, later]
      · rw [finalSets, valuesAnnotationsFrom, shift, List.append_assoc]

/-- Blocks for fields that do not list the declaration do nothing. -/
theorem run_fields_of_not_listed {argIndices : List Int}
    (notListed : ∀ argIndex ∈ argIndices, decl ∉ elements (getAnnotations argIndex declSets))
    (state : State) :
    run (interpreter frame) (.block (argIndices.flatMap fun argIndex =>
      writeAnnotationsVendorForField (getAnnotationIdConstants namePrefix) argIndex
        (getAnnotations argIndex declSets))) state = .ok state := by
  induction argIndices with
  | nil => rfl
  | cons argIndex rest ih =>
      have first := notListed argIndex List.mem_cons_self
      rw [List.flatMap_cons,
        run_block_append_of_ok (run_forField_of_not_listed creates first state)]
      exact ih fun other member => notListed other (List.mem_cons_of_mem argIndex member)

/-- The values of the remaining arguments are put behind those that are stored. -/
theorem run_values {index : Nat} {later : List Argument}
    (remain : arguments.drop (index + 1) = later) {code : Body}
    (written : eachArg writeValue (2 + index) (later.map Argument.type) = .ok code)
    {stored : List (Option VendorAtomValue)} (sofar : stored.length = index) (state : State) :
    run (interpreter frame) (.block code)
      { state with
        atom := { state.atom with values := stored ++ List.replicate later.length none } } =
      .ok { state with
        atom := { state.atom with values := stored ++ later.map vendorValue } } := by
  induction later generalizing index stored code with
  | nil =>
      cases written
      rfl
  | cons argument rest ih =>
      obtain ⟨first, firstWritten, restWritten⟩ := bind_eq_ok_iff.mp written
      obtain ⟨others, othersWritten, rfl⟩ := map_eq_ok_iff.mp restWritten
      obtain ⟨tag, isTag, rfl⟩ := map_eq_ok_iff.mp firstWritten
      obtain ⟨found, restRemain⟩ := getElem?_and_drop_of_drop remain
      obtain ⟨value, made, carried⟩ := creates.makeValue_eq found isTag
      have position : (1 : Int) + ((index + 1 : Nat) : Int) = 2 + index := by omega
      have place : (2 + index : Int) - 2 = stored.length := by omega
      have shift : (2 + index : Int) + 1 = 2 + ((index + 1 : Nat) : Int) := by omega
      have storedLength : (stored ++ [some value]).length = index + 1 := by
        rw [List.length_append, sofar, List.length_singleton]
      let fresh : List (Option VendorAtomValue) := List.replicate rest.length none
      rw [shift] at othersWritten
      rw [position] at made
      have performed : run (interpreter frame)
          (.call (.setValue (2 + index - 2) tag (2 + index)))
          { state with atom := { state.atom with values := stored ++ none :: fresh } } =
          .ok { state with
            atom := { state.atom with values := (stored ++ [some value]) ++ fresh } } := by
        change (makeValue frame tag (2 + index)).bind _ = _
        rw [made, place]
        change (storeAt (stored ++ none :: fresh) stored.length (some value)).map _ = _
        rw [storeAt_append, List.append_assoc]
        rfl
      rw [Code.block, List.length_cons, List.replicate_succ, run_seq_of_ok performed,
        ih restRemain othersWritten storedLength, List.append_assoc, List.map_cons, carried]
      rfl

/-! ## Annotations of the parcel -/

/-- The annotations of the atom are put into the parcel unless there are none. -/
theorem run_atomAnnotations (state : State) (absent : state.atom.atomAnnotations = none) :
    ∃ next,
      run (interpreter frame) (.block
        (writeAtomAnnotations (getAnnotationIdConstants namePrefix) declSets)) state =
        .ok next ∧
      next.atom = { state.atom with
        atomAnnotations :=
          presentUnlessEmpty (fieldParcels numbers decl atomIdFieldNumber fun _ => false) } ∧
      next.lost = state.lost := by
  let parcels := fieldParcels numbers decl atomIdFieldNumber fun _ => false
  have unchanged : parcels = [] →
      state.atom = { state.atom with atomAnnotations := presentUnlessEmpty parcels } := by
    intro empty
    rw [empty, presentUnlessEmpty, if_pos rfl, ← absent]
  rw [writeAtomAnnotations]
  dsimp only
  by_cases annotated : (elements (getAnnotations atomIdFieldNumber declSets)).length > 0
  · rw [if_pos annotated, Code.block,
      run_seq_of_ok (rfl : run (interpreter frame) (.call .declareAtomAnnotations) state = .ok _),
      run_block_append]
    by_cases listed : decl ∈ elements (getAnnotations atomIdFieldNumber declSets)
    · rw [run_forField creates listed,
        run_annotationsBlock creates fun hasReset => absurd hasReset creates.noReset, handOver,
        if_pos rfl]
      change ∃ next : State, run _ (.block [_]) (State.mk _ _ _ _
        (some (parcels.map some ++ List.replicate 0 none)) _ _) = _ ∧ _
      rw [run_block_singleton, List.replicate_zero, List.append_nil]
      by_cases empty : parcels = []
      · rw [run_when_of_false]
        · exact ⟨_, rfl, unchanged empty, rfl⟩
        · rw [empty]
          rfl
      · rw [run_when_of_true]
        · refine ⟨_, rfl, ?_, rfl⟩
          rw [presentUnlessEmpty, if_neg empty]
          rfl
        · apply congrArg Except.ok
          apply decide_eq_true
          rw [List.length_map]
          exact List.length_pos_of_ne_nil empty
    · rw [run_forField_of_not_listed creates listed, Except.bind, run_block_singleton,
        run_when_of_false rfl]
      have unannotated := annotationsOf_eq_nil_of_not_listed creates.dispatches listed
      exact ⟨_, rfl, unchanged (fieldParcels_eq_nil unannotated _), rfl⟩
  · rw [if_neg annotated]
    have notListed : decl ∉ elements (getAnnotations atomIdFieldNumber declSets) :=
      fun listed => annotated (List.length_pos_of_mem listed)
    have unannotated := annotationsOf_eq_nil_of_not_listed creates.dispatches notListed
    exact ⟨state, rfl, unchanged (fieldParcels_eq_nil unannotated _), rfl⟩

omit creates in
/-- A list of annotation sets is put into the parcel unless it is empty. -/
theorem run_setValuesAnnotations {state : State} {annotationSets : List AnnotationSetParcel}
    (created : state.fieldsAnnotations = some annotationSets)
    (absent : state.atom.valuesAnnotations = none) :
    ∃ next,
      run (interpreter frame) (.when .fieldsAnnotationsPresent (.call .setValuesAnnotations))
        state = .ok next ∧
      next.atom = { state.atom with valuesAnnotations := presentUnlessEmpty annotationSets } ∧
      next.lost = state.lost := by
  have present : (interpreter frame).holds .fieldsAnnotationsPresent state =
      .ok (decide (annotationSets.length > 0)) := by
    change Except.ok (state.fieldsAnnotations.any _) = _
    rw [created]
    rfl
  by_cases empty : annotationSets = []
  · rw [run_when_of_false (by rw [present, empty]; rfl), empty, presentUnlessEmpty, if_pos rfl,
      ← absent]
    exact ⟨state, rfl, rfl, rfl⟩
  · rw [run_when_of_true
      (present.trans (congrArg Except.ok (decide_eq_true (List.length_pos_of_ne_nil empty)))),
      presentUnlessEmpty, if_neg empty, run_call]
    dsimp only [interpreter, Statement.perform]
    rw [created]
    exact ⟨_, rfl, rfl, rfl⟩

/-- The annotation sets of the values are put into the parcel unless there are none. -/
theorem run_fieldsAnnotations {first : Argument} {rest : List Argument}
    (split : arguments = first :: rest) (state : State)
    (absent : state.atom.valuesAnnotations = none) :
    ∃ next,
      run (interpreter frame) (.block (writeFieldsAnnotations
        (getAnnotationIdConstants namePrefix) (arguments.map Argument.type) declSets)) state =
        .ok next ∧
      next.atom = { state.atom with
        valuesAnnotations := presentUnlessEmpty (valuesAnnotationsFrom numbers decl 2 rest) } ∧
      next.lost = state.lost := by
  let sets := valuesAnnotationsFrom numbers decl 2 rest
  have unchanged : sets = [] →
      state.atom = { state.atom with valuesAnnotations := presentUnlessEmpty sets } := by
    intro empty
    rw [empty, presentUnlessEmpty, if_pos rfl, ← absent]
  have indices : valueArgIndices (arguments.map Argument.type) =
      StatsLogApiGen.Java.indicesFrom 2 (rest.map Argument.type) := by
    rw [split]
    exact valueArgIndices_eq first.type rest
  have noSets (notListed : ∀ argIndex ∈ valueArgIndices (arguments.map Argument.type),
      decl ∉ elements (getAnnotations argIndex declSets)) : sets = [] := by
    apply valuesAnnotationsFrom_eq_nil_of_not_listed creates.dispatches
    rwa [indices] at notListed
  rw [writeFieldsAnnotations]
  by_cases annotated : atomWithFieldsAnnotations (arguments.map Argument.type) declSets = true
  · have initializes := initializes_fields creates (valueArgIndices (arguments.map Argument.type))
    have created := initializes.ran { state with fieldsAnnotations := none } rfl
    rw [if_pos annotated, Code.block,
      run_seq_of_ok (rfl : run (interpreter frame) (.call .declareFieldsAnnotations) state =
        .ok _), List.append_assoc, run_block_append_of_ok created]
    by_cases processed : decl ∈ (valueArgIndices (arguments.map Argument.type)).flatMap
        fun argIndex => elements (getAnnotations argIndex declSets)
    · rw [if_pos (initializes.processed.mpr processed)]
      have remain : arguments.drop 1 = rest := by
        rw [split, List.drop_one, List.tail_cons]
      have isCreated : State.fieldsAnnotations { state with fieldsAnnotations := some [] } =
        some [] := rfl
      obtain ⟨middle, ran, middleSets, middleAtom, middleLost⟩ :=
        run_fields creates (le_refl 1) remain isCreated
      have two : (1 : Int) + ((1 : Nat) : Int) = 2 := by decide
      rw [two] at ran middleSets
      have middleAbsent : middle.atom.valuesAnnotations = none := by rw [middleAtom, absent]
      obtain ⟨final, set, finalAtom, finalLost⟩ :=
        run_setValuesAnnotations middleSets middleAbsent
      rw [indices, run_block_append_of_ok ran, run_block_singleton, set]
      refine ⟨final, rfl, ?_, finalLost.trans middleLost⟩
      rw [finalAtom, middleAtom, List.nil_append]
    · rw [if_neg (mt initializes.processed.mp processed)]
      have notListed : ∀ argIndex ∈ valueArgIndices (arguments.map Argument.type),
          decl ∉ elements (getAnnotations argIndex declSets) := by
        intro argIndex member listed
        exact processed (List.mem_flatMap.mpr ⟨argIndex, member, listed⟩)
      rw [run_block_append_of_ok (run_fields_of_not_listed creates notListed _),
        run_block_singleton, run_when_of_false rfl]
      exact ⟨_, rfl, unchanged (noSets notListed), rfl⟩
  · rw [if_neg annotated]
    exact ⟨state, rfl, unchanged (noSets (not_listed_of_no_annotations annotated)), rfl⟩

end Fields

/-! ## The method -/

section Body

variable {frame : Frame} {atoms : Atoms} {declSets : FieldNumberToAtomDeclSet} {decl : AtomDecl}
  {namePrefix : String} {numbers : AnnotationNumbers} {name : String} {rest : List Argument}
  (creates : Creates frame atoms declSets decl namePrefix numbers (.string name :: rest))

include creates

/-- The first statements set the reverse domain name and the code. -/
theorem run_header :
    run (interpreter frame) (.block [.call (.setReverseDomainName 1), .call .setAtomId,
      .call (.newValues (((.string :: rest.map Argument.type : Signature).length : Int) - 1))])
      {} =
      .ok { atom :=
        { reverseDomainName := some name
          atomId := decl.code
          values := List.replicate rest.length none } } := by
  have domain : run (interpreter frame) (.call (.setReverseDomainName 1)) {} =
      .ok { atom := { reverseDomainName := some name } } := by
    have bound : frame.bindings.lookup (.arg 1) = some (.argument (.string name)) :=
      creates.binds 0 _ rfl
    change (read (frame.argument (.arg 1))).bind _ = _
    rw [Frame.argument_eq bound]
    rfl
  have code : run (interpreter frame) (.call .setAtomId)
      { atom := { reverseDomainName := some name } } =
      .ok { atom := { reverseDomainName := some name, atomId := decl.code } } := by
    change (read frame.code).map _ = _
    rw [Frame.code_eq creates.runs.code]
    rfl
  have count : ((.string :: rest.map Argument.type : Signature).length : Int) - 1 =
      rest.length := by
    simp
  have notNegative : ¬(rest.length : Int) < 0 := by omega
  rw [Code.block, run_seq_of_ok domain, Code.block, run_seq_of_ok code, run_block_singleton,
    count, run_call]
  dsimp only [interpreter, Statement.perform]
  rw [if_neg notNegative, Int.toNat_natCast]

/-- The whole body creates the parcel, and no annotation set is lost. -/
theorem run_body {values : Body}
    (written : eachArg writeValue 2 (rest.map Argument.type) = .ok values) :
    ∃ final,
      run (interpreter frame) (.block
        ([.call (.setReverseDomainName 1), .call .setAtomId,
            .call (.newValues
              (((.string :: rest.map Argument.type : Signature).length : Int) - 1))] ++
          values ++
          writeAtomAnnotations (getAnnotationIdConstants namePrefix) declSets ++
          writeFieldsAnnotations (getAnnotationIdConstants namePrefix)
            (.string :: rest.map Argument.type) declSets)) {} = .ok final ∧
      final.atom = vendorAtom numbers decl name rest ∧ final.lost = [] := by
  let atom : VendorAtom := { reverseDomainName := some name, atomId := decl.code }
  have zero : (2 : Int) + ((0 : Nat) : Int) = 2 := by decide
  have remain : (Argument.string name :: rest).drop (0 + 1) = rest := rfl
  have empty : ([] : List (Option VendorAtomValue)).length = 0 := rfl
  have ranValues := run_values creates remain (zero.symm ▸ written) empty { atom }
  rw [List.nil_append, List.nil_append] at ranValues
  obtain ⟨middle, ranAtom, middleAtom, middleLost⟩ := run_atomAnnotations creates
    { atom := { atom with values := rest.map vendorValue } } rfl
  have noSets : middle.atom.valuesAnnotations = none := by rw [middleAtom]
  obtain ⟨final, ranFields, finalAtom, finalLost⟩ :=
    run_fieldsAnnotations creates rfl middle noSets
  refine ⟨final, ?_, ?_, finalLost.trans middleLost⟩
  · rw [List.append_assoc, List.append_assoc, run_block_append_of_ok (run_header creates),
      run_block_append_of_ok ranValues, run_block_append_of_ok ranAtom]
    exact ranFields
  · rw [finalAtom, middleAtom, vendorAtom]

end Body

@[simp]
theorem writeValue_isOk (argIndex : Int) (type : JavaType) :
    (writeValue argIndex type).isOk = (valueTag type).isOk := by
  rw [writeValue, isOk_map]

/-- A method can be written for an accepted signature without a chain. -/
theorem writeJavaPushedMethodVendor_isOk (constants : AnnotationIdConstants)
    {signature : Signature} (accepted : AcceptedSignature signature)
    (declSets : FieldNumberToAtomDeclSet) :
    (writeJavaPushedMethodVendor constants (signature, declSets)).isOk = true ↔
      JavaType.attributionChain ∉ signature := by
  rw [writeJavaPushedMethodVendor, writeJavaMethodSignature]
  by_cases hasChain : JavaType.attributionChain ∈ signature
  · simp [hasChain, Except.bind, Except.isOk, Except.toBool]
  · rw [if_neg fun both => hasChain both.1]
    change (Except.map _ _).isOk = true ↔ _
    rw [isOk_map, writeMethodBodyVendor, isOk_map,
      eachArg_tail_isOk writeValue_isOk accepted.tail]
    exact iff_of_true rfl hasChain

section Method

variable {atoms : Atoms} {declSets : FieldNumberToAtomDeclSet} {decl : AtomDecl}
  {numbers : AnnotationNumbers} {platform : Platform} {name : String} {rest : List Argument}

/-- Without a chain the declaration of the attribution node is not needed. -/
theorem writeJavaMethodSignature_eq {signature : Signature}
    (noChain : ∀ type ∈ signature, type ≠ .attributionChain) :
    writeJavaMethodSignature signature {} =
      .ok (javaSignatureParameters attributionDecl 1 signature) := by
  have parameters (argIndex : Int) : javaSignatureParameters {} argIndex signature =
      javaSignatureParameters attributionDecl argIndex signature := by
    induction signature generalizing argIndex with
    | nil => rfl
    | cons type later ih =>
        have notChain := noChain type List.mem_cons_self
        rw [javaSignatureParameters, javaSignatureParameters, javaArgParameters,
          javaArgParameters, if_neg notChain, if_neg notChain,
          ih fun other member => noChain other (List.mem_cons_of_mem type member)]
  rw [writeJavaMethodSignature, if_neg, parameters]
  exact fun both => noChain _ both.1 rfl

/-- The method for the signature of an atom creates its parcel. -/
theorem run_createVendorAtom (creatable : Creatable atoms declSets decl)
    (typed : (Argument.string name :: rest).map Argument.type = decl.signature)
    (compares : ComparesResets 1 javaComparable decl)
    (numbered : ∀ fieldNumber, ∀ ann ∈ annotationsOf decl fieldNumber,
      Numbered platform annotationConstantNameVendorPrefix numbers ann) :
    ∃ method,
      writeJavaPushedMethodVendor (getAnnotationIdConstants annotationConstantNameVendorPrefix)
        (decl.signature, declSets) = .ok method ∧
      ∃ final,
        method.run atoms platform decl.code (.string name :: rest) = .ok final ∧
        final.atom = vendorAtom numbers decl name rest ∧ final.lost = [] := by
  have signature : decl.signature = .string :: rest.map Argument.type := typed.symm
  have valuesOk := eachArg_tail_isOk writeValue_isOk fun type member =>
    creatable.isArgument type (List.mem_of_mem_tail member)
  obtain ⟨values, written⟩ := isOk_iff_exists.mp valuesOk
  refine ⟨_, by rw [writeJavaPushedMethodVendor, writeJavaMethodSignature_eq creatable.noChain,
    Except.bind, writeMethodBodyVendor, written]; rfl, ?_⟩
  rw [Method.run]
  generalize isFrame : Method.frame _ atoms platform decl.code _ = frame
  have creates : Creates frame atoms declSets decl annotationConstantNameVendorPrefix numbers
      (.string name :: rest) := by
    subst isFrame
    apply creatable.creates typed _ rfl compares numbered
    change ((Variable.code :: (javaSignatureParameters attributionDecl 1
      decl.signature).map Parameter.name).zip
        (Value.code decl.code :: (Argument.string name :: rest).map Value.argument)) = _
    rw [StatsLogApiGen.Java.javaSignatureParameters_names,
      ← creatable.flatMap_plainValues typed]
    rfl
  rw [signature, List.tail_cons] at written
  dsimp only
  rw [signature]
  exact run_body creates written

end Method

end StatsLogApiGen.Vendor.Java
