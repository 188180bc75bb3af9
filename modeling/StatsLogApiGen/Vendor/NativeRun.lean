import StatsLogApiGen.Vendor.NativeWriter

/-!
# Running native vendor methods

A generated `createVendorAtom` of the C++ source returns the parcel of the atom it
is called for.
-/

namespace StatsLogApiGen.Vendor.Native

open StatsLogApiGen.Container
open StatsLogApiGen.Collation
open StatsLogApiGen.Program
open StatsLogApiGen.Writer

section Run

variable {frame : Frame} {atoms : Atoms} {declSets : FieldNumberToAtomDeclSet} {decl : AtomDecl}
  {namePrefix : String} {numbers : AnnotationNumbers} {arguments : List Argument}

/-! ## One declaration -/

theorem print_eq (ann : Annotation) :
    annotationTemplates.print (getAnnotationIdConstants namePrefix) ann =
      .pushBack (getAnnotationIdConstants namePrefix ann.annotationId).name
        (printedValue ann) := by
  obtain ⟨annotationId, atomId, value⟩ := ann
  cases value with
  | bool boolValue => rfl
  | int intValue =>
      dsimp only [AnnotationTemplates.print, printedValue]
      split
      · rfl
      · rfl

/-- Printed annotations are pushed in order. -/
theorem run_prints {annotations : List Annotation}
    (numbered : ∀ ann ∈ annotations, Numbered frame.constants namePrefix numbers ann)
    (state : State) :
    run (interpreter frame) (.block (annotations.map fun ann =>
      .call (annotationTemplates.print (getAnnotationIdConstants namePrefix) ann))) state =
      .ok { state with
        annotations := state.annotations ++ annotations.map numbers.parcel } := by
  induction annotations generalizing state with
  | nil => simp [Code.block]
  | cons ann rest ih =>
      have pushed : run (interpreter frame)
          (.call (annotationTemplates.print (getAnnotationIdConstants namePrefix) ann)) state =
          .ok { state with annotations := state.annotations ++ [numbers.parcel ann] } := by
        rw [run_call, print_eq]
        change (makeParcel frame _ _).map _ = _
        rw [makeParcel_printedValue (numbered ann List.mem_cons_self)]
        rfl
      rw [List.map_cons, Code.block, run_seq_of_ok pushed,
        ih fun other member => numbered other (List.mem_cons_of_mem ann member),
        List.map_cons, List.append_assoc]
      rfl

variable (creates : Creates frame atoms declSets decl namePrefix numbers arguments)

include creates

/-- The annotations of a field are pushed, with the reset at the end. -/
theorem run_annotationSet {fieldNumber : Int} {equals : Int → Bool}
    (compared : HasReset (annotationsOf decl fieldNumber) →
      frame.holds (.argIs fieldNumber
        (declaredState .triggerStateReset (annotationsOf decl fieldNumber))) =
        .ok (equals (declaredState .triggerStateReset (annotationsOf decl fieldNumber))))
    (state : State) :
    run (interpreter frame) (.block (writeAnnotationSet annotationTemplates
      (getAnnotationIdConstants namePrefix) (fun state => .reads (.argIs fieldNumber state))
      (decl.fieldNumberToAnnotations[fieldNumber]?.getD ∅))) state =
      .ok { state with
        annotations := state.annotations ++ fieldParcels numbers decl fieldNumber equals } := by
  have numbered : ∀ ann ∈ directAnnotations (annotationsOf decl fieldNumber),
      Numbered frame.constants namePrefix numbers ann :=
    fun ann member => creates.numbered fieldNumber ann (List.mem_of_mem_filter member)
  rw [writeAnnotationSet_eq, run_block_append, fieldParcels, ← annotationsOf,
    run_prints numbered, Except.bind, AnnotationNumbers.reset]
  by_cases hasReset : HasReset (annotationsOf decl fieldNumber)
  · have holds := compared hasReset
    rw [if_pos hasReset, run_block_singleton]
    cases isReset : equals (declaredState .triggerStateReset
        (annotationsOf decl fieldNumber)) with
    | true =>
        rw [if_pos ⟨hasReset, rfl⟩, run_when_of_true, run_call]
        · change (makeParcel frame _ _).map _ = _
          rw [makeParcel_reset (creates.numberedReset hasReset), ← List.append_assoc]
          rfl
        · change read (frame.holds _) = _
          rw [holds, isReset, read_ok]
    | false =>
        rw [if_neg fun both => Bool.false_ne_true both.2, List.append_nil, run_when_of_false]
        change read (frame.holds _) = _
        rw [holds, isReset, read_ok]
  · rw [if_neg hasReset, if_neg fun both => hasReset both.1, List.append_nil]
    rfl

/-- The block of the declaration adds the annotation set of a value. -/
theorem run_declBlock {index : Nat} {argument : Argument} (isValue : 1 ≤ index)
    (found : arguments[index]? = some argument) (state : State) :
    ∃ annotations,
      run (interpreter frame) (writeDeclBlock (getAnnotationIdConstants namePrefix) (1 + index)
        decl) state =
        .ok { state with
          annotations
          fieldsAnnotations :=
            state.fieldsAnnotations ++ valueAnnotations numbers decl (1 + index) argument } := by
  refine ⟨fieldParcels numbers decl (1 + index) argument.equals, ?_⟩
  have notAtom : (1 + index : Int) ≠ atomIdFieldNumber := by
    unfold atomIdFieldNumber
    omega
  rw [writeDeclBlock, Code.block,
    run_seq_of_ok (rfl : run (interpreter frame) (.call .declareAnnotations) state = .ok _),
    run_block_append, run_annotationSet creates (creates.holds_argIs isValue found), Except.bind,
    run_block_singleton, handOver, if_neg notAtom, List.nil_append]
  dsimp only [valueAnnotations]
  by_cases none : fieldParcels numbers decl (1 + index) argument.equals = []
  · rw [if_pos none, run_when_of_false, List.append_nil]
    exact congrArg Except.ok (decide_eq_false (not_not_intro none))
  · rw [if_neg none, run_when_of_true]
    · rfl
    · exact congrArg Except.ok (decide_eq_true none)

/-- The block of the declaration leaves the annotations of the atom. -/
theorem run_declBlock_atom (state : State) :
    run (interpreter frame) (writeDeclBlock (getAnnotationIdConstants namePrefix)
      atomIdFieldNumber decl) state =
      .ok { state with
        annotations := fieldParcels numbers decl atomIdFieldNumber fun _ => false
        atomAnnotations := fieldParcels numbers decl atomIdFieldNumber fun _ => false } := by
  rw [writeDeclBlock, Code.block,
    run_seq_of_ok (rfl : run (interpreter frame) (.call .declareAnnotations) state = .ok _),
    run_block_append,
    run_annotationSet creates (fun hasReset => absurd hasReset creates.noReset), Except.bind,
    run_block_singleton, handOver, if_pos rfl]
  rfl

/-! ## All declarations of a field -/

/-- Of the blocks for a field, the one of the declaration is executed. -/
theorem run_forField {fieldNumber : Int}
    (listed : decl ∈ elements (getAnnotations fieldNumber declSets)) (state : State) :
    run (interpreter frame) (.block (writeNativeAnnotationsVendorForField
      (getAnnotationIdConstants namePrefix) fieldNumber
      (getAnnotations fieldNumber declSets))) state =
      run (interpreter frame)
        (writeDeclBlock (getAnnotationIdConstants namePrefix) fieldNumber decl) state :=
  run_dispatch (fun _ _ => rfl) creates.dispatches creates.runs listed state

theorem run_forField_of_not_listed {fieldNumber : Int}
    (notListed : decl ∉ elements (getAnnotations fieldNumber declSets)) (state : State) :
    run (interpreter frame) (.block (writeNativeAnnotationsVendorForField
      (getAnnotationIdConstants namePrefix) fieldNumber
      (getAnnotations fieldNumber declSets))) state = .ok state :=
  run_dispatch_of_not_listed (fun _ _ => rfl) creates.dispatches creates.runs notListed state

/-- The blocks for a field add the annotation set of its value. -/
theorem run_field {index : Nat} {argument : Argument} (isValue : 1 ≤ index)
    (found : arguments[index]? = some argument) (state : State) :
    ∃ annotations,
      run (interpreter frame) (.block (writeNativeAnnotationsVendorForField
        (getAnnotationIdConstants namePrefix) (1 + index)
        (getAnnotations (1 + index) declSets))) state =
        .ok { state with
          annotations
          fieldsAnnotations :=
            state.fieldsAnnotations ++ valueAnnotations numbers decl (1 + index) argument } := by
  by_cases listed : decl ∈ elements (getAnnotations (1 + index) declSets)
  · rw [run_forField creates listed]
    exact run_declBlock creates isValue found state
  · refine ⟨state.annotations, ?_⟩
    have unannotated := annotationsOf_eq_nil_of_not_listed creates.dispatches listed
    rw [run_forField_of_not_listed creates listed, valueAnnotations_eq_nil unannotated,
      List.append_nil]

/-! ## All fields -/

/-- The blocks for the remaining fields add the sets of their values. -/
theorem run_fields {index : Nat} {later : List Argument} (isValue : 1 ≤ index)
    (remain : arguments.drop index = later) (state : State) :
    ∃ annotations,
      run (interpreter frame) (.block
        ((Java.indicesFrom (1 + index) (later.map Argument.type)).flatMap fun argIndex =>
          writeNativeAnnotationsVendorForField (getAnnotationIdConstants namePrefix) argIndex
            (getAnnotations argIndex declSets))) state =
        .ok { state with
          annotations
          fieldsAnnotations := state.fieldsAnnotations ++
            valuesAnnotationsFrom numbers decl (1 + index) later } := by
  induction later generalizing index state with
  | nil => exact ⟨state.annotations, by simp [Java.indicesFrom, Code.block, valuesAnnotationsFrom]⟩
  | cons argument rest ih =>
      obtain ⟨found, restRemain⟩ := getElem?_and_drop_of_drop remain
      have shift : (1 + index : Int) + 1 = 1 + ((index + 1 : Nat) : Int) := by omega
      obtain ⟨middle, first⟩ := run_field creates isValue found state
      obtain ⟨final, later⟩ := ih (by omega) restRemain
        { state with
          annotations := middle
          fieldsAnnotations :=
            state.fieldsAnnotations ++ valueAnnotations numbers decl (1 + index) argument }
      refine ⟨final, ?_⟩
      rw [List.map_cons, Java.indicesFrom, List.flatMap_cons, run_block_append, first,
        Except.bind, valuesAnnotationsFrom, shift, later, List.append_assoc]

/-- The values of the remaining arguments are put behind those that are stored. -/
theorem run_values {index : Nat} {later : List Argument}
    (remain : arguments.drop (index + 1) = later) {code : Body}
    (written : eachArg writeValue (2 + index) (later.map Argument.type) = .ok code)
    {stored : List VendorAtomValue} (sofar : stored.length = index) (state : State) :
    ∃ values, values.map some = later.map vendorValue ∧
      run (interpreter frame) (.block code)
        { state with values := stored ++ List.replicate later.length (.intValue 0) } =
        .ok { state with values := stored ++ values } := by
  induction later generalizing index stored code with
  | nil =>
      cases written
      exact ⟨[], rfl, rfl⟩
  | cons argument rest ih =>
      obtain ⟨first, firstWritten, restWritten⟩ := bind_eq_ok_iff.mp written
      obtain ⟨others, othersWritten, rfl⟩ := map_eq_ok_iff.mp restWritten
      obtain ⟨tag, isTag, rfl⟩ := map_eq_ok_iff.mp firstWritten
      obtain ⟨found, restRemain⟩ := getElem?_and_drop_of_drop remain
      obtain ⟨value, made, carried⟩ := creates.makeValue_eq found isTag
      have position : (1 : Int) + ((index + 1 : Nat) : Int) = 2 + index := by omega
      have place : (2 + index : Int) - 2 = stored.length := by omega
      have shift : (2 + index : Int) + 1 = 2 + ((index + 1 : Nat) : Int) := by omega
      rw [shift] at othersWritten
      have storedLength : (stored ++ [value]).length = index + 1 := by
        rw [List.length_append, sofar, List.length_singleton]
      let fresh := List.replicate rest.length (VendorAtomValue.intValue 0)
      obtain ⟨values, carriedRest, ran⟩ := ih restRemain othersWritten storedLength
      refine ⟨value :: values, by rw [List.map_cons, List.map_cons, carriedRest, carried], ?_⟩
      rw [position] at made
      have performed : run (interpreter frame)
          (.call (.setValue (2 + index - 2) tag (2 + index)))
          { state with values := stored ++ .intValue 0 :: fresh } =
          .ok { state with values := (stored ++ [value]) ++ fresh } := by
        change (makeValue frame tag (2 + index)).bind _ = _
        rw [made, place]
        change (storeAt (stored ++ .intValue 0 :: fresh) stored.length value).map _ = _
        rw [storeAt_append, List.append_assoc]
        rfl
      rw [Code.block, List.length_cons, List.replicate_succ, run_seq_of_ok performed, ran,
        List.append_assoc]
      rfl

/-! ## Annotations of the parcel -/

/-- The annotations of the atom are put into the parcel unless there are none. -/
theorem run_atomAnnotations (state : State) (absent : state.atom.atomAnnotations = none) :
    ∃ next,
      run (interpreter frame) (.block
        (writeAtomAnnotations (getAnnotationIdConstants namePrefix) declSets)) state =
        .ok next ∧
      next.atom = { state.atom with
        atomAnnotations :=
          presentUnlessEmpty (fieldParcels numbers decl atomIdFieldNumber fun _ => false) } := by
  have unchanged : (fieldParcels numbers decl atomIdFieldNumber fun _ => false) = [] →
      state.atom = { state.atom with
        atomAnnotations :=
          presentUnlessEmpty (fieldParcels numbers decl atomIdFieldNumber fun _ => false) } := by
    intro empty
    rw [empty, presentUnlessEmpty, if_pos rfl, ← absent]
  rw [writeAtomAnnotations]
  dsimp only
  by_cases annotated :
      (elements (getAnnotations atomIdFieldNumber declSets)).length > 0
  · rw [if_pos annotated, Code.block,
      run_seq_of_ok (rfl : run (interpreter frame) (.call .declareAtomAnnotations) state = .ok _),
      run_block_append]
    by_cases listed : decl ∈ elements (getAnnotations atomIdFieldNumber declSets)
    · rw [run_forField creates listed, run_declBlock_atom creates, Except.bind,
        run_block_singleton]
      by_cases empty : (fieldParcels numbers decl atomIdFieldNumber fun _ => false) = []
      · rw [run_when_of_false (congrArg Except.ok (decide_eq_false (not_not_intro empty)))]
        exact ⟨_, rfl, unchanged empty⟩
      · rw [run_when_of_true (congrArg Except.ok (decide_eq_true empty)), presentUnlessEmpty,
          if_neg empty]
        exact ⟨_, rfl, rfl⟩
    · rw [run_forField_of_not_listed creates listed, Except.bind, run_block_singleton,
        run_when_of_false rfl]
      have unannotated := annotationsOf_eq_nil_of_not_listed creates.dispatches listed
      exact ⟨_, rfl, unchanged (fieldParcels_eq_nil unannotated _)⟩
  · rw [if_neg annotated]
    have notListed : decl ∉ elements (getAnnotations atomIdFieldNumber declSets) :=
      fun listed => annotated (List.length_pos_of_mem listed)
    have unannotated := annotationsOf_eq_nil_of_not_listed creates.dispatches notListed
    exact ⟨state, rfl, unchanged (fieldParcels_eq_nil unannotated _)⟩

/-- The annotation sets of the values are put into the parcel unless there are none. -/
theorem run_fieldsAnnotations {first : Argument} {rest : List Argument}
    (split : arguments = first :: rest) (state : State)
    (absent : state.atom.valuesAnnotations = none) :
    ∃ next,
      run (interpreter frame) (.block (writeFieldsAnnotations
        (getAnnotationIdConstants namePrefix) (arguments.map Argument.type) declSets)) state =
        .ok next ∧
      next.atom = { state.atom with
        valuesAnnotations := presentUnlessEmpty (valuesAnnotationsFrom numbers decl 2 rest) } := by
  have unchanged : valuesAnnotationsFrom numbers decl 2 rest = [] →
      state.atom = { state.atom with
        valuesAnnotations :=
          presentUnlessEmpty (valuesAnnotationsFrom numbers decl 2 rest) } := by
    intro empty
    rw [empty, presentUnlessEmpty, if_pos rfl, ← absent]
  have indices : valueArgIndices (arguments.map Argument.type) =
      Java.indicesFrom 2 (rest.map Argument.type) := by
    rw [split]
    exact valueArgIndices_eq first.type rest
  rw [writeFieldsAnnotations]
  by_cases annotated : atomWithFieldsAnnotations (arguments.map Argument.type) declSets = true
  · have remain : arguments.drop 1 = rest := by
      rw [split, List.drop_one, List.tail_cons]
    obtain ⟨annotations, ran⟩ :=
      run_fields creates (le_refl 1) remain { state with fieldsAnnotations := [] }
    have two : (1 : Int) + ((1 : Nat) : Int) = 2 := by decide
    rw [two, List.nil_append] at ran
    rw [if_pos annotated, Code.block,
      run_seq_of_ok (rfl : run (interpreter frame) (.call .declareFieldsAnnotations) state =
        .ok _), run_block_append, indices, ran, Except.bind, run_block_singleton]
    by_cases empty : valuesAnnotationsFrom numbers decl 2 rest = []
    · rw [run_when_of_false (congrArg Except.ok (decide_eq_false (not_not_intro empty)))]
      exact ⟨_, rfl, unchanged empty⟩
    · rw [run_when_of_true (congrArg Except.ok (decide_eq_true empty)), presentUnlessEmpty,
        if_neg empty]
      exact ⟨_, rfl, rfl⟩
  · rw [if_neg annotated]
    have empty : valuesAnnotationsFrom numbers decl 2 rest = [] := by
      apply valuesAnnotationsFrom_eq_nil_of_not_listed creates.dispatches
      rw [← indices]
      exact not_listed_of_no_annotations annotated
    exact ⟨state, rfl, unchanged empty⟩

end Run

/-! ## The method -/

section Body

variable {frame : Frame} {atoms : Atoms} {declSets : FieldNumberToAtomDeclSet} {decl : AtomDecl}
  {namePrefix : String} {numbers : AnnotationNumbers} {first : Argument} {name : String}
  {rest : List Argument}
  (creates : Creates frame atoms declSets decl namePrefix numbers (first :: rest))
  (assigned : assignedName first = some name)

include creates assigned

/-- The first statements set the code and the reverse domain name. -/
theorem run_header :
    run (interpreter frame) (.block [.call .setAtomId, .call (.setReverseDomainName 1),
      .call (.declareValues
        (((first.type :: rest.map Argument.type : Signature).length : Int) - 1))]) {} =
      .ok { atom := { reverseDomainName := some name, atomId := decl.code }
            values := List.replicate rest.length (.intValue 0) } := by
  have code : run (interpreter frame) (.call .setAtomId) {} =
      .ok { atom := { reverseDomainName := some "", atomId := decl.code } } := by
    change (read frame.code).map _ = _
    rw [Frame.code_eq creates.runs.code]
    rfl
  have domain : run (interpreter frame) (.call (.setReverseDomainName 1))
      { atom := { reverseDomainName := some "", atomId := decl.code } } =
      .ok { atom := { reverseDomainName := some name, atomId := decl.code } } := by
    have bound : frame.bindings.lookup (.arg 1) = some (.argument first) :=
      creates.binds 0 _ rfl
    change (read (frame.argument (.arg 1))).bind _ = _
    rw [Frame.argument_eq bound, read_ok]
    dsimp only [Except.bind]
    rw [assigned]
  have count : ((first.type :: rest.map Argument.type : Signature).length : Int) - 1 =
      rest.length := by
    simp
  rw [Code.block, run_seq_of_ok code, Code.block, run_seq_of_ok domain, run_block_singleton, count]
  have notNegative : ¬(rest.length : Int) < 0 := by omega
  rw [run_call]
  dsimp only [interpreter, Statement.perform]
  rw [if_neg notNegative, Int.toNat_natCast]

/-- The whole body creates the parcel. -/
theorem run_body {values : Body}
    (written : eachArg writeValue 2 (rest.map Argument.type) = .ok values) :
    (run (interpreter frame) (.block
      ([.call .setAtomId, .call (.setReverseDomainName 1),
          .call (.declareValues
            (((first.type :: rest.map Argument.type : Signature).length : Int) - 1))] ++
        values ++ [.call .moveValues] ++
        writeAtomAnnotations (getAnnotationIdConstants namePrefix) declSets ++
        writeFieldsAnnotations (getAnnotationIdConstants namePrefix)
          (first.type :: rest.map Argument.type) declSets)) {}).map State.atom =
      .ok (vendorAtom numbers decl name rest) := by
  let atom : VendorAtom := { reverseDomainName := some name, atomId := decl.code }
  have zero : (2 : Int) + ((0 : Nat) : Int) = 2 := by decide
  have remain : (first :: rest).drop (0 + 1) = rest := rfl
  have empty : ([] : List VendorAtomValue).length = 0 := rfl
  obtain ⟨stored, carried, ranValues⟩ :=
    run_values creates remain (zero.symm ▸ written) empty { atom }
  rw [List.nil_append, List.nil_append] at ranValues
  let filled : State := { atom := { atom with values := stored.map some }, values := stored }
  have moved : run (interpreter frame) (.block [.call .moveValues]) { atom, values := stored } =
      .ok filled := rfl
  obtain ⟨middle, ranAtom, middleAtom⟩ := run_atomAnnotations creates filled rfl
  have noSets : middle.atom.valuesAnnotations = none := by rw [middleAtom]
  obtain ⟨final, ranFields, finalAtom⟩ := run_fieldsAnnotations creates rfl middle noSets
  rw [List.append_assoc, List.append_assoc, List.append_assoc,
    run_block_append_of_ok (run_header creates assigned), run_block_append_of_ok ranValues,
    run_block_append_of_ok moved, run_block_append_of_ok ranAtom]
  change (run (interpreter frame) (.block (writeFieldsAnnotations
    (getAnnotationIdConstants namePrefix)
    ((first :: rest).map Argument.type) declSets)) middle).map State.atom = _
  rw [ranFields]
  change Except.ok final.atom = _
  rw [finalAtom, middleAtom, vendorAtom, ← carried]

end Body

@[simp]
theorem writeValue_isOk (argIndex : Int) (type : JavaType) :
    (writeValue argIndex type).isOk = (valueTag type).isOk := by
  rw [writeValue, isOk_map]

/-- A method can be written for every accepted signature. -/
theorem writeNativeCreateVendorAtomMethod_isOk (constants : AnnotationIdConstants)
    {signature : Signature} (accepted : AcceptedSignature signature)
    (declSets : FieldNumberToAtomDeclSet) :
    (writeNativeCreateVendorAtomMethod constants attributionDecl (signature, declSets)).isOk =
      true := by
  rw [writeNativeCreateVendorAtomMethod, isOk_map]
  exact eachArg_tail_isOk writeValue_isOk accepted.tail

section Method

variable {atoms : Atoms} {declSets : FieldNumberToAtomDeclSet} {decl : AtomDecl}
  {numbers : AnnotationNumbers} {platform : Platform} {first : Argument} {name : String}
  {rest : List Argument}

/-- The parameters for arguments are named after their indices. -/
theorem nativeSignatureParameters_names {argIndex : Int} {signature : Signature}
    (noChain : ∀ type ∈ signature, type ≠ .attributionChain) :
    (nativeSignatureParameters attributionDecl true argIndex signature).map Parameter.name =
      plainConvention.namesFrom argIndex signature := by
  induction signature generalizing argIndex with
  | nil => rfl
  | cons type rest ih =>
      have notChain := noChain type List.mem_cons_self
      rw [nativeSignatureParameters, Convention.namesFrom, List.map_append,
        ih fun other member => noChain other (List.mem_cons_of_mem type member),
        nativeArgParameters, if_neg notChain, plainConvention_names_of_ne argIndex notChain]
      simp

/-- The method for the signature of an atom creates its parcel. -/
theorem call_createVendorAtom (creatable : Creatable atoms declSets decl)
    (typed : (first :: rest).map Argument.type = decl.signature)
    (assigned : assignedName first = some name) (compares : ComparesResets 1 cppComparable decl)
    (numbered : ∀ fieldNumber, ∀ ann ∈ annotationsOf decl fieldNumber,
      Numbered (visibleConstants platform) annotationConstantNameVendorNativePrefix numbers
        ann) :
    ∃ method,
      writeNativeCreateVendorAtomMethod
        (getAnnotationIdConstants annotationConstantNameVendorNativePrefix) attributionDecl
        (decl.signature, declSets) = .ok method ∧
      method.call atoms platform decl.code (first :: rest) =
        .ok (vendorAtom numbers decl name rest) := by
  have signature : decl.signature = first.type :: rest.map Argument.type := typed.symm
  have valuesOk := eachArg_tail_isOk writeValue_isOk fun type member =>
    creatable.isArgument type (List.mem_of_mem_tail member)
  obtain ⟨values, written⟩ := isOk_iff_exists.mp valuesOk
  refine ⟨_, by rw [writeNativeCreateVendorAtomMethod, written]; rfl, ?_⟩
  rw [Method.call]
  dsimp only
  generalize isFrame : Method.frame _ atoms platform decl.code _ = frame
  have creates : Creates frame atoms declSets decl annotationConstantNameVendorNativePrefix
      numbers (first :: rest) := by
    subst isFrame
    apply creatable.creates typed _ rfl compares numbered
    change ((Variable.code :: (nativeSignatureParameters attributionDecl true 1
      decl.signature).map Parameter.name).zip
        (Value.code decl.code :: (first :: rest).map Value.argument)) = _
    rw [nativeSignatureParameters_names creatable.noChain, ← creatable.flatMap_plainValues typed]
    rfl
  rw [signature, List.tail_cons] at written
  rw [signature]
  exact run_body creates assigned written

end Method

end StatsLogApiGen.Vendor.Native
