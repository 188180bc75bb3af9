import StatsLogApiGen.Java.Linking
import StatsLogApiGen.Program.Guarded
import StatsLogApiGen.Writer.Body

/-!
# Vendor atoms

The generated `createVendorAtom` methods build a parcel of the types in
`android.frameworks.stats`.  This file gives these types, the switch that the
vendor writers share, and the parcel that an atom with given arguments stands for.
-/

namespace StatsLogApiGen.Vendor

open StatsLogApiGen.Container
open StatsLogApiGen.Collation
open StatsLogApiGen.Program
open StatsLogApiGen.Writer

/-! ## Parcels -/

/-- The union `VendorAtomValue`.  A float is given by its bits. -/
inductive VendorAtomValue where
  | intValue (value : BitVec 32)
  | longValue (value : BitVec 64)
  | floatValue (bits : BitVec 32)
  | stringValue (value : String)
  | boolValue (value : Bool)
  | repeatedIntValue (values : List (BitVec 32))
  | repeatedLongValue (values : List (BitVec 64))
  | repeatedFloatValue (values : List (BitVec 32))
  | repeatedStringValue (values : List String)
  | repeatedBoolValue (values : List Bool)
  | byteArrayValue (bytes : List (BitVec 8))
  deriving DecidableEq, Repr

/-- An `Annotation` with the number of its id. -/
structure AnnotationParcel where
  annotationId : Int
  value : AnnotationValue
  deriving DecidableEq, Repr

/-- An `AnnotationSet`.  The elements of an array may be null. -/
structure AnnotationSetParcel where
  valueIndex : Int
  annotations : List (Option AnnotationParcel)
  deriving DecidableEq, Repr

/-- A `VendorAtom`; what is null in Java or absent in C++ is `none`. -/
structure VendorAtom where
  reverseDomainName : Option String := none
  atomId : Int := 0
  values : List (Option VendorAtomValue) := []
  valuesAnnotations : Option (List (Option AnnotationSetParcel)) := none
  atomAnnotations : Option (List (Option AnnotationParcel)) := none
  deriving DecidableEq, Repr

/-! ## Values -/

/-- The members of `VendorAtomValue`. -/
inductive ValueTag where
  | intValue
  | longValue
  | floatValue
  | stringValue
  | boolValue
  | repeatedIntValue
  | repeatedLongValue
  | repeatedFloatValue
  | repeatedStringValue
  | repeatedBoolValue
  | byteArrayValue
  deriving DecidableEq, Repr

/-- The switch over the types of a signature, the same in both vendor writers. -/
def valueTag : JavaType → Except WriterError ValueTag
  | .attributionChain => .error .vendorAttributionChain
  | .byteArray => .ok .byteArrayValue
  | .boolean => .ok .boolValue
  | .int | .enum => .ok .intValue
  | .float => .ok .floatValue
  | .long => .ok .longValue
  | .string => .ok .stringValue
  | .booleanArray => .ok .repeatedBoolValue
  | .intArray | .enumArray => .ok .repeatedIntValue
  | .floatArray => .ok .repeatedFloatValue
  | .longArray => .ok .repeatedLongValue
  | .stringArray => .ok .repeatedStringValue
  | .unknownOrInvalid | .object | .double | .doubleArray => .error .unsupportedType

/-- The union with a member set to an argument of its type. -/
def ValueTag.store : ValueTag → Argument → Option VendorAtomValue
  | .intValue, .int value => some (.intValue value)
  | .longValue, .long value => some (.longValue value)
  | .floatValue, .float bits => some (.floatValue bits)
  | .stringValue, .string value => some (.stringValue value)
  | .boolValue, .boolean value => some (.boolValue value)
  | .repeatedIntValue, .intArray values => some (.repeatedIntValue values)
  | .repeatedLongValue, .longArray values => some (.repeatedLongValue values)
  | .repeatedFloatValue, .floatArray values => some (.repeatedFloatValue values)
  | .repeatedStringValue, .stringArray values => some (.repeatedStringValue values)
  | .repeatedBoolValue, .booleanArray values => some (.repeatedBoolValue values)
  | .byteArrayValue, .byteArray bytes => some (.byteArrayValue bytes)
  | _, _ => none

/-- The value that carries an argument; there is none for a chain. -/
def vendorValue : Argument → Option VendorAtomValue
  | .attributionChain .. => none
  | .boolean value => some (.boolValue value)
  | .int value => some (.intValue value)
  | .long value => some (.longValue value)
  | .float bits => some (.floatValue bits)
  | .string value => some (.stringValue value)
  | .byteArray bytes => some (.byteArrayValue bytes)
  | .booleanArray values => some (.repeatedBoolValue values)
  | .intArray values => some (.repeatedIntValue values)
  | .longArray values => some (.repeatedLongValue values)
  | .floatArray values => some (.repeatedFloatValue values)
  | .stringArray values => some (.repeatedStringValue values)

/-- The member that is set for an argument carries it. -/
theorem store_valueTag {argument : Argument} {tag : ValueTag}
    (isTag : valueTag argument.type = .ok tag) :
    ∃ value, tag.store argument = some value ∧ vendorValue argument = some value := by
  cases argument <;> cases isTag <;> exact ⟨_, rfl, rfl⟩

theorem valueTag_isOk {type : JavaType} (isArgument : IsArgument type) :
    (valueTag type).isOk = true := by
  cases type <;> first | rfl | exact absurd isArgument id

/-- The loop over the values of an accepted signature gets through. -/
theorem eachArg_tail_isOk {α : Type} {print : Int → JavaType → Except WriterError α}
    (prints : ∀ argIndex type, (print argIndex type).isOk = (valueTag type).isOk)
    {signature : Signature} (areArguments : ∀ type ∈ signature.tail, IsArgument type) :
    (eachArg print 2 signature.tail).isOk = true := by
  have isOk : (eachArg print 2 signature.tail).isOk = signature.tail.all fun _ => true := by
    apply eachArg_isOk
    intro argIndex type member
    rw [prints, valueTag_isOk (areArguments type member)]
  rw [isOk, List.all_eq_true]
  exact fun type _ => rfl

/-- The loop over the values sets members and does nothing else. -/
theorem exists_setValue_of_mem {κ α : Type} (setValue : Int → ValueTag → Int → α)
    {argIndex : Int} {signature : Signature} {values : List (Code κ α)}
    (written : eachArg (fun argIndex argType => (valueTag argType).map fun tag =>
      .call (setValue (argIndex - 2) tag argIndex)) argIndex signature = .ok values)
    {code : Code κ α} (member : code ∈ values) :
    ∃ slot tag position, code = .call (setValue slot tag position) := by
  rcases exists_print_of_mem_eachArg written member with ⟨position, type, -, print⟩
  rcases map_eq_ok_iff.mp print with ⟨tag, -, rfl⟩
  exact ⟨_, tag, position, rfl⟩

/-! ## Loops over the values -/

/-- The 1-based indices of the arguments after the reverse domain name. -/
def valueArgIndices (signature : Signature) : List Int :=
  (Java.argIndices signature).tail

/-- Some atom of the signature has annotations on a value. -/
def atomWithFieldsAnnotations (signature : Signature)
    (fieldNumberToAtomDeclSet : FieldNumberToAtomDeclSet) : Bool :=
  (valueArgIndices signature).any fun argIndex =>
    (elements (getAnnotations argIndex fieldNumberToAtomDeclSet)).length > 0

/-! ## The parcel of an atom -/

/-- The numbers of annotation ids in the parcels. -/
structure AnnotationNumbers where
  annotationId : AnnotationId → Int

/-- The parcel of an annotation. -/
def AnnotationNumbers.parcel (numbers : AnnotationNumbers) (ann : Annotation) :
    AnnotationParcel :=
  ⟨numbers.annotationId ann.annotationId, ann.value⟩

/-- The reset that follows when the value equals the state that triggers it. -/
def AnnotationNumbers.reset (numbers : AnnotationNumbers) (annotations : List Annotation)
    (equals : Int → Bool) : List AnnotationParcel :=
  if HasReset annotations ∧ equals (declaredState .triggerStateReset annotations) then
    [⟨numbers.annotationId .triggerStateReset,
      .int (declaredState .defaultState annotations)⟩]
  else
    []

section Parcel

variable (numbers : AnnotationNumbers) (decl : AtomDecl)

/-- The annotations of a field whose value is compared by `equals`. -/
def fieldParcels (fieldNumber : Int) (equals : Int → Bool) : List AnnotationParcel :=
  (directAnnotations (annotationsOf decl fieldNumber)).map numbers.parcel ++
    numbers.reset (annotationsOf decl fieldNumber) equals

/-- The annotation set of a value, if it has annotations. -/
def valueAnnotations (argIndex : Int) (argument : Argument) : List AnnotationSetParcel :=
  let annotations := fieldParcels numbers decl argIndex argument.equals
  if annotations = [] then [] else [⟨argIndex - 2, annotations.map some⟩]

/-- The annotation sets of the values from the argument at `argIndex` on. -/
def valuesAnnotationsFrom : Int → List Argument → List AnnotationSetParcel
  | _, [] => []
  | argIndex, argument :: rest =>
      valueAnnotations numbers decl argIndex argument ++ valuesAnnotationsFrom (argIndex + 1) rest

end Parcel

theorem fieldParcels_eq_nil {numbers : AnnotationNumbers} {decl : AtomDecl} {fieldNumber : Int}
    (unannotated : annotationsOf decl fieldNumber = []) (equals : Int → Bool) :
    fieldParcels numbers decl fieldNumber equals = [] := by
  rw [fieldParcels, unannotated, AnnotationNumbers.reset, if_neg]
  · rfl
  · exact fun both => both.1.1 rfl

theorem valueAnnotations_eq_nil {numbers : AnnotationNumbers} {decl : AtomDecl} {argIndex : Int}
    (unannotated : annotationsOf decl argIndex = []) (argument : Argument) :
    valueAnnotations numbers decl argIndex argument = [] := by
  rw [valueAnnotations, fieldParcels_eq_nil unannotated]
  rfl

theorem valuesAnnotationsFrom_eq_nil {numbers : AnnotationNumbers} {decl : AtomDecl}
    {argIndex : Int} {arguments : List Argument}
    (unannotated : ∀ index : Nat, index < arguments.length →
      annotationsOf decl (argIndex + index) = []) :
    valuesAnnotationsFrom numbers decl argIndex arguments = [] := by
  induction arguments generalizing argIndex with
  | nil => rfl
  | cons argument rest ih =>
      have first := unannotated 0 (by simp)
      rw [Int.natCast_zero, Int.add_zero] at first
      rw [valuesAnnotationsFrom, valueAnnotations_eq_nil first, List.nil_append]
      apply ih
      intro index bound
      have later := unannotated (index + 1) (by simpa using bound)
      rwa [Int.natCast_add, Int.natCast_one, Int.add_comm (index : Int), ← Int.add_assoc]
        at later

/-- A list that is absent when it is empty. -/
def presentUnlessEmpty {α : Type} (list : List α) : Option (List (Option α)) :=
  if list = [] then none else some (list.map some)

/-- The parcel of an atom whose first argument is the reverse domain name. -/
def vendorAtom (numbers : AnnotationNumbers) (decl : AtomDecl) (name : String)
    (arguments : List Argument) : VendorAtom where
  reverseDomainName := some name
  atomId := decl.code
  values := arguments.map vendorValue
  valuesAnnotations := presentUnlessEmpty (valuesAnnotationsFrom numbers decl 2 arguments)
  atomAnnotations :=
    presentUnlessEmpty (fieldParcels numbers decl atomIdFieldNumber fun _ => false)

/-! ## Failures -/

/-- Why a generated method cannot be executed to its end. -/
inductive Failure where
  | stuck (reason : Stuck)
  | negativeSize
  | outOfBounds
  | nullPointer
  deriving DecidableEq, Repr

/-- A result of the frame, where it can be read. -/
def read {α : Type} (result : Except Stuck α) : Except Failure α :=
  result.mapError .stuck

@[simp]
theorem read_ok {α : Type} (value : α) : read (.ok value) = .ok value :=
  rfl

/-- The value of an annotation in generated code. -/
inductive ValueOperand where
  | intValue (value : Operand)
  | boolValue (value : Bool)
  deriving DecidableEq, Repr

def ValueOperand.eval (frame : Frame) : ValueOperand → Except Failure AnnotationValue
  | .intValue value => (read (frame.operand value)).map .int
  | .boolValue value => .ok (.bool value)

/-- `Annotation annotation` with its id and its value. -/
def makeParcel (frame : Frame) (constantName : String) (value : ValueOperand) :
    Except Failure AnnotationParcel :=
  (read (frame.constant constantName)).bind fun annotationId =>
    (value.eval frame).map fun value => ⟨annotationId, value⟩

/-- Put an element in an array. -/
def storeAt {α : Type} (array : List α) (index : Int) (element : α) : Except Failure (List α) :=
  if 0 ≤ index ∧ index < array.length then
    .ok (array.set index.toNat element)
  else
    .error .outOfBounds

/-- The value that is put into the atom for an argument. -/
def makeValue (frame : Frame) (tag : ValueTag) (argIndex : Int) :
    Except Failure VendorAtomValue :=
  (read (frame.argument (.arg argIndex))).bind fun argument =>
    match tag.store argument with
    | some value => .ok value
    | none => .error (.stuck .mistyped)

/-! ## Annotations -/

section Annotations

variable {frame : Frame} {namePrefix : String} {numbers : AnnotationNumbers} {ann : Annotation}

/-- The constants that are printed for an annotation have its numbers. -/
structure Numbered (constants : String → Option Int) (namePrefix : String)
    (numbers : AnnotationNumbers) (ann : Annotation) : Prop where
  annotationId : constants (namePrefix ++ annotationIdName ann.annotationId) =
    some (numbers.annotationId ann.annotationId)
  category : ann.annotationId = .restrictionCategory → ∀ category, ann.value = .int category →
    constants (getRestrictionCategoryStr category) = some category

/-- The value that is printed for an annotation that is no state. -/
def printedValue (ann : Annotation) : ValueOperand :=
  match ann.value with
  | .int intValue =>
      if ann.annotationId = .restrictionCategory then
        .intValue (.constant (getRestrictionCategoryStr intValue))
      else
        .intValue (.literal intValue)
  | .bool boolValue => .boolValue boolValue

theorem makeParcel_eq {constantName : String} {annotationId : Int} {operand : ValueOperand}
    {value : AnnotationValue} (declared : frame.constants constantName = some annotationId)
    (evaluated : operand.eval frame = .ok value) :
    makeParcel frame constantName operand = .ok ⟨annotationId, value⟩ := by
  rw [makeParcel, Frame.constant_eq declared, read_ok, Except.bind, evaluated]
  rfl

/-- What is printed for an annotation makes its parcel. -/
theorem makeParcel_printedValue (numbered : Numbered frame.constants namePrefix numbers ann) :
    makeParcel frame (getAnnotationIdConstants namePrefix ann.annotationId).name
      (printedValue ann) = .ok (numbers.parcel ann) := by
  obtain ⟨annotationId, atomId, value⟩ := ann
  cases value with
  | bool boolValue => exact makeParcel_eq numbered.annotationId rfl
  | int intValue =>
      by_cases isCategory : annotationId = .restrictionCategory
      · subst isCategory
        apply makeParcel_eq numbered.annotationId
        change (read (frame.constant (getRestrictionCategoryStr intValue))).map _ = _
        rw [Frame.constant_eq (numbered.category rfl intValue rfl)]
        rfl
      · dsimp only [printedValue, AnnotationNumbers.parcel]
        rw [if_neg isCategory]
        exact makeParcel_eq numbered.annotationId rfl

/-- What is printed for a reset makes its parcel. -/
theorem makeParcel_reset
    (declared : frame.constants (namePrefix ++ annotationIdName .triggerStateReset) =
      some (numbers.annotationId .triggerStateReset)) (value : Int) :
    makeParcel frame (getAnnotationIdConstants namePrefix .triggerStateReset).name
      (.intValue (.literal value)) =
        .ok ⟨numbers.annotationId .triggerStateReset, .int value⟩ :=
  makeParcel_eq declared rfl

end Annotations

/-! ## Dispatch -/

section Dispatch

variable {frame : Frame} {atoms : Atoms} {declSets : FieldNumberToAtomDeclSet} {decl : AtomDecl}

theorem annotationsOf_eq_nil_of_not_listed (dispatches : Dispatches atoms declSets decl)
    {fieldNumber : Int} (notListed : decl ∉ elements (getAnnotations fieldNumber declSets)) :
    annotationsOf decl fieldNumber = [] := by
  by_contra annotated
  obtain ⟨atomDeclSet, found, listed⟩ := dispatches.listed fieldNumber annotated
  apply notListed
  rw [getAnnotations, found]
  exact listed

theorem mem_getAnnotations {fieldNumber : Int} {other : AtomDecl}
    (listed : other ∈ elements (getAnnotations fieldNumber declSets)) :
    ∃ atomDeclSet, declSets[fieldNumber]? = some atomDeclSet ∧ other ∈ elements atomDeclSet := by
  rw [getAnnotations] at listed
  cases found : declSets[fieldNumber]? with
  | none =>
      rw [found] at listed
      simp [elements] at listed
  | some atomDeclSet =>
      rw [found] at listed
      exact ⟨atomDeclSet, rfl, listed⟩

theorem nodup_getAnnotations (dispatches : Dispatches atoms declSets decl) (fieldNumber : Int) :
    (elements (getAnnotations fieldNumber declSets)).Nodup := by
  rw [getAnnotations]
  cases found : declSets[fieldNumber]? with
  | none => exact List.nodup_nil
  | some atomDeclSet => exact dispatches.distinct fieldNumber atomDeclSet found

/-- The code of the call is compared with the constant of a declaration. -/
theorem holds_codeIs_decl (dispatches : Dispatches atoms declSets decl)
    (runs : RunsAs frame atoms decl) :
    frame.holds (.codeIs (makeConstantName decl.name)) = .ok true := by
  rw [Frame.holds_codeIs (runs.atomConstants ▸ dispatches.constant) runs.code,
    decide_eq_true rfl]

theorem holds_codeIs_other (dispatches : Dispatches atoms declSets decl)
    (runs : RunsAs frame atoms decl) {fieldNumber : Int} {other : AtomDecl}
    (listed : other ∈ elements (getAnnotations fieldNumber declSets)) (different : other ≠ decl) :
    frame.holds (.codeIs (makeConstantName other.name)) = .ok false := by
  obtain ⟨atomDeclSet, found, member⟩ := mem_getAnnotations listed
  obtain ⟨notCode, constant⟩ := dispatches.others fieldNumber atomDeclSet found other member
    different
  rw [Frame.holds_codeIs (runs.atomConstants ▸ constant) runs.code, decide_eq_false notCode]

section Dispatch

variable {τ α σ : Type} {interpreter : Interpreter τ α σ Failure} {reads : Condition → τ}
  (reading : ∀ condition state, interpreter.holds (reads condition) state =
    read (frame.holds condition)) (dispatches : Dispatches atoms declSets decl)
  (runs : RunsAs frame atoms decl) {fieldNumber : Int} {body : AtomDecl → Code τ α}

include reading dispatches runs

/-- Of the blocks for a field, the one of the declaration is executed. -/
theorem run_dispatch (listed : decl ∈ elements (getAnnotations fieldNumber declSets))
    (state : σ) :
    run interpreter (.block ((elements (getAnnotations fieldNumber declSets)).map fun other =>
      .when (reads (.codeIs (makeConstantName other.name))) (body other))) state =
      run interpreter (body decl) state := by
  apply run_block_when_of_unique (nodup_getAnnotations dispatches fieldNumber) listed
  · intro state
    rw [reading, holds_codeIs_decl dispatches runs, read_ok]
  · intro other member different state
    rw [reading, holds_codeIs_other dispatches runs member different, read_ok]

theorem run_dispatch_of_not_listed
    (notListed : decl ∉ elements (getAnnotations fieldNumber declSets)) (state : σ) :
    run interpreter (.block ((elements (getAnnotations fieldNumber declSets)).map fun other =>
      .when (reads (.codeIs (makeConstantName other.name))) (body other))) state =
      .ok state := by
  apply run_block_when_of_false
  intro other member
  rw [reading, holds_codeIs_other dispatches runs member, read_ok]
  rintro rfl
  exact notListed member

end Dispatch

/-- Values whose fields do not list the declaration get no annotation sets. -/
theorem valuesAnnotationsFrom_eq_nil_of_not_listed (dispatches : Dispatches atoms declSets decl)
    {numbers : AnnotationNumbers} {argIndex : Int} {arguments : List Argument}
    (notListed : ∀ other ∈ Java.indicesFrom argIndex (arguments.map Argument.type),
      decl ∉ elements (getAnnotations other declSets)) :
    valuesAnnotationsFrom numbers decl argIndex arguments = [] := by
  apply valuesAnnotationsFrom_eq_nil
  intro index bound
  apply annotationsOf_eq_nil_of_not_listed dispatches
  apply notListed
  apply Java.mem_indicesFrom
  rwa [List.length_map]

/-- Without a set for a value no declaration is listed. -/
theorem not_listed_of_no_annotations {signature : Signature}
    (none : ¬atomWithFieldsAnnotations signature declSets = true) :
    ∀ argIndex ∈ valueArgIndices signature, decl ∉ elements (getAnnotations argIndex declSets) := by
  intro argIndex member listed
  apply none
  rw [atomWithFieldsAnnotations, List.any_eq_true]
  exact ⟨argIndex, member, decide_eq_true (List.length_pos_of_mem listed)⟩

end Dispatch

/-! ## Calls -/

/-- Elements are put in an array from its start. -/
theorem storeAt_append {α : Type} (stored : List α) (old : α) (later : List α) (element : α) :
    storeAt (stored ++ old :: later) stored.length element =
      .ok (stored ++ element :: later) := by
  rw [storeAt, if_pos]
  · simp
  · constructor
    · omega
    · rw [List.length_append, List.length_cons]
      omega

/-- The loops over the values run over the indices of the arguments after the first. -/
theorem valueArgIndices_eq (first : JavaType) (rest : List Argument) :
    valueArgIndices (first :: rest.map Argument.type) =
      Java.indicesFrom 2 (rest.map Argument.type) := by
  rw [valueArgIndices, Java.argIndices_eq]
  rfl

/-- A frame in which a method creates the parcel of an atom. -/
structure Creates (frame : Frame) (atoms : Atoms) (declSets : FieldNumberToAtomDeclSet)
    (decl : AtomDecl) (namePrefix : String) (numbers : AnnotationNumbers)
    (arguments : List Argument) : Prop where
  dispatches : Dispatches atoms declSets decl
  runs : RunsAs frame atoms decl
  numbered : ∀ fieldNumber, ∀ ann ∈ annotationsOf decl fieldNumber,
    Numbered frame.constants namePrefix numbers ann
  binds : ∀ (index : Nat) argument, arguments[index]? = some argument →
    frame.bindings.lookup (.arg (1 + index)) = some (.argument argument)
  compared : ∀ (index : Nat) argument, 1 ≤ index → arguments[index]? = some argument →
    HasReset (annotationsOf decl (1 + index)) → frame.comparable argument.type
      (declaredState .triggerStateReset (annotationsOf decl (1 + index))) = true
  noReset : ¬HasReset (annotationsOf decl atomIdFieldNumber)

section Creates

variable {frame : Frame} {atoms : Atoms} {declSets : FieldNumberToAtomDeclSet} {decl : AtomDecl}
  {namePrefix : String} {numbers : AnnotationNumbers} {arguments : List Argument}
  (creates : Creates frame atoms declSets decl namePrefix numbers arguments)

include creates

/-- The constant of the reset is declared where there is a reset. -/
theorem Creates.numberedReset {fieldNumber : Int}
    (hasReset : HasReset (annotationsOf decl fieldNumber)) :
    frame.constants (namePrefix ++ annotationIdName .triggerStateReset) =
      some (numbers.annotationId .triggerStateReset) := by
  obtain ⟨ann, member, isReset⟩ := exists_mem_of_declaredState hasReset.2
  have declared := (creates.numbered fieldNumber ann member).annotationId
  rwa [isReset] at declared

/-- A value is compared with the state that triggers a reset. -/
theorem Creates.holds_argIs {index : Nat} {argument : Argument} (isValue : 1 ≤ index)
    (found : arguments[index]? = some argument)
    (hasReset : HasReset (annotationsOf decl (1 + index))) :
    frame.holds (.argIs (1 + index)
        (declaredState .triggerStateReset (annotationsOf decl (1 + index)))) =
      .ok (argument.equals
        (declaredState .triggerStateReset (annotationsOf decl (1 + index)))) :=
  Frame.holds_argIs (creates.binds index argument found)
    (creates.compared index argument isValue found hasReset)

/-- The value for an argument is made when its type has a member. -/
theorem Creates.makeValue_eq {index : Nat} {argument : Argument} {tag : ValueTag}
    (found : arguments[index]? = some argument) (isTag : valueTag argument.type = .ok tag) :
    ∃ value, makeValue frame tag (1 + index) = .ok value ∧ vendorValue argument = some value := by
  obtain ⟨value, stored, carried⟩ := store_valueTag isTag
  refine ⟨value, ?_, carried⟩
  rw [makeValue, Frame.argument_eq (creates.binds index argument found), read_ok]
  change (match tag.store argument with | some value => _ | none => _) = _
  rw [stored]

end Creates

/-! ## Logged atoms -/

/-- A declaration without a chain whose parcel the methods for its signature create. -/
structure Creatable (atoms : Atoms) (declSets : FieldNumberToAtomDeclSet) (decl : AtomDecl) :
    Prop where
  isArgument : ∀ type ∈ decl.signature, IsArgument type
  dispatches : Dispatches atoms declSets decl
  noReset : ¬HasReset (annotationsOf decl atomIdFieldNumber)

section Creatable

variable {atoms : Atoms} {declSets : FieldNumberToAtomDeclSet} {decl : AtomDecl}
  (creatable : Creatable atoms declSets decl)

include creatable

theorem Creatable.noChain : ∀ type ∈ decl.signature, type ≠ .attributionChain := by
  rintro type member rfl
  exact creatable.isArgument _ member

/-- The values that are passed are the arguments. -/
theorem Creatable.flatMap_plainValues {arguments : List Argument}
    (typed : arguments.map Argument.type = decl.signature) :
    arguments.flatMap plainConvention.values = arguments.map .argument := by
  rw [List.map_eq_flatMap]
  apply List.flatMap_congr
  intro argument member
  have notChain := creatable.noChain argument.type (typed ▸ List.mem_map_of_mem member)
  cases argument <;> first | rfl | exact absurd rfl notChain

/-- A method that is called with the code of an atom creates its parcel. -/
theorem Creatable.creates {frame : Frame} {namePrefix : String}
    {numbers : AnnotationNumbers} {arguments : List Argument}
    (typed : arguments.map Argument.type = decl.signature)
    (bindings : frame.bindings = plainConvention.bind decl.code decl.signature arguments)
    (atomCodes : frame.atomConstants = atomConstants atoms)
    (compares : ComparesResets 1 frame.comparable decl)
    (numbered : ∀ fieldNumber, ∀ ann ∈ annotationsOf decl fieldNumber,
      Numbered frame.constants namePrefix numbers ann) :
    Creates frame atoms declSets decl namePrefix numbers arguments where
  dispatches := creatable.dispatches
  runs := ⟨by rw [bindings, Convention.lookup_bind_code], atomCodes⟩
  numbered := numbered
  binds index argument found := by
    have accepted : AcceptedSignature decl.signature := ⟨_, creatable.isArgument, Or.inl rfl⟩
    have binds : plainConvention.Binds
        (plainConvention.bind decl.code decl.signature arguments) (1 + index) argument :=
      Convention.bind_binds plainConvention_valid accepted typed found
    rw [bindings]
    apply binds _ (plainConvention_valid.argument _ argument _)
    apply creatable.noChain argument.type
    rw [← typed]
    exact List.mem_map_of_mem (List.mem_of_getElem? found)
  compared index argument isValue found := by
    apply compares index argument.type isValue
    rw [← typed, List.getElem?_map, found, Option.map_some]
  noReset := creatable.noReset

end Creatable

end StatsLogApiGen.Vendor
