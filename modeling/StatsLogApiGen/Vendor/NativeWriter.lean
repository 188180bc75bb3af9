import StatsLogApiGen.Vendor.Atom

/-!
# The native vendor writer

`native_writer_vendor.cpp`: the methods `createVendorAtom` of a generated C++
source, and what their statements do to the local variables.
-/

namespace StatsLogApiGen.Vendor.Native

open StatsLogApiGen.Container
open StatsLogApiGen.Collation
open StatsLogApiGen.Program
open StatsLogApiGen.Writer

/-! ## Statements -/

/-- The conditions of a generated method. -/
inductive Test where
  | reads (condition : Condition)
  | annotationsNotEmpty
  | atomAnnotationsNotEmpty
  | fieldsAnnotationsNotEmpty
  deriving DecidableEq, Repr

/-- The statements of a generated method.  A vector is copied from an argument or
moved into the parcel that is built. -/
inductive Statement where
  | setAtomId
  | setReverseDomainName (argIndex : Int)
  | declareValues (count : Int)
  | setValue (atomValueIndex : Int) (tag : ValueTag) (argIndex : Int)
  | moveValues
  | declareAtomAnnotations
  | declareAnnotations
  | pushBack (constantName : String) (value : ValueOperand)
  | moveToAtomAnnotations
  | setAtomAnnotations
  | declareFieldsAnnotations
  | pushFieldAnnotations (valueIndex : Int)
  | setValuesAnnotations
  deriving DecidableEq, Repr

/-- The statements of a method in order. -/
abbrev Body := List (Code Test Statement)

structure Method where
  name : String
  parameters : List Parameter
  body : Body
  deriving DecidableEq, Repr

/-! ## Annotations -/

/-- What `write_native_annotations_vendor_for_field` prints for one annotation. -/
def annotationTemplates : AnnotationTemplates Statement where
  restriction annotationConstant category :=
    .pushBack annotationConstant.name (.intValue (.constant (getRestrictionCategoryStr category)))
  int annotationConstant value :=
    .pushBack annotationConstant.name (.intValue (.literal value))
  bool annotationConstant value := .pushBack annotationConstant.name (.boolValue value)
  reset annotationConstant value :=
    .pushBack annotationConstant.name (.intValue (.literal value))

/-- What becomes of the annotations of a field. -/
def handOver (argIndex : Int) : Code Test Statement :=
  if argIndex = atomIdFieldNumber then
    .call .moveToAtomAnnotations
  else
    .when .annotationsNotEmpty (.call (.pushFieldAnnotations (argIndex - 2)))

/-- The block of one declaration.  Its set has annotations on the field, so `at`
finds them. -/
def writeDeclBlock (constants : AnnotationIdConstants) (argIndex : Int) (atomDecl : AtomDecl) :
    Code Test Statement :=
  .block (.call .declareAnnotations ::
    (writeAnnotationSet annotationTemplates constants
      (fun state => .reads (.argIs argIndex state))
      (atomDecl.fieldNumberToAnnotations[argIndex]?.getD ∅) ++ [handOver argIndex]))

/-- `write_native_annotations_vendor_for_field`. -/
def writeNativeAnnotationsVendorForField (constants : AnnotationIdConstants) (argIndex : Int)
    (atomDeclSet : AtomDeclSet) : Body :=
  (elements atomDeclSet).map fun atomDecl =>
    .when (.reads (.codeIs (makeConstantName atomDecl.name)))
      (writeDeclBlock constants argIndex atomDecl)

/-! ## Methods -/

/-- The iteration of the loop over the values. -/
def writeValue (argIndex : Int) (argType : JavaType) :
    Except WriterError (Code Test Statement) :=
  (valueTag argType).map fun tag => .call (.setValue (argIndex - 2) tag argIndex)

/-- The statements for the annotations of the atom. -/
def writeAtomAnnotations (constants : AnnotationIdConstants)
    (fieldNumberToAtomDeclSet : FieldNumberToAtomDeclSet) : Body :=
  let atomAnnotations := getAnnotations atomIdFieldNumber fieldNumberToAtomDeclSet
  if (elements atomAnnotations).length > 0 then
    .call .declareAtomAnnotations ::
      (writeNativeAnnotationsVendorForField constants atomIdFieldNumber atomAnnotations ++
        [.when .atomAnnotationsNotEmpty (.call .setAtomAnnotations)])
  else
    []

/-- The statements for the annotations of the values. -/
def writeFieldsAnnotations (constants : AnnotationIdConstants) (signature : Signature)
    (fieldNumberToAtomDeclSet : FieldNumberToAtomDeclSet) : Body :=
  if atomWithFieldsAnnotations signature fieldNumberToAtomDeclSet then
    .call .declareFieldsAnnotations ::
      ((valueArgIndices signature).flatMap (fun argIndex =>
        writeNativeAnnotationsVendorForField constants argIndex
          (getAnnotations argIndex fieldNumberToAtomDeclSet)) ++
        [.when .fieldsAnnotationsNotEmpty (.call .setValuesAnnotations)])
  else
    []

/-- The iteration of `write_native_create_vendor_atom_methods` for one signature. -/
def writeNativeCreateVendorAtomMethod (constants : AnnotationIdConstants)
    (attributionDecl : AtomDecl) (entry : Signature × FieldNumberToAtomDeclSet) :
    Except WriterError Method :=
  (eachArg writeValue 2 entry.1.tail).map fun values =>
    { name := "createVendorAtom"
      parameters := writeNativeMethodSignature [] entry.1 attributionDecl true
      body :=
        [.call .setAtomId, .call (.setReverseDomainName 1),
          .call (.declareValues ((entry.1.length : Int) - 1))] ++
        values ++ [.call .moveValues] ++
        writeAtomAnnotations constants entry.2 ++
        writeFieldsAnnotations constants entry.1 entry.2 }

/-- `write_native_create_vendor_atom_methods`, which is `write_stats_log_cpp_vendor` up
to the text around the methods. -/
def writeNativeCreateVendorAtomMethods (constants : AnnotationIdConstants)
    (attributionDecl : AtomDecl) (signatureInfoMap : SignatureInfoMap) :
    Except WriterError (List Method) :=
  signatureInfoMap.toList.mapM (writeNativeCreateVendorAtomMethod constants attributionDecl)

/-! ## Execution -/

/-- The local variables of a running method. -/
structure State where
  atom : VendorAtom := { reverseDomainName := some "" }
  values : List VendorAtomValue := []
  annotations : List AnnotationParcel := []
  atomAnnotations : List AnnotationParcel := []
  fieldsAnnotations : List AnnotationSetParcel := []
  deriving DecidableEq, Repr

def Test.holds (frame : Frame) (state : State) : Test → Except Failure Bool
  | .reads condition => read (frame.holds condition)
  | .annotationsNotEmpty => .ok (decide (state.annotations ≠ []))
  | .atomAnnotationsNotEmpty => .ok (decide (state.atomAnnotations ≠ []))
  | .fieldsAnnotationsNotEmpty => .ok (decide (state.fieldsAnnotations ≠ []))

/-- What `std::string` makes of an argument that is assigned to it.  It takes a number for one
`char`, to which the number is narrowed; outside the range of `char` this is what common
compilers do. -/
def assignedName : Argument → Option String
  | .string name => some name
  | .boolean value => some (narrowed (if value then 1 else 0))
  | .int value => some (narrowed value.toInt)
  | .long value => some (narrowed value.toInt)
  | .float bits => some (narrowed (Format.floatInteger bits))
  | _ => none
where
  narrowed (number : Int) : String := String.singleton (Char.ofNat (number % 256).toNat)

/-- The effect of a statement.  The members of a new vector of values are the first
member of the union, and what is moved from is not read again. -/
def Statement.perform (frame : Frame) (state : State) : Statement → Except Failure State
  | .setAtomId =>
      (read frame.code).map fun code => { state with atom := { state.atom with atomId := code } }
  | .setReverseDomainName argIndex =>
      (read (frame.argument (.arg argIndex))).bind fun argument =>
        match assignedName argument with
        | some name =>
            .ok { state with atom := { state.atom with reverseDomainName := some name } }
        | none => .error (.stuck .mistyped)
  | .declareValues count =>
      if count < 0 then
        .error .negativeSize
      else
        .ok { state with values := List.replicate count.toNat (.intValue 0) }
  | .setValue atomValueIndex tag argIndex =>
      (makeValue frame tag argIndex).bind fun value =>
        (storeAt state.values atomValueIndex value).map fun values => { state with values }
  | .moveValues =>
      .ok { state with atom := { state.atom with values := state.values.map some } }
  | .declareAtomAnnotations => .ok { state with atomAnnotations := [] }
  | .declareAnnotations => .ok { state with annotations := [] }
  | .pushBack constantName value =>
      (makeParcel frame constantName value).map fun parcel =>
        { state with annotations := state.annotations ++ [parcel] }
  | .moveToAtomAnnotations => .ok { state with atomAnnotations := state.annotations }
  | .setAtomAnnotations =>
      .ok { state with
        atom := { state.atom with atomAnnotations := some (state.atomAnnotations.map some) } }
  | .declareFieldsAnnotations => .ok { state with fieldsAnnotations := [] }
  | .pushFieldAnnotations valueIndex =>
      .ok { state with
        fieldsAnnotations := state.fieldsAnnotations ++
          [⟨valueIndex, state.annotations.map some⟩] }
  | .setValuesAnnotations =>
      .ok { state with
        atom := { state.atom with
          valuesAnnotations := some (state.fieldsAnnotations.map some) } }

def interpreter (frame : Frame) : Interpreter Test Statement State Failure where
  holds test state := test.holds frame state
  perform statement state := statement.perform frame state

/-- The constants of annotations.  The category 0 has an empty name, and `set` without an
argument makes the value 0. -/
def visibleConstants (platform : Platform) (name : String) : Option Int :=
  if name = "" then some 0 else platform name

/-- The constants of atoms and those that the AIDL compiler declares, around a call
that binds the values to the parameters by position. -/
def Method.frame (method : Method) (atoms : Atoms) (platform : Platform) (code : Int)
    (arguments : List Argument) : Frame where
  bindings := (method.parameters.map Parameter.name).zip
    (.code code :: arguments.map .argument)
  atomConstants := atomConstants atoms
  constants := visibleConstants platform
  comparable := cppComparable

/-- The atom that a call of a method returns. -/
def Method.call (method : Method) (atoms : Atoms) (platform : Platform) (code : Int)
    (arguments : List Argument) : Except Failure VendorAtom :=
  (run (interpreter (method.frame atoms platform code arguments)) (.block method.body) {}).map
    State.atom

end StatsLogApiGen.Vendor.Native
