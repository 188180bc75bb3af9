import StatsLogApiGen.Vendor.Atom

/-!
# The Java vendor writer

`java_writer_vendor.cpp`: the methods `createVendorAtom` of a generated Java class,
and what their statements do to the local variables.
-/

namespace StatsLogApiGen.Vendor.Java

open StatsLogApiGen.Container
open StatsLogApiGen.Collation
open StatsLogApiGen.Program
open StatsLogApiGen.Writer

/-! ## Statements -/

/-- The conditions of a generated method; the code is the parameter `atomId`. -/
inductive Test where
  | reads (condition : Condition)
  | annotationsCountPositive
  | atomAnnotationsPresent
  | fieldsAnnotationsPresent
  deriving DecidableEq, Repr

/-- The statements of a generated method. -/
inductive Statement where
  | setReverseDomainName (argIndex : Int)
  | setAtomId
  | newValues (count : Int)
  | setValue (atomValueIndex : Int) (tag : ValueTag) (argIndex : Int)
  | declareAtomAnnotations
  | declareAnnotationsCount (count : Nat)
  | incrementAnnotationsCount
  | newAnnotations
  | declareAnnotationIdx
  | store (constantName : String) (value : ValueOperand)
  | assignAtomAnnotations
  | setAtomAnnotations
  | declareFieldsAnnotations
  | newFieldsAnnotations
  | addFieldAnnotations (valueIndex : Int)
  | setValuesAnnotations
  deriving DecidableEq, Repr

/-- The statements of a method in order. -/
abbrev Body := List (Code Test Statement)

structure Method where
  name : String
  parameters : List Parameter
  body : Body
  deriving DecidableEq, Repr

/-! ## Annotations of one declaration -/

/-- The states that the first loop over the annotations looks for. -/
structure States where
  resetState : Int := -1
  defaultState : Int := -1

/-- The body of the first loop. -/
def States.scan (states : States) (ann : Annotation) : States :=
  match ann.value with
  | .int intValue =>
      if ann.annotationId = .triggerStateReset then { states with resetState := intValue }
      else if ann.annotationId = .defaultState then { states with defaultState := intValue }
      else states
  | .bool _ => states

/-- The predicate of `count_if`. -/
def isCounted (ann : Annotation) : Bool :=
  match ann.value with
  | .int _ => ann.annotationId ≠ .triggerStateReset ∧ ann.annotationId ≠ .defaultState
  | .bool _ => true

/-- The body of the second loop. -/
def writeStore (constants : AnnotationIdConstants) (ann : Annotation) : Body :=
  let annotationConstant := constants ann.annotationId
  match ann.value with
  | .int intValue =>
      if ann.annotationId = .restrictionCategory then
        [.call (.store annotationConstant.name
          (.intValue (.constant (getRestrictionCategoryStr intValue))))]
      else if ann.annotationId ≠ .triggerStateReset ∧ ann.annotationId ≠ .defaultState then
        [.call (.store annotationConstant.name (.intValue (.literal intValue)))]
      else
        []
  | .bool boolValue => [.call (.store annotationConstant.name (.boolValue boolValue))]

/-- What becomes of the annotations of a field. -/
def handOver (argIndex : Int) : Code Test Statement :=
  if argIndex = atomIdFieldNumber then
    .call .assignAtomAnnotations
  else
    .when .annotationsCountPositive (.call (.addFieldAnnotations (argIndex - 2)))

/-- A statement under the comparison for the reset, if there is one. -/
def whenReset (argIndex : Int) (states : States) (statement : Statement) : Body :=
  if states.defaultState ≠ -1 ∧ states.resetState ≠ -1 then
    [.when (.reads (.argIs argIndex states.resetState)) (.call statement)]
  else
    []

/-- The statements for the annotations of a declaration on a field. -/
def writeAnnotationsBlock (constants : AnnotationIdConstants) (argIndex : Int)
    (annotations : List Annotation) : Body :=
  let states := annotations.foldl States.scan {}
  [.call (.declareAnnotationsCount (annotations.countP isCounted))] ++
    whenReset argIndex states .incrementAnnotationsCount ++
    [.call .newAnnotations, .call .declareAnnotationIdx] ++
    annotations.flatMap (writeStore constants) ++
    whenReset argIndex states (.store (constants .triggerStateReset).name
      (.intValue (.literal states.defaultState))) ++
    [handOver argIndex]

/-! ## Annotations of a field -/

/-- `write_annotations_vendor_for_field`.  A declaration of the set has annotations on
the field, so `at` finds them. -/
def writeAnnotationsVendorForField (constants : AnnotationIdConstants) (argIndex : Int)
    (atomDeclSet : AtomDeclSet) : Body :=
  (elements atomDeclSet).map fun atomDecl =>
    .when (.reads (.codeIs (makeConstantName atomDecl.name)))
      (.block (writeAnnotationsBlock constants argIndex
        (elements (atomDecl.fieldNumberToAnnotations[argIndex]?.getD ∅))))

/-- The lists that have been created so far, and the atoms they are for. -/
structure ArrayInits where
  code : Body := []
  processedAtomNames : List String := []

/-- The iteration of `write_value_annotations_array_init` for one declaration. -/
def ArrayInits.add (inits : ArrayInits) (atomDecl : AtomDecl) : ArrayInits :=
  let atomConstant := makeConstantName atomDecl.name
  if atomConstant ∈ inits.processedAtomNames then
    inits
  else
    { code := inits.code ++ [.when (.reads (.codeIs atomConstant)) (.call .newFieldsAnnotations)]
      processedAtomNames := atomConstant :: inits.processedAtomNames }

/-- `write_value_annotations_array_init`. -/
def writeValueAnnotationsArrayInit (inits : ArrayInits) (atomDeclSet : AtomDeclSet) :
    ArrayInits :=
  (elements atomDeclSet).foldl ArrayInits.add inits

/-! ## Methods -/

/-- The iteration of the loop over the values. -/
def writeValue (argIndex : Int) (argType : JavaType) :
    Except WriterError (Code Test Statement) :=
  (valueTag argType).map fun tag => .call (.setValue (argIndex - 2) tag argIndex)

/-- The statements for the annotations of the atom. -/
def writeAtomAnnotations (constants : AnnotationIdConstants)
    (fieldNumberToAtomDeclSet : FieldNumberToAtomDeclSet) : Body :=
  let atomAnnotations := getAnnotations atomIdFieldNumber fieldNumberToAtomDeclSet
  if (elements atomAnnotations).length > 0 then
    .call .declareAtomAnnotations ::
      (writeAnnotationsVendorForField constants atomIdFieldNumber atomAnnotations ++
        [.when .atomAnnotationsPresent (.call .setAtomAnnotations)])
  else
    []

/-- The statements for the annotations of the values: the lists are created first. -/
def writeFieldsAnnotations (constants : AnnotationIdConstants) (signature : Signature)
    (fieldNumberToAtomDeclSet : FieldNumberToAtomDeclSet) : Body :=
  if atomWithFieldsAnnotations signature fieldNumberToAtomDeclSet then
    let inits := (valueArgIndices signature).foldl (fun inits argIndex =>
      writeValueAnnotationsArrayInit inits (getAnnotations argIndex fieldNumberToAtomDeclSet)) {}
    .call .declareFieldsAnnotations ::
      (inits.code ++
        (valueArgIndices signature).flatMap (fun argIndex =>
          writeAnnotationsVendorForField constants argIndex
            (getAnnotations argIndex fieldNumberToAtomDeclSet)) ++
        [.when .fieldsAnnotationsPresent (.call .setValuesAnnotations)])
  else
    []

/-- `write_method_body_vendor`. -/
def writeMethodBodyVendor (constants : AnnotationIdConstants) (signature : Signature)
    (fieldNumberToAtomDeclSet : FieldNumberToAtomDeclSet) : Except WriterError Body :=
  (eachArg writeValue 2 signature.tail).map fun values =>
    [.call (.setReverseDomainName 1), .call .setAtomId,
      .call (.newValues ((signature.length : Int) - 1))] ++
    values ++
    writeAtomAnnotations constants fieldNumberToAtomDeclSet ++
    writeFieldsAnnotations constants signature fieldNumberToAtomDeclSet

/-- The iteration of `write_java_pushed_methods_vendor` for one signature.  The
declaration of the attribution node is empty, which makes a chain an error. -/
def writeJavaPushedMethodVendor (constants : AnnotationIdConstants)
    (entry : Signature × FieldNumberToAtomDeclSet) : Except WriterError Method :=
  (writeJavaMethodSignature entry.1 {}).bind fun parameters =>
    (writeMethodBodyVendor constants entry.1 entry.2).map fun body =>
      { name := "createVendorAtom", parameters := ⟨"int", .code⟩ :: parameters, body }

/-- `write_java_pushed_methods_vendor`, whose result `write_stats_log_java_vendor`
returns. -/
def writeJavaPushedMethodsVendor (constants : AnnotationIdConstants)
    (signatureInfoMap : SignatureInfoMap) : Except WriterError (List Method) :=
  signatureInfoMap.toList.mapM (writeJavaPushedMethodVendor constants)

/-! ## Execution -/

/-- The local variables of a running method.  `lost` collects the annotation sets of
lists that are replaced. -/
structure State where
  atom : VendorAtom := {}
  annotationsCount : Nat := 0
  annotations : List (Option AnnotationParcel) := []
  annotationIdx : Nat := 0
  atomAnnotations : Option (List (Option AnnotationParcel)) := none
  fieldsAnnotations : Option (List AnnotationSetParcel) := none
  lost : List AnnotationSetParcel := []
  deriving DecidableEq, Repr

def Test.holds (frame : Frame) (state : State) : Test → Except Failure Bool
  | .reads condition => read (frame.holds condition)
  | .annotationsCountPositive => .ok (decide (state.annotationsCount > 0))
  | .atomAnnotationsPresent =>
      .ok (state.atomAnnotations.any fun annotations => annotations.length > 0)
  | .fieldsAnnotationsPresent =>
      .ok (state.fieldsAnnotations.any fun annotationSets => annotationSets.length > 0)

/-- The effect of a statement.  The elements of a new array are null. -/
def Statement.perform (frame : Frame) (state : State) : Statement → Except Failure State
  | .setReverseDomainName argIndex =>
      (read (frame.argument (.arg argIndex))).bind fun
        | .string name =>
            .ok { state with atom := { state.atom with reverseDomainName := some name } }
        | _ => .error (.stuck .mistyped)
  | .setAtomId =>
      (read frame.code).map fun code => { state with atom := { state.atom with atomId := code } }
  | .newValues count =>
      if count < 0 then
        .error .negativeSize
      else
        .ok { state with
          atom := { state.atom with values := List.replicate count.toNat none } }
  | .setValue atomValueIndex tag argIndex =>
      (makeValue frame tag argIndex).bind fun value =>
        (storeAt state.atom.values atomValueIndex (some value)).map fun values =>
          { state with atom := { state.atom with values } }
  | .declareAtomAnnotations => .ok { state with atomAnnotations := none }
  | .declareAnnotationsCount count => .ok { state with annotationsCount := count }
  | .incrementAnnotationsCount =>
      .ok { state with annotationsCount := state.annotationsCount + 1 }
  | .newAnnotations =>
      .ok { state with annotations := List.replicate state.annotationsCount none }
  | .declareAnnotationIdx => .ok { state with annotationIdx := 0 }
  | .store constantName value =>
      (makeParcel frame constantName value).bind fun parcel =>
        (storeAt state.annotations state.annotationIdx (some parcel)).map fun annotations =>
          { state with annotations, annotationIdx := state.annotationIdx + 1 }
  | .assignAtomAnnotations => .ok { state with atomAnnotations := some state.annotations }
  | .setAtomAnnotations =>
      .ok { state with atom := { state.atom with atomAnnotations := state.atomAnnotations } }
  | .declareFieldsAnnotations => .ok { state with fieldsAnnotations := none }
  | .newFieldsAnnotations =>
      .ok { state with
        fieldsAnnotations := some []
        lost := state.lost ++ state.fieldsAnnotations.getD [] }
  | .addFieldAnnotations valueIndex =>
      match state.fieldsAnnotations with
      | none => .error .nullPointer
      | some annotationSets =>
          .ok { state with
            fieldsAnnotations := some (annotationSets ++ [⟨valueIndex, state.annotations⟩]) }
  | .setValuesAnnotations =>
      match state.fieldsAnnotations with
      | none => .error .nullPointer
      | some annotationSets =>
          .ok { state with
            atom := { state.atom with valuesAnnotations := some (annotationSets.map some) } }

def interpreter (frame : Frame) : Interpreter Test Statement State Failure where
  holds test state := test.holds frame state
  perform statement state := statement.perform frame state

/-- The constants of atoms and those that the AIDL compiler declares, around a call
that binds the values to the parameters by position. -/
def Method.frame (method : Method) (atoms : Atoms) (platform : Platform) (code : Int)
    (arguments : List Argument) : Frame where
  bindings := (method.parameters.map Parameter.name).zip
    (.code code :: arguments.map .argument)
  atomConstants := atomConstants atoms
  constants := platform
  comparable := javaComparable

/-- The variables when a call of a method returns. -/
def Method.run (method : Method) (atoms : Atoms) (platform : Platform) (code : Int)
    (arguments : List Argument) : Except Failure State :=
  Program.run (interpreter (method.frame atoms platform code arguments)) (.block method.body) {}

/-- The atom that a call of a method returns. -/
def Method.call (method : Method) (atoms : Atoms) (platform : Platform) (code : Int)
    (arguments : List Argument) : Except Failure VendorAtom :=
  (method.run atoms platform code arguments).map State.atom

end StatsLogApiGen.Vendor.Java
