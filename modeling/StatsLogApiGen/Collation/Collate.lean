import StatsLogApiGen.Collation.Core

/-!
# Collation

The functions of `Collation.cpp`.  Each of them prints one message for every
error it counts, so a function returns the list of its errors and the count is
the length of that list.  The declaration under construction is passed along
explicitly.
-/

namespace StatsLogApiGen.Collation

open Std
open StatsLogApiGen.Container
open StatsLogApiGen.Proto

/-! ## Errors -/

/-- The errors of collation, with what their messages print. -/
inductive CollationError where
  | fieldNumber (field : String) (number expected : Int)
  | repeatedType (typeName field : String)
  | fieldType (typeName field : String)
  | messageWithoutModeBytes (field : String)
  | rawBytes (field : String)
  | cannotMarkAsBytes (field : String)
  | restrictedNonPrimitive (atom field : String)
  | attributionChainPosition (atom : String)
  | repeatedStateField (atom : String)
  | severalStateRoles (atom : String)
  | primaryStateField (atom : String)
  | primaryFieldFirstUid (atom : String)
  | exclusiveStateField (atom : String)
  | severalExclusiveStateFields (atom : String)
  | fieldRestrictionWithoutCategory (atom : String)
  | restrictionCategoryOnField (atom : String)
  | isUidType (atom : String)
  | atomType (atomField : String)
  | restrictedPulled (atomField : String)
  | primaryWithoutExclusive (atomField : String)
  | fieldRestrictionOnAtom (atomField : String)
  deriving DecidableEq, Repr

/-- The text of the message between the file name and the end of the line. -/
def CollationError.text : CollationError → String
  | .fieldNumber field number expected =>
      "Fields must be numbered consecutively starting at 1: '" ++ field ++ "' is " ++
        toString number ++ " but should be " ++ toString expected
  | .repeatedType typeName field =>
      "Repeated field type " ++ typeName ++ " is not allowed for field: " ++ field
  | .fieldType typeName field =>
      "Field type " ++ typeName ++ " is not allowed for field: " ++ field
  | .messageWithoutModeBytes field =>
      "Message type not allowed for field without mode_bytes: " ++ field
  | .rawBytes field => "Raw bytes type not allowed for field: " ++ field
  | .cannotMarkAsBytes field => "Cannot mark field " ++ field ++ " as bytes."
  | .restrictedNonPrimitive atom field =>
      "Restricted atom '" ++ atom ++ "' cannot have nonprimitive field: '" ++ field ++ "'"
  | .attributionChainPosition atom =>
      "AttributionChain fields must have field id 1, in message: '" ++ atom ++ "'"
  | .repeatedStateField atom =>
      "State field annotations are not allowed for repeated fields: '" ++ atom ++ "'"
  | .severalStateRoles atom =>
      "Field can be max 1 of primary_field, exclusive_state, or primary_field_first_uid: '" ++
        atom ++ "'"
  | .primaryStateField atom => "Invalid primary state field: '" ++ atom ++ "'"
  | .primaryFieldFirstUid atom =>
      "PRIMARY_FIELD_FIRST_UID annotation is only for AttributionChains: '" ++ atom ++ "'"
  | .exclusiveStateField atom => "Invalid exclusive state field: '" ++ atom ++ "'"
  | .severalExclusiveStateFields atom =>
      "Cannot have more than one exclusive state field in an atom: '" ++ atom ++ "'"
  | .fieldRestrictionWithoutCategory atom =>
      "field_restriction_option annotations must be from an atom with " ++
        "a restriction_category annotation: '" ++ atom ++ "'"
  | .restrictionCategoryOnField atom =>
      "restriction_category must be an atom-level annotation: '" ++ atom ++ "'"
  | .isUidType atom =>
      "is_uid annotation can only be applied to int32 fields and repeated int32 fields: '" ++
        atom ++ "'"
  | .atomType atomField =>
      "Bad type for atom. StatsEvent can only have message type fields: " ++ atomField
  | .restrictedPulled atomField => "Restricted atoms cannot be pulled: '" ++ atomField ++ "'"
  | .primaryWithoutExclusive atomField =>
      "Cannot have a primary field without an exclusive field: " ++ atomField
  | .fieldRestrictionOnAtom atomField =>
      "field_restriction_option must be a field-level annotation: '" ++ atomField ++ "'"

/-- A declaration under construction with the errors printed so far. -/
structure Collated where
  atomDecl : AtomDecl
  errors : List CollationError := []

namespace Collated

def printError (collated : Collated) (error : CollationError) : Collated :=
  { collated with errors := collated.errors ++ [error] }

/-- `addAnnotationToAtomDecl`. -/
def addAnnotationToAtomDecl (collated : Collated) (fieldNumber : Int)
    (annotationId : AnnotationId) (value : AnnotationValue) : Collated :=
  let decl := collated.atomDecl
  { collated with
    atomDecl :=
      { decl with
        fieldNumberToAnnotations :=
          upsert decl.fieldNumberToAnnotations fieldNumber ∅ fun annotations =>
            annotations.insertEntry ⟨annotationId, decl.code, value⟩ } }

end Collated

/-! ## Types of fields -/

/-- `java_type`: convert a protobuf type into a java type. -/
def javaType (field : MessageFieldDescriptor) (isUintAllowed : Bool) : JavaType :=
  let isRepeatedField := field.isRepeated
  match field.type with
  | .float => if isRepeatedField then .floatArray else .float
  | .int64 => if isRepeatedField then .longArray else .long
  | .int32 => if isRepeatedField then .intArray else .int
  | .bool => if isRepeatedField then .booleanArray else .boolean
  | .string => if isRepeatedField then .stringArray else .string
  | .enum _ => if isRepeatedField then .enumArray else .enum
  | .group => .unknownOrInvalid
  | .message messageType =>
      if messageType = attributionNodeFullName then
        .attributionChain
      else if field.options.getLogMode = .bytes ∧ ¬isRepeatedField then
        .byteArray
      else if isRepeatedField then
        .unknownOrInvalid
      else
        .object
  | .bytes => if isRepeatedField then .unknownOrInvalid else .byteArray
  | .uint64 => if isRepeatedField ∨ ¬isUintAllowed then .unknownOrInvalid else .long
  | .uint32 => if isRepeatedField ∨ ¬isUintAllowed then .unknownOrInvalid else .int
  | .double | .fixed64 | .fixed32 | .sfixed32 | .sfixed64 | .sint32 | .sint64 =>
      .unknownOrInvalid

/-- `collate_enums`: a later value with the same number replaces the name. -/
def collateEnums (enumDescriptor : EnumDescriptor) (atomField : AtomField) : AtomField :=
  { atomField with
    enumValues := enumDescriptor.values.foldl
      (fun enumValues value => enumValues.insert value.number value.name)
      atomField.enumValues }

/-! ## Field annotations -/

namespace Collated

/-- The options of `FieldRestrictionOption` that are set, each with the
annotation it asks for. -/
def fieldRestrictionIds (option : FieldRestrictionOption) : List AnnotationId :=
  (if option.peripheralDeviceInfo then [.fieldRestrictionPeripheralDeviceInfo] else []) ++
  (if option.appUsage then [.fieldRestrictionAppUsage] else []) ++
  (if option.appActivity then [.fieldRestrictionAppActivity] else []) ++
  (if option.healthConnect then [.fieldRestrictionHealthConnect] else []) ++
  (if option.accessibility then [.fieldRestrictionAccessibility] else []) ++
  (if option.systemSearch then [.fieldRestrictionSystemSearch] else []) ++
  (if option.userEngagement then [.fieldRestrictionUserEngagement] else []) ++
  (if option.ambientSensing then [.fieldRestrictionAmbientSensing] else []) ++
  (if option.demographicClassification then
    [.fieldRestrictionDemographicClassification] else [])

/-- `collate_field_restricted_annotations`. -/
def collateFieldRestrictedAnnotations (field : MessageFieldDescriptor) (fieldNumber : Int)
    (collated : Collated) : Collated :=
  let collated :=
    match field.options.fieldRestrictionOption with
    | some fieldRestrictionOption =>
        let collated :=
          if collated.atomDecl.restricted then collated
          else collated.printError
            (.fieldRestrictionWithoutCategory collated.atomDecl.message)
        (fieldRestrictionIds fieldRestrictionOption).foldl
          (fun collated annotationId =>
            collated.addAnnotationToAtomDecl fieldNumber annotationId (.bool true))
          collated
    | none => collated
  if field.options.restrictionCategory.isSome then
    collated.printError (.restrictionCategoryOnField collated.atomDecl.message)
  else
    collated

/-- The types a primary or exclusive state field cannot have. -/
def isInvalidStateType (javaType : JavaType) : Bool :=
  javaType = .attributionChain ∨ javaType = .object ∨ javaType = .byteArray

/-- Check the field is only one of `primary_field`, `exclusive_state`, or
`primary_field_first_uid`. -/
def checkStateRoles (option : StateAtomFieldOption) (collated : Collated) : Collated :=
  if option.primaryField.toNat + option.primaryFieldFirstUid.toNat +
      option.exclusiveState.toNat > 1 then
    collated.printError (.severalStateRoles collated.atomDecl.message)
  else
    collated

def collatePrimaryField (option : StateAtomFieldOption) (fieldNumber : Int)
    (javaType : JavaType) (collated : Collated) : Collated :=
  if option.primaryField then
    if isInvalidStateType javaType then
      collated.printError (.primaryStateField collated.atomDecl.message)
    else
      let decl := collated.atomDecl
      { collated with
        atomDecl := { decl with primaryFields := decl.primaryFields ++ [fieldNumber] }
      }.addAnnotationToAtomDecl fieldNumber .primaryField (.bool true)
  else
    collated

def collatePrimaryFieldFirstUid (option : StateAtomFieldOption) (fieldNumber : Int)
    (javaType : JavaType) (collated : Collated) : Collated :=
  if option.primaryFieldFirstUid then
    if javaType ≠ .attributionChain then
      collated.printError (.primaryFieldFirstUid collated.atomDecl.message)
    else
      let decl := collated.atomDecl
      { collated with
        atomDecl := { decl with primaryFields := decl.primaryFields ++ [firstUidInChainId] }
      }.addAnnotationToAtomDecl fieldNumber .primaryFieldFirstUid (.bool true)
  else
    collated

def collateDefaultState (option : StateAtomFieldOption) (fieldNumber : Int)
    (collated : Collated) : Collated :=
  match option.defaultStateValue with
  | some defaultState =>
      { collated with
        atomDecl := { collated.atomDecl with defaultState }
      }.addAnnotationToAtomDecl fieldNumber .defaultState (.int defaultState)
  | none => collated

def collateTriggerStateReset (option : StateAtomFieldOption) (fieldNumber : Int)
    (collated : Collated) : Collated :=
  match option.triggerStateResetValue with
  | some triggerStateReset =>
      { collated with
        atomDecl := { collated.atomDecl with triggerStateReset }
      }.addAnnotationToAtomDecl fieldNumber .triggerStateReset (.int triggerStateReset)
  | none => collated

def collateNested (option : StateAtomFieldOption) (fieldNumber : Int)
    (collated : Collated) : Collated :=
  match option.nested with
  | some nested =>
      { collated with
        atomDecl := { collated.atomDecl with nested }
      }.addAnnotationToAtomDecl fieldNumber .stateNested (.bool nested)
  | none => collated

def collateExclusiveState (option : StateAtomFieldOption) (fieldNumber : Int)
    (javaType : JavaType) (collated : Collated) : Collated :=
  if option.exclusiveState then
    let collated :=
      if isInvalidStateType javaType then
        collated.printError (.exclusiveStateField collated.atomDecl.message)
      else
        collated
    let collated :=
      if collated.atomDecl.exclusiveField ≠ 0 then
        collated.printError (.severalExclusiveStateFields collated.atomDecl.message)
      else
        { collated with
          atomDecl := { collated.atomDecl with exclusiveField := fieldNumber }
        }.addAnnotationToAtomDecl fieldNumber .exclusiveState (.bool true)
    -- The state values are recorded even for a second exclusive field.
    collated
      |> collateDefaultState option fieldNumber
      |> collateTriggerStateReset option fieldNumber
      |> collateNested option fieldNumber
  else
    collated

def collateIsUid (field : MessageFieldDescriptor) (fieldNumber : Int)
    (javaType : JavaType) (collated : Collated) : Collated :=
  if field.options.getIsUid then
    let collated :=
      if javaType ≠ .int ∧ javaType ≠ .intArray then
        collated.printError (.isUidType collated.atomDecl.message)
      else
        collated
    collated.addAnnotationToAtomDecl fieldNumber .isUid (.bool true)
  else
    collated

/-- `collate_field_annotations`. -/
def collateFieldAnnotations (field : MessageFieldDescriptor) (fieldNumber : Int)
    (javaType : JavaType) (collated : Collated) : Collated :=
  match field.options.stateFieldOption with
  | some stateFieldOption =>
      if javaType.isRepeatedField then
        -- An early return: the remaining options of the field are not looked at.
        collated.printError (.repeatedStateField collated.atomDecl.message)
      else
        collated
          |> checkStateRoles stateFieldOption
          |> collatePrimaryField stateFieldOption fieldNumber javaType
          |> collatePrimaryFieldFirstUid stateFieldOption fieldNumber javaType
          |> collateExclusiveState stateFieldOption fieldNumber javaType
          |> collateFieldRestrictedAnnotations field fieldNumber
          |> collateIsUid field fieldNumber javaType
  | none =>
      collated
        |> collateFieldRestrictedAnnotations field fieldNumber
        |> collateIsUid field fieldNumber javaType

end Collated

/-! ## Atoms -/

/-- The fields of a message sorted by number.  The descriptor has them in
source file order. -/
def sortedFields (atom : Descriptor) : List MessageFieldDescriptor :=
  elements (indexBy FieldDescriptor.number atom.fields)

/-- Check that the parameters start at 1 and go up sequentially.  After a gap
the expected number is the number that was found. -/
def checkFieldNumbers : Int → List MessageFieldDescriptor → List CollationError
  | _, [] => []
  | expectedNumber, field :: rest =>
      if field.number ≠ expectedNumber then
        .fieldNumber field.name field.number expectedNumber ::
          checkFieldNumbers field.number rest
      else
        checkFieldNumbers (expectedNumber + 1) rest

def isBinaryField (field : MessageFieldDescriptor) : Bool :=
  field.options.getLogMode = .bytes

/-- Check that the type of a field is allowed. -/
def checkFieldType (restricted : Bool) (message : String) (isUintAllowed : Bool)
    (field : MessageFieldDescriptor) : List CollationError :=
  let type := javaType field isUintAllowed
  if type = .unknownOrInvalid then
    if field.isRepeated then [.repeatedType field.type.typeName field.name]
    else [.fieldType field.type.typeName field.name]
  else if type = .object then
    [.messageWithoutModeBytes field.name]
  else if type = .byteArray ∧ ¬isBinaryField field then
    [.rawBytes field.name]
  else if isBinaryField field ∧ type ≠ .byteArray then
    [.cannotMarkAsBytes field.name]
  else if restricted ∧ ¬type.isPrimitiveField then
    [.restrictedNonPrimitive message field.name]
  else
    []

/-- Check that an attribution chain is at position 1. -/
def checkAttributionChainPosition (atom : Descriptor) (isUintAllowed : Bool)
    (field : MessageFieldDescriptor) : List CollationError :=
  if field.number ≠ 1 ∧ javaType field isUintAllowed = .attributionChain then
    [.attributionChainPosition atom.name]
  else
    []

/-- The entry of a field in the signature of its atom.  All enums are treated
as ints when it comes to function signatures. -/
def lowerType (type : JavaType) (isBinary : Bool) : JavaType :=
  if type = .enum then .int
  else if type = .enumArray then .intArray
  else if type = .object ∧ isBinary then .byteArray
  else type

def buildAtomField (field : MessageFieldDescriptor) (type : JavaType) : AtomField :=
  let atField : AtomField := { name := field.name, javaType := type }
  match field.type with
  | .enum enumType =>
      if type = .enum ∨ type = .enumArray then
        collateEnums enumType { atField with enumTypeName := enumType.name }
      else
        atField
  | _ => atField

/-- One round of the loop that builds the type signature and the atom data. -/
def collateField (isUintAllowed : Bool) (state : Collated × Signature)
    (field : MessageFieldDescriptor) : Collated × Signature :=
  let type := javaType field isUintAllowed
  let collated := state.1
  let decl := collated.atomDecl
  let pushed : Collated :=
    { collated with
      atomDecl := { decl with fields := decl.fields ++ [buildAtomField field type] } }
  (pushed.collateFieldAnnotations field field.number type,
    state.2 ++ [lowerType type (isBinaryField field)])

/-- `collate_atom`: gather the info about an atom proto.  Every caller passes an
empty signature, which is returned with the declaration. -/
def collateAtom (atom : Descriptor) (atomDecl : AtomDecl) : Collated × Signature :=
  let fields := sortedFields atom
  let isUintAllowed := atom.name ∈ uintAtomAllowlist
  let errors :=
    checkFieldNumbers 1 fields ++
    fields.flatMap (checkFieldType atomDecl.restricted atomDecl.message isUintAllowed) ++
    fields.flatMap (checkAttributionChainPosition atom isUintAllowed)
  fields.foldl (collateField isUintAllowed) (⟨atomDecl, errors⟩, [])

/-- `attributionDecl` and its signature, as every caller collates them. -/
def attributionCollated : Collated × Signature :=
  collateAtom attributionNode {}

/-- Unlike `buildAtomField`, flattening does not record the name of the enum
type. -/
def buildNonChainedField (field : MessageFieldDescriptor) (type : JavaType) : AtomField :=
  let atField : AtomField := { name := field.name, javaType := type }
  match field.type with
  | .enum enumType => if type = .enum then collateEnums enumType atField else atField
  | _ => atField

/-- One round of the loop of `getNonChainedNode`. -/
def flattenField (state : AtomDecl × Signature × Bool) (field : MessageFieldDescriptor) :
    AtomDecl × Signature × Bool :=
  let (decl, signature, hasAttributionNode) := state
  let type := javaType field true
  if type = .attributionChain then
    ({ decl with fields := decl.fields ++ attributionCollated.1.atomDecl.fields },
      signature ++ attributionCollated.2, true)
  else if type = .enum then
    -- All enums are treated as ints when it comes to function signatures.
    ({ decl with fields := decl.fields ++ [buildNonChainedField field type] },
      signature ++ [.int], hasAttributionNode)
  else
    ({ decl with fields := decl.fields ++ [buildNonChainedField field type] },
      signature ++ [type], hasAttributionNode)

/-- `get_non_chained_node`: flatten the fields of the attribution node proto in
an atom proto and generate the corresponding declaration and signature. -/
def getNonChainedNode (atom : Descriptor) (atomDecl : AtomDecl) :
    AtomDecl × Signature × Bool :=
  (sortedFields atom).foldl flattenField (atomDecl, [], false)

/-- `populateFieldNumberToAtomDeclSet`. -/
def populateFieldNumberToAtomDeclSet (atomDecl : AtomDecl)
    (fieldNumberToAtomDeclSet : FieldNumberToAtomDeclSet) : FieldNumberToAtomDeclSet :=
  atomDecl.fieldNumberToAnnotations.keys.foldl
    (fun declSets fieldNumber =>
      upsert declSets fieldNumber ∅ fun decls => decls.insertDecl atomDecl)
    fieldNumberToAtomDeclSet

/-- `getAtomType`. -/
def getAtomType (atomId : Int) : AtomType :=
  if (atomId ≥ platformPulledAtomsStart ∧ atomId ≤ platformPulledAtomsEnd) ∨
      (atomId ≥ vendorPulledAtomsStart ∧ atomId ≤ vendorPulledAtomsEnd) then
    .pulled
  else
    .pushed

/-- The search through the module names of an atom. -/
def isInModule (moduleName : String) (atomField : AtomFieldDescriptor) : Bool :=
  moduleName = defaultModuleName ∨ moduleName ∈ atomField.options.module

/-- The declaration with the annotations of the atom itself, or the error of a
restricted pulled atom. -/
def collateAtomOptions (atomField : AtomFieldDescriptor) (atomDecl : AtomDecl) :
    Except CollationError AtomDecl :=
  let collated : Collated := ⟨atomDecl, []⟩
  let collated :=
    if atomField.options.getTruncateTimestamp then
      collated.addAnnotationToAtomDecl atomIdFieldNumber .truncateTimestamp (.bool true)
    else
      collated
  match atomField.options.restrictionCategory with
  | some restrictionCategory =>
      if atomDecl.atomType = .pulled then
        .error (.restrictedPulled atomField.name)
      else
        let decl := collated.atomDecl
        .ok (Collated.addAnnotationToAtomDecl
          { collated with atomDecl := { decl with restricted := true } }
          atomIdFieldNumber .restrictionCategory (.int restrictionCategory.number)).atomDecl
  | none => .ok collated.atomDecl

/-- Enter an atom into the signature maps and the declaration sets. -/
def registerAtom (atoms : Atoms) (atom : Descriptor) (nonChainedAtomDecl atomDecl : AtomDecl)
    (signature : Signature) : Atoms :=
  let populate := populateFieldNumberToAtomDeclSet atomDecl
  let atoms :=
    match atomDecl.atomType with
    | .pushed =>
        { atoms with signatureInfoMap := upsert atoms.signatureInfoMap signature ∅ populate }
    | .pulled =>
        { atoms with
          pulledAtomsSignatureInfoMap :=
            upsert atoms.pulledAtomsSignatureInfoMap signature ∅ populate }
  let atoms := { atoms with decls := atoms.decls.insertDecl atomDecl }
  match getNonChainedNode atom nonChainedAtomDecl with
  | (nonChainedAtomDecl, nonChainedSignature, true) =>
      { atoms with
        nonChainedSignatureInfoMap :=
          upsert atoms.nonChainedSignatureInfoMap nonChainedSignature ∅
            (populateFieldNumberToAtomDeclSet nonChainedAtomDecl)
        nonChainedDecls := atoms.nonChainedDecls.insertDecl nonChainedAtomDecl }
  | (_, _, false) => atoms

/-- The declaration that collation of an atom starts from. -/
def initialDecl (atomField : AtomFieldDescriptor) (atom : Descriptor) : AtomDecl where
  code := atomField.number
  name := atomField.name
  message := atom.name
  atomType := getAtomType atomField.number

/-- `collate_from_field_descriptor`. -/
def collateFromFieldDescriptor (moduleName : String) (state : Atoms × List CollationError)
    (atomField : AtomFieldDescriptor) : Atoms × List CollationError :=
  let (atoms, errors) := state
  if ¬isInModule moduleName atomField then
    -- This atom is not in the module we're interested in; skip it.
    (atoms, errors)
  else
    match atomField.type with
    | .message atom =>
        let atomDecl := initialDecl atomField atom
        match collateAtomOptions atomField atomDecl with
        | .error error => (atoms, errors ++ [error])
        | .ok optionsDecl =>
            let (collated, signature) := collateAtom atom optionsDecl
            let decl := collated.atomDecl
            let errors := errors ++ collated.errors
            if decl.primaryFields ≠ [] ∧ decl.exclusiveField = 0 then
              (atoms, errors ++ [.primaryWithoutExclusive atomField.name])
            else
              let atoms := registerAtom atoms atom atomDecl decl signature
              if atomField.options.fieldRestrictionOption.isSome then
                (atoms, errors ++ [.fieldRestrictionOnAtom atomField.name])
              else
                (atoms, errors)
    | _ => (atoms, errors ++ [.atomType atomField.name])

/-- `collate_atoms`: gather the info about the atoms, and return the number of
errors. -/
def collateAtoms (descriptor : AtomDescriptor) (moduleName : String) (atoms : Atoms) :
    Nat × Atoms :=
  let (atoms, errors) :=
    (descriptor.fields ++ descriptor.extensions).foldl
      (collateFromFieldDescriptor moduleName) (atoms, [])
  (errors.length, atoms)

end StatsLogApiGen.Collation
