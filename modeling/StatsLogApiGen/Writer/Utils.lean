import StatsLogApiGen.Collation.Collate
import StatsLogApiGen.Container.Lists

/-!
# Helpers shared by the writers

The functions of `utils.cpp` that several writers use: API levels, names of
constants and types, parameter lists and the lookup of annotated declarations.
A writer returns what it generates, or the message it prints before it gives up.
-/

namespace StatsLogApiGen.Writer

open Std
open StatsLogApiGen.Container
open StatsLogApiGen.Collation

/-! ## API levels -/

def apiLevelCurrent : Int := 10000
def apiQ : Int := 29
def apiR : Int := 30
def apiS : Int := 31
def apiSV2 : Int := 32
def apiT : Int := 33
def apiU : Int := 34

/-! ## Errors -/

/-- What a writer prints when it returns an error. -/
inductive WriterError where
  | unsupportedType
  | repeatedBelowT
  | bootstrapAnnotations
  | moduleRepeatedField
  | moduleObjectOrDouble
  | objectOrDoubleInModule
  | incompatibleAttributionChain
  | chainInNonChainedSignature
  | severalAttributionNodes
  | vendorAttributionChain
  | rustApiQ
  deriving DecidableEq, Repr

def WriterError.text : WriterError → String
  | .unsupportedType => "Encountered unsupported type."
  | .repeatedBelowT => "Found repeated field type with min api level < T."
  | .bootstrapAnnotations => "Bootstrap atoms do not support annotations"
  | .moduleRepeatedField => "Module logging does not support repeated fields."
  | .moduleObjectOrDouble => "Module logging does not yet support Object and Double."
  | .objectOrDoubleInModule => "Object and Double are not supported in module logging"
  | .incompatibleAttributionChain =>
      "Encountered incompatible attribution chain atom definition"
  | .chainInNonChainedSignature =>
      "Non chained signatures should not have attribution chains."
  | .severalAttributionNodes => "An atom contains multiple AttributionNode fields."
  | .vendorAttributionChain => "Found attribution chain - not supported."
  | .rustApiQ => "TODO: Do we need to handle this case?"

/-! ## Names -/

structure AnnotationStruct where
  name : String
  minApiLevel : Int
  deriving DecidableEq, Repr

/-- `ANNOTATION_ID_CONSTANTS`, the constant of every annotation. -/
abbrev AnnotationIdConstants := AnnotationId → AnnotationStruct

def annotationConstantNamePrefix : String := "ANNOTATION_ID_"
def annotationConstantNameVendorPrefix : String := "AnnotationId."
def annotationConstantNameVendorNativePrefix : String := "AnnotationId::"

/-- The name of an annotation without a prefix. -/
def annotationIdName : AnnotationId → String
  | .isUid => "IS_UID"
  | .truncateTimestamp => "TRUNCATE_TIMESTAMP"
  | .primaryField => "PRIMARY_FIELD"
  | .exclusiveState => "EXCLUSIVE_STATE"
  | .primaryFieldFirstUid => "PRIMARY_FIELD_FIRST_UID"
  | .defaultState => "DEFAULT_STATE"
  | .triggerStateReset => "TRIGGER_STATE_RESET"
  | .stateNested => "STATE_NESTED"
  | .restrictionCategory => "RESTRICTION_CATEGORY"
  | .fieldRestrictionPeripheralDeviceInfo => "FIELD_RESTRICTION_PERIPHERAL_DEVICE_INFO"
  | .fieldRestrictionAppUsage => "FIELD_RESTRICTION_APP_USAGE"
  | .fieldRestrictionAppActivity => "FIELD_RESTRICTION_APP_ACTIVITY"
  | .fieldRestrictionHealthConnect => "FIELD_RESTRICTION_HEALTH_CONNECT"
  | .fieldRestrictionAccessibility => "FIELD_RESTRICTION_ACCESSIBILITY"
  | .fieldRestrictionSystemSearch => "FIELD_RESTRICTION_SYSTEM_SEARCH"
  | .fieldRestrictionUserEngagement => "FIELD_RESTRICTION_USER_ENGAGEMENT"
  | .fieldRestrictionAmbientSensing => "FIELD_RESTRICTION_AMBIENT_SENSING"
  | .fieldRestrictionDemographicClassification =>
      "FIELD_RESTRICTION_DEMOGRAPHIC_CLASSIFICATION"

/-- The annotation ids in the order of the constants table. -/
def annotationIds : List AnnotationId :=
  [.isUid, .truncateTimestamp, .primaryField, .exclusiveState, .primaryFieldFirstUid,
    .defaultState, .triggerStateReset, .stateNested, .restrictionCategory,
    .fieldRestrictionPeripheralDeviceInfo, .fieldRestrictionAppUsage,
    .fieldRestrictionAppActivity, .fieldRestrictionHealthConnect,
    .fieldRestrictionAccessibility, .fieldRestrictionSystemSearch,
    .fieldRestrictionUserEngagement, .fieldRestrictionAmbientSensing,
    .fieldRestrictionDemographicClassification]

/-- The API level that introduced an annotation. -/
def annotationIdApiLevel : AnnotationId → Int
  | .isUid | .truncateTimestamp | .primaryField | .exclusiveState | .primaryFieldFirstUid
  | .defaultState | .triggerStateReset | .stateNested => apiS
  | _ => apiU

/-- The table that the first call of `get_annotation_id_constants` in a process
builds and returns. -/
def getAnnotationIdConstants (namePrefix : String) : AnnotationIdConstants :=
  fun annotationId =>
    ⟨namePrefix ++ annotationIdName annotationId, annotationIdApiLevel annotationId⟩

/-- `get_restriction_category_str`. -/
def getRestrictionCategoryStr (annotationValue : Int) : String :=
  if annotationValue = 1 then "RESTRICTION_CATEGORY_DIAGNOSTIC"
  else if annotationValue = 2 then "RESTRICTION_CATEGORY_SYSTEM_INTELLIGENCE"
  else if annotationValue = 3 then "RESTRICTION_CATEGORY_AUTHENTICATION"
  else if annotationValue = 4 then "RESTRICTION_CATEGORY_FRAUD_AND_ABUSE"
  else ""

/-- The loop of `make_constant_name`. -/
def constantNameChars : Bool → List Char → List Char
  | _, [] => []
  | underscoreNext, c :: rest =>
      if 'A' ≤ c ∧ c ≤ 'Z' then
        if underscoreNext then '_' :: c :: constantNameChars false rest
        else c :: constantNameChars false rest
      else if 'a' ≤ c ∧ c ≤ 'z' then
        Char.ofNat ('A'.toNat + c.toNat - 'a'.toNat) :: constantNameChars true rest
      else if c = '_' then
        c :: constantNameChars false rest
      else
        c :: constantNameChars underscoreNext rest

/-- `make_constant_name`: turn lower and camel case into upper case with
underscores. -/
def makeConstantName (str : String) : String :=
  String.ofList (constantNameChars false str.toList)

/-- `cpp_type_name`. -/
def cppTypeName (isVendorAtomLogging : Bool) : JavaType → String
  | .boolean => "bool"
  | .int | .enum => "int32_t"
  | .long => "int64_t"
  | .float => "float"
  | .double => "double"
  | .string => "char const*"
  | .byteArray =>
      if isVendorAtomLogging then "const std::vector<uint8_t>&" else "const BytesField&"
  | .booleanArray => if isVendorAtomLogging then "const std::vector<bool>&" else "const bool*"
  | .intArray | .enumArray => "const std::vector<int32_t>&"
  | .longArray => "const std::vector<int64_t>&"
  | .floatArray => "const std::vector<float>&"
  | .stringArray => "const std::vector<char const*>&"
  | .doubleArray => "const std::vector<double>&"
  | .unknownOrInvalid | .attributionChain | .object => "UNKNOWN"

/-- `java_type_name`. -/
def javaTypeName : JavaType → String
  | .boolean => "boolean"
  | .int | .enum => "int"
  | .long => "long"
  | .float => "float"
  | .double => "double"
  | .string => "java.lang.String"
  | .byteArray => "byte[]"
  | .booleanArray => "boolean[]"
  | .intArray | .enumArray => "int[]"
  | .longArray => "long[]"
  | .floatArray => "float[]"
  | .stringArray => "java.lang.String[]"
  | .doubleArray => "double[]"
  | .unknownOrInvalid | .attributionChain | .object => "UNKNOWN"

/-! ## Parameters -/

/-- The variables of a generated method. -/
inductive Variable where
  | code
  | arg (argIndex : Int)
  | argLength (argIndex : Int)
  | chain (field : String)
  | chainLength (field : String)
  | workSource
  | pulledData
  deriving DecidableEq, Repr

/-- How a variable is spelled. -/
def Variable.text : Variable → String
  | .code => "code"
  | .arg argIndex => "arg" ++ toString argIndex
  | .argLength argIndex => "arg" ++ toString argIndex ++ "_length"
  | .chain field => field
  | .chainLength field => field ++ "_length"
  | .workSource => "ws"
  | .pulledData => "pulled_data"

structure Parameter where
  typeName : String
  name : Variable
  deriving DecidableEq, Repr

/-- The parameters of one field of the attribution node. -/
def nativeChainParameters (isVendorAtomLogging : Bool) (chainField : AtomField) :
    List Parameter :=
  let typeName := cppTypeName isVendorAtomLogging chainField.javaType
  if chainField.javaType = .string then
    [⟨"const std::vector<" ++ typeName ++ ">&", .chain chainField.name⟩]
  else
    [⟨"const " ++ typeName ++ "*", .chain chainField.name⟩,
      ⟨"size_t", .chainLength chainField.name⟩]

/-- The parameters of one entry of a signature. -/
def nativeArgParameters (attributionDecl : AtomDecl) (isVendorAtomLogging : Bool)
    (argIndex : Int) (arg : JavaType) : List Parameter :=
  if arg = .attributionChain then
    attributionDecl.fields.flatMap (nativeChainParameters isVendorAtomLogging)
  else
    ⟨cppTypeName isVendorAtomLogging arg, .arg argIndex⟩ ::
      if arg = .booleanArray ∧ ¬isVendorAtomLogging then
        [⟨"size_t", .argLength argIndex⟩]
      else
        []

/-- The loop of `write_native_method_signature`, from the argument at
`argIndex` on. -/
def nativeSignatureParameters (attributionDecl : AtomDecl) (isVendorAtomLogging : Bool) :
    Int → Signature → List Parameter
  | _, [] => []
  | argIndex, arg :: rest =>
      nativeArgParameters attributionDecl isVendorAtomLogging argIndex arg ++
        nativeSignatureParameters attributionDecl isVendorAtomLogging (argIndex + 1) rest

/-- `write_native_method_signature`: the parameters of a method, where the
prefix of the signature may name parameters before `code`. -/
def writeNativeMethodSignature (before : List Parameter) (signature : Signature)
    (attributionDecl : AtomDecl) (isVendorAtomLogging : Bool) : List Parameter :=
  before ++ ⟨"int32_t", .code⟩ ::
    nativeSignatureParameters attributionDecl isVendorAtomLogging 1 signature

/-- The parameters of one entry of a signature in Java. -/
def javaArgParameters (attributionDecl : AtomDecl) (argIndex : Int) (arg : JavaType) :
    List Parameter :=
  if arg = .attributionChain then
    attributionDecl.fields.map fun chainField =>
      ⟨javaTypeName chainField.javaType ++ "[]", .chain chainField.name⟩
  else
    [⟨javaTypeName arg, .arg argIndex⟩]

/-- The loop of `write_java_method_signature`, from the argument at `argIndex`
on. -/
def javaSignatureParameters (attributionDecl : AtomDecl) : Int → Signature → List Parameter
  | _, [] => []
  | argIndex, arg :: rest =>
      javaArgParameters attributionDecl argIndex arg ++
        javaSignatureParameters attributionDecl (argIndex + 1) rest

/-- `write_java_method_signature`. -/
def writeJavaMethodSignature (signature : Signature) (attributionDecl : AtomDecl) :
    Except WriterError (List Parameter) :=
  if JavaType.attributionChain ∈ signature ∧ attributionDecl.fields = [] then
    .error .incompatibleAttributionChain
  else
    .ok (javaSignatureParameters attributionDecl 1 signature)

/-- A loop over a signature that may give up at an entry. -/
def eachArg {α : Type} (print : Int → JavaType → Except WriterError α) :
    Int → Signature → Except WriterError (List α)
  | _, [] => .ok []
  | argIndex, arg :: rest =>
      (print argIndex arg).bind fun first =>
        (eachArg print (argIndex + 1) rest).map fun later => first :: later

/-- The loop gets through when it gets through every entry. -/
theorem eachArg_isOk {α : Type} {print : Int → JavaType → Except WriterError α}
    {supported : JavaType → Bool} {signature : Signature}
    (prints : ∀ argIndex, ∀ arg ∈ signature, (print argIndex arg).isOk = supported arg)
    (argIndex : Int) : (eachArg print argIndex signature).isOk = signature.all supported := by
  induction signature generalizing argIndex with
  | nil => rfl
  | cons arg rest ih =>
      have restOk := ih (fun argIndex other member =>
        prints argIndex other (List.mem_cons_of_mem arg member)) (argIndex + 1)
      rw [eachArg, List.all_cons, ← prints argIndex arg List.mem_cons_self, ← restOk]
      cases print argIndex arg with
      | error reason => rfl
      | ok first =>
          cases eachArg print (argIndex + 1) rest with
          | error reason => rfl
          | ok later => rfl

/-- The loop gives up for the reason of one of its entries. -/
theorem exists_error_of_eachArg {α : Type} {print : Int → JavaType → Except WriterError α}
    {argIndex : Int} {signature : Signature} {reason : WriterError}
    (failed : eachArg print argIndex signature = .error reason) :
    ∃ position, ∃ arg ∈ signature, print position arg = .error reason := by
  induction signature generalizing argIndex with
  | nil => cases failed
  | cons arg rest ih =>
      rcases bind_eq_error_iff.mp failed with here | ⟨first, -, later⟩
      · exact ⟨argIndex, arg, List.mem_cons_self, here⟩
      · obtain ⟨position, other, member, fails⟩ := ih (map_eq_error_iff.mp later)
        exact ⟨position, other, List.mem_cons_of_mem arg member, fails⟩

/-- What the loop returns is what it prints for its entries. -/
theorem exists_print_of_mem_eachArg {α : Type} {print : Int → JavaType → Except WriterError α}
    {argIndex : Int} {signature : Signature} {results : List α} {result : α}
    (printed : eachArg print argIndex signature = .ok results) (member : result ∈ results) :
    ∃ position, ∃ arg ∈ signature, print position arg = .ok result := by
  induction signature generalizing argIndex results with
  | nil =>
      cases printed
      contradiction
  | cons arg rest ih =>
      rcases bind_eq_ok_iff.mp printed with ⟨first, here, later⟩
      rcases map_eq_ok_iff.mp later with ⟨others, laterPrinted, rfl⟩
      rcases List.mem_cons.mp member with rfl | inLater
      · exact ⟨argIndex, arg, List.mem_cons_self, here⟩
      · rcases ih laterPrinted inLater with ⟨position, other, otherMem, print⟩
        exact ⟨position, other, List.mem_cons_of_mem arg otherMem, print⟩

/-- `attributionDecl.fields.front().name`. -/
def uidName (attributionDecl : AtomDecl) : String :=
  (attributionDecl.fields.head?.map AtomField.name).getD ""

/-- `attributionDecl.fields.back().name`. -/
def tagName (attributionDecl : AtomDecl) : String :=
  (attributionDecl.fields.getLast?.map AtomField.name).getD ""

/-! ## Annotated declarations -/

/-- `get_annotations`. -/
def getAnnotations (argIndex : Int) (fieldNumberToAtomDeclSet : FieldNumberToAtomDeclSet) :
    AtomDeclSet :=
  fieldNumberToAtomDeclSet[argIndex]?.getD ∅

/-- `contains_restricted`. -/
def containsRestricted (atomDeclSet : AtomDeclSet) : Bool :=
  (elements atomDeclSet).any AtomDecl.restricted

/-- `get_max_requires_api_level` for one method. -/
def getMaxRequiresApiLevel (minApiLevel : Int) (atomDeclSet : Option AtomDeclSet)
    (signature : Signature) : Int :=
  if atomDeclSet.any containsRestricted then apiU
  else if containsRepeatedField signature then apiT
  else if minApiLevel ≤ apiQ then apiQ
  else 0

end StatsLogApiGen.Writer
