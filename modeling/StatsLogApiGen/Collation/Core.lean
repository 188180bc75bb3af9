import StatsLogApiGen.Container.OrderedMap
import StatsLogApiGen.Proto.Descriptor

/-!
# The data model of collation

The types of `Collation.h`.  Sets and maps keep the iteration order of the
source: annotations are ordered by atom id and annotation id, declarations by
code and name, signatures lexicographically by the numeric value of their
types.
-/

namespace StatsLogApiGen.Collation

open Std
open StatsLogApiGen.Container

def platformPulledAtomsStart : Int := 10000
def platformPulledAtomsEnd : Int := 99999
def vendorPulledAtomsStart : Int := 150000
def vendorPulledAtomsEnd : Int := 199999

def firstUidInChainId : Int := 0

/-- The key under which atom-level annotations are stored. -/
def atomIdFieldNumber : Int := -1

def defaultModuleName : String := "DEFAULT"

/-- `INT_MAX`, which marks a state value that was not declared. -/
def intMax : Int := 2147483647

/-- The names of the atom messages that may hold unsigned fields. -/
def uintAtomAllowlist : List String :=
  ["AppDied", "DevicePolicyEvent", "NfcErrorOccurred", "NfcHceTransactionOccurred",
    "ScreenTimeoutExtensionReported", "ThreadnetworkTelemetryDataReported",
    "ThreadnetworkTopoEntryRepeated", "SubsystemSleepState", "BluetoothActivityInfo",
    "CpuTimePerFreq", "CpuTimePerUid", "CpuTimePerUidFreq", "WifiActivityInfo",
    "ModemActivityInfo", "SystemElapsedRealtime", "SystemUptime", "CpuActiveTime",
    "CpuClusterTime", "DiskSpace", "OnDevicePowerMeasurement",
    "GeneralExternalStorageAccessStats", "CpuTimePerClusterFreq"]

/-! ## Types of atom parameters -/

/-- `java_type_t`. -/
inductive JavaType where
  | unknownOrInvalid
  | attributionChain
  | boolean
  | int
  | long
  | float
  | double
  | string
  | enum
  | booleanArray
  | intArray
  | longArray
  | floatArray
  | doubleArray
  | stringArray
  | enumArray
  | object
  | byteArray
  deriving DecidableEq, Repr

namespace JavaType

/-- The numeric value that orders the types. -/
def value : JavaType → Int
  | .unknownOrInvalid => 0
  | .attributionChain => 1
  | .boolean => 2
  | .int => 3
  | .long => 4
  | .float => 5
  | .double => 6
  | .string => 7
  | .enum => 8
  | .booleanArray => 10
  | .intArray => 11
  | .longArray => 12
  | .floatArray => 13
  | .doubleArray => 14
  | .stringArray => 15
  | .enumArray => 16
  | .object => -1
  | .byteArray => -2

theorem value_injective : Function.Injective value := by
  intro first second equal
  cases first <;> cases second <;> first | rfl | exact absurd equal (by decide)

instance : Ord JavaType := ⟨compareOn value⟩

instance : TransOrd JavaType :=
  inferInstanceAs (TransCmp (compareOn value))

instance : LawfulEqOrd JavaType :=
  lawfulEqCmp_compareOn value_injective

/-- `is_repeated_field`.  Does not include the attribution chain type. -/
def isRepeatedField : JavaType → Bool
  | .booleanArray | .intArray | .floatArray | .longArray | .stringArray | .enumArray => true
  | _ => false

/-- `is_primitive_field`. -/
def isPrimitiveField : JavaType → Bool
  | .boolean | .int | .long | .float | .string | .enum => true
  | _ => false

end JavaType

abbrev Signature := List JavaType

/-- `contains_repeated_field`. -/
def containsRepeatedField (signature : Signature) : Bool :=
  signature.any JavaType.isRepeatedField

/-! ## Annotations -/

/-- `AnnotationId`. -/
inductive AnnotationId where
  | isUid
  | truncateTimestamp
  | primaryField
  | exclusiveState
  | primaryFieldFirstUid
  | defaultState
  | triggerStateReset
  | stateNested
  | restrictionCategory
  | fieldRestrictionPeripheralDeviceInfo
  | fieldRestrictionAppUsage
  | fieldRestrictionAppActivity
  | fieldRestrictionHealthConnect
  | fieldRestrictionAccessibility
  | fieldRestrictionSystemSearch
  | fieldRestrictionUserEngagement
  | fieldRestrictionAmbientSensing
  | fieldRestrictionDemographicClassification
  deriving DecidableEq, Repr

namespace AnnotationId

/-- The numeric value of an annotation id. -/
def value : AnnotationId → Int
  | .isUid => 1
  | .truncateTimestamp => 2
  | .primaryField => 3
  | .exclusiveState => 4
  | .primaryFieldFirstUid => 5
  | .defaultState => 6
  | .triggerStateReset => 7
  | .stateNested => 8
  | .restrictionCategory => 9
  | .fieldRestrictionPeripheralDeviceInfo => 10
  | .fieldRestrictionAppUsage => 11
  | .fieldRestrictionAppActivity => 12
  | .fieldRestrictionHealthConnect => 13
  | .fieldRestrictionAccessibility => 14
  | .fieldRestrictionSystemSearch => 15
  | .fieldRestrictionUserEngagement => 16
  | .fieldRestrictionAmbientSensing => 17
  | .fieldRestrictionDemographicClassification => 18

theorem value_injective : Function.Injective value := by
  intro first second equal
  cases first <;> cases second <;> first | rfl | exact absurd equal (by decide)

instance : Ord AnnotationId := ⟨compareOn value⟩

instance : TransOrd AnnotationId :=
  inferInstanceAs (TransCmp (compareOn value))

instance : LawfulEqOrd AnnotationId :=
  lawfulEqCmp_compareOn value_injective

end AnnotationId

/-- The union `AnnotationValue` together with the `AnnotationType` that says
which member it holds. -/
inductive AnnotationValue where
  | int (intValue : Int)
  | bool (boolValue : Bool)
  deriving DecidableEq, Repr

structure Annotation where
  annotationId : AnnotationId
  atomId : Int
  value : AnnotationValue
  deriving DecidableEq, Repr

/-- What the order on annotations compares. -/
structure AnnotationKey where
  atomId : Int
  annotationId : AnnotationId
  deriving DecidableEq, Repr

instance : Ord AnnotationKey :=
  ⟨compareLex (compareOn AnnotationKey.atomId) (compareOn AnnotationKey.annotationId)⟩

instance : TransOrd AnnotationKey :=
  inferInstanceAs (TransCmp (compareLex _ _))

instance : LawfulEqOrd AnnotationKey where
  eq_of_compare {first second} equal := by
    obtain ⟨atomEq, annotationEq⟩ := Ordering.then_eq_eq.mp equal
    rcases first with ⟨firstAtom, firstAnnotation⟩
    rcases second with ⟨secondAtom, secondAnnotation⟩
    cases LawfulEqOrd.eq_of_compare atomEq
    cases LawfulEqOrd.eq_of_compare annotationEq
    rfl

def Annotation.key (ann : Annotation) : AnnotationKey :=
  ⟨ann.atomId, ann.annotationId⟩

abbrev AnnotationSet := ExtTreeMap AnnotationKey Annotation

abbrev FieldNumberToAnnotations := ExtTreeMap Int AnnotationSet

/-! ## Atoms -/

inductive AtomType where
  | pushed
  | pulled
  deriving DecidableEq, Repr

/-- The name and type for an atom field.  The enum values and the enum type
name are filled for enum fields only. -/
structure AtomField where
  name : String
  javaType : JavaType
  enumValues : ExtTreeMap Int String := ∅
  enumTypeName : String := ""

/-- The name and code for an atom, with what collation records about it. -/
structure AtomDecl where
  code : Int := 0
  name : String := ""
  message : String := ""
  fields : List AtomField := []
  atomType : AtomType := .pushed
  fieldNumberToAnnotations : FieldNumberToAnnotations := ∅
  primaryFields : List Int := []
  exclusiveField : Int := 0
  defaultState : Int := intMax
  triggerStateReset : Int := intMax
  nested : Bool := true
  restricted : Bool := false

/-- What the order on declarations compares. -/
structure DeclKey where
  code : Int
  name : String
  deriving DecidableEq, Repr

instance : Ord DeclKey :=
  ⟨compareLex (compareOn DeclKey.code) (compareOn DeclKey.name)⟩

instance : TransOrd DeclKey :=
  inferInstanceAs (TransCmp (compareLex _ _))

instance : LawfulEqOrd DeclKey where
  eq_of_compare {first second} equal := by
    obtain ⟨codeEq, nameEq⟩ := Ordering.then_eq_eq.mp equal
    rcases first with ⟨firstCode, firstName⟩
    rcases second with ⟨secondCode, secondName⟩
    cases LawfulEqOrd.eq_of_compare codeEq
    cases LawfulEqOrd.eq_of_compare nameEq
    rfl

def AtomDecl.key (decl : AtomDecl) : DeclKey :=
  ⟨decl.code, decl.name⟩

abbrev AtomDeclSet := ExtTreeMap DeclKey AtomDecl

/-- Maps a field number to the set of atoms that have annotations for their
field with that field number. -/
abbrev FieldNumberToAtomDeclSet := ExtTreeMap Int AtomDeclSet

abbrev SignatureInfoMap := ExtTreeMap Signature FieldNumberToAtomDeclSet

structure Atoms where
  signatureInfoMap : SignatureInfoMap := ∅
  pulledAtomsSignatureInfoMap : SignatureInfoMap := ∅
  decls : AtomDeclSet := ∅
  nonChainedDecls : AtomDeclSet := ∅
  nonChainedSignatureInfoMap : SignatureInfoMap := ∅

/-- `set::insert`: a declaration with the same key stays. -/
def AtomDeclSet.insertDecl (decls : AtomDeclSet) (decl : AtomDecl) : AtomDeclSet :=
  decls.insertIfNew decl.key decl

/-- `set::insert`: an annotation with the same key stays. -/
def AnnotationSet.insertEntry (annotations : AnnotationSet) (ann : Annotation) :
    AnnotationSet :=
  annotations.insertIfNew ann.key ann

end StatsLogApiGen.Collation
