import StatsLogApiGen.Collation.Signature
import StatsLogApiGen.Container.Lists
import StatsLogApiGen.Writer.Utils

/-!
# Parameter types

A generated method is an overload: the compiler chooses it by the types of its
parameters.  This file computes these types and says when they determine the
signature.
-/

namespace StatsLogApiGen.Writer

open StatsLogApiGen.Container
open StatsLogApiGen.Collation

/-! ## Parameter types -/

/-- The parameter types of a C++ method for a signature. -/
def nativeParameterTypes (signature : Signature) : List String :=
  (writeNativeMethodSignature [] signature attributionDecl false).map Parameter.typeName

/-- The parameter types of a Java method for a signature. -/
def javaParameterTypes (signature : Signature) : List String :=
  "int" :: (javaSignatureParameters attributionDecl 1 signature).map Parameter.typeName

/-- The C++ types of one entry of a signature. -/
def nativeTypesOf : JavaType → List String
  | .attributionChain => ["const int32_t*", "size_t", "const std::vector<char const*>&"]
  | .booleanArray => ["const bool*", "size_t"]
  | type => [cppTypeName false type]

/-- The Java types of one entry of a signature. -/
def javaTypesOf : JavaType → List String
  | .attributionChain => ["int[]", "java.lang.String[]"]
  | type => [javaTypeName type]

theorem nativeArgParameters_typeName (argIndex : Int) (arg : JavaType) :
    (nativeArgParameters attributionDecl false argIndex arg).map Parameter.typeName =
      nativeTypesOf arg := by
  cases arg <;>
    simp [nativeArgParameters, nativeTypesOf, attributionDecl_fields, nativeChainParameters,
      cppTypeName]

theorem javaArgParameters_typeName (argIndex : Int) (arg : JavaType) :
    (javaArgParameters attributionDecl argIndex arg).map Parameter.typeName =
      javaTypesOf arg := by
  cases arg <;>
    simp [javaArgParameters, javaTypesOf, attributionDecl_fields, javaTypeName]

theorem nativeSignatureParameters_typeName (argIndex : Int) (signature : Signature) :
    (nativeSignatureParameters attributionDecl false argIndex signature).map
      Parameter.typeName = signature.flatMap nativeTypesOf := by
  induction signature generalizing argIndex with
  | nil => rfl
  | cons arg rest ih =>
      rw [nativeSignatureParameters, List.map_append, nativeArgParameters_typeName, ih,
        List.flatMap_cons]

theorem javaSignatureParameters_typeName (argIndex : Int) (signature : Signature) :
    (javaSignatureParameters attributionDecl argIndex signature).map
      Parameter.typeName = signature.flatMap javaTypesOf := by
  induction signature generalizing argIndex with
  | nil => rfl
  | cons arg rest ih =>
      rw [javaSignatureParameters, List.map_append, javaArgParameters_typeName, ih,
        List.flatMap_cons]

theorem nativeParameterTypes_eq (signature : Signature) :
    nativeParameterTypes signature = "int32_t" :: signature.flatMap nativeTypesOf := by
  simp [nativeParameterTypes, writeNativeMethodSignature, nativeSignatureParameters_typeName]

theorem javaParameterTypes_eq (signature : Signature) :
    javaParameterTypes signature = "int" :: signature.flatMap javaTypesOf := by
  rw [javaParameterTypes, javaSignatureParameters_typeName]

theorem nativeTypesOf_lowered (type : JavaType) :
    nativeTypesOf (lowered type) = nativeTypesOf type := by
  cases type <;> rfl

theorem javaTypesOf_lowered (type : JavaType) :
    javaTypesOf (lowered type) = javaTypesOf type := by
  cases type <;> rfl

/-- An enum is passed like the integer it is lowered to. -/
@[simp]
theorem nativeParameterTypes_lowered (signature : Signature) :
    nativeParameterTypes (signature.map lowered) = nativeParameterTypes signature := by
  rw [nativeParameterTypes_eq, nativeParameterTypes_eq, List.flatMap_map]
  congr 2
  funext type
  exact nativeTypesOf_lowered type

@[simp]
theorem javaParameterTypes_lowered (signature : Signature) :
    javaParameterTypes (signature.map lowered) = javaParameterTypes signature := by
  rw [javaParameterTypes_eq, javaParameterTypes_eq, List.flatMap_map]
  congr 2
  funext type
  exact javaTypesOf_lowered type

/-- The types a signature is made of. -/
def signatureTypes : List JavaType :=
  [.attributionChain, .boolean, .int, .long, .float, .string, .byteArray, .booleanArray,
    .intArray, .longArray, .floatArray, .stringArray]

theorem mem_signatureTypes_tail {type : JavaType} (isArgument : IsArgument type) :
    type ∈ signatureTypes.tail := by
  cases type <;> simp_all [IsArgument, signatureTypes]

theorem mem_signatureTypes {signature : Signature}
    (accepted : AcceptedSignature signature) : ∀ type ∈ signature, type ∈ signatureTypes := by
  intro type member
  rcases accepted.mem_cases type member with isArgument | rfl
  · exact List.mem_of_mem_tail (mem_signatureTypes_tail isArgument)
  · simp [signatureTypes]

theorem all_or_not_repeated (level : Bool) (signature : Signature) :
    (signature.all fun type => level || !type.isRepeatedField) =
      (level || !containsRepeatedField signature) := by
  cases level with
  | true => simp
  | false => simp [containsRepeatedField, List.not_any_eq_all_not]

/-- The first C++ type of an entry tells the entry. -/
theorem find?_nativeTypesOf :
    ∀ type ∈ signatureTypes,
      signatureTypes.find? (fun other =>
        (nativeTypesOf other).head? = (nativeTypesOf type).head?) = some type := by
  decide

/-- The first Java type of an argument tells the argument. -/
theorem find?_javaTypesOf :
    ∀ type ∈ signatureTypes.tail,
      signatureTypes.tail.find? (fun other =>
        (javaTypesOf other).head? = (javaTypesOf type).head?) = some type := by
  decide

/-- Overloads of the C++ writer determine the signature. -/
theorem nativeParameterTypes_injective {left right : Signature}
    (leftAccepted : ∀ type ∈ left, type ∈ signatureTypes)
    (rightAccepted : ∀ type ∈ right, type ∈ signatureTypes)
    (equal : nativeParameterTypes left = nativeParameterTypes right) : left = right := by
  rw [nativeParameterTypes_eq, nativeParameterTypes_eq, List.cons.injEq] at equal
  apply flatMap_injective _ _ leftAccepted rightAccepted equal.2
  · intro type _
    cases type <;> simp [nativeTypesOf]
  · intro first second firstMem secondMem heads
    have found := find?_nativeTypesOf first firstMem
    rw [heads, find?_nativeTypesOf second secondMem] at found
    exact (Option.some.inj found).symm

/-- Overloads of the Java writer determine a signature without a chain. -/
theorem javaParameterTypes_injective {left right : Signature}
    (leftAccepted : ∀ type ∈ left, type ∈ signatureTypes.tail)
    (rightAccepted : ∀ type ∈ right, type ∈ signatureTypes.tail)
    (equal : javaParameterTypes left = javaParameterTypes right) : left = right := by
  rw [javaParameterTypes_eq, javaParameterTypes_eq, List.cons.injEq] at equal
  apply flatMap_injective _ _ leftAccepted rightAccepted equal.2
  · intro type _
    cases type <;> simp [javaTypesOf]
  · intro first second firstMem secondMem heads
    have found := find?_javaTypesOf first firstMem
    rw [heads, find?_javaTypesOf second secondMem] at found
    exact (Option.some.inj found).symm

end StatsLogApiGen.Writer
