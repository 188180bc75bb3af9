import StatsLogApiGen.Writer.Utils

/-!
# The Q-schema writer

`java_writer_q.cpp`: the methods of the generated class `QLogger`, which encode
an event for devices that run Q or an earlier release.  A method first adds up
the size of the event, gives up when it is too large, and then fills a buffer.
-/

namespace StatsLogApiGen.QSchema

open Std
open StatsLogApiGen.Container
open StatsLogApiGen.Collation
open StatsLogApiGen.Writer

/-! ## Constants of the generated class -/

def loggerEntryMaxPayload : Int := 4068
def maxEventPayload : Int := loggerEntryMaxPayload - 4

def intType : BitVec 8 := 0
def longType : BitVec 8 := 1
def stringType : BitVec 8 := 2
def listType : BitVec 8 := 3
def floatType : BitVec 8 := 4

def intTypeSize : Int := 5
def floatTypeSize : Int := 5
def longTypeSize : Int := 9
def stringTypeOverhead : Int := 5
def listTypeOverhead : Int := 2

/-! ## Statements -/

/-- The statements that add the size of one argument to `needed`. -/
inductive SizeStatement where
  | int
  | long
  | string (argIndex : Int)
  | byteArray (argIndex : Int)
  | attributionChain (uids tags : String)
  deriving DecidableEq, Repr

/-- The statements that write one argument into the buffer. -/
inductive WriteStatement where
  | boolean (argIndex : Int)
  | int (argIndex : Int)
  | float (argIndex : Int)
  | long (argIndex : Int)
  | string (argIndex : Int)
  | byteArray (argIndex : Int)
  | attributionChain (uids tags : String)
  deriving DecidableEq, Repr

/-- The helper methods that are generated on demand. -/
inductive Helper where
  | copyFloat
  | writeAttributionChain
  deriving DecidableEq, Repr

/-- A generated `write` method of the class.  `count` is the number of elements
that it stores as a literal. -/
structure Method where
  parameters : List Parameter
  sizes : List SizeStatement
  count : Nat
  writes : List WriteStatement
  deriving DecidableEq, Repr

/-- The generated class.  `nodeCount` is the number of elements that the helper
for attribution chains stores for a node. -/
structure QLogger where
  methods : List Method
  helpers : List Helper
  nodeCount : Nat
  deriving DecidableEq, Repr

/-! ## Generation -/

/-- The parameters of one entry of a signature. -/
def argParameters (attributionDecl : AtomDecl) (argIndex : Int) (arg : JavaType) :
    List Parameter :=
  if arg = .attributionChain then
    attributionDecl.fields.map fun chainField =>
      ⟨javaTypeName chainField.javaType ++ "[]", .chain chainField.name⟩
  else
    [⟨javaTypeName arg, .arg argIndex⟩]

/-- The loop that prints the parameters. -/
def parametersFrom (attributionDecl : AtomDecl) : Int → Signature → List Parameter
  | _, [] => []
  | argIndex, arg :: rest =>
      argParameters attributionDecl argIndex arg ++
        parametersFrom attributionDecl (argIndex + 1) rest

/-- The first switch. -/
def sizeStatement (attributionDecl : AtomDecl) (argIndex : Int) :
    JavaType → Except WriterError SizeStatement
  | .boolean | .int | .float | .enum => .ok .int
  | .long => .ok .long
  | .string => .ok (.string argIndex)
  | .byteArray => .ok (.byteArray argIndex)
  | .attributionChain =>
      .ok (.attributionChain (uidName attributionDecl) (tagName attributionDecl))
  | _ => .error .moduleObjectOrDouble

/-- The second switch. -/
def writeStatement (attributionDecl : AtomDecl) (argIndex : Int) :
    JavaType → Except WriterError WriteStatement
  | .boolean => .ok (.boolean argIndex)
  | .int | .enum => .ok (.int argIndex)
  | .float => .ok (.float argIndex)
  | .long => .ok (.long argIndex)
  | .string => .ok (.string argIndex)
  | .byteArray => .ok (.byteArray argIndex)
  | .attributionChain =>
      .ok (.attributionChain (uidName attributionDecl) (tagName attributionDecl))
  | _ => .error .objectOrDoubleInModule

/-- The types that both switches have a case for. -/
def isScalarType : JavaType → Bool
  | .attributionChain | .byteArray | .boolean | .int | .enum | .float | .long | .string => true
  | _ => false

theorem sizeStatement_isOk (attributionDecl : AtomDecl) (argIndex : Int) (type : JavaType) :
    (sizeStatement attributionDecl argIndex type).isOk = isScalarType type := by
  cases type <;> rfl

theorem writeStatement_isOk (attributionDecl : AtomDecl) (argIndex : Int) (type : JavaType) :
    (writeStatement attributionDecl argIndex type).isOk = isScalarType type := by
  cases type <;> rfl

/-- The helper that a written argument requires. -/
def requiredHelper : JavaType → Option Helper
  | .float => some .copyFloat
  | .attributionChain => some .writeAttributionChain
  | _ => none

/-- The iteration of `write_java_methods_q_schema` for one signature. -/
def writeJavaMethodQSchema (attributionDecl : AtomDecl)
    (entry : Signature × FieldNumberToAtomDeclSet) : Except WriterError Method :=
  (eachArg (sizeStatement attributionDecl) 1 entry.1).bind fun sizes =>
    (eachArg (writeStatement attributionDecl) 1 entry.1).map fun writes =>
      { parameters := ⟨"int", .code⟩ :: parametersFrom attributionDecl 1 entry.1
        sizes
        count := entry.1.length + 2
        writes }

/-- `write_java_methods_q_schema` followed by
`write_java_helpers_for_q_schema_methods`. -/
def writeJavaMethodsQSchema (signatureInfoMap : SignatureInfoMap)
    (attributionDecl : AtomDecl) : Except WriterError QLogger :=
  (signatureInfoMap.toList.mapM (writeJavaMethodQSchema attributionDecl)).map fun methods =>
    { methods
      helpers := signatureInfoMap.toList.flatMap fun entry => entry.1.filterMap requiredHelper
      nodeCount := attributionDecl.fields.length }

end StatsLogApiGen.QSchema
