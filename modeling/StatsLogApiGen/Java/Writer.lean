import StatsLogApiGen.QSchema.Writer
import StatsLogApiGen.Writer.Body

/-!
# The Java writer

`java_writer.cpp` with the functions of `utils.cpp` for methods that forward to
others.  Several writers run one after the other, and the generator returns how
many of them failed.
-/

namespace StatsLogApiGen.Java

open Std
open StatsLogApiGen.Container
open StatsLogApiGen.Collation
open StatsLogApiGen.Program
open StatsLogApiGen.Writer
open StatsLogApiGen.QSchema (QLogger writeJavaMethodsQSchema)

/-! ## Statements -/

/-- The methods that are called on `builder`.  An array or a chain that is null
is replaced by an empty one in the call. -/
inductive BuilderMethod where
  | setAtomId
  | writeBoolean (arg : Variable)
  | writeInt (arg : Variable)
  | writeFloat (arg : Variable)
  | writeLong (arg : Variable)
  | writeString (arg : Variable)
  | writeByteArray (arg : Variable)
  | writeBooleanArray (arg : Variable)
  | writeIntArray (arg : Variable)
  | writeFloatArray (arg : Variable)
  | writeLongArray (arg : Variable)
  | writeStringArray (arg : Variable)
  | writeAttributionChain (uids tags : Variable)
  | addAnnotationInt (annotationId : String) (value : Operand)
  | addAnnotationBoolean (annotationId : String) (value : Bool)
  deriving DecidableEq, Repr

/-- What is passed to another generated method. -/
inductive Expression where
  | name (name : Variable)
  | arrayOf (typeName : String) (element : Variable)
  | workSourceUid
  | workSourcePackageName
  | workChainUids
  | workChainTags
  deriving DecidableEq, Repr

/-- A call of another generated method. -/
structure MethodCall where
  name : String
  arguments : List Expression
  deriving DecidableEq, Repr

/-- The body of a generated method.  Code on a builder is followed by sending the
event or returning it.  A method for work sources calls one method for every uid
and one for every work chain. -/
inductive Body where
  | write (code : List (Code Condition BuilderMethod))
  | writeOrQLogger (code : List (Code Condition BuilderMethod)) (qLogger : MethodCall)
  | buildStatsEvent (code : List (Code Condition BuilderMethod))
  | forward (call : MethodCall)
  | workSource (eachUid eachWorkChain : MethodCall)
  deriving DecidableEq, Repr

/-- A generated method with the API level it is marked with, or 0. -/
structure Method where
  requiresApi : Int := 0
  name : String
  parameters : List Parameter
  body : Body
  deriving DecidableEq, Repr

/-- A constant of the generated class: a constant of the platform, or a number on
devices up to R. -/
inductive ConstantValue where
  | platform (name : String)
  | numberUpToR (number : Int) (name : String)
  deriving DecidableEq, Repr

/-! ## Annotations -/

/-- `write_java_annotation_constants`: constants for the annotations from before
U. -/
def writeJavaAnnotationConstants (constants : AnnotationIdConstants) (minApiLevel : Int) :
    List (String × ConstantValue) :=
  (annotationIds.filter fun annotationId => (constants annotationId).minApiLevel < apiU).map
    fun annotationId =>
      let name := (constants annotationId).name
      if minApiLevel ≤ apiR then
        (name, .numberUpToR annotationId.value ("StatsLog." ++ name))
      else
        (name, .platform ("StatsLog." ++ name))

/-- The prefix of an annotation constant. -/
def constantPrefix (annotationConstant : AnnotationStruct) : String :=
  if annotationConstant.minApiLevel ≥ apiU then "StatsLog." else ""

/-- What `write_annotations` prints. -/
def annotationTemplates : AnnotationTemplates BuilderMethod where
  restriction annotationConstant category :=
    .addAnnotationInt (constantPrefix annotationConstant ++ annotationConstant.name)
      (.constant (constantPrefix annotationConstant ++ getRestrictionCategoryStr category))
  int annotationConstant value :=
    .addAnnotationInt (constantPrefix annotationConstant ++ annotationConstant.name)
      (.literal value)
  bool annotationConstant value :=
    .addAnnotationBoolean (constantPrefix annotationConstant ++ annotationConstant.name) value
  reset annotationConstant value := .addAnnotationInt annotationConstant.name (.literal value)

/-- `write_annotations`. -/
def writeAnnotations (constants : AnnotationIdConstants) (argIndex : Int)
    (fieldNumberToAtomDeclSet : FieldNumberToAtomDeclSet) :
    List (Code Condition BuilderMethod) :=
  writeDeclAnnotations annotationTemplates constants argIndex fieldNumberToAtomDeclSet

/-! ## Bodies -/

/-- The switch of `write_method_body`. -/
def writeArg (attributionDecl : AtomDecl) (argIndex : Int) (arg : JavaType) :
    Except WriterError (List (Code Condition BuilderMethod)) :=
  match arg with
  | .boolean => .ok [.call (.writeBoolean (.arg argIndex))]
  | .int | .enum => .ok [.call (.writeInt (.arg argIndex))]
  | .float => .ok [.call (.writeFloat (.arg argIndex))]
  | .long => .ok [.call (.writeLong (.arg argIndex))]
  | .string => .ok [.call (.writeString (.arg argIndex))]
  | .byteArray => .ok [.call (.writeByteArray (.arg argIndex))]
  | .booleanArray => .ok [.call (.writeBooleanArray (.arg argIndex))]
  | .intArray => .ok [.call (.writeIntArray (.arg argIndex))]
  | .floatArray => .ok [.call (.writeFloatArray (.arg argIndex))]
  | .longArray => .ok [.call (.writeLongArray (.arg argIndex))]
  | .stringArray => .ok [.call (.writeStringArray (.arg argIndex))]
  | .attributionChain =>
      .ok [.call (.writeAttributionChain (.chain (uidName attributionDecl))
        (.chain (tagName attributionDecl)))]
  | .unknownOrInvalid | .double | .doubleArray | .enumArray | .object =>
      .error .unsupportedType

/-- `write_method_body`. -/
def writeMethodBody (constants : AnnotationIdConstants) (attributionDecl : AtomDecl)
    (signature : Signature) (fieldNumberToAtomDeclSet : FieldNumberToAtomDeclSet) :
    Except WriterError (List (Code Condition BuilderMethod)) :=
  let annotations (argIndex : Int) : List (Code Condition BuilderMethod) :=
    writeAnnotations constants argIndex fieldNumberToAtomDeclSet
  (writeArguments (writeArg attributionDecl) annotations 1 signature).map fun arguments =>
    .call .setAtomId :: (annotations atomIdFieldNumber ++ arguments)

/-- The arguments of the call of `QLogger.write` for one entry. -/
def qLoggerArguments (attributionDecl : AtomDecl) (argIndex : Int) (arg : JavaType) :
    Except WriterError (List Expression) :=
  if arg = .attributionChain then
    .ok [.name (.chain (uidName attributionDecl)), .name (.chain (tagName attributionDecl))]
  else if arg.isRepeatedField then
    .error .moduleRepeatedField
  else
    .ok [.name (.arg argIndex)]

/-! ## Methods -/

/-- The API level of `write_requires_api_annotation`. -/
def requiresApi (minApiLevel : Int) (entry : Signature × FieldNumberToAtomDeclSet) : Int :=
  getMaxRequiresApiLevel minApiLevel entry.2[atomIdFieldNumber]? entry.1

/-- The parameters that `write_java_method_signature` has printed; the caller
ignores its result. -/
def printedParameters (signature : Signature) (attributionDecl : AtomDecl) : List Parameter :=
  match writeJavaMethodSignature signature attributionDecl with
  | .ok parameters => parameters
  | .error _ => []

section Methods

variable (constants : AnnotationIdConstants) (attributionDecl : AtomDecl) (minApiLevel : Int)

/-- The iteration of `write_java_pushed_methods` for one signature. -/
def writeJavaPushedMethod (entry : Signature × FieldNumberToAtomDeclSet) :
    Except WriterError Method :=
  (writeMethodBody constants attributionDecl entry.1 entry.2).bind fun code =>
    let method (body : Body) : Method :=
      { requiresApi := requiresApi minApiLevel entry
        name := "write"
        parameters := ⟨"int", .code⟩ :: printedParameters entry.1 attributionDecl
        body }
    if minApiLevel = apiQ then
      (eachArg (qLoggerArguments attributionDecl) 1 entry.1).map fun arguments =>
        method (.writeOrQLogger code
          ⟨"QLogger.write", .name .code :: arguments.flatten⟩)
    else
      .ok (method (.write code))

/-- `write_java_pushed_methods`. -/
def writeJavaPushedMethods (signatureInfoMap : SignatureInfoMap) :
    Except WriterError (List Method) :=
  signatureInfoMap.toList.mapM (writeJavaPushedMethod constants attributionDecl minApiLevel)

/-- The iteration of `write_java_pulled_methods` for one signature. -/
def writeJavaPulledMethod (entry : Signature × FieldNumberToAtomDeclSet) :
    Except WriterError Method :=
  (writeJavaMethodSignature entry.1 attributionDecl).bind fun parameters =>
    (writeMethodBody constants attributionDecl entry.1 entry.2).map fun code =>
      { requiresApi := requiresApi minApiLevel entry
        name := "buildStatsEvent"
        parameters := ⟨"int", .code⟩ :: parameters
        body := .buildStatsEvent code }

/-- `write_java_pulled_methods`. -/
def writeJavaPulledMethods (signatureInfoMap : SignatureInfoMap) :
    Except WriterError (List Method) :=
  signatureInfoMap.toList.mapM (writeJavaPulledMethod constants attributionDecl minApiLevel)

end Methods

/-- A parameter of a non-chained method. -/
def nonChainedParameter (argIndex : Int) (arg : JavaType) : Except WriterError Parameter :=
  if arg = .attributionChain then
    .error .chainInNonChainedSignature
  else
    .ok ⟨javaTypeName arg, .arg argIndex⟩

/-- An argument that a non-chained method passes on.  The first two are the uid
and the tag of the attribution chain. -/
def nonChainedArgument (argIndex : Int) : Expression :=
  if argIndex = 1 then .arrayOf "int" (.arg argIndex)
  else if argIndex = 2 then .arrayOf "java.lang.String" (.arg argIndex)
  else .name (.arg argIndex)

/-- The 1-based indices of the arguments of a signature. -/
def argIndices (signature : Signature) : List Int :=
  (List.range signature.length).map fun position : Nat => (position : Int) + 1

/-- The iteration of `write_java_non_chained_methods` for one signature. -/
def writeJavaNonChainedMethod (signature : Signature) : Except WriterError Method :=
  (eachArg nonChainedParameter 1 signature).map fun parameters =>
    { name := "write_non_chained"
      parameters := ⟨"int", .code⟩ :: parameters
      body := .forward
        ⟨"write", .name .code :: (argIndices signature).map nonChainedArgument⟩ }

/-- `write_java_non_chained_methods`. -/
def writeJavaNonChainedMethods (signatureInfoMap : SignatureInfoMap) :
    Except WriterError (List Method) :=
  signatureInfoMap.toList.mapM fun entry => writeJavaNonChainedMethod entry.1

/-- The loop that looks for the attribution chain, from the number of entries
already seen on.  -1 stands for no chain. -/
def findAttributionArg : Int → Int → Signature → Except WriterError Int
  | attributionArg, _, [] => .ok attributionArg
  | attributionArg, argIndexMax, arg :: rest =>
      if arg = .attributionChain then
        if attributionArg > -1 then
          .error .severalAttributionNodes
        else
          findAttributionArg (argIndexMax + 1) (argIndexMax + 1) rest
      else
        findAttributionArg attributionArg (argIndexMax + 1) rest

/-- A parameter of a method for work sources. -/
def workSourceParameter (argIndex : Int) (arg : JavaType) : Parameter :=
  if arg = .attributionChain then
    ⟨"android.os.WorkSource", .workSource⟩
  else
    ⟨javaTypeName arg, .arg argIndex⟩

/-- The arguments of a call where `chain` takes the place of the attribution
chain. -/
def workSourceArguments (signature : Signature) (attributionArg : Int)
    (chain : List Expression) : List Expression :=
  .name .code :: (argIndices signature).flatMap fun argIndex =>
    if argIndex = attributionArg then chain else [.name (.arg argIndex)]

/-- The iteration of `write_java_work_source_methods` for one signature; a
signature without a chain gets no method. -/
def writeJavaWorkSourceMethod (signature : Signature) : Except WriterError (List Method) :=
  (findAttributionArg (-1) 0 signature).map fun attributionArg =>
    if attributionArg < 0 then
      []
    else
      [{ name := "write"
         parameters := ⟨"int", .code⟩ ::
           ((argIndices signature).zip signature).map fun arg => workSourceParameter arg.1 arg.2
         body := .workSource
           ⟨"write_non_chained", workSourceArguments signature attributionArg
             [.workSourceUid, .workSourcePackageName]⟩
           ⟨"write", workSourceArguments signature attributionArg
             [.workChainUids, .workChainTags]⟩ }]

/-- `write_java_work_source_methods`. -/
def writeJavaWorkSourceMethods (signatureInfoMap : SignatureInfoMap) :
    Except WriterError (List Method) :=
  (signatureInfoMap.toList.mapM fun entry => writeJavaWorkSourceMethod entry.1).map
    List.flatten

/-! ## The class -/

/-- What `write_stats_log_java` leaves in its file, what it prints about errors, and
the number it returns.  The methods of a writer that fails are left out. -/
structure Output where
  methods : List Method
  qLogger : Option QLogger
  reports : List WriterError
  errors : Nat
  deriving DecidableEq, Repr

/-- The result of a writer as an exit status. -/
def exitStatus {α : Type} : Except WriterError α → Nat
  | .ok _ => 0
  | .error _ => 1

/-- What a writer prints before it gives up. -/
def report {α : Type} : Except WriterError α → List WriterError
  | .ok _ => []
  | .error reason => [reason]

/-- The methods of a writer. -/
def printed : Except WriterError (List Method) → List Method
  | .ok methods => methods
  | .error _ => []

/-- `write_stats_log_java`.  `write_java_q_logger_class` returns 0 whatever becomes
of the Q-schema methods. -/
def writeStatsLogJava (constants : AnnotationIdConstants) (atoms : Atoms)
    (attributionDecl : AtomDecl) (minApiLevel : Int) (supportWorkSource : Bool) : Output :=
  let pushed := writeJavaPushedMethods constants attributionDecl minApiLevel
    atoms.signatureInfoMap
  let nonChained := writeJavaNonChainedMethods atoms.nonChainedSignatureInfoMap
  let pulled := writeJavaPulledMethods constants attributionDecl minApiLevel
    atoms.pulledAtomsSignatureInfoMap
  let workSource :=
    if supportWorkSource then writeJavaWorkSourceMethods atoms.signatureInfoMap else .ok []
  let qLogger :=
    if minApiLevel = apiQ then
      (writeJavaMethodsQSchema atoms.signatureInfoMap attributionDecl).map some
    else
      .ok none
  { methods := printed pushed ++ printed nonChained ++ printed pulled ++ printed workSource
    qLogger := qLogger.toOption.join
    reports := report pushed ++ report nonChained ++ report pulled ++ report workSource ++
      report qLogger
    errors := exitStatus pushed + exitStatus nonChained + exitStatus pulled +
      exitStatus workSource }

end StatsLogApiGen.Java
