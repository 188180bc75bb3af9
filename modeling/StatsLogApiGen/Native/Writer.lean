import StatsLogApiGen.Writer.Body

/-!
# The native writer

`native_writer.cpp`: the methods of a generated C++ source and the annotation
constants of its header.  The text of a method is kept as its parameters and its
statements.
-/

namespace StatsLogApiGen.Native

open Std
open StatsLogApiGen.Container
open StatsLogApiGen.Collation
open StatsLogApiGen.Program
open StatsLogApiGen.Writer

/-! ## Statements -/

/-- What the variable `event` of a generated method is. -/
inductive EventClass where
  | aStatsEvent
  | statsEventCompat
  deriving DecidableEq, Repr

/-- The functions that are called on an event. -/
inductive EventMethod where
  | setAtomId
  | writeAttributionChain (uids uidsLength tags : Variable)
  | writeByteArray (arg : Variable)
  | writeBool (arg : Variable)
  | writeInt32 (arg : Variable)
  | writeFloat (arg : Variable)
  | writeInt64 (arg : Variable)
  | writeString (arg : Variable)
  | writeBoolArray (arg argLength : Variable)
  | writeInt32Array (arg : Variable)
  | writeFloatArray (arg : Variable)
  | writeInt64Array (arg : Variable)
  | writeStringArray (arg : Variable)
  | addAnnotationInt32 (annotationId : String) (value : Operand)
  | addAnnotationBool (annotationId : String) (value : Bool)
  deriving DecidableEq, Repr

/-- A call `AStatsEvent_method(event, …)` or `event.method(…)`.  A chain is
passed to `AStatsEvent` with its length cast to `uint8_t`. -/
structure EventCall where
  receiver : EventClass
  method : EventMethod
  deriving DecidableEq, Repr

/-- A value that a bootstrap body pushes, made from an argument. -/
inductive BootstrapValue where
  | bytesValue (argIndex : Int)
  | boolValue (argIndex : Int)
  | intValue (argIndex : Int)
  | floatValue (argIndex : Int)
  | longValue (argIndex : Int)
  | stringValue (argIndex : Int)
  deriving DecidableEq, Repr

/-- What a local variable is initialized with. -/
inductive Initializer where
  | addressOf (name : Variable)
  | size (count : Nat)
  | vectorOf (count : Nat) (element : Variable)
  deriving DecidableEq, Repr

structure Local where
  typeName : String
  name : Variable
  value : Initializer
  deriving DecidableEq, Repr

/-- A call of another generated method. -/
structure MethodCall where
  name : String
  arguments : List Variable
  deriving DecidableEq, Repr

/-- The body of a generated method: how it obtains its event, if it has one, and
what it does before it sends the event or hands it over. -/
inductive Body where
  | bootstrap (values : List BootstrapValue)
  | statsEventCompat (code : List (Code Condition EventCall))
  | aStatsEvent (code : List (Code Condition EventCall))
  | statsEventList (code : List (Code Condition EventCall))
  | forward (locals : List Local) (call : MethodCall)
  deriving DecidableEq, Repr

structure Method where
  name : String
  parameters : List Parameter
  body : Body
  deriving DecidableEq, Repr

/-! ## Annotations -/

/-- `write_native_annotation_constants`: the constants that the header defines up
to R. -/
def writeNativeAnnotationConstants (constants : AnnotationIdConstants) : List (String × Int) :=
  annotationIds.map fun annotationId => ((constants annotationId).name, annotationId.value)

/-- The prefix of the annotation constants: above R they come from the platform. -/
def constantPrefix (minApiLevel : Int) : String :=
  if minApiLevel > apiR then "ASTATSLOG_" else ""

/-- What `write_annotations` prints. -/
def annotationTemplates (receiver : EventClass) (minApiLevel : Int) :
    AnnotationTemplates EventCall where
  restriction annotationConstant category :=
    ⟨receiver, .addAnnotationInt32 (constantPrefix minApiLevel ++ annotationConstant.name)
      (.constant (constantPrefix minApiLevel ++ getRestrictionCategoryStr category))⟩
  int annotationConstant value :=
    ⟨receiver, .addAnnotationInt32 (constantPrefix minApiLevel ++ annotationConstant.name)
      (.literal value)⟩
  bool annotationConstant value :=
    ⟨receiver, .addAnnotationBool (constantPrefix minApiLevel ++ annotationConstant.name) value⟩
  reset annotationConstant value :=
    ⟨receiver, .addAnnotationInt32 (constantPrefix minApiLevel ++ annotationConstant.name)
      (.literal value)⟩

/-- `write_annotations`. -/
def writeAnnotations (receiver : EventClass) (constants : AnnotationIdConstants)
    (minApiLevel argIndex : Int) (fieldNumberToAtomDeclSet : FieldNumberToAtomDeclSet) :
    List (Code Condition EventCall) :=
  writeDeclAnnotations (annotationTemplates receiver minApiLevel) constants argIndex
    fieldNumberToAtomDeclSet

/-! ## Bodies -/

/-- The switch of `write_native_method_body` with the check before it. -/
def writeNativeArg (attributionDecl : AtomDecl) (minApiLevel argIndex : Int)
    (arg : JavaType) : Except WriterError (List (Code Condition EventCall)) :=
  let write (method : EventMethod) : List (Code Condition EventCall) :=
    [.call ⟨.aStatsEvent, method⟩]
  if minApiLevel < apiT ∧ arg.isRepeatedField then
    .error .repeatedBelowT
  else
    match arg with
    | .attributionChain =>
        .ok (write (.writeAttributionChain (.chain (uidName attributionDecl))
          (.chainLength (uidName attributionDecl)) (.chain (tagName attributionDecl))))
    | .byteArray => .ok (write (.writeByteArray (.arg argIndex)))
    | .boolean => .ok (write (.writeBool (.arg argIndex)))
    | .int | .enum => .ok (write (.writeInt32 (.arg argIndex)))
    | .float => .ok (write (.writeFloat (.arg argIndex)))
    | .long => .ok (write (.writeInt64 (.arg argIndex)))
    | .string => .ok (write (.writeString (.arg argIndex)))
    | .booleanArray => .ok (write (.writeBoolArray (.arg argIndex) (.argLength argIndex)))
    | .intArray | .enumArray => .ok (write (.writeInt32Array (.arg argIndex)))
    | .floatArray => .ok (write (.writeFloatArray (.arg argIndex)))
    | .longArray => .ok (write (.writeInt64Array (.arg argIndex)))
    | .stringArray => .ok (write (.writeStringArray (.arg argIndex)))
    | .unknownOrInvalid | .double | .doubleArray | .object => .error .unsupportedType

/-- `write_native_method_body`. -/
def writeNativeMethodBody (constants : AnnotationIdConstants) (attributionDecl : AtomDecl)
    (minApiLevel : Int) (signature : Signature)
    (fieldNumberToAtomDeclSet : FieldNumberToAtomDeclSet) :
    Except WriterError (List (Code Condition EventCall)) :=
  let annotations (argIndex : Int) : List (Code Condition EventCall) :=
    writeAnnotations .aStatsEvent constants minApiLevel argIndex fieldNumberToAtomDeclSet
  (writeArguments (writeNativeArg attributionDecl minApiLevel) annotations 1 signature).map
    fun arguments =>
      .call ⟨.aStatsEvent, .setAtomId⟩ :: (annotations atomIdFieldNumber ++ arguments)

/-- The switch of `write_native_stats_write_methods` for API level Q. -/
def writeCompatArg (attributionDecl : AtomDecl) (argIndex : Int) (arg : JavaType) :
    Except WriterError (List (Code Condition EventCall)) :=
  let write (method : EventMethod) : List (Code Condition EventCall) :=
    [.call ⟨.statsEventCompat, method⟩]
  match arg with
  | .attributionChain =>
      .ok (write (.writeAttributionChain (.chain (uidName attributionDecl))
        (.chainLength (uidName attributionDecl)) (.chain (tagName attributionDecl))))
  | .byteArray => .ok (write (.writeByteArray (.arg argIndex)))
  | .boolean => .ok (write (.writeBool (.arg argIndex)))
  | .int | .enum => .ok (write (.writeInt32 (.arg argIndex)))
  | .float => .ok (write (.writeFloat (.arg argIndex)))
  | .long => .ok (write (.writeInt64 (.arg argIndex)))
  | .string => .ok (write (.writeString (.arg argIndex)))
  | _ => .error .unsupportedType

/-- The body of `stats_write` for API level Q. -/
def writeCompatBody (constants : AnnotationIdConstants) (attributionDecl : AtomDecl)
    (minApiLevel : Int) (signature : Signature)
    (fieldNumberToAtomDeclSet : FieldNumberToAtomDeclSet) :
    Except WriterError (List (Code Condition EventCall)) :=
  let annotations (argIndex : Int) : List (Code Condition EventCall) :=
    writeAnnotations .statsEventCompat constants minApiLevel argIndex fieldNumberToAtomDeclSet
  (writeArguments (writeCompatArg attributionDecl) annotations 1 signature).map
    fun arguments =>
      .call ⟨.statsEventCompat, .setAtomId⟩ ::
        (annotations atomIdFieldNumber ++ arguments)

/-- The switch of the bootstrap branch. -/
def bootstrapValue (argIndex : Int) : JavaType → Except WriterError BootstrapValue
  | .byteArray => .ok (.bytesValue argIndex)
  | .boolean => .ok (.boolValue argIndex)
  | .int | .enum => .ok (.intValue argIndex)
  | .float => .ok (.floatValue argIndex)
  | .long => .ok (.longValue argIndex)
  | .string => .ok (.stringValue argIndex)
  | _ => .error .unsupportedType

/-- The loop of the bootstrap branch. -/
def writeBootstrapValues (fieldNumberToAtomDeclSet : FieldNumberToAtomDeclSet) :
    Int → Signature → Except WriterError (List BootstrapValue)
  | _, [] => .ok []
  | argIndex, arg :: rest =>
      (bootstrapValue argIndex arg).bind fun value =>
        if argIndex ∈ fieldNumberToAtomDeclSet then
          .error .bootstrapAnnotations
        else
          (writeBootstrapValues fieldNumberToAtomDeclSet (argIndex + 1) rest).map
            fun values => value :: values

/-- The bootstrap branch. -/
def writeBootstrapBody (signature : Signature)
    (fieldNumberToAtomDeclSet : FieldNumberToAtomDeclSet) :
    Except WriterError (List BootstrapValue) :=
  if atomIdFieldNumber ∈ fieldNumberToAtomDeclSet then
    .error .bootstrapAnnotations
  else
    writeBootstrapValues fieldNumberToAtomDeclSet 1 signature

/-! ## Methods -/

section Methods

variable (constants : AnnotationIdConstants) (attributionDecl : AtomDecl) (minApiLevel : Int)

/-- The iteration of `write_native_stats_write_methods` for one signature. -/
def writeNativeStatsWriteMethod (bootstrap : Bool)
    (entry : Signature × FieldNumberToAtomDeclSet) : Except WriterError Method :=
  let body : Except WriterError Body :=
    if bootstrap then
      (writeBootstrapBody entry.1 entry.2).map .bootstrap
    else if minApiLevel = apiQ then
      (writeCompatBody constants attributionDecl minApiLevel entry.1 entry.2).map
        .statsEventCompat
    else
      (writeNativeMethodBody constants attributionDecl minApiLevel entry.1 entry.2).map
        .aStatsEvent
  body.map fun body =>
    { name := "stats_write"
      parameters := writeNativeMethodSignature [] entry.1 attributionDecl false
      body }

/-- `write_native_stats_write_methods`. -/
def writeNativeStatsWriteMethods (bootstrap : Bool) (signatureInfoMap : SignatureInfoMap) :
    Except WriterError (List Method) :=
  signatureInfoMap.toList.mapM
    (writeNativeStatsWriteMethod constants attributionDecl minApiLevel bootstrap)

/-- The iteration of `write_native_build_stats_event_methods` for one signature. -/
def writeNativeBuildStatsEventMethod (entry : Signature × FieldNumberToAtomDeclSet) :
    Except WriterError Method :=
  (writeNativeMethodBody constants attributionDecl minApiLevel entry.1 entry.2).map fun code =>
    { name := "addAStatsEvent"
      parameters := writeNativeMethodSignature [⟨"AStatsEventList*", .pulledData⟩] entry.1
        attributionDecl false
      body := .statsEventList code }

/-- `write_native_build_stats_event_methods`. -/
def writeNativeBuildStatsEventMethods (signatureInfoMap : SignatureInfoMap) :
    Except WriterError (List Method) :=
  signatureInfoMap.toList.mapM
    (writeNativeBuildStatsEventMethod constants attributionDecl minApiLevel)

end Methods

/-- The arguments that `write_native_method_call` passes for one entry. -/
def callArguments (attributionDecl : AtomDecl) (argIndex : Int) (arg : JavaType) :
    List Variable :=
  if arg = .attributionChain then
    attributionDecl.fields.flatMap fun chainField =>
      if chainField.javaType = .string then
        [.chain chainField.name]
      else
        [.chain chainField.name, .chainLength chainField.name]
  else
    .arg argIndex :: if arg = .booleanArray then [.argLength argIndex] else []

/-- The loop of `write_native_method_call`. -/
def callArgumentsFrom (attributionDecl : AtomDecl) : Int → Signature → List Variable
  | _, [] => []
  | argIndex, arg :: rest =>
      callArguments attributionDecl argIndex arg ++
        callArgumentsFrom attributionDecl (argIndex + 1) rest

/-- `write_native_method_call`. -/
def writeNativeMethodCall (methodName : String) (signature : Signature)
    (attributionDecl : AtomDecl) (argIndex : Int) : MethodCall :=
  ⟨methodName, .code :: callArgumentsFrom attributionDecl argIndex signature⟩

/-- The iteration of `write_native_stats_write_non_chained_methods` for one
signature, whose first two entries form the attribution node. -/
def writeNativeStatsWriteNonChainedMethod (attributionDecl : AtomDecl)
    (signature : Signature) : Method :=
  let newSignature := .attributionChain :: signature.drop 2
  { name := "stats_write_non_chained"
    parameters := writeNativeMethodSignature [] signature attributionDecl false
    body := .forward
      [⟨"const int32_t*", .chain (uidName attributionDecl), .addressOf (.arg 1)⟩,
        ⟨"const size_t", .chainLength (uidName attributionDecl), .size 1⟩,
        ⟨"const std::vector<char const*>", .chain (tagName attributionDecl),
          .vectorOf 1 (.arg 2)⟩]
      (writeNativeMethodCall "stats_write" newSignature attributionDecl 2) }

/-- `write_native_stats_write_non_chained_methods`. -/
def writeNativeStatsWriteNonChainedMethods (attributionDecl : AtomDecl)
    (signatureInfoMap : SignatureInfoMap) : List Method :=
  signatureInfoMap.toList.map fun entry =>
    writeNativeStatsWriteNonChainedMethod attributionDecl entry.1

/-- `write_stats_log_cpp`: the methods of the generated source. -/
def writeStatsLogCpp (constants : AnnotationIdConstants) (atoms : Atoms)
    (attributionDecl : AtomDecl) (minApiLevel : Int) (bootstrap : Bool) :
    Except WriterError (List Method) :=
  (writeNativeStatsWriteMethods constants attributionDecl minApiLevel bootstrap
      atoms.signatureInfoMap).bind fun pushed =>
    if bootstrap then
      .ok pushed
    else
      (writeNativeBuildStatsEventMethods constants attributionDecl minApiLevel
          atoms.pulledAtomsSignatureInfoMap).map fun pulled =>
        pushed ++ writeNativeStatsWriteNonChainedMethods attributionDecl
          atoms.nonChainedSignatureInfoMap ++ pulled

end StatsLogApiGen.Native
