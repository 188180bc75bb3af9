import StatsLogApiGen.Native.Writer
import StatsLogApiGen.Writer.Parameters

/-!
# Running native methods

The calling convention of a generated C++ method, the operations its calls
perform on an event, and the theorem that the body issues the event of the atom
it is called for.
-/

namespace StatsLogApiGen.Native

open Std
open StatsLogApiGen.Container
open StatsLogApiGen.Collation
open StatsLogApiGen.Program
open StatsLogApiGen.Writer

/-! ## Calls of generated methods -/

/-- The values that a caller passes for one argument. -/
def argumentValues : Argument → List Value
  | .attributionChain uids tags =>
      [.argument (.intArray uids), .size uids.length, .argument (.stringArray tags)]
  | .booleanArray values => [.argument (.booleanArray values), .size values.length]
  | argument => [.argument argument]

/-- How arguments are passed to a method that is not for vendor atoms. -/
def convention : Convention where
  names argIndex type :=
    (nativeArgParameters attributionDecl false argIndex type).map Parameter.name
  values := argumentValues

theorem convention_names_of_ne {type : JavaType} (argIndex : Int)
    (notChain : type ≠ .attributionChain) :
    convention.names argIndex type =
      .arg argIndex :: if type = .booleanArray then [.argLength argIndex] else [] := by
  change ((nativeArgParameters attributionDecl false argIndex type).map Parameter.name) = _
  rw [nativeArgParameters, if_neg notChain]
  by_cases isBooleans : type = .booleanArray <;> simp [isBooleans]

theorem convention_names_chain (argIndex : Int) :
    convention.names argIndex .attributionChain =
      [.chain "uid", .chainLength "uid", .chain "tag"] := by
  rfl

theorem convention_valid : convention.Valid where
  lengths argIndex argument := by
    cases argument <;> rfl
  distinct argIndex type := by
    by_cases isChain : type = .attributionChain
    · subst isChain
      rw [convention_names_chain]
      decide
    · rw [convention_names_of_ne argIndex isChain]
      split <;> simp
  owner argIndex type notChain := by
    rw [convention_names_of_ne argIndex notChain]
    split <;> simp [Variable.argIndex?]
  chain argIndex := by
    rw [convention_names_chain]
    simp [Variable.argIndex?, Variable.isArgument]
  argument argIndex argument notChain := by
    rw [convention_names_of_ne argIndex notChain]
    cases argument <;> first | exact absurd rfl notChain | simp [convention, argumentValues]

/-- The names of the parameters are the ones of the convention. -/
theorem nativeSignatureParameters_names (argIndex : Int) (signature : Signature) :
    (nativeSignatureParameters attributionDecl false argIndex signature).map Parameter.name =
      convention.namesFrom argIndex signature := by
  induction signature generalizing argIndex with
  | nil => rfl
  | cons arg rest ih =>
      rw [nativeSignatureParameters, List.map_append, ih]
      rfl

/-- The constants that a generated source sees besides the atom codes: those of its
header up to R, and those of the platform header that it includes above R. -/
def visibleConstants (constants : AnnotationIdConstants) (platform : Platform)
    (minApiLevel : Int) (name : String) : Option Int :=
  if minApiLevel ≤ apiR then (writeNativeAnnotationConstants constants).lookup name
  else platform name

/-- The frame of a call: the values are bound to the parameters by position. -/
def frame (atoms : Atoms) (constants : String → Option Int) (method : Method)
    (values : List Value) : Frame where
  bindings := (method.parameters.map Parameter.name).zip values
  atomConstants := atomConstants atoms
  constants := constants
  comparable := cppComparable

/-! ## Operations -/

/-- The operation that a call performs.  The number of nodes that is passed with an attribution
chain is not part of the operation; `passed` cuts the chain to it. -/
def EventMethod.perform (frame : Frame) : EventMethod → Except Stuck EventOp
  | .setAtomId => frame.code.map .setAtomId
  | .writeAttributionChain uids uidsLength tags =>
      (frame.argumentOf .intArray uids).bind fun uidArray =>
        (frame.size uidsLength).bind fun _ =>
          (frame.argumentOf .stringArray tags).bind fun tagArray =>
            match uidArray, tagArray with
            | .intArray uids, .stringArray tags => .ok (.write (.attributionChain uids tags))
            | _, _ => .error .mistyped
  | .writeByteArray arg => (frame.argumentOf .byteArray arg).map .write
  | .writeBool arg => (frame.argumentOf .boolean arg).map .write
  | .writeInt32 arg => (frame.argumentOf .int arg).map .write
  | .writeFloat arg => (frame.argumentOf .float arg).map .write
  | .writeInt64 arg => (frame.argumentOf .long arg).map .write
  | .writeString arg => (frame.argumentOf .string arg).map .write
  | .writeBoolArray arg argLength =>
      (frame.size argLength).bind fun _ => (frame.argumentOf .booleanArray arg).map .write
  | .writeInt32Array arg => (frame.argumentOf .intArray arg).map .write
  | .writeFloatArray arg => (frame.argumentOf .floatArray arg).map .write
  | .writeInt64Array arg => (frame.argumentOf .longArray arg).map .write
  | .writeStringArray arg => (frame.argumentOf .stringArray arg).map .write
  | .addAnnotationInt32 annotationId value =>
      (frame.constant annotationId).bind fun annotationId =>
        (frame.operand value).map fun value => .addAnnotationInt32 annotationId value
  | .addAnnotationBool annotationId value =>
      (frame.constant annotationId).map fun annotationId => .addAnnotationBool annotationId value

/-- The calls on an event of the given class. -/
def recorder (receiver : EventClass) (frame : Frame) :
    Recorder Condition EventCall EventOp Stuck where
  holds := frame.holds
  event call :=
    if call.receiver = receiver then call.method.perform frame else .error .mistyped

/-- The operations on the event of a body that has one. -/
def Body.events (frame : Frame) : Body → Except Stuck (List EventOp)
  | .statsEventCompat code => record (recorder .statsEventCompat frame) (.block code)
  | .aStatsEvent code => record (recorder .aStatsEvent frame) (.block code)
  | .statsEventList code => record (recorder .aStatsEvent frame) (.block code)
  | .bootstrap _ => .error .noEvent
  | .forward .. => .error .noEvent

/-- The class of the event that a body builds. -/
def Body.eventClass? : Body → Option EventClass
  | .statsEventCompat _ => some .statsEventCompat
  | .aStatsEvent _ | .statsEventList _ => some .aStatsEvent
  | .bootstrap _ | .forward .. => none

/-- The operation that an event of a class performs.  An `AStatsEvent` takes the number of nodes
of a chain as a `uint8_t`, and so many of each array. -/
def EventClass.passed : EventClass → EventOp → EventOp
  | .aStatsEvent, .write (.attributionChain uids tags) =>
      .write (.attributionChain (uids.take (uids.length % 256)) (tags.take (uids.length % 256)))
  | _, op => op

def Body.passed (body : Body) (op : EventOp) : EventOp :=
  match body.eventClass? with
  | some eventClass => eventClass.passed op
  | none => op

/-- The values that a caller of a method passes. -/
def Method.values (method : Method) (code : Int) (arguments : List Argument) : List Value :=
  let values := .code code :: arguments.flatMap argumentValues
  match method.body with
  | .statsEventList _ => .eventList :: values
  | _ => values

/-- What a call of a method does to its event. -/
def Method.call (method : Method) (atoms : Atoms) (constants : AnnotationIdConstants)
    (platform : Platform) (minApiLevel code : Int) (arguments : List Argument) :
    Except Stuck (List EventOp) :=
  method.body.events (frame atoms (visibleConstants constants platform minApiLevel) method
    (method.values code arguments))

/-- What a call of a method leaves in its event. -/
def Method.log (method : Method) (atoms : Atoms) (constants : AnnotationIdConstants)
    (platform : Platform) (minApiLevel code : Int) (arguments : List Argument) :
    Except Stuck (List EventOp) :=
  (method.call atoms constants platform minApiLevel code arguments).map fun ops =>
    ops.map method.body.passed

/-- The nodes of a chain can be counted, and each has a tag. -/
def CountsNodes : Argument → Prop
  | .attributionChain uids tags => uids.length < 256 ∧ tags.length = uids.length
  | _ => True

instance : DecidablePred CountsNodes
  | .attributionChain .. => inferInstanceAs (Decidable (_ ∧ _))
  | .boolean _ | .int _ | .long _ | .float _ | .string _ | .byteArray _ | .booleanArray _
  | .intArray _ | .longArray _ | .floatArray _ | .stringArray _ => .isTrue trivial

theorem Body.passed_eq_self (body : Body) {op : EventOp}
    (counted : ∀ argument, op = .write argument → CountsNodes argument) :
    body.passed op = op := by
  rw [passed]
  split
  · rename_i eventClass _
    cases op with
    | write argument =>
        cases argument with
        | attributionChain uids tags =>
            obtain ⟨few, tagged⟩ := counted _ rfl
            cases eventClass with
            | aStatsEvent =>
                rw [EventClass.passed, Nat.mod_eq_of_lt few, List.take_length, ← tagged,
                  List.take_length]
            | statsEventCompat => rfl
        | _ => cases eventClass <;> rfl
    | _ => cases eventClass <;> rfl
  · rfl

/-- A call whose chains can be counted leaves all of its operations. -/
theorem Method.log_eq {method : Method} {atoms : Atoms} {constants : AnnotationIdConstants}
    {platform : Platform} {minApiLevel code : Int} {arguments : List Argument}
    {ops : List EventOp}
    (called : method.call atoms constants platform minApiLevel code arguments = .ok ops)
    (counted : ∀ argument, .write argument ∈ ops → CountsNodes argument) :
    method.log atoms constants platform minApiLevel code arguments = .ok ops := by
  have same : ops.map method.body.passed = ops := by
    conv_rhs => rw [← List.map_id ops]
    apply List.map_congr_left
    rintro op member
    exact method.body.passed_eq_self fun argument isWrite => counted argument (isWrite ▸ member)
  rw [log, called, Except.map, same]

/-! ## Annotations -/

theorem lookup_writeNativeAnnotationConstants (annotationId : AnnotationId) :
    (writeNativeAnnotationConstants
      (getAnnotationIdConstants annotationConstantNamePrefix)).lookup
        (annotationConstantNamePrefix ++ annotationIdName annotationId) =
      some annotationId.value := by
  cases annotationId <;> decide

/-- The constant that is printed for an annotation id denotes the id. -/
theorem visibleConstants_annotationId {platform : Platform}
    (declares : platform.DeclaresAnnotations "ASTATSLOG_") (minApiLevel : Int)
    (annotationId : AnnotationId) :
    visibleConstants (getAnnotationIdConstants annotationConstantNamePrefix) platform
        minApiLevel
        (constantPrefix minApiLevel ++
          (getAnnotationIdConstants annotationConstantNamePrefix annotationId).name) =
      some annotationId.value := by
  rw [visibleConstants, constantPrefix]
  by_cases above : minApiLevel > apiR
  · rw [if_pos above, if_neg (by omega)]
    exact declares.annotationId annotationId
  · rw [if_neg above, if_pos (by omega), String.empty_append]
    exact lookup_writeNativeAnnotationConstants annotationId

/-- The restriction categories with a constant for their name: the header has none. -/
def IsDeclaredCategory (minApiLevel category : Int) : Prop :=
  IsNamedCategory category ∧ apiR < minApiLevel

/-- The constant that is printed for a declared category denotes the category. -/
theorem visibleConstants_category {platform : Platform}
    (declares : platform.DeclaresAnnotations "ASTATSLOG_") {minApiLevel category : Int}
    (declared : IsDeclaredCategory minApiLevel category) :
    visibleConstants (getAnnotationIdConstants annotationConstantNamePrefix) platform
        minApiLevel (constantPrefix minApiLevel ++ getRestrictionCategoryStr category) =
      some category := by
  rw [visibleConstants, constantPrefix, if_pos declared.2, if_neg (by have := declared.2; omega)]
  exact declares.named declared.1

section Issues

variable {platform : Platform} (declares : platform.DeclaresAnnotations "ASTATSLOG_")
  (receiver : EventClass) (minApiLevel : Int) {frame : Frame}
  (scope : frame.constants = visibleConstants
    (getAnnotationIdConstants annotationConstantNamePrefix) platform minApiLevel)

include declares scope

theorem constant_annotationId (annotationId : AnnotationId) :
    frame.constant (constantPrefix minApiLevel ++
      (getAnnotationIdConstants annotationConstantNamePrefix annotationId).name) =
      .ok annotationId.value :=
  Frame.constant_eq (scope ▸ visibleConstants_annotationId declares minApiLevel annotationId)

/-- What `write_annotations` prints issues the annotations. -/
theorem issuesAnnotations :
    IssuesAnnotations (recorder receiver frame) (annotationTemplates receiver minApiLevel)
      (getAnnotationIdConstants annotationConstantNamePrefix) := by
  have annotation := constant_annotationId declares minApiLevel scope
  have int (annotationId : AnnotationId) (value : Int) :
      (recorder receiver frame).event
          ((annotationTemplates receiver minApiLevel).int
            (getAnnotationIdConstants annotationConstantNamePrefix annotationId) value) =
        .ok (.addAnnotationInt32 annotationId.value value) := by
    simp [recorder, annotationTemplates, EventMethod.perform, annotation, Frame.operand,
      Except.bind, Except.map]
  constructor
  · exact int
  · intro annotationId value
    simp [recorder, annotationTemplates, EventMethod.perform, annotation, Except.map]
  · exact int .triggerStateReset

/-- What is printed for a declared category issues it. -/
theorem issuesCategories :
    IssuesCategories (recorder receiver frame) (annotationTemplates receiver minApiLevel)
      (getAnnotationIdConstants annotationConstantNamePrefix)
      (IsDeclaredCategory minApiLevel) := by
  intro category declared
  have annotation := constant_annotationId declares minApiLevel scope .restrictionCategory
  have named : frame.constant (constantPrefix minApiLevel ++
      getRestrictionCategoryStr category) = .ok category :=
    Frame.constant_eq (scope ▸ visibleConstants_category declares declared)
  simp [recorder, annotationTemplates, EventMethod.perform, annotation, named, Frame.operand,
    Except.bind, Except.map]

end Issues

/-! ## Writes -/

section Writes

variable {frame : Frame} {argIndex : Int} {argument : Argument}
  {written : List (Code Condition EventCall)}

/-- A call that writes an argument under its own type performs the write. -/
theorem emits_write {receiver : EventClass} {method : EventMethod}
    (performs : method.perform frame = .ok (.write argument)) :
    Emits (recorder receiver frame) (.block [.call ⟨receiver, method⟩]) [.write argument] := by
  apply Emits.singleton
  apply emits_call
  change (if receiver = receiver then method.perform frame else _) = _
  rw [if_pos rfl, performs]

/-- A chain is bound as two arrays and the length of the first. -/
theorem argumentOf_chain {uids : List (BitVec 32)} {tags : List String}
    (binds : convention.Binds frame.bindings argIndex (.attributionChain uids tags)) :
    frame.argumentOf .intArray (.chain "uid") = .ok (.intArray uids) ∧
      frame.size (.chainLength "uid") = .ok uids.length ∧
      frame.argumentOf .stringArray (.chain "tag") = .ok (.stringArray tags) := by
  have bound : ∀ pair ∈ [(Variable.chain "uid", Value.argument (.intArray uids)),
      (.chainLength "uid", .size uids.length), (.chain "tag", .argument (.stringArray tags))],
      frame.bindings.lookup pair.1 = some pair.2 := binds
  simp only [List.forall_mem_cons] at bound
  rcases bound with ⟨uidsBound, lengthBound, tagsBound, -⟩
  exact ⟨Frame.argumentOf_eq uidsBound, Frame.size_eq lengthBound,
    Frame.argumentOf_eq tagsBound⟩

theorem perform_writeAttributionChain {uids : List (BitVec 32)} {tags : List String}
    (binds : convention.Binds frame.bindings argIndex (.attributionChain uids tags)) :
    (EventMethod.writeAttributionChain (.chain "uid") (.chainLength "uid")
      (.chain "tag")).perform frame = .ok (.write (.attributionChain uids tags)) := by
  rcases argumentOf_chain binds with ⟨uidArray, size, tagArray⟩
  rw [EventMethod.perform, uidArray, size, tagArray]
  rfl

theorem argumentOf_arg (binds : convention.Binds frame.bindings argIndex argument)
    (notChain : argument.type ≠ .attributionChain) :
    frame.argumentOf argument.type (.arg argIndex) = .ok argument :=
  Frame.argumentOf_eq (binds _ (convention_valid.argument argIndex argument notChain))

theorem size_argLength {values : List Bool}
    (binds : convention.Binds frame.bindings argIndex (.booleanArray values)) :
    frame.size (.argLength argIndex) = .ok values.length := by
  have bound : ∀ pair ∈ [(Variable.arg argIndex, Value.argument (.booleanArray values)),
      (.argLength argIndex, .size values.length)],
      frame.bindings.lookup pair.1 = some pair.2 := binds
  simp only [List.forall_mem_cons] at bound
  exact Frame.size_eq bound.2.1

/-- The switch of the `AStatsEvent` body writes the argument. -/
theorem emits_writeNativeArg {minApiLevel : Int}
    (binds : convention.Binds frame.bindings argIndex argument)
    (isWritten : writeNativeArg attributionDecl minApiLevel argIndex argument.type =
      .ok written) :
    Emits (recorder .aStatsEvent frame) (.block written) [.write argument] := by
  unfold writeNativeArg at isWritten
  split at isWritten
  · contradiction
  · cases argument with
    | attributionChain uids tags =>
        cases isWritten
        exact emits_write (perform_writeAttributionChain binds)
    | booleanArray values =>
        cases isWritten
        apply emits_write
        rw [EventMethod.perform, size_argLength binds]
        exact congrArg (Except.map _) (argumentOf_arg binds nofun)
    | _ =>
        cases isWritten
        apply emits_write
        exact congrArg (Except.map _) (argumentOf_arg binds nofun)

/-- The switch of the `StatsEventCompat` body writes the argument. -/
theorem emits_writeCompatArg
    (binds : convention.Binds frame.bindings argIndex argument)
    (isWritten : writeCompatArg attributionDecl argIndex argument.type = .ok written) :
    Emits (recorder .statsEventCompat frame) (.block written) [.write argument] := by
  cases argument with
  | attributionChain uids tags =>
      cases isWritten
      exact emits_write (perform_writeAttributionChain binds)
  | boolean _ | int _ | long _ | float _ | string _ | byteArray _ =>
      cases isWritten
      apply emits_write
      exact congrArg (Except.map _) (argumentOf_arg binds nofun)
  | booleanArray _ | intArray _ | longArray _ | floatArray _ | stringArray _ =>
      contradiction

end Writes

/-! ## Success -/

theorem writeNativeArg_isOk (minApiLevel argIndex : Int) {type : JavaType}
    (member : type ∈ signatureTypes) :
    (writeNativeArg attributionDecl minApiLevel argIndex type).isOk =
      (decide (minApiLevel ≥ apiT) || !type.isRepeatedField) := by
  by_cases below : minApiLevel < apiT
  · rw [decide_eq_false (by omega)]
    cases type <;> first
      | exact absurd member (by decide)
      | simp [writeNativeArg, below, JavaType.isRepeatedField, Except.isOk, Except.toBool]
  · rw [decide_eq_true (by omega)]
    cases type <;> first
      | exact absurd member (by decide)
      | simp [writeNativeArg, below, Except.isOk, Except.toBool]

theorem writeCompatArg_isOk (argIndex : Int) {type : JavaType}
    (member : type ∈ signatureTypes) :
    (writeCompatArg attributionDecl argIndex type).isOk = !type.isRepeatedField := by
  cases type <;> first | rfl | exact absurd member (by decide)

section Success

variable (constants : AnnotationIdConstants) {signature : Signature}
  (accepted : ∀ type ∈ signature, type ∈ signatureTypes) (minApiLevel : Int)
  (declSets : FieldNumberToAtomDeclSet)

include accepted

/-- An `AStatsEvent` body can be written from T on, and before for signatures
without repeated types. -/
theorem writeNativeMethodBody_isOk :
    (writeNativeMethodBody constants attributionDecl minApiLevel signature declSets).isOk =
      (decide (minApiLevel ≥ apiT) || !containsRepeatedField signature) := by
  have loop (annotations : Int → List (Code Condition EventCall)) :
      (writeArguments (writeNativeArg attributionDecl minApiLevel) annotations 1
        signature).isOk = (decide (minApiLevel ≥ apiT) || !containsRepeatedField signature) := by
    rw [← all_or_not_repeated]
    apply writeArguments_isOk
    intro argIndex type member
    exact writeNativeArg_isOk minApiLevel argIndex (accepted type member)
  rw [writeNativeMethodBody, isOk_map, loop]

/-- A `StatsEventCompat` body can be written for signatures without repeated
types. -/
theorem writeCompatBody_isOk :
    (writeCompatBody constants attributionDecl minApiLevel signature declSets).isOk =
      !containsRepeatedField signature := by
  have loop (annotations : Int → List (Code Condition EventCall)) :
      (writeArguments (writeCompatArg attributionDecl) annotations 1 signature).isOk =
        !containsRepeatedField signature := by
    rw [← Bool.false_or (!containsRepeatedField signature), ← all_or_not_repeated]
    apply writeArguments_isOk
    intro argIndex type member
    exact writeCompatArg_isOk argIndex (accepted type member)
  rw [writeCompatBody, isOk_map, loop]

/-- A `stats_write` can be written from T on, and before for signatures without repeated
types. -/
theorem writeNativeStatsWriteMethod_isOk :
    (writeNativeStatsWriteMethod constants attributionDecl minApiLevel false
      (signature, declSets)).isOk =
        (decide (minApiLevel ≥ apiT) || !containsRepeatedField signature) := by
  rw [writeNativeStatsWriteMethod, isOk_map, if_neg (by simp)]
  by_cases isQ : minApiLevel = apiQ
  · rw [if_pos isQ, isOk_map, writeCompatBody_isOk _ accepted,
      decide_eq_false (by rw [isQ]; decide), Bool.false_or]
  · rw [if_neg isQ, isOk_map, writeNativeMethodBody_isOk _ accepted]

theorem writeNativeBuildStatsEventMethod_isOk :
    (writeNativeBuildStatsEventMethod constants attributionDecl minApiLevel
      (signature, declSets)).isOk =
        (decide (minApiLevel ≥ apiT) || !containsRepeatedField signature) := by
  rw [writeNativeBuildStatsEventMethod, isOk_map, writeNativeMethodBody_isOk _ accepted]

end Success

/-! ## Events -/

section Events

variable {atoms : Atoms} {declSets : FieldNumberToAtomDeclSet} {decl : AtomDecl}
  {platform : Platform} {minApiLevel : Int} {frame : Frame} {arguments : List Argument}
  {code : List (Code Condition EventCall)}

/-- A frame in which a body runs for an atom with arguments. -/
structure RunsWith (frame : Frame) (atoms : Atoms) (platform : Platform) (minApiLevel : Int)
    (decl : AtomDecl) (arguments : List Argument) : Prop where
  runsAs : RunsAs frame atoms decl
  constants : frame.constants = visibleConstants
    (getAnnotationIdConstants annotationConstantNamePrefix) platform minApiLevel
  comparable : frame.comparable = cppComparable
  binds : ∀ (index : Nat) argument, arguments[index]? = some argument →
    convention.Binds frame.bindings (1 + index) argument

/-- What the methods of a source can name and compare for a declaration. -/
abbrev Issues (minApiLevel : Int) (decl : AtomDecl) : Prop :=
  Issuable 0 cppComparable (IsDeclaredCategory minApiLevel) decl

theorem writeNativeMethodBody_record (declares : platform.DeclaresAnnotations "ASTATSLOG_")
    (logged : Logged atoms declSets decl) (issuable : Issues minApiLevel decl)
    (typed : arguments.map Argument.type = decl.signature)
    (runs : RunsWith frame atoms platform minApiLevel decl arguments)
    (printed : writeNativeMethodBody (getAnnotationIdConstants annotationConstantNamePrefix)
      attributionDecl minApiLevel decl.signature declSets = .ok code) :
    record (recorder .aStatsEvent frame) (.block code) = .ok (atomEvent decl arguments) := by
  obtain ⟨loop, loopPrinted, rfl⟩ := map_eq_ok_iff.mp printed
  apply Emits.record_eq
  apply emits_body rfl (issuesAnnotations declares .aStatsEvent minApiLevel runs.constants)
    (issuesCategories declares .aStatsEvent minApiLevel runs.constants) logged runs.runsAs
    (runs.comparable ▸ issuable) (fun _ => by rw [runs.comparable]; rfl) convention_valid typed
    runs.binds _ _ loopPrinted
  · simp [recorder, EventMethod.perform, Frame.code_eq runs.runsAs.code, Except.map]
  · intro argIndex argument written binds isWritten
    exact emits_writeNativeArg binds isWritten

theorem writeCompatBody_record (declares : platform.DeclaresAnnotations "ASTATSLOG_")
    (logged : Logged atoms declSets decl) (issuable : Issues minApiLevel decl)
    (typed : arguments.map Argument.type = decl.signature)
    (runs : RunsWith frame atoms platform minApiLevel decl arguments)
    (printed : writeCompatBody (getAnnotationIdConstants annotationConstantNamePrefix)
      attributionDecl minApiLevel decl.signature declSets = .ok code) :
    record (recorder .statsEventCompat frame) (.block code) =
      .ok (atomEvent decl arguments) := by
  obtain ⟨loop, loopPrinted, rfl⟩ := map_eq_ok_iff.mp printed
  apply Emits.record_eq
  apply emits_body rfl
    (issuesAnnotations declares .statsEventCompat minApiLevel runs.constants)
    (issuesCategories declares .statsEventCompat minApiLevel runs.constants) logged runs.runsAs
    (runs.comparable ▸ issuable) (fun _ => by rw [runs.comparable]; rfl) convention_valid typed
    runs.binds _ _ loopPrinted
  · simp [recorder, EventMethod.perform, Frame.code_eq runs.runsAs.code, Except.map]
  · intro argIndex argument written binds isWritten
    exact emits_writeCompatArg binds isWritten

/-- The body on an `AStatsEvent` is generated unless an array is logged below T. -/
theorem exists_nativeMethodBody (logged : Logged atoms declSets decl)
    (supported : minApiLevel ≥ apiT ∨ containsRepeatedField decl.signature = false) :
    ∃ code, writeNativeMethodBody (getAnnotationIdConstants annotationConstantNamePrefix)
      attributionDecl minApiLevel decl.signature declSets = .ok code := by
  apply isOk_iff_exists.mp
  rw [writeNativeMethodBody_isOk _ (mem_signatureTypes logged.accepted)]
  simpa using supported

/-- The parameters of a method after the ones that its prefix names. -/
theorem writeNativeMethodSignature_names (before : List Parameter) (signature : Signature) :
    (writeNativeMethodSignature before signature attributionDecl false).map Parameter.name =
      before.map Parameter.name ++ .code :: convention.namesFrom 1 signature := by
  rw [writeNativeMethodSignature, List.map_append, List.map_cons,
    nativeSignatureParameters_names]

section Bindings

variable (decl) {signature : Signature} (accepted : AcceptedSignature signature)
  (typed : arguments.map Argument.type = signature) {method : Method}

include accepted typed

/-- A call of a pushed method binds the code and the arguments. -/
theorem runsWith_pushed
    (parameters : method.parameters =
      writeNativeMethodSignature [] signature attributionDecl false) :
    RunsWith
      (Native.frame atoms
        (visibleConstants (getAnnotationIdConstants annotationConstantNamePrefix) platform
          minApiLevel) method (.code decl.code :: arguments.flatMap argumentValues))
      atoms platform minApiLevel decl arguments := by
  have bindings : (method.parameters.map Parameter.name).zip
      (.code decl.code :: arguments.flatMap argumentValues) =
        convention.bind decl.code signature arguments := by
    rw [parameters, writeNativeMethodSignature_names]
    rfl
  constructor
  · exact ⟨by rw [Native.frame, bindings]; rfl, rfl⟩
  · rfl
  · rfl
  · intro index argument found
    rw [Native.frame, bindings]
    exact Convention.bind_binds convention_valid accepted typed found

/-- A call of a pulled method binds the list of events before the code. -/
theorem runsWith_pulled
    (parameters : method.parameters = writeNativeMethodSignature
      [⟨"AStatsEventList*", .pulledData⟩] signature attributionDecl false) :
    RunsWith
      (Native.frame atoms
        (visibleConstants (getAnnotationIdConstants annotationConstantNamePrefix) platform
          minApiLevel) method
        (.eventList :: .code decl.code :: arguments.flatMap argumentValues))
      atoms platform minApiLevel decl arguments := by
  have bindings : (method.parameters.map Parameter.name).zip
      (.eventList :: .code decl.code :: arguments.flatMap argumentValues) =
        (.pulledData, .eventList) :: convention.bind decl.code signature arguments := by
    rw [parameters, writeNativeMethodSignature_names]
    rfl
  constructor
  · exact ⟨by rw [Native.frame, bindings]; rfl, rfl⟩
  · rfl
  · rfl
  · intro index argument found
    rw [Native.frame, bindings]
    exact (Convention.bind_binds convention_valid accepted typed found).cons
      convention_valid rfl _

end Bindings

section Calls

variable (logged : Logged atoms declSets decl)
  (typed : arguments.map Argument.type = decl.signature)

include logged typed

variable (declares : platform.DeclaresAnnotations "ASTATSLOG_")

include declares

/-- For all levels but Q the generated `stats_write` issues the event of the atom on an
`AStatsEvent`. -/
theorem statsWrite_aStatsEvent (issuable : Issues minApiLevel decl) (level : minApiLevel ≠ apiQ)
    (supported : minApiLevel ≥ apiT ∨ containsRepeatedField decl.signature = false) :
    ∃ method, writeNativeStatsWriteMethod
        (getAnnotationIdConstants annotationConstantNamePrefix) attributionDecl minApiLevel
        false (decl.signature, declSets) = .ok method ∧
      method.body.eventClass? = some .aStatsEvent ∧
      method.call atoms (getAnnotationIdConstants annotationConstantNamePrefix) platform
        minApiLevel decl.code arguments = .ok (atomEvent decl arguments) := by
  obtain ⟨code, printed⟩ := exists_nativeMethodBody logged supported
  refine ⟨⟨"stats_write", writeNativeMethodSignature [] decl.signature attributionDecl false,
    .aStatsEvent code⟩, ?_, rfl, ?_⟩
  · rw [writeNativeStatsWriteMethod, if_neg (by simp), if_neg level, printed]
    rfl
  · exact writeNativeMethodBody_record declares logged issuable typed
      (runsWith_pushed decl logged.accepted typed rfl) printed

/-- For Q the generated `stats_write` issues the event of the atom on a
`StatsEventCompat`. -/
theorem statsWrite_statsEventCompat (issuable : Issues apiQ decl)
    (notRepeated : containsRepeatedField decl.signature = false) :
    ∃ method, writeNativeStatsWriteMethod
        (getAnnotationIdConstants annotationConstantNamePrefix) attributionDecl apiQ
        false (decl.signature, declSets) = .ok method ∧
      method.body.eventClass? = some .statsEventCompat ∧
      method.call atoms (getAnnotationIdConstants annotationConstantNamePrefix) platform
        apiQ decl.code arguments = .ok (atomEvent decl arguments) := by
  have isOk : (writeCompatBody (getAnnotationIdConstants annotationConstantNamePrefix)
      attributionDecl apiQ decl.signature declSets).isOk = true := by
    rw [writeCompatBody_isOk _ (mem_signatureTypes logged.accepted), notRepeated]
    rfl
  obtain ⟨code, printed⟩ := isOk_iff_exists.mp isOk
  refine ⟨⟨"stats_write", writeNativeMethodSignature [] decl.signature attributionDecl false,
    .statsEventCompat code⟩, ?_, rfl, ?_⟩
  · rw [writeNativeStatsWriteMethod, if_neg (by simp), if_pos rfl, printed]
    rfl
  · exact writeCompatBody_record declares logged issuable typed
      (runsWith_pushed decl logged.accepted typed rfl) printed

/-- The generated `addAStatsEvent` issues the event of the atom. -/
theorem addAStatsEvent_events (issuable : Issues minApiLevel decl)
    (supported : minApiLevel ≥ apiT ∨ containsRepeatedField decl.signature = false) :
    ∃ method, writeNativeBuildStatsEventMethod
        (getAnnotationIdConstants annotationConstantNamePrefix) attributionDecl minApiLevel
        (decl.signature, declSets) = .ok method ∧
      method.call atoms (getAnnotationIdConstants annotationConstantNamePrefix) platform
        minApiLevel decl.code arguments = .ok (atomEvent decl arguments) := by
  obtain ⟨code, printed⟩ := exists_nativeMethodBody logged supported
  refine ⟨⟨"addAStatsEvent", writeNativeMethodSignature [⟨"AStatsEventList*", .pulledData⟩]
    decl.signature attributionDecl false, .statsEventList code⟩, ?_, ?_⟩
  · rw [writeNativeBuildStatsEventMethod, printed]
    rfl
  · exact writeNativeMethodBody_record declares logged issuable typed
      (runsWith_pulled decl logged.accepted typed rfl) printed

end Calls

end Events

/-! ## The generated source -/

section Source

variable {constants : AnnotationIdConstants} {atoms : Atoms} {minApiLevel : Int}
  {methods : List Method} {method : Method}

/-- The methods of the source come from the three signature maps. -/
theorem mem_methods_iff
    (source : writeStatsLogCpp constants atoms attributionDecl minApiLevel false =
      .ok methods) :
    method ∈ methods ↔
      (∃ entry ∈ atoms.signatureInfoMap.toList, writeNativeStatsWriteMethod constants
        attributionDecl minApiLevel false entry = .ok method) ∨
      (∃ entry ∈ atoms.nonChainedSignatureInfoMap.toList,
        writeNativeStatsWriteNonChainedMethod attributionDecl entry.1 = method) ∨
      (∃ entry ∈ atoms.pulledAtomsSignatureInfoMap.toList, writeNativeBuildStatsEventMethod
        constants attributionDecl minApiLevel entry = .ok method) := by
  obtain ⟨pushed, pushedWritten, rest⟩ := bind_eq_ok_iff.mp source
  rw [if_neg (by simp)] at rest
  obtain ⟨pulled, pulledWritten, rfl⟩ := map_eq_ok_iff.mp rest
  rw [List.mem_append, List.mem_append, mem_of_mapM_eq_ok pushedWritten,
    mem_of_mapM_eq_ok pulledWritten, writeNativeStatsWriteNonChainedMethods, List.mem_map,
    or_assoc]

variable {signature : Signature} {declSets : FieldNumberToAtomDeclSet}

/-- The method of a pushed signature is part of the generated source. -/
theorem mem_writeStatsLogCpp (found : atoms.signatureInfoMap[signature]? = some declSets)
    (written : writeNativeStatsWriteMethod constants attributionDecl minApiLevel false
      (signature, declSets) = .ok method)
    (source : writeStatsLogCpp constants atoms attributionDecl minApiLevel false =
      .ok methods) : method ∈ methods :=
  (mem_methods_iff source).mpr
    (Or.inl ⟨_, ExtTreeMap.mem_toList_iff_getElem?_eq_some.mpr found, written⟩)

/-- The method of a pulled signature is part of the generated source. -/
theorem mem_writeStatsLogCpp_pulled
    (found : atoms.pulledAtomsSignatureInfoMap[signature]? = some declSets)
    (written : writeNativeBuildStatsEventMethod constants attributionDecl minApiLevel
      (signature, declSets) = .ok method)
    (source : writeStatsLogCpp constants atoms attributionDecl minApiLevel false =
      .ok methods) : method ∈ methods :=
  (mem_methods_iff source).mpr
    (Or.inr (Or.inr ⟨_, ExtTreeMap.mem_toList_iff_getElem?_eq_some.mpr found, written⟩))

end Source

end StatsLogApiGen.Native
