import StatsLogApiGen.Program.Transcript
import StatsLogApiGen.Rust.Agreement

/-!
# Whole attribution chains

The generated native methods and Rust functions pass an attribution chain as two arrays
with one number of nodes.  This file says for which arrays the number fits both.
-/

namespace StatsLogApiGen.Writer

/-- A call of `AStatsEvent_writeAttributionChain`: the arrays that its pointers are for, and
the number of nodes. -/
structure ChainCall where
  uids : List (BitVec 32)
  tags : List String
  nodeCount : Nat
  deriving DecidableEq, Repr

/-- The call passes all uids, and has a tag for each of them. -/
structure ChainCall.IsWhole (call : ChainCall) (uids : List (BitVec 32)) (tags : List String) :
    Prop where
  sameUids : call.uids = uids
  sameTags : call.tags = tags
  allNodes : call.nodeCount = uids.length
  withinTags : call.nodeCount ≤ tags.length

end StatsLogApiGen.Writer

/-! ## Native methods -/

namespace StatsLogApiGen.Native

open StatsLogApiGen.Container
open StatsLogApiGen.Collation
open StatsLogApiGen.Program
open StatsLogApiGen.Writer

/-- What a call passes to `AStatsEvent_writeAttributionChain`, if it is that call.  The
length is cast to `uint8_t`. -/
def EventCall.chainCall? (frame : Frame) (call : EventCall) : Except Stuck (Option ChainCall) :=
  match call.receiver, call.method with
  | .aStatsEvent, .writeAttributionChain uids uidsLength tags =>
      (frame.argumentOf .intArray uids).bind fun uidArray =>
        (frame.size uidsLength).bind fun count =>
          (frame.argumentOf .stringArray tags).bind fun tagArray =>
            match uidArray, tagArray with
            | .intArray uids, .stringArray tags => .ok (some ⟨uids, tags, count % 256⟩)
            | _, _ => .error .mistyped
  | _, _ => .ok none

/-- The calls for chains, where conditions have arbitrary values. -/
def chainRecorder (holds : Condition → Bool) (frame : Frame) :
    Recorder Condition EventCall (Option ChainCall) Stuck where
  holds condition := .ok (holds condition)
  event call := call.chainCall? frame

/-- The chains that a call of a method passes.  They depend on no constants. -/
def Method.chainCalls (method : Method) (holds : Condition → Bool) (code : Int)
    (arguments : List Argument) : List ChainCall :=
  let recorder :=
    chainRecorder holds (frame {} (fun _ => none) method (method.values code arguments))
  match method.body with
  | .statsEventCompat code | .aStatsEvent code | .statsEventList code =>
      visibleEvents recorder (.block code)
  | .bootstrap _ | .forward .. => []

section Chain

variable {frame : Frame} {holds : Condition → Bool} {uids : List (BitVec 32)}
  {tags : List String} {rest : List Argument} {constants : AnnotationIdConstants}
  {minApiLevel : Int} {declSets : FieldNumberToAtomDeclSet}
  {code : List (Code Condition EventCall)}

theorem chainCall?_writeAttributionChain {argIndex : Int}
    (binds : convention.Binds frame.bindings argIndex (.attributionChain uids tags)) :
    EventCall.chainCall? frame ⟨.aStatsEvent, .writeAttributionChain (.chain "uid")
      (.chainLength "uid") (.chain "tag")⟩ = .ok (some ⟨uids, tags, uids.length % 256⟩) := by
  rcases argumentOf_chain binds with ⟨uidArray, size, tagArray⟩
  simp only [EventCall.chainCall?, uidArray, size, tagArray]
  rfl

theorem annotationTemplates_chainCall? (receiver : EventClass) (minApiLevel : Int) :
    (annotationTemplates receiver minApiLevel).All
      fun call => call.chainCall? frame = .ok none := by
  constructor <;> intro constant value <;> cases receiver <;> rfl

/-- What is printed for an argument that is no chain passes none. -/
theorem writeNativeArg_silent {argIndex : Int} {type : JavaType} (isArgument : IsArgument type)
    {written : List (Code Condition EventCall)}
    (isWritten : writeNativeArg attributionDecl minApiLevel argIndex type = .ok written) :
    AllActions (fun call => call.chainCall? frame = .ok none) written := by
  unfold writeNativeArg at isWritten
  split at isWritten
  · contradiction
  · cases type <;> first
      | exact absurd isArgument id
      | (cases isWritten; exact allActions_call.mpr rfl)

/-- A body on an `AStatsEvent` passes the chain once. -/
theorem visibleEvents_nativeMethodBody {types : Signature}
    (areArguments : ∀ type ∈ types, IsArgument type)
    (binds : convention.Binds frame.bindings 1 (.attributionChain uids tags))
    (printed : writeNativeMethodBody constants attributionDecl minApiLevel
      (.attributionChain :: types) declSets = .ok code) :
    visibleEvents (chainRecorder holds frame) (.block code) =
      [⟨uids, tags, uids.length % 256⟩] := by
  rcases map_eq_ok_iff.mp printed with ⟨loop, loopPrinted, rfl⟩
  rcases writeArguments_cons_eq_ok loopPrinted with ⟨written, later, isWritten, laterPrinted, rfl⟩
  have annotations (argIndex : Int) : Silent (chainRecorder holds frame)
      (writeAnnotations .aStatsEvent constants minApiLevel argIndex declSets) :=
    allActions_declAnnotations (annotationTemplates_chainCall? _ _) _ _ _
  have laterSilent : Silent (chainRecorder holds frame) later :=
    allActions_writeArguments (fun _ type member _ typeWritten =>
      writeNativeArg_silent (areArguments type member) typeWritten) annotations laterPrinted
  have before : Silent (chainRecorder holds frame)
      (.call ⟨.aStatsEvent, .setAtomId⟩ ::
        writeAnnotations .aStatsEvent constants minApiLevel atomIdFieldNumber declSets) :=
    allActions_cons.mpr ⟨by simp [Code.actions, chainRecorder, EventCall.chainCall?],
      annotations _⟩
  have after := allActions_append.mpr ⟨annotations 1, laterSilent⟩
  unfold writeNativeArg at isWritten
  split at isWritten
  · contradiction
  · cases isWritten
    have passed : (chainRecorder holds frame).event ⟨.aStatsEvent, .writeAttributionChain
        (.chain "uid") (.chainLength "uid") (.chain "tag")⟩ =
          .ok (some ⟨uids, tags, uids.length % 256⟩) :=
      chainCall?_writeAttributionChain binds
    exact visibleEvents_of_event (fun condition => ⟨holds condition, rfl⟩) before passed
      (Silent.quiet after)

/-- A body on a `StatsEventCompat` passes no chain to an `AStatsEvent`. -/
theorem visibleEvents_compatBody {signature : Signature}
    (printed : writeCompatBody constants attributionDecl minApiLevel signature declSets =
      .ok code) :
    visibleEvents (chainRecorder holds frame) (.block code) = [] := by
  rcases map_eq_ok_iff.mp printed with ⟨loop, loopPrinted, rfl⟩
  have annotations (argIndex : Int) : Quiet (chainRecorder holds frame)
      (writeAnnotations .statsEventCompat constants minApiLevel argIndex declSets) :=
    Silent.quiet (allActions_declAnnotations (annotationTemplates_chainCall? _ _) _ _ _)
  have arguments : Quiet (chainRecorder holds frame) loop := by
    apply allActions_writeArguments _ annotations loopPrinted
    intro argIndex type _ written isWritten
    cases type <;> cases isWritten <;> exact allActions_call.mpr nofun
  have first : Quiet (chainRecorder holds frame) [.call ⟨.statsEventCompat, .setAtomId⟩] :=
    allActions_call.mpr nofun
  exact Quiet.visibleEvents_eq_nil
    (allActions_append.mpr ⟨first, allActions_append.mpr ⟨annotations _, arguments⟩⟩)

/-- The variables of a call: those of the method, and before them the list of a pulled one. -/
theorem binds_frame {before : List Writer.Parameter} (values : List Value) {method : Method}
    {atomCode : Int} {arguments : List Argument} {signature : Signature}
    (accepted : AcceptedSignature signature)
    (typed : arguments.map Argument.type = signature)
    (parameters : method.parameters =
      writeNativeMethodSignature before signature attributionDecl false)
    (passed : before.map Parameter.name = [] ∧ values = [] ∨
      before.map Parameter.name = [.pulledData] ∧ values = [.eventList])
    {index : Nat} {argument : Argument} (found : arguments[index]? = some argument) :
    convention.Binds (Native.frame {} (fun _ => none) method
      (values ++ .code atomCode :: arguments.flatMap argumentValues)).bindings (1 + index)
      argument := by
  have binds := @Convention.bind_binds convention atomCode signature arguments convention_valid
    accepted typed index argument found
  rw [Native.frame, parameters, writeNativeMethodSignature_names]
  rcases passed with ⟨isEmpty, rfl⟩ | ⟨isList, rfl⟩
  · rw [isEmpty]
    exact binds
  · rw [isList]
    exact binds.cons convention_valid rfl _

/-- The method for an atom passes its chain once, if its event is an `AStatsEvent`. -/
theorem chainCalls_nativeMethod {decl : AtomDecl} {method : Method} {atomCode : Int}
    (accepted : AcceptedSignature decl.signature)
    (typed : (Argument.attributionChain uids tags :: rest).map Argument.type = decl.signature)
    (written : Rust.nativeMethod constants minApiLevel decl declSets = .ok method) :
    method.chainCalls holds atomCode (.attributionChain uids tags :: rest) =
      if decl.atomType = .pushed ∧ minApiLevel = apiQ then []
      else [⟨uids, tags, uids.length % 256⟩] := by
  have areArguments := accepted.tail
  rw [← typed, List.map_cons, List.tail_cons] at areArguments
  have found : (Argument.attributionChain uids tags :: rest)[0]? =
      some (.attributionChain uids tags) := rfl
  rw [Rust.nativeMethod] at written
  cases kind : decl.atomType with
  | pushed =>
      rw [kind] at written
      rcases map_eq_ok_iff.mp written with ⟨body, bodyWritten, rfl⟩
      rw [if_neg (by decide)] at bodyWritten
      by_cases isQ : minApiLevel = apiQ
      · rw [if_pos isQ] at bodyWritten
        rcases map_eq_ok_iff.mp bodyWritten with ⟨code, printed, rfl⟩
        rw [if_pos ⟨rfl, isQ⟩]
        exact visibleEvents_compatBody printed
      · rw [if_neg isQ] at bodyWritten
        rcases map_eq_ok_iff.mp bodyWritten with ⟨code, printed, rfl⟩
        rw [if_neg fun both => isQ both.2]
        rw [← typed] at printed
        exact visibleEvents_nativeMethodBody areArguments
          (binds_frame [] accepted typed rfl (Or.inl ⟨rfl, rfl⟩) found) printed
  | pulled =>
      rw [kind] at written
      rcases map_eq_ok_iff.mp written with ⟨code, printed, rfl⟩
      rw [if_neg fun both => by cases both.1]
      rw [← typed] at printed
      exact visibleEvents_nativeMethodBody areArguments
        (binds_frame [.eventList] accepted typed rfl (Or.inr ⟨rfl, rfl⟩) found)
        printed

end Chain

end StatsLogApiGen.Native

/-! ## Rust functions -/

namespace StatsLogApiGen.Rust

open StatsLogApiGen.Container
open StatsLogApiGen.Collation
open StatsLogApiGen.Program
open StatsLogApiGen.Writer

/-- What a call passes to `AStatsEvent_writeAttributionChain`, if it is that call.  The
function returns early when a conversion fails. -/
def EventCall.chainCall? (frame : Frame) : EventCall → Except Halt (Option ChainCall)
  | .writeAttributionChain uids tags =>
      (total (frame.argumentOf .intArray uids.reads)).bind fun uidArray =>
        (total (frame.argumentOf .stringArray tags.reads)).bind fun tagArray =>
          match uidArray, tagArray with
          | .intArray uids, .stringArray tags =>
              (convertChain uids tags).map fun chain => some ⟨chain.1, chain.2, uids.length⟩
          | _, _ => .error (.stuck .mistyped)
  | .writeString field =>
      (total (frame.argumentOf .string field.reads)).bind fun argument =>
        match argument with
        | .string value => (convertString value).map fun _ => none
        | _ => .error (.stuck .mistyped)
  | _ => .ok none

/-- The calls for chains, where conditions have arbitrary values. -/
def chainRecorder (holds : Condition → Bool) (frame : Frame) :
    Recorder Condition EventCall (Option ChainCall) Halt where
  holds condition := .ok (holds condition)
  event call := call.chainCall? frame

/-- The chains that a call of a function passes.  They depend on no constants. -/
def Function.chainCalls (function : Function) (holds : Condition → Bool)
    (arguments : List Argument) : List ChainCall :=
  let recorder := chainRecorder holds (frame {} (getAnnotationIdConstants "") function
    (function.values arguments))
  match function.body with
  | .pushed code | .pulled code => visibleEvents recorder (.block code)
  | .forward _ => []

section Chain

variable {frame : Frame} {holds : Condition → Bool} {uids : List (BitVec 32)}
  {tags : List String} {rest : List Argument} {constants : AnnotationIdConstants}
  {minApiLevel : Int} {decl : AtomDecl} {code : List (Code Condition EventCall)}

theorem chainCall?_writeAttributionChain {argIndex : Int}
    (binds : plainConvention.Binds frame.bindings argIndex (.attributionChain uids tags)) :
    (EventCall.writeAttributionChain (chainName (uidName attributionDecl))
        (chainName (tagName attributionDecl))).chainCall? frame =
      (convertChain uids tags).map fun chain => some ⟨chain.1, chain.2, uids.length⟩ := by
  rcases argumentOf_chain binds with ⟨uidArray, tagArray⟩
  change ((total (frame.argumentOf .intArray (.chain "uid"))).bind fun _ =>
    (total (frame.argumentOf .stringArray (.chain "tag"))).bind _) = _
  rw [uidArray, tagArray]
  rfl

theorem writeAnnotations_silent (argIndex : Int) :
    Silent (chainRecorder holds frame) (writeAnnotations constants decl argIndex) := by
  rw [writeAnnotations]
  split
  · exact allActions_nil
  · apply allActions_annotationSet
    constructor <;> intro constant value <;> rfl

/-- What is printed for a field that is no chain passes none. -/
theorem writeField_quiet {argIndex : Int} {atomField : AtomField}
    (isArgument : IsArgument (lowered atomField.javaType))
    {written : List (Code Condition EventCall)}
    (isWritten : writeField attributionDecl argIndex atomField = .ok written) :
    Quiet (chainRecorder holds frame) written := by
  rcases atomField with ⟨name, javaType, enumValues, enumTypeName⟩
  cases javaType with
  | attributionChain => exact absurd isArgument id
  | string =>
      cases isWritten
      have quiet (field : Name) : ∀ event,
          (chainRecorder holds frame).event (.writeString field) ≠ .ok (some event) := by
        intro event passed
        rcases bind_eq_ok_iff.mp passed with ⟨argument, -, converted⟩
        cases argument with
        | string value =>
            rcases map_eq_ok_iff.mp converted with ⟨_, -, isNone⟩
            cases isNone
        | _ => cases converted
      exact allActions_call.mpr (quiet _)
  | _ => cases isWritten <;> exact allActions_call.mpr nofun

/-- The call for the chain of an atom. -/
def chainCall : EventCall :=
  .writeAttributionChain (chainName (uidName attributionDecl)) (chainName (tagName attributionDecl))

/-- The loop over the fields begins with the chain, and passes no other. -/
theorem exists_chainLoop (accepted : AcceptedSignature decl.signature)
    (typed : (Argument.attributionChain uids tags :: rest).map Argument.type = decl.signature)
    {loop : List (Code Condition EventCall)}
    (printed : writeArguments (writeField attributionDecl) (writeAnnotations constants decl) 1
      decl.fields = .ok loop) :
    ∃ after, loop = .call chainCall :: after ∧ Quiet (chainRecorder holds frame) after := by
  have isSignature := typed
  rw [AtomDecl.signature, List.map_cons] at isSignature
  rcases fields : decl.fields with _ | ⟨chainField, others⟩
  · rw [fields] at isSignature
    cases isSignature
  · rw [fields, List.map_cons, List.cons.injEq] at isSignature
    rw [fields] at printed
    rcases writeArguments_cons_eq_ok printed with ⟨written, later, isWritten, laterPrinted, rfl⟩
    have annotations (argIndex : Int) : Quiet (chainRecorder holds frame)
        (writeAnnotations constants decl argIndex) :=
      (writeAnnotations_silent argIndex).quiet
    have fieldsQuiet : ∀ argIndex, ∀ atomField ∈ others, ∀ fieldCode,
        writeField attributionDecl argIndex atomField = .ok fieldCode →
          Quiet (chainRecorder holds frame) fieldCode := by
      intro argIndex atomField member fieldCode fieldWritten
      apply writeField_quiet _ fieldWritten
      apply accepted.tail
      rw [AtomDecl.signature, fields, List.map_cons, List.tail_cons]
      exact List.mem_map.mpr ⟨atomField, member, rfl⟩
    have laterQuiet : Quiet (chainRecorder holds frame) later :=
      allActions_writeArguments fieldsQuiet annotations laterPrinted
    have isCall : written = [.call chainCall] := by
      rcases chainField with ⟨name, javaType, enumValues, enumTypeName⟩
      cases javaType <;> cases isSignature.1
      cases isWritten
      rfl
    subst isCall
    exact ⟨_, rfl, allActions_append.mpr ⟨annotations 1, laterQuiet⟩⟩

/-- A body passes the chain once, when it can be converted. -/
theorem visibleEvents_rustMethodBody (accepted : AcceptedSignature decl.signature)
    (typed : (Argument.attributionChain uids tags :: rest).map Argument.type = decl.signature)
    (binds : plainConvention.Binds frame.bindings 1 (.attributionChain uids tags))
    (printed : writeRustMethodBody constants attributionDecl minApiLevel decl = .ok code) :
    visibleEvents (chainRecorder holds frame) (.block code) =
      if converts (.attributionChain uids tags) = true then [⟨uids, tags, uids.length⟩]
      else [] := by
  rw [writeRustMethodBody] at printed
  split at printed
  · contradiction
  · rcases map_eq_ok_iff.mp printed with ⟨loop, loopPrinted, rfl⟩
    rcases @exists_chainLoop frame holds _ _ _ _ _ accepted typed _ loopPrinted with
      ⟨after, rfl, afterQuiet⟩
    have before : Silent (chainRecorder holds frame)
        (.call (.setAtomId (makeCamelCaseName decl.name)) ::
          writeAnnotations constants decl atomIdFieldNumber) :=
      allActions_cons.mpr ⟨by simp [Code.actions, chainRecorder, EventCall.chainCall?],
        writeAnnotations_silent _⟩
    have decided : ∀ condition, ∃ isTrue,
        (chainRecorder holds frame).holds condition = .ok isTrue :=
      fun condition => ⟨holds condition, rfl⟩
    have performed : (chainRecorder holds frame).event chainCall =
        (convertChain uids tags).map fun chain => some ⟨chain.1, chain.2, uids.length⟩ :=
      chainCall?_writeAttributionChain binds
    by_cases converted : converts (.attributionChain uids tags) = true
    · rw [convertChain_of_converts converted] at performed
      rw [if_pos converted]
      exact visibleEvents_of_event decided before performed afterQuiet
    · have isFalse : converts (.attributionChain uids tags) = false := by simpa using converted
      rcases convertChain_of_not_converts isFalse with ⟨reason, -, refused⟩
      rw [refused] at performed
      rw [if_neg converted, ← List.cons_append]
      exact visibleEvents_of_failure decided before performed

/-- The function of an atom passes its chain once, when it can be converted. -/
theorem chainCalls_statsWrite {function : Function} (accepted : AcceptedSignature decl.signature)
    (typed : (Argument.attributionChain uids tags :: rest).map Argument.type = decl.signature)
    (written : writeRustStatsWriteMethod constants attributionDecl minApiLevel decl =
      .ok function) :
    function.chainCalls holds (.attributionChain uids tags :: rest) =
      if converts (.attributionChain uids tags) = true then [⟨uids, tags, uids.length⟩]
      else [] := by
  have found : (Argument.attributionChain uids tags :: rest)[0]? =
      some (.attributionChain uids tags) := rfl
  rcases map_eq_ok_iff.mp written with ⟨code, printed, rfl⟩
  cases kind : decl.atomType with
  | pushed =>
      apply visibleEvents_rustMethodBody accepted typed _ printed
      exact binds_function accepted typed rfl (by rw [kind]; rfl) found
  | pulled =>
      apply visibleEvents_rustMethodBody accepted typed _ printed
      exact binds_function accepted typed rfl (by rw [kind]; rfl) found

end Chain

end StatsLogApiGen.Rust

/-! ## Both languages -/

namespace StatsLogApiGen.Writer

open Std
open StatsLogApiGen.Container
open StatsLogApiGen.Proto
open StatsLogApiGen.Collation

/-- The methods that pass chains, with the values that conditions have in a call.  A native
method is called with any code. -/
inductive ChainLogger where
  | native (holds : Condition → Bool) (code : Int)
  | rust (holds : Rust.Condition → Bool)

namespace ChainLogger

/-- The chains that the method for an atom passes: `stats_write` or `addAStatsEvent`, and
`stats_write` or `add_astats_event` in Rust. -/
def chainCalls (minApiLevel : Int) (atoms : Atoms) (decl : AtomDecl)
    (arguments : List Argument) : ChainLogger → Option (List ChainCall)
  | .native holds code => do
      let constants := getAnnotationIdConstants annotationConstantNamePrefix
      let declSets ← (signatureMap atoms decl.atomType)[decl.signature]?
      let method ← (Rust.nativeMethod constants minApiLevel decl declSets).toOption
      return method.chainCalls holds code arguments
  | .rust holds => do
      let constants := getAnnotationIdConstants annotationConstantNamePrefix
      let function ← (Rust.writeRustStatsWriteMethod constants attributionDecl minApiLevel
        decl).toOption
      return function.chainCalls holds arguments

/-- The arrays of a chain are passed whole: a native method that writes to an `AStatsEvent`
checks neither length, a Rust function only the number of uids. -/
def Fits (minApiLevel : Int) (decl : AtomDecl) (uids : List (BitVec 32)) (tags : List String) :
    ChainLogger → Prop
  | .native .. => (decl.atomType = .pushed ∧ minApiLevel = apiQ) ∨
      uids.length ≤ 255 ∧ uids.length ≤ tags.length
  | .rust _ => Rust.converts (.attributionChain uids tags) = false ∨ uids.length ≤ tags.length

end ChainLogger

section Chains

variable {minApiLevel : Int} {atoms : Atoms} {decl : AtomDecl} {uids : List (BitVec 32)}
  {tags : List String} {rest : List Argument}
  (accepted : AcceptedSignature decl.signature)
  (typed : (Argument.attributionChain uids tags :: rest).map Argument.type = decl.signature)

include accepted typed

/-- A native method passes the chain with the low 8 bits of the number of uids. -/
theorem chainCalls_native {holds : Condition → Bool} {code : Int} {calls : List ChainCall}
    (called : (ChainLogger.native holds code).chainCalls minApiLevel atoms decl
      (.attributionChain uids tags :: rest) = some calls) :
    calls = if decl.atomType = .pushed ∧ minApiLevel = apiQ then []
      else [⟨uids, tags, uids.length % 256⟩] := by
  rcases Option.bind_eq_some_iff.mp called with ⟨declSets, -, written⟩
  rcases Option.bind_eq_some_iff.mp written with ⟨method, isMethod, isCalls⟩
  rw [← Option.some.inj isCalls]
  exact Native.chainCalls_nativeMethod accepted typed (toOption_eq_some_iff.mp isMethod)

/-- A Rust function passes the chain with the number of uids. -/
theorem chainCalls_rust {holds : Rust.Condition → Bool} {calls : List ChainCall}
    (called : (ChainLogger.rust holds).chainCalls minApiLevel atoms decl
      (.attributionChain uids tags :: rest) = some calls) :
    calls = if Rust.converts (.attributionChain uids tags) = true then
      [⟨uids, tags, uids.length⟩] else [] := by
  rcases Option.bind_eq_some_iff.mp called with ⟨function, isFunction, isCalls⟩
  rw [← Option.some.inj isCalls]
  exact Rust.chainCalls_statsWrite accepted typed (toOption_eq_some_iff.mp isFunction)

end Chains

theorem isWhole_iff {uids : List (BitVec 32)} {tags : List String} {nodeCount : Nat} :
    (⟨uids, tags, nodeCount⟩ : ChainCall).IsWhole uids tags ↔
      nodeCount = uids.length ∧ nodeCount ≤ tags.length :=
  ⟨fun whole => ⟨whole.allNodes, whole.withinTags⟩, fun both => ⟨rfl, rfl, both.1, both.2⟩⟩

/-- In an accepted run the method for an atom with an attribution chain passes it whole or
not at all exactly when the arrays fit. -/
theorem passesWholeChain_iff (descriptor : AtomDescriptor) (moduleName : String) (atoms : Atoms)
    (accepted : collateAtoms descriptor moduleName {} = (0, atoms)) (minApiLevel : Int)
    (decl : AtomDecl) (member : decl ∈ elements atoms.decls) (uids : List (BitVec 32))
    (tags : List String) (rest : List Argument)
    (typed : (Argument.attributionChain uids tags :: rest).map Argument.type = decl.signature)
    (logger : ChainLogger) (calls : List ChainCall)
    (called : logger.chainCalls minApiLevel atoms decl (.attributionChain uids tags :: rest) =
      some calls) :
    (∀ call ∈ calls, call.IsWhole uids tags) ↔ logger.Fits minApiLevel decl uids tags := by
  rcases collateAtoms_registered accepted with ⟨registrations, -, registered⟩
  have acceptedSignature := acceptedSignature_of_mem registered member
  cases logger with
  | native holds code =>
      rw [chainCalls_native acceptedSignature typed called, ChainLogger.Fits]
      by_cases compat : decl.atomType = .pushed ∧ minApiLevel = apiQ
      · simp [compat]
      · rw [if_neg compat, List.forall_mem_singleton, isWhole_iff, or_iff_right compat]
        omega
  | rust holds =>
      rw [chainCalls_rust acceptedSignature typed called, ChainLogger.Fits]
      by_cases converted : Rust.converts (.attributionChain uids tags) = true
      · simp [converted, isWhole_iff]
      · simp [converted]

/-- The arguments of an acquired wake lock. -/
def wakelockChainArguments (uids : List (BitVec 32)) (tags : List String) : List Argument :=
  [.attributionChain uids tags, .string "tag", .int 1]

theorem wakelockChainArguments_types (uids : List (BitVec 32)) (tags : List String) :
    (wakelockChainArguments uids tags).map Argument.type = wakelockDecl.signature := by
  have signature : wakelockDecl.signature = [.attributionChain, .string, .int] := by decide
  rw [signature]
  rfl

/-- From T on there is a method for every atom without repeated fields. -/
theorem exists_chainCalls {decl : AtomDecl} {atoms : Atoms} {minApiLevel : Int}
    {declSets : FieldNumberToAtomDeclSet}
    (found : (signatureMap atoms decl.atomType)[decl.signature]? = some declSets)
    (accepted : AcceptedSignature decl.signature) (level : minApiLevel ≥ apiT)
    (notRepeated : Rust.hasRepeatedField decl = false) (logger : ChainLogger)
    (arguments : List Argument) :
    ∃ calls, logger.chainCalls minApiLevel atoms decl arguments = some calls := by
  have types := mem_signatureTypes accepted
  have notQ : minApiLevel ≠ apiQ := by
    rw [apiQ]
    rw [apiT] at level
    omega
  cases logger with
  | native holds code =>
      have isOk : (Rust.nativeMethod (getAnnotationIdConstants annotationConstantNamePrefix)
          minApiLevel decl declSets).isOk = true := by
        have supported : (decide (minApiLevel ≥ apiT) ||
            !containsRepeatedField decl.signature) = true := by
          rw [decide_eq_true level, Bool.true_or]
        rw [Rust.nativeMethod]
        cases decl.atomType with
        | pushed => exact (Native.writeNativeStatsWriteMethod_isOk _ types _ _).trans supported
        | pulled => exact (Native.writeNativeBuildStatsEventMethod_isOk _ types _ _).trans supported
      rcases isOk_iff_exists.mp isOk with ⟨method, written⟩
      exact ⟨_, by simp [ChainLogger.chainCalls, found, written, Except.toOption]; rfl⟩
  | rust holds =>
      have isOk := Rust.writeRustMethodBody_isOk
        (getAnnotationIdConstants annotationConstantNamePrefix) types notQ notRepeated
      rcases isOk_iff_exists.mp isOk with ⟨code, written⟩
      exact ⟨_, by simp [ChainLogger.chainCalls, Rust.writeRustStatsWriteMethod, written,
        Except.toOption, Except.map]; rfl⟩

/-- Every logger has a method for the wake lock. -/
theorem exists_chainCalls_wakelock (logger : ChainLogger) (arguments : List Argument) :
    ∃ calls, logger.chainCalls apiT wakelockAtoms wakelockDecl arguments = some calls := by
  have accepted : collateAtoms wakelockDescriptor defaultModuleName {} = (0, wakelockAtoms) :=
    Prod.ext (by decide) rfl
  rcases exists_logged accepted (by decide) mem_wakelockDecl with ⟨declSets, found, logged⟩
  exact exists_chainCalls found logged.accepted (Int.le_refl _) (by decide) logger arguments

/-- A chain of two nodes. -/
theorem passesWholeChain_wakelock :
    ∃ calls, (ChainLogger.rust fun _ => true).chainCalls apiT wakelockAtoms wakelockDecl
        (wakelockChainArguments [1000, 1001] ["a", "b"]) = some calls ∧
      ((∀ call ∈ calls, call.IsWhole [1000, 1001] ["a", "b"]) ↔
        (ChainLogger.rust fun _ => true).Fits apiT wakelockDecl [1000, 1001] ["a", "b"]) := by
  rcases exists_chainCalls_wakelock (.rust fun _ => true)
    (wakelockChainArguments [1000, 1001] ["a", "b"]) with ⟨calls, called⟩
  exact ⟨calls, called, passesWholeChain_iff wakelockDescriptor defaultModuleName wakelockAtoms
    (Prod.ext (by decide) rfl) apiT wakelockDecl mem_wakelockDecl _ _ _
    (wakelockChainArguments_types _ _) _ calls called⟩

/-- In both languages a chain of one node without a tag is passed, and a native method
passes no node of a chain of 256. -/
theorem not_passesWholeChain_wakelock :
    (collateAtoms wakelockDescriptor defaultModuleName {}).1 = 0 ∧
    (∀ logger : ChainLogger, ∃ calls,
      logger.chainCalls apiT wakelockAtoms wakelockDecl (wakelockChainArguments [1000] []) =
        some calls ∧ ¬∀ call ∈ calls, call.IsWhole [1000] []) ∧
    ∀ holds code, ∃ calls,
      (ChainLogger.native holds code).chainCalls apiT wakelockAtoms wakelockDecl
        (wakelockChainArguments (List.replicate 256 1000) (List.replicate 256 "tag")) =
          some calls ∧
      ¬∀ call ∈ calls, call.IsWhole (List.replicate 256 1000) (List.replicate 256 "tag") := by
  have accepted := acceptedSignature_wakelockDecl
  have pushedAtT : ¬(wakelockDecl.atomType = .pushed ∧ apiT = apiQ) := by decide
  refine ⟨by decide, ?_, ?_⟩
  · intro logger
    rcases exists_chainCalls_wakelock logger (wakelockChainArguments [1000] []) with
      ⟨calls, called⟩
    refine ⟨calls, called, ?_⟩
    cases logger with
    | native holds code =>
        rw [chainCalls_native accepted (wakelockChainArguments_types _ _) called,
          if_neg pushedAtT, List.forall_mem_singleton]
        intro whole
        exact absurd whole.withinTags (by decide)
    | rust holds =>
        rw [chainCalls_rust accepted (wakelockChainArguments_types _ _) called,
          if_pos (by decide), List.forall_mem_singleton]
        intro whole
        exact absurd whole.withinTags (by decide)
  · intro holds code
    rcases exists_chainCalls_wakelock (.native holds code)
      (wakelockChainArguments (List.replicate 256 1000) (List.replicate 256 "tag")) with
      ⟨calls, called⟩
    refine ⟨calls, called, ?_⟩
    rw [chainCalls_native accepted (wakelockChainArguments_types _ _) called, if_neg pushedAtT,
      List.forall_mem_singleton]
    intro whole
    have allNodes := whole.allNodes
    rw [List.length_replicate] at allNodes
    exact absurd allNodes (by decide)

end StatsLogApiGen.Writer
