import StatsLogApiGen.Java.Writer
import StatsLogApiGen.Writer.Parameters

/-!
# Running Java methods

The operations that the calls on a `StatsEvent.Builder` perform, and the theorem
that a generated body issues the event of the atom it is called for.
-/

namespace StatsLogApiGen.Java

open Std
open StatsLogApiGen.Container
open StatsLogApiGen.Collation
open StatsLogApiGen.Program
open StatsLogApiGen.Writer

/-! ## Calls of generated methods -/

/-- The names of the parameters are the ones of the plain convention. -/
theorem javaSignatureParameters_names (argIndex : Int) (signature : Signature) :
    (javaSignatureParameters attributionDecl argIndex signature).map Parameter.name =
      plainConvention.namesFrom argIndex signature := by
  induction signature generalizing argIndex with
  | nil => rfl
  | cons arg rest ih =>
      have first : (javaArgParameters attributionDecl argIndex arg).map Parameter.name =
          plainConvention.names argIndex arg := by
        cases arg <;> rfl
      rw [javaSignatureParameters, List.map_append, ih, first]
      rfl

/-- The value of a constant on a device. -/
def ConstantValue.value (platform : Platform) (sdkInt : Int) : ConstantValue → Option Int
  | .platform name => platform name
  | .numberUpToR number name => if sdkInt ≤ apiR then some number else platform name

/-- The constants that a generated method sees besides the atom codes: those of
its class and those of the platform. -/
def visibleConstants (constants : AnnotationIdConstants) (platform : Platform)
    (sdkInt minApiLevel : Int) (name : String) : Option Int :=
  match (writeJavaAnnotationConstants constants minApiLevel).lookup name with
  | some constant => constant.value platform sdkInt
  | none => platform name

/-- The frame of a call: the values are bound to the parameters by position. -/
def frame (atoms : Atoms) (constants : String → Option Int) (method : Method)
    (values : List Value) : Frame where
  bindings := (method.parameters.map Parameter.name).zip values
  atomConstants := atomConstants atoms
  constants := constants
  comparable := javaComparable

/-! ## Operations -/

/-- An array argument, where null stands for an empty array. -/
def arrayOf (frame : Frame) (empty : Argument) (name : Variable) : Except Stuck Argument :=
  (frame.value name).bind fun
    | .null => .ok empty
    | _ => frame.argumentOf empty.type name

/-- The operation that a call on the builder performs. -/
def BuilderMethod.perform (frame : Frame) : BuilderMethod → Except Stuck EventOp
  | .setAtomId => frame.code.map .setAtomId
  | .writeBoolean arg => (frame.argumentOf .boolean arg).map .write
  | .writeInt arg => (frame.argumentOf .int arg).map .write
  | .writeFloat arg => (frame.argumentOf .float arg).map .write
  | .writeLong arg => (frame.argumentOf .long arg).map .write
  | .writeString arg => (frame.argumentOf .string arg).map .write
  | .writeByteArray arg => (arrayOf frame (.byteArray []) arg).map .write
  | .writeBooleanArray arg => (arrayOf frame (.booleanArray []) arg).map .write
  | .writeIntArray arg => (arrayOf frame (.intArray []) arg).map .write
  | .writeFloatArray arg => (arrayOf frame (.floatArray []) arg).map .write
  | .writeLongArray arg => (arrayOf frame (.longArray []) arg).map .write
  | .writeStringArray arg => (arrayOf frame (.stringArray []) arg).map .write
  | .writeAttributionChain uids tags =>
      (arrayOf frame (.intArray []) uids).bind fun uidArray =>
        (arrayOf frame (.stringArray []) tags).bind fun tagArray =>
          match uidArray, tagArray with
          | .intArray uids, .stringArray tags => .ok (.write (.attributionChain uids tags))
          | _, _ => .error .mistyped
  | .addAnnotationInt annotationId value =>
      (frame.constant annotationId).bind fun annotationId =>
        (frame.operand value).map fun value => .addAnnotationInt32 annotationId value
  | .addAnnotationBoolean annotationId value =>
      (frame.constant annotationId).map fun annotationId => .addAnnotationBool annotationId value

/-- The calls on the builder. -/
def recorder (frame : Frame) : Recorder Condition BuilderMethod EventOp Stuck where
  holds := frame.holds
  event method := method.perform frame

/-- The operations on the builder of a body that has one.  A `write` for Q has one on
devices above Q, and calls `QLogger.write` on the others. -/
def Body.events (frame : Frame) (sdkInt : Int) : Body → Except Stuck (List EventOp)
  | .write code | .buildStatsEvent code => record (recorder frame) (.block code)
  | .writeOrQLogger code _ =>
      if sdkInt > apiQ then record (recorder frame) (.block code) else .error .noEvent
  | .forward _ | .workSource .. => .error .noEvent

/-- What a call of a method does to its builder. -/
def Method.call (method : Method) (atoms : Atoms) (constants : AnnotationIdConstants)
    (platform : Platform) (sdkInt minApiLevel code : Int) (arguments : List Argument) :
    Except Stuck (List EventOp) :=
  method.body.events (frame atoms (visibleConstants constants platform sdkInt minApiLevel)
    method (.code code :: arguments.flatMap plainValues)) sdkInt

/-! ## Annotations -/

/-- The constant of the platform for an annotation. -/
def platformConstant (annotationId : AnnotationId) : String :=
  "StatsLog." ++ (annotationConstantNamePrefix ++ annotationIdName annotationId)

/-- The constant of an annotation is looked up in the class below U and in the
platform from U on. -/
theorem lookup_writeJavaAnnotationConstants (minApiLevel : Int)
    (annotationId : AnnotationId) :
    (writeJavaAnnotationConstants (getAnnotationIdConstants annotationConstantNamePrefix)
      minApiLevel).lookup
        (constantPrefix (getAnnotationIdConstants annotationConstantNamePrefix annotationId) ++
          (getAnnotationIdConstants annotationConstantNamePrefix annotationId).name) =
      if annotationIdApiLevel annotationId ≥ apiU then
        none
      else if minApiLevel ≤ apiR then
        some (.numberUpToR annotationId.value (platformConstant annotationId))
      else
        some (.platform (platformConstant annotationId)) := by
  by_cases upToR : minApiLevel ≤ apiR
  · simp only [writeJavaAnnotationConstants, if_pos upToR]
    cases annotationId <;> decide
  · simp only [writeJavaAnnotationConstants, if_neg upToR]
    cases annotationId <;> decide

/-- The constant that is printed for an annotation id denotes the id. -/
theorem visibleConstants_annotationId {platform : Platform}
    (declares : platform.DeclaresAnnotations "StatsLog.") (sdkInt minApiLevel : Int)
    (annotationId : AnnotationId) :
    visibleConstants (getAnnotationIdConstants annotationConstantNamePrefix) platform sdkInt
        minApiLevel
        (constantPrefix (getAnnotationIdConstants annotationConstantNamePrefix annotationId) ++
          (getAnnotationIdConstants annotationConstantNamePrefix annotationId).name) =
      some annotationId.value := by
  rw [visibleConstants, lookup_writeJavaAnnotationConstants]
  have declared := declares.annotationId annotationId
  by_cases fromU : annotationIdApiLevel annotationId ≥ apiU
  · rw [if_pos fromU, constantPrefix, if_pos (show (getAnnotationIdConstants
      annotationConstantNamePrefix annotationId).minApiLevel ≥ apiU from fromU)]
    exact declared
  · rw [if_neg fromU]
    by_cases upToR : minApiLevel ≤ apiR
    · rw [if_pos upToR]
      change (if sdkInt ≤ apiR then some annotationId.value else _) = _
      split
      · rfl
      · exact declared
    · rw [if_neg upToR]
      exact declared

/-- A class has no constants for restriction categories. -/
theorem lookup_restrictionCategory {category : Int} (named : IsNamedCategory category)
    (minApiLevel : Int) :
    (writeJavaAnnotationConstants (getAnnotationIdConstants annotationConstantNamePrefix)
      minApiLevel).lookup ("StatsLog." ++ getRestrictionCategoryStr category) = none := by
  obtain ⟨first, last⟩ := named
  obtain rfl | rfl | rfl | rfl : category = 1 ∨ category = 2 ∨ category = 3 ∨ category = 4 := by
    omega
  all_goals
    by_cases upToR : minApiLevel ≤ apiR
    · simp only [writeJavaAnnotationConstants, if_pos upToR]
      decide
    · simp only [writeJavaAnnotationConstants, if_neg upToR]
      decide

theorem visibleConstants_category {platform : Platform}
    (declares : platform.DeclaresAnnotations "StatsLog.") (sdkInt minApiLevel : Int)
    {category : Int} (named : IsNamedCategory category) :
    visibleConstants (getAnnotationIdConstants annotationConstantNamePrefix) platform sdkInt
        minApiLevel
        (constantPrefix (getAnnotationIdConstants annotationConstantNamePrefix
          .restrictionCategory) ++ getRestrictionCategoryStr category) = some category := by
  change (match (writeJavaAnnotationConstants
    (getAnnotationIdConstants annotationConstantNamePrefix) minApiLevel).lookup
      ("StatsLog." ++ getRestrictionCategoryStr category) with
    | some constant => constant.value platform sdkInt
    | none => platform ("StatsLog." ++ getRestrictionCategoryStr category)) = _
  rw [lookup_restrictionCategory named]
  exact declares.named named

section Issues

variable {platform : Platform} (declares : platform.DeclaresAnnotations "StatsLog.")
  (sdkInt minApiLevel : Int) {frame : Frame}
  (scope : frame.constants = visibleConstants
    (getAnnotationIdConstants annotationConstantNamePrefix) platform sdkInt minApiLevel)

include declares scope

theorem constant_annotationId (annotationId : AnnotationId) :
    frame.constant (constantPrefix
        (getAnnotationIdConstants annotationConstantNamePrefix annotationId) ++
      (getAnnotationIdConstants annotationConstantNamePrefix annotationId).name) =
      .ok annotationId.value :=
  Frame.constant_eq
    (scope ▸ visibleConstants_annotationId declares sdkInt minApiLevel annotationId)

/-- What `write_annotations` prints issues the annotations. -/
theorem issuesAnnotations :
    IssuesAnnotations (recorder frame) annotationTemplates
      (getAnnotationIdConstants annotationConstantNamePrefix) := by
  have annotation := constant_annotationId declares sdkInt minApiLevel scope
  constructor
  · intro annotationId value
    simp [recorder, annotationTemplates, BuilderMethod.perform, annotation, Frame.operand,
      Except.bind, Except.map]
  · intro annotationId value
    simp [recorder, annotationTemplates, BuilderMethod.perform, annotation, Except.map]
  · intro value
    -- the reset is printed without a prefix, as its constant is older than U
    have unprefixed : constantPrefix
        (getAnnotationIdConstants annotationConstantNamePrefix .triggerStateReset) = "" := rfl
    have reset := annotation .triggerStateReset
    rw [unprefixed, String.empty_append] at reset
    simp [recorder, annotationTemplates, BuilderMethod.perform, reset, Frame.operand,
      Except.bind, Except.map]

/-- What is printed for a named category issues it. -/
theorem issuesCategories :
    IssuesCategories (recorder frame) annotationTemplates
      (getAnnotationIdConstants annotationConstantNamePrefix) IsNamedCategory := by
  intro category isNamed
  have annotation :=
    constant_annotationId declares sdkInt minApiLevel scope .restrictionCategory
  have named : frame.constant (constantPrefix
      (getAnnotationIdConstants annotationConstantNamePrefix .restrictionCategory) ++
        getRestrictionCategoryStr category) = .ok category :=
    Frame.constant_eq
      (scope ▸ visibleConstants_category declares sdkInt minApiLevel isNamed)
  simp [recorder, annotationTemplates, BuilderMethod.perform, annotation, named,
    Frame.operand, Except.bind, Except.map]

end Issues

/-! ## Writes -/

section Writes

variable {frame : Frame} {argIndex : Int} {argument : Argument}
  {written : List (Code Condition BuilderMethod)}

theorem arrayOf_eq {empty : Argument} {name : Variable}
    (bound : frame.bindings.lookup name = some (.argument argument))
    (type : argument.type = empty.type) : arrayOf frame empty name = .ok argument := by
  rw [arrayOf, Frame.value_eq bound, ← type]
  exact Frame.argumentOf_eq bound

/-- The switch of the body writes the argument. -/
theorem emits_writeArg (binds : plainConvention.Binds frame.bindings argIndex argument)
    (isWritten : writeArg attributionDecl argIndex argument.type = .ok written) :
    Emits (recorder frame) (.block written) [.write argument] := by
  have emitted {method : BuilderMethod} (performs : method.perform frame = .ok (.write argument)) :
      Emits (recorder frame) (.block [.call method]) [.write argument] :=
    (emits_call performs).singleton
  have bound (notChain : argument.type ≠ .attributionChain) :
      frame.bindings.lookup (.arg argIndex) = some (.argument argument) :=
    binds _ (plainConvention_valid.argument argIndex argument notChain)
  cases argument with
  | attributionChain uids tags =>
      cases isWritten
      have chain := lookup_plainChain binds
      have uidArray : arrayOf frame (.intArray []) (.chain "uid") = .ok (.intArray uids) :=
        arrayOf_eq chain.1 rfl
      have tagArray : arrayOf frame (.stringArray []) (.chain "tag") =
          .ok (.stringArray tags) :=
        arrayOf_eq chain.2 rfl
      apply emitted
      change (arrayOf frame (.intArray []) (.chain "uid")).bind _ = _
      rw [uidArray]
      change (arrayOf frame (.stringArray []) (.chain "tag")).bind _ = _
      rw [tagArray]
      rfl
  | boolean _ | int _ | long _ | float _ | string _ =>
      cases isWritten
      apply emitted
      exact congrArg (Except.map _) (Frame.argumentOf_eq (bound nofun))
  | byteArray _ | booleanArray _ | intArray _ | longArray _ | floatArray _ | stringArray _ =>
      cases isWritten
      apply emitted
      change (arrayOf frame _ (.arg argIndex)).map EventOp.write = _
      rw [arrayOf_eq (bound nofun)]
      · rfl
      · rfl

theorem writeArg_isOk (argIndex : Int) {type : JavaType} (member : type ∈ signatureTypes) :
    (writeArg attributionDecl argIndex type).isOk = true := by
  cases type <;> first | rfl | exact absurd member (by decide)

end Writes

/-! ## Success -/

/-- A body can be written for every accepted signature. -/
theorem writeMethodBody_isOk (constants : AnnotationIdConstants) {signature : Signature}
    (accepted : ∀ type ∈ signature, type ∈ signatureTypes)
    (declSets : FieldNumberToAtomDeclSet) :
    (writeMethodBody constants attributionDecl signature declSets).isOk = true := by
  have loop (annotations : Int → List (Code Condition BuilderMethod)) :
      (writeArguments (writeArg attributionDecl) annotations 1 signature).isOk =
        signature.all fun _ => true := by
    apply writeArguments_isOk
    intro argIndex type member
    exact writeArg_isOk argIndex (accepted type member)
  rw [writeMethodBody, isOk_map, loop]
  simp

theorem qLoggerArguments_isOk (argIndex : Int) {type : JavaType} :
    (qLoggerArguments attributionDecl argIndex type).isOk = !type.isRepeatedField := by
  cases type <;> rfl

/-- A chain of an accepted signature has fields to declare. -/
theorem writeJavaMethodSignature_eq (signature : Signature) :
    writeJavaMethodSignature signature attributionDecl =
      .ok (javaSignatureParameters attributionDecl 1 signature) := by
  rw [writeJavaMethodSignature, if_neg]
  rintro ⟨-, noFields⟩
  rw [attributionDecl_fields] at noFields
  contradiction

/-- A pushed method can be written, for Q only when its signature has no repeated
type. -/
theorem writeJavaPushedMethod_isOk (constants : AnnotationIdConstants) (minApiLevel : Int)
    {signature : Signature} (accepted : ∀ type ∈ signature, type ∈ signatureTypes)
    (declSets : FieldNumberToAtomDeclSet) :
    (writeJavaPushedMethod constants attributionDecl minApiLevel (signature, declSets)).isOk =
      (decide (minApiLevel ≠ apiQ) || !containsRepeatedField signature) := by
  obtain ⟨code, written⟩ := isOk_iff_exists.mp
    (writeMethodBody_isOk constants accepted declSets)
  rw [writeJavaPushedMethod, written]
  by_cases isQ : minApiLevel = apiQ
  · have arguments : (eachArg (qLoggerArguments attributionDecl) 1 signature).isOk =
        signature.all fun type => false || !type.isRepeatedField := by
      apply eachArg_isOk
      intro argIndex type _
      exact qLoggerArguments_isOk argIndex
    change (if minApiLevel = apiQ then _ else _ : Except WriterError Method).isOk = _
    rw [if_pos isQ, isOk_map, arguments, all_or_not_repeated, decide_eq_false (by simpa using isQ)]
  · change (if minApiLevel = apiQ then _ else _ : Except WriterError Method).isOk = _
    rw [if_neg isQ, decide_eq_true isQ]
    rfl

theorem writeJavaPulledMethod_isOk (constants : AnnotationIdConstants) (minApiLevel : Int)
    {signature : Signature} (accepted : ∀ type ∈ signature, type ∈ signatureTypes)
    (declSets : FieldNumberToAtomDeclSet) :
    (writeJavaPulledMethod constants attributionDecl minApiLevel (signature, declSets)).isOk =
      true := by
  rw [writeJavaPulledMethod, writeJavaMethodSignature_eq]
  change (Except.map _ _).isOk = true
  rw [isOk_map, writeMethodBody_isOk constants accepted declSets]

/-! ## Events -/

section Events

variable {atoms : Atoms} {declSets : FieldNumberToAtomDeclSet} {decl : AtomDecl}
  {platform : Platform} {sdkInt minApiLevel : Int} {frame : Frame} {arguments : List Argument}
  {code : List (Code Condition BuilderMethod)}

/-- What the methods of a class can name and compare for a declaration. -/
abbrev Issues (decl : AtomDecl) : Prop :=
  Issuable 0 javaComparable IsNamedCategory decl

theorem writeMethodBody_record (declares : platform.DeclaresAnnotations "StatsLog.")
    (logged : Logged atoms declSets decl) (issuable : Issues decl)
    (typed : arguments.map Argument.type = decl.signature) (runs : RunsAs frame atoms decl)
    (compares : frame.comparable = javaComparable) (scope : frame.constants = visibleConstants
      (getAnnotationIdConstants annotationConstantNamePrefix) platform sdkInt minApiLevel)
    (binds : ∀ (index : Nat) argument, arguments[index]? = some argument →
      plainConvention.Binds frame.bindings (1 + index) argument)
    (written : writeMethodBody (getAnnotationIdConstants annotationConstantNamePrefix)
      attributionDecl decl.signature declSets = .ok code) :
    record (recorder frame) (.block code) = .ok (atomEvent decl arguments) := by
  obtain ⟨loop, loopWritten, rfl⟩ := map_eq_ok_iff.mp written
  apply Emits.record_eq
  apply emits_body rfl (issuesAnnotations declares sdkInt minApiLevel scope)
    (issuesCategories declares sdkInt minApiLevel scope) logged runs (compares ▸ issuable)
    (fun _ => by rw [compares]; rfl) plainConvention_valid typed binds _ _ loopWritten
  · simp [recorder, BuilderMethod.perform, Frame.code_eq runs.code, Except.map]
  · intro argIndex argument argumentCode argumentBinds isWritten
    exact emits_writeArg argumentBinds isWritten

section Calls

variable (logged : Logged atoms declSets decl)
  (issuable : Issues decl) (typed : arguments.map Argument.type = decl.signature)
  (declares : platform.DeclaresAnnotations "StatsLog.")

include logged issuable typed declares

/-- A call of a method runs the code of its body as the atom. -/
theorem call_record {method : Method}
    (parameters : method.parameters =
      ⟨"int", .code⟩ :: javaSignatureParameters attributionDecl 1 decl.signature)
    (written : writeMethodBody (getAnnotationIdConstants annotationConstantNamePrefix)
      attributionDecl decl.signature declSets = .ok code) :
    record (recorder (Java.frame atoms
        (visibleConstants (getAnnotationIdConstants annotationConstantNamePrefix) platform
          sdkInt minApiLevel) method (.code decl.code :: arguments.flatMap plainValues)))
      (.block code) = .ok (atomEvent decl arguments) := by
  have bindings : (method.parameters.map Parameter.name).zip
      (.code decl.code :: arguments.flatMap plainValues) =
        plainConvention.bind decl.code decl.signature arguments := by
    rw [parameters, List.map_cons, javaSignatureParameters_names]
    rfl
  apply writeMethodBody_record declares logged issuable typed _ rfl rfl _ written
  · exact ⟨by rw [Java.frame, bindings]; rfl, rfl⟩
  · intro index argument found
    rw [Java.frame, bindings]
    exact Convention.bind_binds plainConvention_valid logged.accepted typed found

/-- The generated `write` issues the event of the atom on its builder if it has one. -/
theorem write_events (supported : minApiLevel ≠ apiQ ∨
    containsRepeatedField decl.signature = false) (newer : minApiLevel = apiQ → sdkInt > apiQ) :
    ∃ method, writeJavaPushedMethod (getAnnotationIdConstants annotationConstantNamePrefix)
        attributionDecl minApiLevel (decl.signature, declSets) = .ok method ∧
      method.call atoms (getAnnotationIdConstants annotationConstantNamePrefix) platform
        sdkInt minApiLevel decl.code arguments = .ok (atomEvent decl arguments) := by
  have isOk : (writeJavaPushedMethod (getAnnotationIdConstants annotationConstantNamePrefix)
      attributionDecl minApiLevel (decl.signature, declSets)).isOk = true := by
    rw [writeJavaPushedMethod_isOk _ _ (mem_signatureTypes logged.accepted)]
    simpa using supported
  obtain ⟨method, printed⟩ := isOk_iff_exists.mp isOk
  refine ⟨method, printed, ?_⟩
  obtain ⟨code, written, rest⟩ := bind_eq_ok_iff.mp printed
  have parameters : printedParameters decl.signature attributionDecl =
      javaSignatureParameters attributionDecl 1 decl.signature := by
    rw [printedParameters, writeJavaMethodSignature_eq]
  dsimp only at rest
  split at rest
  · rename_i isQ
    obtain ⟨qLoggerCall, -, rfl⟩ := map_eq_ok_iff.mp rest
    rw [Method.call, Body.events, if_pos (newer isQ)]
    exact call_record logged issuable typed declares (by rw [parameters]) written
  · rw [Except.ok.injEq] at rest
    subst rest
    exact call_record logged issuable typed declares (by rw [parameters]) written

omit logged issuable typed declares in
/-- The generated `write` for Q has no builder on a device with Q. -/
theorem write_noEvent {method : Method}
    (written : writeJavaPushedMethod (getAnnotationIdConstants annotationConstantNamePrefix)
      attributionDecl apiQ (decl.signature, declSets) = .ok method) (older : ¬sdkInt > apiQ) :
    method.call atoms (getAnnotationIdConstants annotationConstantNamePrefix) platform sdkInt
      apiQ decl.code arguments = .error .noEvent := by
  obtain ⟨code, -, rest⟩ := bind_eq_ok_iff.mp written
  rw [if_pos rfl] at rest
  obtain ⟨qLoggerCall, -, rfl⟩ := map_eq_ok_iff.mp rest
  rw [Method.call, Body.events, if_neg older]

/-- The generated `buildStatsEvent` issues the event of the atom on its builder. -/
theorem buildStatsEvent_events :
    ∃ method, writeJavaPulledMethod (getAnnotationIdConstants annotationConstantNamePrefix)
        attributionDecl minApiLevel (decl.signature, declSets) = .ok method ∧
      method.call atoms (getAnnotationIdConstants annotationConstantNamePrefix) platform
        sdkInt minApiLevel decl.code arguments = .ok (atomEvent decl arguments) := by
  have isOk := writeJavaPulledMethod_isOk
    (getAnnotationIdConstants annotationConstantNamePrefix) minApiLevel
    (mem_signatureTypes logged.accepted) declSets
  obtain ⟨method, printed⟩ := isOk_iff_exists.mp isOk
  refine ⟨method, printed, ?_⟩
  obtain ⟨parameters, isParameters, rest⟩ := bind_eq_ok_iff.mp printed
  rw [writeJavaMethodSignature_eq, Except.ok.injEq] at isParameters
  subst isParameters
  obtain ⟨code, written, rfl⟩ := map_eq_ok_iff.mp rest
  exact call_record logged issuable typed declares rfl written

end Calls

end Events

/-! ## The generated class -/

@[simp]
theorem exitStatus_eq_zero_iff {α : Type} (result : Except WriterError α) :
    exitStatus result = 0 ↔ result.isOk = true := by
  cases result <;> simp [exitStatus, Except.isOk, Except.toBool]

/-- A writer that succeeds prints what it generates for every signature. -/
theorem mem_printed_iff {map : SignatureInfoMap} {method : Method}
    {write : Signature × FieldNumberToAtomDeclSet → Except WriterError Method}
    (succeeds : (map.toList.mapM write).isOk = true) :
    method ∈ printed (map.toList.mapM write) ↔ ∃ entry ∈ map.toList, write entry = .ok method := by
  obtain ⟨methods, traversed⟩ := isOk_iff_exists.mp succeeds
  rw [traversed]
  exact mem_of_mapM_eq_ok traversed

theorem mem_printed_workSource_iff {map : SignatureInfoMap} {method : Method}
    (succeeds : (writeJavaWorkSourceMethods map).isOk = true) :
    method ∈ printed (writeJavaWorkSourceMethods map) ↔
      ∃ entry ∈ map.toList, ∃ methods,
        writeJavaWorkSourceMethod entry.1 = .ok methods ∧ method ∈ methods := by
  obtain ⟨methods, written⟩ := isOk_iff_exists.mp succeeds
  rw [written]
  obtain ⟨results, traversed, rfl⟩ := map_eq_ok_iff.mp written
  change method ∈ results.flatten ↔ _
  rw [List.mem_flatten]
  constructor
  · rintro ⟨result, resultMem, member⟩
    obtain ⟨entry, entryMem, isResult⟩ := (mem_of_mapM_eq_ok traversed).mp resultMem
    exact ⟨entry, entryMem, result, isResult, member⟩
  · rintro ⟨entry, entryMem, result, isResult, member⟩
    exact ⟨result, (mem_of_mapM_eq_ok traversed).mpr ⟨entry, entryMem, isResult⟩, member⟩

/-- A writer that succeeds generates something for every key. -/
theorem exists_written {map : SignatureInfoMap} {result : Type}
    {write : Signature × FieldNumberToAtomDeclSet → Except WriterError result}
    (succeeds : (map.toList.mapM write).isOk = true) {key : Signature} (member : key ∈ map) :
    ∃ entry ∈ map.toList, entry.1 = key ∧ ∃ written, write entry = .ok written := by
  rcases isOk_iff_exists.mp succeeds with ⟨results, traversed⟩
  rcases exists_mem_toList member with ⟨entry, entryMem, isEntry⟩
  exact ⟨entry, entryMem, isEntry, exists_ok_of_mapM traversed entryMem⟩

section Class

variable {constants : AnnotationIdConstants} {atoms : Atoms} {minApiLevel : Int}
  {supportWorkSource : Bool} {method : Method}

/-- The class has no errors when each of its writers succeeds. -/
theorem writeStatsLogJava_errors_eq_zero_iff :
    (writeStatsLogJava constants atoms attributionDecl minApiLevel
      supportWorkSource).errors = 0 ↔
        (writeJavaPushedMethods constants attributionDecl minApiLevel
          atoms.signatureInfoMap).isOk = true ∧
        (writeJavaNonChainedMethods atoms.nonChainedSignatureInfoMap).isOk = true ∧
        (writeJavaPulledMethods constants attributionDecl minApiLevel
          atoms.pulledAtomsSignatureInfoMap).isOk = true ∧
        (supportWorkSource = true →
          (writeJavaWorkSourceMethods atoms.signatureInfoMap).isOk = true) := by
  have workSource : exitStatus (if supportWorkSource then
      writeJavaWorkSourceMethods atoms.signatureInfoMap else .ok []) = 0 ↔
        (supportWorkSource = true →
          (writeJavaWorkSourceMethods atoms.signatureInfoMap).isOk = true) := by
    cases supportWorkSource with
    | false => simp [exitStatus]
    | true => simp [exitStatus_eq_zero_iff]
  change exitStatus _ + exitStatus _ + exitStatus _ + exitStatus _ = 0 ↔ _
  rw [Nat.add_eq_zero_iff, Nat.add_eq_zero_iff, Nat.add_eq_zero_iff, and_assoc, and_assoc,
    exitStatus_eq_zero_iff, exitStatus_eq_zero_iff, exitStatus_eq_zero_iff, workSource]

section Generated

variable (noErrors : (writeStatsLogJava constants atoms attributionDecl minApiLevel
  supportWorkSource).errors = 0)

include noErrors

/-- The methods of the class come from the signature maps. -/
theorem mem_methods_iff :
    method ∈ (writeStatsLogJava constants atoms attributionDecl minApiLevel
        supportWorkSource).methods ↔
      (∃ entry ∈ atoms.signatureInfoMap.toList,
        writeJavaPushedMethod constants attributionDecl minApiLevel entry = .ok method) ∨
      (∃ entry ∈ atoms.nonChainedSignatureInfoMap.toList,
        writeJavaNonChainedMethod entry.1 = .ok method) ∨
      (∃ entry ∈ atoms.pulledAtomsSignatureInfoMap.toList,
        writeJavaPulledMethod constants attributionDecl minApiLevel entry = .ok method) ∨
      (supportWorkSource = true ∧ ∃ entry ∈ atoms.signatureInfoMap.toList, ∃ methods,
        writeJavaWorkSourceMethod entry.1 = .ok methods ∧ method ∈ methods) := by
  rcases writeStatsLogJava_errors_eq_zero_iff.mp noErrors with
    ⟨pushed, nonChained, pulled, workSource⟩
  change method ∈ printed _ ++ printed _ ++ printed _ ++ printed _ ↔ _
  rw [List.mem_append, List.mem_append, List.mem_append, or_assoc, or_assoc]
  apply or_congr (mem_printed_iff pushed)
  apply or_congr (mem_printed_iff nonChained)
  apply or_congr (mem_printed_iff pulled)
  cases supportWorkSource with
  | false => simp [printed]
  | true => simpa using mem_printed_workSource_iff (workSource rfl)

/-- A pushed signature has a method in the class. -/
theorem exists_pushedMethod {signature : Signature} (member : signature ∈ atoms.signatureInfoMap) :
    ∃ entry : Signature × FieldNumberToAtomDeclSet, entry.1 = signature ∧
      ∃ method ∈ (writeStatsLogJava constants atoms attributionDecl minApiLevel
        supportWorkSource).methods,
        writeJavaPushedMethod constants attributionDecl minApiLevel entry = .ok method := by
  rcases writeStatsLogJava_errors_eq_zero_iff.mp noErrors with ⟨pushed, -, -, -⟩
  rcases exists_written pushed member with ⟨entry, entryMem, isEntry, method, written⟩
  exact ⟨entry, isEntry, method,
    (mem_methods_iff noErrors).mpr (Or.inl ⟨entry, entryMem, written⟩), written⟩

/-- A flattened signature has a method in the class. -/
theorem exists_nonChainedMethod {key : Signature}
    (member : key ∈ atoms.nonChainedSignatureInfoMap) :
    ∃ method ∈ (writeStatsLogJava constants atoms attributionDecl minApiLevel
        supportWorkSource).methods, writeJavaNonChainedMethod key = .ok method := by
  rcases writeStatsLogJava_errors_eq_zero_iff.mp noErrors with ⟨-, nonChained, -, -⟩
  rcases exists_written nonChained member with ⟨entry, entryMem, rfl, method, written⟩
  exact ⟨method, (mem_methods_iff noErrors).mpr (Or.inr (Or.inl ⟨entry, entryMem, written⟩)),
    written⟩

/-- A pushed signature has its methods for work sources in the class. -/
theorem exists_workSourceMethods (supported : supportWorkSource = true) {signature : Signature}
    (member : signature ∈ atoms.signatureInfoMap) :
    ∃ methods, writeJavaWorkSourceMethod signature = .ok methods ∧
      methods ⊆ (writeStatsLogJava constants atoms attributionDecl minApiLevel
        supportWorkSource).methods := by
  rcases writeStatsLogJava_errors_eq_zero_iff.mp noErrors with ⟨-, -, -, workSource⟩
  have succeeds := workSource supported
  rw [writeJavaWorkSourceMethods, isOk_map] at succeeds
  rcases exists_written succeeds member with ⟨entry, entryMem, rfl, methods, written⟩
  refine ⟨methods, written, ?_⟩
  intro method methodMem
  exact (mem_methods_iff noErrors).mpr
    (Or.inr (Or.inr (Or.inr ⟨supported, entry, entryMem, methods, written, methodMem⟩)))

end Generated

/-- The method of a pushed signature is part of the generated class. -/
theorem mem_writeStatsLogJava {signature : Signature} {declSets : FieldNumberToAtomDeclSet}
    (found : atoms.signatureInfoMap[signature]? = some declSets)
    (written : writeJavaPushedMethod constants attributionDecl minApiLevel
      (signature, declSets) = .ok method)
    (noErrors : (writeStatsLogJava constants atoms attributionDecl minApiLevel
      supportWorkSource).errors = 0) :
    method ∈ (writeStatsLogJava constants atoms attributionDecl minApiLevel
      supportWorkSource).methods :=
  (mem_methods_iff noErrors).mpr
    (Or.inl ⟨_, ExtTreeMap.mem_toList_iff_getElem?_eq_some.mpr found, written⟩)

end Class

end StatsLogApiGen.Java
