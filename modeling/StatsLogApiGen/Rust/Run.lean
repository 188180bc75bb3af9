import StatsLogApiGen.Rust.Writer
import StatsLogApiGen.Writer.Parameters

/-!
# Running Rust functions

The operations of a generated Rust function on its event.  A function converts
chains and strings first and returns early when a conversion fails.  Otherwise it
issues the event of its atom.
-/

namespace StatsLogApiGen.Rust

open Std
open StatsLogApiGen.Container
open StatsLogApiGen.Collation
open StatsLogApiGen.Program
open StatsLogApiGen.Writer

/-! ## Calls of generated functions -/

/-- Why a function does not come to send or build its event: it returns one of two
variants of `StatsError`, or it is stuck. -/
inductive Halt where
  | nullChar
  | conversion
  | stuck (reason : Stuck)
  deriving DecidableEq, Repr

/-- A part of a function that cannot return early. -/
def total {α : Type} : Except Stuck α → Except Halt α
  | .ok value => .ok value
  | .error reason => .error (.stuck reason)

/-- `CString::new` refuses a string with a zero character in it. -/
def hasNullChar (str : String) : Bool :=
  '\x00' ∈ str.toList

/-- Whether the conversions of a function accept an argument: uids to `u32`, the
number of nodes to `u8`, and strings to C strings. -/
def converts : Argument → Bool
  | .attributionChain uids tags =>
      uids.all (fun uid => 0 ≤ uid.toInt) && tags.all (fun tag => !hasNullChar tag) &&
        uids.length ≤ 255
  | .string value => !hasNullChar value
  | _ => true

/-- The conversions of an attribution chain in their order. -/
def convertChain (uids : List (BitVec 32)) (tags : List String) :
    Except Halt (List (BitVec 32) × List String) :=
  if uids.any fun uid => uid.toInt < 0 then .error .conversion
  else if tags.any hasNullChar then .error .nullChar
  else if uids.length > 255 then .error .conversion
  else .ok (uids, tags)

/-- The conversion of a string. -/
def convertString (value : String) : Except Halt String :=
  if hasNullChar value then .error .nullChar else .ok value

theorem convertChain_of_converts {uids : List (BitVec 32)} {tags : List String}
    (accepted : converts (.attributionChain uids tags) = true) :
    convertChain uids tags = .ok (uids, tags) := by
  simp only [converts, Bool.and_eq_true, List.all_eq_true, decide_eq_true_eq,
    Bool.not_eq_true'] at accepted
  obtain ⟨⟨nonnegative, noNull⟩, short⟩ := accepted
  have noConversion : ¬uids.any fun uid => uid.toInt < 0 := by
    rw [List.any_eq_true]
    rintro ⟨uid, member, negative⟩
    have bound := nonnegative uid member
    simp only [decide_eq_true_eq] at negative
    omega
  have noNullChar : ¬tags.any hasNullChar := by
    rw [List.any_eq_true]
    rintro ⟨tag, member, null⟩
    rw [noNull tag member] at null
    contradiction
  rw [convertChain, if_neg noConversion, if_neg noNullChar, if_neg (by omega)]

theorem convertChain_of_not_converts {uids : List (BitVec 32)} {tags : List String}
    (refused : converts (.attributionChain uids tags) = false) :
    ∃ reason ∈ [Halt.nullChar, .conversion], convertChain uids tags = .error reason := by
  unfold convertChain
  split
  · exact ⟨.conversion, by simp, rfl⟩
  · rename_i nonnegative
    split
    · exact ⟨.nullChar, by simp, rfl⟩
    · rename_i noNull
      split
      · exact ⟨.conversion, by simp, rfl⟩
      · rename_i short
        exfalso
        simp only [List.any_eq_true, not_exists, not_and, decide_eq_true_eq,
          Bool.not_eq_true] at nonnegative noNull
        have accepted : converts (.attributionChain uids tags) = true := by
          simp only [converts, Bool.and_eq_true, List.all_eq_true, decide_eq_true_eq,
            Bool.not_eq_true']
          refine ⟨⟨?_, noNull⟩, by omega⟩
          intro uid member
          have notNegative := nonnegative uid member
          omega
        rw [accepted] at refused
        contradiction

/-! ## Operations -/

/-- The operation that a call performs.  The call of a chain is performed after
its conversions, and so is that of a string. -/
def EventCall.perform (frame : Frame) : EventCall → Except Halt EventOp
  | .setAtomId atom => total ((frame.atomConstant atom).map .setAtomId)
  | .writeAttributionChain uids tags =>
      (total (frame.argumentOf .intArray uids.reads)).bind fun uidArray =>
        (total (frame.argumentOf .stringArray tags.reads)).bind fun tagArray =>
          match uidArray, tagArray with
          | .intArray uids, .stringArray tags =>
              (convertChain uids tags).map fun chain =>
                .write (.attributionChain chain.1 chain.2)
          | _, _ => .error (.stuck .mistyped)
  | .writeByteArray field => total ((frame.argumentOf .byteArray field.reads).map .write)
  | .writeBool field => total ((frame.argumentOf .boolean field.reads).map .write)
  | .writeInt32 field _ => total ((frame.argumentOf .int field.reads).map .write)
  | .writeFloat field => total ((frame.argumentOf .float field.reads).map .write)
  | .writeInt64 field => total ((frame.argumentOf .long field.reads).map .write)
  | .writeString field =>
      (total (frame.argumentOf .string field.reads)).bind fun argument =>
        match argument with
        | .string value => (convertString value).map fun value => .write (.string value)
        | _ => .error (.stuck .mistyped)
  | .addAnnotationInt32 annotationId value =>
      total ((frame.constant annotationId).map fun annotationId =>
        .addAnnotationInt32 annotationId value)
  | .addAnnotationBool annotationId value =>
      total ((frame.constant annotationId).map fun annotationId =>
        .addAnnotationBool annotationId value)

/-- The value of a comparison. -/
def Condition.holds (frame : Frame) : Condition → Except Halt Bool
  | .fieldIs field _ state => total (frame.equals field.reads state)
  | .outOfRange => .error (.stuck .mistyped)

/-- The calls on the event of a function. -/
def recorder (frame : Frame) : Recorder Condition EventCall EventOp Halt where
  holds condition := condition.holds frame
  event call := call.perform frame

/-- The operations on the event of a body that has one. -/
def Body.events (frame : Frame) : Body → Except Halt (List EventOp)
  | .pushed code => record (recorder frame) (.block code)
  | .pulled code => record (recorder frame) (.block code)
  | .forward _ => .error (.stuck .noEvent)

/-- The values that a caller of a function passes. -/
def Function.values (function : Function) (arguments : List Argument) : List Value :=
  match function.body with
  | .pulled _ => .eventList :: arguments.flatMap plainValues
  | _ => arguments.flatMap plainValues

/-- The frame of a call.  A function sees the enums `Atoms` and `Annotations` that
are generated with it. -/
def frame (atoms : Atoms) (constants : AnnotationIdConstants) (function : Function)
    (values : List Value) : Frame where
  bindings := (function.parameters.map fun parameter => parameter.name.reads).zip values
  atomConstants := writeRustAtomConstants atoms
  constants := fun name => (writeRustAnnotationConstants constants).lookup name
  comparable := rustComparable

/-- What a call of a function does to its event.  Every name is read as the field that it is
named after, which is what it refers to in a hygienic function. -/
def Function.call (function : Function) (atoms : Atoms) (constants : AnnotationIdConstants)
    (arguments : List Argument) : Except Halt (List EventOp) :=
  function.body.events (frame atoms constants function (function.values arguments))

/-! ## Annotations -/

/-- Every annotation id has its own variant of `Annotations`. -/
theorem nodup_writeRustAnnotationConstants :
    ((writeRustAnnotationConstants
      (getAnnotationIdConstants annotationConstantNamePrefix)).map Prod.fst).Nodup := by
  decide +kernel

theorem lookup_writeRustAnnotationConstants (annotationId : AnnotationId) :
    (writeRustAnnotationConstants
      (getAnnotationIdConstants annotationConstantNamePrefix)).lookup
        (makeCamelCaseName
          (getAnnotationIdConstants annotationConstantNamePrefix annotationId).name) =
      some annotationId.value := by
  have listed : annotationId ∈ annotationIds := by
    cases annotationId <;> simp [annotationIds]
  have member : (makeCamelCaseName
      (getAnnotationIdConstants annotationConstantNamePrefix annotationId).name,
        annotationId.value) ∈ writeRustAnnotationConstants
          (getAnnotationIdConstants annotationConstantNamePrefix) :=
    List.mem_map.mpr ⟨annotationId, listed, rfl⟩
  have found := lookup_eq_some_of_mem nodup_writeRustAnnotationConstants member
  exact found

/-- What `write_annotations` prints issues the annotations. -/
theorem issuesAnnotations {frame : Frame}
    (scope : frame.constants = fun name => (writeRustAnnotationConstants
      (getAnnotationIdConstants annotationConstantNamePrefix)).lookup name) :
    IssuesAnnotations (recorder frame) annotationTemplates
      (getAnnotationIdConstants annotationConstantNamePrefix) := by
  have annotation (annotationId : AnnotationId) :
      frame.constant (makeCamelCaseName
        (getAnnotationIdConstants annotationConstantNamePrefix annotationId).name) =
        .ok annotationId.value :=
    Frame.constant_eq (scope ▸ lookup_writeRustAnnotationConstants annotationId)
  have int (annotationId : AnnotationId) (value : Int) :
      (recorder frame).event (annotationTemplates.int
        (getAnnotationIdConstants annotationConstantNamePrefix annotationId) value) =
      .ok (.addAnnotationInt32 annotationId.value value) := by
    simp [recorder, annotationTemplates, EventCall.perform, annotation, Except.map, total]
  constructor
  · exact int
  · intro annotationId value
    simp [recorder, annotationTemplates, EventCall.perform, annotation, Except.map, total]
  · exact int .triggerStateReset

/-- A restriction category is printed as its number. -/
theorem issuesCategories {frame : Frame}
    (scope : frame.constants = fun name => (writeRustAnnotationConstants
      (getAnnotationIdConstants annotationConstantNamePrefix)).lookup name) :
    IssuesCategories (recorder frame) annotationTemplates
      (getAnnotationIdConstants annotationConstantNamePrefix) (fun _ => True) :=
  fun category _ => (issuesAnnotations scope).int .restrictionCategory category

/-! ## Parameters -/

/-- A field is passed like an argument of its lowered type. -/
theorem fieldParameters_reads (isNonChained : Bool) (argIndex : Int) (atomField : AtomField) :
    (fieldParameters attributionDecl isNonChained argIndex atomField).map
        (fun parameter => parameter.name.reads) =
      plainConvention.names argIndex (lowered atomField.javaType) := by
  have reads : (parameterName isNonChained argIndex atomField).reads = .arg argIndex := by
    unfold parameterName
    split <;> rfl
  rcases atomField with ⟨name, javaType, enumValues, enumTypeName⟩
  cases javaType <;> first | rfl | exact congrArg (fun name => [name]) reads

theorem signatureParameters_reads (isNonChained : Bool) (argIndex : Int)
    (fields : List AtomField) :
    (signatureParameters attributionDecl isNonChained argIndex fields).map
        (fun parameter => parameter.name.reads) =
      plainConvention.namesFrom argIndex (fields.map fun field => lowered field.javaType) := by
  induction fields generalizing argIndex with
  | nil => rfl
  | cons atomField rest ih =>
      rw [signatureParameters, List.map_append, fieldParameters_reads, ih]
      rfl

/-! ## Writes -/

section Writes

variable {frame : Frame} {argIndex : Int} {argument : Argument} {atomField : AtomField}
  {written : List (Code Condition EventCall)}

theorem emits_write {call : EventCall} (performs : call.perform frame = .ok (.write argument)) :
    Emits (recorder frame) (.block [.call call]) [.write argument] :=
  (emits_call performs).singleton

theorem stops_write {call : EventCall} {reason : Halt}
    (fails : call.perform frame = .error reason) :
    Stops (recorder frame) (.block [.call call]) reason :=
  (stops_call fails).seq_left _

theorem argumentOf_arg (binds : plainConvention.Binds frame.bindings argIndex argument)
    (notChain : argument.type ≠ .attributionChain) :
    frame.argumentOf argument.type (.arg argIndex) = .ok argument :=
  Frame.argumentOf_eq (binds _ (plainConvention_valid.argument argIndex argument notChain))

theorem argumentOf_chain {uids : List (BitVec 32)} {tags : List String}
    (binds : plainConvention.Binds frame.bindings argIndex (.attributionChain uids tags)) :
    frame.argumentOf .intArray (.chain "uid") = .ok (.intArray uids) ∧
      frame.argumentOf .stringArray (.chain "tag") = .ok (.stringArray tags) := by
  rcases lookup_plainChain binds with ⟨uidsBound, tagsBound⟩
  exact ⟨Frame.argumentOf_eq uidsBound, Frame.argumentOf_eq tagsBound⟩

theorem perform_writeAttributionChain {uids : List (BitVec 32)} {tags : List String}
    (binds : plainConvention.Binds frame.bindings argIndex (.attributionChain uids tags)) :
    (EventCall.writeAttributionChain (chainName (uidName attributionDecl))
        (chainName (tagName attributionDecl))).perform frame =
      (convertChain uids tags).map fun chain => .write (.attributionChain chain.1 chain.2) := by
  rcases argumentOf_chain binds with ⟨uidArray, tagArray⟩
  change ((total (frame.argumentOf .intArray (.chain "uid"))).bind fun _ =>
    (total (frame.argumentOf .stringArray (.chain "tag"))).bind _) = _
  rw [uidArray, tagArray]
  rfl

theorem perform_writeString {value : String} {name : Name} (reads : name.reads = .arg argIndex)
    (binds : plainConvention.Binds frame.bindings argIndex (.string value)) :
    (EventCall.writeString name).perform frame =
      (convertString value).map fun value => .write (.string value) := by
  have read : frame.argumentOf .string (.arg argIndex) = .ok (.string value) :=
    argumentOf_arg binds nofun
  rw [EventCall.perform, reads, read]
  rfl

/-- The call that the switch prints for a field performs the write of the argument
unless a conversion refuses it. -/
theorem exists_call_of_writeField
    (binds : plainConvention.Binds frame.bindings argIndex argument)
    (type : argument.type = lowered atomField.javaType)
    (isWritten : writeField attributionDecl argIndex atomField = .ok written) :
    ∃ call, written = [.call call] ∧
      (converts argument = true → call.perform frame = .ok (.write argument)) ∧
      (converts argument = false →
        ∃ reason ∈ [Halt.nullChar, .conversion], call.perform frame = .error reason) := by
  rcases atomField with ⟨name, javaType, enumValues, enumTypeName⟩
  cases argument with
  | attributionChain uids tags =>
      cases javaType <;> cases type
      cases isWritten
      refine ⟨_, rfl, ?_, ?_⟩
      · intro accepted
        rw [perform_writeAttributionChain binds, convertChain_of_converts accepted]
        rfl
      · intro refused
        obtain ⟨reason, listed, fails⟩ := convertChain_of_not_converts refused
        refine ⟨reason, listed, ?_⟩
        rw [perform_writeAttributionChain binds, fails]
        rfl
  | string value =>
      cases javaType <;> cases type
      cases isWritten
      refine ⟨_, rfl, ?_, ?_⟩
      · intro accepted
        rw [converts, Bool.not_eq_true'] at accepted
        rw [perform_writeString rfl binds, convertString, accepted]
        rfl
      · intro refused
        rw [converts, Bool.not_eq_false'] at refused
        refine ⟨.nullChar, by simp, ?_⟩
        rw [perform_writeString rfl binds, convertString, refused]
        rfl
  | boolean _ | int _ | long _ | float _ | byteArray _ =>
      have read := argumentOf_arg binds nofun
      cases javaType <;> cases type
      all_goals
        cases isWritten
        refine ⟨_, rfl, ?_, nofun⟩
        intro _
        exact congrArg (fun result => total (result.map EventOp.write)) read
  | booleanArray _ | intArray _ | longArray _ | floatArray _ | stringArray _ =>
      cases javaType <;> cases type
      all_goals contradiction

end Writes

/-! ## Success -/

theorem writeField_isOk (argIndex : Int) {atomField : AtomField}
    (member : lowered atomField.javaType ∈ signatureTypes) :
    (writeField attributionDecl argIndex atomField).isOk =
      !atomField.javaType.isRepeatedField := by
  rcases atomField with ⟨name, javaType, enumValues, enumTypeName⟩
  cases javaType <;> first | rfl | exact absurd member (by simp [lowered, signatureTypes])

/-- Lowering keeps what is repeated. -/
theorem hasRepeatedField_eq (decl : AtomDecl) :
    hasRepeatedField decl = containsRepeatedField decl.signature := by
  rw [hasRepeatedField, containsRepeatedField, AtomDecl.signature, List.any_map]
  congr 1
  funext atomField
  rcases atomField with ⟨name, javaType, enumValues, enumTypeName⟩
  cases javaType <;> rfl

/-- A body can be written above Q for an atom without repeated fields. -/
theorem writeRustMethodBody_isOk (constants : AnnotationIdConstants) {minApiLevel : Int}
    {decl : AtomDecl} (accepted : ∀ type ∈ decl.signature, type ∈ signatureTypes)
    (level : minApiLevel ≠ apiQ) (notRepeated : hasRepeatedField decl = false) :
    (writeRustMethodBody constants attributionDecl minApiLevel decl).isOk = true := by
  have loop : (writeArguments (writeField attributionDecl) (writeAnnotations constants decl) 1
      decl.fields).isOk = decl.fields.all fun atomField => !atomField.javaType.isRepeatedField := by
    apply writeArguments_isOk
    intro argIndex atomField member
    apply writeField_isOk
    exact accepted _ (List.mem_map.mpr ⟨atomField, member, rfl⟩)
  rw [writeRustMethodBody, if_neg level, isOk_map, loop, ← List.not_any_eq_all_not,
    ← hasRepeatedField, notRepeated]
  rfl

/-! ## Events -/

section Events

variable {atoms : Atoms} {declSets : FieldNumberToAtomDeclSet} {decl : AtomDecl}
  {minApiLevel : Int} {frame : Frame} {arguments : List Argument}
  {code : List (Code Condition EventCall)}

/-- The variants of `Atoms` are distinct. -/
def DistinctVariants (atoms : Atoms) : Prop :=
  ((writeRustAtomConstants atoms).map Prod.fst).Nodup

/-- A frame in which a function of an atom runs with arguments. -/
structure RunsWith (frame : Frame) (atoms : Atoms) (arguments : List Argument) : Prop where
  atomConstants : frame.atomConstants = writeRustAtomConstants atoms
  constants : frame.constants = fun name => (writeRustAnnotationConstants
    (getAnnotationIdConstants annotationConstantNamePrefix)).lookup name
  comparable : frame.comparable = rustComparable
  binds : ∀ (index : Nat) argument, arguments[index]? = some argument →
    plainConvention.Binds frame.bindings (1 + index) argument

/-- What a function can compare for a declaration: integers with states. -/
abbrev Issues (decl : AtomDecl) : Prop :=
  Issuable 0 rustComparable (fun _ => True) decl

/-- What is printed for the annotations of a field issues them. -/
theorem emits_writeAnnotations (runs : RunsWith frame atoms arguments) {fieldNumber : Int}
    {equals : Int → Bool}
    (compared : HasReset (annotationsOf decl fieldNumber) →
      (recorder frame).holds (stateCondition decl fieldNumber
        (declaredState .triggerStateReset (annotationsOf decl fieldNumber))) =
        .ok (equals (declaredState .triggerStateReset (annotationsOf decl fieldNumber)))) :
    Emits (recorder frame)
      (.block (writeAnnotations (getAnnotationIdConstants annotationConstantNamePrefix) decl
        fieldNumber))
      (fieldOps decl fieldNumber equals) := by
  rw [writeAnnotations, fieldOps]
  rw [annotationsOf] at compared ⊢
  cases stored : decl.fieldNumberToAnnotations[fieldNumber]? with
  | none => exact emits_skip
  | some annotations =>
      rw [stored, Option.getD_some] at compared
      exact emits_annotationSet (issuesAnnotations runs.constants)
        (issuesCategories runs.constants) (fun _ _ _ _ _ => trivial) compared

/-- The comparison for a reset compares the argument. -/
theorem holds_stateCondition (runs : RunsWith frame atoms arguments)
    (typed : arguments.map Argument.type = decl.signature) {index : Nat} {argument : Argument}
    (found : arguments[index]? = some argument) {state : Int}
    (legal : rustComparable argument.type state = true) :
    (recorder frame).holds (stateCondition decl (1 + index) state) =
      .ok (argument.equals state) := by
  have notChain : argument.type ≠ .attributionChain := by
    intro isChain
    rw [isChain] at legal
    contradiction
  have bound := runs.binds index argument found _
    (plainConvention_valid.argument _ argument notChain)
  have entry := congrArg (fun signature : Signature => signature[index]?) typed
  simp only [AtomDecl.signature, List.getElem?_map, found, Option.map_some] at entry
  obtain ⟨atomField, fieldFound, -⟩ := Option.map_eq_some_iff.mp entry.symm
  have position : (1 + (index : Int) - 1).toNat = index := by omega
  rw [stateCondition, if_neg (by omega), position, fieldFound]
  exact congrArg total (Frame.holds_argIs bound (runs.comparable ▸ legal))

/-- The loop over the fields writes the arguments that the conversions accept. -/
theorem writesArguments (issuable : Issues decl)
    (typed : arguments.map Argument.type = decl.signature)
    (runs : RunsWith frame atoms arguments) :
    WritesArguments (recorder frame) (writeField attributionDecl)
      (writeAnnotations (getAnnotationIdConstants annotationConstantNamePrefix) decl)
      (fun argument => converts argument = true)
      (fun reason => reason ∈ [Halt.nullChar, .conversion]) decl 1 decl.fields arguments := by
  have typeEq {index : Nat} {atomField : AtomField} {argument : Argument}
      (fieldFound : decl.fields[index]? = some atomField)
      (found : arguments[index]? = some argument) :
      argument.type = lowered atomField.javaType := by
    have entry := congrArg (fun signature : Signature => signature[index]?) typed
    simpa only [AtomDecl.signature, List.getElem?_map, found, fieldFound, Option.map_some,
      Option.some.injEq] using entry
  constructor
  · have lengths := congrArg List.length typed
    rw [AtomDecl.signature, List.length_map, List.length_map] at lengths
    exact lengths.symm
  · intro index atomField argument written fieldFound found isWritten accepted
    obtain ⟨call, rfl, performs, -⟩ := exists_call_of_writeField (runs.binds index argument found)
      (typeEq fieldFound found) isWritten
    exact emits_write (performs accepted)
  · intro index atomField argument written fieldFound found isWritten refused
    obtain ⟨call, rfl, -, fails⟩ := exists_call_of_writeField (runs.binds index argument found)
      (typeEq fieldFound found) isWritten
    rw [Bool.not_eq_true] at refused
    obtain ⟨reason, listed, failed⟩ := fails refused
    exact ⟨reason, listed, stops_write failed⟩
  · intro index argument found
    apply emits_writeAnnotations runs
    intro hasReset
    have typeFound : decl.signature[index]? = some argument.type := by
      rw [← typed, List.getElem?_map, found, Option.map_some]
    exact holds_stateCondition runs typed found
      (issuable.compared index argument.type (Nat.zero_le index) typeFound hasReset)

/-- What a call makes of arguments: the event of the atom, or an early return when a
conversion refuses one of them. -/
structure Converted (arguments : List Argument) (events : List EventOp)
    (result : Except Halt (List EventOp)) : Prop where
  accepted : (∀ argument ∈ arguments, converts argument = true) → result = .ok events
  refused : (∃ argument ∈ arguments, ¬converts argument = true) →
    ∃ reason ∈ [Halt.nullChar, .conversion], result = .error reason

/-- The statements before the loop issue the id of the atom and its annotations. -/
theorem emits_atom (logged : Logged atoms declSets decl) (distinct : DistinctVariants atoms)
    (runs : RunsWith frame atoms arguments) :
    Emits (recorder frame)
      (.block (.call (.setAtomId (makeCamelCaseName decl.name)) ::
        writeAnnotations (getAnnotationIdConstants annotationConstantNamePrefix) decl
          atomIdFieldNumber))
      (.setAtomId decl.code :: fieldOps decl atomIdFieldNumber fun _ => false) := by
  have constant : frame.atomConstants.lookup (makeCamelCaseName decl.name) = some decl.code := by
    rw [runs.atomConstants]
    exact lookup_eq_some_of_mem distinct (List.mem_map_of_mem logged.member)
  have sets : (recorder frame).event (.setAtomId (makeCamelCaseName decl.name)) =
      .ok (.setAtomId decl.code) := by
    change total ((frame.atomConstant _).map _) = _
    rw [Frame.atomConstant, constant]
    rfl
  apply (emits_call sets).seq
  apply emits_writeAnnotations runs
  intro hasReset
  exact absurd hasReset logged.noReset

theorem writeRustMethodBody_record (logged : Logged atoms declSets decl)
    (issuable : Issues decl) (distinct : DistinctVariants atoms)
    (typed : arguments.map Argument.type = decl.signature)
    (runs : RunsWith frame atoms arguments)
    (printed : writeRustMethodBody (getAnnotationIdConstants annotationConstantNamePrefix)
      attributionDecl minApiLevel decl = .ok code) :
    Converted arguments (atomEvent decl arguments)
      (record (recorder frame) (.block code)) := by
  rw [writeRustMethodBody] at printed
  split at printed
  · contradiction
  · obtain ⟨loop, loopPrinted, rfl⟩ := map_eq_ok_iff.mp printed
    have begins := emits_atom logged distinct runs
    have all := writesArguments issuable typed runs
    rw [← List.cons_append]
    constructor
    · intro accepted
      apply Emits.record_eq
      exact begins.block_append (emits_writeArguments all accepted loopPrinted)
    · intro refused
      obtain ⟨reason, listed, stops⟩ := stops_writeArguments all refused loopPrinted
      exact ⟨reason, listed, (begins.block_append_stops stops).record_eq⟩

/-- A call of the function of an atom binds its fields to the arguments. -/
theorem binds_function (accepted : AcceptedSignature decl.signature)
    (typed : arguments.map Argument.type = decl.signature) {function : Function}
    (parameters : function.parameters = writeRustMethodSignature attributionDecl decl false)
    (values : function.values arguments =
      (if decl.atomType = .pulled then [.eventList] else []) ++ arguments.flatMap plainValues)
    {index : Nat} {argument : Argument} (found : arguments[index]? = some argument) :
    plainConvention.Binds ((function.parameters.map fun parameter => parameter.name.reads).zip
      (function.values arguments)) (1 + index) argument := by
  have names : (signatureParameters attributionDecl false 1 decl.fields).map
      (fun parameter => parameter.name.reads) =
        plainConvention.namesFrom 1 (arguments.map Argument.type) := by
    rw [signatureParameters_reads, typed]
    rfl
  have binds : plainConvention.Binds ((plainConvention.namesFrom 1
      (arguments.map Argument.type)).zip (arguments.flatMap plainValues)) (1 + index)
        argument := by
    have distinct : ((plainConvention.bind decl.code decl.signature arguments).map
        Prod.fst).Nodup :=
      Convention.nodup_bind plainConvention_valid accepted typed
    rw [Convention.bind, List.zip_cons_cons, List.map_cons, List.nodup_cons, ← typed] at distinct
    exact Convention.binds_of_mem plainConvention_valid distinct.2 (fun pair member => member) found
  rw [parameters, writeRustMethodSignature, values]
  by_cases isPulled : decl.atomType = .pulled
  · rw [if_pos isPulled, if_pos isPulled, List.map_append, names]
    exact binds.cons plainConvention_valid rfl _
  · rw [if_neg isPulled, if_neg isPulled, List.nil_append, List.nil_append, names]
    exact binds

theorem runsWith (logged : Logged atoms declSets decl)
    (typed : arguments.map Argument.type = decl.signature) {function : Function}
    (parameters : function.parameters = writeRustMethodSignature attributionDecl decl false)
    (values : function.values arguments =
      (if decl.atomType = .pulled then [.eventList] else []) ++ arguments.flatMap plainValues) :
    RunsWith (Rust.frame atoms (getAnnotationIdConstants annotationConstantNamePrefix) function
      (function.values arguments)) atoms arguments :=
  ⟨rfl, rfl, rfl, fun _ _ found => binds_function logged.accepted typed parameters values found⟩

/-- Above Q the function of an atom without repeated fields issues the event of the
atom unless a conversion refuses an argument. -/
theorem statsWrite_converted (logged : Logged atoms declSets decl) (issuable : Issues decl)
    (distinct : DistinctVariants atoms) (typed : arguments.map Argument.type = decl.signature)
    (level : minApiLevel ≠ apiQ) (notRepeated : hasRepeatedField decl = false) :
    ∃ function, writeRustStatsWriteMethod
        (getAnnotationIdConstants annotationConstantNamePrefix) attributionDecl minApiLevel
        decl = .ok function ∧
      Converted arguments (atomEvent decl arguments)
        (function.call atoms (getAnnotationIdConstants annotationConstantNamePrefix)
          arguments) := by
  have isOk := writeRustMethodBody_isOk (getAnnotationIdConstants annotationConstantNamePrefix)
    (mem_signatureTypes logged.accepted) level notRepeated
  obtain ⟨code, printed⟩ := isOk_iff_exists.mp isOk
  refine ⟨_, by rw [writeRustStatsWriteMethod, printed]; rfl, ?_⟩
  cases kind : decl.atomType with
  | pushed =>
      apply writeRustMethodBody_record logged issuable distinct typed _ printed
      exact runsWith logged typed rfl (by rw [kind]; rfl)
  | pulled =>
      apply writeRustMethodBody_record logged issuable distinct typed _ printed
      exact runsWith logged typed rfl (by rw [kind]; rfl)

end Events

end StatsLogApiGen.Rust
