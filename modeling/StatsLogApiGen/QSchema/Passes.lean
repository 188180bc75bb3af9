import StatsLogApiGen.QSchema.Sizes

/-!
# The two passes agree

The write pass appends the bytes of every item to the buffer.  The buffer has the
size that the first pass has computed, so that it is filled exactly.
-/

namespace StatsLogApiGen.QSchema

open StatsLogApiGen.Format
open StatsLogApiGen.Container
open StatsLogApiGen.Collation
open StatsLogApiGen.Writer

/-! ## Statements of the write pass -/

/-- The helper has moved by the size that was computed for it. -/
def HelperCall.Exact (call : HelperCall) : Prop :=
  call.stop = call.start + call.attrSize

/-- The machine is behind what it has written. -/
structure Machine.Stands (machine : Machine) (front : List Byte) (size : Nat) : Prop where
  cursor : machine.cursor.Stands front size
  helperCalls : ∀ call ∈ machine.helperCalls, call.Exact

theorem appends_onCursor {action : Cursor → Except Failure Cursor} {values : List Byte}
    (appends : Appends Cursor.Stands action values) :
    Appends Machine.Stands (onCursor action) values := by
  constructor
  · intro machine front size stands room
    obtain ⟨cursor, acted, cursorStands⟩ := appends.fits stands.cursor room
    exact ⟨{ machine with cursor }, by rw [onCursor, acted]; rfl, cursorStands,
      stands.helperCalls⟩
  · intro machine front size stands full
    obtain ⟨reason, failed⟩ := appends.overflows stands.cursor full
    exact ⟨reason, by rw [onCursor, failed]; rfl⟩

section Perform

variable {arith : Arithmetic} {qLogger : QLogger} {env : Environment} {argIndex : Int}

/-- The call of the helper appends the chain, and the position moves on as far as in
the helper. -/
theorem appends_attributionChain {uids : Option (List (BitVec 32))}
    {tags : Option (List (Option JavaString))}
    (ready : Ready arith env argIndex (.attributionChain uids tags))
    (twoFields : qLogger.nodeCount = 2) (helper : .writeAttributionChain ∈ qLogger.helpers) :
    Appends Machine.Stands (perform arith qLogger env (.attributionChain "uid" "tag"))
      (encode itemTags (Argument.attributionChain uids tags).item) := by
  obtain ⟨isUids, isTags, isSize, sameLengths⟩ := ready
  have appends := appends_writeAttributionChain arith sameLengths
  constructor
  · intro machine front size stands room
    obtain ⟨after, written, afterStands⟩ := appends.fits stands.cursor room
    have small := stands.cursor.filled.small
    rw [stands.cursor.size] at small
    have exactSize : arith.norm (Argument.attributionChain uids tags).size =
        (Argument.attributionChain uids tags).size := by
      apply arith.norm_of_small
      · exact Int.natCast_nonneg _
      · change ((encode _ _).length : Int) < _
        omega
    have sum : after.pos = machine.cursor.pos + (Argument.attributionChain uids tags).size := by
      rw [afterStands.pos, stands.cursor.pos, List.length_append, Int.natCast_add]
      rfl
    have normal : arith.norm after.pos = after.pos := by
      have bound := afterStands.filled.length_small
      rw [afterStands.pos]
      exact arith.norm_of_small _ (Int.natCast_nonneg _) bound
    refine ⟨{ cursor := { buff := after.buff, pos := after.pos }
              helperCalls := machine.helperCalls ++ [⟨machine.cursor.pos, after.pos,
                (Argument.attributionChain uids tags).size⟩] }, ?_, afterStands, ?_⟩
    · simp only [perform, isUids, isTags, isSize, twoFields, helper, decide_true, written]
      rw [exactSize]
      simp only [Except.map, ← sum, normal]
    · intro call member
      rcases List.mem_append.mp member with earlier | new
      · exact stands.helperCalls call earlier
      · rw [List.mem_singleton.mp new]
        exact sum
  · intro machine front size stands full
    obtain ⟨reason, failed⟩ := appends.overflows stands.cursor full
    refine ⟨reason, ?_⟩
    simp only [perform, isUids, isTags, isSize, twoFields, helper, decide_true, failed]
    rfl

/-- A statement of the write pass appends the item of its argument. -/
theorem appends_perform {argument : Argument} (ready : Ready arith env argIndex argument)
    (twoFields : qLogger.nodeCount = 2)
    (helpers : ∀ helper, requiredHelper argument.type = some helper →
      helper ∈ qLogger.helpers) :
    Appends Machine.Stands (perform arith qLogger env (writeStatementOf argIndex argument))
      (encode itemTags argument.item) := by
  cases argument with
  | boolean value =>
      have isValue : env (.parameter (.arg argIndex)) = some (.boolean value) :=
        ready _ List.mem_cons_self
      apply (appends_onCursor (appends_putInt arith _)).of_eq
      intro machine
      simp only [writeStatementOf, perform, isValue]
  | int value =>
      have isValue : env (.parameter (.arg argIndex)) = some (.int value) :=
        ready _ List.mem_cons_self
      apply (appends_onCursor (appends_putInt arith value)).of_eq
      intro machine
      simp only [writeStatementOf, perform, isValue]
  | long value =>
      have isValue : env (.parameter (.arg argIndex)) = some (.long value) :=
        ready _ List.mem_cons_self
      apply (appends_onCursor (appends_putLong arith value)).of_eq
      intro machine
      simp only [writeStatementOf, perform, isValue]
  | float bits =>
      have isValue : env (.parameter (.arg argIndex)) = some (.float bits) :=
        ready _ List.mem_cons_self
      have hasHelper : Helper.copyFloat ∈ qLogger.helpers := helpers _ rfl
      apply (appends_onCursor (appends_putFloat arith bits)).of_eq
      intro machine
      simp only [writeStatementOf, perform, isValue, hasHelper, decide_true]
  | string value =>
      change env (.argBytes argIndex) = _ at ready
      apply (appends_onCursor (appends_putBytes arith _)).of_eq
      intro machine
      simp only [writeStatementOf, perform, ready]
  | byteArray bytes =>
      change env (.parameter (.arg argIndex)) = _ at ready
      apply (appends_onCursor (appends_putBytes arith _)).of_eq
      intro machine
      simp only [writeStatementOf, perform, ready]
  | attributionChain uids tags => exact appends_attributionChain ready twoFields (helpers _ rfl)

theorem appends_nothing : Appends Machine.Stands (.ok : Machine → Except Failure Machine) [] :=
  .pure fun stands => stands.cursor.length_le

/-- The statements of the write pass append the items of the arguments. -/
theorem appends_writes {arguments : List Argument}
    (ready : AllFrom (Ready arith env) argIndex arguments) (twoFields : qLogger.nodeCount = 2)
    (helpers : ∀ argument ∈ arguments, ∀ helper, requiredHelper argument.type = some helper →
      helper ∈ qLogger.helpers) :
    Appends Machine.Stands
      (fun machine => (eachFrom writeStatementOf argIndex arguments).foldlM
        (fun machine statement => perform arith qLogger env statement machine) machine)
      (encodeAll itemTags (arguments.map Argument.item)) := by
  induction arguments generalizing argIndex with
  | nil => exact appends_nothing
  | cons argument rest ih =>
      obtain ⟨first, later⟩ := ready
      apply (appends_perform first twoFields (helpers argument List.mem_cons_self)).bind
      exact ih later fun other member => helpers other (List.mem_cons_of_mem _ member)

/-- From the allocation on, a method appends the bytes of the event. -/
theorem appends_fill (arith : Arithmetic) {arguments : List Argument} {method : Method}
    {code : BitVec 32} (elapsedRealtime : BitVec 64)
    (isCode : env (.parameter .code) = some (.int code))
    (ready : AllFrom (Ready arith env) 1 arguments) (twoFields : qLogger.nodeCount = 2)
    (helpers : ∀ argument ∈ arguments, ∀ helper, requiredHelper argument.type = some helper →
      helper ∈ qLogger.helpers)
    (count : method.count = arguments.length + 2)
    (writes : method.writes = eachFrom writeStatementOf 1 arguments) :
    Appends Machine.Stands (fillFrom arith qLogger method elapsedRealtime env)
      (encode itemTags (eventItem elapsedRealtime code arguments)) := by
  have items : encode itemTags (eventItem elapsedRealtime code arguments) =
      listBegin (arguments.length + 2) ++ (encode itemTags (.long elapsedRealtime) ++
        (encode itemTags (.int code) ++
          encodeAll itemTags (arguments.map Argument.item))) := by
    rw [eventItem, encode_list, List.length_cons, List.length_cons, List.length_map, encodeAll,
      encodeAll]
  rw [items]
  unfold fillFrom
  rw [count, writes]
  apply (appends_onCursor (appends_putList arith _)).bind
  apply (appends_onCursor (appends_putLong arith _)).bind
  simp only [isCode]
  apply (appends_onCursor (appends_putInt arith _)).bind
  exact appends_writes ready twoFields helpers

end Perform

/-! ## Calls -/

/-- The method of a generated class that takes the arguments. -/
structure Takes (qLogger : QLogger) (method : Method) (arguments : List Argument) : Prop where
  accepted : AcceptedSignature (arguments.map Argument.type)
  parameters : method.parameters =
    ⟨"int", .code⟩ :: parametersFrom attributionDecl 1 (arguments.map Argument.type)
  sizes : method.sizes = eachFrom sizeStatementOf 1 arguments
  count : method.count = arguments.length + 2
  writes : method.writes = eachFrom writeStatementOf 1 arguments
  twoFields : qLogger.nodeCount = 2
  helpers : ∀ argument ∈ arguments, ∀ helper, requiredHelper argument.type = some helper →
    helper ∈ qLogger.helpers

/-- The number of bytes of the event. -/
def eventSize (elapsedRealtime : BitVec 64) (code : BitVec 32) (arguments : List Argument) : Nat :=
  (encode itemTags (eventItem elapsedRealtime code arguments)).length

section Call

variable {qLogger : QLogger} {method : Method} {arguments : List Argument}
  (takes : Takes qLogger method arguments) (arith : Arithmetic) (elapsedRealtime : BitVec 64)
  (code : BitVec 32)

theorem eventSize_eq : eventSize elapsedRealtime code arguments =
    16 + (encodeAll itemTags (arguments.map Argument.item)).length := by
  rw [eventSize, eventItem, encode_list, encodeAll, encodeAll, List.length_append,
    List.length_append, List.length_append]
  change 2 + (9 + (5 + _)) = _
  omega

include takes

/-- The size pass of a call. -/
theorem Takes.foldlM_addSize :
    let start : SizeState :=
      { env := Environment.ofCall method.parameters (.int code :: arguments.flatMap Argument.values)
        needed := arith.norm (listTypeOverhead + longTypeSize + intTypeSize) }
    if ∀ argument ∈ arguments, argument.SameLengths then
      ∃ after, after (.parameter .code) = some (.int code) ∧
        AllFrom (Ready arith after) 1 arguments ∧
        method.sizes.foldlM (addSize arith) start =
          .ok ⟨after, arith.norm (eventSize elapsedRealtime code arguments)⟩
    else
      method.sizes.foldlM (addSize arith) start = .error .returns := by
  obtain ⟨isCode, bound⟩ := ofCall_bound takes.accepted code
  rw [takes.parameters, takes.sizes]
  have pass := QSchema.foldlM_addSize arith (nodup_slotsFrom takes.accepted) bound
    (arith.norm_norm (listTypeOverhead + longTypeSize + intTypeSize))
  split
  · rename_i sameLengths
    rw [if_pos sameLengths] at pass
    obtain ⟨after, ready, frame, ran⟩ := pass
    refine ⟨after, ?_, ready, ?_⟩
    · rw [frame, isCode]
      intro member
      exact absurd (nonneg_of_mem_slotsFrom (by decide) member) (by decide)
    · rw [ran, arith.norm_norm_add, eventSize_eq, Int.natCast_add]
      rfl
  · rename_i differ
    rw [if_neg differ] at pass
    exact pass

/-- A call with arrays of one length compares the size of the event with the limit. -/
theorem Takes.write_eq (isLiteral : isByteLiteral method.count = true)
    (sameLengths : ∀ argument ∈ arguments, argument.SameLengths) :
    ∃ env, Appends Machine.Stands (fillFrom arith qLogger method elapsedRealtime env)
        (encode itemTags (eventItem elapsedRealtime code arguments)) ∧
      qLogger.write arith method elapsedRealtime code arguments =
        let needed := arith.norm (eventSize elapsedRealtime code arguments)
        if needed > maxEventPayload then .returned
        else if needed < 0 then .negativeArraySize
        else .allocated needed
          (fillFrom arith qLogger method elapsedRealtime env (.start needed)) := by
  have pass := takes.foldlM_addSize arith elapsedRealtime code
  rw [if_pos sameLengths] at pass
  obtain ⟨env, isCode, ready, ran⟩ := pass
  refine ⟨env, ?_, ?_⟩
  · exact appends_fill arith elapsedRealtime isCode ready takes.twoFields takes.helpers
      takes.count takes.writes
  · have literals : (isByteLiteral method.count && isByteLiteral qLogger.nodeCount) = true := by
      rw [isLiteral, takes.twoFields]
      rfl
    rw [QLogger.write, if_pos literals]
    simp only [ran]

/-- A call that allocates a buffer has arrays of one length. -/
theorem Takes.of_allocated {needed : Int} {result : Except Failure Machine}
    (allocated : qLogger.write arith method elapsedRealtime code arguments =
      .allocated needed result) :
    isByteLiteral method.count = true ∧ ∀ argument ∈ arguments, argument.SameLengths := by
  rw [QLogger.write] at allocated
  split at allocated
  · rename_i literals
    constructor
    · exact (Bool.and_eq_true_iff.mp literals).1
    · by_contra differ
      have pass := takes.foldlM_addSize arith elapsedRealtime code
      rw [if_neg differ] at pass
      simp only [pass] at allocated
      contradiction
  · contradiction

/-- The buffer of a call has the size of the event, as the arithmetic has it, and
either the event fits into it or the call fails. -/
theorem Takes.allocated_cases {needed : Int} {result : Except Failure Machine}
    (allocated : qLogger.write arith method elapsedRealtime code arguments =
      .allocated needed result) :
    needed = arith.norm (eventSize elapsedRealtime code arguments) ∧ 0 ≤ needed ∧
    needed ≤ maxEventPayload ∧
    ∃ env, Appends Machine.Stands (fillFrom arith qLogger method elapsedRealtime env)
        (encode itemTags (eventItem elapsedRealtime code arguments)) ∧
      result = fillFrom arith qLogger method elapsedRealtime env (.start needed) := by
  obtain ⟨isLiteral, sameLengths⟩ := takes.of_allocated arith elapsedRealtime code allocated
  obtain ⟨env, appends, called⟩ :=
    takes.write_eq arith elapsedRealtime code isLiteral sameLengths
  rw [called] at allocated
  simp only at allocated
  split at allocated
  · contradiction
  · rename_i notLarge
    split at allocated
    · contradiction
    · rename_i nonneg
      obtain ⟨rfl, rfl⟩ := Outcome.allocated.inj allocated
      exact ⟨rfl, Int.not_lt.mp nonneg, Int.not_lt.mp notLarge, env, appends, rfl⟩

end Call

theorem stands_start {needed : Int} (notLarge : needed ≤ maxEventPayload) :
    (Machine.start needed).Stands [] needed.toNat := by
  have small : (needed.toNat : Int) < arrayLimit := by
    rw [maxEventPayload, loggerEntryMaxPayload] at notLarge
    rw [arrayLimit]
    omega
  constructor
  · exact ⟨Buffer.filled_allocate small, rfl, Buffer.size_allocate _ _⟩
  · simp [Machine.start]

end StatsLogApiGen.QSchema
