import StatsLogApiGen.QSchema.Payload

/-!
# The guard on the payload

The size of an event is added up in an int, and one comparison with
`MAX_EVENT_PAYLOAD` decides between the buffer and an early return.  The comparison
is right as long as the sum, reduced to 32 bits, is on the same side of the limit as
the size of the event.
-/

namespace StatsLogApiGen.QSchema

open StatsLogApiGen.Format
open StatsLogApiGen.Proto
open StatsLogApiGen.Collation
open StatsLogApiGen.Writer

/-- A call is for an event that can be written: the arrays of a chain belong together,
and the event is no larger than a payload. -/
structure Fitting (elapsedRealtime : BitVec 64) (code : BitVec 32)
    (arguments : List Argument) : Prop where
  sameLengths : ∀ argument ∈ arguments, argument.SameLengths
  small : (eventSize elapsedRealtime code arguments : Int) ≤ maxEventPayload

/-- Events that can be written fill a buffer of their size, all others are left out
without a failure. -/
structure GuardsExactly (elapsedRealtime : BitVec 64) (code : BitVec 32)
    (arguments : List Argument) (outcome : Outcome) : Prop where
  fills : Fitting elapsedRealtime code arguments → ∃ machine,
    outcome = .allocated (eventSize elapsedRealtime code arguments) (.ok machine) ∧
      WritesExactly (eventSize elapsedRealtime code arguments) machine
  returns : ¬Fitting elapsedRealtime code arguments → outcome = .returned

/-- The sum of the sizes passes the guard although the event is too large. -/
def SlipsThrough (elapsedRealtime : BitVec 64) (code : BitVec 32)
    (arguments : List Argument) : Prop :=
  (∀ argument ∈ arguments, argument.SameLengths) ∧
    maxEventPayload < (eventSize elapsedRealtime code arguments : Int) ∧
      Int.bmod (eventSize elapsedRealtime code arguments) (2 ^ 32) ≤ maxEventPayload

@[simp]
theorem wrapping_norm (value : Int) : Arithmetic.wrapping.norm value = value.bmod (2 ^ 32) :=
  rfl

/-- Every byte literal of the class is one, for a signature of so many entries. -/
theorem isByteLiteral_count {qLogger : QLogger} {method : Method} {arguments : List Argument}
    (takes : Takes qLogger method arguments) :
    isByteLiteral method.count = true ↔ arguments.length ≤ 125 := by
  rw [takes.count, isByteLiteral, decide_eq_true_iff]
  omega

section Call

variable {qLogger : QLogger} {method : Method} {arguments : List Argument}
  (takes : Takes qLogger method arguments) (arith : Arithmetic) (elapsedRealtime : BitVec 64)
  (code : BitVec 32)

theorem write_of_not_isByteLiteral (tooMany : ¬isByteLiteral method.count = true) :
    qLogger.write arith method elapsedRealtime code arguments = .doesNotCompile := by
  rw [QLogger.write, if_neg]
  intro literals
  exact tooMany (Bool.and_eq_true_iff.mp literals).1

include takes

/-- A call with arrays of different lengths returns before anything is allocated. -/
theorem Takes.write_of_differ (isLiteral : isByteLiteral method.count = true)
    (differ : ¬∀ argument ∈ arguments, argument.SameLengths) :
    qLogger.write arith method elapsedRealtime code arguments = .returned := by
  have pass := takes.foldlM_addSize arith elapsedRealtime code
  rw [if_neg differ] at pass
  have literals : (isByteLiteral method.count && isByteLiteral qLogger.nodeCount) = true := by
    rw [isLiteral, takes.twoFields]
    rfl
  rw [QLogger.write, if_pos literals]
  simp only [pass]

/-- The comparison decides about the calls that reach it. -/
theorem Takes.write_eq_returned_iff (isLiteral : isByteLiteral method.count = true)
    (sameLengths : ∀ argument ∈ arguments, argument.SameLengths) :
    qLogger.write arith method elapsedRealtime code arguments = .returned ↔
      maxEventPayload < arith.norm (eventSize elapsedRealtime code arguments) := by
  rcases takes.write_eq arith elapsedRealtime code isLiteral sameLengths with ⟨env, -, called⟩
  rw [called]
  simp only [gt_iff_lt]
  constructor
  · intro returned
    by_contra passes
    rw [if_neg passes] at returned
    split at returned
    · cases returned
    · cases returned
  · intro stopped
    rw [if_pos stopped]

/-- An event that slips through is not left out. -/
theorem Takes.write_ne_returned (isLiteral : isByteLiteral method.count = true)
    (slips : SlipsThrough elapsedRealtime code arguments) :
    qLogger.write .wrapping method elapsedRealtime code arguments ≠ .returned := by
  intro returned
  have stopped := (takes.write_eq_returned_iff .wrapping elapsedRealtime code isLiteral
    slips.1).mp returned
  rw [wrapping_norm] at stopped
  exact Int.not_lt.mpr slips.2.2 stopped

theorem Takes.write_returns (isLiteral : isByteLiteral method.count = true)
    (noSlip : ¬SlipsThrough elapsedRealtime code arguments)
    (unfit : ¬Fitting elapsedRealtime code arguments) :
    qLogger.write .wrapping method elapsedRealtime code arguments = .returned := by
  by_cases sameLengths : ∀ argument ∈ arguments, argument.SameLengths
  · apply (takes.write_eq_returned_iff .wrapping elapsedRealtime code isLiteral sameLengths).mpr
    have large : maxEventPayload < (eventSize elapsedRealtime code arguments : Int) := by
      by_contra notLarge
      exact unfit ⟨sameLengths, Int.not_lt.mp notLarge⟩
    by_contra passes
    rw [wrapping_norm] at passes
    exact noSlip ⟨sameLengths, large, Int.not_lt.mp passes⟩
  · exact takes.write_of_differ .wrapping elapsedRealtime code isLiteral sameLengths

theorem Takes.fills_of_fitting (isLiteral : isByteLiteral method.count = true)
    (fitting : Fitting elapsedRealtime code arguments) : ∃ machine,
    qLogger.write arith method elapsedRealtime code arguments =
        .allocated (eventSize elapsedRealtime code arguments) (.ok machine) ∧
      WritesExactly (eventSize elapsedRealtime code arguments) machine := by
  rcases takes.exists_ok arith elapsedRealtime code isLiteral fitting.sameLengths fitting.small
    with ⟨machine, reached⟩
  exact ⟨machine, reached, (takes.stands_of_ok reached).2.writesExactly⟩

theorem Takes.guardsExactly_iff :
    GuardsExactly elapsedRealtime code arguments
        (qLogger.write .wrapping method elapsedRealtime code arguments) ↔
      arguments.length ≤ 125 ∧ ¬SlipsThrough elapsedRealtime code arguments := by
  rw [← isByteLiteral_count takes]
  constructor
  · intro exactly
    -- A literal that is no byte spoils both branches of the guard.
    have isLiteral : isByteLiteral method.count = true := by
      by_contra tooMany
      have broken : qLogger.write .wrapping method elapsedRealtime code arguments =
          .doesNotCompile := write_of_not_isByteLiteral .wrapping elapsedRealtime code tooMany
      rw [broken] at exactly
      by_cases fitting : Fitting elapsedRealtime code arguments
      · rcases exactly.fills fitting with ⟨machine, reached, -⟩
        contradiction
      · have returned := exactly.returns fitting
        contradiction
    refine ⟨isLiteral, ?_⟩
    intro slips
    apply takes.write_ne_returned elapsedRealtime code isLiteral slips
    apply exactly.returns
    intro fitting
    exact Int.not_lt.mpr fitting.small slips.2.1
  · rintro ⟨isLiteral, noSlip⟩
    constructor
    · exact takes.fills_of_fitting .wrapping elapsedRealtime code isLiteral
    · exact takes.write_returns elapsedRealtime code isLiteral noSlip

end Call

/-- The guard of a generated method is exact unless the class has a literal that is no
byte, or the sum of the sizes slips through. -/
theorem guardsExactly_write_iff (descriptor : AtomDescriptor) (moduleName : String)
    (signature : Signature) (qLogger : QLogger) (method : Method)
    (generated : Generates descriptor moduleName signature qLogger method)
    (arguments : List Argument) (fits : arguments.map Argument.type = signature)
    (elapsedRealtime : BitVec 64) (code : BitVec 32) :
    GuardsExactly elapsedRealtime code arguments
        (qLogger.write .wrapping method elapsedRealtime code arguments) ↔
      signature.length ≤ 125 ∧ ¬SlipsThrough elapsedRealtime code arguments := by
  rw [← fits, List.length_map]
  exact (generated.takes fits).guardsExactly_iff elapsedRealtime code

theorem guardsExactly_write_wakelock :
    GuardsExactly 0 10 (wakelockArguments 1)
        (wakelockQLogger.write .wrapping wakelockMethod 0 10 (wakelockArguments 1)) ↔
      3 ≤ 125 ∧ ¬SlipsThrough 0 10 (wakelockArguments 1) :=
  guardsExactly_write_iff _ _ _ _ _ generates_wakelockMethod _ rfl _ _

/-- A node without a tag takes twelve bytes. -/
theorem eventSize_wakelockArguments (nodeCount : Nat) :
    eventSize 0 10 (wakelockArguments nodeCount) = 28 + 12 * nodeCount := by
  have nodes : (encodeAll itemTags (nodeItems (List.replicate nodeCount 1000)
      (List.replicate nodeCount none))).length = 12 * nodeCount := by
    induction nodeCount with
    | zero => rfl
    | succ count ih =>
        rw [List.replicate_succ, List.replicate_succ, nodeItems, List.zip_cons_cons,
          List.map_cons, encodeAll, List.length_append, size_nodeItem]
        rw [nodeItems] at ih
        rw [ih]
        change 12 + 12 * count = _
        omega
  have chain : (encode itemTags (Argument.item (.attributionChain
      (some (List.replicate nodeCount 1000)) (some (List.replicate nodeCount none))))).length =
        2 + 12 * nodeCount := by
    rw [Argument.item, encode_list, List.length_append]
    exact congrArg (2 + ·) nodes
  rw [eventSize_eq, wakelockArguments, List.map_cons, encodeAll, List.length_append, chain]
  change 16 + (2 + 12 * nodeCount + 10) = _
  omega

/-- A chain of `2 ^ 28` nodes makes the sum negative. -/
theorem not_guardsExactly_hugeChain :
    ¬GuardsExactly 0 10 (wakelockArguments (2 ^ 28))
      (wakelockQLogger.write .wrapping wakelockMethod 0 10 (wakelockArguments (2 ^ 28))) := by
  have takes : Takes wakelockQLogger wakelockMethod (wakelockArguments (2 ^ 28)) :=
    generates_wakelockMethod.takes rfl
  intro exactly
  apply ((takes.guardsExactly_iff 0 10).mp exactly).2
  refine ⟨sameLengths_wakelockArguments _, ?_, ?_⟩
  · rw [eventSize_wakelockArguments]
    decide
  · rw [eventSize_wakelockArguments]
    decide

end StatsLogApiGen.QSchema
