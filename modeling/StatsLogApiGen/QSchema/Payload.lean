import StatsLogApiGen.QSchema.Passes
import StatsLogApiGen.Writer.Acceptance

/-!
# Payloads of Q-schema methods

The methods that are generated for the pushed atoms of an accepted descriptor: how
they fill their buffers, and when the payload can be parsed.
-/

namespace StatsLogApiGen.QSchema

open StatsLogApiGen.Format
open StatsLogApiGen.Container
open StatsLogApiGen.Proto
open StatsLogApiGen.Collation
open StatsLogApiGen.Writer

/-! ## Generated methods -/

/-- The class `QLogger` that is generated from a descriptor has the method for a pushed
signature. -/
structure Generates (descriptor : AtomDescriptor) (moduleName : String)
    (signature : Signature) (qLogger : QLogger) (method : Method) : Prop where
  exists_atoms : ∃ atoms, collateAtoms descriptor moduleName {} = (0, atoms) ∧
    (∃ constants supportWorkSource, (Java.writeStatsLogJava constants atoms attributionDecl apiQ
      supportWorkSource).qLogger = some qLogger) ∧
    ∃ entry ∈ atoms.signatureInfoMap.toList, entry.1 = signature ∧
      writeJavaMethodQSchema attributionDecl entry = .ok method
  declared : method ∈ qLogger.methods

theorem writeStatsLogJava_qLogger {constants : AnnotationIdConstants} {atoms : Atoms}
    {supportWorkSource : Bool} {qLogger : QLogger}
    (generated : (Java.writeStatsLogJava constants atoms attributionDecl apiQ
      supportWorkSource).qLogger = some qLogger) :
    writeJavaMethodsQSchema atoms.signatureInfoMap attributionDecl = .ok qLogger := by
  simp only [Java.writeStatsLogJava, if_true] at generated
  cases written : writeJavaMethodsQSchema atoms.signatureInfoMap attributionDecl with
  | error reason =>
      rw [written] at generated
      contradiction
  | ok other =>
      rw [written] at generated
      exact congrArg Except.ok (Option.some.inj generated)

theorem Generates.takes {descriptor : AtomDescriptor} {moduleName : String}
    {signature : Signature} {qLogger : QLogger} {method : Method} {arguments : List Argument}
    (generated : Generates descriptor moduleName signature qLogger method)
    (fits : arguments.map Argument.type = signature) : Takes qLogger method arguments := by
  obtain ⟨atoms, accepted, ⟨constants, supportWorkSource, output⟩, entry, entryMem, rfl,
    written⟩ := generated.exists_atoms
  obtain ⟨registrations, -, registered⟩ := collateAtoms_registered accepted
  obtain ⟨methods, -, isClass⟩ := map_eq_ok_iff.mp (writeStatsLogJava_qLogger output)
  have isMethod := method_eq fits written
  constructor
  · rw [fits]
    exact (acceptedMaps registered).pushed _ (mem_of_mem_toList entryMem)
  · rw [isMethod, fits]
  · rw [isMethod]
  · rw [isMethod]
  · rw [isMethod]
  · rw [← isClass]
    rfl
  · intro argument member helper required
    rw [← isClass]
    apply List.mem_flatMap.mpr
    refine ⟨entry, entryMem, List.mem_filterMap.mpr ⟨argument.type, ?_, required⟩⟩
    rw [← fits]
    exact List.mem_map_of_mem member

/-! ## Size and contents of the buffer -/

/-- Every byte of a buffer of the needed size is written once, and the positions end
where they should. -/
structure WritesExactly (needed : Int) (machine : Machine) : Prop where
  size : (machine.cursor.buff.size : Int) = needed
  inside : ∀ index ∈ machine.cursor.buff.written, (index : Int) < needed
  once : ∀ index : Nat, (index : Int) < needed → machine.cursor.buff.written.count index = 1
  helperCalls : ∀ call ∈ machine.helperCalls, call.Exact
  pos : machine.cursor.pos = needed

theorem Machine.Stands.writesExactly {machine : Machine} {values : List Byte}
    (stands : machine.Stands values values.length) : WritesExactly values.length machine := by
  have written := stands.cursor.filled.written
  constructor
  · exact congrArg Int.ofNat stands.cursor.size
  · intro index member
    rw [written, List.mem_range] at member
    exact Int.ofNat_lt.mpr member
  · intro index small
    rw [written]
    exact List.count_eq_one_of_mem List.nodup_range (List.mem_range.mpr (Int.ofNat_lt.mp small))
  · exact stands.helperCalls
  · exact stands.cursor.pos

theorem Takes.stands_of_ok {qLogger : QLogger} {method : Method} {arguments : List Argument}
    (takes : Takes qLogger method arguments) {arith : Arithmetic} {elapsedRealtime : BitVec 64}
    {code : BitVec 32} {needed : Int} {machine : Machine}
    (reached : qLogger.write arith method elapsedRealtime code arguments =
      .allocated needed (.ok machine)) :
    needed = eventSize elapsedRealtime code arguments ∧
    machine.Stands (encode itemTags (eventItem elapsedRealtime code arguments))
      (eventSize elapsedRealtime code arguments) := by
  obtain ⟨isNeeded, nonneg, notLarge, env, appends, isResult⟩ :=
    takes.allocated_cases arith elapsedRealtime code reached
  obtain ⟨room, stands⟩ := appends.of_ok (stands_start notLarge) isResult.symm
  rw [List.length_nil, Nat.zero_add] at room
  rw [List.nil_append] at stands
  have small : (eventSize elapsedRealtime code arguments : Int) < arrayLimit := by
    rw [maxEventPayload, loggerEntryMaxPayload] at notLarge
    rw [eventSize, arrayLimit]
    omega
  rw [arith.norm_of_small _ (Int.natCast_nonneg _) small] at isNeeded
  refine ⟨isNeeded, ?_⟩
  rwa [isNeeded, Int.toNat_natCast] at stands

/-- A call with arrays of one length for an event that is small enough succeeds. -/
theorem Takes.exists_ok {qLogger : QLogger} {method : Method} {arguments : List Argument}
    (takes : Takes qLogger method arguments) (arith : Arithmetic) (elapsedRealtime : BitVec 64)
    (code : BitVec 32) (isLiteral : isByteLiteral method.count = true)
    (sameLengths : ∀ argument ∈ arguments, argument.SameLengths)
    (small : (eventSize elapsedRealtime code arguments : Int) ≤ maxEventPayload) :
    ∃ machine, qLogger.write arith method elapsedRealtime code arguments =
      .allocated (eventSize elapsedRealtime code arguments) (.ok machine) := by
  obtain ⟨env, appends, called⟩ :=
    takes.write_eq arith elapsedRealtime code isLiteral sameLengths
  have start := stands_start small
  rw [Int.toNat_natCast] at start
  obtain ⟨machine, filled, -⟩ := appends.fits start (by rw [List.length_nil, Nat.zero_add]; rfl)
  have inRange : (eventSize elapsedRealtime code arguments : Int) < arrayLimit := by
    rw [maxEventPayload, loggerEntryMaxPayload] at small
    rw [arrayLimit]
    omega
  refine ⟨machine, ?_⟩
  rw [called, arith.norm_of_small _ (Int.natCast_nonneg _) inRange]
  simp only [if_neg (Int.not_lt.mpr small), if_neg (Int.not_lt.mpr (Int.natCast_nonneg _)), filled]

/-- The method for `wakelock_state_changed`. -/
def wakelockMethod : Method where
  parameters := [⟨"int", .code⟩, ⟨"int[]", .chain "uid"⟩, ⟨"java.lang.String[]", .chain "tag"⟩,
    ⟨"java.lang.String", .arg 2⟩, ⟨"int", .arg 3⟩]
  sizes := [.attributionChain "uid" "tag", .string 2, .int]
  count := 5
  writes := [.attributionChain "uid" "tag", .string 2, .int 3]

/-- The class that is generated from `wakelockDescriptor`. -/
def wakelockQLogger : QLogger where
  methods := [wakelockMethod]
  helpers := [.writeAttributionChain]
  nodeCount := 2

theorem generates_wakelockMethod :
    Generates wakelockDescriptor defaultModuleName [.attributionChain, .string, .int]
      wakelockQLogger wakelockMethod := by
  constructor
  · refine ⟨(collateAtoms wakelockDescriptor defaultModuleName {}).2,
      Prod.ext (by decide) rfl,
      ⟨getAnnotationIdConstants annotationConstantNamePrefix, false, by decide⟩, ?_⟩
    obtain ⟨⟨signature, entries⟩, member, rfl⟩ := exists_mem_toList
      (by decide : [.attributionChain, .string, .int] ∈
        (collateAtoms wakelockDescriptor defaultModuleName {}).2.signatureInfoMap)
    exact ⟨_, member, rfl, rfl⟩
  · exact List.mem_cons_self

/-- Arguments for `wakelock_state_changed` with a chain of some nodes. -/
def wakelockArguments (nodeCount : Nat) : List Argument :=
  [.attributionChain (some (List.replicate nodeCount 1000)) (some (List.replicate nodeCount none)),
    .string none, .int 1]

/-- Without bounds on integers, a call that allocates its buffer fills it exactly. -/
theorem fillsBufferExactly (descriptor : AtomDescriptor) (moduleName : String)
    (signature : Signature) (qLogger : QLogger) (method : Method)
    (generated : Generates descriptor moduleName signature qLogger method)
    (arguments : List Argument) (fits : arguments.map Argument.type = signature)
    (elapsedRealtime : BitVec 64) (code : BitVec 32) (needed : Int)
    (result : Except Failure Machine)
    (allocated : qLogger.write .unbounded method elapsedRealtime code arguments =
      .allocated needed result) :
    ∃ machine, result = .ok machine ∧ WritesExactly needed machine := by
  have takes := generated.takes fits
  obtain ⟨isNeeded, -, notLarge, env, appends, isResult⟩ :=
    takes.allocated_cases .unbounded elapsedRealtime code allocated
  change needed = (eventSize elapsedRealtime code arguments : Int) at isNeeded
  have start := stands_start notLarge
  rw [isNeeded, Int.toNat_natCast] at start
  obtain ⟨machine, filled, stands⟩ :=
    appends.fits start (by rw [List.length_nil, Nat.zero_add]; rfl)
  refine ⟨machine, ?_, ?_⟩
  · rw [isResult, isNeeded]
    exact filled
  · rw [isNeeded]
    exact stands.writesExactly

theorem sameLengths_wakelockArguments (nodeCount : Nat) :
    ∀ argument ∈ wakelockArguments nodeCount, argument.SameLengths := by
  simp [wakelockArguments, Argument.SameLengths]

theorem fillsBufferExactly_wakelock :
    ∃ result, wakelockQLogger.write .unbounded wakelockMethod 0 10 (wakelockArguments 1) =
        .allocated 40 result ∧ ∃ machine, result = .ok machine ∧ WritesExactly 40 machine := by
  have takes : Takes wakelockQLogger wakelockMethod (wakelockArguments 1) :=
    generates_wakelockMethod.takes rfl
  obtain ⟨machine, allocated⟩ := takes.exists_ok .unbounded 0 10 rfl
    (sameLengths_wakelockArguments 1) (by decide)
  exact ⟨_, allocated,
    fillsBufferExactly _ _ _ _ _ generates_wakelockMethod _ rfl _ _ _ _ allocated⟩

/-! ## Parsing the payload -/

/-- An attribution chain has no more nodes than a byte can count. -/
def Argument.ShortChain : Argument → Prop
  | .attributionChain _ tags => (tags.getD []).length ≤ 255
  | _ => True

theorem fits_nodeItem {uid : BitVec 32} {tag : Option JavaString}
    (small : (encode itemTags (nodeItem uid tag)).length < 2 ^ 32) : (nodeItem uid tag).Fits := by
  rw [size_nodeItem] at small
  apply Item.fits_list_iff.mpr
  constructor
  · exact (by decide : 2 < 2 ^ 8)
  · intro item member
    rcases List.mem_cons.mp member with rfl | isTag
    · exact .int uid
    · rw [List.mem_singleton.mp isTag]
      exact Item.fits_string_iff.mpr (by omega)

/-- Only the number of nodes of a chain can be too large for its bytes. -/
theorem Argument.fits_item_iff {argument : Argument} (sameLengths : argument.SameLengths)
    (small : argument.size < 2 ^ 32) : argument.item.Fits ↔ argument.ShortChain := by
  cases argument with
  | boolean value => exact iff_of_true (.int _) trivial
  | int value => exact iff_of_true (.int _) trivial
  | long value => exact iff_of_true (.long _) trivial
  | float bits => exact iff_of_true (.float _) trivial
  | string value =>
      rw [Argument.size, Argument.item, size_string] at small
      exact iff_of_true (Item.fits_string_iff.mpr (by omega)) trivial
  | byteArray bytes =>
      rw [Argument.size, Argument.item, size_string] at small
      exact iff_of_true (Item.fits_string_iff.mpr (by omega)) trivial
  | attributionChain uids tags =>
      change (uids.getD []).length = (tags.getD []).length at sameLengths
      rw [Argument.size, Argument.item, encode_list, List.length_append] at small
      have length : (nodeItems (uids.getD []) (tags.getD [])).length = (tags.getD []).length := by
        rw [nodeItems, List.length_map, List.length_zip, sameLengths, Nat.min_self]
      rw [Argument.item, Item.fits_list_iff, Argument.ShortChain, length]
      constructor
      · rintro ⟨short, -⟩
        exact Nat.lt_succ_iff.mp short
      · intro short
        refine ⟨Nat.lt_succ_iff.mpr short, ?_⟩
        intro item member
        have bound := length_encode_le_of_mem itemTags member
        obtain ⟨node, -, rfl⟩ := List.mem_map.mp member
        exact fits_nodeItem (by omega)

/-- The payload is parsed as the event exactly when its chains are short. -/
theorem Takes.parse_payload_iff {qLogger : QLogger} {method : Method} {arguments : List Argument}
    (takes : Takes qLogger method arguments) {arith : Arithmetic} {elapsedRealtime : BitVec 64}
    {code : BitVec 32} {needed : Int} {machine : Machine}
    (reached : qLogger.write arith method elapsedRealtime code arguments =
      .allocated needed (.ok machine)) :
    parse itemTags machine.payload = some (eventItem elapsedRealtime code arguments) ↔
      ∀ argument ∈ arguments, argument.ShortChain := by
  obtain ⟨isLiteral, sameLengths⟩ := takes.of_allocated _ elapsedRealtime code reached
  obtain ⟨-, -, notLarge, -⟩ := takes.allocated_cases _ elapsedRealtime code reached
  obtain ⟨isNeeded, stands⟩ := takes.stands_of_ok reached
  have payload : machine.payload =
      encode itemTags (eventItem elapsedRealtime code arguments) := by
    rw [Machine.payload, stands.cursor.filled.cells_eq stands.cursor.size, stands.cursor.pos,
      Int.toNat_natCast, List.take_length]
  have small : (encodeAll itemTags (arguments.map Argument.item)).length < 2 ^ 32 := by
    rw [isNeeded, eventSize_eq, maxEventPayload, loggerEntryMaxPayload] at notLarge
    omega
  have count : arguments.length + 2 < 2 ^ 8 := by
    rw [takes.count, isByteLiteral, decide_eq_true_iff] at isLiteral
    omega
  have each {argument : Argument} (member : argument ∈ arguments) :
      argument.item.Fits ↔ argument.ShortChain := by
    apply Argument.fits_item_iff (sameLengths argument member)
    have bound := length_encode_le_of_mem itemTags (List.mem_map_of_mem (f := Argument.item) member)
    exact Nat.lt_of_le_of_lt bound small
  rw [payload, parse_encode_iff, eventItem, Item.fits_list_iff]
  constructor
  · rintro ⟨-, all⟩ argument member
    apply (each member).mp
    apply all
    exact List.mem_cons_of_mem _ (List.mem_cons_of_mem _ (List.mem_map_of_mem member))
  · intro short
    constructor
    · rw [List.length_cons, List.length_cons, List.length_map]
      exact count
    · intro item member
      rcases List.mem_cons.mp member with rfl | later
      · exact .long _
      rcases List.mem_cons.mp later with rfl | isArgument
      · exact .int _
      · obtain ⟨argument, argumentMem, rfl⟩ := List.mem_map.mp isArgument
        exact (each argumentMem).mpr (short argument argumentMem)

/-- In Java, the payload of a call that reaches `StatsLog.writeRaw` is parsed as the event
exactly when no attribution chain has more than 255 nodes. -/
theorem payload_parses_iff (descriptor : AtomDescriptor) (moduleName : String)
    (signature : Signature) (qLogger : QLogger) (method : Method)
    (generated : Generates descriptor moduleName signature qLogger method)
    (arguments : List Argument) (fits : arguments.map Argument.type = signature)
    (elapsedRealtime : BitVec 64) (code : BitVec 32) (needed : Int) (machine : Machine)
    (reached : qLogger.write .wrapping method elapsedRealtime code arguments =
      .allocated needed (.ok machine)) :
    parse itemTags machine.payload = some (eventItem elapsedRealtime code arguments) ↔
      ∀ argument ∈ arguments, argument.ShortChain :=
  (generated.takes fits).parse_payload_iff reached

theorem payload_parses_wakelock :
    ∃ machine, wakelockQLogger.write .wrapping wakelockMethod 0 10 (wakelockArguments 1) =
        .allocated 40 (.ok machine) ∧
      (parse itemTags machine.payload = some (eventItem 0 10 (wakelockArguments 1)) ↔
        ∀ argument ∈ wakelockArguments 1, argument.ShortChain) := by
  have takes : Takes wakelockQLogger wakelockMethod (wakelockArguments 1) :=
    generates_wakelockMethod.takes rfl
  obtain ⟨machine, reached⟩ := takes.exists_ok .wrapping 0 10 rfl
    (sameLengths_wakelockArguments 1) (by decide)
  exact ⟨machine, reached,
    payload_parses_iff _ _ _ _ _ generates_wakelockMethod _ rfl _ _ _ _ reached⟩

/-- A chain of 256 nodes is counted as empty. -/
theorem not_payload_parses_longChain :
    ∃ machine, wakelockQLogger.write .wrapping wakelockMethod 0 10 (wakelockArguments 256) =
        .allocated 3100 (.ok machine) ∧
      parse itemTags machine.payload ≠ some (eventItem 0 10 (wakelockArguments 256)) := by
  have takes : Takes wakelockQLogger wakelockMethod (wakelockArguments 256) :=
    generates_wakelockMethod.takes rfl
  have size : eventSize 0 10 (wakelockArguments 256) = 3100 := by decide +kernel
  obtain ⟨machine, reached⟩ := takes.exists_ok .wrapping 0 10 rfl
    (sameLengths_wakelockArguments 256) (by rw [size]; decide)
  refine ⟨machine, by rw [reached, size]; rfl, ?_⟩
  intro parsed
  have short : (List.replicate 256 (none : Option JavaString)).length ≤ 255 :=
    (takes.parse_payload_iff reached).mp parsed _ List.mem_cons_self
  rw [List.length_replicate] at short
  omega

end StatsLogApiGen.QSchema
