import StatsLogApiGen.QSchema.Encoding
import StatsLogApiGen.Writer.Event

/-!
# The size pass

The size pass computes how many bytes the items of the arguments take, and leaves
in the variables of the method what the write pass reads.
-/

namespace StatsLogApiGen.QSchema

open StatsLogApiGen.Format
open StatsLogApiGen.Collation
open StatsLogApiGen.Container
open StatsLogApiGen.Writer

/-! ## Arguments and their indices -/

/-- One result for every argument from an index on. -/
def eachFrom {α : Type} (f : Int → Argument → α) : Int → List Argument → List α
  | _, [] => []
  | argIndex, argument :: rest => f argIndex argument :: eachFrom f (argIndex + 1) rest

/-- Something holds of every argument from an index on. -/
def AllFrom (holds : Int → Argument → Prop) : Int → List Argument → Prop
  | _, [] => True
  | argIndex, argument :: rest =>
      holds argIndex argument ∧ AllFrom holds (argIndex + 1) rest

theorem AllFrom.mono {holds others : Int → Argument → Prop} {argIndex : Int}
    {arguments : List Argument} {f : Int → Argument → Int}
    (all : AllFrom holds argIndex arguments)
    (implies : ∀ index argument, f index argument ∈ eachFrom f argIndex arguments →
      holds index argument → others index argument) : AllFrom others argIndex arguments := by
  induction arguments generalizing argIndex with
  | nil => trivial
  | cons argument rest ih =>
      obtain ⟨first, later⟩ := all
      constructor
      · exact implies argIndex argument List.mem_cons_self first
      · apply ih later
        intro index other member
        exact implies index other (List.mem_cons_of_mem _ member)

theorem eachArg_eq_ok {α : Type} {print : Int → JavaType → Except WriterError α}
    {f : Int → Argument → α}
    (prints : ∀ argIndex argument, print argIndex argument.type = .ok (f argIndex argument))
    (argIndex : Int) (arguments : List Argument) :
    eachArg print argIndex (arguments.map Argument.type) =
      .ok (eachFrom f argIndex arguments) := by
  induction arguments generalizing argIndex with
  | nil => rfl
  | cons argument rest ih =>
      rw [List.map_cons, eachArg, prints, Except.bind, ih]
      rfl

/-- The statement of the size pass for an argument. -/
def sizeStatementOf (argIndex : Int) : Argument → SizeStatement
  | .boolean _ | .int _ | .float _ => .int
  | .long _ => .long
  | .string _ => .string argIndex
  | .byteArray _ => .byteArray argIndex
  | .attributionChain .. => .attributionChain "uid" "tag"

/-- The statement of the write pass for an argument. -/
def writeStatementOf (argIndex : Int) : Argument → WriteStatement
  | .boolean _ => .boolean argIndex
  | .int _ => .int argIndex
  | .float _ => .float argIndex
  | .long _ => .long argIndex
  | .string _ => .string argIndex
  | .byteArray _ => .byteArray argIndex
  | .attributionChain .. => .attributionChain "uid" "tag"

/-- The method for a signature, told from arguments for it. -/
theorem method_eq {arguments : List Argument} {entry : Signature × FieldNumberToAtomDeclSet}
    {method : Method} (fits : arguments.map Argument.type = entry.1)
    (written : writeJavaMethodQSchema attributionDecl entry = .ok method) :
    method =
      { parameters := ⟨"int", .code⟩ :: parametersFrom attributionDecl 1 entry.1
        sizes := eachFrom sizeStatementOf 1 arguments
        count := arguments.length + 2
        writes := eachFrom writeStatementOf 1 arguments } := by
  have sizes : eachArg (sizeStatement attributionDecl) 1 (arguments.map Argument.type) =
      .ok (eachFrom sizeStatementOf 1 arguments) :=
    eachArg_eq_ok (fun argIndex argument => by cases argument <;> rfl) 1 arguments
  have writes : eachArg (writeStatement attributionDecl) 1 (arguments.map Argument.type) =
      .ok (eachFrom writeStatementOf 1 arguments) :=
    eachArg_eq_ok (fun argIndex argument => by cases argument <;> rfl) 1 arguments
  rw [fits] at sizes writes
  rw [writeJavaMethodQSchema, sizes, writes] at written
  obtain rfl := Except.ok.inj written
  rw [← fits, List.length_map]

/-! ## Variables of arguments -/

/-- The variables that belong to an argument have the same number.  Those of the
attribution chain have the number 0, and `code` has one of its own. -/
def Local.slot : Local → Int
  | .parameter .code => -1
  | .parameter (.arg argIndex) => argIndex
  | .argBytes argIndex => argIndex
  | _ => 0

/-- The number of the variables of an argument. -/
def slotOf (argIndex : Int) (argument : Argument) : Int :=
  if argument.type = .attributionChain then 0 else argIndex

/-- The parameters of an argument have the values of the call. -/
def Bound (env : Environment) (argIndex : Int) (argument : Argument) : Prop :=
  ∀ pair ∈ (plainConvention.names argIndex argument.type).zip argument.values,
    env (.parameter pair.1) = some pair.2

/-- The arrays of an attribution chain have one length. -/
def Argument.SameLengths : Argument → Prop
  | .attributionChain uids tags => (uids.getD []).length = (tags.getD []).length
  | _ => True

instance : DecidablePred Argument.SameLengths := fun argument => by
  cases argument <;> unfold Argument.SameLengths <;> infer_instance

/-- The number of bytes of an argument. -/
def Argument.size (argument : Argument) : Nat :=
  (encode itemTags argument.item).length

/-- What the write pass reads for an argument. -/
def Ready (arith : Arithmetic) (env : Environment) (argIndex : Int) : Argument → Prop
  | .string value => env (.argBytes argIndex) = some (.byteArray (some (bytesOf value)))
  | .byteArray bytes =>
      env (.parameter (.arg argIndex)) = some (.byteArray (some (bytes.getD [])))
  | .attributionChain uids tags =>
      env (.parameter (.chain "uid")) = some (.intArray (some (uids.getD []))) ∧
      env (.parameter (.chain "tag")) = some (.stringArray (some (tags.getD []))) ∧
      env .attrSize =
        some (.size (arith.norm (Argument.attributionChain uids tags).size)) ∧
      (uids.getD []).length = (tags.getD []).length
  | argument => Bound env argIndex argument

theorem slot_parameter {argIndex : Int} {argument : Argument} {name : Variable}
    (member : name ∈ plainConvention.names argIndex argument.type) :
    (Local.parameter name).slot = slotOf argIndex argument := by
  by_cases isChain : argument.type = .attributionChain
  · rw [isChain, plainConvention_names_chain] at member
    rw [slotOf, if_pos isChain]
    rcases List.mem_cons.mp member with rfl | isTag
    · rfl
    · rw [List.mem_singleton.mp isTag]
      rfl
  · rw [plainConvention_names_of_ne argIndex isChain, List.mem_singleton] at member
    rw [member, slotOf, if_neg isChain]
    rfl

section Agree

variable {before after : Environment} {argIndex : Int} {argument : Argument}
  (agree : ∀ name : Local, name.slot = slotOf argIndex argument → after name = before name)

include agree

theorem Bound.of_agree (bound : Bound before argIndex argument) :
    Bound after argIndex argument := by
  intro pair member
  rw [agree _ (slot_parameter (List.of_mem_zip member).1), bound pair member]

theorem Ready.of_agree {arith : Arithmetic} (ready : Ready arith before argIndex argument) :
    Ready arith after argIndex argument := by
  cases argument with
  | string value => exact (agree (.argBytes argIndex) rfl).trans ready
  | byteArray bytes => exact (agree (.parameter (.arg argIndex)) rfl).trans ready
  | attributionChain uids tags =>
      obtain ⟨uidsReady, tagsReady, attrSize, sameLengths⟩ := ready
      exact ⟨(agree _ rfl).trans uidsReady, (agree _ rfl).trans tagsReady,
        (agree _ rfl).trans attrSize, sameLengths⟩
  | _ => exact Bound.of_agree agree ready

end Agree

/-! ## One statement -/

namespace Environment

variable (env : Environment) (name : Local) (value : JavaValue)

@[simp]
theorem assign_self : env.assign name value name = some value :=
  if_pos rfl

theorem assign_of_ne {other : Local} (different : other ≠ name) :
    env.assign name value other = env other :=
  if_neg different

theorem assign_of_slot_ne {other : Local} (different : other.slot ≠ name.slot) :
    env.assign name value other = env other :=
  assign_of_ne env name value (fun equal => different (congrArg Local.slot equal))

end Environment

section Step

variable (arith : Arithmetic)

@[simp]
theorem size_string (bytes : List Byte) :
    (encode itemTags (.string bytes)).length = 5 + bytes.length := by
  rw [encode, List.length_cons, List.length_append, length_toLittleEndian]
  omega

theorem size_nodeItem (uid : BitVec 32) (tag : Option JavaString) :
    (encode itemTags (nodeItem uid tag)).length = 12 + (bytesOf tag).length := by
  rw [encode_nodeItem, List.length_append, List.length_append, size_string]
  simp only [listBegin, encode, List.length_cons, length_toLittleEndian]
  omega

/-- The loop over the tags adds up the sizes of the nodes. -/
theorem attrSizeOf_eq {uids : List (BitVec 32)} {tags : List (Option JavaString)}
    (sameLength : uids.length = tags.length) :
    attrSizeOf arith tags =
      arith.norm (encode itemTags (.list (nodeItems uids tags))).length := by
  have loop (start : Int) (isNormal : arith.norm start = start) :
      tags.foldl (fun attrSize tag => arith.norm (attrSize + arith.norm
        (listTypeOverhead + intTypeSize + stringTypeOverhead + (bytesOf tag).length))) start =
      arith.norm (start + (encodeAll itemTags (nodeItems uids tags)).length) := by
    induction tags generalizing uids start with
    | nil =>
        rw [nodeItems, List.zip_nil_right, List.foldl_nil]
        exact isNormal.symm.trans (congrArg arith.norm (Int.add_zero start).symm)
    | cons tag rest ih =>
        obtain ⟨uid, others, rfl⟩ := List.exists_cons_of_length_eq_add_one sameLength
        rw [List.foldl_cons, arith.norm_add_norm,
          ih (Nat.succ.inj sameLength) _ (arith.norm_norm _), arith.norm_norm_add]
        congr 1
        rw [nodeItems, nodeItems, List.zip_cons_cons, List.map_cons, encodeAll,
          List.length_append, size_nodeItem, Int.natCast_add, Int.natCast_add]
        change start + (12 + ((bytesOf tag).length : Int)) + _ =
          start + (((12 + (bytesOf tag).length : Nat) : Int) + _)
        omega
  have begins : (encode itemTags (.list (nodeItems uids tags))).length =
      2 + (encodeAll itemTags (nodeItems uids tags)).length := by
    rw [encode_list, List.length_append]
    rfl
  rw [attrSizeOf, loop listTypeOverhead (arith.norm_of_small _ (by decide) (by decide)), begins,
    Int.natCast_add]
  rfl

/-- What a statement of the size pass has done: the variables of its argument are ready,
the others are as before. -/
structure Measured (before after : Environment) (argIndex : Int) (argument : Argument) : Prop where
  ready : Ready arith after argIndex argument
  frame : ∀ name : Local, name.slot ≠ slotOf argIndex argument → after name = before name

variable {env : Environment} {argIndex : Int} {argument : Argument}

theorem addSize_string {value : Option JavaString} (bound : Bound env argIndex (.string value))
    (needed : Int) :
    ∃ after, Measured arith env after argIndex (.string value) ∧
      addSize arith ⟨env, needed⟩ (.string argIndex) =
        .ok ⟨after, arith.norm (needed + (Argument.string value).size)⟩ := by
  have isValue : env (.parameter (.arg argIndex)) = some (.string value) :=
    bound _ List.mem_cons_self
  refine ⟨(env.assign (.parameter (.arg argIndex)) (.string (some (value.getD [])))).assign
    (.argBytes argIndex) (.byteArray (some (bytesOf value))), ?_, ?_⟩
  · constructor
    · exact Environment.assign_self _ _ _
    · intro name other
      rw [Environment.assign_of_slot_ne _ _ _ other, Environment.assign_of_slot_ne _ _ _ other]
  · rw [Argument.size, Argument.item, size_string, Int.natCast_add, ← arith.norm_add_norm needed]
    simp only [addSize, isValue]
    rfl

theorem addSize_byteArray {bytes : Option (List Byte)}
    (bound : Bound env argIndex (.byteArray bytes)) (needed : Int) :
    ∃ after, Measured arith env after argIndex (.byteArray bytes) ∧
      addSize arith ⟨env, needed⟩ (.byteArray argIndex) =
        .ok ⟨after, arith.norm (needed + (Argument.byteArray bytes).size)⟩ := by
  have isValue : env (.parameter (.arg argIndex)) = some (.byteArray bytes) :=
    bound _ List.mem_cons_self
  refine ⟨env.assign (.parameter (.arg argIndex)) (.byteArray (some (bytes.getD []))), ?_, ?_⟩
  · constructor
    · exact Environment.assign_self _ _ _
    · intro name other
      exact Environment.assign_of_slot_ne _ _ _ other
  · rw [Argument.size, Argument.item, size_string, Int.natCast_add, ← arith.norm_add_norm needed]
    simp only [addSize, isValue]
    rfl

theorem addSize_attributionChain {uids : Option (List (BitVec 32))}
    {tags : Option (List (Option JavaString))}
    (bound : Bound env argIndex (.attributionChain uids tags)) (needed : Int) :
    if (Argument.attributionChain uids tags).SameLengths then
      ∃ after, Measured arith env after argIndex (.attributionChain uids tags) ∧
        addSize arith ⟨env, needed⟩ (.attributionChain "uid" "tag") =
          .ok ⟨after, arith.norm (needed + (Argument.attributionChain uids tags).size)⟩
    else
      addSize arith ⟨env, needed⟩ (.attributionChain "uid" "tag") = .error .returns := by
  have isUids : env (.parameter (.chain "uid")) = some (.intArray uids) :=
    bound _ List.mem_cons_self
  have isTags : env (.parameter (.chain "tag")) = some (.stringArray tags) :=
    bound _ (List.mem_cons_of_mem _ List.mem_cons_self)
  split
  · rename_i sameLengths
    refine ⟨((env.assign (.parameter (.chain "uid")) (.intArray (some (uids.getD [])))).assign
      (.parameter (.chain "tag")) (.stringArray (some (tags.getD [])))).assign .attrSize
        (.size (attrSizeOf arith (tags.getD []))), ?_, ?_⟩
    · constructor
      · refine ⟨rfl, rfl, ?_, sameLengths⟩
        rw [Environment.assign_self, attrSizeOf_eq arith sameLengths]
        rfl
      · intro name other
        rw [Environment.assign_of_slot_ne _ _ _ other, Environment.assign_of_slot_ne _ _ _ other,
          Environment.assign_of_slot_ne _ _ _ other]
    · rw [Argument.size, Argument.item, ← arith.norm_add_norm needed,
        ← attrSizeOf_eq arith sameLengths]
      simp only [addSize, isUids, isTags]
      exact if_neg (not_not.mpr sameLengths)
  · rename_i differ
    simp only [addSize, isUids, isTags]
    exact if_pos differ

/-- A statement adds the size of its argument, unless the arrays of a chain have
different lengths. -/
theorem addSize_eq (bound : Bound env argIndex argument) (needed : Int) :
    if argument.SameLengths then
      ∃ after, Measured arith env after argIndex argument ∧
        addSize arith ⟨env, needed⟩ (sizeStatementOf argIndex argument) =
          .ok ⟨after, arith.norm (needed + argument.size)⟩
    else
      addSize arith ⟨env, needed⟩ (sizeStatementOf argIndex argument) = .error .returns := by
  cases argument with
  | string value => exact addSize_string arith bound needed
  | byteArray bytes => exact addSize_byteArray arith bound needed
  | attributionChain uids tags => exact addSize_attributionChain arith bound needed
  | _ => exact ⟨env, ⟨bound, fun _ _ => rfl⟩, rfl⟩

end Step

/-! ## The whole pass -/

/-- The numbers of the variables of arguments. -/
abbrev slotsFrom : Int → List Argument → List Int :=
  eachFrom slotOf

/-- The pass adds up the sizes of all items, unless it gives up at a chain. -/
theorem foldlM_addSize (arith : Arithmetic) {arguments : List Argument} {argIndex : Int}
    (distinct : (slotsFrom argIndex arguments).Nodup) {env : Environment}
    (bound : AllFrom (Bound env) argIndex arguments) {needed : Int}
    (isNormal : arith.norm needed = needed) :
    if ∀ argument ∈ arguments, argument.SameLengths then
      ∃ after, AllFrom (Ready arith after) argIndex arguments ∧
        (∀ name : Local, name.slot ∉ slotsFrom argIndex arguments → after name = env name) ∧
        (eachFrom sizeStatementOf argIndex arguments).foldlM (addSize arith) ⟨env, needed⟩ =
          .ok ⟨after, arith.norm (needed +
            (encodeAll itemTags (arguments.map Argument.item)).length)⟩
    else
      (eachFrom sizeStatementOf argIndex arguments).foldlM (addSize arith) ⟨env, needed⟩ =
        .error .returns := by
  induction arguments generalizing argIndex env needed with
  | nil =>
      rw [if_pos (by simp)]
      refine ⟨env, trivial, fun _ _ => rfl, ?_⟩
      change (.ok ⟨env, needed⟩ : Except Halt SizeState) = .ok ⟨env, arith.norm (needed + 0)⟩
      rw [Int.add_zero, isNormal]
  | cons argument rest ih =>
      obtain ⟨first, later⟩ := bound
      obtain ⟨notLater, restDistinct⟩ := List.nodup_cons.mp distinct
      have step := addSize_eq arith first needed
      rw [eachFrom]
      by_cases sameLengths : argument.SameLengths
      · rw [if_pos sameLengths] at step
        obtain ⟨middle, measured, added⟩ := step
        have laterBound : AllFrom (Bound middle) (argIndex + 1) rest := by
          apply later.mono (f := slotOf)
          intro index other member
          apply Bound.of_agree
          intro name isSlot
          apply measured.frame
          rw [isSlot]
          rintro equal
          exact notLater (equal ▸ member)
        have run := ih restDistinct laterBound (arith.norm_norm (needed + argument.size))
        rw [foldlM_cons_of_ok added]
        by_cases others : ∀ other ∈ rest, other.SameLengths
        · rw [if_pos others] at run
          rw [if_pos (List.forall_mem_cons.mpr ⟨sameLengths, others⟩)]
          obtain ⟨after, ready, frame, ran⟩ := run
          refine ⟨after, ⟨?_, ready⟩, ?_, ?_⟩
          · apply Ready.of_agree _ measured.ready
            intro name isSlot
            apply frame
            rwa [isSlot]
          · intro name outside
            obtain ⟨notFirst, notRest⟩ := not_or.mp (mt List.mem_cons.mpr outside)
            rw [frame name notRest, measured.frame name notFirst]
          · rw [ran, arith.norm_norm_add, List.map_cons, encodeAll, List.length_append,
              Int.natCast_add, Int.add_assoc]
            rfl
        · rw [if_neg others] at run
          rw [if_neg fun all => others (List.forall_mem_cons.mp all).2]
          exact run
      · rw [if_neg sameLengths] at step
        rw [if_neg fun all => sameLengths (List.forall_mem_cons.mp all).1]
        exact foldlM_cons_of_error step

/-! ## The start of a call -/

theorem le_of_mem_slotsFrom {arguments : List Argument} {argIndex slot : Int}
    (noChain : ∀ argument ∈ arguments, argument.type ≠ .attributionChain)
    (member : slot ∈ slotsFrom argIndex arguments) : argIndex ≤ slot := by
  induction arguments generalizing argIndex with
  | nil => simp [slotsFrom, eachFrom] at member
  | cons argument rest ih =>
      rcases List.mem_cons.mp member with rfl | later
      · rw [slotOf, if_neg (noChain argument List.mem_cons_self)]
      · have after := ih (fun other otherMem => noChain other (List.mem_cons_of_mem _ otherMem))
          later
        omega

theorem nonneg_of_mem_slotsFrom {arguments : List Argument} {argIndex slot : Int}
    (nonneg : 0 ≤ argIndex) (member : slot ∈ slotsFrom argIndex arguments) : 0 ≤ slot := by
  induction arguments generalizing argIndex with
  | nil => simp [slotsFrom, eachFrom] at member
  | cons argument rest ih =>
      rcases List.mem_cons.mp member with rfl | later
      · rw [slotOf]
        split <;> omega
      · exact ih (by omega) later

theorem nodup_slotsFrom_of_noChain {arguments : List Argument} {argIndex : Int}
    (noChain : ∀ argument ∈ arguments, argument.type ≠ .attributionChain) :
    (slotsFrom argIndex arguments).Nodup := by
  induction arguments generalizing argIndex with
  | nil => exact List.nodup_nil
  | cons argument rest ih =>
      have others : ∀ other ∈ rest, other.type ≠ .attributionChain :=
        fun other member => noChain other (List.mem_cons_of_mem _ member)
      apply List.nodup_cons.mpr
      constructor
      · intro member
        have after := le_of_mem_slotsFrom others member
        rw [slotOf, if_neg (noChain argument List.mem_cons_self)] at after
        omega
      · exact ih others

/-- The arguments of an accepted signature have different variables. -/
theorem nodup_slotsFrom {arguments : List Argument}
    (accepted : AcceptedSignature (arguments.map Argument.type)) :
    (slotsFrom 1 arguments).Nodup := by
  obtain ⟨types, areArguments, isSignature⟩ := accepted
  have notChain {type : JavaType} (member : type ∈ types) : type ≠ .attributionChain := by
    rintro rfl
    exact areArguments _ member
  rcases isSignature with plain | chained
  · apply nodup_slotsFrom_of_noChain
    intro argument member
    exact notChain (plain ▸ List.mem_map_of_mem member)
  · obtain ⟨chain, rest, rfl, isChain, isRest⟩ := List.map_eq_cons_iff.mp chained
    have others : ∀ other ∈ rest, other.type ≠ .attributionChain := by
      intro other member
      exact notChain (isRest ▸ List.mem_map_of_mem member)
    apply List.nodup_cons.mpr
    constructor
    · intro member
      have after := le_of_mem_slotsFrom others member
      rw [slotOf, if_pos isChain] at after
      omega
    · exact nodup_slotsFrom_of_noChain others

theorem parametersFrom_names (argIndex : Int) (signature : Signature) :
    (parametersFrom attributionDecl argIndex signature).map Parameter.name =
      plainConvention.namesFrom argIndex signature := by
  induction signature generalizing argIndex with
  | nil => rfl
  | cons type rest ih =>
      rw [parametersFrom, List.map_append, ih, Convention.namesFrom]
      congr 1
      by_cases isChain : type = .attributionChain
      · rw [isChain]
        rfl
      · rw [argParameters, if_neg isChain, plainConvention_names_of_ne argIndex isChain]
        rfl

theorem length_values (argIndex : Int) (argument : Argument) :
    (plainConvention.names argIndex argument.type).length = argument.values.length := by
  cases argument <;> rfl

theorem length_flatMap_values (argIndex : Int) (arguments : List Argument) :
    (plainConvention.namesFrom argIndex (arguments.map Argument.type)).length =
      (arguments.flatMap Argument.values).length := by
  induction arguments generalizing argIndex with
  | nil => rfl
  | cons argument rest ih =>
      rw [List.map_cons, Convention.namesFrom, List.length_append, ih, List.flatMap_cons,
        List.length_append, length_values]

/-- Every argument is bound when its variables are paired with its values. -/
theorem allFrom_bound {env : Environment} {arguments : List Argument} {argIndex : Int}
    (members : ∀ pair ∈ (plainConvention.namesFrom argIndex (arguments.map Argument.type)).zip
      (arguments.flatMap Argument.values), env (.parameter pair.1) = some pair.2) :
    AllFrom (Bound env) argIndex arguments := by
  induction arguments generalizing argIndex with
  | nil => trivial
  | cons argument rest ih =>
      rw [List.map_cons, Convention.namesFrom, List.flatMap_cons,
        List.zip_append (length_values argIndex argument)] at members
      constructor
      · exact fun pair member => members pair (List.mem_append_left _ member)
      · exact ih fun pair member => members pair (List.mem_append_right _ member)

/-- The variables at the start of a call of the method for an accepted signature. -/
theorem ofCall_bound {arguments : List Argument}
    (accepted : AcceptedSignature (arguments.map Argument.type)) (code : BitVec 32) :
    let env := Environment.ofCall
      (⟨"int", .code⟩ :: parametersFrom attributionDecl 1 (arguments.map Argument.type))
      (.int code :: arguments.flatMap Argument.values)
    env (.parameter .code) = some (.int code) ∧ AllFrom (Bound env) 1 arguments := by
  have names := Convention.nodup_names plainConvention_valid accepted
  rw [← parametersFrom_names] at names
  constructor
  · rfl
  · apply allFrom_bound
    intro pair member
    rw [← parametersFrom_names] at member
    apply lookup_eq_some_of_mem
    · rw [List.map_fst_zip]
      · exact names
      · rw [List.map_cons, List.length_cons, List.length_cons, parametersFrom_names,
          length_flatMap_values]
    · exact List.mem_cons_of_mem _ member

end StatsLogApiGen.QSchema
