import StatsLogApiGen.QSchema.Run

/-!
# Items of an event

The arguments of a call as items of the format, and what the statements of the
write pass append to the buffer.
-/

namespace StatsLogApiGen.QSchema

open StatsLogApiGen.Format
open StatsLogApiGen.Collation
open StatsLogApiGen.Writer

/-! ## Items -/

/-- The type bytes of the generated class. -/
def itemTags : Tags where
  int := intType
  long := longType
  float := floatType
  string := stringType
  list := listType
  nodup := by decide

/-- The node of an attribution chain. -/
def nodeItem (uid : BitVec 32) (tag : Option JavaString) : Item :=
  .list [.int uid, .string (bytesOf tag)]

/-- The nodes of an attribution chain. -/
def nodeItems (uids : List (BitVec 32)) (tags : List (Option JavaString)) : List Item :=
  (uids.zip tags).map fun node => nodeItem node.1 node.2

/-- The item of an argument.  Null counts as empty. -/
def Argument.item : Argument → Item
  | .boolean value => .int (if value then 1 else 0)
  | .int value => .int value
  | .long value => .long value
  | .float bits => .float (floatToIntBits bits)
  | .string value => .string (bytesOf value)
  | .byteArray bytes => .string (bytes.getD [])
  | .attributionChain uids tags => .list (nodeItems (uids.getD []) (tags.getD []))

/-- The list of an event: the timestamp, the code and the arguments. -/
def eventItem (elapsedRealtime : BitVec 64) (code : BitVec 32) (arguments : List Argument) :
    Item :=
  .list (.long elapsedRealtime :: .int code :: arguments.map Argument.item)

/-! ## Bytes of numbers -/

theorem setWidth_sshiftRight {width : Nat} (val : BitVec width) {shift : Nat}
    (inside : shift + 8 ≤ width) :
    (val.sshiftRight shift).setWidth 8 = BitVec.ofNat 8 (val.toNat / 2 ^ shift) := by
  apply BitVec.eq_of_getLsbD_eq
  intro position small
  have notBeyond : ¬width ≤ position := by omega
  have insideShifted : shift + position < width := by omega
  rw [BitVec.getLsbD_setWidth, BitVec.getLsbD_sshiftRight, BitVec.getLsbD_ofNat]
  rw [← Nat.shiftRight_eq_div_pow, Nat.testBit_shiftRight, BitVec.testBit_toNat]
  simp [notBeyond, insideShifted, small]

variable (arith : Arithmetic)

theorem copyInt_values (pos : Int) (val : BitVec 32) :
    (copyInt arith pos val).map Prod.snd = toLittleEndian 4 val.toNat := by
  simp only [copyInt, toLittleEndian, List.map_cons, List.map_nil]
  rw [setWidth_sshiftRight val (by decide), setWidth_sshiftRight val (by decide),
    setWidth_sshiftRight val (by decide), Nat.div_div_eq_div_mul, Nat.div_div_eq_div_mul]
  rfl

theorem copyLong_values (pos : Int) (val : BitVec 64) :
    (copyLong arith pos val).map Prod.snd = toLittleEndian 8 val.toNat := by
  simp only [copyLong, toLittleEndian, List.map_cons, List.map_nil, Nat.div_div_eq_div_mul]
  rw [setWidth_sshiftRight val (by decide), setWidth_sshiftRight val (by decide),
    setWidth_sshiftRight val (by decide), setWidth_sshiftRight val (by decide),
    setWidth_sshiftRight val (by decide), setWidth_sshiftRight val (by decide),
    setWidth_sshiftRight val (by decide)]
  rfl

/-! ## Consecutive assignments -/

section Consecutive

variable {arith}

/-- A later position of a group of assignments. -/
theorem norm_add_eq {pos : Int} {position : Nat}
    (isPosition : (position : Int) < arrayLimit → pos = position) (offset : Nat)
    (small : ((position + offset : Nat) : Int) < arrayLimit) :
    arith.norm (pos + offset) = (position + offset : Nat) := by
  have isStart : pos = position := isPosition (by omega)
  rw [isStart, arith.norm_of_small] <;> omega

theorem consecutive_copyInt {pos : Int} {position : Nat}
    (isPosition : (position : Int) < arrayLimit → pos = position) (val : BitVec 32) :
    Buffer.Consecutive position (copyInt arith pos val) :=
  ⟨isPosition, norm_add_eq isPosition 1, norm_add_eq isPosition 2, norm_add_eq isPosition 3,
    trivial⟩

theorem consecutive_copyLong {pos : Int} {position : Nat}
    (isPosition : (position : Int) < arrayLimit → pos = position) (val : BitVec 64) :
    Buffer.Consecutive position (copyLong arith pos val) :=
  ⟨isPosition, norm_add_eq isPosition 1, norm_add_eq isPosition 2, norm_add_eq isPosition 3,
    norm_add_eq isPosition 4, norm_add_eq isPosition 5, norm_add_eq isPosition 6,
    norm_add_eq isPosition 7, trivial⟩

end Consecutive

/-! ## The cursor -/

/-- The cursor is behind what has been written. -/
structure Cursor.Stands (cursor : Cursor) (front : List Byte) (size : Nat) : Prop where
  filled : cursor.buff.Filled front
  pos : cursor.pos = front.length
  size : cursor.buff.size = size

theorem Cursor.Stands.length_le {cursor : Cursor} {front : List Byte} {size : Nat}
    (stands : cursor.Stands front size) : front.length ≤ size :=
  stands.size ▸ stands.filled.length_le

/-- Assignments that append to the buffer, after which the position moves on by as much. -/
theorem appends_advance {assign : Buffer Byte → Int → Option (Buffer Byte)} {step : Int}
    {values : List Byte}
    (fits : ∀ {buff front}, buff.Filled front → front.length + values.length ≤ buff.size →
      Buffer.Appended (assign buff front.length) buff.size (front ++ values))
    (overflows : ∀ {buff front}, buff.Filled front →
      buff.size < front.length + values.length → assign buff front.length = none)
    (isStep : ∀ pos, arith.norm (pos + step) = arith.norm (pos + values.length)) :
    Appends Cursor.Stands (advance arith assign step) values := by
  constructor
  · intro cursor front size stands room
    have small := stands.filled.small
    rw [stands.size] at small
    obtain ⟨buff, assigned, filled, sameSize⟩ :=
      fits stands.filled (by rw [stands.size]; exact room)
    refine ⟨{ buff, pos := arith.norm (cursor.pos + step) }, ?_, filled, ?_, ?_⟩
    · rw [advance, stands.pos, assigned]
      rfl
    · rw [stands.pos, isStep, arith.norm_of_small _ (by omega) (by omega), List.length_append,
        Int.natCast_add]
    · exact sameSize.trans stands.size
  · intro cursor front size stands full
    have failed := overflows stands.filled (by rw [stands.size]; exact full)
    exact ⟨.indexOutOfBounds, by rw [advance, stands.pos, failed]; rfl⟩

theorem appends_put {writes : Int → List (Int × Byte)} {values : List Byte}
    (consecutive : ∀ position : Nat, Buffer.Consecutive position (writes position))
    (isValues : ∀ pos, (writes pos).map Prod.snd = values) {step : Int}
    (isStep : step = values.length) :
    Appends Cursor.Stands (put arith writes step) values := by
  have length (pos : Int) : (writes pos).length = values.length := by
    rw [← isValues pos, List.length_map]
  apply appends_advance
  · intro buff front filled room
    rw [← isValues front.length]
    exact filled.storeAll (consecutive front.length) (by rw [length]; exact room)
  · intro buff front filled full
    exact filled.storeAll_eq_none (consecutive front.length) (by rw [length]; exact full)
  · intro pos
    rw [isStep]

theorem appends_putInt (val : BitVec 32) :
    Appends Cursor.Stands (put arith (intWrites arith val) intTypeSize)
      (encode itemTags (.int val)) := by
  apply appends_put
  · intro position
    exact ⟨fun _ => rfl, consecutive_copyInt (norm_add_eq (fun _ => rfl) 1) val⟩
  · intro pos
    rw [intWrites, List.map_cons, copyInt_values]
    rfl
  · rfl

theorem appends_putFloat (bits : BitVec 32) :
    Appends Cursor.Stands (put arith (floatWrites arith bits) floatTypeSize)
      (encode itemTags (.float (floatToIntBits bits))) := by
  apply appends_put
  · intro position
    exact ⟨fun _ => rfl, consecutive_copyInt (norm_add_eq (fun _ => rfl) 1) _⟩
  · intro pos
    rw [floatWrites, copyFloat, List.map_cons, copyInt_values]
    rfl
  · rfl

theorem appends_putLong (val : BitVec 64) :
    Appends Cursor.Stands (put arith (longWrites arith val) longTypeSize)
      (encode itemTags (.long val)) := by
  apply appends_put
  · intro position
    exact ⟨fun _ => rfl, consecutive_copyLong (norm_add_eq (fun _ => rfl) 1) val⟩
  · intro pos
    rw [longWrites, List.map_cons, copyLong_values]
    rfl
  · rfl

/-- The begin of a list of some number of elements. -/
def listBegin (count : Nat) : List Byte :=
  listType :: toLittleEndian 1 count

theorem appends_putList (count : Nat) :
    Appends Cursor.Stands (put arith (listWrites arith (BitVec.ofNat 8 count)) listTypeOverhead)
      (listBegin count) := by
  apply appends_put
  · intro position
    exact ⟨fun _ => rfl, norm_add_eq (fun _ => rfl) 1, trivial⟩
  · intro pos
    rfl
  · rfl

theorem appends_putBytes (bytes : List Byte) :
    Appends Cursor.Stands (putBytes arith bytes) (encode itemTags (.string bytes)) := by
  have consecutive (position : Nat) :
      Buffer.Consecutive position (stringWrites arith bytes.length position) :=
    ⟨fun _ => rfl, consecutive_copyInt (norm_add_eq (fun _ => rfl) 1) _⟩
  have isEncoding (pos : Int) : (stringWrites arith bytes.length pos).map Prod.snd ++ bytes =
      encode itemTags (.string bytes) := by
    have truncated := toLittleEndian_mod 4 bytes.length
    rw [stringWrites, List.map_cons, copyInt_values, BitVec.toNat_ofNat, encode]
    exact congrArg (fun length => stringType :: (length ++ bytes)) truncated
  have length : (encode itemTags (.string bytes)).length = 5 + bytes.length := by
    rw [← isEncoding 0, List.length_append]
    rfl
  apply appends_advance
  · intro buff front filled room
    rw [← isEncoding front.length]
    apply filled.storeAll_copy (consecutive front.length)
    · exact norm_add_eq (fun _ => rfl) 5
    · rwa [length] at room
  · intro buff front filled full
    apply filled.storeAll_copy_eq_none (consecutive front.length)
    · exact norm_add_eq (fun _ => rfl) 5
    · rwa [length] at full
  · intro pos
    rw [arith.norm_add_norm, length]
    rfl

/-! ## Attribution chains -/

@[simp]
theorem encode_list (items : List Item) :
    encode itemTags (.list items) = listBegin items.length ++ encodeAll itemTags items :=
  rfl

theorem encode_nodeItem (uid : BitVec 32) (tag : Option JavaString) :
    encode itemTags (nodeItem uid tag) =
      listBegin 2 ++ (encode itemTags (.int uid) ++ encode itemTags (.string (bytesOf tag))) := by
  rw [nodeItem, encode_list, encodeAll, encodeAll, encodeAll, List.append_nil]
  rfl

theorem appends_ok : Appends Cursor.Stands (.ok : Cursor → Except Failure Cursor) [] :=
  .pure fun stands => stands.length_le

/-- The loop writes the nodes whose tags are left. -/
theorem appends_writeNodes (uids : List (BitVec 32)) (tags : List (Option JavaString)) (i : Nat)
    (sameLength : i + tags.length = uids.length) :
    Appends Cursor.Stands (writeNodes arith 2 uids i tags)
      (encodeAll itemTags (nodeItems (uids.drop i) tags)) := by
  induction tags generalizing i with
  | nil =>
      rw [nodeItems, List.zip_nil_right]
      exact appends_ok
  | cons tag rest ih =>
      rw [List.length_cons] at sameLength
      have inside : i < uids.length := by omega
      have nodes : encodeAll itemTags (nodeItems (uids.drop i) (tag :: rest)) =
          listBegin 2 ++ (encode itemTags (.int uids[i]) ++
            (encode itemTags (.string (bytesOf tag)) ++
              encodeAll itemTags (nodeItems (uids.drop (i + 1)) rest))) := by
        rw [List.drop_eq_getElem_cons inside, nodeItems, List.zip_cons_cons, List.map_cons,
          encodeAll, encode_nodeItem, List.append_assoc, List.append_assoc]
        rfl
      rw [nodes]
      apply (appends_putList arith 2).bind
      simp only [List.getElem?_eq_getElem inside]
      apply (appends_putInt arith uids[i]).bind
      apply (appends_putBytes arith (bytesOf tag)).bind
      exact ih (i + 1) (by omega)

/-- The helper writes the chain. -/
theorem appends_writeAttributionChain {uids : List (BitVec 32)}
    {tags : List (Option JavaString)} (sameLength : uids.length = tags.length) :
    Appends Cursor.Stands (writeAttributionChain arith 2 uids tags)
      (encode itemTags (.list (nodeItems uids tags))) := by
  have length : (nodeItems uids tags).length = tags.length := by
    rw [nodeItems, List.length_map, List.length_zip, sameLength, Nat.min_self]
  rw [encode_list, length]
  apply (appends_putList arith tags.length).bind
  exact appends_writeNodes arith uids tags 0 (by omega)

end StatsLogApiGen.QSchema
