import StatsLogApiGen.Format.Codec
import Mathlib.Algebra.Group.Nat.Defs
import Mathlib.Algebra.Ring.Int.Defs
import Mathlib.Data.List.Basic

/-!
# Tagged items

A binary format of items: every item starts with a tag.  Numbers follow in little
endian order, strings after their length in four bytes, and lists after their
length in one byte.  The encoder truncates lengths as machine code does, and an
item can be parsed back exactly when nothing was truncated.  The bytes of a string are those
of a text in UTF-8, which are read back exactly.
-/

namespace StatsLogApiGen.Format

abbrev Byte := BitVec 8

/-! ## Little endian numbers -/

/-- The lowest bytes of a number. -/
def toLittleEndian : Nat → Nat → List Byte
  | 0, _ => []
  | count + 1, value => BitVec.ofNat 8 value :: toLittleEndian count (value / 256)

/-- The number that bytes stand for. -/
def fromLittleEndian : List Byte → Nat
  | [] => 0
  | byte :: rest => byte.toNat + 256 * fromLittleEndian rest

@[simp]
theorem length_toLittleEndian (count value : Nat) :
    (toLittleEndian count value).length = count := by
  induction count generalizing value with
  | zero => rfl
  | succ count ih => rw [toLittleEndian, List.length_cons, ih]

/-- Higher bytes of a number do not matter. -/
theorem toLittleEndian_mod (count value : Nat) :
    toLittleEndian count (value % 256 ^ count) = toLittleEndian count value := by
  induction count generalizing value with
  | zero => rfl
  | succ count ih =>
      have lowest : BitVec.ofNat 8 (value % 256 ^ (count + 1)) = BitVec.ofNat 8 value := by
        apply BitVec.eq_of_toNat_eq
        rw [BitVec.toNat_ofNat, BitVec.toNat_ofNat, Nat.pow_succ']
        exact Nat.mod_mul_right_mod _ _ _
      have others : value % 256 ^ (count + 1) / 256 = value / 256 % 256 ^ count := by
        rw [Nat.pow_succ', Nat.mod_mul_right_div_self]
      rw [toLittleEndian, lowest, others, ih, toLittleEndian]

theorem fromLittleEndian_toLittleEndian (count value : Nat) :
    fromLittleEndian (toLittleEndian count value) = value % 256 ^ count := by
  induction count generalizing value with
  | zero => rw [toLittleEndian, fromLittleEndian, Nat.pow_zero, Nat.mod_one]
  | succ count ih =>
      have split : value % 256 ^ (count + 1) =
          value % 256 + 256 * (value / 256 % 256 ^ count) := by
        rw [Nat.pow_succ', Nat.mod_mul]
      rw [toLittleEndian, fromLittleEndian, ih, BitVec.toNat_ofNat, split]

/-- A machine number is read back from enough bytes. -/
theorem ofNat_fromLittleEndian {width count : Nat} (value : BitVec width)
    (enough : 2 ^ width ≤ 256 ^ count) :
    BitVec.ofNat width (fromLittleEndian (toLittleEndian count value.toNat)) = value := by
  rw [fromLittleEndian_toLittleEndian,
    Nat.mod_eq_of_lt (Nat.lt_of_lt_of_le value.isLt enough), BitVec.ofNat_toNat,
    BitVec.setWidth_eq]

theorem fromLittleEndian_lt (bytes : List Byte) :
    fromLittleEndian bytes < 256 ^ bytes.length := by
  induction bytes with
  | nil => exact Nat.one_pos
  | cons byte rest ih =>
      have byteLt : byte.toNat < 256 := byte.isLt
      rw [fromLittleEndian, List.length_cons, Nat.pow_succ]
      omega

/-! ## Items -/

/-- A value of the format. -/
inductive Item where
  | int (value : BitVec 32)
  | long (value : BitVec 64)
  | float (bits : BitVec 32)
  | string (bytes : List Byte)
  | list (items : List Item)

/-- The bytes that announce the kinds of items. -/
structure Tags where
  int : Byte
  long : Byte
  float : Byte
  string : Byte
  list : Byte
  nodup : [int, long, float, string, list].Nodup

/-- No length is too large for the bytes it is stored in. -/
inductive Item.Fits : Item → Prop
  | int (value : BitVec 32) : Fits (.int value)
  | long (value : BitVec 64) : Fits (.long value)
  | float (bits : BitVec 32) : Fits (.float bits)
  | string {bytes : List Byte} (short : bytes.length < 2 ^ 32) : Fits (.string bytes)
  | list {items : List Item} (short : items.length < 2 ^ 8)
      (all : ∀ item ∈ items, Fits item) : Fits (.list items)

theorem Item.fits_string_iff {bytes : List Byte} :
    (Item.string bytes).Fits ↔ bytes.length < 2 ^ 32 := by
  constructor
  · rintro ⟨⟩
    assumption
  · exact Item.Fits.string

theorem Item.fits_list_iff {items : List Item} :
    (Item.list items).Fits ↔ items.length < 2 ^ 8 ∧ ∀ item ∈ items, item.Fits := by
  constructor
  · rintro ⟨⟩
    constructor <;> assumption
  · rintro ⟨short, all⟩
    exact Item.Fits.list short all

namespace Tags

variable (tags : Tags)

theorem long_ne : tags.long ≠ tags.int := by
  have nodup := tags.nodup
  simp only [List.nodup_cons, List.mem_cons, not_or] at nodup
  exact Ne.symm nodup.1.1

theorem float_ne : tags.float ≠ tags.int ∧ tags.float ≠ tags.long := by
  have nodup := tags.nodup
  simp only [List.nodup_cons, List.mem_cons, not_or] at nodup
  exact ⟨Ne.symm nodup.1.2.1, Ne.symm nodup.2.1.1⟩

theorem string_ne :
    tags.string ≠ tags.int ∧ tags.string ≠ tags.long ∧ tags.string ≠ tags.float := by
  have nodup := tags.nodup
  simp only [List.nodup_cons, List.mem_cons, not_or] at nodup
  exact ⟨Ne.symm nodup.1.2.2.1, Ne.symm nodup.2.1.2.1, Ne.symm nodup.2.2.1.1⟩

theorem list_ne : tags.list ≠ tags.int ∧ tags.list ≠ tags.long ∧ tags.list ≠ tags.float ∧
    tags.list ≠ tags.string := by
  have nodup := tags.nodup
  simp only [List.nodup_cons, List.mem_cons, not_or] at nodup
  exact ⟨Ne.symm nodup.1.2.2.2.1, Ne.symm nodup.2.1.2.2.1, Ne.symm nodup.2.2.1.2.1,
    Ne.symm nodup.2.2.2.1.1⟩

end Tags

variable (tags : Tags)

mutual

/-- The bytes of an item. -/
def encode : Item → List Byte
  | .int value => tags.int :: toLittleEndian 4 value.toNat
  | .long value => tags.long :: toLittleEndian 8 value.toNat
  | .float bits => tags.float :: toLittleEndian 4 bits.toNat
  | .string bytes => tags.string :: (toLittleEndian 4 bytes.length ++ bytes)
  | .list items => tags.list :: (toLittleEndian 1 items.length ++ encodeAll items)

/-- The bytes of items one after the other. -/
def encodeAll : List Item → List Byte
  | [] => []
  | item :: rest => encode item ++ encodeAll rest

end

/-! ## Parsing -/

/-- The first bytes and the bytes after them. -/
def takeBytes (count : Nat) (bytes : List Byte) : Option (List Byte × List Byte) :=
  if count ≤ bytes.length then some (bytes.take count, bytes.drop count) else none

/-- As many items as a count says. -/
def parseCount (parse : List Byte → Option (Item × List Byte)) :
    Nat → List Byte → Option (List Item × List Byte)
  | 0, bytes => some ([], bytes)
  | count + 1, bytes =>
      (parse bytes).bind fun first =>
        (parseCount parse count first.2).map fun others => (first.1 :: others.1, others.2)

/-- The first item and the bytes after it.  `fuel` bounds the nesting of lists. -/
def parseItem : Nat → List Byte → Option (Item × List Byte)
  | 0, _ => none
  | _ + 1, [] => none
  | fuel + 1, tag :: bytes =>
      if tag = tags.int then
        (takeBytes 4 bytes).map fun parts =>
          (.int (BitVec.ofNat 32 (fromLittleEndian parts.1)), parts.2)
      else if tag = tags.long then
        (takeBytes 8 bytes).map fun parts =>
          (.long (BitVec.ofNat 64 (fromLittleEndian parts.1)), parts.2)
      else if tag = tags.float then
        (takeBytes 4 bytes).map fun parts =>
          (.float (BitVec.ofNat 32 (fromLittleEndian parts.1)), parts.2)
      else if tag = tags.string then
        (takeBytes 4 bytes).bind fun parts =>
          (takeBytes (fromLittleEndian parts.1) parts.2).map fun payload =>
            (.string payload.1, payload.2)
      else if tag = tags.list then
        (takeBytes 1 bytes).bind fun parts =>
          (parseCount (parseItem fuel) (fromLittleEndian parts.1) parts.2).map fun items =>
            (.list items.1, items.2)
      else
        none

/-- The item that bytes consist of, when they are one item and nothing else. -/
def parse (bytes : List Byte) : Option Item :=
  match parseItem tags bytes.length bytes with
  | some (item, []) => some item
  | _ => none

variable {tags}

@[simp]
theorem takeBytes_append (first rest : List Byte) :
    takeBytes first.length (first ++ rest) = some (first, rest) := by
  rw [takeBytes, List.length_append, if_pos (Nat.le_add_right _ _), List.take_left,
    List.drop_left]

theorem length_of_takeBytes {count : Nat} {bytes : List Byte} {parts : List Byte × List Byte}
    (taken : takeBytes count bytes = some parts) : parts.1.length = count := by
  rw [takeBytes] at taken
  split at taken
  · rename_i enough
    obtain rfl := Option.some.inj taken
    exact List.length_take_of_le enough
  · contradiction

theorem takeBytes_toLittleEndian (count value : Nat) (rest : List Byte) :
    takeBytes count (toLittleEndian count value ++ rest) =
      some (toLittleEndian count value, rest) := by
  have taken := takeBytes_append (toLittleEndian count value) rest
  rwa [length_toLittleEndian] at taken

/-! ## What the parser yields -/

theorem forall_of_parseCount {good : Item → Prop}
    {parse : List Byte → Option (Item × List Byte)}
    (sound : ∀ bytes result, parse bytes = some result → good result.1)
    {count : Nat} {bytes : List Byte} {result : List Item × List Byte}
    (parsed : parseCount parse count bytes = some result) :
    result.1.length = count ∧ ∀ item ∈ result.1, good item := by
  induction count generalizing bytes result with
  | zero =>
      obtain rfl := Option.some.inj parsed
      exact ⟨rfl, by simp⟩
  | succ count ih =>
      obtain ⟨first, isFirst, others⟩ := Option.bind_eq_some_iff.mp parsed
      obtain ⟨tail, isTail, rfl⟩ := Option.map_eq_some_iff.mp others
      obtain ⟨length, all⟩ := ih isTail
      constructor
      · rw [List.length_cons, length]
      · intro item member
        rcases List.mem_cons.mp member with rfl | later
        · exact sound _ _ isFirst
        · exact all item later

/-- Only items whose lengths fit are parsed. -/
theorem fits_of_parseItem {fuel : Nat} {bytes : List Byte} {result : Item × List Byte}
    (parsed : parseItem tags fuel bytes = some result) : result.1.Fits := by
  induction fuel generalizing bytes result with
  | zero => contradiction
  | succ fuel ih =>
      cases bytes with
      | nil => contradiction
      | cons tag bytes =>
          rw [parseItem] at parsed
          split at parsed
          · obtain ⟨parts, -, rfl⟩ := Option.map_eq_some_iff.mp parsed
            exact .int _
          split at parsed
          · obtain ⟨parts, -, rfl⟩ := Option.map_eq_some_iff.mp parsed
            exact .long _
          split at parsed
          · obtain ⟨parts, -, rfl⟩ := Option.map_eq_some_iff.mp parsed
            exact .float _
          split at parsed
          · obtain ⟨parts, isLength, taken⟩ := Option.bind_eq_some_iff.mp parsed
            obtain ⟨payload, isPayload, rfl⟩ := Option.map_eq_some_iff.mp taken
            apply Item.Fits.string
            rw [length_of_takeBytes isPayload]
            have bound := fromLittleEndian_lt parts.1
            rwa [length_of_takeBytes isLength] at bound
          split at parsed
          · obtain ⟨parts, isCount, counted⟩ := Option.bind_eq_some_iff.mp parsed
            obtain ⟨items, isItems, rfl⟩ := Option.map_eq_some_iff.mp counted
            obtain ⟨length, all⟩ := forall_of_parseCount (fun _ _ => ih) isItems
            apply Item.Fits.list _ all
            have bound := fromLittleEndian_lt parts.1
            rw [length_of_takeBytes isCount] at bound
            rwa [length]
          · contradiction

/-! ## Round trip -/

theorem parseCount_encodeAll {parse : List Byte → Option (Item × List Byte)}
    {items : List Item} (rest : List Byte)
    (each : ∀ item ∈ items, ∀ rest, parse (encode tags item ++ rest) = some (item, rest)) :
    parseCount parse items.length (encodeAll tags items ++ rest) = some (items, rest) := by
  induction items with
  | nil => rfl
  | cons item others ih =>
      have tail := ih fun other member => each other (List.mem_cons_of_mem _ member)
      rw [encodeAll, List.length_cons, parseCount, List.append_assoc,
        each item List.mem_cons_self, Option.bind_some, tail]
      rfl

theorem length_encode_le_of_mem (tags : Tags) {item : Item} {items : List Item}
    (member : item ∈ items) :
    (encode tags item).length ≤ (encodeAll tags items).length := by
  induction items with
  | nil => simp at member
  | cons first rest ih =>
      rw [encodeAll, List.length_append]
      rcases List.mem_cons.mp member with rfl | later
      · exact Nat.le_add_right _ _
      · exact Nat.le_trans (ih later) (Nat.le_add_left _ _)

theorem exists_fuel {item : Item} {fuel : Nat} (enough : (encode tags item).length ≤ fuel) :
    ∃ less, fuel = less + 1 := by
  apply Nat.exists_eq_add_one.mpr
  apply Nat.lt_of_lt_of_le _ enough
  cases item <;> exact Nat.zero_lt_succ _

section Kinds

variable (fuel : Nat) (rest : List Byte)

theorem parseItem_int (value : BitVec 32) :
    parseItem tags (fuel + 1) (encode tags (.int value) ++ rest) = some (.int value, rest) := by
  rw [encode, List.cons_append, parseItem, if_pos rfl, takeBytes_toLittleEndian,
    Option.map_some, ofNat_fromLittleEndian value (by decide)]

theorem parseItem_long (value : BitVec 64) :
    parseItem tags (fuel + 1) (encode tags (.long value) ++ rest) =
      some (.long value, rest) := by
  rw [encode, List.cons_append, parseItem, if_neg tags.long_ne, if_pos rfl,
    takeBytes_toLittleEndian, Option.map_some, ofNat_fromLittleEndian value (by decide)]

theorem parseItem_float (bits : BitVec 32) :
    parseItem tags (fuel + 1) (encode tags (.float bits) ++ rest) =
      some (.float bits, rest) := by
  obtain ⟨notInt, notLong⟩ := tags.float_ne
  rw [encode, List.cons_append, parseItem, if_neg notInt, if_neg notLong, if_pos rfl,
    takeBytes_toLittleEndian, Option.map_some, ofNat_fromLittleEndian bits (by decide)]

theorem parseItem_string {bytes : List Byte} (short : bytes.length < 2 ^ 32) :
    parseItem tags (fuel + 1) (encode tags (.string bytes) ++ rest) =
      some (.string bytes, rest) := by
  obtain ⟨notInt, notLong, notFloat⟩ := tags.string_ne
  have length : fromLittleEndian (toLittleEndian 4 bytes.length) = bytes.length := by
    rw [fromLittleEndian_toLittleEndian]
    exact Nat.mod_eq_of_lt short
  rw [encode, List.cons_append, List.append_assoc, parseItem, if_neg notInt, if_neg notLong,
    if_neg notFloat, if_pos rfl, takeBytes_toLittleEndian, Option.bind_some, length,
    takeBytes_append, Option.map_some]

theorem parseItem_list {items : List Item} (short : items.length < 2 ^ 8)
    (each : ∀ item ∈ items, ∀ rest,
      parseItem tags fuel (encode tags item ++ rest) = some (item, rest)) :
    parseItem tags (fuel + 1) (encode tags (.list items) ++ rest) =
      some (.list items, rest) := by
  obtain ⟨notInt, notLong, notFloat, notString⟩ := tags.list_ne
  have length : fromLittleEndian (toLittleEndian 1 items.length) = items.length := by
    rw [fromLittleEndian_toLittleEndian]
    exact Nat.mod_eq_of_lt short
  rw [encode, List.cons_append, List.append_assoc, parseItem, if_neg notInt, if_neg notLong,
    if_neg notFloat, if_neg notString, if_pos rfl, takeBytes_toLittleEndian, Option.bind_some,
    length, parseCount_encodeAll rest each, Option.map_some]

end Kinds

/-- An item whose lengths fit is parsed back from its bytes. -/
theorem parseItem_encode (tags : Tags) {item : Item} (fits : item.Fits) {fuel : Nat}
    (enough : (encode tags item).length ≤ fuel) (rest : List Byte) :
    parseItem tags fuel (encode tags item ++ rest) = some (item, rest) := by
  induction fits generalizing fuel rest with
  | int value =>
      obtain ⟨less, rfl⟩ := exists_fuel enough
      exact parseItem_int less rest value
  | long value =>
      obtain ⟨less, rfl⟩ := exists_fuel enough
      exact parseItem_long less rest value
  | float bits =>
      obtain ⟨less, rfl⟩ := exists_fuel enough
      exact parseItem_float less rest bits
  | string short =>
      obtain ⟨less, rfl⟩ := exists_fuel enough
      exact parseItem_string less rest short
  | list short all ih =>
      obtain ⟨less, rfl⟩ := exists_fuel enough
      apply parseItem_list less rest short
      intro item member rest
      apply ih item member
      have inside := length_encode_le_of_mem tags member
      rw [encode, List.length_cons, List.length_append] at enough
      omega

/-- Encoding can be undone exactly when no length was truncated. -/
theorem parse_encode_iff {item : Item} : parse tags (encode tags item) = some item ↔ item.Fits := by
  constructor
  · intro parsed
    rw [parse] at parsed
    split at parsed
    · rename_i result isResult
      obtain rfl := Option.some.inj parsed
      exact fits_of_parseItem isResult
    · contradiction
  · intro fits
    have parsed := parseItem_encode tags fits (Nat.le_refl _) []
    rw [List.append_nil] at parsed
    rw [parse, parsed]

/-! ## Unicode -/

/-- The UTF-8 bytes of a character. -/
def charBytes (char : Char) : List Byte :=
  (String.utf8EncodeChar char).map UInt8.toBitVec

/-- The UTF-8 bytes of a text. -/
def utf8 (text : String) : List Byte :=
  text.toList.flatMap charBytes

/-- The text of UTF-8 bytes. -/
def readUtf8 (bytes : List Byte) : Option String :=
  String.fromUTF8? (bytes.map UInt8.ofBitVec).toByteArray

/-- The UTF-16 units of a character: one, or a pair of surrogates. -/
def charUnits (char : Char) : List (BitVec 16) :=
  if char.toNat < 0x10000 then
    [BitVec.ofNat 16 char.toNat]
  else
    [BitVec.ofNat 16 (0xD800 + (char.toNat - 0x10000) / 1024),
      BitVec.ofNat 16 (0xDC00 + (char.toNat - 0x10000) % 1024)]

/-- The UTF-16 units of a text. -/
def utf16 (text : String) : List (BitVec 16) :=
  text.toList.flatMap charUnits

theorem map_ofBitVec_utf8 (text : String) :
    ((utf8 text).map UInt8.ofBitVec).toByteArray = text.toByteArray := by
  have bytes : (utf8 text).map UInt8.ofBitVec = text.toList.flatMap String.utf8EncodeChar := by
    rw [utf8, List.map_flatMap]
    apply List.flatMap_congr
    intro char _
    rw [charBytes, List.map_map]
    exact List.map_id _
  rw [bytes, ← String.utf8Encode_toList]
  rfl

theorem fromUTF8?_eq_some_iff {bytes : ByteArray} {text : String} :
    String.fromUTF8? bytes = some text ↔ bytes = text.toByteArray := by
  rw [String.fromUTF8?]
  constructor
  · intro isText
    split at isText
    · rw [← Option.some.inj isText]
      rfl
    · contradiction
  · rintro rfl
    rw [dif_pos text.isValidUTF8]
    rfl

theorem exact_readUtf8 : Exact readUtf8 utf8 := by
  intro bytes text
  rw [readUtf8, fromUTF8?_eq_some_iff]
  constructor
  · intro equal
    rw [← map_ofBitVec_utf8] at equal
    have lists := congrArg (fun array : ByteArray => array.data.toList) equal
    simp only [List.toList_data_toByteArray] at lists
    exact List.map_injective_iff.mpr (fun _ _ same => congrArg UInt8.toBitVec same) lists
  · rintro rfl
    exact map_ofBitVec_utf8 text

end StatsLogApiGen.Format
