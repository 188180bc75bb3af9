import StatsLogApiGen.Format.Item
import StatsLogApiGen.QSchema.Run

/-!
# Text in a payload

`String.getBytes` of the units of a text gives its UTF-8 bytes.
-/

namespace StatsLogApiGen.QSchema

open StatsLogApiGen.Format

theorem charBytes_eq (char : Char) : charBytes char = utf8Bytes char.toNat := by
  have small : char.toNat < 0x110000 := by
    rcases char.valid with low | high
    · exact Nat.lt_trans low (by decide)
    · exact high.2
  have isNat : char.val.toNat = char.toNat := rfl
  rw [charBytes, String.utf8EncodeChar, utf8Bytes, isNat]
  by_cases one : char.toNat ≤ 0x7F
  · rw [if_pos one, if_pos (by omega : char.toNat < 0x80)]
    rfl
  rw [if_neg one, if_neg (by omega : ¬char.toNat < 0x80)]
  by_cases two : char.toNat ≤ 0x7FF
  · have first : char.toNat / 64 % 0x20 + 0xC0 = 0xC0 + char.toNat / 64 := by omega
    have second : char.toNat % 0x40 + 0x80 = 0x80 + char.toNat % 64 := by omega
    rw [if_pos two, if_pos (by omega : char.toNat < 0x800), first, second]
    rfl
  rw [if_neg two, if_neg (by omega : ¬char.toNat < 0x800)]
  by_cases three : char.toNat ≤ 0xFFFF
  · have first : char.toNat / 4096 % 0x10 + 0xE0 = 0xE0 + char.toNat / 4096 := by omega
    have second : char.toNat / 64 % 0x40 + 0x80 = 0x80 + char.toNat / 64 % 64 := by omega
    have third : char.toNat % 0x40 + 0x80 = 0x80 + char.toNat % 64 := by omega
    rw [if_pos three, if_pos (by omega : char.toNat < 0x10000), first, second, third]
    rfl
  · have first : char.toNat / 262144 % 0x08 + 0xF0 = 0xF0 + char.toNat / 262144 := by omega
    have second : char.toNat / 4096 % 0x40 + 0x80 = 0x80 + char.toNat / 4096 % 64 := by omega
    have third : char.toNat / 64 % 0x40 + 0x80 = 0x80 + char.toNat / 64 % 64 := by omega
    have fourth : char.toNat % 0x40 + 0x80 = 0x80 + char.toNat % 64 := by omega
    rw [if_neg three, if_neg (by omega : ¬char.toNat < 0x10000), first, second, third,
      fourth]
    rfl

/-- A unit that is no surrogate stands for itself. -/
theorem getBytes_cons_of_not_surrogate {unit : BitVec 16} (notHigh : isHighSurrogate unit = false)
    (notLow : isLowSurrogate unit = false) (rest : JavaString) :
    getBytes (unit :: rest) = utf8Bytes unit.toNat ++ getBytes rest := by
  cases rest with
  | nil => simp [getBytes, unitBytes, notHigh, notLow]
  | cons next later => simp [getBytes, unitBytes, notHigh, notLow]

theorem getBytes_cons_cons_of_pair {high low : BitVec 16} (isHigh : isHighSurrogate high = true)
    (isLow : isLowSurrogate low = true) (rest : JavaString) :
    getBytes (high :: low :: rest) =
      utf8Bytes (0x10000 + (high.toNat - 0xD800) * 1024 + (low.toNat - 0xDC00)) ++
        getBytes rest := by
  simp [getBytes, isHigh, isLow]

theorem getBytes_charUnits_append (char : Char) (rest : JavaString) :
    getBytes (charUnits char ++ rest) = charBytes char ++ getBytes rest := by
  rw [charBytes_eq, charUnits]
  by_cases basic : char.toNat < 0x10000
  · have isUnit : (BitVec.ofNat 16 char.toNat).toNat = char.toNat := by
      rw [BitVec.toNat_ofNat]
      exact Nat.mod_eq_of_lt basic
    have noSurrogate : char.toNat < 0xD800 ∨ 0xDFFF < char.toNat := by
      rcases char.valid with low | high
      · exact .inl low
      · exact .inr high.1
    rw [if_pos basic, List.singleton_append, getBytes_cons_of_not_surrogate, isUnit]
    · simp only [isHighSurrogate, isUnit, Bool.and_eq_false_iff, decide_eq_false_iff_not]
      omega
    · simp only [isLowSurrogate, isUnit, Bool.and_eq_false_iff, decide_eq_false_iff_not]
      omega
  · have small : char.toNat < 0x110000 := by
      rcases char.valid with low | high
      · exact Nat.lt_trans low (by decide)
      · exact high.2
    have isHigh : (BitVec.ofNat 16 (0xD800 + (char.toNat - 0x10000) / 1024)).toNat =
        0xD800 + (char.toNat - 0x10000) / 1024 := by
      rw [BitVec.toNat_ofNat]
      exact Nat.mod_eq_of_lt (by omega)
    have isLow : (BitVec.ofNat 16 (0xDC00 + (char.toNat - 0x10000) % 1024)).toNat =
        0xDC00 + (char.toNat - 0x10000) % 1024 := by
      rw [BitVec.toNat_ofNat]
      exact Nat.mod_eq_of_lt (by omega)
    have codePoint : 0x10000 + (0xD800 + (char.toNat - 0x10000) / 1024 - 0xD800) * 1024 +
        (0xDC00 + (char.toNat - 0x10000) % 1024 - 0xDC00) = char.toNat := by
      omega
    rw [if_neg basic, List.cons_append, List.singleton_append, getBytes_cons_cons_of_pair,
      isHigh, isLow, codePoint]
    · simp only [isHighSurrogate, isHigh, Bool.and_eq_true, decide_eq_true_iff]
      omega
    · simp only [isLowSurrogate, isLow, Bool.and_eq_true, decide_eq_true_iff]
      omega

/-- The bytes of the units of a text are its UTF-8 bytes. -/
theorem getBytes_utf16 (text : String) : getBytes (utf16 text) = utf8 text := by
  rw [utf16, utf8]
  induction text.toList with
  | nil => rfl
  | cons char rest ih => rw [List.flatMap_cons, List.flatMap_cons, getBytes_charUnits_append, ih]

end StatsLogApiGen.QSchema
