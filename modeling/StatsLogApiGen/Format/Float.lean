import Mathlib.Data.Nat.Log
import Mathlib.Tactic.Ring
import Mathlib.Tactic.Linarith

/-!
# Floats and integers

A float of 32 bits is compared with an integer by its value in units of `2 ^ -149`, of which
every finite float is a multiple.  An integer that is converted to a float is rounded to 24
binary digits, to the even one of two neighbours at the same distance.
-/

namespace StatsLogApiGen.Format

/-! ## Values of floats -/

/-- The value of an exponent field and a fraction without the sign. -/
def floatMagnitude (exponent fraction : Nat) : Nat :=
  if exponent = 0 then fraction else (2 ^ 23 + fraction) * 2 ^ (exponent - 1)

/-- The value of a finite float. -/
def floatUnits? (bits : BitVec 32) : Option Int :=
  let exponent := bits.toNat / 2 ^ 23 % 2 ^ 8
  let magnitude := floatMagnitude exponent (bits.toNat % 2 ^ 23)
  if exponent = 255 then none
  else if bits.toNat / 2 ^ 31 = 0 then some magnitude
  else some (-magnitude)

/-- The float has exactly the value of an integer. -/
def floatIs (bits : BitVec 32) (number : Int) : Bool :=
  floatUnits? bits = some (number * 2 ^ 149)

/-- The integer part of a float, which is 0 for what is not finite. -/
def floatInteger (bits : BitVec 32) : Int :=
  ((floatUnits? bits).getD 0).tdiv (2 ^ 149)

/-! ## Conversion to a float -/

/-- The binary digits of a number beyond the first 24. -/
def excessDigits (number : Nat) : Nat :=
  number.log2 - 23

/-- The quotient of a division by a power of two, rounded to the nearest number. -/
def roundedQuotient (number digits : Nat) : Nat :=
  let quotient := number / 2 ^ digits
  let remainder := number % 2 ^ digits
  if 2 ^ digits < 2 * remainder ∨ 2 * remainder = 2 ^ digits ∧ quotient % 2 = 1 then
    quotient + 1
  else
    quotient

def roundMagnitude (number : Nat) : Nat :=
  roundedQuotient number (excessDigits number) * 2 ^ excessDigits number

/-- The integer that a conversion to a float rounds to. -/
def roundToFloat (number : Int) : Int :=
  number.sign * roundMagnitude number.natAbs

theorem roundedQuotient_le (number digits : Nat) :
    roundedQuotient number digits ≤ number / 2 ^ digits + 1 := by
  rw [roundedQuotient]
  split <;> omega

theorem lt_pow_excessDigits (number : Nat) :
    number < 2 ^ 24 * 2 ^ excessDigits number := by
  rw [← pow_add]
  apply Nat.lt_log2_self.trans_le
  apply Nat.pow_le_pow_right (by decide)
  rw [excessDigits]
  omega

theorem roundedQuotient_le_pow (number : Nat) :
    roundedQuotient number (excessDigits number) ≤ 2 ^ 24 := by
  have quotient : number / 2 ^ excessDigits number < 2 ^ 24 :=
    (Nat.div_lt_iff_lt_mul (Nat.two_pow_pos _)).mpr (lt_pow_excessDigits number)
  exact (roundedQuotient_le _ _).trans quotient

/-- A number that ends in zeros from the 25th digit on is not rounded. -/
theorem roundMagnitude_of_dvd {number : Nat} (zeros : 2 ^ excessDigits number ∣ number) :
    roundMagnitude number = number := by
  have positive := Nat.two_pow_pos (excessDigits number)
  rw [roundMagnitude, roundedQuotient, Nat.mod_eq_zero_of_dvd zeros]
  rw [if_neg (by omega), Nat.div_mul_cancel zeros]

/-! ## Floats with the value of an integer -/

/-- A float with given fields. -/
theorem floatUnits?_ofNat {sign exponent fraction : Nat} (isSign : sign < 2)
    (finite : exponent < 255) (isFraction : fraction < 2 ^ 23) :
    floatUnits? (BitVec.ofNat 32 (sign * 2 ^ 31 + exponent * 2 ^ 23 + fraction)) =
      some (if sign = 0 then (floatMagnitude exponent fraction : Int)
        else -floatMagnitude exponent fraction) := by
  have isBits : (BitVec.ofNat 32 (sign * 2 ^ 31 + exponent * 2 ^ 23 + fraction)).toNat =
      sign * 2 ^ 31 + exponent * 2 ^ 23 + fraction := by
    rw [BitVec.toNat_ofNat]
    apply Nat.mod_eq_of_lt
    omega
  have isExponent : (sign * 2 ^ 31 + exponent * 2 ^ 23 + fraction) / 2 ^ 23 % 2 ^ 8 = exponent := by
    omega
  have isRest : (sign * 2 ^ 31 + exponent * 2 ^ 23 + fraction) % 2 ^ 23 = fraction := by
    omega
  have isTop : (sign * 2 ^ 31 + exponent * 2 ^ 23 + fraction) / 2 ^ 31 = sign := by
    omega
  rw [floatUnits?, isBits, isExponent, isRest, isTop]
  rw [if_neg (by omega)]
  split <;> rfl

/-- A number of up to 24 digits with zeros behind them is the value of a float. -/
theorem exists_fields {quotient digits : Nat} (short : quotient ≤ 2 ^ 24) (bound : digits ≤ 64) :
    ∃ exponent fraction, exponent < 255 ∧ fraction < 2 ^ 23 ∧
      floatMagnitude exponent fraction = quotient * 2 ^ digits * 2 ^ 149 := by
  rcases Nat.eq_zero_or_pos quotient with rfl | positive
  · exact ⟨0, 0, by decide, by decide, by simp [floatMagnitude]⟩
  rcases Nat.eq_or_lt_of_le short with rfl | lessDigits
  · refine ⟨digits + 151, 0, by omega, by decide, ?_⟩
    rw [floatMagnitude, if_neg (by omega), show digits + 151 - 1 = 1 + digits + 149 by omega,
      pow_add, pow_add]
    ring
  -- The digits are shifted until the first one is implicit.
  have isLog : quotient.log2 < 24 := (Nat.log2_lt (by omega)).mpr lessDigits
  have shifted : quotient * 2 ^ (23 - quotient.log2) < 2 ^ 24 := by
    have below := (Nat.mul_lt_mul_right (Nat.two_pow_pos (23 - quotient.log2))).mpr
      (Nat.lt_log2_self (n := quotient))
    rwa [← pow_add, show quotient.log2 + 1 + (23 - quotient.log2) = 24 by omega] at below
  have first : 2 ^ 23 ≤ quotient * 2 ^ (23 - quotient.log2) := by
    have above := Nat.mul_le_mul_right (2 ^ (23 - quotient.log2))
      (Nat.log2_self_le (n := quotient) (by omega))
    rwa [← pow_add, show quotient.log2 + (23 - quotient.log2) = 23 by omega] at above
  refine ⟨digits + 150 - (23 - quotient.log2), quotient * 2 ^ (23 - quotient.log2) - 2 ^ 23,
    by omega, by omega, ?_⟩
  rw [floatMagnitude, if_neg (by omega), Nat.add_sub_cancel' first, Nat.mul_assoc, ← pow_add,
    Nat.mul_assoc, ← pow_add]
  congr 2
  omega

theorem excessDigits_le {number : Nat} (bound : number < 2 ^ 64) : excessDigits number ≤ 64 := by
  rcases Nat.eq_zero_or_pos number with rfl | positive
  · decide
  · have isLog : number.log2 < 64 := (Nat.log2_lt (by omega)).mpr bound
    rw [excessDigits]
    omega

/-- What a conversion rounds to is the value of a float. -/
theorem exists_floatIs_roundToFloat {number : Int} (bound : number.natAbs < 2 ^ 64) :
    ∃ bits, floatIs bits (roundToFloat number) = true := by
  obtain ⟨exponent, fraction, finite, isFraction, isValue⟩ :=
    exists_fields (roundedQuotient_le_pow number.natAbs) (excessDigits_le bound)
  rw [← roundMagnitude] at isValue
  rcases lt_or_ge number 0 with negative | notNegative
  · refine ⟨_, decide_eq_true ((floatUnits?_ofNat (by decide : 1 < 2) finite isFraction).trans ?_)⟩
    rw [if_neg (by decide), isValue, roundToFloat, Int.sign_eq_neg_one_of_neg negative]
    push_cast
    ring_nf
  · refine ⟨_, decide_eq_true ((floatUnits?_ofNat (by decide : 0 < 2) finite isFraction).trans ?_)⟩
    rw [if_pos rfl, isValue, roundToFloat]
    rcases notNegative.eq_or_lt with rfl | positive
    · rfl
    · rw [Int.sign_eq_one_of_pos positive]
      push_cast
      ring_nf

/-- The value of a float has no more than 24 digits before the zeros. -/
theorem exists_digits (exponent : Nat) {fraction : Nat} (isFraction : fraction < 2 ^ 23) :
    ∃ quotient digits, quotient < 2 ^ 24 ∧
      floatMagnitude exponent fraction = quotient * 2 ^ digits := by
  rw [floatMagnitude]
  split
  · exact ⟨fraction, 0, by omega, by rw [pow_zero, Nat.mul_one]⟩
  · exact ⟨2 ^ 23 + fraction, exponent - 1, by omega, rfl⟩

/-- A number that is the value of a float ends in zeros. -/
theorem excess_dvd {number quotient digits : Nat} (short : quotient < 2 ^ 24)
    (isValue : quotient * 2 ^ digits = number * 2 ^ 149) : 2 ^ excessDigits number ∣ number := by
  rcases Nat.eq_zero_or_pos number with rfl | positive
  · exact dvd_zero _
  rcases Nat.eq_zero_or_pos (excessDigits number) with none | some
  · rw [none, pow_zero]
    exact one_dvd _
  have first : 2 ^ 23 * 2 ^ excessDigits number ≤ number := by
    rw [← pow_add]
    apply (Nat.pow_le_pow_right (by decide) _).trans (Nat.log2_self_le (n := number) (by omega))
    rw [excessDigits] at some ⊢
    omega
  have enough : excessDigits number + 149 ≤ digits := by
    by_contra less
    have few : 2 ^ digits ≤ 2 ^ (excessDigits number + 148) := by
      apply Nat.pow_le_pow_right (by decide)
      omega
    have low : quotient * 2 ^ digits < 2 ^ 24 * 2 ^ (excessDigits number + 148) :=
      Nat.mul_lt_mul_of_lt_of_le short few (Nat.two_pow_pos _)
    have high := Nat.mul_le_mul_right (2 ^ 149) first
    have same : 2 ^ 24 * 2 ^ (excessDigits number + 148) =
        2 ^ 23 * 2 ^ excessDigits number * 2 ^ 149 := by
      rw [pow_add]
      ring
    rw [isValue, same] at low
    exact absurd high (Nat.not_le_of_lt low)
  have split : quotient * 2 ^ (digits - 149) = number := by
    apply Nat.eq_of_mul_eq_mul_right (Nat.two_pow_pos 149)
    rw [Nat.mul_assoc, ← pow_add, Nat.sub_add_cancel (by omega), isValue]
  have zeros : 2 ^ excessDigits number ∣ quotient * 2 ^ (digits - 149) :=
    (Nat.pow_dvd_pow 2 (by omega)).mul_left quotient
  rwa [split] at zeros

/-- An integer that is the value of a float is not rounded. -/
theorem roundToFloat_of_floatIs {bits : BitVec 32} {number : Int}
    (isFloat : floatIs bits number = true) : roundToFloat number = number := by
  have units := of_decide_eq_true isFloat
  have isFraction : bits.toNat % 2 ^ 23 < 2 ^ 23 := Nat.mod_lt _ (by decide)
  obtain ⟨quotient, digits, short, isMagnitude⟩ :=
    exists_digits (bits.toNat / 2 ^ 23 % 2 ^ 8) isFraction
  have magnitude : quotient * 2 ^ digits = number.natAbs * 2 ^ 149 := by
    have absolute (magnitude : Nat) (isUnits : (magnitude : Int) = number * 2 ^ 149 ∨
        -(magnitude : Int) = number * 2 ^ 149) : magnitude = number.natAbs * 2 ^ 149 := by
      omega
    rw [← isMagnitude]
    apply absolute
    rw [floatUnits?] at units
    split at units
    · contradiction
    · split at units
      · exact Or.inl (Option.some.inj units)
      · exact Or.inr (Option.some.inj units)
  rw [roundToFloat, roundMagnitude_of_dvd (excess_dvd short magnitude)]
  exact Int.sign_mul_natAbs number

/-- `2.0f`, and the first integer that is no float. -/
example : floatIs 0x40000000 2 = true ∧ roundToFloat 16777217 = 16777216 := by decide

end StatsLogApiGen.Format
