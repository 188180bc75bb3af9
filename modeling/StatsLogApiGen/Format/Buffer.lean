import Mathlib.Algebra.Group.Nat.Defs
import Mathlib.Algebra.Ring.Int.Defs
import Mathlib.Data.List.Basic

/-!
# Preallocated arrays

An array that is filled from the front, by single stores and by copies of whole
arrays.  An access outside the array fails.  The log of the positions that were
stored to shows what was written how often.  Positions are computed by an
arithmetic that is right on the positions an array can have.
-/

namespace StatsLogApiGen.Format

universe u v w

/-! ## Arithmetic -/

/-- One more than the largest position or length of an array. -/
def arrayLimit : Int := 2 ^ 31

/-- Integer arithmetic that may leave the range of a machine word. -/
structure Arithmetic where
  norm : Int → Int
  norm_of_small : ∀ value, 0 ≤ value → value < arrayLimit → norm value = value
  norm_add_norm : ∀ left right, norm (left + norm right) = norm (left + right)

namespace Arithmetic

/-- Integers without bounds. -/
def unbounded : Arithmetic where
  norm := id
  norm_of_small _ _ _ := rfl
  norm_add_norm _ _ := rfl

/-- Two's complement numbers of 32 bits. -/
def wrapping : Arithmetic where
  norm value := Int.bmod value (2 ^ 32)
  norm_of_small value nonneg small := by
    rw [arrayLimit] at small
    apply Int.bmod_eq_of_le <;> omega
  norm_add_norm left right := Int.add_bmod_bmod

variable (arith : Arithmetic)

theorem norm_norm (value : Int) : arith.norm (arith.norm value) = arith.norm value := by
  have twice := arith.norm_add_norm 0 value
  rwa [Int.zero_add, Int.zero_add] at twice

theorem norm_norm_add (left right : Int) :
    arith.norm (arith.norm left + right) = arith.norm (left + right) := by
  rw [Int.add_comm, arith.norm_add_norm, Int.add_comm]

end Arithmetic

/-! ## Buffers -/

/-- An array and the positions that were stored to, in order. -/
structure Buffer (α : Type u) where
  cells : List α
  written : List Nat

namespace Buffer

variable {α : Type u}

/-- A new array. -/
def allocate (count : Nat) (initial : α) : Buffer α :=
  ⟨List.replicate count initial, []⟩

def size (buffer : Buffer α) : Nat :=
  buffer.cells.length

/-- Assign to one element. -/
def store (buffer : Buffer α) (index : Int) (value : α) : Option (Buffer α) :=
  if 0 ≤ index ∧ index < buffer.size then
    some
      { cells := buffer.cells.set index.toNat value
        written := buffer.written ++ [index.toNat] }
  else
    none

/-- Assign to elements one after the other. -/
def storeAll : Buffer α → List (Int × α) → Option (Buffer α)
  | buffer, [] => some buffer
  | buffer, (index, value) :: rest =>
      (buffer.store index value).bind fun next => next.storeAll rest

/-- Copy a whole array into a part of the buffer. -/
def copy (buffer : Buffer α) (index : Int) (values : List α) : Option (Buffer α) :=
  if 0 ≤ index ∧ index + values.length ≤ buffer.size then
    some
      { cells := buffer.cells.take index.toNat ++ values ++
          buffer.cells.drop (index.toNat + values.length)
        written := buffer.written ++ List.range' index.toNat values.length }
  else
    none

/-- The front of the array has been written, every element once and in order. -/
structure Filled (buffer : Buffer α) (front : List α) : Prop where
  cells : front <+: buffer.cells
  written : buffer.written = List.range front.length
  small : (buffer.size : Int) < arrayLimit

/-- The result of an operation that appends to the front. -/
def Appended (result : Option (Buffer α)) (size : Nat) (front : List α) : Prop :=
  ∃ next, result = some next ∧ Filled next front ∧ next.size = size

variable {buffer : Buffer α} {front : List α}

theorem filled_allocate {count : Nat} {initial : α} (small : (count : Int) < arrayLimit) :
    Filled (allocate count initial) [] := by
  constructor
  · exact List.nil_prefix
  · rfl
  · rwa [size, allocate, List.length_replicate]

@[simp]
theorem size_allocate (count : Nat) (initial : α) : (allocate count initial).size = count :=
  List.length_replicate

namespace Filled

theorem length_le (filled : Filled buffer front) : front.length ≤ buffer.size :=
  filled.cells.length_le

theorem length_small (filled : Filled buffer front) : (front.length : Int) < arrayLimit := by
  have bound := filled.length_le
  have small := filled.small
  omega

/-- A buffer that is written to its end holds nothing else. -/
theorem cells_eq (filled : Filled buffer front) (full : buffer.size = front.length) :
    buffer.cells = front :=
  (filled.cells.eq_of_length full.symm).symm

/-- Storing right behind the front appends to it. -/
theorem store (filled : Filled buffer front) (room : front.length < buffer.size) (value : α) :
    Appended (buffer.store front.length value) buffer.size (front ++ [value]) := by
  obtain ⟨rest, cells⟩ := filled.cells
  have inside : 0 ≤ (front.length : Int) ∧ (front.length : Int) < buffer.size := by omega
  refine ⟨_, if_pos inside, ?_, List.length_set⟩
  constructor
  · rw [Int.toNat_natCast, ← cells, List.set_append_right _ _ (Nat.le_refl _), Nat.sub_self]
    cases rest with
    | nil =>
        rw [size, ← cells, List.append_nil] at room
        omega
    | cons first rest => exact ⟨rest, by simp⟩
  · rw [filled.written, Int.toNat_natCast, List.length_append, List.length_singleton,
      List.range_succ]
  · rw [size, List.length_set]
    exact filled.small

/-- Copying right behind the front appends to it. -/
theorem copy (filled : Filled buffer front) {values : List α}
    (room : front.length + values.length ≤ buffer.size) :
    Appended (buffer.copy front.length values) buffer.size (front ++ values) := by
  obtain ⟨rest, cells⟩ := filled.cells
  have inside :
      0 ≤ (front.length : Int) ∧ (front.length : Int) + values.length ≤ buffer.size := by
    omega
  have length : (buffer.cells.take front.length ++ values ++
      buffer.cells.drop (front.length + values.length)).length = buffer.size := by
    rw [size] at room
    simp only [List.length_append, List.length_take, List.length_drop, size]
    omega
  refine ⟨_, if_pos inside, ?_, ?_⟩
  · constructor
    · rw [Int.toNat_natCast, ← cells, List.take_left]
      exact List.prefix_append _ _
    · rw [filled.written, Int.toNat_natCast, List.length_append, List.range_eq_range',
        List.range_eq_range', ← List.range'_append_1, Nat.zero_add]
    · rw [size, Int.toNat_natCast, length]
      exact filled.small
  · rw [size, Int.toNat_natCast, length]

end Filled

theorem store_eq_none {value : α} (full : buffer.size ≤ front.length) :
    buffer.store front.length value = none :=
  if_neg (by omega)

theorem copy_eq_none {values : List α} (full : buffer.size < front.length + values.length) :
    buffer.copy front.length values = none :=
  if_neg (by omega)

/-! ## Consecutive stores -/

/-- The positions of assignments count up, as long as an array can have them. -/
def Consecutive : Nat → List (Int × α) → Prop
  | _, [] => True
  | position, (index, _) :: rest =>
      ((position : Int) < arrayLimit → index = position) ∧ Consecutive (position + 1) rest

/-- Consecutive stores behind the front append to it. -/
theorem Filled.storeAll (filled : Filled buffer front) {writes : List (Int × α)}
    (consecutive : Consecutive front.length writes)
    (room : front.length + writes.length ≤ buffer.size) :
    Appended (buffer.storeAll writes) buffer.size (front ++ writes.map Prod.snd) := by
  induction writes generalizing buffer front with
  | nil => exact ⟨buffer, rfl, by rwa [List.map_nil, List.append_nil], rfl⟩
  | cons write rest ih =>
      obtain ⟨index, value⟩ := write
      obtain ⟨isPosition, others⟩ := consecutive
      obtain rfl := isPosition filled.length_small
      rw [List.length_cons] at room
      obtain ⟨next, stored, nextFilled, sameSize⟩ := filled.store (by omega) value
      have length : (front ++ [value]).length = front.length + 1 := by simp
      rw [← length] at others
      obtain ⟨last, storedAll, lastFilled, lastSize⟩ :=
        ih nextFilled others (by rw [length, sameSize]; omega)
      refine ⟨last, ?_, ?_, lastSize.trans sameSize⟩
      · rw [Buffer.storeAll, stored, Option.bind_some, storedAll]
      · rwa [List.append_assoc] at lastFilled

/-- Stores that do not fit fail. -/
theorem Filled.storeAll_eq_none (filled : Filled buffer front) {writes : List (Int × α)}
    (consecutive : Consecutive front.length writes)
    (full : buffer.size < front.length + writes.length) : buffer.storeAll writes = none := by
  induction writes generalizing buffer front with
  | nil =>
      have bound := filled.length_le
      rw [List.length_nil] at full
      omega
  | cons write rest ih =>
      obtain ⟨index, value⟩ := write
      obtain ⟨isPosition, others⟩ := consecutive
      obtain rfl := isPosition filled.length_small
      rw [List.length_cons] at full
      rw [Buffer.storeAll]
      by_cases room : front.length < buffer.size
      · obtain ⟨next, stored, nextFilled, sameSize⟩ := filled.store room value
        have length : (front ++ [value]).length = front.length + 1 := by simp
        rw [stored, Option.bind_some]
        rw [← length] at others
        exact ih nextFilled others (by rw [length, sameSize]; omega)
      · rw [store_eq_none (by omega)]
        rfl

section StoreAndCopy

variable {writes : List (Int × α)} {values : List α} {index : Int}

/-- Consecutive stores and a copy right behind them. -/
theorem Filled.storeAll_copy (filled : Filled buffer front)
    (consecutive : Consecutive front.length writes)
    (isBehind : ((front.length + writes.length : Nat) : Int) < arrayLimit →
      index = (front.length + writes.length : Nat))
    (room : front.length + (writes.length + values.length) ≤ buffer.size) :
    Appended ((buffer.storeAll writes).bind fun next => next.copy index values) buffer.size
      (front ++ (writes.map Prod.snd ++ values)) := by
  have length : (front ++ writes.map Prod.snd).length = front.length + writes.length := by
    rw [List.length_append, List.length_map]
  obtain ⟨middle, stored, middleFilled, middleSize⟩ :=
    filled.storeAll consecutive (by omega)
  have small := middleFilled.length_small
  rw [length] at small
  rw [stored, Option.bind_some, isBehind small, ← length, ← List.append_assoc, ← middleSize]
  exact middleFilled.copy (by rw [length, middleSize]; omega)

theorem Filled.storeAll_copy_eq_none (filled : Filled buffer front)
    (consecutive : Consecutive front.length writes)
    (isBehind : ((front.length + writes.length : Nat) : Int) < arrayLimit →
      index = (front.length + writes.length : Nat))
    (full : buffer.size < front.length + (writes.length + values.length)) :
    ((buffer.storeAll writes).bind fun next => next.copy index values) = none := by
  by_cases room : front.length + writes.length ≤ buffer.size
  · have length : (front ++ writes.map Prod.snd).length = front.length + writes.length := by
      rw [List.length_append, List.length_map]
    obtain ⟨middle, stored, middleFilled, middleSize⟩ := filled.storeAll consecutive room
    have small := middleFilled.length_small
    rw [length] at small
    rw [stored, Option.bind_some, isBehind small, ← length]
    exact copy_eq_none (by rw [length, middleSize]; omega)
  · rw [filled.storeAll_eq_none consecutive (by omega)]
    rfl

end StoreAndCopy

end Buffer

/-! ## Appending actions -/

section Actions

variable {α : Type u} {σ : Type v} {ε : Type w}

/-- An action on a state that has written `front` of an array of some size: it appends
values when they fit and fails otherwise. -/
structure Appends (stands : σ → List α → Nat → Prop) (action : σ → Except ε σ)
    (values : List α) : Prop where
  fits : ∀ {state front size}, stands state front size →
    front.length + values.length ≤ size →
      ∃ next, action state = .ok next ∧ stands next (front ++ values) size
  overflows : ∀ {state front size}, stands state front size →
    size < front.length + values.length → ∃ reason, action state = .error reason

variable {stands : σ → List α → Nat → Prop}

namespace Appends

/-- Doing nothing, on an array that holds its front. -/
theorem pure (bounded : ∀ {state front size}, stands state front size → front.length ≤ size) :
    Appends stands (.ok : σ → Except ε σ) [] := by
  constructor
  · intro state front size standing _
    exact ⟨state, rfl, by rwa [List.append_nil]⟩
  · intro state front size standing full
    have bound := bounded standing
    rw [List.length_nil] at full
    omega

/-- One action after the other. -/
theorem bind {first second : σ → Except ε σ} {values others : List α}
    (firstAppends : Appends stands first values) (secondAppends : Appends stands second others) :
    Appends stands (fun state => (first state).bind second) (values ++ others) := by
  constructor
  · intro state front size standing room
    rw [List.length_append] at room
    obtain ⟨middle, isMiddle, middleStands⟩ := firstAppends.fits standing (by omega)
    obtain ⟨last, isLast, lastStands⟩ :=
      secondAppends.fits middleStands (by rw [List.length_append]; omega)
    refine ⟨last, ?_, by rwa [List.append_assoc] at lastStands⟩
    simp only [isMiddle, Except.bind, isLast]
  · intro state front size standing full
    rw [List.length_append] at full
    by_cases room : front.length + values.length ≤ size
    · obtain ⟨middle, isMiddle, middleStands⟩ := firstAppends.fits standing room
      obtain ⟨reason, failed⟩ :=
        secondAppends.overflows middleStands (by rw [List.length_append]; omega)
      exact ⟨reason, by simp only [isMiddle, Except.bind, failed]⟩
    · obtain ⟨reason, failed⟩ := firstAppends.overflows standing (by omega)
      exact ⟨reason, by simp only [failed, Except.bind]⟩

theorem of_eq {action other : σ → Except ε σ} {values : List α}
    (appends : Appends stands action values) (same : ∀ state, other state = action state) :
    Appends stands other values :=
  (funext same : other = action) ▸ appends

/-- What was appended when the action succeeded. -/
theorem of_ok {action : σ → Except ε σ} {values : List α} (appends : Appends stands action values)
    {state next : σ} {front : List α} {size : Nat} (standing : stands state front size)
    (ok : action state = .ok next) :
    front.length + values.length ≤ size ∧ stands next (front ++ values) size := by
  by_cases room : front.length + values.length ≤ size
  · obtain ⟨after, isAfter, afterStands⟩ := appends.fits standing room
    rw [ok] at isAfter
    obtain rfl := Except.ok.inj isAfter
    exact ⟨room, afterStands⟩
  · obtain ⟨reason, failed⟩ := appends.overflows standing (by omega)
    rw [ok] at failed
    contradiction

end Appends

end Actions

end StatsLogApiGen.Format
