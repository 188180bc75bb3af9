import Mathlib.Algebra.Group.Nat.Defs
import Mathlib.Data.List.Basic

/-!
# Strings with positions

Searching a string from a position on and cutting a part out of it.  Positions and
counts are numbers of the machine; the largest one stands for "not found" and, as a
count, for the rest of the string.  No string is long enough to have it as a position.
-/

namespace StatsLogApiGen.Format

universe u

/-- The position that is not found. -/
def npos : Nat :=
  2 ^ 64 - 1

/-- A string, all of whose positions lie below `npos`. -/
structure Text (α : Type u) where
  chars : List α
  length_lt : chars.length < npos

namespace Text

variable {α : Type u} [BEq α]

/-- The first position from `position` on that holds one of the delimiters. -/
def findFirstOf (text : Text α) (delimiters : List α) (position : Nat) : Nat :=
  match (text.chars.drop position).findIdx? delimiters.contains with
  | some offset => position + offset
  | none => npos

/-- The part of at most `count` characters from `position` on; a position behind the end
is out of range. -/
def substr (text : Text α) (position count : Nat) : Option (List α) :=
  if position ≤ text.chars.length then
    some ((text.chars.drop position).take count)
  else
    none

/-- Either there is no delimiter any more, or the first one follows a piece without
delimiters. -/
theorem findFirstOf_cases (text : Text α) (delimiters : List α) (position : Nat) :
    (text.findFirstOf delimiters position = npos ∧
        ∀ c ∈ text.chars.drop position, delimiters.contains c = false) ∨
      ∃ piece delimiter rest,
        text.chars.drop position = piece ++ delimiter :: rest ∧
          delimiters.contains delimiter = true ∧
          (∀ c ∈ piece, delimiters.contains c = false) ∧
          text.findFirstOf delimiters position = position + piece.length := by
  unfold findFirstOf
  cases found : (text.chars.drop position).findIdx? delimiters.contains with
  | none =>
      left
      exact ⟨rfl, List.findIdx?_eq_none_iff.mp found⟩
  | some offset =>
      right
      rcases List.findIdx?_eq_some_iff_getElem.mp found with ⟨inRange, isDelimiter, before⟩
      refine ⟨(text.chars.drop position).take offset, (text.chars.drop position)[offset],
        (text.chars.drop position).drop (offset + 1), ?_, isDelimiter, ?_, ?_⟩
      · rw [List.getElem_cons_drop, List.take_append_drop]
      · intro c member
        rcases List.mem_take_iff_getElem.mp member with ⟨index, indexLt, rfl⟩
        simpa using before index (by omega)
      · rw [List.length_take, Nat.min_eq_left (Nat.le_of_lt inRange)]

/-- A delimiter is found between the position and the end. -/
theorem findFirstOf_bounds {text : Text α} {delimiters : List α} {position : Nat}
    (found : text.findFirstOf delimiters position ≠ npos) :
    position ≤ text.findFirstOf delimiters position ∧
      text.findFirstOf delimiters position < text.chars.length := by
  rcases text.findFirstOf_cases delimiters position with
    ⟨notFound, -⟩ | ⟨piece, delimiter, rest, remain, -, -, isFound⟩
  · exact absurd notFound found
  · have lengths := congrArg List.length remain
    rw [List.length_drop, List.length_append, List.length_cons] at lengths
    rw [isFound]
    omega

end Text

/-! ## Pieces between delimiters -/

variable {α : Type u}

theorem splitOnP_forall (isDelimiter : α → Bool) (chars : List α) :
    ∀ piece ∈ chars.splitOnP isDelimiter, ∀ c ∈ piece, isDelimiter c = false := by
  induction chars with
  | nil => simp
  | cons c rest ih =>
      rw [List.splitOnP_cons_eq_if_modifyHead]
      split
      · exact List.forall_mem_cons.mpr ⟨nofun, ih⟩
      · rename_i notDelimiter
        cases pieces : rest.splitOnP isDelimiter with
        | nil => exact absurd pieces (List.splitOnP_ne_nil _ _)
        | cons first others =>
            rw [pieces, List.forall_mem_cons] at ih
            rw [List.modifyHead_cons, List.forall_mem_cons, List.forall_mem_cons]
            exact ⟨⟨by simpa using notDelimiter, ih.1⟩, ih.2⟩

/-- There is one more piece than there are delimiters. -/
theorem length_splitOnP (isDelimiter : α → Bool) (chars : List α) :
    (chars.splitOnP isDelimiter).length = chars.countP isDelimiter + 1 := by
  induction chars with
  | nil => rfl
  | cons c rest ih =>
      rw [List.splitOnP_cons_eq_if_modifyHead, List.countP_cons]
      split
      · rw [List.length_cons, ih]
      · rw [List.length_modifyHead, ih]

end StatsLogApiGen.Format
