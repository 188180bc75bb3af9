import Mathlib.Logic.Equiv.List

/-!
# Exact readers

A reader is exact for a writer when it accepts what the writer produces and nothing else.
Exact readers are put together from exact readers of the parts.  The groups of a stream, in
which labels follow every head, are read exactly.
-/

namespace StatsLogApiGen.Format

universe u v w

section Exact

variable {γ : Type u} {β : Type v} {α : Type w}

/-- The reader accepts what the writer produces, with the written value, and nothing
else. -/
def Exact (read : γ → Option α) (write : α → γ) : Prop :=
  ∀ code value, read code = some value ↔ code = write value

variable {read : γ → Option α} {write : α → γ}

theorem Exact.read_write (exact : Exact read write) (value : α) :
    read (write value) = some value :=
  (exact _ _).mpr rfl

/-- Different values are written differently. -/
theorem Exact.injective (exact : Exact read write) : Function.Injective write := by
  intro first second equal
  have isSecond := exact.read_write second
  rw [← equal, exact.read_write first] at isSecond
  exact Option.some.inj isSecond

/-- What is read can be read further. -/
theorem Exact.bind {readInner : α → Option β} {writeInner : β → α} (outer : Exact read write)
    (inner : Exact readInner writeInner) :
    Exact (fun code => (read code).bind readInner) (fun value => write (writeInner value)) := by
  intro code value
  rw [Option.bind_eq_some_iff]
  constructor
  · rintro ⟨middle, isMiddle, isValue⟩
    rw [(outer _ _).mp isMiddle, (inner _ _).mp isValue]
  · rintro rfl
    exact ⟨_, outer.read_write _, inner.read_write _⟩

/-- Codes may be replaced by equivalent ones. -/
theorem Exact.equiv (exact : Exact read write) (codes : β ≃ γ) :
    Exact (fun code => read (codes code)) (fun value => codes.symm (write value)) := by
  intro code value
  rw [exact, Equiv.eq_symm_apply]

/-- Lists are read item by item. -/
theorem Exact.mapM (exact : Exact read write) :
    Exact (List.mapM read) (List.map write) := by
  intro codes
  induction codes with
  | nil =>
      intro values
      rw [List.mapM_nil]
      cases values <;> simp
  | cons code rest ih =>
      intro values
      rw [List.mapM_cons, Option.bind_eq_bind, Option.bind_eq_some_iff]
      constructor
      · rintro ⟨value, isValue, isRest⟩
        obtain ⟨others, isOthers, equal⟩ := Option.bind_eq_some_iff.mp isRest
        obtain rfl := Option.some.inj equal
        rw [(exact _ _).mp isValue, (ih _).mp isOthers]
        rfl
      · cases values with
        | nil => rintro ⟨⟩
        | cons value others =>
            intro equal
            obtain ⟨rfl, rfl⟩ := List.cons.inj equal
            refine ⟨value, exact.read_write value, ?_⟩
            rw [(ih others).mpr rfl]
            rfl

end Exact

/-! ## Groups in a stream -/

/-- An entry of a stream. -/
inductive StreamEntry (η : Type u) (α : Type v) where
  | head (head : η)
  | label (label : α)
  deriving DecidableEq, Repr

/-- A head with its labels. -/
structure Group (η : Type u) (α : Type v) where
  head : η
  labels : List α
  deriving DecidableEq, Repr

section Groups

variable {η : Type u} {α : Type v}

/-- The entries of groups one after the other. -/
def writeGroups : List (Group η α) → List (StreamEntry η α)
  | [] => []
  | group :: rest => .head group.head :: (group.labels.map .label ++ writeGroups rest)

/-- The labels before the first head, and the groups. -/
def splitGroups : List (StreamEntry η α) → List α × List (Group η α)
  | [] => ([], [])
  | .head head :: rest => ([], ⟨head, (splitGroups rest).1⟩ :: (splitGroups rest).2)
  | .label label :: rest => (label :: (splitGroups rest).1, (splitGroups rest).2)

/-- The groups of a stream.  A label without a head is rejected. -/
def readGroups (entries : List (StreamEntry η α)) : Option (List (Group η α)) :=
  match splitGroups entries with
  | ([], groups) => some groups
  | (_ :: _, _) => none

theorem splitGroups_labels_append (labels : List α)
    (entries : List (StreamEntry η α)) :
    splitGroups (labels.map .label ++ entries) =
      (labels ++ (splitGroups entries).1, (splitGroups entries).2) := by
  induction labels with
  | nil => rfl
  | cons label rest ih => rw [List.map_cons, List.cons_append, splitGroups, ih]; rfl

theorem splitGroups_writeGroups (groups : List (Group η α)) :
    splitGroups (writeGroups groups) = ([], groups) := by
  induction groups with
  | nil => rfl
  | cons group rest ih =>
      rw [writeGroups, splitGroups, splitGroups_labels_append, ih, List.append_nil]

/-- Nothing of a stream is lost when it is split. -/
theorem eq_writeGroups_splitGroups (entries : List (StreamEntry η α)) :
    entries =
      (splitGroups entries).1.map .label ++ writeGroups (splitGroups entries).2 := by
  induction entries with
  | nil => rfl
  | cons entry rest ih =>
      cases entry with
      | head head =>
          rw [splitGroups, List.map_nil, List.nil_append, writeGroups, ← ih]
      | label label =>
          rw [splitGroups, List.map_cons, List.cons_append, ← ih]

/-- A stream is read as the groups it is written from, and as no others. -/
theorem exact_readGroups :
    Exact (readGroups : List (StreamEntry η α) → Option (List (Group η α))) writeGroups := by
  intro entries groups
  constructor
  · intro isRead
    have whole := eq_writeGroups_splitGroups entries
    rw [readGroups] at isRead
    split at isRead
    · rename_i others isSplit
      rw [isSplit] at whole
      rw [whole, Option.some.inj isRead]
      rfl
    · contradiction
  · rintro rfl
    rw [readGroups, splitGroups_writeGroups]

end Groups

/-- The group with other labels. -/
def Group.map {η : Type u} {α : Type v} {β : Type w} (change : α → β) (group : Group η α) :
    Group η β :=
  ⟨group.head, group.labels.map change⟩

end StatsLogApiGen.Format
