import StatsLogApiGen.Container.OrderedMap
import Mathlib.Data.List.Induction

/-!
# First and last occurrences

A loop that prints what belongs to a key the first time it meets the key, and keeps the
set of keys it has processed.  A loop that fills a map keeps what it meets last.
-/

namespace StatsLogApiGen.Container

universe u v

variable {κ : Type u} {α : Type v}

/-- No element before this one has its key. -/
def IsFirst (key : α → κ) (list : List α) (element : α) : Prop :=
  ∃ before after, list = before ++ element :: after ∧ ∀ other ∈ before, key other ≠ key element

/-- No element after this one has its key. -/
def IsLast (key : α → κ) (list : List α) (element : α) : Prop :=
  ∃ before after, list = before ++ element :: after ∧ ∀ other ∈ after, key other ≠ key element

theorem IsFirst.mem {key : α → κ} {list : List α} {element : α}
    (isFirst : IsFirst key list element) : element ∈ list := by
  rcases isFirst with ⟨before, after, rfl, -⟩
  simp

theorem IsLast.mem {key : α → κ} {list : List α} {element : α}
    (isLast : IsLast key list element) : element ∈ list := by
  rcases isLast with ⟨before, after, rfl, -⟩
  simp

theorem IsFirst.append {key : α → κ} {list : List α} {element : α}
    (isFirst : IsFirst key list element) (rest : List α) : IsFirst key (list ++ rest) element := by
  rcases isFirst with ⟨before, after, rfl, fresh⟩
  exact ⟨before, after ++ rest, by simp, fresh⟩

theorem not_isFirst_nil (key : α → κ) (element : α) : ¬IsFirst key [] element := by
  intro isFirst
  simpa using isFirst.mem

theorem not_isLast_nil (key : α → κ) (element : α) : ¬IsLast key [] element := by
  intro isLast
  simpa using isLast.mem

theorem isFirst_cons_iff {key : α → κ} {first element : α} {rest : List α} :
    IsFirst key (first :: rest) element ↔
      element = first ∨ IsFirst key rest element ∧ key first ≠ key element := by
  constructor
  · rintro ⟨before, after, split, fresh⟩
    cases before with
    | nil =>
        left
        exact (List.head_eq_of_cons_eq split).symm
    | cons head others =>
        right
        rcases List.cons.inj split with ⟨rfl, isRest⟩
        refine ⟨⟨others, after, isRest, ?_⟩, fresh first List.mem_cons_self⟩
        intro other member
        exact fresh other (List.mem_cons_of_mem _ member)
  · rintro (rfl | ⟨⟨before, after, rfl, fresh⟩, different⟩)
    · exact ⟨[], rest, rfl, by simp⟩
    · refine ⟨first :: before, after, rfl, ?_⟩
      intro other member
      rcases List.mem_cons.mp member with rfl | later
      · exact different
      · exact fresh other later

theorem isLast_append_singleton_iff {key : α → κ} {last element : α} {front : List α} :
    IsLast key (front ++ [last]) element ↔
      element = last ∨ IsLast key front element ∧ key last ≠ key element := by
  constructor
  · rintro ⟨before, after, split, fresh⟩
    rcases List.eq_nil_or_concat after with rfl | ⟨middle, final, rfl⟩
    · left
      exact (List.append_singleton_inj.mp split).2.symm
    · right
      rw [List.concat_eq_append, ← List.cons_append, ← List.append_assoc] at split
      rcases List.append_singleton_inj.mp split with ⟨rfl, rfl⟩
      refine ⟨⟨before, middle, rfl, ?_⟩, fresh last (by simp)⟩
      intro other member
      exact fresh other (by simp [member])
  · rintro (rfl | ⟨⟨before, after, rfl, fresh⟩, different⟩)
    · exact ⟨front, [], rfl, by simp⟩
    · refine ⟨before, after ++ [last], by simp, ?_⟩
      intro other member
      rcases List.mem_append.mp member with earlier | isLast
      · exact fresh other earlier
      · rw [List.mem_singleton.mp isLast]
        exact different

/-- The key of an element has a first occurrence. -/
theorem exists_isFirst (key : α → κ) {list : List α} {element : α} (member : element ∈ list) :
    ∃ first, IsFirst key list first ∧ key first = key element := by
  induction list with
  | nil => simp at member
  | cons head rest ih =>
      rcases List.mem_cons.mp member with rfl | later
      · exact ⟨element, isFirst_cons_iff.mpr (Or.inl rfl), rfl⟩
      · rcases ih later with ⟨first, isFirst, same⟩
        by_cases equal : key head = key element
        · exact ⟨head, isFirst_cons_iff.mpr (Or.inl rfl), equal⟩
        · refine ⟨first, isFirst_cons_iff.mpr (Or.inr ⟨isFirst, ?_⟩), same⟩
          rwa [same]

theorem IsFirst.eq_of_key_eq {key : α → κ} {list : List α} {left right : α}
    (leftFirst : IsFirst key list left) (rightFirst : IsFirst key list right)
    (same : key left = key right) : left = right := by
  induction list with
  | nil => exact absurd leftFirst (not_isFirst_nil key left)
  | cons head rest ih =>
      rcases isFirst_cons_iff.mp leftFirst with rfl | ⟨leftLater, leftDiffers⟩
      · rcases isFirst_cons_iff.mp rightFirst with rfl | ⟨-, differs⟩
        · rfl
        · exact absurd same differs
      · rcases isFirst_cons_iff.mp rightFirst with rfl | ⟨rightLater, -⟩
        · exact absurd same.symm leftDiffers
        · exact ih leftLater rightLater

/-- First occurrences are not changed by a map that keeps the keys. -/
theorem isFirst_map_iff {β : Type*} {key : α → κ} {newKey : β → κ} {change : α → β}
    (keeps : ∀ element, newKey (change element) = key element) {list : List α} {image : β} :
    IsFirst newKey (list.map change) image ↔
      ∃ element, IsFirst key list element ∧ change element = image := by
  induction list with
  | nil => simp [not_isFirst_nil]
  | cons first rest ih =>
      rw [List.map_cons, isFirst_cons_iff, ih]
      constructor
      · rintro (rfl | ⟨⟨element, isFirst, rfl⟩, different⟩)
        · exact ⟨first, isFirst_cons_iff.mpr (Or.inl rfl), rfl⟩
        · rw [keeps, keeps] at different
          exact ⟨element, isFirst_cons_iff.mpr (Or.inr ⟨isFirst, different⟩), rfl⟩
      · rintro ⟨element, isFirst, rfl⟩
        rcases isFirst_cons_iff.mp isFirst with rfl | ⟨later, different⟩
        · exact Or.inl rfl
        · right
          refine ⟨⟨element, later, rfl⟩, ?_⟩
          rwa [keeps, keeps]

/-- A map that is filled from a list holds what the last element with a key has for it. -/
theorem getElem?_foldl_insert_iff [Ord κ] [Std.TransOrd κ] [Std.LawfulEqOrd κ] {ν : Type*}
    {key : α → κ} {value : α → ν} {items : List α} {index : κ} {bound : ν} :
    (items.foldl (fun map item => map.insert (key item) (value item))
      (∅ : Std.ExtTreeMap κ ν))[index]? = some bound ↔
      ∃ item, IsLast key items item ∧ key item = index ∧ value item = bound := by
  induction items using List.reverseRecOn with
  | nil => simp [not_isLast_nil]
  | append_singleton front last ih =>
      rw [List.foldl_append, List.foldl_cons, List.foldl_nil, Std.ExtTreeMap.getElem?_insert]
      simp only [isLast_append_singleton_iff]
      by_cases same : key last = index
      · rw [if_pos (Std.compare_eq_iff_eq.mpr same), Option.some.injEq]
        constructor
        · intro isBound
          exact ⟨last, Or.inl rfl, same, isBound⟩
        · rintro ⟨item, rfl | ⟨-, different⟩, hasIndex, isBound⟩
          · exact isBound
          · exact absurd (same.trans hasIndex.symm) different
      · rw [if_neg (mt Std.compare_eq_iff_eq.mp same), ih]
        constructor
        · rintro ⟨item, isLast, rfl, isBound⟩
          exact ⟨item, Or.inr ⟨isLast, same⟩, rfl, isBound⟩
        · rintro ⟨item, rfl | ⟨isLast, -⟩, hasIndex, isBound⟩
          · exact absurd hasIndex same
          · exact ⟨item, isLast, hasIndex, isBound⟩

variable [DecidableEq κ]

/-- The processed keys and what has been printed. -/
structure Processed (κ : Type u) (α : Type v) where
  keys : List κ := []
  printed : List α := []

/-- One round of the loop: an entry with a processed key is skipped. -/
def Processed.step (state : Processed κ α) (entry : κ × List α) : Processed κ α :=
  if entry.1 ∈ state.keys then
    state
  else
    { keys := state.keys ++ [entry.1], printed := state.printed ++ entry.2 }

/-- The loop over a list of entries. -/
def processOnce (entries : List (κ × List α)) : Processed κ α :=
  entries.foldl Processed.step {}

/-- The entries with the first occurrence of a key that is not among the seen ones. -/
def keepFirst (seen : List κ) : List (κ × List α) → List (κ × List α)
  | [] => []
  | entry :: rest =>
      if entry.1 ∈ seen then
        keepFirst seen rest
      else
        entry :: keepFirst (seen ++ [entry.1]) rest

theorem foldl_step (entries : List (κ × List α)) (state : Processed κ α) :
    entries.foldl Processed.step state =
      { keys := state.keys ++ (keepFirst state.keys entries).map Prod.fst
        printed := state.printed ++ (keepFirst state.keys entries).flatMap Prod.snd } := by
  induction entries generalizing state with
  | nil => simp [keepFirst]
  | cons entry rest ih =>
      rw [List.foldl_cons, ih, keepFirst]
      by_cases seen : entry.1 ∈ state.keys
      · rw [Processed.step, if_pos seen, if_pos seen]
      · rw [Processed.step, if_neg seen, if_neg seen]
        simp

/-- The loop processes the first occurrences. -/
theorem processOnce_eq (entries : List (κ × List α)) :
    processOnce entries =
      { keys := (keepFirst [] entries).map Prod.fst
        printed := (keepFirst [] entries).flatMap Prod.snd } := by
  rw [processOnce, foldl_step]
  rfl

theorem mem_keepFirst_iff {seen : List κ} {entries : List (κ × List α)} {entry : κ × List α} :
    entry ∈ keepFirst seen entries ↔ IsFirst Prod.fst entries entry ∧ entry.1 ∉ seen := by
  induction entries generalizing seen with
  | nil => simp [keepFirst, not_isFirst_nil]
  | cons first rest ih =>
      rw [keepFirst, isFirst_cons_iff]
      by_cases isSeen : first.1 ∈ seen
      · rw [if_pos isSeen, ih]
        constructor
        · rintro ⟨isFirst, unseen⟩
          exact ⟨Or.inr ⟨isFirst, fun same => unseen (same ▸ isSeen)⟩, unseen⟩
        · rintro ⟨rfl | ⟨isFirst, -⟩, unseen⟩
          · exact absurd isSeen unseen
          · exact ⟨isFirst, unseen⟩
      · rw [if_neg isSeen, List.mem_cons, ih]
        constructor
        · rintro (rfl | ⟨isFirst, unseen⟩)
          · exact ⟨Or.inl rfl, isSeen⟩
          · rw [List.mem_append, List.mem_singleton, not_or] at unseen
            exact ⟨Or.inr ⟨isFirst, Ne.symm unseen.2⟩, unseen.1⟩
        · rintro ⟨rfl | ⟨isFirst, different⟩, unseen⟩
          · exact Or.inl rfl
          · right
            refine ⟨isFirst, ?_⟩
            rw [List.mem_append, List.mem_singleton, not_or]
            exact ⟨unseen, Ne.symm different⟩

/-- What has been printed belongs to a first occurrence. -/
theorem mem_processOnce_printed_iff {entries : List (κ × List α)} {element : α} :
    element ∈ (processOnce entries).printed ↔
      ∃ entry, IsFirst Prod.fst entries entry ∧ element ∈ entry.2 := by
  rw [processOnce_eq, List.mem_flatMap]
  simp only [mem_keepFirst_iff, List.not_mem_nil, not_false_eq_true, and_true]

theorem mem_processOnce_keys_iff {entries : List (κ × List α)} {key : κ} :
    key ∈ (processOnce entries).keys ↔ ∃ entry ∈ entries, entry.1 = key := by
  rw [processOnce_eq, List.mem_map]
  constructor
  · rintro ⟨entry, member, rfl⟩
    exact ⟨entry, (mem_keepFirst_iff.mp member).1.mem, rfl⟩
  · rintro ⟨entry, member, rfl⟩
    rcases exists_isFirst Prod.fst member with ⟨first, isFirst, same⟩
    exact ⟨first, mem_keepFirst_iff.mpr ⟨isFirst, by simp⟩, same⟩

/-- An entry is skipped only when everything that belongs to it has been printed. -/
def SkipsPrinted (entries : List (κ × List α)) : Prop :=
  ∀ before entry after, entries = before ++ entry :: after →
    entry.1 ∈ (processOnce before).keys → ∀ element ∈ entry.2,
      element ∈ (processOnce before).printed

theorem processOnce_printed_append (before after : List (κ × List α)) {element : α}
    (printed : element ∈ (processOnce before).printed) :
    element ∈ (processOnce (before ++ after)).printed := by
  rw [processOnce, List.foldl_append, foldl_step]
  exact List.mem_append_left _ printed

/-- Then the loop prints what belongs to any entry. -/
theorem SkipsPrinted.mem_printed {entries : List (κ × List α)} (skips : SkipsPrinted entries)
    {entry : κ × List α} (member : entry ∈ entries) {element : α} (elementMem : element ∈ entry.2) :
    element ∈ (processOnce entries).printed := by
  rcases List.append_of_mem member with ⟨before, after, split⟩
  by_cases seen : entry.1 ∈ (processOnce before).keys
  · rw [split]
    exact processOnce_printed_append before _
      (skips before entry after split seen element elementMem)
  · apply mem_processOnce_printed_iff.mpr
    refine ⟨entry, ⟨before, after, split, ?_⟩, elementMem⟩
    intro other otherMem same
    exact seen (mem_processOnce_keys_iff.mpr ⟨other, otherMem, same⟩)

/-- The first occurrences exist as soon as there are entries. -/
theorem keepFirst_eq_nil_iff {entries : List (κ × List α)} :
    keepFirst [] entries = [] ↔ entries = [] := by
  cases entries with
  | nil => simp [keepFirst]
  | cons first rest => simp [keepFirst]

/-- The first occurrences depend on the keys only. -/
theorem keepFirst_flatMap_congr {γ β δ : Type*} {key : γ → κ} {left : γ → List α}
    {right : γ → List β} {leftName : α → δ} {rightName : β → δ}
    (same : ∀ element, (left element).map leftName = (right element).map rightName)
    (seen : List κ) (entries : List γ) :
    ((keepFirst seen (entries.map fun element => (key element, left element))).flatMap
        Prod.snd).map leftName =
      ((keepFirst seen (entries.map fun element => (key element, right element))).flatMap
        Prod.snd).map rightName := by
  induction entries generalizing seen with
  | nil => rfl
  | cons first rest ih =>
      rw [List.map_cons, List.map_cons, keepFirst, keepFirst]
      by_cases isSeen : key first ∈ seen
      · rw [if_pos isSeen, if_pos isSeen]
        exact ih seen
      · rw [if_neg isSeen, if_neg isSeen, List.flatMap_cons, List.flatMap_cons, List.map_append,
          List.map_append, ih, same]

/-- A list of images has no duplicates when the list has none and no two of its elements
have the same image. -/
theorem nodup_map_iff {α β : Type*} {change : α → β} {list : List α} :
    (list.map change).Nodup ↔
      list.Nodup ∧ ∀ left ∈ list, ∀ right ∈ list, change left = change right → left = right := by
  constructor
  · intro distinct
    refine ⟨distinct.of_map change, ?_⟩
    intro left leftMem right rightMem same
    exact List.inj_on_of_nodup_map distinct leftMem rightMem same
  · rintro ⟨distinct, unmerged⟩
    exact distinct.map_on fun left leftMem right rightMem same =>
      unmerged left leftMem right rightMem same

end StatsLogApiGen.Container
