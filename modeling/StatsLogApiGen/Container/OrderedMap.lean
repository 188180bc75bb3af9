import Std.Data.ExtTreeMap
import Std.Data.ExtTreeMap.Lemmas
import Mathlib.Data.List.Nodup
import Mathlib.Data.List.Sort
import Mathlib.Logic.Function.Conjugate

/-!
# Ordered containers

The ordered maps and sets of the C++ standard library are represented by the
extensional tree maps of `Std`: a map iterates in key order, and an ordered set
whose comparison looks at a key only is a map from that key to the element.
`insertIfNew` is the insertion of an ordered set, which keeps the element that
is already there, and `upsert` is the subscript operator followed by a mutation
of the element it returns.

A list that ascends is determined by its members, and a loop over updates that commute does
not depend on its order.
-/

namespace StatsLogApiGen.Container

open Std

universe u v w x

/-- A comparison through an injective key identifies only equal elements. -/
theorem lawfulEqCmp_compareOn {α : Type u} {β : Type v} [Ord β] [LawfulEqOrd β]
    {key : α → β} (injective : Function.Injective key) :
    LawfulEqCmp (compareOn key) where
  compare_self := ReflOrd.compare_self
  eq_of_compare := fun equal => injective (LawfulEqOrd.eq_of_compare equal)

section Map

variable {κ : Type u} {ν : Type v} [Ord κ] [TransOrd κ] [LawfulEqOrd κ]

/-- Create the element at `key` when it is missing, then change it. -/
def upsert (map : ExtTreeMap κ ν) (key : κ) (default : ν) (change : ν → ν) :
    ExtTreeMap κ ν :=
  map.alter key fun present => some (change (present.getD default))

theorem getElem?_upsert [DecidableEq κ] (map : ExtTreeMap κ ν) (key other : κ)
    (default : ν) (change : ν → ν) :
    (upsert map key default change)[other]? =
      if key = other then some (change (map[key]?.getD default)) else map[other]? := by
  simp [upsert, ExtTreeMap.getElem?_alter]

theorem mem_upsert_iff (map : ExtTreeMap κ ν) (key other : κ) (default : ν)
    (change : ν → ν) :
    other ∈ upsert map key default change ↔ key = other ∨ other ∈ map := by
  by_cases equal : key = other
  · subst other
    simp [upsert]
  · simp [upsert, ExtTreeMap.mem_alter, equal]

theorem getElem?_insertIfNew [DecidableEq κ] (map : ExtTreeMap κ ν) (key other : κ)
    (value : ν) :
    (map.insertIfNew key value)[other]? =
      if key = other then some (map[key]?.getD value) else map[other]? := by
  rw [ExtTreeMap.getElem?_insertIfNew]
  by_cases equal : key = other
  · subst other
    by_cases member : key ∈ map
    · obtain ⟨present, found⟩ := Option.isSome_iff_exists.mp
        (ExtTreeMap.mem_iff_isSome_getElem?.mp member)
      rw [if_neg (by simp [member]), if_pos rfl, found, Option.getD_some]
    · simp [member]
  · simp [equal]

omit [LawfulEqOrd κ] in
theorem mem_iff_exists_getElem? {map : ExtTreeMap κ ν} {key : κ} :
    key ∈ map ↔ ∃ value, map[key]? = some value := by
  rw [ExtTreeMap.mem_iff_isSome_getElem?, Option.isSome_iff_exists]

/-- An iterator meets the bindings of present keys. -/
theorem mem_of_mem_toList {map : ExtTreeMap κ ν} {entry : κ × ν} (member : entry ∈ map.toList) :
    entry.1 ∈ map :=
  mem_iff_exists_getElem?.mpr
    ⟨entry.2, ExtTreeMap.mem_toList_iff_getElem?_eq_some.mp member⟩

/-- An iterator meets a binding of every present key. -/
theorem exists_mem_toList {map : ExtTreeMap κ ν} {key : κ} (member : key ∈ map) :
    ∃ entry ∈ map.toList, entry.1 = key := by
  obtain ⟨value, found⟩ := mem_iff_exists_getElem?.mp member
  exact ⟨(key, value), ExtTreeMap.mem_toList_iff_getElem?_eq_some.mpr found, rfl⟩

/-- The elements in the order an iterator visits them. -/
def elements (map : ExtTreeMap κ ν) : List ν :=
  map.toList.map Prod.snd

/-- Iterating over a map meets its bindings and nothing else. -/
theorem mem_elements_iff {map : ExtTreeMap κ ν} {value : ν} :
    value ∈ elements map ↔ ∃ key : κ, map[key]? = some value := by
  rw [elements, List.mem_map]
  constructor
  · rintro ⟨⟨key, bound⟩, member, rfl⟩
    exact ⟨key, ExtTreeMap.mem_toList_iff_getElem?_eq_some.mp member⟩
  · rintro ⟨key, found⟩
    exact ⟨(key, value), ExtTreeMap.mem_toList_iff_getElem?_eq_some.mpr found, rfl⟩

theorem getD_mem_elements {map : ExtTreeMap κ ν} {key : κ} (present : (map[key]?).isSome)
    (fallback : ν) : (map[key]?).getD fallback ∈ elements map := by
  obtain ⟨value, found⟩ := Option.isSome_iff_exists.mp present
  rw [found, Option.getD_some]
  exact mem_elements_iff.mpr ⟨key, found⟩

/-- Listing a map, changing its values and collecting them changes the values. -/
theorem getElem?_ofList_map_toList {ν' : Type w} [BEq κ] [LawfulBEqOrd κ]
    (map : ExtTreeMap κ ν) (change : ν → ν') (key : κ) :
    (ExtTreeMap.ofList (map.toList.map fun entry => (entry.1, change entry.2)))[key]? =
      map[key]?.map change := by
  have keys : (map.toList.map fun entry => (entry.1, change entry.2)).map Prod.fst = map.keys := by
    rw [List.map_map, ← ExtTreeMap.map_fst_toList_eq_keys]
    rfl
  cases found : map[key]? with
  | none =>
      rw [Option.map_none]
      apply ExtTreeMap.getElem?_ofList_of_contains_eq_false
      rw [keys, ExtTreeMap.contains_keys, ExtTreeMap.contains_eq_isSome_getElem?, found]
      rfl
  | some value =>
      rw [Option.map_some]
      apply ExtTreeMap.getElem?_ofList_of_mem ReflOrd.compare_self
      · rw [List.pairwise_map]
        exact ExtTreeMap.distinct_keys_toList
      · exact List.mem_map.mpr
          ⟨(key, value), ExtTreeMap.mem_toList_iff_getElem?_eq_some.mpr found, rfl⟩

section Keyed

variable {keyOf : ν → κ} {map : ExtTreeMap κ ν}

/-- The key under which an element is stored can be read back from it. -/
theorem toList_of_keyed
    (keyed : ∀ (key : κ) (value : ν), map[key]? = some value → keyOf value = key) :
    map.toList = (elements map).map fun value => (keyOf value, value) := by
  rw [elements, List.map_map]
  conv_lhs => rw [← List.map_id map.toList]
  apply List.map_congr_left
  rintro ⟨key, value⟩ member
  simp [keyed key value (ExtTreeMap.mem_toList_iff_getElem?_eq_some.mp member)]

/-- Iteration visits the elements in strictly ascending key order. -/
theorem pairwise_elements_of_keyed
    (keyed : ∀ (key : κ) (value : ν), map[key]? = some value → keyOf value = key) :
    (elements map).Pairwise
      fun first second => compare (keyOf first) (keyOf second) = .lt := by
  have ordered := map.ordered_keys_toList
  rw [toList_of_keyed keyed, List.pairwise_map] at ordered
  exact ordered

theorem nodup_elements_of_keyed
    (keyed : ∀ (key : κ) (value : ν), map[key]? = some value → keyOf value = key) :
    (elements map).Nodup := by
  apply (pairwise_elements_of_keyed keyed).imp
  intro first second before equal
  rw [equal, ReflOrd.compare_self] at before
  contradiction

end Keyed

/-- Changing the elements of several keys changes each of them once. -/
theorem getElem?_foldl_upsert [DecidableEq κ] (keys : List κ) (distinct : keys.Nodup)
    (default : ν) (change : ν → ν) (map : ExtTreeMap κ ν) (key : κ) :
    (keys.foldl (fun map key => upsert map key default change) map)[key]? =
      if key ∈ keys then some (change (map[key]?.getD default)) else map[key]? := by
  induction keys generalizing map with
  | nil => simp
  | cons first rest ih =>
      rw [List.nodup_cons] at distinct
      rw [List.foldl_cons, ih distinct.2, getElem?_upsert]
      by_cases isFirst : first = key
      · subst first
        simp [distinct.1]
      · simp [isFirst, Ne.symm isFirst]

end Map

section Indexed

variable {κ : Type u} {α : Type v} [Ord κ] [TransOrd κ]

/-- The map a loop `map[key(item)] = item` over `items` fills. -/
def indexBy (key : α → κ) (items : List α) : ExtTreeMap κ α :=
  ExtTreeMap.ofList (items.map fun item => (key item, item))

variable [LawfulEqOrd κ] {key : α → κ} {items : List α}

theorem getElem?_indexBy_eq_some_iff (distinct : (items.map key).Nodup)
    {index : κ} {item : α} :
    (indexBy key items)[index]? = some item ↔ item ∈ items ∧ key item = index := by
  have pairwise : (items.map fun item => (key item, item)).Pairwise
      fun first second => ¬compare first.1 second.1 = .eq := by
    rw [List.pairwise_map]
    simpa [Std.compare_eq_iff_eq, List.Nodup, List.pairwise_map] using distinct
  have present : ∀ item ∈ items, (indexBy key items)[key item]? = some item := by
    intro item member
    exact ExtTreeMap.getElem?_ofList_of_mem ReflOrd.compare_self pairwise
      (List.mem_map.mpr ⟨item, member, rfl⟩)
  constructor
  · intro found
    by_cases listed : index ∈ items.map key
    · obtain ⟨source, sourceMem, rfl⟩ := List.mem_map.mp listed
      have same : source = item :=
        Option.some.inj ((present source sourceMem).symm.trans found)
      exact ⟨same ▸ sourceMem, same ▸ rfl⟩
    · have missing : (indexBy key items)[index]? = none := by
        let _ : BEq κ := beqOfOrd
        apply ExtTreeMap.getElem?_eq_none
        rw [indexBy, ExtTreeMap.mem_ofList]
        simpa using listed
      rw [missing] at found
      contradiction
  · rintro ⟨member, rfl⟩
    exact present item member

theorem mem_elements_indexBy (distinct : (items.map key).Nodup) {item : α} :
    item ∈ elements (indexBy key items) ↔ item ∈ items := by
  rw [mem_elements_iff]
  constructor
  · rintro ⟨index, found⟩
    exact ((getElem?_indexBy_eq_some_iff distinct).mp found).1
  · intro member
    exact ⟨key item, (getElem?_indexBy_eq_some_iff distinct).mpr ⟨member, rfl⟩⟩

/-- Iteration visits the items in strictly ascending key order. -/
theorem pairwise_elements_indexBy (distinct : (items.map key).Nodup) :
    (elements (indexBy key items)).Pairwise
      fun first second => compare (key first) (key second) = .lt :=
  pairwise_elements_of_keyed fun _ _ found =>
    ((getElem?_indexBy_eq_some_iff distinct).mp found).2

end Indexed

/-! ## Ascending lists -/

section Ascending

variable {α : Type u} {κ : Type v} [Ord κ]

/-- The key of an item is less than the key of another. -/
def Precedes (key : α → κ) (first second : α) : Prop :=
  compare (key first) (key second) = .lt

/-- The keys of the items ascend strictly. -/
def Ascending (key : α → κ) (items : List α) : Prop :=
  items.Pairwise (Precedes key)

variable {key : α → κ} {items others : List α}

instance : DecidableRel (Precedes key) :=
  fun first second => inferInstanceAs (Decidable (compare (key first) (key second) = .lt))

instance [TransOrd κ] : Std.Irrefl (Precedes key) where
  irrefl item precedes := by
    rw [Precedes, ReflOrd.compare_self] at precedes
    contradiction

instance [TransOrd κ] : Std.Antisymm (Precedes key) where
  antisymm first second precedes succeeds := by
    rw [Precedes, OrientedOrd.eq_swap, precedes] at succeeds
    contradiction

/-- Ascending lists with the same members are equal. -/
theorem Ascending.eq_of_mem_iff [TransOrd κ] (ascending : Ascending key items)
    (ascendingOthers : Ascending key others) (same : ∀ item, item ∈ items ↔ item ∈ others) :
    items = others :=
  List.Pairwise.eq_of_mem_iff ascending ascendingOthers same

/-- What is made of ascending items ascends when it keeps their order. -/
theorem Ascending.filterMap {β : Type w} {ι : Type x} [Ord ι] {keyOf : β → ι}
    {change : α → Option β}
    (ascending : Ascending key items)
    (keeps : ∀ item other image image', change item = some image → change other = some image' →
      Precedes key item other → Precedes keyOf image image') :
    Ascending keyOf (items.filterMap change) := by
  rw [Ascending, List.pairwise_filterMap]
  apply ascending.imp
  intro item other before image isImage image' isImage'
  exact keeps item other image image' isImage isImage' before

end Ascending

/-! ## Updates that commute -/

/-- Updates that are made under conditions commute when the updates do. -/
theorem commute_ite {σ : Type u} {first second : σ → σ} (commute : Function.Commute first second)
    (firstCondition secondCondition : Prop) [Decidable firstCondition]
    [Decidable secondCondition] :
    Function.Commute (fun state => if firstCondition then first state else state)
      (fun state => if secondCondition then second state else state) := by
  intro state
  by_cases isFirst : firstCondition
  · by_cases isSecond : secondCondition
    · simpa [isFirst, isSecond] using commute.eq state
    · simp [isSecond]
  · simp [isFirst]

section Map

variable {κ : Type u} {ν : Type v} [Ord κ] [TransOrd κ] [LawfulEqOrd κ] [DecidableEq κ]

theorem commute_insertIfNew {first second : κ} (different : first ≠ second)
    (firstValue secondValue : ν) :
    Function.Commute (fun map : ExtTreeMap κ ν => map.insertIfNew first firstValue)
      (fun map => map.insertIfNew second secondValue) := by
  intro map
  apply ExtTreeMap.ext_getElem?
  intro key
  simp only [getElem?_insertIfNew]
  by_cases isFirst : first = key
  · subst isFirst
    simp [different.symm]
  · by_cases isSecond : second = key
    · subst isSecond
      simp [different]
    · simp [isFirst, isSecond]

theorem commute_upsert (first second : κ) (default : ν) {firstChange secondChange : ν → ν}
    (commute : Function.Commute firstChange secondChange) :
    Function.Commute (fun map => upsert map first default firstChange)
      (fun map => upsert map second default secondChange) := by
  intro map
  apply ExtTreeMap.ext_getElem?
  intro key
  simp only [getElem?_upsert]
  by_cases isFirst : first = key
  · by_cases isSecond : second = key
    · simp [isFirst, isSecond, commute.eq (map[key]?.getD default)]
    · simp [isFirst, isSecond]
  · by_cases isSecond : second = key
    · simp [isFirst, isSecond]
    · simp [isFirst, isSecond]

end Map

/-- A loop over updates that commute does not depend on the order of its items. -/
theorem foldl_perm_of_commute {σ : Type u} {α : Type v} {step : α → σ → σ}
    {first second : List α} (perm : first.Perm second)
    (commute : ∀ left ∈ first, ∀ right ∈ first, Function.Commute (step left) (step right))
    (state : σ) :
    first.foldl (fun current item => step item current) state =
      second.foldl (fun current item => step item current) state := by
  apply perm.foldl_eq'
  intro left leftMem right rightMem current
  exact (commute right rightMem left leftMem).eq current

end StatsLogApiGen.Container
