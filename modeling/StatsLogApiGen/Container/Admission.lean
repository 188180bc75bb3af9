import StatsLogApiGen.Container.Lists
import Mathlib.Data.List.Nodup

/-!
# Loops that refuse a second element of a key

A loop checks every element and goes on only when the key of the element is new.  It
ends exactly when all elements are valid and no key occurs twice.  States, elements and
keys are arbitrary.
-/

namespace StatsLogApiGen.Container

universe u v w x

variable {σ ε : Type u} {α : Type v} {κ : Type w} {ν : Type x}
  {step : σ → α → Except ε σ} {valid : α → Prop} {key : α → κ} {seen : σ → κ → Prop}

/-- A step goes on with a valid element whose key has not been seen, and has seen the
key then. -/
structure Admits (step : σ → α → Except ε σ) (valid : α → Prop) (key : α → κ)
    (seen : σ → κ → Prop) : Prop where
  isOk_iff : ∀ state item,
    (step state item).isOk = true ↔ valid item ∧ ¬seen state (key item)
  seen_iff : ∀ state item next, step state item = .ok next →
    ∀ other, seen next other ↔ other = key item ∨ seen state other

/-- A loop ends exactly when the elements are valid and the keys are new and distinct. -/
theorem Admits.isOk_foldlM (admits : Admits step valid key seen) (state : σ) (items : List α) :
    (items.foldlM step state).isOk = true ↔
      (∀ item ∈ items, valid item) ∧ (items.map key).Nodup ∧
        ∀ item ∈ items, ¬seen state (key item) := by
  induction items generalizing state with
  | nil => simp [pure, Except.pure, Except.isOk, Except.toBool]
  | cons item rest ih =>
      cases stepped : step state item with
      | error reason =>
          have refused := admits.isOk_iff state item
          rw [stepped] at refused
          rw [foldlM_cons_of_error stepped]
          constructor
          · intro isOk
            contradiction
          · rintro ⟨areValid, -, unseen⟩
            exact refused.mpr
              ⟨areValid item List.mem_cons_self, unseen item List.mem_cons_self⟩
      | ok next =>
          have admitted := admits.isOk_iff state item
          rw [stepped] at admitted
          have first := admitted.mp rfl
          have later := admits.seen_iff state item next stepped
          rw [foldlM_cons_of_ok stepped, ih next, List.map_cons, List.nodup_cons,
            List.forall_mem_cons, List.forall_mem_cons]
          simp only [later, not_or]
          constructor
          · rintro ⟨areValid, distinct, unseen⟩
            refine ⟨⟨first.1, areValid⟩, ⟨?_, distinct⟩, first.2, fun other member =>
              (unseen other member).2⟩
            intro keyMem
            rcases List.mem_map.mp keyMem with ⟨other, member, sameKey⟩
            exact (unseen other member).1 sameKey
          · rintro ⟨⟨-, areValid⟩, ⟨fresh, distinct⟩, -, unseen⟩
            refine ⟨areValid, distinct, fun other member => ⟨?_, unseen other member⟩⟩
            intro sameKey
            exact fresh (List.mem_map.mpr ⟨other, member, sameKey⟩)

/-- A step that goes on binds the key of the element to its value. -/
def Records (step : σ → α → Except ε σ) (key : α → κ) (value : α → ν)
    (bound : σ → κ → Option ν) [DecidableEq κ] : Prop :=
  ∀ state item next, step state item = .ok next →
    ∀ other, bound next other = if key item = other then some (value item) else bound state other

/-- After a loop over distinct keys every element is bound, and nothing else has changed. -/
theorem Records.foldlM [DecidableEq κ] {value : α → ν} {bound : σ → κ → Option ν}
    (records : Records step key value bound) {state final : σ} {items : List α}
    (distinct : (items.map key).Nodup) (run : items.foldlM step state = .ok final) (other : κ) :
    (∀ item ∈ items, key item = other → bound final other = some (value item)) ∧
      ((∀ item ∈ items, key item ≠ other) → bound final other = bound state other) := by
  induction items generalizing state with
  | nil =>
      cases run
      exact ⟨nofun, fun _ => rfl⟩
  | cons item rest ih =>
      rw [List.map_cons, List.nodup_cons] at distinct
      cases stepped : step state item with
      | error reason =>
          rw [foldlM_cons_of_error stepped] at run
          contradiction
      | ok next =>
          rw [foldlM_cons_of_ok stepped] at run
          rcases ih distinct.2 run with ⟨isBound, unchanged⟩
          have here := records state item next stepped other
          constructor
          · intro element member sameKey
            rcases List.mem_cons.mp member with rfl | later
            · rw [unchanged, here, if_pos sameKey]
              rintro element elementMem rfl
              exact distinct.1 (List.mem_map.mpr ⟨element, elementMem, sameKey.symm⟩)
            · exact isBound element later sameKey
          · intro others
            rw [unchanged fun element member => others element (List.mem_cons_of_mem item member),
              here, if_neg (others item List.mem_cons_self)]

/-- A loop from a state without bindings binds the keys of its elements only. -/
theorem Records.foldlM_eq_some_iff [DecidableEq κ] {value : α → ν} {bound : σ → κ → Option ν}
    (records : Records step key value bound) {state final : σ} {items : List α}
    (distinct : (items.map key).Nodup) (run : items.foldlM step state = .ok final)
    (unbound : ∀ other, bound state other = none) {other : κ} {result : ν} :
    bound final other = some result ↔
      ∃ item ∈ items, key item = other ∧ value item = result := by
  rcases records.foldlM distinct run other with ⟨isBound, unchanged⟩
  constructor
  · intro found
    by_contra none
    push Not at none
    have absent : ∀ item ∈ items, key item ≠ other := by
      intro item member sameKey
      apply none item member sameKey
      rw [isBound item member sameKey, Option.some.injEq] at found
      exact found
    rw [unchanged absent, unbound] at found
    contradiction
  · rintro ⟨item, member, sameKey, rfl⟩
    exact isBound item member sameKey

end StatsLogApiGen.Container
