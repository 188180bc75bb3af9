import Mathlib.Data.List.Basic
import StatsLogApiGen.Container.Lists

/-!
# Linking

A caller sees a method by its name and the types of its parameters.  A call
resolves to a method with its name whose parameters have the types of the
arguments.  Names and types are arbitrary.
-/

namespace StatsLogApiGen.Program

open StatsLogApiGen.Container

universe u v

/-- A method as a caller sees it. -/
structure Overload (ν : Type u) (τ : Type v) where
  name : ν
  types : List τ
  deriving DecidableEq, Repr

/-- A call with the types of its arguments.  An argument that is not in scope has no
type. -/
structure Call (ν : Type u) (τ : Type v) where
  name : ν
  types : List (Option τ)
  deriving DecidableEq, Repr

section Resolution

variable {ν : Type u} {τ : Type v}

/-- The call of a method with arguments of its own types. -/
def Overload.call (overload : Overload ν τ) : Call ν τ :=
  ⟨overload.name, overload.types.map some⟩

/-- One of the methods has the name and the types of the call. -/
def Resolves (overloads : List (Overload ν τ)) (call : Call ν τ) : Prop :=
  ∃ overload ∈ overloads, overload.call = call

/-- Every call resolves. -/
def Linked (overloads : List (Overload ν τ)) (calls : List (Call ν τ)) : Prop :=
  ∀ call ∈ calls, Resolves overloads call

instance [DecidableEq ν] [DecidableEq τ] (overloads : List (Overload ν τ))
    (calls : List (Call ν τ)) : Decidable (Linked overloads calls) :=
  inferInstanceAs (Decidable (∀ _ ∈ _, ∃ _ ∈ _, _))

variable {overloads : List (Overload ν τ)}

theorem Overload.call_injective :
    Function.Injective (Overload.call : Overload ν τ → Call ν τ) := by
  rintro ⟨leftName, leftTypes⟩ ⟨rightName, rightTypes⟩ equal
  rw [Overload.call, Overload.call, Call.mk.injEq] at equal
  obtain ⟨rfl, sameTypes⟩ := equal
  have injective : Function.Injective (some : τ → Option τ) := fun _ _ same => Option.some.inj same
  have same : leftTypes = rightTypes := List.map_injective_iff.mpr injective sameTypes
  rw [same]

/-- A call with the types of a method resolves when the method is there. -/
theorem resolves_call_iff {overload : Overload ν τ} :
    Resolves overloads overload.call ↔ overload ∈ overloads := by
  constructor
  · rintro ⟨other, member, equal⟩
    rwa [← Overload.call_injective equal]
  · intro member
    exact ⟨overload, member, rfl⟩

theorem linked_nil : Linked overloads ([] : List (Call ν τ)) := by
  intro call member
  simp at member

theorem linked_append {first second : List (Call ν τ)} :
    Linked overloads (first ++ second) ↔ Linked overloads first ∧ Linked overloads second :=
  List.forall_mem_append

theorem linked_flatMap {ι : Type*} {items : List ι} {calls : ι → List (Call ν τ)} :
    Linked overloads (items.flatMap calls) ↔ ∀ item ∈ items, Linked overloads (calls item) := by
  simp only [Linked, List.mem_flatMap]
  constructor
  · intro all item member call callMem
    exact all call ⟨item, member, callMem⟩
  · rintro all call ⟨item, member, callMem⟩
    exact all item member call callMem

/-- The only call resolves when the method it is made for is there. -/
theorem linked_singleton_iff {overload : Overload ν τ} :
    Linked overloads [overload.call] ↔ overload ∈ overloads := by
  rw [← resolves_call_iff]
  exact List.forall_mem_singleton

end Resolution

/-! ## Scopes -/

/-- Variables that are in scope under distinct names have their types there. -/
theorem map_lookup_of_subset {ν : Type u} {τ : Type v} [BEq ν] [LawfulBEq ν]
    {scope pairs : List (ν × τ)} (distinct : (scope.map Prod.fst).Nodup)
    (subset : pairs ⊆ scope) :
    (pairs.map Prod.fst).map (fun name => scope.lookup name) =
      (pairs.map Prod.snd).map some := by
  rw [List.map_map, List.map_map]
  apply List.map_congr_left
  intro pair member
  exact lookup_eq_some_of_mem distinct (subset member)

end StatsLogApiGen.Program
