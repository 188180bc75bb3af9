import StatsLogApiGen.Container.Lists
import StatsLogApiGen.Program.Linking

/-!
# Calls between methods at run time

A call selects a method by the name and the static types, and passes values.  The method
either acts on its values or makes calls of other methods.  This file follows a call to
the methods that act.  Methods, names, types and values are arbitrary.
-/

namespace StatsLogApiGen.Program

open StatsLogApiGen.Container

universe u v w x

/-- The overload that a call has if all its arguments have types. -/
def Call.overload? {ν : Type u} {τ : Type v} (call : Call ν τ) : Option (Overload ν τ) :=
  (call.types.mapM id).map fun types => ⟨call.name, types⟩

/-- A call with its values. -/
structure Invocation (ν : Type u) (τ : Type v) (υ : Type w) where
  target : Overload ν τ
  values : List υ
  deriving DecidableEq, Repr

/-- What a method does when it is called. -/
inductive Reaction (ν : Type u) (τ : Type v) (υ : Type w) where
  | acts
  | calls (invocations : List (Invocation ν τ υ))

/-- How methods are called: by their overloads, and with a reaction to the values of
their parameters.  A method without a reaction cannot be executed. -/
structure Linkage (μ : Type x) (ν : Type u) (τ : Type v) (υ : Type w) where
  overload : μ → Overload ν τ
  react : μ → List υ → Option (Reaction ν τ υ)

section Delivery

variable {μ : Type x} {ν : Type u} {τ : Type v} {υ : Type w}

theorem overload?_call (overload : Overload ν τ) : overload.call.overload? = some overload := by
  have types : (overload.types.map some).mapM id = some (overload.types.map id) :=
    mapM_map_eq_some fun type _ => rfl
  rw [Call.overload?, Overload.call, types, List.map_id]
  rfl

variable [DecidableEq ν] [DecidableEq τ]

/-- Follow a call to the methods that act: their calls in order. -/
def deliver (linkage : Linkage μ ν τ υ) (methods : List μ) :
    Nat → Invocation ν τ υ → Option (List (Invocation ν τ υ))
  | 0, _ => none
  | fuel + 1, invocation =>
      (methods.find? fun method => linkage.overload method = invocation.target).bind fun method =>
        (linkage.react method invocation.values).bind fun
          | .acts => some [invocation]
          | .calls invocations =>
              (invocations.mapM (deliver linkage methods fuel)).map List.flatten

variable {linkage : Linkage μ ν τ υ} {methods : List μ} {invocation : Invocation ν τ υ}

/-- A method that is there is found, or another one with its overload. -/
theorem find?_of_mem {overload : Overload ν τ}
    (present : overload ∈ methods.map linkage.overload) :
    ∃ method ∈ methods, linkage.overload method = overload ∧
      methods.find? (fun method => linkage.overload method = overload) = some method := by
  rcases List.mem_map.mp present with ⟨method, member, isOverload⟩
  cases found : methods.find? fun method => linkage.overload method = overload with
  | none =>
      rw [List.find?_eq_none] at found
      exact absurd (decide_eq_true isOverload) (found method member)
  | some other =>
      have isTarget := List.find?_some found
      exact ⟨other, List.mem_of_find?_eq_some found, by simpa using isTarget, rfl⟩

/-- A call is delivered where it goes when every method with its overload acts. -/
theorem deliver_acts (fuel : Nat)
    (present : invocation.target ∈ methods.map linkage.overload)
    (acts : ∀ method ∈ methods, linkage.overload method = invocation.target →
      linkage.react method invocation.values = some .acts) :
    deliver linkage methods (fuel + 1) invocation = some [invocation] := by
  rcases find?_of_mem present with ⟨method, member, isTarget, found⟩
  rw [deliver, found, Option.bind_some, acts method member isTarget]
  rfl

/-- A call is delivered where the calls of its method are when every method with its
overload makes them. -/
theorem deliver_calls {fuel : Nat} {invocations : List (Invocation ν τ υ)}
    {delivered : List (List (Invocation ν τ υ))}
    (present : invocation.target ∈ methods.map linkage.overload)
    (calls : ∀ method ∈ methods, linkage.overload method = invocation.target →
      linkage.react method invocation.values = some (.calls invocations))
    (later : invocations.mapM (deliver linkage methods fuel) = some delivered) :
    deliver linkage methods (fuel + 1) invocation = some delivered.flatten := by
  rcases find?_of_mem present with ⟨method, member, isTarget, found⟩
  rw [deliver, found, Option.bind_some, calls method member isTarget]
  change (invocations.mapM (deliver linkage methods fuel)).map List.flatten = _
  rw [later]
  rfl

end Delivery

end StatsLogApiGen.Program
