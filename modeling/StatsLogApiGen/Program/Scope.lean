import StatsLogApiGen.Program.Guarded

/-!
# Scopes

A body that declares local variables can hide its parameters.  This file gives the
lexical scoping of guarded calls: what an identifier stands for where it is mentioned, with
the argument that a local variable holds.  A block under a condition has a scope of its own.
-/

namespace StatsLogApiGen.Program

universe u v w x

/-! ## Mentions -/

/-- How an identifier was declared: as a parameter, or by a `let` whose value is made from a
parameter, if from any. -/
inductive Declaration (ν : Type v) where
  | parameter (reads : ν)
  | binding (source : Option ν)
  deriving DecidableEq, Repr

/-- The parameter whose value is held. -/
def Declaration.source {ν : Type v} : Declaration ν → Option ν
  | .parameter reads => some reads
  | .binding source => source

/-- A reference to an identifier that is meant to be declared in some way, or a `let`, whose
value is made from what another identifier holds, if from any. -/
inductive Mention (ι : Type u) (ν : Type v) where
  | refer (identifier : ι) (meaning : Declaration ν)
  | bind (identifier : ι) (value : Option ι)
  deriving DecidableEq, Repr

/-- The declared identifiers, the latest first. -/
abbrev Scope (ι : Type u) (ν : Type v) := List (ι × Declaration ν)

/-- A reference with what it is meant to be and what it is. -/
structure Reference (ν : Type v) where
  meaning : Declaration ν
  found : Option (Declaration ν)
  deriving DecidableEq, Repr

section Mentions

variable {ι : Type u} {ν : Type v} [DecidableEq ι]

/-- What an identifier holds. -/
def Scope.source (scope : Scope ι ν) (identifier : ι) : Option ν :=
  (scope.lookup identifier).bind Declaration.source

/-- The declaration of a `let`. -/
def Scope.bind (scope : Scope ι ν) (identifier : ι) (value : Option ι) : Scope ι ν :=
  (identifier, .binding (value.bind scope.source)) :: scope

/-- The scope after mentions. -/
def Scope.after (scope : Scope ι ν) : List (Mention ι ν) → Scope ι ν
  | [] => scope
  | .refer _ _ :: rest => scope.after rest
  | .bind identifier value :: rest => (scope.bind identifier value).after rest

/-- The references among mentions. -/
def Scope.references (scope : Scope ι ν) : List (Mention ι ν) → List (Reference ν)
  | [] => []
  | .refer identifier meaning :: rest =>
      ⟨meaning, scope.lookup identifier⟩ :: scope.references rest
  | .bind identifier value :: rest => (scope.bind identifier value).references rest

/-- Every reference is what it is meant to be. -/
def AllResolve (references : List (Reference ν)) : Prop :=
  ∀ reference ∈ references, reference.found = some reference.meaning

instance [DecidableEq ν] (references : List (Reference ν)) : Decidable (AllResolve references) :=
  inferInstanceAs (Decidable (∀ reference ∈ references, _))

@[simp]
theorem allResolve_nil : AllResolve ([] : List (Reference ν)) :=
  nofun

@[simp]
theorem allResolve_cons {first : Reference ν} {rest : List (Reference ν)} :
    AllResolve (first :: rest) ↔ first.found = some first.meaning ∧ AllResolve rest :=
  List.forall_mem_cons

theorem allResolve_append {first second : List (Reference ν)} :
    AllResolve (first ++ second) ↔ AllResolve first ∧ AllResolve second :=
  List.forall_mem_append

/-- Mentions that declare nothing and resolve. -/
structure Scope.Settled (scope : Scope ι ν) (mentions : List (Mention ι ν)) : Prop where
  after : scope.after mentions = scope
  resolves : AllResolve (scope.references mentions)

end Mentions

/-! ## Code -/

/-- The mentions in conditions and calls. -/
structure Wording (κ : Type w) (α : Type x) (ι : Type u) (ν : Type v) where
  condition : κ → List (Mention ι ν)
  call : α → List (Mention ι ν)

section Codes

variable {κ : Type w} {α : Type x} {ι : Type u} {ν : Type v} [DecidableEq ι]

/-- The scope after code. -/
def Code.scopeAfter (wording : Wording κ α ι ν) (scope : Scope ι ν) : Code κ α → Scope ι ν
  | .skip => scope
  | .call action => scope.after (wording.call action)
  | .seq first second => second.scopeAfter wording (first.scopeAfter wording scope)
  | .when _ _ => scope

/-- The references in code. -/
def Code.references (wording : Wording κ α ι ν) (scope : Scope ι ν) :
    Code κ α → List (Reference ν)
  | .skip => []
  | .call action => scope.references (wording.call action)
  | .seq first second =>
      first.references wording scope ++
        second.references wording (first.scopeAfter wording scope)
  | .when condition body =>
      scope.references (wording.condition condition) ++ body.references wording scope

variable {wording : Wording κ α ι ν} {scope : Scope ι ν} {first second : List (Code κ α)}

theorem references_block_call (action : α) :
    (Code.block [.call action]).references wording scope =
      scope.references (wording.call action) :=
  List.append_nil _

theorem scopeAfter_block_append (first second : List (Code κ α)) (scope : Scope ι ν) :
    (Code.block (first ++ second)).scopeAfter wording scope =
      (Code.block second).scopeAfter wording ((Code.block first).scopeAfter wording scope) := by
  induction first generalizing scope with
  | nil => rfl
  | cons head rest ih => exact ih (head.scopeAfter wording scope)

theorem references_block_append (first second : List (Code κ α)) (scope : Scope ι ν) :
    (Code.block (first ++ second)).references wording scope =
      (Code.block first).references wording scope ++
        (Code.block second).references wording
          ((Code.block first).scopeAfter wording scope) := by
  induction first generalizing scope with
  | nil => rfl
  | cons head rest ih =>
      change head.references wording scope ++ (Code.block (rest ++ second)).references wording
        (head.scopeAfter wording scope) = _
      rw [ih, ← List.append_assoc]
      rfl

/-- Calls that leave a scope as it is can be read in that scope. -/
theorem settled_block_calls {ρ : Type*} {items : List ρ} {call : ρ → α}
    (settled : ∀ item ∈ items, scope.Settled (wording.call (call item))) :
    (Code.block (items.map fun item => .call (call item))).scopeAfter wording scope = scope ∧
      AllResolve
        ((Code.block (items.map fun item => .call (call item))).references wording scope) := by
  induction items with
  | nil => exact ⟨rfl, allResolve_nil⟩
  | cons head rest ih =>
      have first := settled head List.mem_cons_self
      have later := ih fun item member => settled item (List.mem_cons_of_mem head member)
      change (Code.block (rest.map _)).scopeAfter wording
          (scope.after (wording.call (call head))) = scope ∧
        AllResolve (scope.references (wording.call (call head)) ++
          (Code.block (rest.map _)).references wording (scope.after (wording.call (call head))))
      rw [first.after, allResolve_append]
      exact ⟨later.1, first.resolves, later.2⟩

end Codes

/-! ## Hidden parameters -/

section Hidden

variable {ι : Type u} {ν : Type v} [DecidableEq ι] {declared scope : Scope ι ν}
  {bound : List ι}

/-- Over the declared parameters there are `let`s of the bound identifiers. -/
structure Extends (declared : Scope ι ν) (bound : List ι) (scope : Scope ι ν) : Prop where
  kept : ∀ identifier, identifier ∉ bound →
    scope.lookup identifier = declared.lookup identifier
  hidden : ∀ identifier ∈ bound, ∃ source, scope.lookup identifier = some (.binding source)

theorem extends_self (declared : Scope ι ν) : Extends declared [] declared :=
  ⟨fun _ _ => rfl, nofun⟩

/-- A `let` hides one more identifier. -/
theorem Extends.bind (extended : Extends declared bound scope) (identifier : ι)
    (value : Option ι) :
    Extends declared (identifier :: bound) (scope.bind identifier value) := by
  constructor
  · intro other unbound
    rw [List.mem_cons, not_or] at unbound
    rw [Scope.bind, List.lookup_cons, beq_false_of_ne unbound.1]
    exact extended.kept other unbound.2
  · intro other isBound
    rw [Scope.bind, List.lookup_cons]
    by_cases same : other = identifier
    · rw [beq_iff_eq.mpr same]
      exact ⟨_, rfl⟩
    · rw [beq_false_of_ne same]
      exact extended.hidden other ((List.mem_cons.mp isBound).resolve_left same)

/-- A parameter is found exactly when no `let` hides it. -/
theorem Extends.lookup_parameter_iff (extended : Extends declared bound scope) {identifier : ι}
    {reads : ν} (isDeclared : declared.lookup identifier = some (.parameter reads)) :
    scope.lookup identifier = some (.parameter reads) ↔ identifier ∉ bound := by
  constructor
  · intro found isBound
    rcases extended.hidden identifier isBound with ⟨source, isBinding⟩
    rw [isBinding] at found
    cases found
  · intro unbound
    rw [extended.kept identifier unbound, isDeclared]

end Hidden

end StatsLogApiGen.Program
