import Mathlib.Data.List.Basic

/-!
# Code of guarded calls

A generated body without loops is a sequence of calls and of blocks under a
condition.  This file gives that language over arbitrary conditions and calls,
its execution under an interpreter whose steps may fail, and the rules by which
a body is executed part by part.  The second half is about interpreters that
only record what is called.
-/

namespace StatsLogApiGen.Program

universe u v w x

/-- Straight-line code with conditional blocks. -/
inductive Code (κ : Type u) (α : Type v) where
  | skip
  | call (action : α)
  | seq (first second : Code κ α)
  | when (condition : κ) (body : Code κ α)
  deriving DecidableEq, Repr

/-- The statements of a list in order. -/
def Code.block {κ : Type u} {α : Type v} : List (Code κ α) → Code κ α
  | [] => .skip
  | first :: rest => .seq first (block rest)

/-- The meaning of conditions and calls on a state. -/
structure Interpreter (κ : Type u) (α : Type v) (σ : Type w) (ε : Type x) where
  holds : κ → σ → Except ε Bool
  perform : α → σ → Except ε σ

section Run

variable {κ : Type u} {α : Type v} {σ : Type w} {ε : Type x}

/-- Execute code from a state.  A failing step ends the execution. -/
def run (interpreter : Interpreter κ α σ ε) : Code κ α → σ → Except ε σ
  | .skip, state => .ok state
  | .call action, state => interpreter.perform action state
  | .seq first second, state => (run interpreter first state).bind (run interpreter second)
  | .when condition body, state =>
      (interpreter.holds condition state).bind fun isTrue =>
        if isTrue then run interpreter body state else .ok state

variable {interpreter : Interpreter κ α σ ε}

@[simp]
theorem run_skip (state : σ) : run interpreter .skip state = .ok state :=
  rfl

@[simp]
theorem run_call (action : α) (state : σ) :
    run interpreter (.call action) state = interpreter.perform action state :=
  rfl

@[simp]
theorem run_seq_of_ok {first second : Code κ α} {state middle : σ}
    (ran : run interpreter first state = .ok middle) :
    run interpreter (.seq first second) state = run interpreter second middle := by
  rw [run, ran]
  rfl

@[simp]
theorem run_when_of_true {condition : κ} {body : Code κ α} {state : σ}
    (isTrue : interpreter.holds condition state = .ok true) :
    run interpreter (.when condition body) state = run interpreter body state := by
  rw [run, isTrue]
  rfl

@[simp]
theorem run_when_of_false {condition : κ} {body : Code κ α} {state : σ}
    (isFalse : interpreter.holds condition state = .ok false) :
    run interpreter (.when condition body) state = .ok state := by
  rw [run, isFalse]
  rfl

theorem run_block_append (first second : List (Code κ α)) (state : σ) :
    run interpreter (.block (first ++ second)) state =
      (run interpreter (.block first) state).bind (run interpreter (.block second)) := by
  induction first generalizing state with
  | nil => rfl
  | cons head rest ih =>
      change (run interpreter head state).bind (run interpreter (.block (rest ++ second))) =
        ((run interpreter head state).bind (run interpreter (.block rest))).bind
          (run interpreter (.block second))
      cases run interpreter head state with
      | error reason => rfl
      | ok middle => exact ih middle

@[simp]
theorem run_block_append_of_ok {first : List (Code κ α)} {state middle : σ}
    (ran : run interpreter (.block first) state = .ok middle) (second : List (Code κ α)) :
    run interpreter (.block (first ++ second)) state = run interpreter (.block second) middle := by
  rw [run_block_append, ran]
  rfl

@[simp]
theorem run_block_singleton (code : Code κ α) (state : σ) :
    run interpreter (.block [code]) state = run interpreter code state := by
  change (run interpreter code state).bind .ok = _
  cases run interpreter code state with
  | error reason => rfl
  | ok final => rfl

section Dispatch

variable {ι : Type*} {items : List ι} {condition : ι → κ} {body : ι → Code κ α} {state : σ}

/-- Blocks whose conditions are false are skipped. -/
theorem run_block_when_of_false
    (allFalse : ∀ item ∈ items, interpreter.holds (condition item) state = .ok false) :
    run interpreter (.block (items.map fun item => .when (condition item) (body item))) state =
      .ok state := by
  induction items with
  | nil => rfl
  | cons first rest ih =>
      rw [List.map_cons, Code.block,
        run_seq_of_ok (run_when_of_false (allFalse first List.mem_cons_self))]
      exact ih fun item member => allFalse item (List.mem_cons_of_mem first member)

/-- Of blocks whose conditions do not depend on the state, the one with a true
condition is executed. -/
theorem run_block_when_of_unique {chosen : ι} (distinct : items.Nodup)
    (member : chosen ∈ items)
    (isTrue : ∀ state, interpreter.holds (condition chosen) state = .ok true)
    (others : ∀ item ∈ items, item ≠ chosen →
      ∀ state, interpreter.holds (condition item) state = .ok false) :
    run interpreter (.block (items.map fun item => .when (condition item) (body item))) state =
      run interpreter (body chosen) state := by
  induction items generalizing state with
  | nil => simp at member
  | cons first rest ih =>
      rw [List.nodup_cons] at distinct
      rw [List.map_cons, Code.block]
      by_cases equal : first = chosen
      · subst equal
        rw [run, run_when_of_true (isTrue state)]
        cases run interpreter (body first) state with
        | error reason => rfl
        | ok middle =>
            apply run_block_when_of_false
            intro item itemMem
            apply others item (List.mem_cons_of_mem first itemMem)
            rintro rfl
            exact distinct.1 itemMem
      · rw [run_seq_of_ok
          (run_when_of_false (others first List.mem_cons_self equal state))]
        apply ih distinct.2
        · exact List.mem_of_ne_of_mem (Ne.symm equal) member
        · exact fun item itemMem => others item (List.mem_cons_of_mem first itemMem)

end Dispatch

end Run

/-! ## Recorders -/

/-- The meaning of conditions and calls that read the state of the caller only:
a call contributes one event. -/
structure Recorder (κ : Type u) (α : Type v) (β : Type w) (ε : Type x) where
  holds : κ → Except ε Bool
  event : α → Except ε β

section Record

variable {κ : Type u} {α : Type v} {β : Type w} {ε : Type x}

/-- Append the event of every call to the trace. -/
def Recorder.interpreter (recorder : Recorder κ α β ε) : Interpreter κ α (List β) ε where
  holds condition _ := recorder.holds condition
  perform action trace := (recorder.event action).map fun event => trace ++ [event]

/-- The events that code contributes. -/
def record (recorder : Recorder κ α β ε) (code : Code κ α) : Except ε (List β) :=
  run recorder.interpreter code []

/-- Whatever happened before, the code contributes these events. -/
def Emits (recorder : Recorder κ α β ε) (code : Code κ α) (events : List β) : Prop :=
  ∀ trace, run recorder.interpreter code trace = .ok (trace ++ events)

variable {recorder : Recorder κ α β ε} {first second body : Code κ α}
  {firstEvents secondEvents events : List β}

theorem Emits.record_eq (emits : Emits recorder body events) :
    record recorder body = .ok events := by
  have ran := emits []
  rwa [List.nil_append] at ran

theorem emits_skip : Emits recorder .skip [] := by
  intro trace
  simp

theorem emits_call {action : α} {event : β} (called : recorder.event action = .ok event) :
    Emits recorder (.call action) [event] := by
  intro trace
  change (recorder.event action).map (fun event => trace ++ [event]) = _
  rw [called]
  rfl

theorem Emits.seq (left : Emits recorder first firstEvents)
    (right : Emits recorder second secondEvents) :
    Emits recorder (.seq first second) (firstEvents ++ secondEvents) := by
  intro trace
  rw [run_seq_of_ok (left trace), right, List.append_assoc]

theorem Emits.when_true {condition : κ} (isTrue : recorder.holds condition = .ok true)
    (emits : Emits recorder body events) : Emits recorder (.when condition body) events := by
  intro trace
  rw [run_when_of_true isTrue]
  exact emits trace

theorem emits_when_false {condition : κ} (isFalse : recorder.holds condition = .ok false) :
    Emits recorder (.when condition body) [] := by
  intro trace
  rw [run_when_of_false isFalse, List.append_nil]

theorem Emits.block_append {firstCode secondCode : List (Code κ α)}
    (left : Emits recorder (.block firstCode) firstEvents)
    (right : Emits recorder (.block secondCode) secondEvents) :
    Emits recorder (.block (firstCode ++ secondCode)) (firstEvents ++ secondEvents) := by
  intro trace
  rw [run_block_append, left trace, Except.bind, right, List.append_assoc]

theorem Emits.singleton (emits : Emits recorder body events) :
    Emits recorder (.block [body]) events := by
  rw [← List.append_nil events]
  exact Emits.seq emits emits_skip

/-- A block made from a list of items contributes what the items contribute. -/
theorem emits_block_map {ι : Type*} {items : List ι} {code : ι → Code κ α}
    {itemEvents : ι → List β}
    (emits : ∀ item ∈ items, Emits recorder (code item) (itemEvents item)) :
    Emits recorder (.block (items.map code)) (items.flatMap itemEvents) := by
  induction items with
  | nil => exact emits_skip
  | cons item rest ih =>
      rw [List.map_cons, List.flatMap_cons]
      apply Emits.seq (emits item List.mem_cons_self)
      exact ih fun other otherMem => emits other (List.mem_cons_of_mem item otherMem)

/-- A block of calls contributes the event of every call. -/
theorem emits_block_calls {ι : Type*} {items : List ι} {action : ι → α} {event : ι → β}
    (called : ∀ item ∈ items, recorder.event (action item) = .ok (event item)) :
    Emits recorder (.block (items.map fun item => .call (action item))) (items.map event) := by
  have contributed : items.map event = items.flatMap fun item => [event item] :=
    List.map_eq_flatMap
  rw [contributed]
  exact emits_block_map fun item member => emits_call (called item member)

end Record

/-! ## Failing code -/

section Failure

variable {κ : Type u} {α : Type v} {β : Type w} {ε : Type x}

/-- Whatever happened before, the code ends with a failing step. -/
def Stops (recorder : Recorder κ α β ε) (code : Code κ α) (reason : ε) : Prop :=
  ∀ trace, run recorder.interpreter code trace = .error reason

variable {recorder : Recorder κ α β ε} {first second body : Code κ α} {events : List β}
  {reason : ε}

theorem Stops.record_eq (stops : Stops recorder body reason) :
    record recorder body = .error reason :=
  stops []

theorem stops_call {action : α} (failed : recorder.event action = .error reason) :
    Stops recorder (.call action) reason := by
  intro trace
  change (recorder.event action).map (fun event => trace ++ [event]) = _
  rw [failed]
  rfl

theorem Stops.seq_left (stops : Stops recorder first reason) (second : Code κ α) :
    Stops recorder (.seq first second) reason := by
  intro trace
  rw [run, stops trace]
  rfl

theorem Stops.block_append_left {firstCode : List (Code κ α)}
    (stops : Stops recorder (.block firstCode) reason) (secondCode : List (Code κ α)) :
    Stops recorder (.block (firstCode ++ secondCode)) reason := by
  intro trace
  rw [run_block_append, stops trace]
  rfl

theorem Emits.block_append_stops {firstCode secondCode : List (Code κ α)}
    (emits : Emits recorder (.block firstCode) events)
    (stops : Stops recorder (.block secondCode) reason) :
    Stops recorder (.block (firstCode ++ secondCode)) reason := by
  intro trace
  rw [run_block_append, emits trace]
  exact stops _

end Failure

/-! ## Actions -/

section Actions

variable {κ : Type u} {α : Type v}

/-- The actions in code, whatever its conditions are. -/
def Code.actions : Code κ α → List α
  | .skip => []
  | .call action => [action]
  | .seq first second => first.actions ++ second.actions
  | .when _ body => body.actions

@[simp]
theorem actions_block (codes : List (Code κ α)) :
    (Code.block codes).actions = codes.flatMap Code.actions := by
  induction codes with
  | nil => rfl
  | cons first rest ih => rw [Code.block, Code.actions, ih, List.flatMap_cons]

/-- Every action of the statements has a property. -/
def AllActions (property : α → Prop) (codes : List (Code κ α)) : Prop :=
  ∀ code ∈ codes, ∀ action ∈ code.actions, property action

variable {property : α → Prop}

@[simp]
theorem allActions_nil : AllActions property ([] : List (Code κ α)) := by
  intro code member
  cases member

@[simp]
theorem allActions_append {first second : List (Code κ α)} :
    AllActions property (first ++ second) ↔
      AllActions property first ∧ AllActions property second :=
  List.forall_mem_append

@[simp]
theorem allActions_cons {code : Code κ α} {rest : List (Code κ α)} :
    AllActions property (code :: rest) ↔
      (∀ action ∈ code.actions, property action) ∧ AllActions property rest :=
  List.forall_mem_cons

@[simp]
theorem allActions_call {action : α} :
    AllActions property [(.call action : Code κ α)] ↔ property action := by
  simp [AllActions, Code.actions]

@[simp]
theorem allActions_when {condition : κ} {action : α} :
    AllActions property [.when condition (.call action)] ↔ property action := by
  simp [AllActions, Code.actions]

@[simp]
theorem allActions_block {codes : List (Code κ α)} :
    AllActions property codes ↔ ∀ action ∈ (Code.block codes).actions, property action := by
  simp only [actions_block, List.mem_flatMap]
  constructor
  · rintro all action ⟨code, member, listed⟩
    exact all code member action listed
  · intro all code member action listed
    exact all action ⟨code, member, listed⟩

theorem allActions_map {ι : Type*} {items : List ι} {code : ι → Code κ α} :
    AllActions property (items.map code) ↔
      ∀ item ∈ items, ∀ action ∈ (code item).actions, property action :=
  List.forall_mem_map

theorem allActions_map_when {ι : Type*} {items : List ι} {condition : ι → κ}
    {codes : ι → List (Code κ α)} :
    AllActions property (items.map fun item => .when (condition item) (.block (codes item))) ↔
      ∀ item ∈ items, AllActions property (codes item) := by
  rw [allActions_map]
  exact forall₂_congr fun item _ => allActions_block.symm

theorem allActions_flatMap {ι : Type*} {items : List ι} {codes : ι → List (Code κ α)} :
    AllActions property (items.flatMap codes) ↔
      ∀ item ∈ items, AllActions property (codes item) :=
  List.forall_mem_flatMap

end Actions

/-! ## Conditions -/

section Conditions

variable {κ : Type u} {α : Type v}

/-- The conditions in code. -/
def Code.conditions : Code κ α → List κ
  | .skip => []
  | .call _ => []
  | .seq first second => first.conditions ++ second.conditions
  | .when condition body => condition :: body.conditions

/-- The conditions in a list of statements. -/
def conditionsOf (codes : List (Code κ α)) : List κ :=
  codes.flatMap Code.conditions

@[simp]
theorem conditions_block (codes : List (Code κ α)) :
    (Code.block codes).conditions = conditionsOf codes := by
  induction codes with
  | nil => rfl
  | cons first rest ih =>
      rw [Code.block, Code.conditions, ih]
      rfl

@[simp]
theorem conditionsOf_nil : conditionsOf ([] : List (Code κ α)) = [] :=
  rfl

@[simp]
theorem conditionsOf_cons (code : Code κ α) (rest : List (Code κ α)) :
    conditionsOf (code :: rest) = code.conditions ++ conditionsOf rest :=
  List.flatMap_cons

@[simp]
theorem conditionsOf_append (first second : List (Code κ α)) :
    conditionsOf (first ++ second) = conditionsOf first ++ conditionsOf second :=
  List.flatMap_append

theorem conditionsOf_eq_nil {codes : List (Code κ α)}
    (silent : ∀ code ∈ codes, code.conditions = []) : conditionsOf codes = [] :=
  List.flatMap_eq_nil_iff.mpr silent

/-- Calls are made without conditions. -/
theorem conditionsOf_calls {ι : Type*} (items : List ι) (action : ι → α) :
    conditionsOf (items.map fun item => (.call (action item) : Code κ α)) = [] := by
  apply conditionsOf_eq_nil
  intro code member
  rcases List.mem_map.mp member with ⟨item, -, rfl⟩
  rfl

theorem mem_conditionsOf_flatMap {ι : Type*} {items : List ι} {codes : ι → List (Code κ α)}
    {tested : κ} :
    tested ∈ conditionsOf (items.flatMap codes) ↔
      ∃ item ∈ items, tested ∈ conditionsOf (codes item) := by
  rw [conditionsOf, List.flatMap_assoc, List.mem_flatMap]
  rfl

theorem mem_conditionsOf_map_when {ι : Type*} {items : List ι} {condition : ι → κ}
    {codes : ι → List (Code κ α)} {tested : κ} :
    tested ∈ conditionsOf
        (items.map fun item => .when (condition item) (.block (codes item))) ↔
      ∃ item ∈ items, tested = condition item ∨ tested ∈ conditionsOf (codes item) := by
  rw [conditionsOf, List.flatMap_map, List.mem_flatMap]
  simp only [Code.conditions, conditions_block, List.mem_cons]

end Conditions

/-! ## Visible actions -/

section Visible

variable {κ α β σ ε : Type}

/-- Execute code and log the actions that are visible. -/
def Interpreter.logging (interpreter : Interpreter κ α σ ε) (visible : α → Option β) :
    Interpreter κ α (σ × List β) ε where
  holds condition state := interpreter.holds condition state.1
  perform action state :=
    (interpreter.perform action state.1).map fun next =>
      (next, state.2 ++ (visible action).toList)

/-- Whatever the conditions and the actions mean, an execution that ends has performed these
visible actions. -/
def Performs (visible : α → Option β) (code : Code κ α) (performed : List β) : Prop :=
  ∀ (σ ε : Type) (interpreter : Interpreter κ α σ ε) (before after : σ × List β),
    run (interpreter.logging visible) code before = .ok after → after.2 = before.2 ++ performed

variable {visible : α → Option β} {first second body : Code κ α}
  {firstPerformed secondPerformed performed : List β}

theorem performs_skip : Performs visible (.skip : Code κ α) [] := by
  intro σ ε interpreter before after ran
  cases ran
  rw [List.append_nil]

theorem performs_call (action : α) :
    Performs visible (.call action : Code κ α) (visible action).toList := by
  intro σ ε interpreter before after ran
  change (interpreter.perform action before.1).map _ = _ at ran
  cases performed : interpreter.perform action before.1 with
  | error reason =>
      rw [performed] at ran
      cases ran
  | ok next =>
      rw [performed] at ran
      cases ran
      rfl

theorem Performs.seq (left : Performs visible first firstPerformed)
    (right : Performs visible second secondPerformed) :
    Performs visible (.seq first second) (firstPerformed ++ secondPerformed) := by
  intro σ ε interpreter before after ran
  rw [run] at ran
  cases ranFirst : run (interpreter.logging visible) first before with
  | error reason =>
      rw [ranFirst] at ran
      cases ran
  | ok middle =>
      rw [ranFirst] at ran
      rw [right σ ε interpreter middle after ran, left σ ε interpreter before middle ranFirst,
        List.append_assoc]

/-- Visible actions are not performed under a condition. -/
theorem Performs.when (none : Performs visible body []) (condition : κ) :
    Performs visible (.when condition body) [] := by
  intro σ ε interpreter before after ran
  rw [run] at ran
  cases holds : (interpreter.logging visible).holds condition before with
  | error reason =>
      rw [holds] at ran
      cases ran
  | ok isTrue =>
      rw [holds] at ran
      cases isTrue with
      | true => exact none σ ε interpreter before after ran
      | false =>
          cases ran
          rw [List.append_nil]

theorem Performs.block_append {firstCode secondCode : List (Code κ α)}
    (left : Performs visible (.block firstCode) firstPerformed)
    (right : Performs visible (.block secondCode) secondPerformed) :
    Performs visible (.block (firstCode ++ secondCode)) (firstPerformed ++ secondPerformed) := by
  intro σ ε interpreter before after ran
  rw [run_block_append] at ran
  exact Performs.seq left right σ ε interpreter before after ran

/-- An action that is not visible. -/
theorem performs_invisible {action : α} (invisible : visible action = none) :
    Performs visible (.call action : Code κ α) [] := by
  have performs : Performs visible (.call action : Code κ α) _ := performs_call action
  rwa [invisible] at performs

/-- Code without visible actions. -/
theorem performs_nil {code : Code κ α}
    (invisible : ∀ action ∈ code.actions, visible action = none) : Performs visible code [] := by
  induction code with
  | skip => exact performs_skip
  | call action => exact performs_invisible (invisible action (List.mem_singleton_self action))
  | seq first second firstPerforms secondPerforms =>
      have left := firstPerforms fun action member =>
        invisible action (List.mem_append_left _ member)
      have right := secondPerforms fun action member =>
        invisible action (List.mem_append_right _ member)
      exact left.seq right
  | when condition body bodyPerforms => exact (bodyPerforms invisible).when condition

theorem AllActions.performs_nil {codes : List (Code κ α)}
    (invisible : AllActions (fun action => visible action = none) codes) :
    Performs visible (.block codes) [] :=
  Program.performs_nil (allActions_block.mp invisible)

end Visible

end StatsLogApiGen.Program
