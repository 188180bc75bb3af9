import Mathlib.Data.List.Nodup

/-!
# Lists

When a concatenation over a list is the contribution of one element, and when it
determines the list; what loops with an index collect; what traversals that may fail
return; and what a key finds in an association list.
-/

namespace StatsLogApiGen.Container

universe u v

variable {α : Type u} {β : Type v}

/-- When one element of a duplicate-free list contributes, the concatenation is
its contribution. -/
theorem flatMap_eq_of_unique {elements : List α} {contribution : α → List β} {chosen : α}
    (distinct : elements.Nodup) (member : chosen ∈ elements)
    (others : ∀ element ∈ elements, element ≠ chosen → contribution element = []) :
    elements.flatMap contribution = contribution chosen := by
  induction elements with
  | nil => simp at member
  | cons first rest ih =>
      rw [List.nodup_cons] at distinct
      rw [List.flatMap_cons]
      by_cases equal : first = chosen
      · subst first
        have silent : rest.flatMap contribution = [] := by
          rw [List.flatMap_eq_nil_iff]
          intro element elementMem
          apply others element (List.mem_cons_of_mem _ elementMem)
          rintro rfl
          exact distinct.1 elementMem
        rw [silent, List.append_nil]
      · have firstSilent := others first List.mem_cons_self equal
        have restMem : chosen ∈ rest := by
          rcases List.mem_cons.mp member with same | restMem
          · exact absurd same.symm equal
          · exact restMem
        rw [firstSilent, List.nil_append]
        exact ih distinct.2 restMem fun element elementMem =>
          others element (List.mem_cons_of_mem _ elementMem)

/-- A concatenation determines its list when the first entry of a contribution
determines the element. -/
theorem flatMap_injective {accepted : α → Prop} {contribution : α → List β}
    (nonempty : ∀ element, accepted element → contribution element ≠ [])
    (determined : ∀ first second, accepted first → accepted second →
      (contribution first).head? = (contribution second).head? → first = second)
    {left right : List α} (leftAccepted : ∀ element ∈ left, accepted element)
    (rightAccepted : ∀ element ∈ right, accepted element)
    (equal : left.flatMap contribution = right.flatMap contribution) : left = right := by
  induction left generalizing right with
  | nil =>
      cases right with
      | nil => rfl
      | cons second rightRest =>
          have empty := (List.append_eq_nil_iff.mp equal.symm).1
          exact absurd empty (nonempty second (rightAccepted second List.mem_cons_self))
  | cons first leftRest ih =>
      have firstAccepted := leftAccepted first List.mem_cons_self
      cases right with
      | nil =>
          have empty := (List.append_eq_nil_iff.mp equal).1
          exact absurd empty (nonempty first firstAccepted)
      | cons second rightRest =>
          have secondAccepted := rightAccepted second List.mem_cons_self
          rw [List.flatMap_cons, List.flatMap_cons] at equal
          have heads : (contribution first).head? = (contribution second).head? := by
            have both := congrArg List.head? equal
            rwa [List.head?_append_of_ne_nil _ (nonempty first firstAccepted),
              List.head?_append_of_ne_nil _ (nonempty second secondAccepted)] at both
          have same := determined first second firstAccepted secondAccepted heads
          subst second
          have rests : leftRest = rightRest := by
            apply ih
            · exact fun element member => leftAccepted element (List.mem_cons_of_mem _ member)
            · exact fun element member => rightAccepted element (List.mem_cons_of_mem _ member)
            · exact List.append_cancel_left equal
          rw [rests]

/-- What is left of a list after its first entries starts with the next one. -/
theorem getElem?_and_drop_of_drop {list rest : List α} {index : Nat} {element : α}
    (remain : list.drop index = element :: rest) :
    list[index]? = some element ∧ list.drop (index + 1) = rest := by
  constructor
  · rw [← List.head?_drop, remain, List.head?_cons]
  · rw [← List.tail_drop, remain, List.tail_cons]

/-! ## Loops with an index -/

/-- A loop over elements and their index collects what each of them contributes. -/
theorem mem_loop_iff {contribution : Int → α → List β} {loop : Int → List α → List β}
    (nil : ∀ start, loop start [] = [])
    (cons : ∀ start first rest,
      loop start (first :: rest) = contribution start first ++ loop (start + 1) rest)
    {start : Int} {elements : List α} {result : β} :
    result ∈ loop start elements ↔
      ∃ (index : Nat) (element : α), elements[index]? = some element ∧
        result ∈ contribution (start + index) element := by
  induction elements generalizing start with
  | nil => simp [nil]
  | cons first rest ih =>
      rw [cons, List.mem_append, ih]
      constructor
      · rintro (here | ⟨index, element, found, later⟩)
        · exact ⟨0, first, rfl, by simpa using here⟩
        · refine ⟨index + 1, element, found, ?_⟩
          rwa [Int.natCast_add, Int.natCast_one, Int.add_comm (index : Int) 1, ← Int.add_assoc]
      · rintro ⟨index, element, found, member⟩
        cases index with
        | zero =>
            cases found
            exact Or.inl (by simpa using member)
        | succ position =>
            refine Or.inr ⟨position, element, found, ?_⟩
            rwa [Int.add_assoc, Int.add_comm 1]

/-- What only one index can contribute is collected when the element there contributes
it. -/
theorem mem_loop_iff_of_unique {contribution : Int → α → List β}
    {loop : Int → List α → List β} (nil : ∀ start, loop start [] = [])
    (cons : ∀ start first rest,
      loop start (first :: rest) = contribution start first ++ loop (start + 1) rest)
    {start : Int} {elements : List α} {index : Nat} {element : α}
    (found : elements[index]? = some element) {result : β}
    (unique : ∀ (position : Nat) (other : α),
      result ∈ contribution (start + position) other → position = index) :
    result ∈ loop start elements ↔ result ∈ contribution (start + index) element := by
  rw [mem_loop_iff nil cons]
  constructor
  · rintro ⟨position, other, otherFound, member⟩
    have same := unique position other member
    subst same
    rw [found] at otherFound
    cases otherFound
    exact member
  · exact fun member => ⟨index, element, found, member⟩

/-! ## Traversals that may fail -/

section Results

universe w

variable {ε : Type w} {result : Except ε α} {change : α → β}

@[simp]
theorem map_eq_ok_iff {final : β} :
    result.map change = .ok final ↔ ∃ value, result = .ok value ∧ change value = final := by
  cases result <;> simp [Except.map]

@[simp]
theorem bind_eq_ok_iff {next : α → Except ε β} {final : β} :
    result.bind next = .ok final ↔ ∃ value, result = .ok value ∧ next value = .ok final := by
  cases result <;> simp [Except.bind]

@[simp]
theorem map_eq_error_iff {reason : ε} :
    result.map change = .error reason ↔ result = .error reason := by
  cases result <;> simp [Except.map]

@[simp]
theorem bind_eq_error_iff {next : α → Except ε β} {reason : ε} :
    result.bind next = .error reason ↔
      result = .error reason ∨ ∃ value, result = .ok value ∧ next value = .error reason := by
  cases result <;> simp [Except.bind]

@[simp]
theorem toOption_eq_some_iff {value : α} : result.toOption = some value ↔ result = .ok value := by
  cases result <;> simp [Except.toOption]

@[simp]
theorem isOk_map : (result.map change).isOk = result.isOk := by
  cases result <;> rfl

theorem isOk_iff_exists : result.isOk = true ↔ ∃ value, result = .ok value := by
  cases result <;> simp [Except.isOk, Except.toBool]

end Results

section Traversal

variable {ε : Type*} {next : α → Except ε β}

/-- A traversal succeeds when every step does. -/
@[simp]
theorem mapM_isOk (elements : List α) :
    (elements.mapM next).isOk = elements.all fun element => (next element).isOk := by
  induction elements with
  | nil => rfl
  | cons element rest ih =>
      rw [List.mapM_cons, List.all_cons, ← ih]
      cases next element with
      | error reason => rfl
      | ok result =>
          cases rest.mapM next with
          | error reason => rfl
          | ok results => rfl

/-- The results of a traversal are the results of its steps. -/
theorem mem_of_mapM_eq_ok {elements : List α} {results : List β}
    (traversed : elements.mapM next = .ok results) {result : β} :
    result ∈ results ↔ ∃ element ∈ elements, next element = .ok result := by
  induction elements generalizing results with
  | nil =>
      rw [List.mapM_nil] at traversed
      cases traversed
      simp
  | cons element rest ih =>
      rw [List.mapM_cons] at traversed
      cases first : next element with
      | error reason => simp [first, bind, Except.bind] at traversed
      | ok firstResult =>
          cases later : rest.mapM next with
          | error reason => simp [first, later, bind, Except.bind] at traversed
          | ok laterResults =>
              simp only [first, later, bind, Except.bind, pure, Except.pure, Except.ok.injEq]
                at traversed
              subst traversed
              simp [ih later, first, eq_comm]

/-- The results of a traversal are read off the elements in order. -/
theorem map_of_mapM_eq_ok {γ : Type*} {read : β → γ} {expected : α → γ} {elements : List α}
    {results : List β} (traversed : elements.mapM next = .ok results)
    (reads : ∀ element ∈ elements, ∀ result, next element = .ok result →
      read result = expected element) : results.map read = elements.map expected := by
  induction elements generalizing results with
  | nil =>
      rw [List.mapM_nil] at traversed
      cases traversed
      rfl
  | cons element rest ih =>
      rw [List.mapM_cons] at traversed
      obtain ⟨first, isFirst, later⟩ := bind_eq_ok_iff.mp traversed
      obtain ⟨others, isOthers, rfl⟩ := map_eq_ok_iff.mp later
      rw [List.map_cons, List.map_cons, reads element List.mem_cons_self first isFirst,
        ih isOthers fun other member => reads other (List.mem_cons_of_mem element member)]

/-- A traversal that succeeds has a result for every element. -/
theorem exists_ok_of_mapM {elements : List α} {results : List β} {element : α}
    (traversed : elements.mapM next = .ok results) (member : element ∈ elements) :
    ∃ result, next element = .ok result := by
  have isOk : (elements.mapM next).isOk = _ := mapM_isOk elements
  rw [traversed] at isOk
  exact isOk_iff_exists.mp (List.all_eq_true.mp isOk.symm element member)

/-- A traversal fails for the reason of one of its steps. -/
theorem exists_error_of_mapM {elements : List α} {reason : ε}
    (failed : elements.mapM next = .error reason) :
    ∃ element ∈ elements, next element = .error reason := by
  induction elements with
  | nil =>
      rw [List.mapM_nil] at failed
      cases failed
  | cons element rest ih =>
      rw [List.mapM_cons] at failed
      rcases bind_eq_error_iff.mp failed with here | ⟨result, -, later⟩
      · exact ⟨element, List.mem_cons_self, here⟩
      · rcases bind_eq_error_iff.mp later with inRest | ⟨results, -, impossible⟩
        · obtain ⟨other, member, fails⟩ := ih inRest
          exact ⟨other, List.mem_cons_of_mem element member, fails⟩
        · cases impossible

end Traversal

section OptionalTraversal

universe w

variable {γ : Type w}

theorem mapM_map_eq_some {next : β → Option γ} {source : α → β} {result : α → γ}
    {items : List α} (steps : ∀ item ∈ items, next (source item) = some (result item)) :
    (items.map source).mapM next = some (items.map result) := by
  induction items with
  | nil => rfl
  | cons item rest ih =>
      have later := ih fun other member => steps other (List.mem_cons_of_mem item member)
      rw [List.map_cons, List.mapM_cons, steps item List.mem_cons_self, later]
      rfl

theorem mapM_append_eq_some {next : α → Option β} {first second : List α}
    {firstResults secondResults : List β} (left : first.mapM next = some firstResults)
    (right : second.mapM next = some secondResults) :
    (first ++ second).mapM next = some (firstResults ++ secondResults) := by
  rw [List.mapM_append, left, right]
  rfl

theorem mapM_eq_some_of_map {next : α → Option β} {items : List α} {results : List β}
    (steps : items.map next = results.map some) : items.mapM next = some results := by
  have same : items.mapM next = (items.map next).mapM id := by
    rw [List.mapM_map]
    rfl
  have gathered : (results.map some).mapM id = some (results.map id) :=
    mapM_map_eq_some fun result _ => rfl
  rw [same, steps, gathered, List.map_id]

end OptionalTraversal

section Fold

universe w

variable {σ : Type w} {ε : Type w} {step : σ → α → Except ε σ} {state next : σ} {first : α}
  {rest : List α}

theorem foldlM_cons_of_ok (stepped : step state first = .ok next) :
    (first :: rest).foldlM step state = rest.foldlM step next := by
  rw [List.foldlM_cons, stepped]
  rfl

theorem foldlM_cons_of_error {reason : ε} (failed : step state first = .error reason) :
    (first :: rest).foldlM step state = .error reason := by
  rw [List.foldlM_cons, failed]
  rfl

end Fold

/-! ## Searches -/

/-- The only element with a property is found. -/
theorem find?_eq_some_of_unique {elements : List α} {property : α → Bool} {chosen : α}
    (member : chosen ∈ elements) (holds : property chosen = true)
    (unique : ∀ other ∈ elements, property other = true → other = chosen) :
    elements.find? property = some chosen := by
  cases found : elements.find? property with
  | none => exact absurd holds (List.find?_eq_none.mp found chosen member)
  | some other =>
      rw [unique other (List.mem_of_find?_eq_some found) (List.find?_some found)]

/-! ## Association lists -/

/-- A key of a list without duplicate keys finds its value. -/
theorem lookup_eq_some_of_mem {α β : Type*} [BEq α] [LawfulBEq α] {pairs : List (α × β)}
    (distinct : (pairs.map Prod.fst).Nodup) {pair : α × β} (member : pair ∈ pairs) :
    pairs.lookup pair.1 = some pair.2 := by
  induction pairs with
  | nil => simp at member
  | cons first rest ih =>
      rw [List.map_cons, List.nodup_cons] at distinct
      rcases List.mem_cons.mp member with rfl | later
      · exact List.lookup_cons_self
      · have other : pair.1 ≠ first.1 := by
          intro equal
          exact distinct.1 (equal ▸ List.mem_map_of_mem later)
        rw [List.lookup_cons, beq_eq_false_iff_ne.mpr other]
        exact ih distinct.2 later

end StatsLogApiGen.Container
