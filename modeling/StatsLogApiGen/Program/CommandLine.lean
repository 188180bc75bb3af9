import Mathlib.Data.List.Basic

/-!
# Command lines

The tokens of a command line in option position, with the values that some of them
consume.  Reading ends at an option that stops it.  Tokens and the table of options are
arbitrary.
-/

namespace StatsLogApiGen.Program

universe u

/-- What an option is followed by. -/
inductive OptionKind where
  | stop
  | flag
  | value
  deriving DecidableEq, Repr

/-- A token in option position.  An option whose value is missing is incomplete. -/
inductive CommandItem (τ : Type u) where
  | unknown (token : τ)
  | stop (option : τ)
  | flag (option : τ)
  | value (option value : τ)
  | incomplete (option : τ)
  deriving DecidableEq, Repr

section Items

variable {τ : Type u} (kind? : τ → Option OptionKind)

/-- The items of a command line.  A token that is no option stands for itself. -/
def commandItems : List τ → List (CommandItem τ)
  | [] => []
  | token :: rest =>
      match kind? token with
      | none => .unknown token :: commandItems rest
      | some .stop => [.stop token]
      | some .flag => .flag token :: commandItems rest
      | some .value =>
          match rest with
          | [] => [.incomplete token]
          | value :: rest => .value token value :: commandItems rest

/-- A token in option position is no option. -/
def HasUnknown (tokens : List τ) : Prop :=
  ∃ token, .unknown token ∈ commandItems kind? tokens

/-- An option stops reading. -/
def IsStopped (tokens : List τ) : Prop :=
  ∃ option, .stop option ∈ commandItems kind? tokens

/-- The last option lacks its value. -/
def IsIncomplete (tokens : List τ) : Prop :=
  ∃ option, .incomplete option ∈ commandItems kind? tokens

variable {kind?} {token : τ}

theorem commandItems_unknown (isKind : kind? token = none) (rest : List τ) :
    commandItems kind? (token :: rest) = .unknown token :: commandItems kind? rest := by
  rw [commandItems.eq_def]
  simp only [isKind]

theorem commandItems_stop (isKind : kind? token = some .stop) (rest : List τ) :
    commandItems kind? (token :: rest) = [.stop token] := by
  rw [commandItems.eq_def]
  simp only [isKind]

theorem commandItems_flag (isKind : kind? token = some .flag) (rest : List τ) :
    commandItems kind? (token :: rest) = .flag token :: commandItems kind? rest := by
  rw [commandItems.eq_def]
  simp only [isKind]

theorem commandItems_incomplete (isKind : kind? token = some .value) :
    commandItems kind? [token] = [.incomplete token] := by
  rw [commandItems.eq_def]
  simp only [isKind]

theorem commandItems_value (isKind : kind? token = some .value) (value : τ) (rest : List τ) :
    commandItems kind? (token :: value :: rest) =
      .value token value :: commandItems kind? rest := by
  rw [commandItems.eq_def]
  simp only [isKind]

end Items

/-! ## Values -/

section Values

variable {τ : Type u} [DecidableEq τ]

/-- The value that an item gives to an option. -/
def CommandItem.valueOf (option : τ) : CommandItem τ → Option τ
  | .value other given => if other = option then some given else none
  | _ => none

/-- The last value that is given to an option. -/
def lastValue (option : τ) (items : List (CommandItem τ)) : Option τ :=
  (items.filterMap (CommandItem.valueOf option)).getLast?

/-- Items that change a setting only where they give a value to its option leave the last
value in it. -/
theorem foldl_eq_lastValue {σ : Type*} {change : σ → CommandItem τ → σ} {setting : σ → τ}
    {option : τ} (changes : ∀ state item,
      setting (change state item) = (item.valueOf option).getD (setting state))
    (items : List (CommandItem τ)) (state : σ) :
    setting (items.foldl change state) = (lastValue option items).getD (setting state) := by
  induction items generalizing state with
  | nil => rfl
  | cons item rest ih =>
      rw [List.foldl_cons, ih, changes, lastValue, lastValue]
      cases given : item.valueOf option with
      | none => rw [List.filterMap_cons_none given, Option.getD_none]
      | some value =>
          rw [List.filterMap_cons_some given, List.getLast?_cons]
          rfl

end Values

end StatsLogApiGen.Program
