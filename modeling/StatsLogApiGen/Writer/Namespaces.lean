import StatsLogApiGen.Format.Text

/-!
# Namespaces of the native outputs

`Split` and the lines that open and close the namespaces of a native header or source.
The pieces are the same for both, so the closing lines name the opened namespaces from
the inside out.
-/

namespace StatsLogApiGen.Writer

open StatsLogApiGen.Format

/-! ## Splitting -/

/-- The loop of `Split` from the index `base` on.  `none` stands for the exception of
`substr`. -/
def splitFrom (s : Text Char) (delimiters : List Char) (base : Nat) :
    Option (List (List Char)) :=
  (s.substr base (s.findFirstOf delimiters base - base)).bind fun piece =>
    if found : s.findFirstOf delimiters base = npos then
      some [piece]
    else
      (splitFrom s delimiters (s.findFirstOf delimiters base + 1)).map fun result =>
        piece :: result
termination_by s.chars.length + 1 - base
decreasing_by
  have bounds := Text.findFirstOf_bounds found
  omega

/-- `Split`. -/
def split (s : Text Char) (delimiters : List Char) : Option (List (List Char)) :=
  splitFrom s delimiters 0

/-! ## Lines -/

/-- What `%s` prints of a string: the characters before the first zero. -/
def cStr (chars : List Char) : String :=
  String.ofList (chars.takeWhile (· ≠ Char.ofNat 0))

inductive NamespaceLine where
  | opening (name : String)
  | closing (name : String)
  deriving DecidableEq, Repr

/-- A line as it is printed. -/
def NamespaceLine.text : NamespaceLine → String
  | .opening name => "namespace " ++ name ++ " \x7b\n"
  | .closing name => "\x7d // namespace " ++ name ++ "\n"

/-- `write_namespace`. -/
def writeNamespace (cppNamespaces : Text Char) : Option (List NamespaceLine) :=
  (split cppNamespaces [',']).map fun cppNamespaceVec =>
    cppNamespaceVec.map fun cppNamespace => .opening (cStr cppNamespace)

/-- `write_closing_namespace`. -/
def writeClosingNamespace (cppNamespaces : Text Char) : Option (List NamespaceLine) :=
  (split cppNamespaces [',']).map fun cppNamespaceVec =>
    cppNamespaceVec.reverse.map fun cppNamespace => .closing (cStr cppNamespace)

/-- The namespaces that are open after a line, the innermost first.  A closing line has
to name the innermost one. -/
def NamespaceLine.enter (line : NamespaceLine) (opened : List String) : Option (List String) :=
  match line, opened with
  | .opening name, opened => some (name :: opened)
  | .closing name, innermost :: outer => if name = innermost then some outer else none
  | .closing _, [] => none

/-- The namespaces that are open after several lines. -/
def enterAll (lines : List NamespaceLine) (opened : List String) : Option (List String) :=
  lines.foldlM (fun opened line => line.enter opened) opened

/-! ## Splitting is exact -/

/-- The part that is cut out at the end of the string is all that is left: `npos - base`
is at least its length. -/
theorem substr_npos {s : Text Char} {base : Nat} (inRange : base ≤ s.chars.length) :
    s.substr base (npos - base) = some (s.chars.drop base) := by
  have long : (s.chars.drop base).length ≤ npos - base := by
    have bound := s.length_lt
    rw [List.length_drop]
    omega
  rw [Text.substr, if_pos inRange, List.take_of_length_le long]

/-- From an index within the string on, the loop returns the pieces of the rest. -/
theorem splitFrom_eq (s : Text Char) (delimiters : List Char) {base : Nat}
    (inRange : base ≤ s.chars.length) :
    splitFrom s delimiters base =
      some ((s.chars.drop base).splitOnP delimiters.contains) := by
  induction base using splitFrom.induct s delimiters with
  | case1 base ih =>
      rw [splitFrom]
      rcases s.findFirstOf_cases delimiters base with
        ⟨notFound, noDelimiter⟩ | ⟨piece, delimiter, rest, remain, isDelimiter, before, isFound⟩
      · rw [notFound, substr_npos inRange, Option.bind_some, dif_pos rfl,
          List.splitOnP_eq_singleton noDelimiter]
      · have lengths := congrArg List.length remain
        rw [List.length_drop, List.length_append, List.length_cons] at lengths
        have inString : base + piece.length + 1 ≤ s.chars.length := by omega
        have found : s.findFirstOf delimiters base ≠ npos := by
          have bound := s.length_lt
          omega
        have cut : s.substr base (s.findFirstOf delimiters base - base) = some piece := by
          rw [isFound, Text.substr, if_pos inRange, remain, Nat.add_sub_cancel_left,
            List.take_left]
        have after : s.chars.drop (s.findFirstOf delimiters base + 1) = rest := by
          rw [isFound, Nat.add_assoc, ← List.drop_drop, remain, ← List.drop_drop,
            List.drop_left, List.drop_one, List.tail_cons]
        have later : splitFrom s delimiters (s.findFirstOf delimiters base + 1) =
            some (rest.splitOnP delimiters.contains) := by
          rw [ih found (by omega), after]
        rw [cut, Option.bind_some, dif_neg found, later, remain, Option.map_some,
          List.splitOnP_append_cons_of_forall_mem before delimiter isDelimiter]

/-- `Split` returns: no index is out of range. -/
theorem split_eq (s : Text Char) (delimiters : List Char) :
    split s delimiters = some (s.chars.splitOnP delimiters.contains) :=
  splitFrom_eq s delimiters (Nat.zero_le _)

theorem contains_singleton (delimiter : Char) :
    [delimiter].contains = fun c => c == delimiter := by
  funext c
  rw [List.contains_cons, List.contains_nil, Bool.or_false]

theorem split_comma (s : Text Char) : split s [','] = some (s.chars.splitOn ',') := by
  rw [split_eq, contains_singleton, List.splitOn_eq_splitOnP]

/-! ## Nesting -/

theorem enterAll_opening (names opened : List String) :
    enterAll (names.map .opening) opened = some (names.reverse ++ opened) := by
  induction names generalizing opened with
  | nil => rfl
  | cons name rest ih =>
      rw [List.reverse_cons, List.append_assoc]
      exact ih (name :: opened)

theorem enterAll_closing (names opened : List String) :
    enterAll (names.map .closing) (names ++ opened) = some opened := by
  induction names with
  | nil => rfl
  | cons name rest ih =>
      change ((if name = name then some (rest ++ opened) else none).bind fun opened =>
        enterAll (rest.map .closing) opened) = some opened
      rw [if_pos rfl]
      exact ih

/-- Closing names in reverse order leaves nothing open that was not open before. -/
theorem enterAll_balanced (names opened : List String) :
    enterAll (names.map .opening ++ names.reverse.map .closing) opened = some opened := by
  have both : enterAll (names.map .opening ++ names.reverse.map .closing) opened =
      (enterAll (names.map .opening) opened).bind (enterAll (names.reverse.map .closing)) :=
    List.foldlM_append
  rw [both, enterAll_opening]
  exact enterAll_closing names.reverse opened

/-- Splitting at commas returns a list of pieces without commas whose join is the string,
and the namespaces that are opened are closed in reverse order. -/
theorem splitsNamespaces (s : Text Char) :
    ∃ pieces, split s [','] = some pieces ∧ pieces ≠ [] ∧
      (∀ piece ∈ pieces, ',' ∉ piece) ∧ [','].intercalate pieces = s.chars ∧
      pieces.length = s.chars.count ',' + 1 ∧
      ∃ names, writeNamespace s = some (names.map .opening) ∧
        writeClosingNamespace s = some (names.reverse.map .closing) ∧
        names = pieces.map cStr ∧
        ∀ opened, enterAll (names.map .opening ++ names.reverse.map .closing) opened =
          some opened := by
  refine ⟨s.chars.splitOn ',', split_comma s, List.splitOn_ne_nil _ _, ?_,
    List.intercalate_splitOn ',', ?_, (s.chars.splitOn ',').map cStr, ?_, ?_, rfl,
    enterAll_balanced _⟩
  · intro piece member comma
    have notComma := splitOnP_forall (· == ',') s.chars piece member ',' comma
    simp at notComma
  · exact length_splitOnP (· == ',') s.chars
  · rw [writeNamespace, split_comma, Option.map_some, List.map_map]
    rfl
  · rw [writeClosingNamespace, split_comma, Option.map_some, ← List.map_reverse, List.map_map]
    rfl

end StatsLogApiGen.Writer
