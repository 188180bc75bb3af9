import StatsLogApiGen.Express.Reading

/-!
# The naming convention

The regular expression of `validateMetricId` spelled out: two names of lower case
letters, digits and underscores that start with a letter, and `.value_` between them.
-/

namespace StatsLogApiGen.Express

open Computability

/-! ## Matches of the parts -/

theorem mem_matches'_oneOf {characters word : List Char} :
    word ∈ (oneOf characters).matches' ↔ ∃ c ∈ characters, word = [c] := by
  induction characters with
  | nil => exact iff_of_false (Language.notMem_zero word) (by simp)
  | cons character rest ih =>
      change word ∈ (RegularExpression.char character + oneOf rest).matches' ↔ _
      rw [RegularExpression.matches'_add, Language.mem_add, ih, List.exists_mem_cons_iff]
      exact Iff.rfl

theorem mem_matches'_star_oneOf {characters word : List Char} :
    word ∈ (oneOf characters).star.matches' ↔ ∀ c ∈ word, c ∈ characters := by
  rw [RegularExpression.matches'_star, Language.mem_kstar]
  constructor
  · rintro ⟨words, rfl, areMatches⟩ c member
    rcases List.mem_flatten.mp member with ⟨other, otherMem, inOther⟩
    rcases mem_matches'_oneOf.mp (areMatches other otherMem) with ⟨letter, listed, rfl⟩
    rw [List.mem_singleton] at inOther
    exact inOther ▸ listed
  · intro listed
    refine ⟨word.map fun c => [c], by rw [← List.flatMap_def, List.flatMap_singleton'], ?_⟩
    intro part member
    rcases List.mem_map.mp member with ⟨c, inWord, rfl⟩
    exact mem_matches'_oneOf.mpr ⟨c, listed c inWord, rfl⟩

theorem mem_matches'_literally {text : String} {word : List Char} :
    word ∈ (literally text).matches' ↔ word = text.toList := by
  rw [literally]
  induction text.toList generalizing word with
  | nil => exact Language.mem_one word
  | cons character rest ih =>
      change word ∈ (RegularExpression.char character * List.foldr _ 1 rest).matches' ↔ _
      rw [RegularExpression.matches'_mul, Language.mem_mul]
      constructor
      · rintro ⟨first, isFirst, later, isLater, rfl⟩
        rw [show first = [character] from isFirst, ih.mp isLater]
        rfl
      · rintro rfl
        exact ⟨[character], rfl, rest, ih.mpr rfl, rfl⟩

/-! ## Names -/

def lowerCaseLetters : List Char :=
  "abcdefghijklmnopqrstuvwxyz".toList

def wordCharacters : List Char :=
  "abcdefghijklmnopqrstuvwxyz_0123456789".toList

/-- A lower case letter followed by lower case letters, digits and underscores. -/
def IsName (word : List Char) : Prop :=
  ∃ first rest, word = first :: rest ∧ first ∈ lowerCaseLetters ∧ ∀ c ∈ rest, c ∈ wordCharacters

theorem mem_wordCharacters {c : Char} (lower : c ∈ lowerCaseLetters) : c ∈ wordCharacters := by
  have letters : wordCharacters = lowerCaseLetters ++ "_0123456789".toList := rfl
  rw [letters]
  exact List.mem_append_left _ lower

/-- `[a-z]+[a-z_0-9]*` matches the names. -/
theorem mem_matches'_name {word : List Char} :
    word ∈ (oneOrMore lowerCase * wordCharacter.star).matches' ↔ IsName word := by
  rw [RegularExpression.matches'_mul, oneOrMore, RegularExpression.matches'_mul, Language.mem_mul]
  constructor
  · rintro ⟨letters, areLetters, others, areOthers, rfl⟩
    rcases Language.mem_mul.mp areLetters with ⟨first, isFirst, more, areMore, rfl⟩
    rcases mem_matches'_oneOf.mp isFirst with ⟨c, lower, rfl⟩
    refine ⟨c, more ++ others, by simp, lower, ?_⟩
    intro other member
    rcases List.mem_append.mp member with inMore | inOthers
    · exact mem_wordCharacters (mem_matches'_star_oneOf.mp areMore other inMore)
    · exact mem_matches'_star_oneOf.mp areOthers other inOthers
  · rintro ⟨first, rest, rfl, lower, areWord⟩
    refine ⟨[first], Language.mem_mul.mpr ⟨[first], mem_matches'_oneOf.mpr ⟨first, lower, rfl⟩,
      [], mem_matches'_star_oneOf.mpr nofun, rfl⟩, rest, ?_, rfl⟩
    exact mem_matches'_star_oneOf.mpr areWord

/-- A package and a metric name with `.value_` between them. -/
def FollowsConvention (metricId : String) : Prop :=
  ∃ package name, metricId.toList = package ++ ".value_".toList ++ name ∧
    IsName package ∧ IsName name

/-- `validateMetricId` accepts the ids that follow the convention. -/
theorem validateMetricId_iff (metricId : String) :
    validateMetricId metricId = true ↔ FollowsConvention metricId := by
  have parts : metricIdExpression.matches' =
      (oneOrMore lowerCase * wordCharacter.star).matches' * ((oneOf ['.']).matches' *
        ((literally "value_").matches' *
          (oneOrMore lowerCase * wordCharacter.star).matches')) := by
    simp only [metricIdExpression, RegularExpression.matches'_mul, mul_assoc]
  rw [validateMetricId, RegularExpression.rmatch_iff_matches', parts, Language.mem_mul]
  constructor
  · rintro ⟨package, isPackage, afterPackage, isRest, whole⟩
    rcases Language.mem_mul.mp isRest with ⟨dot, isDot, afterDot, isValueName, rfl⟩
    rcases Language.mem_mul.mp isValueName with ⟨value, isValue, name, isName, rfl⟩
    rcases mem_matches'_oneOf.mp isDot with ⟨c, isListed, rfl⟩
    rw [List.mem_singleton.mp isListed, mem_matches'_literally.mp isValue] at whole
    refine ⟨package, name, ?_, mem_matches'_name.mp isPackage, mem_matches'_name.mp isName⟩
    rw [← whole, List.append_assoc]
    rfl
  · rintro ⟨package, name, whole, isPackage, isName⟩
    refine ⟨package, mem_matches'_name.mpr isPackage, _, Language.mem_mul.mpr
      ⟨['.'], mem_matches'_oneOf.mpr ⟨'.', List.mem_cons_self, rfl⟩, _, Language.mem_mul.mpr
        ⟨"value_".toList, mem_matches'_literally.mpr rfl, name, mem_matches'_name.mpr isName,
          rfl⟩, rfl⟩, ?_⟩
    rw [whole, List.append_assoc]
    rfl

end StatsLogApiGen.Express
