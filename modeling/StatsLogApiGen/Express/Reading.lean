import StatsLogApiGen.Express.Catalog

/-!
# What is in a catalog that is read

A catalog is read when every config can be parsed and the ids of its metrics follow the
naming convention and are distinct.  The map then holds the metrics of the configs.
-/

namespace StatsLogApiGen.Express

open Std
open Computability
open StatsLogApiGen.Container

/-! ## Regular expressions -/

section Letters

variable {α : Type}

/-- The letters that an expression mentions. -/
def letters : RegularExpression α → List α
  | 0 => []
  | 1 => []
  | .char letter => [letter]
  | first + second => letters first ++ letters second
  | first * second => letters first ++ letters second
  | .star repeated => letters repeated

theorem letters_mul (first second : RegularExpression α) :
    letters (first * second) = letters first ++ letters second :=
  rfl

theorem letters_star (repeated : RegularExpression α) :
    letters repeated.star = letters repeated :=
  rfl

/-- A match consists of letters of the expression. -/
theorem mem_letters_of_mem_matches' {expression : RegularExpression α} {word : List α}
    (isMatch : word ∈ expression.matches') : ∀ letter ∈ word, letter ∈ letters expression := by
  induction expression generalizing word with
  | zero => exact absurd isMatch (Language.notMem_zero word)
  | epsilon =>
      change word = [] at isMatch
      subst isMatch
      simp
  | char letter =>
      change word = [letter] at isMatch
      subst isMatch
      exact fun other member => member
  | plus first second firstIh secondIh =>
      intro letter member
      rcases (Language.mem_add _ _ _).mp isMatch with left | right
      · exact List.mem_append_left _ (firstIh left letter member)
      · exact List.mem_append_right _ (secondIh right letter member)
  | comp first second firstIh secondIh =>
      intro letter member
      rcases Language.mem_mul.mp isMatch with ⟨left, leftMatch, right, rightMatch, rfl⟩
      rcases List.mem_append.mp member with inLeft | inRight
      · exact List.mem_append_left _ (firstIh leftMatch letter inLeft)
      · exact List.mem_append_right _ (secondIh rightMatch letter inRight)
  | star repeated ih =>
      intro letter member
      rcases Language.mem_kstar.mp isMatch with ⟨words, rfl, areMatches⟩
      rcases List.mem_flatten.mp member with ⟨other, otherMem, letterMem⟩
      exact ih (areMatches other otherMem) letter letterMem

theorem letters_oneOf (characters : List Char) : letters (oneOf characters) = characters := by
  induction characters with
  | nil => rfl
  | cons character rest ih => exact congrArg (character :: ·) ih

theorem letters_literally (text : String) : letters (literally text) = text.toList := by
  rw [literally]
  induction text.toList with
  | nil => rfl
  | cons character rest ih => exact congrArg (character :: ·) ih

end Letters

/-! ## Metrics -/

/-- A metric that `readMetrics` lets pass. -/
def ExpressMetric.IsNamed (metric : ExpressMetric) : Prop :=
  ∃ metricId, metric.id = some metricId ∧ validateMetricId metricId = true

/-- A metric is inserted when it is named and its id is new. -/
theorem readMetric_eq_ok_iff {metrics next : Metrics} {item : ExpressMetric × Nat} :
    readMetric metrics item = .ok next ↔
      item.1.IsNamed ∧ item.1.getId ∉ metrics ∧ next = metrics.insert item.1.getId item.1 := by
  rcases item with ⟨metric, index⟩
  cases isId : metric.id with
  | none => simp [readMetric, ExpressMetric.IsNamed, isId]
  | some metricId =>
      simp only [readMetric, ExpressMetric.IsNamed, ExpressMetric.getId, isId, Option.getD_some,
        Option.some.injEq, exists_eq_left']
      cases named : validateMetricId metricId with
      | false => simp
      | true =>
          by_cases member : metricId ∈ metrics
          · simp [member]
          · simp [member, eq_comm]

theorem admits_readMetric :
    Admits readMetric (fun item => item.1.IsNamed) (fun item => item.1.getId)
      (fun metrics metricId => metricId ∈ metrics) where
  isOk_iff metrics item := by
    rw [isOk_iff_exists]
    constructor
    · rintro ⟨next, stepped⟩
      rcases readMetric_eq_ok_iff.mp stepped with ⟨named, fresh, -⟩
      exact ⟨named, fresh⟩
    · rintro ⟨named, fresh⟩
      exact ⟨_, readMetric_eq_ok_iff.mpr ⟨named, fresh, rfl⟩⟩
  seen_iff metrics item next stepped other := by
    rcases readMetric_eq_ok_iff.mp stepped with ⟨-, -, rfl⟩
    rw [ExtTreeMap.mem_insert, Std.compare_eq_iff_eq, eq_comm]

theorem records_readMetric :
    Records readMetric (fun item => item.1.getId) Prod.fst
      (fun metrics metricId => metrics[metricId]?) := by
  intro metrics item next stepped other
  rcases readMetric_eq_ok_iff.mp stepped with ⟨-, -, rfl⟩
  simp [ExtTreeMap.getElem?_insert]

/-! ## Catalogs -/

section Catalog

variable (parseFromString : String → Option (List ExpressMetric))

/-- The metrics of the configs with their indices. -/
def catalogItems (entries : List DirectoryEntry) : List (ExpressMetric × Nat) :=
  (entries.filter DirectoryEntry.isConfig).flatMap fun entry =>
    ((parseFromString entry.content).getD []).zipIdx

/-- The metrics of the configs. -/
def catalogMetrics (entries : List DirectoryEntry) : List ExpressMetric :=
  (entries.filter DirectoryEntry.isConfig).flatMap fun entry =>
    (parseFromString entry.content).getD []

theorem catalogItems_fst (entries : List DirectoryEntry) :
    (catalogItems parseFromString entries).map Prod.fst =
      catalogMetrics parseFromString entries := by
  simp [catalogItems, catalogMetrics, List.map_flatMap]

variable {parseFromString}

/-- Reading a catalog is parsing the configs and reading their metrics one by one. -/
theorem readCatalog_eq_ok_iff {entries : List DirectoryEntry} {metrics final : Metrics} :
    readCatalog parseFromString entries metrics = .ok final ↔
      (∀ entry ∈ entries, entry.isConfig → (parseFromString entry.content).isSome) ∧
        (catalogItems parseFromString entries).foldlM readMetric metrics = .ok final := by
  induction entries generalizing metrics with
  | nil => simp [readCatalog, catalogItems]
  | cons entry rest ih =>
      have unfolded : readCatalog parseFromString (entry :: rest) metrics =
          (readEntry parseFromString metrics entry).bind fun next =>
            readCatalog parseFromString rest next := List.foldlM_cons
      rw [unfolded, bind_eq_ok_iff, List.forall_mem_cons]
      simp only [ih]
      cases isConfig : entry.isConfig with
      | false =>
          have items : catalogItems parseFromString (entry :: rest) =
              catalogItems parseFromString rest := by
            simp [catalogItems, isConfig]
          simp [readEntry, isConfig, items]
      | true =>
          have items : catalogItems parseFromString (entry :: rest) =
              ((parseFromString entry.content).getD []).zipIdx ++
                catalogItems parseFromString rest := by
            simp [catalogItems, isConfig]
          rw [items, List.foldlM_append]
          cases parsed : parseFromString entry.content with
          | none => simp [readEntry, isConfig, readMetrics, parsed]
          | some metricsOfFile =>
              have isRead : readEntry parseFromString metrics entry =
                  metricsOfFile.zipIdx.foldlM readMetric metrics := by
                simp [readEntry, isConfig, readMetrics, parsed]
              rw [isRead, Option.getD_some]
              change _ ↔ _ ∧ Except.bind (metricsOfFile.zipIdx.foldlM readMetric metrics) _ = _
              rw [bind_eq_ok_iff]
              simp only [Option.isSome_some, implies_true, true_and]
              constructor
              · rintro ⟨next, ran, parses, later⟩
                exact ⟨parses, next, ran, later⟩
              · rintro ⟨parses, next, ran, later⟩
                exact ⟨next, ran, parses, later⟩

section Read

variable {entries : List DirectoryEntry} {metrics : Metrics}
  (read : readCatalog parseFromString entries {} = .ok metrics)

include read

/-- The metrics of a catalog that is read are named, and their ids are distinct. -/
theorem named_and_distinct :
    (∀ metric ∈ catalogMetrics parseFromString entries, metric.IsNamed) ∧
      ((catalogMetrics parseFromString entries).map ExpressMetric.getId).Nodup := by
  have ran := (readCatalog_eq_ok_iff.mp read).2
  have admitted := (admits_readMetric.isOk_foldlM {} (catalogItems parseFromString entries)).mp
    (by rw [ran]; rfl)
  rw [← catalogItems_fst, List.map_map]
  refine ⟨?_, admitted.2.1⟩
  intro metric member
  rcases List.mem_map.mp member with ⟨item, itemMem, rfl⟩
  exact admitted.1 item itemMem

/-- The map holds the metrics of the configs, each under its own id. -/
theorem getElem?_metrics {metricId : String} {metric : ExpressMetric} :
    metrics[metricId]? = some metric ↔
      metric ∈ catalogMetrics parseFromString entries ∧ metric.id = some metricId := by
  have ran := (readCatalog_eq_ok_iff.mp read).2
  rcases named_and_distinct read with ⟨named, distinct⟩
  rw [← catalogItems_fst, List.map_map] at distinct
  rw [records_readMetric.foldlM_eq_some_iff distinct ran (by simp), ← catalogItems_fst]
  constructor
  · rintro ⟨item, itemMem, sameId, rfl⟩
    have member : item.1 ∈ catalogMetrics parseFromString entries := by
      rw [← catalogItems_fst]
      exact List.mem_map_of_mem itemMem
    rcases named item.1 member with ⟨other, isId, -⟩
    refine ⟨List.mem_map_of_mem itemMem, ?_⟩
    rw [ExpressMetric.getId, isId, Option.getD_some] at sameId
    rw [isId, sameId]
  · rintro ⟨member, isId⟩
    rcases List.mem_map.mp member with ⟨item, itemMem, rfl⟩
    exact ⟨item, itemMem, by rw [ExpressMetric.getId, isId, Option.getD_some], rfl⟩

end Read

end Catalog

/-! ## Hashes -/

section Hashing

variable {fingerprint64 : String → BitVec 64}

theorem records_generateMetricId :
    Records (generateMetricId fingerprint64) Prod.fst
      (fun entry => ⟨fingerprint64 entry.1, entry.2.getType⟩)
      (fun state metricId => state.2[metricId]?) := by
  intro state entry next stepped other
  rw [generateMetricId] at stepped
  split at stepped
  · contradiction
  · cases stepped
    simp [ExtTreeMap.getElem?_insert]

/-- Every metric has its hash and its type. -/
theorem getElem?_metricsIds {metrics : Metrics} {metricsIds : MetricInfoMap}
    (generated : generateMetricsIds fingerprint64 metrics {} = .ok metricsIds)
    {metricId : String} {info : MetricInfo} :
    metricsIds[metricId]? = some info ↔
      ∃ metric, metrics[metricId]? = some metric ∧
        info = ⟨fingerprint64 metricId, metric.getType⟩ := by
  rcases map_eq_ok_iff.mp generated with ⟨state, ran, rfl⟩
  have distinct : (metrics.toList.map Prod.fst).Nodup := by
    rw [ExtTreeMap.map_fst_toList_eq_keys]
    exact ExtTreeMap.nodup_keys
  rw [records_generateMetricId.foldlM_eq_some_iff distinct ran (by simp)]
  constructor
  · rintro ⟨⟨key, metric⟩, member, rfl, rfl⟩
    exact ⟨metric, ExtTreeMap.mem_toList_iff_getElem?_eq_some.mp member, rfl⟩
  · rintro ⟨metric, found, rfl⟩
    exact ⟨(metricId, metric), ExtTreeMap.mem_toList_iff_getElem?_eq_some.mpr found, rfl, rfl⟩

end Hashing

end StatsLogApiGen.Express
