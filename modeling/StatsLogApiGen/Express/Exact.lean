import StatsLogApiGen.Express.Naming

/-!
# When a catalog is read and hashed

Reading a catalog succeeds exactly when its configs can be parsed and their metrics have
distinct ids that follow the naming convention, in whatever order the configs come.
Hashing succeeds exactly when no two ids have the same hash.
-/

namespace StatsLogApiGen.Express

open Std
open StatsLogApiGen.Container

/-! ## Reading -/

section Reading

variable (parseFromString : String → Option (List ExpressMetric))

/-- A catalog whose configs can be parsed and whose metrics have distinct ids that follow
the naming convention. -/
structure Readable (entries : List DirectoryEntry) : Prop where
  parses : ∀ entry ∈ entries, entry.isConfig = true →
    (parseFromString entry.content).isSome = true
  named : ∀ metric ∈ catalogMetrics parseFromString entries,
    ∃ metricId, metric.id = some metricId ∧ FollowsConvention metricId
  distinct : ((catalogMetrics parseFromString entries).map ExpressMetric.getId).Nodup

variable {parseFromString} {entries others : List DirectoryEntry}

theorem isNamed_iff (metric : ExpressMetric) :
    metric.IsNamed ↔ ∃ metricId, metric.id = some metricId ∧ FollowsConvention metricId := by
  simp only [ExpressMetric.IsNamed, validateMetricId_iff]

theorem readCatalog_isOk_iff :
    (readCatalog parseFromString entries {}).isOk = true ↔ Readable parseFromString entries := by
  rw [isOk_iff_exists]
  simp only [readCatalog_eq_ok_iff]
  rw [exists_and_left, ← isOk_iff_exists, admits_readMetric.isOk_foldlM]
  have ids : (catalogItems parseFromString entries).map (fun item => item.1.getId) =
      (catalogMetrics parseFromString entries).map ExpressMetric.getId := by
    rw [← catalogItems_fst, List.map_map]
    rfl
  have items : (∀ item ∈ catalogItems parseFromString entries, item.1.IsNamed) ↔
      ∀ metric ∈ catalogMetrics parseFromString entries,
        ∃ metricId, metric.id = some metricId ∧ FollowsConvention metricId := by
    simp only [← catalogItems_fst, List.forall_mem_map, isNamed_iff]
  rw [ids, items]
  constructor
  · rintro ⟨parses, named, distinct, -⟩
    exact ⟨parses, named, distinct⟩
  · rintro ⟨parses, named, distinct⟩
    exact ⟨parses, named, distinct, by simp⟩

theorem catalogMetrics_perm (perm : others.Perm entries) :
    (catalogMetrics parseFromString others).Perm (catalogMetrics parseFromString entries) :=
  (perm.filter _).flatMap_right _

theorem Readable.perm (readable : Readable parseFromString entries)
    (perm : others.Perm entries) : Readable parseFromString others where
  parses entry member := readable.parses entry (perm.mem_iff.mp member)
  named metric member := readable.named metric ((catalogMetrics_perm perm).mem_iff.mp member)
  distinct := (((catalogMetrics_perm perm).map _).nodup_iff).mpr readable.distinct

/-- The order of the directory entries does not matter. -/
theorem readCatalog_perm (perm : others.Perm entries) :
    (readCatalog parseFromString others {}).toOption =
      (readCatalog parseFromString entries {}).toOption := by
  cases read : readCatalog parseFromString entries {} with
  | error reason =>
      have failed : (readCatalog parseFromString others {}).isOk = false := by
        rw [Bool.eq_false_iff]
        intro isOk
        have readable := (readCatalog_isOk_iff.mp isOk).perm perm.symm
        rw [← readCatalog_isOk_iff, read] at readable
        contradiction
      cases otherRead : readCatalog parseFromString others {} with
      | error otherReason => rfl
      | ok metrics =>
          rw [otherRead] at failed
          contradiction
  | ok metrics =>
      have readable : Readable parseFromString entries := by
        rw [← readCatalog_isOk_iff, read]
        rfl
      rcases isOk_iff_exists.mp (readCatalog_isOk_iff.mpr (readable.perm perm)) with
        ⟨otherMetrics, otherRead⟩
      have same : otherMetrics = metrics := by
        apply ExtTreeMap.ext_getElem?
        intro metricId
        apply Option.ext
        intro metric
        rw [getElem?_metrics otherRead, getElem?_metrics read,
          (catalogMetrics_perm perm).mem_iff]
      rw [otherRead, same]

end Reading

/-- A catalog is read exactly when it is readable, the map then holds its metrics under
their ids, and the order in which the directory is iterated does not matter. -/
theorem readsExactly (parseFromString : String → Option (List ExpressMetric))
    (entries : List DirectoryEntry) :
    ((readCatalog parseFromString entries {}).isOk = true ↔
        Readable parseFromString entries) ∧
      (∀ metrics, readCatalog parseFromString entries {} = .ok metrics →
        ∀ metricId metric, metrics[metricId]? = some metric ↔
          metric ∈ catalogMetrics parseFromString entries ∧ metric.id = some metricId) ∧
      ∀ others : List DirectoryEntry, others.Perm entries →
        (readCatalog parseFromString others {}).toOption =
          (readCatalog parseFromString entries {}).toOption :=
  ⟨readCatalog_isOk_iff, fun _ read _ _ => getElem?_metrics read,
    fun _ perm => readCatalog_perm perm⟩

/-! ## Hashing -/

section Hashing

variable {fingerprint64 : String → BitVec 64}

/-- `currentHashes` holds the hashes of the ids processed so far. -/
theorem admits_generateMetricId :
    Admits (generateMetricId fingerprint64) (fun _ => True) (fun entry => fingerprint64 entry.1)
      (fun state hash => hash ∈ state.1) where
  isOk_iff state entry := by
    rw [generateMetricId]
    by_cases collides : fingerprint64 entry.1 ∈ state.1
    · simp [collides, Except.isOk, Except.toBool]
    · simp [collides, Except.isOk, Except.toBool]
  seen_iff state entry next stepped other := by
    rw [generateMetricId] at stepped
    split at stepped
    · contradiction
    · cases stepped
      exact List.mem_cons

/-- Hashing fails exactly when two ids collide. -/
theorem generateMetricsIds_isOk_iff {metrics : Metrics} :
    (generateMetricsIds fingerprint64 metrics {}).isOk = true ↔
      ∀ first ∈ metrics, ∀ second ∈ metrics,
        fingerprint64 first = fingerprint64 second → first = second := by
  have keys : metrics.toList.map (fun entry => fingerprint64 entry.1) =
      metrics.keys.map fingerprint64 := by
    rw [← ExtTreeMap.map_fst_toList_eq_keys, List.map_map]
    rfl
  rw [generateMetricsIds, isOk_map, admits_generateMetricId.isOk_foldlM, keys,
    List.nodup_map_iff_inj_on ExtTreeMap.nodup_keys]
  simp only [ExtTreeMap.mem_keys, implies_true, List.not_mem_nil, not_false_eq_true, true_and,
    and_true]

end Hashing

/-- Ids are generated exactly when the hash is injective on the ids of the metrics.  Then
every metric has an entry with its hash and its type, and no two ids share a hash. -/
theorem hashesExactly (fingerprint64 : String → BitVec 64) (metrics : Metrics) :
    ((generateMetricsIds fingerprint64 metrics {}).isOk = true ↔
        ∀ first ∈ metrics, ∀ second ∈ metrics,
          fingerprint64 first = fingerprint64 second → first = second) ∧
      ∀ metricsIds, generateMetricsIds fingerprint64 metrics {} = .ok metricsIds →
        (∀ metricId, metricId ∈ metricsIds ↔ metricId ∈ metrics) ∧
        (∀ (metricId : String) (info : MetricInfo), metricsIds[metricId]? = some info ↔
          ∃ metric, metrics[metricId]? = some metric ∧
            info = ⟨fingerprint64 metricId, metric.getType⟩) ∧
        ∀ (first second : String) (firstInfo secondInfo : MetricInfo),
          metricsIds[first]? = some firstInfo → metricsIds[second]? = some secondInfo →
            firstInfo.hash = secondInfo.hash → first = second := by
  refine ⟨generateMetricsIds_isOk_iff, fun metricsIds generated => ?_⟩
  have infos (metricId : String) (info : MetricInfo) := @getElem?_metricsIds fingerprint64
    metrics metricsIds generated metricId info
  have sameIds (metricId : String) : metricId ∈ metricsIds ↔ metricId ∈ metrics := by
    rw [mem_iff_exists_getElem?, mem_iff_exists_getElem?]
    simp only [infos]
    constructor
    · rintro ⟨info, metric, found, -⟩
      exact ⟨metric, found⟩
    · rintro ⟨metric, found⟩
      exact ⟨_, metric, found, rfl⟩
  refine ⟨sameIds, infos, ?_⟩
  intro first second firstInfo secondInfo firstFound secondFound sameHash
  have injective := generateMetricsIds_isOk_iff.mp (by rw [generated]; rfl)
  have firstMem := (sameIds first).mp (mem_iff_exists_getElem?.mpr ⟨firstInfo, firstFound⟩)
  have secondMem := (sameIds second).mp (mem_iff_exists_getElem?.mpr ⟨secondInfo, secondFound⟩)
  rcases (infos first firstInfo).mp firstFound with ⟨firstMetric, -, rfl⟩
  rcases (infos second secondInfo).mp secondFound with ⟨secondMetric, -, rfl⟩
  exact injective first firstMem second secondMem sameHash

end StatsLogApiGen.Express
