import StatsLogApiGen.Express.Exact
import StatsLogApiGen.Express.Serving

/-!
# Catalogs in folders

The header says that `readCatalog` parses its folder recursively, but it iterates over
the entries of that folder only: a folder among them is an entry that is not a regular
file.  So a config in a folder below is not read.
-/

namespace StatsLogApiGen.Express

open Std
open StatsLogApiGen.Container

/-! ## Trees -/

/-- What is found in a directory. -/
inductive Tree where
  | file (fileName content : String)
  | folder (fileName : String) (children : List Tree)
  | special (fileName : String)

/-- The directory entry that the iteration yields. -/
def Tree.entry : Tree → DirectoryEntry
  | .file fileName content => ⟨fileName, true, content⟩
  | .folder fileName _ => ⟨fileName, false, ""⟩
  | .special fileName => ⟨fileName, false, ""⟩

mutual

/-- The regular files in a tree, at any depth. -/
def Tree.files : Tree → List DirectoryEntry
  | .file fileName content => [⟨fileName, true, content⟩]
  | .folder _ children => filesBelow children
  | .special _ => []

/-- The regular files below a directory, at any depth. -/
def filesBelow : List Tree → List DirectoryEntry
  | [] => []
  | tree :: rest => tree.files ++ filesBelow rest

end

/-! ## Reading a directory -/

section Reading

variable (parseFromString : String → Option (List ExpressMetric)) (root : List Tree)

/-- `readCatalog` on a directory. -/
def readDirectory : Except CatalogError Metrics :=
  readCatalog parseFromString (root.map Tree.entry) {}

/-- A catalog that is read has every metric of every config below the directory. -/
def MissesNothing : Prop :=
  ∀ metrics, readDirectory parseFromString root = .ok metrics →
    ∀ file ∈ filesBelow root, file.isConfig = true →
      ∀ metricsOfFile, parseFromString file.content = some metricsOfFile →
        ∀ metric ∈ metricsOfFile, ∃ metricId : String, metrics[metricId]? = some metric

/-- The metrics of the configs below the directory are metrics of configs in it, or the
configs in it are not readable. -/
def DirectoryHasAll : Prop :=
  Readable parseFromString (root.map Tree.entry) →
    ∀ metric ∈ catalogMetrics parseFromString (filesBelow root),
      metric ∈ catalogMetrics parseFromString (root.map Tree.entry)

variable {parseFromString root}

theorem mem_catalogMetrics {entries : List DirectoryEntry} {metric : ExpressMetric} :
    metric ∈ catalogMetrics parseFromString entries ↔
      ∃ file ∈ entries, file.isConfig = true ∧
        ∃ metricsOfFile, parseFromString file.content = some metricsOfFile ∧
          metric ∈ metricsOfFile := by
  simp only [catalogMetrics, List.mem_flatMap, List.mem_filter, and_assoc]
  constructor
  · rintro ⟨file, member, isConfig, inFile⟩
    cases parsed : parseFromString file.content with
    | none => simp [parsed] at inFile
    | some metricsOfFile =>
        rw [parsed, Option.getD_some] at inFile
        exact ⟨file, member, isConfig, metricsOfFile, parsed, inFile⟩
  · rintro ⟨file, member, isConfig, metricsOfFile, parsed, inFile⟩
    exact ⟨file, member, isConfig, by rw [parsed]; exact inFile⟩

/-- A metric is in the map of a directory that is read when a config in the directory has
it. -/
theorem exists_getElem?_iff {metrics : Metrics}
    (read : readDirectory parseFromString root = .ok metrics) (metric : ExpressMetric) :
    (∃ metricId : String, metrics[metricId]? = some metric) ↔
      metric ∈ catalogMetrics parseFromString (root.map Tree.entry) := by
  constructor
  · rintro ⟨metricId, found⟩
    exact ((getElem?_metrics read).mp found).1
  · intro member
    rcases (named_and_distinct read).1 metric member with ⟨metricId, isId, -⟩
    exact ⟨metricId, (getElem?_metrics read).mpr ⟨member, isId⟩⟩

end Reading

/-- Reading a directory misses nothing exactly when the configs below it add no metrics to
those of the configs in it. -/
theorem missesNothing_iff (parseFromString : String → Option (List ExpressMetric))
    (root : List Tree) :
    MissesNothing parseFromString root ↔ DirectoryHasAll parseFromString root := by
  constructor
  · intro complete readable metric below
    rcases mem_catalogMetrics.mp below with
      ⟨file, member, isConfig, metricsOfFile, parsed, inFile⟩
    rcases isOk_iff_exists.mp (readCatalog_isOk_iff.mpr readable) with ⟨metrics, read⟩
    rw [← exists_getElem?_iff read]
    exact complete metrics read file member isConfig metricsOfFile parsed metric inFile
  · intro hasAll metrics read file member isConfig metricsOfFile parsed metric inFile
    have readable : Readable parseFromString (root.map Tree.entry) := by
      rw [← readCatalog_isOk_iff]
      exact isOk_iff_exists.mpr ⟨metrics, read⟩
    rw [exists_getElem?_iff read]
    apply hasAll readable
    exact mem_catalogMetrics.mpr ⟨file, member, isConfig, metricsOfFile, parsed, inFile⟩

/-- A catalog with a config in a folder. -/
def nestedCatalog : List Tree :=
  [.folder "counters" [.file "counter.cfg" counterConfig]]

/-- The catalog is read without the metric of the config in the folder. -/
theorem not_missesNothing_nestedCatalog :
    readDirectory knownConfigs nestedCatalog = .ok {} ∧
      ¬MissesNothing knownConfigs nestedCatalog := by
  have read : readDirectory knownConfigs nestedCatalog = .ok {} := rfl
  refine ⟨read, fun complete => ?_⟩
  rcases complete {} read ⟨"counter.cfg", true, counterConfig⟩ List.mem_cons_self (by decide) _
    (if_pos rfl) _ List.mem_cons_self with ⟨metricId, found⟩
  simp at found

end StatsLogApiGen.Express
