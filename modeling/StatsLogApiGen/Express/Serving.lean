import StatsLogApiGen.Express.Codegen
import StatsLogApiGen.Express.Reading

/-!
# Serving a catalog

From the configs to the generated lookup.  A metric without a type passes the validation of
a catalog, and ends the generator while it writes.
-/

namespace StatsLogApiGen.Express

open Std
open StatsLogApiGen.Container

/-- The catalog has a metric with the id and the type. -/
def Holds (catalog : List ExpressMetric) (metricId : String) (type : BitVec 32) : Prop :=
  ∃ metric ∈ catalog, metric.id = some metricId ∧
    BitVec.ofNat 32 metric.getType.number = type

/-- The lookup of a class returns the hashes of the metrics in the catalog and throws for
everything else, and the ids are literals as they are. -/
structure ServesCatalog (catalog : List ExpressMetric) (fingerprint64 : String → BitVec 64)
    (javaClass : JavaClass) : Prop where
  lookups : ∃ metricIds, javaClass.load = some metricIds ∧ ∀ metricId type,
    (Holds catalog metricId type →
      getMetricIdHash metricIds metricId type = .ok (fingerprint64 metricId)) ∧
    (¬Holds catalog metricId type →
      ∃ exception, getMetricIdHash metricIds metricId type = .error exception)
  literals : ∀ metric ∈ catalog, ∃ metricId, metric.id = some metricId ∧
    stringLiteral metricId = some metricId

/-- `CatalogValidationTest`. -/
def catalogValidationTest (parseFromString : String → Option (List ExpressMetric))
    (fingerprint64 : String → BitVec 64) (entries : List DirectoryEntry) : Bool :=
  match readCatalog parseFromString entries {} with
  | .error _ => false
  | .ok metrics => (generateMetricsIds fingerprint64 metrics {}).isOk

/-- The generator writes its class to the end, with a line for every metric. -/
def Completes (catalog : List ExpressMetric) (ending : Ending) : Prop :=
  ∃ javaClass, ending = .returned 0 (some javaClass) ∧
    ∀ metric ∈ catalog, ∃ put ∈ javaClass.metricIds, metric.id = some put.metricId

/-! ## Ids -/

theorem standsForItself_of_mem_letters {letter : Char}
    (member : letter ∈ letters metricIdExpression) : standsForItself letter = true := by
  have plainWord :=
    List.all_eq_true.mp (by decide :
      "abcdefghijklmnopqrstuvwxyz_0123456789".toList.all standsForItself = true)
  have plainLower :=
    List.all_eq_true.mp (by decide :
      "abcdefghijklmnopqrstuvwxyz".toList.all standsForItself = true)
  have plainText :=
    List.all_eq_true.mp (by decide : "value_".toList.all standsForItself = true)
  simp only [metricIdExpression, oneOrMore, lowerCase, wordCharacter, letters_mul, letters_star,
    letters_oneOf, letters_literally, List.mem_append, List.mem_singleton] at member
  rcases member with (lower | lower) | word | rfl | text | (lower | lower) | word
  · exact plainLower letter lower
  · exact plainLower letter lower
  · exact plainWord letter word
  · rfl
  · exact plainText letter text
  · exact plainLower letter lower
  · exact plainLower letter lower
  · exact plainWord letter word

/-- Ids that follow the naming convention need no escapes. -/
theorem stringLiteral_of_valid {metricId : String} (valid : validateMetricId metricId = true) :
    stringLiteral metricId = some metricId := by
  have isMatch := (RegularExpression.rmatch_iff_matches' _ _).mp valid
  apply if_pos
  rw [List.all_eq_true]
  intro letter member
  exact standsForItself_of_mem_letters (mem_letters_of_mem_matches' isMatch letter member)

section Pipeline

variable {parseFromString : String → Option (List ExpressMetric)}
  {fingerprint64 : String → BitVec 64} {entries : List DirectoryEntry} {metrics : Metrics}
  {metricsIds : MetricInfoMap}
  (read : readCatalog parseFromString entries {} = .ok metrics)

include read

/-- The metrics of a catalog have literals as ids. -/
theorem exists_literal :
    ∀ metric ∈ catalogMetrics parseFromString entries, ∃ metricId,
      metric.id = some metricId ∧ stringLiteral metricId = some metricId := by
  intro metric member
  rcases (named_and_distinct read).1 metric member with ⟨metricId, isId, valid⟩
  exact ⟨metricId, isId, stringLiteral_of_valid valid⟩

variable (generated : generateMetricsIds fingerprint64 metrics {} = .ok metricsIds)

include generated

/-- A hashed metric is a metric of the catalog. -/
theorem getElem?_metricsIds_iff {metricId : String} {info : MetricInfo} :
    metricsIds[metricId]? = some info ↔
      ∃ metric ∈ catalogMetrics parseFromString entries, metric.id = some metricId ∧
        info = ⟨fingerprint64 metricId, metric.getType⟩ := by
  rw [getElem?_metricsIds generated]
  constructor
  · rintro ⟨metric, found, isInfo⟩
    rcases (getElem?_metrics read).mp found with ⟨member, isId⟩
    exact ⟨metric, member, isId, isInfo⟩
  · rintro ⟨metric, member, isId, isInfo⟩
    exact ⟨metric, (getElem?_metrics read).mpr ⟨member, isId⟩, isInfo⟩

theorem typed_iff :
    (∀ (metricId : String) (info : MetricInfo),
        metricsIds[metricId]? = some info → info.type ≠ .unknown) ↔
      ∀ metric ∈ catalogMetrics parseFromString entries, metric.getType ≠ .unknown := by
  constructor
  · intro typed metric member
    rcases (named_and_distinct read).1 metric member with ⟨metricId, isId, -⟩
    exact typed metricId _ ((getElem?_metricsIds_iff read generated).mpr
      ⟨metric, member, isId, rfl⟩)
  · intro typed metricId info found
    rcases (getElem?_metricsIds_iff read generated).mp found with ⟨metric, member, -, rfl⟩
    exact typed metric member

theorem run_of_generated {generator : CodeGeneratorJava} {javaClass : JavaClass}
    (isClass : generator.generateCodeImpl metricsIds = .ok javaClass) :
    run parseFromString fingerprint64 generator entries = .returned 0 (some javaClass) := by
  simp only [run, read, generated, isClass]

theorem run_of_truncated {generator : CodeGeneratorJava} {truncated : Truncated}
    (stopped : generator.generateCodeImpl metricsIds = .error truncated) :
    run parseFromString fingerprint64 generator entries = .exited (-1) truncated := by
  simp only [run, read, generated, stopped]

/-- The lookup finds a metric exactly by its id and its type. -/
theorem getMetricIdHash_cases {metricIds : ExtTreeMap String JavaMetricInfo}
    (loaded : ∀ metricId : String, metricIds[metricId]? = metricsIds[metricId]?.map javaMetricInfo)
    (metricId : String) (type : BitVec 32) :
    (Holds (catalogMetrics parseFromString entries) metricId type →
        getMetricIdHash metricIds metricId type = .ok (fingerprint64 metricId)) ∧
      (¬Holds (catalogMetrics parseFromString entries) metricId type →
        ∃ exception, getMetricIdHash metricIds metricId type = .error exception) := by
  cases found : metricsIds[metricId]? with
  | none =>
      have absent : metricIds[metricId]? = none := by
        rw [loaded, found, Option.map_none]
      constructor
      · rintro ⟨metric, member, isId, -⟩
        rw [(getElem?_metricsIds_iff read generated).mpr ⟨metric, member, isId, rfl⟩] at found
        contradiction
      · intro _
        exact ⟨_, by rw [getMetricIdHash, absent]⟩
  | some info =>
      rcases (getElem?_metricsIds_iff read generated).mp found with
        ⟨metric, member, isId, rfl⟩
      have present : metricIds[metricId]? =
          some ⟨fingerprint64 metricId, BitVec.ofNat 32 metric.getType.number⟩ := by
        rw [loaded, found, Option.map_some]
        rfl
      have isOnly {other : ExpressMetric}
          (otherMem : other ∈ catalogMetrics parseFromString entries)
          (otherId : other.id = some metricId) : other.getType = metric.getType := by
        have otherFound := (getElem?_metricsIds_iff read generated).mpr
          ⟨other, otherMem, otherId, rfl⟩
        rw [found, Option.some.injEq] at otherFound
        exact (congrArg MetricInfo.type otherFound).symm
      rw [getMetricIdHash, present]
      dsimp only
      constructor
      · rintro ⟨other, otherMem, otherId, isType⟩
        rw [isOnly otherMem otherId] at isType
        exact if_neg (not_not.mpr isType)
      · intro notHeld
        refine ⟨_, if_pos ?_⟩
        intro isType
        exact notHeld ⟨metric, member, isId, isType⟩

/-- The ids of the hashed metrics are literals. -/
theorem literal_of_mem_metricsIds :
    ∀ metricId ∈ metricsIds, stringLiteral metricId = some metricId := by
  intro metricId member
  rcases mem_iff_exists_getElem?.mp member with ⟨info, found⟩
  rcases (getElem?_metricsIds_iff read generated).mp found with ⟨metric, metricMem, isId, -⟩
  rcases exists_literal read metric metricMem with ⟨other, isOther, literal⟩
  rw [isId, Option.some.injEq] at isOther
  rw [isOther, literal]

end Pipeline

/-! ## Serving -/

/-- The generated lookup of a catalog that is accepted and has types serves the catalog. -/
theorem serves_catalog (parseFromString : String → Option (List ExpressMetric))
    (fingerprint64 : String → BitVec 64) (generator : CodeGeneratorJava)
    (entries : List DirectoryEntry) (metrics : Metrics) (metricsIds : MetricInfoMap)
    (read : readCatalog parseFromString entries {} = .ok metrics)
    (generated : generateMetricsIds fingerprint64 metrics {} = .ok metricsIds)
    (typed : ∀ metric ∈ catalogMetrics parseFromString entries, metric.getType ≠ .unknown) :
    ∃ javaClass, run parseFromString fingerprint64 generator entries =
        .returned 0 (some javaClass) ∧
      ServesCatalog (catalogMetrics parseFromString entries) fingerprint64 javaClass := by
  rcases generateCodeImpl_eq_ok_iff.mpr ⟨(typed_iff read generated).mpr typed, rfl⟩ with
    ⟨javaClass, isGenerated, -⟩
  rcases load_getElem? isGenerated (literal_of_mem_metricsIds read generated) with
    ⟨metricIds, loads, loaded⟩
  refine ⟨javaClass, run_of_generated read generated isGenerated, ?_, exists_literal read⟩
  exact ⟨metricIds, loads, getMetricIdHash_cases read generated loaded⟩

/-- The text of a config with a counter. -/
def counterConfig : String :=
  "express_metric \x7b id: \"a.value_b\" type: COUNTER \x7d"

/-- The text of a config with a metric without a type. -/
def untypedConfig : String :=
  "express_metric \x7b id: \"a.value_b\" \x7d"

/-- A parser that knows the two configs. -/
def knownConfigs (text : String) : Option (List ExpressMetric) :=
  if text = counterConfig then some [{ id := some "a.value_b", type := some .counter }]
  else if text = untypedConfig then some [{ id := some "a.value_b", type := none }]
  else none

/-- The fingerprint of their id. -/
def knownFingerprint (metricId : String) : BitVec 64 :=
  if metricId = "a.value_b" then 0x32bf62f7120b46fc#64 else 0#64

def counterEntries : List DirectoryEntry :=
  [⟨"counter.cfg", true, counterConfig⟩, ⟨"README", true, "counters"⟩]

def metricIdsGenerator : CodeGeneratorJava :=
  ⟨"com.android.modules.expresslog", "MetricIds"⟩

def counterMetrics : Metrics :=
  ({} : Metrics).insert "a.value_b" { id := some "a.value_b", type := some .counter }

def counterMetricsIds : MetricInfoMap :=
  ({} : MetricInfoMap).insert "a.value_b" ⟨0x32bf62f7120b46fc#64, .counter⟩

theorem serves_counterEntries :
    ∃ javaClass, run knownConfigs knownFingerprint metricIdsGenerator counterEntries =
        .returned 0 (some javaClass) ∧
      ServesCatalog (catalogMetrics knownConfigs counterEntries) knownFingerprint javaClass :=
  serves_catalog knownConfigs knownFingerprint metricIdsGenerator counterEntries counterMetrics
    counterMetricsIds (by rfl) (by rfl) (by decide)

/-! ## Completion -/

section Validated

variable {parseFromString : String → Option (List ExpressMetric)}
  {fingerprint64 : String → BitVec 64} {entries : List DirectoryEntry}

/-- Validation reads the catalog and hashes its ids. -/
theorem catalogValidationTest_iff :
    catalogValidationTest parseFromString fingerprint64 entries = true ↔
      ∃ metrics metricsIds, readCatalog parseFromString entries {} = .ok metrics ∧
        generateMetricsIds fingerprint64 metrics {} = .ok metricsIds := by
  rw [catalogValidationTest]
  cases read : readCatalog parseFromString entries {} with
  | error reason => simp
  | ok metrics => simp [isOk_iff_exists]

end Validated

/-- For a catalog that passes validation the generator completes exactly when every metric
has a type. -/
theorem completes_iff (parseFromString : String → Option (List ExpressMetric))
    (fingerprint64 : String → BitVec 64) (generator : CodeGeneratorJava)
    (entries : List DirectoryEntry)
    (validated : catalogValidationTest parseFromString fingerprint64 entries = true) :
    Completes (catalogMetrics parseFromString entries)
        (run parseFromString fingerprint64 generator entries) ↔
      ∀ metric ∈ catalogMetrics parseFromString entries, metric.getType ≠ .unknown := by
  rcases catalogValidationTest_iff.mp validated with ⟨metrics, metricsIds, read, generated⟩
  rw [← typed_iff read generated]
  constructor
  · rintro ⟨javaClass, ends, -⟩
    cases isGenerated : generator.generateCodeImpl metricsIds with
    | error truncated =>
        rw [run_of_truncated read generated isGenerated] at ends
        contradiction
    | ok other => exact (generateCodeImpl_eq_ok_iff.mp ⟨other, isGenerated, rfl⟩).1
  · intro typed
    rcases generateCodeImpl_eq_ok_iff.mpr ⟨typed, rfl⟩ with ⟨javaClass, isGenerated, lines⟩
    refine ⟨javaClass, run_of_generated read generated isGenerated, ?_⟩
    intro metric member
    rcases (named_and_distinct read).1 metric member with ⟨metricId, isId, -⟩
    have found := (getElem?_metricsIds_iff read generated).mpr ⟨metric, member, isId, rfl⟩
    rw [lines]
    refine ⟨_, List.mem_map_of_mem (ExtTreeMap.mem_toList_iff_getElem?_eq_some.mpr found), ?_⟩
    rw [isId, putOf]

theorem completes_counterEntries :
    Completes (catalogMetrics knownConfigs counterEntries)
        (run knownConfigs knownFingerprint metricIdsGenerator counterEntries) ↔
      ∀ metric ∈ catalogMetrics knownConfigs counterEntries, metric.getType ≠ .unknown :=
  completes_iff knownConfigs knownFingerprint metricIdsGenerator counterEntries (by decide)

def untypedEntries : List DirectoryEntry :=
  [⟨"untyped.cfg", true, untypedConfig⟩]

/-- A metric without a type passes validation, and the class ends before its line. -/
theorem not_completes_untypedEntries :
    catalogValidationTest knownConfigs knownFingerprint untypedEntries = true ∧
    run knownConfigs knownFingerprint metricIdsGenerator untypedEntries =
      .exited (-1) ⟨"a.value_b", []⟩ ∧
    ¬Completes (catalogMetrics knownConfigs untypedEntries)
      (run knownConfigs knownFingerprint metricIdsGenerator untypedEntries) := by
  have exits : run knownConfigs knownFingerprint metricIdsGenerator untypedEntries =
      .exited (-1) ⟨"a.value_b", []⟩ := by
    decide
  refine ⟨by decide, exits, ?_⟩
  rintro ⟨javaClass, ends, -⟩
  rw [exits] at ends
  contradiction

end StatsLogApiGen.Express
