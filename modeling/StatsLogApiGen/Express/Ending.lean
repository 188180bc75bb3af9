import StatsLogApiGen.Container.OrderedMap
import StatsLogApiGen.Express.Exact
import StatsLogApiGen.Express.Serving

/-!
# How the generator ends

`main.cpp` and `codegen.cpp`.  How the generator of metric ids ends, and what it has written by
then, is said by the metrics of the catalog, whatever the order in which they are read.
-/

namespace StatsLogApiGen.Express

open Std
open StatsLogApiGen.Container

/-! ## The program -/

/-- `FLAGS_configDir`, `FLAGS_java`, `FLAGS_javaPackage` and `FLAGS_javaClass`. -/
structure Flags where
  configDir : String := "frameworks/proto_logging/stats/express/catalog"
  java : String := ""
  javaPackage : String := ""
  javaClass : String := ""
  deriving DecidableEq, Repr

/-- The exceptions of the filesystem: a directory cannot be opened or read on, or
`is_regular_file` cannot find the status of an entry. -/
inductive FilesystemError where
  | directory
  | status (fileName : String)
  deriving DecidableEq, Repr

/-- What the iteration over a directory yields: its entries up to the end, or up to an
exception. -/
structure Iteration where
  entries : List DirectoryEntry
  exception : Option FilesystemError := none
  deriving DecidableEq, Repr

/-- How the program ends, with the files that it has written.  No exception is caught. -/
inductive ProgramEnding where
  | returned (status : Int) (files : List (String × JavaClass))
  | exited (status : Int) (filePath : String) (written : Truncated)
  | terminated (exception : FilesystemError)
  deriving DecidableEq, Repr

/-- `createCodeGenerators`: each generator with its file. -/
def createCodeGenerators (flags : Flags) : List (String × CodeGeneratorJava) :=
  if flags.java = "" then
    []
  else
    [(flags.java, ⟨flags.javaPackage, flags.javaClass⟩)]

section Program

variable (opens : String → Bool)

/-- `generateLoggingCode`, with `generateCode` for each generator.  It returns its result and
the files, or the generator exits. -/
def generateLoggingCode (metricsIds : MetricInfoMap) :
    List (String × CodeGeneratorJava) →
      Except (String × Truncated) (Bool × List (String × JavaClass))
  | [] => .ok (true, [])
  | (filePath, codeGen) :: rest =>
      if filePath = "" then
        generateLoggingCode metricsIds rest
      else if !opens filePath then
        .ok (false, [])
      else
        match codeGen.generateCodeImpl metricsIds with
        | .error truncated => .error (filePath, truncated)
        | .ok javaClass =>
            (generateLoggingCode metricsIds rest).map fun result =>
              (result.1, (filePath, javaClass) :: result.2)

variable (parseFromString : String → Option (List ExpressMetric))
  (fingerprint64 : String → BitVec 64)

/-- `run` with the flags, for what the iteration over a directory yields.  An exception comes
after the entries before it are read. -/
def runFlags (iterate : String → Iteration) (flags : Flags) : ProgramEnding :=
  match readCatalog parseFromString (iterate flags.configDir).entries {} with
  | .error _ => .returned (-1) []
  | .ok metrics =>
      match (iterate flags.configDir).exception with
      | some exception => .terminated exception
      | none =>
          match generateMetricsIds fingerprint64 metrics {} with
          | .error _ => .returned (-1) []
          | .ok metricsIds =>
              match generateLoggingCode opens metricsIds (createCodeGenerators flags) with
              | .error (filePath, truncated) => .exited (-1) filePath truncated
              | .ok (true, files) => .returned 0 files
              | .ok (false, files) => .returned (-1) files

variable {opens parseFromString fingerprint64} in
/-- With a file that can be opened and a directory that can be read, the program ends as `run`
does. -/
theorem runFlags_of_opened {iterate : String → Iteration} {flags : Flags}
    (whole : (iterate flags.configDir).exception = none) (isFile : flags.java ≠ "")
    (opened : opens flags.java = true) :
    runFlags opens parseFromString fingerprint64 iterate flags =
      match run parseFromString fingerprint64 ⟨flags.javaPackage, flags.javaClass⟩
          (iterate flags.configDir).entries with
      | .returned status written => .returned status (written.toList.map fun javaClass =>
          (flags.java, javaClass))
      | .exited status written => .exited status flags.java written := by
  cases read : readCatalog parseFromString (iterate flags.configDir).entries {} with
  | error reason => simp [runFlags, run, read]
  | ok metrics =>
      cases generated : generateMetricsIds fingerprint64 metrics {} with
      | error reason => simp [runFlags, run, read, whole, generated]
      | ok metricsIds =>
          cases written : (CodeGeneratorJava.mk flags.javaPackage
              flags.javaClass).generateCodeImpl metricsIds <;>
            simp [runFlags, run, read, whole, generated, createCodeGenerators,
              generateLoggingCode, isFile, opened, written, Except.map]

end Program

/-! ## Endings -/

section Endings

variable (opens : String → Bool) (parseFromString : String → Option (List ExpressMetric))
  (fingerprint64 : String → BitVec 64) (flags : Flags) (iteration : Iteration)

/-- The ids of the metrics have hashes of their own. -/
def HashesApart (entries : List DirectoryEntry) : Prop :=
  ∀ first ∈ catalogMetrics parseFromString entries,
    ∀ second ∈ catalogMetrics parseFromString entries,
      fingerprint64 first.getId = fingerprint64 second.getId → first.getId = second.getId

/-- The line of a metric. -/
structure IsLine (metric : ExpressMetric) (put : Put) : Prop where
  metricId : put.metricId = metric.getId
  hash : put.hash = toString (fingerprint64 metric.getId).toInt
  typeName : some put.typeName = getMetricTypeString metric.getType.number

/-- The constants of the class: the names of the types with their numbers. -/
def typeConstants : List (String × Int) :=
  metricTypeStringMap.zipIdx.map fun name => (name.1, (name.2 : Int))

/-- The lines of the metrics with some ids, in ascending order. -/
structure Lists (entries : List DirectoryEntry) (included : String → Prop) (puts : List Put) :
    Prop where
  ascending : Ascending Put.metricId puts
  lines : ∀ put, put ∈ puts ↔ ∃ metric ∈ catalogMetrics parseFromString entries,
    included metric.getId ∧ IsLine fingerprint64 metric put

/-- The ending that the flags and the metrics of a catalog call for whose ids are generated. -/
inductive Generates (entries : List DirectoryEntry) : ProgramEnding → Prop where
  | nothing (noFile : flags.java = "") : Generates entries (.returned 0 [])
  | unopened (isFile : flags.java ≠ "") (unopened : opens flags.java = false) :
      Generates entries (.returned (-1) [])
  | truncated {metric : ExpressMetric} {written : List Put} (isFile : flags.java ≠ "")
      (opened : opens flags.java = true)
      (member : metric ∈ catalogMetrics parseFromString entries)
      (untyped : metric.getType = .unknown)
      (first : ∀ other ∈ catalogMetrics parseFromString entries,
        compare other.getId metric.getId = .lt → other.getType ≠ .unknown)
      (lists : Lists parseFromString fingerprint64 entries
        (fun metricId => compare metricId metric.getId = .lt) written) :
      Generates entries (.exited (-1) flags.java ⟨metric.getId, written⟩)
  | written {puts : List Put} (isFile : flags.java ≠ "") (opened : opens flags.java = true)
      (typed : ∀ metric ∈ catalogMetrics parseFromString entries, metric.getType ≠ .unknown)
      (lists : Lists parseFromString fingerprint64 entries (fun _ => True) puts) :
      Generates entries (.returned 0
        [(flags.java, ⟨flags.javaPackage, flags.javaClass, typeConstants, puts⟩)])

/-- The ending that the flags and what is found in the directory call for. -/
inductive EndsWith : ProgramEnding → Prop where
  | unreadable (unreadable : ¬Readable parseFromString iteration.entries) :
      EndsWith (.returned (-1) [])
  | thrown {exception : FilesystemError} (readable : Readable parseFromString iteration.entries)
      (isThrown : iteration.exception = some exception) : EndsWith (.terminated exception)
  | colliding (whole : iteration.exception = none)
      (colliding : ¬HashesApart parseFromString fingerprint64 iteration.entries) :
      EndsWith (.returned (-1) [])
  | generated {ending : ProgramEnding} (readable : Readable parseFromString iteration.entries)
      (whole : iteration.exception = none)
      (hashed : HashesApart parseFromString fingerprint64 iteration.entries)
      (generates : Generates opens parseFromString fingerprint64 flags iteration.entries ending) :
      EndsWith ending

end Endings

/-! ## Lines -/

section Lines

variable {parseFromString : String → Option (List ExpressMetric)}
  {fingerprint64 : String → BitVec 64} {entries : List DirectoryEntry}

theorem IsLine.unique {metric : ExpressMetric} {put other : Put}
    (isLine : IsLine fingerprint64 metric put) (isOther : IsLine fingerprint64 metric other) :
    put = other := by
  have typeName : put.typeName = other.typeName :=
    Option.some.inj (isLine.typeName.trans isOther.typeName.symm)
  cases put
  cases other
  rw [Put.mk.injEq]
  exact ⟨isLine.metricId.trans isOther.metricId.symm, isLine.hash.trans isOther.hash.symm,
    typeName⟩

/-- The metrics and the ids say which lines there are, and in which order. -/
theorem Lists.unique {included : String → Prop} {puts others : List Put}
    (lists : Lists parseFromString fingerprint64 entries included puts)
    (listsOthers : Lists parseFromString fingerprint64 entries included others) :
    puts = others :=
  lists.ascending.eq_of_mem_iff listsOthers.ascending fun put =>
    (lists.lines put).trans (listsOthers.lines put).symm

theorem isLine_putOf {metric : ExpressMetric} (typed : metric.getType ≠ .unknown) :
    IsLine fingerprint64 metric
      (putOf (metric.getId, ⟨fingerprint64 metric.getId, metric.getType⟩)) where
  metricId := rfl
  hash := rfl
  typeName := by
    rcases Option.isSome_iff_exists.mp ((getMetricTypeString_isSome _).mpr typed) with
      ⟨typeName, isName⟩
    rw [putOf, isName, Option.getD_some]

theorem IsLine.typed {metric : ExpressMetric} {put : Put}
    (isLine : IsLine fingerprint64 metric put) : metric.getType ≠ .unknown := by
  rw [← getMetricTypeString_isSome, ← isLine.typeName, Option.isSome_some]

end Lines

/-- The lines are written up to the first metric without a type. -/
theorem foldlM_writePut_eq_error_iff {metricInfos : List (String × MetricInfo)}
    {written : List Put} {truncated : Truncated} :
    metricInfos.foldlM writePut written = .error truncated ↔
      ∃ before metricInfo after, metricInfos = before ++ metricInfo :: after ∧
        (∀ other ∈ before, other.2.type ≠ .unknown) ∧ metricInfo.2.type = .unknown ∧
          truncated = ⟨metricInfo.1, written ++ before.map putOf⟩ := by
  induction metricInfos generalizing written with
  | nil => simp [pure, Except.pure]
  | cons metricInfo rest ih =>
      cases isName : getMetricTypeString metricInfo.2.type.number with
      | none =>
          have untyped : metricInfo.2.type = .unknown := by
            rw [← not_ne_iff, ← getMetricTypeString_isSome, isName]
            decide
          have failed : writePut written metricInfo = .error ⟨metricInfo.1, written⟩ := by
            rw [writePut, isName]
          rw [foldlM_cons_of_error failed, Except.error.injEq]
          constructor
          · rintro rfl
            exact ⟨[], metricInfo, rest, rfl, by simp, untyped, by simp⟩
          · rintro ⟨before, first, after, split, typed, -, rfl⟩
            rcases List.cons_eq_append_iff.mp split with ⟨rfl, here⟩ | ⟨later, rfl, -⟩
            · cases here
              simp
            · exact absurd untyped (typed metricInfo List.mem_cons_self)
      | some typeName =>
          have typed : metricInfo.2.type ≠ .unknown := by
            rw [← getMetricTypeString_isSome, isName, Option.isSome_some]
          have stepped : writePut written metricInfo = .ok (written ++ [putOf metricInfo]) := by
            rw [writePut, putOf, isName, Option.getD_some]
          rw [foldlM_cons_of_ok stepped, ih]
          constructor
          · rintro ⟨before, first, after, rfl, typedBefore, untyped, rfl⟩
            refine ⟨metricInfo :: before, first, after, rfl, ?_, untyped, by simp⟩
            exact List.forall_mem_cons.mpr ⟨typed, typedBefore⟩
          · rintro ⟨before, first, after, split, typedBefore, untyped, rfl⟩
            rcases List.cons_eq_append_iff.mp split with ⟨rfl, here⟩ | ⟨later, rfl, rfl⟩
            · cases here
              exact absurd untyped typed
            · exact ⟨later, first, after, rfl, (List.forall_mem_cons.mp typedBefore).2, untyped,
                by simp⟩

/-! ## The generated class -/

section Pipeline

variable {parseFromString : String → Option (List ExpressMetric)}
  {fingerprint64 : String → BitVec 64} {entries : List DirectoryEntry} {metrics : Metrics}
  {metricsIds : MetricInfoMap}

/-- The entry of a metric in the map of hashes. -/
def entryOf (fingerprint64 : String → BitVec 64) (metric : ExpressMetric) :
    String × MetricInfo :=
  (metric.getId, ⟨fingerprint64 metric.getId, metric.getType⟩)

/-- Some entries of the map are written as the lines of their metrics. -/
theorem lists_map_putOf {included : String → Prop} {part : List (String × MetricInfo)}
    (ascending : Ascending Prod.fst part)
    (entriesOf : ∀ entry, entry ∈ part ↔ ∃ metric ∈ catalogMetrics parseFromString entries,
      included metric.getId ∧ entry = entryOf fingerprint64 metric)
    (typed : ∀ entry ∈ part, entry.2.type ≠ .unknown) :
    Lists parseFromString fingerprint64 entries included (part.map putOf) where
  ascending := List.pairwise_map.mpr ascending
  lines put := by
    rw [List.mem_map]
    constructor
    · rintro ⟨entry, entryMem, rfl⟩
      rcases (entriesOf entry).mp entryMem with ⟨metric, member, isIncluded, rfl⟩
      exact ⟨metric, member, isIncluded, isLine_putOf (typed _ entryMem)⟩
    · rintro ⟨metric, member, isIncluded, isLine⟩
      refine ⟨entryOf fingerprint64 metric,
        (entriesOf _).mpr ⟨metric, member, isIncluded, rfl⟩, ?_⟩
      exact (isLine_putOf isLine.typed).unique isLine

variable (read : readCatalog parseFromString entries {} = .ok metrics)
  (generated : generateMetricsIds fingerprint64 metrics {} = .ok metricsIds)

/-- What stands before an item of an ascending list are the items with lesser keys. -/
theorem mem_before_iff {before after : List (String × MetricInfo)} {entry : String × MetricInfo}
    (ascending : Ascending Prod.fst (before ++ entry :: after)) (other : String × MetricInfo) :
    other ∈ before ↔
      other ∈ before ++ entry :: after ∧ compare other.1 entry.1 = .lt := by
  rcases List.pairwise_append.mp ascending with ⟨-, fromEntry, across⟩
  constructor
  · intro member
    exact ⟨List.mem_append_left _ member, across other member entry List.mem_cons_self⟩
  · rintro ⟨member, precedes⟩
    rcases List.mem_append.mp member with member | member
    · exact member
    · rcases List.mem_cons.mp member with rfl | member
      · exact absurd precedes (Std.Irrefl.irrefl (r := Precedes Prod.fst) other)
      · have succeeds := (List.pairwise_cons.mp fromEntry).1 other member
        exact absurd precedes (by rw [OrientedOrd.eq_swap, succeeds]; decide)

include read

theorem getId_of_mem {metric : ExpressMetric}
    (member : metric ∈ catalogMetrics parseFromString entries) :
    metric.id = some metric.getId := by
  rcases (named_and_distinct read).1 metric member with ⟨metricId, isId, -⟩
  rw [ExpressMetric.getId, isId, Option.getD_some]

theorem mem_metrics_iff {metricId : String} :
    metricId ∈ metrics ↔
      ∃ metric ∈ catalogMetrics parseFromString entries, metric.getId = metricId := by
  rw [mem_iff_exists_getElem?]
  simp only [getElem?_metrics read]
  constructor
  · rintro ⟨metric, member, isId⟩
    exact ⟨metric, member, Option.some.inj ((getId_of_mem read member).symm.trans isId)⟩
  · rintro ⟨metric, member, rfl⟩
    exact ⟨metric, member, getId_of_mem read member⟩

include generated

theorem mem_toList_metricsIds_iff {entry : String × MetricInfo} :
    entry ∈ metricsIds.toList ↔
      ∃ metric ∈ catalogMetrics parseFromString entries, entry = entryOf fingerprint64 metric := by
  rw [ExtTreeMap.mem_toList_iff_getElem?_eq_some, getElem?_metricsIds_iff read generated]
  constructor
  · rintro ⟨metric, member, isId, isInfo⟩
    have sameId := Option.some.inj ((getId_of_mem read member).symm.trans isId)
    refine ⟨metric, member, ?_⟩
    rw [entryOf, sameId, ← isInfo]
  · rintro ⟨metric, member, rfl⟩
    exact ⟨metric, member, getId_of_mem read member, rfl⟩

/-- A catalog in which every metric has a type is written to its end. -/
theorem generateCodeImpl_typed (generator : CodeGeneratorJava)
    (typed : ∀ metric ∈ catalogMetrics parseFromString entries, metric.getType ≠ .unknown) :
    ∃ puts, generator.generateCodeImpl metricsIds =
        .ok ⟨generator.packageName, generator.className, typeConstants, puts⟩ ∧
      Lists parseFromString fingerprint64 entries (fun _ => True) puts := by
  have entryTyped : ∀ entry ∈ metricsIds.toList, entry.2.type ≠ .unknown := by
    intro entry member
    rcases (mem_toList_metricsIds_iff read generated).mp member with ⟨metric, metricMem, rfl⟩
    exact typed metric metricMem
  refine ⟨metricsIds.toList.map putOf, ?_, lists_map_putOf ExtTreeMap.ordered_keys_toList ?_
    entryTyped⟩
  · have written := foldlM_writePut_eq_ok_iff.mpr ⟨entryTyped, List.nil_append _⟩
    rw [CodeGeneratorJava.generateCodeImpl, writeJavaHashMapInitFunction, written]
    rfl
  · intro entry
    rw [mem_toList_metricsIds_iff read generated]
    simp only [true_and]

/-- Otherwise the lines before the first metric without a type are written. -/
theorem generateCodeImpl_untyped (generator : CodeGeneratorJava)
    (untyped : ¬∀ metric ∈ catalogMetrics parseFromString entries, metric.getType ≠ .unknown) :
    ∃ metric ∈ catalogMetrics parseFromString entries, ∃ written,
      generator.generateCodeImpl metricsIds = .error ⟨metric.getId, written⟩ ∧
      metric.getType = .unknown ∧
      (∀ other ∈ catalogMetrics parseFromString entries,
        compare other.getId metric.getId = .lt → other.getType ≠ .unknown) ∧
      Lists parseFromString fingerprint64 entries
        (fun metricId => compare metricId metric.getId = .lt) written := by
  cases written : metricsIds.toList.foldlM writePut [] with
  | ok puts =>
      have entryTyped := (foldlM_writePut_eq_ok_iff.mp written).1
      refine absurd (fun metric member => ?_) untyped
      exact entryTyped (entryOf fingerprint64 metric)
        ((mem_toList_metricsIds_iff read generated).mpr ⟨metric, member, rfl⟩)
  | error truncated =>
      rcases foldlM_writePut_eq_error_iff.mp written with
        ⟨before, entry, after, split, typedBefore, entryUntyped, rfl⟩
      have ascending : Ascending Prod.fst (before ++ entry :: after) :=
        split ▸ ExtTreeMap.ordered_keys_toList
      have members (other : String × MetricInfo) := split ▸
        @mem_toList_metricsIds_iff _ _ _ _ _ read generated other
      rcases (members entry).mp (by simp) with ⟨metric, member, rfl⟩
      have entriesBefore (other : String × MetricInfo) : other ∈ before ↔
          ∃ first ∈ catalogMetrics parseFromString entries,
            compare first.getId metric.getId = .lt ∧ other = entryOf fingerprint64 first := by
        rw [mem_before_iff ascending, members]
        constructor
        · rintro ⟨⟨first, firstMem, rfl⟩, precedes⟩
          exact ⟨first, firstMem, precedes, rfl⟩
        · rintro ⟨first, firstMem, precedes, rfl⟩
          exact ⟨⟨first, firstMem, rfl⟩, precedes⟩
      refine ⟨metric, member, before.map putOf, ?_, entryUntyped, ?_, ?_⟩
      · rw [CodeGeneratorJava.generateCodeImpl, writeJavaHashMapInitFunction, written]
        rfl
      · intro other otherMem precedes
        exact typedBefore (entryOf fingerprint64 other)
          ((entriesBefore _).mpr ⟨other, otherMem, precedes, rfl⟩)
      · exact lists_map_putOf (List.pairwise_append.mp ascending).1 entriesBefore typedBefore

end Pipeline

/-! ## The ending of a run -/

section Endings

variable {opens : String → Bool} {parseFromString : String → Option (List ExpressMetric)}
  {fingerprint64 : String → BitVec 64} {iterate : String → Iteration} {flags : Flags}
  {iteration : Iteration}

/-- Hashes stay apart exactly when a catalog that is read is hashed. -/
theorem hashesApart_iff {entries : List DirectoryEntry} {metrics : Metrics}
    (read : readCatalog parseFromString entries {} = .ok metrics) :
    HashesApart parseFromString fingerprint64 entries ↔
      ∃ metricsIds, generateMetricsIds fingerprint64 metrics {} = .ok metricsIds := by
  rw [← isOk_iff_exists, generateMetricsIds_isOk_iff]
  constructor
  · intro hashed first firstMem second secondMem sameHash
    rcases (mem_metrics_iff read).mp firstMem with ⟨firstMetric, firstListed, rfl⟩
    rcases (mem_metrics_iff read).mp secondMem with ⟨secondMetric, secondListed, rfl⟩
    exact hashed firstMetric firstListed secondMetric secondListed sameHash
  · intro injective first firstMem second secondMem sameHash
    exact injective first.getId ((mem_metrics_iff read).mpr ⟨first, firstMem, rfl⟩) second.getId
      ((mem_metrics_iff read).mpr ⟨second, secondMem, rfl⟩) sameHash

/-- With a catalog whose ids are generated, the program ends as its flags and its metrics call
for. -/
theorem generates_runFlags {metrics : Metrics} {metricsIds : MetricInfoMap}
    (read : readCatalog parseFromString (iterate flags.configDir).entries {} = .ok metrics)
    (whole : (iterate flags.configDir).exception = none)
    (generated : generateMetricsIds fingerprint64 metrics {} = .ok metricsIds) :
    Generates opens parseFromString fingerprint64 flags (iterate flags.configDir).entries
      (runFlags opens parseFromString fingerprint64 iterate flags) := by
  by_cases isFile : flags.java = ""
  · have ends : runFlags opens parseFromString fingerprint64 iterate flags = .returned 0 [] := by
      simp [runFlags, read, whole, generated, createCodeGenerators, isFile, generateLoggingCode]
    rw [ends]
    exact .nothing isFile
  cases opened : opens flags.java with
  | false =>
      have ends : runFlags opens parseFromString fingerprint64 iterate flags =
          .returned (-1) [] := by
        simp [runFlags, read, whole, generated, createCodeGenerators, isFile,
          generateLoggingCode, opened]
      rw [ends]
      exact .unopened isFile opened
  | true =>
      rw [runFlags_of_opened whole isFile opened]
      by_cases typed : ∀ metric ∈ catalogMetrics parseFromString
          (iterate flags.configDir).entries, metric.getType ≠ .unknown
      · rcases generateCodeImpl_typed read generated
          ⟨flags.javaPackage, flags.javaClass⟩ typed with ⟨puts, written, lists⟩
        rw [run_of_generated read generated written]
        exact .written isFile opened typed lists
      · rcases generateCodeImpl_untyped read generated
          ⟨flags.javaPackage, flags.javaClass⟩ typed with
          ⟨metric, member, written, stopped, untyped, first, lists⟩
        rw [run_of_truncated read generated stopped]
        exact .truncated isFile opened member untyped first lists

/-- The program ends as its flags and its catalog call for. -/
theorem endsWith_runFlags :
    EndsWith opens parseFromString fingerprint64 flags (iterate flags.configDir)
      (runFlags opens parseFromString fingerprint64 iterate flags) := by
  by_cases readable : Readable parseFromString (iterate flags.configDir).entries
  · rcases isOk_iff_exists.mp (readCatalog_isOk_iff.mpr readable) with ⟨metrics, read⟩
    cases isThrown : (iterate flags.configDir).exception with
    | some exception =>
        have ends : runFlags opens parseFromString fingerprint64 iterate flags =
            .terminated exception := by
          simp [runFlags, read, isThrown]
        rw [ends]
        exact .thrown readable isThrown
    | none =>
        by_cases hashed : HashesApart parseFromString fingerprint64
            (iterate flags.configDir).entries
        · rcases (hashesApart_iff read).mp hashed with ⟨metricsIds, generated⟩
          exact .generated readable isThrown hashed (generates_runFlags read isThrown generated)
        · have ends : runFlags opens parseFromString fingerprint64 iterate flags =
              .returned (-1) [] := by
            cases generated : generateMetricsIds fingerprint64 metrics {} with
            | error reason => simp [runFlags, read, isThrown, generated]
            | ok metricsIds =>
                exact absurd ((hashesApart_iff read).mpr ⟨metricsIds, generated⟩) hashed
          rw [ends]
          exact .colliding isThrown hashed
  · have ends : runFlags opens parseFromString fingerprint64 iterate flags =
        .returned (-1) [] := by
      cases read : readCatalog parseFromString (iterate flags.configDir).entries {} with
      | error reason => rw [runFlags, read]
      | ok metrics => exact absurd (readCatalog_isOk_iff.mp (by rw [read]; rfl)) readable
    rw [ends]
    exact .unreadable readable

/-- The flags and the metrics call for one ending. -/
theorem Generates.unique {entries : List DirectoryEntry} {ending other : ProgramEnding}
    (ends : Generates opens parseFromString fingerprint64 flags entries ending)
    (endsOther : Generates opens parseFromString fingerprint64 flags entries other) :
    ending = other := by
  cases ends with
  | nothing noFile =>
      cases endsOther with
      | nothing => rfl
      | unopened isFile | truncated isFile | written isFile => exact absurd noFile isFile
  | unopened isFile unopened =>
      cases endsOther with
      | nothing noFile => exact absurd noFile isFile
      | unopened => rfl
      | truncated _ opened | written _ opened =>
          rw [unopened] at opened
          contradiction
  | @truncated metric written isFile opened member untyped first lists =>
      cases endsOther with
      | nothing noFile => exact absurd noFile isFile
      | unopened _ unopened =>
          rw [unopened] at opened
          contradiction
      | @truncated otherMetric _ _ _ otherMem otherUntyped otherFirst otherLists =>
          -- neither of the two metrics comes before the other
          have sameId : metric.getId = otherMetric.getId := by
            cases order : compare metric.getId otherMetric.getId with
            | lt => exact absurd untyped (otherFirst metric member order)
            | eq => exact LawfulEqOrd.eq_of_compare order
            | gt =>
                have precedes := OrientedCmp.lt_of_gt order
                exact absurd otherUntyped (first otherMetric otherMem precedes)
          rw [sameId] at lists ⊢
          rw [lists.unique otherLists]
      | written _ _ typed => exact absurd untyped (typed metric member)
  | written isFile opened typed lists =>
      cases endsOther with
      | nothing noFile => exact absurd noFile isFile
      | unopened _ unopened =>
          rw [unopened] at opened
          contradiction
      | @truncated otherMetric _ _ _ otherMem otherUntyped =>
          exact absurd otherUntyped (typed otherMetric otherMem)
      | written _ _ _ otherLists => rw [lists.unique otherLists]

/-- The flags and the directory call for one ending. -/
theorem EndsWith.unique {ending other : ProgramEnding}
    (ends : EndsWith opens parseFromString fingerprint64 flags iteration ending)
    (endsOther : EndsWith opens parseFromString fingerprint64 flags iteration other) :
    ending = other := by
  cases ends with
  | unreadable unreadable =>
      cases endsOther with
      | unreadable | colliding => rfl
      | thrown readable | generated readable => exact absurd readable unreadable
  | thrown readable isThrown =>
      cases endsOther with
      | unreadable unreadable => exact absurd readable unreadable
      | thrown _ isOther => rw [Option.some.inj (isThrown.symm.trans isOther)]
      | colliding whole => cases whole.symm.trans isThrown
      | generated _ whole => cases whole.symm.trans isThrown
  | colliding whole colliding =>
      cases endsOther with
      | unreadable | colliding => rfl
      | thrown _ isThrown => cases whole.symm.trans isThrown
      | generated _ _ hashed => exact absurd hashed colliding
  | generated readable whole hashed generates =>
      cases endsOther with
      | unreadable unreadable => exact absurd readable unreadable
      | thrown _ isThrown => cases whole.symm.trans isThrown
      | colliding _ colliding => exact absurd hashed colliding
      | generated _ _ _ otherGenerates => exact generates.unique otherGenerates

section Order

variable {entries others : List DirectoryEntry} (sameFiles : others.Perm entries)

include sameFiles

theorem mem_catalogMetrics_perm (metric : ExpressMetric) :
    metric ∈ catalogMetrics parseFromString others ↔
      metric ∈ catalogMetrics parseFromString entries :=
  (catalogMetrics_perm sameFiles).mem_iff

theorem hashesApart_perm :
    HashesApart parseFromString fingerprint64 others ↔
      HashesApart parseFromString fingerprint64 entries := by
  simp only [HashesApart, mem_catalogMetrics_perm sameFiles]

theorem Lists.perm {included : String → Prop} {puts : List Put}
    (lists : Lists parseFromString fingerprint64 entries included puts) :
    Lists parseFromString fingerprint64 others included puts where
  ascending := lists.ascending
  lines put := by
    simp only [lists.lines put, mem_catalogMetrics_perm sameFiles]

theorem Generates.perm {ending : ProgramEnding}
    (ends : Generates opens parseFromString fingerprint64 flags entries ending) :
    Generates opens parseFromString fingerprint64 flags others ending := by
  have same (metric : ExpressMetric) :=
    @mem_catalogMetrics_perm parseFromString _ _ sameFiles metric
  cases ends with
  | nothing noFile => exact .nothing noFile
  | unopened isFile unopened => exact .unopened isFile unopened
  | truncated isFile opened member untyped first lists =>
      exact .truncated isFile opened ((same _).mpr member) untyped
        (fun other otherMem => first other ((same other).mp otherMem)) (lists.perm sameFiles)
  | written isFile opened typed lists =>
      exact .written isFile opened
        (fun metric member => typed metric ((same metric).mp member)) (lists.perm sameFiles)

end Order

/-- The order in which the entries are found does not matter. -/
theorem EndsWith.perm {other : Iteration} (sameFiles : other.entries.Perm iteration.entries)
    (sameException : other.exception = iteration.exception) {ending : ProgramEnding}
    (ends : EndsWith opens parseFromString fingerprint64 flags iteration ending) :
    EndsWith opens parseFromString fingerprint64 flags other ending := by
  cases ends with
  | unreadable unreadable =>
      exact .unreadable fun readable => unreadable (readable.perm sameFiles.symm)
  | thrown readable isThrown =>
      exact .thrown (readable.perm sameFiles) (sameException.trans isThrown)
  | colliding whole colliding =>
      exact .colliding (sameException.trans whole) fun hashed =>
        colliding ((hashesApart_perm sameFiles).mp hashed)
  | generated readable whole hashed generates =>
      exact .generated (readable.perm sameFiles) (sameException.trans whole)
        ((hashesApart_perm sameFiles).mpr hashed) (generates.perm sameFiles)

end Endings

/-- How the generator of metric ids ends, and what it has written: refused, without a file,
terminated by an exception of the filesystem, truncated before the line of the first metric that
has no type, or with a line for every metric.  The same entries, in whatever order they are found,
make the same ending. -/
theorem runFlags_ending_iff (opens : String → Bool)
    (parseFromString : String → Option (List ExpressMetric)) (fingerprint64 : String → BitVec 64)
    (iterate : String → Iteration) (flags : Flags) :
    (∀ ending, runFlags opens parseFromString fingerprint64 iterate flags = ending ↔
      EndsWith opens parseFromString fingerprint64 flags (iterate flags.configDir) ending) ∧
    ∀ other : String → Iteration,
      (other flags.configDir).entries.Perm (iterate flags.configDir).entries →
      (other flags.configDir).exception = (iterate flags.configDir).exception →
        runFlags opens parseFromString fingerprint64 other flags =
          runFlags opens parseFromString fingerprint64 iterate flags := by
  constructor
  · intro ending
    constructor
    · rintro rfl
      exact endsWith_runFlags
    · exact endsWith_runFlags.unique
  · intro other perm sameException
    exact endsWith_runFlags.unique (endsWith_runFlags.perm perm sameException)

/-- The directory of the configs is missing. -/
example : runFlags (fun _ => true) knownConfigs knownFingerprint (fun _ => ⟨[], some .directory⟩)
    { java := "MetricIds.java" } = .terminated .directory :=
  rfl

end StatsLogApiGen.Express
