import StatsLogApiGen.Express.Catalog
import Std.Data.String.ToInt
import Mathlib.Algebra.Group.Nat.Defs
import Mathlib.Algebra.Ring.Int.Defs

/-!
# The generated class of metric ids

`codegen_java.cpp`, and what the class that it writes does.  Java reads the literals of the
entries, and `getMetricIdHash` looks an id up in them.
-/

namespace StatsLogApiGen.Express

open Std
open StatsLogApiGen.Container

/-! ## The generator -/

/-- `metricTypeStringMap`. -/
def metricTypeStringMap : List String :=
  ["METRIC_TYPE_UNKNOWN", "METRIC_TYPE_COUNTER", "METRIC_TYPE_HISTOGRAM",
    "METRIC_TYPE_COUNTER_WITH_UID", "METRIC_TYPE_HISTOGRAM_WITH_UID"]

/-- `getMetricTypeString`.  No enum value has a number beyond the array. -/
def getMetricTypeString (metricType : Nat) : Option String :=
  if metricType = 0 then
    none
  else
    metricTypeStringMap[metricType]?

/-- A line `metricIds.put("metricId", new MetricInfo(hashl, typeName));`. -/
structure Put where
  metricId : String
  hash : String
  typeName : String
  deriving DecidableEq, Repr

/-- What has been written when the type of a metric is undefined and the generator exits. -/
structure Truncated where
  metricId : String
  written : List Put
  deriving DecidableEq, Repr

/-- The iteration of `writeJavaHashMapInitFunction` for one metric. -/
def writePut (written : List Put) (metricInfo : String × MetricInfo) :
    Except Truncated (List Put) :=
  match getMetricTypeString metricInfo.2.type.number with
  | some metricTypeString =>
      .ok (written ++
        [⟨metricInfo.1, toString metricInfo.2.hash.toInt, metricTypeString⟩])
  | none => .error ⟨metricInfo.1, written⟩

/-- `writeJavaHashMapInitFunction`. -/
def writeJavaHashMapInitFunction (metricsIds : MetricInfoMap) : Except Truncated (List Put) :=
  metricsIds.toList.foldlM writePut []

/-- The generated class: its constants, and the lines that fill its map. -/
structure JavaClass where
  packageName : String
  className : String
  constants : List (String × Int)
  metricIds : List Put
  deriving DecidableEq, Repr

/-- `CodeGeneratorJava`. -/
structure CodeGeneratorJava where
  packageName : String
  className : String
  deriving DecidableEq, Repr

/-- `generateCodeImpl`. -/
def CodeGeneratorJava.generateCodeImpl (generator : CodeGeneratorJava)
    (metricsIds : MetricInfoMap) : Except Truncated JavaClass :=
  (writeJavaHashMapInitFunction metricsIds).map fun metricIds =>
    { packageName := generator.packageName
      className := generator.className
      constants :=
        [("METRIC_TYPE_UNKNOWN", 0), ("METRIC_TYPE_COUNTER", 1), ("METRIC_TYPE_HISTOGRAM", 2),
          ("METRIC_TYPE_COUNTER_WITH_UID", 3), ("METRIC_TYPE_HISTOGRAM_WITH_UID", 4)]
      metricIds }

/-- How the program ends: it returns from `main`, or it exits while it writes. -/
inductive Ending where
  | returned (status : Int) (written : Option JavaClass)
  | exited (status : Int) (written : Truncated)
  deriving DecidableEq, Repr

/-- `run`, for a file that can be opened. -/
def run (parseFromString : String → Option (List ExpressMetric))
    (fingerprint64 : String → BitVec 64) (generator : CodeGeneratorJava)
    (entries : List DirectoryEntry) : Ending :=
  match readCatalog parseFromString entries {} with
  | .error _ => .returned (-1) none
  | .ok metrics =>
      match generateMetricsIds fingerprint64 metrics {} with
      | .error _ => .returned (-1) none
      | .ok metricsIds =>
          match generator.generateCodeImpl metricsIds with
          | .error truncated => .exited (-1) truncated
          | .ok javaClass => .returned 0 (some javaClass)

/-! ## The class -/

/-- A printable character that stands for itself in a string literal. -/
def standsForItself (character : Char) : Bool :=
  32 ≤ character.toNat && character.toNat < 127 && character ≠ '"' && character ≠ '\\'

/-- The value of a string literal without escapes. -/
def stringLiteral (text : String) : Option String :=
  if text.toList.all standsForItself then some text else none

/-- The value of the literal of a `long`. -/
def longLiteral (digits : String) : Option (BitVec 64) :=
  digits.toInt?.bind fun value =>
    if -2 ^ 63 ≤ value ∧ value < 2 ^ 63 then some (BitVec.ofInt 64 value) else none

/-- The class `MetricInfo` in the generated class. -/
structure JavaMetricInfo where
  mHash : BitVec 64
  mType : BitVec 32
  deriving DecidableEq, Repr

/-- What a line puts into the map. -/
def Put.eval (constants : List (String × Int)) (put : Put) : Option (String × JavaMetricInfo) :=
  (stringLiteral put.metricId).bind fun metricId =>
    (longLiteral put.hash).bind fun hash =>
      (constants.lookup put.typeName).map fun type => (metricId, ⟨hash, BitVec.ofInt 32 type⟩)

/-- The map after the static initializer. -/
def JavaClass.load (javaClass : JavaClass) : Option (ExtTreeMap String JavaMetricInfo) :=
  (javaClass.metricIds.mapM (Put.eval javaClass.constants)).map fun pairs =>
    ExtTreeMap.ofList pairs

/-- The exceptions of the generated method. -/
inductive JavaException where
  | illegalArgument (message : String)
  | inputMismatch (message : String)
  deriving DecidableEq, Repr

/-- The generated `getMetricIdHash`. -/
def getMetricIdHash (metricIds : ExtTreeMap String JavaMetricInfo) (metricId : String)
    (type : BitVec 32) : Except JavaException (BitVec 64) :=
  match metricIds[metricId]? with
  | none => .error (.illegalArgument ("Metric is undefined " ++ metricId))
  | some info =>
      if info.mType ≠ type then
        .error (.inputMismatch ("Metric type is not " ++ toString type.toInt))
      else
        .ok info.mHash

/-! ## Types -/

/-- The table, the constants and the enum agree. -/
theorem lookup_metricTypeString {type : MetricType} {typeName : String}
    (isName : getMetricTypeString type.number = some typeName) (generator : CodeGeneratorJava)
    {metricsIds : MetricInfoMap} {javaClass : JavaClass}
    (generated : generator.generateCodeImpl metricsIds = .ok javaClass) :
    javaClass.constants.lookup typeName = some (type.number : Int) := by
  rcases map_eq_ok_iff.mp generated with ⟨puts, -, rfl⟩
  cases type <;> cases isName <;> rfl

@[simp]
theorem getMetricTypeString_isSome (type : MetricType) :
    (getMetricTypeString type.number).isSome = true ↔ type ≠ .unknown := by
  cases type <;> decide

/-! ## Literals -/

/-- A hash is read back from its literal. -/
theorem longLiteral_toString (hash : BitVec 64) :
    longLiteral (toString hash.toInt) = some hash := by
  have digits : (toString hash.toInt).toInt? = some hash.toInt := Int.toInt?_repr _
  rw [longLiteral, digits, Option.bind_some, if_pos ⟨BitVec.le_toInt hash, BitVec.toInt_lt⟩,
    BitVec.ofInt_toInt]

/-! ## Lines -/

/-- The line for a metric. -/
def putOf (metricInfo : String × MetricInfo) : Put :=
  ⟨metricInfo.1, toString metricInfo.2.hash.toInt,
    (getMetricTypeString metricInfo.2.type.number).getD ""⟩

/-- The lines are written to their end when every metric has a type, one for each. -/
theorem foldlM_writePut_eq_ok_iff {metricInfos : List (String × MetricInfo)}
    {written puts : List Put} :
    metricInfos.foldlM writePut written = .ok puts ↔
      (∀ metricInfo ∈ metricInfos, metricInfo.2.type ≠ .unknown) ∧
        written ++ metricInfos.map putOf = puts := by
  induction metricInfos generalizing written with
  | nil => simp [pure, Except.pure]
  | cons metricInfo rest ih =>
      have isTyped := getMetricTypeString_isSome metricInfo.2.type
      rw [List.forall_mem_cons, List.map_cons]
      cases isName : getMetricTypeString metricInfo.2.type.number with
      | none =>
          have failed : writePut written metricInfo = .error ⟨metricInfo.1, written⟩ := by
            rw [writePut, isName]
          rw [isName] at isTyped
          rw [foldlM_cons_of_error failed]
          simp [← isTyped]
      | some typeName =>
          have line : putOf metricInfo =
              ⟨metricInfo.1, toString metricInfo.2.hash.toInt, typeName⟩ := by
            rw [putOf, isName, Option.getD_some]
          have stepped : writePut written metricInfo = .ok (written ++ [putOf metricInfo]) := by
            rw [writePut, isName, line]
          rw [isName] at isTyped
          rw [foldlM_cons_of_ok stepped, ih, List.append_assoc]
          simp [← isTyped]

/-- A class is generated when every metric has a type, with a line for each. -/
theorem generateCodeImpl_eq_ok_iff {generator : CodeGeneratorJava} {metricsIds : MetricInfoMap}
    {puts : List Put} :
    (∃ javaClass, generator.generateCodeImpl metricsIds = .ok javaClass ∧
        javaClass.metricIds = puts) ↔
      (∀ (metricId : String) (info : MetricInfo),
        metricsIds[metricId]? = some info → info.type ≠ .unknown) ∧
        metricsIds.toList.map putOf = puts := by
  have lines : (∃ javaClass, generator.generateCodeImpl metricsIds = .ok javaClass ∧
      javaClass.metricIds = puts) ↔ metricsIds.toList.foldlM writePut [] = .ok puts := by
    constructor
    · rintro ⟨javaClass, generated, rfl⟩
      rcases map_eq_ok_iff.mp generated with ⟨written, isWritten, rfl⟩
      exact isWritten
    · intro isWritten
      exact ⟨_, map_eq_ok_iff.mpr ⟨puts, isWritten, rfl⟩, rfl⟩
  rw [lines, foldlM_writePut_eq_ok_iff, List.nil_append]
  apply and_congr_left
  intro _
  constructor
  · intro typed metricId info found
    exact typed (metricId, info) (ExtTreeMap.mem_toList_iff_getElem?_eq_some.mpr found)
  · intro typed metricInfo member
    exact typed metricInfo.1 metricInfo.2 (ExtTreeMap.mem_toList_iff_getElem?_eq_some.mp member)

/-! ## Loading -/

/-- The entry of the generated map for a metric. -/
def javaMetricInfo (info : MetricInfo) : JavaMetricInfo :=
  ⟨info.hash, BitVec.ofNat 32 info.type.number⟩

section Loading

variable {generator : CodeGeneratorJava} {metricsIds : MetricInfoMap} {javaClass : JavaClass}
  (generated : generator.generateCodeImpl metricsIds = .ok javaClass)

include generated

theorem eval_putOf {metricInfo : String × MetricInfo} (typed : metricInfo.2.type ≠ .unknown)
    (literal : stringLiteral metricInfo.1 = some metricInfo.1) :
    (putOf metricInfo).eval javaClass.constants =
      some (metricInfo.1, javaMetricInfo metricInfo.2) := by
  rcases Option.isSome_iff_exists.mp ((getMetricTypeString_isSome _).mpr typed) with
    ⟨typeName, isName⟩
  have type := lookup_metricTypeString isName generator generated
  rw [Put.eval, putOf, literal, Option.bind_some, longLiteral_toString, Option.bind_some, isName,
    Option.getD_some, type]
  rfl

/-- The class binds the ids to their hashes and types if the ids are literals. -/
theorem load_getElem?
    (literals : ∀ metricId ∈ metricsIds, stringLiteral metricId = some metricId) :
    ∃ metricIds, javaClass.load = some metricIds ∧
      ∀ metricId : String, metricIds[metricId]? = metricsIds[metricId]?.map javaMetricInfo := by
  rcases generateCodeImpl_eq_ok_iff.mp ⟨javaClass, generated, rfl⟩ with ⟨typed, lines⟩
  have evaluated : javaClass.metricIds.mapM (Put.eval javaClass.constants) =
      some (metricsIds.toList.map fun entry => (entry.1, javaMetricInfo entry.2)) := by
    rw [← lines]
    apply mapM_map_eq_some
    intro entry member
    have found := ExtTreeMap.mem_toList_iff_getElem?_eq_some.mp member
    exact eval_putOf generated (typed entry.1 entry.2 found)
      (literals entry.1 (mem_of_mem_toList member))
  refine ⟨_, by rw [JavaClass.load, evaluated]; rfl, ?_⟩
  exact fun metricId => getElem?_ofList_map_toList metricsIds javaMetricInfo metricId

end Loading

end StatsLogApiGen.Express
