import StatsLogApiGen.Container.Admission
import StatsLogApiGen.Container.OrderedMap
import Mathlib.Computability.RegularExpressions

/-!
# The express catalog

`catalog.cpp`: config files are read into a map of metrics, and the ids of the metrics are
hashed.  The parser of text protos and the hash function are parameters.
-/

namespace StatsLogApiGen.Express

open Std
open StatsLogApiGen.Container

/-! ## Metrics -/

/-- `MetricType`. -/
inductive MetricType where
  | unknown
  | counter
  | histogram
  | counterWithUid
  | histogramWithUid
  deriving DecidableEq, Repr

/-- The number of an enum value. -/
def MetricType.number : MetricType → Nat
  | .unknown => 0
  | .counter => 1
  | .histogram => 2
  | .counterWithUid => 3
  | .histogramWithUid => 4

/-- `MetricUnit`. -/
inductive MetricUnit where
  | unknown
  | count
  | timeMillis
  | kilobyte
  deriving DecidableEq, Repr

/-- `UniformBinningOptions`.  A float is given by its bits. -/
structure UniformBinningOptions where
  count : Option (BitVec 32)
  min : Option (BitVec 32)
  max : Option (BitVec 32)
  deriving DecidableEq, Repr

/-- `ScaledBinningOptions`. -/
structure ScaledBinningOptions where
  count : Option (BitVec 32)
  firstBinWidth : Option (BitVec 32)
  scale : Option (BitVec 32)
  minValue : Option (BitVec 32)
  deriving DecidableEq, Repr

/-- `HistogramOptions`: one kind of bins, or none. -/
inductive HistogramOptions where
  | notSet
  | uniformBins (options : UniformBinningOptions)
  | scaledBins (options : ScaledBinningOptions)
  deriving DecidableEq, Repr

/-- `ExpressMetric`. -/
structure ExpressMetric where
  id : Option String
  type : Option MetricType
  displayName : Option String := none
  description : Option String := none
  ownerEmail : List String := []
  unit : Option MetricUnit := none
  histogramOptions : Option HistogramOptions := none
  deriving DecidableEq, Repr

/-- `type()`: the value of the field, or its default. -/
def ExpressMetric.getType (metric : ExpressMetric) : MetricType :=
  metric.type.getD .unknown

/-- `id()`. -/
def ExpressMetric.getId (metric : ExpressMetric) : String :=
  metric.id.getD ""

/-- Metrics by their ids. -/
abbrev Metrics := ExtTreeMap String ExpressMetric

/-! ## Metric ids -/

/-- A character class. -/
def oneOf (characters : List Char) : RegularExpression Char :=
  characters.foldr (fun character others => .char character + others) 0

/-- One or more matches. -/
def oneOrMore (expression : RegularExpression Char) : RegularExpression Char :=
  expression * expression.star

/-- The characters as they are. -/
def literally (text : String) : RegularExpression Char :=
  text.toList.foldr (fun character rest => .char character * rest) 1

/-- `[a-z]`. -/
def lowerCase : RegularExpression Char :=
  oneOf "abcdefghijklmnopqrstuvwxyz".toList

/-- `[a-z_0-9]`. -/
def wordCharacter : RegularExpression Char :=
  oneOf "abcdefghijklmnopqrstuvwxyz_0123456789".toList

/-- `regExStr`: `[a-z]+[a-z_0-9]*[.]value_[a-z]+[a-z_0-9]*`. -/
def metricIdExpression : RegularExpression Char :=
  oneOrMore lowerCase * (wordCharacter.star * (oneOf ['.'] * (literally "value_" *
    (oneOrMore lowerCase * wordCharacter.star))))

/-- `validateMetricId`. -/
def validateMetricId (metricId : String) : Bool :=
  metricIdExpression.rmatch metricId.toList

example : validateMetricId "a.value_b" = true := by decide

/-! ## Files -/

/-- Why a catalog is refused. -/
inductive CatalogError where
  | unparsableConfig (fileName : String)
  | noId (index : Nat)
  | namingConvention (metricId : String)
  | redefinition
  | hashCollision (metricId : String)
  deriving DecidableEq, Repr

/-- An entry of a directory.  The text of a file that cannot be read is empty. -/
structure DirectoryEntry where
  fileName : String
  isRegularFile : Bool
  content : String
  deriving DecidableEq, Repr

/-- `extension()`: the file name from its last dot on.  A dot in front does not count. -/
def extension (fileName : String) : String :=
  let fromLastDot := fileName.toList.reverse.takeWhile (· ≠ '.')
  if fileName = ".." ∨ fromLastDot.length + 1 ≥ fileName.length then
    ""
  else
    String.ofList ('.' :: fromLastDot.reverse)

/-- The files that `readCatalog` reads. -/
def DirectoryEntry.isConfig (entry : DirectoryEntry) : Bool :=
  entry.isRegularFile && extension entry.fileName == ".cfg"

section Reading

/-- The iteration of `readMetrics` for one metric and its index. -/
def readMetric (metrics : Metrics) (item : ExpressMetric × Nat) : Except CatalogError Metrics :=
  match item.1.id with
  | none => .error (.noId item.2)
  | some metricId =>
      if !validateMetricId metricId then
        .error (.namingConvention metricId)
      else if metricId ∈ metrics then
        .error .redefinition
      else
        .ok (metrics.insert metricId item.1)

variable (parseFromString : String → Option (List ExpressMetric))

/-- `readMetrics`. -/
def readMetrics (cfgFile : DirectoryEntry) (metrics : Metrics) : Except CatalogError Metrics :=
  match parseFromString cfgFile.content with
  | none => .error (.unparsableConfig cfgFile.fileName)
  | some parsed => parsed.zipIdx.foldlM readMetric metrics

/-- The iteration of `readCatalog` for one entry. -/
def readEntry (metrics : Metrics) (entry : DirectoryEntry) : Except CatalogError Metrics :=
  if entry.isConfig then
    readMetrics parseFromString entry metrics
  else
    .ok metrics

/-- `readCatalog`, for the entries of the directory as they are iterated. -/
def readCatalog (entries : List DirectoryEntry) (metrics : Metrics) :
    Except CatalogError Metrics :=
  entries.foldlM (readEntry parseFromString) metrics

end Reading

/-! ## Hashes -/

/-- `MetricInfo`.  The bits of `int64_t` are those of the hash. -/
structure MetricInfo where
  hash : BitVec 64
  type : MetricType
  deriving DecidableEq, Repr

abbrev MetricInfoMap := ExtTreeMap String MetricInfo

section Hashing

variable (fingerprint64 : String → BitVec 64)

/-- The iteration of `generateMetricsIds` for one metric.  The state starts with
`currentHashes`. -/
def generateMetricId (state : List (BitVec 64) × MetricInfoMap)
    (entry : String × ExpressMetric) :
    Except CatalogError (List (BitVec 64) × MetricInfoMap) :=
  let hashId := fingerprint64 entry.1
  if hashId ∈ state.1 then
    .error (.hashCollision entry.1)
  else
    .ok (hashId :: state.1, state.2.insert entry.1 ⟨hashId, entry.2.getType⟩)

/-- `generateMetricsIds`. -/
def generateMetricsIds (metrics : Metrics) (metricsIds : MetricInfoMap) :
    Except CatalogError MetricInfoMap :=
  (metrics.toList.foldlM (generateMetricId fingerprint64) ([], metricsIds)).map Prod.snd

end Hashing

end StatsLogApiGen.Express
