import StatsLogApiGen.Java.RequiresApi
import StatsLogApiGen.Rust.Writer
import StatsLogApiGen.Vendor.JavaRun
import StatsLogApiGen.Vendor.NativeWriter
import StatsLogApiGen.Writer.Comparisons

/-!
# Comparisons of the writers

The comparisons with a state in the methods of each writer.  All of a file can be made
exactly when the resets of its atoms compare what can be compared.
-/

/-! ## Comparisons in C++ -/

namespace StatsLogApiGen.Native

open Std
open StatsLogApiGen.Container
open StatsLogApiGen.Collation
open StatsLogApiGen.Program
open StatsLogApiGen.Writer

/-- The conditions in a generated body. -/
def Body.conditions : Body → List Condition
  | .statsEventCompat code | .aStatsEvent code | .statsEventList code => conditionsOf code
  | .bootstrap _ | .forward .. => []

theorem conditionsOf_writeNativeArg {attributionDecl : AtomDecl} {minApiLevel argIndex : Int}
    {arg : JavaType} {written : List (Code Condition EventCall)}
    (isWritten : writeNativeArg attributionDecl minApiLevel argIndex arg = .ok written) :
    conditionsOf written = [] := by
  unfold writeNativeArg at isWritten
  split at isWritten
  · cases isWritten
  · cases arg <;> cases isWritten <;> rfl

theorem conditionsOf_writeCompatArg {attributionDecl : AtomDecl} {argIndex : Int}
    {arg : JavaType} {written : List (Code Condition EventCall)}
    (isWritten : writeCompatArg attributionDecl argIndex arg = .ok written) :
    conditionsOf written = [] := by
  cases arg <;> cases isWritten <;> rfl

/-- The comparisons of a method have types that admit them. -/
def Method.Compares (admits : String → Int → Prop) (method : Method) : Prop :=
  Writer.Compares .argIs admits method.parameters method.body.conditions

instance {admits : String → Int → Prop} [DecidableRel admits] (method : Method) :
    Decidable (method.Compares admits) :=
  decidable_of_iff _ (compares_iff_filterMap Condition.comparison?_eq_some).symm

/-- A method compares arguments with states only where they are integers. -/
def Method.ComparesIntegers (method : Method) : Prop :=
  method.Compares cppIntegers

section Source

variable {registrations : List Registration} {atoms : Atoms}
  (registered : Registered registrations atoms) {constants : AnnotationIdConstants}
  {attributionDecl : AtomDecl} {minApiLevel : Int}

include registered

/-- What holds of the methods of a source is asked for by the atoms. -/
theorem forall_source_iff {holds : Method → Prop} {asks : Registration → Prop}
    (ofPushed : ∀ entry : Signature × FieldNumberToAtomDeclSet,
      (signatureMap atoms .pushed)[entry.1]? = some entry.2 → ∀ method,
        writeNativeStatsWriteMethod constants attributionDecl minApiLevel false entry =
          .ok method → (holds method ↔ ∀ registration ∈ registrations,
            getAtomType registration.atomField.number = .pushed →
              signatureOf registration.atom = entry.1 → asks registration))
    (ofNonChained : ∀ signature, holds (writeNativeStatsWriteNonChainedMethod attributionDecl
      signature))
    (ofPulled : ∀ entry : Signature × FieldNumberToAtomDeclSet,
      (signatureMap atoms .pulled)[entry.1]? = some entry.2 → ∀ method,
        writeNativeBuildStatsEventMethod constants attributionDecl minApiLevel entry =
          .ok method → (holds method ↔ ∀ registration ∈ registrations,
            getAtomType registration.atomField.number = .pulled →
              signatureOf registration.atom = entry.1 → asks registration))
    {methods : List Method}
    (source : writeStatsLogCpp constants atoms attributionDecl minApiLevel false = .ok methods) :
    (∀ method ∈ methods, holds method) ↔
      ∀ registration ∈ registrations, asks registration := by
  rcases bind_eq_ok_iff.mp source with ⟨pushed, pushedWritten, rest⟩
  rcases map_eq_ok_iff.mp rest with ⟨pulled, pulledWritten, rfl⟩
  have nonChained : ∀ method ∈ writeNativeStatsWriteNonChainedMethods attributionDecl
      atoms.nonChainedSignatureInfoMap, holds method := by
    intro method member
    rcases List.mem_map.mp member with ⟨entry, -, rfl⟩
    exact ofNonChained entry.1
  rw [List.forall_mem_append, List.forall_mem_append, and_iff_left nonChained,
    @forall_methods_iff _ _ registered .pushed _ _ holds asks _ pushedWritten ofPushed,
    @forall_methods_iff _ _ registered .pulled _ _ holds asks _ pulledWritten ofPulled,
    forall_kinds_iff]

variable {admits : String → Int → Prop} {comparable : JavaType → Int → Bool}
  (typed : ∀ {type state}, type ≠ .attributionChain ∧ admits (cppTypeName false type) state ↔
    comparable type state = true)

include typed

theorem compares_statsWrite_iff {entry : Signature × FieldNumberToAtomDeclSet}
    (found : (signatureMap atoms .pushed)[entry.1]? = some entry.2) {method : Method}
    (written : writeNativeStatsWriteMethod constants attributionDecl minApiLevel false entry =
      .ok method) :
    method.Compares admits ↔ ∀ registration ∈ registrations,
      getAtomType registration.atomField.number = .pushed →
        signatureOf registration.atom = entry.1 →
          ComparesResets 0 comparable registration.decl := by
  rcases map_eq_ok_iff.mp written with ⟨body, bodyWritten, rfl⟩
  refine compares_iff registered found 0 (fun argIndex state => ?_) fun index type state isType =>
    (hasParameter_native attributionDecl isType (by simp) false).trans typed
  rw [if_neg (by decide)] at bodyWritten
  split at bodyWritten
  · rcases map_eq_ok_iff.mp bodyWritten with ⟨code, printed, rfl⟩
    rcases map_eq_ok_iff.mp printed with ⟨arguments, argumentsPrinted, rfl⟩
    exact argIs_mem_body (fun _ _ _ => conditionsOf_writeCompatArg) argumentsPrinted
  · rcases map_eq_ok_iff.mp bodyWritten with ⟨code, printed, rfl⟩
    rcases map_eq_ok_iff.mp printed with ⟨arguments, argumentsPrinted, rfl⟩
    exact argIs_mem_body (fun _ _ _ => conditionsOf_writeNativeArg) argumentsPrinted

theorem compares_addAStatsEvent_iff {entry : Signature × FieldNumberToAtomDeclSet}
    (found : (signatureMap atoms .pulled)[entry.1]? = some entry.2) {method : Method}
    (written : writeNativeBuildStatsEventMethod constants attributionDecl minApiLevel entry =
      .ok method) :
    method.Compares admits ↔ ∀ registration ∈ registrations,
      getAtomType registration.atomField.number = .pulled →
        signatureOf registration.atom = entry.1 →
          ComparesResets 0 comparable registration.decl := by
  rcases map_eq_ok_iff.mp written with ⟨code, printed, rfl⟩
  rcases map_eq_ok_iff.mp printed with ⟨arguments, argumentsPrinted, rfl⟩
  exact compares_iff registered found 0
    (fun argIndex state => argIs_mem_body (fun _ _ _ => conditionsOf_writeNativeArg)
      argumentsPrinted)
    fun index type state isType =>
      (hasParameter_native attributionDecl isType (by simp) false).trans typed

/-- A source compares what can be compared exactly when the resets of the atoms do. -/
theorem compares_source_iff {methods : List Method}
    (source : writeStatsLogCpp constants atoms attributionDecl minApiLevel false = .ok methods) :
    (∀ method ∈ methods, method.Compares admits) ↔
      ∀ registration ∈ registrations, ComparesResets 0 comparable registration.decl :=
  forall_source_iff registered
    (fun _ found _ written => compares_statsWrite_iff registered typed found written)
    (fun _ => compares_nil _ _)
    (fun _ found _ written => compares_addAStatsEvent_iff registered typed found written) source

end Source

/-- A bootstrap source compares nothing. -/
theorem compares_bootstrap {constants : AnnotationIdConstants} {atoms : Atoms}
    {attributionDecl : AtomDecl} {minApiLevel : Int} {methods : List Method}
    (source : writeStatsLogCpp constants atoms attributionDecl minApiLevel true = .ok methods)
    (admits : String → Int → Prop) : ∀ method ∈ methods, method.Compares admits := by
  rcases bind_eq_ok_iff.mp source with ⟨pushed, pushedWritten, rest⟩
  cases rest
  intro method member
  rcases (mem_of_mapM_eq_ok pushedWritten).mp member with ⟨entry, -, written⟩
  rcases map_eq_ok_iff.mp written with ⟨body, bodyWritten, rfl⟩
  rcases map_eq_ok_iff.mp bodyWritten with ⟨values, -, rfl⟩
  exact compares_nil _ _

end StatsLogApiGen.Native

/-! ## Comparisons in Java -/

namespace StatsLogApiGen.Java

open Std
open StatsLogApiGen.Container
open StatsLogApiGen.Collation
open StatsLogApiGen.Program
open StatsLogApiGen.Writer

/-- The conditions in a generated body. -/
def Body.conditions : Body → List Condition
  | .write code | .writeOrQLogger code _ | .buildStatsEvent code => conditionsOf code
  | .forward _ | .workSource .. => []

/-- The comparisons of a method have types that admit them. -/
def Method.Compares (admits : String → Int → Prop) (method : Method) : Prop :=
  Writer.Compares .argIs admits method.parameters method.body.conditions

instance {admits : String → Int → Prop} [DecidableRel admits] (method : Method) :
    Decidable (method.Compares admits) :=
  decidable_of_iff _ (compares_iff_filterMap Condition.comparison?_eq_some).symm

/-- A method compares arguments with states only where they are integers. -/
def Method.ComparesIntegers (method : Method) : Prop :=
  method.Compares javaIntegers

theorem conditionsOf_writeArg {attributionDecl : AtomDecl} {argIndex : Int} {arg : JavaType}
    {written : List (Code Condition BuilderMethod)}
    (isWritten : writeArg attributionDecl argIndex arg = .ok written) :
    conditionsOf written = [] := by
  cases arg <;> cases isWritten <;> rfl

section Class

variable {constants : AnnotationIdConstants} {atoms : Atoms} {minApiLevel : Int}
  {supportWorkSource : Bool} {holds : Method → Prop}

/-- What holds of each kind of methods holds of the methods of a class. -/
theorem forall_class
    (ofPushed : ∀ entry ∈ atoms.signatureInfoMap.toList, ∀ method,
      writeJavaPushedMethod constants attributionDecl minApiLevel entry = .ok method →
        holds method)
    (ofPulled : ∀ entry ∈ atoms.pulledAtomsSignatureInfoMap.toList, ∀ method,
      writeJavaPulledMethod constants attributionDecl minApiLevel entry = .ok method →
        holds method)
    (ofForward : ∀ method : Method, (∃ call, method.body = .forward call) → holds method)
    (ofWorkSource : ∀ method : Method, (∃ call chain, method.body = .workSource call chain) →
      holds method) :
    ∀ method ∈ (writeStatsLogJava constants atoms attributionDecl minApiLevel
      supportWorkSource).methods, holds method := by
  intro method member
  rcases List.mem_append.mp member with others | isWorkSource
  · rcases List.mem_append.mp others with ordinary | isPulled
    · rcases List.mem_append.mp ordinary with isPushed | isNonChained
      · rcases exists_of_mem_printed isPushed with ⟨entry, entryMem, written⟩
        exact ofPushed entry entryMem method written
      · rcases exists_of_mem_printed isNonChained with ⟨entry, -, written⟩
        rcases map_eq_ok_iff.mp written with ⟨parameters, -, rfl⟩
        exact ofForward _ ⟨_, rfl⟩
    · rcases exists_of_mem_printed isPulled with ⟨entry, entryMem, written⟩
      exact ofPulled entry entryMem method written
  · split at isWorkSource
    · rcases exists_of_mem_printed_workSource isWorkSource with
        ⟨entry, -, methods, written, listed⟩
      rcases map_eq_ok_iff.mp written with ⟨attributionArg, -, rfl⟩
      split at listed
      · cases listed
      · rw [List.mem_singleton.mp listed]
        exact ofWorkSource _ ⟨_, _, rfl⟩
    · cases isWorkSource

variable {registrations : List Registration} (registered : Registered registrations atoms)
  {asks : Registration → Prop}

include registered

/-- What holds of the methods of a complete class is asked for by the atoms. -/
theorem forall_class_iff
    (ofPushed : ∀ entry : Signature × FieldNumberToAtomDeclSet,
      (signatureMap atoms .pushed)[entry.1]? = some entry.2 → ∀ method,
        writeJavaPushedMethod constants attributionDecl minApiLevel entry = .ok method →
          (holds method ↔ ∀ registration ∈ registrations,
            getAtomType registration.atomField.number = .pushed →
              signatureOf registration.atom = entry.1 → asks registration))
    (ofPulled : ∀ entry : Signature × FieldNumberToAtomDeclSet,
      (signatureMap atoms .pulled)[entry.1]? = some entry.2 → ∀ method,
        writeJavaPulledMethod constants attributionDecl minApiLevel entry = .ok method →
          (holds method ↔ ∀ registration ∈ registrations,
            getAtomType registration.atomField.number = .pulled →
              signatureOf registration.atom = entry.1 → asks registration))
    (ofForward : ∀ method : Method, (∃ call, method.body = .forward call) → holds method)
    (ofWorkSource : ∀ method : Method, (∃ call chain, method.body = .workSource call chain) →
      holds method)
    (complete : (writeStatsLogJava constants atoms attributionDecl minApiLevel
      supportWorkSource).errors = 0) :
    (∀ method ∈ (writeStatsLogJava constants atoms attributionDecl minApiLevel
        supportWorkSource).methods, holds method) ↔
      ∀ registration ∈ registrations, asks registration := by
  rcases writeStatsLogJava_errors_eq_zero_iff.mp complete with ⟨pushedOk, -, pulledOk, -⟩
  rcases isOk_iff_exists.mp pushedOk with ⟨pushed, pushedWritten⟩
  rcases isOk_iff_exists.mp pulledOk with ⟨pulled, pulledWritten⟩
  rw [← forall_kinds_iff,
    ← @forall_methods_iff _ _ registered .pushed _ _ holds asks _ pushedWritten ofPushed,
    ← @forall_methods_iff _ _ registered .pulled _ _ holds asks _ pulledWritten ofPulled]
  constructor
  · intro all
    refine ⟨fun method member => all method ?_, fun method member => all method ?_⟩
    · rcases (mem_of_mapM_eq_ok pushedWritten).mp member with ⟨entry, entryMem, written⟩
      exact (mem_methods_iff complete).mpr (Or.inl ⟨entry, entryMem, written⟩)
    · rcases (mem_of_mapM_eq_ok pulledWritten).mp member with ⟨entry, entryMem, written⟩
      exact (mem_methods_iff complete).mpr (Or.inr (Or.inr (Or.inl ⟨entry, entryMem, written⟩)))
  · rintro ⟨allPushed, allPulled⟩
    refine forall_class (fun entry entryMem method written => ?_)
      (fun entry entryMem method written => ?_) ofForward ofWorkSource
    · exact allPushed method ((mem_of_mapM_eq_ok pushedWritten).mpr ⟨entry, entryMem, written⟩)
    · exact allPulled method ((mem_of_mapM_eq_ok pulledWritten).mpr ⟨entry, entryMem, written⟩)

variable {admits : String → Int → Prop} {comparable : JavaType → Int → Bool}
  (typed : ∀ {type state}, type ≠ .attributionChain ∧ admits (javaTypeName type) state ↔
    comparable type state = true)

include typed

/-- The code of a method compares what can be compared exactly when the atoms of its
signature do. -/
theorem compares_code_iff {atomType : AtomType} {signature : Signature}
    {declSets : FieldNumberToAtomDeclSet}
    (found : (signatureMap atoms atomType)[signature]? = some declSets)
    {code : List (Code Condition BuilderMethod)}
    (printed : writeMethodBody constants attributionDecl signature declSets = .ok code) :
    Compares .argIs admits
        (⟨"int", .code⟩ :: javaSignatureParameters attributionDecl 1 signature)
        (conditionsOf code) ↔
      ∀ registration ∈ registrations, getAtomType registration.atomField.number = atomType →
        signatureOf registration.atom = signature →
          ComparesResets 0 comparable registration.decl := by
  rcases map_eq_ok_iff.mp printed with ⟨arguments, argumentsPrinted, rfl⟩
  exact compares_iff registered found 0
    (fun argIndex state => argIs_mem_body (fun _ _ _ => conditionsOf_writeArg) argumentsPrinted)
    fun index type state isType => (hasParameter_java attributionDecl isType).trans typed

theorem compares_write_iff {entry : Signature × FieldNumberToAtomDeclSet}
    (found : (signatureMap atoms .pushed)[entry.1]? = some entry.2) {method : Method}
    (written : writeJavaPushedMethod constants attributionDecl minApiLevel entry = .ok method) :
    method.Compares admits ↔ ∀ registration ∈ registrations,
      getAtomType registration.atomField.number = .pushed →
        signatureOf registration.atom = entry.1 →
          ComparesResets 0 comparable registration.decl := by
  rcases bind_eq_ok_iff.mp written with ⟨code, printed, isMethod⟩
  have compares := compares_code_iff registered typed found printed
  rw [printedParameters_eq] at isMethod
  split at isMethod
  · rcases map_eq_ok_iff.mp isMethod with ⟨arguments, -, rfl⟩
    exact compares
  · cases isMethod
    exact compares

theorem compares_buildStatsEvent_iff {entry : Signature × FieldNumberToAtomDeclSet}
    (found : (signatureMap atoms .pulled)[entry.1]? = some entry.2) {method : Method}
    (written : writeJavaPulledMethod constants attributionDecl minApiLevel entry = .ok method) :
    method.Compares admits ↔ ∀ registration ∈ registrations,
      getAtomType registration.atomField.number = .pulled →
        signatureOf registration.atom = entry.1 →
          ComparesResets 0 comparable registration.decl := by
  rcases bind_eq_ok_iff.mp written with ⟨parameters, parametersPrinted, rest⟩
  rcases map_eq_ok_iff.mp rest with ⟨code, printed, rfl⟩
  rw [writeJavaMethodSignature_eq] at parametersPrinted
  cases parametersPrinted
  exact compares_code_iff registered typed found printed

omit registered typed in
/-- A method that forwards compares nothing. -/
theorem compares_of_conditions_eq_nil {method : Method} (silent : method.body.conditions = []) :
    method.Compares admits := by
  rw [Method.Compares, silent]
  exact compares_nil _ _

/-- When the resets of the atoms compare what can be compared, so does any class. -/
theorem compares_class
    (resets : ∀ registration ∈ registrations, ComparesResets 0 comparable registration.decl) :
    ∀ method ∈ (writeStatsLogJava constants atoms attributionDecl minApiLevel
      supportWorkSource).methods, method.Compares admits := by
  have entryFound (atomType : AtomType) {entry : Signature × FieldNumberToAtomDeclSet}
      (entryMem : entry ∈ (signatureMap atoms atomType).toList) :
      (signatureMap atoms atomType)[entry.1]? = some entry.2 :=
    ExtTreeMap.mem_toList_iff_getElem?_eq_some.mp entryMem
  refine forall_class (fun entry entryMem method written => ?_)
    (fun entry entryMem method written => ?_)
    (fun _ ⟨_, isForward⟩ => compares_of_conditions_eq_nil (by rw [isForward]; rfl))
    (fun _ ⟨_, _, isWorkSource⟩ => compares_of_conditions_eq_nil (by rw [isWorkSource]; rfl))
  · exact (compares_write_iff registered typed (entryFound .pushed entryMem)
      written).mpr fun registration member _ _ => resets registration member
  · exact (compares_buildStatsEvent_iff registered typed
      (entryFound .pulled entryMem) written).mpr
        fun registration member _ _ => resets registration member

end Class

end StatsLogApiGen.Java

/-! ## Comparisons for vendor atoms -/

namespace StatsLogApiGen.Vendor

open Std
open StatsLogApiGen.Container
open StatsLogApiGen.Collation
open StatsLogApiGen.Program
open StatsLogApiGen.Writer

/-- What stands between a declaration and the use of the declared variable. -/
theorem mem_conditionsOf_framed {κ α : Type} {declare use : α} {test condition : κ}
    {body : List (Code κ α)} (notTest : condition ≠ test) :
    condition ∈ conditionsOf (.call declare :: (body ++ [.when test (.call use)])) ↔
      condition ∈ conditionsOf body := by
  simp [Code.conditions, notTest]

section Reads

variable {τ : Type} {reads : Condition → τ} {reads? : τ → Option Condition}
  (isRead : ∀ {test condition}, reads? test = some condition ↔ test = reads condition)

include isRead

/-- The comparisons in tests, some of which are conditions. -/
theorem comparison?_eq_some {test : τ} {pair : Int × Int} :
    (reads? test).bind Condition.comparison? = some pair ↔
      test = reads (.argIs pair.1 pair.2) := by
  simp [Option.bind_eq_some_iff, isRead]

/-- The atoms that tests ask for can be read off them one by one. -/
theorem forall_codeIs_iff {tests : List τ} {visible : String → Prop} :
    (∀ name, reads (.codeIs name) ∈ tests → visible name) ↔
      ∀ name ∈ tests.filterMap fun test => (reads? test).bind Condition.atomConstant?,
        visible name := by
  simp only [List.mem_filterMap, Option.bind_eq_some_iff, Condition.atomConstant?_eq_some, isRead]
  constructor
  · rintro all name ⟨_, listed, _, rfl, rfl⟩
    exact all name listed
  · intro all name listed
    exact all name ⟨_, listed, _, rfl, rfl⟩

end Reads

section Values

variable {signature : Signature} {declSets : FieldNumberToAtomDeclSet} {argIndex : Int}
  {condition : Condition}

/-- The loop over the values tests nothing. -/
theorem conditionsOf_setValues {κ α : Type} {setValue : Int → ValueTag → Int → α}
    {values : List (Code κ α)}
    (written : eachArg (fun argIndex argType => (valueTag argType).map fun tag =>
      .call (setValue (argIndex - 2) tag argIndex)) argIndex signature = .ok values) :
    conditionsOf values = [] := by
  apply conditionsOf_eq_nil
  intro code member
  rcases exists_setValue_of_mem setValue written member with ⟨slot, tag, position, rfl⟩
  rfl

theorem mem_valueArgIndices_iff :
    argIndex ∈ valueArgIndices signature ↔
      ∃ index : Nat, 1 ≤ index ∧ index < signature.length ∧ argIndex = 1 + (index : Int) := by
  rw [valueArgIndices, Java.argIndices, ← List.map_tail, List.range_eq_range', List.tail_range',
    List.mem_map]
  constructor
  · rintro ⟨index, member, rfl⟩
    obtain ⟨isValue, bound⟩ := List.mem_range'_1.mp member
    exact ⟨index, by omega, by omega, Int.add_comm _ _⟩
  · rintro ⟨index, isValue, bound, rfl⟩
    exact ⟨index, List.mem_range'_1.mpr (by omega), Int.add_comm _ _⟩

theorem isFieldNumber_one_iff :
    IsFieldNumber 1 signature argIndex ↔
      argIndex = atomIdFieldNumber ∨ argIndex ∈ valueArgIndices signature := by
  rw [mem_valueArgIndices_iff]
  rfl

/-- What is tested for the annotations of a field: the code of each annotated declaration, and
the argument where the declaration resets the field. -/
def IsTested (declSets : FieldNumberToAtomDeclSet) (fieldNumber : Int)
    (condition : Condition) : Prop :=
  ∃ decl ∈ elements (getAnnotations fieldNumber declSets),
    condition = .codeIs (makeConstantName decl.name) ∨
      HasReset (annotationsOf decl fieldNumber) ∧ condition = .argIs fieldNumber
        (declaredState .triggerStateReset (annotationsOf decl fieldNumber))

theorem argIs_isTested_iff {fieldNumber state : Int} :
    IsTested declSets fieldNumber (.argIs argIndex state) ↔
      argIndex = fieldNumber ∧ ResetsIn declSets fieldNumber state := by
  simp only [IsTested, ResetsIn, reduceCtorEq, false_or, Condition.argIs.injEq]
  constructor
  · rintro ⟨decl, listed, hasReset, isArg, isState⟩
    exact ⟨isArg, decl, listed, hasReset, isState⟩
  · rintro ⟨isArg, decl, listed, hasReset, isState⟩
    exact ⟨decl, listed, hasReset, isArg, isState⟩

theorem exists_argIs_isTested_iff {state : Int} :
    (∃ fieldNumber, IsFieldNumber 1 signature fieldNumber ∧
      IsTested declSets fieldNumber (.argIs argIndex state)) ↔
      IsFieldNumber 1 signature argIndex ∧ ResetsIn declSets argIndex state := by
  simp only [argIs_isTested_iff]
  constructor
  · rintro ⟨fieldNumber, isField, rfl, resets⟩
    exact ⟨isField, resets⟩
  · rintro ⟨isField, resets⟩
    exact ⟨argIndex, isField, rfl, resets⟩

/-- Nothing is tested where nothing is annotated. -/
theorem length_pos_of_isTested (tested : IsTested declSets argIndex condition) :
    (elements (getAnnotations argIndex declSets)).length > 0 := by
  obtain ⟨decl, listed, -⟩ := tested
  exact List.length_pos_of_mem listed

theorem atomWithFieldsAnnotations_of_isTested (member : argIndex ∈ valueArgIndices signature)
    (tested : IsTested declSets argIndex condition) :
    atomWithFieldsAnnotations signature declSets = true :=
  List.any_eq_true.mpr ⟨argIndex, member, decide_eq_true (length_pos_of_isTested tested)⟩

/-- The conditions of a method are those of the atom and of the values. -/
theorem exists_isFieldNumber_iff {property : Int → Prop} :
    property atomIdFieldNumber ∨ (∃ argIndex ∈ valueArgIndices signature, property argIndex) ↔
      ∃ fieldNumber, IsFieldNumber 1 signature fieldNumber ∧ property fieldNumber := by
  simp only [isFieldNumber_one_iff, or_and_right, exists_or, exists_eq_left]

end Values

namespace Native

variable {constants : AnnotationIdConstants} {declSets : FieldNumberToAtomDeclSet}
  {signature : Signature} {fieldNumber : Int} {condition : Condition}

theorem reads_mem_handOver : .reads condition ∉ (handOver fieldNumber).conditions := by
  rw [handOver]
  split <;> simp [Code.conditions]

theorem reads_mem_annotations :
    .reads condition ∈ conditionsOf (writeNativeAnnotationsVendorForField constants fieldNumber
      (getAnnotations fieldNumber declSets)) ↔ IsTested declSets fieldNumber condition := by
  unfold writeNativeAnnotationsVendorForField writeDeclBlock
  rw [mem_conditionsOf_map_when, IsTested]
  simp only [Test.reads.injEq, Code.conditions, conditionsOf_cons, conditionsOf_append,
    conditionsOf_nil, List.nil_append, List.append_nil, List.mem_append, reads_mem_handOver,
    or_false, mem_conditionsOf_annotationSet]
  rfl

theorem reads_mem_atomAnnotations :
    .reads condition ∈ conditionsOf (writeAtomAnnotations constants declSets) ↔
      IsTested declSets atomIdFieldNumber condition := by
  rw [writeAtomAnnotations]
  split
  · rw [mem_conditionsOf_framed (by simp), reads_mem_annotations]
  · rename_i none
    exact iff_of_false (by simp) fun tested => none (length_pos_of_isTested tested)

theorem reads_mem_fieldsAnnotations :
    .reads condition ∈ conditionsOf (writeFieldsAnnotations constants signature declSets) ↔
      ∃ argIndex ∈ valueArgIndices signature, IsTested declSets argIndex condition := by
  rw [writeFieldsAnnotations]
  split
  · rw [mem_conditionsOf_framed (by simp), mem_conditionsOf_flatMap]
    simp only [reads_mem_annotations]
  · rename_i none
    refine iff_of_false (by simp) ?_
    rintro ⟨argIndex, member, tested⟩
    exact none (atomWithFieldsAnnotations_of_isTested member tested)

/-- A method tests what is tested for the annotations of the atom and of the values. -/
theorem reads_mem_createVendorAtom {attributionDecl : AtomDecl}
    {entry : Signature × FieldNumberToAtomDeclSet} {method : Method}
    (written : writeNativeCreateVendorAtomMethod constants attributionDecl entry = .ok method) :
    .reads condition ∈ conditionsOf method.body ↔
      ∃ fieldNumber, IsFieldNumber 1 entry.1 fieldNumber ∧
        IsTested entry.2 fieldNumber condition := by
  rcases map_eq_ok_iff.mp written with ⟨values, valuesWritten, rfl⟩
  simp only [conditionsOf_append, conditionsOf_cons, conditionsOf_nil, Code.conditions,
    conditionsOf_setValues valuesWritten, List.nil_append, List.mem_append,
    reads_mem_atomAnnotations, reads_mem_fieldsAnnotations]
  exact @exists_isFieldNumber_iff _ fun fieldNumber => IsTested entry.2 fieldNumber condition

/-- The comparisons of a method have types that admit them. -/
def Method.Compares (admits : String → Int → Prop) (method : Method) : Prop :=
  Writer.Compares (fun argIndex state => .reads (.argIs argIndex state)) admits
    method.parameters (conditionsOf method.body)

/-- The condition that a test is. -/
def Test.reads? : Test → Option Condition
  | .reads condition => some condition
  | _ => none

@[simp]
theorem Test.reads?_eq_some {test : Test} {condition : Condition} :
    test.reads? = some condition ↔ test = .reads condition := by
  cases test <;> simp [reads?]

instance {admits : String → Int → Prop} [DecidableRel admits] (method : Method) :
    Decidable (method.Compares admits) :=
  decidable_of_iff _ (compares_iff_filterMap (comparison?_eq_some Test.reads?_eq_some)).symm

/-- A method compares arguments with states only where they are integers. -/
def Method.ComparesIntegers (method : Method) : Prop :=
  method.Compares cppIntegers

theorem compares_createVendorAtom_iff {registrations : List Registration} {atoms : Atoms}
    (registered : Registered registrations atoms) {admits : String → Int → Prop}
    {comparable : JavaType → Int → Bool}
    (typed : ∀ {type state}, type ≠ .attributionChain ∧ admits (cppTypeName true type) state ↔
      comparable type state = true)
    {attributionDecl : AtomDecl} {entry : Signature × FieldNumberToAtomDeclSet}
    (found : (signatureMap atoms .pushed)[entry.1]? = some entry.2) {method : Method}
    (written : writeNativeCreateVendorAtomMethod constants attributionDecl entry = .ok method) :
    method.Compares admits ↔ ∀ registration ∈ registrations,
      getAtomType registration.atomField.number = .pushed →
        signatureOf registration.atom = entry.1 →
          ComparesResets 1 comparable registration.decl := by
  have tested (argIndex state : Int) : .reads (.argIs argIndex state) ∈ conditionsOf method.body ↔
      IsFieldNumber 1 entry.1 argIndex ∧ ResetsIn entry.2 argIndex state := by
    rw [reads_mem_createVendorAtom written, exists_argIs_isTested_iff]
  rcases map_eq_ok_iff.mp written with ⟨values, -, rfl⟩
  exact compares_iff registered found 1 tested fun index type state isType =>
    (hasParameter_native attributionDecl isType (by simp) true).trans typed

end Native

namespace Java

variable {constants : AnnotationIdConstants} {declSets : FieldNumberToAtomDeclSet}
  {signature : Signature} {fieldNumber : Int} {condition : Condition}

theorem reads_mem_handOver : .reads condition ∉ (handOver fieldNumber).conditions := by
  rw [handOver]
  split <;> simp [Code.conditions]

theorem reads_mem_whenReset {annotations : List Annotation} {statement : Statement} :
    .reads condition ∈ conditionsOf
        (whenReset fieldNumber (annotations.foldl States.scan {}) statement) ↔
      HasReset annotations ∧
        condition = .argIs fieldNumber (declaredState .triggerStateReset annotations) := by
  have scanned : annotations.foldl States.scan {} =
      ⟨declaredState .triggerStateReset annotations, declaredState .defaultState annotations⟩ :=
    foldl_scan annotations {}
  rw [scanned, whenReset]
  change Test.reads condition ∈ conditionsOf (if HasReset annotations then _ else _) ↔ _
  by_cases hasReset : HasReset annotations <;> simp [hasReset, Code.conditions]

theorem conditionsOf_flatMap_writeStore (annotations : List Annotation) :
    conditionsOf (annotations.flatMap (writeStore constants)) = [] := by
  rw [flatMap_writeStore]
  exact conditionsOf_calls _ _

theorem reads_mem_annotations :
    .reads condition ∈ conditionsOf (writeAnnotationsVendorForField constants fieldNumber
      (getAnnotations fieldNumber declSets)) ↔ IsTested declSets fieldNumber condition := by
  rw [writeAnnotationsVendorForField, mem_conditionsOf_map_when, IsTested]
  simp only [Test.reads.injEq, writeAnnotationsBlock, Code.conditions, conditionsOf_cons,
    conditionsOf_append, conditionsOf_nil, List.nil_append, List.append_nil, List.mem_append,
    reads_mem_handOver, or_false, conditionsOf_flatMap_writeStore, reads_mem_whenReset, or_self]
  rfl

theorem reads_mem_atomAnnotations :
    .reads condition ∈ conditionsOf (writeAtomAnnotations constants declSets) ↔
      IsTested declSets atomIdFieldNumber condition := by
  rw [writeAtomAnnotations]
  split
  · rw [mem_conditionsOf_framed (by simp), reads_mem_annotations]
  · rename_i none
    exact iff_of_false (by simp) fun tested => none (length_pos_of_isTested tested)

/-- Lists are created under conditions on the code only. -/
theorem reads_mem_foldl_add {declarations : List AtomDecl} {inits : ArrayInits}
    (member : .reads condition ∈ conditionsOf (declarations.foldl ArrayInits.add inits).code) :
    .reads condition ∈ conditionsOf inits.code ∨
      ∃ decl ∈ declarations, condition = .codeIs (makeConstantName decl.name) := by
  induction declarations generalizing inits with
  | nil => exact Or.inl member
  | cons atomDecl rest ih =>
      rcases ih member with added | ⟨decl, listed, isCode⟩
      · rw [ArrayInits.add] at added
        split at added
        · exact Or.inl added
        · rw [conditionsOf_append, List.mem_append] at added
          refine added.imp_right fun isCode => ⟨atomDecl, List.mem_cons_self, ?_⟩
          simpa [Code.conditions] using isCode
      · exact Or.inr ⟨decl, List.mem_cons_of_mem atomDecl listed, isCode⟩

theorem reads_mem_inits {argIndices : List Int} {inits : ArrayInits}
    (member : .reads condition ∈ conditionsOf
      (argIndices.foldl (fun inits argIndex =>
        writeValueAnnotationsArrayInit inits (getAnnotations argIndex declSets)) inits).code) :
    .reads condition ∈ conditionsOf inits.code ∨
      ∃ argIndex ∈ argIndices, IsTested declSets argIndex condition := by
  induction argIndices generalizing inits with
  | nil => exact Or.inl member
  | cons first rest ih =>
      rcases ih member with added | ⟨argIndex, later, tested⟩
      · refine (reads_mem_foldl_add added).imp_right fun ⟨decl, listed, isCode⟩ => ?_
        exact ⟨first, List.mem_cons_self, decl, listed, Or.inl isCode⟩
      · exact Or.inr ⟨argIndex, List.mem_cons_of_mem first later, tested⟩

theorem reads_mem_fieldsAnnotations :
    .reads condition ∈ conditionsOf (writeFieldsAnnotations constants signature declSets) ↔
      ∃ argIndex ∈ valueArgIndices signature, IsTested declSets argIndex condition := by
  rw [writeFieldsAnnotations]
  split
  · rw [mem_conditionsOf_framed (by simp), conditionsOf_append, List.mem_append,
      mem_conditionsOf_flatMap]
    simp only [reads_mem_annotations]
    apply or_iff_right_of_imp
    intro created
    exact (reads_mem_inits created).resolve_left (by simp)
  · rename_i none
    refine iff_of_false (by simp) ?_
    rintro ⟨argIndex, member, tested⟩
    exact none (atomWithFieldsAnnotations_of_isTested member tested)

/-- A method tests what is tested for the annotations of the atom and of the values. -/
theorem reads_mem_createVendorAtom {entry : Signature × FieldNumberToAtomDeclSet}
    {method : Method} (written : writeJavaPushedMethodVendor constants entry = .ok method) :
    .reads condition ∈ conditionsOf method.body ↔
      ∃ fieldNumber, IsFieldNumber 1 entry.1 fieldNumber ∧
        IsTested entry.2 fieldNumber condition := by
  rcases bind_eq_ok_iff.mp written with ⟨parameters, -, rest⟩
  rcases map_eq_ok_iff.mp rest with ⟨body, bodyWritten, rfl⟩
  rcases map_eq_ok_iff.mp bodyWritten with ⟨values, valuesWritten, rfl⟩
  simp only [conditionsOf_append, conditionsOf_cons, conditionsOf_nil, Code.conditions,
    conditionsOf_setValues valuesWritten, List.nil_append, List.mem_append,
    reads_mem_atomAnnotations, reads_mem_fieldsAnnotations]
  exact @exists_isFieldNumber_iff _ fun fieldNumber => IsTested entry.2 fieldNumber condition

/-- The comparisons of a method have types that admit them. -/
def Method.Compares (admits : String → Int → Prop) (method : Method) : Prop :=
  Writer.Compares (fun argIndex state => .reads (.argIs argIndex state)) admits
    method.parameters (conditionsOf method.body)

/-- The condition that a test is. -/
def Test.reads? : Test → Option Condition
  | .reads condition => some condition
  | _ => none

@[simp]
theorem Test.reads?_eq_some {test : Test} {condition : Condition} :
    test.reads? = some condition ↔ test = .reads condition := by
  cases test <;> simp [reads?]

instance {admits : String → Int → Prop} [DecidableRel admits] (method : Method) :
    Decidable (method.Compares admits) :=
  decidable_of_iff _ (compares_iff_filterMap (comparison?_eq_some Test.reads?_eq_some)).symm

/-- A method compares arguments with states only where they are integers. -/
def Method.ComparesIntegers (method : Method) : Prop :=
  method.Compares javaIntegers

theorem compares_createVendorAtom_iff {registrations : List Registration} {atoms : Atoms}
    (registered : Registered registrations atoms) {admits : String → Int → Prop}
    {comparable : JavaType → Int → Bool}
    (typed : ∀ {type state}, type ≠ .attributionChain ∧ admits (javaTypeName type) state ↔
      comparable type state = true)
    {entry : Signature × FieldNumberToAtomDeclSet}
    (found : (signatureMap atoms .pushed)[entry.1]? = some entry.2) {method : Method}
    (written : writeJavaPushedMethodVendor constants entry = .ok method) :
    method.Compares admits ↔ ∀ registration ∈ registrations,
      getAtomType registration.atomField.number = .pushed →
        signatureOf registration.atom = entry.1 →
          ComparesResets 1 comparable registration.decl := by
  have tested (argIndex state : Int) : .reads (.argIs argIndex state) ∈ conditionsOf method.body ↔
      IsFieldNumber 1 entry.1 argIndex ∧ ResetsIn entry.2 argIndex state := by
    rw [reads_mem_createVendorAtom written, exists_argIs_isTested_iff]
  rcases bind_eq_ok_iff.mp written with ⟨parameters, parametersPrinted, rest⟩
  rcases map_eq_ok_iff.mp rest with ⟨body, -, rfl⟩
  rw [writeJavaMethodSignature] at parametersPrinted
  split at parametersPrinted
  · cases parametersPrinted
  · cases parametersPrinted
    exact compares_iff registered found 1 tested fun index type state isType =>
      (hasParameter_java {} isType).trans typed

end Java

end StatsLogApiGen.Vendor

/-! ## Comparisons in Rust -/

namespace StatsLogApiGen.Rust

open Std
open StatsLogApiGen.Container
open StatsLogApiGen.Collation
open StatsLogApiGen.Program
open StatsLogApiGen.Writer

/-- The conditions in a generated body. -/
def Body.conditions : Body → List Condition
  | .pushed code | .pulled code => conditionsOf code
  | .forward _ => []

/-- A type of integers, or an enum of the module if it is compared as `i32`. -/
def IsIntegerType (enums : List EnumType) (asI32 : Bool) (type : RustType) : Prop :=
  if asI32 then ∃ enum ∈ enums, type = .named enum.name
  else type = .named "i32" ∨ type = .named "i64"

/-- A condition compares a parameter that is an integer. -/
def Condition.ComparesInteger (enums : List EnumType) (parameters : List Parameter) :
    Condition → Prop
  | .fieldIs field asI32 _ =>
      (∃ parameter ∈ parameters, parameter.name = field) ∧
        ∀ parameter ∈ parameters, parameter.name = field →
          IsIntegerType enums asI32 parameter.type
  | .outOfRange => False

instance (enums : List EnumType) (asI32 : Bool) :
    DecidablePred (IsIntegerType enums asI32) := fun type => by
  unfold IsIntegerType
  infer_instance

instance (enums : List EnumType) (parameters : List Parameter) (condition : Condition) :
    Decidable (condition.ComparesInteger enums parameters) := by
  cases condition <;> unfold Condition.ComparesInteger <;> infer_instance

/-- The conditions of a function compare integers. -/
def Function.ComparesIntegers (enums : List EnumType) (function : Function) : Prop :=
  ∀ condition ∈ function.body.conditions, condition.ComparesInteger enums function.parameters

instance (enums : List EnumType) (function : Function) :
    Decidable (function.ComparesIntegers enums) :=
  inferInstanceAs (Decidable (∀ _ ∈ _, _))

/-- The functions of a module compare integers only. -/
def Module.ComparesIntegers (module : Module) : Prop :=
  ∀ function ∈ module.struct.method :: module.functions,
    function.ComparesIntegers module.enums

instance (module : Module) : Decidable module.ComparesIntegers :=
  inferInstanceAs (Decidable (∀ _ ∈ _, _))

section Parameters

variable {attributionDecl atomDecl : AtomDecl} {index : Nat} {field : AtomField}

theorem mem_fieldParameters {argIndex : Int} {other : AtomField} {parameter : Parameter}
    (isArg : parameter.name.reads = .arg (1 + index)) :
    parameter ∈ fieldParameters attributionDecl false argIndex other ↔
      other.javaType ≠ .attributionChain ∧
        parameter = ⟨fieldType other false, fieldName argIndex other⟩ := by
  rw [fieldParameters]
  by_cases isChain : other.javaType = .attributionChain
  · rw [if_pos isChain]
    constructor
    · intro member
      rcases List.mem_map.mp member with ⟨chainField, -, rfl⟩
      cases isArg
    · exact fun both => absurd isChain both.1
  · rw [if_neg isChain, List.mem_singleton, parameterName, if_neg (by simp)]
    exact (and_iff_right isChain).symm

/-- The parameter that is named after a field has its type. -/
theorem mem_signatureParameters_iff (found : atomDecl.fields[index]? = some field)
    {parameter : Parameter} (isArg : parameter.name.reads = .arg (1 + index)) :
    parameter ∈ writeRustMethodSignature attributionDecl atomDecl false ↔
      field.javaType ≠ .attributionChain ∧
        parameter = ⟨fieldType field false, fieldName (1 + index) field⟩ := by
  have notPulled : parameter ∉
      (if atomDecl.atomType = .pulled then
        [⟨.named "&mut AStatsEventList", ⟨"pulled_data_", .pulledData⟩⟩] else []) := by
    intro member
    split at member
    · rw [List.mem_singleton.mp member] at isArg
      cases isArg
    · cases member
  rw [writeRustMethodSignature, List.mem_append, or_iff_right notPulled]
  refine (mem_loop_iff_of_unique (fun _ => rfl) (fun _ _ _ => rfl) found ?_).trans
    (mem_fieldParameters isArg)
  intro position other member
  rcases (mem_fieldParameters isArg).mp member with ⟨-, rfl⟩
  have sameArg := Variable.arg.inj isArg
  omega

/-- A field has an integer type, or one of the enums of the module, if it is an integer. -/
theorem isIntegerType_fieldType_iff (member : field ∈ atomDecl.fields) :
    IsIntegerType (writeRustAtomConstantValues atomDecl) (field.javaType = .enum)
      (fieldType field false) ↔ IsInteger field.javaType := by
  by_cases isEnum : field.javaType = .enum
  · rw [IsIntegerType, if_pos (decide_eq_true isEnum), fieldType, if_pos isEnum, isEnum]
    refine iff_of_true ?_ trivial
    exact ⟨_, List.mem_map_of_mem (List.mem_filter.mpr ⟨member, decide_eq_true isEnum⟩), rfl⟩
  · rw [IsIntegerType, if_neg (by simpa using isEnum), fieldType, if_neg isEnum]
    cases isType : field.javaType <;> rw [isType] at isEnum <;> decide

/-- The comparison of a field is one of integers if the field is an integer. -/
theorem comparesInteger_stateCondition_iff (found : atomDecl.fields[index]? = some field)
    (state : Int) :
    (stateCondition atomDecl (1 + index) state).ComparesInteger
        (writeRustAtomConstantValues atomDecl)
        (writeRustMethodSignature attributionDecl atomDecl false) ↔
      IsInteger field.javaType := by
  have position : (1 + (index : Int) - 1).toNat = index := by omega
  have fieldMem : field ∈ atomDecl.fields := List.mem_of_getElem? found
  rw [stateCondition, if_neg (by omega), position, found]
  constructor
  · rintro ⟨⟨parameter, member, isField⟩, admitted⟩
    have isType := admitted parameter member isField
    rw [((mem_signatureParameters_iff found (congrArg Name.reads isField)).mp member).2] at isType
    exact (isIntegerType_fieldType_iff fieldMem).mp isType
  · intro isInteger
    have notChain : field.javaType ≠ .attributionChain := by
      intro isChain
      rw [isChain] at isInteger
      exact isInteger
    refine ⟨⟨_, (mem_signatureParameters_iff found rfl).mpr ⟨notChain, rfl⟩, rfl⟩, ?_⟩
    intro parameter member isField
    rw [((mem_signatureParameters_iff found (congrArg Name.reads isField)).mp member).2]
    exact (isIntegerType_fieldType_iff fieldMem).mpr isInteger

end Parameters

theorem conditionsOf_writeField {attributionDecl : AtomDecl} {argIndex : Int}
    {atomField : AtomField} {written : List (Code Condition EventCall)}
    (isWritten : writeField attributionDecl argIndex atomField = .ok written) :
    conditionsOf written = [] := by
  unfold writeField at isWritten
  cases isType : atomField.javaType <;> rw [isType] at isWritten <;> cases isWritten <;> rfl

section Functions

variable {constants : AnnotationIdConstants} {attributionDecl atomDecl : AtomDecl}
  {minApiLevel : Int} {condition : Condition}

/-- A field is compared with the state that triggers its reset. -/
def IsReset (atomDecl : AtomDecl) (fieldNumber : Int) (condition : Condition) : Prop :=
  HasReset (annotationsOf atomDecl fieldNumber) ∧ condition = stateCondition atomDecl fieldNumber
    (declaredState .triggerStateReset (annotationsOf atomDecl fieldNumber))

theorem mem_conditionsOf_writeAnnotations {fieldNumber : Int} :
    condition ∈ conditionsOf (writeAnnotations constants atomDecl fieldNumber) ↔
      IsReset atomDecl fieldNumber condition := by
  rw [writeAnnotations, IsReset, annotationsOf]
  cases stored : atomDecl.fieldNumberToAnnotations[fieldNumber]? with
  | none =>
      refine iff_of_false (by simp) ?_
      rintro ⟨⟨-, hasReset⟩, -⟩
      exact hasReset rfl
  | some annotations => exact mem_conditionsOf_annotationSet

theorem mem_conditionsOf_writeRustMethodBody {code : List (Code Condition EventCall)}
    (printed : writeRustMethodBody constants attributionDecl minApiLevel atomDecl = .ok code) :
    condition ∈ conditionsOf code ↔ IsReset atomDecl atomIdFieldNumber condition ∨
      ∃ index < atomDecl.fields.length, IsReset atomDecl (1 + (index : Int)) condition := by
  rw [writeRustMethodBody] at printed
  split at printed
  · cases printed
  · rcases map_eq_ok_iff.mp printed with ⟨arguments, argumentsPrinted, rfl⟩
    rw [conditionsOf_cons, Code.conditions, List.nil_append, conditionsOf_append, List.mem_append,
      mem_conditionsOf_writeAnnotations,
      mem_conditionsOf_writeArguments (fun _ _ _ => conditionsOf_writeField) argumentsPrinted]
    simp only [mem_conditionsOf_writeAnnotations]

/-- The function of a registered atom compares integers exactly when its states that are reset
are integers. -/
theorem comparesIntegers_statsWrite_iff {registration : Registration} {function : Function}
    (written : writeRustStatsWriteMethod constants attributionDecl minApiLevel
      registration.decl = .ok function) :
    function.ComparesIntegers (writeRustAtomConstantValues registration.decl) ↔
      ComparesResets 0 rustComparable registration.decl := by
  rcases map_eq_ok_iff.mp written with ⟨code, printed, isFunction⟩
  have inCode {condition : Condition} :
      condition ∈ function.body.conditions ↔ condition ∈ conditionsOf code := by
    rw [← isFunction]
    cases registration.decl.atomType <;> rfl
  have parameters : function.parameters =
      writeRustMethodSignature attributionDecl registration.decl false := by
    rw [← isFunction]
  rw [Function.ComparesIntegers, parameters]
  constructor
  · intro compares index type _ isType hasReset
    rw [AtomDecl.signature, List.getElem?_map, Option.map_eq_some_iff] at isType
    rcases isType with ⟨field, found, rfl⟩
    have inRange := (List.getElem?_eq_some_iff.mp found).1
    have isReset := (mem_conditionsOf_writeRustMethodBody printed).mpr
      (Or.inr ⟨index, inRange, hasReset, rfl⟩)
    rw [rustComparable_iff, isInteger_lowered_iff]
    exact (comparesInteger_stateCondition_iff found _).mp (compares _ (inCode.mpr isReset))
  · intro resets condition tested
    rcases (mem_conditionsOf_writeRustMethodBody printed).mp (inCode.mp tested) with
      ⟨ofAtom, -⟩ | ⟨index, inRange, hasReset, rfl⟩
    · exact absurd ofAtom (not_hasReset_atomId registration)
    · have found : registration.decl.fields[index]? = some registration.decl.fields[index] :=
        List.getElem?_eq_getElem inRange
      have isType : registration.decl.signature[index]? =
          some (lowered registration.decl.fields[index].javaType) := by
        rw [AtomDecl.signature, List.getElem?_map, found, Option.map_some]
      rw [comparesInteger_stateCondition_iff found, ← isInteger_lowered_iff,
        ← @rustComparable_iff _ (declaredState .triggerStateReset
          (annotationsOf registration.decl (1 + index)))]
      exact resets index _ (Nat.zero_le index) isType hasReset

/-- The module of a registered atom compares integers where its states are reset. -/
theorem comparesIntegers_module {registration : Registration}
    (compared : ComparesResets 0 rustComparable registration.decl)
    {nonChainedDecls : AtomDeclSet} {module : Module}
    (written : writeRustModule attributionDecl constants minApiLevel nonChainedDecls
      registration.decl = .ok module) : module.ComparesIntegers := by
  rcases map_eq_ok_iff.mp written with ⟨statsWrite, statsWritten, rfl⟩
  have compares := (comparesIntegers_statsWrite_iff statsWritten).mpr compared
  intro function member condition tested
  rcases List.mem_cons.mp member with rfl | isFunction
  · -- The method of the structure forwards to the function.
    cases kind : registration.decl.atomType <;>
      simp [writeRustStruct, kind, Body.conditions] at tested
  · split at isFunction
    · rcases List.mem_cons.mp isFunction with rfl | isNonChained
      · exact compares condition tested
      · rw [List.mem_singleton.mp isNonChained] at tested
        cases tested
    · cases List.mem_singleton.mp isFunction
      exact compares condition tested

/-- The modules of a crate compare integers only if all states that are reset are integers. -/
theorem comparesIntegers_crate {registrations : List Registration} {atoms : Atoms}
    (registered : Registered registrations atoms)
    (compared : ∀ registration ∈ registrations, ComparesResets 0 rustComparable registration.decl)
    {modules : List Module}
    (crate : writeStatsLogRust constants atoms attributionDecl minApiLevel = .ok modules)
    {module : Module} (member : module ∈ modules) : module.ComparesIntegers := by
  rcases (mem_of_mapM_eq_ok crate).mp member with ⟨atomDecl, listed, written⟩
  rcases List.mem_map.mp (registered.decls.mem_elements.mp (List.mem_filter.mp listed).1) with
    ⟨registration, registrationMem, rfl⟩
  exact comparesIntegers_module (compared registration registrationMem) written

end Functions

end StatsLogApiGen.Rust
