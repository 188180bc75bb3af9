import StatsLogApiGen.Main.Independence
import StatsLogApiGen.Rust.Agreement
import StatsLogApiGen.Writer.Acceptance

/-!
# The exit status

Which writers fail on accepted atoms, and when a run ends with 0 although a writer failed or
an option was missing.
-/

namespace StatsLogApiGen.Main

open StatsLogApiGen.Container
open StatsLogApiGen.Proto
open StatsLogApiGen.Collation
open StatsLogApiGen.Writer

/-! ## Traversals -/

/-- Printing until an error succeeds when every entry can be printed. -/
theorem printUntilError_error {α β : Type} (write : α → Except WriterError β)
    (entries : List α) :
    (printUntilError write entries).error = none ↔
      ∀ entry ∈ entries, (write entry).isOk = true := by
  induction entries with
  | nil => simp [printUntilError]
  | cons entry rest ih =>
      rw [printUntilError, List.forall_mem_cons, ← ih]
      cases write entry with
      | error reason => simp [Except.isOk, Except.toBool]
      | ok method => simp [Except.isOk, Except.toBool]

/-! ## Failing writers -/

/-- The types that a bootstrap atom can have. -/
def bootstrapTypes : List JavaType :=
  [.byteArray, .boolean, .int, .enum, .float, .long, .string]

/-- A signature that cannot be logged from a bootstrap process: it has another type, or some
atom has annotations. -/
def BootstrapUnsupported (entry : Signature × FieldNumberToAtomDeclSet) : Prop :=
  atomIdFieldNumber ∈ entry.2 ∨
    ∃ (index : Nat) (type : JavaType), entry.1[index]? = some type ∧
      (type ∉ bootstrapTypes ∨ 1 + (index : Int) ∈ entry.2)

theorem bootstrapValue_isOk (argIndex : Int) (type : JavaType) :
    (Native.bootstrapValue argIndex type).isOk = true ↔ type ∈ bootstrapTypes := by
  cases type <;> simp [Native.bootstrapValue, bootstrapTypes, Except.isOk, Except.toBool]

theorem writeBootstrapValues_isOk (declSets : FieldNumberToAtomDeclSet) (argIndex : Int)
    (signature : Signature) :
    (Native.writeBootstrapValues declSets argIndex signature).isOk = true ↔
      ∀ (index : Nat) (type : JavaType), signature[index]? = some type →
        type ∈ bootstrapTypes ∧ argIndex + (index : Int) ∉ declSets := by
  induction signature generalizing argIndex with
  | nil => simp [Native.writeBootstrapValues, Except.isOk, Except.toBool]
  | cons arg rest ih =>
      have here := bootstrapValue_isOk argIndex arg
      have position : ∀ index : Nat,
          argIndex + ((index + 1 : Nat) : Int) = argIndex + 1 + index := by
        intro index
        omega
      have split : (∀ (index : Nat) (type : JavaType), (arg :: rest)[index]? = some type →
          type ∈ bootstrapTypes ∧ argIndex + (index : Int) ∉ declSets) ↔
          (arg ∈ bootstrapTypes ∧ argIndex ∉ declSets) ∧
          ∀ (index : Nat) (type : JavaType), rest[index]? = some type →
            type ∈ bootstrapTypes ∧ argIndex + 1 + (index : Int) ∉ declSets := by
        constructor
        · intro all
          constructor
          · have first := all 0 arg rfl
            rwa [Int.natCast_zero, Int.add_zero] at first
          · intro index type found
            have later := all (index + 1) type found
            rwa [position] at later
        · rintro ⟨first, later⟩ index type found
          cases index with
          | zero =>
              cases found
              rwa [Int.natCast_zero, Int.add_zero]
          | succ index =>
              rw [position]
              exact later index type found
      rw [split, ← ih, ← here, Native.writeBootstrapValues]
      cases Native.bootstrapValue argIndex arg with
      | error reason => simp [Except.bind, Except.isOk, Except.toBool]
      | ok value =>
          by_cases annotated : argIndex ∈ declSets
          · simp [Except.bind, annotated, Except.isOk, Except.toBool]
          · simp only [Except.bind, if_neg annotated, isOk_map]
            simp [annotated, Except.isOk, Except.toBool]

theorem writeBootstrapBody_isOk (entry : Signature × FieldNumberToAtomDeclSet) :
    (Native.writeBootstrapBody entry.1 entry.2).isOk = true ↔ ¬BootstrapUnsupported entry := by
  rw [Native.writeBootstrapBody, BootstrapUnsupported]
  by_cases annotated : atomIdFieldNumber ∈ entry.2
  · simp [annotated, Except.isOk, Except.toBool]
  · rw [if_neg annotated, writeBootstrapValues_isOk]
    simp [annotated]

/-- A bootstrap source is generated when the signature of every pushed atom is supported. -/
theorem writeStatsLogCpp_bootstrap_isOk (constants : AnnotationIdConstants) (atoms : Atoms)
    (minApiLevel : Int) :
    (Native.writeStatsLogCpp constants atoms attributionDecl minApiLevel true).isOk = true ↔
      ∀ entry ∈ atoms.signatureInfoMap.toList, ¬BootstrapUnsupported entry := by
  have pushed : (Native.writeStatsLogCpp constants atoms attributionDecl minApiLevel true).isOk =
      (Native.writeNativeStatsWriteMethods constants attributionDecl minApiLevel true
        atoms.signatureInfoMap).isOk := by
    rw [Native.writeStatsLogCpp]
    cases Native.writeNativeStatsWriteMethods constants attributionDecl minApiLevel true
      atoms.signatureInfoMap <;> rfl
  have entryOk : ∀ entry, (Native.writeNativeStatsWriteMethod constants attributionDecl
      minApiLevel true entry).isOk = true ↔ ¬BootstrapUnsupported entry := by
    intro entry
    rw [← writeBootstrapBody_isOk, Native.writeNativeStatsWriteMethod, isOk_map, if_pos rfl,
      isOk_map]
  rw [pushed, Native.writeNativeStatsWriteMethods, mapM_isOk, List.all_eq_true]
  exact forall_congr' fun entry => imp_congr_right fun _ => entryOk entry

section Failures

variable (request : Request) (atoms : Atoms)

/-- The C++ source cannot be generated: a bootstrap source for an unsupported signature, and
another one for repeated fields below T. -/
def CppFails : Prop :=
  request.vendorProto = "" ∧
    if request.bootstrap then
      ∃ entry ∈ atoms.signatureInfoMap.toList, BootstrapUnsupported entry
    else
      request.minApiLevel < apiT ∧ (HasRepeatedField atoms.signatureInfoMap ∨
        HasRepeatedField atoms.pulledAtomsSignatureInfoMap)

/-- The Java class cannot be generated: for vendor atoms with a chain, and for repeated
fields of pushed atoms at Q. -/
def JavaFails : Prop :=
  if request.vendorProto = "" then
    request.minApiLevel = apiQ ∧ HasRepeatedField atoms.signatureInfoMap
  else
    ∃ signature ∈ atoms.signatureInfoMap, JavaType.attributionChain ∈ signature

/-- The Rust crate cannot be generated: for an atom without repeated fields at Q. -/
def RustFails : Prop :=
  request.minApiLevel = apiQ ∧
    ∃ decl ∈ elements atoms.decls, Rust.hasRepeatedField decl = false

/-- The writer of an output fails. -/
def Fails : Output → Prop
  | .cpp => CppFails request atoms
  | .java => JavaFails request atoms
  | .rust => RustFails request atoms
  | .header | .rustHeader => False

variable {registrations : List Registration} (registered : Registered registrations atoms)
  (constants : AnnotationIdConstants)

include registered

theorem cppWriter_status (native : request.vendorProto = "") :
    ((cppWriter request atoms).write constants).status = 0 ↔ ¬CppFails request atoms := by
  have maps := acceptedMaps registered
  change Java.exitStatus (Native.writeStatsLogCpp constants atoms attributionDecl
    request.minApiLevel request.bootstrap) = 0 ↔ _
  rw [Java.exitStatus_eq_zero_iff, CppFails]
  cases bootstrap : request.bootstrap with
  | false =>
      rw [writeStatsLogCpp_isOk maps]
      simp only [native, true_and, Bool.false_eq_true, if_false, not_and, not_or,
        ge_iff_le]
      by_cases level : apiT ≤ request.minApiLevel
      · simp [level, not_lt.mpr level]
      · simp [level, not_le.mp level]
  | true =>
      rw [writeStatsLogCpp_bootstrap_isOk]
      simp [native]

theorem cppVendorWriter_status :
    ((cppVendorWriter atoms).write constants).status = 0 := by
  have error : (printUntilError (Vendor.Native.writeNativeCreateVendorAtomMethod constants
      attributionDecl) atoms.signatureInfoMap.toList).error = none := by
    rw [printUntilError_error]
    intro entry member
    exact Vendor.Native.writeNativeCreateVendorAtomMethod_isOk constants
      ((acceptedMaps registered).pushed entry.1 (mem_of_mem_toList member)) entry.2
  change (if _ then 1 else 0) = 0
  rw [error]
  rfl

theorem javaVendorWriter_status (vendor : request.vendorProto ≠ "") :
    ((javaVendorWriter atoms).write constants).status = 0 ↔ ¬JavaFails request atoms := by
  have status : ((javaVendorWriter atoms).write constants).status = 0 ↔
      (printUntilError (Vendor.Java.writeJavaPushedMethodVendor constants)
        atoms.signatureInfoMap.toList).error = none := by
    change (if _ then 1 else 0) = 0 ↔ _
    simp
  have accepted := (acceptedMaps registered).pushed
  rw [status, printUntilError_error, JavaFails, if_neg vendor]
  constructor
  · rintro all ⟨signature, member, hasChain⟩
    rcases exists_mem_toList member with ⟨entry, entryMem, rfl⟩
    exact (Vendor.Java.writeJavaPushedMethodVendor_isOk constants (accepted _ member) entry.2).mp
      (all entry entryMem) hasChain
  · intro noChain entry entryMem
    have member := mem_of_mem_toList entryMem
    apply (Vendor.Java.writeJavaPushedMethodVendor_isOk constants (accepted _ member) entry.2).mpr
    intro hasChain
    exact noChain ⟨entry.1, member, hasChain⟩

theorem javaWriter_status (native : request.vendorProto = "") :
    ((javaWriter request atoms).write constants).status = 0 ↔ ¬JavaFails request atoms := by
  change (Java.writeStatsLogJava constants atoms attributionDecl request.minApiLevel
    request.supportWorkSource).errors = 0 ↔ _
  rw [writeStatsLogJava_errors (acceptedMaps registered), JavaFails, if_pos native, not_and_or]

theorem rustWriter_status :
    ((rustWriter request atoms).write constants).status = 0 ↔ ¬RustFails request atoms := by
  change Java.exitStatus (Rust.writeStatsLogRust constants atoms attributionDecl
    request.minApiLevel) = 0 ↔ _
  rw [Java.exitStatus_eq_zero_iff, RustFails]
  by_cases level : request.minApiLevel = apiQ
  · rw [Rust.writeStatsLogRust, Rust.writeRustStatsWriteAtoms, mapM_isOk, List.all_eq_true]
    have moduleFails : ∀ decl, (Rust.writeRustModule attributionDecl constants
        request.minApiLevel atoms.nonChainedDecls decl).isOk = false := by
      intro decl
      rw [Rust.writeRustModule, isOk_map, Rust.writeRustStatsWriteMethod, isOk_map,
        Rust.writeRustMethodBody, if_pos level]
      rfl
    simp only [moduleFails]
    simp [level]
  · rw [Rust.writeStatsLogRust_isOk registered constants level]
    simp [level]

/-- A writer returns 0 unless it fails. -/
theorem writer_status (output : Output) :
    ((writer request atoms output).write constants).status = 0 ↔ ¬Fails request atoms output := by
  by_cases native : request.vendorProto = ""
  · cases output with
    | cpp =>
        rw [writer, if_pos native]
        exact cppWriter_status request atoms registered constants native
    | header =>
        rw [writer, if_pos native]
        exact iff_of_true rfl id
    | java =>
        rw [writer, if_pos native]
        exact javaWriter_status request atoms registered constants native
    | rust => exact rustWriter_status request atoms registered constants
    | rustHeader => exact iff_of_true rfl id
  · cases output with
    | cpp =>
        rw [writer, if_neg native]
        exact iff_of_true (cppVendorWriter_status atoms registered constants)
          fun fails => native fails.1
    | header =>
        rw [writer, if_neg native]
        exact iff_of_true rfl id
    | java =>
        rw [writer, if_neg native]
        exact javaVendorWriter_status request atoms registered constants native
    | rust => exact rustWriter_status request atoms registered constants
    | rustHeader => exact iff_of_true rfl id

end Failures

/-! ## The result of a run -/

section Run

variable (request : Request) (opens : String → Bool) (atoms : Atoms)

/-- No requested output is refused. -/
def AcceptsOutputs : Prop :=
  ∀ output, request.isRequested output = true → request.refusals opens output = []

/-- Whether `errorCount` is 0 after an output, if `clean` says whether it is 0 before. -/
def cleanAfter (clean : Prop) (output : Output) : Prop :=
  if request.isRequested output then
    match output with
    | .cpp | .header | .java => ¬Fails request atoms output
    | .rust => clean ∧ ¬Fails request atoms output
    | .rustHeader => clean
  else
    clean

theorem mem_outputs (output : Output) : output ∈ outputs := by
  cases output <;> decide

theorem writtenOutputs_of_accepts {request : Request} {opens : String → Bool}
    (accepts : AcceptsOutputs request opens) :
    writtenOutputs request opens = outputs.filter request.isRequested := by
  rw [writtenOutputs, List.takeWhile_eq_self_iff]
  intro output member
  exact decide_eq_true (accepts output (List.mem_filter.mp member).2)

variable {registrations : List Registration} (registered : Registered registrations atoms)

include registered

theorem run_status (static : StaticConstants) (output : Output) :
    ((writer request atoms output).run static).1.status = 0 ↔ ¬Fails request atoms output := by
  rw [OutputWriter.run]
  split
  · exact writer_status request atoms registered _ output
  · exact writer_status request atoms registered _ output

/-- Every text is complete when no writer fails. -/
theorem texts_status (static : StaticConstants) (remaining : List Output) :
    (∀ file ∈ texts request atoms static remaining, file.2.status = 0) ↔
      ∀ output ∈ remaining, ¬Fails request atoms output := by
  induction remaining generalizing static with
  | nil => simp [texts]
  | cons output rest ih =>
      rw [texts, List.forall_mem_cons, List.forall_mem_cons, ih,
        run_status request atoms registered]

/-- One output changes `errorCount` as `cleanAfter` says. -/
theorem runPhase_accepted (accepts : AcceptsOutputs request opens) (progress : Progress)
    (output : Output) :
    ∃ next, runPhase request opens atoms progress output = .ok next ∧
      (next.errorCount = 0 ↔ cleanAfter request atoms (progress.errorCount = 0) output) := by
  by_cases requested : request.isRequested output = true
  · have status := run_status request atoms registered progress.static output
    refine ⟨_, by rw [runPhase, if_pos requested, accepts output requested], ?_⟩
    unfold cleanAfter
    rw [if_pos requested]
    cases output with
    | cpp => exact status
    | header => exact status
    | java => exact status
    | rust => rw [← status]; exact Nat.add_eq_zero_iff
    | rustHeader => exact Iff.rfl
  · refine ⟨progress, by rw [runPhase, if_neg requested], ?_⟩
    unfold cleanAfter
    rw [if_neg requested]

theorem foldlM_accepted (accepts : AcceptsOutputs request opens) (remaining : List Output)
    (progress : Progress) :
    ∃ final, remaining.foldlM (runPhase request opens atoms) progress = .ok final ∧
      (final.errorCount = 0 ↔
        remaining.foldl (cleanAfter request atoms) (progress.errorCount = 0)) := by
  induction remaining generalizing progress with
  | nil => exact ⟨progress, rfl, Iff.rfl⟩
  | cons output rest ih =>
      rcases runPhase_accepted request opens atoms registered accepts progress output with
        ⟨next, stepped, clean⟩
      rcases ih next with ⟨final, ran, finalClean⟩
      refine ⟨final, by rw [foldlM_cons_of_ok stepped, ran], ?_⟩
      rw [finalClean, List.foldl_cons, propext clean]

omit registered in
theorem foldlM_refused {remaining : List Output}
    (refused : ∃ output ∈ remaining, request.isRequested output = true ∧
      request.refusals opens output ≠ []) (progress : Progress) :
    ∃ final, remaining.foldlM (runPhase request opens atoms) progress = .error final := by
  induction remaining generalizing progress with
  | nil => simp at refused
  | cons output rest ih =>
      cases stepped : runPhase request opens atoms progress output with
      | error final => exact ⟨final, foldlM_cons_of_error stepped⟩
      | ok next =>
          rw [foldlM_cons_of_ok stepped]
          apply ih
          rcases refused with ⟨other, member, requested, faults⟩
          rcases List.mem_cons.mp member with rfl | inRest
          · rw [runPhase, if_pos requested] at stepped
            split at stepped
            · contradiction
            · rename_i none
              exact absurd none faults
          · exact ⟨other, inRest, requested, faults⟩

/-- A run returns 0 when no output is refused and the writers that count last succeed. -/
theorem runOutputs_status :
    (runOutputs request opens atoms).status = 0 ↔
      AcceptsOutputs request opens ∧ outputs.foldl (cleanAfter request atoms) True := by
  rw [runOutputs]
  by_cases accepts : AcceptsOutputs request opens
  · rcases foldlM_accepted request opens atoms registered accepts outputs {} with
      ⟨final, ran, clean⟩
    have start : (({} : Progress).errorCount = 0) = True := by simp
    rw [ran, ← start, ← clean]
    simp [accepts]
  · have refused : ∃ output ∈ outputs, request.isRequested output = true ∧
        request.refusals opens output ≠ [] := by
      rw [AcceptsOutputs] at accepts
      push Not at accepts
      rcases accepts with ⟨output, requested, faults⟩
      exact ⟨output, mem_outputs output, requested, faults⟩
    rcases foldlM_refused request opens atoms refused {} with ⟨final, ran⟩
    rw [ran]
    simp [accepts]

omit registered in
/-- `errorCount` is 0 in the end when the Java and Rust writers succeed and the C++ writer
does, unless its result is overwritten. -/
theorem clean_iff :
    outputs.foldl (cleanAfter request atoms) True ↔
      (request.isRequested .java = true → ¬JavaFails request atoms) ∧
      (request.isRequested .rust = true → ¬RustFails request atoms) ∧
      (request.isRequested .cpp = true → CppFails request atoms →
        request.isRequested .header = true ∨ request.isRequested .java = true) := by
  cases cpp : request.isRequested .cpp <;> cases header : request.isRequested .header <;>
    cases java : request.isRequested .java <;> cases rust : request.isRequested .rust <;>
    simp [outputs, cleanAfter, Fails, cpp, header, java, rust, and_comm]

end Run

/-- The requested outputs whose writers can fail do not. -/
theorem forall_not_fails_iff (request : Request) (atoms : Atoms) :
    (∀ output ∈ outputs.filter request.isRequested, ¬Fails request atoms output) ↔
      (request.isRequested .cpp = true → ¬CppFails request atoms) ∧
      (request.isRequested .java = true → ¬JavaFails request atoms) ∧
      (request.isRequested .rust = true → ¬RustFails request atoms) := by
  simp only [List.mem_filter, and_imp]
  constructor
  · intro all
    exact ⟨all .cpp (mem_outputs .cpp), all .java (mem_outputs .java),
      all .rust (mem_outputs .rust)⟩
  · rintro ⟨cpp, java, rust⟩ output - requested
    cases output with
    | cpp => exact cpp requested
    | header => exact id
    | java => exact java requested
    | rust => exact rust requested
    | rustHeader => exact id

/-- A run returns 0 only if every writer returned 0 and every requested output has its
companion options. -/
def HonestExit (opens : String → Bool) (descriptor : AtomDescriptor) (request : Request) :
    Prop :=
  let outcome := run opens descriptor request
  outcome.status = 0 →
    (∀ file ∈ outcome.files, file.2.status = 0) ∧
    ∀ output, request.isRequested output = true → request.missingOptions output = []

/-- A failure is lost: no output is refused, the Java and Rust writers succeed, and the C++
writer fails before the result of another writer takes the place of its own, or the header
lacks its namespace. -/
structure LosesFailure (opens : String → Bool) (descriptor : AtomDescriptor)
    (request : Request) : Prop where
  collated : (collateAtoms descriptor request.moduleName {}).1 = 0
  accepts : AcceptsOutputs request opens
  java : request.isRequested .java = true →
    ¬JavaFails request (collateAtoms descriptor request.moduleName {}).2
  rust : request.isRequested .rust = true →
    ¬RustFails request (collateAtoms descriptor request.moduleName {}).2
  lost : (request.isRequested .cpp = true ∧
      CppFails request (collateAtoms descriptor request.moduleName {}).2 ∧
      (request.isRequested .header = true ∨ request.isRequested .java = true)) ∨
    (request.isRequested .header = true ∧ request.lacksNamespace = true)

/-- Of accepted outputs only a header can lack an option. -/
theorem missingOptions_of_accepts {request : Request} {opens : String → Bool}
    (accepts : AcceptsOutputs request opens) :
    (∀ output, request.isRequested output = true → request.missingOptions output = []) ↔
      (request.isRequested .header = true → request.lacksNamespace = false) := by
  have ofHeader : request.missingOptions .header = [] ↔ request.lacksNamespace = false := by
    rw [Request.missingOptions, faultIf]
    cases request.lacksNamespace <;> simp
  constructor
  · intro supplied requested
    exact ofHeader.mp (supplied .header requested)
  · intro named output requested
    by_cases isHeader : output = .header
    · subst isHeader
      exact ofHeader.mpr (named requested)
    · have none := accepts output requested
      rw [Request.refusals, if_neg isHeader] at none
      exact (List.append_eq_nil_iff.mp (List.append_eq_nil_iff.mp none).1).1

/-- The exit status is honest unless a failure is lost. -/
theorem honestExit_iff_not_losesFailure (opens : String → Bool) (descriptor : AtomDescriptor)
    (request : Request) :
    HonestExit opens descriptor request ↔ ¬LosesFailure opens descriptor request := by
  cases collated : collateAtoms descriptor request.moduleName {} with
  | mk errorCount atoms =>
      by_cases succeeds : errorCount = 0
      · subst succeeds
        rcases collateAtoms_registered collated with ⟨registrations, -, registered⟩
        have loses : LosesFailure opens descriptor request ↔
            AcceptsOutputs request opens ∧
            (request.isRequested .java = true → ¬JavaFails request atoms) ∧
            (request.isRequested .rust = true → ¬RustFails request atoms) ∧
            ((request.isRequested .cpp = true ∧ CppFails request atoms ∧
              (request.isRequested .header = true ∨ request.isRequested .java = true)) ∨
            (request.isRequested .header = true ∧ request.lacksNamespace = true)) := by
          constructor
          · rintro ⟨_, accepts, java, rust, lost⟩
            rw [collated] at java rust lost
            exact ⟨accepts, java, rust, lost⟩
          · rintro ⟨accepts, java, rust, lost⟩
            constructor
            all_goals try rw [collated]
            all_goals assumption
        rw [HonestExit, run_of_collated opens descriptor request collated, loses,
          runOutputs_status request opens atoms registered, clean_iff, files_runOutputs,
          texts_status request atoms registered]
        by_cases accepts : AcceptsOutputs request opens
        · rw [missingOptions_of_accepts accepts, writtenOutputs_of_accepts accepts]
          rw [forall_not_fails_iff, ← Bool.not_eq_true]
          constructor
          · rintro honest ⟨_, java, rust, lost⟩
            have overwritten : request.isRequested .cpp = true → CppFails request atoms →
                request.isRequested .header = true ∨ request.isRequested .java = true := by
              intro _ _
              rcases lost with ⟨-, -, later⟩ | ⟨header, -⟩
              · exact later
              · exact Or.inl header
            rcases honest ⟨accepts, java, rust, overwritten⟩ with ⟨⟨cpp, -, -⟩, named⟩
            rcases lost with ⟨requested, fails, -⟩ | ⟨header, lacks⟩
            · exact cpp requested fails
            · exact named header lacks
          · rintro kept ⟨_, java, rust, overwritten⟩
            constructor
            · refine ⟨?_, java, rust⟩
              intro requested fails
              exact kept ⟨accepts, java, rust,
                Or.inl ⟨requested, fails, overwritten requested fails⟩⟩
            · intro header lacks
              exact kept ⟨accepts, java, rust, Or.inr ⟨header, lacks⟩⟩
        · simp [accepts]
      · have failed : (run opens descriptor request).status = 1 := by
          rw [run, collated]
          simp [succeeds]
        constructor
        · intro _ loses
          have none := loses.collated
          rw [collated] at none
          exact succeeds none
        · intro _ isZero
          rw [failed] at isZero
          contradiction

/-- The C++ source and the header of a module for devices from S on. -/
def moduleRequest : Request where
  filename
    | .cpp => "statslog_module.cpp"
    | .header => "statslog_module.h"
    | _ => ""
  moduleName := "module"
  cppNamespace := "android,os,module"
  cppHeaderImport := "statslog_module.h"
  minApiLevel := apiS

def repeatedField : Descriptor where
  name := "RepeatedField"
  fields := [{ name := "uids", number := 1, isRepeated := true, type := .int32 }]
  numbers_nodup := by decide

/-- An atom of the module with a repeated field. -/
def moduleDescriptor : AtomDescriptor where
  fields :=
    [{ name := "repeated_field", number := 700, type := .message repeatedField,
       options := { module := ["module"] } }]
  extensions := []
  numbers_nodup := by decide

/-- The C++ writer refuses the repeated field, and the header writer overwrites its
result. -/
theorem not_honestExit_moduleRequest :
    ¬HonestExit (fun _ => true) moduleDescriptor moduleRequest := by
  intro honest
  have complete := (honest (by decide)).1
  revert complete
  decide

end StatsLogApiGen.Main
