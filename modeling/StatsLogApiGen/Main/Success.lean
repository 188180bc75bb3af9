import StatsLogApiGen.Main.Bootstrap
import StatsLogApiGen.Main.CommandLine
import StatsLogApiGen.Writer.Forwarding

/-!
# Successful runs

The generator returns 0 under conditions on the command line, on the files that can be opened
and on the selected atoms.  This file states them without the data that a run builds.
-/

namespace StatsLogApiGen.Main

open StatsLogApiGen.Container
open StatsLogApiGen.Proto
open StatsLogApiGen.Collation
open StatsLogApiGen.Program
open StatsLogApiGen.Writer

/-! ## Options -/

/-- The options that the checks after the loop let through. -/
structure SupportedOptions (request : Request) : Prop where
  requested : ∃ output, request.isRequested output = true
  default : request.moduleName = defaultModuleName → request.minApiLevel = apiLevelCurrent
  level : apiQ ≤ request.minApiLevel
  bootstrap : request.bootstrap = true →
    (request.isRequested .cpp = true ∨ request.isRequested .header = true) ∧
      request.supportWorkSource = false ∧ request.minApiLevel = apiLevelCurrent

theorem requestsOutput_iff {request : Request} :
    request.requestsOutput = true ↔ ∃ output, request.isRequested output = true := by
  rw [Request.requestsOutput, List.any_eq_true]
  exact exists_congr fun output => and_iff_right (mem_outputs output)

theorem argumentError?_eq_none_iff {request : Request} :
    request.argumentError? = none ↔
      (request.moduleName = defaultModuleName → request.minApiLevel = apiLevelCurrent) ∧
        apiQ ≤ request.minApiLevel ∧
        (request.bootstrap = true →
          (request.isRequested .cpp = true ∨ request.isRequested .header = true) ∧
            request.supportWorkSource = false ∧ request.minApiLevel = apiLevelCurrent) := by
  rw [Request.argumentError?]
  split
  · rename_i older
    exact iff_of_false nofun fun supported => older.2 (supported.1 older.1)
  · rename_i current
    have default : request.moduleName = defaultModuleName →
        request.minApiLevel = apiLevelCurrent :=
      fun isDefault => not_not.mp fun older => current ⟨isDefault, older⟩
    split
    · rename_i preQ
      exact iff_of_false nofun fun supported => absurd supported.2.1 (not_le.mpr preQ)
    · rename_i fromQ
      rw [not_lt] at fromQ
      rw [and_iff_right default, and_iff_right fromQ]
      cases request.bootstrap with
      | false => simp
      | true =>
          cases request.isRequested .cpp <;> cases request.isRequested .header <;>
            cases request.supportWorkSource <;>
            by_cases level : request.minApiLevel = apiLevelCurrent <;> simp [level]

theorem supportedOptions_iff {request : Request} :
    SupportedOptions request ↔
      request.requestsOutput = true ∧ request.argumentError? = none := by
  rw [requestsOutput_iff, argumentError?_eq_none_iff]
  constructor
  · intro supported
    exact ⟨supported.requested, supported.default, supported.level, supported.bootstrap⟩
  · rintro ⟨requested, default, level, bootstrap⟩
    exact ⟨requested, default, level, bootstrap⟩

/-- The companion options of an output.  A header without its namespace is written all the
same. -/
def Supplied (request : Request) : Output → Prop
  | .cpp => request.moduleName ≠ defaultModuleName →
      request.cppNamespace ≠ defaultCppNamespace ∧
        request.cppHeaderImport ≠ defaultCppHeaderImport
  | .header => True
  | .java => request.javaClass ≠ "" ∧ request.javaPackage ≠ "" ∧ request.moduleName ≠ "" ∧
      request.moduleName ≠ defaultModuleName
  | .rust | .rustHeader => request.rustHeaderCrate ≠ ""

@[simp]
theorem faultIf_eq_nil_iff {condition : Bool} {fault : RunError} :
    faultIf condition fault = [] ↔ condition = false := by
  cases condition <;> simp [faultIf]

theorem supplied_iff {request : Request} {output : Output} :
    (if output = .header then [] else request.missingOptions output) = [] ↔
      Supplied request output := by
  cases output with
  | header => simp [Supplied]
  | cpp =>
      simp only [reduceCtorEq, if_false]
      rw [Request.missingOptions, List.append_eq_nil_iff, faultIf_eq_nil_iff,
        faultIf_eq_nil_iff, Request.lacksNamespace, decide_eq_false_iff_not,
        decide_eq_false_iff_not, Supplied]
      tauto
  | java =>
      simp only [reduceCtorEq, if_false]
      rw [Request.missingOptions, List.append_eq_nil_iff, List.append_eq_nil_iff,
        faultIf_eq_nil_iff, faultIf_eq_nil_iff, faultIf_eq_nil_iff, decide_eq_false_iff_not,
        decide_eq_false_iff_not, decide_eq_false_iff_not, Supplied]
      tauto
  | rust | rustHeader =>
      simp only [reduceCtorEq, if_false]
      rw [Request.missingOptions, faultIf_eq_nil_iff, decide_eq_false_iff_not, Supplied]

/-- An output is not refused when its options are supplied, its file opens, and Java vendor
atoms need no work sources. -/
theorem refusals_eq_nil_iff {request : Request} {opens : String → Bool} {output : Output} :
    request.refusals opens output = [] ↔
      Supplied request output ∧ opens (request.filename output) = true ∧
        ¬(output = .java ∧ request.vendorProto ≠ "" ∧ request.supportWorkSource = true) := by
  rw [Request.refusals, List.append_eq_nil_iff, List.append_eq_nil_iff, supplied_iff,
    faultIf_eq_nil_iff, faultIf_eq_nil_iff, Bool.not_eq_false', decide_eq_false_iff_not,
    and_assoc]

/-! ## Atoms -/

section Atoms

variable (request : Request) (atomField : AtomFieldDescriptor) (atom : Descriptor)

/-- An atom that a bootstrap process can report: it has scalar fields and no annotations. -/
def IsBootstrapAtom : Prop :=
  (∀ fieldNumber annotationId, declRequests atomField atom fieldNumber annotationId = none) ∧
    JavaType.attributionChain ∉ signatureOf atom ∧ containsRepeatedField (signatureOf atom) = false

/-- The C++ writer fails for the atom. -/
def RefusedByCpp : Prop :=
  request.vendorProto = "" ∧
    if request.bootstrap then
      getAtomType atomField.number = .pushed ∧ ¬IsBootstrapAtom atomField atom
    else
      request.minApiLevel < apiT ∧ containsRepeatedField (signatureOf atom) = true

/-- The Java writer fails for the atom. -/
def RefusedByJava : Prop :=
  getAtomType atomField.number = .pushed ∧
    if request.vendorProto = "" then
      request.minApiLevel = apiQ ∧ containsRepeatedField (signatureOf atom) = true
    else
      HasChain atom

/-- The Rust writer fails for the atom. -/
def RefusedByRust : Prop :=
  request.minApiLevel = apiQ ∧ containsRepeatedField (signatureOf atom) = false

end Atoms

/-- Some atom that is selected for the module has a property. -/
def Selects (descriptor : AtomDescriptor) (moduleName : String)
    (property : AtomFieldDescriptor → Descriptor → Prop) : Prop :=
  ∃ atomField ∈ selectedAtoms descriptor moduleName, ∃ atom,
    atomField.type = .message atom ∧ property atomField atom

section Registered

variable {registrations : List Registration} {descriptor : AtomDescriptor} {moduleName : String}
  {atoms : Atoms} (registered : Registered registrations atoms)
  (selected : registrations.map Registration.atomField = selectedAtoms descriptor moduleName)

theorem hasRepeatedField_iff {atomType : AtomType} {map : SignatureInfoMap}
    (indexes : Indexes (entriesOf atomType registrations) map) :
    HasRepeatedField map ↔ ∃ registration ∈ registrations,
      getAtomType registration.atomField.number = atomType ∧
        containsRepeatedField (signatureOf registration.atom) = true := by
  constructor
  · rintro ⟨signature, present, repeated⟩
    obtain ⟨decl, listed⟩ := (indexes.signatures signature).mp present
    obtain ⟨declMem, kind, rfl⟩ := mem_entriesOf.mp listed
    obtain ⟨registration, member, rfl⟩ := List.mem_map.mp declMem
    exact ⟨registration, member, registration.decl_atomType.symm.trans kind,
      registration.signatureOf_eq ▸ repeated⟩
  · rintro ⟨registration, member, kind, repeated⟩
    have listed := mem_entriesOf.mpr ⟨List.mem_map_of_mem member,
      registration.decl_atomType.trans kind, registration.signatureOf_eq.symm⟩
    exact ⟨_, (indexes.signatures _).mpr ⟨_, listed⟩, repeated⟩

include selected

/-- The selected atoms are the registered ones. -/
theorem selects_iff {property : AtomFieldDescriptor → Descriptor → Prop} :
    Selects descriptor moduleName property ↔
      ∃ registration ∈ registrations, property registration.atomField registration.atom := by
  constructor
  · rintro ⟨atomField, isSelected, atom, type, holds⟩
    obtain ⟨registration, member, rfl, rfl⟩ := exists_registration selected isSelected type
    exact ⟨registration, member, holds⟩
  · rintro ⟨registration, member, holds⟩
    exact ⟨_, selected ▸ List.mem_map_of_mem member, _, registration.rule.type, holds⟩

include registered

theorem javaFails_iff (request : Request) :
    JavaFails request atoms ↔ Selects descriptor moduleName (RefusedByJava request) := by
  rw [selects_iff selected, JavaFails]
  split
  · rename_i platform
    simp only [RefusedByJava, platform, if_true, hasRepeatedField_iff registered.pushed]
    tauto
  · rename_i vendor
    simp only [RefusedByJava, vendor, if_false, hasChain_iff_mem_signature]
    constructor
    · rintro ⟨signature, present, hasChain⟩
      obtain ⟨registration, member, kind, rfl⟩ := (mem_signatureInfoMap_iff registered).mp present
      exact ⟨registration, member, registration.decl_atomType.symm.trans kind, hasChain⟩
    · rintro ⟨registration, member, kind, hasChain⟩
      exact ⟨_, (mem_signatureInfoMap_iff registered).mpr
        ⟨registration, member, registration.decl_atomType.trans kind, rfl⟩, hasChain⟩

theorem rustFails_iff (request : Request) :
    RustFails request atoms ↔ Selects descriptor moduleName fun _ => RefusedByRust request := by
  rw [selects_iff selected, RustFails]
  constructor
  · rintro ⟨isQ, decl, member, notRepeated⟩
    obtain ⟨registration, registrationMem, rfl⟩ :=
      List.mem_map.mp (registered.decls.mem_elements.mp member)
    rw [Rust.hasRepeatedField_eq, ← registration.signatureOf_eq] at notRepeated
    exact ⟨registration, registrationMem, isQ, notRepeated⟩
  · rintro ⟨registration, registrationMem, isQ, notRepeated⟩
    refine ⟨isQ, registration.decl,
      registered.decls.mem_elements.mpr (List.mem_map_of_mem registrationMem), ?_⟩
    rwa [Rust.hasRepeatedField_eq, ← registration.signatureOf_eq]

theorem cppFails_iff (request : Request) :
    CppFails request atoms ↔ Selects descriptor moduleName (RefusedByCpp request) := by
  rw [CppFails]
  cases bootstrap : request.bootstrap with
  | false =>
      rw [selects_iff selected, hasRepeatedField_iff registered.pushed,
        hasRepeatedField_iff registered.pulled]
      simp only [RefusedByCpp, bootstrap]
      constructor
      · rintro ⟨platform, below, ⟨registration, member, -, repeated⟩ |
          ⟨registration, member, -, repeated⟩⟩
        · exact ⟨registration, member, platform, below, repeated⟩
        · exact ⟨registration, member, platform, below, repeated⟩
      · rintro ⟨registration, member, platform, below, repeated⟩
        refine ⟨platform, below, ?_⟩
        cases kind : getAtomType registration.atomField.number with
        | pushed => exact Or.inl ⟨registration, member, kind, repeated⟩
        | pulled => exact Or.inr ⟨registration, member, kind, repeated⟩
  | true =>
      have supported := (forall_not_bootstrapUnsupported_iff registered).trans
        (bootstrapAtoms_iff selected).symm
      have unsupported : (∃ entry ∈ atoms.signatureInfoMap.toList, BootstrapUnsupported entry) ↔
          ¬BootstrapAtoms descriptor moduleName := by
        rw [← supported]
        push Not
        rfl
      simp only [if_true, unsupported, BootstrapAtoms, Selects, RefusedByCpp, bootstrap,
        IsBootstrapAtom]
      push Not
      constructor
      · rintro ⟨platform, atomField, isSelected, atom, type, kind, refused⟩
        exact ⟨atomField, isSelected, atom, type, platform, kind, refused⟩
      · rintro ⟨atomField, isSelected, atom, type, platform, kind, refused⟩
        exact ⟨platform, atomField, isSelected, atom, type, kind, refused⟩

end Registered

theorem collateAtoms_rules (descriptor : AtomDescriptor) (moduleName : String) :
    (collateAtoms descriptor moduleName {}).1 = 0 ↔
      ∀ atomField ∈ selectedAtoms descriptor moduleName, ∃ atom, AtomRule atomField atom := by
  have errors := foldl_collateFromFieldDescriptor_errors moduleName
    (descriptor.fields ++ descriptor.extensions) ({}, [])
  simp only [true_and] at errors
  rw [collateAtoms, List.length_eq_zero_iff, errors]
  simp only [selectedAtoms, List.mem_filter, and_imp]

/-! ## Successful runs -/

/-- What a run needs to return 0.  The result of the C++ writer does not count when a header or
a Java class is written after it. -/
structure Succeeds (opens : String → Bool) (descriptor : AtomDescriptor) (request : Request) :
    Prop where
  options : SupportedOptions request
  rules : ∀ atomField ∈ selectedAtoms descriptor request.moduleName,
    ∃ atom, AtomRule atomField atom
  outputs : ∀ output, request.isRequested output = true →
    Supplied request output ∧ opens (request.filename output) = true ∧
      ¬(output = .java ∧ request.vendorProto ≠ "" ∧ request.supportWorkSource = true)
  java : request.isRequested .java = true →
    ¬Selects descriptor request.moduleName (RefusedByJava request)
  rust : request.isRequested .rust = true →
    ¬Selects descriptor request.moduleName fun _ => RefusedByRust request
  cpp : request.isRequested .cpp = true →
    Selects descriptor request.moduleName (RefusedByCpp request) →
      request.isRequested .header = true ∨ request.isRequested .java = true

section Run

variable {opens : String → Bool} {descriptor : AtomDescriptor} {request : Request}

theorem acceptsOutputs_iff :
    AcceptsOutputs request opens ↔ ∀ output, request.isRequested output = true →
      Supplied request output ∧ opens (request.filename output) = true ∧
        ¬(output = .java ∧ request.vendorProto ≠ "" ∧ request.supportWorkSource = true) :=
  forall_congr' fun _ => imp_congr_right fun _ => refusals_eq_nil_iff

theorem run_status_iff (options : SupportedOptions request) :
    (run opens descriptor request).status = 0 ↔ Succeeds opens descriptor request := by
  cases collated : collateAtoms descriptor request.moduleName {} with
  | mk errorCount atoms =>
      have rules := collateAtoms_rules descriptor request.moduleName
      rw [collated] at rules
      by_cases succeeds : errorCount = 0
      · subst succeeds
        obtain ⟨registrations, selected, registered⟩ := collateAtoms_registered collated
        rw [run_of_collated opens descriptor request collated,
          runOutputs_status request opens atoms registered, clean_iff,
          javaFails_iff registered selected, rustFails_iff registered selected,
          cppFails_iff registered selected, acceptsOutputs_iff]
        constructor
        · rintro ⟨outputs, java, rust, cpp⟩
          exact ⟨options, rules.mp rfl, outputs, java, rust, cpp⟩
        · rintro ⟨-, -, outputs, java, rust, cpp⟩
          exact ⟨outputs, java, rust, cpp⟩
      · have failed : (run opens descriptor request).status = 1 := by
          rw [run, collated]
          simp [succeeds]
        rw [failed]
        exact iff_of_false Nat.one_ne_zero fun run => succeeds (rules.mpr run.rules)

theorem texts_outputs (atoms : Atoms) (static : StaticConstants) (remaining : List Output) :
    (texts request atoms static remaining).map Prod.fst = remaining := by
  induction remaining generalizing static with
  | nil => rfl
  | cons output rest ih => rw [texts, List.map_cons, ih]

/-- A run that succeeds writes every requested file. -/
theorem files_of_succeeds (succeeds : Succeeds opens descriptor request) :
    (run opens descriptor request).files.map Prod.fst = outputs.filter request.isRequested := by
  cases collated : collateAtoms descriptor request.moduleName {} with
  | mk errorCount atoms =>
      have accepted := (collateAtoms_rules descriptor request.moduleName).mpr succeeds.rules
      rw [collated] at accepted
      cases accepted
      rw [run_of_collated opens descriptor request collated, files_runOutputs, texts_outputs,
        writtenOutputs_of_accepts (acceptsOutputs_iff.mpr succeeds.outputs)]

end Run

/-! ## Successful command lines -/

section CommandLine

variable (withVendor : Bool) (opens : String → Bool) (atomDescriptor : String → AtomDescriptor)
  (argv : List String)

/-- The options that the tokens after the program set, one after the other. -/
def requestOf : Request :=
  (commandItems (kind? withVendor) (argv.drop 1)).foldl (applyItem withVendor) {}

variable {withVendor opens atomDescriptor argv}

/-- A command line that is read to its end returns what its run returns, unless its options are
not supported. -/
theorem runArgv_finished {request : Request}
    (read : readOptions withVendor {} (argv.drop 1) = .finished request []) :
    ((runArgv withVendor opens atomDescriptor argv).outcome.status = 0 ↔
      Succeeds opens (atomDescriptor request.vendorProto) request) ∧
    (Succeeds opens (atomDescriptor request.vendorProto) request →
      (runArgv withVendor opens atomDescriptor argv).outcome =
        run opens (atomDescriptor request.vendorProto) request) := by
  rw [runArgv, read]
  simp only [ne_eq, not_true_eq_false, if_false]
  by_cases supported : SupportedOptions request
  · obtain ⟨requested, checked⟩ := supportedOptions_iff.mp supported
    simp [requested, checked, run_status_iff supported]
  · have unsupported : ¬Succeeds opens (atomDescriptor request.vendorProto) request :=
      fun succeeds => supported succeeds.options
    cases requested : request.requestsOutput with
    | false => simp [unsupported]
    | true =>
        cases checked : request.argumentError? with
        | some error => simp [unsupported]
        | none => exact absurd (supportedOptions_iff.mpr ⟨requested, checked⟩) supported

end CommandLine

/-- Which command lines succeed.  The generator returns 0 when no option lacks its value and
`--help` is read or all that a run needs holds; then every requested file is written. -/
theorem runArgv_succeeds_iff (withVendor : Bool) (opens : String → Bool)
    (atomDescriptor : String → AtomDescriptor) (argv : List String) :
    let request := requestOf withVendor argv
    let result := runArgv withVendor opens atomDescriptor argv
    (result.outcome.status = 0 ↔
      ¬IsIncomplete (kind? withVendor) (argv.drop 1) ∧
        (IsStopped (kind? withVendor) (argv.drop 1) ∨
          Succeeds opens (atomDescriptor request.vendorProto) request)) ∧
    (¬IsStopped (kind? withVendor) (argv.drop 1) → result.outcome.status = 0 →
      result.outcome.files.map Prod.fst = outputs.filter request.isRequested) := by
  dsimp only
  have reads := @readsTo_readOptions withVendor {} (argv.drop 1)
  cases read : readOptions withVendor {} (argv.drop 1) with
  | help =>
      rw [read] at reads
      cases reads with
      | help isStopped isComplete =>
          have result : (runArgv withVendor opens atomDescriptor argv).outcome = ⟨0, [], []⟩ := by
            rw [runArgv, read]
          rw [result]
          exact ⟨iff_of_true rfl ⟨isComplete, Or.inl isStopped⟩,
            fun notStopped _ => absurd isStopped notStopped⟩
  | missingValue =>
      rw [read] at reads
      cases reads with
      | missingValue isIncomplete =>
          have result : (runArgv withVendor opens atomDescriptor argv).outcome = ⟨1, [], []⟩ := by
            rw [runArgv, read]
          rw [result]
          exact ⟨iff_of_false Nat.one_ne_zero fun both => both.1 isIncomplete,
            fun _ isZero => absurd isZero Nat.one_ne_zero⟩
  | finished request remaining =>
      rw [read] at reads
      cases reads with
      | finished notStopped isComplete =>
          obtain ⟨status, outcome⟩ := @runArgv_finished withVendor opens atomDescriptor argv _ read
          rw [status]
          constructor
          · rw [or_iff_right notStopped, and_iff_right isComplete]
            exact Iff.rfl
          · intro _ succeeds
            rw [outcome succeeds]
            exact files_of_succeeds succeeds

end StatsLogApiGen.Main
