import Mathlib.Data.List.TakeWhile
import StatsLogApiGen.Main.Run
import StatsLogApiGen.Vendor.Agreement
import StatsLogApiGen.Vendor.AnnotationNames

/-!
# Outputs of one run

A writer gets the table that the first call in the run has built.  Its output is the one
of a run of its own exactly when that call passed the same prefix.
-/

namespace StatsLogApiGen.Main

open StatsLogApiGen.Container
open StatsLogApiGen.Proto
open StatsLogApiGen.Collation
open StatsLogApiGen.Writer

/-! ## Calls -/

theorem getAnnotationIdConstants_injective {left right : String}
    (same : getAnnotationIdConstants left = getAnnotationIdConstants right) : left = right := by
  have name := congrArg (fun constants => (constants AnnotationId.isUid).name) same
  exact (String.append_left_inj _).mp name

/-- Every call returns the table for the prefix that it passes. -/
def CallsIndependent (prefixes : List String) : Prop :=
  callAll none prefixes = prefixes.map getAnnotationIdConstants

theorem callAll_some (table : AnnotationIdConstants) (prefixes : List String) :
    callAll (some table) prefixes = prefixes.map fun _ => table := by
  induction prefixes with
  | nil => rfl
  | cons namePrefix rest ih => rw [callAll, List.map_cons, ← ih]; rfl

/-- Calls are independent of each other when all of them pass one prefix. -/
theorem callsIndependent_iff (prefixes : List String) :
    CallsIndependent prefixes ↔ ∀ left ∈ prefixes, ∀ right ∈ prefixes, left = right := by
  rw [CallsIndependent]
  cases prefixes with
  | nil => simp [callAll]
  | cons first rest =>
      have called : callAll none (first :: rest) =
          (first :: rest).map fun _ => getAnnotationIdConstants first := by
        rw [callAll, callAll_some]
        rfl
      rw [called, List.map_inj_left]
      constructor
      · intro same left leftMem right rightMem
        rw [← getAnnotationIdConstants_injective (same left leftMem)]
        exact getAnnotationIdConstants_injective (same right rightMem)
      · intro same namePrefix member
        rw [same first List.mem_cons_self namePrefix member]

/-! ## The files of a run -/

section Files

variable (request : Request) (opens : String → Bool) (atoms : Atoms)

/-- The outputs that are written: the requested ones up to the first fault. -/
def writtenOutputs : List Output :=
  (outputs.filter request.isRequested).takeWhile fun output =>
    request.refusals opens output = []

/-- The texts of writers that run one after the other. -/
def texts : StaticConstants → List Output → List (Output × Text)
  | _, [] => []
  | static, output :: rest =>
      let ran := (writer request atoms output).run static
      (output, ran.1) :: texts ran.2 rest

/-- What has been done when the run ends. -/
def finalProgress : Except Progress Progress → Progress
  | .error progress => progress
  | .ok progress => progress

theorem files_foldlM (remaining : List Output) (progress : Progress) :
    (finalProgress (remaining.foldlM (runPhase request opens atoms) progress)).files =
      progress.files ++ texts request atoms progress.static
        ((remaining.filter request.isRequested).takeWhile fun output =>
          request.refusals opens output = []) := by
  induction remaining generalizing progress with
  | nil => simp [finalProgress, texts, pure, Except.pure]
  | cons output rest ih =>
      by_cases requested : request.isRequested output = true
      · rw [List.filter_cons_of_pos requested]
        cases refused : request.refusals opens output with
        | cons fault others =>
            rw [List.takeWhile_cons_of_neg (by simp [refused])]
            have failed : runPhase request opens atoms progress output = .error
                { progress with
                  reports := progress.reports ++ request.warnings output ++ [fault] } := by
              rw [runPhase, if_pos requested, refused]
            rw [foldlM_cons_of_error failed]
            simp [finalProgress, texts]
        | nil =>
            rw [List.takeWhile_cons_of_pos (by simp [refused])]
            let ran := (writer request atoms output).run progress.static
            have stepped : runPhase request opens atoms progress output = .ok
                { static := ran.2
                  errorCount := countErrors output progress.errorCount ran.1.status
                  files := progress.files ++ [(output, ran.1)]
                  reports := progress.reports ++ request.warnings output } := by
              rw [runPhase, if_pos requested, refused]
            rw [foldlM_cons_of_ok stepped, ih, texts, List.append_assoc]
            rfl
      · rw [List.filter_cons_of_neg requested]
        have stepped : runPhase request opens atoms progress output = .ok progress := by
          rw [runPhase, if_neg requested]
        rw [foldlM_cons_of_ok stepped, ih]

/-- A run writes the texts of its outputs in order. -/
theorem files_runOutputs :
    (runOutputs request opens atoms).files =
      texts request atoms none (writtenOutputs request opens) := by
  have files := files_foldlM request opens atoms outputs {}
  rw [List.nil_append] at files
  rw [runOutputs, writtenOutputs, ← files]
  cases outputs.foldlM (runPhase request opens atoms) {} <;> rfl

/-- The text of an output in a run of its own. -/
def ownText (output : Output) : Text :=
  let writer := writer request atoms output
  writer.write (getAnnotationIdConstants writer.namePrefix)

theorem texts_singleton (output : Output) :
    texts request atoms none [output] = [(output, ownText request atoms output)] := by
  rw [texts, texts, OutputWriter.run]
  split <;> rfl

theorem filename_only_self (output : Output) :
    (request.only output).filename output = request.filename output :=
  if_pos rfl

theorem writtenOutputs_only {output : Output}
    (written : output ∈ writtenOutputs request opens) :
    writtenOutputs (request.only output) opens = [output] := by
  have accepted : request.refusals opens output = [] := by
    simpa using List.mem_takeWhile_imp written
  have requested : request.filename output ≠ "" := by
    have kept := (List.takeWhile_sublist _).subset written
    simpa [Request.isRequested] using (List.mem_filter.mp kept).2
  have single : outputs.filter (request.only output).isRequested = [output] := by
    cases output <;> simp [outputs, Request.only, Request.isRequested, requested]
  have sameRefusals : (request.only output).refusals opens output = [] := by
    rw [← accepted, Request.refusals, Request.refusals, filename_only_self]
    rfl
  rw [writtenOutputs, single, List.takeWhile_cons_of_pos (by simp [sameRefusals])]
  rfl

/-- A written output has its own text in the run that requests nothing else. -/
theorem files_only {output : Output} (written : output ∈ writtenOutputs request opens) :
    (runOutputs (request.only output) opens atoms).files =
      [(output, ownText request atoms output)] := by
  rw [files_runOutputs, writtenOutputs_only request opens written, texts_singleton]
  cases output <;> rfl

end Files

/-! ## Names in the vendor methods -/

section VendorMethods

open StatsLogApiGen.Vendor

variable {descriptor : AtomDescriptor} {moduleName : String} {atoms : Atoms}

/-- A field with annotated declarations in a pushed signature has printed annotations. -/
theorem fieldAnnotations_ne_nil {registrations : List Registration}
    (registered : Registered registrations atoms)
    {entry : Signature × FieldNumberToAtomDeclSet}
    (entryMem : entry ∈ atoms.signatureInfoMap.toList) {fieldNumber : Int}
    (annotated : (elements (getAnnotations fieldNumber entry.2)).length > 0) :
    fieldAnnotations fieldNumber (getAnnotations fieldNumber entry.2) ≠ [] := by
  have indexes := registered.pushed.indexesDecls registered.decls
  rcases List.exists_mem_of_length_pos annotated with ⟨decl, member⟩
  have found := Std.ExtTreeMap.mem_toList_iff_getElem?_eq_some.mp entryMem
  cases stored : entry.2[fieldNumber]? with
  | none =>
      rw [getAnnotations, stored] at member
      simp [elements] at member
  | some atomDeclSet =>
      rw [getAnnotations, stored, Option.getD_some] at member
      rcases mem_elements_iff.mp member with ⟨key, keyFound⟩
      have isAnnotated :=
        ((indexes.declarations _ _ _ _ found stored key decl).mp keyFound).2
      rcases List.mem_map.mp (registered.decls.mem_elements.mp isAnnotated.member) with
        ⟨registration, -, rfl⟩
      rw [fieldAnnotations, getAnnotations, stored, Option.getD_some]
      intro empty
      exact printedAnnotations_ne_nil isAnnotated.annotated
        (List.flatMap_eq_nil_iff.mp empty _ member)

/-- A vendor method that needs the constants prints one. -/
theorem methodAnnotations_ne_nil {registrations : List Registration}
    (registered : Registered registrations atoms)
    {entry : Signature × FieldNumberToAtomDeclSet}
    (entryMem : entry ∈ atoms.signatureInfoMap.toList)
    (calls : vendorMethodCalls entry = true) : methodAnnotations entry ≠ [] := by
  rw [methodAnnotations]
  intro empty
  rcases List.append_eq_nil_iff.mp empty with ⟨atomEmpty, valuesEmpty⟩
  rcases Bool.or_eq_true_iff.mp calls with onAtom | onValue
  · exact fieldAnnotations_ne_nil registered entryMem (of_decide_eq_true onAtom) atomEmpty
  · rcases List.any_eq_true.mp onValue with ⟨argIndex, member, annotated⟩
    exact fieldAnnotations_ne_nil registered entryMem (of_decide_eq_true annotated)
      (List.flatMap_eq_nil_iff.mp valuesEmpty argIndex member)

theorem prefix_eq_of_withNames {left right : String}
    {printed : List (AnnotationId × ValueOperand)} (some : printed ≠ [])
    (same : withNames (getAnnotationIdConstants left) printed =
      withNames (getAnnotationIdConstants right) printed) : left = right := by
  rcases List.exists_mem_of_ne_nil _ some with ⟨pair, member⟩
  have name := congrArg Prod.fst ((List.map_inj_left.mp same) pair member)
  exact (String.append_left_inj _).mp name

/-- Methods that need the constants tell with which prefix they were written. -/
theorem prefix_eq_of_printUntilError {Method : Type}
    {stored : Method → List (String × ValueOperand)}
    {write : AnnotationIdConstants → Signature × FieldNumberToAtomDeclSet →
      Except WriterError Method}
    (named : ∀ constants entry method, write constants entry = .ok method →
      stored method = withNames constants (methodAnnotations entry))
    {left right : String} {entries : List (Signature × FieldNumberToAtomDeclSet)}
    (some : ∀ entry ∈ entries, vendorMethodCalls entry = true → methodAnnotations entry ≠ [])
    (calls : doesUntilError (write (getAnnotationIdConstants right))
      (fun entry => (write (getAnnotationIdConstants right) entry).isOk &&
        vendorMethodCalls entry) entries = true)
    (same : printUntilError (write (getAnnotationIdConstants left)) entries =
      printUntilError (write (getAnnotationIdConstants right)) entries) : left = right := by
  induction entries with
  | nil => contradiction
  | cons entry rest ih =>
      rw [doesUntilError] at calls
      rw [printUntilError, printUntilError] at same
      cases written : write (getAnnotationIdConstants right) entry with
      | error reason => simp [written, Except.isOk, Except.toBool] at calls
      | ok method =>
          rw [written] at calls same
          cases other : write (getAnnotationIdConstants left) entry with
          | error reason =>
              rw [other] at same
              exact absurd (congrArg Printed.methods same) (by simp)
          | ok otherMethod =>
              rw [other] at same
              rcases List.cons_eq_cons.mp (congrArg Printed.methods same) with
                ⟨sameMethod, sameMethods⟩
              have sameError := congrArg Printed.error same
              rcases Bool.or_eq_true_iff.mp calls with here | later
              · have annotated := some entry List.mem_cons_self
                  ((Bool.and_eq_true_iff.mp here).2)
                apply prefix_eq_of_withNames annotated
                rw [← named _ _ _ other, ← named _ _ _ written, sameMethod]
              · apply ih (fun entry member => some entry (List.mem_cons_of_mem _ member))
                · exact (Bool.and_eq_true_iff.mp later).2
                · cases first : printUntilError (write (getAnnotationIdConstants left)) rest
                  cases second : printUntilError (write (getAnnotationIdConstants right)) rest
                  rw [first, second] at sameMethods sameError
                  exact congrArg₂ Printed.mk sameMethods sameError

end VendorMethods

/-! ## One prefix -/

section OnePrefix

variable (request : Request) (opens : String → Bool) (atoms : Atoms)

/-- The text of an output tells for which prefix its table was built, if its writer needs
the table. -/
def TellsPrefix (output : Output) : Prop :=
  (writer request atoms output).calls = true → ∀ other,
    (writer request atoms output).write
        (getAnnotationIdConstants (writer request atoms other).namePrefix) =
      ownText request atoms output →
    (writer request atoms other).namePrefix = (writer request atoms output).namePrefix

theorem namePrefix_of_native {request : Request} (native : request.vendorProto = "")
    (output : Output) :
    (writer request atoms output).namePrefix = annotationConstantNamePrefix := by
  cases output <;> simp [writer, native] <;> rfl

theorem namePrefix_mem (output : Output) :
    (writer request atoms output).namePrefix ∈
      [annotationConstantNamePrefix, annotationConstantNameVendorPrefix,
        annotationConstantNameVendorNativePrefix] := by
  by_cases native : request.vendorProto = ""
  · rw [namePrefix_of_native atoms native]
    exact List.mem_cons_self
  · cases output <;> simp [writer, native, cppVendorWriter, headerVendorWriter, javaVendorWriter,
      rustWriter, rustHeaderWriter]

/-- The constants of the Rust crate differ for different prefixes. -/
theorem prefix_eq_of_rustConstants {namePrefix : String}
    (known : namePrefix ∈ [annotationConstantNamePrefix, annotationConstantNameVendorPrefix,
      annotationConstantNameVendorNativePrefix])
    (same : Rust.writeRustAnnotationConstants (getAnnotationIdConstants namePrefix) =
      Rust.writeRustAnnotationConstants
        (getAnnotationIdConstants annotationConstantNamePrefix)) :
    namePrefix = annotationConstantNamePrefix := by
  have first := (List.map_inj_left.mp same) .isUid List.mem_cons_self
  have name := congrArg Prod.fst first
  simp only [List.mem_cons, List.not_mem_nil, or_false] at known
  rcases known with rfl | rfl | rfl
  · rfl
  · exact absurd name (by decide)
  · exact absurd name (by decide)

theorem prefix_eq_of_cppVendorWriter {registrations : List Registration}
    (registered : Registered registrations atoms) {namePrefix : String}
    (calls : (cppVendorWriter atoms).calls = true)
    (same : (cppVendorWriter atoms).write (getAnnotationIdConstants namePrefix) =
      (cppVendorWriter atoms).write
        (getAnnotationIdConstants annotationConstantNameVendorNativePrefix)) :
    namePrefix = annotationConstantNameVendorNativePrefix := by
  have annotated := fun entry entryMem =>
    @methodAnnotations_ne_nil atoms _ registered entry entryMem
  have named := fun constants entry method
    (written : Vendor.Native.writeNativeCreateVendorAtomMethod constants attributionDecl entry =
      .ok method) => Vendor.Native.storedAnnotations_method constants written
  exact prefix_eq_of_printUntilError named annotated calls (Text.vendorCpp.inj same)

theorem prefix_eq_of_javaVendorWriter {registrations : List Registration}
    (registered : Registered registrations atoms) {namePrefix : String}
    (calls : (javaVendorWriter atoms).calls = true)
    (same : (javaVendorWriter atoms).write (getAnnotationIdConstants namePrefix) =
      (javaVendorWriter atoms).write
        (getAnnotationIdConstants annotationConstantNameVendorPrefix)) :
    namePrefix = annotationConstantNameVendorPrefix := by
  have annotated := fun entry entryMem =>
    @methodAnnotations_ne_nil atoms _ registered entry entryMem
  have named := fun constants entry method
    (written : Vendor.Java.writeJavaPushedMethodVendor constants entry = .ok method) =>
      Vendor.Java.storedAnnotations_method constants written
  exact prefix_eq_of_printUntilError named annotated calls (Text.vendorJava.inj same).2.2

/-- Every output of accepted atoms tells its prefix. -/
theorem tellsPrefix {registrations : List Registration}
    (registered : Registered registrations atoms) (output : Output) :
    TellsPrefix request atoms output := by
  intro calls other same
  have known := namePrefix_mem request atoms other
  rw [ownText] at same
  by_cases native : request.vendorProto = ""
  · rw [namePrefix_of_native atoms native, namePrefix_of_native atoms native]
  · cases output with
    | cpp =>
        have isVendor : writer request atoms .cpp = cppVendorWriter atoms := if_neg native
        rw [isVendor] at calls same ⊢
        exact prefix_eq_of_cppVendorWriter atoms registered calls same
    | header =>
        have isVendor : writer request atoms .header = headerVendorWriter atoms := if_neg native
        rw [isVendor] at calls
        contradiction
    | java =>
        have isVendor : writer request atoms .java = javaVendorWriter atoms := if_neg native
        rw [isVendor] at calls same ⊢
        exact prefix_eq_of_javaVendorWriter atoms registered calls same
    | rust => exact prefix_eq_of_rustConstants known (Text.rust.inj same).1
    | rustHeader => contradiction

/-- The writers that need the table agree with it. -/
def StaticAgrees (static : StaticConstants) (remaining : List Output) : Prop :=
  ∀ table, static = some table → ∀ output ∈ remaining,
    (writer request atoms output).calls = true →
      table = getAnnotationIdConstants (writer request atoms output).namePrefix

/-- The writers of some outputs pass one prefix. -/
def SamePrefix (remaining : List Output) : Prop :=
  ∀ left ∈ remaining, ∀ right ∈ remaining,
    (writer request atoms left).calls = true → (writer request atoms right).calls = true →
      (writer request atoms left).namePrefix = (writer request atoms right).namePrefix

/-- Writers that agree with the table print their own texts. -/
theorem texts_of_samePrefix {static : StaticConstants} {remaining : List Output}
    (agrees : StaticAgrees request atoms static remaining)
    (same : SamePrefix request atoms remaining) :
    texts request atoms static remaining =
      remaining.map fun output => (output, ownText request atoms output) := by
  induction remaining generalizing static with
  | nil => rfl
  | cons output rest ih =>
      have sameRest : SamePrefix request atoms rest := fun left leftMem right rightMem =>
        same left (List.mem_cons_of_mem _ leftMem) right (List.mem_cons_of_mem _ rightMem)
      rw [texts, List.map_cons, OutputWriter.run]
      by_cases calls : (writer request atoms output).calls = true
      · rw [if_pos calls]
        have called : callGetAnnotationIdConstants (writer request atoms output).namePrefix
            static = getAnnotationIdConstants (writer request atoms output).namePrefix := by
          cases static with
          | none => rfl
          | some table => exact agrees table rfl output List.mem_cons_self calls
        simp only [called]
        rw [ih _ sameRest]
        · rfl
        · intro table isTable other member otherCalls
          rw [← Option.some.inj isTable, same output List.mem_cons_self other
            (List.mem_cons_of_mem _ member) calls otherCalls]
      · rw [if_neg calls, ih _ sameRest]
        · rfl
        · exact fun table isTable other member =>
            agrees table isTable other (List.mem_cons_of_mem _ member)

/-- Writers that print their own texts from a table pass the prefix of the table. -/
theorem prefix_eq_of_texts (tells : ∀ output, TellsPrefix request atoms output)
    {first : Output} {remaining : List Output}
    (own : texts request atoms
        (some (getAnnotationIdConstants (writer request atoms first).namePrefix)) remaining =
      remaining.map fun output => (output, ownText request atoms output)) :
    ∀ output ∈ remaining, (writer request atoms output).calls = true →
      (writer request atoms first).namePrefix = (writer request atoms output).namePrefix := by
  induction remaining with
  | nil => simp
  | cons head rest ih =>
      rw [texts, List.map_cons, OutputWriter.run] at own
      intro output member calls
      by_cases headCalls : (writer request atoms head).calls = true
      · rw [if_pos headCalls] at own
        rcases List.cons_eq_cons.mp own with ⟨here, later⟩
        rcases List.mem_cons.mp member with rfl | inRest
        · exact tells output calls first (congrArg Prod.snd here)
        · exact ih later output inRest calls
      · rw [if_neg headCalls] at own
        rcases List.mem_cons.mp member with rfl | inRest
        · exact absurd calls headCalls
        · exact ih (List.cons_eq_cons.mp own).2 output inRest calls

/-- Writers that print their own texts pass one prefix. -/
theorem samePrefix_of_texts (tells : ∀ output, TellsPrefix request atoms output)
    {remaining : List Output}
    (own : texts request atoms none remaining =
      remaining.map fun output => (output, ownText request atoms output)) :
    SamePrefix request atoms remaining := by
  induction remaining with
  | nil => exact fun left member => absurd member List.not_mem_nil
  | cons head rest ih =>
      rw [texts, List.map_cons, OutputWriter.run] at own
      by_cases headCalls : (writer request atoms head).calls = true
      · rw [if_pos headCalls] at own
        have later := prefix_eq_of_texts request atoms tells (List.cons_eq_cons.mp own).2
        have fromHead : ∀ output ∈ head :: rest, (writer request atoms output).calls = true →
            (writer request atoms head).namePrefix =
              (writer request atoms output).namePrefix := by
          intro output member calls
          rcases List.mem_cons.mp member with rfl | inRest
          · rfl
          · exact later output inRest calls
        intro left leftMem right rightMem leftCalls rightCalls
        rw [← fromHead left leftMem leftCalls, fromHead right rightMem rightCalls]
      · rw [if_neg headCalls] at own
        have restSame := ih (List.cons_eq_cons.mp own).2
        intro left leftMem right rightMem leftCalls rightCalls
        rcases List.mem_cons.mp leftMem with rfl | leftRest
        · exact absurd leftCalls headCalls
        · rcases List.mem_cons.mp rightMem with rfl | rightRest
          · exact absurd rightCalls headCalls
          · exact restSame left leftRest right rightRest leftCalls rightCalls

end OnePrefix

/-! ## Independence -/

/-- The text of every output is the one of a run that requests nothing else. -/
def OutputsIndependent (opens : String → Bool) (descriptor : AtomDescriptor)
    (request : Request) : Prop :=
  ∀ file ∈ (run opens descriptor request).files,
    (run opens descriptor (request.only file.1)).files = [file]

/-- The outputs that are written after collation has succeeded pass one prefix. -/
def OnePrefix (opens : String → Bool) (descriptor : AtomDescriptor) (request : Request) : Prop :=
  let (errorCount, atoms) := collateAtoms descriptor request.moduleName {}
  errorCount = 0 → SamePrefix request atoms (writtenOutputs request opens)

section Independence

variable (opens : String → Bool) (descriptor : AtomDescriptor) (request : Request)

theorem texts_fst (atoms : Atoms) (static : StaticConstants) (remaining : List Output) :
    (texts request atoms static remaining).map Prod.fst = remaining := by
  induction remaining generalizing static with
  | nil => rfl
  | cons output rest ih => rw [texts, List.map_cons, ih]

omit opens descriptor in
/-- A writer prints its text with some table. -/
theorem exists_table_of_mem_texts {request : Request} {atoms : Atoms} {static : StaticConstants}
    {remaining : List Output} {file : Output × Text}
    (member : file ∈ texts request atoms static remaining) :
    ∃ table, file.2 = (writer request atoms file.1).write table := by
  induction remaining generalizing static with
  | nil => cases member
  | cons output rest ih =>
      rw [texts, List.mem_cons] at member
      rcases member with rfl | later
      · dsimp only
        rw [OutputWriter.run]
        split <;> exact ⟨_, rfl⟩
      · exact ih later

theorem run_of_collated {atoms : Atoms}
    (collated : collateAtoms descriptor request.moduleName {} = (0, atoms)) :
    run opens descriptor request = runOutputs request opens atoms := by
  rw [run, collated]
  rfl

/-- Outputs are independent when each of them has its own text. -/
theorem outputsIndependent_iff_texts {atoms : Atoms}
    (collated : collateAtoms descriptor request.moduleName {} = (0, atoms)) :
    OutputsIndependent opens descriptor request ↔
      texts request atoms none (writtenOutputs request opens) =
        (writtenOutputs request opens).map fun output =>
          (output, ownText request atoms output) := by
  have alone : ∀ file ∈ texts request atoms none (writtenOutputs request opens),
      (run opens descriptor (request.only file.1)).files =
        [(file.1, ownText request atoms file.1)] := by
    intro file member
    have written : file.1 ∈ writtenOutputs request opens := by
      rw [← texts_fst request atoms none (writtenOutputs request opens)]
      exact List.mem_map_of_mem member
    rw [run_of_collated opens descriptor (request.only file.1) collated,
      files_only request opens atoms written]
  rw [OutputsIndependent, run_of_collated opens descriptor request collated, files_runOutputs]
  constructor
  · intro independent
    have own := fun file member =>
      (List.cons_eq_cons.mp ((alone file member).symm.trans (independent file member))).1
    have mapped : (texts request atoms none (writtenOutputs request opens)).map
        (fun file => (file.1, ownText request atoms file.1)) =
        (texts request atoms none (writtenOutputs request opens)).map id :=
      List.map_congr_left own
    conv_rhs => rw [← texts_fst request atoms none (writtenOutputs request opens), List.map_map]
    rw [List.map_id] at mapped
    exact mapped.symm
  · intro own file member
    rw [alone file member]
    rw [own] at member
    rcases List.mem_map.mp member with ⟨output, -, rfl⟩
    rfl

/-- The outputs of a run are independent of each other when they pass one prefix. -/
theorem outputsIndependent_iff :
    OutputsIndependent opens descriptor request ↔ OnePrefix opens descriptor request := by
  cases collated : collateAtoms descriptor request.moduleName {} with
  | mk errorCount atoms =>
      by_cases succeeds : errorCount = 0
      · subst succeeds
        rcases collateAtoms_registered collated with ⟨registrations, -, registered⟩
        rw [outputsIndependent_iff_texts opens descriptor request collated, OnePrefix, collated]
        constructor
        · intro own _
          exact samePrefix_of_texts request atoms (tellsPrefix request atoms registered) own
        · intro same
          apply texts_of_samePrefix request atoms _ (same rfl)
          intro table isTable
          contradiction
      · have noFiles : (run opens descriptor request).files = [] := by
          rw [run, collated]
          simp [succeeds]
        rw [OutputsIndependent, OnePrefix, noFiles, collated]
        simp [succeeds]

end Independence

/-- Without a vendor proto the outputs pass one prefix. -/
theorem onePrefix_of_native {opens : String → Bool} {descriptor : AtomDescriptor}
    {request : Request} (native : request.vendorProto = "") :
    OnePrefix opens descriptor request := by
  intro _ left _ right _ _ _
  rw [namePrefix_of_native _ native, namePrefix_of_native _ native]

/-- Calls of `get_annotation_id_constants` return the tables for their prefixes when they
pass one prefix, and so it is with the outputs of a run. -/
theorem generates_independently_iff (prefixes : List String) (opens : String → Bool)
    (descriptor : AtomDescriptor) (request : Request) :
    (CallsIndependent prefixes ↔ ∀ left ∈ prefixes, ∀ right ∈ prefixes, left = right) ∧
    (OutputsIndependent opens descriptor request ↔ OnePrefix opens descriptor request) :=
  ⟨callsIndependent_iff prefixes, outputsIndependent_iff opens descriptor request⟩

/-- A C++ source and a Java class for vendor atoms. -/
def vendorRequest : Request where
  filename
    | .cpp => "VendorAtoms.cpp"
    | .java => "VendorAtoms.java"
    | _ => ""
  javaPackage := "com.android.vendor"
  javaClass := "VendorAtoms"
  moduleName := "test"
  cppNamespace := "android,VendorAtoms"
  cppHeaderImport := "VendorAtoms.h"
  vendorProto := "test_vendor_atoms.proto"

theorem not_outputsIndependent_vendorRequest :
    ¬OutputsIndependent (fun _ => true) Vendor.vendorDescriptor vendorRequest := by
  rw [outputsIndependent_iff]
  intro one
  have same := one (by decide) .cpp (by decide) .java (by decide) (by decide) (by decide)
  exact absurd same (by decide)

end StatsLogApiGen.Main
