import StatsLogApiGen.Main.Independence
import StatsLogApiGen.Record.Programs

/-!
# The files of a run

A program that is built with the files of a run logs what the generated logger of an atom
logs, so the files of one run that succeeds record the same messages in every language.
-/

namespace StatsLogApiGen.Record

open Std
open StatsLogApiGen.Container
open StatsLogApiGen.Proto
open StatsLogApiGen.Collation
open StatsLogApiGen.Writer
open StatsLogApiGen.Main
open StatsLogApiGen.Vendor (vendorDescriptor vendorAtoms vendorDecl vendorAtomWithState
  mem_vendorDecl)

/-! ## Written files -/

/-- The files for a logger have been written, and their writers returned 0. -/
def Provides (files : List (Output × Text)) (logger : Logger) : Prop :=
  ∀ output ∈ neededOutputs logger, ∃ file ∈ files, file.1 = output ∧ file.2.status = 0

instance (files : List (Output × Text)) (logger : Logger) : Decidable (Provides files logger) :=
  inferInstanceAs (Decidable (∀ _ ∈ _, ∃ _ ∈ _, _))

/-- A run generates the loggers of vendor atoms or the other ones. -/
def IsGeneratedBy (request : Request) : Logger → Prop
  | .native | .java | .rust => request.vendorProto = "" ∧ request.bootstrap = false
  | .vendorNative | .vendorJava => request.vendorProto ≠ ""

instance (request : Request) : (logger : Logger) → Decidable (IsGeneratedBy request logger)
  | .native | .java | .rust => inferInstanceAs (Decidable (_ = _ ∧ _ = _))
  | .vendorNative | .vendorJava => inferInstanceAs (Decidable (_ ≠ _))

section Run

variable {opens : String → Bool} {descriptor : AtomDescriptor} {request : Request}
  {atoms : Atoms} (accepted : collateAtoms descriptor request.moduleName {} = (0, atoms))

include accepted

theorem files_eq_texts :
    (run opens descriptor request).files =
      texts request atoms none (writtenOutputs request opens) := by
  rw [run_of_collated opens descriptor request accepted, files_runOutputs]

/-- An output is written once. -/
theorem lookup_of_mem_files {file : Output × Text}
    (member : file ∈ (run opens descriptor request).files) :
    (run opens descriptor request).files.lookup file.1 = some file.2 := by
  have distinct : (writtenOutputs request opens).Nodup := by
    have all : outputs.Nodup := by decide
    exact (all.filter _).sublist (List.takeWhile_sublist _)
  have keys : ((run opens descriptor request).files.map Prod.fst) =
      writtenOutputs request opens := by
    rw [files_eq_texts accepted, texts_fst]
  exact lookup_eq_some_of_mem (keys ▸ distinct) member

/-- The text of an output is what its writer prints with a table. -/
theorem exists_table_of_provides {logger : Logger}
    (provides : Provides (run opens descriptor request).files logger) {output : Output}
    (needed : output ∈ neededOutputs logger) :
    ∃ table, (run opens descriptor request).files.lookup output =
        some ((writer request atoms output).write table) ∧
      ((writer request atoms output).write table).status = 0 := by
  obtain ⟨file, listed, rfl, status⟩ := provides output needed
  have found := lookup_of_mem_files accepted listed
  rw [files_eq_texts accepted] at listed
  obtain ⟨table, isText⟩ := exists_table_of_mem_texts listed
  exact ⟨table, isText ▸ found, isText ▸ status⟩

variable (one : OnePrefix opens descriptor request)

include one

/-- A file of a run whose writers pass one prefix has its own text. -/
theorem files_eq :
    (run opens descriptor request).files =
      (writtenOutputs request opens).map fun output => (output, ownText request atoms output) := by
  rw [OnePrefix, accepted] at one
  rw [files_eq_texts accepted]
  apply texts_of_samePrefix
  · intro table isTable
    cases isTable
  · exact one rfl

/-- The files for a logger have their own texts. -/
theorem lookup_of_provides {logger : Logger}
    (provides : Provides (run opens descriptor request).files logger) {output : Output}
    (needed : output ∈ neededOutputs logger) :
    (run opens descriptor request).files.lookup output = some (ownText request atoms output) ∧
      (ownText request atoms output).status = 0 := by
  obtain ⟨⟨_, text⟩, listed, rfl, status⟩ := provides output needed
  have found := lookup_of_mem_files accepted listed
  rw [files_eq accepted one] at listed
  obtain ⟨other, -, isFile⟩ := List.mem_map.mp listed
  cases isFile
  exact ⟨found, status⟩

end Run

/-! ## Texts -/

section Texts

variable {request : Request} {atoms : Atoms} {decl : AtomDecl}

/-- The methods that `write_stats_log_header` declares. -/
def declaredMethods (request : Request) (atoms : Atoms) : List MethodHeader :=
  writeNativeMethodHeader "stats_write" [] atoms.signatureInfoMap false ++
    if request.bootstrap then
      []
    else
      writeNativeMethodHeader "stats_write_non_chained" [] atoms.nonChainedSignatureInfoMap
        false ++
      writeNativeMethodHeader "addAStatsEvent" [⟨"AStatsEventList*", .pulledData⟩]
        atoms.pulledAtomsSignatureInfoMap false

/-- The writers for the platform. -/
theorem writer_platform (platform : request.vendorProto = "") :
    writer request atoms .cpp = cppWriter request atoms ∧
      writer request atoms .header = headerWriter request atoms ∧
      writer request atoms .java = javaWriter request atoms := by
  simp only [writer, platform, if_true, and_self]

/-- The writers for vendor atoms. -/
theorem writer_vendor (vendor : request.vendorProto ≠ "") :
    writer request atoms .cpp = cppVendorWriter atoms ∧
      writer request atoms .header = headerVendorWriter atoms ∧
      writer request atoms .java = javaVendorWriter atoms := by
  simp only [writer, vendor, if_false, and_self]

/-- The texts for the platform. -/
theorem ownText_eq (platform : request.vendorProto = "") :
    let constants := getAnnotationIdConstants annotationConstantNamePrefix
    ownText request atoms .cpp = (cppWriter request atoms).write constants ∧
      ownText request atoms .header = (headerWriter request atoms).write constants ∧
      ownText request atoms .java = (javaWriter request atoms).write constants ∧
      ownText request atoms .rust = (rustWriter request atoms).write constants := by
  obtain ⟨isCpp, isHeader, isJava⟩ := @writer_platform request atoms platform
  refine ⟨?_, ?_, ?_, rfl⟩ <;> simp only [ownText, isCpp, isHeader, isJava] <;> rfl

/-- The texts for vendor atoms. -/
theorem ownText_vendor (vendor : request.vendorProto ≠ "") :
    let native := getAnnotationIdConstants annotationConstantNameVendorNativePrefix
    ownText request atoms .cpp = (cppVendorWriter atoms).write native ∧
      ownText request atoms .header = (headerVendorWriter atoms).write native ∧
      ownText request atoms .java = (javaVendorWriter atoms).write
        (getAnnotationIdConstants annotationConstantNameVendorPrefix) := by
  obtain ⟨isCpp, isHeader, isJava⟩ := @writer_vendor request atoms vendor
  refine ⟨?_, ?_, ?_⟩ <;> simp only [ownText, isCpp, isHeader, isJava] <;> rfl

/-- The header declares the overload of every atom. -/
theorem nativeOverload_declared {declSets : FieldNumberToAtomDeclSet}
    (ordinary : request.bootstrap = false)
    (setsFound : (signatureMap atoms decl.atomType)[decl.signature]? = some declSets) :
    nativeOverload decl.signature decl.atomType ∈
      (declaredMethods request atoms).map declaredOverload := by
  have entryMem := ExtTreeMap.mem_toList_iff_getElem?_eq_some.mpr setsFound
  rw [declaredMethods, ordinary, if_neg (by decide), List.map_append, List.map_append,
    List.mem_append, List.mem_append]
  cases kind : decl.atomType with
  | pushed =>
      rw [kind] at entryMem
      exact Or.inl (List.mem_map_of_mem (List.mem_map_of_mem entryMem))
  | pulled =>
      rw [kind] at entryMem
      exact Or.inr (Or.inr (List.mem_map_of_mem (List.mem_map_of_mem entryMem)))

theorem vendorOverload_declared {declSets : FieldNumberToAtomDeclSet}
    (setsFound : atoms.signatureInfoMap[decl.signature]? = some declSets) :
    vendorNativeOverload decl.signature ∈
      (writeNativeMethodHeader "createVendorAtom" [] atoms.signatureInfoMap true).map
        declaredOverload := by
  have entryMem := ExtTreeMap.mem_toList_iff_getElem?_eq_some.mpr setsFound
  have types : declaredOverload ⟨"createVendorAtom",
      writeNativeMethodSignature [] decl.signature attributionDecl true⟩ =
        vendorNativeOverload decl.signature := by
    rw [declaredOverload, overloadOf, vendorNativeOverload,
      ← nativeSignatureParameters_vendor 1 decl.signature]
    rfl
  rw [← types]
  exact List.mem_map_of_mem (List.mem_map_of_mem entryMem)

/-- The writer of a vendor file that returns 0 prints every method. -/
theorem error_of_status {Method : Type} {printed : Printed Method}
    (status : (if printed.error.isSome then 1 else 0) = 0) : printed.error = none := by
  cases isError : printed.error with
  | none => rfl
  | some reason => simp [isError] at status

end Texts

/-! ## Files for the platform -/

section Platform

variable {opens : String → Bool} {descriptor : AtomDescriptor} {request : Request}
  {atoms : Atoms} (accepted : collateAtoms descriptor request.moduleName {} = (0, atoms))
  (platform : request.vendorProto = "")

include accepted platform

/-- The header and the source of a run, whose methods are all printed. -/
theorem exists_source (provides : Provides (run opens descriptor request).files .native) :
    ∃ methods,
      Native.writeStatsLogCpp (getAnnotationIdConstants annotationConstantNamePrefix) atoms
        attributionDecl request.minApiLevel request.bootstrap = .ok methods ∧
      (run opens descriptor request).files.lookup .header =
        some ((headerWriter request atoms).write
          (getAnnotationIdConstants annotationConstantNamePrefix)) ∧
      (run opens descriptor request).files.lookup .cpp = some (.cpp (.ok methods)) := by
  have one : OnePrefix opens descriptor request := onePrefix_of_native platform
  obtain ⟨isCpp, isHeader, -, -⟩ := @ownText_eq request atoms platform
  obtain ⟨headerFound, -⟩ := lookup_of_provides accepted one provides List.mem_cons_self
  obtain ⟨sourceFound, status⟩ := lookup_of_provides accepted one provides
    (List.mem_cons_of_mem _ List.mem_cons_self)
  rw [isCpp] at sourceFound status
  obtain ⟨methods, source⟩ := isOk_iff_exists.mp ((Java.exitStatus_eq_zero_iff _).mp status)
  have isSource : (cppWriter request atoms).write
      (getAnnotationIdConstants annotationConstantNamePrefix) = .cpp (.ok methods) :=
    congrArg Text.cpp source
  exact ⟨methods, source, isHeader ▸ headerFound, isSource ▸ sourceFound⟩

/-- The class of a run, which is printed without errors. -/
theorem exists_class (provides : Provides (run opens descriptor request).files .java) :
    (run opens descriptor request).files.lookup .java =
        some ((javaWriter request atoms).write
          (getAnnotationIdConstants annotationConstantNamePrefix)) ∧
      (Java.writeStatsLogJava (getAnnotationIdConstants annotationConstantNamePrefix) atoms
        attributionDecl request.minApiLevel request.supportWorkSource).errors = 0 := by
  have one : OnePrefix opens descriptor request := onePrefix_of_native platform
  obtain ⟨-, -, isJava, -⟩ := @ownText_eq request atoms platform
  obtain ⟨found, status⟩ := lookup_of_provides accepted one provides List.mem_cons_self
  rw [isJava] at found status
  exact ⟨found, status⟩

/-- The crate of a run, whose modules are all printed. -/
theorem exists_crate (provides : Provides (run opens descriptor request).files .rust) :
    ∃ modules,
      Rust.writeStatsLogRust (getAnnotationIdConstants annotationConstantNamePrefix) atoms
        attributionDecl request.minApiLevel = .ok modules ∧
      (run opens descriptor request).files.lookup .rust =
        some (.rust (Rust.writeRustAnnotationConstants
          (getAnnotationIdConstants annotationConstantNamePrefix)) (.ok modules)) := by
  have one : OnePrefix opens descriptor request := onePrefix_of_native platform
  obtain ⟨-, -, -, isRust⟩ := @ownText_eq request atoms platform
  obtain ⟨found, status⟩ := lookup_of_provides accepted one provides List.mem_cons_self
  rw [isRust] at found status
  obtain ⟨modules, crate⟩ := isOk_iff_exists.mp ((Java.exitStatus_eq_zero_iff _).mp status)
  have isCrate : (rustWriter request atoms).write
      (getAnnotationIdConstants annotationConstantNamePrefix) =
        .rust (Rust.writeRustAnnotationConstants
          (getAnnotationIdConstants annotationConstantNamePrefix)) (.ok modules) :=
    congrArg (Text.rust _) crate
  exact ⟨modules, crate, isCrate ▸ found⟩

end Platform

/-! ## Logging with the files -/

/-- A program that is built with files logs what the logger of an atom does, which compiles. -/
structure LinksTo (environment : Environment) (atoms : Atoms) (decl : AtomDecl)
    (arguments : List Argument) (files : List (Output × Text)) (logger : Logger) : Prop where
  logs : logWith environment atoms decl.name decl.atomType arguments files logger =
    deliver environment atoms decl arguments logger
  compiles : logger.Compiles environment atoms decl

section Logging

variable {opens : String → Bool} {descriptor : AtomDescriptor} {request : Request}
  {atoms : Atoms} {decl : AtomDecl} {environment : Environment} {arguments : List Argument}
  (accepted : collateAtoms descriptor request.moduleName {} = (0, atoms))
  (constants : DistinctConstants atoms) (one : OnePrefix opens descriptor request)
  (member : decl ∈ elements atoms.decls)
  (level : environment.minApiLevel = request.minApiLevel)

include accepted constants member

variable (typed : arguments.map Argument.type = decl.signature)

section Platform

include level

include typed in
theorem linksTo_native (generated : IsGeneratedBy request .native)
    (provides : Provides (run opens descriptor request).files .native)
    (builds : Builds environment atoms (run opens descriptor request).files .native)
    (supports : Logger.native.Supports environment.minApiLevel decl) :
    LinksTo environment atoms decl arguments (run opens descriptor request).files .native := by
  obtain ⟨platform, ordinary⟩ := generated
  obtain ⟨declSets, setsFound, logged⟩ := exists_logged accepted constants member
  obtain ⟨method, written⟩ := exists_nativeMethod logged supports
  have code := lookup_constant constants member
  obtain ⟨methods, source, headerFound, sourceFound⟩ := exists_source accepted platform provides
  have compiled := builds .cpp (List.mem_cons_of_mem _ List.mem_cons_self) _ sourceFound
  have ordinarySource := ordinary ▸ level ▸ source
  have selected := find?_nativeMethod setsFound ordinarySource compiled.functions written
  have listed := mem_nativeMethods setsFound ordinarySource written
  have declared := nativeOverload_declared ordinary setsFound
  refine ⟨?_, declSets, method, setsFound, written, compiled.bodies.2 method listed⟩
  simp only [logWith, headerFound, sourceFound, Option.bind_some, deliver, setsFound, written,
    Except.toOption]
  change callDeclared (atomConstants atoms) (declaredMethods request atoms) _ _ _ _ _ = _
  rw [typed, callDeclared, if_pos declared, callByName_eq code selected]
  rfl

include typed in
theorem linksTo_java (generated : IsGeneratedBy request .java)
    (provides : Provides (run opens descriptor request).files .java)
    (builds : Builds environment atoms (run opens descriptor request).files .java)
    (supports : Logger.java.Supports environment.minApiLevel decl) :
    LinksTo environment atoms decl arguments (run opens descriptor request).files .java := by
  obtain ⟨declSets, setsFound, logged⟩ := exists_logged accepted constants member
  obtain ⟨method, written⟩ := exists_javaMethod logged supports
  have code := lookup_constant constants member
  obtain ⟨found, status⟩ := exists_class accepted generated.1 provides
  have compiled := builds .java List.mem_cons_self _ found
  have isWritten := level ▸ written
  have selected :=
    find?_javaMethod setsFound logged.accepted status compiled.functions isWritten
  have listed := mem_javaMethods setsFound status isWritten
  refine ⟨?_, declSets, method, setsFound, written, compiled.bodies.2 method listed⟩
  simp only [logWith, found, Option.bind_some, deliver, setsFound, written, Except.toOption]
  change callByName (atomConstants atoms) _ _ _ _ _ = _
  rw [typed, callByName_eq code selected]
  rfl

theorem linksTo_rust (generated : IsGeneratedBy request .rust)
    (provides : Provides (run opens descriptor request).files .rust)
    (builds : Builds environment atoms (run opens descriptor request).files .rust)
    (supports : Logger.rust.Supports environment.minApiLevel decl) :
    LinksTo environment atoms decl arguments (run opens descriptor request).files .rust := by
  obtain ⟨declSets, setsFound, logged⟩ := exists_logged accepted constants member
  obtain ⟨function, written⟩ := exists_rustFunction logged supports
  obtain ⟨modules, crate, found⟩ := exists_crate accepted generated.1 provides
  have compiled := builds .rust List.mem_cons_self _ found
  have isWritten := level ▸ written
  have names := (List.nodup_append.mp compiled.names).2.1
  obtain ⟨chosen, isModule⟩ := @exists_rustModule atoms _ _ _ _ isWritten
  have listed := mem_rustModules member supports.2 crate isModule
  have selected := find?_rustFunction member supports.2 crate names isWritten
  obtain ⟨-, compares, hygienic⟩ := compiled.bodies chosen listed
  refine ⟨?_, function, written, ?_, hygienic function (mem_functions isWritten isModule)⟩
  · simp only [logWith, found, Option.bind_some, deliver, written, Except.toOption]
    rw [logRust, ← Option.bind_assoc, selected, Option.bind_some]
    rfl
  · exact comparesIntegers_function isWritten isModule compares

end Platform

section Vendor

include one typed

theorem linksTo_vendorNative (generated : IsGeneratedBy request .vendorNative)
    (provides : Provides (run opens descriptor request).files .vendorNative)
    (builds : Builds environment atoms (run opens descriptor request).files .vendorNative)
    (supports : Logger.vendorNative.Supports environment.minApiLevel decl) :
    LinksTo environment atoms decl arguments (run opens descriptor request).files
      .vendorNative := by
  obtain ⟨isCpp, isHeader, -⟩ := @ownText_vendor request atoms generated
  obtain ⟨declSets, setsFound, logged⟩ := exists_logged accepted constants member
  rw [supports.1] at setsFound
  have setsFound : atoms.signatureInfoMap[decl.signature]? = some declSets := setsFound
  obtain ⟨method, written⟩ := isOk_iff_exists.mp
    (Vendor.Native.writeNativeCreateVendorAtomMethod_isOk
      (getAnnotationIdConstants annotationConstantNameVendorNativePrefix) logged.accepted declSets)
  have code := lookup_constant constants member
  obtain ⟨headerFound, -⟩ := lookup_of_provides accepted one provides List.mem_cons_self
  obtain ⟨sourceFound, status⟩ := lookup_of_provides accepted one provides
    (List.mem_cons_of_mem _ List.mem_cons_self)
  rw [isHeader] at headerFound
  rw [isCpp] at sourceFound status
  have compiled := builds .cpp (List.mem_cons_of_mem _ List.mem_cons_self) _ sourceFound
  obtain ⟨listed, selected⟩ := find?_printed (error_of_status status) compiled.functions
    (ExtTreeMap.mem_toList_iff_getElem?_eq_some.mpr setsFound) written
  rw [vendorNativeMethod_overload written] at selected
  have declared := vendorOverload_declared setsFound
  refine ⟨?_, declSets, method, setsFound, written, compiled.bodies method listed⟩
  simp only [logWith, headerFound, sourceFound, Option.bind_some, deliver, setsFound, written,
    Except.toOption]
  change callDeclared (atomConstants atoms) _ _ _ _ _ _ = _
  rw [typed, callDeclared, if_pos declared, callByName_eq code selected]
  rfl

theorem linksTo_vendorJava (generated : IsGeneratedBy request .vendorJava)
    (provides : Provides (run opens descriptor request).files .vendorJava)
    (builds : Builds environment atoms (run opens descriptor request).files .vendorJava)
    (supports : Logger.vendorJava.Supports environment.minApiLevel decl) :
    LinksTo environment atoms decl arguments (run opens descriptor request).files
      .vendorJava := by
  obtain ⟨-, -, isJava⟩ := @ownText_vendor request atoms generated
  obtain ⟨declSets, setsFound, logged⟩ := exists_logged accepted constants member
  rw [supports.1] at setsFound
  have setsFound : atoms.signatureInfoMap[decl.signature]? = some declSets := setsFound
  obtain ⟨method, written⟩ := isOk_iff_exists.mp
    ((Vendor.Java.writeJavaPushedMethodVendor_isOk
      (getAnnotationIdConstants annotationConstantNameVendorPrefix) logged.accepted declSets).mpr
        supports.2)
  have code := lookup_constant constants member
  obtain ⟨found, status⟩ := lookup_of_provides accepted one provides List.mem_cons_self
  rw [isJava] at found status
  have compiled := builds .java List.mem_cons_self _ found
  obtain ⟨listed, selected⟩ := find?_printed (error_of_status status) compiled.functions
    (ExtTreeMap.mem_toList_iff_getElem?_eq_some.mpr setsFound) written
  rw [vendorJavaMethod_overload supports.2 written] at selected
  refine ⟨?_, declSets, method, setsFound, written, compiled.bodies method listed⟩
  simp only [logWith, found, Option.bind_some, deliver, setsFound, written, Except.toOption]
  change callByName (atomConstants atoms) _ _ _ _ _ = _
  rw [typed, callByName_eq code selected]
  rfl

end Vendor

include one level typed

/-- A program that is built with the files of a run that compile logs what the logger of the atom
does. -/
theorem linksTo (logger : Logger) (generated : IsGeneratedBy request logger)
    (provides : Provides (run opens descriptor request).files logger)
    (builds : Builds environment atoms (run opens descriptor request).files logger)
    (supports : logger.Supports environment.minApiLevel decl) :
    LinksTo environment atoms decl arguments (run opens descriptor request).files logger := by
  cases logger with
  | native =>
      exact linksTo_native accepted constants member level typed generated provides builds supports
  | java =>
      exact linksTo_java accepted constants member level typed generated provides builds supports
  | rust =>
      exact linksTo_rust accepted constants member level generated provides builds supports
  | vendorNative =>
      exact linksTo_vendorNative accepted constants one member typed generated provides builds
        supports
  | vendorJava =>
      exact linksTo_vendorJava accepted constants one member typed generated provides builds
        supports

end Logging

/-- The files of a run log messages alike: a program that names an atom by its constant and is
built with the files for a language delivers the record of the message. -/
theorem files_record_messages (opens : String → Bool) (descriptor : AtomDescriptor)
    (request : Request) (atoms : Atoms)
    (accepted : collateAtoms descriptor request.moduleName {} = (0, atoms))
    (constants : DistinctConstants atoms) (variants : Rust.DistinctVariants atoms)
    (one : OnePrefix opens descriptor request) (atomField : AtomFieldDescriptor)
    (selected : atomField ∈ selectedAtoms descriptor request.moduleName)
    (atom : Descriptor) (type : atomField.type = .message atom) (decl : AtomDecl)
    (member : decl ∈ elements atoms.decls) (code : decl.code = atomField.number)
    (environment : Environment) (declares : environment.Declares atoms decl)
    (level : environment.minApiLevel = request.minApiLevel)
    (message : MessageValue) (fits : Fits message atom) (keeps : KeepsStates atom)
    (logger : Logger) (generated : IsGeneratedBy request logger)
    (provides : Provides (run opens descriptor request).files logger)
    (builds : Builds environment atoms (run opens descriptor request).files logger)
    (supports : logger.Supports environment.minApiLevel decl)
    (conveys : Conveys environment decl (callArguments atom message) logger) :
    (logWith environment atoms atomField.name (getAtomType atomField.number)
        (callArguments atom message) (run opens descriptor request).files logger).bind
          Delivery.record =
      some (view environment (recordOf atomField atom message) logger) := by
  obtain ⟨registration, rfl, rfl, rfl⟩ :=
    exists_registration_of_code accepted selected type member code
  have links := linksTo accepted constants one member level (callArguments_types fits) logger
    generated provides builds supports
  rw [← registration.decl_name, ← registration.decl_atomType, links.logs,
    deliver_record accepted constants variants member fits keeps declares logger supports
      links.compiles conveys]

/-- All outputs of a module for devices from T on. -/
def everyOutput : Request where
  filename
    | .cpp => "statslog.cpp"
    | .header => "statslog.h"
    | .java => "StatsLog.java"
    | .rust => "statslog.rs"
    | .rustHeader => "statslog_header.rs"
  javaPackage := "com.vendor"
  javaClass := "StatsLog"
  rustHeaderCrate := "statslog_header"
  moduleName := "test"
  cppNamespace := "vendor,util"
  cppHeaderImport := "statslog_vendor.h"
  minApiLevel := apiT

theorem files_record_messages_everyOutput :
    (logWith declaredEnvironment vendorAtoms "stateAtom4" .pushed
        [.string "com.vendor", .int 2, .boolean true]
        (run (fun _ => true) vendorDescriptor everyOutput).files .native).bind Delivery.record =
      some ⟨⟨105509, []⟩, [⟨.string "com.vendor", []⟩,
        ⟨.int 2, [⟨4, .bool true⟩, ⟨8, .bool true⟩, ⟨7, .int 0⟩]⟩,
        ⟨.boolean true, [⟨3, .bool true⟩]⟩]⟩ :=
  (files_record_messages (fun _ => true) vendorDescriptor everyOutput vendorAtoms
    (Prod.ext (by decide) rfl) (by decide) (by decide) (onePrefix_of_native rfl) _
    List.mem_cons_self vendorAtomWithState rfl vendorDecl mem_vendorDecl (by decide)
    declaredEnvironment (declares_declaredEnvironment _ _) rfl resetMessage (by decide) (by decide)
    .native (by decide) (by decide) (by decide) (Or.inl (by decide)) (by decide)).trans (by decide)

end StatsLogApiGen.Record
