import StatsLogApiGen.Native.Run
import StatsLogApiGen.Rust.Run
import StatsLogApiGen.Writer.Agreement

/-!
# Agreement of the Rust writer with the native writer

The Rust function of an atom is the native method for its signature, run with the
code of the atom, up to the conversions of Rust.
-/

namespace StatsLogApiGen.Rust

open Std
open StatsLogApiGen.Container
open StatsLogApiGen.Proto
open StatsLogApiGen.Collation
open StatsLogApiGen.Writer

/-! ## Generated loggers -/

/-- The native method that is generated for the signature of an atom: `stats_write`
or `addAStatsEvent`. -/
def nativeMethod (constants : AnnotationIdConstants) (minApiLevel : Int) (decl : AtomDecl)
    (declSets : FieldNumberToAtomDeclSet) : Except WriterError Native.Method :=
  match decl.atomType with
  | .pushed => Native.writeNativeStatsWriteMethod constants attributionDecl minApiLevel false
      (decl.signature, declSets)
  | .pulled => Native.writeNativeBuildStatsEventMethod constants attributionDecl minApiLevel
      (decl.signature, declSets)

/-- What the native method does when it is called with the code of the atom.  It is
part of the generated source if there is one. -/
def NativeLogs (atoms : Atoms) (platform : Platform) (minApiLevel : Int) (decl : AtomDecl)
    (arguments : List Argument) (result : Except Stuck (List EventOp)) : Prop :=
  let constants := getAnnotationIdConstants annotationConstantNamePrefix
  ∃ declSets method,
    (signatureMap atoms decl.atomType)[decl.signature]? = some declSets ∧
    nativeMethod constants minApiLevel decl declSets = .ok method ∧
    (∀ methods, Native.writeStatsLogCpp constants atoms attributionDecl minApiLevel false =
      .ok methods → method ∈ methods) ∧
    method.call atoms constants platform minApiLevel decl.code arguments = result

/-- What the Rust function of the atom does.  It is part of the module of the atom in
the generated crate. -/
def RustLogs (atoms : Atoms) (minApiLevel : Int) (decl : AtomDecl)
    (arguments : List Argument) (result : Except Halt (List EventOp)) : Prop :=
  let constants := getAnnotationIdConstants annotationConstantNamePrefix
  ∃ function modules,
    writeRustStatsWriteMethod constants attributionDecl minApiLevel decl = .ok function ∧
    writeStatsLogRust constants atoms attributionDecl minApiLevel = .ok modules ∧
    (∃ module ∈ modules, module.name = decl.name ∧ function ∈ module.functions) ∧
    function.call atoms constants arguments = result

/-- Both loggers of an atom issue the same sequence of operations. -/
def LogsAlike (atoms : Atoms) (platform : Platform) (minApiLevel : Int) (decl : AtomDecl)
    (arguments : List Argument) : Prop :=
  ∃ events, NativeLogs atoms platform minApiLevel decl arguments (.ok events) ∧
    RustLogs atoms minApiLevel decl arguments (.ok events)

/-! ## The generated crate -/

/-- Above Q the crate can be generated from accepted atoms. -/
theorem writeStatsLogRust_isOk {registrations : List Registration} {atoms : Atoms}
    (registered : Registered registrations atoms) (constants : AnnotationIdConstants)
    {minApiLevel : Int} (level : minApiLevel ≠ apiQ) :
    (writeStatsLogRust constants atoms attributionDecl minApiLevel).isOk = true := by
  rw [writeStatsLogRust, writeRustStatsWriteAtoms, mapM_isOk, List.all_eq_true]
  intro decl member
  obtain ⟨declMem, notRepeated⟩ := List.mem_filter.mp member
  rw [Bool.not_eq_true'] at notRepeated
  rw [writeRustModule, isOk_map, writeRustStatsWriteMethod, isOk_map]
  exact writeRustMethodBody_isOk constants
    (mem_signatureTypes (acceptedSignature_of_mem registered declMem)) level notRepeated

/-- The function of an atom without repeated fields is part of its module. -/
theorem exists_module_of_mem {constants : AnnotationIdConstants} {atoms : Atoms}
    {minApiLevel : Int} {modules : List Module} {decl : AtomDecl} {function : Function}
    (crate : writeStatsLogRust constants atoms attributionDecl minApiLevel = .ok modules)
    (member : decl ∈ elements atoms.decls) (notRepeated : hasRepeatedField decl = false)
    (written : writeRustStatsWriteMethod constants attributionDecl minApiLevel decl =
      .ok function) :
    ∃ module ∈ modules, module.name = decl.name ∧ function ∈ module.functions := by
  have listed : decl ∈ (elements atoms.decls).filter fun atomDecl => !hasRepeatedField atomDecl :=
    List.mem_filter.mpr ⟨member, by rw [notRepeated]; rfl⟩
  have result := (mem_of_mapM_eq_ok crate).mpr ⟨decl, listed, by
    rw [writeRustModule, written]
    rfl⟩
  refine ⟨_, result, rfl, ?_⟩
  dsimp only
  split <;> simp

/-! ## Agreement -/

section Agreement

variable {atoms : Atoms} {declSets : FieldNumberToAtomDeclSet} {decl : AtomDecl}
  {platform : Platform} {minApiLevel : Int} {arguments : List Argument}

/-- The native method of an atom without repeated fields issues its event. -/
theorem nativeLogs_atomEvent (declares : platform.DeclaresAnnotations "ASTATSLOG_")
    (found : (signatureMap atoms decl.atomType)[decl.signature]? = some declSets)
    (logged : Logged atoms declSets decl) (issuable : Native.Issues minApiLevel decl)
    (typed : arguments.map Argument.type = decl.signature) (level : minApiLevel > apiQ)
    (notRepeated : hasRepeatedField decl = false) :
    NativeLogs atoms platform minApiLevel decl arguments (.ok (atomEvent decl arguments)) := by
  have supported : minApiLevel ≥ apiT ∨ containsRepeatedField decl.signature = false :=
    Or.inr (by rw [← hasRepeatedField_eq, notRepeated])
  cases kind : decl.atomType with
  | pushed =>
      obtain ⟨method, written, -, events⟩ :=
        Native.statsWrite_aStatsEvent logged typed declares issuable (by omega) supported
      rw [kind] at found
      refine ⟨declSets, method, by rw [kind]; exact found, by rw [nativeMethod, kind, written],
        ?_, events⟩
      exact fun methods => Native.mem_writeStatsLogCpp found written
  | pulled =>
      obtain ⟨method, written, events⟩ :=
        Native.addAStatsEvent_events logged typed declares issuable supported
      rw [kind] at found
      refine ⟨declSets, method, by rw [kind]; exact found, by rw [nativeMethod, kind, written],
        ?_, events⟩
      exact fun methods => Native.mem_writeStatsLogCpp_pulled found written

/-- The Rust function of an atom without repeated fields issues its event when the
conversions accept the arguments, and returns early otherwise. -/
theorem exists_rustLogs {registrations : List Registration}
    (registered : Registered registrations atoms) (logged : Logged atoms declSets decl)
    (issuable : Issues decl) (distinct : DistinctVariants atoms)
    (typed : arguments.map Argument.type = decl.signature)
    (level : minApiLevel > apiQ) (notRepeated : hasRepeatedField decl = false) :
    ∃ result, RustLogs atoms minApiLevel decl arguments result ∧
      Converted arguments (atomEvent decl arguments) result := by
  have notQ : minApiLevel ≠ apiQ := by omega
  obtain ⟨function, written, converted⟩ :=
    statsWrite_converted logged issuable distinct typed notQ notRepeated
  obtain ⟨modules, crate⟩ := isOk_iff_exists.mp (writeStatsLogRust_isOk registered
    (getAnnotationIdConstants annotationConstantNamePrefix) notQ)
  exact ⟨_, ⟨function, modules, written, crate,
    exists_module_of_mem crate logged.member notRepeated written, rfl⟩, converted⟩

/-- Only integers and enums are compared with states. -/
theorem issues_of_integerResets (resets : IntegerResets atoms)
    (member : decl ∈ elements atoms.decls) : Issues decl :=
  ⟨fun _ _ _ _ _ _ => trivial,
    resets.compared member (fun isInteger _ => rustComparable_iff.mpr isInteger) 0⟩

theorem RustLogs.unique {first second : Except Halt (List EventOp)}
    (left : RustLogs atoms minApiLevel decl arguments first)
    (right : RustLogs atoms minApiLevel decl arguments second) : first = second := by
  obtain ⟨function, -, written, -, -, rfl⟩ := left
  obtain ⟨other, -, otherWritten, -, -, rfl⟩ := right
  rw [written, Except.ok.injEq] at otherWritten
  rw [otherWritten]

/-- When a conversion refuses an argument, the loggers differ. -/
theorem Converted.not_logsAlike {events : List EventOp} {result : Except Halt (List EventOp)}
    (converted : Converted arguments events result)
    (rust : RustLogs atoms minApiLevel decl arguments result)
    (refused : ∃ argument ∈ arguments, ¬converts argument = true) :
    ¬LogsAlike atoms platform minApiLevel decl arguments := by
  rintro ⟨otherEvents, -, rustEvents⟩
  obtain ⟨reason, -, isError⟩ := converted.refused refused
  have same := rustEvents.unique rust
  rw [isError] at same
  contradiction

end Agreement

/-- In an accepted run the loggers of an atom without repeated fields issue the same
operations exactly when the conversions of Rust accept the arguments.  Up to R there is a native
logger only if no atom of the signature is restricted. -/
theorem logsAlike_iff (descriptor : AtomDescriptor) (moduleName : String) (atoms : Atoms)
    (accepted : collateAtoms descriptor moduleName {} = (0, atoms))
    (constants : DistinctConstants atoms) (variants : DistinctVariants atoms)
    (named : NamedCategories atoms) (resets : IntegerResets atoms) (platform : Platform)
    (declares : platform.DeclaresAnnotations "ASTATSLOG_") (decl : AtomDecl)
    (member : decl ∈ elements atoms.decls) (notRepeated : hasRepeatedField decl = false)
    (minApiLevel : Int) (level : minApiLevel > apiQ)
    (supported : apiR < minApiLevel ∨ ¬SharesRestricted descriptor moduleName decl)
    (arguments : List Argument) (typed : arguments.map Argument.type = decl.signature) :
    LogsAlike atoms platform minApiLevel decl arguments ↔
      ∀ argument ∈ arguments, converts argument = true := by
  obtain ⟨declSets, found, logged⟩ := exists_logged accepted constants member
  obtain ⟨registrations, selected, registered⟩ := collateAtoms_registered accepted
  have issuable : Native.Issues minApiLevel decl := by
    obtain ⟨registration, registrationMem, rfl⟩ :=
      List.mem_map.mp (registered.decls.mem_elements.mp member)
    exact (Native.forall_issues_iff registered named resets selected).mpr supported registration
      registrationMem registration.decl_atomType.symm registration.signatureOf_eq
  have native := nativeLogs_atomEvent declares found logged issuable typed level notRepeated
  obtain ⟨result, rust, converted⟩ := exists_rustLogs registered logged
    (issues_of_integerResets resets member) variants typed level notRepeated
  constructor
  · intro alike
    by_contra refused
    push Not at refused
    exact converted.not_logsAlike rust refused alike
  · intro accepts
    exact ⟨_, native, converted.accepted accepts ▸ rust⟩

instance (atoms : Atoms) : Decidable (DistinctVariants atoms) :=
  inferInstanceAs (Decidable (List.Nodup _))

theorem logsAlike_iff_wakelock :
    LogsAlike wakelockAtoms declaredPlatform apiR wakelockDecl
        [.attributionChain [1000#32] ["tag"], .string "lock", .int 1#32] ↔
      ∀ argument ∈ [.attributionChain [1000#32] ["tag"], .string "lock", .int 1#32],
        converts argument = true :=
  logsAlike_iff wakelockDescriptor defaultModuleName wakelockAtoms (Prod.ext (by decide) rfl)
    (by decide) (by decide) (by decide) (by decide) declaredPlatform
    declaredPlatform_declaresNative wakelockDecl mem_wakelockDecl (by decide) apiR
    (by decide) (Or.inr (not_sharesRestricted (by decide))) _ (by decide)

/-- A negative uid is no `u32`. -/
theorem not_logsAlike_negativeUid :
    (collateAtoms wakelockDescriptor defaultModuleName {}).1 = 0 ∧
    DistinctConstants wakelockAtoms ∧ DistinctVariants wakelockAtoms ∧
    NamedCategories wakelockAtoms ∧ IntegerResets wakelockAtoms ∧
    declaredPlatform.DeclaresAnnotations "ASTATSLOG_" ∧
    wakelockDecl ∈ elements wakelockAtoms.decls ∧
    hasRepeatedField wakelockDecl = false ∧
    ¬SharesRestricted wakelockDescriptor defaultModuleName wakelockDecl ∧
    [.attributionChain [-1#32] ["tag"], .string "lock", .int 1#32].map Argument.type =
      wakelockDecl.signature ∧
    ¬LogsAlike wakelockAtoms declaredPlatform apiR wakelockDecl
      [.attributionChain [-1#32] ["tag"], .string "lock", .int 1#32] := by
  have accepted : collateAtoms wakelockDescriptor defaultModuleName {} = (0, wakelockAtoms) :=
    Prod.ext (by decide) rfl
  have constants : DistinctConstants wakelockAtoms := by decide
  have variants : DistinctVariants wakelockAtoms := by decide
  have named : NamedCategories wakelockAtoms := by decide
  have resets : IntegerResets wakelockAtoms := by decide
  have notRepeated : hasRepeatedField wakelockDecl = false := by decide
  have typed : [.attributionChain [-1#32] ["tag"], .string "lock", .int 1#32].map
      Argument.type = wakelockDecl.signature := by decide
  refine ⟨by rw [accepted], constants, variants, named, resets,
    declaredPlatform_declaresNative, mem_wakelockDecl, notRepeated,
    not_sharesRestricted (by decide), typed, ?_⟩
  obtain ⟨declSets, -, logged⟩ := exists_logged accepted constants mem_wakelockDecl
  obtain ⟨registrations, -, registered⟩ := collateAtoms_registered accepted
  obtain ⟨result, rust, converted⟩ := exists_rustLogs registered logged
    (issues_of_integerResets resets mem_wakelockDecl) variants typed (by decide : apiR > apiQ)
    notRepeated
  exact converted.not_logsAlike rust ⟨.attributionChain [-1#32] ["tag"], by simp, by decide⟩

end StatsLogApiGen.Rust
