import StatsLogApiGen.Java.Linking
import StatsLogApiGen.Native.Linking
import StatsLogApiGen.Rust.Agreement
import StatsLogApiGen.Rust.Linking
import StatsLogApiGen.Writer.Acceptance

/-!
# Targets of forwarding methods

Methods that forward are generated for every atom with a chain, and the methods
they call for pushed atoms only.  All calls resolve unless a pulled atom has a
chain.
-/

namespace StatsLogApiGen.Writer

open Std
open StatsLogApiGen.Container
open StatsLogApiGen.Proto
open StatsLogApiGen.Collation

/-! ## Resolution -/

/-- Whatever is generated from the atoms, every call of a generated method resolves to
a method of the same output. -/
structure EveryCallResolves (atoms : Atoms) : Prop where
  cpp : ∀ constants minApiLevel methods,
    Native.writeStatsLogCpp constants atoms attributionDecl minApiLevel false = .ok methods →
      Native.CallsResolve methods
  java : ∀ constants minApiLevel supportWorkSource,
    (Java.writeStatsLogJava constants atoms attributionDecl minApiLevel
      supportWorkSource).errors = 0 →
      Java.CallsResolve (Java.writeStatsLogJava constants atoms attributionDecl minApiLevel
        supportWorkSource)
  rust : ∀ constants minApiLevel modules,
    Rust.writeStatsLogRust constants atoms attributionDecl minApiLevel = .ok modules →
      ∀ module ∈ modules, module.CallsResolve

/-- A pulled atom with a chain has a repeated field, which keeps it out of the Rust
crate, and a pushed atom has its signature. -/
def PulledChainsCovered (descriptor : AtomDescriptor) (moduleName : String) : Prop :=
  ∀ atomField ∈ selectedAtoms descriptor moduleName, ∀ atom, atomField.type = .message atom →
    getAtomType atomField.number = .pulled → HasChain atom →
      containsRepeatedField (signatureOf atom) = true ∧
      ∃ pushed ∈ selectedAtoms descriptor moduleName, ∃ pushedAtom,
        pushed.type = .message pushedAtom ∧ getAtomType pushed.number = .pushed ∧
        signatureOf pushedAtom = signatureOf atom

/-! ## Signatures of registrations -/

section Registered

variable {registrations : List Registration} {atoms : Atoms}
  (registered : Registered registrations atoms)

include registered

theorem mem_signatureInfoMap_iff {signature : Signature} :
    signature ∈ atoms.signatureInfoMap ↔
      ∃ registration ∈ registrations, registration.decl.atomType = .pushed ∧
        registration.decl.signature = signature := by
  rw [registered.pushed.signatures]
  constructor
  · rintro ⟨decl, listed⟩
    obtain ⟨declMem, kind, isSignature⟩ := mem_entriesOf.mp listed
    obtain ⟨registration, registrationMem, rfl⟩ := List.mem_map.mp declMem
    exact ⟨registration, registrationMem, kind, isSignature⟩
  · rintro ⟨registration, registrationMem, kind, isSignature⟩
    exact ⟨registration.decl,
      mem_entriesOf.mpr ⟨List.mem_map_of_mem registrationMem, kind, isSignature⟩⟩

/-- The atoms with the flattened signature of a key. -/
theorem exists_registration_of_key {key : Signature}
    (present : key ∈ atoms.nonChainedSignatureInfoMap) :
    ∃ registration ∈ registrations, HasChain registration.atom ∧
      ∃ rest : Signature, (∀ type ∈ rest, type ≠ .attributionChain) ∧
        key = .int :: .string :: rest ∧
        registration.decl.signature = .attributionChain :: rest.map lowered := by
  obtain ⟨registration, registrationMem, hasChain, isKey⟩ :=
    (mem_nonChainedSignatureInfoMap registered).mp present
  obtain ⟨rest, noChain, flattened, signature⟩ := exists_flattenedSignature registration hasChain
  exact ⟨registration, registrationMem, hasChain, rest, noChain, isKey ▸ flattened, signature⟩

theorem nonChained_keys :
    ∀ key ∈ atoms.nonChainedSignatureInfoMap, ∃ rest : Signature,
      (∀ type ∈ rest, type ≠ .attributionChain) ∧ key = .int :: .string :: rest := by
  intro key present
  obtain ⟨-, -, -, rest, noChain, isKey, -⟩ := exists_registration_of_key registered present
  exact ⟨rest, noChain, isKey⟩

/-- What the condition says about the registrations. -/
theorem pulledChainsCovered_iff {descriptor : AtomDescriptor} {moduleName : String}
    (selected : registrations.map Registration.atomField =
      selectedAtoms descriptor moduleName) :
    PulledChainsCovered descriptor moduleName ↔
      ∀ registration ∈ registrations, registration.decl.atomType = .pulled →
        HasChain registration.atom →
          Rust.hasRepeatedField registration.decl = true ∧
          registration.decl.signature ∈ atoms.signatureInfoMap := by
  have isSelected {registration : Registration} (member : registration ∈ registrations) :
      registration.atomField ∈ selectedAtoms descriptor moduleName :=
    selected ▸ List.mem_map_of_mem member
  constructor
  · intro covered registration registrationMem kind hasChain
    rw [registration.decl_atomType] at kind
    obtain ⟨repeated, pushed, pushedMem, pushedAtom, type, pushedKind, sameSignature⟩ :=
      covered _ (isSelected registrationMem) _ registration.rule.type kind hasChain
    obtain ⟨other, otherMem, rfl, rfl⟩ := exists_registration selected pushedMem type
    rw [Rust.hasRepeatedField_eq, ← registration.signatureOf_eq]
    refine ⟨repeated, (mem_signatureInfoMap_iff registered).mpr ⟨other, otherMem, ?_, ?_⟩⟩
    · rw [other.decl_atomType, pushedKind]
    · rw [← other.signatureOf_eq, sameSignature]
  · intro covered atomField member atom type kind hasChain
    obtain ⟨registration, registrationMem, rfl, rfl⟩ := exists_registration selected member type
    rw [← registration.decl_atomType] at kind
    obtain ⟨repeated, present⟩ := covered registration registrationMem kind hasChain
    rw [Rust.hasRepeatedField_eq, ← registration.signatureOf_eq] at repeated
    obtain ⟨other, otherMem, otherKind, sameSignature⟩ :=
      (mem_signatureInfoMap_iff registered).mp present
    refine ⟨repeated, other.atomField, isSelected otherMem, other.atom, other.rule.type, ?_, ?_⟩
    · rw [← other.decl_atomType, otherKind]
    · rw [other.signatureOf_eq, sameSignature, registration.signatureOf_eq]

end Registered

/-! ## Targets -/

section Targets

variable {registrations : List Registration} {atoms : Atoms}
  (registered : Registered registrations atoms)

include registered

/-- Without the chain of a pulled atom the calls do not need more than there is. -/
theorem everyCallResolves_of_covered
    (covered : ∀ registration ∈ registrations, registration.decl.atomType = .pulled →
      HasChain registration.atom → Rust.hasRepeatedField registration.decl = true ∧
        registration.decl.signature ∈ atoms.signatureInfoMap) :
    EveryCallResolves atoms := by
  have maps := acceptedMaps registered
  have keys := nonChained_keys registered
  have target : ∀ rest : Signature,
      .int :: .string :: rest ∈ atoms.nonChainedSignatureInfoMap →
        .attributionChain :: rest.map lowered ∈ atoms.signatureInfoMap := by
    intro rest present
    obtain ⟨registration, registrationMem, hasChain, other, -, isKey, signature⟩ :=
      exists_registration_of_key registered present
    obtain rfl : rest = other := by simpa using isKey
    rw [← signature]
    cases kind : registration.decl.atomType with
    | pushed =>
        exact (mem_signatureInfoMap_iff registered).mpr
          ⟨registration, registrationMem, kind, rfl⟩
    | pulled => exact (covered registration registrationMem kind hasChain).2
  constructor
  · intro constants minApiLevel methods source
    rw [Native.callsResolve_iff source keys]
    intro rest present
    exact ⟨_, target rest present, nativeParameterTypes_lowered (.attributionChain :: rest)⟩
  · intro constants minApiLevel supportWorkSource noErrors
    apply Java.callsResolve maps.pushed keys noErrors
    · intro rest present
      exact ⟨_, target rest present, javaParameterTypes_lowered (.attributionChain :: rest)⟩
    · intro rest present
      obtain ⟨registration, registrationMem, -, signature⟩ :=
        (mem_signatureInfoMap_iff registered).mp present
      have hasChain : HasChain registration.atom := by
        rw [hasChain_iff_mem_signature, signature]
        exact List.mem_cons_self
      obtain ⟨unlowered, -, flattened, isLowered⟩ :=
        exists_flattenedSignature registration hasChain
      rw [signature, List.cons.injEq] at isLowered
      refine ⟨_, (mem_nonChainedSignatureInfoMap registered).mpr
        ⟨registration, registrationMem, hasChain, rfl⟩, ?_⟩
      rw [flattened, isLowered.2]
      exact (javaParameterTypes_lowered (.int :: .string :: unlowered)).symm
    · rintro rfl
      have notRepeated : ¬HasRepeatedField atoms.signatureInfoMap := by
        rcases (writeStatsLogJava_errors maps constants apiQ supportWorkSource).mp noErrors with
          notQ | notRepeated
        · exact absurd rfl notQ
        · exact notRepeated
      cases written : QSchema.writeJavaMethodsQSchema atoms.signatureInfoMap attributionDecl with
      | ok qLogger => rfl
      | error reason => exact absurd (writeJavaMethodsQSchema_error maps written).2 notRepeated
  · intro constants minApiLevel modules crate module member
    obtain ⟨decl, declMem, written⟩ := (mem_of_mapM_eq_ok crate).mp member
    obtain ⟨listed, notRepeated⟩ := List.mem_filter.mp declMem
    obtain ⟨registration, registrationMem, rfl⟩ :=
      List.mem_map.mp (registered.decls.mem_elements.mp listed)
    rw [Rust.module_callsResolve_iff registered registrationMem written]
    rintro ⟨kind, hasChain⟩
    rw [(covered registration registrationMem kind hasChain).1] at notRepeated
    contradiction

/-- The calls that are generated for the chain of a pulled atom resolve only if
something else provides their targets. -/
theorem covered_of_everyCallResolves (resolves : EveryCallResolves atoms) :
    ∀ registration ∈ registrations, registration.decl.atomType = .pulled →
      HasChain registration.atom → Rust.hasRepeatedField registration.decl = true ∧
        registration.decl.signature ∈ atoms.signatureInfoMap := by
  intro registration registrationMem kind hasChain
  let constants := getAnnotationIdConstants annotationConstantNamePrefix
  have maps := acceptedMaps registered
  constructor
  · by_contra notRepeated
    rw [Bool.not_eq_true] at notRepeated
    obtain ⟨modules, crate⟩ := isOk_iff_exists.mp
      (Rust.writeStatsLogRust_isOk registered constants (by decide : apiT ≠ apiQ))
    have listed : registration.decl ∈
        (elements atoms.decls).filter fun decl => !Rust.hasRepeatedField decl := by
      refine List.mem_filter.mpr ⟨?_, by rw [notRepeated]; rfl⟩
      exact registered.decls.mem_elements.mpr (List.mem_map_of_mem registrationMem)
    obtain ⟨module, written⟩ := exists_ok_of_mapM crate listed
    have member := (mem_of_mapM_eq_ok crate).mpr ⟨_, listed, written⟩
    have linked := resolves.rust constants apiT modules crate module member
    exact (Rust.module_callsResolve_iff registered registrationMem written).mp linked
      ⟨kind, hasChain⟩
  · obtain ⟨methods, source⟩ := isOk_iff_exists.mp
      ((writeStatsLogCpp_isOk maps constants apiT).mpr (Or.inl le_rfl))
    obtain ⟨rest, -, flattened, signature⟩ := exists_flattenedSignature registration hasChain
    have present : .int :: .string :: rest ∈ atoms.nonChainedSignatureInfoMap :=
      (mem_nonChainedSignatureInfoMap registered).mpr
        ⟨registration, registrationMem, hasChain, flattened⟩
    obtain ⟨pushed, pushedMem, sameTypes⟩ :=
      (Native.callsResolve_iff source (nonChained_keys registered)).mp
        (resolves.cpp constants apiT methods source) rest present
    have accepted : AcceptedSignature registration.decl.signature := by
      rw [← registration.signatureOf_eq]
      exact registration.rule.message.acceptedSignature
    have same : pushed = registration.decl.signature := by
      apply nativeParameterTypes_injective (mem_signatureTypes (maps.pushed pushed pushedMem))
        (mem_signatureTypes accepted)
      rw [sameTypes, signature]
      exact (nativeParameterTypes_lowered (.attributionChain :: rest)).symm
    exact same ▸ pushedMem

end Targets

/-- In an accepted run every call resolves exactly when the pulled atoms with a chain
are covered. -/
theorem everyCallResolves_iff (descriptor : AtomDescriptor) (moduleName : String)
    (atoms : Atoms) (accepted : collateAtoms descriptor moduleName {} = (0, atoms)) :
    EveryCallResolves atoms ↔ PulledChainsCovered descriptor moduleName := by
  obtain ⟨registrations, selected, registered⟩ := collateAtoms_registered accepted
  rw [pulledChainsCovered_iff registered selected]
  constructor
  · exact covered_of_everyCallResolves registered
  · exact everyCallResolves_of_covered registered

theorem everyCallResolves_wakelockDescriptor :
    EveryCallResolves (collateAtoms wakelockDescriptor defaultModuleName {}).2 ↔
      PulledChainsCovered wakelockDescriptor defaultModuleName :=
  everyCallResolves_iff _ _ _ (Prod.ext (by decide) rfl)

/-- A pulled atom with a chain. -/
def pulledChainDescriptor : AtomDescriptor where
  fields :=
    [{ name := "pulled_atom", number := 10000, type := .message
        { name := "PulledAtom"
          fields :=
            [{ name := "attribution_node", number := 1, isRepeated := true,
               type := .message attributionNodeFullName }]
          numbers_nodup := by decide } }]
  extensions := []
  numbers_nodup := by decide

/-- There is no `stats_write` for the non-chained methods of the atom. -/
theorem not_everyCallResolves_pulledChainDescriptor :
    (collateAtoms pulledChainDescriptor defaultModuleName {}).1 = 0 ∧
    ¬EveryCallResolves (collateAtoms pulledChainDescriptor defaultModuleName {}).2 := by
  have accepted : collateAtoms pulledChainDescriptor defaultModuleName {} =
      (0, (collateAtoms pulledChainDescriptor defaultModuleName {}).2) :=
    Prod.ext (by decide) rfl
  obtain ⟨registrations, selected, registered⟩ := collateAtoms_registered accepted
  refine ⟨by rw [accepted], ?_⟩
  intro resolves
  have covered := (pulledChainsCovered_iff registered selected).mpr
    (covered_of_everyCallResolves registered resolves)
  obtain ⟨repeated, -⟩ := covered _ List.mem_cons_self _ rfl (by decide)
    ⟨_, List.mem_cons_self, rfl, rfl⟩
  exact absurd repeated (by decide)

end StatsLogApiGen.Writer
