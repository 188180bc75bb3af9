import StatsLogApiGen.Java.Passing
import StatsLogApiGen.Native.Passing
import StatsLogApiGen.Writer.Agreement
import StatsLogApiGen.Writer.Forwarding

/-!
# Forwarding wrappers

A wrapper for an atom with a chain leads to the chained method of the atom, with the chain
in place of what it is made from and the other arguments as they were.
-/

namespace StatsLogApiGen.Writer

open StatsLogApiGen.Container
open StatsLogApiGen.Proto
open StatsLogApiGen.Collation
open StatsLogApiGen.Program

/-- Calls of the wrappers for a signature with a chain are delivered to the chained write.
A method for work sources makes one call for every flat uid, in order, then one for every
work chain. -/
structure ForwardsChain (atoms : Atoms) (types : Signature) : Prop where
  cpp : ∀ constants minApiLevel methods,
    Native.writeStatsLogCpp constants atoms attributionDecl minApiLevel false = .ok methods →
      ∀ (α : Type) (fuel : Nat) (code : Int) (uid : BitVec 32) (tag : Option String)
        (arguments : List (α × Nat)), arguments.length = types.length →
        deliver (Native.linkage α) methods (fuel + 2)
            (Native.nonChainedCall types code uid tag arguments) =
          some [Native.chainedCall types code [uid] [tag] arguments]
  java : ∀ constants minApiLevel supportWorkSource,
    (Java.writeStatsLogJava constants atoms attributionDecl minApiLevel
      supportWorkSource).errors = 0 →
      ∀ (α : Type) (fuel : Nat) (code : Int) (uid : BitVec 32) (tag : Option String)
        (arguments : List α), arguments.length = types.length →
        deliver (Java.linkage α) (Java.writeStatsLogJava constants atoms attributionDecl
            minApiLevel supportWorkSource).methods (fuel + 2)
            (Java.nonChainedCall types code uid tag arguments) =
          some [Java.chainedCall types code [uid] [tag] arguments]
  workSource : ∀ constants minApiLevel,
    (Java.writeStatsLogJava constants atoms attributionDecl minApiLevel true).errors = 0 →
      ∀ (α : Type) (fuel : Nat) (code : Int) (workSource : WorkSource) (arguments : List α),
        arguments.length = types.length →
        deliver (Java.linkage α) (Java.writeStatsLogJava constants atoms attributionDecl
            minApiLevel true).methods (fuel + 3)
            (Java.workSourceCall types code workSource arguments) =
          some ((workSource.flatUids.map fun node =>
              Java.chainedCall types code [node.1] [node.2] arguments) ++
            (workSource.workChains.getD []).map fun chain =>
              Java.chainedCall types code chain.1 chain.2 arguments)

section Registered

variable {registrations : List Registration} {atoms : Atoms}
  (registered : Registered registrations atoms)

include registered

/-- A key is a flattened signature whose other types are those of an accepted signature. -/
theorem nonChained_argumentKeys :
    ∀ key ∈ atoms.nonChainedSignatureInfoMap, ∃ rest : Signature,
      key = .int :: .string :: rest ∧ ∀ type ∈ rest.map lowered, IsArgument type := by
  intro key present
  rcases exists_registration_of_key registered present with
    ⟨registration, -, -, rest, -, isKey, signature⟩
  have accepted : AcceptedSignature registration.decl.signature := by
    rw [← registration.signatureOf_eq]
    exact registration.rule.message.acceptedSignature
  have areArguments := accepted.tail
  rw [signature] at areArguments
  exact ⟨rest, isKey, areArguments⟩

/-- The flattened signature of a pushed signature with a chain. -/
theorem exists_key_of_chained {types : Signature}
    (chained : .attributionChain :: types ∈ atoms.signatureInfoMap) :
    ∃ rest : Signature, .int :: .string :: rest ∈ atoms.nonChainedSignatureInfoMap ∧
      rest.map lowered = types := by
  rcases (mem_signatureInfoMap_iff registered).mp chained with
    ⟨registration, registrationMem, -, signature⟩
  have hasChain : HasChain registration.atom := by
    rw [hasChain_iff_mem_signature, signature]
    exact List.mem_cons_self
  rcases exists_flattenedSignature registration hasChain with ⟨rest, -, flattened, isLowered⟩
  rw [signature, List.cons.injEq] at isLowered
  exact ⟨rest, (mem_nonChainedSignatureInfoMap registered).mpr
    ⟨registration, registrationMem, hasChain, flattened⟩, isLowered.2.symm⟩

end Registered

/-- In an accepted run the wrappers of a pushed atom with a chain pass on what they get. -/
theorem forwardsChain (descriptor : AtomDescriptor) (moduleName : String) (atoms : Atoms)
    (accepted : collateAtoms descriptor moduleName {} = (0, atoms)) (decl : AtomDecl)
    (member : decl ∈ elements atoms.decls) (pushed : decl.atomType = .pushed)
    (types : Signature) (isChained : decl.signature = .attributionChain :: types) :
    ForwardsChain atoms types := by
  rcases collateAtoms_registered accepted with ⟨registrations, -, registered⟩
  have areArguments := (acceptedSignature_of_mem registered member).tail
  rw [isChained] at areArguments
  have noChain : ∀ type ∈ types, type ≠ .attributionChain := by
    rintro type typeMem rfl
    exact areArguments _ typeMem
  have chained : .attributionChain :: types ∈ atoms.signatureInfoMap := by
    rcases List.mem_map.mp (registered.decls.mem_elements.mp member) with
      ⟨registration, registrationMem, rfl⟩
    exact (mem_signatureInfoMap_iff registered).mpr
      ⟨registration, registrationMem, pushed, isChained⟩
  have flattened := exists_key_of_chained registered chained
  have sameTypes : ∃ key ∈ atoms.nonChainedSignatureInfoMap,
      javaParameterTypes key = javaParameterTypes (.int :: .string :: types) := by
    rcases flattened with ⟨rest, keyMem, rfl⟩
    exact ⟨_, keyMem, (javaParameterTypes_lowered (.int :: .string :: rest)).symm⟩
  have maps := (acceptedMaps registered).pushed
  have keys := nonChained_keys registered
  constructor
  · intro constants minApiLevel methods source α fuel code uid tag arguments lengths
    exact Native.deliver_nonChained source (nonChained_argumentKeys registered) areArguments
      chained flattened fuel code uid tag lengths
  · intro constants minApiLevel supportWorkSource noErrors α fuel code uid tag arguments lengths
    exact Java.deliver_nonChained maps keys noErrors noChain chained sameTypes lengths fuel code
      uid tag
  · intro constants minApiLevel noErrors α fuel code workSource arguments lengths
    exact Java.deliver_workSource maps keys noErrors noChain chained sameTypes lengths rfl fuel
      code workSource

/-- The wrappers of a wakelock keep the name and the state. -/
theorem forwardsChain_wakelock : ForwardsChain wakelockAtoms [.string, .int] :=
  forwardsChain wakelockDescriptor defaultModuleName wakelockAtoms (Prod.ext (by decide) rfl)
    wakelockDecl mem_wakelockDecl (by decide) [.string, .int] (by decide)

end StatsLogApiGen.Writer
