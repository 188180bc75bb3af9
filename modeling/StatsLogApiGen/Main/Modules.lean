import StatsLogApiGen.Collation.Faithful
import StatsLogApiGen.Collation.Order
import StatsLogApiGen.Main.Run
import Mathlib.Data.List.Rotate

/-!
# Modules apart

A run for a module skips the atoms of other modules.  This file says that they have no
influence on the run, whatever they are.
-/

namespace StatsLogApiGen.Main

open StatsLogApiGen.Proto
open StatsLogApiGen.Collation

/-! ## Skipped atoms -/

section Skipped

variable {moduleName : String} {atomField : AtomFieldDescriptor}
  (skipped : isInModule moduleName atomField = false)

include skipped

theorem enterAtom_of_skipped (atoms : Atoms) : enterAtom moduleName atomField atoms = atoms := by
  simp [enterAtom, collateFromFieldDescriptor, skipped]

theorem errorsOf_of_skipped : errorsOf moduleName atomField = [] := by
  simp [errorsOf, collateFromFieldDescriptor, skipped]

end Skipped

/-- Only the selected atoms are entered. -/
theorem foldl_enterAtom_filter (moduleName : String) (atomFields : List AtomFieldDescriptor)
    (atoms : Atoms) :
    atomFields.foldl (fun atoms atomField => enterAtom moduleName atomField atoms) atoms =
      (atomFields.filter (isInModule moduleName)).foldl
        (fun atoms atomField => enterAtom moduleName atomField atoms) atoms := by
  induction atomFields generalizing atoms with
  | nil => rfl
  | cons atomField rest ih =>
      cases selected : isInModule moduleName atomField with
      | true => rw [List.filter_cons_of_pos selected, List.foldl_cons, List.foldl_cons, ih]
      | false =>
          rw [List.filter_cons_of_neg (by simp [selected]), List.foldl_cons,
            enterAtom_of_skipped selected, ih]

/-- Only the selected atoms have errors. -/
theorem flatMap_errorsOf_filter (moduleName : String) (atomFields : List AtomFieldDescriptor) :
    atomFields.flatMap (errorsOf moduleName) =
      (atomFields.filter (isInModule moduleName)).flatMap (errorsOf moduleName) := by
  induction atomFields with
  | nil => rfl
  | cons atomField rest ih =>
      cases selected : isInModule moduleName atomField with
      | true => rw [List.filter_cons_of_pos selected, List.flatMap_cons, List.flatMap_cons, ih]
      | false =>
          rw [List.filter_cons_of_neg (by simp [selected]), List.flatMap_cons,
            errorsOf_of_skipped selected, List.nil_append, ih]

/-- Collation is the collation of the selected atoms. -/
theorem collateAtoms_selectedAtoms (descriptor : AtomDescriptor) (moduleName : String)
    (atoms : Atoms) :
    collateAtoms descriptor moduleName atoms =
      (((selectedAtoms descriptor moduleName).flatMap (errorsOf moduleName)).length,
        (selectedAtoms descriptor moduleName).foldl
          (fun atoms atomField => enterAtom moduleName atomField atoms) atoms) := by
  rw [collateAtoms_eq, flatMap_errorsOf_filter, foldl_enterAtom_filter, selectedAtoms]

/-! ## Runs for a module -/

/-- The descriptors have the same atoms for a module.  The atoms and the fields of their
messages may come in another order. -/
def SameSelection (moduleName : String) (first second : AtomDescriptor) : Prop :=
  ReorderedFields (selectedAtoms first moduleName) (selectedAtoms second moduleName)

theorem SameSelection.collateAtoms_eq {moduleName : String} {first second : AtomDescriptor}
    (same : SameSelection moduleName first second) (atoms : Atoms) :
    collateAtoms first moduleName atoms = collateAtoms second moduleName atoms := by
  obtain ⟨permuted, perm, fields⟩ := same
  obtain ⟨entered, errors⟩ := map_enterAtom_reordered moduleName fields
  have distinct := selectedAtoms_numbers_nodup first moduleName
  have enters (atomFields : List AtomFieldDescriptor) :
      atomFields.foldl (fun atoms atomField => enterAtom moduleName atomField atoms) atoms =
        (atomFields.map (enterAtom moduleName)).foldl (fun atoms enter => enter atoms) atoms := by
    rw [List.foldl_map]
  rw [collateAtoms_selectedAtoms, collateAtoms_selectedAtoms,
    foldl_enterAtom_perm moduleName perm distinct, enters, entered, ← enters,
    (perm.flatMap_right (errorsOf moduleName)).length_eq, List.flatMap_def, errors,
    ← List.flatMap_def]

/-- The atoms of other modules do not influence a run: with the same atoms for the module it has
the same result, reports the same and writes the same files. -/
theorem run_modules_apart (opens : String → Bool) (first second : AtomDescriptor)
    (request : Request) (same : SameSelection request.moduleName first second) :
    run opens first request = run opens second request := by
  rw [run, run, same.collateAtoms_eq]

/-- An atom of the module `test`. -/
def testDescriptor : AtomDescriptor where
  fields :=
    [{ name := "wakelock_state_changed", number := 10, type := .message wakelockStateChanged,
       options := { module := ["test"] } }]
  extensions := []
  numbers_nodup := by decide

/-- The same atom among atoms that no run for `test` accepts. -/
def crowdedDescriptor : AtomDescriptor where
  fields :=
    [{ name := "screen", number := 11, type := .int32, options := { module := ["other"] } },
     { name := "wakelock_state_changed", number := 10,
       type := .message
        { wakelockStateChanged with
          fields := wakelockStateChanged.fields.rotate 1
          numbers_nodup := by decide },
       options := { module := ["test"] } }]
  extensions := [{ name := "battery", number := 100001, type := .string }]
  numbers_nodup := by decide

theorem sameSelection_crowdedDescriptor :
    SameSelection "test" testDescriptor crowdedDescriptor := by
  have messages := (List.rotate_perm wakelockStateChanged.fields 1).symm
  refine ⟨_, List.Perm.refl _, ?_⟩
  exact List.Forall₂.cons ⟨rfl, rfl, .message ⟨rfl, messages⟩, rfl, rfl⟩ List.Forall₂.nil

/-- The Rust outputs for the module `test`. -/
def testRequest : Request where
  filename
    | .rustHeader => "statslog_header.rs"
    | .rust => "statslog.rs"
    | _ => ""
  rustHeaderCrate := "statslog_header"
  moduleName := "test"

theorem run_modules_apart_testRequest :
    run (fun _ => true) testDescriptor testRequest =
      run (fun _ => true) crowdedDescriptor testRequest :=
  run_modules_apart (fun _ => true) testDescriptor crowdedDescriptor testRequest
    sameSelection_crowdedDescriptor

end StatsLogApiGen.Main
