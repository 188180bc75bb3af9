import StatsLogApiGen.Java.Run
import StatsLogApiGen.Writer.Acceptance
import Mathlib.Data.Int.Order.Basic
import Mathlib.Order.MinMax

/-!
# API levels of Java methods

A method is marked with the API level of the calls in it: the level of restricted
atoms, of arrays, or of `StatsLog.writeRaw`.  The annotation class is imported by a
separate decision over both signature maps.
-/

namespace StatsLogApiGen.Java

open Std
open StatsLogApiGen.Container
open StatsLogApiGen.Proto
open StatsLogApiGen.Collation
open StatsLogApiGen.Writer

/-! ## The import -/

/-- `get_max_requires_api_level` for a signature map. -/
def getMaxRequiresApiLevelOfMap (minApiLevel : Int) (signatureInfoMap : SignatureInfoMap) : Int :=
  signatureInfoMap.toList.foldl
    (fun maxRequiresApiLevel entry => max maxRequiresApiLevel (requiresApi minApiLevel entry)) 0

/-- `write_stats_log_java` imports the annotation `RequiresApi`. -/
def importsRequiresApi (minApiLevel : Int) (atoms : Atoms) : Bool :=
  max (getMaxRequiresApiLevelOfMap minApiLevel atoms.signatureInfoMap)
    (getMaxRequiresApiLevelOfMap minApiLevel atoms.pulledAtomsSignatureInfoMap) > 0

/-- The entries of a map that a writer begins with.  A writer marks a method before it
prints the rest of it, and stops behind the first method that it cannot print. -/
def begun {α β : Type} (write : α → Except WriterError β) : List α → List α
  | [] => []
  | entry :: rest =>
      match write entry with
      | .ok _ => entry :: begun write rest
      | .error _ => [entry]

/-- The levels of the annotations that are printed for the methods of a class; the
methods that forward to others are not marked. -/
def printedLevels (constants : AnnotationIdConstants) (minApiLevel : Int) (atoms : Atoms) :
    List Int :=
  (begun (writeJavaPushedMethod constants attributionDecl minApiLevel)
      atoms.signatureInfoMap.toList ++
    begun (writeJavaPulledMethod constants attributionDecl minApiLevel)
      atoms.pulledAtomsSignatureInfoMap.toList).map (requiresApi minApiLevel)

theorem begun_eq_nil_iff {α β : Type} {write : α → Except WriterError β} {entries : List α} :
    begun write entries = [] ↔ entries = [] := by
  cases entries with
  | nil => simp [begun]
  | cons entry rest => cases written : write entry <;> simp [begun, written]

theorem begun_subset {α β : Type} {write : α → Except WriterError β} {entries : List α} :
    begun write entries ⊆ entries := by
  induction entries with
  | nil => simp [begun]
  | cons entry rest ih =>
      cases written : write entry with
      | ok method =>
          simp only [begun, written]
          exact List.cons_subset_cons entry ih
      | error reason => simp [begun, written]

/-- A writer that succeeds begins with all entries. -/
theorem begun_of_isOk {α β : Type} {write : α → Except WriterError β} {entries : List α}
    (succeeds : ∀ entry ∈ entries, (write entry).isOk = true) : begun write entries = entries := by
  induction entries with
  | nil => rfl
  | cons entry rest ih =>
      have first := succeeds entry List.mem_cons_self
      cases written : write entry with
      | ok method =>
          simp only [begun, written]
          rw [ih fun other member => succeeds other (List.mem_cons_of_mem _ member)]
      | error reason =>
          rw [written] at first
          contradiction

theorem foldl_max_pos_iff {α : Type} {level : α → Int} {entries : List α} {start : Int} :
    0 < entries.foldl (fun most entry => max most (level entry)) start ↔
      0 < start ∨ ∃ entry ∈ entries, 0 < level entry := by
  induction entries generalizing start with
  | nil => simp
  | cons entry rest ih =>
      rw [List.foldl_cons, ih, lt_max_iff, List.exists_mem_cons_iff, or_assoc]

theorem importsRequiresApi_iff {minApiLevel : Int} {atoms : Atoms} :
    importsRequiresApi minApiLevel atoms = true ↔
      ∃ entry ∈ atoms.signatureInfoMap.toList ++ atoms.pulledAtomsSignatureInfoMap.toList,
        0 < requiresApi minApiLevel entry := by
  rw [importsRequiresApi, decide_eq_true_iff, gt_iff_lt, lt_max_iff, getMaxRequiresApiLevelOfMap,
    getMaxRequiresApiLevelOfMap, foldl_max_pos_iff, foldl_max_pos_iff]
  simp only [Int.lt_irrefl, false_or, List.mem_append, or_and_right, exists_or]

/-- What a writer begins with shows what the map shows, when it gets through the map or
the first entry shows it. -/
theorem exists_begun_iff {α β : Type} {write : α → Except WriterError β} {entries : List α}
    {shows : α → Prop}
    (complete : (∀ entry ∈ entries, (write entry).isOk = true) ∨ ∀ entry, shows entry) :
    (∃ entry ∈ begun write entries, shows entry) ↔ ∃ entry ∈ entries, shows entry := by
  rcases complete with succeeds | always
  · rw [begun_of_isOk succeeds]
  · constructor
    · rintro ⟨entry, member, shown⟩
      exact ⟨entry, begun_subset member, shown⟩
    · rintro ⟨entry, member, -⟩
      have notEmpty : begun write entries ≠ [] :=
        mt begun_eq_nil_iff.mp (List.ne_nil_of_mem member)
      rcases List.exists_mem_of_ne_nil _ notEmpty with ⟨first, isBegun⟩
      exact ⟨first, isBegun, always first⟩

/-- For Q every method is marked. -/
theorem requiresApi_apiQ_pos (entry : Signature × FieldNumberToAtomDeclSet) :
    0 < requiresApi apiQ entry := by
  rw [requiresApi, getMaxRequiresApiLevel, if_pos (Int.le_refl apiQ)]
  split_ifs <;> decide

theorem exists_printedLevels_iff {atoms : Atoms} (maps : AcceptedMaps atoms)
    (constants : AnnotationIdConstants) (minApiLevel : Int) :
    (∃ level ∈ printedLevels constants minApiLevel atoms, 0 < level) ↔
      importsRequiresApi minApiLevel atoms = true := by
  rw [importsRequiresApi_iff, printedLevels]
  simp only [List.mem_map, exists_exists_and_eq_and, List.mem_append, or_and_right, exists_or]
  apply or_congr
  · apply exists_begun_iff
    by_cases isQ : minApiLevel = apiQ
    · right
      rw [isQ]
      exact requiresApi_apiQ_pos
    · left
      intro entry member
      have accepted := mem_signatureTypes (maps.pushed entry.1 (mem_of_mem_toList member))
      rw [writeJavaPushedMethod_isOk constants minApiLevel accepted, decide_eq_true isQ,
        Bool.true_or]
  · apply exists_begun_iff
    left
    intro entry member
    have accepted := mem_signatureTypes (maps.pulled entry.1 (mem_of_mem_toList member))
    exact writeJavaPulledMethod_isOk constants minApiLevel accepted entry.2

/-! ## Levels of methods -/

/-- Some restricted atom of the module is logged through methods for a signature. -/
def LogsRestricted (descriptor : AtomDescriptor) (moduleName : String) (atomType : AtomType)
    (signature : Signature) : Prop :=
  ∃ atomField ∈ selectedAtoms descriptor moduleName, ∃ atom, atomField.type = .message atom ∧
    getAtomType atomField.number = atomType ∧ signatureOf atom = signature ∧
      atomField.options.restrictionCategory.isSome = true

/-- The level of a method is the one of what it logs; 0 stands for no annotation. -/
structure MarkedExactly (descriptor : AtomDescriptor) (moduleName : String)
    (atomType : AtomType) (minApiLevel : Int) (signature : Signature) (level : Int) : Prop where
  u : level = apiU ↔ LogsRestricted descriptor moduleName atomType signature
  t : level = apiT ↔ ¬LogsRestricted descriptor moduleName atomType signature ∧
    containsRepeatedField signature = true
  q : level = apiQ ↔ ¬LogsRestricted descriptor moduleName atomType signature ∧
    ¬containsRepeatedField signature = true ∧ minApiLevel = apiQ
  unmarked : level = 0 ↔ ¬LogsRestricted descriptor moduleName atomType signature ∧
    ¬containsRepeatedField signature = true ∧ minApiLevel ≠ apiQ

section Levels

variable {descriptor : AtomDescriptor} {moduleName : String} {atoms : Atoms}
  (accepted : collateAtoms descriptor moduleName {} = (0, atoms))

include accepted

/-- The set of the atom-level annotations shows a restricted atom. -/
theorem any_containsRestricted_iff {atomType : AtomType} {signature : Signature}
    {declSets : FieldNumberToAtomDeclSet}
    (found : (signatureMap atoms atomType)[signature]? = some declSets) :
    declSets[atomIdFieldNumber]?.any containsRestricted = true ↔
      LogsRestricted descriptor moduleName atomType signature := by
  rcases collateAtoms_registered accepted with ⟨registrations, selected, registered⟩
  have faithful := registered.faithful selected
  have indexes : IndexesDecls atoms.decls atomType (signatureMap atoms atomType) := by
    cases atomType with
    | pushed => exact faithful.pushed
    | pulled => exact faithful.pulled
  have shown : declSets[atomIdFieldNumber]?.any containsRestricted = true ↔
      ∃ decl, IsAnnotated atoms.decls atomType signature atomIdFieldNumber decl ∧
        decl.restricted = true := by
    rw [Option.any_eq_true]
    simp only [containsRestricted, List.any_eq_true, ← indexes.mem_elements_iff found]
    constructor
    · rintro ⟨annotated, stored, decl, member, restricted⟩
      exact ⟨decl, ⟨annotated, stored, member⟩, restricted⟩
    · rintro ⟨decl, ⟨annotated, stored, member⟩, restricted⟩
      exact ⟨annotated, stored, decl, member, restricted⟩
  rw [shown]
  constructor
  · rintro ⟨decl, isAnnotated, restricted⟩
    rcases List.mem_map.mp (registered.decls.mem_elements.mp isAnnotated.member) with
      ⟨registration, member, rfl⟩
    refine ⟨registration.atomField, ?_, registration.atom, registration.rule.type, ?_, ?_, ?_⟩
    · exact selected ▸ List.mem_map_of_mem member
    · exact registration.decl_atomType.symm.trans isAnnotated.atomType
    · exact registration.signatureOf_eq.trans isAnnotated.signature
    · exact registration.describesAtom.restricted ▸ restricted
  · rintro ⟨atomField, selectedMem, atom, type, kind, isSignature, restricted⟩
    rcases exists_registration selected selectedMem type with ⟨registration, member, rfl, rfl⟩
    refine ⟨registration.decl, ⟨?_, ?_, ?_, ?_⟩, ?_⟩
    · exact registered.decls.mem_elements.mpr (List.mem_map_of_mem member)
    · exact registration.decl_atomType.trans kind
    · exact registration.signatureOf_eq.symm.trans isSignature
    · apply (registration.describesAtom.annotations.mem_iff atomIdFieldNumber).mpr
      refine ⟨.restrictionCategory, ?_⟩
      simpa [declRequests, atomRequests] using Option.isSome_iff_ne_none.mp restricted
    · rw [registration.describesAtom.restricted]
      exact restricted

theorem markedExactly_requiresApi {atomType : AtomType} {minApiLevel : Int}
    (supported : apiQ ≤ minApiLevel) {entry : Signature × FieldNumberToAtomDeclSet}
    (member : entry ∈ (signatureMap atoms atomType).toList) :
    MarkedExactly descriptor moduleName atomType minApiLevel entry.1
      (requiresApi minApiLevel entry) := by
  have restricted := any_containsRestricted_iff accepted
    (ExtTreeMap.mem_toList_iff_getElem?_eq_some.mp member)
  have isQ : minApiLevel ≤ apiQ ↔ minApiLevel = apiQ :=
    ⟨fun le => Int.le_antisymm le supported, fun equal => Int.le_of_eq equal⟩
  rw [requiresApi, getMaxRequiresApiLevel]
  simp only [isQ]
  by_cases logs : LogsRestricted descriptor moduleName atomType entry.1
  · rw [if_pos (restricted.mpr logs)]
    constructor <;> simp [logs, apiU, apiT, apiQ]
  · rw [if_neg (mt restricted.mp logs)]
    by_cases repeated : containsRepeatedField entry.1 = true
    · rw [if_pos repeated]
      constructor <;> simp [logs, repeated, apiU, apiT, apiQ]
    · rw [if_neg repeated]
      by_cases atQ : minApiLevel = apiQ
      · rw [if_pos atQ]
        constructor <;> simp [logs, repeated, atQ, apiU, apiT, apiQ]
      · have notQ : minApiLevel ≠ 29 := atQ
        rw [if_neg atQ]
        constructor <;> simp [logs, repeated, notQ, apiU, apiT, apiQ]

end Levels

/-! ## The class -/

/-- A method that forwards to others. -/
def Method.IsWrapper (method : Method) : Prop :=
  match method.body with
  | .forward _ | .workSource .. => True
  | _ => False

/-- The iteration of the writer of one kind of methods for one signature. -/
def writeMethod (constants : AnnotationIdConstants) (minApiLevel : Int) :
    AtomType → Signature × FieldNumberToAtomDeclSet → Except WriterError Method
  | .pushed => writeJavaPushedMethod constants attributionDecl minApiLevel
  | .pulled => writeJavaPulledMethod constants attributionDecl minApiLevel

/-- Methods that log an event are marked with the level of what they log, the others are
not marked, and the annotation is imported when one is printed. -/
structure MarksMethods (descriptor : AtomDescriptor) (moduleName : String)
    (constants : AnnotationIdConstants) (atoms : Atoms) (minApiLevel : Int)
    (supportWorkSource : Bool) : Prop where
  marked : ∀ atomType, ∀ entry ∈ (signatureMap atoms atomType).toList, ∀ method,
    writeMethod constants minApiLevel atomType entry = .ok method →
      MarkedExactly descriptor moduleName atomType minApiLevel entry.1 method.requiresApi
  listed : ∀ method ∈ (writeStatsLogJava constants atoms attributionDecl minApiLevel
      supportWorkSource).methods,
    (∃ atomType, ∃ entry ∈ (signatureMap atoms atomType).toList,
      writeMethod constants minApiLevel atomType entry = .ok method) ∨
    method.IsWrapper ∧ method.requiresApi = 0
  imported : importsRequiresApi minApiLevel atoms = true ↔
    ∃ level ∈ printedLevels constants minApiLevel atoms, 0 < level
  importedForMethods : (writeStatsLogJava constants atoms attributionDecl minApiLevel
      supportWorkSource).errors = 0 →
    (importsRequiresApi minApiLevel atoms = true ↔
      ∃ method ∈ (writeStatsLogJava constants atoms attributionDecl minApiLevel
        supportWorkSource).methods, 0 < method.requiresApi)

theorem writeMethod_requiresApi {constants : AnnotationIdConstants} {minApiLevel : Int}
    {atomType : AtomType} {entry : Signature × FieldNumberToAtomDeclSet} {method : Method}
    (written : writeMethod constants minApiLevel atomType entry = .ok method) :
    method.requiresApi = requiresApi minApiLevel entry := by
  cases atomType with
  | pushed =>
      rcases bind_eq_ok_iff.mp written with ⟨code, -, later⟩
      split at later
      · rcases map_eq_ok_iff.mp later with ⟨arguments, -, rfl⟩
        rfl
      · rw [← Except.ok.inj later]
  | pulled =>
      rcases bind_eq_ok_iff.mp written with ⟨parameters, -, later⟩
      rcases map_eq_ok_iff.mp later with ⟨code, -, rfl⟩
      rfl

theorem nonChainedMethod_isWrapper {signature : Signature} {method : Method}
    (written : writeJavaNonChainedMethod signature = .ok method) :
    method.IsWrapper ∧ method.requiresApi = 0 := by
  rcases map_eq_ok_iff.mp written with ⟨parameters, -, rfl⟩
  exact ⟨trivial, rfl⟩

theorem workSourceMethod_isWrapper {signature : Signature} {methods : List Method}
    (written : writeJavaWorkSourceMethod signature = .ok methods) :
    ∀ method ∈ methods, method.IsWrapper ∧ method.requiresApi = 0 := by
  rcases map_eq_ok_iff.mp written with ⟨attributionArg, -, isMethods⟩
  intro method member
  rw [← isMethods] at member
  split at member
  · contradiction
  · rw [List.mem_singleton.mp member]
    exact ⟨trivial, rfl⟩

/-- A printed method has been generated, whether or not all writers succeed. -/
theorem exists_of_mem_printed {map : SignatureInfoMap} {method : Method}
    {write : Signature × FieldNumberToAtomDeclSet → Except WriterError Method}
    (member : method ∈ printed (map.toList.mapM write)) :
    ∃ entry ∈ map.toList, write entry = .ok method := by
  cases traversed : map.toList.mapM write with
  | error reason =>
      rw [traversed] at member
      contradiction
  | ok methods => exact (mem_printed_iff (by rw [traversed]; rfl)).mp member

theorem exists_of_mem_printed_workSource {map : SignatureInfoMap} {method : Method}
    (member : method ∈ printed (writeJavaWorkSourceMethods map)) :
    ∃ entry ∈ map.toList, ∃ methods,
      writeJavaWorkSourceMethod entry.1 = .ok methods ∧ method ∈ methods := by
  cases written : writeJavaWorkSourceMethods map with
  | error reason =>
      rw [written] at member
      contradiction
  | ok methods => exact (mem_printed_workSource_iff (by rw [written]; rfl)).mp member

theorem method_cases {constants : AnnotationIdConstants} {atoms : Atoms} {minApiLevel : Int}
    {supportWorkSource : Bool} {method : Method}
    (member : method ∈ (writeStatsLogJava constants atoms attributionDecl minApiLevel
      supportWorkSource).methods) :
    (∃ atomType, ∃ entry ∈ (signatureMap atoms atomType).toList,
      writeMethod constants minApiLevel atomType entry = .ok method) ∨
    method.IsWrapper ∧ method.requiresApi = 0 := by
  change method ∈ printed _ ++ printed _ ++ printed _ ++ printed _ at member
  rw [List.mem_append, List.mem_append, List.mem_append, or_assoc, or_assoc] at member
  rcases member with pushed | nonChained | pulled | workSource
  · exact Or.inl ⟨.pushed, exists_of_mem_printed pushed⟩
  · rcases exists_of_mem_printed nonChained with ⟨entry, -, written⟩
    exact Or.inr (nonChainedMethod_isWrapper written)
  · exact Or.inl ⟨.pulled, exists_of_mem_printed pulled⟩
  · cases supportWorkSource with
    | false => contradiction
    | true =>
        rcases exists_of_mem_printed_workSource workSource with ⟨entry, -, methods, written, isOne⟩
        exact Or.inr (workSourceMethod_isWrapper written method isOne)

/-- A class without errors has a method for every entry of its maps. -/
theorem exists_marked_iff {constants : AnnotationIdConstants} {atoms : Atoms} {minApiLevel : Int}
    {supportWorkSource : Bool}
    (noErrors : (writeStatsLogJava constants atoms attributionDecl minApiLevel
      supportWorkSource).errors = 0) :
    (∃ method ∈ (writeStatsLogJava constants atoms attributionDecl minApiLevel
      supportWorkSource).methods, 0 < method.requiresApi) ↔
      importsRequiresApi minApiLevel atoms = true := by
  rw [importsRequiresApi_iff]
  constructor
  · rintro ⟨method, member, isMarked⟩
    rcases method_cases member with ⟨atomType, entry, entryMem, written⟩ | ⟨-, unmarked⟩
    · rw [writeMethod_requiresApi written] at isMarked
      refine ⟨entry, List.mem_append.mpr ?_, isMarked⟩
      cases atomType with
      | pushed => exact Or.inl entryMem
      | pulled => exact Or.inr entryMem
    · rw [unmarked] at isMarked
      contradiction
  · rintro ⟨entry, entryMem, isMarked⟩
    rcases writeStatsLogJava_errors_eq_zero_iff.mp noErrors with ⟨pushed, -, pulled, -⟩
    rcases List.mem_append.mp entryMem with inPushed | inPulled
    · rcases isOk_iff_exists.mp pushed with ⟨methods, traversed⟩
      rcases exists_ok_of_mapM traversed inPushed with ⟨method, written⟩
      refine ⟨method, (mem_methods_iff noErrors).mpr (Or.inl ⟨entry, inPushed, written⟩), ?_⟩
      rwa [@writeMethod_requiresApi constants minApiLevel .pushed entry method written]
    · rcases isOk_iff_exists.mp pulled with ⟨methods, traversed⟩
      rcases exists_ok_of_mapM traversed inPulled with ⟨method, written⟩
      refine ⟨method, (mem_methods_iff noErrors).mpr
        (Or.inr (Or.inr (Or.inl ⟨entry, inPulled, written⟩))), ?_⟩
      rwa [@writeMethod_requiresApi constants minApiLevel .pulled entry method written]

/-- The methods that log atoms are marked with the levels of these atoms, the ones that
forward are not marked. -/
theorem marksMethods (descriptor : AtomDescriptor) (moduleName : String) (atoms : Atoms)
    (accepted : collateAtoms descriptor moduleName {} = (0, atoms))
    (constants : AnnotationIdConstants) (minApiLevel : Int) (supported : apiQ ≤ minApiLevel)
    (supportWorkSource : Bool) :
    MarksMethods descriptor moduleName constants atoms minApiLevel supportWorkSource := by
  rcases collateAtoms_registered accepted with ⟨registrations, -, registered⟩
  constructor
  · intro atomType entry member method written
    rw [writeMethod_requiresApi written]
    exact markedExactly_requiresApi accepted supported member
  · intro method member
    exact method_cases member
  · exact (exists_printedLevels_iff (acceptedMaps registered) constants minApiLevel).symm
  · intro noErrors
    exact (exists_marked_iff noErrors).symm

/-- An atom with a chain and an array. -/
def sampledStacks : Descriptor where
  name := "SampledStacks"
  fields :=
    [{ name := "attribution_node", number := 1, isRepeated := true,
       type := .message attributionNodeFullName },
     { name := "samples", number := 2, type := .int32, isRepeated := true }]
  numbers_nodup := by decide

/-- A restricted atom. -/
def sampledDevice : Descriptor where
  name := "SampledDevice"
  fields :=
    [{ name := "sampled_name", number := 1, type := .string,
       options := { fieldRestrictionOption := some { peripheralDeviceInfo := true } } }]
  numbers_nodup := by decide

/-- An atom without arrays that is not restricted. -/
def sampledBattery : Descriptor where
  name := "SampledBattery"
  fields := [{ name := "level", number := 1, type := .int32 }]
  numbers_nodup := by decide

def sampledDescriptor : AtomDescriptor where
  fields :=
    [{ name := "sampled_stacks", number := 31, type := .message sampledStacks },
     { name := "sampled_battery", number := 33, type := .message sampledBattery }]
  extensions :=
    [{ name := "sampled_device", number := 666, type := .message sampledDevice,
       options := { restrictionCategory := some .diagnostic } }]
  numbers_nodup := by decide

def sampledAtoms : Atoms :=
  (collateAtoms sampledDescriptor defaultModuleName {}).2

/-- For devices from R on the method for the array is marked with T and the one for the
restricted atom with U. -/
theorem marksMethods_sampled :
    MarksMethods sampledDescriptor defaultModuleName
      (getAnnotationIdConstants annotationConstantNamePrefix) sampledAtoms apiR true ∧
    ((writeStatsLogJava (getAnnotationIdConstants annotationConstantNamePrefix) sampledAtoms
      attributionDecl apiR true).methods.map Method.requiresApi) = [apiT, 0, apiU, 0, 0] :=
  ⟨marksMethods _ _ _ (Prod.ext (by decide) rfl) _ _ (by decide) _, by decide⟩

/-- The method `write` for work sources takes the array, but is not marked. -/
theorem not_marked_workSource :
    (collateAtoms sampledDescriptor defaultModuleName {}).1 = 0 ∧
      [.attributionChain, .intArray] ∈ sampledAtoms.signatureInfoMap ∧
      containsRepeatedField [.attributionChain, .intArray] = true ∧
      ∃ method ∈ (writeStatsLogJava (getAnnotationIdConstants annotationConstantNamePrefix)
          sampledAtoms attributionDecl 10000 true).methods,
        writeJavaWorkSourceMethod [.attributionChain, .intArray] = .ok [method] ∧
          method.name = "write" ∧ method.requiresApi = 0 ∧ method.requiresApi ≠ apiT := by
  decide

end StatsLogApiGen.Java
