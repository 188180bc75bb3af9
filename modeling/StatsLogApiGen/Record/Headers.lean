import StatsLogApiGen.Record.Files

/-!
# Headers and sources

A C++ program is compiled against the header of a run and linked with its source.  This
file says that the two have the same functions, and when none is defined twice.
-/

namespace StatsLogApiGen.Record

open Std
open StatsLogApiGen.Container
open StatsLogApiGen.Program (Overload)
open StatsLogApiGen.Proto
open StatsLogApiGen.Collation
open StatsLogApiGen.Writer
open StatsLogApiGen.Main
open StatsLogApiGen.Vendor (vendorDescriptor vendorAtoms)

/-! ## Functions of a file -/

/-- The functions that a header declares. -/
def declaredFunctions : Text → List (Overload String String)
  | .header _ _ _ headers | .vendorHeader _ _ headers => headers.map declaredOverload
  | _ => []

/-- The functions for the signatures of a map. -/
def functionsOf (overload : Signature → Overload String String) (map : SignatureInfoMap) :
    List (Overload String String) :=
  map.toList.map fun entry => overload entry.1

/-- The functions for a map differ when the overloads of its signatures do. -/
theorem nodup_functionsOf_iff (overload : Signature → Overload String String)
    (map : SignatureInfoMap) :
    (functionsOf overload map).Nodup ↔
      ∀ first ∈ map, ∀ second ∈ map, overload first = overload second → first = second := by
  have keys : functionsOf overload map = map.keys.map overload := by
    rw [functionsOf, ← ExtTreeMap.map_fst_toList_eq_keys, List.map_map]
    rfl
  rw [keys, List.nodup_map_iff_inj_on ExtTreeMap.nodup_keys]
  simp only [ExtTreeMap.mem_keys]

/-- What is printed is read off the entries in order. -/
theorem map_printed {Method Result : Type}
    {write : Signature × FieldNumberToAtomDeclSet → Except WriterError Method}
    {read : Method → Result} {expected : Signature × FieldNumberToAtomDeclSet → Result}
    {entries : List (Signature × FieldNumberToAtomDeclSet)}
    (complete : (printUntilError write entries).error = none)
    (reads : ∀ entry ∈ entries, ∀ method, write entry = .ok method →
      read method = expected entry) :
    (printUntilError write entries).methods.map read = entries.map expected := by
  induction entries with
  | nil => rfl
  | cons entry rest ih =>
      have allOk := (printUntilError_error write _).mp complete
      obtain ⟨method, written⟩ := isOk_iff_exists.mp (allOk entry List.mem_cons_self)
      have restComplete := (printUntilError_error write rest).mpr
        fun other member => allOk other (List.mem_cons_of_mem entry member)
      rw [printUntilError, written, List.map_cons, List.map_cons,
        reads entry List.mem_cons_self method written,
        ih restComplete fun other member => reads other (List.mem_cons_of_mem entry member)]

/-- The overload of the method that takes an attribution node apart. -/
def nonChainedOverload (types : Signature) : Overload String String :=
  ⟨"stats_write_non_chained", nativeParameterTypes types⟩

theorem declaredOverload_eq (name : String) (before : List Parameter)
    (map : SignatureInfoMap) :
    (writeNativeMethodHeader name before map false).map declaredOverload =
      functionsOf (fun signature =>
        ⟨name, before.map Parameter.typeName ++ nativeParameterTypes signature⟩) map := by
  rw [writeNativeMethodHeader, functionsOf, List.map_map]
  apply List.map_congr_left
  intro entry _
  simp [declaredOverload, overloadOf, nativeParameterTypes, writeNativeMethodSignature]

/-! ## Functions for the platform -/

/-- The functions of a header or a source for the platform. -/
def platformFunctions (bootstrap : Bool) (atoms : Atoms) : List (Overload String String) :=
  functionsOf (nativeOverload · .pushed) atoms.signatureInfoMap ++
    if bootstrap then
      []
    else
      functionsOf nonChainedOverload atoms.nonChainedSignatureInfoMap ++
        functionsOf (nativeOverload · .pulled) atoms.pulledAtomsSignatureInfoMap

section Platform

variable {request : Request} {atoms : Atoms} {constants : AnnotationIdConstants}

theorem declaredMethods_functions :
    (declaredMethods request atoms).map declaredOverload =
      platformFunctions request.bootstrap atoms := by
  have pushed := declaredOverload_eq "stats_write" [] atoms.signatureInfoMap
  have nonChained :=
    declaredOverload_eq "stats_write_non_chained" [] atoms.nonChainedSignatureInfoMap
  have pulled := declaredOverload_eq "addAStatsEvent" [⟨"AStatsEventList*", .pulledData⟩]
    atoms.pulledAtomsSignatureInfoMap
  rw [declaredMethods, platformFunctions, List.map_append, pushed]
  cases request.bootstrap with
  | true => rfl
  | false =>
      rw [if_neg (by decide), if_neg (by decide), List.map_append, nonChained, pulled]
      rfl

/-- A source that is written has a function for every signature. -/
theorem writeStatsLogCpp_functions {minApiLevel : Int} {bootstrap : Bool}
    {methods : List Native.Method}
    (source : Native.writeStatsLogCpp constants atoms attributionDecl minApiLevel bootstrap =
      .ok methods) :
    methods.map Native.Method.overload = platformFunctions bootstrap atoms := by
  obtain ⟨pushed, isPushed, rest⟩ := bind_eq_ok_iff.mp source
  have pushedFunctions : pushed.map Native.Method.overload =
      functionsOf (nativeOverload · .pushed) atoms.signatureInfoMap := by
    apply map_of_mapM_eq_ok isPushed
    intro entry _ method written
    obtain ⟨body, -, rfl⟩ := map_eq_ok_iff.mp written
    rfl
  rw [platformFunctions, ← pushedFunctions]
  cases bootstrap with
  | true =>
      cases rest
      rw [if_pos rfl, List.append_nil]
  | false =>
      rw [if_neg (by decide)] at rest ⊢
      obtain ⟨pulled, isPulled, rfl⟩ := map_eq_ok_iff.mp rest
      have pulledFunctions : pulled.map Native.Method.overload =
          functionsOf (nativeOverload · .pulled) atoms.pulledAtomsSignatureInfoMap := by
        apply map_of_mapM_eq_ok isPulled
        intro entry _ method written
        obtain ⟨code, -, rfl⟩ := map_eq_ok_iff.mp written
        rfl
      rw [List.map_append, List.map_append, pulledFunctions,
        Native.writeNativeStatsWriteNonChainedMethods, List.map_map, List.append_assoc]
      rfl

end Platform

/-! ## Functions defined twice -/

/-- Flattened signatures differ also after enums are lowered. -/
def FlattenedApart (atoms : Atoms) : Prop :=
  ∀ first ∈ atoms.nonChainedSignatureInfoMap, ∀ second ∈ atoms.nonChainedSignatureInfoMap,
    first.map lowered = second.map lowered → first = second

section Nodup

variable {registrations : List Registration} {atoms : Atoms}
  (registered : Registered registrations atoms)

include registered

/-- Lowering a flattened signature gives the types of arguments. -/
theorem lowered_mem_signatureTypes {signature : Signature}
    (present : signature ∈ atoms.nonChainedSignatureInfoMap) :
    ∀ type ∈ signature.map lowered, type ∈ signatureTypes := by
  obtain ⟨registration, listed, hasChain, rfl⟩ :=
    (mem_nonChainedSignatureInfoMap registered).mp present
  obtain ⟨rest, -, isFlattened, isSignature⟩ := exists_flattenedSignature registration hasChain
  have accepted := mem_signatureTypes
    (acceptedSignature_of_mem registered
      (registered.decls.mem_elements.mpr (List.mem_map_of_mem listed)))
  rw [isSignature, List.forall_mem_cons] at accepted
  rw [isFlattened, List.map_cons, List.map_cons, List.forall_mem_cons, List.forall_mem_cons]
  exact ⟨by decide, by decide, accepted.2⟩

theorem nodup_nonChained_iff :
    (functionsOf nonChainedOverload atoms.nonChainedSignatureInfoMap).Nodup ↔
      FlattenedApart atoms := by
  rw [nodup_functionsOf_iff, FlattenedApart]
  have types (first second : Signature)
      (firstPresent : first ∈ atoms.nonChainedSignatureInfoMap)
      (secondPresent : second ∈ atoms.nonChainedSignatureInfoMap) :
      nonChainedOverload first = nonChainedOverload second ↔
        first.map lowered = second.map lowered := by
    rw [nonChainedOverload, nonChainedOverload, Overload.mk.injEq, ← nativeParameterTypes_lowered,
      ← nativeParameterTypes_lowered second]
    constructor
    · exact fun same => nativeParameterTypes_injective
        (lowered_mem_signatureTypes registered firstPresent)
        (lowered_mem_signatureTypes registered secondPresent) same.2
    · intro same
      rw [same]
      exact ⟨rfl, rfl⟩
  constructor
  · intro injective first firstPresent second secondPresent same
    exact injective first firstPresent second secondPresent
      ((types first second firstPresent secondPresent).mpr same)
  · intro apart first firstPresent second secondPresent same
    exact apart first firstPresent second secondPresent
      ((types first second firstPresent secondPresent).mp same)

/-- The signatures of one kind of atoms have different functions. -/
theorem nodup_signatureMap (atomType : AtomType) :
    (functionsOf (nativeOverload · atomType) (signatureMap atoms atomType)).Nodup := by
  have maps := acceptedMaps registered
  have isAccepted : ∀ signature ∈ signatureMap atoms atomType, AcceptedSignature signature := by
    cases atomType with
    | pushed => exact maps.pushed
    | pulled => exact maps.pulled
  rw [nodup_functionsOf_iff]
  intro first firstPresent second secondPresent same
  have types : nativeParameterTypes first = nativeParameterTypes second := by
    cases atomType with
    | pushed => exact congrArg Overload.types same
    | pulled => exact (List.cons.inj (congrArg Overload.types same)).2
  exact nativeParameterTypes_injective (mem_signatureTypes (isAccepted first firstPresent))
    (mem_signatureTypes (isAccepted second secondPresent)) types

omit registered in
theorem name_of_functionsOf {overload : Signature → Overload String String} {name : String}
    (isName : ∀ signature, (overload signature).name = name) {map : SignatureInfoMap}
    {function : Overload String String} (member : function ∈ functionsOf overload map) :
    function.name = name := by
  obtain ⟨entry, -, rfl⟩ := List.mem_map.mp member
  exact isName entry.1

/-- Only the functions that take an attribution node apart can be defined twice. -/
theorem nodup_platformFunctions_iff (bootstrap : Bool) :
    (platformFunctions bootstrap atoms).Nodup ↔ bootstrap = true ∨ FlattenedApart atoms := by
  have pushed := nodup_signatureMap registered .pushed
  have pulled := nodup_signatureMap registered .pulled
  have pushedName {function : Overload String String} :=
    @name_of_functionsOf (nativeOverload · .pushed) "stats_write" (fun _ => rfl)
      atoms.signatureInfoMap function
  have nonChainedName {function : Overload String String} :=
    @name_of_functionsOf nonChainedOverload "stats_write_non_chained" (fun _ => rfl)
      atoms.nonChainedSignatureInfoMap function
  have pulledName {function : Overload String String} :=
    @name_of_functionsOf (nativeOverload · .pulled) "addAStatsEvent" (fun _ => rfl)
      atoms.pulledAtomsSignatureInfoMap function
  rw [platformFunctions]
  cases bootstrap with
  | true =>
      rw [if_pos rfl, List.append_nil]
      exact iff_of_true pushed (Or.inl rfl)
  | false =>
      rw [if_neg (by decide), ← nodup_nonChained_iff registered, List.nodup_append,
        List.nodup_append]
      constructor
      · exact fun distinct => Or.inr distinct.2.1.1
      · rintro (isBootstrap | nonChained)
        · contradiction
        · refine ⟨pushed, ⟨nonChained, pulled, ?_⟩, ?_⟩
          · intro first firstMem second secondMem same
            have name := nonChainedName firstMem
            rw [same, pulledName secondMem] at name
            exact absurd name (by decide)
          · intro first firstMem second secondMem same
            have name := pushedName firstMem
            rcases List.mem_append.mp secondMem with isNonChained | isPulled
            · rw [same, nonChainedName isNonChained] at name
              exact absurd name (by decide)
            · rw [same, pulledName isPulled] at name
              exact absurd name (by decide)

end Nodup

/-! ## Functions for vendor atoms -/

/-- The first type of an entry tells the entry, also where it is a chain. -/
theorem find?_vendorTypesOf_signatureTypes :
    ∀ type ∈ signatureTypes,
      signatureTypes.find? (fun other =>
        (vendorTypesOf other).head? = (vendorTypesOf type).head?) = some type := by
  decide

/-- Overloads of the native vendor writer determine the signature. -/
theorem vendorNativeOverload_injective {left right : Signature} (leftAccepted :
      AcceptedSignature left) (rightAccepted : AcceptedSignature right)
    (same : vendorNativeOverload left = vendorNativeOverload right) : left = right := by
  have types := (List.cons.inj (congrArg Overload.types same)).2
  apply flatMap_injective _ _ (mem_signatureTypes leftAccepted)
    (mem_signatureTypes rightAccepted) types
  · intro type _
    cases type <;> simp [vendorTypesOf]
  · intro first second firstMem secondMem heads
    have found := find?_vendorTypesOf_signatureTypes first firstMem
    rw [heads, find?_vendorTypesOf_signatureTypes second secondMem] at found
    exact (Option.some.inj found).symm

section Vendor

variable {atoms : Atoms} {constants : AnnotationIdConstants}

theorem declaredFunctions_vendor :
    (writeNativeMethodHeader "createVendorAtom" [] atoms.signatureInfoMap true).map
        declaredOverload = functionsOf vendorNativeOverload atoms.signatureInfoMap := by
  rw [writeNativeMethodHeader, functionsOf, List.map_map]
  apply List.map_congr_left
  intro entry _
  rw [vendorNativeOverload, ← nativeSignatureParameters_vendor 1 entry.1]
  rfl

theorem definedFunctions_vendor
    (complete : (printUntilError
      (Vendor.Native.writeNativeCreateVendorAtomMethod constants attributionDecl)
      atoms.signatureInfoMap.toList).error = none) :
    ((printUntilError (Vendor.Native.writeNativeCreateVendorAtomMethod constants attributionDecl)
        atoms.signatureInfoMap.toList).methods.map
          fun method => overloadOf method.name method.parameters) =
      functionsOf vendorNativeOverload atoms.signatureInfoMap := by
  apply map_printed complete
  intro entry _ method written
  rw [overloadOf, createVendorAtom_types written]
  obtain ⟨values, -, rfl⟩ := map_eq_ok_iff.mp written
  rfl

theorem nodup_vendor {registrations : List Registration}
    (registered : Registered registrations atoms) :
    (functionsOf vendorNativeOverload atoms.signatureInfoMap).Nodup := by
  have maps := acceptedMaps registered
  rw [nodup_functionsOf_iff]
  intro first firstPresent second secondPresent same
  exact vendorNativeOverload_injective (maps.pushed first firstPresent)
    (maps.pushed second secondPresent) same

end Vendor

/-! ## Headers match sources -/

/-- A C++ program that compiles against the header of a run links with the source: both have the
same functions in the same order.  No function is defined twice unless the flattened signatures
of two atoms differ in enums only. -/
theorem header_matches_source (opens : String → Bool) (descriptor : AtomDescriptor)
    (request : Request) (atoms : Atoms)
    (accepted : collateAtoms descriptor request.moduleName {} = (0, atoms))
    (provides : Provides (run opens descriptor request).files .native) :
    ∃ header source,
      (run opens descriptor request).files.lookup .header = some header ∧
      (run opens descriptor request).files.lookup .cpp = some source ∧
      declaredFunctions header = definedFunctions source ∧
      ((definedFunctions source).Nodup ↔
        request.vendorProto ≠ "" ∨ request.bootstrap = true ∨ FlattenedApart atoms) := by
  obtain ⟨registrations, -, registered⟩ := collateAtoms_registered accepted
  obtain ⟨headerTable, headerFound, -⟩ :=
    exists_table_of_provides accepted provides List.mem_cons_self
  obtain ⟨sourceTable, sourceFound, status⟩ :=
    exists_table_of_provides accepted provides (List.mem_cons_of_mem _ List.mem_cons_self)
  refine ⟨_, _, headerFound, sourceFound, ?_⟩
  by_cases platform : request.vendorProto = ""
  · obtain ⟨isCpp, isHeader, -⟩ := @writer_platform request atoms platform
    rw [isCpp] at status ⊢
    rw [isHeader]
    obtain ⟨methods, source⟩ := isOk_iff_exists.mp ((Java.exitStatus_eq_zero_iff _).mp status)
    have isSource : (cppWriter request atoms).write sourceTable = .cpp (.ok methods) :=
      congrArg Text.cpp source
    have declared : declaredFunctions ((headerWriter request atoms).write headerTable) =
        platformFunctions request.bootstrap atoms := declaredMethods_functions
    have defined : definedFunctions (.cpp (.ok methods)) =
        platformFunctions request.bootstrap atoms := writeStatsLogCpp_functions source
    rw [isSource, declared, defined, nodup_platformFunctions_iff registered]
    exact ⟨rfl, by simp [platform]⟩
  · obtain ⟨isCpp, isHeader, -⟩ := @writer_vendor request atoms platform
    rw [isCpp] at status ⊢
    rw [isHeader]
    have defined : definedFunctions ((cppVendorWriter atoms).write sourceTable) =
        functionsOf vendorNativeOverload atoms.signatureInfoMap :=
      definedFunctions_vendor (error_of_status status)
    have declared : declaredFunctions ((headerVendorWriter atoms).write headerTable) =
        functionsOf vendorNativeOverload atoms.signatureInfoMap := declaredFunctions_vendor
    rw [declared, defined]
    exact ⟨rfl, iff_of_true (nodup_vendor registered) (Or.inl platform)⟩

theorem header_matches_source_everyOutput :
    ∃ header source,
      (run (fun _ => true) vendorDescriptor everyOutput).files.lookup .header = some header ∧
      (run (fun _ => true) vendorDescriptor everyOutput).files.lookup .cpp = some source ∧
      declaredFunctions header = definedFunctions source ∧
      ((definedFunctions source).Nodup ↔
        "" ≠ "" ∨ false = true ∨ FlattenedApart vendorAtoms) :=
  header_matches_source (fun _ => true) vendorDescriptor everyOutput vendorAtoms
    (Prod.ext (by decide) rfl) (by decide)

end StatsLogApiGen.Record
