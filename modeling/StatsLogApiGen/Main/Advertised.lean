import StatsLogApiGen.Main.ExitStatus
import StatsLogApiGen.Writer.Overloads

/-!
# Advertised vendor atoms

The vendor header shows for every atom how its `createVendorAtom` is called.  This file says
for which atoms there is such a method.
-/

namespace StatsLogApiGen.Main

open Std
open StatsLogApiGen.Container
open StatsLogApiGen.Proto
open StatsLogApiGen.Collation
open StatsLogApiGen.Writer

/-! ## Usage lines -/

/-- A usage line in the comment of an atom constant.  A parameter has a type and the name of
a field. -/
structure Usage where
  methodName : String
  atomConstant : String
  parameters : List (String × String)
  deriving DecidableEq, Repr

/-- The parameters that a usage line shows for a field. -/
def usageParameters (attributionDecl : AtomDecl) (isVendorAtomLogging : Bool)
    (field : AtomField) : List (String × String) :=
  if field.javaType = .attributionChain then
    attributionDecl.fields.flatMap fun chainField =>
      let typeName := cppTypeName false chainField.javaType
      if chainField.javaType = .string then
        [("const std::vector<" ++ typeName ++ ">&", chainField.name)]
      else
        [("const " ++ typeName ++ "*", chainField.name), ("size_t", chainField.name ++ "_length")]
  else
    [(cppTypeName isVendorAtomLogging field.javaType, field.name)]

/-- `write_cpp_usage`. -/
def writeCppUsage (methodName atomConstant : String) (atom attributionDecl : AtomDecl)
    (isVendorAtomLogging : Bool) : Usage where
  methodName
  atomConstant
  parameters := atom.fields.flatMap (usageParameters attributionDecl isVendorAtomLogging)

/-- A constant in the enum of atom codes, with the usage lines in its comment. -/
structure AtomConstant where
  name : String
  code : Int
  usages : List Usage
  deriving DecidableEq, Repr

/-- `build_non_chained_decl_map`, where the first declaration with a code stays. -/
def nonChainedDecl? (atoms : Atoms) (code : Int) : Option AtomDecl :=
  (elements atoms.nonChainedDecls).find? fun decl => decl.code = code

/-- The iteration of `write_native_atom_constants` for one declaration. -/
def describeAtom (methodName : String) (isVendorAtomLogging : Bool) (atoms : Atoms)
    (decl : AtomDecl) : AtomConstant :=
  let constant := makeConstantName decl.name
  { name := constant
    code := decl.code
    usages :=
      writeCppUsage methodName constant decl attributionDecl isVendorAtomLogging ::
        (nonChainedDecl? atoms decl.code).toList.map fun nonChainedDecl =>
          writeCppUsage (methodName ++ "_non_chained") constant nonChainedDecl attributionDecl
            isVendorAtomLogging }

/-- `write_native_atom_constants` with its comments. -/
def describeAtoms (methodName : String) (isVendorAtomLogging : Bool) (atoms : Atoms) :
    List AtomConstant :=
  (elements atoms.decls).map (describeAtom methodName isVendorAtomLogging atoms)

/-! ## Methods for usage lines -/

/-- A method has the parameter types of a usage line. -/
def Usage.Fits (usage : Usage) (parameters : List Parameter) : Prop :=
  parameters.map Parameter.typeName = "int32_t" :: usage.parameters.map Prod.fst

/-- The vendor header declares and the vendor source defines a method for every usage line
of an atom. -/
def CanBeLogged (constants : AnnotationIdConstants) (atoms : Atoms) (atom : AtomConstant) :
    Prop :=
  ∀ usage ∈ atom.usages,
    (∃ method ∈ writeNativeMethodHeader "createVendorAtom" [] atoms.signatureInfoMap true,
      usage.Fits method.parameters) ∧
    ∃ method ∈ (printUntilError
        (Vendor.Native.writeNativeCreateVendorAtomMethod constants attributionDecl)
        atoms.signatureInfoMap.toList).methods,
      usage.Fits method.parameters

section Printed

variable {α β : Type} {write : α → Except WriterError β}

/-- What is printed comes from an entry. -/
theorem exists_entry_of_mem_printed {entries : List α} {method : β}
    (printed : method ∈ (printUntilError write entries).methods) :
    ∃ entry ∈ entries, write entry = .ok method := by
  induction entries with
  | nil => cases printed
  | cons entry rest ih =>
      rw [printUntilError] at printed
      cases written : write entry with
      | error reason =>
          rw [written] at printed
          cases printed
      | ok first =>
          rw [written] at printed
          rcases List.mem_cons.mp printed with rfl | later
          · exact ⟨entry, List.mem_cons_self, written⟩
          · rcases ih later with ⟨other, otherMem, isOther⟩
            exact ⟨other, List.mem_cons_of_mem entry otherMem, isOther⟩

/-- Without errors every entry is printed. -/
theorem mem_printed_of_isOk {entries : List α}
    (allOk : ∀ entry ∈ entries, (write entry).isOk = true) {entry : α} (member : entry ∈ entries)
    {method : β} (written : write entry = .ok method) :
    method ∈ (printUntilError write entries).methods := by
  induction entries with
  | nil => cases member
  | cons first rest ih =>
      rcases isOk_iff_exists.mp (allOk first List.mem_cons_self) with ⟨firstMethod, firstWritten⟩
      rw [printUntilError, firstWritten]
      rcases List.mem_cons.mp member with rfl | later
      · rw [written] at firstWritten
        cases firstWritten
        exact List.mem_cons_self
      · have restOk := fun other otherMem => allOk other (List.mem_cons_of_mem first otherMem)
        exact List.mem_cons_of_mem firstMethod (ih restOk later)

end Printed

theorem usageParameters_types {attributionDecl : AtomDecl} {field : AtomField}
    (notChain : lowered field.javaType ≠ .attributionChain) :
    (usageParameters attributionDecl true field).map Prod.fst =
      vendorTypesOf (lowered field.javaType) := by
  have isParameter : field.javaType ≠ .attributionChain := by
    intro isChain
    rw [isChain] at notChain
    exact notChain rfl
  rw [usageParameters, if_neg isParameter]
  cases isType : field.javaType <;> first | rfl | exact absurd isType isParameter

/-- A usage line for an atom without a chain shows the types of its signature. -/
theorem writeCppUsage_types (methodName atomConstant : String) {decl : AtomDecl}
    (noChain : JavaType.attributionChain ∉ decl.signature) :
    (writeCppUsage methodName atomConstant decl attributionDecl true).parameters.map Prod.fst =
      decl.signature.flatMap vendorTypesOf := by
  rw [writeCppUsage, AtomDecl.signature, List.map_flatMap, List.flatMap_map]
  apply List.flatMap_congr
  intro field member
  apply usageParameters_types
  intro isChain
  apply noChain
  rw [← isChain]
  exact List.mem_map_of_mem member

section Registered

variable {registrations : List Registration} {atoms : Atoms}
  (registered : Registered registrations atoms)
  (noChains : ∀ decl ∈ elements atoms.decls, JavaType.attributionChain ∉ decl.signature)

include registered noChains

/-- Without chains there are no flattened declarations. -/
theorem nonChainedDecl?_eq_none (code : Int) : nonChainedDecl? atoms code = none := by
  rw [nonChainedDecl?, List.find?_eq_none]
  intro decl member
  rcases mem_elements_iff.mp member with ⟨key, found⟩
  rcases (registered.nonChainedDecls _ _).mp found with ⟨-, listed⟩
  rcases List.mem_map.mp listed with ⟨entry, entryMem, rfl⟩
  rcases List.mem_map.mp entryMem with ⟨registration, chosen, rfl⟩
  rcases List.mem_filter.mp chosen with ⟨registrationMem, chained⟩
  have hasChain := (getNonChainedNode_hasChain registration.rule.message _).mp chained
  have declMem := registered.decls.mem_elements.mpr (List.mem_map_of_mem registrationMem)
  exact absurd ((hasChain_iff_mem_signature registration).mp hasChain) (noChains _ declMem)

theorem noChain_of_mem_signatureInfoMap {signature : Signature}
    (member : signature ∈ atoms.signatureInfoMap) : JavaType.attributionChain ∉ signature := by
  have indexes := registered.pushed.indexesDecls registered.decls
  rcases (indexes.signatures signature).mp member with ⟨decl, listed, -, rfl⟩
  exact noChains decl listed

/-- A method is declared and defined for an atom when its signature is one of a pushed
atom. -/
theorem canBeLogged_iff (constants : AnnotationIdConstants) {decl : AtomDecl}
    (member : decl ∈ elements atoms.decls) :
    CanBeLogged constants atoms (describeAtom "createVendorAtom(" true atoms decl) ↔
      decl.signature ∈ atoms.signatureInfoMap := by
  have noChain := noChains decl member
  have maps := acceptedMaps registered
  have types : ∀ parameters : List Parameter,
      Usage.Fits (writeCppUsage "createVendorAtom(" (makeConstantName decl.name) decl
        attributionDecl true) parameters ↔
      parameters.map Parameter.typeName = "int32_t" :: decl.signature.flatMap vendorTypesOf := by
    intro parameters
    rw [Usage.Fits, writeCppUsage_types _ _ noChain]
  rw [CanBeLogged, describeAtom, nonChainedDecl?_eq_none registered noChains]
  simp only [Option.toList_none, List.map_nil, List.forall_mem_singleton, types]
  constructor
  · rintro ⟨-, method, printed, sameTypes⟩
    rcases exists_entry_of_mem_printed printed with ⟨entry, entryMem, written⟩
    have present := mem_of_mem_toList entryMem
    rw [createVendorAtom_types written, List.cons.injEq] at sameTypes
    have argumentTypes : ∀ signature, AcceptedSignature signature →
        JavaType.attributionChain ∉ signature → ∀ type ∈ signature, type ∈ signatureTypes.tail :=
      fun signature accepted free type typeMem =>
        mem_signatureTypes_tail (accepted.isArgument free type typeMem)
    have same := flatMap_vendorTypesOf_injective
      (argumentTypes _ (maps.pushed _ present)
        (noChain_of_mem_signatureInfoMap registered noChains present))
      (argumentTypes _ (acceptedSignature_of_mem registered member) noChain) sameTypes.2
    exact same ▸ present
  · intro present
    rcases exists_mem_toList present with ⟨entry, entryMem, isSignature⟩
    have allOk : ∀ other ∈ atoms.signatureInfoMap.toList,
        (Vendor.Native.writeNativeCreateVendorAtomMethod constants attributionDecl other).isOk =
          true :=
      fun other otherMem => Vendor.Native.writeNativeCreateVendorAtomMethod_isOk constants
        (maps.pushed other.1 (mem_of_mem_toList otherMem)) other.2
    rcases isOk_iff_exists.mp (allOk entry entryMem) with ⟨method, written⟩
    constructor
    · refine ⟨_, List.mem_map_of_mem entryMem, ?_⟩
      rw [isSignature]
      exact congrArg (List.cons "int32_t") (nativeSignatureParameters_vendor 1 decl.signature)
    · refine ⟨method, mem_printed_of_isOk allOk entryMem written, ?_⟩
      rw [createVendorAtom_types written, isSignature]

end Registered

/-- In an accepted run without chains an advertised atom can be logged exactly when a pushed
atom has its signature. -/
theorem advertised_iff (descriptor : AtomDescriptor) (moduleName : String) (atoms : Atoms)
    (accepted : collateAtoms descriptor moduleName {} = (0, atoms))
    (noChains : ∀ decl ∈ elements atoms.decls, JavaType.attributionChain ∉ decl.signature)
    (constants : AnnotationIdConstants) (decl : AtomDecl) (member : decl ∈ elements atoms.decls) :
    CanBeLogged constants atoms (describeAtom "createVendorAtom(" true atoms decl) ↔
      SelectedSignature descriptor moduleName .pushed decl.signature := by
  rcases collateAtoms_registered accepted with ⟨registrations, selected, registered⟩
  rw [canBeLogged_iff registered noChains constants member]
  exact mem_iff_selectedSignature registered.pushed selected

theorem advertised_vendorDescriptor :
    CanBeLogged (getAnnotationIdConstants annotationConstantNameVendorNativePrefix)
        Vendor.vendorAtoms (describeAtom "createVendorAtom(" true Vendor.vendorAtoms
          Vendor.vendorDecl) ↔
      SelectedSignature Vendor.vendorDescriptor "test" .pushed Vendor.vendorDecl.signature :=
  advertised_iff Vendor.vendorDescriptor "test" Vendor.vendorAtoms (Prod.ext (by decide) rfl)
    (by decide) _ Vendor.vendorDecl Vendor.mem_vendorDecl

/-! ## A pulled vendor atom -/

def batteryHealth : Descriptor where
  name := "BatteryHealth"
  fields :=
    [{ name := "reverse_domain_name", number := 1, type := .string },
     { name := "cycles", number := 2, type := .int64 }]
  numbers_nodup := by decide

/-- The pulled atom has a signature of its own. -/
def pulledDescriptor : AtomDescriptor where
  fields :=
    [{ name := "timestampAtom", number := 105510,
       type := .message Vendor.vendorAtomWithTimestamp, options := { module := ["test"] } },
     { name := "battery_health", number := 150010, type := .message batteryHealth,
       options := { module := ["test"] } }]
  extensions := []
  numbers_nodup := by decide

def pulledAtoms : Atoms :=
  (collateAtoms pulledDescriptor "test" {}).2

/-- The declaration of the pulled atom of `pulledDescriptor`. -/
def batteryHealthDecl : AtomDecl :=
  (pulledAtoms.decls[(⟨150010, "battery_health"⟩ : DeclKey)]?).getD {}

theorem mem_batteryHealthDecl : batteryHealthDecl ∈ elements pulledAtoms.decls :=
  getD_mem_elements (by decide) _

/-- The header has a constant and a usage line for the pulled atom, and no method. -/
theorem not_canBeLogged_batteryHealth :
    (collateAtoms pulledDescriptor "test" {}).1 = 0 ∧
    (∀ decl ∈ elements pulledAtoms.decls, JavaType.attributionChain ∉ decl.signature) ∧
    describeAtom "createVendorAtom(" true pulledAtoms batteryHealthDecl ∈
      describeAtoms "createVendorAtom(" true pulledAtoms ∧
    ∀ constants, ¬CanBeLogged constants pulledAtoms
      (describeAtom "createVendorAtom(" true pulledAtoms batteryHealthDecl) := by
  have accepted : collateAtoms pulledDescriptor "test" {} = (0, pulledAtoms) :=
    Prod.ext (by decide) rfl
  have noChains : ∀ decl ∈ elements pulledAtoms.decls,
      JavaType.attributionChain ∉ decl.signature := by decide
  rcases collateAtoms_registered accepted with ⟨registrations, -, registered⟩
  refine ⟨by decide, noChains, List.mem_map_of_mem mem_batteryHealthDecl, fun constants => ?_⟩
  rw [canBeLogged_iff registered noChains constants mem_batteryHealthDecl]
  decide

end StatsLogApiGen.Main
