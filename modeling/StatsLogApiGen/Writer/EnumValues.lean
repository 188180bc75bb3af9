import StatsLogApiGen.Writer.Constants
import StatsLogApiGen.Writer.NonChained

/-!
# Enum values that get a constant

Collation keeps the values of an enum in a map from numbers to names, and the vendor
writers print an enum once for several fields.  This file says which values of the
declared enums have a constant in the end.
-/

namespace StatsLogApiGen.Writer

open Std
open StatsLogApiGen.Container
open StatsLogApiGen.Proto
open StatsLogApiGen.Collation

/-! ## Collated values -/

theorem javaType_isEnum_iff {field : MessageFieldDescriptor} {isUintAllowed : Bool} :
    (javaType field isUintAllowed = .enum ∨ javaType field isUintAllowed = .enumArray) ↔
      ∃ enumType, field.type = .enum enumType := by
  rcases field with ⟨name, number, type, isRepeated, options⟩
  constructor
  · intro isEnum
    cases type with
    | enum enumType => exact ⟨enumType, rfl⟩
    | _ => grind [javaType]
  · rintro ⟨enumType, isEnum⟩
    have typeEq : type = .enum enumType := isEnum
    subst typeEq
    cases isRepeated <;> simp [javaType]

/-- The values of an enum field: of several names for a number, the last. -/
theorem mem_enumValues_buildAtomField {field : MessageFieldDescriptor} {isUintAllowed : Bool}
    {enumType : EnumDescriptor} (type : field.type = .enum enumType) {value : Int × String} :
    value ∈ (buildAtomField field (javaType field isUintAllowed)).enumValues.toList ↔
      ∃ declared, IsLast EnumValueDescriptor.number enumType.values declared ∧
        (declared.number, declared.name) = value := by
  have isEnum : javaType field isUintAllowed = .enum ∨ javaType field isUintAllowed = .enumArray :=
    javaType_isEnum_iff.mpr ⟨enumType, type⟩
  have built : (buildAtomField field (javaType field isUintAllowed)).enumValues =
      enumType.values.foldl (fun map item => map.insert item.number item.name) ∅ := by
    simp only [buildAtomField, type, if_pos isEnum, collateEnums]
  rcases value with ⟨number, name⟩
  rw [built, ExtTreeMap.mem_toList_iff_getElem?_eq_some, getElem?_foldl_insert_iff]
  simp only [Prod.mk.injEq]

theorem mem_enumFields_iff (registration : Registration) {atomField : AtomField} :
    atomField ∈ enumFields registration.decl ↔
      ∃ field ∈ registration.atom.fields, (∃ enumType, field.type = .enum enumType) ∧
        buildAtomField field
          (javaType field (registration.atom.name ∈ uintAtomAllowlist)) = atomField := by
  rw [enumFields, List.mem_filter, registration.decl_fields, atomFieldsOf, List.mem_map,
    decide_eq_true_iff]
  constructor
  · rintro ⟨⟨field, member, rfl⟩, isEnum⟩
    rw [buildAtomField_javaType] at isEnum
    exact ⟨field, mem_sortedFields.mp member, javaType_isEnum_iff.mp isEnum, rfl⟩
  · rintro ⟨field, member, isEnum, rfl⟩
    refine ⟨⟨field, mem_sortedFields.mpr member, rfl⟩, ?_⟩
    rw [buildAtomField_javaType]
    exact javaType_isEnum_iff.mpr isEnum

/-! ## Constants for declared values -/

/-- An enum field of an atom of the module. -/
structure EnumField (descriptor : AtomDescriptor) (moduleName : String) (atom : Descriptor)
    (field : MessageFieldDescriptor) (enumType : EnumDescriptor) : Prop where
  selected : ∃ atomField ∈ selectedAtoms descriptor moduleName, atomField.type = .message atom
  member : field ∈ atom.fields
  type : field.type = .enum enumType

/-- The constant for a declared value. -/
def valueConstant (atom : Descriptor) (field : MessageFieldDescriptor)
    (value : EnumValueDescriptor) : String × Int :=
  (makeConstantName atom.name ++ "__" ++ makeConstantName field.name ++ "__" ++
    makeConstantName value.name, value.number)

/-- The constants of the enum fields are those of the last value with each number. -/
theorem mem_enumConstants_iff {descriptor : AtomDescriptor} {moduleName : String} {atoms : Atoms}
    (accepted : collateAtoms descriptor moduleName {} = (0, atoms)) {constant : String × Int} :
    constant ∈ enumConstants atoms ↔
      ∃ atom field enumType, EnumField descriptor moduleName atom field enumType ∧
        ∃ value, IsLast EnumValueDescriptor.number enumType.values value ∧
          valueConstant atom field value = constant := by
  rcases collateAtoms_registered accepted with ⟨registrations, selected, registered⟩
  simp only [enumConstants, List.mem_flatMap, registered.decls.mem_elements, List.mem_map,
    fieldEnumConstants]
  constructor
  · rintro ⟨_, ⟨registration, member, rfl⟩, _, fieldMem, pair, pairMem, rfl⟩
    rcases (mem_enumFields_iff registration).mp fieldMem with ⟨field, isField, isEnum, rfl⟩
    rcases isEnum with ⟨enumType, type⟩
    rcases (mem_enumValues_buildAtomField type).mp pairMem with ⟨value, isLast, rfl⟩
    refine ⟨registration.atom, field, enumType, ⟨?_, isField, type⟩, value, isLast, ?_⟩
    · rw [← selected]
      exact ⟨registration.atomField, List.mem_map_of_mem member, registration.rule.type⟩
    · rw [buildAtomField_name, registration.describesAtom.message]
      rfl
  · rintro ⟨atom, field, enumType, isEnumField, value, isLast, rfl⟩
    rcases isEnumField with ⟨⟨atomField, selectedMem, atomType⟩, isField, type⟩
    rcases exists_registration selected selectedMem atomType with ⟨registration, member, -, rfl⟩
    refine ⟨registration.decl, ⟨registration, member, rfl⟩, _,
      (mem_enumFields_iff registration).mpr ⟨field, isField, ⟨enumType, type⟩, rfl⟩,
      (value.number, value.name), (mem_enumValues_buildAtomField type).mpr ⟨value, isLast, rfl⟩, ?_⟩
    rw [buildAtomField_name, registration.describesAtom.message]
    rfl

/-- Every value that an enum of the module declares has its constant. -/
def NamesAllValues (descriptor : AtomDescriptor) (moduleName : String)
    (constants : List (String × Int)) : Prop :=
  ∀ atom field enumType, EnumField descriptor moduleName atom field enumType →
    ∀ value ∈ enumType.values, valueConstant atom field value ∈ constants

/-- A value whose number is declared again after it has the constant of a value whose
number is not. -/
def AliasesAgree (descriptor : AtomDescriptor) (moduleName : String) : Prop :=
  ∀ atom field enumType, EnumField descriptor moduleName atom field enumType →
    ∀ value ∈ enumType.values, ¬IsLast EnumValueDescriptor.number enumType.values value →
      ∃ otherAtom otherField otherType,
        EnumField descriptor moduleName otherAtom otherField otherType ∧
        ∃ other, IsLast EnumValueDescriptor.number otherType.values other ∧
          valueConstant otherAtom otherField other = valueConstant atom field value

/-- The native and the Java output name all values exactly when aliases agree. -/
theorem namesAllValues_iff (descriptor : AtomDescriptor) (moduleName : String) (atoms : Atoms)
    (accepted : collateAtoms descriptor moduleName {} = (0, atoms)) :
    (NamesAllValues descriptor moduleName (writeNativeAtomEnums atoms) ∧
      NamesAllValues descriptor moduleName (writeJavaEnumValues atoms)) ↔
      AliasesAgree descriptor moduleName := by
  rw [writeNativeAtomEnums, writeJavaEnumValues, and_self]
  constructor
  · intro named atom field enumType isEnumField value member _
    exact (mem_enumConstants_iff accepted).mp (named atom field enumType isEnumField value member)
  · intro agree atom field enumType isEnumField value member
    apply (mem_enumConstants_iff accepted).mpr
    by_cases isLast : IsLast EnumValueDescriptor.number enumType.values value
    · exact ⟨atom, field, enumType, isEnumField, value, isLast, rfl⟩
    · exact agree atom field enumType isEnumField value member isLast

theorem namesAllValues_shared :
    (NamesAllValues sharedDescriptor "test" (writeNativeAtomEnums sharedAtoms) ∧
      NamesAllValues sharedDescriptor "test" (writeJavaEnumValues sharedAtoms)) ↔
      AliasesAgree sharedDescriptor "test" :=
  namesAllValues_iff sharedDescriptor "test" sharedAtoms (Prod.ext (by decide) rfl)

/-- An enum with two names for one number. -/
def aliasedState : EnumDescriptor :=
  ⟨"State", [⟨"OFF", 0⟩, ⟨"IDLE", 0⟩, ⟨"ON", 1⟩]⟩

def aliasedField : MessageFieldDescriptor where
  name := "state"
  number := 1
  type := .enum aliasedState

def aliasedMessage : Descriptor where
  name := "AliasedState"
  fields := [aliasedField]
  numbers_nodup := by decide

def aliasedDescriptor : AtomDescriptor where
  fields := [{ name := "aliased_state", number := 30, type := .message aliasedMessage }]
  extensions := []
  numbers_nodup := by decide

/-- The first of the two names is in neither output. -/
theorem not_namesAllValues_aliased :
    (collateAtoms aliasedDescriptor defaultModuleName {}).1 = 0 ∧
      ¬NamesAllValues aliasedDescriptor defaultModuleName
        (writeNativeAtomEnums (collateAtoms aliasedDescriptor defaultModuleName {}).2) ∧
      ¬NamesAllValues aliasedDescriptor defaultModuleName
        (writeJavaEnumValues (collateAtoms aliasedDescriptor defaultModuleName {}).2) := by
  have isEnumField : EnumField aliasedDescriptor defaultModuleName aliasedMessage aliasedField
      aliasedState := by
    constructor
    · exact ⟨_, List.mem_cons_self, rfl⟩
    · exact List.mem_cons_self
    · rfl
  have lost : valueConstant aliasedMessage aliasedField ⟨"OFF", 0⟩ ∉
      enumConstants (collateAtoms aliasedDescriptor defaultModuleName {}).2 := by decide
  refine ⟨by decide, ?_, ?_⟩
  · intro named
    exact lost (named _ _ _ isEnumField _ List.mem_cons_self)
  · intro named
    exact lost (named _ _ _ isEnumField _ List.mem_cons_self)

/-! ## Enums of the vendor outputs -/

/-- The enum fields of all atoms, in the order of the loops. -/
def declaredEnumFields (atoms : Atoms) : List (AtomDecl × AtomField) :=
  (elements atoms.decls).flatMap fun decl => (enumFields decl).map fun field => (decl, field)

/-- The enums that the loop of the vendor header meets for some fields of an atom. -/
def headerEntries (fields : List AtomField) : List (String × List VendorEnum) :=
  fields.map fun field => (field.enumTypeName, [vendorEnum field])

/-- The constants that the loop of the vendor Java class meets for some fields. -/
def javaEntries (pairs : List (AtomDecl × AtomField)) : List (String × List (String × Int)) :=
  pairs.map fun pair => (fullEnumTypeName pair.1 pair.2, vendorEnumConstants pair.1 pair.2)

/-- The enum of a field has an enumerator for a value. -/
def HasEnumerator (enums : List VendorEnum) (field : AtomField) (value : Int × String) : Prop :=
  ∃ printed ∈ enums, printed.name = field.enumTypeName ∧
    (makeConstantName value.2, value.1) ∈ printed.values

/-- The constant of the vendor Java class for a value of a field. -/
def vendorConstant (pair : AtomDecl × AtomField) (value : Int × String) : String × Int :=
  (makeConstantName (fullEnumTypeName pair.1 pair.2) ++ "__" ++ makeConstantName value.2, value.1)

/-- Every collated value of an enum field has its constant in the vendor header and in the
vendor Java class, and an enum is skipped only behind its own constants. -/
structure KeepsEnumValues (atoms : Atoms) : Prop where
  header : ∀ decl ∈ elements atoms.decls, ∀ field ∈ enumFields decl,
    ∀ value ∈ field.enumValues.toList, ∃ printed ∈ vendorClasses atoms,
      printed.name = decl.message ∧ HasEnumerator printed.enums field value
  javaClass : ∀ pair ∈ declaredEnumFields atoms, ∀ value ∈ pair.2.enumValues.toList,
    vendorConstant pair value ∈ writeJavaEnumValuesVendor atoms
  headerSkips : ∀ decl ∈ elements atoms.decls, ∀ before field after,
    enumFields decl = before ++ field :: after →
      field.enumTypeName ∈ (processOnce (headerEntries before)).keys →
        ∀ value ∈ field.enumValues.toList,
          HasEnumerator (processOnce (headerEntries before)).printed field value
  javaSkips : ∀ before pair after, declaredEnumFields atoms = before ++ pair :: after →
    fullEnumTypeName pair.1 pair.2 ∈ (processOnce (javaEntries before)).keys →
      ∀ value ∈ pair.2.enumValues.toList,
        vendorConstant pair value ∈ (processOnce (javaEntries before)).printed

/-- Of the fields that share a key, the first has the values of the others: in one atom
for the name of the enum, in all atoms for the names of the message and of the enum. -/
structure FirstsCover (atoms : Atoms) : Prop where
  header : ∀ decl ∈ elements atoms.decls, ∀ before field after,
    enumFields decl = before ++ field :: after →
      ∀ first, IsFirst AtomField.enumTypeName before first →
        first.enumTypeName = field.enumTypeName → ∀ value ∈ field.enumValues.toList,
          ∃ same ∈ first.enumValues.toList, same.1 = value.1 ∧
            makeConstantName same.2 = makeConstantName value.2
  javaClass : ∀ before pair after, declaredEnumFields atoms = before ++ pair :: after →
    (∃ other ∈ before, fullEnumTypeName other.1 other.2 = fullEnumTypeName pair.1 pair.2) →
      ∀ value ∈ pair.2.enumValues.toList, ∃ first,
        IsFirst (fun other => fullEnumTypeName other.1 other.2) before first ∧
          ∃ same ∈ first.2.enumValues.toList, vendorConstant first same = vendorConstant pair value

theorem hasEnumerator_printed_iff {fields : List AtomField} {field : AtomField}
    {value : Int × String} :
    HasEnumerator (processOnce (headerEntries fields)).printed field value ↔
      ∃ first, IsFirst AtomField.enumTypeName fields first ∧
        first.enumTypeName = field.enumTypeName ∧ ∃ same ∈ first.enumValues.toList,
          same.1 = value.1 ∧ makeConstantName same.2 = makeConstantName value.2 := by
  have firsts {entry : String × List VendorEnum} :
      IsFirst Prod.fst (headerEntries fields) entry ↔
        ∃ first, IsFirst AtomField.enumTypeName fields first ∧
          (first.enumTypeName, [vendorEnum first]) = entry :=
    isFirst_map_iff fun _ => rfl
  simp only [HasEnumerator, mem_processOnce_printed_iff, firsts]
  constructor
  · rintro ⟨printed, ⟨_, ⟨first, isFirst, rfl⟩, isPrinted⟩, sameName, hasValue⟩
    obtain rfl := List.mem_singleton.mp isPrinted
    rcases List.mem_map.mp hasValue with ⟨same, member, isValue⟩
    rw [Prod.mk.injEq] at isValue
    exact ⟨first, isFirst, sameName, same, member, isValue.2, isValue.1⟩
  · rintro ⟨first, isFirst, sameName, same, member, sameNumber, sameConstant⟩
    refine ⟨vendorEnum first, ⟨_, ⟨first, isFirst, rfl⟩, List.mem_singleton_self _⟩, sameName, ?_⟩
    rw [← sameNumber, ← sameConstant]
    exact List.mem_map_of_mem member

theorem mem_printed_javaEntries_iff {pairs : List (AtomDecl × AtomField)}
    {constant : String × Int} :
    constant ∈ (processOnce (javaEntries pairs)).printed ↔
      ∃ first, IsFirst (fun other => fullEnumTypeName other.1 other.2) pairs first ∧
        ∃ same ∈ first.2.enumValues.toList, vendorConstant first same = constant := by
  have firsts {entry : String × List (String × Int)} :
      IsFirst Prod.fst (javaEntries pairs) entry ↔
        ∃ first, IsFirst (fun other => fullEnumTypeName other.1 other.2) pairs first ∧
          (fullEnumTypeName first.1 first.2, vendorEnumConstants first.1 first.2) = entry :=
    isFirst_map_iff fun _ => rfl
  simp only [mem_processOnce_printed_iff, firsts]
  constructor
  · rintro ⟨_, ⟨first, isFirst, rfl⟩, isPrinted⟩
    rcases List.mem_map.mp isPrinted with ⟨same, member, isConstant⟩
    exact ⟨first, isFirst, same, member, isConstant⟩
  · rintro ⟨first, isFirst, same, member, rfl⟩
    exact ⟨_, ⟨first, isFirst, rfl⟩, List.mem_map_of_mem member⟩

theorem writeJavaEnumValuesVendor_eq (atoms : Atoms) :
    writeJavaEnumValuesVendor atoms =
      (processOnce (javaEntries (declaredEnumFields atoms))).printed := by
  rw [writeJavaEnumValuesVendor, javaEntries, declaredEnumFields, List.map_flatMap]
  simp only [List.map_map]
  rfl

/-- The constants of the Java class, when an enum is skipped only behind them. -/
theorem mem_writeJavaEnumValuesVendor {atoms : Atoms}
    (skips : ∀ before pair after, declaredEnumFields atoms = before ++ pair :: after →
      fullEnumTypeName pair.1 pair.2 ∈ (processOnce (javaEntries before)).keys →
        ∀ value ∈ pair.2.enumValues.toList,
          vendorConstant pair value ∈ (processOnce (javaEntries before)).printed)
    {pair : AtomDecl × AtomField} (member : pair ∈ declaredEnumFields atoms)
    {value : Int × String} (valueMem : value ∈ pair.2.enumValues.toList) :
    vendorConstant pair value ∈ writeJavaEnumValuesVendor atoms := by
  have skipsPrinted : SkipsPrinted (javaEntries (declaredEnumFields atoms)) := by
    intro before entry after split seen constant constantMem
    rcases List.map_eq_append_iff.mp split with ⟨front, back, isPairs, rfl, isBack⟩
    rcases List.map_eq_cons_iff.mp isBack with ⟨skipped, rest, rfl, rfl, -⟩
    rcases List.mem_map.mp constantMem with ⟨skippedValue, skippedMem, rfl⟩
    exact skips front skipped rest isPairs seen skippedValue skippedMem
  rw [writeJavaEnumValuesVendor_eq]
  exact skipsPrinted.mem_printed (List.mem_map_of_mem member) (List.mem_map_of_mem valueMem)

/-- The class for an atom with an enum field has what its loop has printed. -/
theorem vendorClass_mem {atoms : Atoms} {decl : AtomDecl} (member : decl ∈ elements atoms.decls)
    {field : AtomField} (isEnum : field ∈ enumFields decl) :
    ⟨decl.message, (processOnce (headerEntries (enumFields decl))).printed⟩ ∈
      vendorClasses atoms := by
  apply List.mem_flatMap.mpr
  refine ⟨decl, member, ?_⟩
  have hasKey : field.enumTypeName ∈ (processOnce (headerEntries (enumFields decl))).keys :=
    mem_processOnce_keys_iff.mpr ⟨_, List.mem_map_of_mem isEnum, rfl⟩
  rw [vendorClass, ← headerEntries, if_neg (List.ne_nil_of_mem hasKey)]
  exact List.mem_singleton_self _

section Skips

variable {atoms : Atoms}

/-- What is skipped behind its constants is covered by the first field with its key. -/
theorem KeepsEnumValues.firstsCover (keeps : KeepsEnumValues atoms) : FirstsCover atoms := by
  constructor
  · intro decl member before field after split first isFirst sameName value valueMem
    have seen : field.enumTypeName ∈ (processOnce (headerEntries before)).keys :=
      mem_processOnce_keys_iff.mpr ⟨_, List.mem_map_of_mem isFirst.mem, sameName⟩
    have printed := keeps.headerSkips decl member before field after split seen value valueMem
    rcases hasEnumerator_printed_iff.mp printed with ⟨other, otherFirst, otherName, covered⟩
    rwa [otherFirst.eq_of_key_eq isFirst (otherName.trans sameName.symm)] at covered
  · rintro before pair after split ⟨other, otherMem, sameName⟩ value valueMem
    have seen : fullEnumTypeName pair.1 pair.2 ∈ (processOnce (javaEntries before)).keys :=
      mem_processOnce_keys_iff.mpr ⟨_, List.mem_map_of_mem otherMem, sameName⟩
    exact mem_printed_javaEntries_iff.mp
      (keeps.javaSkips before pair after split seen value valueMem)

variable (cover : FirstsCover atoms)

include cover

/-- The first field with the name of an earlier one has the values of the field. -/
theorem FirstsCover.exists_first {decl : AtomDecl} (member : decl ∈ elements atoms.decls)
    {before after : List AtomField} {field other : AtomField}
    (split : enumFields decl = before ++ field :: after) (otherMem : other ∈ before)
    (sameName : other.enumTypeName = field.enumTypeName) {value : Int × String}
    (valueMem : value ∈ field.enumValues.toList) :
    ∃ first, IsFirst AtomField.enumTypeName before first ∧
      first.enumTypeName = field.enumTypeName ∧ ∃ same ∈ first.enumValues.toList,
        same.1 = value.1 ∧ makeConstantName same.2 = makeConstantName value.2 := by
  rcases exists_isFirst AtomField.enumTypeName otherMem with ⟨first, isFirst, firstName⟩
  have name := firstName.trans sameName
  exact ⟨first, isFirst, name,
    cover.header decl member before field after split first isFirst name value valueMem⟩

theorem FirstsCover.hasEnumerator {decl : AtomDecl} (member : decl ∈ elements atoms.decls)
    {field : AtomField} (isEnum : field ∈ enumFields decl) {value : Int × String}
    (valueMem : value ∈ field.enumValues.toList) :
    HasEnumerator (processOnce (headerEntries (enumFields decl))).printed field value := by
  apply hasEnumerator_printed_iff.mpr
  rcases List.append_of_mem isEnum with ⟨before, after, split⟩
  by_cases seen : ∃ other ∈ before, other.enumTypeName = field.enumTypeName
  · rcases seen with ⟨other, otherMem, sameName⟩
    rcases cover.exists_first member split otherMem sameName valueMem with
      ⟨first, isFirst, name, covered⟩
    rw [split]
    exact ⟨first, isFirst.append _, name, covered⟩
  · refine ⟨field, ⟨before, after, split, ?_⟩, rfl, value, valueMem, rfl, rfl⟩
    intro other otherMem sameName
    exact seen ⟨other, otherMem, sameName⟩

theorem FirstsCover.javaSkips {before after : List (AtomDecl × AtomField)}
    {pair : AtomDecl × AtomField} (split : declaredEnumFields atoms = before ++ pair :: after)
    (seen : fullEnumTypeName pair.1 pair.2 ∈ (processOnce (javaEntries before)).keys)
    {value : Int × String} (valueMem : value ∈ pair.2.enumValues.toList) :
    vendorConstant pair value ∈ (processOnce (javaEntries before)).printed := by
  rcases mem_processOnce_keys_iff.mp seen with ⟨_, entryMem, sameName⟩
  rcases List.mem_map.mp entryMem with ⟨other, otherMem, rfl⟩
  exact mem_printed_javaEntries_iff.mpr
    (cover.javaClass before pair after split ⟨other, otherMem, sameName⟩ value valueMem)

theorem FirstsCover.keepsEnumValues : KeepsEnumValues atoms := by
  constructor
  · intro decl member field isEnum value valueMem
    exact ⟨_, vendorClass_mem member isEnum, rfl, cover.hasEnumerator member isEnum valueMem⟩
  · intro pair member value valueMem
    exact mem_writeJavaEnumValuesVendor
      (fun _ _ _ split seen _ skippedMem => cover.javaSkips split seen skippedMem) member valueMem
  · intro decl member before field after split seen value valueMem
    rcases mem_processOnce_keys_iff.mp seen with ⟨_, entryMem, sameName⟩
    rcases List.mem_map.mp entryMem with ⟨other, otherMem, rfl⟩
    exact hasEnumerator_printed_iff.mpr
      (cover.exists_first member split otherMem sameName valueMem)
  · intro before pair after split seen value valueMem
    exact cover.javaSkips split seen valueMem

end Skips

/-- The vendor outputs keep the values of all enums exactly when the first field with a
key has the values of the others. -/
theorem keepsEnumValues_iff (atoms : Atoms) : KeepsEnumValues atoms ↔ FirstsCover atoms :=
  ⟨KeepsEnumValues.firstsCover, FirstsCover.keepsEnumValues⟩

/-- Two enums with one simple name, declared in different scopes. -/
def modemState : Descriptor where
  name := "ModemState"
  fields :=
    [{ name := "reverse_domain_name", number := 1, type := .string },
     { name := "power", number := 2, type := .enum ⟨"State", [⟨"OFF", 0⟩, ⟨"ON", 1⟩]⟩ },
     { name := "radio", number := 3, type := .enum ⟨"State", [⟨"IDLE", 0⟩, ⟨"BUSY", 1⟩]⟩ }]
  numbers_nodup := by decide

def modemDescriptor : AtomDescriptor where
  fields :=
    [{ name := "modem_state", number := 105530, type := .message modemState,
       options := { module := ["test"] } }]
  extensions := []
  numbers_nodup := by decide

/-- The second enum is taken for the first, and its values are lost. -/
theorem not_keepsEnumValues_modem :
    (collateAtoms modemDescriptor "test" {}).1 = 0 ∧
      ¬KeepsEnumValues (collateAtoms modemDescriptor "test" {}).2 := by
  refine ⟨by decide, ?_⟩
  intro keeps
  have lost : ¬∀ pair ∈ declaredEnumFields (collateAtoms modemDescriptor "test" {}).2,
      ∀ value ∈ pair.2.enumValues.toList,
        vendorConstant pair value ∈
          writeJavaEnumValuesVendor (collateAtoms modemDescriptor "test" {}).2 := by decide
  exact lost keeps.javaClass

end StatsLogApiGen.Writer
