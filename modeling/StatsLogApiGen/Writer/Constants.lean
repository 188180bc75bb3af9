import StatsLogApiGen.Container.Occurrences
import StatsLogApiGen.Writer.Body

/-!
# Constants of the generated outputs

The constants for atom codes and enum values, and the classes of the vendor header.
The writers spell the name of an enum value in the same way, but some of them print
the values of an enum for every field and others only the first time they meet it.
-/

namespace StatsLogApiGen.Writer

open Std
open StatsLogApiGen.Container
open StatsLogApiGen.Proto
open StatsLogApiGen.Collation

/-! ## Names -/

/-- The name of an enum value: a message, what the message calls the enum, and the name
of the value. -/
structure EnumValueName where
  message : String
  enum : String
  value : String
  deriving DecidableEq, Repr

/-- The constant for an enum value. -/
def EnumValueName.constant (name : EnumValueName) : String :=
  makeConstantName name.message ++ "__" ++ makeConstantName name.enum ++ "__" ++
    makeConstantName name.value

/-- An underscore clears the pending one: what stands before it and after it is
converted separately. -/
theorem constantNameChars_append_underscore (underscoreNext : Bool) (left right : List Char) :
    constantNameChars underscoreNext (left ++ '_' :: right) =
      constantNameChars underscoreNext left ++ '_' :: constantNameChars false right := by
  induction left generalizing underscoreNext with
  | nil => simp [constantNameChars]
  | cons c rest ih =>
      rw [List.cons_append, constantNameChars, constantNameChars]
      split_ifs <;> simp [ih]

theorem makeConstantName_append_underscore (left right : String) :
    makeConstantName (left ++ "_" ++ right) =
      makeConstantName left ++ "_" ++ makeConstantName right := by
  apply String.toList_injective
  simp only [makeConstantName, String.toList_append, String.toList_ofList]
  have converted := constantNameChars_append_underscore false left.toList right.toList
  simpa using converted

/-- Joined names are converted one by one. -/
theorem makeConstantName_append (left right : String) :
    makeConstantName (left ++ "__" ++ right) =
      makeConstantName left ++ "__" ++ makeConstantName right := by
  have between (before after : String) :
      before ++ "__" ++ after = before ++ "_" ++ "" ++ "_" ++ after := by
    apply String.toList_injective
    simp
  have empty : makeConstantName "" = "" := rfl
  rw [between, makeConstantName_append_underscore, makeConstantName_append_underscore, empty,
    ← between]

/-! ## Writers -/

/-- The fields for which the values of an enum are printed. -/
def enumFields (decl : AtomDecl) : List AtomField :=
  decl.fields.filter fun field => field.javaType = .enum ∨ field.javaType = .enumArray

/-- `write_native_atom_constants`. -/
def writeNativeAtomConstants (atoms : Atoms) : List (String × Int) :=
  atomConstants atoms

/-- `write_java_atom_codes`. -/
def writeJavaAtomCodes (atoms : Atoms) : List (String × Int) :=
  atomConstants atoms

/-- The constants for the values of the enum of a field. -/
def fieldEnumConstants (decl : AtomDecl) (field : AtomField) : List (String × Int) :=
  field.enumValues.toList.map fun value =>
    (makeConstantName decl.message ++ "__" ++ makeConstantName field.name ++ "__" ++
      makeConstantName value.2, value.1)

/-- The values of the enums of all fields of all atoms. -/
def enumConstants (atoms : Atoms) : List (String × Int) :=
  (elements atoms.decls).flatMap fun decl =>
    (enumFields decl).flatMap (fieldEnumConstants decl)

/-- `write_native_atom_enums`. -/
def writeNativeAtomEnums (atoms : Atoms) : List (String × Int) :=
  enumConstants atoms

/-- `write_java_enum_values`. -/
def writeJavaEnumValues (atoms : Atoms) : List (String × Int) :=
  enumConstants atoms

/-- `full_enum_type_name`. -/
def fullEnumTypeName (decl : AtomDecl) (field : AtomField) : String :=
  decl.message ++ "__" ++ field.enumTypeName

/-- What `write_java_enum_values_vendor` prints for a field whose enum it has not
processed. -/
def vendorEnumConstants (decl : AtomDecl) (field : AtomField) : List (String × Int) :=
  field.enumValues.toList.map fun value =>
    (makeConstantName (fullEnumTypeName decl field) ++ "__" ++ makeConstantName value.2, value.1)

/-- `write_java_enum_values_vendor`: the processed enums are shared by all atoms. -/
def writeJavaEnumValuesVendor (atoms : Atoms) : List (String × Int) :=
  (processOnce ((elements atoms.decls).flatMap fun decl =>
    (enumFields decl).map fun field =>
      (fullEnumTypeName decl field, vendorEnumConstants decl field))).printed

/-- An enum in a class of the vendor header. -/
structure VendorEnum where
  name : String
  values : List (String × Int)
  deriving DecidableEq, Repr

/-- A class of the vendor header. -/
structure VendorClass where
  name : String
  enums : List VendorEnum
  deriving DecidableEq, Repr

/-- What `write_stats_log_header_vendor` prints for a field whose enum it has not
processed. -/
def vendorEnum (field : AtomField) : VendorEnum where
  name := field.enumTypeName
  values := field.enumValues.toList.map fun value => (makeConstantName value.2, value.1)

/-- The class for the message of an atom; the processed enums are those of the atom. -/
def vendorClass (decl : AtomDecl) : List VendorClass :=
  let processed := processOnce ((enumFields decl).map fun field =>
    (field.enumTypeName, [vendorEnum field]))
  if processed.keys = [] then [] else [⟨decl.message, processed.printed⟩]

/-- The loop over the atoms in `write_stats_log_header_vendor`. -/
def vendorClasses (atoms : Atoms) : List VendorClass :=
  (elements atoms.decls).flatMap vendorClass

/-! ## Identifiers -/

/-- The outputs that define constants. -/
inductive ConstantOutput where
  | nativeHeader
  | javaClass
  | vendorHeader
  | vendorJavaClass
  deriving DecidableEq, Repr

/-- A name in a scope: the names of the classes around it and its own name. -/
abbrev Identifier := List String

/-- The constants of a scope. -/
def constantIdentifiers (constants : List (String × Int)) : List Identifier :=
  constants.map fun constant => [constant.1]

/-- A class with the enumerators in its scope. -/
def VendorClass.identifiers (vendorClass : VendorClass) : List Identifier :=
  [vendorClass.name] ::
    (vendorClass.enums.flatMap VendorEnum.values).map fun value => [vendorClass.name, value.1]

/-- The constants for atom codes and enum values and the classes that an output
defines. -/
def ConstantOutput.identifiers (atoms : Atoms) : ConstantOutput → List Identifier
  | .nativeHeader =>
      constantIdentifiers (writeNativeAtomConstants atoms ++ writeNativeAtomEnums atoms)
  | .javaClass => constantIdentifiers (writeJavaAtomCodes atoms ++ writeJavaEnumValues atoms)
  | .vendorHeader =>
      constantIdentifiers (writeNativeAtomConstants atoms) ++
        (vendorClasses atoms).flatMap VendorClass.identifiers
  | .vendorJavaClass =>
      constantIdentifiers (writeJavaAtomCodes atoms ++ writeJavaEnumValuesVendor atoms)

/-- Every identifier of an output is defined once. -/
def ConstantOutput.DefinesOnce (atoms : Atoms) (output : ConstantOutput) : Prop :=
  (output.identifiers atoms).Nodup

instance (atoms : Atoms) (output : ConstantOutput) : Decidable (output.DefinesOnce atoms) :=
  inferInstanceAs (Decidable (List.Nodup _))

/-! ## Names of enum values -/

/-- The values of the enums of all fields, under the names of the fields. -/
def fieldValueNames (atoms : Atoms) : List EnumValueName :=
  (elements atoms.decls).flatMap fun decl =>
    (enumFields decl).flatMap fun field =>
      field.enumValues.toList.map fun value => ⟨decl.message, field.name, value.2⟩

/-- The values of an enum under the name of its type. -/
def typeValueNames (decl : AtomDecl) (field : AtomField) : List EnumValueName :=
  field.enumValues.toList.map fun value => ⟨decl.message, field.enumTypeName, value.2⟩

/-- The values of the first field of every enum type, under the name of the type. -/
def firstValueNames (atoms : Atoms) : List EnumValueName :=
  (keepFirst [] ((elements atoms.decls).flatMap fun decl =>
    (enumFields decl).map fun field =>
      (fullEnumTypeName decl field, typeValueNames decl field))).flatMap Prod.snd

theorem enumConstants_names (atoms : Atoms) :
    (enumConstants atoms).map Prod.fst = (fieldValueNames atoms).map EnumValueName.constant := by
  rw [enumConstants, fieldValueNames, List.map_flatMap, List.map_flatMap]
  apply List.flatMap_congr
  intro decl _
  rw [List.map_flatMap, List.map_flatMap]
  apply List.flatMap_congr
  intro field _
  rw [fieldEnumConstants, List.map_map, List.map_map]
  rfl

theorem vendorEnumConstants_names (decl : AtomDecl) (field : AtomField) :
    (vendorEnumConstants decl field).map Prod.fst =
      (typeValueNames decl field).map EnumValueName.constant := by
  rw [vendorEnumConstants, typeValueNames, List.map_map, List.map_map, fullEnumTypeName,
    makeConstantName_append]
  rfl

theorem writeJavaEnumValuesVendor_names (atoms : Atoms) :
    (writeJavaEnumValuesVendor atoms).map Prod.fst =
      (firstValueNames atoms).map EnumValueName.constant := by
  let fields := (elements atoms.decls).flatMap fun decl =>
    (enumFields decl).map fun field => (decl, field)
  have entries {α : Type} (values : AtomDecl → AtomField → List α) :
      ((elements atoms.decls).flatMap fun decl =>
        (enumFields decl).map fun field => (fullEnumTypeName decl field, values decl field)) =
      fields.map fun pair => (fullEnumTypeName pair.1 pair.2, values pair.1 pair.2) := by
    rw [List.map_flatMap]
    apply List.flatMap_congr
    intro decl _
    rw [List.map_map]
    rfl
  rw [writeJavaEnumValuesVendor, firstValueNames, processOnce_eq, entries, entries]
  apply keepFirst_flatMap_congr
  intro pair
  exact vendorEnumConstants_names pair.1 pair.2

/-! ## When identifiers are defined once -/

/-- The conversion to constants keeps the names of atoms and enum values apart. -/
structure NamesApart (atoms : Atoms) (names : List EnumValueName) : Prop where
  atomNames : DistinctConstants atoms
  listedOnce : names.Nodup
  unmerged : ∀ left ∈ names, ∀ right ∈ names, left.constant = right.constant → left = right
  apart : ∀ decl ∈ elements atoms.decls, ∀ name ∈ names,
    makeConstantName decl.name ≠ name.constant

theorem nodup_constantIdentifiers {constants : List (String × Int)} :
    (constantIdentifiers constants).Nodup ↔ (constants.map Prod.fst).Nodup := by
  have singleton : constantIdentifiers constants =
      (constants.map Prod.fst).map fun name => [name] := by
    rw [constantIdentifiers, List.map_map]
    rfl
  rw [singleton]
  apply List.nodup_map_iff
  intro left right same
  exact List.head_eq_of_cons_eq same

/-- The constants for atoms and enum values are distinct when their names are kept
apart. -/
theorem nodup_constants_iff {atoms : Atoms} {values : List (String × Int)}
    {names : List EnumValueName}
    (named : values.map Prod.fst = names.map EnumValueName.constant) :
    (constantIdentifiers (atomConstants atoms ++ values)).Nodup ↔ NamesApart atoms names := by
  rw [nodup_constantIdentifiers, List.map_append, named, List.nodup_append',
    @nodup_map_iff _ _ EnumValueName.constant names]
  have apart_iff : ((atomConstants atoms).map Prod.fst).Disjoint
      (names.map EnumValueName.constant) ↔
      ∀ decl ∈ elements atoms.decls, ∀ name ∈ names,
        makeConstantName decl.name ≠ name.constant := by
    constructor
    · intro disjoint decl member name nameMem same
      apply disjoint (List.mem_map_of_mem (List.mem_map_of_mem member))
      exact List.mem_map.mpr ⟨name, nameMem, same.symm⟩
    · intro apart constant left right
      rcases List.mem_map.mp left with ⟨_, constantMem, rfl⟩
      rcases List.mem_map.mp constantMem with ⟨decl, member, rfl⟩
      rcases List.mem_map.mp right with ⟨name, nameMem, same⟩
      exact apart decl member name nameMem same.symm
  rw [apart_iff]
  constructor
  · rintro ⟨distinct, ⟨listedOnce, unmerged⟩, apart⟩
    exact ⟨distinct, listedOnce, unmerged, apart⟩
  · intro names
    exact ⟨names.atomNames, ⟨names.listedOnce, names.unmerged⟩, names.apart⟩

/-! ## Classes of the vendor header -/

/-- The first enum field of every enum type. -/
def firstEnumFields (decl : AtomDecl) : List AtomField :=
  (keepFirst [] ((enumFields decl).map fun field => (field.enumTypeName, [field]))).flatMap
    Prod.snd

/-- The names of the values of the enums of an atom. -/
def classValueNames (decl : AtomDecl) : List String :=
  (firstEnumFields decl).flatMap fun field => field.enumValues.toList.map Prod.snd

/-- The atoms for whose messages the vendor header has a class. -/
def enumDecls (atoms : Atoms) : List AtomDecl :=
  (elements atoms.decls).filter fun decl => enumFields decl ≠ []

theorem vendorClass_eq (decl : AtomDecl) :
    vendorClass decl =
      if enumFields decl = [] then []
      else [⟨decl.message, (firstEnumFields decl).map vendorEnum⟩] := by
  have same : ∀ field : AtomField, [vendorEnum field].map id = [field].map vendorEnum :=
    fun field => rfl
  have printed : ((keepFirst [] ((enumFields decl).map fun field =>
      (field.enumTypeName, [vendorEnum field]))).flatMap Prod.snd).map id =
      (firstEnumFields decl).map vendorEnum :=
    keepFirst_flatMap_congr same [] (enumFields decl)
  have noKeys : (keepFirst [] ((enumFields decl).map fun field =>
      (field.enumTypeName, [vendorEnum field]))).map Prod.fst = [] ↔ enumFields decl = [] := by
    rw [List.map_eq_nil_iff, keepFirst_eq_nil_iff, List.map_eq_nil_iff]
  rw [List.map_id] at printed
  rw [vendorClass, processOnce_eq]
  dsimp only
  simp only [printed, noKeys]

theorem vendorClasses_eq (atoms : Atoms) :
    vendorClasses atoms = (enumDecls atoms).map fun decl =>
      ⟨decl.message, (firstEnumFields decl).map vendorEnum⟩ := by
  rw [vendorClasses, enumDecls]
  induction elements atoms.decls with
  | nil => rfl
  | cons decl rest ih =>
      rw [List.flatMap_cons, ih, vendorClass_eq]
      by_cases noEnum : enumFields decl = []
      · simp [noEnum]
      · simp [noEnum]

/-- The enumerators of a class. -/
theorem enumerators_eq (decl : AtomDecl) :
    (((firstEnumFields decl).map vendorEnum).flatMap VendorEnum.values).map Prod.fst =
      (classValueNames decl).map makeConstantName := by
  rw [classValueNames, List.flatMap_map, List.map_flatMap, List.map_flatMap]
  apply List.flatMap_congr
  intro field _
  rw [vendorEnum, List.map_map, List.map_map]
  rfl

/-- The classes of the vendor header have different messages, the values of the enums of
one class have different constants, and no atom has a class as its constant. -/
structure ClassesApart (atoms : Atoms) : Prop where
  atomNames : DistinctConstants atoms
  messages : ((enumDecls atoms).map AtomDecl.message).Nodup
  listedOnce : ∀ decl ∈ enumDecls atoms, (classValueNames decl).Nodup
  unmerged : ∀ decl ∈ enumDecls atoms, ∀ left ∈ classValueNames decl,
    ∀ right ∈ classValueNames decl, makeConstantName left = makeConstantName right → left = right
  apart : ∀ decl ∈ elements atoms.decls, ∀ other ∈ enumDecls atoms,
    makeConstantName decl.name ≠ other.message

/-- A class defines its enumerators once when their names are kept apart. -/
theorem nodup_identifiers_iff (message : String) (decl : AtomDecl) :
    (VendorClass.identifiers ⟨message, (firstEnumFields decl).map vendorEnum⟩).Nodup ↔
      ((classValueNames decl).map makeConstantName).Nodup := by
  have inScope : (((firstEnumFields decl).map vendorEnum).flatMap VendorEnum.values).map
      (fun value => [message, value.1]) =
        ((classValueNames decl).map makeConstantName).map fun name => [message, name] := by
    rw [← enumerators_eq, List.map_map]
    rfl
  rw [VendorClass.identifiers, List.nodup_cons, inScope, List.nodup_map_iff]
  · constructor
    · exact fun both => both.2
    · intro distinct
      exact ⟨by simp, distinct⟩
  · intro left right same
    exact List.head_eq_of_cons_eq (List.tail_eq_of_cons_eq same)

theorem head_of_mem_identifiers {vendorClass : VendorClass} {identifier : Identifier}
    (member : identifier ∈ vendorClass.identifiers) :
    identifier.head? = some vendorClass.name := by
  rcases List.mem_cons.mp member with rfl | value
  · rfl
  · rcases List.mem_map.mp value with ⟨_, -, rfl⟩
    rfl

/-- Classes define different identifiers when they have different names. -/
theorem disjoint_identifiers_iff {left right : VendorClass} :
    left.identifiers.Disjoint right.identifiers ↔ left.name ≠ right.name := by
  constructor
  · intro disjoint same
    apply disjoint List.mem_cons_self
    rw [same]
    exact List.mem_cons_self
  · intro different identifier leftMem rightMem
    have same := (head_of_mem_identifiers leftMem).symm.trans (head_of_mem_identifiers rightMem)
    exact different (Option.some.inj same)

theorem nodup_vendorHeader_iff (atoms : Atoms) :
    (constantIdentifiers (atomConstants atoms) ++
      (vendorClasses atoms).flatMap VendorClass.identifiers).Nodup ↔ ClassesApart atoms := by
  rw [List.nodup_append', nodup_constantIdentifiers, vendorClasses_eq, List.nodup_flatMap,
    List.pairwise_map]
  have classes_iff : (enumDecls atoms).Pairwise (fun first second =>
      (VendorClass.identifiers ⟨first.message, (firstEnumFields first).map vendorEnum⟩).Disjoint
        (VendorClass.identifiers ⟨second.message, (firstEnumFields second).map vendorEnum⟩)) ↔
      ((enumDecls atoms).map AtomDecl.message).Nodup := by
    rw [List.Nodup, List.pairwise_map]
    simp only [disjoint_identifiers_iff]
  have apart_iff : (constantIdentifiers (atomConstants atoms)).Disjoint
      (((enumDecls atoms).map fun decl =>
        (⟨decl.message, (firstEnumFields decl).map vendorEnum⟩ : VendorClass)).flatMap
          VendorClass.identifiers) ↔
      ∀ decl ∈ elements atoms.decls, ∀ other ∈ enumDecls atoms,
        makeConstantName decl.name ≠ other.message := by
    constructor
    · intro disjoint decl member other otherMem same
      apply disjoint (List.mem_map_of_mem (List.mem_map_of_mem member))
      rw [List.flatMap_map, List.mem_flatMap]
      refine ⟨other, otherMem, ?_⟩
      rw [same]
      exact List.mem_cons_self
    · intro apart identifier constantMem classMem
      rcases List.mem_map.mp constantMem with ⟨_, listed, rfl⟩
      rcases List.mem_map.mp listed with ⟨decl, member, rfl⟩
      rw [List.flatMap_map, List.mem_flatMap] at classMem
      rcases classMem with ⟨other, otherMem, identifierMem⟩
      have isMessage := head_of_mem_identifiers identifierMem
      exact apart decl member other otherMem (Option.some.inj isMessage)
  have values_iff : (∀ vendorClass ∈ (enumDecls atoms).map fun decl =>
        (⟨decl.message, (firstEnumFields decl).map vendorEnum⟩ : VendorClass),
      vendorClass.identifiers.Nodup) ↔
      ∀ decl ∈ enumDecls atoms, (classValueNames decl).Nodup ∧
        ∀ left ∈ classValueNames decl, ∀ right ∈ classValueNames decl,
          makeConstantName left = makeConstantName right → left = right := by
    rw [List.forall_mem_map]
    simp only [nodup_identifiers_iff, nodup_map_iff]
  rw [apart_iff, values_iff, classes_iff]
  constructor
  · rintro ⟨distinct, ⟨values, messages⟩, apart⟩
    exact ⟨distinct, messages, fun decl member => (values decl member).1,
      fun decl member => (values decl member).2, apart⟩
  · intro classes
    exact ⟨classes.atomNames, ⟨fun decl member => ⟨classes.listedOnce decl member,
      classes.unmerged decl member⟩, classes.messages⟩, classes.apart⟩

/-! ## Every output -/

/-- The names that an output defines are kept apart.  The native header and the Java
class list the values of an enum for every field of every atom, the vendor Java class
once for every enum type of a message. -/
def ConstantOutput.KeepsApart (atoms : Atoms) : ConstantOutput → Prop
  | .nativeHeader | .javaClass => NamesApart atoms (fieldValueNames atoms)
  | .vendorHeader => ClassesApart atoms
  | .vendorJavaClass => NamesApart atoms (firstValueNames atoms)

/-- The identifiers of an output are defined once exactly when the names of atoms, of
messages and of enum values are kept apart. -/
theorem definesOnce_iff (atoms : Atoms) (output : ConstantOutput) :
    output.DefinesOnce atoms ↔ output.KeepsApart atoms := by
  cases output with
  | nativeHeader => exact nodup_constants_iff (enumConstants_names atoms)
  | javaClass => exact nodup_constants_iff (enumConstants_names atoms)
  | vendorHeader => exact nodup_vendorHeader_iff atoms
  | vendorJavaClass => exact nodup_constants_iff (writeJavaEnumValuesVendor_names atoms)

/-! ## Atoms that share a message -/

/-- Two declarations for one message. -/
structure SharesMessage (atoms : Atoms) (first second : AtomDecl) : Prop where
  firstMem : first ∈ elements atoms.decls
  secondMem : second ∈ elements atoms.decls
  different : first ≠ second
  message : second.message = first.message
  fields : second.fields = first.fields

section Shared

variable {atoms : Atoms} {first second : AtomDecl} {field : AtomField}

/-- The values of an enum are listed again for the second atom with the message. -/
theorem SharesMessage.not_nodup_fieldValueNames (shares : SharesMessage atoms first second)
    (isEnum : field ∈ enumFields first) (hasValues : field.enumValues.toList ≠ []) :
    ¬(fieldValueNames atoms).Nodup := by
  intro distinct
  rw [fieldValueNames, List.nodup_flatMap] at distinct
  rcases List.exists_mem_of_ne_nil _ hasValues with ⟨value, valueMem⟩
  let names (decl : AtomDecl) : List EnumValueName :=
    (enumFields decl).flatMap fun field =>
      field.enumValues.toList.map fun value => ⟨decl.message, field.name, value.2⟩
  have listed : (⟨first.message, field.name, value.2⟩ : EnumValueName) ∈ names first :=
    List.mem_flatMap.mpr ⟨field, isEnum, List.mem_map_of_mem valueMem⟩
  have listedAgain : names second = names first := by
    dsimp only [names]
    rw [enumFields, shares.fields, shares.message, ← enumFields]
  have symmetric : Std.Symm (Function.onFun List.Disjoint names) :=
    ⟨fun _ _ disjoint name left right => disjoint right left⟩
  have disjoint : (names first).Disjoint (names second) :=
    distinct.2.forall shares.firstMem shares.secondMem shares.different
  rw [listedAgain] at disjoint
  exact disjoint listed listed

/-- The class for a message is defined again for the second atom with the message. -/
theorem SharesMessage.not_nodup_messages (shares : SharesMessage atoms first second)
    (isEnum : field ∈ enumFields first) :
    ¬((enumDecls atoms).map AtomDecl.message).Nodup := by
  intro distinct
  have hasEnum : enumFields first ≠ [] := List.ne_nil_of_mem isEnum
  have hasEnumAgain : enumFields second ≠ [] := by
    rwa [enumFields, shares.fields]
  apply shares.different
  apply List.inj_on_of_nodup_map distinct
  · exact List.mem_filter.mpr ⟨shares.firstMem, decide_eq_true hasEnum⟩
  · exact List.mem_filter.mpr ⟨shares.secondMem, decide_eq_true hasEnumAgain⟩
  · exact shares.message.symm

/-- Of all outputs only the vendor Java class can tell that it has printed the enums of a
message before. -/
theorem SharesMessage.not_definesOnce (shares : SharesMessage atoms first second)
    (isEnum : field ∈ enumFields first) (hasValues : field.enumValues.toList ≠ [])
    {output : ConstantOutput} (notVendorJava : output ≠ .vendorJavaClass) :
    ¬output.DefinesOnce atoms := by
  have notListedOnce := shares.not_nodup_fieldValueNames isEnum hasValues
  cases output with
  | nativeHeader | javaClass =>
      intro distinct
      have apart := (nodup_constants_iff (enumConstants_names atoms)).mp distinct
      exact notListedOnce apart.listedOnce
  | vendorHeader =>
      intro distinct
      have apart := (nodup_vendorHeader_iff atoms).mp distinct
      exact shares.not_nodup_messages isEnum apart.messages
  | vendorJavaClass => exact absurd rfl notVendorJava

end Shared

/-! ## A shared message -/

def sharedState : Descriptor where
  name := "SharedState"
  fields :=
    [{ name := "reverse_domain_name", number := 1, type := .string },
     { name := "state", number := 2,
       type := .enum ⟨"State", [⟨"OFF", 0⟩, ⟨"ON", 1⟩]⟩ }]
  numbers_nodup := by decide

/-- Two atoms with one message. -/
def sharedDescriptor : AtomDescriptor where
  fields :=
    [{ name := "screen_state", number := 105520, type := .message sharedState,
       options := { module := ["test"] } },
     { name := "radio_state", number := 105521, type := .message sharedState,
       options := { module := ["test"] } }]
  extensions := []
  numbers_nodup := by decide

def sharedAtoms : Atoms :=
  (collateAtoms sharedDescriptor "test" {}).2

/-- The declaration of an atom with the message. -/
def sharedDecl (code : Int) (name : String) : AtomDecl :=
  (sharedAtoms.decls[(⟨code, name⟩ : DeclKey)]?).getD {}

theorem shares_sharedAtoms :
    SharesMessage sharedAtoms (sharedDecl 105520 "screen_state")
      (sharedDecl 105521 "radio_state") where
  firstMem := getD_mem_elements (by decide) _
  secondMem := getD_mem_elements (by decide) _
  different := fun same => absurd (congrArg AtomDecl.code same) (by decide)
  message := by decide
  fields := rfl

/-- The state is defined for both atoms, except in the vendor Java class. -/
theorem not_definesOnce_sharedDescriptor :
    (collateAtoms sharedDescriptor "test" {}).1 = 0 ∧
      ¬ConstantOutput.nativeHeader.DefinesOnce sharedAtoms ∧
      ¬ConstantOutput.javaClass.DefinesOnce sharedAtoms ∧
      ¬ConstantOutput.vendorHeader.DefinesOnce sharedAtoms ∧
      ConstantOutput.vendorJavaClass.DefinesOnce sharedAtoms := by
  have hasEnum : ∃ field ∈ enumFields (sharedDecl 105520 "screen_state"),
      field.enumValues.toList ≠ [] := by
    decide
  rcases hasEnum with ⟨field, isEnum, hasValues⟩
  have again {output : ConstantOutput} (notVendorJava : output ≠ .vendorJavaClass) :
      ¬output.DefinesOnce sharedAtoms :=
    shares_sharedAtoms.not_definesOnce isEnum hasValues notVendorJava
  exact ⟨by decide, again (by decide), again (by decide), again (by decide), by decide⟩

end StatsLogApiGen.Writer
