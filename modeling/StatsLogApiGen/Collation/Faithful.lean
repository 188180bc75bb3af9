import StatsLogApiGen.Collation.Index
import Mathlib.Data.List.Forall2

/-!
# Collation is faithful to the descriptor

The content of the atoms after an accepted run, stated on the descriptor: one
declaration for every selected atom with its fields in ascending order and the
annotations its options ask for, and the two signature maps as indexes over
these declarations.
-/

namespace StatsLogApiGen.Collation

open Std
open StatsLogApiGen.Container
open StatsLogApiGen.Proto

/-! ## Types -/

/-- The type of an atom parameter for a field, with enums kept apart from ints.
A message other than the attribution node is sent as its bytes. -/
def declaredType (field : MessageFieldDescriptor) : JavaType :=
  match field.type, field.isRepeated with
  | .float, false => .float
  | .float, true => .floatArray
  | .int64, false => .long
  | .int64, true => .longArray
  | .int32, false => .int
  | .int32, true => .intArray
  | .bool, false => .boolean
  | .bool, true => .booleanArray
  | .string, false => .string
  | .string, true => .stringArray
  | .enum _, false => .enum
  | .enum _, true => .enumArray
  | .message messageType, _ =>
      if messageType = attributionNodeFullName then .attributionChain else .byteArray
  | .bytes, _ => .byteArray
  | .uint64, _ => .long
  | .uint32, _ => .int
  | _, _ => .unknownOrInvalid

/-- Enums are ints in a signature. -/
def lowered : JavaType → JavaType
  | .enum => .int
  | .enumArray => .intArray
  | type => type

/-- The signature of the atom of a declaration. -/
def AtomDecl.signature (decl : AtomDecl) : Signature :=
  decl.fields.map fun field => lowered field.javaType

theorem javaType_eq_declaredType {isUintAllowed : Bool} {field : MessageFieldDescriptor}
    (shape : FieldShape isUintAllowed field) :
    javaType field isUintAllowed = declaredType field := by
  obtain ⟨name, number, type, isRepeated, options⟩ := field
  cases shape with
  | plain isPlain _ =>
      cases type <;> cases isRepeated <;> simp_all [isPlainType, javaType, declaredType]
  | attributionChain isNode => simp_all [javaType, declaredType]
  | message messageType isMessage notNode singular binary =>
      simp_all [javaType, declaredType, isBinaryField]
  | bytes isBytes singular => simp_all [javaType, declaredType]
  | uint allowed isUint singular =>
      cases type <;> simp_all [isUintType, javaType, declaredType]

/-- An accepted field enters the signature with its lowered type. -/
theorem signatureEntry_eq_lowered {isUintAllowed : Bool} {field : MessageFieldDescriptor}
    (shape : FieldShape isUintAllowed field) :
    signatureEntry isUintAllowed field = lowered (declaredType field) := by
  rw [← javaType_eq_declaredType shape]
  have notObject := ((fieldShape_iff_javaType isUintAllowed field).mp shape).2.1
  unfold signatureEntry lowerType
  cases typeEq : javaType field isUintAllowed <;> simp_all [lowered]

/-! ## Declarations -/

/-- The entry that describes a field of the atom message. -/
structure DescribesField (field : MessageFieldDescriptor) (atomField : AtomField) : Prop where
  name : atomField.name = field.name
  javaType : atomField.javaType = declaredType field

/-- The declaration that describes a field of the `Atom` message. -/
structure DescribesAtom (atomField : AtomFieldDescriptor) (atom : Descriptor)
    (decl : AtomDecl) : Prop where
  code : decl.code = atomField.number
  name : decl.name = atomField.name
  message : decl.message = atom.name
  atomType : decl.atomType = getAtomType atomField.number
  restricted : decl.restricted = atomField.options.restrictionCategory.isSome
  fields : ∃ ascending : List MessageFieldDescriptor,
    ascending.Perm atom.fields ∧
    ascending.Pairwise (fun first second => first.number < second.number) ∧
    List.Forall₂ DescribesField ascending decl.fields ∧
    decl.signature = ascending.map fun field => lowered (declaredType field)
  annotations :
    Stores atomField.number decl.fieldNumberToAnnotations (declRequests atomField atom)

theorem Registration.shape (registration : Registration) {field : MessageFieldDescriptor}
    (member : field ∈ sortedFields registration.atom) :
    FieldShape (registration.atom.name ∈ uintAtomAllowlist) field :=
  (registration.rule.message.fields field (mem_sortedFields.mp member)).shape

@[simp]
theorem buildAtomField_name (field : MessageFieldDescriptor) (type : JavaType) :
    (buildAtomField field type).name = field.name := by
  unfold buildAtomField
  split
  · split <;> rfl
  · rfl

@[simp]
theorem buildAtomField_javaType (field : MessageFieldDescriptor) (type : JavaType) :
    (buildAtomField field type).javaType = type := by
  unfold buildAtomField
  split
  · split <;> rfl
  · rfl

/-- The signature an atom is entered under is the one of its declaration. -/
@[simp]
theorem Registration.signatureOf_eq (registration : Registration) :
    signatureOf registration.atom = registration.decl.signature := by
  rw [AtomDecl.signature, registration.decl_fields, atomFieldsOf, List.map_map, signatureOf]
  apply List.map_congr_left
  intro field member
  have shape := registration.shape member
  simp [signatureEntry_eq_lowered shape, javaType_eq_declaredType shape]

theorem Registration.describesAtom (registration : Registration) :
    DescribesAtom registration.atomField registration.atom registration.decl where
  code := registration.decl_code
  name := registration.decl_name
  message := congrArg AtomDecl.Header.message registration.describes.header
  atomType := registration.decl_atomType
  restricted := congrArg AtomDecl.Header.restricted registration.describes.header
  fields := by
    refine ⟨sortedFields registration.atom, sortedFields_perm _, pairwise_sortedFields _, ?_, ?_⟩
    · rw [registration.decl_fields, atomFieldsOf, List.forall₂_map_right_iff,
        List.forall₂_same]
      intro field member
      exact ⟨buildAtomField_name field _, by
        rw [buildAtomField_javaType, javaType_eq_declaredType (registration.shape member)]⟩
    · rw [← registration.signatureOf_eq, signatureOf]
      apply List.map_congr_left
      intro field member
      exact signatureEntry_eq_lowered (registration.shape member)
  annotations := registration.describes.stores

theorem Registration.length_signature (registration : Registration) :
    registration.decl.signature.length = registration.atom.fields.length := by
  rw [← registration.signatureOf_eq, signatureOf, List.length_map,
    (sortedFields_perm registration.atom).length_eq]

/-- Only the atom itself and its fields are annotated. -/
theorem Registration.annotated_cases (registration : Registration) {fieldNumber : Int}
    (annotated : fieldNumber ∈ registration.decl.fieldNumberToAnnotations) :
    fieldNumber = atomIdFieldNumber ∨
      ∃ index : Nat, index < registration.decl.signature.length ∧ fieldNumber = 1 + index := by
  by_cases isAtom : fieldNumber = atomIdFieldNumber
  · exact Or.inl isAtom
  · right
    rcases (registration.describes.stores.mem_iff fieldNumber).mp annotated with
      ⟨annotationId, requested⟩
    rw [declRequests, if_neg isAtom, messageRequests] at requested
    cases found : registration.atom.fields.find? (·.number = fieldNumber) with
    | none =>
        rw [found] at requested
        contradiction
    | some field =>
        have number : field.number = fieldNumber := by simpa using List.find?_some found
        have listed := List.mem_map_of_mem (f := FieldDescriptor.number)
          (List.mem_of_find?_eq_some found)
        rw [registration.rule.message.numbers.mem_iff, List.mem_map, number] at listed
        rcases listed with ⟨index, inRange, rfl⟩
        rw [registration.length_signature]
        exact ⟨index, List.mem_range.mp inRange, rfl⟩

/-! ## Indexes -/

/-- A declaration of one kind with a signature and an annotation on a field. -/
structure IsAnnotated (decls : AtomDeclSet) (atomType : AtomType) (signature : Signature)
    (fieldNumber : Int) (decl : AtomDecl) : Prop where
  member : decl ∈ elements decls
  atomType : decl.atomType = atomType
  signature : decl.signature = signature
  annotated : fieldNumber ∈ decl.fieldNumberToAnnotations

/-- The signature map of one kind of atoms.  Its keys are the signatures of these
atoms, and `map[s][f]` is the set of those with signature `s` that have an
annotation on `f`. -/
structure IndexesDecls (decls : AtomDeclSet) (atomType : AtomType) (map : SignatureInfoMap) :
    Prop where
  signatures : ∀ signature, signature ∈ map ↔
    ∃ decl ∈ elements decls, decl.atomType = atomType ∧ decl.signature = signature
  fieldNumbers : ∀ signature declSets, map[signature]? = some declSets → ∀ fieldNumber,
    fieldNumber ∈ declSets ↔ ∃ decl, IsAnnotated decls atomType signature fieldNumber decl
  declarations : ∀ signature declSets fieldNumber annotated, map[signature]? = some declSets →
    declSets[fieldNumber]? = some annotated → ∀ key decl, annotated[key]? = some decl ↔
      decl.key = key ∧ IsAnnotated decls atomType signature fieldNumber decl

/-- The content of the atoms for the selected atoms of a descriptor. -/
structure Faithful (descriptor : AtomDescriptor) (moduleName : String) (atoms : Atoms) :
    Prop where
  decls : ∃ decls : List AtomDecl,
    (elements atoms.decls).Perm decls ∧
    List.Forall₂
      (fun atomField decl => ∃ atom, atomField.type = .message atom ∧
        DescribesAtom atomField atom decl)
      (selectedAtoms descriptor moduleName) decls
  pushed : IndexesDecls atoms.decls .pushed atoms.signatureInfoMap
  pulled : IndexesDecls atoms.decls .pulled atoms.pulledAtomsSignatureInfoMap

theorem Holds.mem_elements {listed : List AtomDecl} {decls : AtomDeclSet}
    (holds : Holds listed decls) {decl : AtomDecl} : decl ∈ elements decls ↔ decl ∈ listed := by
  rw [mem_elements_iff]
  constructor
  · rintro ⟨key, found⟩
    exact ((holds key decl).mp found).2
  · intro member
    exact ⟨decl.key, (holds decl.key decl).mpr ⟨rfl, member⟩⟩

theorem Holds.keyed {listed : List AtomDecl} {decls : AtomDeclSet}
    (holds : Holds listed decls) (key : DeclKey) (decl : AtomDecl)
    (found : decls[key]? = some decl) : decl.key = key :=
  ((holds key decl).mp found).1

/-- The entries of one kind of atoms are its declarations with their signatures. -/
theorem mem_entriesOf {atomType : AtomType} {registrations : List Registration}
    {signature : Signature} {decl : AtomDecl} :
    ⟨signature, decl⟩ ∈ entriesOf atomType registrations ↔
      decl ∈ registrations.map Registration.decl ∧ decl.atomType = atomType ∧
        decl.signature = signature := by
  rw [entriesOf, List.mem_map, List.mem_map]
  constructor
  · rintro ⟨registration, member, equal⟩
    obtain ⟨listed, kind⟩ := List.mem_filter.mp member
    rw [Registration.entry, registration.signatureOf_eq, Entry.mk.injEq] at equal
    obtain ⟨rfl, rfl⟩ := equal
    exact ⟨⟨registration, listed, rfl⟩, of_decide_eq_true kind, rfl⟩
  · rintro ⟨⟨registration, listed, rfl⟩, kind, rfl⟩
    refine ⟨registration, List.mem_filter.mpr ⟨listed, decide_eq_true kind⟩, ?_⟩
    rw [Registration.entry, registration.signatureOf_eq]

theorem Indexes.indexesDecls {atomType : AtomType} {registrations : List Registration}
    {map : SignatureInfoMap} {decls : AtomDeclSet}
    (indexes : Indexes (entriesOf atomType registrations) map)
    (holds : Holds (registrations.map Registration.decl) decls) :
    IndexesDecls decls atomType map := by
  have isAnnotated (signature : Signature) (fieldNumber : Int) (decl : AtomDecl) :
      decl ∈ annotatedDecls (entriesOf atomType registrations) signature fieldNumber ↔
        IsAnnotated decls atomType signature fieldNumber decl := by
    rw [mem_annotatedDecls, mem_entriesOf, ← holds.mem_elements]
    exact ⟨fun both => ⟨both.1.1, both.1.2.1, both.1.2.2, both.2⟩,
      fun both => ⟨⟨both.member, both.atomType, both.signature⟩, both.annotated⟩⟩
  constructor
  · intro signature
    rw [indexes.signatures]
    simp only [mem_entriesOf, holds.mem_elements]
  · intro signature declSets found fieldNumber
    have holdsField := indexes.declarations signature declSets found fieldNumber
    rw [mem_iff_exists_getElem?]
    simp only [← isAnnotated]
    cases stored : declSets[fieldNumber]? with
    | none =>
        rw [stored] at holdsField
        simp [show annotatedDecls _ signature fieldNumber = [] from holdsField]
    | some annotated =>
        rw [stored] at holdsField
        simpa using List.exists_mem_of_ne_nil _ holdsField.1
  · intro signature declSets fieldNumber annotated found stored key decl
    have holdsField := indexes.declarations signature declSets found fieldNumber
    rw [stored] at holdsField
    rw [holdsField.2 key decl, isAnnotated]

/-- Registered atoms are faithful to the descriptor they come from. -/
theorem Registered.faithful {registrations : List Registration} {atoms : Atoms}
    {descriptor : AtomDescriptor} {moduleName : String}
    (registered : Registered registrations atoms)
    (selected : registrations.map Registration.atomField =
      selectedAtoms descriptor moduleName) :
    Faithful descriptor moduleName atoms where
  decls := by
    refine ⟨registrations.map Registration.decl, ?_, ?_⟩
    · apply (List.perm_ext_iff_of_nodup _ _).mpr fun decl => registered.decls.mem_elements
      · exact nodup_elements_of_keyed registered.decls.keyed
      · apply List.Nodup.of_map AtomDecl.code
        rw [List.map_map]
        have codes : (AtomDecl.code ∘ Registration.decl) =
            FieldDescriptor.number ∘ Registration.atomField :=
          funext Registration.decl_code
        rw [codes, ← List.map_map, selected]
        exact selectedAtoms_numbers_nodup descriptor moduleName
    · rw [← selected, List.forall₂_map_left_iff, List.forall₂_map_right_iff, List.forall₂_same]
      intro registration _
      exact ⟨registration.atom, registration.rule.type, registration.describesAtom⟩
  pushed := registered.pushed.indexesDecls registered.decls
  pulled := registered.pulled.indexesDecls registered.decls

/-- The set of a field lists the declarations that are annotated on it. -/
theorem IndexesDecls.mem_elements_iff {decls : AtomDeclSet} {atomType : AtomType}
    {map : SignatureInfoMap} (indexes : IndexesDecls decls atomType map) {signature : Signature}
    {declSets : FieldNumberToAtomDeclSet} (found : map[signature]? = some declSets)
    {fieldNumber : Int} {decl : AtomDecl} :
    (∃ annotated, declSets[fieldNumber]? = some annotated ∧ decl ∈ elements annotated) ↔
      IsAnnotated decls atomType signature fieldNumber decl := by
  constructor
  · rintro ⟨annotated, stored, member⟩
    rcases Container.mem_elements_iff.mp member with ⟨key, listed⟩
    exact ((indexes.declarations _ _ _ _ found stored _ _).mp listed).2
  · intro isAnnotated
    have present := (indexes.fieldNumbers _ _ found fieldNumber).mpr ⟨decl, isAnnotated⟩
    rcases mem_iff_exists_getElem?.mp present with ⟨annotated, stored⟩
    refine ⟨annotated, stored, Container.mem_elements_iff.mpr ⟨decl.key, ?_⟩⟩
    exact (indexes.declarations _ _ _ _ found stored _ _).mpr ⟨rfl, isAnnotated⟩

/-- Declarations of different atoms have different codes. -/
theorem Faithful.codes_nodup {descriptor : AtomDescriptor} {moduleName : String}
    {atoms : Atoms} (faithful : Faithful descriptor moduleName atoms) :
    ((elements atoms.decls).map AtomDecl.code).Nodup := by
  obtain ⟨decls, permuted, described⟩ := faithful.decls
  rw [(permuted.map AtomDecl.code).nodup_iff]
  have numbers : decls.map AtomDecl.code =
      (selectedAtoms descriptor moduleName).map fun atomField => atomField.number := by
    rw [← List.forall₂_eq_eq_eq]
    rw [List.forall₂_map_left_iff, List.forall₂_map_right_iff]
    apply described.flip.imp
    rintro decl atomField ⟨atom, -, describesAtom⟩
    exact describesAtom.code
  rw [numbers]
  exact selectedAtoms_numbers_nodup descriptor moduleName

/-- After an accepted run from empty atoms, the atoms are faithful to the
descriptor. -/
theorem collateAtoms_faithful (descriptor : AtomDescriptor) (moduleName : String)
    (atoms : Atoms) (accepted : collateAtoms descriptor moduleName {} = (0, atoms)) :
    Faithful descriptor moduleName atoms := by
  obtain ⟨registrations, selected, registered⟩ := collateAtoms_registered accepted
  exact registered.faithful selected

def wakelockState : StateAtomFieldOption where
  exclusiveState := true
  defaultStateValue := some 0
  triggerStateResetValue := some 1
  nested := some true

def wakelockStateChanged : Descriptor where
  name := "WakelockStateChanged"
  fields :=
    [{ name := "tag", number := 2, type := .string,
       options := { stateFieldOption := some { primaryField := true } } },
     { name := "attribution_node", number := 1, isRepeated := true,
       type := .message attributionNodeFullName,
       options := { stateFieldOption := some { primaryFieldFirstUid := true } } },
     { name := "state", number := 3,
       type := .enum ⟨"State", [⟨"RELEASE", 0⟩, ⟨"ACQUIRE", 1⟩]⟩,
       options := { stateFieldOption := some wakelockState } }]
  numbers_nodup := by decide

def cpuActiveTime : Descriptor where
  name := "CpuActiveTime"
  fields :=
    [{ name := "uid", number := 1, type := .int32, options := { isUid := some true } },
     { name := "time_millis", number := 2, type := .uint64 }]
  numbers_nodup := by decide

/-- A pushed state atom with an attribution chain and a pulled atom. -/
def wakelockDescriptor : AtomDescriptor where
  fields :=
    [{ name := "wakelock_state_changed", number := 10, type := .message wakelockStateChanged,
       options := { truncateTimestamp := some true } },
     { name := "cpu_active_time", number := 10016, type := .message cpuActiveTime }]
  extensions := []
  numbers_nodup := by decide

theorem wakelockDescriptor_faithful :
    Faithful wakelockDescriptor defaultModuleName
      (collateAtoms wakelockDescriptor defaultModuleName {}).2 :=
  collateAtoms_faithful _ _ _ (Prod.ext (by decide) rfl)

end StatsLogApiGen.Collation
