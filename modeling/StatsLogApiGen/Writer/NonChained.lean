import StatsLogApiGen.Writer.Parameters

/-!
# Flattened signatures

`getNonChainedNode` lowers the fields of an atom a second time, with the chain
replaced by the fields of the attribution node.  It agrees with `collateAtom` on
every accepted field except a repeated enum, which it leaves an enum array.
-/

namespace StatsLogApiGen.Writer

open Std
open StatsLogApiGen.Container
open StatsLogApiGen.Proto
open StatsLogApiGen.Collation

/-! ## Flattening -/

/-- The entries of a field in the flattened signature. -/
def nonChainedTypes (field : MessageFieldDescriptor) : List JavaType :=
  let type := javaType field true
  if type = .attributionChain then attributionCollated.2
  else if type = .enum then [.int]
  else [type]

theorem foldl_flattenField (fields : List MessageFieldDescriptor)
    (state : AtomDecl × Signature × Bool) :
    (fields.foldl flattenField state).2 =
      (state.2.1 ++ fields.flatMap nonChainedTypes,
        state.2.2 || fields.any fun field => javaType field true = .attributionChain) := by
  induction fields generalizing state with
  | nil => simp
  | cons field rest ih =>
      rcases state with ⟨decl, signature, hasAttributionNode⟩
      rw [List.foldl_cons, ih, List.flatMap_cons, List.any_cons]
      by_cases chain : javaType field true = .attributionChain
      · simp [flattenField, nonChainedTypes, chain]
      · by_cases enum : javaType field true = .enum
        · simp [flattenField, nonChainedTypes, enum]
        · simp [flattenField, nonChainedTypes, chain, enum]

/-- The flattened signature and whether there is a chain to flatten. -/
theorem getNonChainedNode_signature (atom : Descriptor) (atomDecl : AtomDecl) :
    (getNonChainedNode atom atomDecl).2 =
      ((sortedFields atom).flatMap nonChainedTypes,
        (sortedFields atom).any fun field => javaType field true = .attributionChain) := by
  simpa [getNonChainedNode] using foldl_flattenField (sortedFields atom) (atomDecl, [], false)

/-- The entry of a field other than the chain in the flattened signature. -/
def nonChainedType (field : MessageFieldDescriptor) : JavaType :=
  if javaType field true = .enum then .int else javaType field true

theorem nonChainedTypes_eq {field : MessageFieldDescriptor}
    (notNode : field.type ≠ .message attributionNodeFullName) :
    nonChainedTypes field = [nonChainedType field] := by
  have notChain : javaType field true ≠ .attributionChain :=
    fun chain => notNode ((javaType_eq_attributionChain_iff true field).mp chain)
  rw [nonChainedTypes, if_neg notChain, nonChainedType]
  split <;> rfl

/-- A field that is a list of enum values. -/
def IsRepeatedEnum (field : MessageFieldDescriptor) : Prop :=
  field.isRepeated ∧ ∃ enumType, field.type = .enum enumType

/-- Where the flattened signature is computed, unsigned fields are allowed. -/
theorem javaType_true_eq_declaredType {isUintAllowed : Bool} {field : MessageFieldDescriptor}
    (shape : FieldShape isUintAllowed field) : javaType field true = declaredType field := by
  have allowed : FieldShape true field := by
    cases shape with
    | plain isPlain automatic => exact .plain isPlain automatic
    | attributionChain isNode position automatic =>
        exact .attributionChain isNode position automatic
    | message messageType isMessage notAttribution singular binary =>
        exact .message messageType isMessage notAttribution singular binary
    | bytes isBytes singular binary => exact .bytes isBytes singular binary
    | uint _ isUint singular automatic => exact .uint rfl isUint singular automatic
  exact javaType_eq_declaredType allowed

/-- An accepted field is lowered by both functions in the same way unless it is a
repeated enum. -/
theorem nonChainedType_eq_iff {isUintAllowed : Bool} {field : MessageFieldDescriptor}
    (shape : FieldShape isUintAllowed field) :
    nonChainedType field = lowered (declaredType field) ↔ ¬IsRepeatedEnum field := by
  have isArray : IsRepeatedEnum field ↔ declaredType field = .enumArray := by
    obtain ⟨name, number, type, isRepeated, options⟩ := field
    cases type <;> cases isRepeated <;> simp [IsRepeatedEnum, declaredType] <;> split <;> simp
  rw [nonChainedType, javaType_true_eq_declaredType shape, isArray]
  cases declaredType field <;> simp [lowered]

/-- Flattening leaves a repeated enum for lowering. -/
theorem lowered_nonChainedType {isUintAllowed : Bool} {field : MessageFieldDescriptor}
    (shape : FieldShape isUintAllowed field) :
    lowered (nonChainedType field) = lowered (declaredType field) := by
  rw [nonChainedType, javaType_true_eq_declaredType shape]
  cases declaredType field <;> rfl

theorem notChain_nonChainedType {field : MessageFieldDescriptor}
    (notNode : field.type ≠ .message attributionNodeFullName) :
    nonChainedType field ≠ .attributionChain := by
  unfold nonChainedType
  split
  · simp
  · exact fun chain => notNode ((javaType_eq_attributionChain_iff true field).mp chain)

section Rule

variable {restricted : Bool} {atom : Descriptor}

/-- The flattened signature of an accepted atom with a chain. -/
theorem getNonChainedNode_of_hasChain (rule : MessageRule restricted atom)
    (hasChain : HasChain atom) (atomDecl : AtomDecl) :
    ∃ rest : List MessageFieldDescriptor,
      (∀ field ∈ rest, field ∈ atom.fields ∧ field.type ≠ .message attributionNodeFullName) ∧
      (∀ field ∈ atom.fields, IsRepeatedEnum field → field ∈ rest) ∧
      signatureOf atom =
        .attributionChain :: rest.map (fun field => lowered (declaredType field)) ∧
      (getNonChainedNode atom atomDecl).2 =
        (attributionCollated.2 ++ rest.map nonChainedType, true) := by
  rcases rule.sortedFields_cases with none | ⟨chain, rest, sorted, -, isChain, restNot⟩
  · obtain ⟨field, member, -, isNode⟩ := hasChain
    exact absurd isNode (none field (mem_sortedFields.mpr member))
  · have chainType : javaType chain true = .attributionChain :=
      (javaType_eq_attributionChain_iff true chain).mpr isChain
    refine ⟨rest, ?_, ?_, ?_, ?_⟩
    · intro field member
      have sortedMem : field ∈ sortedFields atom := sorted ▸ List.mem_cons_of_mem chain member
      exact ⟨mem_sortedFields.mp sortedMem, restNot field member⟩
    · rintro field member ⟨-, enumType, isEnum⟩
      have sortedMem := mem_sortedFields.mpr member
      rw [sorted] at sortedMem
      rcases List.mem_cons.mp sortedMem with rfl | restMem
      · rw [isChain] at isEnum
        contradiction
      · exact restMem
    · rw [rule.signatureOf_eq, sorted, List.map_cons]
      simp [declaredType, isChain, lowered]
    · have single : rest.flatMap nonChainedTypes = rest.map nonChainedType := by
        rw [List.map_eq_flatMap]
        apply List.flatMap_congr
        intro field member
        exact nonChainedTypes_eq (restNot field member)
      rw [getNonChainedNode_signature, sorted, List.flatMap_cons, single]
      simp [nonChainedTypes, chainType]

/-- The flattened signature is the attribution signature followed by the tail of
the signature, exactly when no field is a repeated enum. -/
theorem getNonChainedNode_eq_iff (rule : MessageRule restricted atom)
    (hasChain : HasChain atom) (atomDecl : AtomDecl) :
    (getNonChainedNode atom atomDecl).2.1 =
        attributionCollated.2 ++ (signatureOf atom).tail ↔
      ¬∃ field ∈ atom.fields, IsRepeatedEnum field := by
  obtain ⟨rest, restMem, enumMem, signatureEq, flattenedEq⟩ :=
    getNonChainedNode_of_hasChain rule hasChain atomDecl
  have entry : ∀ field ∈ rest,
      (nonChainedType field = lowered (declaredType field) ↔ ¬IsRepeatedEnum field) :=
    fun field member => nonChainedType_eq_iff (rule.fields field (restMem field member).1).shape
  rw [flattenedEq, signatureEq, List.tail_cons, List.append_right_inj, List.map_inj_left]
  constructor
  · rintro equal ⟨field, member, isEnum⟩
    have inRest := enumMem field member isEnum
    exact (entry field inRest).mp (equal field inRest) isEnum
  · intro noEnum field member
    exact (entry field member).mpr fun isEnum =>
      noEnum ⟨field, (restMem field member).1, isEnum⟩

theorem getNonChainedNode_hasChain (rule : MessageRule restricted atom) (atomDecl : AtomDecl) :
    (getNonChainedNode atom atomDecl).2.2 ↔ HasChain atom := by
  rw [getNonChainedNode_signature]
  simp only [List.any_eq_true, decide_eq_true_eq, javaType_eq_attributionChain_iff]
  constructor
  · rintro ⟨field, member, isNode⟩
    have shape := (rule.fields field (mem_sortedFields.mp member)).shape
    have position := ((fieldShape_iff_javaType _ field).mp shape).2.2.2
      ((javaType_eq_attributionChain_iff _ field).mpr isNode)
    exact ⟨field, mem_sortedFields.mp member, position, isNode⟩
  · rintro ⟨field, member, -, isNode⟩
    exact ⟨field, mem_sortedFields.mpr member, isNode⟩

end Rule

/-! ## Flattened fields -/

theorem buildNonChainedField_name (field : MessageFieldDescriptor) (type : JavaType) :
    (buildNonChainedField field type).name = field.name := by
  unfold buildNonChainedField
  split
  · split <;> rfl
  · rfl

theorem buildNonChainedField_javaType (field : MessageFieldDescriptor) (type : JavaType) :
    (buildNonChainedField field type).javaType = type := by
  unfold buildNonChainedField
  split
  · split <;> rfl
  · rfl

/-- The entries of a field among the flattened fields. -/
def nonChainedFields (field : MessageFieldDescriptor) : List AtomField :=
  if javaType field true = .attributionChain then attributionDecl.fields
  else [buildNonChainedField field (javaType field true)]

theorem foldl_flattenField_fields (fields : List MessageFieldDescriptor)
    (state : AtomDecl × Signature × Bool) :
    (fields.foldl flattenField state).1.fields =
      state.1.fields ++ fields.flatMap nonChainedFields := by
  induction fields generalizing state with
  | nil => simp
  | cons field rest ih =>
      have step : (flattenField state field).1.fields =
          state.1.fields ++ nonChainedFields field := by
        unfold flattenField nonChainedFields
        dsimp only
        split
        · rfl
        · split <;> rfl
      rw [List.foldl_cons, ih, step, List.flatMap_cons, List.append_assoc]

/-- What the name and the type of a field are. -/
def fieldHeader (atomField : AtomField) : String × JavaType :=
  (atomField.name, atomField.javaType)

/-- The flattened fields are the attribution node in place of the chain and the other
fields with their names and types. -/
theorem exists_flattenedFields (registration : Registration)
    (hasChain : HasChain registration.atom) :
    ∃ chain later flattened, registration.decl.fields = chain :: later ∧
      chain.javaType = .attributionChain ∧
      (∀ atomField ∈ flattened, atomField.javaType ≠ .attributionChain) ∧
      registration.nonChained.1.fields = attributionDecl.fields ++ flattened ∧
      flattened.map fieldHeader = later.map fieldHeader := by
  rcases registration.rule.message.sortedFields_cases with
    none | ⟨chain, rest, sorted, -, isChain, restNot⟩
  · obtain ⟨field, member, -, isNode⟩ := hasChain
    exact absurd isNode (none field (mem_sortedFields.mpr member))
  · let isUintAllowed : Bool := registration.atom.name ∈ uintAtomAllowlist
    have shapes : ∀ field ∈ chain :: rest, FieldShape isUintAllowed field :=
      fun field member => registration.shape (sorted ▸ member)
    have declared : registration.decl.fields =
        (chain :: rest).map fun field => buildAtomField field (javaType field isUintAllowed) := by
      rw [registration.decl_fields, atomFieldsOf, sorted]
    have single : rest.flatMap nonChainedFields =
        rest.map fun field => buildNonChainedField field (javaType field true) := by
      rw [List.map_eq_flatMap]
      apply List.flatMap_congr
      intro field member
      apply if_neg
      exact fun chained =>
        restNot field member ((javaType_eq_attributionChain_iff true field).mp chained)
    have chainType : javaType chain true = .attributionChain :=
      (javaType_eq_attributionChain_iff true chain).mpr isChain
    refine ⟨_, _, rest.map fun field => buildNonChainedField field (javaType field true),
      declared, ?_, ?_, ?_, ?_⟩
    · rw [buildAtomField_javaType]
      exact (javaType_eq_attributionChain_iff _ chain).mpr isChain
    · intro atomField member
      obtain ⟨field, fieldMem, rfl⟩ := List.mem_map.mp member
      rw [buildNonChainedField_javaType]
      exact fun chained =>
        restNot field fieldMem ((javaType_eq_attributionChain_iff true field).mp chained)
    · change ((sortedFields registration.atom).foldl flattenField (_, [], false)).1.fields = _
      rw [foldl_flattenField_fields, sorted, List.flatMap_cons, single, nonChainedFields,
        if_pos chainType]
      rfl
    · rw [List.map_map, List.map_map]
      apply List.map_congr_left
      intro field member
      have shape := shapes field (List.mem_cons_of_mem chain member)
      simp only [Function.comp_apply, fieldHeader, buildNonChainedField_name,
        buildNonChainedField_javaType, buildAtomField_name, buildAtomField_javaType,
        javaType_true_eq_declaredType shape, javaType_eq_declaredType shape]

/-! ## The non-chained signature map -/

/-- The signature that `getNonChainedNode` computes for an atom. -/
def flattenedSignature (atomField : AtomFieldDescriptor) (atom : Descriptor) : Signature :=
  (getNonChainedNode atom (initialDecl atomField atom)).2.1

/-- Lowering the flattened signature of an atom with a chain gives its signature back,
with the attribution node in place of the chain. -/
theorem exists_flattenedSignature (registration : Registration)
    (hasChain : HasChain registration.atom) :
    ∃ rest : Signature, (∀ type ∈ rest, type ≠ .attributionChain) ∧
      flattenedSignature registration.atomField registration.atom = .int :: .string :: rest ∧
      registration.decl.signature = .attributionChain :: rest.map lowered := by
  obtain ⟨rest, restMem, -, signatureEq, flattened⟩ :=
    getNonChainedNode_of_hasChain registration.rule.message hasChain
      (initialDecl registration.atomField registration.atom)
  refine ⟨rest.map nonChainedType, ?_, ?_, ?_⟩
  · intro type member
    obtain ⟨field, fieldMem, rfl⟩ := List.mem_map.mp member
    exact notChain_nonChainedType (restMem field fieldMem).2
  · rw [flattenedSignature, flattened, attributionCollated_signature]
    rfl
  · rw [← registration.signatureOf_eq, signatureEq, List.map_map]
    congr 1
    apply List.map_congr_left
    intro field fieldMem
    have rule := registration.rule.message.fields field (restMem field fieldMem).1
    exact (lowered_nonChainedType rule.shape).symm

/-- The keys of the non-chained map are the flattened signatures of the atoms
with a chain. -/
theorem mem_nonChainedSignatureInfoMap {registrations : List Registration} {atoms : Atoms}
    (registered : Registered registrations atoms) {signature : Signature} :
    signature ∈ atoms.nonChainedSignatureInfoMap ↔
      ∃ registration ∈ registrations, HasChain registration.atom ∧
        flattenedSignature registration.atomField registration.atom = signature := by
  rw [registered.nonChained.signatures]
  constructor
  · rintro ⟨decl, member⟩
    obtain ⟨registration, chosen, equal⟩ := List.mem_map.mp member
    obtain ⟨registrationMem, chained⟩ := List.mem_filter.mp chosen
    exact ⟨registration, registrationMem,
      (getNonChainedNode_hasChain registration.rule.message _).mp chained,
      congrArg Entry.signature equal⟩
  · rintro ⟨registration, registrationMem, hasChain, rfl⟩
    refine ⟨registration.nonChained.1, List.mem_map.mpr ⟨registration, ?_, rfl⟩⟩
    exact List.mem_filter.mpr ⟨registrationMem,
      (getNonChainedNode_hasChain registration.rule.message _).mpr hasChain⟩

/-- The signature of a declaration tells whether its atom has a chain. -/
theorem hasChain_iff_mem_signature (registration : Registration) :
    HasChain registration.atom ↔ JavaType.attributionChain ∈ registration.decl.signature := by
  constructor
  · intro hasChain
    obtain ⟨rest, -, -, signature⟩ := exists_flattenedSignature registration hasChain
    rw [signature]
    exact List.mem_cons_self
  · intro chainMem
    have rule := registration.rule.message
    rw [← registration.signatureOf_eq, rule.signatureOf_eq] at chainMem
    rcases rule.sortedFields_cases with none | ⟨chain, rest, sorted, -, isChain, -⟩
    · exact absurd (rule.isArgument (fun _ member => member) none _ chainMem) id
    · exact rule.hasChain_iff.mpr ⟨chain, rest, sorted, isChain⟩

/-- The non-chained declarations are those of the atoms with a chain. -/
theorem getElem?_nonChainedDecls {registrations : List Registration} {atoms : Atoms}
    (registered : Registered registrations atoms) {registration : Registration}
    (registrationMem : registration ∈ registrations) :
    (HasChain registration.atom →
      atoms.nonChainedDecls[registration.decl.key]? = some registration.nonChained.1) ∧
    (¬HasChain registration.atom → atoms.nonChainedDecls[registration.decl.key]? = none) := by
  have listed {other : Registration} (member : other ∈ registrations) :
      atoms.decls[other.decl.key]? = some other.decl :=
    (registered.decls _ _).mpr ⟨rfl, List.mem_map_of_mem member⟩
  constructor
  · intro hasChain
    refine (registered.nonChainedDecls _ _).mpr ⟨registration.nonChainedEntry_key, ?_⟩
    apply List.mem_map.mpr ⟨registration.nonChainedEntry, List.mem_map_of_mem ?_, rfl⟩
    exact List.mem_filter.mpr ⟨registrationMem,
      (getNonChainedNode_hasChain registration.rule.message _).mpr hasChain⟩
  · intro noChain
    by_contra present
    obtain ⟨decl, found⟩ := Option.ne_none_iff_exists'.mp present
    obtain ⟨sameKey, member⟩ := (registered.nonChainedDecls _ _).mp found
    obtain ⟨entry, entryMem, rfl⟩ := List.mem_map.mp member
    obtain ⟨other, otherMem, rfl⟩ := List.mem_map.mp entryMem
    obtain ⟨otherRegistered, chained⟩ := List.mem_filter.mp otherMem
    have otherChain := (getNonChainedNode_hasChain other.rule.message _).mp chained
    have sameDecl : other.decl = registration.decl := by
      rw [other.nonChainedEntry_key] at sameKey
      have otherListed := listed otherRegistered
      rw [sameKey, listed registrationMem, Option.some.injEq] at otherListed
      exact otherListed.symm
    rw [hasChain_iff_mem_signature, sameDecl, ← hasChain_iff_mem_signature] at otherChain
    exact noChain otherChain

/-- A selected atom of a run is registered. -/
theorem exists_registration {registrations : List Registration} {descriptor : AtomDescriptor}
    {moduleName : String}
    (selected : registrations.map Registration.atomField = selectedAtoms descriptor moduleName)
    {atomField : AtomFieldDescriptor} (member : atomField ∈ selectedAtoms descriptor moduleName)
    {atom : Descriptor} (type : atomField.type = .message atom) :
    ∃ registration ∈ registrations,
      registration.atomField = atomField ∧ registration.atom = atom := by
  rw [← selected] at member
  obtain ⟨registration, registrationMem, rfl⟩ := List.mem_map.mp member
  refine ⟨registration, registrationMem, rfl, ?_⟩
  have both := registration.rule.type.symm.trans type
  simpa using both

/-- An atom with a chain has no repeated enum. -/
def NoRepeatedEnum (descriptor : AtomDescriptor) (moduleName : String) : Prop :=
  ∀ atomField ∈ selectedAtoms descriptor moduleName, ∀ atom, atomField.type = .message atom →
    HasChain atom → ¬∃ field ∈ atom.fields, IsRepeatedEnum field

/-- Flattening and lowering commute on the selected atoms, so that atoms which
share a signature share the flattened one and no overload is generated twice. -/
structure FlatteningCommutes (descriptor : AtomDescriptor) (moduleName : String)
    (atoms : Atoms) : Prop where
  commutes : ∀ atomField ∈ selectedAtoms descriptor moduleName, ∀ atom,
    atomField.type = .message atom → HasChain atom →
      flattenedSignature atomField atom ∈ atoms.nonChainedSignatureInfoMap ∧
      flattenedSignature atomField atom =
        attributionCollated.2 ++ (collateAtom atom (initialDecl atomField atom)).2.tail
  shared : ∀ first ∈ selectedAtoms descriptor moduleName,
    ∀ second ∈ selectedAtoms descriptor moduleName, ∀ firstAtom secondAtom,
      first.type = .message firstAtom → second.type = .message secondAtom →
      HasChain firstAtom → HasChain secondAtom →
      (collateAtom firstAtom (initialDecl first firstAtom)).2 =
        (collateAtom secondAtom (initialDecl second secondAtom)).2 →
      flattenedSignature first firstAtom = flattenedSignature second secondAtom
  overloads : ∀ first ∈ atoms.nonChainedSignatureInfoMap,
    ∀ second ∈ atoms.nonChainedSignatureInfoMap, first ≠ second →
      nativeParameterTypes first ≠ nativeParameterTypes second ∧
      javaParameterTypes first ≠ javaParameterTypes second

/-- In an accepted run flattening commutes with lowering exactly when no atom
with a chain has a repeated enum. -/
theorem flatteningCommutes_iff (descriptor : AtomDescriptor) (moduleName : String)
    (atoms : Atoms) (accepted : collateAtoms descriptor moduleName {} = (0, atoms)) :
    FlatteningCommutes descriptor moduleName atoms ↔ NoRepeatedEnum descriptor moduleName := by
  obtain ⟨registrations, selected, registered⟩ := collateAtoms_registered accepted
  constructor
  · intro flattening atomField member atom type hasChain
    obtain ⟨registration, -, rfl, rfl⟩ := exists_registration selected member type
    rw [← getNonChainedNode_eq_iff registration.rule.message hasChain
      (initialDecl registration.atomField registration.atom), ← collateAtom_signature]
    exact (flattening.commutes _ member _ type hasChain).2
  · intro noEnum
    have flattened : ∀ registration ∈ registrations, HasChain registration.atom →
        flattenedSignature registration.atomField registration.atom =
          attributionCollated.2 ++ (signatureOf registration.atom).tail := by
      intro registration registrationMem hasChain
      have member : registration.atomField ∈ selectedAtoms descriptor moduleName :=
        selected ▸ List.mem_map_of_mem registrationMem
      exact (getNonChainedNode_eq_iff registration.rule.message hasChain _).mpr
        (noEnum _ member _ registration.rule.type hasChain)
    constructor
    · intro atomField member atom type hasChain
      obtain ⟨registration, registrationMem, rfl, rfl⟩ := exists_registration selected member type
      constructor
      · exact (mem_nonChainedSignatureInfoMap registered).mpr
          ⟨registration, registrationMem, hasChain, rfl⟩
      · rw [collateAtom_signature]
        exact flattened registration registrationMem hasChain
    · intro first firstMem second secondMem firstAtom secondAtom firstType secondType
        firstChain secondChain sameSignature
      obtain ⟨left, leftMem, rfl, rfl⟩ := exists_registration selected firstMem firstType
      obtain ⟨right, rightMem, rfl, rfl⟩ := exists_registration selected secondMem secondType
      rw [collateAtom_signature, collateAtom_signature] at sameSignature
      rw [flattened left leftMem firstChain, flattened right rightMem secondChain, sameSignature]
    · have keyTypes : ∀ signature ∈ atoms.nonChainedSignatureInfoMap,
          ∀ type ∈ signature, type ∈ signatureTypes.tail := by
        intro signature member type typeMem
        obtain ⟨registration, registrationMem, hasChain, rfl⟩ :=
          (mem_nonChainedSignatureInfoMap registered).mp member
        rw [flattened registration registrationMem hasChain, attributionCollated_signature]
          at typeMem
        rcases List.mem_append.mp typeMem with nodeMem | tailMem
        · exact mem_signatureTypes_tail (by
            rcases List.mem_pair.mp nodeMem with rfl | rfl <;> trivial)
        · exact mem_signatureTypes_tail
            (registration.rule.message.acceptedSignature.tail type tailMem)
      intro first firstMem second secondMem different
      constructor
      · intro equal
        exact different (nativeParameterTypes_injective
          (fun type member => List.mem_of_mem_tail (keyTypes first firstMem type member))
          (fun type member => List.mem_of_mem_tail (keyTypes second secondMem type member)) equal)
      · intro equal
        exact different (javaParameterTypes_injective (keyTypes first firstMem)
          (keyTypes second secondMem) equal)

theorem flatteningCommutes_wakelockDescriptor :
    FlatteningCommutes wakelockDescriptor defaultModuleName
        (collateAtoms wakelockDescriptor defaultModuleName {}).2 ↔
      NoRepeatedEnum wakelockDescriptor defaultModuleName :=
  flatteningCommutes_iff _ _ _ (Prod.ext (by decide) rfl)

/-- Two pushed atoms with a chain, one with a repeated enum and one with a
repeated int. -/
def repeatedEnumDescriptor : AtomDescriptor where
  fields :=
    [{ name := "enum_atom", number := 1, type := .message
        { name := "EnumAtom"
          fields :=
            [{ name := "attribution_node", number := 1, isRepeated := true,
               type := .message attributionNodeFullName },
             { name := "states", number := 2, isRepeated := true,
               type := .enum ⟨"State", [⟨"OFF", 0⟩, ⟨"ON", 1⟩]⟩ }]
          numbers_nodup := by decide } },
     { name := "int_atom", number := 2, type := .message
        { name := "IntAtom"
          fields :=
            [{ name := "attribution_node", number := 1, isRepeated := true,
               type := .message attributionNodeFullName },
             { name := "states", number := 2, isRepeated := true, type := .int32 }]
          numbers_nodup := by decide } }]
  extensions := []
  numbers_nodup := by decide

/-- The flattened overloads of the two atoms have the same parameter types in
both languages. -/
theorem not_flatteningCommutes_repeatedEnumDescriptor :
    (collateAtoms repeatedEnumDescriptor defaultModuleName {}).1 = 0 ∧
    ¬FlatteningCommutes repeatedEnumDescriptor defaultModuleName
      (collateAtoms repeatedEnumDescriptor defaultModuleName {}).2 := by
  constructor
  · decide
  · intro flattening
    let atoms := (collateAtoms repeatedEnumDescriptor defaultModuleName {}).2
    have enumKey : [.int, .string, .enumArray] ∈ atoms.nonChainedSignatureInfoMap := by decide
    have intKey : [.int, .string, .intArray] ∈ atoms.nonChainedSignatureInfoMap := by decide
    have different := flattening.overloads _ enumKey _ intKey (by decide)
    exact different.1 (by rw [nativeParameterTypes_eq, nativeParameterTypes_eq]; decide)

end StatsLogApiGen.Writer
