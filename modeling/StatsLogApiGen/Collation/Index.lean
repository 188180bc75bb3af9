import StatsLogApiGen.Collation.Rules

/-!
# The atoms as an index of registrations

Every accepted atom is entered into the atoms once.  The signature maps and the
declaration sets are therefore indexes over the list of registrations, and this
file gives the invariant that says which declarations an index holds, with the
step lemma for one more registration.
-/

namespace StatsLogApiGen.Collation

open Std
open StatsLogApiGen.Container
open StatsLogApiGen.Proto

/-! ## Indexes -/

/-- A declaration with the signature it is entered under. -/
structure Entry where
  signature : Signature
  decl : AtomDecl

/-- The set holds exactly the listed declarations. -/
def Holds (listed : List AtomDecl) (decls : AtomDeclSet) : Prop :=
  ∀ key decl, decls[key]? = some decl ↔ decl.key = key ∧ decl ∈ listed

theorem holds_nil : Holds [] ∅ := by
  intro key decl
  simp

theorem Holds.insertDecl {listed : List AtomDecl} {decls : AtomDeclSet} {decl : AtomDecl}
    (holds : Holds listed decls) (fresh : ∀ other ∈ listed, other.key ≠ decl.key) :
    Holds (listed ++ [decl]) (decls.insertDecl decl) := by
  intro key found
  rw [AtomDeclSet.insertDecl, getElem?_insertIfNew, List.mem_append, List.mem_singleton]
  by_cases same : decl.key = key
  · subst key
    have missing : decls[decl.key]? = none := by
      cases present : decls[decl.key]? with
      | none => rfl
      | some other =>
          obtain ⟨keyEq, member⟩ := (holds decl.key other).mp present
          exact absurd keyEq (fresh other member)
    rw [if_pos rfl, missing, Option.getD_none, Option.some.injEq]
    constructor
    · rintro rfl
      exact ⟨rfl, Or.inr rfl⟩
    · rintro ⟨keyEq, member | rfl⟩
      · exact absurd keyEq (fresh found member)
      · rfl
  · rw [if_neg same, holds key found]
    constructor
    · rintro ⟨keyEq, member⟩
      exact ⟨keyEq, Or.inl member⟩
    · rintro ⟨keyEq, member | rfl⟩
      · exact ⟨keyEq, member⟩
      · exact absurd keyEq same

theorem getElem?_populateFieldNumberToAtomDeclSet (decl : AtomDecl)
    (declSets : FieldNumberToAtomDeclSet) (fieldNumber : Int) :
    (populateFieldNumberToAtomDeclSet decl declSets)[fieldNumber]? =
      if fieldNumber ∈ decl.fieldNumberToAnnotations then
        some ((declSets[fieldNumber]?.getD ∅).insertDecl decl)
      else
        declSets[fieldNumber]? := by
  rw [populateFieldNumberToAtomDeclSet, getElem?_foldl_upsert _ ExtTreeMap.nodup_keys]
  simp

/-- A field has a set exactly when a declaration is listed for it. -/
def HoldsField (listed : List AtomDecl) (stored : Option AtomDeclSet) : Prop :=
  match stored with
  | none => listed = []
  | some decls => listed ≠ [] ∧ Holds listed decls

theorem HoldsField.insertDecl {listed : List AtomDecl} {stored : Option AtomDeclSet}
    {decl : AtomDecl} (holds : HoldsField listed stored)
    (fresh : ∀ other ∈ listed, other.key ≠ decl.key) :
    HoldsField (listed ++ [decl]) (some ((stored.getD ∅).insertDecl decl)) := by
  constructor
  · simp
  · cases stored with
    | none =>
        have empty : listed = [] := holds
        subst empty
        exact holds_nil.insertDecl fresh
    | some decls => exact holds.2.insertDecl fresh

/-- The declarations entered under a signature with an annotation on a field. -/
def annotatedDecls (entries : List Entry) (signature : Signature) (fieldNumber : Int) :
    List AtomDecl :=
  (entries.filter fun entry =>
    entry.signature = signature ∧ fieldNumber ∈ entry.decl.fieldNumberToAnnotations).map
      Entry.decl

theorem mem_annotatedDecls {entries : List Entry} {signature : Signature} {fieldNumber : Int}
    {decl : AtomDecl} :
    decl ∈ annotatedDecls entries signature fieldNumber ↔
      ⟨signature, decl⟩ ∈ entries ∧ fieldNumber ∈ decl.fieldNumberToAnnotations := by
  rw [annotatedDecls, List.mem_map]
  constructor
  · rintro ⟨⟨entrySignature, entryDecl⟩, member, rfl⟩
    obtain ⟨listed, condition⟩ := List.mem_filter.mp member
    obtain ⟨rfl, annotated⟩ := of_decide_eq_true condition
    exact ⟨listed, annotated⟩
  · rintro ⟨listed, annotated⟩
    exact ⟨⟨signature, decl⟩, List.mem_filter.mpr ⟨listed, decide_eq_true ⟨rfl, annotated⟩⟩, rfl⟩

/-- The map has an entry for every entered signature, which holds for every
field number the declarations entered with an annotation on that field. -/
structure Indexes (entries : List Entry) (map : SignatureInfoMap) : Prop where
  signatures : ∀ signature, signature ∈ map ↔ ∃ decl, ⟨signature, decl⟩ ∈ entries
  declarations : ∀ signature declSets, map[signature]? = some declSets → ∀ fieldNumber : Int,
    HoldsField (annotatedDecls entries signature fieldNumber) declSets[fieldNumber]?

theorem indexes_nil : Indexes [] ∅ where
  signatures := by simp
  declarations := by simp

/-- Entering one more declaration. -/
theorem Indexes.upsert {entries : List Entry} {map : SignatureInfoMap} {entry : Entry}
    (indexes : Indexes entries map)
    (fresh : ∀ other ∈ entries, other.decl.key ≠ entry.decl.key) :
    Indexes (entries ++ [entry]) (Container.upsert map entry.signature ∅
      (populateFieldNumberToAtomDeclSet entry.decl)) where
  signatures signature := by
    rw [mem_upsert_iff, indexes.signatures]
    constructor
    · rintro (rfl | ⟨decl, member⟩)
      · exact ⟨entry.decl, by simp⟩
      · exact ⟨decl, List.mem_append_left _ member⟩
    · rintro ⟨decl, member⟩
      rcases List.mem_append.mp member with before | last
      · exact Or.inr ⟨decl, before⟩
      · left
        rw [← List.mem_singleton.mp last]
  declarations signature declSets found fieldNumber := by
    rw [getElem?_upsert] at found
    have before : ∀ present : FieldNumberToAtomDeclSet,
        present = map[signature]?.getD ∅ →
        HoldsField (annotatedDecls entries signature fieldNumber) present[fieldNumber]? := by
      rintro present rfl
      cases stored : map[signature]? with
      | some declSets => exact indexes.declarations signature declSets stored fieldNumber
      | none =>
          have missing : annotatedDecls entries signature fieldNumber = [] := by
            rw [List.eq_nil_iff_forall_not_mem]
            intro decl member
            have listed := (mem_annotatedDecls.mp member).1
            have isStored := (indexes.signatures signature).mpr ⟨decl, listed⟩
            rw [mem_iff_exists_getElem?, stored] at isStored
            simp at isStored
          simpa [HoldsField] using missing
    have freshDecls : ∀ other ∈ annotatedDecls entries signature fieldNumber,
        other.key ≠ entry.decl.key :=
      fun other member => fresh ⟨signature, other⟩ (mem_annotatedDecls.mp member).1
    by_cases same : entry.signature = signature
    · rw [if_pos same, same, Option.some.injEq] at found
      subst found
      rw [getElem?_populateFieldNumberToAtomDeclSet]
      by_cases annotated : fieldNumber ∈ entry.decl.fieldNumberToAnnotations
      · have extended : annotatedDecls (entries ++ [entry]) signature fieldNumber =
            annotatedDecls entries signature fieldNumber ++ [entry.decl] := by
          simp [annotatedDecls, same, annotated]
        rw [if_pos annotated, extended]
        exact (before _ rfl).insertDecl freshDecls
      · have unchanged : annotatedDecls (entries ++ [entry]) signature fieldNumber =
            annotatedDecls entries signature fieldNumber := by
          simp [annotatedDecls, annotated]
        rw [if_neg annotated, unchanged]
        exact before _ rfl
    · have unchanged : annotatedDecls (entries ++ [entry]) signature fieldNumber =
          annotatedDecls entries signature fieldNumber := by
        simp [annotatedDecls, same]
      rw [if_neg same] at found
      rw [unchanged]
      exact indexes.declarations signature declSets found fieldNumber

/-! ## Registrations -/

/-- An accepted atom of the module with the declaration that collation records
for it. -/
structure Registration where
  atomField : AtomFieldDescriptor
  atom : Descriptor
  decl : AtomDecl
  rule : AtomRule atomField atom
  describes : Describes atomField atom decl

namespace Registration

def entry (registration : Registration) : Entry :=
  ⟨signatureOf registration.atom, registration.decl⟩

/-- What `getNonChainedNode` makes of the atom. -/
def nonChained (registration : Registration) : AtomDecl × Signature × Bool :=
  getNonChainedNode registration.atom
    (initialDecl registration.atomField registration.atom)

def nonChainedEntry (registration : Registration) : Entry :=
  ⟨registration.nonChained.2.1, registration.nonChained.1⟩

theorem decl_code (registration : Registration) :
    registration.decl.code = registration.atomField.number :=
  congrArg AtomDecl.Header.code registration.describes.header

theorem decl_name (registration : Registration) :
    registration.decl.name = registration.atomField.name :=
  congrArg AtomDecl.Header.name registration.describes.header

theorem decl_key (registration : Registration) :
    registration.decl.key = ⟨registration.atomField.number, registration.atomField.name⟩ := by
  rw [AtomDecl.key, decl_code, decl_name]

theorem decl_atomType (registration : Registration) :
    registration.decl.atomType = getAtomType registration.atomField.number :=
  congrArg AtomDecl.Header.atomType registration.describes.header

theorem decl_fields (registration : Registration) :
    registration.decl.fields = atomFieldsOf registration.atom :=
  congrArg AtomDecl.Header.fields registration.describes.header

end Registration

theorem flattenField_decl (state : AtomDecl × Signature × Bool)
    (field : MessageFieldDescriptor) :
    ∃ fields, (flattenField state field).1 = { state.1 with fields } := by
  unfold flattenField
  dsimp only
  split
  · exact ⟨_, rfl⟩
  · split
    · exact ⟨_, rfl⟩
    · exact ⟨_, rfl⟩

/-- Flattening changes the fields of a declaration only. -/
theorem getNonChainedNode_decl (atom : Descriptor) (atomDecl : AtomDecl) :
    ∃ fields, (getNonChainedNode atom atomDecl).1 = { atomDecl with fields } := by
  have fold (messageFields : List MessageFieldDescriptor)
      (state : AtomDecl × Signature × Bool) :
      ∃ fields, (messageFields.foldl flattenField state).1 = { state.1 with fields } := by
    induction messageFields generalizing state with
    | nil => exact ⟨state.1.fields, rfl⟩
    | cons field rest ih =>
        obtain ⟨restFields, restEq⟩ := ih (flattenField state field)
        obtain ⟨fields, fieldEq⟩ := flattenField_decl state field
        rw [List.foldl_cons, restEq, fieldEq]
        exact ⟨restFields, rfl⟩
  exact fold (sortedFields atom) (atomDecl, [], false)

theorem Registration.nonChainedEntry_key (registration : Registration) :
    registration.nonChainedEntry.decl.key = registration.decl.key := by
  obtain ⟨fields, declEq⟩ := getNonChainedNode_decl registration.atom
    (initialDecl registration.atomField registration.atom)
  rw [registration.decl_key]
  change (getNonChainedNode _ _).1.key = _
  rw [declEq]
  rfl

/-- The entries of the signature map of one kind of atoms. -/
def entriesOf (atomType : AtomType) (registrations : List Registration) : List Entry :=
  (registrations.filter fun registration => registration.decl.atomType = atomType).map
    Registration.entry

/-- The entries of the non-chained signature map. -/
def nonChainedEntries (registrations : List Registration) : List Entry :=
  (registrations.filter fun registration => registration.nonChained.2.2).map
    Registration.nonChainedEntry

/-- The atoms hold exactly the registrations. -/
structure Registered (registrations : List Registration) (atoms : Atoms) : Prop where
  pushed : Indexes (entriesOf .pushed registrations) atoms.signatureInfoMap
  pulled : Indexes (entriesOf .pulled registrations) atoms.pulledAtomsSignatureInfoMap
  decls : Holds (registrations.map Registration.decl) atoms.decls
  nonChained : Indexes (nonChainedEntries registrations) atoms.nonChainedSignatureInfoMap
  nonChainedDecls :
    Holds ((nonChainedEntries registrations).map Entry.decl) atoms.nonChainedDecls

theorem registered_nil : Registered [] {} where
  pushed := indexes_nil
  pulled := indexes_nil
  decls := holds_nil
  nonChained := indexes_nil
  nonChainedDecls := holds_nil

theorem entriesOf_append (atomType : AtomType) (registrations : List Registration)
    (registration : Registration) :
    entriesOf atomType (registrations ++ [registration]) =
      if registration.decl.atomType = atomType then
        entriesOf atomType registrations ++ [registration.entry]
      else
        entriesOf atomType registrations := by
  by_cases kind : registration.decl.atomType = atomType
  · simp [entriesOf, kind]
  · simp [entriesOf, kind]

theorem nonChainedEntries_append (registrations : List Registration)
    (registration : Registration) :
    nonChainedEntries (registrations ++ [registration]) =
      if registration.nonChained.2.2 then
        nonChainedEntries registrations ++ [registration.nonChainedEntry]
      else
        nonChainedEntries registrations := by
  by_cases chained : registration.nonChained.2.2
  · simp [nonChainedEntries, chained]
  · simp [nonChainedEntries, chained]

section Fresh

variable {registrations : List Registration} {registration : Registration}

theorem entriesOf_fresh (atomType : AtomType)
    (fresh : ∀ other ∈ registrations, other.decl.key ≠ registration.decl.key) :
    ∀ entry ∈ entriesOf atomType registrations,
      entry.decl.key ≠ registration.entry.decl.key := by
  intro entry member
  obtain ⟨other, otherMem, rfl⟩ := List.mem_map.mp member
  exact fresh other (List.mem_filter.mp otherMem).1

theorem nonChainedEntries_fresh
    (fresh : ∀ other ∈ registrations, other.decl.key ≠ registration.decl.key) :
    ∀ entry ∈ nonChainedEntries registrations,
      entry.decl.key ≠ registration.nonChainedEntry.decl.key := by
  intro entry member
  obtain ⟨other, otherMem, rfl⟩ := List.mem_map.mp member
  rw [other.nonChainedEntry_key, registration.nonChainedEntry_key]
  exact fresh other (List.mem_filter.mp otherMem).1

end Fresh

/-- `registerAtom`, component by component. -/
theorem registerAtom_components (atoms : Atoms) (atom : Descriptor)
    (nonChainedDecl decl : AtomDecl) (signature : Signature) :
    registerAtom atoms atom nonChainedDecl decl signature =
      { signatureInfoMap :=
          if decl.atomType = .pushed then
            upsert atoms.signatureInfoMap signature ∅ (populateFieldNumberToAtomDeclSet decl)
          else atoms.signatureInfoMap
        pulledAtomsSignatureInfoMap :=
          if decl.atomType = .pulled then
            upsert atoms.pulledAtomsSignatureInfoMap signature ∅
              (populateFieldNumberToAtomDeclSet decl)
          else atoms.pulledAtomsSignatureInfoMap
        decls := atoms.decls.insertDecl decl
        nonChainedDecls :=
          if (getNonChainedNode atom nonChainedDecl).2.2 then
            atoms.nonChainedDecls.insertDecl (getNonChainedNode atom nonChainedDecl).1
          else atoms.nonChainedDecls
        nonChainedSignatureInfoMap :=
          if (getNonChainedNode atom nonChainedDecl).2.2 then
            upsert atoms.nonChainedSignatureInfoMap (getNonChainedNode atom nonChainedDecl).2.1 ∅
              (populateFieldNumberToAtomDeclSet (getNonChainedNode atom nonChainedDecl).1)
          else atoms.nonChainedSignatureInfoMap } := by
  unfold registerAtom
  rcases flattened : getNonChainedNode atom nonChainedDecl with ⟨flatDecl, flatSignature, chained⟩
  cases kind : decl.atomType <;> cases chained <;> simp

/-- What `registerAtom` does for a registration. -/
theorem registerAtom_eq (atoms : Atoms) (registration : Registration) :
    registerAtom atoms registration.atom
        (initialDecl registration.atomField registration.atom) registration.decl
        (signatureOf registration.atom) =
      { signatureInfoMap :=
          if registration.decl.atomType = .pushed then
            upsert atoms.signatureInfoMap registration.entry.signature ∅
              (populateFieldNumberToAtomDeclSet registration.entry.decl)
          else atoms.signatureInfoMap
        pulledAtomsSignatureInfoMap :=
          if registration.decl.atomType = .pulled then
            upsert atoms.pulledAtomsSignatureInfoMap registration.entry.signature ∅
              (populateFieldNumberToAtomDeclSet registration.entry.decl)
          else atoms.pulledAtomsSignatureInfoMap
        decls := atoms.decls.insertDecl registration.decl
        nonChainedDecls :=
          if registration.nonChained.2.2 then
            atoms.nonChainedDecls.insertDecl registration.nonChainedEntry.decl
          else atoms.nonChainedDecls
        nonChainedSignatureInfoMap :=
          if registration.nonChained.2.2 then
            upsert atoms.nonChainedSignatureInfoMap registration.nonChainedEntry.signature ∅
              (populateFieldNumberToAtomDeclSet registration.nonChainedEntry.decl)
          else atoms.nonChainedSignatureInfoMap } :=
  registerAtom_components _ _ _ _ _

/-- The step of the invariant: `registerAtom` adds one registration. -/
theorem Registered.registerAtom {registrations : List Registration} {atoms : Atoms}
    (registered : Registered registrations atoms) (registration : Registration)
    (fresh : ∀ other ∈ registrations, other.decl.key ≠ registration.decl.key) :
    Registered (registrations ++ [registration])
      (registerAtom atoms registration.atom
        (initialDecl registration.atomField registration.atom) registration.decl
        (signatureOf registration.atom)) := by
  rw [registerAtom_eq]
  constructor
  · rw [entriesOf_append]
    split
    · exact registered.pushed.upsert (entriesOf_fresh .pushed fresh)
    · exact registered.pushed
  · rw [entriesOf_append]
    split
    · exact registered.pulled.upsert (entriesOf_fresh .pulled fresh)
    · exact registered.pulled
  · rw [List.map_append]
    apply registered.decls.insertDecl
    intro other member
    obtain ⟨otherRegistration, otherMem, rfl⟩ := List.mem_map.mp member
    exact fresh otherRegistration otherMem
  · rw [nonChainedEntries_append]
    split
    · exact registered.nonChained.upsert (nonChainedEntries_fresh fresh)
    · exact registered.nonChained
  · rw [nonChainedEntries_append]
    split
    · rw [List.map_append]
      apply registered.nonChainedDecls.insertDecl
      intro other member
      obtain ⟨entry, entryMem, rfl⟩ := List.mem_map.mp member
      exact nonChainedEntries_fresh fresh entry entryMem
    · exact registered.nonChainedDecls

/-! ## Runs -/

/-- The fields of the `Atom` message that the module selects. -/
def selectedAtoms (descriptor : AtomDescriptor) (moduleName : String) :
    List AtomFieldDescriptor :=
  (descriptor.fields ++ descriptor.extensions).filter (isInModule moduleName)

theorem selectedAtoms_numbers_nodup (descriptor : AtomDescriptor) (moduleName : String) :
    ((selectedAtoms descriptor moduleName).map FieldDescriptor.number).Nodup :=
  (List.filter_sublist.map FieldDescriptor.number).nodup descriptor.numbers_nodup

/-- Collating a list of atoms that follow their rules registers the selected
ones in order. -/
theorem foldl_collateFromFieldDescriptor_registered (moduleName : String)
    (atomFields : List AtomFieldDescriptor)
    (rules : ∀ atomField ∈ atomFields,
      isInModule moduleName atomField → ∃ atom, AtomRule atomField atom)
    (state : Atoms × List CollationError) (registrations : List Registration)
    (registered : Registered registrations state.1)
    (distinct : ((registrations.map Registration.atomField ++ atomFields).map
      FieldDescriptor.number).Nodup) :
    ∃ added : List Registration,
      added.map Registration.atomField = atomFields.filter (isInModule moduleName) ∧
      Registered (registrations ++ added)
        (atomFields.foldl (collateFromFieldDescriptor moduleName) state).1 := by
  induction atomFields generalizing state registrations with
  | nil => exact ⟨[], rfl, by simpa using registered⟩
  | cons atomField rest ih =>
      have restRules := fun other otherMem => rules other (List.mem_cons_of_mem atomField otherMem)
      by_cases selected : isInModule moduleName atomField
      · obtain ⟨atom, rule⟩ := rules atomField List.mem_cons_self selected
        obtain ⟨decl, describes, stateEq⟩ :=
          (collateFromFieldDescriptor_message selected rule.type state).2 rule
        let registration : Registration := ⟨atomField, atom, decl, rule, describes⟩
        have fresh : ∀ other ∈ registrations, other.decl.key ≠ registration.decl.key := by
          intro other otherMem sameKey
          rw [other.decl_key, registration.decl_key] at sameKey
          have sameNumber := congrArg DeclKey.code sameKey
          rw [List.map_append, List.map_map, List.nodup_append] at distinct
          exact distinct.2.2 _ (List.mem_map_of_mem otherMem) _
            (List.mem_map_of_mem List.mem_cons_self) sameNumber
        have next := registered.registerAtom registration fresh
        rw [← stateEq] at next
        obtain ⟨added, addedEq, result⟩ := ih restRules _ (registrations ++ [registration]) next
          (by simpa using distinct)
        refine ⟨registration :: added, ?_, ?_⟩
        · rw [List.map_cons, addedEq, List.filter_cons_of_pos selected]
        · rw [List.foldl_cons]
          simpa using result
      · have skipped : collateFromFieldDescriptor moduleName state atomField = state := by
          simp [collateFromFieldDescriptor, selected]
        have restDistinct : ((registrations.map Registration.atomField ++ rest).map
            FieldDescriptor.number).Nodup := by
          apply List.Nodup.sublist _ distinct
          exact ((List.sublist_cons_self atomField rest).append_left _).map _
        obtain ⟨added, addedEq, result⟩ := ih restRules state registrations registered restDistinct
        refine ⟨added, ?_, ?_⟩
        · rw [addedEq, List.filter_cons_of_neg selected]
        · rw [List.foldl_cons, skipped]
          exact result

/-- An accepted run from empty atoms registers the selected atoms and nothing
else. -/
theorem collateAtoms_registered {descriptor : AtomDescriptor} {moduleName : String}
    {atoms : Atoms} (accepted : collateAtoms descriptor moduleName {} = (0, atoms)) :
    ∃ registrations : List Registration,
      registrations.map Registration.atomField = selectedAtoms descriptor moduleName ∧
      Registered registrations atoms := by
  have errors : ((descriptor.fields ++ descriptor.extensions).foldl
      (collateFromFieldDescriptor moduleName) (({} : Atoms), [])).2 = [] :=
    List.length_eq_zero_iff.mp (congrArg Prod.fst accepted)
  have rules :=
    ((foldl_collateFromFieldDescriptor_errors moduleName _ _).mp errors).2
  obtain ⟨registrations, atomFields, registered⟩ :=
    foldl_collateFromFieldDescriptor_registered moduleName _ rules (({} : Atoms), []) []
      registered_nil descriptor.numbers_nodup
  refine ⟨registrations, atomFields, ?_⟩
  rw [← show _ = atoms from congrArg Prod.snd accepted]
  exact registered

end StatsLogApiGen.Collation
