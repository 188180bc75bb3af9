import StatsLogApiGen.Collation.Faithful
import StatsLogApiGen.Container.OrderedMap

/-!
# Collation and order

Collation visits fields in source order, and extensions in the order of the descriptor
pool.  Its result is the same for every order: the fields of a message are sorted first,
and atoms with distinct numbers are entered under distinct keys.
-/

namespace StatsLogApiGen.Collation

open Std
open StatsLogApiGen.Container
open StatsLogApiGen.Proto

/-! ## Reordering -/

/-- The same message with its fields in another order. -/
structure ReorderedMessage (first second : Descriptor) : Prop where
  name : first.name = second.name
  fields : first.fields.Perm second.fields

/-- The same type with the fields of its message in another order. -/
inductive ReorderedType : FieldType Descriptor → FieldType Descriptor → Prop where
  | same (type : FieldType Descriptor) : ReorderedType type type
  | message {first second : Descriptor} (messages : ReorderedMessage first second) :
      ReorderedType (.message first) (.message second)

/-- The same field of `Atom` with the fields of its message in another order. -/
structure ReorderedField (first second : AtomFieldDescriptor) : Prop where
  name : first.name = second.name
  number : first.number = second.number
  type : ReorderedType first.type second.type
  isRepeated : first.isRepeated = second.isRepeated
  options : first.options = second.options

/-- The same fields of `Atom` in another order, each with its message reordered. -/
def ReorderedFields (first second : List AtomFieldDescriptor) : Prop :=
  ∃ permuted, first.Perm permuted ∧ List.Forall₂ ReorderedField permuted second

/-- The same descriptor with fields, extensions and fields of messages in another order. -/
structure Reordered (first second : AtomDescriptor) : Prop where
  fields : ReorderedFields first.fields second.fields
  extensions : ReorderedFields first.extensions second.extensions

/-! ## Messages -/

/-- The sorted fields of a message do not depend on the order of the source. -/
theorem ReorderedMessage.sortedFields_eq {first second : Descriptor}
    (reordered : ReorderedMessage first second) : sortedFields first = sortedFields second := by
  have same : indexBy FieldDescriptor.number first.fields =
      indexBy FieldDescriptor.number second.fields := by
    apply ExtTreeMap.ext_getElem?
    intro number
    apply Option.ext
    intro field
    rw [getElem?_indexBy_eq_some_iff first.numbers_nodup,
      getElem?_indexBy_eq_some_iff second.numbers_nodup, reordered.fields.mem_iff]
  rw [sortedFields, same, sortedFields]

theorem ReorderedMessage.collateAtom_eq {first second : Descriptor}
    (reordered : ReorderedMessage first second) (atomDecl : AtomDecl) :
    collateAtom first atomDecl = collateAtom second atomDecl := by
  have chainPosition (isUintAllowed : Bool) : checkAttributionChainPosition first isUintAllowed =
      checkAttributionChainPosition second isUintAllowed := by
    funext field
    rw [checkAttributionChainPosition, checkAttributionChainPosition, reordered.name]
  rw [collateAtom, collateAtom, reordered.sortedFields_eq, reordered.name, chainPosition]

theorem ReorderedMessage.registerAtom_eq {first second : Descriptor}
    (reordered : ReorderedMessage first second) (atoms : Atoms)
    (nonChainedDecl decl : AtomDecl) (signature : Signature) :
    registerAtom atoms first nonChainedDecl decl signature =
      registerAtom atoms second nonChainedDecl decl signature := by
  have flattened : getNonChainedNode first nonChainedDecl =
      getNonChainedNode second nonChainedDecl := by
    rw [getNonChainedNode, getNonChainedNode, reordered.sortedFields_eq]
  rw [registerAtom, registerAtom, flattened]

/-- An atom is collated the same whatever the order of the fields in its message. -/
theorem ReorderedField.collate_eq {first second : AtomFieldDescriptor}
    (reordered : ReorderedField first second) (moduleName : String)
    (state : Atoms × List CollationError) :
    collateFromFieldDescriptor moduleName state first =
      collateFromFieldDescriptor moduleName state second := by
  rcases first with ⟨name, number, firstType, isRepeated, options⟩
  rcases second with ⟨_, _, secondType, _, _⟩
  rcases reordered with ⟨rfl, rfl, types, rfl, rfl⟩
  cases types with
  | same type => rfl
  | @message firstAtom secondAtom messages =>
      have initial : initialDecl ⟨name, number, .message firstAtom, isRepeated, options⟩ firstAtom =
          initialDecl ⟨name, number, .message secondAtom, isRepeated, options⟩ secondAtom := by
        simp only [initialDecl, messages.name]
      have sameModule : isInModule moduleName
          ⟨name, number, .message firstAtom, isRepeated, options⟩ =
            isInModule moduleName ⟨name, number, .message secondAtom, isRepeated, options⟩ := rfl
      have sameOptions (decl : AtomDecl) : collateAtomOptions
          ⟨name, number, .message firstAtom, isRepeated, options⟩ decl =
            collateAtomOptions ⟨name, number, .message secondAtom, isRepeated, options⟩ decl := rfl
      simp only [collateFromFieldDescriptor, sameModule, initial, sameOptions,
        messages.collateAtom_eq, messages.registerAtom_eq]

/-! ## One atom -/

/-- The errors of an atom do not depend on the atoms before it.  An atom is either not
entered at all, or entered under its own number. -/
theorem collateFromFieldDescriptor_cases (moduleName : String)
    (atomField : AtomFieldDescriptor) :
    ∃ errors : List CollationError,
      (∀ state, collateFromFieldDescriptor moduleName state atomField =
        (state.1, state.2 ++ errors)) ∨
      ∃ atom decl signature, decl.code = atomField.number ∧
        ∀ state, collateFromFieldDescriptor moduleName state atomField =
          (registerAtom state.1 atom (initialDecl atomField atom) decl signature,
            state.2 ++ errors) := by
  by_cases selected : isInModule moduleName atomField
  · cases type : atomField.type with
    | message atom =>
        rcases collateAtomOptions_cases atomField (initialDecl atomField atom) rfl rfl with
          ⟨-, options⟩ | ⟨-, stored, options, -⟩
        · use [.restrictedPulled atomField.name]
          left
          intro state
          simp [collateFromFieldDescriptor, selected, type, options]
        · let collated := collateAtom atom (optionsDecl atomField atom stored)
          have isOptions : collateAtomOptions atomField (initialDecl atomField atom) =
              .ok (optionsDecl atomField atom stored) := options
          by_cases primaryOnly : collated.1.atomDecl.primaryFields ≠ [] ∧
              collated.1.atomDecl.exclusiveField = 0
          · use collated.1.errors ++ [.primaryWithoutExclusive atomField.name]
            left
            intro state
            simp only [collateFromFieldDescriptor, selected, type, isOptions, not_true_eq_false,
              if_false]
            rw [if_pos primaryOnly, List.append_assoc]
          · use collated.1.errors ++ if atomField.options.fieldRestrictionOption.isSome then
              [.fieldRestrictionOnAtom atomField.name] else []
            right
            refine ⟨atom, collated.1.atomDecl, collated.2, ?_, ?_⟩
            · have header := collateAtom_header atom (optionsDecl atomField atom stored)
              exact congrArg AtomDecl.Header.code header
            · intro state
              simp only [collateFromFieldDescriptor, selected, type, isOptions, not_true_eq_false,
                if_false]
              rw [if_neg primaryOnly]
              split <;> simp [List.append_assoc, collated]
    | _ =>
        use [.atomType atomField.name]
        left
        intro state
        simp [collateFromFieldDescriptor, selected, type]
  · use []
    left
    intro state
    simp [collateFromFieldDescriptor, selected]

/-- The errors that an atom adds. -/
def errorsOf (moduleName : String) (atomField : AtomFieldDescriptor) : List CollationError :=
  (collateFromFieldDescriptor moduleName ({}, []) atomField).2

/-- The atoms with one more atom. -/
def enterAtom (moduleName : String) (atomField : AtomFieldDescriptor) (atoms : Atoms) : Atoms :=
  (collateFromFieldDescriptor moduleName (atoms, []) atomField).1

theorem collateFromFieldDescriptor_eq (moduleName : String) (atomField : AtomFieldDescriptor)
    (state : Atoms × List CollationError) :
    collateFromFieldDescriptor moduleName state atomField =
      (enterAtom moduleName atomField state.1, state.2 ++ errorsOf moduleName atomField) := by
  rcases collateFromFieldDescriptor_cases moduleName atomField with
    ⟨errors, kept | ⟨atom, decl, signature, -, entered⟩⟩
  · simp [enterAtom, errorsOf, kept]
  · simp [enterAtom, errorsOf, entered]

/-- An atom is left out, or entered under its own number. -/
theorem enterAtom_cases (moduleName : String) (atomField : AtomFieldDescriptor) :
    enterAtom moduleName atomField = id ∨
      ∃ atom decl signature, decl.code = atomField.number ∧
        enterAtom moduleName atomField = fun atoms =>
          registerAtom atoms atom (initialDecl atomField atom) decl signature := by
  rcases collateFromFieldDescriptor_cases moduleName atomField with
    ⟨errors, kept | ⟨atom, decl, signature, code, entered⟩⟩
  · left
    funext atoms
    simp [enterAtom, kept]
  · right
    refine ⟨atom, decl, signature, code, ?_⟩
    funext atoms
    simp [enterAtom, entered]

/-! ## Two atoms -/

section Commuting

variable {first second : AtomDecl} (different : first.code ≠ second.code)

include different

theorem commute_insertDecl :
    Function.Commute (fun decls : AtomDeclSet => decls.insertDecl first)
      (fun decls => decls.insertDecl second) := by
  apply commute_insertIfNew
  intro sameKey
  exact different (congrArg DeclKey.code sameKey)

theorem commute_populate :
    Function.Commute (populateFieldNumberToAtomDeclSet first)
      (populateFieldNumberToAtomDeclSet second) := by
  intro declSets
  apply ExtTreeMap.ext_getElem?
  intro fieldNumber
  simp only [getElem?_populateFieldNumberToAtomDeclSet]
  by_cases inFirst : fieldNumber ∈ first.fieldNumberToAnnotations
  · by_cases inSecond : fieldNumber ∈ second.fieldNumberToAnnotations
    · simpa [inFirst, inSecond] using
        (commute_insertDecl different).eq (declSets[fieldNumber]?.getD ∅)
    · simp [inFirst, inSecond]
  · simp [inFirst]

/-- Entering declarations under signatures. -/
theorem commute_enterSignature (firstCondition secondCondition : Prop)
    [Decidable firstCondition] [Decidable secondCondition]
    (firstSignature secondSignature : Signature) :
    Function.Commute
      (fun map : SignatureInfoMap => if firstCondition then
        upsert map firstSignature ∅ (populateFieldNumberToAtomDeclSet first) else map)
      (fun map => if secondCondition then
        upsert map secondSignature ∅ (populateFieldNumberToAtomDeclSet second) else map) :=
  commute_ite (commute_upsert firstSignature secondSignature ∅ (commute_populate different)) _ _

end Commuting

theorem getNonChainedNode_code (atom : Descriptor) (atomDecl : AtomDecl) :
    (getNonChainedNode atom atomDecl).1.code = atomDecl.code := by
  rcases getNonChainedNode_decl atom atomDecl with ⟨fields, isDecl⟩
  rw [isDecl]

/-- Atoms with different numbers can be registered in either order. -/
theorem commute_registerAtom (firstAtom secondAtom : Descriptor)
    {firstDecl secondDecl firstNonChained secondNonChained : AtomDecl}
    (different : firstDecl.code ≠ secondDecl.code)
    (nonChained : firstNonChained.code ≠ secondNonChained.code)
    (firstSignature secondSignature : Signature) :
    Function.Commute
      (fun atoms => registerAtom atoms firstAtom firstNonChained firstDecl firstSignature)
      (fun atoms => registerAtom atoms secondAtom secondNonChained secondDecl
        secondSignature) := by
  have flatCodes : (getNonChainedNode firstAtom firstNonChained).1.code ≠
      (getNonChainedNode secondAtom secondNonChained).1.code := by
    rw [getNonChainedNode_code, getNonChainedNode_code]
    exact nonChained
  intro atoms
  simp only [registerAtom_components, Atoms.mk.injEq]
  have signatures (atomType : AtomType) := commute_enterSignature different
    (firstDecl.atomType = atomType) (secondDecl.atomType = atomType) firstSignature
    secondSignature
  have flattened := commute_enterSignature flatCodes
    (getNonChainedNode firstAtom firstNonChained).2.2
    (getNonChainedNode secondAtom secondNonChained).2.2
    (getNonChainedNode firstAtom firstNonChained).2.1
    (getNonChainedNode secondAtom secondNonChained).2.1
  have flattenedDecls := commute_ite (commute_insertDecl flatCodes)
    (getNonChainedNode firstAtom firstNonChained).2.2
    (getNonChainedNode secondAtom secondNonChained).2.2
  refine ⟨?_, ?_, ?_, ?_, ?_⟩
  · exact signatures .pushed atoms.signatureInfoMap
  · exact signatures .pulled atoms.pulledAtomsSignatureInfoMap
  · exact commute_insertDecl different atoms.decls
  · exact flattenedDecls atoms.nonChainedDecls
  · exact flattened atoms.nonChainedSignatureInfoMap

theorem commute_enterAtom (moduleName : String) {first second : AtomFieldDescriptor}
    (different : first.number ≠ second.number) :
    Function.Commute (enterAtom moduleName first) (enterAtom moduleName second) := by
  rcases enterAtom_cases moduleName first with
    isId | ⟨firstAtom, firstDecl, firstSignature, firstCode, entersFirst⟩
  · rw [isId]
    exact Function.Commute.id_left
  · rcases enterAtom_cases moduleName second with
      isId | ⟨secondAtom, secondDecl, secondSignature, secondCode, entersSecond⟩
    · rw [isId]
      exact Function.Commute.id_right
    · rw [entersFirst, entersSecond]
      apply commute_registerAtom
      · rwa [firstCode, secondCode]
      · exact different

/-! ## Runs -/

/-- A run adds the errors of its atoms and enters them one by one. -/
theorem foldl_collateFromFieldDescriptor_eq (moduleName : String)
    (atomFields : List AtomFieldDescriptor) (state : Atoms × List CollationError) :
    atomFields.foldl (collateFromFieldDescriptor moduleName) state =
      (atomFields.foldl (fun atoms atomField => enterAtom moduleName atomField atoms) state.1,
        state.2 ++ atomFields.flatMap (errorsOf moduleName)) := by
  induction atomFields generalizing state with
  | nil => simp
  | cons atomField rest ih =>
      rw [List.foldl_cons, collateFromFieldDescriptor_eq, ih]
      simp [List.append_assoc]

theorem collateAtoms_eq (descriptor : AtomDescriptor) (moduleName : String) (atoms : Atoms) :
    collateAtoms descriptor moduleName atoms =
      (((descriptor.fields ++ descriptor.extensions).flatMap (errorsOf moduleName)).length,
        (descriptor.fields ++ descriptor.extensions).foldl
          (fun atoms atomField => enterAtom moduleName atomField atoms) atoms) := by
  rw [collateAtoms, foldl_collateFromFieldDescriptor_eq]
  simp

/-- A permutation of the atoms changes neither the number of errors nor the atoms. -/
theorem foldl_enterAtom_perm (moduleName : String) {first second : List AtomFieldDescriptor}
    (perm : first.Perm second) (distinct : (first.map FieldDescriptor.number).Nodup)
    (atoms : Atoms) :
    first.foldl (fun atoms atomField => enterAtom moduleName atomField atoms) atoms =
      second.foldl (fun atoms atomField => enterAtom moduleName atomField atoms) atoms := by
  apply foldl_perm_of_commute perm
  intro left leftMem right rightMem
  by_cases same : left = right
  · rw [same]
  · apply commute_enterAtom
    intro sameNumber
    exact same (List.inj_on_of_nodup_map distinct leftMem rightMem sameNumber)

/-- Reordering the messages changes neither what is entered nor the errors. -/
theorem map_enterAtom_reordered (moduleName : String) {first second : List AtomFieldDescriptor}
    (reordered : List.Forall₂ ReorderedField first second) :
    first.map (enterAtom moduleName) = second.map (enterAtom moduleName) ∧
      first.map (errorsOf moduleName) = second.map (errorsOf moduleName) := by
  induction reordered with
  | nil => exact ⟨rfl, rfl⟩
  | cons field rest ih =>
      have sameErrors := congrArg Prod.snd (field.collate_eq moduleName ({}, []))
      have sameAtoms : enterAtom moduleName _ = enterAtom moduleName _ :=
        funext fun atoms => congrArg Prod.fst (field.collate_eq moduleName (atoms, []))
      rw [List.map_cons, List.map_cons, List.map_cons, List.map_cons, ih.1, ih.2, sameAtoms]
      exact ⟨rfl, congrArg (· :: _) sameErrors⟩

/-- Collation has the same errors and the same atoms for every order. -/
theorem collateAtoms_reordered (first second : AtomDescriptor) (reordered : Reordered first second)
    (moduleName : String) (atoms : Atoms) :
    collateAtoms first moduleName atoms = collateAtoms second moduleName atoms := by
  rcases reordered with ⟨⟨fields, fieldsPerm, fieldsMatch⟩, extensions, extensionsPerm,
    extensionsMatch⟩
  have perm : (first.fields ++ first.extensions).Perm (fields ++ extensions) :=
    fieldsPerm.append extensionsPerm
  rcases map_enterAtom_reordered moduleName
    (List.rel_append fieldsMatch extensionsMatch) with ⟨sameAtoms, sameErrors⟩
  have entered (atomFields : List AtomFieldDescriptor) :
      atomFields.foldl (fun atoms atomField => enterAtom moduleName atomField atoms) atoms =
        (atomFields.map (enterAtom moduleName)).foldl (fun atoms enter => enter atoms) atoms := by
    rw [List.foldl_map]
  have errors : ((first.fields ++ first.extensions).flatMap (errorsOf moduleName)).length =
      ((second.fields ++ second.extensions).flatMap (errorsOf moduleName)).length := by
    rw [(perm.flatMap_right (errorsOf moduleName)).length_eq, List.flatMap_def, List.flatMap_def,
      sameErrors]
  rw [collateAtoms_eq, collateAtoms_eq, errors,
    foldl_enterAtom_perm moduleName perm first.numbers_nodup, entered, entered, sameAtoms]

/-- Two atoms with an extension, and one of a type that is rejected. -/
def extendedDescriptor : AtomDescriptor where
  fields := wakelockDescriptor.fields
  extensions :=
    [{ name := "cpu_extension", number := 100001, type := .message cpuActiveTime },
     { name := "number_extension", number := 100002, type := .int32 }]
  numbers_nodup := by decide

/-- The same atoms in another order, with the fields of a message reversed. -/
def shuffledDescriptor : AtomDescriptor where
  fields :=
    [{ name := "cpu_active_time", number := 10016, type := .message cpuActiveTime },
     { name := "wakelock_state_changed", number := 10,
       type := .message
        { wakelockStateChanged with
          fields := wakelockStateChanged.fields.reverse
          numbers_nodup := by decide },
       options := { truncateTimestamp := some true } }]
  extensions := extendedDescriptor.extensions.reverse
  numbers_nodup := by decide

theorem collateAtoms_shuffledDescriptor :
    collateAtoms extendedDescriptor defaultModuleName {} =
      collateAtoms shuffledDescriptor defaultModuleName {} := by
  apply collateAtoms_reordered
  constructor
  · refine ⟨_, List.Perm.swap _ _ _, ?_⟩
    apply List.Forall₂.cons ⟨rfl, rfl, .same _, rfl, rfl⟩
    have messages := (List.reverse_perm wakelockStateChanged.fields).symm
    exact List.Forall₂.cons ⟨rfl, rfl, .message ⟨rfl, messages⟩, rfl, rfl⟩ List.Forall₂.nil
  · refine ⟨_, (List.reverse_perm _).symm, ?_⟩
    apply List.Forall₂.cons ⟨rfl, rfl, .same _, rfl, rfl⟩
    exact List.Forall₂.cons ⟨rfl, rfl, .same _, rfl, rfl⟩ List.Forall₂.nil

end StatsLogApiGen.Collation
