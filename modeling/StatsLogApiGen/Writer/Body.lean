import StatsLogApiGen.Writer.Annotations
import StatsLogApiGen.Container.Lists

/-!
# Bodies that log one atom

A generated body serves every atom that shares its signature, and chooses the
annotations by the code it is called with.  This file says which event one atom
should get, gives the loop over a signature that the writers share, and proves
that the code it prints issues the event of the atom with that code.
-/

namespace StatsLogApiGen.Writer

open Std
open StatsLogApiGen.Container
open StatsLogApiGen.Proto
open StatsLogApiGen.Collation
open StatsLogApiGen.Program

universe u v w

/-! ## The event of an atom -/

/-- The writes of the arguments from `argIndex` on, each followed by the
annotations of its field. -/
def argumentOps (decl : AtomDecl) : Int → List Argument → List EventOp
  | _, [] => []
  | argIndex, argument :: rest =>
      .write argument ::
        (fieldOps decl argIndex argument.equals ++ argumentOps decl (argIndex + 1) rest)

/-- The event of an atom: its id, the annotations of the atom, and the arguments
with the annotations of their fields. -/
def atomEvent (decl : AtomDecl) (arguments : List Argument) : List EventOp :=
  .setAtomId decl.code ::
    (fieldOps decl atomIdFieldNumber (fun _ => false) ++ argumentOps decl 1 arguments)

/-- The annotations of a declaration with the field numbers they are for. -/
def annotationEntries (decl : AtomDecl) : List (Int × Annotation) :=
  decl.fieldNumberToAnnotations.toList.flatMap fun stored =>
    (elements stored.2).map fun ann => (stored.1, ann)

theorem mem_annotationEntries {decl : AtomDecl} {fieldNumber : Int} {ann : Annotation}
    (member : ann ∈ annotationsOf decl fieldNumber) :
    (fieldNumber, ann) ∈ annotationEntries decl := by
  rw [annotationsOf] at member
  cases stored : decl.fieldNumberToAnnotations[fieldNumber]? with
  | none =>
      rw [stored] at member
      simp [elements] at member
  | some annotations =>
      rw [stored, Option.getD_some] at member
      rw [annotationEntries, List.mem_flatMap]
      refine ⟨(fieldNumber, annotations), ?_, List.mem_map_of_mem member⟩
      exact ExtTreeMap.mem_toList_iff_getElem?_eq_some.mpr stored

/-! ## Assumptions on atoms -/

/-- The constants for atom codes that a generated header or class defines. -/
def atomConstants (atoms : Atoms) : List (String × Int) :=
  (elements atoms.decls).map fun decl => (makeConstantName decl.name, decl.code)

/-- The constants for atom codes are distinct. -/
def DistinctConstants (atoms : Atoms) : Prop :=
  ((atomConstants atoms).map Prod.fst).Nodup

/-- Every restriction category is one of the four named ones. -/
def NamedCategories (atoms : Atoms) : Prop :=
  ∀ decl ∈ elements atoms.decls, ∀ entry ∈ annotationEntries decl, HasNamedCategory entry.2

/-- A state that triggers a reset is declared on an integer or enum field. -/
def IntegerResets (atoms : Atoms) : Prop :=
  ∀ decl ∈ elements atoms.decls, ∀ entry ∈ annotationEntries decl,
    entry.2.annotationId = .triggerStateReset →
      1 ≤ entry.1 ∧ ∃ field ∈ decl.fields[(entry.1 - 1).toNat]?, IsInteger field.javaType

/-- The resets of a declaration from a position on compare what can be compared. -/
def ComparesResets (first : Nat) (comparable : JavaType → Int → Bool) (decl : AtomDecl) : Prop :=
  ∀ (index : Nat) type, first ≤ index → decl.signature[index]? = some type →
    HasReset (annotationsOf decl (1 + index)) →
      comparable type (declaredState .triggerStateReset (annotationsOf decl (1 + index))) = true

/-- What code for a declaration can name and compare: its restriction categories are allowed,
and so are the comparisons for the resets from a position on. -/
structure Issuable (first : Nat) (comparable : JavaType → Int → Bool) (allowed : Int → Prop)
    (decl : AtomDecl) : Prop where
  categories : ∀ fieldNumber, ∀ ann ∈ annotationsOf decl fieldNumber,
    AllowsCategory allowed ann
  compared : ComparesResets first comparable decl

theorem foldl_nextState_of_absent {annotationId : AnnotationId}
    {annotations : List Annotation}
    (absent : ∀ ann ∈ annotations, ann.annotationId ≠ annotationId) (state : Int) :
    annotations.foldl (nextState annotationId) state = state := by
  induction annotations with
  | nil => rfl
  | cons ann rest ih =>
      have unchanged : nextState annotationId state ann = state := by
        unfold nextState
        split
        · exact if_neg (absent ann List.mem_cons_self)
        · rfl
      rw [List.foldl_cons, unchanged]
      exact ih fun other member => absent other (List.mem_cons_of_mem ann member)

/-- A declared state comes from an annotation. -/
theorem exists_mem_of_declaredState {annotationId : AnnotationId}
    {annotations : List Annotation} (declared : declaredState annotationId annotations ≠ -1) :
    ∃ ann ∈ annotations, ann.annotationId = annotationId := by
  by_contra none
  apply declared
  apply foldl_nextState_of_absent
  intro ann member equal
  exact none ⟨ann, member, equal⟩

theorem foldl_nextState_of_present {annotationId : AnnotationId}
    {annotations : List Annotation} {value : Int}
    (values : ∀ ann ∈ annotations, ann.annotationId = annotationId → ann.value = .int value)
    (present : ∃ ann ∈ annotations, ann.annotationId = annotationId) (state : Int) :
    annotations.foldl (nextState annotationId) state = value := by
  induction annotations generalizing state with
  | nil => simp at present
  | cons ann rest ih =>
      have restValues := fun other member => values other (List.mem_cons_of_mem ann member)
      rw [List.foldl_cons]
      by_cases later : ∃ other ∈ rest, other.annotationId = annotationId
      · exact ih restValues later _
      · have absent : ∀ other ∈ rest, other.annotationId ≠ annotationId :=
          fun other member equal => later ⟨other, member, equal⟩
        have here : ann.annotationId = annotationId := by
          rcases present with ⟨other, member, equal⟩
          rcases List.mem_cons.mp member with rfl | restMem
          · exact equal
          · exact absurd equal (absent other restMem)
        rw [foldl_nextState_of_absent absent, nextState, values ann List.mem_cons_self here]
        exact if_pos here

section Stored

variable {code : Int} {stored : FieldNumberToAnnotations} {requests : Requests}
  {fieldNumber : Int} {annotationId : AnnotationId} {value : Int}

/-- A requested state is stored. -/
theorem exists_mem_of_stores (stores : Stores code stored requests)
    (requested : requests fieldNumber annotationId = some (.int value)) :
    ∃ ann ∈ elements (stored[fieldNumber]?.getD ∅), ann.annotationId = annotationId :=
  ⟨⟨annotationId, code, .int value⟩, stores.mem_elements_iff.mpr ⟨rfl, requested⟩, rfl⟩

/-- A requested state is the declared one. -/
theorem declaredState_of_stores (stores : Stores code stored requests)
    (requested : requests fieldNumber annotationId = some (.int value)) :
    declaredState annotationId (elements (stored[fieldNumber]?.getD ∅)) = value := by
  apply foldl_nextState_of_present _ (exists_mem_of_stores stores requested)
  intro ann member isState
  have isValue := (stores.mem_elements_iff.mp member).2
  rw [isState, requested] at isValue
  exact (Option.some.inj isValue).symm

end Stored

theorem isInteger_lowered_iff {type : JavaType} : IsInteger (lowered type) ↔ IsInteger type := by
  cases type <;> rfl

section Assumed

variable {atoms : Atoms} {decl : AtomDecl}

theorem NamedCategories.annotationsOf (named : NamedCategories atoms)
    (member : decl ∈ elements atoms.decls) (fieldNumber : Int) :
    ∀ ann ∈ annotationsOf decl fieldNumber, HasNamedCategory ann :=
  fun _ annMem => named decl member _ (mem_annotationEntries annMem)

theorem IntegerResets.exists_field (resets : IntegerResets atoms)
    (member : decl ∈ elements atoms.decls) {fieldNumber : Int}
    (hasReset : HasReset (Writer.annotationsOf decl fieldNumber)) :
    1 ≤ fieldNumber ∧
      ∃ field ∈ decl.fields[(fieldNumber - 1).toNat]?, IsInteger field.javaType := by
  obtain ⟨ann, annMem, isReset⟩ := exists_mem_of_declaredState hasReset.2
  exact resets decl member _ (mem_annotationEntries annMem) isReset

/-- The field that is reset has a type of integers. -/
theorem IntegerResets.isInteger (resets : IntegerResets atoms)
    (member : decl ∈ elements atoms.decls) {index : Nat} {type : JavaType}
    (found : decl.signature[index]? = some type)
    (hasReset : HasReset (Writer.annotationsOf decl (1 + index))) : IsInteger type := by
  obtain ⟨-, field, fieldFound, isInteger⟩ := resets.exists_field member hasReset
  have position : (1 + (index : Int) - 1).toNat = index := by omega
  rw [position] at fieldFound
  rw [AtomDecl.signature, List.getElem?_map, Option.mem_def.mp fieldFound, Option.map_some,
    Option.some.injEq] at found
  exact found ▸ isInteger_lowered_iff.mpr isInteger

/-- Integers are compared in every language. -/
theorem IntegerResets.compared (resets : IntegerResets atoms)
    (member : decl ∈ elements atoms.decls) {comparable : JavaType → Int → Bool}
    (integers : ∀ {type}, IsInteger type → ∀ state, comparable type state = true) (first : Nat) :
    ComparesResets first comparable decl :=
  fun _ _ _ found hasReset => integers (resets.isInteger member found hasReset) _

end Assumed

/-! ## Annotations of registered atoms -/

theorem requested_of_mem {registration : Registration} {fieldNumber : Int} {ann : Annotation}
    (member : ann ∈ annotationsOf registration.decl fieldNumber) :
    declRequests registration.atomField registration.atom fieldNumber ann.annotationId =
      some ann.value :=
  (registration.describes.stores.mem_elements_iff.mp member).2

/-- An atom itself is not reset. -/
theorem not_hasReset_atomId (registration : Registration) :
    ¬HasReset (annotationsOf registration.decl atomIdFieldNumber) := by
  intro hasReset
  obtain ⟨ann, member, isReset⟩ := exists_mem_of_declaredState hasReset.2
  exact (declRequests_state (Or.inl isReset) (requested_of_mem member)).1 rfl

/-! ## Dispatch on the code -/

/-- What a method relies on to choose the annotations of a declaration: the sets
of its fields list the declaration wherever it is annotated, and no other listed
declaration has its code. -/
structure Dispatches (atoms : Atoms) (declSets : FieldNumberToAtomDeclSet)
    (decl : AtomDecl) : Prop where
  constant : (atomConstants atoms).lookup (makeConstantName decl.name) = some decl.code
  listed : ∀ fieldNumber : Int, annotationsOf decl fieldNumber ≠ [] →
    ∃ atomDeclSet, declSets[fieldNumber]? = some atomDeclSet ∧ decl ∈ elements atomDeclSet
  distinct : ∀ (fieldNumber : Int) (atomDeclSet : AtomDeclSet),
    declSets[fieldNumber]? = some atomDeclSet → (elements atomDeclSet).Nodup
  others : ∀ (fieldNumber : Int) (atomDeclSet : AtomDeclSet),
    declSets[fieldNumber]? = some atomDeclSet → ∀ other ∈ elements atomDeclSet, other ≠ decl →
      other.code ≠ decl.code ∧
      (atomConstants atoms).lookup (makeConstantName other.name) = some other.code

section Indexed

variable {atoms : Atoms} {atomType : AtomType} {map : SignatureInfoMap}
  {declSets : FieldNumberToAtomDeclSet} {decl : AtomDecl} {signature : Signature}

/-- The constant of a declaration has its code. -/
theorem lookup_constant (constants : DistinctConstants atoms)
    (member : decl ∈ elements atoms.decls) :
    (atomConstants atoms).lookup (makeConstantName decl.name) = some decl.code :=
  lookup_eq_some_of_mem constants (List.mem_map_of_mem member)

/-- The sets of a signature list a declaration once. -/
theorem nodup_of_indexesDecls (indexes : IndexesDecls atoms.decls atomType map)
    (found : map[signature]? = some declSets) {fieldNumber : Int} {atomDeclSet : AtomDeclSet}
    (setFound : declSets[fieldNumber]? = some atomDeclSet) : (elements atomDeclSet).Nodup := by
  apply nodup_elements_of_keyed
  intro key other otherFound
  exact ((indexes.declarations _ _ _ _ found setFound _ _).mp otherFound).1

/-- The signature map of the atoms' kind makes a method dispatch on them. -/
theorem dispatches_of_indexesDecls (indexes : IndexesDecls atoms.decls atomType map)
    (codes : ((elements atoms.decls).map AtomDecl.code).Nodup)
    (constants : DistinctConstants atoms) (member : decl ∈ elements atoms.decls)
    (kind : decl.atomType = atomType) (found : map[decl.signature]? = some declSets) :
    Dispatches atoms declSets decl where
  constant := lookup_constant constants member
  listed fieldNumber annotated := by
    have stored : fieldNumber ∈ decl.fieldNumberToAnnotations := by
      by_contra missing
      apply annotated
      rw [annotationsOf, ExtTreeMap.getElem?_eq_none missing]
      rfl
    have isAnnotated : IsAnnotated atoms.decls atomType decl.signature fieldNumber decl :=
      ⟨member, kind, rfl, stored⟩
    exact (indexes.mem_elements_iff found).mpr isAnnotated
  distinct fieldNumber atomDeclSet setFound := nodup_of_indexesDecls indexes found setFound
  others fieldNumber atomDeclSet setFound other otherMem different := by
    have isAnnotated := (indexes.mem_elements_iff found).mp ⟨atomDeclSet, setFound, otherMem⟩
    constructor
    · intro equal
      exact different (List.inj_on_of_nodup_map codes isAnnotated.member member equal)
    · exact lookup_constant constants isAnnotated.member

/-- The declaration without its annotations. -/
def unannotated (decl : AtomDecl) : AtomDecl :=
  { decl with fieldNumberToAnnotations := ∅ }

@[simp]
theorem annotationsOf_unannotated (decl : AtomDecl) (fieldNumber : Int) :
    annotationsOf (unannotated decl) fieldNumber = [] := by
  simp [annotationsOf, unannotated, elements]

/-- To the methods of the other kind an atom has no annotations. -/
theorem dispatches_unannotated (indexes : IndexesDecls atoms.decls atomType map)
    (codes : ((elements atoms.decls).map AtomDecl.code).Nodup)
    (constants : DistinctConstants atoms) (member : decl ∈ elements atoms.decls)
    (foreign : decl.atomType ≠ atomType) (found : map[signature]? = some declSets) :
    Dispatches atoms declSets (unannotated decl) where
  constant := (lookup_constant constants member :)
  listed fieldNumber annotated := absurd (annotationsOf_unannotated decl fieldNumber) annotated
  distinct fieldNumber atomDeclSet setFound := nodup_of_indexesDecls indexes found setFound
  others fieldNumber atomDeclSet setFound other otherMem _ := by
    have isAnnotated := (indexes.mem_elements_iff found).mp ⟨atomDeclSet, setFound, otherMem⟩
    constructor
    · intro equal
      have same := List.inj_on_of_nodup_map codes isAnnotated.member member equal
      rw [← same] at foreign
      exact foreign isAnnotated.atomType
    · exact lookup_constant constants isAnnotated.member

end Indexed

/-- An atom that methods for its signature log, with what they rely on. -/
structure Logged (atoms : Atoms) (declSets : FieldNumberToAtomDeclSet) (decl : AtomDecl) :
    Prop where
  member : decl ∈ elements atoms.decls
  accepted : AcceptedSignature decl.signature
  dispatches : Dispatches atoms declSets decl
  noReset : ¬HasReset (annotationsOf decl atomIdFieldNumber)

/-- The signature map for a kind of atoms. -/
def signatureMap (atoms : Atoms) : AtomType → SignatureInfoMap
  | .pushed => atoms.signatureInfoMap
  | .pulled => atoms.pulledAtomsSignatureInfoMap

/-- The declarations of an accepted run have accepted signatures. -/
theorem acceptedSignature_of_mem {registrations : List Registration} {atoms : Atoms}
    (registered : Registered registrations atoms) {decl : AtomDecl}
    (member : decl ∈ elements atoms.decls) : AcceptedSignature decl.signature := by
  obtain ⟨registration, -, rfl⟩ := List.mem_map.mp (registered.decls.mem_elements.mp member)
  rw [← registration.signatureOf_eq]
  exact registration.rule.message.acceptedSignature

/-- Every atom of an accepted run is logged through the entry of its signature. -/
theorem exists_logged {descriptor : AtomDescriptor} {moduleName : String} {atoms : Atoms}
    (accepted : collateAtoms descriptor moduleName {} = (0, atoms))
    (constants : DistinctConstants atoms) {decl : AtomDecl}
    (member : decl ∈ elements atoms.decls) :
    ∃ declSets, (signatureMap atoms decl.atomType)[decl.signature]? = some declSets ∧
      Logged atoms declSets decl := by
  obtain ⟨registrations, selected, registered⟩ := collateAtoms_registered accepted
  have faithful := registered.faithful selected
  have indexes : IndexesDecls atoms.decls decl.atomType (signatureMap atoms decl.atomType) := by
    cases decl.atomType with
    | pushed => exact faithful.pushed
    | pulled => exact faithful.pulled
  have present := (indexes.signatures decl.signature).mpr ⟨decl, member, rfl, rfl⟩
  obtain ⟨declSets, found⟩ := mem_iff_exists_getElem?.mp present
  refine ⟨declSets, found, member, acceptedSignature_of_mem registered member, ?_, ?_⟩
  · exact dispatches_of_indexesDecls indexes faithful.codes_nodup constants member rfl found
  · obtain ⟨registration, -, rfl⟩ := List.mem_map.mp (registered.decls.mem_elements.mp member)
    exact not_hasReset_atomId registration

section Dispatch

variable {α : Type u} {recorder : Recorder Condition α EventOp Stuck} {frame : Frame}
  {templates : AnnotationTemplates α} {constants : AnnotationIdConstants} {atoms : Atoms}
  {declSets : FieldNumberToAtomDeclSet} {decl : AtomDecl} {allowed : Int → Prop}

/-- A frame in which a method runs with the code of a declaration. -/
structure RunsAs (frame : Frame) (atoms : Atoms) (decl : AtomDecl) : Prop where
  code : frame.bindings.lookup .code = some (.code decl.code)
  atomConstants : frame.atomConstants = atomConstants atoms

/-- Of all declarations with annotations on a field, only the one with the code
of the call contributes. -/
theorem emits_declAnnotations (reads : recorder.holds = frame.holds)
    (issues : IssuesAnnotations recorder templates constants)
    (categories : IssuesCategories recorder templates constants allowed)
    (dispatches : Dispatches atoms declSets decl) (runs : RunsAs frame atoms decl)
    {fieldNumber : Int} {equals : Int → Bool}
    (allows : ∀ ann ∈ annotationsOf decl fieldNumber, AllowsCategory allowed ann)
    (compared : HasReset (annotationsOf decl fieldNumber) →
      frame.holds (.argIs fieldNumber
        (declaredState .triggerStateReset (annotationsOf decl fieldNumber))) =
        .ok (equals (declaredState .triggerStateReset (annotationsOf decl fieldNumber)))) :
    Emits recorder (.block (writeDeclAnnotations templates constants fieldNumber declSets))
      (fieldOps decl fieldNumber equals) := by
  have silent (unannotated : annotationsOf decl fieldNumber = []) :
      fieldOps decl fieldNumber equals = [] := by
    rw [fieldOps, unannotated]
    rfl
  rw [writeDeclAnnotations]
  cases setFound : declSets[fieldNumber]? with
  | none =>
      rw [silent]
      · exact emits_skip
      · by_contra annotated
        obtain ⟨atomDeclSet, present, -⟩ := dispatches.listed fieldNumber annotated
        rw [setFound] at present
        contradiction
  | some atomDeclSet =>
      let contribution (other : AtomDecl) : List EventOp :=
        if other.code = decl.code then fieldOps decl fieldNumber equals else []
      have others := dispatches.others fieldNumber atomDeclSet setFound
      have total : (elements atomDeclSet).flatMap contribution =
          fieldOps decl fieldNumber equals := by
        have elsewhere : ∀ other ∈ elements atomDeclSet, other ≠ decl → contribution other = [] :=
          fun other otherMem different => if_neg (others other otherMem different).1
        by_cases member : decl ∈ elements atomDeclSet
        · have unique := flatMap_eq_of_unique
            (dispatches.distinct fieldNumber atomDeclSet setFound) member elsewhere
          rw [unique]
          exact if_pos rfl
        · rw [silent, List.flatMap_eq_nil_iff]
          · intro other otherMem
            apply elsewhere other otherMem
            rintro rfl
            exact member otherMem
          · by_contra annotated
            obtain ⟨present, presentFound, listed⟩ := dispatches.listed fieldNumber annotated
            rw [setFound, Option.some.injEq] at presentFound
            exact member (presentFound ▸ listed)
      rw [← total]
      apply emits_block_map
      intro other otherMem
      by_cases same : other = decl
      · subst other
        change Emits _ _ (if _ then _ else _)
        rw [if_pos rfl]
        apply Emits.when_true
        · rw [reads, Frame.holds_codeIs (runs.atomConstants ▸ dispatches.constant) runs.code,
            decide_eq_true rfl]
        · apply emits_annotationSet issues categories allows
          intro hasReset
          rw [reads]
          exact compared hasReset
      · obtain ⟨different, constant⟩ := others other otherMem same
        change Emits _ _ (if _ then _ else _)
        rw [if_neg different]
        apply emits_when_false
        rw [reads, Frame.holds_codeIs (runs.atomConstants ▸ constant) runs.code,
          decide_eq_false different]

end Dispatch

/-! ## The loop over a signature -/

/-- The loop that writes the arguments from `argIndex` on, each followed by its
annotations. -/
def writeArguments {ι : Type u} {κ : Type v} {α : Type w}
    (write : Int → ι → Except WriterError (List (Code κ α)))
    (annotations : Int → List (Code κ α)) :
    Int → List ι → Except WriterError (List (Code κ α))
  | _, [] => .ok []
  | argIndex, arg :: rest =>
      (write argIndex arg).bind fun written =>
        (writeArguments write annotations (argIndex + 1) rest).map fun later =>
          written ++ annotations argIndex ++ later

section Loop

variable {ι : Type u} {κ : Type v} {α : Type w} {ε : Type*}
  {recorder : Recorder κ α EventOp ε}
  {write : Int → ι → Except WriterError (List (Code κ α))}
  {annotations : Int → List (Code κ α)}

/-- The loop succeeds when every argument can be written. -/
theorem writeArguments_isOk {supported : ι → Bool} {args : List ι}
    (writes : ∀ argIndex, ∀ arg ∈ args, (write argIndex arg).isOk = supported arg)
    (argIndex : Int) :
    (writeArguments write annotations argIndex args).isOk = args.all supported := by
  induction args generalizing argIndex with
  | nil => rfl
  | cons arg rest ih =>
      have restOk := ih (fun argIndex other member =>
        writes argIndex other (List.mem_cons_of_mem arg member)) (argIndex + 1)
      rw [writeArguments, List.all_cons, ← writes argIndex arg List.mem_cons_self, ← restOk]
      cases write argIndex arg with
      | error reason => rfl
      | ok written =>
          cases writeArguments write annotations (argIndex + 1) rest with
          | error reason => rfl
          | ok later => rfl

/-- The loop fails for the reason of one of its arguments. -/
theorem exists_error_of_writeArguments {argIndex : Int} {args : List ι} {reason : WriterError}
    (failed : writeArguments write annotations argIndex args = .error reason) :
    ∃ position, ∃ arg ∈ args, write position arg = .error reason := by
  induction args generalizing argIndex with
  | nil => cases failed
  | cons arg rest ih =>
      rcases bind_eq_error_iff.mp failed with here | ⟨written, -, later⟩
      · exact ⟨argIndex, arg, List.mem_cons_self, here⟩
      · obtain ⟨position, other, member, fails⟩ := ih (map_eq_error_iff.mp later)
        exact ⟨position, other, List.mem_cons_of_mem arg member, fails⟩

/-- The code of the loop starts with the write of the first argument and its
annotations. -/
theorem writeArguments_cons_eq_ok {argIndex : Int} {arg : ι} {rest : List ι}
    {code : List (Code κ α)}
    (printed : writeArguments write annotations argIndex (arg :: rest) = .ok code) :
    ∃ written later, write argIndex arg = .ok written ∧
      writeArguments write annotations (argIndex + 1) rest = .ok later ∧
      code = written ++ annotations argIndex ++ later := by
  obtain ⟨written, isWritten, restPrinted⟩ := bind_eq_ok_iff.mp printed
  obtain ⟨later, laterPrinted, rfl⟩ := map_eq_ok_iff.mp restPrinted
  exact ⟨written, later, isWritten, laterPrinted, rfl⟩

/-- What the switch and the annotations print is all that the loop prints. -/
theorem allActions_writeArguments {property : α → Prop} {argIndex : Int} {args : List ι}
    {code : List (Code κ α)}
    (writes : ∀ position, ∀ arg ∈ args, ∀ written, write position arg = .ok written →
      AllActions property written)
    (annotated : ∀ position, AllActions property (annotations position))
    (printed : writeArguments write annotations argIndex args = .ok code) :
    AllActions property code := by
  induction args generalizing argIndex code with
  | nil =>
      cases printed
      exact allActions_nil
  | cons arg rest ih =>
      rcases writeArguments_cons_eq_ok printed with ⟨written, later, isWritten, laterPrinted, rfl⟩
      rw [allActions_append, allActions_append]
      refine ⟨⟨writes _ arg List.mem_cons_self _ isWritten, annotated _⟩, ?_⟩
      exact ih (fun position other member =>
        writes position other (List.mem_cons_of_mem arg member)) laterPrinted

/-- What the loop needs of every argument: its annotations are issued after it,
and it is written if it is acceptable.  Otherwise the write stops for a reason that
is a refusal. -/
structure WritesArguments (recorder : Recorder κ α EventOp ε)
    (write : Int → ι → Except WriterError (List (Code κ α)))
    (annotations : Int → List (Code κ α)) (acceptable : Argument → Prop) (refusal : ε → Prop)
    (decl : AtomDecl) (argIndex : Int) (args : List ι) (arguments : List Argument) : Prop where
  sameLength : args.length = arguments.length
  writes : ∀ (index : Nat) arg argument written, args[index]? = some arg →
    arguments[index]? = some argument → write (argIndex + index) arg = .ok written →
    acceptable argument → Emits recorder (.block written) [.write argument]
  stops : ∀ (index : Nat) arg argument written, args[index]? = some arg →
    arguments[index]? = some argument → write (argIndex + index) arg = .ok written →
    ¬acceptable argument → ∃ reason, refusal reason ∧ Stops recorder (.block written) reason
  annotates : ∀ (index : Nat) argument, arguments[index]? = some argument →
    Emits recorder (.block (annotations (argIndex + index)))
      (fieldOps decl (argIndex + index) argument.equals)

variable {acceptable : Argument → Prop} {refusal : ε → Prop} {decl : AtomDecl}
  {argIndex : Int}

theorem WritesArguments.tail {arg : ι} {rest : List ι} {argument : Argument}
    {later : List Argument}
    (all : WritesArguments recorder write annotations acceptable refusal decl argIndex
      (arg :: rest) (argument :: later)) :
    WritesArguments recorder write annotations acceptable refusal decl (argIndex + 1) rest
      later := by
  have shift (index : Nat) :
      argIndex + 1 + (index : Int) = argIndex + ((index + 1 : Nat) : Int) := by omega
  constructor
  · simpa using all.sameLength
  · intro index other otherArgument written found argumentFound
    rw [shift index]
    exact all.writes (index + 1) other otherArgument written found argumentFound
  · intro index other otherArgument written found argumentFound
    rw [shift index]
    exact all.stops (index + 1) other otherArgument written found argumentFound
  · intro index otherArgument found
    rw [shift index]
    exact all.annotates (index + 1) otherArgument found

/-- The code of the loop issues the writes with the annotations between them. -/
theorem emits_writeArguments {args : List ι} {arguments : List Argument}
    {code : List (Code κ α)}
    (all : WritesArguments recorder write annotations acceptable refusal decl argIndex args
      arguments)
    (accepted : ∀ argument ∈ arguments, acceptable argument)
    (printed : writeArguments write annotations argIndex args = .ok code) :
    Emits recorder (.block code) (argumentOps decl argIndex arguments) := by
  induction args generalizing argIndex arguments code with
  | nil =>
      have empty : arguments = [] := List.length_eq_zero_iff.mp all.sameLength.symm
      subst empty
      cases printed
      exact emits_skip
  | cons arg rest ih =>
      obtain ⟨argument, later, rfl⟩ : ∃ argument later, arguments = argument :: later :=
        List.exists_cons_of_length_eq_add_one all.sameLength.symm
      obtain ⟨written, others, isWritten, restPrinted, rfl⟩ := writeArguments_cons_eq_ok printed
      have firstEmits := all.writes 0 arg argument written rfl rfl (by simpa using isWritten)
        (accepted argument List.mem_cons_self)
      have annotationEmits := all.annotates 0 argument rfl
      have restEmits := ih all.tail
        (fun other member => accepted other (List.mem_cons_of_mem argument member)) restPrinted
      rw [Int.natCast_zero, Int.add_zero] at annotationEmits
      exact (firstEmits.block_append annotationEmits).block_append restEmits

/-- The code of the loop stops at the first argument that is not acceptable. -/
theorem stops_writeArguments {args : List ι} {arguments : List Argument}
    {code : List (Code κ α)}
    (all : WritesArguments recorder write annotations acceptable refusal decl argIndex args
      arguments)
    (refused : ∃ argument ∈ arguments, ¬acceptable argument)
    (printed : writeArguments write annotations argIndex args = .ok code) :
    ∃ reason, refusal reason ∧ Stops recorder (.block code) reason := by
  induction args generalizing argIndex arguments code with
  | nil =>
      have empty : arguments = [] := List.length_eq_zero_iff.mp all.sameLength.symm
      subst empty
      simp at refused
  | cons arg rest ih =>
      obtain ⟨argument, later, rfl⟩ : ∃ argument later, arguments = argument :: later :=
        List.exists_cons_of_length_eq_add_one all.sameLength.symm
      obtain ⟨written, others, isWritten, restPrinted, rfl⟩ := writeArguments_cons_eq_ok printed
      by_cases first : acceptable argument
      · have firstEmits := all.writes 0 arg argument written rfl rfl (by simpa using isWritten)
          first
        have annotationEmits := all.annotates 0 argument rfl
        rw [Int.natCast_zero, Int.add_zero] at annotationEmits
        have restRefused : ∃ argument ∈ later, ¬acceptable argument := by
          obtain ⟨other, member, isRefused⟩ := refused
          rcases List.mem_cons.mp member with rfl | laterMem
          · exact absurd first isRefused
          · exact ⟨other, laterMem, isRefused⟩
        obtain ⟨reason, isRefusal, stops⟩ := ih all.tail restRefused restPrinted
        exact ⟨reason, isRefusal,
          (firstEmits.block_append annotationEmits).block_append_stops stops⟩
      · obtain ⟨reason, isRefusal, stops⟩ := all.stops 0 arg argument written rfl rfl
          (by simpa using isWritten) first
        exact ⟨reason, isRefusal, (stops.block_append_left _).block_append_left _⟩

end Loop

section Bodies

variable {α : Type u} {recorder : Recorder Condition α EventOp Stuck} {frame : Frame}
  {templates : AnnotationTemplates α} {constants : AnnotationIdConstants} {atoms : Atoms}
  {declSets : FieldNumberToAtomDeclSet} {decl : AtomDecl} {allowed : Int → Prop}
  {convention : Convention} {arguments : List Argument} {setAtomId : α}
  {write : Int → JavaType → Except WriterError (List (Code Condition α))}
  {code : List (Code Condition α)}

/-- A body that sets the atom id, then issues the annotations of the atom and
then runs the loop over the signature issues the event of the atom. -/
theorem emits_annotatedBody {annotations : Int → List (Code Condition α)} {signature : Signature}
    (typed : arguments.map Argument.type = signature)
    (sets : recorder.event setAtomId = .ok (.setAtomId decl.code))
    (ofAtom : Emits recorder (.block (annotations atomIdFieldNumber))
      (fieldOps decl atomIdFieldNumber fun _ => false))
    (ofArgument : ∀ (index : Nat) argument, arguments[index]? = some argument →
      Emits recorder (.block (annotations (1 + index)))
        (fieldOps decl (1 + index) argument.equals))
    (binds : ∀ (index : Nat) argument, arguments[index]? = some argument →
      convention.Binds frame.bindings (1 + index) argument)
    (writes : ∀ argIndex argument written, convention.Binds frame.bindings argIndex argument →
      write argIndex argument.type = .ok written →
      Emits recorder (.block written) [.write argument])
    (printed : writeArguments write annotations 1 signature = .ok code) :
    Emits recorder (.block (.call setAtomId :: (annotations atomIdFieldNumber ++ code)))
      (atomEvent decl arguments) := by
  have all : WritesArguments recorder write annotations (fun _ => True) (fun _ => False) decl 1
      signature arguments := by
    constructor
    · rw [← typed, List.length_map]
    · intro index type argument written typeFound found isWritten _
      rw [← typed, List.getElem?_map, found, Option.map_some, Option.some.injEq] at typeFound
      subst typeFound
      exact writes _ argument written (binds index argument found) isWritten
    · intro index type argument written _ _ _ refused
      exact absurd trivial refused
    · exact ofArgument
  apply Emits.seq (emits_call sets)
  exact ofAtom.block_append (emits_writeArguments all (fun _ _ => trivial) printed)

/-- A body with the annotations of all declarations issues those of the one with the code
of the call. -/
theorem emits_body (reads : recorder.holds = frame.holds)
    (issues : IssuesAnnotations recorder templates constants)
    (categories : IssuesCategories recorder templates constants allowed)
    (logged : Logged atoms declSets decl) (runs : RunsAs frame atoms decl)
    (issuable : Issuable 0 frame.comparable allowed decl)
    (chains : ∀ state, frame.comparable .attributionChain state = false)
    (valid : convention.Valid) (typed : arguments.map Argument.type = decl.signature)
    (binds : ∀ (index : Nat) argument, arguments[index]? = some argument →
      convention.Binds frame.bindings (1 + index) argument)
    (sets : recorder.event setAtomId = .ok (.setAtomId decl.code))
    (writes : ∀ argIndex argument written, convention.Binds frame.bindings argIndex argument →
      write argIndex argument.type = .ok written →
      Emits recorder (.block written) [.write argument])
    (printed : writeArguments write
      (fun argIndex => writeDeclAnnotations templates constants argIndex declSets) 1
      decl.signature = .ok code) :
    Emits recorder
      (.block (.call setAtomId ::
        (writeDeclAnnotations templates constants atomIdFieldNumber declSets ++ code)))
      (atomEvent decl arguments) := by
  apply emits_annotatedBody typed sets _ _ binds writes printed
  · apply emits_declAnnotations reads issues categories logged.dispatches runs
      (issuable.categories _)
    intro hasReset
    exact absurd hasReset logged.noReset
  · intro index argument found
    apply emits_declAnnotations reads issues categories logged.dispatches runs
      (issuable.categories _)
    intro hasReset
    have typeFound : decl.signature[index]? = some argument.type := by
      rw [← typed, List.getElem?_map, found, Option.map_some]
    have legal := issuable.compared index argument.type (Nat.zero_le index) typeFound hasReset
    have notChain : argument.type ≠ .attributionChain := by
      intro isChain
      rw [isChain, chains] at legal
      contradiction
    have bound := binds index argument found _ (valid.argument _ argument notChain)
    exact Frame.holds_argIs bound legal

end Bodies

end StatsLogApiGen.Writer
