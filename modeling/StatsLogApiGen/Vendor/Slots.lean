import StatsLogApiGen.Vendor.Agreement
import StatsLogApiGen.Writer.Acceptance

/-!
# The values of vendor atoms

A `createVendorAtom` takes the reverse domain name from its first argument and a value from
every other one.  This file says for which atoms this fits their fields.
-/

namespace StatsLogApiGen.Vendor

open Std
open StatsLogApiGen.Container
open StatsLogApiGen.Proto
open StatsLogApiGen.Collation
open StatsLogApiGen.Program
open StatsLogApiGen.Writer

/-! ## Slots -/

/-- What is done to the reverse domain name and to the values of an atom. -/
inductive SlotAction where
  | setReverseDomainName (argIndex : Int)
  | allocate (count : Int)
  | assign (slot : Int) (tag : ValueTag) (argIndex : Int)
  deriving DecidableEq, Repr

def Native.Statement.slotAction? : Native.Statement → Option SlotAction
  | .setReverseDomainName argIndex => some (.setReverseDomainName argIndex)
  | .declareValues count => some (.allocate count)
  | .setValue atomValueIndex tag argIndex => some (.assign atomValueIndex tag argIndex)
  | _ => none

def Java.Statement.slotAction? : Java.Statement → Option SlotAction
  | .setReverseDomainName argIndex => some (.setReverseDomainName argIndex)
  | .newValues count => some (.allocate count)
  | .setValue atomValueIndex tag argIndex => some (.assign atomValueIndex tag argIndex)
  | _ => none

/-- A method takes the reverse domain name from a string parameter, allocates a slot for
every other field, and then assigns each slot once, slot `k` from the parameter of field
`k + 2`. -/
structure SlotsMatchFields {κ α : Type} (typeName : JavaType → String)
    (slotAction? : α → Option SlotAction) (decl : AtomDecl) (parameters : List Parameter)
    (body : List (Code κ α)) : Prop where
  reverseDomainName : ⟨typeName .string, .arg 1⟩ ∈ parameters
  count : 0 ≤ (decl.fields.length : Int) - 1
  declared : ∀ (slot : Nat) (type : JavaType), decl.signature[slot + 1]? = some type →
    ⟨typeName type, .arg (slot + 2)⟩ ∈ parameters
  performs : ∃ tags : List ValueTag, decl.signature.tail.map valueTag = tags.map .ok ∧
    Performs slotAction? (.block body)
      (.setReverseDomainName 1 :: .allocate ((decl.fields.length : Int) - 1) ::
        tags.mapIdx fun slot tag => .assign slot tag (slot + 2))

/-- The parameters for the entries of a signature without a chain. -/
def argParameters (typeName : JavaType → String) (argIndex : Int) (signature : Signature) :
    List Parameter :=
  signature.mapIdx fun index type => ⟨typeName type, .arg (argIndex + index)⟩

section Parameters

variable {typeName : JavaType → String}

theorem argParameters_cons (argIndex : Int) (type : JavaType) (rest : Signature) :
    argParameters typeName argIndex (type :: rest) =
      ⟨typeName type, .arg argIndex⟩ :: argParameters typeName (argIndex + 1) rest := by
  have shift : ∀ index : Nat,
      argIndex + ((index + 1 : Nat) : Int) = argIndex + 1 + (index : Int) := by
    intro index
    omega
  simp only [argParameters, List.mapIdx_cons, shift]
  simp

theorem mem_argParameters {argIndex : Int} {signature : Signature} {parameter : Parameter} :
    parameter ∈ argParameters typeName argIndex signature ↔
      ∃ (index : Nat) (type : JavaType), signature[index]? = some type ∧
        parameter = ⟨typeName type, .arg (argIndex + index)⟩ := by
  rw [argParameters, List.mem_mapIdx]
  constructor
  · rintro ⟨index, inRange, rfl⟩
    exact ⟨index, _, List.getElem?_eq_getElem inRange, rfl⟩
  · rintro ⟨index, type, found, rfl⟩
    rcases List.getElem?_eq_some_iff.mp found with ⟨inRange, rfl⟩
    exact ⟨index, inRange, rfl⟩

/-- A loop that prints one parameter for each argument lists the parameters of the
signature. -/
theorem loop_eq_argParameters {print : Int → JavaType → List Parameter}
    {loop : Int → Signature → List Parameter} (nil : ∀ argIndex, loop argIndex [] = [])
    (cons : ∀ argIndex type rest,
      loop argIndex (type :: rest) = print argIndex type ++ loop (argIndex + 1) rest)
    (prints : ∀ argIndex type, IsArgument type →
      print argIndex type = [⟨typeName type, .arg argIndex⟩])
    (argIndex : Int) {signature : Signature}
    (areArguments : ∀ type ∈ signature, IsArgument type) :
    loop argIndex signature = argParameters typeName argIndex signature := by
  induction signature generalizing argIndex with
  | nil => exact nil argIndex
  | cons type rest ih =>
      have later := ih (argIndex + 1) fun other member =>
        areArguments other (List.mem_cons_of_mem type member)
      rw [cons, prints argIndex type (areArguments type List.mem_cons_self), later,
        argParameters_cons, List.singleton_append]

end Parameters

/-! ## The values -/

section Values

variable {κ α : Type} (slotAction? : α → Option SlotAction)
  (setValue : Int → ValueTag → Int → α)
  (visible : ∀ slot tag argIndex,
    slotAction? (setValue slot tag argIndex) = some (.assign slot tag argIndex))

include visible

/-- The loop over the values assigns one slot for each. -/
theorem exists_assignments_from {slot : Nat} {signature : Signature} {code : List (Code κ α)}
    (written : eachArg (fun argIndex argType => (valueTag argType).map fun tag =>
      .call (setValue (argIndex - 2) tag argIndex)) (2 + slot) signature = .ok code) :
    ∃ tags : List ValueTag, signature.map valueTag = tags.map .ok ∧
      Performs slotAction? (.block code)
        (tags.mapIdx fun index tag => .assign (slot + index) tag (slot + index + 2)) := by
  induction signature generalizing slot code with
  | nil =>
      cases written
      exact ⟨[], rfl, performs_skip⟩
  | cons type rest ih =>
      rcases bind_eq_ok_iff.mp written with ⟨first, firstWritten, later⟩
      rcases map_eq_ok_iff.mp later with ⟨others, othersWritten, rfl⟩
      rcases map_eq_ok_iff.mp firstWritten with ⟨tag, isTag, rfl⟩
      have shift : (2 + slot : Int) + 1 = 2 + ((slot + 1 : Nat) : Int) := by omega
      rw [shift] at othersWritten
      rcases ih othersWritten with ⟨tags, areTags, performs⟩
      refine ⟨tag :: tags, by rw [List.map_cons, List.map_cons, isTag, areTags], ?_⟩
      have here : Performs slotAction? (.call (setValue slot tag (slot + 2)) : Code κ α) _ :=
        performs_call _
      rw [visible] at here
      have place : ∀ index : Nat, ((slot + 1 : Nat) : Int) + index =
          slot + ((index + 1 : Nat) : Int) := by
        intro index
        omega
      have position : (2 + slot : Int) = slot + 2 := by omega
      simp only [place] at performs
      rw [List.mapIdx_cons, Int.natCast_zero, Int.add_zero, position, Int.add_sub_cancel]
      exact here.seq performs

theorem exists_assignments {signature : Signature} {code : List (Code κ α)}
    (written : eachArg (fun argIndex argType => (valueTag argType).map fun tag =>
      .call (setValue (argIndex - 2) tag argIndex)) 2 signature = .ok code) :
    ∃ tags : List ValueTag, signature.map valueTag = tags.map .ok ∧
      Performs slotAction? (.block code)
        (tags.mapIdx fun slot tag => .assign slot tag (slot + 2)) := by
  have zero : (2 : Int) + ((0 : Nat) : Int) = 2 := by decide
  rw [← zero] at written
  rcases exists_assignments_from slotAction? setValue visible written with ⟨tags, areTags, performs⟩
  simp only [Int.natCast_zero, Int.zero_add] at performs
  exact ⟨tags, areTags, performs⟩

end Values

/-! ## Annotations -/

section Annotations

variable {κ α : Type} {slotAction? : α → Option SlotAction}

/-- Code that does nothing to the slots. -/
abbrev LeavesSlots (slotAction? : α → Option SlotAction) (code : List (Code κ α)) : Prop :=
  AllActions (fun statement => slotAction? statement = none) code

/-- The annotations of a field are handed over to the atom or to a value. -/
theorem leavesSlots_handOver {isAtom : Prop} [Decidable isAtom] {toAtom toValue : α} {test : κ}
    (atomInvisible : slotAction? toAtom = none) (valueInvisible : slotAction? toValue = none) :
    LeavesSlots slotAction?
      [if isAtom then .call toAtom else .when test (.call toValue)] := by
  split
  · exact allActions_call.mpr atomInvisible
  · exact allActions_when.mpr valueInvisible

/-- Where there are annotations, a list is declared for them, and they are put into it and
handed over at the end. -/
theorem leavesSlots_annotations {annotated : Prop} [Decidable annotated] {declare setAll : α}
    {test : κ} {inner : List (Code κ α)} (declareInvisible : slotAction? declare = none)
    (innerLeaves : LeavesSlots slotAction? inner) (setInvisible : slotAction? setAll = none) :
    LeavesSlots slotAction?
      (if annotated then .call declare :: (inner ++ [.when test (.call setAll)]) else []) := by
  split
  · rw [LeavesSlots, ← List.singleton_append, allActions_append, allActions_append]
    exact ⟨allActions_call.mpr declareInvisible, innerLeaves, allActions_when.mpr setInvisible⟩
  · exact allActions_nil

end Annotations

/-! ## The native method -/

namespace Native

variable (constants : AnnotationIdConstants)

/-- The annotations of a field leave the slots alone. -/
theorem leavesSlots_forField (argIndex : Int) (atomDeclSet : AtomDeclSet) :
    LeavesSlots Statement.slotAction?
      (writeNativeAnnotationsVendorForField constants argIndex atomDeclSet) := by
  have templates : annotationTemplates.All fun statement => statement.slotAction? = none := by
    constructor <;> intro constant value <;> rfl
  rw [LeavesSlots, writeNativeAnnotationsVendorForField]
  simp only [writeDeclBlock, allActions_map_when]
  intro atomDecl _
  rw [← List.singleton_append, allActions_append, allActions_append]
  exact ⟨allActions_call.mpr rfl, allActions_annotationSet templates constants _ _,
    leavesSlots_handOver rfl rfl⟩

theorem leavesSlots_writeFieldsAnnotations (signature : Signature)
    (declSets : FieldNumberToAtomDeclSet) :
    LeavesSlots Statement.slotAction? (writeFieldsAnnotations constants signature declSets) := by
  apply leavesSlots_annotations rfl _ rfl
  exact allActions_flatMap.mpr fun argIndex _ => leavesSlots_forField constants argIndex _

end Native

/-! ## The Java method -/

namespace Java

variable (constants : AnnotationIdConstants)

theorem leavesSlots_whenReset (argIndex : Int) (states : States) {statement : Statement}
    (invisible : statement.slotAction? = none) :
    LeavesSlots Statement.slotAction? (whenReset argIndex states statement) := by
  rw [whenReset]
  split
  · exact allActions_when.mpr invisible
  · exact allActions_nil

theorem leavesSlots_writeStore (ann : Annotation) :
    LeavesSlots Statement.slotAction? (writeStore constants ann) := by
  rw [writeStore]
  cases ann.value with
  | bool boolValue => exact allActions_call.mpr rfl
  | int intValue =>
      dsimp only
      split
      · exact allActions_call.mpr rfl
      · split
        · exact allActions_call.mpr rfl
        · exact allActions_nil

/-- The annotations of a field leave the slots alone. -/
theorem leavesSlots_forField (argIndex : Int) (atomDeclSet : AtomDeclSet) :
    LeavesSlots Statement.slotAction?
      (writeAnnotationsVendorForField constants argIndex atomDeclSet) := by
  rw [LeavesSlots, writeAnnotationsVendorForField, allActions_map_when]
  intro atomDecl _
  rw [writeAnnotationsBlock]
  simp only [allActions_append, allActions_flatMap]
  have created : LeavesSlots Statement.slotAction?
      ([.call .newAnnotations, .call .declareAnnotationIdx] : Body) := by
    rw [LeavesSlots, ← List.singleton_append, allActions_append, allActions_call,
      allActions_call]
    exact ⟨rfl, rfl⟩
  exact ⟨⟨⟨⟨⟨allActions_call.mpr rfl, leavesSlots_whenReset _ _ rfl⟩, created⟩,
    fun ann _ => leavesSlots_writeStore constants ann⟩, leavesSlots_whenReset _ _ rfl⟩,
    leavesSlots_handOver rfl rfl⟩

/-- The creation of lists leaves the slots alone. -/
theorem leavesSlots_foldl_add (declarations : List AtomDecl) (inits : ArrayInits)
    (leaves : LeavesSlots Statement.slotAction? inits.code) :
    LeavesSlots Statement.slotAction? (declarations.foldl ArrayInits.add inits).code := by
  induction declarations generalizing inits with
  | nil => exact leaves
  | cons atomDecl rest ih =>
      apply ih
      rw [ArrayInits.add]
      split
      · exact leaves
      · exact allActions_append.mpr ⟨leaves, allActions_when.mpr rfl⟩

theorem leavesSlots_inits (declSets : FieldNumberToAtomDeclSet) (argIndices : List Int)
    (inits : ArrayInits) (leaves : LeavesSlots Statement.slotAction? inits.code) :
    LeavesSlots Statement.slotAction?
      (argIndices.foldl (fun inits argIndex =>
        writeValueAnnotationsArrayInit inits (getAnnotations argIndex declSets)) inits).code := by
  induction argIndices generalizing inits with
  | nil => exact leaves
  | cons argIndex rest ih => exact ih _ (leavesSlots_foldl_add _ inits leaves)

theorem leavesSlots_writeFieldsAnnotations (signature : Signature)
    (declSets : FieldNumberToAtomDeclSet) :
    LeavesSlots Statement.slotAction? (writeFieldsAnnotations constants signature declSets) := by
  apply leavesSlots_annotations rfl _ rfl
  rw [LeavesSlots, allActions_append, allActions_flatMap]
  exact ⟨leavesSlots_inits declSets _ _ allActions_nil,
    fun argIndex _ => leavesSlots_forField constants argIndex _⟩

end Java

/-! ## Matching methods -/

section Match

variable {κ α : Type} {slotAction? : α → Option SlotAction} {typeName : JavaType → String}
  {decl : AtomDecl} {parameters : List Parameter} {body : List (Code κ α)}

/-- A method that handles its parameters in order matches the fields of an atom when the
first of them is a string. -/
theorem slotsMatchFields_iff
    (isString : ∀ type, IsArgument type → typeName type = typeName .string → type = .string)
    (areArguments : ∀ type ∈ decl.signature, IsArgument type) {codeType : String}
    (isSignature : parameters = ⟨codeType, .code⟩ :: argParameters typeName 1 decl.signature)
    (performs : ∃ tags : List ValueTag, decl.signature.tail.map valueTag = tags.map .ok ∧
      Performs slotAction? (.block body)
        (.setReverseDomainName 1 :: .allocate ((decl.signature.length : Int) - 1) ::
          tags.mapIdx fun slot tag => .assign slot tag (slot + 2))) :
    SlotsMatchFields typeName slotAction? decl parameters body ↔
      decl.signature.head? = some .string := by
  have length : decl.signature.length = decl.fields.length := List.length_map _
  rw [length] at performs
  constructor
  · intro matching
    have declared := matching.reverseDomainName
    rw [isSignature, List.mem_cons] at declared
    rcases declared with isFirst | member
    · cases isFirst
    · rcases mem_argParameters.mp member with ⟨index, type, found, equal⟩
      simp only [Parameter.mk.injEq, Variable.arg.injEq] at equal
      have isZero : index = 0 := by omega
      subst isZero
      have isArgument := areArguments type (List.mem_of_getElem? found)
      rw [List.head?_eq_getElem?, found, isString type isArgument equal.1.symm]
  · intro startsWithString
    rw [List.head?_eq_getElem?] at startsWithString
    constructor
    · rw [isSignature]
      apply List.mem_cons_of_mem
      exact mem_argParameters.mpr ⟨0, .string, startsWithString, rfl⟩
    · rcases List.getElem?_eq_some_iff.mp startsWithString with ⟨notEmpty, -⟩
      omega
    · intro slot type found
      rw [isSignature]
      apply List.mem_cons_of_mem
      refine mem_argParameters.mpr ⟨slot + 1, type, found, ?_⟩
      have position : (1 : Int) + ((slot + 1 : Nat) : Int) = slot + 2 := by omega
      rw [position]
    · exact performs

end Match

theorem cppTypeName_string : ∀ type, IsArgument type →
    cppTypeName true type = cppTypeName true .string → type = .string := by
  intro type isArgument same
  cases type <;> first | rfl | exact absurd isArgument id | exact absurd same (by decide)

theorem javaTypeName_string : ∀ type, IsArgument type →
    javaTypeName type = javaTypeName .string → type = .string := by
  intro type isArgument same
  cases type <;> first | rfl | exact absurd isArgument id | exact absurd same (by decide)

theorem nativeSignatureParameters_eq (argIndex : Int) {signature : Signature}
    (areArguments : ∀ type ∈ signature, IsArgument type) :
    nativeSignatureParameters attributionDecl true argIndex signature =
      argParameters (cppTypeName true) argIndex signature := by
  apply loop_eq_argParameters (fun _ => rfl) (fun _ _ _ => rfl) _ argIndex areArguments
  intro position type isArgument
  cases type <;> first | rfl | exact absurd isArgument id

theorem javaSignatureParameters_eq (argIndex : Int) {signature : Signature}
    (areArguments : ∀ type ∈ signature, IsArgument type) :
    javaSignatureParameters {} argIndex signature =
      argParameters javaTypeName argIndex signature := by
  apply loop_eq_argParameters (fun _ => rfl) (fun _ _ _ => rfl) _ argIndex areArguments
  intro position type isArgument
  cases type <;> first | rfl | exact absurd isArgument id

section Methods

variable {constants : AnnotationIdConstants} {decl : AtomDecl}
  {declSets : FieldNumberToAtomDeclSet} (areArguments : ∀ type ∈ decl.signature, IsArgument type)

include areArguments

theorem Native.slotsMatchFields_iff {method : Method}
    (written : writeNativeCreateVendorAtomMethod constants attributionDecl
      (decl.signature, declSets) = .ok method) :
    SlotsMatchFields (cppTypeName true) Statement.slotAction? decl method.parameters
      method.body ↔ decl.signature.head? = some .string := by
  rcases map_eq_ok_iff.mp written with ⟨values, valuesWritten, rfl⟩
  rcases exists_assignments Statement.slotAction? Statement.setValue (fun _ _ _ => rfl)
    valuesWritten with ⟨tags, areTags, assigned⟩
  have header : Performs Statement.slotAction? (.block [.call .setAtomId,
      .call (.setReverseDomainName 1),
      .call (.declareValues ((decl.signature.length : Int) - 1))] : Code Test Statement)
      [.setReverseDomainName 1, .allocate ((decl.signature.length : Int) - 1)] :=
    (performs_call _).seq ((performs_call _).seq ((performs_call _).seq performs_skip))
  have moved : Performs Statement.slotAction? (.block [.call .moveValues] : Code Test Statement)
      [] :=
    (performs_call _).seq performs_skip
  apply Vendor.slotsMatchFields_iff cppTypeName_string areArguments
  · exact congrArg (List.cons _) (nativeSignatureParameters_eq 1 areArguments)
  · refine ⟨tags, areTags, ?_⟩
    have atomAnnotations : LeavesSlots Statement.slotAction?
        (writeAtomAnnotations constants declSets) :=
      leavesSlots_annotations rfl (leavesSlots_forField constants _ _) rfl
    have performs := (((header.block_append assigned).block_append moved).block_append
      atomAnnotations.performs_nil).block_append
      (leavesSlots_writeFieldsAnnotations constants decl.signature declSets).performs_nil
    simpa using performs

theorem Java.slotsMatchFields_iff {method : Method}
    (written : writeJavaPushedMethodVendor constants (decl.signature, declSets) = .ok method) :
    SlotsMatchFields javaTypeName Statement.slotAction? decl method.parameters method.body ↔
      decl.signature.head? = some .string := by
  rcases bind_eq_ok_iff.mp written with ⟨parameters, isSignature, later⟩
  rcases map_eq_ok_iff.mp later with ⟨body, bodyWritten, rfl⟩
  rcases map_eq_ok_iff.mp bodyWritten with ⟨values, valuesWritten, rfl⟩
  rcases exists_assignments Statement.slotAction? Statement.setValue (fun _ _ _ => rfl)
    valuesWritten with ⟨tags, areTags, assigned⟩
  have header : Performs Statement.slotAction? (.block [.call (.setReverseDomainName 1),
      .call .setAtomId, .call (.newValues ((decl.signature.length : Int) - 1))] :
        Code Test Statement)
      [.setReverseDomainName 1, .allocate ((decl.signature.length : Int) - 1)] :=
    (performs_call _).seq ((performs_call _).seq ((performs_call _).seq performs_skip))
  apply Vendor.slotsMatchFields_iff javaTypeName_string areArguments
  · rw [writeJavaMethodSignature] at isSignature
    split at isSignature
    · contradiction
    · cases isSignature
      exact congrArg (List.cons _) (javaSignatureParameters_eq 1 areArguments)
  · refine ⟨tags, areTags, ?_⟩
    have atomAnnotations : LeavesSlots Statement.slotAction?
        (writeAtomAnnotations constants declSets) :=
      leavesSlots_annotations rfl (leavesSlots_forField constants _ _) rfl
    have performs := ((header.block_append assigned).block_append
      atomAnnotations.performs_nil).block_append
      (leavesSlots_writeFieldsAnnotations constants decl.signature declSets).performs_nil
    simpa using performs

end Methods

/-! ## Generated classes and sources -/

/-- Among the methods is the one for the signature of a pushed atom, and it has a
property. -/
def MethodFor {α : Type} (write : Signature × FieldNumberToAtomDeclSet → Except WriterError α)
    (atoms : Atoms) (decl : AtomDecl) (methods : List α) (property : α → Prop) : Prop :=
  ∃ declSets, atoms.signatureInfoMap[decl.signature]? = some declSets ∧
    ∃ method ∈ methods, write (decl.signature, declSets) = .ok method ∧ property method

/-- When all methods are generated, the one for the atom has a property exactly under the
condition that the writer gives. -/
theorem forall_methodFor_iff {α : Type}
    {write : Signature × FieldNumberToAtomDeclSet → Except WriterError α} {atoms : Atoms}
    {decl : AtomDecl} {property : α → Prop} {condition : Prop}
    (present : decl.signature ∈ atoms.signatureInfoMap)
    (generated : ∀ entry ∈ atoms.signatureInfoMap.toList, (write entry).isOk = true)
    (holds : ∀ declSets method, write (decl.signature, declSets) = .ok method →
      (property method ↔ condition)) :
    (∀ methods, atoms.signatureInfoMap.toList.mapM write = .ok methods →
      MethodFor write atoms decl methods property) ↔ condition := by
  have allOk : (atoms.signatureInfoMap.toList.mapM write).isOk = true := by
    rw [mapM_isOk, List.all_eq_true]
    exact generated
  rcases isOk_iff_exists.mp allOk with ⟨methods, written⟩
  constructor
  · intro matching
    rcases matching methods written with ⟨declSets, -, method, -, isMethod, has⟩
    exact (holds declSets method isMethod).mp has
  · intro condition others othersWritten
    rcases mem_iff_exists_getElem?.mp present with ⟨declSets, found⟩
    have listed := ExtTreeMap.mem_toList_iff_getElem?_eq_some.mpr found
    rcases exists_ok_of_mapM othersWritten listed with ⟨method, isMethod⟩
    exact ⟨declSets, found, method, (mem_of_mapM_eq_ok othersWritten).mpr ⟨_, listed, isMethod⟩,
      isMethod, (holds declSets method isMethod).mpr condition⟩

section Generated

variable (constants : AnnotationIdConstants) (atoms : Atoms) (decl : AtomDecl)

/-- If the C++ source is generated, its method for the atom matches the fields. -/
def NativeSlotsMatch : Prop :=
  ∀ methods,
    Native.writeNativeCreateVendorAtomMethods constants attributionDecl atoms.signatureInfoMap =
      .ok methods →
    MethodFor (Native.writeNativeCreateVendorAtomMethod constants attributionDecl) atoms decl
      methods fun method =>
        SlotsMatchFields (cppTypeName true) Native.Statement.slotAction? decl method.parameters
          method.body

/-- If the Java class is generated, its method for the atom matches the fields. -/
def JavaSlotsMatch : Prop :=
  ∀ methods,
    Java.writeJavaPushedMethodsVendor constants atoms.signatureInfoMap = .ok methods →
    MethodFor (Java.writeJavaPushedMethodVendor constants) atoms decl methods fun method =>
      SlotsMatchFields javaTypeName Java.Statement.slotAction? decl method.parameters method.body

end Generated

section Registered

variable {registrations : List Registration} {atoms : Atoms}
  (registered : Registered registrations atoms) {decl : AtomDecl}
  (member : decl ∈ elements atoms.decls) (pushed : decl.atomType = .pushed)
  (noChain : JavaType.attributionChain ∉ decl.signature) (constants : AnnotationIdConstants)

include registered member pushed noChain

theorem nativeSlotsMatch_iff :
    NativeSlotsMatch constants atoms decl ↔ decl.signature.head? = some .string := by
  have indexes := registered.pushed.indexesDecls registered.decls
  have present := (indexes.signatures decl.signature).mpr ⟨decl, member, pushed, rfl⟩
  have accepted := acceptedSignature_of_mem registered member
  apply forall_methodFor_iff present
  · intro entry entryMem
    exact Native.writeNativeCreateVendorAtomMethod_isOk constants
      ((acceptedMaps registered).pushed entry.1 (mem_of_mem_toList entryMem)) entry.2
  · intro declSets method isMethod
    exact Native.slotsMatchFields_iff (accepted.isArgument noChain) isMethod

/-- A chain of another atom keeps the Java class from being generated. -/
theorem javaSlotsMatch_iff :
    JavaSlotsMatch constants atoms decl ↔
      decl.signature.head? = some .string ∨
        ∃ signature ∈ atoms.signatureInfoMap, JavaType.attributionChain ∈ signature := by
  have indexes := registered.pushed.indexesDecls registered.decls
  have present := (indexes.signatures decl.signature).mpr ⟨decl, member, pushed, rfl⟩
  have accepted := acceptedSignature_of_mem registered member
  have isOk_iff : ∀ entry ∈ atoms.signatureInfoMap.toList,
      (Java.writeJavaPushedMethodVendor constants entry).isOk = true ↔
        JavaType.attributionChain ∉ entry.1 := by
    intro entry entryMem
    exact Java.writeJavaPushedMethodVendor_isOk constants
      ((acceptedMaps registered).pushed entry.1 (mem_of_mem_toList entryMem)) entry.2
  by_cases hasChain : ∃ signature ∈ atoms.signatureInfoMap,
      JavaType.attributionChain ∈ signature
  · refine iff_of_true ?_ (Or.inr hasChain)
    intro methods written
    rcases hasChain with ⟨signature, signatureMem, chain⟩
    rcases exists_mem_toList signatureMem with ⟨entry, entryMem, rfl⟩
    have isOk := isOk_iff_exists.mpr (exists_ok_of_mapM written entryMem)
    exact absurd chain ((isOk_iff entry entryMem).mp isOk)
  · rw [or_iff_left hasChain]
    apply forall_methodFor_iff present
    · intro entry entryMem
      rw [isOk_iff entry entryMem]
      exact fun chain => hasChain ⟨entry.1, mem_of_mem_toList entryMem, chain⟩
    · intro declSets method isMethod
      exact Java.slotsMatchFields_iff (accepted.isArgument noChain) isMethod

end Registered

/-- In an accepted run the values of a pushed atom without a chain match its fields exactly
when its first field is a string, unless the Java class is not generated. -/
theorem slotsMatch_iff (descriptor : AtomDescriptor) (moduleName : String) (atoms : Atoms)
    (accepted : collateAtoms descriptor moduleName {} = (0, atoms)) (decl : AtomDecl)
    (member : decl ∈ elements atoms.decls) (pushed : decl.atomType = .pushed)
    (noChain : JavaType.attributionChain ∉ decl.signature) (constants : AnnotationIdConstants) :
    (NativeSlotsMatch constants atoms decl ↔ decl.signature.head? = some .string) ∧
    (JavaSlotsMatch constants atoms decl ↔
      decl.signature.head? = some .string ∨
        ∃ signature ∈ atoms.signatureInfoMap, JavaType.attributionChain ∈ signature) := by
  rcases collateAtoms_registered accepted with ⟨registrations, -, registered⟩
  exact ⟨nativeSlotsMatch_iff registered member pushed noChain constants,
    javaSlotsMatch_iff registered member pushed noChain constants⟩

theorem slotsMatch_vendorDescriptor :
    let constants := getAnnotationIdConstants annotationConstantNameVendorNativePrefix
    (NativeSlotsMatch constants vendorAtoms vendorDecl ↔
      vendorDecl.signature.head? = some .string) ∧
    (JavaSlotsMatch constants vendorAtoms vendorDecl ↔
      vendorDecl.signature.head? = some .string ∨
        ∃ signature ∈ vendorAtoms.signatureInfoMap, JavaType.attributionChain ∈ signature) :=
  slotsMatch_iff vendorDescriptor "test" vendorAtoms (Prod.ext (by decide) rfl) vendorDecl
    mem_vendorDecl (by decide) (by decide) _

/-! ## An atom without a reverse domain name -/

def voltageReported : Descriptor where
  name := "VoltageReported"
  fields :=
    [{ name := "microvolts", number := 1, type := .int32 },
     { name := "sensor", number := 2, type := .string }]
  numbers_nodup := by decide

def voltageDescriptor : AtomDescriptor where
  fields :=
    [{ name := "voltage_reported", number := 105512, type := .message voltageReported,
       options := { module := ["test"] } }]
  extensions := []
  numbers_nodup := by decide

def voltageAtoms : Atoms :=
  (collateAtoms voltageDescriptor "test" {}).2

/-- The declaration of the atom of `voltageDescriptor`. -/
def voltageDecl : AtomDecl :=
  (voltageAtoms.decls[(⟨105512, "voltage_reported"⟩ : DeclKey)]?).getD {}

theorem mem_voltageDecl : voltageDecl ∈ elements voltageAtoms.decls :=
  getD_mem_elements (by decide) _

/-- The number in the first field becomes the reverse domain name. -/
theorem not_slotsMatch_voltage :
    (collateAtoms voltageDescriptor "test" {}).1 = 0 ∧
    voltageDecl ∈ elements voltageAtoms.decls ∧ voltageDecl.atomType = .pushed ∧
    JavaType.attributionChain ∉ voltageDecl.signature ∧
    ∀ constants, ¬NativeSlotsMatch constants voltageAtoms voltageDecl ∧
      ¬JavaSlotsMatch constants voltageAtoms voltageDecl := by
  have accepted : collateAtoms voltageDescriptor "test" {} = (0, voltageAtoms) :=
    Prod.ext (by decide) rfl
  have pushed : voltageDecl.atomType = .pushed := by decide
  have noChain : JavaType.attributionChain ∉ voltageDecl.signature := by decide
  have notString : voltageDecl.signature.head? ≠ some .string := by decide
  have noChains : ∀ entry ∈ voltageAtoms.signatureInfoMap.toList,
      JavaType.attributionChain ∉ entry.1 := by decide
  rcases collateAtoms_registered accepted with ⟨registrations, -, registered⟩
  refine ⟨by decide, mem_voltageDecl, pushed, noChain, fun constants => ⟨?_, ?_⟩⟩
  · rw [nativeSlotsMatch_iff registered mem_voltageDecl pushed noChain]
    exact notString
  · rw [javaSlotsMatch_iff registered mem_voltageDecl pushed noChain]
    rintro (startsWithString | ⟨signature, signatureMem, chain⟩)
    · exact notString startsWithString
    · rcases exists_mem_toList signatureMem with ⟨entry, entryMem, rfl⟩
      exact noChains entry entryMem chain

end StatsLogApiGen.Vendor
