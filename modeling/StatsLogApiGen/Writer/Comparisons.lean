import StatsLogApiGen.Collation.Cardinality
import StatsLogApiGen.Writer.Acceptance
import StatsLogApiGen.Writer.Body

/-!
# Comparisons with a state

Where a writer prints a reset, it compares the logged argument with the number of the
state that triggers the reset.  This file finds the comparisons in generated code, and
says when the types of the parameters that they name admit them.
-/

namespace StatsLogApiGen.Writer

open Std
open StatsLogApiGen.Container
open StatsLogApiGen.Proto
open StatsLogApiGen.Collation
open StatsLogApiGen.Program

universe u v w

/-! ## Comparisons of the annotations -/

/-- The annotations of a field are compared with the state that triggers its reset. -/
theorem mem_conditionsOf_annotationSet {κ : Type u} {α : Type v}
    {templates : AnnotationTemplates α} {constants : AnnotationIdConstants}
    {isState : Int → κ} {annotations : AnnotationSet} {condition : κ} :
    condition ∈ conditionsOf (writeAnnotationSet templates constants isState annotations) ↔
      HasReset (elements annotations) ∧
        condition = isState (declaredState .triggerStateReset (elements annotations)) := by
  rw [writeAnnotationSet_eq, conditionsOf_append, conditionsOf_calls, List.nil_append]
  by_cases hasReset : HasReset (elements annotations)
  · simp [hasReset, Code.conditions]
  · simp [hasReset]

/-- A declaration that is annotated on a field resets it in a state. -/
def ResetsIn (declSets : FieldNumberToAtomDeclSet) (fieldNumber state : Int) : Prop :=
  ∃ decl ∈ elements (getAnnotations fieldNumber declSets),
    HasReset (annotationsOf decl fieldNumber) ∧
      state = declaredState .triggerStateReset (annotationsOf decl fieldNumber)

/-- What is printed for the annotations of a field compares its argument with the
states that trigger a reset. -/
theorem argIs_mem_declAnnotations {α : Type v} {templates : AnnotationTemplates α}
    {constants : AnnotationIdConstants} {fieldNumber argIndex state : Int}
    {declSets : FieldNumberToAtomDeclSet} :
    .argIs argIndex state ∈
        conditionsOf (writeDeclAnnotations templates constants fieldNumber declSets) ↔
      argIndex = fieldNumber ∧ ResetsIn declSets fieldNumber state := by
  rw [writeDeclAnnotations, ResetsIn, getAnnotations]
  cases found : declSets[fieldNumber]? with
  | none => simp [elements]
  | some atomDeclSet =>
      rw [Option.getD_some, mem_conditionsOf_map_when]
      simp only [mem_conditionsOf_annotationSet, Condition.argIs.injEq, reduceCtorEq, false_or]
      constructor
      · rintro ⟨decl, member, hasReset, isArg, isState⟩
        exact ⟨isArg, decl, member, hasReset, isState⟩
      · rintro ⟨isArg, decl, member, hasReset, isState⟩
        exact ⟨decl, member, hasReset, isArg, isState⟩

/-! ## Comparisons of a body -/

section Bodies

variable {ι : Type u} {κ : Type v} {α : Type w}
  {write : Int → ι → Except WriterError (List (Code κ α))}
  {annotations : Int → List (Code κ α)}

/-- The loop over the arguments tests what is tested for their annotations, if the
arguments themselves are written without conditions. -/
theorem mem_conditionsOf_writeArguments
    (silent : ∀ argIndex arg written, write argIndex arg = .ok written →
      conditionsOf written = [])
    {argIndex : Int} {args : List ι} {code : List (Code κ α)}
    (printed : writeArguments write annotations argIndex args = .ok code) {condition : κ} :
    condition ∈ conditionsOf code ↔
      ∃ index < args.length, condition ∈ conditionsOf (annotations (argIndex + index)) := by
  induction args generalizing argIndex code with
  | nil =>
      cases printed
      simp
  | cons arg rest ih =>
      rcases writeArguments_cons_eq_ok printed with ⟨written, later, isWritten, laterPrinted, rfl⟩
      rw [conditionsOf_append, conditionsOf_append, silent _ _ _ isWritten, List.nil_append,
        List.mem_append, ih laterPrinted, List.length_cons]
      constructor
      · rintro (here | ⟨index, bound, tested⟩)
        · exact ⟨0, Nat.zero_lt_succ _, by simpa using here⟩
        · refine ⟨index + 1, Nat.succ_lt_succ bound, ?_⟩
          rwa [Int.natCast_add, Int.natCast_one, Int.add_comm (index : Int) 1, ← Int.add_assoc]
      · rintro ⟨index, bound, tested⟩
        cases index with
        | zero => exact Or.inl (by simpa using tested)
        | succ position =>
            refine Or.inr ⟨position, Nat.lt_of_succ_lt_succ bound, ?_⟩
            rwa [Int.add_assoc, Int.add_comm 1]

end Bodies

/-- The number of an argument from a position on, or that of the atom. -/
def IsFieldNumber (first : Nat) (signature : Signature) (fieldNumber : Int) : Prop :=
  fieldNumber = atomIdFieldNumber ∨
    ∃ index, first ≤ index ∧ index < signature.length ∧ fieldNumber = 1 + (index : Int)

/-- A body compares the arguments whose fields are reset. -/
theorem argIs_mem_body {α : Type} {write : Int → JavaType → Except WriterError
      (List (Code Condition α))}
    {templates : AnnotationTemplates α} {constants : AnnotationIdConstants}
    {declSets : FieldNumberToAtomDeclSet}
    (silent : ∀ argIndex arg written, write argIndex arg = .ok written →
      conditionsOf written = [])
    {signature : Signature} {arguments : List (Code Condition α)}
    (printed : writeArguments write
      (fun argIndex => writeDeclAnnotations templates constants argIndex declSets) 1 signature =
        .ok arguments) {first : α} {argIndex state : Int} :
    .argIs argIndex state ∈ conditionsOf (.call first ::
        (writeDeclAnnotations templates constants atomIdFieldNumber declSets ++ arguments)) ↔
      IsFieldNumber 0 signature argIndex ∧ ResetsIn declSets argIndex state := by
  rw [conditionsOf_cons, Code.conditions, List.nil_append, conditionsOf_append, List.mem_append,
    mem_conditionsOf_writeArguments silent printed, argIs_mem_declAnnotations, IsFieldNumber]
  simp only [argIs_mem_declAnnotations]
  constructor
  · rintro (⟨rfl, resets⟩ | ⟨index, bound, rfl, resets⟩)
    · exact ⟨Or.inl rfl, resets⟩
    · exact ⟨Or.inr ⟨index, Nat.zero_le index, bound, rfl⟩, resets⟩
  · rintro ⟨rfl | ⟨index, -, bound, rfl⟩, resets⟩
    · exact Or.inl ⟨rfl, resets⟩
    · exact Or.inr ⟨index, bound, rfl, resets⟩

/-! ## Types of parameters -/

/-- The parameter of an argument has a type with a property. -/
structure HasParameter (admits : String → Prop) (parameters : List Parameter)
    (argIndex : Int) : Prop where
  declared : ∃ parameter ∈ parameters, parameter.name = .arg argIndex
  admitted : ∀ parameter ∈ parameters, parameter.name = .arg argIndex →
    admits parameter.typeName

/-- Parameters that stand for no argument do not matter. -/
theorem hasParameter_append {admits : String → Prop} {before parameters : List Parameter}
    (noArg : ∀ parameter ∈ before, ∀ argIndex, parameter.name ≠ .arg argIndex) {argIndex : Int} :
    HasParameter admits (before ++ parameters) argIndex ↔
      HasParameter admits parameters argIndex := by
  constructor
  · rintro ⟨⟨parameter, member, isArg⟩, admitted⟩
    refine ⟨⟨parameter, ?_, isArg⟩, fun other otherMem =>
      admitted other (List.mem_append_right before otherMem)⟩
    rcases List.mem_append.mp member with early | late
    · exact absurd isArg (noArg parameter early argIndex)
    · exact late
  · rintro ⟨⟨parameter, member, isArg⟩, admitted⟩
    refine ⟨⟨parameter, List.mem_append_right before member, isArg⟩, fun other otherMem => ?_⟩
    rcases List.mem_append.mp otherMem with early | late
    · exact fun otherArg => absurd otherArg (noArg other early argIndex)
    · exact admitted other late

/-- The parameters of a signature have the types of its arguments. -/
theorem hasParameter_loop {print : Int → JavaType → List Parameter}
    {loop : Int → Signature → List Parameter} (nil : ∀ argIndex, loop argIndex [] = [])
    (cons : ∀ argIndex arg rest,
      loop argIndex (arg :: rest) = print argIndex arg ++ loop (argIndex + 1) rest)
    {typeName : JavaType → String}
    (prints : ∀ argIndex other type parameter, parameter.name = .arg other →
      (parameter ∈ print argIndex type ↔
        type ≠ .attributionChain ∧ parameter = ⟨typeName type, .arg argIndex⟩))
    {admits : String → Prop} {signature : Signature} {index : Nat} {type : JavaType}
    (found : signature[index]? = some type) (argIndex : Int) :
    HasParameter admits (loop argIndex signature) (argIndex + index) ↔
      type ≠ .attributionChain ∧ admits (typeName type) := by
  have named {parameter : Parameter} (isArg : parameter.name = .arg (argIndex + index)) :
      parameter ∈ loop argIndex signature ↔
        type ≠ .attributionChain ∧ parameter = ⟨typeName type, .arg (argIndex + index)⟩ := by
    refine (mem_loop_iff_of_unique nil cons found ?_).trans (prints _ _ type parameter isArg)
    intro position other member
    rcases (prints _ _ other parameter isArg).mp member with ⟨-, rfl⟩
    have sameArg := Variable.arg.inj isArg
    omega
  constructor
  · rintro ⟨⟨parameter, member, isArg⟩, admitted⟩
    have isAdmitted := admitted parameter member isArg
    rw [((named isArg).mp member).2] at isAdmitted
    exact ⟨((named isArg).mp member).1, isAdmitted⟩
  · rintro ⟨notChain, isAdmitted⟩
    refine ⟨⟨_, (named rfl).mpr ⟨notChain, rfl⟩, rfl⟩, fun parameter member isArg => ?_⟩
    rw [((named isArg).mp member).2]
    exact isAdmitted

theorem mem_nativeArgParameters (attributionDecl : AtomDecl) (isVendorAtomLogging : Bool)
    (argIndex other : Int) (type : JavaType) (parameter : Parameter)
    (isArg : parameter.name = .arg other) :
    parameter ∈ nativeArgParameters attributionDecl isVendorAtomLogging argIndex type ↔
      type ≠ .attributionChain ∧
        parameter = ⟨cppTypeName isVendorAtomLogging type, .arg argIndex⟩ := by
  rw [nativeArgParameters]
  by_cases isChain : type = .attributionChain
  · rw [if_pos isChain]
    constructor
    · intro member
      rcases List.mem_flatMap.mp member with ⟨chainField, -, chained⟩
      have noArg : ∀ chained ∈ nativeChainParameters isVendorAtomLogging chainField,
          chained.name ≠ .arg other := by
        rw [nativeChainParameters]
        split <;> simp
      exact absurd isArg (noArg parameter chained)
    · exact fun both => absurd isChain both.1
  · rw [if_neg isChain, List.mem_cons]
    constructor
    · rintro (isParameter | isLength)
      · exact ⟨isChain, isParameter⟩
      · split at isLength
        · rw [List.mem_singleton.mp isLength] at isArg
          cases isArg
        · cases isLength
    · exact fun both => Or.inl both.2

theorem mem_javaArgParameters (attributionDecl : AtomDecl) (argIndex other : Int)
    (type : JavaType) (parameter : Parameter) (isArg : parameter.name = .arg other) :
    parameter ∈ javaArgParameters attributionDecl argIndex type ↔
      type ≠ .attributionChain ∧ parameter = ⟨javaTypeName type, .arg argIndex⟩ := by
  rw [javaArgParameters]
  by_cases isChain : type = .attributionChain
  · rw [if_pos isChain]
    constructor
    · intro member
      rcases List.mem_map.mp member with ⟨chainField, -, rfl⟩
      cases isArg
    · exact fun both => absurd isChain both.1
  · rw [if_neg isChain, List.mem_singleton]
    exact (and_iff_right isChain).symm

section Parameters

variable (attributionDecl : AtomDecl) {admits : String → Prop} {signature : Signature}
  {index : Nat} {type : JavaType} (found : signature[index]? = some type)

include found

theorem hasParameter_native {before : List Parameter}
    (noArg : ∀ parameter ∈ before, ∀ argIndex, parameter.name ≠ .arg argIndex)
    (isVendorAtomLogging : Bool) :
    HasParameter admits
        (writeNativeMethodSignature before signature attributionDecl isVendorAtomLogging)
        (1 + index) ↔
      type ≠ .attributionChain ∧ admits (cppTypeName isVendorAtomLogging type) := by
  rw [writeNativeMethodSignature, hasParameter_append noArg, ← List.singleton_append,
    hasParameter_append (by simp)]
  exact hasParameter_loop (fun _ => rfl) (fun _ _ _ => rfl)
    (mem_nativeArgParameters attributionDecl isVendorAtomLogging) found 1

theorem hasParameter_java :
    HasParameter admits
        (⟨"int", .code⟩ :: javaSignatureParameters attributionDecl 1 signature) (1 + index) ↔
      type ≠ .attributionChain ∧ admits (javaTypeName type) := by
  rw [← List.singleton_append, hasParameter_append (by simp)]
  exact hasParameter_loop (fun _ => rfl) (fun _ _ _ => rfl)
    (mem_javaArgParameters attributionDecl) found 1

end Parameters

/-! ## Comparisons of all atoms -/

/-- The comparisons among conditions have types that admit them. -/
def Compares {κ : Type u} (argIs : Int → Int → κ) (admits : String → Int → Prop)
    (parameters : List Parameter) (conditions : List κ) : Prop :=
  ∀ argIndex state, argIs argIndex state ∈ conditions →
    HasParameter (admits · state) parameters argIndex

instance {admits : String → Prop} [DecidablePred admits] (parameters : List Parameter)
    (argIndex : Int) : Decidable (HasParameter admits parameters argIndex) :=
  decidable_of_iff
    ((∃ parameter ∈ parameters, parameter.name = .arg argIndex) ∧
      ∀ parameter ∈ parameters, parameter.name = .arg argIndex → admits parameter.typeName)
    ⟨fun both => ⟨both.1, both.2⟩, fun has => ⟨has.1, has.2⟩⟩

/-- An argument and the state that it is compared with. -/
def Condition.comparison? : Condition → Option (Int × Int)
  | .argIs argIndex state => some (argIndex, state)
  | .codeIs _ => none

@[simp]
theorem Condition.comparison?_eq_some {condition : Condition} {pair : Int × Int} :
    condition.comparison? = some pair ↔ condition = .argIs pair.1 pair.2 := by
  cases condition <;> simp [comparison?, Prod.ext_iff]

/-- The constant that the code is compared with. -/
def Condition.atomConstant? : Condition → Option String
  | .codeIs name => some name
  | .argIs .. => none

@[simp]
theorem Condition.atomConstant?_eq_some {condition : Condition} {name : String} :
    condition.atomConstant? = some name ↔ condition = .codeIs name := by
  cases condition <;> simp [atomConstant?]

/-- The comparisons can be read off the conditions one by one. -/
theorem compares_iff_filterMap {κ : Type u} {argIs : Int → Int → κ}
    {read : κ → Option (Int × Int)}
    (reads : ∀ {condition pair}, read condition = some pair ↔ condition = argIs pair.1 pair.2)
    {admits : String → Int → Prop} {parameters : List Parameter} {conditions : List κ} :
    Compares argIs admits parameters conditions ↔
      ∀ pair ∈ conditions.filterMap read, HasParameter (admits · pair.2) parameters pair.1 := by
  constructor
  · intro compares pair member
    obtain ⟨condition, listed, isPair⟩ := List.mem_filterMap.mp member
    exact compares pair.1 pair.2 (reads.mp isPair ▸ listed)
  · intro all argIndex state member
    exact all (argIndex, state) (List.mem_filterMap.mpr ⟨_, member, reads.mpr rfl⟩)

theorem compares_nil {κ : Type u} {argIs : Int → Int → κ} (admits : String → Int → Prop)
    (parameters : List Parameter) : Compares argIs admits parameters [] := by
  intro argIndex state member
  cases member

/-- What the atoms of both kinds ask for. -/
theorem forall_kinds_iff {registrations : List Registration} {asks : Registration → Prop} :
    ((∀ registration ∈ registrations,
        getAtomType registration.atomField.number = .pushed → asks registration) ∧
      ∀ registration ∈ registrations,
        getAtomType registration.atomField.number = .pulled → asks registration) ↔
      ∀ registration ∈ registrations, asks registration := by
  constructor
  · rintro ⟨ofPushed, ofPulled⟩ registration member
    cases kind : getAtomType registration.atomField.number with
    | pushed => exact ofPushed registration member kind
    | pulled => exact ofPulled registration member kind
  · intro asked
    exact ⟨fun registration member _ => asked registration member,
      fun registration member _ => asked registration member⟩

section Registered

variable {registrations : List Registration} {atoms : Atoms}
  (registered : Registered registrations atoms) {atomType : AtomType} {signature : Signature}
  {declSets : FieldNumberToAtomDeclSet}

include registered

theorem indexesDecls_signatureMap (atomType : AtomType) :
    IndexesDecls atoms.decls atomType (signatureMap atoms atomType) := by
  cases atomType with
  | pushed => exact registered.pushed.indexesDecls registered.decls
  | pulled => exact registered.pulled.indexesDecls registered.decls

section Found

variable (found : (signatureMap atoms atomType)[signature]? = some declSets)

include found

theorem mem_getAnnotations_iff {fieldNumber : Int} {decl : AtomDecl} :
    decl ∈ elements (getAnnotations fieldNumber declSets) ↔
      IsAnnotated atoms.decls atomType signature fieldNumber decl := by
  rw [← (indexesDecls_signatureMap registered atomType).mem_elements_iff found, getAnnotations]
  cases declSets[fieldNumber]? with
  | none => simp [elements]
  | some atomDeclSet => simp

/-- An annotated declaration is that of a registered atom. -/
theorem exists_registration_of_annotated {fieldNumber : Int} {decl : AtomDecl}
    (listed : decl ∈ elements (getAnnotations fieldNumber declSets)) :
    ∃ registration ∈ registrations, registration.decl = decl ∧
      getAtomType registration.atomField.number = atomType ∧
      signatureOf registration.atom = signature := by
  have isAnnotated := (mem_getAnnotations_iff registered found).mp listed
  rcases List.mem_map.mp (registered.decls.mem_elements.mp isAnnotated.member) with
    ⟨registration, member, rfl⟩
  exact ⟨registration, member, rfl, registration.decl_atomType.symm.trans isAnnotated.atomType,
    registration.signatureOf_eq.trans isAnnotated.signature⟩

/-- An atom of a signature is listed where it is annotated. -/
theorem listed_of_annotated {registration : Registration} (member : registration ∈ registrations)
    (kind : getAtomType registration.atomField.number = atomType)
    (isSignature : signatureOf registration.atom = signature) {fieldNumber : Int}
    {ann : Annotation} (annotated : ann ∈ annotationsOf registration.decl fieldNumber) :
    registration.decl ∈ elements (getAnnotations fieldNumber declSets) := by
  rw [mem_getAnnotations_iff registered found]
  refine ⟨registered.decls.mem_elements.mpr (List.mem_map_of_mem member),
    registration.decl_atomType.trans kind, registration.signatureOf_eq.symm.trans isSignature, ?_⟩
  by_contra missing
  rw [annotationsOf, ExtTreeMap.getElem?_eq_none missing] at annotated
  simp [elements] at annotated

/-- What is reset at the fields of a signature belongs to an atom of the signature. -/
theorem resetsIn_iff {index : Nat} {state : Int} :
    ResetsIn declSets (1 + index) state ↔ ∃ registration ∈ registrations,
      getAtomType registration.atomField.number = atomType ∧
        signatureOf registration.atom = signature ∧
        HasReset (annotationsOf registration.decl (1 + index)) ∧
        state = declaredState .triggerStateReset (annotationsOf registration.decl (1 + index)) := by
  constructor
  · rintro ⟨decl, listed, hasReset, isState⟩
    obtain ⟨registration, member, rfl, kind, isSignature⟩ :=
      exists_registration_of_annotated registered found listed
    exact ⟨registration, member, kind, isSignature, hasReset, isState⟩
  · rintro ⟨registration, member, kind, isSignature, hasReset, isState⟩
    obtain ⟨ann, annMem, -⟩ := exists_mem_of_declaredState hasReset.2
    exact ⟨registration.decl,
      listed_of_annotated registered found member kind isSignature annMem, hasReset, isState⟩

/-- A method that compares the arguments whose fields are reset compares what it can exactly
when the atoms of its signature do. -/
theorem compares_iff {κ : Type u} {argIs : Int → Int → κ} {admits : String → Int → Prop}
    {comparable : JavaType → Int → Bool} {parameters : List Parameter} {conditions : List κ}
    (first : Nat)
    (tested : ∀ argIndex state, argIs argIndex state ∈ conditions ↔
      IsFieldNumber first signature argIndex ∧ ResetsIn declSets argIndex state)
    (typed : ∀ (index : Nat) type state, signature[index]? = some type →
      (HasParameter (admits · state) parameters (1 + index) ↔ comparable type state = true)) :
    Compares argIs admits parameters conditions ↔ ∀ registration ∈ registrations,
      getAtomType registration.atomField.number = atomType →
        signatureOf registration.atom = signature →
          ComparesResets first comparable registration.decl := by
  constructor
  · intro compares registration member kind isSignature index type bound isType hasReset
    rw [registration.signatureOf_eq.symm.trans isSignature] at isType
    apply (typed index type _ isType).mp
    apply compares
    rw [tested, resetsIn_iff registered found]
    have inRange := (List.getElem?_eq_some_iff.mp isType).1
    exact ⟨Or.inr ⟨index, bound, inRange, rfl⟩, registration, member, kind, isSignature, hasReset,
      rfl⟩
  · intro resets argIndex state member
    rw [tested] at member
    obtain ⟨rfl | ⟨index, bound, inRange, rfl⟩, isReset⟩ := member
    · obtain ⟨decl, listed, hasReset, -⟩ := isReset
      obtain ⟨registration, -, rfl, -, -⟩ :=
        exists_registration_of_annotated registered found listed
      exact absurd hasReset (not_hasReset_atomId registration)
    · obtain ⟨registration, registrationMem, kind, isSignature, hasReset, rfl⟩ :=
        (resetsIn_iff registered found).mp isReset
      have isType : signature[index]? = some signature[index] := List.getElem?_eq_getElem inRange
      rw [typed index _ _ isType]
      refine resets registration registrationMem kind isSignature index _ bound ?_ hasReset
      rw [registration.signatureOf_eq.symm.trans isSignature]
      exact isType

end Found

/-- What holds of the methods of a kind is asked for by the atoms of the kind. -/
theorem forall_methods_iff {μ : Type} {write : Signature × FieldNumberToAtomDeclSet →
      Except WriterError μ} {holds : μ → Prop} {asks : Registration → Prop} {methods : List μ}
    (written : (signatureMap atoms atomType).toList.mapM write = .ok methods)
    (ofEntry : ∀ entry : Signature × FieldNumberToAtomDeclSet,
      (signatureMap atoms atomType)[entry.1]? = some entry.2 → ∀ method, write entry = .ok method →
        (holds method ↔ ∀ registration ∈ registrations,
          getAtomType registration.atomField.number = atomType →
            signatureOf registration.atom = entry.1 → asks registration)) :
    (∀ method ∈ methods, holds method) ↔ ∀ registration ∈ registrations,
      getAtomType registration.atomField.number = atomType → asks registration := by
  constructor
  · intro all registration member kind
    have present : signatureOf registration.atom ∈ signatureMap atoms atomType :=
      ((indexesDecls_signatureMap registered atomType).signatures _).mpr ⟨registration.decl,
        registered.decls.mem_elements.mpr (List.mem_map_of_mem member),
        registration.decl_atomType.trans kind, registration.signatureOf_eq.symm⟩
    obtain ⟨declSets, found⟩ := mem_iff_exists_getElem?.mp present
    obtain ⟨method, isWritten⟩ := exists_ok_of_mapM written
      (ExtTreeMap.mem_toList_iff_getElem?_eq_some.mpr found)
    have methodMem := (mem_of_mapM_eq_ok written).mpr
      ⟨_, ExtTreeMap.mem_toList_iff_getElem?_eq_some.mpr found, isWritten⟩
    exact (ofEntry _ found method isWritten).mp (all method methodMem) registration member kind rfl
  · intro asked method methodMem
    obtain ⟨entry, listed, isWritten⟩ := (mem_of_mapM_eq_ok written).mp methodMem
    exact (ofEntry entry (ExtTreeMap.mem_toList_iff_getElem?_eq_some.mp listed) method
      isWritten).mpr fun registration member kind _ => asked registration member kind

end Registered

/-! ## What languages compare -/

/-- The types that C++ compares with a number in the texts of parameters. -/
def cppAdmits (typeName : String) (state : Int) : Prop :=
  typeName ∈ ["bool", "int32_t", "int64_t", "float"] ∨ typeName = "char const*" ∧ state = 0

def javaAdmits (typeName : String) (_ : Int) : Prop :=
  typeName ∈ ["int", "long", "float"]

instance : DecidableRel cppAdmits := fun _ _ => inferInstanceAs (Decidable (_ ∨ _ ∧ _))

instance : DecidableRel javaAdmits := fun _ _ => inferInstanceAs (Decidable (_ ∈ _))

theorem cppAdmits_iff {isVendorAtomLogging : Bool} {type : JavaType} {state : Int} :
    type ≠ .attributionChain ∧ cppAdmits (cppTypeName isVendorAtomLogging type) state ↔
      cppComparable type state = true := by
  cases isVendorAtomLogging <;> cases type <;> simp [cppAdmits, cppTypeName, cppComparable]

theorem javaAdmits_iff {type : JavaType} {state : Int} :
    type ≠ .attributionChain ∧ javaAdmits (javaTypeName type) state ↔
      javaComparable type state = true := by
  cases type <;> simp [javaAdmits, javaTypeName, javaComparable]

/-- The types of integers in C++. -/
def cppIntegers (typeName : String) (_ : Int) : Prop :=
  typeName ∈ ["int32_t", "int64_t"]

/-- The types of integers in Java. -/
def javaIntegers (typeName : String) (_ : Int) : Prop :=
  typeName ∈ ["int", "long"]

theorem cppIntegers_iff {isVendorAtomLogging : Bool} {type : JavaType} {state : Int} :
    type ≠ .attributionChain ∧ cppIntegers (cppTypeName isVendorAtomLogging type) state ↔
      rustComparable type state = true := by
  rw [rustComparable_iff]
  cases isVendorAtomLogging <;> cases type <;> simp [cppIntegers, cppTypeName, IsInteger]

theorem javaIntegers_iff {type : JavaType} {state : Int} :
    type ≠ .attributionChain ∧ javaIntegers (javaTypeName type) state ↔
      rustComparable type state = true := by
  rw [rustComparable_iff]
  cases type <;> simp [javaIntegers, javaTypeName, IsInteger]

end StatsLogApiGen.Writer
