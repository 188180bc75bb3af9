import StatsLogApiGen.Vendor.AnnotationNames
import StatsLogApiGen.Writer.Compiles

/-!
# Vendor methods that compile

A vendor method names the constants of atoms, which its file declares, and those of annotations,
which the AIDL compiler declares.  It prints a restriction category without a prefix, and nothing
declares that name.
-/

namespace StatsLogApiGen.Vendor

open Std
open StatsLogApiGen.Container
open StatsLogApiGen.Proto
open StatsLogApiGen.Collation
open StatsLogApiGen.Program
open StatsLogApiGen.Writer

/-- The constants that the value of an annotation names. -/
def ValueOperand.constantNames : ValueOperand → List ConstantName
  | .intValue value => value.constantNames
  | .boolValue _ => []

/-- The constants for stored annotations and their values are declared. -/
def DeclaresStored (declared : ConstantName → Prop) (stored : List (String × ValueOperand)) :
    Prop :=
  ∀ pair ∈ stored, declared (.annotations pair.1) ∧ ∀ name ∈ pair.2.constantNames, declared name

instance (declared : ConstantName → Prop) [DecidablePred declared]
    (stored : List (String × ValueOperand)) : Decidable (DeclaresStored declared stored) :=
  inferInstanceAs (Decidable (∀ _ ∈ _, _))

/-- Only restriction categories are named in values. -/
theorem constantNames_printedValue {ann : Annotation}
    (noCategory : ann.annotationId ≠ .restrictionCategory) :
    (printedValue ann).constantNames = [] := by
  rcases ann with ⟨annotationId, atomId, value⟩
  cases value with
  | bool boolValue => rfl
  | int intValue =>
      rw [printedValue]
      dsimp only
      rw [if_neg noCategory]
      rfl

/-- The names in a vendor method are declared if those of restricted atoms are. -/
theorem declaresStored_iff {registrations : List Registration} {atoms : Atoms}
    (registered : Registered registrations atoms) {entry : Signature × FieldNumberToAtomDeclSet}
    (found : (signatureMap atoms .pushed)[entry.1]? = some entry.2)
    {constants : AnnotationIdConstants} {declared : ConstantName → Prop}
    (ids : ∀ registration ∈ registrations,
      getAtomType registration.atomField.number = .pushed →
        signatureOf registration.atom = entry.1 → ∀ fieldNumber,
          ∀ ann ∈ annotationsOf registration.decl fieldNumber,
            ann.annotationId ≠ .restrictionCategory →
              declared (.annotations (constants ann.annotationId).name)) :
    DeclaresStored declared (withNames constants (methodAnnotations entry)) ↔
      ∀ registration ∈ registrations, getAtomType registration.atomField.number = .pushed →
        signatureOf registration.atom = entry.1 → ∀ category,
          registration.atomField.options.restrictionCategory = some category →
            declared (.annotations (constants .restrictionCategory).name) ∧
              declared (.annotations (getRestrictionCategoryStr category.number)) := by
  constructor
  · intro declares registration member kind isSignature category isCategory
    have annotated := mem_of_restrictionCategory isCategory
    have listed := listed_of_annotated registered found member kind isSignature annotated
    have direct : (⟨.restrictionCategory, registration.atomField.number, .int category.number⟩ :
        Annotation) ∈ directAnnotations (annotationsOf registration.decl atomIdFieldNumber) :=
      List.mem_filter.mpr ⟨annotated, rfl⟩
    have printed : (AnnotationId.restrictionCategory,
        ValueOperand.intValue (.constant (getRestrictionCategoryStr category.number))) ∈
          methodAnnotations entry := by
      rw [methodAnnotations, List.mem_append, fieldAnnotations, List.mem_flatMap]
      exact Or.inl ⟨registration.decl, listed,
        List.mem_append_left _ (List.mem_map.mpr ⟨_, direct, rfl⟩)⟩
    have both := declares _ (List.mem_map_of_mem printed)
    exact ⟨both.1, both.2 _ List.mem_cons_self⟩
  · intro asked pair stored
    have fromField {fieldNumber : Int} {annotationId : AnnotationId} {value : ValueOperand}
        (printed : (annotationId, value) ∈
          fieldAnnotations fieldNumber (getAnnotations fieldNumber entry.2)) :
        declared (.annotations (constants annotationId).name) ∧
          ∀ name ∈ value.constantNames, declared name := by
      obtain ⟨decl, listed, inDecl⟩ := List.mem_flatMap.mp printed
      obtain ⟨registration, member, rfl, kind, isSignature⟩ :=
        exists_registration_of_annotated registered found listed
      have declaredId := ids registration member kind isSignature fieldNumber
      rcases List.mem_append.mp inDecl with isDirect | isReset
      · obtain ⟨ann, direct, isPair⟩ := List.mem_map.mp isDirect
        cases isPair
        have annMem := List.mem_of_mem_filter direct
        by_cases isCategory : ann.annotationId = .restrictionCategory
        · obtain ⟨-, category, isOption, isValue⟩ := exists_category_of_mem annMem isCategory
          obtain ⟨idDeclared, categoryDeclared⟩ :=
            asked registration member kind isSignature category isOption
          refine ⟨isCategory ▸ idDeclared, ?_⟩
          rw [printedValue, isValue]
          dsimp only
          rw [if_pos isCategory]
          exact List.forall_mem_singleton.mpr categoryDeclared
        · rw [constantNames_printedValue isCategory]
          exact ⟨declaredId ann annMem isCategory, List.forall_mem_nil _⟩
      · split at isReset
        · rename_i hasReset
          cases List.mem_singleton.mp isReset
          obtain ⟨ann, annMem, isId⟩ := exists_mem_of_declaredState hasReset.2
          have declaredReset := declaredId ann annMem (by rw [isId]; decide)
          rw [isId] at declaredReset
          exact ⟨declaredReset, List.forall_mem_nil _⟩
        · cases isReset
    obtain ⟨printed, listed, rfl⟩ := List.mem_map.mp stored
    rcases List.mem_append.mp listed with ofAtom | ofValue
    · exact fromField ofAtom
    · obtain ⟨argIndex, -, ofField⟩ := List.mem_flatMap.mp ofValue
      exact fromField ofField

/-- The codes that a vendor method tests are those of atoms. -/
theorem hasConstant_of_isTested {registrations : List Registration} {atoms : Atoms}
    (registered : Registered registrations atoms) {entry : Signature × FieldNumberToAtomDeclSet}
    (found : (signatureMap atoms .pushed)[entry.1]? = some entry.2)
    {constants : String → Option Int} {fieldNumber : Int} {name : String}
    (tested : IsTested entry.2 fieldNumber (.codeIs name)) :
    HasConstant atoms constants (.atom name) := by
  obtain ⟨decl, listed, isCode | ⟨-, isState⟩⟩ := tested
  · cases isCode
    exact hasConstant_atom ((mem_getAnnotations_iff registered found).mp listed).member
  · cases isState

/-- The parameter for the first field has the type of the field. -/
theorem hasParameter_first_iff {admits : String → Prop} {parameters : List Parameter}
    {typeName : JavaType → String} {signature : Signature}
    (typed : ∀ (index : Nat) type, signature[index]? = some type →
      (HasParameter admits parameters (1 + index) ↔
        type ≠ .attributionChain ∧ admits (typeName type)))
    (none : signature = [] → ∀ parameter ∈ parameters, parameter.name ≠ .arg 1) :
    HasParameter admits parameters 1 ↔
      ∃ type ∈ signature.head?, type ≠ .attributionChain ∧ admits (typeName type) := by
  cases signature with
  | nil =>
      refine iff_of_false ?_ (by simp)
      rintro ⟨⟨parameter, member, isFirst⟩, -⟩
      exact none rfl parameter member isFirst
  | cons first rest =>
      have ofFirst := typed 0 first rfl
      rw [Int.natCast_zero, Int.add_zero] at ofFirst
      simpa using ofFirst

/-! ## C++ -/

namespace Native

/-- The types of which a `std::string` is assigned a value. -/
def assignedTypes : List String :=
  ["char const*", "bool", "int32_t", "int64_t", "float"]

/-- A method compiles. -/
structure Method.Compiles (method : Method) (atoms : Atoms) (platform : Platform) : Prop where
  atomNames : ∀ name, .reads (.codeIs name) ∈ conditionsOf method.body →
    HasConstant atoms (visibleConstants platform) (.atom name)
  names : DeclaresStored (HasConstant atoms (visibleConstants platform))
    (storedAnnotations Statement.stored? method.body)
  compares : method.Compares cppAdmits
  assigns : HasParameter (· ∈ assignedTypes) method.parameters 1

instance (method : Method) (atoms : Atoms) (platform : Platform) :
    Decidable (method.Compiles atoms platform) :=
  decidable_of_iff (_ ∧ _ ∧ _ ∧ _)
    ⟨fun all => ⟨(forall_codeIs_iff Test.reads?_eq_some).mpr all.1, all.2.1, all.2.2.1, all.2.2.2⟩,
    fun compiles => ⟨(forall_codeIs_iff Test.reads?_eq_some).mp compiles.atomNames,
      compiles.names, compiles.compares, compiles.assigns⟩⟩

/-- The restriction category that needs no constant is the unset one. -/
def AllowsUnset (platform : Platform) (category : Int) : Prop :=
  (platform (annotationConstantNameVendorNativePrefix ++
    annotationIdName .restrictionCategory)).isSome = true ∧ category = 0

theorem hasConstant_annotationId_iff {atoms : Atoms} {platform : Platform}
    (annotationId : AnnotationId) :
    HasConstant atoms (visibleConstants platform) (.annotations
      (getAnnotationIdConstants annotationConstantNameVendorNativePrefix annotationId).name) ↔
      (platform (annotationConstantNameVendorNativePrefix ++
        annotationIdName annotationId)).isSome = true := by
  have notEmpty : annotationConstantNameVendorNativePrefix ++ annotationIdName annotationId ≠
      "" := by
    cases annotationId <;> decide
  change (visibleConstants platform (annotationConstantNameVendorNativePrefix ++
    annotationIdName annotationId)).isSome = true ↔ _
  rw [visibleConstants, if_neg notEmpty]

/-- The types of parameters that a `std::string` is assigned. -/
theorem assignedTypes_iff {type : JavaType} :
    type ≠ .attributionChain ∧ cppTypeName true type ∈ assignedTypes ↔
      type ∈ [.string, .boolean, .int, .enum, .long, .float] := by
  cases type <;> decide

section Compiles

variable {registrations : List Registration} {atoms : Atoms}
  (registered : Registered registrations atoms) {platform : Platform}
  {entry : Signature × FieldNumberToAtomDeclSet}
  (found : (signatureMap atoms .pushed)[entry.1]? = some entry.2)
  (ids : ∀ registration ∈ registrations, getAtomType registration.atomField.number = .pushed →
    signatureOf registration.atom = entry.1 → ∀ fieldNumber,
      ∀ ann ∈ annotationsOf registration.decl fieldNumber,
        ann.annotationId ≠ .restrictionCategory →
          (platform (annotationConstantNameVendorNativePrefix ++
            annotationIdName ann.annotationId)).isSome = true)
  (noCategories : ∀ category : RestrictionCategory,
    platform (getRestrictionCategoryStr category.number) = none)

include registered found ids noCategories

/-- The `createVendorAtom` of a signature compiles exactly when the atoms of the signature can
be issued and the first field can be assigned. -/
theorem compiles_createVendorAtom_iff {method : Method}
    (written : writeNativeCreateVendorAtomMethod
      (getAnnotationIdConstants annotationConstantNameVendorNativePrefix) attributionDecl entry =
        .ok method) :
    method.Compiles atoms platform ↔
      (∀ registration ∈ registrations, getAtomType registration.atomField.number = .pushed →
        signatureOf registration.atom = entry.1 →
          Issuable 1 cppComparable (AllowsUnset platform) registration.decl) ∧
      ∃ type ∈ entry.1.head?, type ∈ [.string, .boolean, .int, .enum, .long, .float] := by
  have visible_iff (category : RestrictionCategory) :
      HasConstant atoms (visibleConstants platform)
          (.annotations (getRestrictionCategoryStr category.number)) ↔ category.number = 0 := by
    cases category
    case unset => exact iff_of_true rfl rfl
    all_goals
      refine iff_of_false ?_ (by decide)
      rw [HasConstant, visibleConstants, if_neg (by decide), noCategories]
      simp
  have names := declaresStored_iff registered found
    fun registration member kind isSignature fieldNumber ann annMem noCategory =>
      (@hasConstant_annotationId_iff atoms platform _).mpr
        (ids registration member kind isSignature fieldNumber ann annMem noCategory)
  have compares := compares_createVendorAtom_iff registered cppAdmits_iff found written
  have atomNames (name : String) (tested : .reads (.codeIs name) ∈ conditionsOf method.body) :
      HasConstant atoms (visibleConstants platform) (.atom name) := by
    obtain ⟨fieldNumber, -, isTested⟩ := (reads_mem_createVendorAtom written).mp tested
    exact hasConstant_of_isTested registered found isTested
  have assigns : HasParameter (· ∈ assignedTypes) method.parameters 1 ↔
      ∃ type ∈ entry.1.head?, type ∈ [.string, .boolean, .int, .enum, .long, .float] := by
    obtain ⟨values, -, rfl⟩ := map_eq_ok_iff.mp written
    rw [hasParameter_first_iff (fun index type isType =>
      hasParameter_native attributionDecl isType (by simp) true)]
    · simp only [assignedTypes_iff]
    · intro isEmpty
      rw [isEmpty]
      simp [writeNativeMethodSignature, nativeSignatureParameters]
  have stored := storedAnnotations_method _ written
  simp only [hasConstant_annotationId_iff, visible_iff] at names
  simp only [issuable_iff, AllowsUnset]
  rw [forall_ofSignature_and, ← names, ← compares, ← stored, ← assigns]
  constructor
  · intro compiles
    exact ⟨⟨compiles.names, compiles.compares⟩, compiles.assigns⟩
  · rintro ⟨⟨isNamed, isCompared⟩, isAssigned⟩
    exact ⟨atomNames, isNamed, isCompared, isAssigned⟩

end Compiles

end Native

/-! ## Java -/

namespace Java

/-- A method compiles. -/
structure Method.Compiles (method : Method) (atoms : Atoms) (platform : Platform) : Prop where
  atomNames : ∀ name, .reads (.codeIs name) ∈ conditionsOf method.body →
    HasConstant atoms platform (.atom name)
  names : DeclaresStored (HasConstant atoms platform)
    (storedAnnotations Statement.stored? method.body)
  compares : method.Compares javaAdmits
  assigns : HasParameter (· = "java.lang.String") method.parameters 1

instance (method : Method) (atoms : Atoms) (platform : Platform) :
    Decidable (method.Compiles atoms platform) :=
  decidable_of_iff (_ ∧ _ ∧ _ ∧ _)
    ⟨fun all => ⟨(forall_codeIs_iff Test.reads?_eq_some).mpr all.1, all.2.1, all.2.2.1, all.2.2.2⟩,
    fun compiles => ⟨(forall_codeIs_iff Test.reads?_eq_some).mp compiles.atomNames,
      compiles.names, compiles.compares, compiles.assigns⟩⟩

theorem string_iff {type : JavaType} :
    type ≠ .attributionChain ∧ javaTypeName type = "java.lang.String" ↔ type = .string := by
  cases type <;> decide

section Compiles

variable {registrations : List Registration} {atoms : Atoms}
  (registered : Registered registrations atoms) {platform : Platform}
  {entry : Signature × FieldNumberToAtomDeclSet}
  (found : (signatureMap atoms .pushed)[entry.1]? = some entry.2)
  (ids : ∀ registration ∈ registrations, getAtomType registration.atomField.number = .pushed →
    signatureOf registration.atom = entry.1 → ∀ fieldNumber,
      ∀ ann ∈ annotationsOf registration.decl fieldNumber,
        ann.annotationId ≠ .restrictionCategory →
          (platform (annotationConstantNameVendorPrefix ++
            annotationIdName ann.annotationId)).isSome = true)
  (noCategories : ∀ category : RestrictionCategory,
    platform (getRestrictionCategoryStr category.number) = none)

include registered found ids noCategories

/-- The `createVendorAtom` of a signature compiles exactly when the atoms of the signature can
be issued and the first field is a string. -/
theorem compiles_createVendorAtom_iff {method : Method}
    (written : writeJavaPushedMethodVendor
      (getAnnotationIdConstants annotationConstantNameVendorPrefix) entry = .ok method) :
    method.Compiles atoms platform ↔
      (∀ registration ∈ registrations, getAtomType registration.atomField.number = .pushed →
        signatureOf registration.atom = entry.1 →
          Issuable 1 javaComparable (fun _ => False) registration.decl) ∧
      entry.1.head? = some .string := by
  have invisible (category : RestrictionCategory) :
      ¬HasConstant atoms platform (.annotations (getRestrictionCategoryStr category.number)) := by
    rw [HasConstant, noCategories]
    simp
  have names := @declaresStored_iff _ _ registered _ found
    (getAnnotationIdConstants annotationConstantNameVendorPrefix) (HasConstant atoms platform) ids
  have compares := compares_createVendorAtom_iff registered javaAdmits_iff found written
  have atomNames (name : String) (tested : .reads (.codeIs name) ∈ conditionsOf method.body) :
      HasConstant atoms platform (.atom name) := by
    obtain ⟨fieldNumber, -, isTested⟩ := (reads_mem_createVendorAtom written).mp tested
    exact hasConstant_of_isTested registered found isTested
  have assigns : HasParameter (· = "java.lang.String") method.parameters 1 ↔
      entry.1.head? = some .string := by
    obtain ⟨parameters, isParameters, rest⟩ := bind_eq_ok_iff.mp written
    obtain ⟨body, -, rfl⟩ := map_eq_ok_iff.mp rest
    rw [writeJavaMethodSignature] at isParameters
    split at isParameters
    · cases isParameters
    · cases isParameters
      rw [hasParameter_first_iff (fun index type isType => hasParameter_java {} isType)]
      · simp only [string_iff, exists_eq_right, Option.mem_def]
      · intro isEmpty
        rw [isEmpty]
        simp [javaSignatureParameters]
  have stored := storedAnnotations_method _ written
  simp only [invisible, and_false] at names
  simp only [issuable_iff]
  rw [forall_ofSignature_and, ← names, ← compares, ← stored, ← assigns]
  constructor
  · intro compiles
    exact ⟨⟨compiles.names, compiles.compares⟩, compiles.assigns⟩
  · rintro ⟨⟨isNamed, isCompared⟩, isAssigned⟩
    exact ⟨atomNames, isNamed, isCompared, isAssigned⟩

end Compiles

end Java

end StatsLogApiGen.Vendor
