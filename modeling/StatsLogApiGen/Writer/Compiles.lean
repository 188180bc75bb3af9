import StatsLogApiGen.Writer.Mentions

/-!
# Methods that compile

A generated method is part of a program only if the constants that it names are declared and
its comparisons have types that admit them.  Both depend on all atoms that share the method,
and this file says how.
-/

namespace StatsLogApiGen.Writer

open Std
open StatsLogApiGen.Container
open StatsLogApiGen.Proto
open StatsLogApiGen.Collation
open StatsLogApiGen.Program

/-- A constant that a method names is declared: one for the code of an atom, or one for
annotations. -/
def HasConstant (atoms : Atoms) (constants : String → Option Int) : ConstantName → Prop
  | .atom name => name ∈ (atomConstants atoms).map Prod.fst
  | .annotations name => (constants name).isSome = true

instance (atoms : Atoms) (constants : String → Option Int) :
    DecidablePred (HasConstant atoms constants)
  | .atom _ => inferInstanceAs (Decidable (_ ∈ _))
  | .annotations _ => inferInstanceAs (Decidable (_ = _))

theorem hasConstant_atom {atoms : Atoms} {constants : String → Option Int} {decl : AtomDecl}
    (member : decl ∈ elements atoms.decls) :
    HasConstant atoms constants (.atom (makeConstantName decl.name)) := by
  rw [HasConstant, atomConstants, List.map_map]
  exact List.mem_map_of_mem member

theorem hasConstant_of_eq_some {atoms : Atoms} {constants : String → Option Int} {name : String}
    {value : Int} (declared : constants name = some value) :
    HasConstant atoms constants (.annotations name) := by
  rw [HasConstant, declared]
  rfl

/-- Every restriction category but the unset one has a name. -/
theorem isNamedCategory_number_iff {category : RestrictionCategory} :
    IsNamedCategory category.number ↔ category ≠ .unset := by
  cases category <;> simp [IsNamedCategory, RestrictionCategory.number]

theorem Platform.DeclaresAnnotations.isSome_category_iff {platform : Platform}
    {namePrefix : String} (declares : platform.DeclaresAnnotations namePrefix)
    (category : RestrictionCategory) :
    (platform (namePrefix ++ getRestrictionCategoryStr category.number)).isSome = true ↔
      IsNamedCategory category.number := by
  rw [declares.category, isNamedCategory_number_iff]
  split <;> simp_all

/-- What code for a registered atom can name and compare is up to the options of the atom and
of its fields. -/
theorem issuable_iff {registration : Registration} {first : Nat}
    {comparable : JavaType → Int → Bool} {allowed : Int → Prop} :
    Issuable first comparable allowed registration.decl ↔
      (∀ category, registration.atomField.options.restrictionCategory = some category →
        allowed category.number) ∧
      ComparesResets first comparable registration.decl := by
  constructor
  · rintro ⟨categories, compared⟩
    refine ⟨fun category isCategory => ?_, compared⟩
    exact categories atomIdFieldNumber _ (mem_of_restrictionCategory isCategory) rfl _ rfl
  · rintro ⟨allows, compared⟩
    refine ⟨fun fieldNumber ann member isCategory number isValue => ?_, compared⟩
    obtain ⟨-, category, isOption, isNumber⟩ := exists_category_of_mem member isCategory
    cases isValue.symm.trans isNumber
    exact allows category isOption

/-- What is asked of the atoms of a signature is asked of each. -/
theorem forall_ofSignature_and {registrations : List Registration} {atomType : AtomType}
    {signature : Signature} {asks demands : Registration → Prop} :
    (∀ registration ∈ registrations, getAtomType registration.atomField.number = atomType →
      signatureOf registration.atom = signature → asks registration ∧ demands registration) ↔
      (∀ registration ∈ registrations, getAtomType registration.atomField.number = atomType →
        signatureOf registration.atom = signature → asks registration) ∧
      ∀ registration ∈ registrations, getAtomType registration.atomField.number = atomType →
        signatureOf registration.atom = signature → demands registration := by
  constructor
  · intro both
    exact ⟨fun registration member kind isSignature =>
      (both registration member kind isSignature).1, fun registration member kind isSignature =>
        (both registration member kind isSignature).2⟩
  · rintro ⟨asked, demanded⟩ registration member kind isSignature
    exact ⟨asked registration member kind isSignature,
      demanded registration member kind isSignature⟩

/-- What is asked of the atoms of a signature is asked of their declarations. -/
theorem forall_ofSignature_iff {registrations : List Registration} {atoms : Atoms}
    (registered : Registered registrations atoms) {atomType : AtomType} {signature : Signature}
    {asks : AtomDecl → Prop} :
    (∀ registration ∈ registrations, getAtomType registration.atomField.number = atomType →
      signatureOf registration.atom = signature → asks registration.decl) ↔
      ∀ other ∈ elements atoms.decls, other.atomType = atomType → other.signature = signature →
        asks other := by
  constructor
  · intro asked other otherMem kind isSignature
    obtain ⟨registration, member, rfl⟩ :=
      List.mem_map.mp (registered.decls.mem_elements.mp otherMem)
    exact asked registration member (registration.decl_atomType.symm.trans kind)
      (registration.signatureOf_eq.trans isSignature)
  · intro asked registration member kind isSignature
    exact asked registration.decl
      (registered.decls.mem_elements.mpr (List.mem_map_of_mem member))
      (registration.decl_atomType.trans kind) (registration.signatureOf_eq.symm.trans isSignature)

/-! ## Restricted atoms -/

/-- A selected atom of the kind and with the signature of a declaration is restricted. -/
def SharesRestricted (descriptor : AtomDescriptor) (moduleName : String) (decl : AtomDecl) : Prop :=
  ∃ atomField ∈ selectedAtoms descriptor moduleName, ∃ atom, atomField.type = .message atom ∧
    getAtomType atomField.number = decl.atomType ∧ signatureOf atom = decl.signature ∧
    atomField.options.restrictionCategory ≠ none

/-- Without restricted atoms none is shared. -/
theorem not_sharesRestricted {descriptor : AtomDescriptor} {moduleName : String} {decl : AtomDecl}
    (unrestricted : ∀ atomField ∈ selectedAtoms descriptor moduleName,
      atomField.options.restrictionCategory = none) :
    ¬SharesRestricted descriptor moduleName decl := by
  rintro ⟨atomField, selected, -, -, -, -, restricted⟩
  exact restricted (unrestricted atomField selected)

/-- The atoms of a signature have no restriction category. -/
theorem forall_unrestricted_iff {descriptor : AtomDescriptor} {moduleName : String}
    {registrations : List Registration}
    (selected : registrations.map Registration.atomField = selectedAtoms descriptor moduleName)
    {decl : AtomDecl} :
    (∀ registration ∈ registrations, getAtomType registration.atomField.number = decl.atomType →
      signatureOf registration.atom = decl.signature →
        registration.atomField.options.restrictionCategory = none) ↔
      ¬SharesRestricted descriptor moduleName decl := by
  constructor
  · rintro unrestricted ⟨atomField, selectedMem, atom, type, kind, isSignature, restricted⟩
    obtain ⟨registration, member, rfl, rfl⟩ := exists_registration selected selectedMem type
    exact restricted (unrestricted registration member kind isSignature)
  · intro notShared registration member kind isSignature
    by_contra restricted
    exact notShared ⟨registration.atomField, selected ▸ List.mem_map_of_mem member, _,
      registration.rule.type, kind, isSignature, restricted⟩

/-- Atoms without restriction categories and with integers for states can be issued wherever
integers are compared. -/
theorem forall_issuable_of_unrestricted {descriptor : AtomDescriptor} {moduleName : String}
    {registrations : List Registration} {atoms : Atoms}
    (registered : Registered registrations atoms)
    (selected : registrations.map Registration.atomField = selectedAtoms descriptor moduleName)
    (resets : IntegerResets atoms) {decl : AtomDecl}
    (notShared : ¬SharesRestricted descriptor moduleName decl) {first : Nat}
    {comparable : JavaType → Int → Bool} {allowed : Int → Prop}
    (integers : ∀ {type}, IsInteger type → ∀ state, comparable type state = true) :
    ∀ other ∈ elements atoms.decls, other.atomType = decl.atomType →
      other.signature = decl.signature → Issuable first comparable allowed other := by
  rw [← forall_ofSignature_iff registered]
  intro registration member kind isSignature
  have unrestricted :=
    (forall_unrestricted_iff selected).mpr notShared registration member kind isSignature
  refine issuable_iff.mpr ⟨fun category isCategory => ?_, ?_⟩
  · rw [unrestricted] at isCategory
    cases isCategory
  · exact resets.compared (registered.decls.mem_elements.mpr (List.mem_map_of_mem member)) integers
      first

theorem NamedCategories.isNamedCategory {atoms : Atoms} (named : NamedCategories atoms)
    {registration : Registration} (member : registration.decl ∈ elements atoms.decls)
    {category : RestrictionCategory}
    (isCategory : registration.atomField.options.restrictionCategory = some category) :
    IsNamedCategory category.number :=
  (named.annotationsOf member _ _ (mem_of_restrictionCategory isCategory)).allowsCategory rfl _ rfl

end StatsLogApiGen.Writer

/-! ## C++ -/

namespace StatsLogApiGen.Native

open Std
open StatsLogApiGen.Container
open StatsLogApiGen.Proto
open StatsLogApiGen.Collation
open StatsLogApiGen.Writer

/-- A method compiles in a source for an API level. -/
structure Method.Compiles (method : Method) (atoms : Atoms) (constants : AnnotationIdConstants)
    (platform : Platform) (minApiLevel : Int) : Prop where
  names : ∀ name ∈ method.body.constantNames,
    HasConstant atoms (visibleConstants constants platform minApiLevel) name
  compares : method.Compares cppAdmits

instance (method : Method) (atoms : Atoms) (constants : AnnotationIdConstants)
    (platform : Platform) (minApiLevel : Int) :
    Decidable (method.Compiles atoms constants platform minApiLevel) :=
  decidable_of_iff (_ ∧ _)
    ⟨fun both => ⟨both.1, both.2⟩, fun compiles => ⟨compiles.names, compiles.compares⟩⟩

section Compiles

variable {registrations : List Registration} {atoms : Atoms}
  (registered : Registered registrations atoms) {platform : Platform}
  (declares : platform.DeclaresAnnotations "ASTATSLOG_") {minApiLevel : Int}

include declares

theorem hasConstant_annotationId (annotationId : AnnotationId) :
    HasConstant atoms (visibleConstants (getAnnotationIdConstants annotationConstantNamePrefix)
      platform minApiLevel) (.annotations (constantPrefix minApiLevel ++
        (getAnnotationIdConstants annotationConstantNamePrefix annotationId).name)) :=
  hasConstant_of_eq_some (visibleConstants_annotationId declares minApiLevel annotationId)

/-- The header has no constants for restriction categories. -/
theorem hasConstant_category_iff (category : RestrictionCategory) :
    HasConstant atoms (visibleConstants (getAnnotationIdConstants annotationConstantNamePrefix)
      platform minApiLevel) (.annotations (constantPrefix minApiLevel ++
        getRestrictionCategoryStr category.number)) ↔
      IsDeclaredCategory minApiLevel category.number := by
  rw [HasConstant, IsDeclaredCategory]
  by_cases upToR : minApiLevel ≤ apiR
  · have absent : (writeNativeAnnotationConstants (getAnnotationIdConstants
        annotationConstantNamePrefix)).lookup (getRestrictionCategoryStr category.number) =
        none := by
      cases category <;> decide
    rw [visibleConstants, if_pos upToR, constantPrefix, if_neg (by omega), String.empty_append,
      absent]
    exact iff_of_false (by simp) fun declared => by omega
  · rw [visibleConstants, if_neg upToR, constantPrefix, if_pos (by omega),
      declares.isSome_category_iff]
    exact (and_iff_left (by omega)).symm

include registered

/-- The `stats_write` of a signature compiles exactly when the atoms of the signature can be
issued. -/
theorem compiles_statsWrite_iff {entry : Signature × FieldNumberToAtomDeclSet}
    (found : (signatureMap atoms .pushed)[entry.1]? = some entry.2) {method : Method}
    (written : writeNativeStatsWriteMethod (getAnnotationIdConstants annotationConstantNamePrefix)
      attributionDecl minApiLevel false entry = .ok method) :
    method.Compiles atoms (getAnnotationIdConstants annotationConstantNamePrefix) platform
        minApiLevel ↔
      ∀ registration ∈ registrations, getAtomType registration.atomField.number = .pushed →
        signatureOf registration.atom = entry.1 → Issues minApiLevel registration.decl := by
  have names := constantNames_statsWrite_iff registered (fun _ => hasConstant_atom)
    (hasConstant_annotationId declares) found written
  have compares := compares_statsWrite_iff registered cppAdmits_iff found written
  simp only [hasConstant_category_iff declares] at names
  simp only [issuable_iff]
  rw [forall_ofSignature_and, ← names, ← compares]
  exact ⟨fun compiles => ⟨compiles.names, compiles.compares⟩, fun both => ⟨both.1, both.2⟩⟩

theorem compiles_addAStatsEvent_iff {entry : Signature × FieldNumberToAtomDeclSet}
    (found : (signatureMap atoms .pulled)[entry.1]? = some entry.2) {method : Method}
    (written : writeNativeBuildStatsEventMethod
      (getAnnotationIdConstants annotationConstantNamePrefix) attributionDecl minApiLevel entry =
        .ok method) :
    method.Compiles atoms (getAnnotationIdConstants annotationConstantNamePrefix) platform
        minApiLevel ↔
      ∀ registration ∈ registrations, getAtomType registration.atomField.number = .pulled →
        signatureOf registration.atom = entry.1 → Issues minApiLevel registration.decl := by
  have names := constantNames_addAStatsEvent_iff registered (fun _ => hasConstant_atom)
    (hasConstant_annotationId declares) found written
  have compares := compares_addAStatsEvent_iff registered cppAdmits_iff found written
  simp only [hasConstant_category_iff declares] at names
  simp only [issuable_iff]
  rw [forall_ofSignature_and, ← names, ← compares]
  exact ⟨fun compiles => ⟨compiles.names, compiles.compares⟩, fun both => ⟨both.1, both.2⟩⟩

omit declares in
/-- With named categories and integers for states, the atoms of a signature can be issued above
R, and up to R if none is restricted. -/
theorem forall_issues_iff (named : NamedCategories atoms) (resets : IntegerResets atoms)
    {descriptor : AtomDescriptor} {moduleName : String}
    (selected : registrations.map Registration.atomField = selectedAtoms descriptor moduleName)
    {decl : AtomDecl} :
    (∀ registration ∈ registrations, getAtomType registration.atomField.number = decl.atomType →
      signatureOf registration.atom = decl.signature → Issues minApiLevel registration.decl) ↔
      apiR < minApiLevel ∨ ¬SharesRestricted descriptor moduleName decl := by
  have issues_iff {registration : Registration} (member : registration ∈ registrations) :
      Issues minApiLevel registration.decl ↔
        apiR < minApiLevel ∨ registration.atomField.options.restrictionCategory = none := by
    have declMem : registration.decl ∈ elements atoms.decls :=
      registered.decls.mem_elements.mpr (List.mem_map_of_mem member)
    rw [Issues, issuable_iff,
      and_iff_left (resets.compared declMem cppComparable_of_isInteger 0)]
    cases isCategory : registration.atomField.options.restrictionCategory with
    | none => simp
    | some category =>
        simp [IsDeclaredCategory, named.isNamedCategory declMem isCategory]
  rw [← forall_unrestricted_iff selected]
  constructor
  · intro issues
    by_contra neither
    rw [not_or] at neither
    apply neither.2
    intro registration member kind isSignature
    exact ((issues_iff member).mp (issues registration member kind isSignature)).resolve_left
      neither.1
  · intro allowed registration member kind isSignature
    rw [issues_iff member]
    exact allowed.imp_right fun unrestricted => unrestricted registration member kind isSignature

end Compiles

end StatsLogApiGen.Native

/-! ## Java -/

namespace StatsLogApiGen.Java

open Std
open StatsLogApiGen.Container
open StatsLogApiGen.Proto
open StatsLogApiGen.Collation
open StatsLogApiGen.Writer

/-- A method compiles in a class for an API level.  Whether a constant is declared does not
depend on the device. -/
structure Method.Compiles (method : Method) (atoms : Atoms) (constants : AnnotationIdConstants)
    (platform : Platform) (sdkInt minApiLevel : Int) : Prop where
  names : ∀ name ∈ method.body.constantNames,
    HasConstant atoms (visibleConstants constants platform sdkInt minApiLevel) name
  compares : method.Compares javaAdmits

instance (method : Method) (atoms : Atoms) (constants : AnnotationIdConstants)
    (platform : Platform) (sdkInt minApiLevel : Int) :
    Decidable (method.Compiles atoms constants platform sdkInt minApiLevel) :=
  decidable_of_iff (_ ∧ _)
    ⟨fun both => ⟨both.1, both.2⟩, fun compiles => ⟨compiles.names, compiles.compares⟩⟩

section Compiles

variable {registrations : List Registration} {atoms : Atoms}
  (registered : Registered registrations atoms) {platform : Platform}
  (declares : platform.DeclaresAnnotations "StatsLog.") {sdkInt minApiLevel : Int}

include declares

theorem hasConstant_annotationId (annotationId : AnnotationId) :
    HasConstant atoms (visibleConstants (getAnnotationIdConstants annotationConstantNamePrefix)
      platform sdkInt minApiLevel) (.annotations (constantPrefix
        (getAnnotationIdConstants annotationConstantNamePrefix annotationId) ++
        (getAnnotationIdConstants annotationConstantNamePrefix annotationId).name)) :=
  hasConstant_of_eq_some (visibleConstants_annotationId declares sdkInt minApiLevel annotationId)

theorem hasConstant_category_iff (category : RestrictionCategory) :
    HasConstant atoms (visibleConstants (getAnnotationIdConstants annotationConstantNamePrefix)
      platform sdkInt minApiLevel) (.annotations (constantPrefix
        (getAnnotationIdConstants annotationConstantNamePrefix .restrictionCategory) ++
        getRestrictionCategoryStr category.number)) ↔
      IsNamedCategory category.number := by
  have absent : (writeJavaAnnotationConstants
      (getAnnotationIdConstants annotationConstantNamePrefix) minApiLevel).lookup
        ("StatsLog." ++ getRestrictionCategoryStr category.number) = none := by
    by_cases upToR : minApiLevel ≤ apiR
    · simp only [writeJavaAnnotationConstants, if_pos upToR]
      cases category <;> decide
    · simp only [writeJavaAnnotationConstants, if_neg upToR]
      cases category <;> decide
  change (visibleConstants _ _ _ _ ("StatsLog." ++ _)).isSome = true ↔ _
  rw [visibleConstants, absent]
  exact declares.isSome_category_iff category

include registered

/-- The `write` of a signature compiles exactly when the atoms of the signature can be
issued. -/
theorem compiles_write_iff {entry : Signature × FieldNumberToAtomDeclSet}
    (found : (signatureMap atoms .pushed)[entry.1]? = some entry.2) {method : Method}
    (written : writeJavaPushedMethod (getAnnotationIdConstants annotationConstantNamePrefix)
      attributionDecl minApiLevel entry = .ok method) :
    method.Compiles atoms (getAnnotationIdConstants annotationConstantNamePrefix) platform
        sdkInt minApiLevel ↔
      ∀ registration ∈ registrations, getAtomType registration.atomField.number = .pushed →
        signatureOf registration.atom = entry.1 → Issues registration.decl := by
  have names := constantNames_write_iff registered (fun _ => hasConstant_atom)
    (@hasConstant_annotationId atoms platform declares sdkInt minApiLevel)
    (hasConstant_annotationId declares .triggerStateReset) found written
  have compares := compares_write_iff registered javaAdmits_iff found written
  simp only [hasConstant_category_iff declares] at names
  simp only [issuable_iff]
  rw [forall_ofSignature_and, ← names, ← compares]
  exact ⟨fun compiles => ⟨compiles.names, compiles.compares⟩, fun both => ⟨both.1, both.2⟩⟩

theorem compiles_buildStatsEvent_iff {entry : Signature × FieldNumberToAtomDeclSet}
    (found : (signatureMap atoms .pulled)[entry.1]? = some entry.2) {method : Method}
    (written : writeJavaPulledMethod (getAnnotationIdConstants annotationConstantNamePrefix)
      attributionDecl minApiLevel entry = .ok method) :
    method.Compiles atoms (getAnnotationIdConstants annotationConstantNamePrefix) platform
        sdkInt minApiLevel ↔
      ∀ registration ∈ registrations, getAtomType registration.atomField.number = .pulled →
        signatureOf registration.atom = entry.1 → Issues registration.decl := by
  have names := constantNames_buildStatsEvent_iff registered (fun _ => hasConstant_atom)
    (@hasConstant_annotationId atoms platform declares sdkInt minApiLevel)
    (hasConstant_annotationId declares .triggerStateReset) found written
  have compares := compares_buildStatsEvent_iff registered javaAdmits_iff found written
  simp only [hasConstant_category_iff declares] at names
  simp only [issuable_iff]
  rw [forall_ofSignature_and, ← names, ← compares]
  exact ⟨fun compiles => ⟨compiles.names, compiles.compares⟩, fun both => ⟨both.1, both.2⟩⟩

end Compiles

end StatsLogApiGen.Java
