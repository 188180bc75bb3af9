import Mathlib.Tactic.MkIffOfInductiveProp
import StatsLogApiGen.Vendor.Compiles
import StatsLogApiGen.Vendor.NativeRun
import StatsLogApiGen.Writer.Agreement

/-!
# Agreement of the vendor writers

The native and the Java `createVendorAtom` of an atom return the same parcel.  They do not compile
for restricted atoms.
-/

namespace StatsLogApiGen.Vendor

open Std
open StatsLogApiGen.Container
open StatsLogApiGen.Proto
open StatsLogApiGen.Collation
open StatsLogApiGen.Writer

/-! ## Parcels of the generated methods -/

/-- The ids of the annotations of the atoms that share a method are declared in both languages,
with the same numbers.  Nothing is declared under the bare name of a restriction category. -/
structure SameConstants (native java : Platform) (atoms : Atoms) (decl : AtomDecl) : Prop where
  annotationId : ∀ other ∈ elements atoms.decls, other.atomType = .pushed →
    other.signature = decl.signature → ∀ entry ∈ annotationEntries other,
      entry.2.annotationId ≠ .restrictionCategory → ∃ number,
        native (annotationConstantNameVendorNativePrefix ++
          annotationIdName entry.2.annotationId) = some number ∧
        java (annotationConstantNameVendorPrefix ++
          annotationIdName entry.2.annotationId) = some number
  noCategory : ∀ category : RestrictionCategory,
    native (getRestrictionCategoryStr category.number) = none ∧
      java (getRestrictionCategoryStr category.number) = none

/-- No array of a parcel has a null element. -/
structure NoNulls (atom : VendorAtom) : Prop where
  values : none ∉ atom.values
  atomAnnotations : ∀ annotations ∈ atom.atomAnnotations, none ∉ annotations
  valuesAnnotations : ∀ annotationSets ∈ atom.valuesAnnotations, none ∉ annotationSets
  annotations : ∀ annotationSets ∈ atom.valuesAnnotations, ∀ annotationSet,
    some annotationSet ∈ annotationSets → none ∉ annotationSet.annotations

/-- The index of an annotation set is the one of an annotated value. -/
def IndexesValues (decl : AtomDecl) (atom : VendorAtom) : Prop :=
  ∀ annotationSets ∈ atom.valuesAnnotations, ∀ annotationSet,
    some annotationSet ∈ annotationSets →
      ∃ index : Nat, annotationSet.valueIndex = index ∧ index < atom.values.length ∧
        annotationsOf decl (2 + index) ≠ []

/-- The methods that are generated for the signature of an atom compile, and they return the same
parcel when they are called with the code of the atom. -/
structure VendorWritersAgree (atoms : Atoms) (native java : Platform) (decl : AtomDecl)
    (arguments : List Argument) (nativeMethod : Native.Method) (javaMethod : Java.Method) :
    Prop where
  generated : ∃ declSets, atoms.signatureInfoMap[decl.signature]? = some declSets ∧
    Native.writeNativeCreateVendorAtomMethod
      (getAnnotationIdConstants annotationConstantNameVendorNativePrefix) attributionDecl
      (decl.signature, declSets) = .ok nativeMethod ∧
    Java.writeJavaPushedMethodVendor
      (getAnnotationIdConstants annotationConstantNameVendorPrefix)
      (decl.signature, declSets) = .ok javaMethod
  compiled : nativeMethod.Compiles atoms native ∧ javaMethod.Compiles atoms java
  parcels : ∃ final, javaMethod.run atoms java decl.code arguments = .ok final ∧
    nativeMethod.call atoms native decl.code arguments = .ok final.atom ∧
    final.lost = [] ∧ NoNulls final.atom ∧ IndexesValues decl final.atom

/-! ## The parcel of an atom -/

section Parcel

variable {numbers : AnnotationNumbers} {decl : AtomDecl} {name : String}
  {arguments : List Argument}

theorem mem_presentUnlessEmpty {α : Type} {list : List α} {present : List (Option α)}
    (isPresent : present ∈ presentUnlessEmpty list) : present = list.map some := by
  rw [presentUnlessEmpty] at isPresent
  split at isPresent
  · cases isPresent
  · exact (Option.some.inj isPresent).symm

theorem none_notMem_map_some {α : Type} (list : List α) : none ∉ list.map some := by
  simp

/-- The sets of values are for values with annotations. -/
theorem mem_valuesAnnotationsFrom {argIndex : Int} {annotationSet : AnnotationSetParcel}
    (member : annotationSet ∈ valuesAnnotationsFrom numbers decl argIndex arguments) :
    ∃ index : Nat, index < arguments.length ∧
      annotationSet.valueIndex = argIndex + index - 2 ∧
      annotationsOf decl (argIndex + index) ≠ [] ∧ none ∉ annotationSet.annotations := by
  induction arguments generalizing argIndex with
  | nil => cases member
  | cons argument rest ih =>
      rcases List.mem_append.mp member with first | later
      · rw [valueAnnotations] at first
        split at first
        · cases first
        · rename_i annotated
          rw [List.mem_singleton] at first
          subst first
          refine ⟨0, by simp, by simp, ?_, none_notMem_map_some _⟩
          rw [Int.natCast_zero, Int.add_zero]
          exact fun unannotated => annotated (fieldParcels_eq_nil unannotated _)
      · obtain ⟨index, bound, isIndex, annotated, noNull⟩ := ih later
        have shift : argIndex + 1 + (index : Int) = argIndex + ((index + 1 : Nat) : Int) := by
          omega
        rw [shift] at isIndex annotated
        exact ⟨index + 1, by simpa using bound, isIndex, annotated, noNull⟩

theorem noNulls_vendorAtom (noChain : ∀ argument ∈ arguments, argument.type ≠ .attributionChain) :
    NoNulls (vendorAtom numbers decl name arguments) where
  values member := by
    obtain ⟨argument, argumentMem, isNone⟩ := List.mem_map.mp member
    have notChain := noChain argument argumentMem
    cases argument <;> first | exact absurd rfl notChain | cases isNone
  atomAnnotations annotations present := by
    rw [mem_presentUnlessEmpty present]
    exact none_notMem_map_some _
  valuesAnnotations annotationSets present := by
    rw [mem_presentUnlessEmpty present]
    exact none_notMem_map_some _
  annotations annotationSets present annotationSet member := by
    rw [mem_presentUnlessEmpty present, List.mem_map] at member
    obtain ⟨_, listed, isSet⟩ := member
    cases isSet
    obtain ⟨-, -, -, -, noNull⟩ := mem_valuesAnnotationsFrom listed
    exact noNull

theorem indexesValues_vendorAtom :
    IndexesValues decl (vendorAtom numbers decl name arguments) := by
  intro annotationSets present annotationSet member
  rw [mem_presentUnlessEmpty present, List.mem_map] at member
  obtain ⟨_, listed, isSet⟩ := member
  cases isSet
  obtain ⟨index, bound, isIndex, annotated, -⟩ := mem_valuesAnnotationsFrom listed
  refine ⟨index, by omega, ?_, annotated⟩
  rwa [vendorAtom, List.length_map]

end Parcel

/-! ## Annotations in a parcel -/

/-- The annotations of a set that is for a value. -/
def setParcels (valueIndex : Int) (annotationSet : AnnotationSetParcel) : List AnnotationParcel :=
  if annotationSet.valueIndex = valueIndex then
    annotationSet.annotations.filterMap id
  else
    []

/-- The annotations that a parcel has for a value. -/
def valueParcels (valueIndex : Int) (atom : VendorAtom) : List AnnotationParcel :=
  ((atom.valuesAnnotations.getD []).filterMap id).flatMap (setParcels valueIndex)

section Annotations

variable {numbers : AnnotationNumbers} {decl : AtomDecl} {name : String}
  {arguments : List Argument}

theorem filterMap_id_map_some {α : Type} (list : List α) :
    (list.map some).filterMap id = list := by
  rw [List.filterMap_map]
  exact List.filterMap_some

/-- An absent list has no elements. -/
theorem filterMap_presentUnlessEmpty {α : Type} (list : List α) :
    ((presentUnlessEmpty list).getD []).filterMap id = list := by
  rw [presentUnlessEmpty]
  split
  · rename_i isEmpty
    rw [isEmpty]
    rfl
  · exact filterMap_id_map_some list

theorem setParcels_valueAnnotations (argIndex : Int) (argument : Argument) :
    (valueAnnotations numbers decl argIndex argument).flatMap (setParcels (argIndex - 2)) =
      fieldParcels numbers decl argIndex argument.equals := by
  rw [valueAnnotations]
  split
  · rename_i unannotated
    rw [unannotated]
    rfl
  · simp [setParcels]

/-- Other values have other sets. -/
theorem setParcels_valueAnnotations_of_ne {argIndex valueIndex : Int} (argument : Argument)
    (different : valueIndex ≠ argIndex - 2) :
    (valueAnnotations numbers decl argIndex argument).flatMap (setParcels valueIndex) = [] := by
  rw [valueAnnotations]
  split
  · rfl
  · rw [List.flatMap_singleton]
    exact if_neg fun same => different same.symm

/-- The sets from an argument on are for no value before it. -/
theorem setParcels_valuesAnnotationsFrom_of_lt {argIndex valueIndex : Int}
    (before : valueIndex < argIndex - 2) :
    (valuesAnnotationsFrom numbers decl argIndex arguments).flatMap (setParcels valueIndex) =
      [] := by
  rw [List.flatMap_eq_nil_iff]
  intro annotationSet member
  rcases mem_valuesAnnotationsFrom member with ⟨index, -, isIndex, -⟩
  apply if_neg
  omega

/-- The annotation sets of the values have the annotations of their fields. -/
theorem setParcels_valuesAnnotationsFrom {argIndex : Int} {position : Nat} {argument : Argument}
    (found : arguments[position]? = some argument) :
    (valuesAnnotationsFrom numbers decl argIndex arguments).flatMap
        (setParcels (argIndex + position - 2)) =
      fieldParcels numbers decl (argIndex + position) argument.equals := by
  induction arguments generalizing argIndex position with
  | nil => simp at found
  | cons first rest ih =>
      rw [valuesAnnotationsFrom, List.flatMap_append]
      cases position with
      | zero =>
          rw [List.getElem?_cons_zero, Option.some.injEq] at found
          subst found
          rw [Int.natCast_zero, Int.add_zero, setParcels_valueAnnotations,
            setParcels_valuesAnnotationsFrom_of_lt (by omega), List.append_nil]
      | succ position =>
          rw [List.getElem?_cons_succ] at found
          have shift :
              argIndex + ((position + 1 : Nat) : Int) = argIndex + 1 + (position : Int) := by
            omega
          rw [shift, setParcels_valueAnnotations_of_ne first (by omega), List.nil_append]
          exact ih found

/-- The parcel of an atom has the annotations of a field for its value. -/
theorem valueParcels_vendorAtom {position : Nat} {argument : Argument}
    (found : arguments[position]? = some argument) :
    valueParcels position (vendorAtom numbers decl name arguments) =
      fieldParcels numbers decl (2 + position) argument.equals := by
  have valueIndex : (position : Int) = 2 + position - 2 := by omega
  rw [valueParcels, vendorAtom, filterMap_presentUnlessEmpty,
    ← setParcels_valuesAnnotationsFrom found, ← valueIndex]

/-- The parcel of an atom has no annotations for its reverse domain name. -/
theorem valueParcels_vendorAtom_neg {valueIndex : Int} (negative : valueIndex < 0) :
    valueParcels valueIndex (vendorAtom numbers decl name arguments) = [] := by
  rw [valueParcels, vendorAtom, filterMap_presentUnlessEmpty]
  exact setParcels_valuesAnnotationsFrom_of_lt negative

end Annotations

/-! ## Agreement -/

/-- The numbers that a platform declares. -/
def numbersOf (native : Platform) : AnnotationNumbers where
  annotationId annotationId :=
    (native (annotationConstantNameVendorNativePrefix ++ annotationIdName annotationId)).getD 0

section Constants

variable {native java : Platform} {atoms : Atoms} {decl other : AtomDecl}
  (same : SameConstants native java atoms decl) (member : other ∈ elements atoms.decls)
  (pushed : other.atomType = .pushed) (signature : other.signature = decl.signature)
  {fieldNumber : Int} {ann : Annotation} (annMem : ann ∈ annotationsOf other fieldNumber)
  (noCategory : ann.annotationId ≠ .restrictionCategory)

include same member pushed signature annMem noCategory

theorem SameConstants.native_eq :
    native (annotationConstantNameVendorNativePrefix ++ annotationIdName ann.annotationId) =
      some ((numbersOf native).annotationId ann.annotationId) := by
  obtain ⟨number, declared, -⟩ := same.annotationId other member pushed signature _
    (mem_annotationEntries annMem) noCategory
  change native _ = some ((native _).getD 0)
  rw [declared, Option.getD_some]

theorem SameConstants.java_eq :
    java (annotationConstantNameVendorPrefix ++ annotationIdName ann.annotationId) =
      some ((numbersOf native).annotationId ann.annotationId) := by
  obtain ⟨number, declared, declaredJava⟩ := same.annotationId other member pushed signature _
    (mem_annotationEntries annMem) noCategory
  change java _ = some ((native _).getD 0)
  rw [declared, declaredJava, Option.getD_some]

theorem SameConstants.numbered_native :
    Numbered (Native.visibleConstants native) annotationConstantNameVendorNativePrefix
      (numbersOf native) ann where
  annotationId := by
    have notEmpty : annotationConstantNameVendorNativePrefix ++
        annotationIdName ann.annotationId ≠ "" := by
      cases ann.annotationId <;> decide
    rw [Native.visibleConstants, if_neg notEmpty]
    exact same.native_eq member pushed signature annMem noCategory
  category isCategory := absurd isCategory noCategory

theorem SameConstants.numbered_java :
    Numbered java annotationConstantNameVendorPrefix (numbersOf native) ann where
  annotationId := same.java_eq member pushed signature annMem noCategory
  category isCategory := absurd isCategory noCategory

end Constants

/-- The pushed atoms of a signature can be issued natively, and the first field assigned. -/
@[mk_iff]
structure Native.Compilable (platform : Platform) (atoms : Atoms) (signature : Signature) :
    Prop where
  issuable : ∀ other ∈ elements atoms.decls, other.atomType = .pushed →
    other.signature = signature → Issuable 1 cppComparable (Native.AllowsUnset platform) other
  assigns : ∃ type ∈ signature.head?, type ∈ [.string, .boolean, .int, .enum, .long, .float]

/-- The pushed atoms of a signature can be issued in Java, and the first field is a string. -/
@[mk_iff]
structure Java.Compilable (atoms : Atoms) (signature : Signature) : Prop where
  issuable : ∀ other ∈ elements atoms.decls, other.atomType = .pushed →
    other.signature = signature → Issuable 1 javaComparable (fun _ => False) other
  startsWithString : signature.head? = some .string

section Compiles

variable {registrations : List Registration} {atoms : Atoms}
  (registered : Registered registrations atoms) {native java : Platform} {decl : AtomDecl}
  (same : SameConstants native java atoms decl) {declSets : FieldNumberToAtomDeclSet}
  (found : atoms.signatureInfoMap[decl.signature]? = some declSets)

include registered same found

/-- The native method for the signature of an atom compiles when it can be compiled. -/
theorem SameConstants.compiles_native_iff {method : Native.Method}
    (written : Native.writeNativeCreateVendorAtomMethod
      (getAnnotationIdConstants annotationConstantNameVendorNativePrefix) attributionDecl
      (decl.signature, declSets) = .ok method) :
    method.Compiles atoms native ↔ Native.Compilable native atoms decl.signature := by
  rw [Native.compilable_iff,
    @Native.compiles_createVendorAtom_iff _ _ registered _ (decl.signature, declSets) found _
      (fun category => (same.noCategory category).1) _ written,
    forall_ofSignature_iff registered]
  intro registration member kind isSignature fieldNumber ann annMem noCategory
  rw [same.native_eq (registered.decls.mem_elements.mpr (List.mem_map_of_mem member))
    (registration.decl_atomType.trans kind) (registration.signatureOf_eq.symm.trans isSignature)
    annMem noCategory]
  rfl

theorem SameConstants.compiles_java_iff {method : Java.Method}
    (written : Java.writeJavaPushedMethodVendor
      (getAnnotationIdConstants annotationConstantNameVendorPrefix)
      (decl.signature, declSets) = .ok method) :
    method.Compiles atoms java ↔ Java.Compilable atoms decl.signature := by
  rw [Java.compilable_iff,
    @Java.compiles_createVendorAtom_iff _ _ registered _ (decl.signature, declSets) found _
      (fun category => (same.noCategory category).2) _ written,
    forall_ofSignature_iff registered]
  intro registration member kind isSignature fieldNumber ann annMem noCategory
  rw [same.java_eq (registered.decls.mem_elements.mpr (List.mem_map_of_mem member))
    (registration.decl_atomType.trans kind) (registration.signatureOf_eq.symm.trans isSignature)
    annMem noCategory]
  rfl

end Compiles

section Issuable

variable {registrations : List Registration} {atoms : Atoms}
  (registered : Registered registrations atoms) {native java : Platform} {decl : AtomDecl}
  (same : SameConstants native java atoms decl) (member : decl ∈ elements atoms.decls)
  (pushed : decl.atomType = .pushed)

include registered same member pushed

/-- What is printed natively for an atom that can be issued has its numbers. -/
theorem SameConstants.numbered_native_of_issuable
    (issuable : Issuable 1 cppComparable (Native.AllowsUnset native) decl) (fieldNumber : Int) :
    ∀ ann ∈ annotationsOf decl fieldNumber, Numbered (Native.visibleConstants native)
      annotationConstantNameVendorNativePrefix (numbersOf native) ann := by
  intro ann annMem
  by_cases isCategory : ann.annotationId = .restrictionCategory
  · obtain ⟨registration, -, rfl⟩ := List.mem_map.mp (registered.decls.mem_elements.mp member)
    obtain ⟨-, category, -, isValue⟩ := exists_category_of_mem annMem isCategory
    obtain ⟨isSome, isUnset⟩ := issuable.categories fieldNumber ann annMem isCategory _ isValue
    obtain ⟨number, declared⟩ := Option.isSome_iff_exists.mp isSome
    constructor
    · rw [isCategory, Native.visibleConstants, if_neg (by decide), declared]
      exact congrArg some (congrArg (Option.getD · 0) declared).symm
    · rintro - other isOther
      rw [isValue, AnnotationValue.int.injEq] at isOther
      rw [← isOther, isUnset]
      rfl
  · exact same.numbered_native member pushed rfl annMem isCategory

theorem SameConstants.numbered_java_of_issuable
    (issuable : Issuable 1 javaComparable (fun _ => False) decl) (fieldNumber : Int) :
    ∀ ann ∈ annotationsOf decl fieldNumber,
      Numbered java annotationConstantNameVendorPrefix (numbersOf native) ann := by
  intro ann annMem
  apply same.numbered_java member pushed rfl annMem
  intro isCategory
  obtain ⟨registration, -, rfl⟩ := List.mem_map.mp (registered.decls.mem_elements.mp member)
  obtain ⟨-, category, -, isValue⟩ := exists_category_of_mem annMem isCategory
  exact issuable.categories fieldNumber ann annMem isCategory _ isValue

end Issuable

/-- The first argument of a signature that starts with a string is the reverse domain name. -/
theorem exists_domainName {signature : Signature} {arguments : List Argument}
    (startsWithString : signature.head? = some .string)
    (typed : arguments.map Argument.type = signature) :
    ∃ name rest, arguments = .string name :: rest := by
  rw [← typed] at startsWithString
  cases arguments with
  | nil => cases startsWithString
  | cons first rest => cases first <;> first | exact ⟨_, rest, rfl⟩ | cases startsWithString

/-- In C++ it is what is assigned to the reverse domain name. -/
theorem exists_assignedName {signature : Signature} {arguments : List Argument}
    (assigns : ∃ type ∈ signature.head?, type ∈ [.string, .boolean, .int, .enum, .long, .float])
    (typed : arguments.map Argument.type = signature) :
    ∃ first name rest, arguments = first :: rest ∧ Native.assignedName first = some name := by
  obtain ⟨type, isFirst, assigned⟩ := assigns
  rw [← typed] at isFirst
  cases arguments with
  | nil => cases isFirst
  | cons first rest =>
      cases isFirst
      cases first <;> first
        | exact ⟨_, _, rest, rfl, rfl⟩
        | simp [Argument.type] at assigned

/-- Every pushed atom without a chain is created through the entry of its signature. -/
theorem exists_creatable {descriptor : AtomDescriptor} {moduleName : String} {atoms : Atoms}
    (accepted : collateAtoms descriptor moduleName {} = (0, atoms))
    (constants : DistinctConstants atoms) {decl : AtomDecl}
    (member : decl ∈ elements atoms.decls) (pushed : decl.atomType = .pushed)
    (noChain : JavaType.attributionChain ∉ decl.signature) :
    ∃ declSets, atoms.signatureInfoMap[decl.signature]? = some declSets ∧
      Creatable atoms declSets decl := by
  obtain ⟨declSets, found, logged⟩ := exists_logged accepted constants member
  rw [pushed] at found
  exact ⟨declSets, found, logged.accepted.isArgument noChain, logged.dispatches, logged.noReset⟩

/-- The vendor methods of atoms with integers for states can be compiled together exactly when no
atom of the signature is restricted. -/
theorem compilable_iff_unrestricted {descriptor : AtomDescriptor} {moduleName : String}
    {atoms : Atoms} (accepted : collateAtoms descriptor moduleName {} = (0, atoms))
    (resets : IntegerResets atoms) (native : Platform) {decl : AtomDecl}
    (pushed : decl.atomType = .pushed) (startsWithString : decl.signature.head? = some .string) :
    Native.Compilable native atoms decl.signature ∧ Java.Compilable atoms decl.signature ↔
      ¬SharesRestricted descriptor moduleName decl := by
  obtain ⟨registrations, selected, registered⟩ := collateAtoms_registered accepted
  constructor
  · rintro ⟨-, compilable⟩
    rw [← forall_unrestricted_iff selected]
    intro registration member kind isSignature
    by_contra restricted
    obtain ⟨category, isCategory⟩ := Option.ne_none_iff_exists'.mp restricted
    have issuable := compilable.issuable registration.decl
      (registered.decls.mem_elements.mpr (List.mem_map_of_mem member))
      (registration.decl_atomType.trans (kind.trans pushed))
      (registration.signatureOf_eq.symm.trans isSignature)
    exact (issuable_iff.mp issuable).1 category isCategory
  · intro notShared
    rw [Native.compilable_iff, Java.compilable_iff, ← pushed]
    exact ⟨⟨forall_issuable_of_unrestricted registered selected resets notShared
      cppComparable_of_isInteger, _, startsWithString, by decide⟩,
      forall_issuable_of_unrestricted registered selected resets notShared
        javaComparable_of_isInteger, startsWithString⟩

theorem compiles_iff_unrestricted {descriptor : AtomDescriptor} {moduleName : String}
    {atoms : Atoms} (accepted : collateAtoms descriptor moduleName {} = (0, atoms))
    (resets : IntegerResets atoms) {native java : Platform} {decl : AtomDecl}
    (pushed : decl.atomType = .pushed) (startsWithString : decl.signature.head? = some .string)
    (same : SameConstants native java atoms decl) {declSets : FieldNumberToAtomDeclSet}
    (found : atoms.signatureInfoMap[decl.signature]? = some declSets)
    {nativeMethod : Native.Method} {javaMethod : Java.Method}
    (nativeWritten : Native.writeNativeCreateVendorAtomMethod
      (getAnnotationIdConstants annotationConstantNameVendorNativePrefix) attributionDecl
      (decl.signature, declSets) = .ok nativeMethod)
    (javaWritten : Java.writeJavaPushedMethodVendor
      (getAnnotationIdConstants annotationConstantNameVendorPrefix)
      (decl.signature, declSets) = .ok javaMethod) :
    nativeMethod.Compiles atoms native ∧ javaMethod.Compiles atoms java ↔
      ¬SharesRestricted descriptor moduleName decl := by
  obtain ⟨registrations, -, registered⟩ := collateAtoms_registered accepted
  rw [same.compiles_native_iff registered found nativeWritten,
    same.compiles_java_iff registered found javaWritten]
  exact compilable_iff_unrestricted accepted resets native pushed startsWithString

/-- In an accepted run the vendor methods of an atom compile and return the same parcel for the
same arguments exactly when no atom of the signature is restricted. -/
theorem vendorWriters_agree_iff (descriptor : AtomDescriptor) (moduleName : String) (atoms : Atoms)
    (accepted : collateAtoms descriptor moduleName {} = (0, atoms))
    (constants : DistinctConstants atoms) (resets : IntegerResets atoms)
    (native java : Platform) (decl : AtomDecl) (member : decl ∈ elements atoms.decls)
    (pushed : decl.atomType = .pushed) (startsWithString : decl.signature.head? = some .string)
    (noChain : JavaType.attributionChain ∉ decl.signature)
    (same : SameConstants native java atoms decl)
    (arguments : List Argument) (typed : arguments.map Argument.type = decl.signature) :
    (∃ nativeMethod javaMethod,
      VendorWritersAgree atoms native java decl arguments nativeMethod javaMethod) ↔
      ¬SharesRestricted descriptor moduleName decl := by
  obtain ⟨declSets, found, creatable⟩ := exists_creatable accepted constants member pushed noChain
  constructor
  · rintro ⟨nativeMethod, javaMethod, ⟨⟨_, otherFound, nativeWritten, javaWritten⟩, compiled, -⟩⟩
    cases found.symm.trans otherFound
    exact (compiles_iff_unrestricted accepted resets pushed startsWithString same found
      nativeWritten javaWritten).mp compiled
  · intro notShared
    obtain ⟨registrations, -, registered⟩ := collateAtoms_registered accepted
    obtain ⟨nativeCompilable, javaCompilable⟩ :=
      (compilable_iff_unrestricted accepted resets native pushed startsWithString).mpr notShared
    have nativeIssuable := nativeCompilable.issuable decl member pushed rfl
    have javaIssuable := javaCompilable.issuable decl member pushed rfl
    obtain ⟨name, rest, rfl⟩ := exists_domainName startsWithString typed
    obtain ⟨nativeMethod, nativeWritten, nativeAtom⟩ :=
      Native.call_createVendorAtom creatable typed rfl nativeIssuable.compared
        (same.numbered_native_of_issuable registered member pushed nativeIssuable)
    obtain ⟨javaMethod, javaWritten, final, javaRan, javaAtom, notLost⟩ :=
      Java.run_createVendorAtom creatable typed javaIssuable.compared
        (same.numbered_java_of_issuable registered member pushed javaIssuable)
    have compiled := (compiles_iff_unrestricted accepted resets pushed startsWithString same found
      nativeWritten javaWritten).mpr notShared
    have noChains : ∀ argument ∈ rest, argument.type ≠ .attributionChain := by
      intro argument argumentMem
      apply creatable.noChain
      rw [← typed]
      exact List.mem_map_of_mem (List.mem_cons_of_mem _ argumentMem)
    refine ⟨nativeMethod, javaMethod, ⟨declSets, found, nativeWritten, javaWritten⟩, compiled,
      final, javaRan, ?_, notLost, ?_, ?_⟩
    · rw [nativeAtom, javaAtom]
    · rw [javaAtom]
      exact noNulls_vendorAtom noChains
    · rw [javaAtom]
      exact indexesValues_vendorAtom

/-! ## Two atoms with one signature -/

def vendorState : StateAtomFieldOption where
  exclusiveState := true
  defaultStateValue := some 0
  triggerStateResetValue := some 2
  nested := some true

def vendorAtomWithState : Descriptor where
  name := "VendorAtomWithState4"
  fields :=
    [{ name := "reverse_domain_name", number := 1, type := .string },
     { name := "state", number := 2,
       type := .enum ⟨"State", [⟨"OFF", 0⟩, ⟨"ON", 1⟩, ⟨"RESET", 2⟩]⟩,
       options := { stateFieldOption := some vendorState } },
     { name := "some_flag", number := 3, type := .bool,
       options := { stateFieldOption := some { primaryField := true } } }]
  numbers_nodup := by decide

def vendorAtomWithTimestamp : Descriptor where
  name := "VendorAtomWithTimestamp"
  fields :=
    [{ name := "reverse_domain_name", number := 1, type := .string },
     { name := "uid", number := 2, type := .int32, options := { isUid := some true } },
     { name := "enabled", number := 3, type := .bool }]
  numbers_nodup := by decide

/-- A state atom and an atom with a timestamp that is truncated. -/
def vendorDescriptor : AtomDescriptor where
  fields :=
    [{ name := "stateAtom4", number := 105509, type := .message vendorAtomWithState,
       options := { module := ["test"] } },
     { name := "timestampAtom", number := 105510, type := .message vendorAtomWithTimestamp,
       options := { module := ["test"], truncateTimestamp := some true } }]
  extensions := []
  numbers_nodup := by decide

def vendorAtoms : Atoms :=
  (collateAtoms vendorDescriptor "test" {}).2

/-- The declaration of the state atom of `vendorDescriptor`. -/
def vendorDecl : AtomDecl :=
  (vendorAtoms.decls[(⟨105509, "stateAtom4"⟩ : DeclKey)]?).getD {}

theorem mem_vendorDecl : vendorDecl ∈ elements vendorAtoms.decls :=
  getD_mem_elements (by decide) _

/-- The annotation ids under the names of one language. -/
def aidlPlatform (namePrefix : String) : Platform :=
  fun name => (annotationIds.map fun annotationId =>
    (namePrefix ++ annotationIdName annotationId, annotationId.value)).lookup name

theorem sameConstants_aidlPlatform (atoms : Atoms) (decl : AtomDecl) :
    SameConstants (aidlPlatform annotationConstantNameVendorNativePrefix)
      (aidlPlatform annotationConstantNameVendorPrefix) atoms decl where
  annotationId other _ _ _ entry _ _ := by
    refine ⟨entry.2.annotationId.value, ?_⟩
    cases entry.2.annotationId <;> decide
  noCategory category := by
    cases category <;> decide

/-- The state that triggers the reset is logged. -/
theorem vendorWriters_agree_iff_state :
    (∃ nativeMethod javaMethod,
      VendorWritersAgree vendorAtoms (aidlPlatform annotationConstantNameVendorNativePrefix)
        (aidlPlatform annotationConstantNameVendorPrefix) vendorDecl
        [.string "com.vendor", .int 2#32, .boolean true] nativeMethod javaMethod) ↔
      ¬SharesRestricted vendorDescriptor "test" vendorDecl :=
  vendorWriters_agree_iff vendorDescriptor "test" vendorAtoms (Prod.ext (by decide) rfl)
    (by decide) (by decide) _ _ vendorDecl mem_vendorDecl (by decide) (by decide) (by decide)
    (sameConstants_aidlPlatform _ _) _ (by decide)

/-! ## A restricted vendor atom -/

/-- A vendor atom with a restriction category. -/
def restrictedVendorAtom : Descriptor where
  name := "RestrictedVendorAtom"
  fields :=
    [{ name := "reverse_domain_name", number := 1, type := .string },
     { name := "enabled", number := 2, type := .bool }]
  numbers_nodup := by decide

def restrictedVendorDescriptor : AtomDescriptor where
  fields :=
    [{ name := "restricted_vendor_atom", number := 105520, type := .message restrictedVendorAtom,
       options := { module := ["test"], restrictionCategory := some .diagnostic } }]
  extensions := []
  numbers_nodup := by decide

def restrictedVendorAtoms : Atoms :=
  (collateAtoms restrictedVendorDescriptor "test" {}).2

/-- The declaration of the atom of `restrictedVendorDescriptor`. -/
def restrictedVendorDecl : AtomDecl :=
  (restrictedVendorAtoms.decls[(⟨105520, "restricted_vendor_atom"⟩ : DeclKey)]?).getD {}

theorem mem_restrictedVendorDecl :
    restrictedVendorDecl ∈ elements restrictedVendorAtoms.decls :=
  getD_mem_elements (by decide) _

/-- The vendor methods of the restricted atom name a constant that nothing declares. -/
theorem not_vendorWritersAgree_restricted :
    (collateAtoms restrictedVendorDescriptor "test" {}).1 = 0 ∧
    DistinctConstants restrictedVendorAtoms ∧ IntegerResets restrictedVendorAtoms ∧
    restrictedVendorDecl ∈ elements restrictedVendorAtoms.decls ∧
    restrictedVendorDecl.atomType = .pushed ∧
    restrictedVendorDecl.signature.head? = some .string ∧
    JavaType.attributionChain ∉ restrictedVendorDecl.signature ∧
    SameConstants (aidlPlatform annotationConstantNameVendorNativePrefix)
      (aidlPlatform annotationConstantNameVendorPrefix) restrictedVendorAtoms
        restrictedVendorDecl ∧
    [Argument.string "com.vendor", .boolean true].map Argument.type =
      restrictedVendorDecl.signature ∧
    ¬∃ nativeMethod javaMethod,
      VendorWritersAgree restrictedVendorAtoms
        (aidlPlatform annotationConstantNameVendorNativePrefix)
        (aidlPlatform annotationConstantNameVendorPrefix) restrictedVendorDecl
        [.string "com.vendor", .boolean true] nativeMethod javaMethod := by
  have accepted : collateAtoms restrictedVendorDescriptor "test" {} =
      (0, restrictedVendorAtoms) :=
    Prod.ext (by decide) rfl
  have same := sameConstants_aidlPlatform restrictedVendorAtoms restrictedVendorDecl
  refine ⟨by rw [accepted], by decide, by decide, mem_restrictedVendorDecl, by decide, by decide,
    by decide, same, by decide, ?_⟩
  rintro ⟨nativeMethod, javaMethod, ⟨⟨_, found, nativeWritten, javaWritten⟩, compiled, -⟩⟩
  have notShared := (compiles_iff_unrestricted accepted (by decide) (by decide) (by decide) same
    found nativeWritten javaWritten).mp compiled
  exact notShared ⟨_, List.mem_cons_self, _, rfl, by decide, by decide, by decide⟩

end StatsLogApiGen.Vendor
