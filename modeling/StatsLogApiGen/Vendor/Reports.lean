import StatsLogApiGen.Vendor.AnnotationNames
import StatsLogApiGen.Writer.StateLoggers

/-!
# Annotations that vendor atoms report

Collation annotates the atom and its fields from 1 on, the vendor methods report the
annotations of the atom and of its fields from 2 on.  This file says for which atoms no
annotation is lost.
-/

namespace StatsLogApiGen.Vendor

open Std
open StatsLogApiGen.Container
open StatsLogApiGen.Proto
open StatsLogApiGen.Collation
open StatsLogApiGen.Program
open StatsLogApiGen.Writer

/-! ## Reports -/

/-- The vendor writers. -/
inductive VendorWriter where
  | native
  | java
  deriving DecidableEq, Repr

/-- The generated `createVendorAtom` for the signature of an atom compiles, and it returns a
parcel when it is called with the code of the atom. -/
def VendorWriter.Creates (native java : Platform) (atoms : Atoms) (decl : AtomDecl)
    (arguments : List Argument) (atom : VendorAtom) : VendorWriter → Prop
  | .native =>
      let constants := getAnnotationIdConstants annotationConstantNameVendorNativePrefix
      ∃ declSets method, atoms.signatureInfoMap[decl.signature]? = some declSets ∧
        Native.writeNativeCreateVendorAtomMethod constants attributionDecl
          (decl.signature, declSets) = .ok method ∧
        method.Compiles atoms native ∧ method.call atoms native decl.code arguments = .ok atom
  | .java =>
      let constants := getAnnotationIdConstants annotationConstantNameVendorPrefix
      ∃ declSets method, atoms.signatureInfoMap[decl.signature]? = some declSets ∧
        Java.writeJavaPushedMethodVendor constants (decl.signature, declSets) = .ok method ∧
        method.Compiles atoms java ∧ method.call atoms java decl.code arguments = .ok atom

/-- The annotations that a parcel has for the atom or for a field of it. -/
def reportedFor (fieldNumber : Int) (atom : VendorAtom) : List AnnotationParcel :=
  if fieldNumber = atomIdFieldNumber then
    (atom.atomAnnotations.getD []).filterMap id
  else
    valueParcels (fieldNumber - 2) atom

/-- Whether the argument for a field is a number. -/
def fieldIs (arguments : List Argument) (fieldNumber : Int) (number : Int) : Bool :=
  if 1 ≤ fieldNumber then
    arguments[(fieldNumber - 1).toNat]?.any (·.isNumber number)
  else
    false

/-- The annotation is for an argument with the numbers in `isNumber`: every annotation but the
default state is, where a reset is for the state that triggers it. -/
structure Applies (ann : Annotation) (isNumber : Int → Bool) : Prop where
  notDefault : ann.annotationId ≠ .defaultState
  onReset : ann.annotationId = .triggerStateReset →
    ∃ state, ann.value = .int state ∧ isNumber state = true

/-- The parcels report one of the annotations of a field, a reset with the default state. -/
def Reported (numbers : AnnotationNumbers) (annotations : List Annotation) (ann : Annotation)
    (parcels : List AnnotationParcel) : Prop :=
  if ann.annotationId = .triggerStateReset then
    ∃ state, ⟨numbers.annotationId .triggerStateReset, .int state⟩ ∈ parcels ∧
      ∀ other ∈ annotations, other.annotationId = .defaultState → other.value = .int state
  else
    numbers.parcel ann ∈ parcels

/-- A parcel reports the annotations of an atom that apply, and no others. -/
def ReportsAnnotations (numbers : AnnotationNumbers) (decl : AtomDecl)
    (arguments : List Argument) (atom : VendorAtom) : Prop :=
  ∀ fieldNumber, ∀ ann ∈ annotationsOf decl fieldNumber,
    Reported numbers (annotationsOf decl fieldNumber) ann (reportedFor fieldNumber atom) ↔
      Applies ann (fieldIs arguments fieldNumber)

/-- Some argument for a field has the state that an annotation of the field resets on. -/
def Resettable (decl : AtomDecl) (fieldNumber : Int) : Prop :=
  ∃ argument : Argument, decl.signature[(fieldNumber - 1).toNat]? = some argument.type ∧
    ∃ ann ∈ annotationsOf decl fieldNumber, ann.annotationId = .triggerStateReset ∧
      Applies ann argument.isNumber

/-- The first field has no annotations, every reset has a default state, and no state is rounded
when it is compared. -/
structure Reportable (decl : AtomDecl) : Prop where
  firstField : annotationsOf decl 1 = []
  resets : ∀ fieldNumber, 1 ≤ fieldNumber → Resettable decl fieldNumber →
    HasReset (annotationsOf decl fieldNumber)
  exact : ∀ fieldNumber, 1 ≤ fieldNumber → HasReset (annotationsOf decl fieldNumber) →
    ∀ argument : Argument, decl.signature[(fieldNumber - 1).toNat]? = some argument.type →
      argument.equals (declaredState .triggerStateReset (annotationsOf decl fieldNumber)) =
        argument.isNumber (declaredState .triggerStateReset (annotationsOf decl fieldNumber))

/-- The numbers tell the annotations of an atom apart. -/
def DistinctNumbers (numbers : AnnotationNumbers) (decl : AtomDecl) : Prop :=
  ∀ first ∈ annotationEntries decl, ∀ second ∈ annotationEntries decl,
    numbers.annotationId first.2.annotationId = numbers.annotationId second.2.annotationId →
      first.2.annotationId = second.2.annotationId

/-! ## The annotations of a registered atom -/

section Registered

variable {registration : Registration} {fieldNumber : Int} {ann : Annotation}

/-- The states are the annotations that depend on the argument. -/
theorem declaresState_iff (member : ann ∈ annotationsOf registration.decl fieldNumber) :
    declaresState ann = true ↔
      ann.annotationId = .triggerStateReset ∨ ann.annotationId = .defaultState := by
  constructor
  · intro declares
    by_contra notState
    rw [not_or] at notState
    rw [declaresState_eq_false notState.1 notState.2] at declares
    contradiction
  · intro isState
    rcases declRequests_state isState (requested_of_mem member) with
      ⟨-, -, -, -, -, state, isValue⟩
    rw [declaresState, isValue]
    exact decide_eq_true isState

/-- The declared state is the one of the annotation. -/
theorem value_eq_declaredState (member : ann ∈ annotationsOf registration.decl fieldNumber)
    (isState : ann.annotationId = .triggerStateReset ∨ ann.annotationId = .defaultState) :
    ann.value =
      .int (declaredState ann.annotationId (annotationsOf registration.decl fieldNumber)) := by
  have requested := requested_of_mem member
  rcases declRequests_state isState requested with ⟨-, -, -, -, -, state, isValue⟩
  rw [isValue] at requested
  rw [isValue]
  exact congrArg AnnotationValue.int
    (declaredState_of_stores registration.describes.stores requested).symm

/-- An annotated field has an annotation that applies to every argument. -/
theorem exists_applies (annotated : annotationsOf registration.decl fieldNumber ≠ []) :
    ∃ ann ∈ annotationsOf registration.decl fieldNumber, ∀ isNumber, Applies ann isNumber := by
  have stored : fieldNumber ∈ registration.decl.fieldNumberToAnnotations := by
    rw [mem_iff_exists_getElem?]
    by_contra none
    apply annotated
    rw [annotationsOf, Option.eq_none_iff_forall_ne_some.mpr fun value found =>
      none ⟨value, found⟩]
    simp [elements]
  rcases exists_direct_of_stores registration.describes.stores stored with
    ⟨ann, member, notReset, notDefault⟩
  exact ⟨ann, member, fun isNumber => ⟨notDefault, fun isReset => absurd isReset notReset⟩⟩

theorem mem_directAnnotations_iff
    (member : ann ∈ annotationsOf registration.decl fieldNumber) :
    ann ∈ directAnnotations (annotationsOf registration.decl fieldNumber) ↔
      ann.annotationId ≠ .triggerStateReset ∧ ann.annotationId ≠ .defaultState := by
  rw [directAnnotations, List.mem_filter, ← not_or, ← declaresState_iff member]
  simp [member]

end Registered

/-! ## The annotations of a field in a parcel -/

section Field

variable {registration : Registration} {numbers : AnnotationNumbers} {fieldNumber : Int}
  {equals : Int → Bool} {ann : Annotation}

@[simp]
theorem parcel_annotationId (numbers : AnnotationNumbers) (ann : Annotation) :
    (numbers.parcel ann).annotationId = numbers.annotationId ann.annotationId := by
  rw [AnnotationNumbers.parcel]

theorem mem_reset_iff {annotations : List Annotation} {parcel : AnnotationParcel} :
    parcel ∈ numbers.reset annotations equals ↔
      (HasReset annotations ∧ equals (declaredState .triggerStateReset annotations)) ∧
        parcel = ⟨numbers.annotationId .triggerStateReset,
          .int (declaredState .defaultState annotations)⟩ := by
  rw [AnnotationNumbers.reset]
  split
  · rename_i both
    simp [both]
  · rename_i notBoth
    simp [notBoth]

/-- An annotation applies to the argument that it resets on. -/
theorem applies_reset_iff (member : ann ∈ annotationsOf registration.decl fieldNumber)
    (isReset : ann.annotationId = .triggerStateReset) :
    Applies ann equals ↔
      equals (declaredState .triggerStateReset (annotationsOf registration.decl fieldNumber)) =
        true := by
  have isValue := value_eq_declaredState member (Or.inl isReset)
  rw [isReset] at isValue
  constructor
  · intro applies
    rcases applies.onReset isReset with ⟨state, isState, isNumber⟩
    rw [isValue, AnnotationValue.int.injEq] at isState
    rwa [isState]
  · intro isNumber
    exact ⟨by rw [isReset]; decide, fun _ => ⟨_, isValue, isNumber⟩⟩

variable (distinct : DistinctNumbers numbers registration.decl)

include distinct

/-- Of the parcels for a field, the reset alone has the number of resets. -/
theorem mem_fieldParcels_reset_iff {state : Int}
    (isReset : ∃ ann ∈ annotationsOf registration.decl fieldNumber,
      ann.annotationId = .triggerStateReset) :
    ⟨numbers.annotationId .triggerStateReset, .int state⟩ ∈
        fieldParcels numbers registration.decl fieldNumber equals ↔
      (HasReset (annotationsOf registration.decl fieldNumber) ∧
        equals (declaredState .triggerStateReset (annotationsOf registration.decl fieldNumber))) ∧
      state = declaredState .defaultState (annotationsOf registration.decl fieldNumber) := by
  rw [fieldParcels, List.mem_append, mem_reset_iff, AnnotationParcel.mk.injEq,
    AnnotationValue.int.injEq]
  constructor
  · rintro (direct | ⟨both, -, isState⟩)
    · rcases List.mem_map.mp direct with ⟨other, otherMem, isParcel⟩
      have listed := List.mem_of_mem_filter otherMem
      rcases isReset with ⟨reset, resetMem, isReset⟩
      have sameNumber := congrArg AnnotationParcel.annotationId isParcel
      rw [parcel_annotationId, ← isReset] at sameNumber
      have same := distinct _ (mem_annotationEntries listed) _ (mem_annotationEntries resetMem)
        sameNumber
      rw [isReset] at same
      exact absurd same ((mem_directAnnotations_iff listed).mp otherMem).1
    · exact ⟨both, isState⟩
  · rintro ⟨both, isState⟩
    exact Or.inr ⟨both, rfl, isState⟩

/-- A default state has no parcel. -/
theorem notMem_fieldParcels_default
    (member : ann ∈ annotationsOf registration.decl fieldNumber)
    (isDefault : ann.annotationId = .defaultState) :
    numbers.parcel ann ∉ fieldParcels numbers registration.decl fieldNumber equals := by
  rw [fieldParcels, List.mem_append, mem_reset_iff]
  rintro (direct | ⟨⟨hasReset, -⟩, isParcel⟩)
  · rcases List.mem_map.mp direct with ⟨other, otherMem, isParcel⟩
    have listed := List.mem_of_mem_filter otherMem
    have sameNumber := congrArg AnnotationParcel.annotationId isParcel
    rw [parcel_annotationId, parcel_annotationId] at sameNumber
    have same := distinct _ (mem_annotationEntries listed) _ (mem_annotationEntries member)
      sameNumber
    rw [isDefault] at same
    exact absurd same ((mem_directAnnotations_iff listed).mp otherMem).2
  · rcases exists_mem_of_declaredState hasReset.2 with ⟨reset, resetMem, isReset⟩
    have sameNumber := congrArg AnnotationParcel.annotationId isParcel
    rw [parcel_annotationId, ← isReset] at sameNumber
    have same := distinct _ (mem_annotationEntries member) _ (mem_annotationEntries resetMem)
      sameNumber
    rw [isDefault, isReset] at same
    contradiction

/-- The parcels for a field report the annotations that apply, a reset only when both of its
states are declared. -/
theorem reported_fieldParcels_iff
    (member : ann ∈ annotationsOf registration.decl fieldNumber) :
    Reported numbers (annotationsOf registration.decl fieldNumber) ann
        (fieldParcels numbers registration.decl fieldNumber equals) ↔
      Applies ann equals ∧ (ann.annotationId = .triggerStateReset →
        HasReset (annotationsOf registration.decl fieldNumber)) := by
  rw [Reported]
  by_cases isReset : ann.annotationId = .triggerStateReset
  · rw [if_pos isReset, applies_reset_iff member isReset]
    simp only [mem_fieldParcels_reset_iff distinct ⟨ann, member, isReset⟩]
    constructor
    · rintro ⟨state, ⟨⟨hasReset, isNumber⟩, -⟩, -⟩
      exact ⟨isNumber, fun _ => hasReset⟩
    · rintro ⟨isNumber, hasReset⟩
      refine ⟨_, ⟨⟨hasReset isReset, isNumber⟩, rfl⟩, ?_⟩
      intro other otherMem isDefault
      rw [value_eq_declaredState otherMem (Or.inr isDefault), isDefault]
  · rw [if_neg isReset]
    by_cases isDefault : ann.annotationId = .defaultState
    · apply iff_of_false (notMem_fieldParcels_default distinct member isDefault)
      exact fun both => both.1.notDefault isDefault
    · have direct := (mem_directAnnotations_iff member).mpr ⟨isReset, isDefault⟩
      apply iff_of_true (List.mem_append_left _ (List.mem_map_of_mem direct))
      exact ⟨⟨isDefault, fun same => absurd same isReset⟩, fun same => absurd same isReset⟩

end Field

/-! ## The parcel of an atom -/

section Parcel

variable {numbers : AnnotationNumbers} {decl : AtomDecl} {name : String}
  {rest : List Argument}

theorem reportedFor_atom :
    reportedFor atomIdFieldNumber (vendorAtom numbers decl name rest) =
      fieldParcels numbers decl atomIdFieldNumber fun _ => false := by
  rw [reportedFor, if_pos rfl, vendorAtom, filterMap_presentUnlessEmpty]

/-- Nothing is reported for the first field. -/
theorem reportedFor_firstField :
    reportedFor 1 (vendorAtom numbers decl name rest) = [] := by
  rw [reportedFor, if_neg (by decide)]
  exact valueParcels_vendorAtom_neg (by decide)

theorem reportedFor_value {position : Nat} {argument : Argument}
    (found : rest[position]? = some argument) :
    reportedFor (2 + position) (vendorAtom numbers decl name rest) =
      fieldParcels numbers decl (2 + position) argument.equals := by
  have notAtom : (2 + position : Int) ≠ atomIdFieldNumber := by
    rw [atomIdFieldNumber]
    omega
  have valueIndex : (2 + position : Int) - 2 = position := by omega
  rw [reportedFor, if_neg notAtom, valueIndex, valueParcels_vendorAtom found]

theorem fieldIs_atom (arguments : List Argument) :
    fieldIs arguments atomIdFieldNumber = fun _ => false :=
  rfl

theorem fieldIs_value {first : Argument} {position : Nat} {argument : Argument}
    (found : rest[position]? = some argument) :
    fieldIs (first :: rest) (2 + position) = argument.isNumber := by
  have positive : (1 : Int) ≤ 2 + position := by omega
  have index : (2 + (position : Int) - 1).toNat = position + 1 := by omega
  funext number
  rw [fieldIs, if_pos positive, index, List.getElem?_cons_succ, found, Option.any_some]

end Parcel

section Reportable

variable {registration : Registration} {numbers : AnnotationNumbers} {first : Argument}
  {name : String} {rest : List Argument}

/-- With both states declared and an exact comparison, a reset applies when it is reported. -/
theorem applies_equals_iff {fieldNumber : Int} {ann : Annotation}
    {equals isNumber : Int → Bool} (member : ann ∈ annotationsOf registration.decl fieldNumber)
    (exact : ann.annotationId = .triggerStateReset →
      equals (declaredState .triggerStateReset (annotationsOf registration.decl fieldNumber)) =
        isNumber (declaredState .triggerStateReset
          (annotationsOf registration.decl fieldNumber))) :
    Applies ann equals ↔ Applies ann isNumber := by
  by_cases isReset : ann.annotationId = .triggerStateReset
  · rw [applies_reset_iff member isReset, applies_reset_iff member isReset, exact isReset]
  · constructor
    · exact fun applies => ⟨applies.notDefault, fun same => absurd same isReset⟩
    · exact fun applies => ⟨applies.notDefault, fun same => absurd same isReset⟩

/-- The parcel of a reportable atom loses no annotation. -/
theorem Reportable.reportsAnnotations (reportable : Reportable registration.decl)
    (distinct : DistinctNumbers numbers registration.decl)
    (typed : (first :: rest).map Argument.type = registration.decl.signature) :
    ReportsAnnotations numbers registration.decl (first :: rest)
      (vendorAtom numbers registration.decl name rest) := by
  intro fieldNumber ann member
  have annotated : fieldNumber ∈ registration.decl.fieldNumberToAnnotations :=
    (registration.describes.stores.mem_iff fieldNumber).mpr
      ⟨_, Option.ne_none_iff_exists'.mpr ⟨_, requested_of_mem member⟩⟩
  rcases registration.annotated_cases annotated with rfl | ⟨index, inRange, rfl⟩
  · have notReset : ann.annotationId ≠ .triggerStateReset := by
      intro isReset
      exact (declRequests_state (Or.inl isReset) (requested_of_mem member)).1 rfl
    rw [reportedFor_atom, reported_fieldParcels_iff distinct member, fieldIs_atom]
    exact ⟨And.left, fun applies => ⟨applies, fun isReset => absurd isReset notReset⟩⟩
  · cases index with
    | zero =>
        rw [Int.natCast_zero, Int.add_zero, reportable.firstField] at member
        contradiction
    | succ position =>
        rw [← typed, List.length_map, List.length_cons] at inRange
        obtain ⟨argument, found⟩ : ∃ argument, rest[position]? = some argument :=
          ⟨_, List.getElem?_eq_getElem (Nat.lt_of_succ_lt_succ inRange)⟩
        have place : 1 + ((position + 1 : Nat) : Int) = 2 + position := by omega
        have index : (2 + (position : Int) - 1).toNat = position + 1 := by omega
        have isType : registration.decl.signature[(2 + (position : Int) - 1).toNat]? =
            some argument.type := by
          rw [index, ← typed, List.map_cons, List.getElem?_cons_succ, List.getElem?_map, found]
          rfl
        rw [place] at member ⊢
        rw [fieldIs_value found, reportedFor_value found,
          reported_fieldParcels_iff distinct member]
        have applies_iff (hasReset : ann.annotationId = .triggerStateReset →
            HasReset (annotationsOf registration.decl (2 + position))) :=
          applies_equals_iff member fun isReset =>
            reportable.exact _ (by omega) (hasReset isReset) _ isType
        constructor
        · rintro ⟨applies, hasReset⟩
          exact (applies_iff hasReset).mp applies
        · intro applies
          have hasReset (isReset : ann.annotationId = .triggerStateReset) :
              HasReset (annotationsOf registration.decl (2 + position)) :=
            reportable.resets _ (by omega) ⟨_, isType, ann, member, isReset, applies⟩
          exact ⟨(applies_iff hasReset).mpr applies, hasReset⟩

/-- A field for which nothing is reported has no annotations. -/
theorem annotationsOf_eq_nil_of_reports {arguments : List Argument} {atom : VendorAtom}
    (reports : ReportsAnnotations numbers registration.decl arguments atom) {fieldNumber : Int}
    (nothing : reportedFor fieldNumber atom = []) :
    annotationsOf registration.decl fieldNumber = [] := by
  by_contra annotated
  rcases exists_applies annotated with ⟨ann, member, applies⟩
  have reported := (reports fieldNumber ann member).mpr (applies _)
  rw [nothing, Reported] at reported
  split at reported
  · rcases reported with ⟨state, inEmpty, -⟩
    contradiction
  · contradiction

section Reported

variable (distinct : DistinctNumbers numbers registration.decl)
  (reports : ReportsAnnotations numbers registration.decl (first :: rest)
    (vendorAtom numbers registration.decl name rest)) {position : Nat} {argument : Argument}
  (found : rest[position]? = some argument) {ann : Annotation}
  (member : ann ∈ annotationsOf registration.decl (2 + position))
  (isReset : ann.annotationId = .triggerStateReset)

include distinct reports found member isReset

/-- A reset that is reported has a default state, and it is for the state that triggers it. -/
theorem reset_of_reports :
    Applies ann argument.equals ∧ HasReset (annotationsOf registration.decl (2 + position)) ↔
      Applies ann argument.isNumber := by
  have reported := reports _ ann member
  rw [fieldIs_value found, reportedFor_value found,
    reported_fieldParcels_iff distinct member] at reported
  rw [← reported]
  exact and_congr_right fun _ => ⟨fun hasReset _ => hasReset, fun hasReset => hasReset isReset⟩

end Reported

end Reportable

/-! ## Created atoms -/

/-- What a writer prints for the annotations of a declaration has their numbers, and it compares
what can be compared. -/
def VendorWriter.Prints (native java : Platform) (decl : AtomDecl) : VendorWriter → Prop
  | .native => ComparesResets 1 cppComparable decl ∧ ∀ fieldNumber,
      ∀ ann ∈ annotationsOf decl fieldNumber, Numbered (Native.visibleConstants native)
        annotationConstantNameVendorNativePrefix (numbersOf native) ann
  | .java => ComparesResets 1 javaComparable decl ∧ ∀ fieldNumber,
      ∀ ann ∈ annotationsOf decl fieldNumber,
        Numbered java annotationConstantNameVendorPrefix (numbersOf native) ann

/-- A method for a signature can be compiled. -/
def VendorWriter.Compilable (native : Platform) (atoms : Atoms) (signature : Signature) :
    VendorWriter → Prop
  | .native => Native.Compilable native atoms signature
  | .java => Java.Compilable atoms signature

section Created

variable {native java : Platform} {atoms : Atoms} {decl : AtomDecl} {arguments : List Argument}
  {atom : VendorAtom} {declSets : FieldNumberToAtomDeclSet} {writer : VendorWriter}

/-- Without annotations there is nothing to print. -/
theorem VendorWriter.prints_unannotated : writer.Prints native java (unannotated decl) := by
  have noReset (fieldNumber : Int) : ¬HasReset (annotationsOf (unannotated decl) fieldNumber) := by
    rw [annotationsOf_unannotated]
    exact fun hasReset => hasReset.1 rfl
  have unlisted (fieldNumber : Int) (ann : Annotation) :
      ann ∉ annotationsOf (unannotated decl) fieldNumber := by
    rw [annotationsOf_unannotated]
    exact List.not_mem_nil
  cases writer with
  | native => exact ⟨fun _ _ _ _ hasReset => absurd hasReset (noReset _),
      fun fieldNumber ann annMem => absurd annMem (unlisted fieldNumber ann)⟩
  | java => exact ⟨fun _ _ _ _ hasReset => absurd hasReset (noReset _),
      fun fieldNumber ann annMem => absurd annMem (unlisted fieldNumber ann)⟩

section Shared

variable {registrations : List Registration} (registered : Registered registrations atoms)
  (same : SameConstants native java atoms decl)

include registered same

theorem VendorWriter.prints_of_compilable (member : decl ∈ elements atoms.decls)
    (pushed : decl.atomType = .pushed)
    (compilable : writer.Compilable native atoms decl.signature) :
    writer.Prints native java decl := by
  cases writer with
  | native =>
      have issuable := compilable.issuable decl member pushed rfl
      exact ⟨issuable.compared, same.numbered_native_of_issuable registered member pushed issuable⟩
  | java =>
      have issuable := compilable.issuable decl member pushed rfl
      exact ⟨issuable.compared, same.numbered_java_of_issuable registered member pushed issuable⟩

/-- There is a parcel only if the method can be compiled. -/
theorem VendorWriter.compilable_of_creates
    (creates : writer.Creates native java atoms decl arguments atom) :
    writer.Compilable native atoms decl.signature := by
  cases writer with
  | native =>
      obtain ⟨declSets, method, found, written, compiles, -⟩ := creates
      exact (same.compiles_native_iff registered found written).mp compiles
  | java =>
      obtain ⟨declSets, method, found, written, compiles, -⟩ := creates
      exact (same.compiles_java_iff registered found written).mp compiles

/-- A method that can be compiled creates the parcel of an atom, and no other. -/
theorem VendorWriter.creates_iff (creatable : Creatable atoms declSets decl)
    (found : atoms.signatureInfoMap[decl.signature]? = some declSets)
    (prints : writer.Prints native java decl)
    (compilable : writer.Compilable native atoms decl.signature)
    (typed : arguments.map Argument.type = decl.signature) :
    ∃ first name rest, arguments = first :: rest ∧ ∀ atom,
      writer.Creates native java atoms decl arguments atom ↔
        atom = vendorAtom (numbersOf native) decl name rest := by
  cases writer with
  | native =>
      obtain ⟨first, name, rest, rfl, assigned⟩ := exists_assignedName compilable.assigns typed
      obtain ⟨method, written, called⟩ :=
        Native.call_createVendorAtom creatable typed assigned prints.1 prints.2
      have compiles := (same.compiles_native_iff registered found written).mpr compilable
      refine ⟨first, name, rest, rfl, fun atom => ?_⟩
      simp [Creates, found, written, compiles, called, eq_comm]
  | java =>
      obtain ⟨name, rest, rfl⟩ := exists_domainName compilable.startsWithString typed
      obtain ⟨method, written, final, ran, isAtom, -⟩ :=
        Java.run_createVendorAtom creatable typed prints.1 prints.2
      have compiles := (same.compiles_java_iff registered found written).mpr compilable
      refine ⟨.string name, name, rest, rfl, fun atom => ?_⟩
      simp [Creates, found, written, compiles, Java.Method.call, ran, isAtom, Except.map, eq_comm]

end Shared

/-- A method is called only for a signature that it is generated for. -/
theorem VendorWriter.mem_signatureInfoMap_of_creates
    (creates : writer.Creates native java atoms decl arguments atom) :
    decl.signature ∈ atoms.signatureInfoMap := by
  rw [mem_iff_exists_getElem?]
  cases writer with
  | native =>
      obtain ⟨declSets, -, found, -⟩ := creates
      exact ⟨declSets, found⟩
  | java =>
      obtain ⟨declSets, -, found, -⟩ := creates
      exact ⟨declSets, found⟩

end Created

/-- A signature that can be compiled has no chain, which would be its first entry. -/
theorem VendorWriter.noChain_of_compilable {writer : VendorWriter} {native : Platform}
    {atoms : Atoms} {signature : Signature} (accepted : AcceptedSignature signature)
    (compilable : writer.Compilable native atoms signature) :
    JavaType.attributionChain ∉ signature := by
  obtain ⟨types, areArguments, rfl | rfl⟩ := accepted
  · exact fun member => areArguments _ member
  · exfalso
    cases writer with
    | native =>
        obtain ⟨type, isFirst, assigned⟩ := compilable.assigns
        cases isFirst
        simp at assigned
    | java => cases compilable.startsWithString

/-! ## Atoms that lose no annotation -/

/-- No annotation of an atom is lost.  The methods for pushed atoms know no annotations of
pulled atoms. -/
def KeepsAnnotations (atoms : Atoms) (decl : AtomDecl) : Prop :=
  match decl.atomType with
  | .pushed => Reportable decl
  | .pulled => decl.signature ∈ atoms.signatureInfoMap →
      ∀ fieldNumber, annotationsOf decl fieldNumber = []

/-- Nothing is reported for a declaration without annotations. -/
theorem reportedFor_unannotated {numbers : AnnotationNumbers} {decl : AtomDecl} {name : String}
    {rest : List Argument} (fieldNumber : Int) :
    reportedFor fieldNumber (vendorAtom numbers (unannotated decl) name rest) = [] := by
  rw [reportedFor]
  split
  · rw [vendorAtom, filterMap_presentUnlessEmpty,
      fieldParcels_eq_nil (annotationsOf_unannotated decl _)]
  · rw [valueParcels, vendorAtom, filterMap_presentUnlessEmpty, valuesAnnotationsFrom_eq_nil,
      List.flatMap_nil]
    exact fun index _ => annotationsOf_unannotated decl _

/-- Every created parcel reports the annotations of its atom. -/
def ReportsAll (native java : Platform) (atoms : Atoms) (decl : AtomDecl)
    (writer : VendorWriter) : Prop :=
  ∀ arguments : List Argument, arguments.map Argument.type = decl.signature → ∀ atom,
    writer.Creates native java atoms decl arguments atom →
      ReportsAnnotations (numbersOf native) decl arguments atom

section Pushed

variable {registrations : List Registration} {native java : Platform} {atoms : Atoms}
  {registration : Registration} {declSets : FieldNumberToAtomDeclSet} {writer : VendorWriter}
  (registered : Registered registrations atoms)
  (same : SameConstants native java atoms registration.decl)
  (member : registration.decl ∈ elements atoms.decls)
  (pushed : registration.decl.atomType = .pushed)
  (creatable : Creatable atoms declSets registration.decl)
  (found : atoms.signatureInfoMap[registration.decl.signature]? = some declSets)
  (distinct : DistinctNumbers (numbersOf native) registration.decl)

include registered same member pushed creatable found distinct

/-- What a writer creates for a pushed atom reports its annotations when it is reportable. -/
theorem reportsAll_of_reportable (reportable : Reportable registration.decl) :
    ReportsAll native java atoms registration.decl writer := by
  intro arguments typed atom creates
  have compilable := writer.compilable_of_creates registered same creates
  have prints := writer.prints_of_compilable registered same member pushed compilable
  obtain ⟨first, name, rest, rfl, creates_iff⟩ :=
    writer.creates_iff registered same creatable found prints compilable typed
  rw [(creates_iff atom).mp creates]
  exact reportable.reportsAnnotations distinct typed

variable (compilable : writer.Compilable native atoms registration.decl.signature)
  (reportsAll : ReportsAll native java atoms registration.decl writer)

include compilable reportsAll

omit distinct in
/-- Arguments of the signature are reported with a parcel of the atom. -/
theorem exists_reports_of_reportsAll {arguments : List Argument}
    (typed : arguments.map Argument.type = registration.decl.signature) :
    ∃ first name rest, arguments = first :: rest ∧
      ReportsAnnotations (numbersOf native) registration.decl (first :: rest)
        (vendorAtom (numbersOf native) registration.decl name rest) := by
  have prints := writer.prints_of_compilable registered same member pushed compilable
  obtain ⟨first, name, rest, rfl, creates_iff⟩ :=
    writer.creates_iff registered same creatable found prints compilable typed
  exact ⟨first, name, rest, rfl, reportsAll _ typed _ ((creates_iff _).mpr rfl)⟩

/-- A reset of a value is reported when its argument is the state that triggers it. -/
theorem reset_of_reportsAll (accepted : AcceptedSignature registration.decl.signature)
    {position : Nat} {argument : Argument}
    (isType : registration.decl.signature[position + 1]? = some argument.type) {ann : Annotation}
    (annMem : ann ∈ annotationsOf registration.decl (2 + position))
    (isReset : ann.annotationId = .triggerStateReset) :
    Applies ann argument.equals ∧ HasReset (annotationsOf registration.decl (2 + position)) ↔
      Applies ann argument.isNumber := by
  obtain ⟨first, name, rest, split, reports⟩ := exists_reports_of_reportsAll registered same member
    pushed creatable found compilable reportsAll (argumentsWith_types isType accepted)
  have argumentFound := argumentsWith_getElem? isType
  rw [split, List.getElem?_cons_succ] at argumentFound
  exact reset_of_reports distinct reports argumentFound annMem isReset

/-- A pushed atom that loses no annotation is reportable. -/
theorem reportable_of_reportsAll (accepted : AcceptedSignature registration.decl.signature) :
    Reportable registration.decl := by
  have firstField : annotationsOf registration.decl 1 = [] := by
    obtain ⟨first, name, rest, -, reports⟩ := exists_reports_of_reportsAll registered same member
      pushed creatable found compilable reportsAll (plainArguments_types accepted)
    exact annotationsOf_eq_nil_of_reports reports reportedFor_firstField
  have reset {fieldNumber : Int} (positive : 1 ≤ fieldNumber) {argument : Argument}
      (isType : registration.decl.signature[(fieldNumber - 1).toNat]? = some argument.type)
      {ann : Annotation} (annMem : ann ∈ annotationsOf registration.decl fieldNumber)
      (isReset : ann.annotationId = .triggerStateReset) :
      Applies ann argument.equals ∧ HasReset (annotationsOf registration.decl fieldNumber) ↔
        Applies ann argument.isNumber := by
    have notFirst : fieldNumber ≠ 1 := by
      rintro rfl
      rw [firstField] at annMem
      contradiction
    obtain ⟨position, rfl⟩ : ∃ position : Nat, fieldNumber = 2 + position :=
      ⟨(fieldNumber - 2).toNat, by omega⟩
    have index : (2 + (position : Int) - 1).toNat = position + 1 := by omega
    rw [index] at isType
    exact reset_of_reportsAll registered same member pushed creatable found distinct compilable
      reportsAll accepted isType annMem isReset
  refine ⟨firstField, ?_, ?_⟩
  · rintro fieldNumber positive ⟨argument, isType, ann, annMem, isReset, applies⟩
    exact ((reset positive isType annMem isReset).mpr applies).2
  · intro fieldNumber positive hasReset argument isType
    obtain ⟨ann, annMem, isReset⟩ := exists_mem_of_declaredState hasReset.2
    have applies_iff := reset positive isType annMem isReset
    rw [and_iff_left hasReset, applies_reset_iff annMem isReset,
      applies_reset_iff annMem isReset] at applies_iff
    exact Bool.eq_iff_iff.mpr applies_iff

end Pushed

section Accepted

variable {descriptor : AtomDescriptor} {moduleName : String} {atoms : Atoms}
  {native java : Platform} {decl : AtomDecl} {writer : VendorWriter}
  (accepted : collateAtoms descriptor moduleName {} = (0, atoms))
  (constants : DistinctConstants atoms) (member : decl ∈ elements atoms.decls)
  (same : SameConstants native java atoms decl)

include accepted constants member same

/-- Of the pushed atoms, the reportable ones lose no annotation. -/
theorem reportsAll_pushed_iff (pushed : decl.atomType = .pushed)
    (distinct : DistinctNumbers (numbersOf native) decl)
    (compilable : writer.Compilable native atoms decl.signature) :
    ReportsAll native java atoms decl writer ↔ Reportable decl := by
  obtain ⟨registrations, -, registered⟩ := collateAtoms_registered accepted
  have acceptedSignature := acceptedSignature_of_mem registered member
  have noChain := VendorWriter.noChain_of_compilable acceptedSignature compilable
  obtain ⟨declSets, found, creatable⟩ := exists_creatable accepted constants member pushed noChain
  obtain ⟨registration, -, rfl⟩ := List.mem_map.mp (registered.decls.mem_elements.mp member)
  constructor
  · intro reportsAll
    exact reportable_of_reportsAll registered same member pushed creatable found distinct
      compilable reportsAll acceptedSignature
  · exact reportsAll_of_reportable registered same member pushed creatable found distinct

/-- Of the pulled atoms, the unannotated ones lose no annotation, if there is a method. -/
theorem reportsAll_pulled_iff (pulled : decl.atomType = .pulled)
    (compilable : writer.Compilable native atoms decl.signature) :
    ReportsAll native java atoms decl writer ↔
      (decl.signature ∈ atoms.signatureInfoMap →
        ∀ fieldNumber, annotationsOf decl fieldNumber = []) := by
  obtain ⟨registrations, selected, registered⟩ := collateAtoms_registered accepted
  have faithful := registered.faithful selected
  have acceptedSignature := acceptedSignature_of_mem registered member
  have noChain := VendorWriter.noChain_of_compilable acceptedSignature compilable
  constructor
  · intro reportsAll present fieldNumber
    obtain ⟨declSets, found⟩ := mem_iff_exists_getElem?.mp present
    have foreign : decl.atomType ≠ .pushed := by
      rw [pulled]
      decide
    have dispatches := dispatches_unannotated faithful.pushed faithful.codes_nodup constants member
      foreign found
    have creatable : Creatable atoms declSets (unannotated decl) := by
      refine ⟨acceptedSignature.isArgument noChain, dispatches, ?_⟩
      rw [annotationsOf_unannotated]
      exact fun hasReset => hasReset.1 rfl
    have typed := plainArguments_types acceptedSignature
    obtain ⟨first, name, rest, -, creates_iff⟩ :=
      @VendorWriter.creates_iff native java atoms (unannotated decl) _ _ writer _ registered
        ⟨same.annotationId, same.noCategory⟩ creatable found writer.prints_unannotated compilable
        typed
    have reports := reportsAll _ typed _ ((creates_iff _).mpr rfl)
    obtain ⟨registration, -, rfl⟩ := List.mem_map.mp (registered.decls.mem_elements.mp member)
    exact annotationsOf_eq_nil_of_reports reports (reportedFor_unannotated fieldNumber)
  · intro unannotated arguments typed atom creates fieldNumber ann annMem
    rw [unannotated (VendorWriter.mem_signatureInfoMap_of_creates creates) fieldNumber] at annMem
    contradiction

end Accepted

/-- In an accepted run what the vendor writers create for an atom reports its annotations
exactly when the method cannot be compiled (nothing is created then) or no annotation is lost:
a pushed atom is reportable, a pulled atom has no annotations or no pushed atom its
signature. -/
theorem reportsAll_iff (descriptor : AtomDescriptor) (moduleName : String) (atoms : Atoms)
    (accepted : collateAtoms descriptor moduleName {} = (0, atoms))
    (constants : DistinctConstants atoms) (native java : Platform) (decl : AtomDecl)
    (member : decl ∈ elements atoms.decls) (same : SameConstants native java atoms decl)
    (distinct : DistinctNumbers (numbersOf native) decl) (writer : VendorWriter) :
    ReportsAll native java atoms decl writer ↔
      (writer.Compilable native atoms decl.signature → KeepsAnnotations atoms decl) := by
  by_cases compilable : writer.Compilable native atoms decl.signature
  · rw [KeepsAnnotations, forall_prop_of_true compilable]
    cases kind : decl.atomType with
    | pushed =>
        exact reportsAll_pushed_iff accepted constants member same kind distinct compilable
    | pulled => exact reportsAll_pulled_iff accepted constants member same kind compilable
  · obtain ⟨registrations, -, registered⟩ := collateAtoms_registered accepted
    refine iff_of_true ?_ fun isCompilable => absurd isCompilable compilable
    intro arguments typed atom creates
    exact absurd (writer.compilable_of_creates registered same creates) compilable

instance (numbers : AnnotationNumbers) (decl : AtomDecl) :
    Decidable (DistinctNumbers numbers decl) :=
  inferInstanceAs (Decidable (∀ first ∈ annotationEntries decl, ∀ second ∈ annotationEntries decl,
    _ → _))

theorem reportsAll_vendorDecl :
    ReportsAll (aidlPlatform annotationConstantNameVendorNativePrefix)
        (aidlPlatform annotationConstantNameVendorPrefix) vendorAtoms vendorDecl .java ↔
      (VendorWriter.java.Compilable (aidlPlatform annotationConstantNameVendorNativePrefix)
          vendorAtoms vendorDecl.signature →
        KeepsAnnotations vendorAtoms vendorDecl) :=
  reportsAll_iff vendorDescriptor "test" vendorAtoms (Prod.ext (by decide) rfl) (by decide) _ _
    vendorDecl mem_vendorDecl (sameConstants_aidlPlatform vendorAtoms vendorDecl) (by decide) .java

/-! ## An atom whose name is a primary field -/

def exclusiveState : StateAtomFieldOption where
  exclusiveState := true

/-- The state of every vendor is apart. -/
def vendorAtomPerVendor : Descriptor where
  name := "VendorAtomPerVendor"
  fields :=
    [{ name := "reverse_domain_name", number := 1, type := .string,
       options := { stateFieldOption := some { primaryField := true } } },
     { name := "state", number := 2,
       type := .enum ⟨"State", [⟨"OFF", 0⟩, ⟨"ON", 1⟩]⟩,
       options := { stateFieldOption := some exclusiveState } }]
  numbers_nodup := by decide

def perVendorDescriptor : AtomDescriptor where
  fields :=
    [{ name := "per_vendor_atom", number := 105512, type := .message vendorAtomPerVendor,
       options := { module := ["test"] } }]
  extensions := []
  numbers_nodup := by decide

def perVendorAtoms : Atoms :=
  (collateAtoms perVendorDescriptor "test" {}).2

/-- The declaration of the atom of `perVendorDescriptor`. -/
def perVendorDecl : AtomDecl :=
  (perVendorAtoms.decls[(⟨105512, "per_vendor_atom"⟩ : DeclKey)]?).getD {}

theorem mem_perVendorDecl : perVendorDecl ∈ elements perVendorAtoms.decls :=
  getD_mem_elements (by decide) _

/-- Neither writer reports that the reverse domain name is a primary field. -/
theorem not_reportsAll_perVendor :
    (collateAtoms perVendorDescriptor "test" {}).1 = 0 ∧
    DistinctConstants perVendorAtoms ∧ perVendorDecl ∈ elements perVendorAtoms.decls ∧
    SameConstants (aidlPlatform annotationConstantNameVendorNativePrefix)
      (aidlPlatform annotationConstantNameVendorPrefix) perVendorAtoms perVendorDecl ∧
    DistinctNumbers (numbersOf (aidlPlatform annotationConstantNameVendorNativePrefix))
      perVendorDecl ∧
    ∀ writer : VendorWriter,
      ¬ReportsAll (aidlPlatform annotationConstantNameVendorNativePrefix)
        (aidlPlatform annotationConstantNameVendorPrefix) perVendorAtoms perVendorDecl writer := by
  have accepted : collateAtoms perVendorDescriptor "test" {} = (0, perVendorAtoms) :=
    Prod.ext (by decide) rfl
  have constants : DistinctConstants perVendorAtoms := by decide
  have same := sameConstants_aidlPlatform perVendorAtoms perVendorDecl
  have distinct : DistinctNumbers
      (numbersOf (aidlPlatform annotationConstantNameVendorNativePrefix)) perVendorDecl := by
    decide
  refine ⟨by rw [accepted], constants, mem_perVendorDecl, same, distinct, ?_⟩
  intro writer reportsAll
  have bothCompilable := (compilable_iff_unrestricted accepted (by decide)
    (aidlPlatform annotationConstantNameVendorNativePrefix) (by decide) (by decide)).mpr
      (@not_sharesRestricted _ _ perVendorDecl (by decide))
  have compilable : writer.Compilable (aidlPlatform annotationConstantNameVendorNativePrefix)
      perVendorAtoms perVendorDecl.signature := by
    cases writer with
    | native => exact bothCompilable.1
    | java => exact bothCompilable.2
  have reportable := (reportsAll_pushed_iff accepted constants mem_perVendorDecl same (by decide)
    distinct compilable).mp reportsAll
  exact absurd reportable.firstField (by decide)

end StatsLogApiGen.Vendor
