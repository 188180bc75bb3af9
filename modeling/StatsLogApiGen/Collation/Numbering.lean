import StatsLogApiGen.Collation.Rules

/-!
# Reports of numbering gaps

The numbering rule looks at every field with the field before it: there is a gap
where the number is not one more.  The loop of `collateAtom` goes on after a gap with
the number it has found instead of the number after it.  From then on every field is
reported, and the expected number that is printed belongs to the field before.
-/

namespace StatsLogApiGen.Collation

open Std
open StatsLogApiGen.Container
open StatsLogApiGen.Proto

/-! ## The rule -/

/-- Every field with the number before it, which is `previous` for the first. -/
def withPrevious : Int → List MessageFieldDescriptor → List (Int × MessageFieldDescriptor)
  | _, [] => []
  | previous, field :: rest => (previous, field) :: withPrevious field.number rest

/-- The number of a field is not one more than the number before it. -/
def isGap (entry : Int × MessageFieldDescriptor) : Bool :=
  entry.2.number ≠ entry.1 + 1

/-- The error for a field that is reported to be expected at `expected`. -/
def numberError (field : MessageFieldDescriptor) (expected : Int) : CollationError :=
  .fieldNumber field.name field.number expected

/-- The errors of the numbering loop. -/
def CollationError.isFieldNumber : CollationError → Bool
  | .fieldNumber .. => true
  | _ => false

/-- Each gap is reported once, and the printed expected number is the number after
the previous one. -/
def ReportsGapsOnce (atom : Descriptor) (atomDecl : AtomDecl) : Prop :=
  let reports := (collateAtom atom atomDecl).1.errors.filter CollationError.isFieldNumber
  let entries := withPrevious 0 (sortedFields atom)
  reports.length = (entries.filter isGap).length ∧
    ∀ entry ∈ entries, ∀ expected, numberError entry.2 expected ∈ reports →
      expected = entry.1 + 1

/-- All fields but the last are numbered consecutively from 1. -/
def NumberedUpToLast (atom : Descriptor) : Prop :=
  (sortedFields atom).dropLast.map FieldDescriptor.number =
    (List.range (atom.fields.length - 1)).map fun index : Nat => (1 : Int) + index

/-! ## The errors of the other checks -/

namespace Collated

/-- The errors of the numbering loop among those printed so far. -/
def numberErrors (collated : Collated) : List CollationError :=
  collated.errors.filter CollationError.isFieldNumber

@[simp]
theorem numberErrors_mk (atomDecl : AtomDecl) (errors : List CollationError) :
    numberErrors ⟨atomDecl, errors⟩ = errors.filter CollationError.isFieldNumber :=
  rfl

@[simp]
theorem numberErrors_printError {error : CollationError} (other : error.isFieldNumber = false)
    (collated : Collated) : (collated.printError error).numberErrors = collated.numberErrors := by
  simp [numberErrors, printError, other]

theorem numberErrors_printErrorIf {error : CollationError} (other : error.isFieldNumber = false)
    (condition : Prop) [Decidable condition] (collated : Collated) :
    (if condition then collated.printError error else collated).numberErrors =
      collated.numberErrors := by
  split
  · exact numberErrors_printError other collated
  · rfl

@[simp]
theorem numberErrors_addAnnotationToAtomDecl (collated : Collated) (fieldNumber : Int)
    (annotationId : AnnotationId) (value : AnnotationValue) :
    (collated.addAnnotationToAtomDecl fieldNumber annotationId value).numberErrors =
      collated.numberErrors :=
  rfl

section Options

variable (option : StateAtomFieldOption) (field : MessageFieldDescriptor) (fieldNumber : Int)
  (javaType : JavaType) (collated : Collated)

theorem numberErrors_checkStateRoles :
    (checkStateRoles option collated).numberErrors = collated.numberErrors :=
  numberErrors_printErrorIf rfl _ collated

theorem numberErrors_collatePrimaryField :
    (collatePrimaryField option fieldNumber javaType collated).numberErrors =
      collated.numberErrors := by
  unfold collatePrimaryField
  split
  · split
    · exact numberErrors_printError rfl collated
    · rfl
  · rfl

theorem numberErrors_collatePrimaryFieldFirstUid :
    (collatePrimaryFieldFirstUid option fieldNumber javaType collated).numberErrors =
      collated.numberErrors := by
  unfold collatePrimaryFieldFirstUid
  split
  · split
    · exact numberErrors_printError rfl collated
    · rfl
  · rfl

theorem numberErrors_collateDefaultState :
    (collateDefaultState option fieldNumber collated).numberErrors = collated.numberErrors := by
  unfold collateDefaultState
  split <;> rfl

theorem numberErrors_collateTriggerStateReset :
    (collateTriggerStateReset option fieldNumber collated).numberErrors =
      collated.numberErrors := by
  unfold collateTriggerStateReset
  split <;> rfl

theorem numberErrors_collateNested :
    (collateNested option fieldNumber collated).numberErrors = collated.numberErrors := by
  unfold collateNested
  split <;> rfl

theorem numberErrors_collateExclusiveState :
    (collateExclusiveState option fieldNumber javaType collated).numberErrors =
      collated.numberErrors := by
  have record (collated : Collated) :
      (if collated.atomDecl.exclusiveField ≠ 0 then
        collated.printError (.severalExclusiveStateFields collated.atomDecl.message)
      else
        { collated with
          atomDecl := { collated.atomDecl with exclusiveField := fieldNumber }
        }.addAnnotationToAtomDecl fieldNumber .exclusiveState (.bool true)).numberErrors =
          collated.numberErrors := by
    split
    · exact numberErrors_printError rfl collated
    · rfl
  unfold collateExclusiveState
  split
  · rw [numberErrors_collateNested, numberErrors_collateTriggerStateReset,
      numberErrors_collateDefaultState, record, numberErrors_printErrorIf rfl]
  · rfl

theorem numberErrors_collateFieldRestrictedAnnotations :
    (collateFieldRestrictedAnnotations field fieldNumber collated).numberErrors =
      collated.numberErrors := by
  have flags (annotationIds : List AnnotationId) (collated : Collated) :
      (annotationIds.foldl
        (fun collated annotationId =>
          collated.addAnnotationToAtomDecl fieldNumber annotationId (.bool true))
        collated).numberErrors = collated.numberErrors := by
    induction annotationIds generalizing collated with
    | nil => rfl
    | cons annotationId rest ih => rw [List.foldl_cons, ih, numberErrors_addAnnotationToAtomDecl]
  unfold collateFieldRestrictedAnnotations
  rw [numberErrors_printErrorIf rfl]
  cases field.options.fieldRestrictionOption with
  | none => rfl
  | some option =>
      rw [flags, ← ite_not, numberErrors_printErrorIf rfl]

theorem numberErrors_collateIsUid :
    (collateIsUid field fieldNumber javaType collated).numberErrors = collated.numberErrors := by
  unfold collateIsUid
  split
  · rw [numberErrors_addAnnotationToAtomDecl, numberErrors_printErrorIf rfl]
  · rfl

/-- The options of a field cause no error about numbers. -/
theorem numberErrors_collateFieldAnnotations :
    (collateFieldAnnotations field fieldNumber javaType collated).numberErrors =
      collated.numberErrors := by
  unfold collateFieldAnnotations
  cases field.options.stateFieldOption with
  | none => rw [numberErrors_collateIsUid, numberErrors_collateFieldRestrictedAnnotations]
  | some option =>
      simp only
      split
      · exact numberErrors_printError rfl collated
      · rw [numberErrors_collateIsUid, numberErrors_collateFieldRestrictedAnnotations,
          numberErrors_collateExclusiveState, numberErrors_collatePrimaryFieldFirstUid,
          numberErrors_collatePrimaryField, numberErrors_checkStateRoles]

end Options

end Collated

theorem filter_checkFieldNumbers (expected : Int) (fields : List MessageFieldDescriptor) :
    (checkFieldNumbers expected fields).filter CollationError.isFieldNumber =
      checkFieldNumbers expected fields := by
  induction fields generalizing expected with
  | nil => rfl
  | cons field rest ih =>
      rw [checkFieldNumbers]
      split
      · rw [List.filter_cons_of_pos rfl, ih]
      · exact ih _

theorem filter_checkFieldType (restricted : Bool) (message : String) (isUintAllowed : Bool)
    (field : MessageFieldDescriptor) :
    (checkFieldType restricted message isUintAllowed field).filter
      CollationError.isFieldNumber = [] := by
  unfold checkFieldType
  simp only
  split_ifs <;> rfl

theorem filter_checkAttributionChainPosition (atom : Descriptor) (isUintAllowed : Bool)
    (field : MessageFieldDescriptor) :
    (checkAttributionChainPosition atom isUintAllowed field).filter
      CollationError.isFieldNumber = [] := by
  unfold checkAttributionChainPosition
  split_ifs <;> rfl

theorem filter_flatMap_eq_nil {check : MessageFieldDescriptor → List CollationError}
    (silent : ∀ field, (check field).filter CollationError.isFieldNumber = [])
    (fields : List MessageFieldDescriptor) :
    (fields.flatMap check).filter CollationError.isFieldNumber = [] := by
  rw [List.filter_flatMap, List.flatMap_eq_nil_iff]
  exact fun field _ => silent field

theorem numberErrors_foldl_collateField (isUintAllowed : Bool)
    (fields : List MessageFieldDescriptor) (state : Collated × Signature) :
    (fields.foldl (collateField isUintAllowed) state).1.numberErrors = state.1.numberErrors := by
  induction fields generalizing state with
  | nil => rfl
  | cons field rest ih =>
      rw [List.foldl_cons, ih]
      exact Collated.numberErrors_collateFieldAnnotations field field.number _ _

/-- The errors about numbers are those of the numbering loop. -/
theorem numberErrors_collateAtom (atom : Descriptor) (atomDecl : AtomDecl) :
    (collateAtom atom atomDecl).1.errors.filter CollationError.isFieldNumber =
      checkFieldNumbers 1 (sortedFields atom) := by
  change (collateAtom atom atomDecl).1.numberErrors = _
  rw [collateAtom, numberErrors_foldl_collateField, Collated.numberErrors_mk,
    List.filter_append, List.filter_append, filter_checkFieldNumbers,
    filter_flatMap_eq_nil (filter_checkFieldType _ _ _),
    filter_flatMap_eq_nil (filter_checkAttributionChainPosition atom _),
    List.append_nil, List.append_nil]

/-! ## The loop -/

theorem checkFieldNumbers_cons_of_eq {expected : Int} {field : MessageFieldDescriptor}
    (inOrder : field.number = expected) (rest : List MessageFieldDescriptor) :
    checkFieldNumbers expected (field :: rest) = checkFieldNumbers (expected + 1) rest := by
  rw [checkFieldNumbers, if_neg (not_not.mpr inOrder)]

theorem checkFieldNumbers_cons_of_ne {expected : Int} {field : MessageFieldDescriptor}
    (gap : field.number ≠ expected) (rest : List MessageFieldDescriptor) :
    checkFieldNumbers expected (field :: rest) =
      numberError field expected :: checkFieldNumbers field.number rest := by
  rw [checkFieldNumbers, if_pos gap, numberError]

/-- As long as no gap is followed by a field, the loop reports the gaps. -/
theorem checkFieldNumbers_eq_gaps {previous : Int} {fields : List MessageFieldDescriptor}
    (numbered : checkFieldNumbers (previous + 1) fields.dropLast = []) :
    checkFieldNumbers (previous + 1) fields =
      ((withPrevious previous fields).filter isGap).map fun entry =>
        numberError entry.2 (entry.1 + 1) := by
  induction fields generalizing previous with
  | nil => rfl
  | cons field rest ih =>
      by_cases inOrder : field.number = previous + 1
      · have later : checkFieldNumbers (field.number + 1) rest.dropLast = [] := by
          cases rest with
          | nil => rfl
          | cons second others =>
              rw [List.dropLast_cons_cons, checkFieldNumbers_cons_of_eq inOrder] at numbered
              rw [inOrder]
              exact numbered
        rw [checkFieldNumbers_cons_of_eq inOrder, withPrevious,
          List.filter_cons_of_neg (by simp [isGap, inOrder]), ← inOrder]
        exact ih later
      · cases rest with
        | nil =>
            rw [checkFieldNumbers_cons_of_ne inOrder, withPrevious,
              List.filter_cons_of_pos (by simp [isGap, inOrder])]
            rfl
        | cons second others =>
            rw [List.dropLast_cons_cons, checkFieldNumbers_cons_of_ne inOrder] at numbered
            contradiction

/-- The field after a gap is reported to be expected at the number of the field before
it. -/
theorem exists_numberError_previous {previous : Int} {fields : List MessageFieldDescriptor}
    (ascending : fields.Pairwise fun first second => first.number < second.number)
    (notNumbered : checkFieldNumbers (previous + 1) fields.dropLast ≠ []) :
    ∃ entry ∈ withPrevious previous fields,
      numberError entry.2 entry.1 ∈ checkFieldNumbers (previous + 1) fields := by
  induction fields generalizing previous with
  | nil => exact absurd rfl notNumbered
  | cons field rest ih =>
      cases rest with
      | nil => exact absurd rfl notNumbered
      | cons second others =>
          rw [List.pairwise_cons] at ascending
          by_cases inOrder : field.number = previous + 1
          · rw [List.dropLast_cons_cons, checkFieldNumbers_cons_of_eq inOrder,
              ← inOrder] at notNumbered
            rcases ih ascending.2 notNumbered with ⟨entry, member, reported⟩
            refine ⟨entry, List.mem_cons_of_mem _ member, ?_⟩
            rw [checkFieldNumbers_cons_of_eq inOrder, ← inOrder]
            exact reported
          · have after : second.number ≠ field.number :=
              (ascending.1 second List.mem_cons_self).ne'
            refine ⟨(field.number, second),
              List.mem_cons_of_mem _ List.mem_cons_self, ?_⟩
            rw [checkFieldNumbers_cons_of_ne inOrder, checkFieldNumbers_cons_of_ne after]
            exact List.mem_cons_of_mem _ List.mem_cons_self

theorem withPrevious_map_snd (previous : Int) (fields : List MessageFieldDescriptor) :
    (withPrevious previous fields).map Prod.snd = fields := by
  induction fields generalizing previous with
  | nil => rfl
  | cons field rest ih => rw [withPrevious, List.map_cons, ih]

/-- A field has one field before it. -/
theorem eq_of_mem_withPrevious {atom : Descriptor} {previous : Int}
    {first second : Int × MessageFieldDescriptor}
    (firstMem : first ∈ withPrevious previous (sortedFields atom))
    (secondMem : second ∈ withPrevious previous (sortedFields atom))
    (sameNumber : first.2.number = second.2.number) : first = second := by
  have distinct : ((withPrevious previous (sortedFields atom)).map
      fun entry => entry.2.number).Nodup := by
    have numbers := sortedFields_numbers_nodup atom
    rw [← withPrevious_map_snd previous (sortedFields atom), List.map_map] at numbers
    exact numbers
  exact List.inj_on_of_nodup_map distinct firstMem secondMem sameNumber

theorem numberedUpToLast_iff (atom : Descriptor) :
    NumberedUpToLast atom ↔ checkFieldNumbers 1 (sortedFields atom).dropLast = [] := by
  rw [checkFieldNumbers_eq_nil_iff, List.length_dropLast, (sortedFields_perm atom).length_eq]
  rfl

/-- Each gap is reported once exactly when no field follows the first gap. -/
theorem reportsGapsOnce_iff (atom : Descriptor) (atomDecl : AtomDecl) :
    ReportsGapsOnce atom atomDecl ↔ NumberedUpToLast atom := by
  rw [ReportsGapsOnce, numberErrors_collateAtom, numberedUpToLast_iff]
  constructor
  · rintro ⟨-, expectedNext⟩
    by_contra notNumbered
    rcases @exists_numberError_previous 0 _ (pairwise_sortedFields atom) notNumbered with
      ⟨entry, member, reported⟩
    have expected := expectedNext entry member entry.1 reported
    omega
  · intro numbered
    have reports : checkFieldNumbers 1 (sortedFields atom) = _ :=
      @checkFieldNumbers_eq_gaps 0 _ numbered
    refine ⟨by rw [reports, List.length_map], ?_⟩
    intro entry member expected reported
    rw [reports] at reported
    rcases List.mem_map.mp reported with ⟨other, otherMem, sameError⟩
    rw [numberError, numberError, CollationError.fieldNumber.injEq] at sameError
    have same := eq_of_mem_withPrevious (List.mem_filter.mp otherMem).1 member sameError.2.1
    rw [← sameError.2.2, same]

/-- A message with a gap that another field follows. -/
def skippedFields : Descriptor where
  name := "SkippedFields"
  fields :=
    [{ name := "first", number := 1, type := .int32 },
     { name := "third", number := 3, type := .int32 },
     { name := "fourth", number := 4, type := .int32 }]
  numbers_nodup := by decide

/-- The field after the gap is reported as well, and to be expected where the field
before it is. -/
theorem not_reportsGapsOnce_skippedFields : ¬ReportsGapsOnce skippedFields {} := by
  rintro ⟨sameLength, -⟩
  revert sameLength
  decide

end StatsLogApiGen.Collation
