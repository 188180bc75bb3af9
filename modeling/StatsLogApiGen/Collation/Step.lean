import StatsLogApiGen.Collation.Requests

/-!
# What one step of collation does

`Step` says everything a step may do to the declaration under construction:
whether it prints an error, which primary fields it records, which exclusive
field it leaves and which annotations it asks for.  Steps compose, so the specification
of `collateFieldAnnotations` is assembled from one lemma for each of its parts.
-/

namespace StatsLogApiGen.Collation

open Std
open StatsLogApiGen.Container
open StatsLogApiGen.Proto

/-- The part of a declaration that the options of a field never change. -/
structure AtomDecl.Header where
  code : Int
  name : String
  message : String
  fields : List AtomField
  atomType : AtomType
  restricted : Bool

def AtomDecl.header (decl : AtomDecl) : AtomDecl.Header :=
  ⟨decl.code, decl.name, decl.message, decl.fields, decl.atomType, decl.restricted⟩

/-- One step from `before` to `after`.  It is silent exactly when `accepted`
holds. -/
structure Step (before after : Collated) (accepted : Prop) (primary : List Int)
    (exclusive : Int) (asks : Requests → Requests) : Prop where
  header : after.atomDecl.header = before.atomDecl.header
  errors : after.errors = [] ↔ before.errors = [] ∧ accepted
  primaryFields :
    after.atomDecl.primaryFields = before.atomDecl.primaryFields ++ primary
  exclusiveField : after.atomDecl.exclusiveField = exclusive
  stores : ∀ requests,
    Stores before.atomDecl.code before.atomDecl.fieldNumberToAnnotations requests →
    Stores after.atomDecl.code after.atomDecl.fieldNumberToAnnotations (asks requests)

namespace Step

variable {first second third : Collated} {firstAccepted secondAccepted : Prop}
  {firstPrimary secondPrimary : List Int} {firstExclusive secondExclusive : Int}
  {firstAsks secondAsks : Requests → Requests}

theorem refl (collated : Collated) :
    Step collated collated True [] collated.atomDecl.exclusiveField id where
  header := rfl
  errors := by simp
  primaryFields := by simp
  exclusiveField := rfl
  stores _ stored := stored

theorem trans
    (left : Step first second firstAccepted firstPrimary firstExclusive firstAsks)
    (right : Step second third secondAccepted secondPrimary secondExclusive secondAsks) :
    Step first third (firstAccepted ∧ secondAccepted) (firstPrimary ++ secondPrimary)
      secondExclusive (secondAsks ∘ firstAsks) where
  header := right.header.trans left.header
  errors := by rw [right.errors, left.errors, and_assoc]
  primaryFields := by rw [right.primaryFields, left.primaryFields, List.append_assoc]
  exclusiveField := right.exclusiveField
  stores requests stored := right.stores _ (left.stores requests stored)

theorem congr
    (step : Step first second firstAccepted firstPrimary firstExclusive firstAsks)
    (accepted : firstAccepted ↔ secondAccepted) (primary : firstPrimary = secondPrimary)
    (exclusive : firstExclusive = secondExclusive) (asks : firstAsks = secondAsks) :
    Step first second secondAccepted secondPrimary secondExclusive secondAsks := by
  subst primary exclusive asks
  exact ⟨step.header, step.errors.trans (and_congr_right fun _ => accepted),
    step.primaryFields, step.exclusiveField, step.stores⟩

theorem code_eq
    (step : Step first second firstAccepted firstPrimary firstExclusive firstAsks) :
    second.atomDecl.code = first.atomDecl.code :=
  congrArg AtomDecl.Header.code step.header

theorem restricted_eq
    (step : Step first second firstAccepted firstPrimary firstExclusive firstAsks) :
    second.atomDecl.restricted = first.atomDecl.restricted :=
  congrArg AtomDecl.Header.restricted step.header

/-- Printing an error rejects the atom and changes nothing else. -/
theorem printError (collated : Collated) (error : CollationError) :
    Step collated (collated.printError error) False [] collated.atomDecl.exclusiveField id where
  header := rfl
  errors := by simp [Collated.printError]
  primaryFields := by simp [Collated.printError]
  exclusiveField := rfl
  stores _ stored := stored

theorem printErrorIf (collated : Collated) (condition : Prop) [Decidable condition]
    (error : CollationError) :
    Step collated (if condition then collated.printError error else collated)
      (¬ condition) [] collated.atomDecl.exclusiveField id := by
  by_cases holds : condition
  · rw [if_pos holds]
    exact (printError collated error).congr (by simp [holds]) rfl rfl rfl
  · rw [if_neg holds]
    exact (refl collated).congr (by simp [holds]) rfl rfl rfl

theorem addAnnotationToAtomDecl (collated : Collated) (fieldNumber : Int)
    (annotationId : AnnotationId) (value : AnnotationValue) :
    Step collated (collated.addAnnotationToAtomDecl fieldNumber annotationId value)
      True [] collated.atomDecl.exclusiveField
      (fun requests => requests.add fieldNumber annotationId (some value)) where
  header := rfl
  errors := by simp [Collated.addAnnotationToAtomDecl]
  primaryFields := by simp [Collated.addAnnotationToAtomDecl]
  exclusiveField := rfl
  stores _ stored := Stores.add collated stored fieldNumber annotationId value

/-- Record something in a declaration, then ask for an annotation. -/
theorem record (collated : Collated) (decl : AtomDecl) (primary : List Int)
    (header : decl.header = collated.atomDecl.header)
    (stored : decl.fieldNumberToAnnotations = collated.atomDecl.fieldNumberToAnnotations)
    (primaryFields : decl.primaryFields = collated.atomDecl.primaryFields ++ primary)
    (fieldNumber : Int) (annotationId : AnnotationId) (value : AnnotationValue) :
    Step collated
      (Collated.addAnnotationToAtomDecl { collated with atomDecl := decl } fieldNumber
        annotationId value)
      True primary decl.exclusiveField
      (fun requests => requests.add fieldNumber annotationId (some value)) where
  header := header
  errors := by simp [Collated.addAnnotationToAtomDecl]
  primaryFields := primaryFields
  exclusiveField := rfl
  stores requests before := by
    have code : decl.code = collated.atomDecl.code :=
      congrArg AtomDecl.Header.code header
    rw [← stored, ← code] at before
    exact Stores.add { collated with atomDecl := decl } before fieldNumber annotationId value

end Step

namespace Collated

/-! ## State options -/

theorem checkStateRoles_step (option : StateAtomFieldOption) (collated : Collated) :
    Step collated (checkStateRoles option collated)
      (option.primaryField.toNat + option.primaryFieldFirstUid.toNat +
        option.exclusiveState.toNat ≤ 1)
      [] collated.atomDecl.exclusiveField id := by
  unfold checkStateRoles
  exact (Step.printErrorIf collated _ _).congr (by simp) rfl rfl rfl

theorem collatePrimaryField_step (option : StateAtomFieldOption) (fieldNumber : Int)
    (javaType : JavaType) (collated : Collated) :
    Step collated (collatePrimaryField option fieldNumber javaType collated)
      (option.primaryField → ¬isInvalidStateType javaType)
      (if option.primaryField ∧ ¬isInvalidStateType javaType then [fieldNumber] else [])
      collated.atomDecl.exclusiveField
      (fun requests => requests.add fieldNumber .primaryField
        (flag (option.primaryField ∧ ¬isInvalidStateType javaType))) := by
  unfold collatePrimaryField
  by_cases primary : option.primaryField
  · by_cases invalid : isInvalidStateType javaType
    · simp only [primary, invalid, if_true]
      exact (Step.printError collated _).congr (by simp) (by simp) rfl
        (by simp [flag]; rfl)
    · simp only [primary, invalid, if_true]
      exact (Step.record collated
        { collated.atomDecl with
          primaryFields := collated.atomDecl.primaryFields ++ [fieldNumber] }
        [fieldNumber] rfl rfl rfl fieldNumber _ _).congr (by simp) (by simp) rfl
          (by simp [flag])
  · simp only [primary]
    exact (Step.refl collated).congr (by simp) (by simp) rfl
        (by simp [flag]; rfl)

theorem collatePrimaryFieldFirstUid_step (option : StateAtomFieldOption) (fieldNumber : Int)
    (javaType : JavaType) (collated : Collated) :
    Step collated (collatePrimaryFieldFirstUid option fieldNumber javaType collated)
      (option.primaryFieldFirstUid → javaType = .attributionChain)
      (if option.primaryFieldFirstUid ∧ javaType = .attributionChain then
        [firstUidInChainId] else [])
      collated.atomDecl.exclusiveField
      (fun requests => requests.add fieldNumber .primaryFieldFirstUid
        (flag (option.primaryFieldFirstUid ∧ javaType = .attributionChain))) := by
  unfold collatePrimaryFieldFirstUid
  by_cases firstUid : option.primaryFieldFirstUid
  · by_cases chain : javaType = .attributionChain
    · simp only [firstUid, chain, ne_eq, not_true_eq_false, if_true, if_false]
      exact (Step.record collated
        { collated.atomDecl with
          primaryFields := collated.atomDecl.primaryFields ++ [firstUidInChainId] }
        [firstUidInChainId] rfl rfl rfl fieldNumber _ _).congr (by simp) (by simp) rfl
          (by simp [flag])
    · simp only [firstUid, chain, ne_eq, not_false_eq_true, if_true]
      exact (Step.printError collated _).congr (by simp) (by simp) rfl
        (by simp [flag]; rfl)
  · simp only [firstUid]
    exact (Step.refl collated).congr (by simp) (by simp) rfl
        (by simp [flag]; rfl)

theorem collateDefaultState_step (option : StateAtomFieldOption) (fieldNumber : Int)
    (collated : Collated) :
    Step collated (collateDefaultState option fieldNumber collated) True []
      collated.atomDecl.exclusiveField
      (fun requests =>
        requests.add fieldNumber .defaultState (option.defaultStateValue.map .int)) := by
  unfold collateDefaultState
  cases option.defaultStateValue with
  | none => exact (Step.refl collated).congr Iff.rfl rfl rfl (by simp; rfl)
  | some defaultState =>
      exact Step.record collated { collated.atomDecl with defaultState } [] rfl rfl (by simp)
        fieldNumber _ _

theorem collateTriggerStateReset_step (option : StateAtomFieldOption) (fieldNumber : Int)
    (collated : Collated) :
    Step collated (collateTriggerStateReset option fieldNumber collated) True []
      collated.atomDecl.exclusiveField
      (fun requests => requests.add fieldNumber .triggerStateReset
        (option.triggerStateResetValue.map .int)) := by
  unfold collateTriggerStateReset
  cases option.triggerStateResetValue with
  | none => exact (Step.refl collated).congr Iff.rfl rfl rfl (by simp; rfl)
  | some triggerStateReset =>
      exact Step.record collated { collated.atomDecl with triggerStateReset } [] rfl rfl (by simp)
        fieldNumber _ _

theorem collateNested_step (option : StateAtomFieldOption) (fieldNumber : Int)
    (collated : Collated) :
    Step collated (collateNested option fieldNumber collated) True []
      collated.atomDecl.exclusiveField
      (fun requests => requests.add fieldNumber .stateNested (option.nested.map .bool)) := by
  unfold collateNested
  cases option.nested with
  | none => exact (Step.refl collated).congr Iff.rfl rfl rfl (by simp; rfl)
  | some nested =>
      exact Step.record collated { collated.atomDecl with nested } [] rfl rfl (by simp)
        fieldNumber _ _

/-- Recording the exclusive state field, or rejecting a second one. -/
theorem recordExclusiveField_step (fieldNumber : Int) (collated : Collated) :
    Step collated
      (if collated.atomDecl.exclusiveField ≠ 0 then
        collated.printError (.severalExclusiveStateFields collated.atomDecl.message)
      else
        { collated with
          atomDecl := { collated.atomDecl with exclusiveField := fieldNumber }
        }.addAnnotationToAtomDecl fieldNumber .exclusiveState (.bool true))
      (collated.atomDecl.exclusiveField = 0) []
      (if collated.atomDecl.exclusiveField = 0 then fieldNumber
        else collated.atomDecl.exclusiveField)
      (fun requests => requests.add fieldNumber .exclusiveState
        (flag (collated.atomDecl.exclusiveField = 0))) := by
  by_cases fresh : collated.atomDecl.exclusiveField = 0
  · simp only [fresh, ne_eq, not_true_eq_false, if_false, if_true]
    exact (Step.record collated { collated.atomDecl with exclusiveField := fieldNumber } []
      rfl rfl (by simp) fieldNumber _ _).congr (by simp) rfl rfl (by simp [flag])
  · simp only [fresh, ne_eq, not_false_eq_true, if_true, if_false]
    exact (Step.printError collated _).congr (by simp) rfl rfl (by simp [flag]; rfl)

/-- The annotations an exclusive state field asks for. -/
def addExclusiveState (option : StateAtomFieldOption) (fieldNumber : Int)
    (requests : Requests) : Requests :=
  let given (value : Option AnnotationValue) : Option AnnotationValue :=
    if option.exclusiveState then value else none
  requests
    |>.add fieldNumber .exclusiveState (flag option.exclusiveState)
    |>.add fieldNumber .defaultState (given (option.defaultStateValue.map .int))
    |>.add fieldNumber .triggerStateReset (given (option.triggerStateResetValue.map .int))
    |>.add fieldNumber .stateNested (given (option.nested.map .bool))

/-- The first exclusive state field is recorded and its annotations are asked
for.  A second one is an error. -/
theorem collateExclusiveState_step (option : StateAtomFieldOption) (fieldNumber : Int)
    (javaType : JavaType) (collated : Collated) :
    ∃ asks : Requests → Requests,
      Step collated (collateExclusiveState option fieldNumber javaType collated)
        (option.exclusiveState →
          ¬isInvalidStateType javaType ∧ collated.atomDecl.exclusiveField = 0)
        []
        (if option.exclusiveState ∧ collated.atomDecl.exclusiveField = 0 then fieldNumber
          else collated.atomDecl.exclusiveField)
        asks ∧
      ((option.exclusiveState → collated.atomDecl.exclusiveField = 0) →
        asks = addExclusiveState option fieldNumber) := by
  unfold collateExclusiveState
  by_cases exclusive : option.exclusiveState
  · simp only [exclusive, if_true]
    have typeStep := Step.printErrorIf collated (isInvalidStateType javaType)
      (.exclusiveStateField collated.atomDecl.message)
    have recordStep := recordExclusiveField_step fieldNumber
      (if isInvalidStateType javaType then
        collated.printError (.exclusiveStateField collated.atomDecl.message)
      else
        collated)
    have defaultStep := collateDefaultState_step option fieldNumber
    have resetStep := collateTriggerStateReset_step option fieldNumber
    have nestedStep := collateNested_step option fieldNumber
    have whole := (((typeStep.trans recordStep).trans (defaultStep _)).trans
      (resetStep _)).trans (nestedStep _)
    refine ⟨_, whole.congr ?_ ?_ ?_ rfl, ?_⟩
    · simp [typeStep.exclusiveField]
    · simp
    · rw [(resetStep _).exclusiveField, (defaultStep _).exclusiveField,
        recordStep.exclusiveField, typeStep.exclusiveField]
      simp
    · intro fresh
      funext requests
      simp [typeStep.exclusiveField, fresh, addExclusiveState, exclusive]
  · simp only [exclusive]
    refine ⟨id, (Step.refl collated).congr (by simp) rfl (by simp) rfl, ?_⟩
    intro _
    funext requests
    simp [addExclusiveState, exclusive, flag]

/-! ## Restriction and uid options -/

/-- Ask for several flags of one field. -/
def addFlags (fieldNumber : Int) (annotationIds : List AnnotationId) (requests : Requests) :
    Requests :=
  annotationIds.foldl
    (fun requests annotationId =>
      requests.add fieldNumber annotationId (some (.bool true))) requests

theorem addFlags_step (fieldNumber : Int) (annotationIds : List AnnotationId)
    (collated : Collated) :
    Step collated
      (annotationIds.foldl
        (fun collated annotationId =>
          collated.addAnnotationToAtomDecl fieldNumber annotationId (.bool true))
        collated)
      True [] collated.atomDecl.exclusiveField (addFlags fieldNumber annotationIds) := by
  induction annotationIds generalizing collated with
  | nil => exact Step.refl collated
  | cons annotationId rest ih =>
      have head := Step.addAnnotationToAtomDecl collated fieldNumber annotationId (.bool true)
      exact (head.trans (ih _)).congr (by simp) rfl head.exclusiveField rfl

theorem collateFieldRestrictedAnnotations_step (field : MessageFieldDescriptor)
    (fieldNumber : Int) (collated : Collated) :
    Step collated (collateFieldRestrictedAnnotations field fieldNumber collated)
      ((field.options.fieldRestrictionOption.isSome → collated.atomDecl.restricted) ∧
        field.options.restrictionCategory = none)
      [] collated.atomDecl.exclusiveField
      (addFlags fieldNumber
        (fieldRestrictionIds (field.options.fieldRestrictionOption.getD {}))) := by
  have categoryStep (collated : Collated) :=
    Step.printErrorIf collated field.options.restrictionCategory.isSome
      (.restrictionCategoryOnField collated.atomDecl.message)
  unfold collateFieldRestrictedAnnotations
  cases field.options.fieldRestrictionOption with
  | none => exact (categoryStep collated).congr (by simp) rfl rfl rfl
  | some option =>
      have restrictedStep := Step.printErrorIf collated (¬ collated.atomDecl.restricted)
        (.fieldRestrictionWithoutCategory collated.atomDecl.message)
      rw [ite_not] at restrictedStep
      have flagsStep :=
        restrictedStep.trans (addFlags_step fieldNumber (fieldRestrictionIds option) _)
      exact (flagsStep.trans (categoryStep _)).congr (by simp) rfl
        (by rw [flagsStep.exclusiveField]; exact restrictedStep.exclusiveField) rfl

theorem collateIsUid_step (field : MessageFieldDescriptor) (fieldNumber : Int)
    (javaType : JavaType) (collated : Collated) :
    Step collated (collateIsUid field fieldNumber javaType collated)
      (field.options.getIsUid → javaType = .int ∨ javaType = .intArray)
      [] collated.atomDecl.exclusiveField
      (fun requests => requests.add fieldNumber .isUid (flag field.options.getIsUid)) := by
  unfold collateIsUid
  by_cases uid : field.options.getIsUid
  · simp only [uid, if_true]
    have typeStep := Step.printErrorIf collated (javaType ≠ .int ∧ javaType ≠ .intArray)
      (.isUidType collated.atomDecl.message)
    exact (typeStep.trans (Step.addAnnotationToAtomDecl _ fieldNumber _ _)).congr
      (by simp; tauto) rfl typeStep.exclusiveField rfl
  · simp only [uid]
    exact (Step.refl collated).congr (by simp) rfl rfl (by simp [flag]; rfl)

/-! ## The options of one field -/

/-- The conditions on the state option of a field of type `javaType`. -/
structure StateAccepted (exclusiveField : Int) (javaType : JavaType)
    (option : StateAtomFieldOption) : Prop where
  notRepeated : ¬javaType.isRepeatedField
  oneRole : option.primaryField.toNat + option.primaryFieldFirstUid.toNat +
    option.exclusiveState.toNat ≤ 1
  primaryField : option.primaryField → ¬isInvalidStateType javaType
  primaryFieldFirstUid : option.primaryFieldFirstUid → javaType = .attributionChain
  exclusiveState : option.exclusiveState →
    ¬isInvalidStateType javaType ∧ exclusiveField = 0

/-- The conditions on the options of a field of type `javaType`, when
`exclusiveField` is the exclusive state field found so far. -/
structure OptionsAccepted (restricted : Bool) (exclusiveField : Int) (javaType : JavaType)
    (options : FieldOptions) : Prop where
  state : ∀ option, options.stateFieldOption = some option →
    StateAccepted exclusiveField javaType option
  fieldRestriction : options.fieldRestrictionOption.isSome → restricted
  restrictionCategory : options.restrictionCategory = none
  isUid : options.getIsUid → javaType = .int ∨ javaType = .intArray

/-- The option that makes a field the exclusive state field. -/
def isExclusiveState (options : FieldOptions) : Bool :=
  (options.stateFieldOption.getD {}).exclusiveState

/-- The primary fields an accepted field contributes. -/
def primaryFieldsOf (options : FieldOptions) (fieldNumber : Int) : List Int :=
  let option := options.stateFieldOption.getD {}
  (if option.primaryField then [fieldNumber] else []) ++
    (if option.primaryFieldFirstUid then [firstUidInChainId] else [])

theorem contains_fieldRestrictionIds (option : FieldRestrictionOption)
    (annotationId : AnnotationId) :
    decide (annotationId ∈ fieldRestrictionIds option) =
      FieldRestrictionOption.asksFor option annotationId := by
  cases annotationId <;> simp [fieldRestrictionIds, FieldRestrictionOption.asksFor]

theorem addFlags_apply_self (fieldNumber : Int) (annotationIds : List AnnotationId)
    (requests : Requests) (annotationId : AnnotationId) :
    addFlags fieldNumber annotationIds requests fieldNumber annotationId =
      (requests fieldNumber annotationId).or (flag (annotationId ∈ annotationIds)) := by
  induction annotationIds generalizing requests with
  | nil => simp [addFlags, flag]
  | cons first rest ih =>
      change addFlags fieldNumber rest (requests.add fieldNumber first (some (.bool true)))
        fieldNumber annotationId = _
      rw [ih, Requests.add_apply_self]
      by_cases same : annotationId = first
      · cases requests fieldNumber annotationId <;> simp [flag, same]
      · simp [same]

theorem addFlags_apply_of_ne {fieldNumber other : Int} (notEqual : other ≠ fieldNumber)
    (annotationIds : List AnnotationId) (requests : Requests) :
    addFlags fieldNumber annotationIds requests other = requests other := by
  induction annotationIds generalizing requests with
  | nil => rfl
  | cons first rest ih =>
      exact (ih _).trans (Requests.add_apply_of_ne requests notEqual first _)

/-- What the options of an accepted field ask for, in the order of the code. -/
def addOptions (option : StateAtomFieldOption) (options : FieldOptions) (fieldNumber : Int)
    (requests : Requests) : Requests :=
  (requests
    |>.add fieldNumber .primaryField (flag option.primaryField)
    |>.add fieldNumber .primaryFieldFirstUid (flag option.primaryFieldFirstUid))
    |> addExclusiveState option fieldNumber
    |> addFlags fieldNumber (fieldRestrictionIds (options.fieldRestrictionOption.getD {}))
    |>.add fieldNumber .isUid (flag options.getIsUid)

/-- An accepted state option has its effect on the declaration. -/
theorem stateSteps_of_accepted {option : StateAtomFieldOption} {exclusiveField : Int}
    {javaType : JavaType} (accepted : StateAccepted exclusiveField javaType option) :
    (option.primaryField ∧ ¬isInvalidStateType javaType ↔ option.primaryField) ∧
    (option.primaryFieldFirstUid ∧ javaType = .attributionChain ↔
      option.primaryFieldFirstUid) ∧
    (option.exclusiveState ∧ exclusiveField = 0 ↔ option.exclusiveState) := by
  refine ⟨and_iff_left_of_imp accepted.primaryField,
    and_iff_left_of_imp accepted.primaryFieldFirstUid,
    and_iff_left_of_imp fun exclusive => (accepted.exclusiveState exclusive).2⟩

/-- The state option, restriction option and uid option of a field in turn. -/
theorem collateStateOptions_step (option : StateAtomFieldOption)
    (field : MessageFieldDescriptor) (fieldNumber : Int) (javaType : JavaType)
    (collated : Collated) (notRepeated : ¬javaType.isRepeatedField) :
    ∃ primary exclusive asks,
      Step collated
        (collated
          |> checkStateRoles option
          |> collatePrimaryField option fieldNumber javaType
          |> collatePrimaryFieldFirstUid option fieldNumber javaType
          |> collateExclusiveState option fieldNumber javaType
          |> collateFieldRestrictedAnnotations field fieldNumber
          |> collateIsUid field fieldNumber javaType)
        (StateAccepted collated.atomDecl.exclusiveField javaType option ∧
          (field.options.fieldRestrictionOption.isSome → collated.atomDecl.restricted) ∧
          field.options.restrictionCategory = none ∧
          (field.options.getIsUid → javaType = .int ∨ javaType = .intArray))
        primary exclusive asks ∧
      (StateAccepted collated.atomDecl.exclusiveField javaType option →
        primary = (if option.primaryField then [fieldNumber] else []) ++
          (if option.primaryFieldFirstUid then [firstUidInChainId] else []) ∧
        exclusive = (if option.exclusiveState then fieldNumber
          else collated.atomDecl.exclusiveField) ∧
        asks = addOptions option field.options fieldNumber) := by
  let checked := checkStateRoles option collated
  let withPrimary := collatePrimaryField option fieldNumber javaType checked
  let withFirstUid := collatePrimaryFieldFirstUid option fieldNumber javaType withPrimary
  let withExclusive := collateExclusiveState option fieldNumber javaType withFirstUid
  let withRestriction := collateFieldRestrictedAnnotations field fieldNumber withExclusive
  have rolesStep := checkStateRoles_step option collated
  have primaryStep := collatePrimaryField_step option fieldNumber javaType checked
  have firstUidStep := collatePrimaryFieldFirstUid_step option fieldNumber javaType withPrimary
  obtain ⟨exclusiveAsks, exclusiveStep, asksExclusive⟩ :=
    collateExclusiveState_step option fieldNumber javaType withFirstUid
  have restrictedStep := collateFieldRestrictedAnnotations_step field fieldNumber withExclusive
  have uidStep := collateIsUid_step field fieldNumber javaType withRestriction
  have upToFirstUid := (rolesStep.trans primaryStep).trans firstUidStep
  have upToExclusive := upToFirstUid.trans exclusiveStep
  have upToRestricted := upToExclusive.trans restrictedStep
  have unchanged : withFirstUid.atomDecl.exclusiveField = collated.atomDecl.exclusiveField :=
    calc
      withFirstUid.atomDecl.exclusiveField = withPrimary.atomDecl.exclusiveField :=
        firstUidStep.exclusiveField
      _ = checked.atomDecl.exclusiveField := primaryStep.exclusiveField
      _ = collated.atomDecl.exclusiveField := rolesStep.exclusiveField
  refine ⟨_, _, _, (upToRestricted.trans uidStep).congr ?_ rfl rfl rfl, ?_⟩
  · rw [unchanged, upToExclusive.restricted_eq]
    constructor
    · rintro ⟨⟨⟨⟨⟨roles, primary⟩, firstUid⟩, exclusive⟩, restriction, category⟩, uid⟩
      exact ⟨⟨notRepeated, roles, primary, firstUid, exclusive⟩, restriction, category, uid⟩
    · rintro ⟨accepted, restriction, category, uid⟩
      exact ⟨⟨⟨⟨⟨accepted.oneRole, accepted.primaryField⟩, accepted.primaryFieldFirstUid⟩,
        accepted.exclusiveState⟩, restriction, category⟩, uid⟩
  · intro accepted
    obtain ⟨primary, firstUid, exclusive⟩ := stateSteps_of_accepted accepted
    refine ⟨?_, ?_, ?_⟩
    · simp only [primary, firstUid, List.nil_append, List.append_nil]
    · rw [restrictedStep.exclusiveField, exclusiveStep.exclusiveField, unchanged]
      simp only [exclusive]
    · have asksEq : exclusiveAsks = addExclusiveState option fieldNumber :=
        asksExclusive fun isExclusive =>
          unchanged.trans (accepted.exclusiveState isExclusive).2
      subst asksEq
      funext requests
      simp only [Function.comp_apply, id_eq, primary, firstUid, addOptions, Bool.decide_eq_true]

/-- Without a state option the pipeline of `collateStateOptions_step` is run
with the default option, which does nothing. -/
theorem collateFieldAnnotations_step (field : MessageFieldDescriptor) (fieldNumber : Int)
    (javaType : JavaType) (collated : Collated) :
    ∃ primary exclusive asks,
      Step collated (collateFieldAnnotations field fieldNumber javaType collated)
        (OptionsAccepted collated.atomDecl.restricted collated.atomDecl.exclusiveField javaType
          field.options)
        primary exclusive asks ∧
      (OptionsAccepted collated.atomDecl.restricted collated.atomDecl.exclusiveField javaType
          field.options →
        primary = primaryFieldsOf field.options fieldNumber ∧
        exclusive = (if isExclusiveState field.options then fieldNumber
          else collated.atomDecl.exclusiveField) ∧
        asks = addOptions (field.options.stateFieldOption.getD {}) field.options
          fieldNumber) := by
  unfold collateFieldAnnotations
  cases present : field.options.stateFieldOption with
  | none =>
      have restrictedStep := collateFieldRestrictedAnnotations_step field fieldNumber collated
      have uidStep := collateIsUid_step field fieldNumber javaType
        (collateFieldRestrictedAnnotations field fieldNumber collated)
      refine ⟨_, _, _, (restrictedStep.trans uidStep).congr ?_ rfl rfl rfl, ?_⟩
      · constructor
        · rintro ⟨⟨restriction, category⟩, uid⟩
          exact ⟨by simp [present], restriction, category, uid⟩
        · intro accepted
          exact ⟨⟨accepted.fieldRestriction, accepted.restrictionCategory⟩, accepted.isUid⟩
      · intro _
        refine ⟨by simp [primaryFieldsOf, present], ?_, ?_⟩
        · simp [isExclusiveState, present, restrictedStep.exclusiveField]
        · funext requests
          simp [addOptions, addExclusiveState, flag]
  | some option =>
      by_cases repeated : javaType.isRepeatedField
      · simp only [repeated, if_true]
        have rejected : ¬OptionsAccepted collated.atomDecl.restricted
            collated.atomDecl.exclusiveField javaType field.options :=
          fun accepted => (accepted.state option present).notRepeated repeated
        exact ⟨_, _, _, (Step.printError collated _).congr (by simp [rejected]) rfl rfl rfl,
          fun accepted => absurd accepted rejected⟩
      · simp only [repeated]
        obtain ⟨primary, exclusive, asks, step, effect⟩ :=
          collateStateOptions_step option field fieldNumber javaType collated repeated
        refine ⟨primary, exclusive, asks, step.congr ?_ rfl rfl rfl, ?_⟩
        · constructor
          · rintro ⟨state, restriction, category, uid⟩
            refine ⟨?_, restriction, category, uid⟩
            intro other found
            rw [present, Option.some.injEq] at found
            exact found ▸ state
          · intro accepted
            exact ⟨accepted.state option present, accepted.fieldRestriction,
              accepted.restrictionCategory, accepted.isUid⟩
        · intro accepted
          simpa [primaryFieldsOf, isExclusiveState, present] using
            effect (accepted.state option present)

/-- The options of one field ask for nothing on another field. -/
theorem addOptions_apply_of_ne (option : StateAtomFieldOption) (options : FieldOptions)
    {fieldNumber other : Int} (notEqual : other ≠ fieldNumber) (requests : Requests) :
    addOptions option options fieldNumber requests other = requests other := by
  simp only [addOptions, addExclusiveState, addFlags_apply_of_ne notEqual,
    Requests.add_apply_of_ne _ notEqual]

/-- On a field without earlier requests, the code asks for exactly what the
options request. -/
theorem addOptions_eq_update (options : FieldOptions) (fieldNumber : Int)
    (requests : Requests) (fresh : ∀ annotationId, requests fieldNumber annotationId = none) :
    addOptions (options.stateFieldOption.getD {}) options fieldNumber requests =
      Function.update requests fieldNumber (fieldRequests options) := by
  funext field annotationId
  by_cases same : field = fieldNumber
  · subst field
    rw [Function.update_self]
    simp only [addOptions, addExclusiveState, addFlags_apply_self, Requests.add_apply_self,
      contains_fieldRestrictionIds, fresh]
    cases annotationId <;>
      simp [fieldRequests, FieldRestrictionOption.asksFor, StateAtomFieldOption.requests, flag]
  · rw [Function.update_of_ne same, addOptions_apply_of_ne _ _ same]

end Collated

end StatsLogApiGen.Collation
