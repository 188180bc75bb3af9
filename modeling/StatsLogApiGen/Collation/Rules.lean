import StatsLogApiGen.Collation.Atom
import Mathlib.Data.List.Pairwise
import Mathlib.Data.List.Sort
import Mathlib.Tactic.MkIffOfInductiveProp
import Mathlib.Tactic.SplitIfs

/-!
# The rules for atoms

The rules that `atom_field_options.proto` and the error messages of collation
document, stated on the descriptors alone: no java type and no declaration under
construction occurs in them.  Collation of one atom is silent exactly when its
rule holds.
-/

namespace StatsLogApiGen.Collation

open Std
open StatsLogApiGen.Container
open StatsLogApiGen.Proto
open Collated (OptionsAccepted StateAccepted isExclusiveState isInvalidStateType)

/-! ## Rules -/

/-- The scalar types that every atom may use, alone or repeated. -/
def isPlainType : FieldType String → Bool
  | .float | .int64 | .int32 | .bool | .string | .enum _ => true
  | _ => false

/-- The scalar types of the atoms in `uintAtomAllowlist`. -/
def isUintType : FieldType String → Bool
  | .uint32 | .uint64 => true
  | _ => false

def isMessageOrBytes : FieldType String → Bool
  | .message _ | .bytes => true
  | _ => false

/-- The fields an atom may have.  `MODE_BYTES` marks the singular bytes and
message fields and no others. -/
@[mk_iff]
inductive FieldShape (isUintAllowed : Bool) (field : MessageFieldDescriptor) : Prop where
  | plain (type : isPlainType field.type) (automatic : ¬isBinaryField field)
  | attributionChain (type : field.type = .message attributionNodeFullName)
      (position : field.number = 1) (automatic : ¬isBinaryField field)
  | message (messageType : String) (type : field.type = .message messageType)
      (notNode : messageType ≠ attributionNodeFullName) (singular : ¬field.isRepeated)
      (binary : isBinaryField field)
  | bytes (type : field.type = .bytes) (singular : ¬field.isRepeated)
      (binary : isBinaryField field)
  | uint (allowed : isUintAllowed) (type : isUintType field.type)
      (singular : ¬field.isRepeated) (automatic : ¬isBinaryField field)

/-- The fields a restricted atom may have. -/
structure PrimitiveShape (field : MessageFieldDescriptor) : Prop where
  singular : ¬field.isRepeated
  scalar : isPlainType field.type ∨ isUintType field.type

/-- The rules for the state option of a field. -/
structure StateRule (field : MessageFieldDescriptor) (option : StateAtomFieldOption) :
    Prop where
  singular : field.isRepeated → ¬isPlainType field.type
  oneRole : option.primaryField.toNat + option.primaryFieldFirstUid.toNat +
    option.exclusiveState.toNat ≤ 1
  primaryField : option.primaryField → ¬isMessageOrBytes field.type
  exclusiveState : option.exclusiveState → ¬isMessageOrBytes field.type
  primaryFieldFirstUid :
    option.primaryFieldFirstUid → field.type = .message attributionNodeFullName

/-- The rules for one field of an atom message. -/
structure FieldRule (restricted isUintAllowed : Bool) (field : MessageFieldDescriptor) :
    Prop where
  shape : FieldShape isUintAllowed field
  restrictedShape : restricted → PrimitiveShape field
  noRestrictionCategory : field.options.restrictionCategory = none
  fieldRestriction : field.options.fieldRestrictionOption.isSome → restricted
  state : ∀ option, field.options.stateFieldOption = some option → StateRule field option
  isUid : field.options.getIsUid → field.type = .int32 ∨ field.type = .uint32

/-- A field that names a primary field, by itself or by the first uid of its
attribution chain. -/
def isPrimary (options : FieldOptions) : Bool :=
  let option := options.stateFieldOption.getD {}
  option.primaryField || option.primaryFieldFirstUid

/-- The rules for an atom message. -/
structure MessageRule (restricted : Bool) (atom : Descriptor) : Prop where
  numbers : (atom.fields.map FieldDescriptor.number).Perm
    ((List.range atom.fields.length).map fun index : Nat => (1 : Int) + index)
  fields : ∀ field ∈ atom.fields,
    FieldRule restricted (atom.name ∈ uintAtomAllowlist) field
  oneExclusive : ∀ first ∈ atom.fields, ∀ second ∈ atom.fields,
    isExclusiveState first.options → isExclusiveState second.options → first = second
  primaryExclusive : ∀ field ∈ atom.fields, isPrimary field.options →
    ∃ exclusive ∈ atom.fields, isExclusiveState exclusive.options

/-- The rules for a field of the `Atom` message. -/
structure AtomRule (atomField : AtomFieldDescriptor) (atom : Descriptor) : Prop where
  type : atomField.type = .message atom
  noFieldRestriction : atomField.options.fieldRestrictionOption = none
  notPulled : atomField.options.restrictionCategory.isSome →
    ¬(platformPulledAtomsStart ≤ atomField.number ∧
        atomField.number ≤ platformPulledAtomsEnd) ∧
    ¬(vendorPulledAtomsStart ≤ atomField.number ∧ atomField.number ≤ vendorPulledAtomsEnd)
  message : MessageRule atomField.options.restrictionCategory.isSome atom

/-! ## Field numbers -/

/-- Numbering is silent exactly on consecutive numbers. -/
theorem checkFieldNumbers_eq_nil_iff (expected : Int) (fields : List MessageFieldDescriptor) :
    checkFieldNumbers expected fields = [] ↔
      fields.map FieldDescriptor.number =
        (List.range fields.length).map fun index : Nat => expected + (index : Int) := by
  induction fields generalizing expected with
  | nil => simp [checkFieldNumbers]
  | cons field rest ih =>
      rw [checkFieldNumbers, List.length_cons, List.range_succ_eq_map, List.map_cons,
        List.map_cons, List.map_map]
      have shift : ((fun index : Nat => expected + (index : Int)) ∘ Nat.succ) =
          fun index : Nat => expected + 1 + (index : Int) := by
        funext index
        simp only [Function.comp_apply]
        omega
      rw [shift, List.cons.injEq]
      by_cases equal : field.number = expected
      · simp [equal, ih]
      · simp [equal]

/-- A sorted list is consecutive as soon as its numbers are. -/
theorem checkFieldNumbers_sortedFields (atom : Descriptor) :
    checkFieldNumbers 1 (sortedFields atom) = [] ↔
      (atom.fields.map FieldDescriptor.number).Perm
        ((List.range atom.fields.length).map fun index : Nat => (1 : Int) + index) := by
  have sortedPerm := (sortedFields_perm atom).map FieldDescriptor.number
  have lengthEq := (sortedFields_perm atom).length_eq
  rw [checkFieldNumbers_eq_nil_iff, lengthEq]
  constructor
  · intro equal
    exact equal ▸ sortedPerm.symm
  · intro perm
    have sorted : ((sortedFields atom).map FieldDescriptor.number).Pairwise (· < ·) := by
      rw [List.pairwise_map]
      exact pairwise_sortedFields atom
    have ascending : ((List.range atom.fields.length).map
        fun index : Nat => (1 : Int) + index).Pairwise (· < ·) := by
      rw [List.pairwise_map]
      exact List.pairwise_lt_range.imp fun before => by omega
    exact List.Perm.eq_of_pairwise
      (fun _ _ _ _ before after => absurd before (lt_asymm after))
      sorted ascending (sortedPerm.trans perm)

theorem number_pos {atom : Descriptor}
    (numbers : (atom.fields.map FieldDescriptor.number).Perm
      ((List.range atom.fields.length).map fun index : Nat => (1 : Int) + index))
    {field : MessageFieldDescriptor} (member : field ∈ atom.fields) : 0 < field.number := by
  have listed := numbers.mem_iff.mp (List.mem_map_of_mem member)
  obtain ⟨index, _, equal⟩ := List.mem_map.mp listed
  omega

/-! ## Fields -/

/-- The type checks, read on the java type of the field. -/
theorem checkFieldType_eq_nil_iff (restricted : Bool) (message : String)
    (isUintAllowed : Bool) (field : MessageFieldDescriptor) :
    checkFieldType restricted message isUintAllowed field = [] ↔
      javaType field isUintAllowed ≠ .unknownOrInvalid ∧
      javaType field isUintAllowed ≠ .object ∧
      (isBinaryField field ↔ javaType field isUintAllowed = .byteArray) ∧
      (restricted → (javaType field isUintAllowed).isPrimitiveField) := by
  unfold checkFieldType
  cases javaType field isUintAllowed <;> cases isBinaryField field <;> cases restricted <;>
    simp [JavaType.isPrimitiveField]
  all_goals split <;> simp

theorem checkAttributionChainPosition_eq_nil_iff (atom : Descriptor) (isUintAllowed : Bool)
    (field : MessageFieldDescriptor) :
    checkAttributionChainPosition atom isUintAllowed field = [] ↔
      (javaType field isUintAllowed = .attributionChain → field.number = 1) := by
  simp only [checkAttributionChainPosition]
  split
  · rename_i misplaced
    simp [misplaced.1, misplaced.2]
  · rename_i placed
    simp only [true_iff]
    intro chain
    by_contra notFirst
    exact placed ⟨notFirst, chain⟩

/-- The checks of a field accept exactly the allowed shapes. -/
theorem fieldShape_iff_javaType (isUintAllowed : Bool) (field : MessageFieldDescriptor) :
    FieldShape isUintAllowed field ↔
      javaType field isUintAllowed ≠ .unknownOrInvalid ∧
      javaType field isUintAllowed ≠ .object ∧
      (isBinaryField field ↔ javaType field isUintAllowed = .byteArray) ∧
      (javaType field isUintAllowed = .attributionChain → field.number = 1) := by
  rw [fieldShape_iff]
  obtain ⟨name, number, type, isRepeated, options⟩ := field
  cases type <;> cases isRepeated <;>
    simp [javaType, isPlainType, isUintType, isBinaryField]
  case message.false messageType | message.true messageType =>
    by_cases node : messageType = attributionNodeFullName <;>
      by_cases bytes : options.getLogMode = .bytes <;> simp [node, bytes]
  case uint64.false | uint32.false => cases isUintAllowed <;> simp

/-! ## Java types of fields -/

theorem javaType_eq_attributionChain_iff (isUintAllowed : Bool)
    (field : MessageFieldDescriptor) :
    javaType field isUintAllowed = .attributionChain ↔
      field.type = .message attributionNodeFullName := by
  obtain ⟨name, number, type, isRepeated, options⟩ := field
  cases type <;> cases isRepeated <;> simp [javaType]
  case message.false messageType =>
    by_cases bytes : options.getLogMode = .bytes <;> simp [bytes]
  case uint64.false | uint32.false => cases isUintAllowed <;> simp

theorem isRepeatedField_javaType (isUintAllowed : Bool) (field : MessageFieldDescriptor) :
    (javaType field isUintAllowed).isRepeatedField ↔
      field.isRepeated ∧ isPlainType field.type := by
  obtain ⟨name, number, type, isRepeated, options⟩ := field
  cases type <;> cases isRepeated <;>
    simp only [javaType, apply_ite JavaType.isRepeatedField] <;>
    simp [JavaType.isRepeatedField, isPlainType]

theorem isPrimitiveField_javaType (isUintAllowed : Bool) (field : MessageFieldDescriptor) :
    (javaType field isUintAllowed).isPrimitiveField ↔
      ¬field.isRepeated ∧
        (isPlainType field.type ∨ isUintAllowed ∧ isUintType field.type) := by
  obtain ⟨name, number, type, isRepeated, options⟩ := field
  cases type <;> cases isRepeated <;>
    simp only [javaType, apply_ite JavaType.isPrimitiveField] <;>
    simp [JavaType.isPrimitiveField, isPlainType, isUintType]

theorem isInvalidStateType_javaType {isUintAllowed : Bool} {field : MessageFieldDescriptor}
    (shape : FieldShape isUintAllowed field) :
    isInvalidStateType (javaType field isUintAllowed) ↔ isMessageOrBytes field.type := by
  obtain ⟨known, notObject, -, -⟩ := (fieldShape_iff_javaType isUintAllowed field).mp shape
  obtain ⟨name, number, type, isRepeated, options⟩ := field
  revert known notObject
  cases type <;> cases isRepeated <;> cases isUintAllowed <;>
    simp +contextual [javaType, isInvalidStateType, isMessageOrBytes]
  all_goals split_ifs <;> simp [*]

theorem isUidType_javaType {isUintAllowed : Bool} {field : MessageFieldDescriptor}
    (shape : FieldShape isUintAllowed field) :
    (javaType field isUintAllowed = .int ∨ javaType field isUintAllowed = .intArray) ↔
      field.type = .int32 ∨ field.type = .uint32 := by
  obtain ⟨known, notObject, -, -⟩ := (fieldShape_iff_javaType isUintAllowed field).mp shape
  obtain ⟨name, number, type, isRepeated, options⟩ := field
  revert known notObject
  cases type <;> cases isRepeated <;> cases isUintAllowed <;>
    simp +contextual [javaType]
  all_goals split_ifs <;> simp

/-! ## Options -/

/-- The exclusive state field found so far matters to a second one only. -/
theorem optionsAccepted_iff (restricted : Bool) (exclusiveField : Int) (type : JavaType)
    (options : FieldOptions) :
    OptionsAccepted restricted exclusiveField type options ↔
      OptionsAccepted restricted 0 type options ∧
      (isExclusiveState options → exclusiveField = 0) := by
  constructor
  · intro accepted
    refine ⟨⟨?_, accepted.fieldRestriction, accepted.restrictionCategory, accepted.isUid⟩, ?_⟩
    · intro option present
      have state := accepted.state option present
      exact ⟨state.notRepeated, state.oneRole, state.primaryField, state.primaryFieldFirstUid,
        fun exclusive => ⟨(state.exclusiveState exclusive).1, rfl⟩⟩
    · intro exclusive
      cases present : options.stateFieldOption with
      | none => simp [isExclusiveState, present] at exclusive
      | some option =>
          rw [isExclusiveState, present] at exclusive
          exact ((accepted.state option present).exclusiveState exclusive).2
  · rintro ⟨accepted, fresh⟩
    refine ⟨?_, accepted.fieldRestriction, accepted.restrictionCategory, accepted.isUid⟩
    intro option present
    have state := accepted.state option present
    refine ⟨state.notRepeated, state.oneRole, state.primaryField, state.primaryFieldFirstUid,
      fun exclusive => ⟨(state.exclusiveState exclusive).1, fresh ?_⟩⟩
    rw [isExclusiveState, present]
    exact exclusive

/-- The loop accepts the fields one by one, and at most one exclusive state
field among them. -/
theorem fieldsAccepted_iff (restricted isUintAllowed : Bool) (exclusiveField : Int)
    (fields : List MessageFieldDescriptor) (nonzero : ∀ field ∈ fields, field.number ≠ 0) :
    FieldsAccepted restricted isUintAllowed exclusiveField fields ↔
      (∀ field ∈ fields,
        OptionsAccepted restricted 0 (javaType field isUintAllowed) field.options) ∧
      (exclusiveField ≠ 0 → ∀ field ∈ fields, ¬isExclusiveState field.options) ∧
      fields.Pairwise fun first second =>
        ¬(isExclusiveState first.options ∧ isExclusiveState second.options) := by
  induction fields generalizing exclusiveField with
  | nil => simp [FieldsAccepted]
  | cons field rest ih =>
      have restNonzero : ∀ other ∈ rest, other.number ≠ 0 :=
        fun other otherMem => nonzero other (List.mem_cons_of_mem _ otherMem)
      have fieldNonzero := nonzero field List.mem_cons_self
      rw [FieldsAccepted, optionsAccepted_iff, ih _ restNonzero]
      by_cases exclusive : isExclusiveState field.options
      · simp only [exclusive, if_true, List.forall_mem_cons, List.pairwise_cons, fieldNonzero,
          ne_eq, not_false_eq_true, true_implies, not_true, false_and, not_and]
        tauto
      · simp only [exclusive, List.forall_mem_cons, List.pairwise_cons]
        tauto

theorem stateRule_iff {isUintAllowed : Bool} {field : MessageFieldDescriptor}
    (shape : FieldShape isUintAllowed field) (option : StateAtomFieldOption) :
    StateRule field option ↔ StateAccepted 0 (javaType field isUintAllowed) option := by
  have invalid := isInvalidStateType_javaType shape
  have repeated := isRepeatedField_javaType isUintAllowed field
  have chain := javaType_eq_attributionChain_iff isUintAllowed field
  constructor
  · intro rule
    refine ⟨?_, rule.oneRole, ?_, ?_, ?_⟩
    · rw [repeated]
      exact fun both => rule.singular both.1 both.2
    · rw [invalid]
      exact rule.primaryField
    · rw [chain]
      exact rule.primaryFieldFirstUid
    · rw [invalid]
      exact fun exclusive => ⟨rule.exclusiveState exclusive, rfl⟩
  · intro accepted
    refine ⟨?_, accepted.oneRole, ?_, ?_, ?_⟩
    · intro isRepeated plain
      exact accepted.notRepeated (repeated.mpr ⟨isRepeated, plain⟩)
    · rw [← invalid]
      exact accepted.primaryField
    · rw [← invalid]
      exact fun exclusive => (accepted.exclusiveState exclusive).1
    · rw [← chain]
      exact accepted.primaryFieldFirstUid

theorem primitiveShape_iff {isUintAllowed : Bool} {field : MessageFieldDescriptor}
    (shape : FieldShape isUintAllowed field) :
    PrimitiveShape field ↔ (javaType field isUintAllowed).isPrimitiveField := by
  rw [isPrimitiveField_javaType]
  constructor
  · rintro ⟨singular, plain | uint⟩
    · exact ⟨singular, Or.inl plain⟩
    · refine ⟨singular, Or.inr ⟨?_, uint⟩⟩
      cases shape with
      | uint allowed => exact allowed
      | plain type => cases typeEq : field.type <;> simp_all [isPlainType, isUintType]
      | attributionChain type => simp [type, isUintType] at uint
      | message messageType type => simp [type, isUintType] at uint
      | bytes type => simp [type, isUintType] at uint
  · rintro ⟨singular, plain | ⟨-, uint⟩⟩
    · exact ⟨singular, Or.inl plain⟩
    · exact ⟨singular, Or.inr uint⟩

/-- A field follows its rules exactly when its shape is allowed and its options
are accepted. -/
theorem fieldRule_iff (restricted isUintAllowed : Bool) (field : MessageFieldDescriptor) :
    FieldRule restricted isUintAllowed field ↔
      FieldShape isUintAllowed field ∧
      (restricted → (javaType field isUintAllowed).isPrimitiveField) ∧
      OptionsAccepted restricted 0 (javaType field isUintAllowed) field.options := by
  constructor
  · intro rule
    refine ⟨rule.shape, ?_, ?_, rule.fieldRestriction, rule.noRestrictionCategory, ?_⟩
    · exact fun restricted => (primitiveShape_iff rule.shape).mp (rule.restrictedShape restricted)
    · exact fun option present => (stateRule_iff rule.shape option).mp (rule.state option present)
    · exact fun uid => (isUidType_javaType rule.shape).mpr (rule.isUid uid)
  · rintro ⟨shape, primitive, accepted⟩
    exact {
      shape := shape
      restrictedShape := fun restricted => (primitiveShape_iff shape).mpr (primitive restricted)
      noRestrictionCategory := accepted.restrictionCategory
      fieldRestriction := accepted.fieldRestriction
      state := fun option present =>
        (stateRule_iff shape option).mpr (accepted.state option present)
      isUid := fun uid => (isUidType_javaType shape).mp (accepted.isUid uid) }

/-! ## Atoms -/

/-- A message that is checked without an error, up to its primary fields. -/
theorem collateAtom_errors_iff (atom : Descriptor) (atomDecl : AtomDecl)
    (fresh : atomDecl.exclusiveField = 0) :
    (collateAtom atom atomDecl).1.errors = [] ↔
      (atom.fields.map FieldDescriptor.number).Perm
        ((List.range atom.fields.length).map fun index : Nat => (1 : Int) + index) ∧
      (∀ field ∈ atom.fields,
        FieldRule atomDecl.restricted (atom.name ∈ uintAtomAllowlist) field) ∧
      (∀ first ∈ atom.fields, ∀ second ∈ atom.fields,
        isExclusiveState first.options → isExclusiveState second.options → first = second) := by
  rw [collateAtom_errors, checkFields, List.append_eq_nil_iff, List.append_eq_nil_iff,
    checkFieldNumbers_sortedFields, fresh, and_assoc, and_assoc]
  refine and_congr_right fun numbers => ?_
  rw [fieldsAccepted_iff _ _ _ _ fun field member =>
    (number_pos numbers (mem_sortedFields.mp member)).ne']
  simp only [List.flatMap_eq_nil_iff, mem_sortedFields, checkFieldType_eq_nil_iff,
    checkAttributionChainPosition_eq_nil_iff, fieldRule_iff, fieldShape_iff_javaType]
  have pairwise :
      ((sortedFields atom).Pairwise fun first second =>
        ¬(isExclusiveState first.options ∧ isExclusiveState second.options)) ↔
      ∀ first ∈ atom.fields, ∀ second ∈ atom.fields,
        isExclusiveState first.options → isExclusiveState second.options →
          first = second := by
    constructor
    · intro ordered first firstMem second secondMem firstExclusive secondExclusive
      by_contra different
      let _ : Std.Symm fun first second : MessageFieldDescriptor =>
          ¬(isExclusiveState first.options ∧ isExclusiveState second.options) :=
        ⟨fun _ _ notBoth both => notBoth both.symm⟩
      exact ordered.forall (mem_sortedFields.mpr firstMem) (mem_sortedFields.mpr secondMem)
        different ⟨firstExclusive, secondExclusive⟩
    · intro unique
      have distinct : (sortedFields atom).Nodup :=
        List.Nodup.of_map FieldDescriptor.number (sortedFields_numbers_nodup atom)
      apply distinct.pairwise_of_forall_ne
      intro first firstMem second secondMem different both
      exact different (unique first (mem_sortedFields.mp firstMem) second
        (mem_sortedFields.mp secondMem) both.1 both.2)
  rw [pairwise]
  constructor
  · rintro ⟨types, positions, options, -, unique⟩
    refine ⟨fun field member => ?_, unique⟩
    obtain ⟨known, notObject, binary, primitive⟩ := types field member
    exact ⟨⟨known, notObject, binary, positions field member⟩, primitive,
      options field member⟩
  · rintro ⟨rules, unique⟩
    refine ⟨fun field member => ?_, fun field member => (rules field member).1.2.2.2,
      fun field member => (rules field member).2.2, by simp, unique⟩
    obtain ⟨⟨known, notObject, binary, -⟩, primitive, -⟩ := rules field member
    exact ⟨known, notObject, binary, primitive⟩

theorem exclusiveFieldAfter_eq_zero_iff (exclusiveField : Int)
    (fields : List MessageFieldDescriptor) (nonzero : ∀ field ∈ fields, field.number ≠ 0) :
    exclusiveFieldAfter exclusiveField fields = 0 ↔
      exclusiveField = 0 ∧ ∀ field ∈ fields, ¬isExclusiveState field.options := by
  induction fields generalizing exclusiveField with
  | nil => simp [exclusiveFieldAfter]
  | cons field rest ih =>
      have restNonzero : ∀ other ∈ rest, other.number ≠ 0 :=
        fun other otherMem => nonzero other (List.mem_cons_of_mem _ otherMem)
      have fieldNonzero := nonzero field List.mem_cons_self
      change exclusiveFieldAfter
        (if isExclusiveState field.options then field.number else exclusiveField) rest = 0 ↔ _
      rw [ih _ restNonzero, List.forall_mem_cons]
      by_cases exclusive : isExclusiveState field.options
      · simp [exclusive, fieldNonzero]
      · simp [exclusive]

theorem primaryFieldsOf_eq_nil_iff (options : FieldOptions) (fieldNumber : Int) :
    Collated.primaryFieldsOf options fieldNumber = [] ↔ ¬isPrimary options := by
  simp [Collated.primaryFieldsOf, isPrimary]

/-- The message rule is decided by the errors of `collateAtom` and the comparison
of the primary fields with the exclusive state field. -/
theorem messageRule_iff (atom : Descriptor) (atomDecl : AtomDecl)
    (noPrimary : atomDecl.primaryFields = []) (noExclusive : atomDecl.exclusiveField = 0) :
    MessageRule atomDecl.restricted atom ↔
      (collateAtom atom atomDecl).1.errors = [] ∧
      ¬((collateAtom atom atomDecl).1.atomDecl.primaryFields ≠ [] ∧
        (collateAtom atom atomDecl).1.atomDecl.exclusiveField = 0) := by
  have primaryCheck (silent : (collateAtom atom atomDecl).1.errors = []) :
      ¬((collateAtom atom atomDecl).1.atomDecl.primaryFields ≠ [] ∧
        (collateAtom atom atomDecl).1.atomDecl.exclusiveField = 0) ↔
      ∀ field ∈ atom.fields, isPrimary field.options →
        ∃ exclusive ∈ atom.fields, isExclusiveState exclusive.options := by
    obtain ⟨primaryEq, exclusiveEq⟩ := collateAtom_effect atom atomDecl silent
    obtain ⟨numbers, -, -⟩ := (collateAtom_errors_iff atom atomDecl noExclusive).mp silent
    have nonzero : ∀ field ∈ sortedFields atom, field.number ≠ 0 :=
      fun field member => (number_pos numbers (mem_sortedFields.mp member)).ne'
    rw [primaryEq, exclusiveEq, noPrimary, noExclusive,
      exclusiveFieldAfter_eq_zero_iff _ _ nonzero]
    simp only [List.nil_append, ne_eq, List.flatMap_eq_nil_iff, primaryFieldsOf_eq_nil_iff,
      mem_sortedFields, true_and]
    constructor
    · intro notBoth field member primary
      by_contra missing
      refine notBoth ⟨fun none => none field member primary, fun other otherMem exclusive => ?_⟩
      exact missing ⟨other, otherMem, exclusive⟩
    · rintro needed ⟨primary, noneExclusive⟩
      apply primary
      intro field member isPrimary
      obtain ⟨exclusive, exclusiveMem, isExclusive⟩ := needed field member isPrimary
      exact noneExclusive exclusive exclusiveMem isExclusive
  constructor
  · intro rule
    have silent := (collateAtom_errors_iff atom atomDecl noExclusive).mpr
      ⟨rule.numbers, rule.fields, rule.oneExclusive⟩
    exact ⟨silent, (primaryCheck silent).mpr rule.primaryExclusive⟩
  · rintro ⟨silent, check⟩
    obtain ⟨numbers, fields, oneExclusive⟩ :=
      (collateAtom_errors_iff atom atomDecl noExclusive).mp silent
    exact ⟨numbers, fields, oneExclusive, (primaryCheck silent).mp check⟩

theorem getAtomType_eq_pulled_iff (atomId : Int) :
    getAtomType atomId = .pulled ↔
      (platformPulledAtomsStart ≤ atomId ∧ atomId ≤ platformPulledAtomsEnd) ∨
      (vendorPulledAtomsStart ≤ atomId ∧ atomId ≤ vendorPulledAtomsEnd) := by
  unfold getAtomType
  split
  · rename_i inRange
    simpa using inRange
  · rename_i outside
    simpa using outside

theorem atomRule_iff {atomField : AtomFieldDescriptor} {atom : Descriptor}
    (type : atomField.type = .message atom) :
    AtomRule atomField atom ↔
      ¬(atomField.options.restrictionCategory.isSome ∧
        getAtomType atomField.number = .pulled) ∧
      MessageRule atomField.options.restrictionCategory.isSome atom ∧
      atomField.options.fieldRestrictionOption = none := by
  rw [getAtomType_eq_pulled_iff]
  constructor
  · intro rule
    refine ⟨?_, rule.message, rule.noFieldRestriction⟩
    rintro ⟨restricted, platform | vendor⟩
    · exact (rule.notPulled restricted).1 platform
    · exact (rule.notPulled restricted).2 vendor
  · rintro ⟨notPulled, message, noFieldRestriction⟩
    refine ⟨type, noFieldRestriction, fun restricted => ⟨?_, ?_⟩, message⟩
    · exact fun platform => notPulled ⟨restricted, Or.inl platform⟩
    · exact fun vendor => notPulled ⟨restricted, Or.inr vendor⟩

/-- An atom of the module is entered into the atoms without an error exactly
when it follows its rule. -/
theorem collateFromFieldDescriptor_message {moduleName : String}
    {atomField : AtomFieldDescriptor} {atom : Descriptor}
    (selected : isInModule moduleName atomField) (type : atomField.type = .message atom)
    (state : Atoms × List CollationError) :
    ((collateFromFieldDescriptor moduleName state atomField).2 = [] ↔
      state.2 = [] ∧ AtomRule atomField atom) ∧
    (AtomRule atomField atom → ∃ decl, Describes atomField atom decl ∧
      (collateFromFieldDescriptor moduleName state atomField).1 =
        registerAtom state.1 atom (initialDecl atomField atom) decl (signatureOf atom)) := by
  rw [atomRule_iff type]
  unfold collateFromFieldDescriptor
  simp only [selected, type, not_true_eq_false, if_false]
  rcases collateAtomOptions_cases atomField (initialDecl atomField atom) rfl rfl with
    ⟨restrictedPulled, options⟩ | ⟨notRestrictedPulled, stored, options, stores⟩
  · rw [options]
    simp [show getAtomType atomField.number = .pulled from restrictedPulled.2,
      restrictedPulled.1]
  · rw [show collateAtomOptions atomField _ = .ok (optionsDecl atomField atom stored) from
      options]
    have message : MessageRule atomField.options.restrictionCategory.isSome atom ↔ _ :=
      messageRule_iff atom (optionsDecl atomField atom stored) rfl rfl
    have notPulled : ¬(atomField.options.restrictionCategory.isSome ∧
        getAtomType atomField.number = .pulled) := notRestrictedPulled
    simp only [notPulled, message, not_false_eq_true, true_and]
    by_cases primaryOnly :
        (collateAtom atom (optionsDecl atomField atom stored)).1.atomDecl.primaryFields ≠ [] ∧
        (collateAtom atom (optionsDecl atomField atom stored)).1.atomDecl.exclusiveField = 0
    · simp [primaryOnly]
    · simp only [primaryOnly, if_false, not_false_eq_true, and_true]
      constructor
      · cases atomField.options.fieldRestrictionOption <;> simp
      · rintro ⟨silent, noFieldRestriction⟩
        obtain ⟨numbers, -, -⟩ :=
          (collateAtom_errors_iff atom (optionsDecl atomField atom stored) rfl).mp silent
        refine ⟨_, describes_collateAtom atomField atom stored stores
          (fun field member => number_pos numbers member) silent, ?_⟩
        simp [noFieldRestriction]

/-- One atom of the module adds no error exactly when it follows its rule. -/
theorem collateFromFieldDescriptor_errors (moduleName : String)
    (state : Atoms × List CollationError) (atomField : AtomFieldDescriptor) :
    (collateFromFieldDescriptor moduleName state atomField).2 = [] ↔
      state.2 = [] ∧ (isInModule moduleName atomField → ∃ atom, AtomRule atomField atom) := by
  by_cases selected : isInModule moduleName atomField
  · cases typeEq : atomField.type with
    | message atom =>
        have rule : (∃ atom, AtomRule atomField atom) ↔ AtomRule atomField atom := by
          constructor
          · rintro ⟨other, otherRule⟩
            have same : other = atom := by
              simpa [typeEq] using otherRule.type.symm
            exact same ▸ otherRule
          · exact fun rule => ⟨atom, rule⟩
        rw [(collateFromFieldDescriptor_message selected typeEq state).1, rule]
        simp [selected]
    | _ =>
        have noRule : ¬∃ atom, AtomRule atomField atom := by
          rintro ⟨atom, rule⟩
          simpa [typeEq] using rule.type
        simp [collateFromFieldDescriptor, selected, typeEq, noRule]
  · simp [collateFromFieldDescriptor, selected]

theorem foldl_collateFromFieldDescriptor_errors (moduleName : String)
    (atomFields : List AtomFieldDescriptor) (state : Atoms × List CollationError) :
    (atomFields.foldl (collateFromFieldDescriptor moduleName) state).2 = [] ↔
      state.2 = [] ∧ ∀ atomField ∈ atomFields,
        isInModule moduleName atomField → ∃ atom, AtomRule atomField atom := by
  induction atomFields generalizing state with
  | nil => simp
  | cons atomField rest ih =>
      rw [List.foldl_cons, ih, collateFromFieldDescriptor_errors, List.forall_mem_cons,
        and_assoc]

/-- `collate_atoms` accepts a descriptor exactly when every atom of the module
follows its rule. -/
theorem collateAtoms_eq_zero_iff (descriptor : AtomDescriptor) (moduleName : String)
    (atoms : Atoms) :
    (collateAtoms descriptor moduleName atoms).1 = 0 ↔
      ∀ atomField ∈ descriptor.fields ++ descriptor.extensions,
        isInModule moduleName atomField → ∃ atom, AtomRule atomField atom := by
  have result := foldl_collateFromFieldDescriptor_errors moduleName
    (descriptor.fields ++ descriptor.extensions) (atoms, [])
  simpa [collateAtoms, List.length_eq_zero_iff] using result

end StatsLogApiGen.Collation
