import StatsLogApiGen.Collation.Faithful

/-!
# Accepted signatures

The types that collation lets into a signature and the place of the attribution
chain.  This invariant is what the writers rely on.
-/

namespace StatsLogApiGen.Collation

open Std
open StatsLogApiGen.Container
open StatsLogApiGen.Proto

/-! ## The attribution node -/

/-- The declaration collated from `AttributionNode`. -/
def attributionDecl : AtomDecl :=
  attributionCollated.1.atomDecl

theorem attributionCollated_signature : attributionCollated.2 = [.int, .string] := by
  decide

theorem attributionDecl_fields : attributionDecl.fields =
    [{ name := "uid", javaType := .int }, { name := "tag", javaType := .string }] := by
  rfl

/-! ## Types of accepted signatures -/

/-- The types of a signature other than the attribution chain. -/
def IsArgument : JavaType → Prop
  | .boolean | .int | .long | .float | .string | .byteArray
  | .booleanArray | .intArray | .longArray | .floatArray | .stringArray => True
  | _ => False

/-- An optional attribution chain followed by arguments. -/
def AcceptedSignature (signature : Signature) : Prop :=
  ∃ arguments : Signature, (∀ type ∈ arguments, IsArgument type) ∧
    (signature = arguments ∨ signature = .attributionChain :: arguments)

/-- An atom whose field 1 is an attribution chain. -/
def HasChain (atom : Descriptor) : Prop :=
  ∃ field ∈ atom.fields,
    field.number = 1 ∧ field.type = .message attributionNodeFullName

theorem isArgument_lowered {isUintAllowed : Bool} {field : MessageFieldDescriptor}
    (shape : FieldShape isUintAllowed field)
    (notNode : field.type ≠ .message attributionNodeFullName) :
    IsArgument (lowered (declaredType field)) := by
  obtain ⟨name, number, type, isRepeated, options⟩ := field
  cases shape with
  | plain isPlain _ =>
      cases type <;> cases isRepeated <;>
        simp_all [isPlainType, declaredType, lowered, IsArgument]
  | attributionChain isNode => exact absurd isNode notNode
  | message messageType isMessage notAttribution =>
      simp_all [declaredType, lowered, IsArgument]
  | bytes isBytes => simp_all [declaredType, lowered, IsArgument]
  | uint _ isUint =>
      cases type <;> simp_all [isUintType, declaredType, lowered, IsArgument]

section Rule

variable {restricted : Bool} {atom : Descriptor}

/-- In an accepted message a chain comes first, and every other field is an
argument. -/
theorem MessageRule.sortedFields_cases (rule : MessageRule restricted atom) :
    (∀ field ∈ sortedFields atom, field.type ≠ .message attributionNodeFullName) ∨
    ∃ chain rest, sortedFields atom = chain :: rest ∧
      chain.number = 1 ∧ chain.type = .message attributionNodeFullName ∧
      ∀ field ∈ rest, field.type ≠ .message attributionNodeFullName := by
  have first : ∀ field ∈ sortedFields atom,
      field.type = .message attributionNodeFullName → field.number = 1 := by
    intro field member isNode
    have shape := (rule.fields field (mem_sortedFields.mp member)).shape
    apply ((fieldShape_iff_javaType _ field).mp shape).2.2.2
    exact (javaType_eq_attributionChain_iff _ field).mpr isNode
  have positive : ∀ field ∈ sortedFields atom, 0 < field.number :=
    fun field member => number_pos rule.numbers (mem_sortedFields.mp member)
  have ascending := pairwise_sortedFields atom
  cases sorted : sortedFields atom with
  | nil =>
      left
      simp
  | cons head rest =>
      rw [sorted] at first positive ascending
      rw [List.pairwise_cons] at ascending
      have restNot : ∀ field ∈ rest, field.type ≠ .message attributionNodeFullName := by
        intro field member isNode
        have before := ascending.1 field member
        have headPositive := positive head List.mem_cons_self
        rw [first field (List.mem_cons_of_mem _ member) isNode] at before
        omega
      by_cases isNode : head.type = .message attributionNodeFullName
      · right
        exact ⟨head, rest, rfl, first head List.mem_cons_self isNode, isNode, restNot⟩
      · left
        intro field member
        rcases List.mem_cons.mp member with rfl | restMem
        · exact isNode
        · exact restNot field restMem

theorem MessageRule.hasChain_iff (rule : MessageRule restricted atom) :
    HasChain atom ↔
      ∃ chain rest, sortedFields atom = chain :: rest ∧
        chain.type = .message attributionNodeFullName := by
  constructor
  · rintro ⟨field, member, -, isNode⟩
    rcases rule.sortedFields_cases with none | ⟨chain, rest, sorted, -, isChain, -⟩
    · exact absurd isNode (none field (mem_sortedFields.mpr member))
    · exact ⟨chain, rest, sorted, isChain⟩
  · rintro ⟨chain, rest, sorted, isChain⟩
    have chainMem : chain ∈ sortedFields atom := sorted ▸ List.mem_cons_self
    rcases rule.sortedFields_cases with none | ⟨head, others, headSorted, first, isNode, -⟩
    · exact absurd isChain (none chain chainMem)
    · rw [headSorted] at sorted
      obtain ⟨rfl, rfl⟩ := List.cons_eq_cons.mp sorted
      exact ⟨head, mem_sortedFields.mp chainMem, first, isNode⟩

theorem MessageRule.signatureOf_eq (rule : MessageRule restricted atom) :
    signatureOf atom = (sortedFields atom).map fun field => lowered (declaredType field) := by
  apply List.map_congr_left
  intro field member
  exact signatureEntry_eq_lowered (rule.fields field (mem_sortedFields.mp member)).shape

theorem MessageRule.isArgument (rule : MessageRule restricted atom)
    {fields : List MessageFieldDescriptor} (sublist : ∀ field ∈ fields, field ∈ sortedFields atom)
    (notNode : ∀ field ∈ fields, field.type ≠ .message attributionNodeFullName) :
    ∀ type ∈ fields.map fun field => lowered (declaredType field), IsArgument type := by
  intro type member
  obtain ⟨field, fieldMem, rfl⟩ := List.mem_map.mp member
  have shape := (rule.fields field (mem_sortedFields.mp (sublist field fieldMem))).shape
  exact isArgument_lowered shape (notNode field fieldMem)

/-- Collation lets accepted signatures through only. -/
theorem MessageRule.acceptedSignature (rule : MessageRule restricted atom) :
    AcceptedSignature (signatureOf atom) := by
  rw [rule.signatureOf_eq]
  rcases rule.sortedFields_cases with none | ⟨chain, rest, sorted, -, isChain, restNot⟩
  · exact ⟨_, rule.isArgument (fun _ member => member) none, Or.inl rfl⟩
  · rw [sorted]
    refine ⟨rest.map fun field => lowered (declaredType field), ?_, Or.inr ?_⟩
    · apply rule.isArgument _ restNot
      intro field member
      exact sorted ▸ List.mem_cons_of_mem chain member
    · simp [declaredType, isChain, lowered]

end Rule

theorem AcceptedSignature.mem_cases {signature : Signature}
    (accepted : AcceptedSignature signature) :
    ∀ type ∈ signature, IsArgument type ∨ type = .attributionChain := by
  rcases accepted with ⟨arguments, areArguments, rfl | rfl⟩
  · exact fun type member => Or.inl (areArguments type member)
  · intro type member
    rcases List.mem_cons.mp member with rfl | argumentMem
    · exact Or.inr rfl
    · exact Or.inl (areArguments type argumentMem)

theorem AcceptedSignature.isArgument {signature : Signature}
    (accepted : AcceptedSignature signature) (noChain : JavaType.attributionChain ∉ signature) :
    ∀ type ∈ signature, IsArgument type := by
  intro type member
  rcases accepted.mem_cases type member with isArgument | rfl
  · exact isArgument
  · exact absurd member noChain

/-- After its first entry an accepted signature has arguments only. -/
theorem AcceptedSignature.tail {signature : Signature}
    (accepted : AcceptedSignature signature) : ∀ type ∈ signature.tail, IsArgument type := by
  rcases accepted with ⟨arguments, areArguments, rfl | rfl⟩
  · exact fun type member => areArguments type (List.mem_of_mem_tail member)
  · exact areArguments

end StatsLogApiGen.Collation
