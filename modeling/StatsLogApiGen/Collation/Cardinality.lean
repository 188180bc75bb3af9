import StatsLogApiGen.Collation.Faithful

/-!
# Cardinality of fields and entries

A signature entry stands for several values when it is an attribution chain or an
array other than a byte array.  For the fields that collation accepts this is the case
exactly when the field is repeated, with one exception: `javaType` looks at the name of
a message type before it looks at the label, so a singular attribution node is a chain
as well, although `attribution_node.proto` represents all chains as repeated fields.
-/

namespace StatsLogApiGen.Collation

open StatsLogApiGen.Proto

/-! ## Positions -/

/-- In an accepted message the field with number `n` is visited as the `n`-th. -/
theorem MessageRule.getElem?_sortedFields {restricted : Bool} {atom : Descriptor}
    (rule : MessageRule restricted atom) {field : MessageFieldDescriptor}
    (member : field ∈ atom.fields) :
    (sortedFields atom)[(field.number - 1).toNat]? = some field := by
  have numbers := (checkFieldNumbers_eq_nil_iff 1 (sortedFields atom)).mp
    ((checkFieldNumbers_sortedFields atom).mpr rule.numbers)
  rcases List.mem_iff_getElem?.mp (mem_sortedFields.mpr member) with ⟨index, found⟩
  have number : field.number = 1 + (index : Int) := by
    have here := congrArg (fun list : List Int => list[index]?) numbers
    have inRange := (List.getElem?_eq_some_iff.mp found).1
    simpa [List.getElem?_map, found, List.getElem?_range inRange] using here
  have position : (field.number - 1).toNat = index := by omega
  rw [position]
  exact found

/-! ## Entries -/

/-- The entries that stand for several values. -/
def isRepeatedEntry : JavaType → Bool
  | .attributionChain | .booleanArray | .intArray | .longArray | .floatArray
  | .stringArray => true
  | _ => false

theorem signatureEntry_eq_attributionChain_iff (isUintAllowed : Bool)
    (field : MessageFieldDescriptor) :
    signatureEntry isUintAllowed field = .attributionChain ↔
      field.type = .message attributionNodeFullName := by
  rw [← javaType_eq_attributionChain_iff isUintAllowed, signatureEntry, lowerType]
  cases javaType field isUintAllowed <;> cases isBinaryField field <;> simp

/-- An accepted field has an entry for several values when it is repeated or an
attribution node. -/
theorem isRepeatedEntry_signatureEntry {isUintAllowed : Bool} {field : MessageFieldDescriptor}
    (shape : FieldShape isUintAllowed field) :
    isRepeatedEntry (signatureEntry isUintAllowed field) = true ↔
      field.isRepeated = true ∨ field.type = .message attributionNodeFullName := by
  rw [signatureEntry_eq_lowered shape]
  obtain ⟨name, number, type, isRepeated, options⟩ := field
  cases shape with
  | plain isPlain _ =>
      cases type <;> cases isRepeated <;>
        simp_all [isPlainType, declaredType, lowered, isRepeatedEntry]
  | attributionChain isNode => simp_all [declaredType, lowered, isRepeatedEntry]
  | message messageType isMessage notNode singular =>
      simp_all [declaredType, lowered, isRepeatedEntry]
  | bytes isBytes singular => simp_all [declaredType, lowered, isRepeatedEntry]
  | uint _ isUint singular =>
      cases type <;> simp_all [isUintType, declaredType, lowered, isRepeatedEntry]

/-! ## Cardinality -/

/-- The entry of a field stands for several values exactly when the field is repeated,
and a chain comes from a repeated attribution node. -/
structure SameCardinality (field : MessageFieldDescriptor) (entry : JavaType) : Prop where
  repeated : isRepeatedEntry entry = true ↔ field.isRepeated = true
  chain : entry = .attributionChain →
    field.isRepeated = true ∧ field.type = .message attributionNodeFullName

/-- Every field of a selected atom has an entry of its cardinality in the signature. -/
def PreservesCardinality (descriptor : AtomDescriptor) (moduleName : String) : Prop :=
  ∀ atomField ∈ selectedAtoms descriptor moduleName, ∀ atom,
    atomField.type = .message atom → ∀ atomDecl : AtomDecl, ∀ field ∈ atom.fields,
      ∃ entry, (collateAtom atom atomDecl).2[(field.number - 1).toNat]? = some entry ∧
        SameCardinality field entry

/-- The attribution nodes of the selected atoms are repeated. -/
def RepeatsAttributionNodes (descriptor : AtomDescriptor) (moduleName : String) : Prop :=
  ∀ atomField ∈ selectedAtoms descriptor moduleName, ∀ atom,
    atomField.type = .message atom → ∀ field ∈ atom.fields,
      field.type = .message attributionNodeFullName → field.isRepeated = true

theorem sameCardinality_iff {isUintAllowed : Bool} {field : MessageFieldDescriptor}
    (shape : FieldShape isUintAllowed field) :
    SameCardinality field (signatureEntry isUintAllowed field) ↔
      (field.type = .message attributionNodeFullName → field.isRepeated = true) := by
  have several := isRepeatedEntry_signatureEntry shape
  have chain := signatureEntry_eq_attributionChain_iff isUintAllowed field
  constructor
  · intro same isNode
    exact (same.chain (chain.mpr isNode)).1
  · intro repeats
    refine ⟨several.trans ⟨?_, Or.inl⟩, fun isChain => ?_⟩
    · rintro (isRepeated | isNode)
      · exact isRepeated
      · exact repeats isNode
    · exact ⟨repeats (chain.mp isChain), chain.mp isChain⟩

/-- Collation preserves the cardinality of the fields it accepts exactly when no
attribution node is singular. -/
theorem preservesCardinality_iff (descriptor : AtomDescriptor) (moduleName : String)
    (accepted : (collateAtoms descriptor moduleName {}).1 = 0) :
    PreservesCardinality descriptor moduleName ↔
      RepeatsAttributionNodes descriptor moduleName := by
  have rules := (collateAtoms_eq_zero_iff descriptor moduleName {}).mp accepted
  have entries : ∀ atomField ∈ selectedAtoms descriptor moduleName, ∀ atom,
      atomField.type = .message atom → ∀ atomDecl : AtomDecl, ∀ field ∈ atom.fields,
        ((∃ entry, (collateAtom atom atomDecl).2[(field.number - 1).toNat]? = some entry ∧
          SameCardinality field entry) ↔
            (field.type = .message attributionNodeFullName → field.isRepeated = true)) := by
    intro atomField selected atom isMessage atomDecl field member
    rcases List.mem_filter.mp selected with ⟨listed, inModule⟩
    rcases rules atomField listed inModule with ⟨other, rule⟩
    have same : other = atom := by simpa [isMessage] using rule.type.symm
    subst same
    have shape := (rule.message.fields field member).shape
    have entry : (collateAtom other atomDecl).2[(field.number - 1).toNat]? =
        some (signatureEntry (other.name ∈ uintAtomAllowlist) field) := by
      rw [collateAtom_signature, signatureOf, List.getElem?_map,
        rule.message.getElem?_sortedFields member]
      rfl
    rw [← sameCardinality_iff shape, entry]
    simp only [Option.some.injEq, exists_eq_left']
  constructor
  · intro preserves atomField selected atom isMessage field member
    exact (entries atomField selected atom isMessage {} field member).mp
      (preserves atomField selected atom isMessage {} field member)
  · intro repeats atomField selected atom isMessage atomDecl field member
    exact (entries atomField selected atom isMessage atomDecl field member).mpr
      (repeats atomField selected atom isMessage field member)

theorem preservesCardinality_iff_wakelock :
    PreservesCardinality wakelockDescriptor defaultModuleName ↔
      RepeatsAttributionNodes wakelockDescriptor defaultModuleName :=
  preservesCardinality_iff wakelockDescriptor defaultModuleName (by decide)

/-- An atom with an attribution node that is not repeated. -/
def singleNode : Descriptor where
  name := "SingleNode"
  fields := [{ name := "node", number := 1, type := .message attributionNodeFullName }]
  numbers_nodup := by decide

def singleNodeDescriptor : AtomDescriptor where
  fields := [{ name := "single_node", number := 3, type := .message singleNode }]
  extensions := []
  numbers_nodup := by decide

/-- The singular node is accepted as an attribution chain. -/
theorem not_preservesCardinality_singleNode :
    (collateAtoms singleNodeDescriptor defaultModuleName {}).1 = 0 ∧
      ¬PreservesCardinality singleNodeDescriptor defaultModuleName := by
  refine ⟨by decide, fun preserves => ?_⟩
  have matched := preserves _ List.mem_cons_self singleNode rfl {} _ List.mem_cons_self
  rcases matched with ⟨entry, found, same⟩
  have isChain : entry = .attributionChain := by
    rw [collateAtom_signature] at found
    exact Option.some.inj found.symm
  exact absurd (same.chain isChain).1 (by decide)

end StatsLogApiGen.Collation
