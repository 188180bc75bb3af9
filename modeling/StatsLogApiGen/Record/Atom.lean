import StatsLogApiGen.Format.Codec
import StatsLogApiGen.Record.Labels

/-!
# Records of atoms

What the reader of a logged atom learns: its id, its values, and the labels of both.  The
record of a message is read off the descriptor.  An event is read as a record by taking
every operation that is no annotation as the head of a group.
-/

namespace StatsLogApiGen.Record

open StatsLogApiGen.Container
open StatsLogApiGen.Format
open StatsLogApiGen.Proto
open StatsLogApiGen.Collation
open StatsLogApiGen.Writer

universe u v

/-! ## Records -/

/-- A logged atom with its labels. -/
structure AtomRecord (ι : Type u) where
  atom : Group Int (Label ι)
  values : List (Group Argument (Label ι))
  deriving DecidableEq, Repr

/-- The record with other labels. -/
def AtomRecord.map {ι : Type u} {κ : Type v} (change : Label ι → Label κ)
    (record : AtomRecord ι) : AtomRecord κ :=
  ⟨record.atom.map change, record.values.map (Group.map change)⟩

/-- The values of the fields of a message, by field number. -/
abbrev MessageValue := Int → Argument

/-- Every field has a value of its type. -/
def Fits (message : MessageValue) (atom : Descriptor) : Prop :=
  ∀ field ∈ atom.fields, (message field.number).type = lowered (declaredType field)

instance (message : MessageValue) (atom : Descriptor) : Decidable (Fits message atom) :=
  inferInstanceAs (Decidable (∀ field ∈ _, _))

/-- The values of the fields in ascending order of their numbers, as they are passed to a
logger. -/
def callArguments (atom : Descriptor) (message : MessageValue) : List Argument :=
  (sortedFields atom).map fun field => message field.number

/-- A field of a message with its value and the labels that its options ask for. -/
def fieldRecord (message : MessageValue) (field : MessageFieldDescriptor) :
    Group Argument (Label AnnotationId) where
  head := message field.number
  labels := labels (fieldRequests field.options) (message field.number).isNumber

/-- What an atom that is logged with a message says. -/
def recordOf (atomField : AtomFieldDescriptor) (atom : Descriptor) (message : MessageValue) :
    AtomRecord AnnotationId where
  atom := ⟨atomField.number, labels (atomRequests atomField.options) fun _ => false⟩
  values := (sortedFields atom).map (fieldRecord message)

/-- The writers keep the states of an atom: none is -1, which they take for no state, and none
is rounded where it is compared with a float. -/
structure KeepsStates (atom : Descriptor) : Prop where
  noSentinel : ∀ field ∈ atom.fields, NoSentinel (fieldRequests field.options)
  exact : ∀ field ∈ atom.fields, lowered (declaredType field) = .float →
    ∀ state ∈ requestedState (fieldRequests field.options) .triggerStateReset,
      Format.roundToFloat state = state

instance (atom : Descriptor) : Decidable (KeepsStates atom) :=
  decidable_of_iff (_ ∧ _) ⟨fun both => ⟨both.1, both.2⟩, fun kept => ⟨kept.1, kept.2⟩⟩

/-! ## Reading events -/

/-- What annotations of an event can be attached to. -/
inductive EventHead where
  | atomId (atomId : Int)
  | value (argument : Argument)
  deriving DecidableEq, Repr

/-- The operation that attaches a label. -/
def labelOp (label : Label Int) : EventOp :=
  match label.value with
  | .int intValue => .addAnnotationInt32 label.annotationId intValue
  | .bool boolValue => .addAnnotationBool label.annotationId boolValue

/-- An operation is a head or a label of the head before it. -/
def eventEntry : EventOp ≃ StreamEntry EventHead (Label Int) where
  toFun
    | .setAtomId atomId => .head (.atomId atomId)
    | .write argument => .head (.value argument)
    | .addAnnotationBool annotationId value => .label ⟨annotationId, .bool value⟩
    | .addAnnotationInt32 annotationId value => .label ⟨annotationId, .int value⟩
  invFun
    | .head (.atomId atomId) => .setAtomId atomId
    | .head (.value argument) => .write argument
    | .label label => labelOp label
  left_inv op := by cases op <;> rfl
  right_inv entry := by
    rcases entry with head | ⟨annotationId, value⟩
    · cases head <;> rfl
    · cases value <;> rfl

/-- A group whose head is a value. -/
def valueGroup? : Group EventHead (Label Int) → Option (Group Argument (Label Int))
  | ⟨.value argument, labels⟩ => some ⟨argument, labels⟩
  | ⟨.atomId _, _⟩ => none

def valueGroup (group : Group Argument (Label Int)) : Group EventHead (Label Int) :=
  ⟨.value group.head, group.labels⟩

theorem exact_valueGroup? : Exact valueGroup? valueGroup := by
  rintro ⟨head, labels⟩ ⟨argument, others⟩
  cases head <;> simp [valueGroup?, valueGroup]

/-- The record of groups that start with the id of the atom. -/
def groupsRecord : List (Group EventHead (Label Int)) → Option (AtomRecord Int)
  | ⟨.atomId atomId, labels⟩ :: rest =>
      (rest.mapM valueGroup?).map fun values => ⟨⟨atomId, labels⟩, values⟩
  | _ => none

def recordGroups (record : AtomRecord Int) : List (Group EventHead (Label Int)) :=
  ⟨.atomId record.atom.head, record.atom.labels⟩ :: record.values.map valueGroup

theorem exact_groupsRecord : Exact groupsRecord recordGroups := by
  rintro groups ⟨⟨atomId, labels⟩, values⟩
  rcases groups with _ | ⟨⟨head, others⟩, rest⟩
  · simp [groupsRecord, recordGroups]
  · cases head with
    | value argument => simp [groupsRecord, recordGroups]
    | atomId other =>
        have isRest := exact_valueGroup?.mapM rest values
        simp [groupsRecord, recordGroups, and_comm, and_assoc, ← isRest]

/-- What the reader of an event learns.  The id of the atom comes first and once. -/
def readEvent (ops : List EventOp) : Option (AtomRecord Int) :=
  (readGroups (eventEntry.listEquivOfEquiv ops)).bind groupsRecord

/-- The operations for a value with its labels. -/
def valueOps (group : Group Argument (Label Int)) : List EventOp :=
  .write group.head :: group.labels.map labelOp

/-- The event of a record. -/
def recordEvent (record : AtomRecord Int) : List EventOp :=
  .setAtomId record.atom.head ::
    (record.atom.labels.map labelOp ++ record.values.flatMap valueOps)

theorem eventEntry_symm_writeGroups (groups : List (Group Argument (Label Int))) :
    (writeGroups (groups.map valueGroup)).map eventEntry.symm = groups.flatMap valueOps := by
  induction groups with
  | nil => rfl
  | cons group rest ih =>
      rw [List.map_cons, writeGroups, List.map_cons, List.map_append, List.map_map, ih,
        List.flatMap_cons]
      rfl

theorem eventEntry_symm_recordGroups (record : AtomRecord Int) :
    (writeGroups (recordGroups record)).map eventEntry.symm = recordEvent record := by
  rw [recordGroups, writeGroups, List.map_cons, List.map_append, List.map_map,
    eventEntry_symm_writeGroups]
  rfl

/-- An event is read as the record whose operations it consists of, and as no other. -/
theorem exact_readEvent : Exact readEvent recordEvent := by
  have exact :=
    (exact_readGroups.bind exact_groupsRecord).equiv eventEntry.listEquivOfEquiv
  intro ops record
  rw [← eventEntry_symm_recordGroups]
  exact exact ops record

end StatsLogApiGen.Record
