import Mathlib.Data.List.Nodup

/-!
# Protobuf descriptors

The part of the protobuf reflection interface that collation reads, together
with the field options of `atom_field_options.proto`.  A field of an atom
message refers to its message type by full name only, because that is all
collation asks of it; a field of the `Atom` message carries the descriptor of
its atom message.  `FieldDescriptor` is therefore generic in the description of
a message type.

Protobuf rejects a message that uses a field number twice, so distinct numbers
are part of the descriptors.
-/

namespace StatsLogApiGen.Proto

universe u

/-! ## Options -/

/-- `os::statsd::LogMode`. -/
inductive LogMode where
  | unset
  | automatic
  | bytes
  deriving DecidableEq, Repr

/-- `os::statsd::RestrictionCategory`. -/
inductive RestrictionCategory where
  | unset
  | diagnostic
  | systemIntelligence
  | authentication
  | fraudAndAbuse
  deriving DecidableEq, Repr

/-- The numeric value of a restriction category. -/
def RestrictionCategory.number : RestrictionCategory → Int
  | .unset => 0
  | .diagnostic => 1
  | .systemIntelligence => 2
  | .authentication => 3
  | .fraudAndAbuse => 4

/-- `os::statsd::StateAtomFieldOption`.  An option records its presence only
where collation asks for it. -/
structure StateAtomFieldOption where
  primaryField : Bool := false
  exclusiveState : Bool := false
  primaryFieldFirstUid : Bool := false
  defaultStateValue : Option Int := none
  triggerStateResetValue : Option Int := none
  nested : Option Bool := none
  deriving DecidableEq, Repr

/-- `os::statsd::FieldRestrictionOption`. -/
structure FieldRestrictionOption where
  peripheralDeviceInfo : Bool := false
  appUsage : Bool := false
  appActivity : Bool := false
  healthConnect : Bool := false
  accessibility : Bool := false
  systemSearch : Bool := false
  userEngagement : Bool := false
  ambientSensing : Bool := false
  demographicClassification : Bool := false
  deriving DecidableEq, Repr

/-- The extensions of `google.protobuf.FieldOptions`.  An optional extension is
`none` when it is absent. -/
structure FieldOptions where
  stateFieldOption : Option StateAtomFieldOption := none
  isUid : Option Bool := none
  logMode : Option LogMode := none
  module : List String := []
  truncateTimestamp : Option Bool := none
  restrictionCategory : Option RestrictionCategory := none
  fieldRestrictionOption : Option FieldRestrictionOption := none
  deriving DecidableEq, Repr

namespace FieldOptions

/-- `GetExtension(is_uid)`, whose declared default is `false`. -/
def getIsUid (options : FieldOptions) : Bool :=
  options.isUid.getD false

/-- `GetExtension(log_mode)`, whose declared default is `MODE_AUTOMATIC`. -/
def getLogMode (options : FieldOptions) : LogMode :=
  options.logMode.getD .automatic

/-- `GetExtension(truncate_timestamp)`, whose declared default is `false`. -/
def getTruncateTimestamp (options : FieldOptions) : Bool :=
  options.truncateTimestamp.getD false

end FieldOptions

/-! ## Descriptors -/

structure EnumValueDescriptor where
  name : String
  number : Int
  deriving DecidableEq, Repr

/-- An enum type with its values in declaration order. -/
structure EnumDescriptor where
  name : String
  values : List EnumValueDescriptor
  deriving DecidableEq, Repr

/-- `FieldDescriptor::Type`, with the message or enum type where there is one. -/
inductive FieldType (Message : Type u) where
  | double
  | float
  | int64
  | uint64
  | int32
  | fixed64
  | fixed32
  | bool
  | string
  | group
  | message (messageType : Message)
  | bytes
  | uint32
  | enum (enumType : EnumDescriptor)
  | sfixed32
  | sfixed64
  | sint32
  | sint64
  deriving DecidableEq, Repr

/-- `FieldDescriptor::type_name()`. -/
def FieldType.typeName {Message : Type u} : FieldType Message → String
  | .double => "double"
  | .float => "float"
  | .int64 => "int64"
  | .uint64 => "uint64"
  | .int32 => "int32"
  | .fixed64 => "fixed64"
  | .fixed32 => "fixed32"
  | .bool => "bool"
  | .string => "string"
  | .group => "group"
  | .message _ => "message"
  | .bytes => "bytes"
  | .uint32 => "uint32"
  | .enum _ => "enum"
  | .sfixed32 => "sfixed32"
  | .sfixed64 => "sfixed64"
  | .sint32 => "sint32"
  | .sint64 => "sint64"

structure FieldDescriptor (Message : Type u) where
  name : String
  number : Int
  type : FieldType Message
  isRepeated : Bool := false
  options : FieldOptions := {}
  deriving DecidableEq, Repr

/-- A field of an atom message.  Its message type is given by full name. -/
abbrev MessageFieldDescriptor := FieldDescriptor String

/-- The descriptor of an atom message. -/
structure Descriptor where
  name : String
  fields : List MessageFieldDescriptor
  numbers_nodup : (fields.map FieldDescriptor.number).Nodup

/-- A field of the `Atom` message. -/
abbrev AtomFieldDescriptor := FieldDescriptor Descriptor

/-- The descriptor of the `Atom` message with the extensions that
`FindAllExtensions` returns for it.  Extension numbers lie outside the numbers
of the regular fields. -/
structure AtomDescriptor where
  fields : List AtomFieldDescriptor
  extensions : List AtomFieldDescriptor
  numbers_nodup : ((fields ++ extensions).map FieldDescriptor.number).Nodup

/-- The full name that marks a field as an attribution chain. -/
def attributionNodeFullName : String :=
  "android.os.statsd.AttributionNode"

/-- `android::os::statsd::AttributionNode::descriptor()`. -/
def attributionNode : Descriptor where
  name := "AttributionNode"
  fields :=
    [{ name := "uid", number := 1, type := .int32 },
     { name := "tag", number := 2, type := .string }]
  numbers_nodup := by decide

end StatsLogApiGen.Proto
