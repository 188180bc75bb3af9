import StatsLogApiGen.QSchema.Payload
import StatsLogApiGen.QSchema.Text
import StatsLogApiGen.Record.Loggers

/-!
# Payloads are records

A reader that knows the signature of an atom reads the payload of a Q-schema method as
the id and the values of the record of the message.  A payload has no labels, and all
NaNs of a float are one.
-/

namespace StatsLogApiGen.Record

open StatsLogApiGen.Container
open StatsLogApiGen.Format
open StatsLogApiGen.Proto
open StatsLogApiGen.Collation
open StatsLogApiGen.Writer
open StatsLogApiGen.QSchema (JavaString nodeItem nodeItems itemTags eventItem bytesOf
  floatToIntBits Generates QLogger Machine getBytes_utf16)

/-! ## Values -/

/-- What a caller in Java passes for a value.  Methods for the Q schema take no array but
the bytes. -/
def javaArgument? : Argument → Option QSchema.Argument
  | .attributionChain uids tags =>
      some (.attributionChain (some uids) (some (tags.map fun tag => some (utf16 tag))))
  | .boolean value => some (.boolean value)
  | .int value => some (.int value)
  | .long value => some (.long value)
  | .float bits => some (.float bits)
  | .string value => some (.string (some (utf16 value)))
  | .byteArray bytes => some (.byteArray (some bytes))
  | _ => none

/-- The value with the bits that `Float.floatToIntBits` gives. -/
def canonical : Argument → Argument
  | .float bits => .float (floatToIntBits bits)
  | argument => argument

/-- The record as a payload holds it. -/
structure PayloadRecord where
  elapsedRealtime : BitVec 64
  atomId : Int
  values : List Argument
  deriving DecidableEq, Repr

/-- What a payload can hold of a record. -/
def payloadView (elapsedRealtime : BitVec 64) (record : AtomRecord AnnotationId) :
    PayloadRecord where
  elapsedRealtime := elapsedRealtime
  atomId := record.atom.head
  values := record.values.map fun value => canonical value.head

/-! ## Reading payloads -/

/-- The node of an attribution chain. -/
def readNode : Item → Option (BitVec 32 × String)
  | .list [.int uid, .string tag] => (readUtf8 tag).map fun text => (uid, text)
  | _ => none

/-- The value of an item for an entry of the signature. -/
def readItem : JavaType → Item → Option Argument
  | .boolean, .int value => some (.boolean (value ≠ 0))
  | .int, .int value => some (.int value)
  | .long, .long value => some (.long value)
  | .float, .float bits => some (.float bits)
  | .string, .string bytes => (readUtf8 bytes).map .string
  | .byteArray, .string bytes => some (.byteArray bytes)
  | .attributionChain, .list nodes => (nodes.mapM readNode).map fun chain =>
      .attributionChain (chain.map Prod.fst) (chain.map Prod.snd)
  | _, _ => none

/-- One item for every entry of the signature. -/
def readItems : Signature → List Item → Option (List Argument)
  | [], [] => some []
  | type :: signature, item :: items =>
      (readItem type item).bind fun argument =>
        (readItems signature items).map fun arguments => argument :: arguments
  | _, _ => none

/-- The timestamp and the code come before the values. -/
def readEventItem (signature : Signature) : Item → Option PayloadRecord
  | .list (.long elapsedRealtime :: .int code :: items) =>
      (readItems signature items).map fun values => ⟨elapsedRealtime, code.toInt, values⟩
  | _ => none

/-- What a reader that knows the signature learns from a payload. -/
def readPayload (signature : Signature) (payload : List Byte) : Option PayloadRecord :=
  (parse itemTags payload).bind (readEventItem signature)

/-! ## Items of values -/

/-- The item of a node. -/
def writeNode (node : BitVec 32 × String) : Item :=
  .list [.int node.1, .string (utf8 node.2)]

theorem exact_readNode : Exact readNode writeNode := by
  rintro item ⟨uid, text⟩
  rw [writeNode]
  constructor
  · intro isRead
    unfold readNode at isRead
    split at isRead
    · obtain ⟨other, isText, equal⟩ := Option.map_eq_some_iff.mp isRead
      obtain ⟨rfl, rfl⟩ := Prod.mk.inj equal
      rw [(exact_readUtf8 _ _).mp isText]
    · contradiction
  · rintro rfl
    rw [readNode, exact_readUtf8.read_write]
    rfl

theorem bytesOf_utf16 (text : String) : bytesOf (some (utf16 text)) = utf8 text :=
  getBytes_utf16 text

theorem nodeItems_eq (uids : List (BitVec 32)) (tags : List String) :
    nodeItems uids (tags.map fun tag => some (utf16 tag)) = (uids.zip tags).map writeNode := by
  rw [nodeItems, List.zip_map_right, List.map_map]
  apply List.map_congr_left
  rintro ⟨uid, tag⟩ -
  change nodeItem uid (some (utf16 tag)) = _
  rw [nodeItem, bytesOf_utf16, writeNode]

section Values

variable {argument : Argument} {passed : QSchema.Argument}

theorem javaArgument?_type (isPassed : javaArgument? argument = some passed) :
    passed.type = argument.type := by
  cases argument <;> cases isPassed <;> rfl

/-- An item is read as the value it was made for. -/
theorem readItem_item (isPassed : javaArgument? argument = some passed)
    (sameLengths : passed.SameLengths) :
    readItem argument.type passed.item = some (canonical argument) := by
  cases argument with
  | boolean value =>
      cases isPassed
      cases value <;> rfl
  | string value =>
      cases isPassed
      change (readUtf8 (bytesOf (some (utf16 value)))).map _ = _
      rw [bytesOf_utf16, exact_readUtf8.read_write]
      rfl
  | attributionChain uids tags =>
      cases isPassed
      change uids.length = (tags.map fun tag => some (utf16 tag)).length at sameLengths
      rw [List.length_map] at sameLengths
      change ((nodeItems uids (tags.map fun tag => some (utf16 tag))).mapM readNode).map _ = _
      rw [nodeItems_eq, exact_readNode.mapM.read_write, Option.map_some,
        List.map_fst_zip (Nat.le_of_eq sameLengths),
        List.map_snd_zip (Nat.le_of_eq sameLengths.symm)]
      rfl
  | int value | long value | float bits | byteArray bytes =>
      cases isPassed
      rfl
  | _ => cases isPassed

/-- An item in which no length is truncated holds a short chain. -/
theorem shortChain_of_readItem (isPassed : javaArgument? argument = some passed) {item : Item}
    (fits : item.Fits) (isRead : readItem argument.type item = some (canonical argument)) :
    passed.ShortChain := by
  cases argument with
  | attributionChain uids tags =>
      cases isPassed
      change readItem .attributionChain item = _ at isRead
      unfold readItem at isRead
      split at isRead <;> try contradiction
      rename_i nodes _
      obtain ⟨chain, isChain, equal⟩ := Option.map_eq_some_iff.mp isRead
      obtain ⟨-, isTags⟩ := Argument.attributionChain.inj equal
      have short := (Item.fits_list_iff.mp fits).1
      rw [(exact_readNode.mapM _ _).mp isChain, List.length_map] at short
      change (tags.map fun tag => some (utf16 tag)).length ≤ 255
      rw [List.length_map, ← isTags, List.length_map]
      omega
  | string value | boolean value | int value | long value | float bits | byteArray bytes =>
      cases isPassed
      trivial
  | _ => cases isPassed

end Values

section Arguments

variable {arguments : List Argument} {passed : List QSchema.Argument}

/-- The first of several values is passed first. -/
theorem mapM_javaArgument?_cons {argument : Argument}
    (arePassed : (argument :: arguments).mapM javaArgument? = some passed) :
    ∃ first rest, javaArgument? argument = some first ∧
      arguments.mapM javaArgument? = some rest ∧ passed = first :: rest := by
  rw [List.mapM_cons] at arePassed
  obtain ⟨first, isFirst, isRest⟩ := Option.bind_eq_some_iff.mp arePassed
  obtain ⟨rest, areRest, equal⟩ := Option.bind_eq_some_iff.mp isRest
  exact ⟨first, rest, isFirst, areRest, (Option.some.inj equal).symm⟩

theorem javaArguments_types (arePassed : arguments.mapM javaArgument? = some passed) :
    passed.map QSchema.Argument.type = arguments.map Argument.type := by
  induction arguments generalizing passed with
  | nil =>
      obtain rfl := Option.some.inj arePassed
      rfl
  | cons argument later ih =>
      obtain ⟨first, rest, isFirst, areRest, rfl⟩ := mapM_javaArgument?_cons arePassed
      rw [List.map_cons, List.map_cons, javaArgument?_type isFirst, ih areRest]

/-- The items of the values are read by the signature. -/
theorem readItems_items (arePassed : arguments.mapM javaArgument? = some passed)
    (sameLengths : ∀ argument ∈ passed, argument.SameLengths) :
    readItems (arguments.map Argument.type) (passed.map QSchema.Argument.item) =
      some (arguments.map canonical) := by
  induction arguments generalizing passed with
  | nil =>
      obtain rfl := Option.some.inj arePassed
      rfl
  | cons argument later ih =>
      obtain ⟨first, rest, isFirst, areRest, rfl⟩ := mapM_javaArgument?_cons arePassed
      have others := ih areRest fun other member =>
        sameLengths other (List.mem_cons_of_mem _ member)
      rw [List.map_cons, List.map_cons, readItems,
        readItem_item isFirst (sameLengths first List.mem_cons_self), Option.bind_some, others]
      rfl

theorem shortChains_of_readItems (arePassed : arguments.mapM javaArgument? = some passed)
    {items : List Item} (fits : ∀ item ∈ items, item.Fits)
    (areRead : readItems (arguments.map Argument.type) items =
      some (arguments.map canonical)) :
    ∀ argument ∈ passed, argument.ShortChain := by
  induction arguments generalizing passed items with
  | nil =>
      obtain rfl := Option.some.inj arePassed
      simp
  | cons argument later ih =>
      obtain ⟨first, rest, isFirst, areRest, rfl⟩ := mapM_javaArgument?_cons arePassed
      cases items with
      | nil => contradiction
      | cons item others =>
          rw [List.map_cons, readItems] at areRead
          obtain ⟨value, isValue, isLater⟩ := Option.bind_eq_some_iff.mp areRead
          obtain ⟨values, areValues, equal⟩ := Option.map_eq_some_iff.mp isLater
          obtain ⟨rfl, rfl⟩ := List.cons.inj equal
          intro other member
          rcases List.mem_cons.mp member with rfl | restMem
          · exact shortChain_of_readItem isFirst (fits item List.mem_cons_self) isValue
          · exact ih areRest (fun item member => fits item (List.mem_cons_of_mem _ member))
              areValues other restMem

end Arguments

/-! ## The payload of a call -/

/-- What is parsed has lengths that fit. -/
theorem fits_of_parse {tags : Tags} {bytes : List Byte} {item : Item}
    (parsed : parse tags bytes = some item) : item.Fits := by
  rw [parse] at parsed
  split at parsed
  · rename_i other isOther
    obtain rfl := Option.some.inj parsed
    exact fits_of_parseItem isOther
  · contradiction

/-- A payload that reaches `StatsLog.writeRaw` is read as the values of the call exactly
when its chains are short. -/
theorem readPayload_iff {qLogger : QLogger} {method : QSchema.Method}
    {arguments : List Argument} {passed : List QSchema.Argument}
    (takes : QSchema.Takes qLogger method passed)
    (arePassed : arguments.mapM javaArgument? = some passed) {elapsedRealtime : BitVec 64}
    {code : BitVec 32} {needed : Int} {machine : Machine}
    (reached : qLogger.write .wrapping method elapsedRealtime code passed =
      .allocated needed (.ok machine)) :
    readPayload (arguments.map Argument.type) machine.payload =
        some ⟨elapsedRealtime, code.toInt, arguments.map canonical⟩ ↔
      ∀ argument ∈ passed, argument.ShortChain := by
  constructor
  · intro isRead
    obtain ⟨item, parsed, isRecord⟩ := Option.bind_eq_some_iff.mp isRead
    have fits := fits_of_parse parsed
    unfold readEventItem at isRecord
    split at isRecord
    · rename_i items
      obtain ⟨values, areValues, equal⟩ := Option.map_eq_some_iff.mp isRecord
      obtain ⟨-, -, rfl⟩ := PayloadRecord.mk.inj equal
      apply shortChains_of_readItems arePassed _ areValues
      intro item member
      exact (Item.fits_list_iff.mp fits).2 item
        (List.mem_cons_of_mem _ (List.mem_cons_of_mem _ member))
    · contradiction
  · intro short
    obtain ⟨-, sameLengths⟩ := takes.of_allocated _ elapsedRealtime code reached
    rw [readPayload, (takes.parse_payload_iff reached).mpr short, Option.bind_some, eventItem,
      readEventItem, readItems_items arePassed sameLengths]
    rfl

/-- Values that can be passed have no repeated type. -/
theorem containsRepeatedField_eq_false {arguments : List Argument}
    {passed : List QSchema.Argument} (arePassed : arguments.mapM javaArgument? = some passed) :
    containsRepeatedField (arguments.map Argument.type) = false := by
  induction arguments generalizing passed with
  | nil => rfl
  | cons argument later ih =>
      obtain ⟨first, rest, isFirst, areRest, -⟩ := mapM_javaArgument?_cons arePassed
      have notRepeated : argument.type.isRepeatedField = false := by
        cases argument <;> first | rfl | cases isFirst
      rw [containsRepeatedField, List.map_cons, List.any_cons, notRepeated, Bool.false_or]
      exact ih areRest

/-- The generated `write` for API level Q, if it compiles, delivers the record of a message on a
newer device, and the payload that it writes on a device with Q holds the same id and values
exactly when no attribution chain has more than 255 nodes. -/
theorem qBranches_agree_iff (descriptor : AtomDescriptor) (moduleName : String)
    (atoms : Atoms) (accepted : collateAtoms descriptor moduleName {} = (0, atoms))
    (constants : DistinctConstants atoms) (atomField : AtomFieldDescriptor)
    (selected : atomField ∈ selectedAtoms descriptor moduleName) (atom : Descriptor)
    (type : atomField.type = .message atom) (decl : AtomDecl)
    (member : decl ∈ elements atoms.decls) (code : decl.code = atomField.number)
    (environment : Environment) (newer : environment.sdkInt > apiQ)
    (declares : environment.platform.DeclaresAnnotations "StatsLog.")
    (compiles : Logger.java.Compiles { environment with minApiLevel := apiQ } atoms decl)
    (message : MessageValue) (fits : Fits message atom) (keeps : KeepsStates atom)
    (qLogger : QLogger) (method : QSchema.Method)
    (generated : Generates descriptor moduleName decl.signature qLogger method)
    (passed : List QSchema.Argument)
    (arePassed : (callArguments atom message).mapM javaArgument? = some passed)
    (elapsedRealtime : BitVec 64) (atomId : BitVec 32) (isCode : atomId.toInt = decl.code)
    (needed : Int) (machine : Machine)
    (reached : qLogger.write .wrapping method elapsedRealtime atomId passed =
      .allocated needed (.ok machine)) :
    (deliver { environment with minApiLevel := apiQ } atoms decl (callArguments atom message)
        .java).bind Delivery.record =
          some (view environment (recordOf atomField atom message) .java) ∧
      (readPayload decl.signature machine.payload =
          some (payloadView elapsedRealtime (recordOf atomField atom message)) ↔
        ∀ argument ∈ passed, argument.ShortChain) := by
  obtain ⟨registration, rfl, rfl, rfl⟩ :=
    exists_registration_of_code accepted selected type member code
  have typed := callArguments_types fits
  constructor
  · have notRepeated := containsRepeatedField_eq_false arePassed
    rw [typed] at notRepeated
    exact deliver_java_record accepted constants member fits keeps declares compiles
      (.inr (.inr notRepeated)) fun _ _ => newer
  · have isPayload := readPayload_iff
      (generated.takes ((javaArguments_types arePassed).trans typed)) arePassed reached
    rw [typed, isCode, registration.decl_code, callArguments, List.map_map] at isPayload
    rw [← isPayload, payloadView, recordOf, List.map_map]
    rfl

/-- The field of the state atom of `wakelockDescriptor`. -/
def lockField : AtomFieldDescriptor where
  name := "wakelock_state_changed"
  number := 10
  type := .message wakelockStateChanged
  options := { truncateTimestamp := some true }

/-- A message for the state atom. -/
def lockMessage : MessageValue
  | 1 => .attributionChain [1000] ["tag"]
  | 2 => .string "lock"
  | _ => .int 1

/-- What a caller in Java passes for the message. -/
def lockArguments : List QSchema.Argument :=
  [.attributionChain (some [1000]) (some [some (utf16 "tag")]), .string (some (utf16 "lock")),
    .int 1]

/-- What `declaredEnvironment` declares, around a class for Q on a device after Q. -/
def newerEnvironment : Environment :=
  { declaredEnvironment with sdkInt := apiR, minApiLevel := apiQ }

theorem declares_newerEnvironment (atoms : Atoms) (decl : AtomDecl) :
    newerEnvironment.Declares atoms decl :=
  let declares := declares_declaredEnvironment atoms decl
  ⟨declares.native, declares.java, declares.vendor, declares.distinct⟩

theorem qBranches_agree_iff_wakelock :
    ∃ needed machine, QSchema.wakelockQLogger.write .wrapping QSchema.wakelockMethod 7 10
        lockArguments = .allocated needed (.ok machine) ∧
      (deliver newerEnvironment wakelockAtoms wakelockDecl
        (callArguments wakelockStateChanged lockMessage) .java).bind Delivery.record =
          some (view newerEnvironment (recordOf lockField wakelockStateChanged lockMessage)
            .java) ∧
      (readPayload wakelockDecl.signature machine.payload =
          some (payloadView 7 (recordOf lockField wakelockStateChanged lockMessage)) ↔
        ∀ argument ∈ lockArguments, argument.ShortChain) := by
  have isSignature : wakelockDecl.signature = [.attributionChain, .string, .int] := by decide
  have takes : QSchema.Takes QSchema.wakelockQLogger QSchema.wakelockMethod lockArguments :=
    QSchema.generates_wakelockMethod.takes rfl
  have sameLengths : ∀ argument ∈ lockArguments, argument.SameLengths := by
    simp [lockArguments, QSchema.Argument.SameLengths]
  have accepted : collateAtoms wakelockDescriptor defaultModuleName {} = (0, wakelockAtoms) :=
    Prod.ext (by decide) rfl
  have supports : Logger.java.Supports newerEnvironment.minApiLevel wakelockDecl :=
    .inr (.inr (by decide))
  have compiles : Logger.java.Compiles newerEnvironment wakelockAtoms wakelockDecl := by
    apply (Logger.compiles_iff accepted (by decide) mem_wakelockDecl
      (declares_newerEnvironment _ _) _ supports).mpr
    exact Logger.compilable_of_unrestricted accepted mem_wakelockDecl (by decide)
      (not_sharesRestricted (by decide)) _ supports (fun isRust => absurd isRust (by decide))
      fun isVendor => absurd isVendor (by decide)
  obtain ⟨machine, reached⟩ := takes.exists_ok .wrapping 7 10 rfl sameLengths (by decide)
  exact ⟨_, machine, reached, qBranches_agree_iff wakelockDescriptor defaultModuleName
    wakelockAtoms accepted (by decide) lockField List.mem_cons_self wakelockStateChanged rfl
    wakelockDecl mem_wakelockDecl (by decide) newerEnvironment (by decide)
    (declares_newerEnvironment wakelockAtoms wakelockDecl).java compiles lockMessage (by decide)
    (by decide) QSchema.wakelockQLogger QSchema.wakelockMethod
    (isSignature ▸ QSchema.generates_wakelockMethod) lockArguments rfl 7 10 (by decide) _
    machine reached⟩

end StatsLogApiGen.Record
