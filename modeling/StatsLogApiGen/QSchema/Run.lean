import StatsLogApiGen.Format.Buffer
import StatsLogApiGen.Format.Item
import StatsLogApiGen.QSchema.Writer

/-!
# Running a Q-schema method

What the generated `QLogger.write` does with its arguments.  Lengths and positions
are Java ints, computed by a given arithmetic.
-/

namespace StatsLogApiGen.QSchema

open StatsLogApiGen.Format
open StatsLogApiGen.Collation
open StatsLogApiGen.Writer

/-! ## Java values -/

/-- A Java string: a sequence of UTF-16 units. -/
abbrev JavaString := List (BitVec 16)

def isHighSurrogate (unit : BitVec 16) : Bool :=
  0xD800 ≤ unit.toNat && unit.toNat ≤ 0xDBFF

def isLowSurrogate (unit : BitVec 16) : Bool :=
  0xDC00 ≤ unit.toNat && unit.toNat ≤ 0xDFFF

/-- The UTF-8 bytes of a code point. -/
def utf8Bytes (codePoint : Nat) : List Byte :=
  if codePoint < 0x80 then
    [BitVec.ofNat 8 codePoint]
  else if codePoint < 0x800 then
    [BitVec.ofNat 8 (0xC0 + codePoint / 64), BitVec.ofNat 8 (0x80 + codePoint % 64)]
  else if codePoint < 0x10000 then
    [BitVec.ofNat 8 (0xE0 + codePoint / 4096),
      BitVec.ofNat 8 (0x80 + codePoint / 64 % 64), BitVec.ofNat 8 (0x80 + codePoint % 64)]
  else
    [BitVec.ofNat 8 (0xF0 + codePoint / 262144), BitVec.ofNat 8 (0x80 + codePoint / 4096 % 64),
      BitVec.ofNat 8 (0x80 + codePoint / 64 % 64), BitVec.ofNat 8 (0x80 + codePoint % 64)]

/-- The bytes of a unit that is no part of a pair.  A lone surrogate is replaced by a
question mark. -/
def unitBytes (unit : BitVec 16) : List Byte :=
  if isHighSurrogate unit || isLowSurrogate unit then [0x3F] else utf8Bytes unit.toNat

/-- `String.getBytes(StandardCharsets.UTF_8)`. -/
def getBytes : JavaString → List Byte
  | [] => []
  | [unit] => unitBytes unit
  | unit :: next :: rest =>
      if isHighSurrogate unit && isLowSurrogate next then
        utf8Bytes (0x10000 + (unit.toNat - 0xD800) * 1024 + (next.toNat - 0xDC00)) ++
          getBytes rest
      else
        unitBytes unit ++ getBytes (next :: rest)

/-- `Float.floatToIntBits`: all NaNs have the same bits. -/
def floatToIntBits (bits : BitVec 32) : BitVec 32 :=
  if bits.extractLsb' 23 8 = 0xFF ∧ bits.extractLsb' 0 23 ≠ 0 then 0x7FC00000 else bits

/-- A value of the types that Q-schema methods take, and the numbers they compute
from lengths. -/
inductive JavaValue where
  | boolean (value : Bool)
  | int (value : BitVec 32)
  | long (value : BitVec 64)
  | float (bits : BitVec 32)
  | string (value : Option JavaString)
  | byteArray (bytes : Option (List Byte))
  | intArray (values : Option (List (BitVec 32)))
  | stringArray (values : Option (List (Option JavaString)))
  | size (value : Int)
  deriving DecidableEq, Repr

/-- What a caller passes for one entry of a signature.  Strings, arrays and the
elements of an array of strings may be null. -/
inductive Argument where
  | boolean (value : Bool)
  | int (value : BitVec 32)
  | long (value : BitVec 64)
  | float (bits : BitVec 32)
  | string (value : Option JavaString)
  | byteArray (bytes : Option (List Byte))
  | attributionChain (uids : Option (List (BitVec 32))) (tags : Option (List (Option JavaString)))
  deriving DecidableEq, Repr

namespace Argument

/-- The entry of a signature that takes the argument. -/
def type : Argument → JavaType
  | .boolean _ => .boolean
  | .int _ => .int
  | .long _ => .long
  | .float _ => .float
  | .string _ => .string
  | .byteArray _ => .byteArray
  | .attributionChain .. => .attributionChain

/-- The values that are passed for the argument. -/
def values : Argument → List JavaValue
  | .boolean value => [.boolean value]
  | .int value => [.int value]
  | .long value => [.long value]
  | .float bits => [.float bits]
  | .string value => [.string value]
  | .byteArray bytes => [.byteArray bytes]
  | .attributionChain uids tags => [.intArray uids, .stringArray tags]

end Argument

/-! ## Variables -/

/-- The variables of a running method apart from `needed`, `buff` and `pos`. -/
inductive Local where
  | parameter (name : Variable)
  | argBytes (argIndex : Int)
  | attrSize
  deriving DecidableEq, Repr

abbrev Environment := Local → Option JavaValue

/-- Assign to a variable. -/
def Environment.assign (env : Environment) (name : Local) (value : JavaValue) : Environment :=
  fun other => if other = name then some value else env other

/-- The variables at the start of a call. -/
def Environment.ofCall (parameters : List Parameter) (values : List JavaValue) : Environment
  | .parameter name => ((parameters.map Parameter.name).zip values).lookup name
  | _ => none

/-! ## The size pass -/

/-- Why a method ends before it allocates its buffer. -/
inductive Halt where
  | returns
  | stuck
  deriving DecidableEq, Repr

structure SizeState where
  env : Environment
  needed : Int

/-- The bytes of a string, where null counts as the empty string. -/
def bytesOf (value : Option JavaString) : List Byte :=
  getBytes (value.getD [])

/-- The size of an attribution chain. -/
def attrSizeOf (arith : Arithmetic) (tags : List (Option JavaString)) : Int :=
  tags.foldl (fun attrSize tag =>
    arith.norm (attrSize + arith.norm (listTypeOverhead + intTypeSize + stringTypeOverhead +
      (bytesOf tag).length))) listTypeOverhead

/-- One statement of the size pass. -/
def addSize (arith : Arithmetic) (state : SizeState) : SizeStatement → Except Halt SizeState
  | .int => .ok { state with needed := arith.norm (state.needed + intTypeSize) }
  | .long => .ok { state with needed := arith.norm (state.needed + longTypeSize) }
  | .string argIndex =>
      match state.env (.parameter (.arg argIndex)) with
      | some (.string value) =>
          let env := state.env.assign (.parameter (.arg argIndex))
            (.string (some (value.getD [])))
          .ok
            { env := env.assign (.argBytes argIndex) (.byteArray (some (bytesOf value)))
              needed := arith.norm (state.needed +
                arith.norm (stringTypeOverhead + (bytesOf value).length)) }
      | _ => .error .stuck
  | .byteArray argIndex =>
      match state.env (.parameter (.arg argIndex)) with
      | some (.byteArray value) =>
          let bytes := value.getD []
          .ok
            { env := state.env.assign (.parameter (.arg argIndex)) (.byteArray (some bytes))
              needed := arith.norm (state.needed +
                arith.norm (stringTypeOverhead + bytes.length)) }
      | _ => .error .stuck
  | .attributionChain uidName tagName =>
      match state.env (.parameter (.chain uidName)), state.env (.parameter (.chain tagName)) with
      | some (.intArray uidsOrNull), some (.stringArray tagsOrNull) =>
          let uids := uidsOrNull.getD []
          let tags := tagsOrNull.getD []
          let env := (state.env.assign (.parameter (.chain uidName))
            (.intArray (some uids))).assign (.parameter (.chain tagName))
              (.stringArray (some tags))
          if uids.length ≠ tags.length then
            .error .returns
          else
            let attrSize := attrSizeOf arith tags
            .ok
              { env := env.assign .attrSize (.size attrSize)
                needed := arith.norm (state.needed + attrSize) }
      | _, _ => .error .stuck

/-! ## The write pass -/

/-- Why a method fails once it has its buffer. -/
inductive Failure where
  | indexOutOfBounds
  | stuck
  deriving DecidableEq, Repr

/-- The buffer and the position of the next item. -/
structure Cursor where
  buff : Buffer Byte
  pos : Int

def orThrow : Option (Buffer Byte) → Except Failure (Buffer Byte)
  | some buff => .ok buff
  | none => .error .indexOutOfBounds

/-- The assignments of `copyInt`. -/
def copyInt (arith : Arithmetic) (pos : Int) (val : BitVec 32) : List (Int × Byte) :=
  [(pos, val.setWidth 8),
    (arith.norm (pos + 1), (val.sshiftRight 8).setWidth 8),
    (arith.norm (pos + 2), (val.sshiftRight 16).setWidth 8),
    (arith.norm (pos + 3), (val.sshiftRight 24).setWidth 8)]

/-- The assignments of `copyLong`. -/
def copyLong (arith : Arithmetic) (pos : Int) (val : BitVec 64) : List (Int × Byte) :=
  [(pos, val.setWidth 8),
    (arith.norm (pos + 1), (val.sshiftRight 8).setWidth 8),
    (arith.norm (pos + 2), (val.sshiftRight 16).setWidth 8),
    (arith.norm (pos + 3), (val.sshiftRight 24).setWidth 8),
    (arith.norm (pos + 4), (val.sshiftRight 32).setWidth 8),
    (arith.norm (pos + 5), (val.sshiftRight 40).setWidth 8),
    (arith.norm (pos + 6), (val.sshiftRight 48).setWidth 8),
    (arith.norm (pos + 7), (val.sshiftRight 56).setWidth 8)]

/-- The assignments of `copyFloat`. -/
def copyFloat (arith : Arithmetic) (pos : Int) (val : BitVec 32) : List (Int × Byte) :=
  copyInt arith pos (floatToIntBits val)

section Statements

variable (arith : Arithmetic)

/-- An operation on the buffer, after which the position moves on. -/
def advance (assign : Buffer Byte → Int → Option (Buffer Byte)) (step : Int) (cursor : Cursor) :
    Except Failure Cursor :=
  (orThrow (assign cursor.buff cursor.pos)).map fun buff =>
    { buff, pos := arith.norm (cursor.pos + step) }

/-- Assignments to elements of the buffer. -/
def put (writes : Int → List (Int × Byte)) (size : Int) : Cursor → Except Failure Cursor :=
  advance arith (fun buff pos => buff.storeAll (writes pos)) size

/-- The assignments for a list begin. -/
def listWrites (count : Byte) (pos : Int) : List (Int × Byte) :=
  [(pos, listType), (arith.norm (pos + 1), count)]

def intWrites (val : BitVec 32) (pos : Int) : List (Int × Byte) :=
  (pos, intType) :: copyInt arith (arith.norm (pos + 1)) val

def floatWrites (val : BitVec 32) (pos : Int) : List (Int × Byte) :=
  (pos, floatType) :: copyFloat arith (arith.norm (pos + 1)) val

def longWrites (val : BitVec 64) (pos : Int) : List (Int × Byte) :=
  (pos, longType) :: copyLong arith (arith.norm (pos + 1)) val

/-- The assignments for the type and the length of a string. -/
def stringWrites (length : Nat) (pos : Int) : List (Int × Byte) :=
  (pos, stringType) :: copyInt arith (arith.norm (pos + 1)) (BitVec.ofNat 32 length)

/-- The statements that write a byte array: its type, its length and a call of
`System.arraycopy`. -/
def putBytes (bytes : List Byte) : Cursor → Except Failure Cursor :=
  advance arith
    (fun buff pos => (buff.storeAll (stringWrites arith bytes.length pos)).bind fun stored =>
      stored.copy (arith.norm (pos + stringTypeOverhead)) bytes)
    (arith.norm (stringTypeOverhead + bytes.length))

/-- The loop of `writeAttributionChain` from the node `i` on. -/
def writeNodes (nodeCount : Nat) (uids : List (BitVec 32)) :
    Nat → List (Option JavaString) → Cursor → Except Failure Cursor
  | _, [], cursor => .ok cursor
  | i, tag :: rest, cursor =>
      (put arith (listWrites arith (BitVec.ofNat 8 nodeCount)) listTypeOverhead cursor).bind
        fun begun =>
          match uids[i]? with
          | some uid =>
              (put arith (intWrites arith uid) intTypeSize begun).bind fun afterUid =>
                (putBytes arith (bytesOf tag) afterUid).bind
                  (writeNodes nodeCount uids (i + 1) rest)
          | none => .error .indexOutOfBounds

/-- `writeAttributionChain`. -/
def writeAttributionChain (nodeCount : Nat) (uids : List (BitVec 32))
    (tags : List (Option JavaString)) (cursor : Cursor) : Except Failure Cursor :=
  (put arith (listWrites arith (BitVec.ofNat 8 tags.length)) listTypeOverhead cursor).bind
    (writeNodes arith nodeCount uids 0 tags)

end Statements

/-- A call of `writeAttributionChain`: the positions where it starts and stops, and the
size that its caller has computed. -/
structure HelperCall where
  start : Int
  stop : Int
  attrSize : Int
  deriving DecidableEq, Repr

/-- The state of the write pass. -/
structure Machine where
  cursor : Cursor
  helperCalls : List HelperCall

/-- What is passed to `StatsLog.writeRaw`: the bytes before the position. -/
def Machine.payload (machine : Machine) : List Byte :=
  machine.cursor.buff.cells.take machine.cursor.pos.toNat

/-- An action on the cursor alone. -/
def onCursor (action : Cursor → Except Failure Cursor) (machine : Machine) :
    Except Failure Machine :=
  (action machine.cursor).map fun cursor => { machine with cursor }

/-- One statement of the write pass. -/
def perform (arith : Arithmetic) (qLogger : QLogger) (env : Environment)
    (statement : WriteStatement) (machine : Machine) : Except Failure Machine :=
  match statement with
  | .boolean argIndex =>
      match env (.parameter (.arg argIndex)) with
      | some (.boolean value) =>
          onCursor (put arith (intWrites arith (if value then 1 else 0)) intTypeSize) machine
      | _ => .error .stuck
  | .int argIndex =>
      match env (.parameter (.arg argIndex)) with
      | some (.int value) => onCursor (put arith (intWrites arith value) intTypeSize) machine
      | _ => .error .stuck
  | .float argIndex =>
      match env (.parameter (.arg argIndex)), decide (Helper.copyFloat ∈ qLogger.helpers) with
      | some (.float bits), true =>
          onCursor (put arith (floatWrites arith bits) floatTypeSize) machine
      | _, _ => .error .stuck
  | .long argIndex =>
      match env (.parameter (.arg argIndex)) with
      | some (.long value) => onCursor (put arith (longWrites arith value) longTypeSize) machine
      | _ => .error .stuck
  | .string argIndex =>
      match env (.argBytes argIndex) with
      | some (.byteArray (some bytes)) => onCursor (putBytes arith bytes) machine
      | _ => .error .stuck
  | .byteArray argIndex =>
      match env (.parameter (.arg argIndex)) with
      | some (.byteArray (some bytes)) => onCursor (putBytes arith bytes) machine
      | _ => .error .stuck
  | .attributionChain uidName tagName =>
      match env (.parameter (.chain uidName)), env (.parameter (.chain tagName)),
        env .attrSize, decide (Helper.writeAttributionChain ∈ qLogger.helpers) with
      | some (.intArray (some uids)), some (.stringArray (some tags)),
        some (.size attrSize), true =>
          (writeAttributionChain arith qLogger.nodeCount uids tags machine.cursor).map
            fun after =>
              { cursor := { buff := after.buff, pos := arith.norm (machine.cursor.pos + attrSize) }
                helperCalls := machine.helperCalls ++
                  [⟨machine.cursor.pos, after.pos, attrSize⟩] }
      | _, _, _, _ => .error .stuck

/-! ## The method -/

/-- What becomes of a call. -/
inductive Outcome where
  | doesNotCompile
  | stuck
  | returned
  | negativeArraySize
  | allocated (needed : Int) (result : Except Failure Machine)

/-- Java assigns a constant to a byte only if it is one. -/
def isByteLiteral (count : Nat) : Bool :=
  count ≤ 127

/-- The statements from the allocation of the buffer to the call of
`StatsLog.writeRaw`. -/
def fillFrom (arith : Arithmetic) (qLogger : QLogger) (method : Method)
    (elapsedRealtime : BitVec 64) (env : Environment) (machine : Machine) :
    Except Failure Machine :=
  (onCursor (put arith (listWrites arith (BitVec.ofNat 8 method.count)) listTypeOverhead)
    machine).bind fun begun =>
      (onCursor (put arith (longWrites arith elapsedRealtime) longTypeSize) begun).bind
        fun afterTimestamp =>
          match env (.parameter .code) with
          | some (.int code) =>
              (onCursor (put arith (intWrites arith code) intTypeSize) afterTimestamp).bind
                fun afterCode => method.writes.foldlM
                  (fun machine statement => perform arith qLogger env statement machine)
                  afterCode
          | _ => .error .stuck

/-- A new buffer. -/
def Machine.start (needed : Int) : Machine :=
  ⟨⟨.allocate needed.toNat 0, 0⟩, []⟩

/-- A call of a generated `write` method. -/
def QLogger.write (qLogger : QLogger) (arith : Arithmetic) (method : Method)
    (elapsedRealtime : BitVec 64) (code : BitVec 32) (arguments : List Argument) : Outcome :=
  if isByteLiteral method.count && isByteLiteral qLogger.nodeCount then
    let env := Environment.ofCall method.parameters
      (.int code :: arguments.flatMap Argument.values)
    match method.sizes.foldlM (addSize arith)
      { env, needed := arith.norm (listTypeOverhead + longTypeSize + intTypeSize) } with
    | .error .returns => .returned
    | .error .stuck => .stuck
    | .ok state =>
        if state.needed > maxEventPayload then
          .returned
        else if state.needed < 0 then
          .negativeArraySize
        else
          .allocated state.needed
            (fillFrom arith qLogger method elapsedRealtime state.env (.start state.needed))
  else
    .doesNotCompile

end StatsLogApiGen.QSchema
