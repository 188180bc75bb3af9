import StatsLogApiGen.Collation.Signature
import StatsLogApiGen.Format.Float
import StatsLogApiGen.Program.Delivery
import StatsLogApiGen.Program.Guarded
import StatsLogApiGen.Writer.Utils

/-!
# Events and frames

What a generated logging method does is a sequence of operations on the event it
builds.  This file gives these operations, the arguments of a call, and the
frame in which a generated body reads its parameters and the constants around
it.
-/

namespace StatsLogApiGen.Writer

open StatsLogApiGen.Container
open StatsLogApiGen.Proto
open StatsLogApiGen.Collation
open StatsLogApiGen.Program

/-! ## Arguments -/

/-- What a caller passes for one entry of a signature.  A float is given by its
bits. -/
inductive Argument where
  | attributionChain (uids : List (BitVec 32)) (tags : List String)
  | boolean (value : Bool)
  | int (value : BitVec 32)
  | long (value : BitVec 64)
  | float (bits : BitVec 32)
  | string (value : String)
  | byteArray (bytes : List (BitVec 8))
  | booleanArray (values : List Bool)
  | intArray (values : List (BitVec 32))
  | longArray (values : List (BitVec 64))
  | floatArray (values : List (BitVec 32))
  | stringArray (values : List String)
  deriving DecidableEq, Repr

namespace Argument

/-- The entry of a signature that takes the argument. -/
def type : Argument → JavaType
  | .attributionChain .. => .attributionChain
  | .boolean _ => .boolean
  | .int _ => .int
  | .long _ => .long
  | .float _ => .float
  | .string _ => .string
  | .byteArray _ => .byteArray
  | .booleanArray _ => .booleanArray
  | .intArray _ => .intArray
  | .longArray _ => .longArray
  | .floatArray _ => .floatArray
  | .stringArray _ => .stringArray

/-- Whether `argument == state` holds in a generated body.  C++ promotes a `bool`, and the
state is converted to the type of a float.  A `char const*` that is no null pointer is not
`0`. -/
def equals : Argument → Int → Bool
  | .boolean value, state => (if value then 1 else 0) = state
  | .int value, state => value.toInt = state
  | .long value, state => value.toInt = state
  | .float bits, state => Format.floatIs bits (Format.roundToFloat state)
  | _, _ => false

end Argument

/-- The types whose values are compared with a state. -/
def IsInteger : JavaType → Prop
  | .int | .long | .enum => True
  | _ => False

instance : DecidablePred IsInteger := fun type => by
  cases type <;> first | exact .isTrue trivial | exact .isFalse id

/-- The types that C++ compares with a number: arithmetic types, and a `char const*` with the
literal `0`.  Fields that are repeated have no states. -/
def cppComparable : JavaType → Int → Bool
  | .boolean, _ | .int, _ | .enum, _ | .long, _ | .float, _ => true
  | .string, state => state = 0
  | _, _ => false

/-- The types that Java compares with a number. -/
def javaComparable : JavaType → Int → Bool
  | .int, _ | .enum, _ | .long, _ | .float, _ => true
  | _, _ => false

/-- The types that Rust compares with an integer: those of integers. -/
def rustComparable (type : JavaType) (_ : Int) : Bool :=
  decide (IsInteger type)

theorem rustComparable_iff {type : JavaType} {state : Int} :
    rustComparable type state = true ↔ IsInteger type :=
  decide_eq_true_iff

theorem cppComparable_of_isInteger {type : JavaType} (isInteger : IsInteger type) (state : Int) :
    cppComparable type state = true := by
  cases type <;> first | rfl | exact absurd isInteger id

theorem javaComparable_of_isInteger {type : JavaType} (isInteger : IsInteger type)
    (state : Int) : javaComparable type state = true := by
  cases type <;> first | rfl | exact absurd isInteger id

/-! ## Operations -/

/-- An operation on the event under construction.  The write of an attribution
chain is one operation on its two arrays. -/
inductive EventOp where
  | setAtomId (atomId : Int)
  | write (argument : Argument)
  | addAnnotationBool (annotationId : Int) (value : Bool)
  | addAnnotationInt32 (annotationId : Int) (value : Int)
  deriving DecidableEq, Repr

/-! ## Frames -/

/-- The value of a variable. -/
inductive Value where
  | null
  | code (atomId : Int)
  | argument (argument : Argument)
  | size (count : Nat)
  | eventList
  deriving DecidableEq, Repr

/-- The variables of a running method, the constants it can name, and what its language
compares with a number.  The constants of atoms are apart from the others. -/
structure Frame where
  bindings : List (Variable × Value)
  atomConstants : List (String × Int)
  constants : String → Option Int
  comparable : JavaType → Int → Bool

/-- Why a generated body cannot be executed. -/
inductive Stuck where
  | unbound (name : Variable)
  | undeclared (constant : String)
  | mistyped
  | noEvent
  deriving DecidableEq, Repr

/-- A condition that a generated body tests. -/
inductive Condition where
  | codeIs (atomConstant : String)
  | argIs (argIndex : Int) (state : Int)
  deriving DecidableEq, Repr

/-- A number in generated code. -/
inductive Operand where
  | literal (value : Int)
  | constant (name : String)
  deriving DecidableEq, Repr

namespace Frame

def value (frame : Frame) (name : Variable) : Except Stuck Value :=
  match frame.bindings.lookup name with
  | some value => .ok value
  | none => .error (.unbound name)

def argument (frame : Frame) (name : Variable) : Except Stuck Argument :=
  (frame.value name).bind fun
    | .argument argument => .ok argument
    | _ => .error .mistyped

/-- A variable of a type that the called method takes. -/
def argumentOf (frame : Frame) (type : JavaType) (name : Variable) : Except Stuck Argument :=
  (frame.argument name).bind fun argument =>
    if argument.type = type then .ok argument else .error .mistyped

/-- The comparison of a variable with a number. -/
def equals (frame : Frame) (name : Variable) (state : Int) : Except Stuck Bool :=
  (frame.argument name).bind fun argument =>
    if frame.comparable argument.type state then .ok (argument.equals state)
    else .error .mistyped

def size (frame : Frame) (name : Variable) : Except Stuck Nat :=
  (frame.value name).bind fun
    | .size count => .ok count
    | _ => .error .mistyped

def code (frame : Frame) : Except Stuck Int :=
  (frame.value .code).bind fun
    | .code atomId => .ok atomId
    | _ => .error .mistyped

def constant (frame : Frame) (name : String) : Except Stuck Int :=
  match frame.constants name with
  | some value => .ok value
  | none => .error (.undeclared name)

def operand (frame : Frame) : Operand → Except Stuck Int
  | .literal value => .ok value
  | .constant name => frame.constant name

def atomConstant (frame : Frame) (name : String) : Except Stuck Int :=
  match frame.atomConstants.lookup name with
  | some value => .ok value
  | none => .error (.undeclared name)

def holds (frame : Frame) : Condition → Except Stuck Bool
  | .codeIs name =>
      (frame.atomConstant name).bind fun atomId =>
        frame.code.map fun code => decide (atomId = code)
  | .argIs argIndex state => frame.equals (.arg argIndex) state

variable {frame : Frame} {name : Variable}

@[simp]
theorem value_eq {value : Value} (bound : frame.bindings.lookup name = some value) :
    frame.value name = .ok value := by
  rw [Frame.value, bound]

@[simp]
theorem argument_eq {argument : Argument}
    (bound : frame.bindings.lookup name = some (.argument argument)) :
    frame.argument name = .ok argument := by
  rw [Frame.argument, value_eq bound]
  rfl

theorem argumentOf_eq {argument : Argument}
    (bound : frame.bindings.lookup name = some (.argument argument)) :
    frame.argumentOf argument.type name = .ok argument := by
  rw [argumentOf, argument_eq bound]
  exact if_pos rfl

theorem size_eq {count : Nat} (bound : frame.bindings.lookup name = some (.size count)) :
    frame.size name = .ok count := by
  rw [Frame.size, value_eq bound]
  rfl

@[simp]
theorem code_eq {atomId : Int} (bound : frame.bindings.lookup .code = some (.code atomId)) :
    frame.code = .ok atomId := by
  rw [Frame.code, value_eq bound]
  rfl

theorem constant_eq {constant : String} {value : Int}
    (declared : frame.constants constant = some value) :
    frame.constant constant = .ok value := by
  rw [Frame.constant, declared]

theorem holds_codeIs {atomConstant : String} {atomId code : Int}
    (declared : frame.atomConstants.lookup atomConstant = some atomId)
    (bound : frame.bindings.lookup .code = some (.code code)) :
    frame.holds (.codeIs atomConstant) = .ok (decide (atomId = code)) := by
  rw [holds, Frame.atomConstant, declared, code_eq bound]
  rfl

theorem holds_argIs {argIndex state : Int} {argument : Argument}
    (bound : frame.bindings.lookup (.arg argIndex) = some (.argument argument))
    (legal : frame.comparable argument.type state = true) :
    frame.holds (.argIs argIndex state) = .ok (argument.equals state) := by
  rw [holds, Frame.equals, argument_eq bound]
  exact if_pos legal

end Frame

/-- The constants that the platform declares. -/
abbrev Platform := String → Option Int

/-- Under a prefix the platform has the annotation ids and the named restriction categories,
with the numbers that the generator uses. -/
structure Platform.DeclaresAnnotations (platform : Platform) (namePrefix : String) : Prop where
  annotationId : ∀ annotationId : AnnotationId,
    platform (namePrefix ++ (annotationConstantNamePrefix ++ annotationIdName annotationId)) =
      some annotationId.value
  category : ∀ category : RestrictionCategory,
    platform (namePrefix ++ getRestrictionCategoryStr category.number) =
      if category = .unset then none else some category.number

/-- The categories that have a name. -/
def IsNamedCategory (category : Int) : Prop :=
  1 ≤ category ∧ category ≤ 4

theorem Platform.DeclaresAnnotations.named {platform : Platform} {namePrefix : String}
    (declares : platform.DeclaresAnnotations namePrefix) {category : Int}
    (named : IsNamedCategory category) :
    platform (namePrefix ++ getRestrictionCategoryStr category) = some category := by
  obtain ⟨first, last⟩ := named
  obtain rfl | rfl | rfl | rfl : category = 1 ∨ category = 2 ∨ category = 3 ∨ category = 4 := by
    omega
  · exact declares.category .diagnostic
  · exact declares.category .systemIntelligence
  · exact declares.category .authentication
  · exact declares.category .fraudAndAbuse

/-! ## Calls -/

/-- A way to pass arguments: the variables that a generated method declares for
one entry of a signature and the values that a caller passes for it. -/
structure Convention where
  names : Int → JavaType → List Variable
  values : Argument → List Value

/-- The variable of an argument, or of its length. -/
def Variable.argIndex? : Variable → Option Int
  | .arg argIndex => some argIndex
  | .argLength argIndex => some argIndex
  | _ => none

/-- The variables that stand for arguments. -/
def Variable.isArgument : Variable → Bool
  | .arg _ | .argLength _ | .chain _ | .chainLength _ => true
  | .code | .workSource | .pulledData => false

/-- Variables and values match, and the variables tell which argument they
belong to. -/
structure Convention.Valid (convention : Convention) : Prop where
  lengths : ∀ argIndex argument,
    (convention.names argIndex argument.type).length = (convention.values argument).length
  distinct : ∀ argIndex type, (convention.names argIndex type).Nodup
  owner : ∀ argIndex type, type ≠ .attributionChain →
    ∀ name ∈ convention.names argIndex type, name.argIndex? = some argIndex
  chain : ∀ argIndex, ∀ name ∈ convention.names argIndex .attributionChain,
    name.argIndex? = none ∧ name.isArgument
  argument : ∀ argIndex argument, argument.type ≠ .attributionChain →
    (.arg argIndex, .argument argument) ∈
      (convention.names argIndex argument.type).zip (convention.values argument)

namespace Convention

/-- The variables of the arguments from `argIndex` on. -/
def namesFrom (convention : Convention) : Int → Signature → List Variable
  | _, [] => []
  | argIndex, type :: rest =>
      convention.names argIndex type ++ convention.namesFrom (argIndex + 1) rest

/-- A call binds the variables to the values by position. -/
def bind (convention : Convention) (code : Int) (signature : Signature)
    (arguments : List Argument) : List (Variable × Value) :=
  (.code :: convention.namesFrom 1 signature).zip
    (.code code :: arguments.flatMap convention.values)

/-- The variables of an argument have its values. -/
def Binds (convention : Convention) (bindings : List (Variable × Value)) (argIndex : Int)
    (argument : Argument) : Prop :=
  ∀ pair ∈ (convention.names argIndex argument.type).zip (convention.values argument),
    bindings.lookup pair.1 = some pair.2

variable {convention : Convention}

theorem namesFrom_owner (valid : convention.Valid) {argIndex : Int} {signature : Signature}
    (noChain : ∀ type ∈ signature, type ≠ .attributionChain) :
    ∀ name ∈ convention.namesFrom argIndex signature,
      ∃ owner, name.argIndex? = some owner ∧ argIndex ≤ owner := by
  induction signature generalizing argIndex with
  | nil => simp [namesFrom]
  | cons type rest ih =>
      intro name member
      rcases List.mem_append.mp member with first | later
      · exact ⟨argIndex, valid.owner argIndex type (noChain type List.mem_cons_self) name first,
          le_refl _⟩
      · obtain ⟨owner, ownerEq, after⟩ :=
          ih (fun type typeMem => noChain type (List.mem_cons_of_mem _ typeMem)) name later
        exact ⟨owner, ownerEq, by omega⟩

theorem nodup_namesFrom (valid : convention.Valid) {argIndex : Int} {signature : Signature}
    (noChain : ∀ type ∈ signature, type ≠ .attributionChain) :
    (convention.namesFrom argIndex signature).Nodup := by
  induction signature generalizing argIndex with
  | nil => exact List.nodup_nil
  | cons type rest ih =>
      have restNoChain : ∀ type ∈ rest, type ≠ .attributionChain :=
        fun type typeMem => noChain type (List.mem_cons_of_mem _ typeMem)
      rw [namesFrom, List.nodup_append']
      refine ⟨valid.distinct argIndex type, ih restNoChain, ?_⟩
      intro name first later
      have ownerEq := valid.owner argIndex type (noChain type List.mem_cons_self) name first
      obtain ⟨owner, laterEq, after⟩ := namesFrom_owner valid restNoChain name later
      rw [ownerEq, Option.some.injEq] at laterEq
      omega

/-- The variables of a method for an accepted signature are distinct. -/
theorem nodup_names (valid : convention.Valid) {signature : Signature}
    (accepted : AcceptedSignature signature) :
    (.code :: convention.namesFrom 1 signature).Nodup := by
  have noChain {types : Signature} (areArguments : ∀ type ∈ types, IsArgument type) :
      ∀ type ∈ types, type ≠ .attributionChain := by
    rintro type member rfl
    exact areArguments _ member
  obtain ⟨types, areArguments, rfl | rfl⟩ := accepted
  · rw [List.nodup_cons]
    refine ⟨?_, nodup_namesFrom valid (noChain areArguments)⟩
    intro member
    obtain ⟨owner, ownerEq, -⟩ := namesFrom_owner valid (noChain areArguments) _ member
    simp [Variable.argIndex?] at ownerEq
  · rw [namesFrom, List.nodup_cons, List.nodup_append', List.mem_append]
    refine ⟨?_, valid.distinct _ _, nodup_namesFrom valid (noChain areArguments), ?_⟩
    · rintro (first | later)
      · exact absurd (valid.chain 1 _ first).2 (by decide)
      · obtain ⟨owner, ownerEq, -⟩ := namesFrom_owner valid (noChain areArguments) _ later
        simp [Variable.argIndex?] at ownerEq
    · intro name first later
      obtain ⟨owner, ownerEq, -⟩ := namesFrom_owner valid (noChain areArguments) _ later
      rw [(valid.chain 1 name first).1] at ownerEq
      contradiction

theorem binds_of_mem (valid : convention.Valid) {bindings : List (Variable × Value)}
    (distinct : (bindings.map Prod.fst).Nodup) {argIndex : Int} {arguments : List Argument}
    (members : ∀ pair ∈ (convention.namesFrom argIndex (arguments.map Argument.type)).zip
      (arguments.flatMap convention.values), pair ∈ bindings)
    {index : Nat} {argument : Argument} (found : arguments[index]? = some argument) :
    convention.Binds bindings (argIndex + index) argument := by
  induction arguments generalizing argIndex index with
  | nil => simp at found
  | cons head rest ih =>
      rw [List.map_cons, namesFrom, List.flatMap_cons,
        List.zip_append (valid.lengths argIndex head)] at members
      cases index with
      | zero =>
          rw [List.getElem?_cons_zero, Option.some.injEq] at found
          subst found
          intro pair member
          apply lookup_eq_some_of_mem distinct
          apply members pair
          apply List.mem_append_left
          simpa using member
      | succ index =>
          have shift : argIndex + 1 + (index : Int) = argIndex + ((index + 1 : Nat) : Int) := by
            omega
          have restMembers : ∀ pair ∈ (convention.namesFrom (argIndex + 1)
              (rest.map Argument.type)).zip (rest.flatMap convention.values), pair ∈ bindings :=
            fun pair member => members pair (List.mem_append_right _ member)
          rw [← shift]
          exact ih restMembers (by simpa using found)

theorem isArgument_names (valid : convention.Valid) {argIndex : Int} {type : JavaType} :
    ∀ name ∈ convention.names argIndex type, name.isArgument := by
  intro name member
  by_cases isChain : type = .attributionChain
  · subst isChain
    exact (valid.chain argIndex name member).2
  · have owner := valid.owner argIndex type isChain name member
    cases name <;> first | rfl | simp [Variable.argIndex?] at owner

/-- A variable that is no argument does not hide one. -/
theorem Binds.cons (valid : convention.Valid) {bindings : List (Variable × Value)}
    {argIndex : Int} {argument : Argument} (binds : convention.Binds bindings argIndex argument)
    {name : Variable} (other : name.isArgument = false) (value : Value) :
    convention.Binds ((name, value) :: bindings) argIndex argument := by
  intro pair member
  have isArgument := isArgument_names valid pair.1 (List.of_mem_zip member).1
  have different : pair.1 ≠ name := by
    intro equal
    rw [equal, other] at isArgument
    contradiction
  rw [List.lookup_cons, beq_eq_false_iff_ne.mpr different]
  exact binds pair member

theorem length_namesFrom (valid : convention.Valid) (argIndex : Int)
    (arguments : List Argument) :
    (convention.namesFrom argIndex (arguments.map Argument.type)).length =
      (arguments.flatMap convention.values).length := by
  induction arguments generalizing argIndex with
  | nil => rfl
  | cons argument rest ih =>
      rw [List.map_cons, namesFrom, List.length_append, List.flatMap_cons, List.length_append,
        ih, valid.lengths]

section Accepted

variable {code : Int} {signature : Signature} {arguments : List Argument}

theorem nodup_bind (valid : convention.Valid) (accepted : AcceptedSignature signature)
    (typed : arguments.map Argument.type = signature) :
    ((convention.bind code signature arguments).map Prod.fst).Nodup := by
  subst typed
  rw [bind, List.map_fst_zip]
  · exact nodup_names valid accepted
  · simp [length_namesFrom valid]

theorem lookup_bind_code :
    (convention.bind code signature arguments).lookup .code = some (.code code) :=
  rfl

/-- A call of a method for an accepted signature binds every argument. -/
theorem bind_binds (valid : convention.Valid) (accepted : AcceptedSignature signature)
    (typed : arguments.map Argument.type = signature) {index : Nat} {argument : Argument}
    (found : arguments[index]? = some argument) :
    convention.Binds (convention.bind code signature arguments) (1 + index) argument := by
  apply binds_of_mem valid (nodup_bind valid accepted typed) _ found
  intro pair member
  rw [typed] at member
  exact List.mem_cons_of_mem _ member

end Accepted

end Convention

/-! ## The plain convention -/

/-- An attribution chain is passed as two arrays. -/
def plainValues : Argument → List Value
  | .attributionChain uids tags => [.argument (.intArray uids), .argument (.stringArray tags)]
  | argument => [.argument argument]

/-- One variable for every argument, and two for an attribution chain. -/
def plainConvention : Convention where
  names argIndex type :=
    if type = .attributionChain then
      attributionDecl.fields.map fun chainField => .chain chainField.name
    else
      [.arg argIndex]
  values := plainValues

theorem plainConvention_names_of_ne {type : JavaType} (argIndex : Int)
    (notChain : type ≠ .attributionChain) : plainConvention.names argIndex type = [.arg argIndex] :=
  if_neg notChain

theorem plainConvention_names_chain (argIndex : Int) :
    plainConvention.names argIndex .attributionChain = [.chain "uid", .chain "tag"] := by
  rfl

theorem plainConvention_valid : plainConvention.Valid where
  lengths argIndex argument := by
    cases argument <;> rfl
  distinct argIndex type := by
    by_cases isChain : type = .attributionChain
    · subst isChain
      rw [plainConvention_names_chain]
      decide
    · rw [plainConvention_names_of_ne argIndex isChain]
      simp
  owner argIndex type notChain := by
    rw [plainConvention_names_of_ne argIndex notChain]
    simp [Variable.argIndex?]
  chain argIndex := by
    rw [plainConvention_names_chain]
    simp [Variable.argIndex?, Variable.isArgument]
  argument argIndex argument notChain := by
    rw [plainConvention_names_of_ne argIndex notChain]
    cases argument <;> first | exact absurd rfl notChain | simp [plainConvention, plainValues]

/-- A chain is bound as two arrays. -/
theorem lookup_plainChain {bindings : List (Variable × Value)} {argIndex : Int}
    {uids : List (BitVec 32)} {tags : List String}
    (binds : plainConvention.Binds bindings argIndex (.attributionChain uids tags)) :
    bindings.lookup (.chain "uid") = some (.argument (.intArray uids)) ∧
      bindings.lookup (.chain "tag") = some (.argument (.stringArray tags)) := by
  have bound : ∀ pair ∈ [(Variable.chain "uid", Value.argument (.intArray uids)),
      (.chain "tag", .argument (.stringArray tags))],
      bindings.lookup pair.1 = some pair.2 := binds
  rw [List.forall_mem_cons, List.forall_mem_singleton] at bound
  exact bound

/-! ## Values that are passed to wrappers

The methods without a chain and the methods for work sources call other generated methods.
Their bodies are evaluated on the values of a call, in which the arguments after the chain
are opaque: a wrapper can only pass them on. -/

/-- A `WorkSource`: what `getUid` and `getPackageName` return for the indices below `size()`,
and the uids and tags of the chains in `getWorkChains()`, which may be null.  So may the
names. -/
structure WorkSource where
  flatUids : List (BitVec 32 × Option String)
  workChains : Option (List (List (BitVec 32) × List (Option String)))
  deriving DecidableEq, Repr

/-- A value that is passed to a generated method.  An argument has the type `α`. -/
inductive Passed (α : Type) where
  | code (atomId : Int)
  | argument (value : α)
  | length (count : Nat)
  | uid (uid : BitVec 32)
  | tag (tag : Option String)
  | uids (uids : List (BitVec 32))
  | tags (tags : List (Option String))
  | workSource (workSource : WorkSource)
  deriving DecidableEq, Repr

/-- A call of a generated method. -/
abbrev PassedCall (α : Type) := Invocation String String (Passed α)

/-- Variables with their values. -/
abbrev Bindings (α : Type) := List (Variable × Passed α)

/-- Variables that are bound under distinct names have their values. -/
theorem mapM_lookup_of_subset {α : Type} {scope pairs : Bindings α}
    (distinct : (scope.map Prod.fst).Nodup) (subset : pairs ⊆ scope) :
    (pairs.map Prod.fst).mapM (fun name => scope.lookup name) = some (pairs.map Prod.snd) :=
  mapM_eq_some_of_map (map_lookup_of_subset distinct subset)

end StatsLogApiGen.Writer
