import StatsLogApiGen.Main.ExitStatus
import StatsLogApiGen.Writer.Overloads

/-!
# Bootstrap atoms

A source for bootstrap processes reports values without annotations.  This file says for
which descriptors it can be generated, and what its methods report.
-/

namespace StatsLogApiGen.Main

open Std
open StatsLogApiGen.Container
open StatsLogApiGen.Proto
open StatsLogApiGen.Collation
open StatsLogApiGen.Writer

/-! ## Reports -/

/-- The union `StatsBootstrapAtomValue`.  A float is given by its bits. -/
inductive StatsBootstrapAtomValue where
  | boolValue (value : Bool)
  | intValue (value : BitVec 32)
  | longValue (value : BitVec 64)
  | floatValue (bits : BitVec 32)
  | stringValue (value : String)
  | bytesValue (bytes : List (BitVec 8))
  deriving DecidableEq, Repr

/-- A `StatsBootstrapAtom`. -/
structure StatsBootstrapAtom where
  atomId : Int
  values : List StatsBootstrapAtomValue
  deriving DecidableEq, Repr

/-- The value that carries an argument; there is none for a chain or an array. -/
def bootstrapValueOf : Argument → Option StatsBootstrapAtomValue
  | .boolean value => some (.boolValue value)
  | .int value => some (.intValue value)
  | .long value => some (.longValue value)
  | .float bits => some (.floatValue bits)
  | .string value => some (.stringValue value)
  | .byteArray bytes => some (.bytesValue bytes)
  | _ => none

/-- The value that a statement pushes. -/
def pushValue (frame : Frame) : Native.BootstrapValue → Except Stuck StatsBootstrapAtomValue
  | .boolValue argIndex =>
      (frame.argument (.arg argIndex)).bind fun
        | .boolean value => .ok (.boolValue value)
        | _ => .error .mistyped
  | .intValue argIndex =>
      (frame.argument (.arg argIndex)).bind fun
        | .int value => .ok (.intValue value)
        | _ => .error .mistyped
  | .longValue argIndex =>
      (frame.argument (.arg argIndex)).bind fun
        | .long value => .ok (.longValue value)
        | _ => .error .mistyped
  | .floatValue argIndex =>
      (frame.argument (.arg argIndex)).bind fun
        | .float bits => .ok (.floatValue bits)
        | _ => .error .mistyped
  | .stringValue argIndex =>
      (frame.argument (.arg argIndex)).bind fun
        | .string value => .ok (.stringValue value)
        | _ => .error .mistyped
  | .bytesValue argIndex =>
      (frame.argument (.arg argIndex)).bind fun
        | .byteArray bytes => .ok (.bytesValue bytes)
        | _ => .error .mistyped

/-- What a call of a bootstrap method reports. -/
def report (method : Native.Method) (atoms : Atoms) (code : Int) (arguments : List Argument) :
    Except Stuck StatsBootstrapAtom :=
  let frame := Native.frame atoms (fun _ => none) method (method.values code arguments)
  match method.body with
  | .bootstrap values =>
      frame.code.bind fun atomId =>
        (values.mapM (pushValue frame)).map fun values => ⟨atomId, values⟩
  | _ => .error .noEvent

theorem report_of_frame {method : Native.Method} {atoms : Atoms} {code : Int}
    {arguments : List Argument} {frame : Frame} {printed : List Native.BootstrapValue}
    (isFrame : Native.frame atoms (fun _ => none) method (method.values code arguments) = frame)
    (isBody : method.body = .bootstrap printed) :
    report method atoms code arguments =
      frame.code.bind fun atomId =>
        (printed.mapM (pushValue frame)).map fun values => ⟨atomId, values⟩ := by
  rw [report, isFrame, isBody]

theorem pushValue_eq {frame : Frame} {argIndex : Int} {argument : Argument}
    {printed : Native.BootstrapValue}
    (bound : frame.bindings.lookup (.arg argIndex) = some (.argument argument))
    (isPrinted : Native.bootstrapValue argIndex argument.type = .ok printed) :
    ∃ value, pushValue frame printed = .ok value ∧ bootstrapValueOf argument = some value := by
  have read := Frame.argument_eq bound
  cases argument <;> cases isPrinted <;> exact ⟨_, by rw [pushValue, read]; rfl, rfl⟩

/-- The statements push one value for every argument. -/
theorem mapM_pushValue {frame : Frame} {declSets : FieldNumberToAtomDeclSet} {argIndex : Int}
    {arguments : List Argument} {printed : List Native.BootstrapValue}
    (binds : ∀ (index : Nat) argument, arguments[index]? = some argument →
      frame.bindings.lookup (.arg (argIndex + index)) = some (.argument argument))
    (isPrinted : Native.writeBootstrapValues declSets argIndex (arguments.map Argument.type) =
      .ok printed) :
    ∃ values, printed.mapM (pushValue frame) = .ok values ∧
      arguments.map bootstrapValueOf = values.map some := by
  induction arguments generalizing argIndex printed with
  | nil =>
      cases isPrinted
      exact ⟨[], rfl, rfl⟩
  | cons argument rest ih =>
      rcases bind_eq_ok_iff.mp isPrinted with ⟨first, firstPrinted, later⟩
      split at later
      · contradiction
      · rcases map_eq_ok_iff.mp later with ⟨others, othersPrinted, rfl⟩
        have here := binds 0 argument rfl
        rw [Int.natCast_zero, Int.add_zero] at here
        have restBinds : ∀ (index : Nat) other, rest[index]? = some other →
            frame.bindings.lookup (.arg (argIndex + 1 + index)) = some (.argument other) := by
          intro index other found
          have shift : argIndex + 1 + (index : Int) = argIndex + ((index + 1 : Nat) : Int) := by
            omega
          rw [shift]
          exact binds (index + 1) other found
        rcases pushValue_eq here firstPrinted with ⟨value, pushed, carried⟩
        rcases ih restBinds othersPrinted with ⟨values, ran, carriedRest⟩
        refine ⟨value :: values, ?_, ?_⟩
        · rw [List.mapM_cons, pushed, ran]
          rfl
        · rw [List.map_cons, List.map_cons, carried, carriedRest]

section Method

variable {constants : AnnotationIdConstants} {minApiLevel : Int} {method : Native.Method}

/-- The method for a signature reports the code and the arguments of a call. -/
theorem report_eq (atoms : Atoms) (code : Int) {signature : Signature}
    (acceptedSignature : AcceptedSignature signature) {declSets : FieldNumberToAtomDeclSet}
    (written : Native.writeNativeStatsWriteMethod constants attributionDecl minApiLevel true
      (signature, declSets) = .ok method)
    {arguments : List Argument} (typed : arguments.map Argument.type = signature) :
    ∃ values, report method atoms code arguments = .ok ⟨code, values⟩ ∧
      arguments.map bootstrapValueOf = values.map some := by
  rcases map_eq_ok_iff.mp written with ⟨body, isBody, rfl⟩
  rw [if_pos rfl] at isBody
  rcases map_eq_ok_iff.mp isBody with ⟨printed, isPrinted, rfl⟩
  have supported := (writeBootstrapBody_isOk (signature, declSets)).mp
    (isOk_iff_exists.mpr ⟨printed, isPrinted⟩)
  rw [Native.writeBootstrapBody, if_neg fun annotated => supported (Or.inl annotated)] at isPrinted
  let bindings := Native.convention.bind code signature arguments
  have binds : ∀ (index : Nat) argument, arguments[index]? = some argument →
      bindings.lookup (.arg (1 + index)) = some (.argument argument) := by
    intro index argument found
    have hasType : signature[index]? = some argument.type := by
      rw [← typed, List.getElem?_map, found]
      rfl
    have notChain : argument.type ≠ .attributionChain := by
      intro isChain
      apply supported
      refine Or.inr ⟨index, argument.type, hasType, Or.inl ?_⟩
      rw [isChain]
      decide
    exact Convention.bind_binds Native.convention_valid acceptedSignature typed found _
      (Native.convention_valid.argument _ argument notChain)
  let frame : Frame := ⟨bindings, atomConstants atoms, fun _ => none, cppComparable⟩
  let made : Native.Method :=
    { name := "stats_write"
      parameters := writeNativeMethodSignature [] signature attributionDecl false
      body := .bootstrap printed }
  have isFrame : Native.frame atoms (fun _ => none) made (made.values code arguments) = frame := by
    rw [Native.frame, Native.writeNativeMethodSignature_names]
    rfl
  rw [← typed] at isPrinted
  rcases @mapM_pushValue frame _ _ _ _ binds isPrinted with ⟨values, ran, carried⟩
  refine ⟨values, ?_, carried⟩
  rw [report_of_frame isFrame rfl, Frame.code_eq rfl, ran]
  rfl

end Method

/-! ## Supported descriptors -/

/-- No pushed atom of the module has an annotation, a chain or an array. -/
def BootstrapAtoms (descriptor : AtomDescriptor) (moduleName : String) : Prop :=
  ∀ atomField ∈ selectedAtoms descriptor moduleName, ∀ atom, atomField.type = .message atom →
    getAtomType atomField.number = .pushed →
      (∀ fieldNumber annotationId, declRequests atomField atom fieldNumber annotationId = none) ∧
      JavaType.attributionChain ∉ signatureOf atom ∧
      containsRepeatedField (signatureOf atom) = false

theorem mem_bootstrapTypes_iff {type : JavaType} (isArgument : IsArgument type) :
    type ∈ bootstrapTypes ↔ type.isRepeatedField = false := by
  cases type <;> first | exact absurd isArgument id | decide

/-- The types of an accepted signature are those of a bootstrap atom when there is no
chain and no array. -/
theorem forall_mem_bootstrapTypes_iff {signature : Signature}
    (accepted : AcceptedSignature signature) :
    (∀ type ∈ signature, type ∈ bootstrapTypes) ↔
      JavaType.attributionChain ∉ signature ∧ containsRepeatedField signature = false := by
  constructor
  · intro all
    constructor
    · intro chain
      exact absurd (all _ chain) (by decide)
    · rw [containsRepeatedField, List.any_eq_false]
      intro type member
      have isBootstrap := all type member
      cases type <;> first | decide | exact absurd isBootstrap (by decide)
  · rintro ⟨noChain, notRepeated⟩ type member
    rcases accepted.mem_cases type member with isArgument | rfl
    · rw [containsRepeatedField, List.any_eq_false] at notRepeated
      exact (mem_bootstrapTypes_iff isArgument).mpr
        (Bool.eq_false_iff.mpr (notRepeated type member))
    · exact absurd member noChain

section Registered

variable {registrations : List Registration} {atoms : Atoms}

/-- The signatures of pushed atoms are supported when none of these atoms is annotated and
all have the types of bootstrap atoms. -/
theorem forall_not_bootstrapUnsupported_iff (registered : Registered registrations atoms) :
    (∀ entry ∈ atoms.signatureInfoMap.toList, ¬BootstrapUnsupported entry) ↔
      ∀ registration ∈ registrations, registration.decl.atomType = .pushed →
        (∀ fieldNumber, fieldNumber ∉ registration.decl.fieldNumberToAnnotations) ∧
        ∀ type ∈ registration.decl.signature, type ∈ bootstrapTypes := by
  have indexes := registered.pushed.indexesDecls registered.decls
  constructor
  · intro supported registration member isPushed
    have listed := registered.decls.mem_elements.mpr (List.mem_map_of_mem member)
    have present := (indexes.signatures _).mpr ⟨registration.decl, listed, isPushed, rfl⟩
    rcases mem_iff_exists_getElem?.mp present with ⟨declSets, found⟩
    have entryMem := ExtTreeMap.mem_toList_iff_getElem?_eq_some.mpr found
    have isSupported := supported _ entryMem
    constructor
    · intro fieldNumber annotated
      have inSets := (indexes.fieldNumbers _ _ found fieldNumber).mpr
        ⟨registration.decl, listed, isPushed, rfl, annotated⟩
      rcases registration.annotated_cases annotated with rfl | ⟨index, inRange, rfl⟩
      · exact isSupported (Or.inl inSets)
      · exact isSupported (Or.inr ⟨index, _, List.getElem?_eq_getElem inRange, Or.inr inSets⟩)
    · intro type typeMem
      rcases List.getElem?_of_mem typeMem with ⟨index, atIndex⟩
      by_contra unsupported
      exact isSupported (Or.inr ⟨index, type, atIndex, Or.inl unsupported⟩)
  · rintro all ⟨signature, declSets⟩ entryMem
    have found := ExtTreeMap.mem_toList_iff_getElem?_eq_some.mp entryMem
    have notAnnotated : ∀ fieldNumber, fieldNumber ∉ declSets := by
      intro fieldNumber inSets
      rcases (indexes.fieldNumbers _ _ found fieldNumber).mp inSets with ⟨decl, isAnnotated⟩
      rcases List.mem_map.mp (registered.decls.mem_elements.mp isAnnotated.member) with
        ⟨registration, member, rfl⟩
      exact (all registration member isAnnotated.atomType).1 fieldNumber isAnnotated.annotated
    rintro (onAtom | ⟨index, type, atIndex, unsupported | onField⟩)
    · exact notAnnotated _ onAtom
    · rcases (indexes.signatures _).mp (mem_iff_exists_getElem?.mpr ⟨declSets, found⟩) with
        ⟨decl, listed, isPushed, rfl⟩
      rcases List.mem_map.mp (registered.decls.mem_elements.mp listed) with
        ⟨registration, member, rfl⟩
      exact unsupported ((all registration member isPushed).2 type (List.mem_of_getElem? atIndex))
    · exact notAnnotated _ onField

/-- Nothing is annotated when no option asks for an annotation. -/
theorem not_annotated_iff (registration : Registration) :
    (∀ fieldNumber, fieldNumber ∉ registration.decl.fieldNumberToAnnotations) ↔
      ∀ fieldNumber annotationId,
        declRequests registration.atomField registration.atom fieldNumber annotationId = none := by
  apply forall_congr'
  intro fieldNumber
  rw [registration.describes.stores.mem_iff fieldNumber, not_exists]
  exact forall_congr' fun annotationId => not_not

theorem bootstrapAtoms_iff {descriptor : AtomDescriptor} {moduleName : String}
    (selected : registrations.map Registration.atomField = selectedAtoms descriptor moduleName) :
    BootstrapAtoms descriptor moduleName ↔
      ∀ registration ∈ registrations, registration.decl.atomType = .pushed →
        (∀ fieldNumber, fieldNumber ∉ registration.decl.fieldNumberToAnnotations) ∧
        ∀ type ∈ registration.decl.signature, type ∈ bootstrapTypes := by
  have ofRegistration : ∀ registration : Registration,
      ((∀ fieldNumber, fieldNumber ∉ registration.decl.fieldNumberToAnnotations) ∧
        ∀ type ∈ registration.decl.signature, type ∈ bootstrapTypes) ↔
      (∀ fieldNumber annotationId,
        declRequests registration.atomField registration.atom fieldNumber annotationId = none) ∧
      JavaType.attributionChain ∉ signatureOf registration.atom ∧
      containsRepeatedField (signatureOf registration.atom) = false := by
    intro registration
    have accepted := registration.rule.message.acceptedSignature
    rw [registration.signatureOf_eq] at accepted
    rw [not_annotated_iff, forall_mem_bootstrapTypes_iff accepted, registration.signatureOf_eq]
  constructor
  · intro bootstrap registration member isPushed
    rw [ofRegistration]
    rw [registration.decl_atomType] at isPushed
    exact bootstrap _ (selected ▸ List.mem_map_of_mem member) _ registration.rule.type isPushed
  · intro all atomField member atom type isPushed
    rcases exists_registration selected member type with ⟨registration, listed, rfl, rfl⟩
    exact (ofRegistration registration).mp
      (all registration listed (registration.decl_atomType.trans isPushed))

end Registered

/-! ## Generation -/

/-- There is a method for every pushed atom, and the methods that a call for the atom can
resolve to report its arguments. -/
def ReportsAtoms (methods : List Native.Method) (atoms : Atoms) : Prop :=
  ∀ decl ∈ elements atoms.decls, decl.atomType = .pushed →
    (∃ method ∈ methods,
      method.parameters.map Parameter.typeName = nativeParameterTypes decl.signature) ∧
    ∀ method ∈ methods,
      method.parameters.map Parameter.typeName = nativeParameterTypes decl.signature →
      ∀ arguments : List Argument, arguments.map Argument.type = decl.signature →
        ∃ values, report method atoms decl.code arguments = .ok ⟨decl.code, values⟩ ∧
          arguments.map bootstrapValueOf = values.map some

theorem reportsAtoms {registrations : List Registration} {atoms : Atoms}
    (registered : Registered registrations atoms) {constants : AnnotationIdConstants}
    {minApiLevel : Int} {methods : List Native.Method}
    (written : Native.writeStatsLogCpp constants atoms attributionDecl minApiLevel true =
      .ok methods) :
    ReportsAtoms methods atoms := by
  rcases bind_eq_ok_iff.mp written with ⟨pushed, isPushed, rest⟩
  cases rest
  intro decl member isPushedAtom
  have indexes := registered.pushed.indexesDecls registered.decls
  have present := (indexes.signatures _).mpr ⟨decl, member, isPushedAtom, rfl⟩
  rcases exists_mem_toList present with ⟨entry, entryMem, isSignature⟩
  have accepted := acceptedSignature_of_mem registered member
  constructor
  · rcases exists_ok_of_mapM isPushed entryMem with ⟨method, isMethod⟩
    refine ⟨method, (mem_of_mapM_eq_ok isPushed).mpr ⟨entry, entryMem, isMethod⟩, ?_⟩
    rw [statsWrite_types isMethod, isSignature]
  · intro method methodMem types arguments typed
    rcases (mem_of_mapM_eq_ok isPushed).mp methodMem with
      ⟨⟨signature, declSets⟩, otherMem, isMethod⟩
    have otherAccepted := (acceptedMaps registered).pushed _ (mem_of_mem_toList otherMem)
    rw [statsWrite_types isMethod] at types
    have same := nativeParameterTypes_injective (mem_signatureTypes otherAccepted)
      (mem_signatureTypes accepted) types
    exact report_eq atoms decl.code otherAccepted isMethod (typed.trans same.symm)

/-- A bootstrap source is generated exactly for scalar atoms without annotations, and it
reports one value of the right kind for every field, in order. -/
theorem bootstrapGeneration (descriptor : AtomDescriptor) (moduleName : String) (atoms : Atoms)
    (accepted : collateAtoms descriptor moduleName {} = (0, atoms))
    (constants : AnnotationIdConstants) (minApiLevel : Int) :
    ((∃ methods, Native.writeStatsLogCpp constants atoms attributionDecl minApiLevel true =
        .ok methods) ↔ BootstrapAtoms descriptor moduleName) ∧
    ∀ methods, Native.writeStatsLogCpp constants atoms attributionDecl minApiLevel true =
      .ok methods → ReportsAtoms methods atoms := by
  rcases collateAtoms_registered accepted with ⟨registrations, selected, registered⟩
  constructor
  · rw [← isOk_iff_exists, writeStatsLogCpp_bootstrap_isOk,
      forall_not_bootstrapUnsupported_iff registered, bootstrapAtoms_iff selected]
  · intro methods written
    exact reportsAtoms registered written

def bootSequenceReported : Descriptor where
  name := "BootSequenceReported"
  fields :=
    [{ name := "reason", number := 1, type := .string },
     { name := "end_time_ms", number := 2, type := .int64 },
     { name := "successful", number := 3, type := .bool }]
  numbers_nodup := by decide

/-- A pushed atom with scalar fields and a pulled atom with annotations. -/
def bootstrapDescriptor : AtomDescriptor where
  fields :=
    [{ name := "boot_sequence_reported", number := 57, type := .message bootSequenceReported },
     { name := "cpu_active_time", number := 10016, type := .message cpuActiveTime }]
  extensions := []
  numbers_nodup := by decide

theorem bootstrapGeneration_bootSequence :
    let atoms := (collateAtoms bootstrapDescriptor defaultModuleName {}).2
    ((∃ methods, Native.writeStatsLogCpp (getAnnotationIdConstants annotationConstantNamePrefix)
        atoms attributionDecl apiT true = .ok methods) ↔
      BootstrapAtoms bootstrapDescriptor defaultModuleName) ∧
    ∀ methods, Native.writeStatsLogCpp (getAnnotationIdConstants annotationConstantNamePrefix)
      atoms attributionDecl apiT true = .ok methods → ReportsAtoms methods atoms :=
  bootstrapGeneration bootstrapDescriptor defaultModuleName _ (Prod.ext (by decide) rfl) _ apiT

end StatsLogApiGen.Main
