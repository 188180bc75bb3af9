import StatsLogApiGen.Record.Wrappers
import StatsLogApiGen.Rust.Passing

/-!
# Rust callers record messages

A Rust program can fill the structure of an atom and call its method, or call the non-chained
function of an atom with the uid and the tag of one node.  This file follows both through the
module of the atom to the event, and to the early return where a conversion fails.
-/

namespace StatsLogApiGen.Record

open Std
open StatsLogApiGen.Container
open StatsLogApiGen.Program (Overload Call Invocation Resolves Linked)
open StatsLogApiGen.Proto
open StatsLogApiGen.Collation
open StatsLogApiGen.Writer
open StatsLogApiGen.Main

/-! ## Callers -/

/-- A caller of the function of an atom in its module. -/
inductive RustCaller where
  | struct
  | nonChained (uid : BitVec 32) (tag : String)
  deriving DecidableEq, Repr

namespace RustCaller

/-- The atoms that have the caller in their module. -/
def IsGeneratedFor (atomType : AtomType) (atom : Descriptor) : RustCaller → Prop
  | .struct => True
  | .nonChained .. => atomType = .pushed ∧ HasChain atom

/-- The message that reaches the function of the atom. -/
def passes (message : MessageValue) : RustCaller → MessageValue
  | .struct => message
  | .nonChained uid tag => withChain message (nodeChain (uid, tag))

/-- The calls of the function of the atom that a caller leads to. -/
def calls (crate : Rust.Module) (atomType : AtomType) (arguments : List Argument) (fuel : Nat) :
    RustCaller → Option (List (Invocation String Rust.RustType Value))
  | .struct =>
      crate.callMethod fuel (arguments.flatMap plainValues) (Rust.pulledValues atomType)
  | .nonChained uid tag =>
      (crate.functions.find? fun function => function.name = "stats_write_non_chained").bind
        fun function => Program.deliver Rust.linkage crate.functions fuel
          ⟨function.overload, Rust.nonChainedValues uid tag arguments.tail⟩

end RustCaller

/-- What a call of a function leaves that does not return early. -/
def performRust (atoms : Atoms) (functions : List Rust.Function)
    (call : Invocation String Rust.RustType Value) : Option Delivery :=
  (functions.find? fun function => function.overload = call.target).bind fun function =>
    (function.body.events (Rust.frame atoms
      (getAnnotationIdConstants annotationConstantNamePrefix) function call.values)).toOption.map
        .event

/-- What a Rust program leaves that calls a caller in the module of an atom. -/
def callRust (atoms : Atoms) (atomName : String) (atomType : AtomType)
    (arguments : List Argument) (fuel : Nat) (caller : RustCaller) : Text → Option (List Delivery)
  | .rust _ (.ok modules) =>
      (modules.find? fun crate => crate.name = atomName).bind fun crate =>
        (caller.calls crate atomType arguments fuel).bind fun calls =>
          calls.mapM (performRust atoms crate.functions)
  | _ => none

/-! ## The function of an atom -/

section Function

variable {constants : AnnotationIdConstants} {minApiLevel : Int} {decl : AtomDecl}
  {function : Rust.Function}
  (written : Rust.writeRustStatsWriteMethod constants attributionDecl minApiLevel decl =
    .ok function)

include written

theorem rustFunction_acts (values : List Value) : function.react [] [] values = some .acts := by
  obtain ⟨code, -, rfl⟩ := map_eq_ok_iff.mp written
  rw [Rust.Function.react]
  cases decl.atomType <;> rfl

theorem rustFunction_values (arguments : List Argument) :
    function.values arguments =
      Rust.pulledValues decl.atomType ++ arguments.flatMap plainValues := by
  obtain ⟨code, -, rfl⟩ := map_eq_ok_iff.mp written
  rw [Rust.Function.values]
  cases decl.atomType <;> rfl

end Function

/-- The non-chained function of a module is apart from the function of the atom. -/
theorem nonChained_apart (decl nonChained : AtomDecl) :
    (Rust.writeRustStatsWriteNonChainedMethod attributionDecl nonChained).overload ≠
      Rust.statsWriteOverload decl := by
  intro same
  have names : "stats_write_non_chained" = Rust.statsWriteName decl.atomType :=
    congrArg Overload.name same
  cases kind : decl.atomType with
  | pushed => exact absurd (kind ▸ names) (by decide)
  | pulled => exact absurd (kind ▸ names) (by decide)

/-! ## The module of an atom -/

section Module

variable {atoms : Atoms} {minApiLevel : Int} {decl : AtomDecl} {function : Rust.Function}
  {module : Rust.Module}
  (written : Rust.writeRustStatsWriteMethod
    (getAnnotationIdConstants annotationConstantNamePrefix) attributionDecl minApiLevel decl =
      .ok function)
  (isModule : Rust.writeRustModule attributionDecl
    (getAnnotationIdConstants annotationConstantNamePrefix) minApiLevel atoms.nonChainedDecls
      decl = .ok module)

include written isModule

theorem deliver_function (fuel : Nat) (values : List Value) :
    Program.deliver Rust.linkage module.functions (fuel + 1)
        ⟨Rust.statsWriteOverload decl, values⟩ =
      some [⟨Rust.statsWriteOverload decl, values⟩] := by
  obtain ⟨others, functions, areNonChained⟩ := exists_functions written isModule
  have isOverload := (Rust.writeRustStatsWriteMethod_overload written).1
  apply Program.deliver_acts
  · rw [functions]
    exact List.mem_map.mpr ⟨function, List.mem_cons_self, isOverload⟩
  · intro other member isTarget
    rw [functions] at member
    rcases List.mem_cons.mp member with rfl | later
    · exact rustFunction_acts written values
    · obtain ⟨nonChained, rfl⟩ := areNonChained other later
      exact absurd isTarget (nonChained_apart decl nonChained)

/-- The function of the atom leaves its event unless a conversion refuses an argument. -/
theorem performRust_eq {arguments : List Argument} {events : List EventOp}
    (converted : Rust.Converted arguments events (function.call atoms
      (getAnnotationIdConstants annotationConstantNamePrefix) arguments)) :
    performRust atoms module.functions
        ⟨Rust.statsWriteOverload decl,
          Rust.pulledValues decl.atomType ++ arguments.flatMap plainValues⟩ =
      if arguments.all Rust.converts then some (.event events) else none := by
  obtain ⟨others, functions, -⟩ := exists_functions written isModule
  have selected : module.functions.find? (fun other =>
      other.overload = Rust.statsWriteOverload decl) = some function := by
    rw [functions]
    exact List.find?_cons_of_pos
      (decide_eq_true (Rust.writeRustStatsWriteMethod_overload written).1)
  rw [performRust, selected, Option.bind_some, ← rustFunction_values written, ← Rust.Function.call]
  by_cases accepts : ∀ argument ∈ arguments, Rust.converts argument = true
  · rw [if_pos (List.all_eq_true.mpr accepts), converted.accepted accepts]
    rfl
  · rw [if_neg (fun all => accepts (List.all_eq_true.mp all))]
    obtain ⟨reason, -, stops⟩ := converted.refused (by push Not at accepts; exact accepts)
    rw [stops]
    rfl

end Module

/-! ## Calls -/

section Calls

variable {registrations : List Registration} {atoms : Atoms} {registration : Registration}
  {minApiLevel : Int} {function : Rust.Function} {module : Rust.Module} {message : MessageValue}
  (registered : Registered registrations atoms) (registrationMem : registration ∈ registrations)
  (written : Rust.writeRustStatsWriteMethod
    (getAnnotationIdConstants annotationConstantNamePrefix) attributionDecl minApiLevel
      registration.decl = .ok function)
  (isModule : Rust.writeRustModule attributionDecl
    (getAnnotationIdConstants annotationConstantNamePrefix) minApiLevel atoms.nonChainedDecls
      registration.decl = .ok module)
  (fits : Fits message registration.atom)

include registered registrationMem written isModule fits

/-- The method of the structure leads to the function of the atom. -/
theorem calls_struct (fuel : Nat) :
    RustCaller.struct.calls module registration.decl.atomType
        (callArguments registration.atom message) (fuel + 1) =
      some [⟨Rust.statsWriteOverload registration.decl,
        Rust.pulledValues registration.decl.atomType ++
          (callArguments registration.atom message).flatMap plainValues⟩] := by
  have accepted := acceptedSignature_of_mem registered
    (registered.decls.mem_elements.mpr (List.mem_map_of_mem registrationMem))
  have isStruct : module.struct = Rust.writeRustStruct attributionDecl registration.decl := by
    obtain ⟨statsWrite, -, rfl⟩ := map_eq_ok_iff.mp isModule
    rfl
  rw [RustCaller.calls, Rust.callMethod_eq accepted (callArguments_types fits) isStruct,
    deliver_function written isModule]

/-- The non-chained function leads to the function of the atom with a chain of one node. -/
theorem calls_nonChained (isPushed : registration.decl.atomType = .pushed)
    (hasChain : HasChain registration.atom) (uid : BitVec 32) (tag : String) (fuel : Nat) :
    (RustCaller.nonChained uid tag).calls module registration.decl.atomType
        (callArguments registration.atom message) (fuel + 2) =
      some [⟨Rust.statsWriteOverload registration.decl,
        (.attributionChain [uid] [tag] ::
          (callArguments registration.atom message).tail).flatMap plainValues⟩] := by
  obtain ⟨chain, later, flattened, fields, isChain, noChain, nonChainedFields, sameHeaders⟩ :=
    exists_flattenedFields registration hasChain
  have isOverload : Rust.statsWriteOverload registration.decl = Rust.chainedOverload flattened := by
    rw [Rust.statsWriteOverload, isPushed, fields, List.flatMap_cons, Rust.fieldTypes,
      if_pos isChain, ← Rust.flatMap_fieldTypes_congr sameHeaders]
    rfl
  have nonChainedPushed : registration.nonChained.1.atomType = .pushed := by
    obtain ⟨others, isDecl⟩ := getNonChainedNode_decl registration.atom
      (initialDecl registration.atomField registration.atom)
    rw [Registration.nonChained, isDecl]
    exact registration.decl_atomType.symm.trans isPushed
  have types := congrArg (List.map fun header => lowered header.2) sameHeaders
  have typed : (callArguments registration.atom message).tail.map Argument.type =
      flattened.map fun field => lowered field.javaType := by
    rw [List.map_map, List.map_map] at types
    rw [List.map_tail, callArguments_types fits, AtomDecl.signature, fields, List.map_cons,
      List.tail_cons]
    exact types.symm
  have isStatsWrite := (Rust.writeRustStatsWriteMethod_overload written).1.trans isOverload
  have functions : module.functions = [function,
      Rust.writeRustStatsWriteNonChainedMethod attributionDecl registration.nonChained.1] := by
    obtain ⟨statsWrite, isFunction, rfl⟩ := map_eq_ok_iff.mp isModule
    cases isFunction.symm.trans written
    simp only [(getElem?_nonChainedDecls registered registrationMem).1 hasChain]
  have selected : module.functions.find? (fun other => other.name = "stats_write_non_chained") =
      some (Rust.writeRustStatsWriteNonChainedMethod attributionDecl
        registration.nonChained.1) := by
    have name : function.name = "stats_write" := congrArg Overload.name isStatsWrite
    rw [functions, List.find?_cons, name]
    rfl
  have delivered := Rust.deliver_nonChained noChain nonChainedFields nonChainedPushed typed
    isStatsWrite (rustFunction_acts written) fuel uid tag
  rw [RustCaller.calls, selected, Option.bind_some, functions, delivered, isOverload]

/-- Both callers pass the values of their message to the function of the atom. -/
theorem calls_eq {caller : RustCaller}
    (generated : caller.IsGeneratedFor registration.decl.atomType registration.atom)
    (fuel : Nat) :
    caller.calls module registration.decl.atomType (callArguments registration.atom message)
        (fuel + 2) =
      some [⟨Rust.statsWriteOverload registration.decl,
        Rust.pulledValues registration.decl.atomType ++
          (callArguments registration.atom (caller.passes message)).flatMap plainValues⟩] := by
  cases caller with
  | struct => exact calls_struct registered registrationMem written isModule fits (fuel + 1)
  | nonChained uid tag =>
      obtain ⟨isPushed, hasChain⟩ := generated
      rw [RustCaller.passes, callArguments_withChain hasChain,
        calls_nonChained registered registrationMem written isModule fits isPushed hasChain,
        isPushed]
      rfl

end Calls

/-- The message that reaches the function of the atom fits. -/
theorem fits_passes {registration : Registration} {message : MessageValue}
    (fits : Fits message registration.atom) {caller : RustCaller}
    (generated : caller.IsGeneratedFor registration.decl.atomType registration.atom) :
    Fits (caller.passes message) registration.atom := by
  cases caller with
  | struct => exact fits
  | nonChained uid tag => exact fits_withChain fits generated.2 _

/-- A Rust program that is built with the file of a run and fills the structure of an atom, or
calls its non-chained function, leaves the record of the message that is passed on.  Where a
conversion refuses an argument it leaves nothing. -/
theorem rustCallers_record_messages (opens : String → Bool) (descriptor : AtomDescriptor)
    (request : Request) (atoms : Atoms)
    (accepted : collateAtoms descriptor request.moduleName {} = (0, atoms))
    (constants : DistinctConstants atoms) (variants : Rust.DistinctVariants atoms)
    (generated : IsGeneratedBy request .rust)
    (provides : Provides (run opens descriptor request).files .rust) (environment : Environment)
    (builds : Builds environment atoms (run opens descriptor request).files .rust)
    (atomField : AtomFieldDescriptor)
    (selected : atomField ∈ selectedAtoms descriptor request.moduleName)
    (atom : Descriptor) (type : atomField.type = .message atom) (decl : AtomDecl)
    (member : decl ∈ elements atoms.decls) (code : decl.code = atomField.number)
    (supports : Logger.rust.Supports request.minApiLevel decl)
    (message : MessageValue) (fits : Fits message atom) (keeps : KeepsStates atom)
    (caller : RustCaller)
    (hasCaller : caller.IsGeneratedFor (getAtomType atomField.number) atom) (fuel : Nat) :
    (((run opens descriptor request).files.lookup .rust).bind
        (callRust atoms atomField.name (getAtomType atomField.number)
          (callArguments atom message) (fuel + 2) caller)).bind
            (fun deliveries => deliveries.mapM Delivery.record) =
      if (callArguments atom (caller.passes message)).all Rust.converts then
        some [(recordOf atomField atom (caller.passes message)).map eventLabel]
      else
        none := by
  obtain ⟨registrations, selectedAll, registered⟩ := collateAtoms_registered accepted
  obtain ⟨registration, registrationMem, rfl, rfl, rfl⟩ :=
    exists_registered_of_code registered selectedAll selected type member code
  rw [← registration.decl_atomType] at hasCaller
  rw [← registration.decl_name, ← registration.decl_atomType]
  obtain ⟨declSets, -, logged⟩ := exists_logged accepted constants member
  obtain ⟨printed, isPrinted⟩ := exists_rustFunction logged supports
  obtain ⟨module, isModule⟩ := @exists_rustModule atoms _ _ _ _ isPrinted
  obtain ⟨modules, crate, found⟩ := exists_crate accepted generated.1 provides
  have compiled := builds .rust List.mem_cons_self _ found
  have chosen := find?_rustModule member supports.2 crate
    (List.nodup_append.mp compiled.names).2.1 isModule
  obtain ⟨-, compares, -⟩ :=
    compiled.bodies module (mem_rustModules member supports.2 crate isModule)
  have issuable := (comparesIntegers_function_iff registered member isPrinted).mp
    (comparesIntegers_function isPrinted isModule compares)
  obtain ⟨function, written, converted⟩ := Rust.statsWrite_converted logged issuable variants
    (callArguments_types (fits_passes fits hasCaller)) supports.1 supports.2
  rw [found, Option.bind_some, callRust, chosen, Option.bind_some,
    calls_eq registered registrationMem written isModule fits hasCaller, Option.bind_some,
    List.mapM_cons, performRust_eq written isModule converted]
  split
  · change (readEvent _).bind _ = _
    rw [readEvent_atomEvent (fits_passes fits hasCaller) keeps]
    rfl
  · rfl

/-- A wakelock is held with one node. -/
theorem rustCallers_record_messages_wakelock :
    (((run (fun _ => true) testDescriptor everyOutput).files.lookup .rust).bind
        (callRust testAtoms "wakelock_state_changed" .pushed
          [.attributionChain [1000] ["tag"], .string "lock", .int 1] 2
            (.nonChained 1001 "app"))).bind
            (fun deliveries => deliveries.mapM Delivery.record) =
      some [⟨⟨10, []⟩, [⟨.attributionChain [1001] ["app"], [⟨5, .bool true⟩]⟩,
        ⟨.string "lock", [⟨3, .bool true⟩]⟩,
        ⟨.int 1, [⟨4, .bool true⟩, ⟨8, .bool true⟩, ⟨7, .int 0⟩]⟩]⟩] :=
  (rustCallers_record_messages (fun _ => true) testDescriptor everyOutput testAtoms
    (Prod.ext (by decide) rfl) (by decide) (by decide) (by decide) (by decide) declaredEnvironment
    (by decide) _ List.mem_cons_self wakelockStateChanged rfl testDecl mem_testDecl (by decide)
    ⟨by decide, by decide⟩ lockMessage (by decide) (by decide) (.nonChained 1001 "app")
    ⟨by decide, ⟨_, List.mem_cons_of_mem _ List.mem_cons_self, rfl, rfl⟩⟩ 0).trans (by decide)

end StatsLogApiGen.Record
