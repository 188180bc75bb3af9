import StatsLogApiGen.Main.Modules
import StatsLogApiGen.Record.Files
import StatsLogApiGen.Record.Payload
import StatsLogApiGen.Writer.Wrappers

/-!
# Wrappers record messages

For an atom with a chain a program can call a wrapper, with the uid and the tag of one node or
with a work source.  This file follows such a call through the methods of the files of a run
to the events, which are the records of the message with the chains that the wrapper makes.
-/

namespace StatsLogApiGen.Record

open Std
open StatsLogApiGen.Container
open StatsLogApiGen.Program (Overload Linkage)
open StatsLogApiGen.Proto
open StatsLogApiGen.Collation
open StatsLogApiGen.Writer
open StatsLogApiGen.Main

/-! ## Values -/

/-- The value that a method gets for what is passed to it.  A null tag is no text. -/
def frameValue : Passed Argument → Option Value
  | .code atomId => some (.code atomId)
  | .argument value => some (.argument value)
  | .length count => some (.size count)
  | .uid uid => some (.argument (.int uid))
  | .tag tag => tag.map fun text => .argument (.string text)
  | .uids uids => some (.argument (.intArray uids))
  | .tags tags => (tags.mapM id).map fun texts => .argument (.stringArray texts)
  | .workSource _ => none

theorem frameValue_tags (tags : List String) :
    frameValue (.tags (tags.map some)) = some (.argument (.stringArray tags)) := by
  have texts : (tags.map some).mapM id = some (tags.map id) := mapM_map_eq_some fun tag _ => rfl
  rw [frameValue, texts, List.map_id]
  rfl

/-- An argument with the length that is passed for a boolean array. -/
def counted : Argument → Argument × Nat
  | .booleanArray values => (.booleanArray values, values.length)
  | argument => (argument, 0)

theorem frameValue_passedFor {argument : Argument} (notChain : argument.type ≠ .attributionChain) :
    (Native.passedFor argument.type (counted argument)).map frameValue =
      (Native.argumentValues argument).map some := by
  cases argument with
  | attributionChain uids tags => exact absurd rfl notChain
  | _ => rfl

section Values

variable {later : List Argument} (noChain : ∀ type ∈ later.map Argument.type,
  type ≠ .attributionChain)

include noChain

/-- A native method gets the arguments that are passed on. -/
theorem frameValue_passedArguments :
    (Native.passedArguments (later.map Argument.type) (later.map counted)).map frameValue =
      (later.flatMap Native.argumentValues).map some := by
  rw [Native.passedArguments, List.zip_map', List.flatMap_map, List.map_flatMap,
    List.map_flatMap]
  apply List.flatMap_congr
  intro argument member
  exact frameValue_passedFor (noChain _ (List.mem_map_of_mem member))

theorem plainValues_eq : later.flatMap plainValues = later.map Value.argument := by
  rw [List.map_eq_flatMap]
  apply List.flatMap_congr
  intro argument member
  have notChain := noChain _ (List.mem_map_of_mem member)
  cases argument with
  | attributionChain uids tags => exact absurd rfl notChain
  | _ => rfl

variable (code : Int) (uids : List (BitVec 32)) (tags : List String)

theorem frameValues_native :
    (Native.chainedCall (later.map Argument.type) code uids (tags.map some)
        (later.map counted)).values.mapM frameValue =
      some (.code code ::
        (.attributionChain uids tags :: later).flatMap Native.argumentValues) := by
  apply mapM_eq_some_of_map
  rw [Native.chainedCall, List.map_cons, List.map_cons, List.map_cons, List.map_cons,
    frameValue_passedArguments noChain, frameValue_tags]
  rfl

theorem frameValues_java :
    (Java.chainedCall (later.map Argument.type) code uids (tags.map some) later).values.mapM
        frameValue =
      some (.code code :: (.attributionChain uids tags :: later).flatMap plainValues) := by
  apply mapM_eq_some_of_map
  rw [Java.chainedCall, List.map_cons, List.map_cons, List.map_cons, frameValue_tags,
    List.flatMap_cons, plainValues_eq noChain, List.map_map]
  simp only [plainValues, List.map_cons, List.cons_append, List.nil_append, List.map_map]
  rfl

end Values

/-! ## Wrappers -/

/-- A wrapper with what it makes chains from.  The names of a work source are known. -/
inductive Wrapper where
  | native (uid : BitVec 32) (tag : String)
  | java (uid : BitVec 32) (tag : String)
  | workSource (flatUids : List (BitVec 32 × String))
      (workChains : Option (List (List (BitVec 32) × List String)))

/-- The attribution node of a chain with one node. -/
def nodeChain (node : BitVec 32 × String) : List (BitVec 32) × List String :=
  ([node.1], [node.2])

namespace Wrapper

/-- The chains of the events that a wrapper leads to, in order. -/
def chains : Wrapper → List (List (BitVec 32) × List String)
  | .native uid tag | .java uid tag => [nodeChain (uid, tag)]
  | .workSource flatUids workChains => flatUids.map nodeChain ++ workChains.getD []

/-- The logger that a wrapper leads to. -/
def logger : Wrapper → Logger
  | .native .. => .native
  | .java .. | .workSource .. => .java

/-- The prefix of the platform's constants in the language of a wrapper. -/
def platformPrefix : Wrapper → String
  | .native .. => "ASTATSLOG_"
  | .java .. | .workSource .. => "StatsLog."

/-- Wrappers are generated for the platform, and those for work sources on request. -/
def IsGeneratedBy (request : Request) : Wrapper → Prop
  | .native .. | .java .. => request.vendorProto = "" ∧ request.bootstrap = false
  | .workSource .. => request.vendorProto = "" ∧ request.bootstrap = false ∧
      request.supportWorkSource = true

/-- The call of a wrapper with the arguments after the chain. -/
def call (code : Int) (arguments : List Argument) : Wrapper → PassedCall Argument
  | .native uid tag => Native.nonChainedCall (arguments.map Argument.type) code uid (some tag)
      (arguments.map counted)
  | .java uid tag =>
      Java.nonChainedCall (arguments.map Argument.type) code uid (some tag) arguments
  | .workSource flatUids workChains =>
      Java.workSourceCall (arguments.map Argument.type) code
        ⟨flatUids.map fun node => (node.1, some node.2),
          workChains.map fun chains => chains.map fun chain => (chain.1, chain.2.map some)⟩
        arguments

end Wrapper

/-! ## Programs that call wrappers -/

/-- What a call leaves that goes to a method which acts itself. -/
def perform {Method : Type} (linkage : Linkage Method String String (Passed Argument))
    (act : Method → List Value → Option Delivery) (methods : List Method)
    (call : PassedCall Argument) : Option Delivery :=
  (methods.find? fun method => linkage.overload method = call.target).bind fun method =>
    (call.values.mapM frameValue).bind (act method)

/-- What the calls leave that a call leads to, in order. -/
def performAll {Method : Type} (linkage : Linkage Method String String (Passed Argument))
    (act : Method → List Value → Option Delivery) (methods : List Method) (fuel : Nat)
    (call : PassedCall Argument) : Option (List Delivery) :=
  (Program.deliver linkage methods fuel call).bind fun calls =>
    calls.mapM (perform linkage act methods)

section Programs

variable (environment : Environment) (atoms : Atoms) (atomName : String)
  (arguments : List Argument) (fuel : Nat) (wrapper : Wrapper)

/-- What a method of the source leaves in its event. -/
def actNative (method : Native.Method) (values : List Value) : Option Delivery :=
  ((method.body.events (Native.frame atoms
    (Native.visibleConstants (getAnnotationIdConstants annotationConstantNamePrefix)
      environment.platform environment.minApiLevel) method values)).map
        fun ops => ops.map method.body.passed).toOption.map .event

/-- What a method of the class does to its builder. -/
def actJava (method : Java.Method) (values : List Value) : Option Delivery :=
  (method.body.events (Java.frame atoms
    (Java.visibleConstants (getAnnotationIdConstants annotationConstantNamePrefix)
      environment.platform environment.sdkInt environment.minApiLevel) method values)
        environment.sdkInt).toOption.map .event

/-- A C++ program that calls a wrapper needs its declaration. -/
def wrapNative : Text → Text → Option (List Delivery)
  | .header atomCodes _ _ headers, .cpp (.ok methods) =>
      (atomCodes.lookup (makeConstantName atomName)).bind fun code =>
        let call := wrapper.call code arguments
        (headers.find? fun header => declaredOverload header = call.target).bind fun _ =>
          performAll (Native.linkage Argument) (actNative environment atoms) methods fuel call
  | _, _ => none

/-- A Java program that calls a wrapper. -/
def wrapJava : Text → Option (List Delivery)
  | .java atomCodes _ _ output =>
      (atomCodes.lookup (makeConstantName atomName)).bind fun code =>
        performAll (Java.linkage Argument) (actJava environment atoms) output.methods fuel
          (wrapper.call code arguments)
  | _ => none

/-- What a program leaves that is built with the files of a run and calls a wrapper. -/
def wrapWith (files : List (Output × Text)) : Option (List Delivery) :=
  match wrapper with
  | .native .. => (files.lookup .header).bind fun header => (files.lookup .cpp).bind fun source =>
      wrapNative environment atoms atomName arguments fuel wrapper header source
  | .java .. | .workSource .. =>
      (files.lookup .java).bind (wrapJava environment atoms atomName arguments fuel wrapper)

end Programs

/-! ## Chained calls -/

/-- A pushed method gets the code and the arguments. -/
theorem values_statsWrite {constants : AnnotationIdConstants} {minApiLevel : Int}
    {entry : Signature × FieldNumberToAtomDeclSet} {method : Native.Method}
    (written : Native.writeNativeStatsWriteMethod constants attributionDecl minApiLevel false
      entry = .ok method) (code : Int) (arguments : List Argument) :
    method.values code arguments = .code code :: arguments.flatMap Native.argumentValues := by
  obtain ⟨body, printed, rfl⟩ := map_eq_ok_iff.mp written
  rw [if_neg (by decide)] at printed
  split at printed
  · obtain ⟨statements, -, rfl⟩ := map_eq_ok_iff.mp printed
    rfl
  · obtain ⟨statements, -, rfl⟩ := map_eq_ok_iff.mp printed
    rfl

/-- The signature of a pushed atom with a chain is generated. -/
theorem mem_signatureInfoMap_of_chained {registrations : List Registration} {atoms : Atoms}
    (registered : Registered registrations atoms) {decl : AtomDecl}
    (member : decl ∈ elements atoms.decls) (isPushed : decl.atomType = .pushed)
    {types : Signature} (isChained : decl.signature = .attributionChain :: types) :
    .attributionChain :: types ∈ atoms.signatureInfoMap :=
  ((registered.pushed.indexesDecls registered.decls).signatures _).mpr
    ⟨decl, member, isPushed, isChained⟩

section Chained

variable {descriptor : AtomDescriptor} {moduleName : String} {atoms : Atoms} {decl : AtomDecl}
  {environment : Environment} {later : List Argument}
  (accepted : collateAtoms descriptor moduleName {} = (0, atoms))
  (constants : DistinctConstants atoms) (member : decl ∈ elements atoms.decls)
  (isPushed : decl.atomType = .pushed)
  (isChained : decl.signature = .attributionChain :: later.map Argument.type)

include accepted member isChained

theorem noChain_of_isChained : ∀ type ∈ later.map Argument.type, type ≠ .attributionChain := by
  obtain ⟨registrations, -, registered⟩ := collateAtoms_registered accepted
  have areArguments := (acceptedSignature_of_mem registered member).tail
  rw [isChained] at areArguments
  rintro type typeMem rfl
  exact areArguments _ typeMem

/-- The nodes of the chain are counted, and nothing else has nodes. -/
theorem countsNodes_of_isChained {chain : List (BitVec 32) × List String}
    (counts : Native.CountsNodes (.attributionChain chain.1 chain.2)) :
    ∀ argument ∈ Argument.attributionChain chain.1 chain.2 :: later,
      Native.CountsNodes argument := by
  intro argument argumentMem
  rcases List.mem_cons.mp argumentMem with rfl | isLater
  · exact counts
  · have notChain := noChain_of_isChained accepted member isChained _
      (List.mem_map_of_mem isLater)
    cases argument with
    | attributionChain uids tags => exact absurd rfl notChain
    | _ => trivial

include constants isPushed

/-- The chained `stats_write` leaves the event of the atom. -/
theorem perform_native (declares : environment.platform.DeclaresAnnotations "ASTATSLOG_")
    {methods : List Native.Method}
    (source : Native.writeStatsLogCpp (getAnnotationIdConstants annotationConstantNamePrefix)
      atoms attributionDecl environment.minApiLevel false = .ok methods)
    (compiles : FileCompiles environment atoms (.cpp (.ok methods)))
    (supports : Logger.native.Supports environment.minApiLevel decl)
    {chain : List (BitVec 32) × List String}
    (counts : Native.CountsNodes (.attributionChain chain.1 chain.2)) :
    perform (Native.linkage Argument) (actNative environment atoms) methods
        (Native.chainedCall (later.map Argument.type) decl.code chain.1 (chain.2.map some)
          (later.map counted)) =
      some (.event (atomEvent decl (.attributionChain chain.1 chain.2 :: later))) := by
  obtain ⟨registrations, -, registered⟩ := collateAtoms_registered accepted
  obtain ⟨declSets, setsFound, logged⟩ := exists_logged accepted constants member
  have typed : (.attributionChain chain.1 chain.2 :: later).map Argument.type = decl.signature :=
    isChained.symm
  obtain ⟨printed, isPrinted⟩ := exists_nativeMethod logged supports
  have listed := mem_nativeMethods setsFound source isPrinted
  have issuable := (compiles_nativeMethod_iff registered declares setsFound isPrinted).mp
    (compiles.bodies.2 printed listed) decl member rfl rfl
  obtain ⟨method, written, called⟩ := nativeMethod_events logged issuable typed declares supports
  have events := method.log_eq called fun argument isWrite =>
    countsNodes_of_isChained accepted member isChained counts argument
      (mem_of_write_mem_atomEvent isWrite)
  have selected := find?_nativeMethod setsFound source compiles.functions written
  have noChain := noChain_of_isChained accepted member isChained
  rw [isPushed, isChained] at selected
  rw [Rust.nativeMethod, isPushed] at written
  rw [Native.Method.log, Native.Method.call, values_statsWrite written] at events
  rw [perform]
  change ((methods.find? fun method => method.overload = nativeOverload
    (.attributionChain :: later.map Argument.type) .pushed).bind fun method => _) = _
  rw [selected, Option.bind_some, frameValues_native noChain, Option.bind_some, actNative, events]
  rfl

/-- The chained `write` issues the event of the atom, where it has one. -/
theorem perform_java (declares : environment.platform.DeclaresAnnotations "StatsLog.")
    (newer : environment.minApiLevel = apiQ → environment.sdkInt > apiQ)
    {supportWorkSource : Bool} {atomCodes enumValues : List (String × Int)}
    {annotationConstants : List (String × Java.ConstantValue)}
    (noErrors : (Java.writeStatsLogJava (getAnnotationIdConstants annotationConstantNamePrefix)
      atoms attributionDecl environment.minApiLevel supportWorkSource).errors = 0)
    (compiles : FileCompiles environment atoms (.java atomCodes enumValues annotationConstants
      (Java.writeStatsLogJava (getAnnotationIdConstants annotationConstantNamePrefix) atoms
        attributionDecl environment.minApiLevel supportWorkSource)))
    (supports : Logger.java.Supports environment.minApiLevel decl)
    (chain : List (BitVec 32) × List String) :
    perform (Java.linkage Argument) (actJava environment atoms)
        (Java.writeStatsLogJava (getAnnotationIdConstants annotationConstantNamePrefix) atoms
          attributionDecl environment.minApiLevel supportWorkSource).methods
        (Java.chainedCall (later.map Argument.type) decl.code chain.1 (chain.2.map some) later) =
      some (.event (atomEvent decl (.attributionChain chain.1 chain.2 :: later))) := by
  obtain ⟨registrations, -, registered⟩ := collateAtoms_registered accepted
  obtain ⟨declSets, setsFound, logged⟩ := exists_logged accepted constants member
  have typed : (.attributionChain chain.1 chain.2 :: later).map Argument.type = decl.signature :=
    isChained.symm
  obtain ⟨printed, isPrinted⟩ := exists_javaMethod logged supports
  have listed := mem_javaMethods setsFound noErrors isPrinted
  have issuable := (compiles_javaMethod_iff registered environment.sdkInt declares setsFound
    isPrinted).mp (compiles.bodies.2 printed listed) decl member rfl rfl
  obtain ⟨method, written, events⟩ := @javaMethod_events _ environment _ _ _ logged issuable typed
    declares supports 0 fun _ => newer
  have selected :=
    find?_javaMethod setsFound logged.accepted noErrors compiles.functions written
  have noChain := noChain_of_isChained accepted member isChained
  rw [isPushed, isChained] at selected
  rw [Java.Method.call] at events
  rw [perform]
  change ((List.find? (fun method => Java.Method.overload method = javaOverload
    (.attributionChain :: later.map Argument.type) .pushed) _).bind fun method => _) = _
  rw [selected, Option.bind_some, frameValues_java noChain, Option.bind_some, actJava, events]
  rfl

/-! ## Calls of wrappers -/

/-- A wrapper of the source leads to the event with its chain. -/
theorem performAll_native (declares : environment.platform.DeclaresAnnotations "ASTATSLOG_")
    {methods : List Native.Method}
    (source : Native.writeStatsLogCpp (getAnnotationIdConstants annotationConstantNamePrefix)
      atoms attributionDecl environment.minApiLevel false = .ok methods)
    (compiles : FileCompiles environment atoms (.cpp (.ok methods)))
    (supports : Logger.native.Supports environment.minApiLevel decl) (fuel : Nat)
    (uid : BitVec 32) (tag : String) :
    performAll (Native.linkage Argument) (actNative environment atoms) methods (fuel + 3)
        ((Wrapper.native uid tag).call decl.code later) =
      some [.event (atomEvent decl (.attributionChain [uid] [tag] :: later))] := by
  obtain ⟨registrations, -, registered⟩ := collateAtoms_registered accepted
  have areArguments := (acceptedSignature_of_mem registered member).tail
  rw [isChained, List.tail_cons] at areArguments
  have chained := mem_signatureInfoMap_of_chained registered member isPushed isChained
  have lengths : (later.map counted).length = (later.map Argument.type).length := by
    rw [List.length_map, List.length_map]
  have delivered := Native.deliver_nonChained source (nonChained_argumentKeys registered)
    areArguments chained (exists_key_of_chained registered chained) (fuel + 1) decl.code uid
    (some tag) lengths
  have counts : Native.CountsNodes (.attributionChain [uid] [tag]) :=
    ⟨Nat.one_lt_ofNat, rfl⟩
  have performed := @perform_native _ _ _ _ _ _ accepted constants member isPushed isChained
    declares _ source compiles supports (nodeChain (uid, tag)) counts
  have calls : [nodeChain (uid, tag)].mapM (fun chain =>
      perform (Native.linkage Argument) (actNative environment atoms) methods
        (Native.chainedCall (later.map Argument.type) decl.code chain.1 (chain.2.map some)
          (later.map counted))) =
      some [.event (atomEvent decl (.attributionChain [uid] [tag] :: later))] := by
    rw [List.mapM_cons, performed]
    rfl
  rw [performAll, Wrapper.call]
  change (Program.deliver _ methods (fuel + 1 + 2) _).bind _ = _
  rw [delivered, Option.bind_some]
  exact calls

/-- The wrappers of the class lead to the events with their chains. -/
theorem performAll_java (declares : environment.platform.DeclaresAnnotations "StatsLog.")
    (newer : environment.minApiLevel = apiQ → environment.sdkInt > apiQ)
    {supportWorkSource : Bool} {atomCodes enumValues : List (String × Int)}
    {annotationConstants : List (String × Java.ConstantValue)}
    (noErrors : (Java.writeStatsLogJava (getAnnotationIdConstants annotationConstantNamePrefix)
      atoms attributionDecl environment.minApiLevel supportWorkSource).errors = 0)
    (compiles : FileCompiles environment atoms (.java atomCodes enumValues annotationConstants
      (Java.writeStatsLogJava (getAnnotationIdConstants annotationConstantNamePrefix) atoms
        attributionDecl environment.minApiLevel supportWorkSource)))
    (supports : Logger.java.Supports environment.minApiLevel decl) (fuel : Nat)
    {wrapper : Wrapper} (isJava : wrapper.logger = .java)
    (supported : supportWorkSource = true ∨ ∃ uid tag, wrapper = .java uid tag) :
    performAll (Java.linkage Argument) (actJava environment atoms)
        (Java.writeStatsLogJava (getAnnotationIdConstants annotationConstantNamePrefix) atoms
          attributionDecl environment.minApiLevel supportWorkSource).methods (fuel + 3)
        (wrapper.call decl.code later) =
      some (wrapper.chains.map fun chain =>
        .event (atomEvent decl (.attributionChain chain.1 chain.2 :: later))) := by
  obtain ⟨registrations, -, registered⟩ := collateAtoms_registered accepted
  have noChain := noChain_of_isChained accepted member isChained
  have chained := mem_signatureInfoMap_of_chained registered member isPushed isChained
  have flattened : ∃ key ∈ atoms.nonChainedSignatureInfoMap, javaParameterTypes key =
      javaParameterTypes (.int :: .string :: later.map Argument.type) := by
    obtain ⟨rest, keyMem, isLowered⟩ := exists_key_of_chained registered chained
    rw [← isLowered]
    exact ⟨_, keyMem, (javaParameterTypes_lowered (.int :: .string :: rest)).symm⟩
  have maps := (acceptedMaps registered).pushed
  have keys := nonChained_keys registered
  have lengths : later.length = (later.map Argument.type).length := by
    rw [List.length_map]
  have delivered : Program.deliver (Java.linkage Argument)
      (Java.writeStatsLogJava (getAnnotationIdConstants annotationConstantNamePrefix) atoms
        attributionDecl environment.minApiLevel supportWorkSource).methods (fuel + 3)
      (wrapper.call decl.code later) =
      some (wrapper.chains.map fun chain => Java.chainedCall (later.map Argument.type) decl.code
        chain.1 (chain.2.map some) later) := by
    cases wrapper with
    | native uid tag => cases isJava
    | java uid tag =>
        exact Java.deliver_nonChained maps keys noErrors noChain chained flattened lengths
          (fuel + 1) decl.code uid (some tag)
    | workSource flatUids workChains =>
        have isSupported := supported.resolve_right (by simp)
        rw [Wrapper.call, Java.deliver_workSource maps keys noErrors noChain chained flattened
          lengths isSupported fuel decl.code, Wrapper.chains, List.map_append]
        cases workChains with
        | none =>
            simp only [List.map_map, Option.map_none, Option.getD_none, List.map_nil]
            rfl
        | some chains =>
            simp only [List.map_map, Option.map_some, Option.getD_some]
            rfl
  rw [performAll, delivered, Option.bind_some]
  apply mapM_map_eq_some
  intro chain _
  exact perform_java accepted constants member isPushed isChained declares newer noErrors compiles
    supports chain

end Chained

/-! ## Wrappers of a run -/

/-- The header declares the wrapper of a chained atom. -/
theorem nonChained_declared {request : Request} {registrations : List Registration} {atoms : Atoms}
    (registered : Registered registrations atoms) (ordinary : request.bootstrap = false)
    {types : Signature} (chained : .attributionChain :: types ∈ atoms.signatureInfoMap) :
    ∃ header, (declaredMethods request atoms).find? (fun header => declaredOverload header =
      ⟨"stats_write_non_chained", nativeParameterTypes (.int :: .string :: types)⟩) =
        some header := by
  obtain ⟨rest, keyMem, rfl⟩ := exists_key_of_chained registered chained
  obtain ⟨entry, entryMem, isEntry⟩ := exists_mem_toList keyMem
  have lowers : nativeParameterTypes (.int :: .string :: rest.map lowered) =
      nativeParameterTypes (.int :: .string :: rest) :=
    nativeParameterTypes_lowered (.int :: .string :: rest)
  have declared : ⟨"stats_write_non_chained",
      writeNativeMethodSignature [] entry.1 attributionDecl false⟩ ∈
        declaredMethods request atoms := by
    rw [declaredMethods, ordinary, if_neg (by decide), List.mem_append, List.mem_append]
    exact Or.inr (Or.inl (List.mem_map_of_mem entryMem))
  rw [← Option.isSome_iff_exists, List.find?_isSome, lowers, ← isEntry]
  exact ⟨_, declared, decide_eq_true rfl⟩

section Files

variable {opens : String → Bool} {descriptor : AtomDescriptor} {request : Request}
  {atoms : Atoms} {decl : AtomDecl} {environment : Environment} {later : List Argument}
  (accepted : collateAtoms descriptor request.moduleName {} = (0, atoms))
  (constants : DistinctConstants atoms) (member : decl ∈ elements atoms.decls)
  (isPushed : decl.atomType = .pushed)
  (isChained : decl.signature = .attributionChain :: later.map Argument.type)
  (level : environment.minApiLevel = request.minApiLevel)

include accepted constants member isPushed isChained level

/-- A program that calls a wrapper leaves the events of the atom with the chains. -/
theorem wrapWith_eq (wrapper : Wrapper)
    (declares : environment.platform.DeclaresAnnotations wrapper.platformPrefix)
    (newer : wrapper.logger = .java → environment.minApiLevel = apiQ → environment.sdkInt > apiQ)
    (generated : wrapper.IsGeneratedBy request)
    (provides : Provides (run opens descriptor request).files wrapper.logger)
    (builds : Builds environment atoms (run opens descriptor request).files wrapper.logger)
    (supports : wrapper.logger.Supports environment.minApiLevel decl) (fuel : Nat) :
    wrapWith environment atoms decl.name later (fuel + 3) wrapper
        (run opens descriptor request).files =
      some (wrapper.chains.map fun chain =>
        .event (atomEvent decl (.attributionChain chain.1 chain.2 :: later))) := by
  obtain ⟨registrations, -, registered⟩ := collateAtoms_registered accepted
  have code : (atomConstants atoms).lookup (makeConstantName decl.name) = some decl.code :=
    lookup_constant constants member
  have platform : request.vendorProto = "" := by
    cases wrapper <;> exact generated.1
  have java (usesClass : wrapper.logger = .java) (isClass : wrapper.platformPrefix = "StatsLog.")
      (supported : request.supportWorkSource = true ∨ ∃ uid tag, wrapper = .java uid tag) :
      ((run opens descriptor request).files.lookup .java).bind
          (wrapJava environment atoms decl.name later (fuel + 3) wrapper) =
        some (wrapper.chains.map fun chain =>
          .event (atomEvent decl (.attributionChain chain.1 chain.2 :: later))) := by
    rw [usesClass] at provides builds supports
    rw [isClass] at declares
    obtain ⟨found, status⟩ := exists_class accepted platform provides
    have compiled := builds .java List.mem_cons_self _ found
    change FileCompiles environment atoms (.java _ _ _ (Java.writeStatsLogJava _ atoms
      attributionDecl request.minApiLevel request.supportWorkSource)) at compiled
    have performed := performAll_java accepted constants member isPushed isChained declares
      (newer usesClass) (level ▸ status) (level ▸ compiled) supports fuel usesClass supported
    rw [found, Option.bind_some]
    change ((atomConstants atoms).lookup _).bind _ = _
    rw [code, Option.bind_some, ← level]
    exact performed
  cases wrapper with
  | native uid tag =>
      obtain ⟨methods, source, headerFound, sourceFound⟩ :=
        exists_source accepted platform provides
      have compiled := builds .cpp (List.mem_cons_of_mem _ List.mem_cons_self) _ sourceFound
      obtain ⟨header, declared⟩ := nonChained_declared registered generated.2
        (mem_signatureInfoMap_of_chained registered member isPushed isChained)
      have performed := performAll_native accepted constants member isPushed isChained declares
        (generated.2 ▸ level ▸ source) compiled supports fuel uid tag
      rw [wrapWith, headerFound, sourceFound, Option.bind_some, Option.bind_some]
      change ((atomConstants atoms).lookup _).bind (fun code =>
        ((declaredMethods request atoms).find? _).bind fun _ => _) = _
      rw [code, Option.bind_some]
      exact Option.bind_eq_some_iff.mpr ⟨header, declared, performed⟩
  | java uid tag => exact java rfl rfl (Or.inr ⟨uid, tag, rfl⟩)
  | workSource flatUids workChains => exact java rfl rfl (Or.inl generated.2.2)

end Files

/-! ## Messages with chains -/

/-- The message with another attribution chain, which is field 1. -/
def withChain (message : MessageValue) (chain : List (BitVec 32) × List String) : MessageValue :=
  fun number => if number = 1 then .attributionChain chain.1 chain.2 else message number

theorem callArguments_withChain {registration : Registration}
    (hasChain : HasChain registration.atom) (message : MessageValue)
    (chain : List (BitVec 32) × List String) :
    callArguments registration.atom (withChain message chain) =
      .attributionChain chain.1 chain.2 :: (callArguments registration.atom message).tail := by
  obtain ⟨node, rest, sorted, -⟩ := registration.rule.message.hasChain_iff.mp hasChain
  have number {index : Nat} {field : MessageFieldDescriptor}
      (found : (node :: rest)[index]? = some field) : field.number = 1 + index :=
    number_of_getElem? (sorted ▸ found)
  have isFirst : node.number = 1 := by
    have first : (node :: rest)[0]? = some node := rfl
    simpa using number first
  rw [callArguments, callArguments, sorted, List.map_cons, List.map_cons, List.tail_cons,
    withChain, if_pos isFirst]
  congr 1
  apply List.map_congr_left
  intro field member
  obtain ⟨index, found⟩ := List.getElem?_of_mem member
  have isLater : field.number = 1 + ((index + 1 : Nat) : Int) := number found
  have notFirst : field.number ≠ 1 := by omega
  exact if_neg notFirst

/-- The message with another chain still fits. -/
theorem fits_withChain {registration : Registration} {message : MessageValue}
    (fits : Fits message registration.atom) (hasChain : HasChain registration.atom)
    (chain : List (BitVec 32) × List String) :
    Fits (withChain message chain) registration.atom := by
  intro field member
  rw [withChain]
  split
  · rename_i isFirst
    obtain ⟨rest, -, -, signature⟩ := exists_flattenedSignature registration hasChain
    have typed := callArguments_types fits
    obtain ⟨index, found⟩ := List.getElem?_of_mem (mem_sortedFields.mpr member)
    have isIndex := number_of_getElem? found
    obtain rfl : index = 0 := by omega
    rw [signature, callArguments, List.map_map] at typed
    have isChain := congrArg (fun types : Signature => types[0]?) typed
    rw [List.getElem?_map, found] at isChain
    rw [← fits field member]
    exact (Option.some.inj isChain).symm
  · exact fits field member

/-- A program that is built with the files of a run and calls a wrapper for a pushed atom
leaves the records of the message with the chains that the wrapper makes, in order. -/
theorem wrappers_record_messages (opens : String → Bool) (descriptor : AtomDescriptor)
    (request : Request) (atoms : Atoms)
    (accepted : collateAtoms descriptor request.moduleName {} = (0, atoms))
    (constants : DistinctConstants atoms) (atomField : AtomFieldDescriptor)
    (selected : atomField ∈ selectedAtoms descriptor request.moduleName)
    (pushed : getAtomType atomField.number = .pushed)
    (atom : Descriptor) (type : atomField.type = .message atom) (hasChain : HasChain atom)
    (decl : AtomDecl) (member : decl ∈ elements atoms.decls)
    (code : decl.code = atomField.number) (environment : Environment)
    (level : environment.minApiLevel = request.minApiLevel)
    (message : MessageValue) (fits : Fits message atom) (keeps : KeepsStates atom)
    (wrapper : Wrapper)
    (declares : environment.platform.DeclaresAnnotations wrapper.platformPrefix)
    (newer : wrapper.logger = .java → environment.minApiLevel = apiQ → environment.sdkInt > apiQ)
    (generated : wrapper.IsGeneratedBy request)
    (provides : Provides (run opens descriptor request).files wrapper.logger)
    (builds : Builds environment atoms (run opens descriptor request).files wrapper.logger)
    (supports : wrapper.logger.Supports environment.minApiLevel decl) (fuel : Nat) :
    (wrapWith environment atoms atomField.name (callArguments atom message).tail (fuel + 3)
        wrapper (run opens descriptor request).files).bind
          (fun deliveries => deliveries.mapM Delivery.record) =
      some (wrapper.chains.map fun chain =>
        (recordOf atomField atom (withChain message chain)).map eventLabel) := by
  obtain ⟨registration, rfl, rfl, rfl⟩ :=
    exists_registration_of_code accepted selected type member code
  have isPushed := registration.decl_atomType.trans pushed
  have isChained : registration.decl.signature =
      .attributionChain :: ((callArguments registration.atom message).tail).map Argument.type := by
    obtain ⟨rest, -, -, signature⟩ := exists_flattenedSignature registration hasChain
    rw [List.map_tail, callArguments_types fits, signature, List.tail_cons]
  rw [← registration.decl_name, wrapWith_eq accepted constants member isPushed isChained level
    wrapper declares newer generated provides builds supports fuel, Option.bind_some]
  apply mapM_map_eq_some
  intro chain _
  change readEvent _ = _
  rw [← callArguments_withChain hasChain,
    readEvent_atomEvent (fits_withChain fits hasChain chain) keeps]

/-- A Java class with the methods for work sources. -/
def workSourceOutput : Request where
  filename
    | .java => "StatsLog.java"
    | _ => ""
  javaPackage := "com.vendor"
  javaClass := "StatsLog"
  moduleName := "test"
  supportWorkSource := true
  minApiLevel := apiT

def testAtoms : Atoms :=
  (collateAtoms testDescriptor "test" {}).2

/-- The declaration of the atom of `testDescriptor`. -/
def testDecl : AtomDecl :=
  (testAtoms.decls[(⟨10, "wakelock_state_changed"⟩ : DeclKey)]?).getD {}

theorem mem_testDecl : testDecl ∈ elements testAtoms.decls :=
  getD_mem_elements (by decide) _

/-- An app and a chain of two nodes hold a wakelock. -/
theorem wrappers_record_messages_wakelock :
    (wrapWith declaredEnvironment testAtoms "wakelock_state_changed" [.string "lock", .int 1] 3
        (.workSource [(1000, "app")] (some [([1001, 1002], ["job", "sync"])]))
        (run (fun _ => true) testDescriptor workSourceOutput).files).bind
          (fun deliveries => deliveries.mapM Delivery.record) =
      some ([([1000], ["app"]), ([1001, 1002], ["job", "sync"])].map fun chain =>
        ⟨⟨10, []⟩, [⟨.attributionChain chain.1 chain.2, [⟨5, .bool true⟩]⟩,
          ⟨.string "lock", [⟨3, .bool true⟩]⟩,
          ⟨.int 1, [⟨4, .bool true⟩, ⟨8, .bool true⟩, ⟨7, .int 0⟩]⟩]⟩) :=
  (wrappers_record_messages (fun _ => true) testDescriptor workSourceOutput testAtoms
    (Prod.ext (by decide) rfl) (by decide) _ List.mem_cons_self (by decide) wakelockStateChanged
    rfl ⟨_, List.mem_cons_of_mem _ List.mem_cons_self, rfl, rfl⟩ testDecl mem_testDecl (by decide)
    declaredEnvironment rfl lockMessage (by decide) (by decide)
    (.workSource [(1000, "app")] (some [([1001, 1002], ["job", "sync"])]))
    (declares_declaredEnvironment testAtoms testDecl).java (fun _ => by decide) ⟨rfl, rfl, rfl⟩
    (by decide) (by decide) (Or.inr (Or.inl (by decide))) 0).trans (by decide)

end StatsLogApiGen.Record
