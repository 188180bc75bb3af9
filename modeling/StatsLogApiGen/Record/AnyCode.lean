import StatsLogApiGen.Record.Programs

/-!
# Calls with any code

A generated method takes the code of an atom as a number, and nothing keeps a caller from
passing another one.  This file says what is logged for every code: the annotations of the
atom with the code, if the method serves it, and no annotations of other atoms.
-/

namespace StatsLogApiGen.Record

open Std
open StatsLogApiGen.Container
open StatsLogApiGen.Proto
open StatsLogApiGen.Collation
open StatsLogApiGen.Program
open StatsLogApiGen.Writer

universe u

/-! ## Events -/

/-- A declaration with a code and nothing else. -/
def undeclared (code : Int) : AtomDecl :=
  { code }

/-- The declaration that a method for a signature serves under a code. -/
def servedDecl (atoms : Atoms) (atomType : AtomType) (signature : Signature) (code : Int) :
    Option AtomDecl :=
  (elements atoms.decls).find? fun decl =>
    decl.code = code ∧ decl.atomType = atomType ∧ decl.signature = signature

/-- The event of a call with a code. -/
def eventOfCall (atoms : Atoms) (atomType : AtomType) (code : Int) (arguments : List Argument) :
    List EventOp :=
  match servedDecl atoms atomType (arguments.map Argument.type) code with
  | some decl => atomEvent decl arguments
  | none => .setAtomId code :: arguments.map .write

theorem fieldOps_undeclared (code fieldNumber : Int) (equals : Int → Bool) :
    fieldOps (undeclared code) fieldNumber equals = [] := by
  have none : annotationsOf (undeclared code) fieldNumber = [] :=
    annotationsOf_unannotated { code } fieldNumber
  rw [fieldOps, none]
  rfl

theorem argumentOps_undeclared (code argIndex : Int) (arguments : List Argument) :
    argumentOps (undeclared code) argIndex arguments = arguments.map .write := by
  induction arguments generalizing argIndex with
  | nil => rfl
  | cons argument rest ih =>
      rw [argumentOps, fieldOps_undeclared, ih, List.nil_append, List.map_cons]

theorem atomEvent_undeclared (code : Int) (arguments : List Argument) :
    atomEvent (undeclared code) arguments = .setAtomId code :: arguments.map .write := by
  rw [atomEvent, fieldOps_undeclared, argumentOps_undeclared, List.nil_append]
  rfl

/-! ## Unknown codes -/

/-- No declaration that a method lists has the code. -/
def Unknown (atoms : Atoms) (declSets : FieldNumberToAtomDeclSet) (code : Int) : Prop :=
  ∀ (fieldNumber : Int) (atomDeclSet : AtomDeclSet), declSets[fieldNumber]? = some atomDeclSet →
    ∀ other ∈ elements atomDeclSet, other.code ≠ code ∧
      (atomConstants atoms).lookup (makeConstantName other.name) = some other.code

section Unknown

variable {α : Type u} {recorder : Recorder Condition α EventOp Stuck} {frame : Frame}
  {templates : AnnotationTemplates α} {constants : AnnotationIdConstants} {atoms : Atoms}
  {declSets : FieldNumberToAtomDeclSet} {atomId : Int} {convention : Convention}
  {arguments : List Argument} {signature : Signature} {setAtomId : α}
  {write : Int → JavaType → Except WriterError (List (Code Condition α))}
  {code : List (Code Condition α)}

/-- The annotations of all declarations are skipped. -/
theorem emits_unknownAnnotations (reads : recorder.holds = frame.holds)
    (unknown : Unknown atoms declSets atomId) (runs : RunsAs frame atoms (undeclared atomId))
    (fieldNumber : Int) :
    Emits recorder (.block (writeDeclAnnotations templates constants fieldNumber declSets)) [] := by
  rw [writeDeclAnnotations]
  cases setFound : declSets[fieldNumber]? with
  | none => exact emits_skip
  | some atomDeclSet =>
      have nothing : (elements atomDeclSet).flatMap (fun _ => ([] : List EventOp)) = [] := by
        simp
      rw [← nothing]
      apply emits_block_map
      intro other otherMem
      obtain ⟨different, constant⟩ := unknown fieldNumber atomDeclSet setFound other otherMem
      apply emits_when_false
      rw [reads, Frame.holds_codeIs (runs.atomConstants ▸ constant) runs.code]
      exact congrArg Except.ok (decide_eq_false different)

/-- A body issues the writes alone. -/
theorem emits_unknownBody (reads : recorder.holds = frame.holds)
    (unknown : Unknown atoms declSets atomId) (runs : RunsAs frame atoms (undeclared atomId))
    (typed : arguments.map Argument.type = signature)
    (binds : ∀ (index : Nat) argument, arguments[index]? = some argument →
      convention.Binds frame.bindings (1 + index) argument)
    (sets : recorder.event setAtomId = .ok (.setAtomId atomId))
    (writes : ∀ argIndex argument written, convention.Binds frame.bindings argIndex argument →
      write argIndex argument.type = .ok written →
      Emits recorder (.block written) [.write argument])
    (printed : writeArguments write
      (fun argIndex => writeDeclAnnotations templates constants argIndex declSets) 1
      signature = .ok code) :
    Emits recorder
      (.block (.call setAtomId ::
        (writeDeclAnnotations templates constants atomIdFieldNumber declSets ++ code)))
      (atomEvent (undeclared atomId) arguments) := by
  have nothing (fieldNumber : Int) (equals : Int → Bool) :
      Emits recorder (.block (writeDeclAnnotations templates constants fieldNumber declSets))
        (fieldOps (undeclared atomId) fieldNumber equals) := by
    rw [fieldOps_undeclared]
    exact emits_unknownAnnotations reads unknown runs fieldNumber
  exact emits_annotatedBody typed sets (nothing _ _) (fun _ _ _ => nothing _ _) binds writes printed

end Unknown

/-! ## Any code -/

/-- What the methods for a signature rely on, whatever code they are called with. -/
structure Serves (atoms : Atoms) (atomType : AtomType) (signature : Signature)
    (declSets : FieldNumberToAtomDeclSet) : Prop where
  accepted : AcceptedSignature signature
  logged : ∀ code decl, servedDecl atoms atomType signature code = some decl →
    Logged atoms declSets decl ∧ decl.signature = signature ∧ decl.code = code
  unknown : ∀ code, servedDecl atoms atomType signature code = none →
    Unknown atoms declSets code

/-- What is asked of the declarations that a method for a signature serves. -/
def ForServed (atoms : Atoms) (atomType : AtomType) (signature : Signature)
    (asks : AtomDecl → Prop) : Prop :=
  ∀ decl ∈ elements atoms.decls, decl.atomType = atomType → decl.signature = signature → asks decl

/-- A served declaration is one of the kind and the signature. -/
theorem servedDecl_eq_some {atoms : Atoms} {atomType : AtomType} {signature : Signature}
    {code : Int} {decl : AtomDecl} (served : servedDecl atoms atomType signature code = some decl) :
    decl ∈ elements atoms.decls ∧ decl.code = code ∧ decl.atomType = atomType ∧
      decl.signature = signature := by
  rw [servedDecl] at served
  have isServed := List.find?_some served
  rw [decide_eq_true_eq] at isServed
  exact ⟨List.mem_of_find?_eq_some served, isServed⟩

/-- The entries of an accepted run serve their signatures. -/
theorem serves_of_accepted {descriptor : AtomDescriptor} {moduleName : String} {atoms : Atoms}
    (accepted : collateAtoms descriptor moduleName {} = (0, atoms))
    (constants : DistinctConstants atoms) {atomType : AtomType} {signature : Signature}
    {declSets : FieldNumberToAtomDeclSet}
    (found : (signatureMap atoms atomType)[signature]? = some declSets) :
    Serves atoms atomType signature declSets := by
  obtain ⟨registrations, selected, registered⟩ := collateAtoms_registered accepted
  have faithful := registered.faithful selected
  have indexes : IndexesDecls atoms.decls atomType (signatureMap atoms atomType) := by
    cases atomType with
    | pushed => exact faithful.pushed
    | pulled => exact faithful.pulled
  constructor
  · obtain ⟨decl, member, -, isSignature⟩ :=
      (indexes.signatures signature).mp (mem_iff_exists_getElem?.mpr ⟨declSets, found⟩)
    exact isSignature ▸ acceptedSignature_of_mem registered member
  · intro code decl served
    obtain ⟨member, isCode, rfl, rfl⟩ := servedDecl_eq_some served
    obtain ⟨loggedSets, loggedFound, logged⟩ := exists_logged accepted constants member
    cases loggedFound.symm.trans found
    exact ⟨logged, rfl, isCode⟩
  · intro code unserved fieldNumber atomDeclSet setFound other otherMem
    have isAnnotated := (indexes.mem_elements_iff found).mp ⟨atomDeclSet, setFound, otherMem⟩
    constructor
    · intro isCode
      have served := List.find?_eq_none.mp unserved other isAnnotated.member
      exact served (decide_eq_true ⟨isCode, isAnnotated.atomType, isAnnotated.signature⟩)
    · exact lookup_constant constants isAnnotated.member

section Bodies

variable {α : Type u} {recorder : Recorder Condition α EventOp Stuck} {frame : Frame}
  {templates : AnnotationTemplates α} {constants : AnnotationIdConstants} {atoms : Atoms}
  {atomType : AtomType} {declSets : FieldNumberToAtomDeclSet} {atomId : Int}
  {convention : Convention} {arguments : List Argument} {signature : Signature} {setAtomId : α}
  {write : Int → JavaType → Except WriterError (List (Code Condition α))}
  {code : List (Code Condition α)} {allowed : Int → Prop}

/-- A body issues the event of the code that it is called with. -/
theorem emits_anyBody (reads : recorder.holds = frame.holds)
    (issues : IssuesAnnotations recorder templates constants)
    (categories : IssuesCategories recorder templates constants allowed)
    (serves : Serves atoms atomType signature declSets)
    (issuable : ForServed atoms atomType signature (Issuable 0 frame.comparable allowed))
    (chains : ∀ state, frame.comparable .attributionChain state = false)
    (runs : RunsAs frame atoms (undeclared atomId)) (valid : convention.Valid)
    (typed : arguments.map Argument.type = signature)
    (binds : ∀ (index : Nat) argument, arguments[index]? = some argument →
      convention.Binds frame.bindings (1 + index) argument)
    (sets : recorder.event setAtomId = .ok (.setAtomId atomId))
    (writes : ∀ argIndex argument written, convention.Binds frame.bindings argIndex argument →
      write argIndex argument.type = .ok written →
      Emits recorder (.block written) [.write argument])
    (printed : writeArguments write
      (fun argIndex => writeDeclAnnotations templates constants argIndex declSets) 1
      signature = .ok code) :
    Emits recorder
      (.block (.call setAtomId ::
        (writeDeclAnnotations templates constants atomIdFieldNumber declSets ++ code)))
      (eventOfCall atoms atomType atomId arguments) := by
  rw [eventOfCall, typed]
  cases served : servedDecl atoms atomType signature atomId with
  | none =>
      rw [← atomEvent_undeclared]
      exact emits_unknownBody reads (serves.unknown atomId served) runs typed binds sets writes
        printed
  | some decl =>
      obtain ⟨logged, isSignature, isCode⟩ := serves.logged atomId decl served
      obtain ⟨member, -, kind, -⟩ := servedDecl_eq_some served
      have canIssue := issuable decl member kind isSignature
      subst isSignature isCode
      exact emits_body reads issues categories logged ⟨runs.code, runs.atomConstants⟩ canIssue
        chains valid typed binds sets writes printed

end Bodies

/-- A method for a signature logs every code: called with arguments of the signature that it
passes on whole, it leaves the event of the code. -/
def LogsAnyCode (atoms : Atoms) (overloads : Signature → AtomType → Overload String String)
    (overload : Overload String String) (passes : Argument → Prop)
    (call : Int → List Argument → Except Stuck (List EventOp)) : Prop :=
  ∃ atomType, ∃ signature ∈ signatureMap atoms atomType, overload = overloads signature atomType ∧
    ∀ code arguments, arguments.map Argument.type = signature →
      (∀ argument ∈ arguments, passes argument) →
        call code arguments = .ok (eventOfCall atoms atomType code arguments)

/-- What an event of a call writes are the arguments. -/
theorem mem_of_write_mem_eventOfCall {atoms : Atoms} {atomType : AtomType} {code : Int}
    {arguments : List Argument} {argument : Argument}
    (member : .write argument ∈ eventOfCall atoms atomType code arguments) :
    argument ∈ arguments := by
  rw [eventOfCall] at member
  split at member
  · exact mem_of_write_mem_atomEvent member
  · simpa using member

/-! ## C++ methods -/

section Native

open Native (RunsWith)

variable {atoms : Atoms} {atomType : AtomType} {declSets : FieldNumberToAtomDeclSet}
  {platform : Platform} {minApiLevel atomId : Int} {frame : Frame} {arguments : List Argument}
  {signature : Signature} {code : List (Code Condition Native.EventCall)}
  (serves : Serves atoms atomType signature declSets)
  (typed : arguments.map Argument.type = signature)

include serves typed

section Record

variable (issuable : ForServed atoms atomType signature (Native.Issues minApiLevel))
  (declares : platform.DeclaresAnnotations "ASTATSLOG_")
  (runs : RunsWith frame atoms platform minApiLevel (undeclared atomId) arguments)

include issuable declares runs

theorem nativeMethodBody_anyCode
    (printed : Native.writeNativeMethodBody (getAnnotationIdConstants annotationConstantNamePrefix)
      attributionDecl minApiLevel signature declSets = .ok code) :
    record (Native.recorder .aStatsEvent frame) (.block code) =
      .ok (eventOfCall atoms atomType atomId arguments) := by
  obtain ⟨loop, loopPrinted, rfl⟩ := map_eq_ok_iff.mp printed
  apply Emits.record_eq
  apply emits_anyBody rfl
    (Native.issuesAnnotations declares .aStatsEvent minApiLevel runs.constants)
    (Native.issuesCategories declares .aStatsEvent minApiLevel runs.constants) serves
    (runs.comparable ▸ issuable) (fun _ => by rw [runs.comparable]; rfl) runs.runsAs
    Native.convention_valid typed runs.binds _ _ loopPrinted
  · simp [Native.recorder, Native.EventMethod.perform, Frame.code_eq runs.runsAs.code, Except.map,
      undeclared]
  · intro argIndex argument written binds isWritten
    exact Native.emits_writeNativeArg binds isWritten

theorem compatBody_anyCode
    (printed : Native.writeCompatBody (getAnnotationIdConstants annotationConstantNamePrefix)
      attributionDecl minApiLevel signature declSets = .ok code) :
    record (Native.recorder .statsEventCompat frame) (.block code) =
      .ok (eventOfCall atoms atomType atomId arguments) := by
  obtain ⟨loop, loopPrinted, rfl⟩ := map_eq_ok_iff.mp printed
  apply Emits.record_eq
  apply emits_anyBody rfl
    (Native.issuesAnnotations declares .statsEventCompat minApiLevel runs.constants)
    (Native.issuesCategories declares .statsEventCompat minApiLevel runs.constants) serves
    (runs.comparable ▸ issuable) (fun _ => by rw [runs.comparable]; rfl) runs.runsAs
    Native.convention_valid typed runs.binds _ _ loopPrinted
  · simp [Native.recorder, Native.EventMethod.perform, Frame.code_eq runs.runsAs.code, Except.map,
      undeclared]
  · intro argIndex argument written binds isWritten
    exact Native.emits_writeCompatArg binds isWritten

end Record

end Native

/-! ## Java methods -/

section Java

variable {atoms : Atoms} {atomType : AtomType} {declSets : FieldNumberToAtomDeclSet}
  {platform : Platform} {sdkInt minApiLevel atomId : Int} {arguments : List Argument}
  {signature : Signature} {code : List (Code Condition Java.BuilderMethod)}

/-- A call of a method runs the code of its body with the code that it gets. -/
theorem methodBody_anyCode (serves : Serves atoms atomType signature declSets)
    (issuable : ForServed atoms atomType signature Java.Issues)
    (typed : arguments.map Argument.type = signature)
    (declares : platform.DeclaresAnnotations "StatsLog.") {method : Java.Method}
    (parameters : method.parameters =
      ⟨"int", .code⟩ :: javaSignatureParameters attributionDecl 1 signature)
    (written : Java.writeMethodBody (getAnnotationIdConstants annotationConstantNamePrefix)
      attributionDecl signature declSets = .ok code) :
    record (Java.recorder (Java.frame atoms
        (Java.visibleConstants (getAnnotationIdConstants annotationConstantNamePrefix) platform
          sdkInt minApiLevel) method (.code atomId :: arguments.flatMap plainValues)))
      (.block code) = .ok (eventOfCall atoms atomType atomId arguments) := by
  have bindings : (method.parameters.map Parameter.name).zip
      (.code atomId :: arguments.flatMap plainValues) =
        plainConvention.bind atomId signature arguments := by
    rw [parameters, List.map_cons, Java.javaSignatureParameters_names]
    rfl
  obtain ⟨loop, loopWritten, rfl⟩ := map_eq_ok_iff.mp written
  have runs : RunsAs (Java.frame atoms
      (Java.visibleConstants (getAnnotationIdConstants annotationConstantNamePrefix) platform
        sdkInt minApiLevel) method (.code atomId :: arguments.flatMap plainValues)) atoms
      (undeclared atomId) :=
    ⟨by rw [Java.frame, bindings]; rfl, rfl⟩
  apply Emits.record_eq
  apply emits_anyBody rfl (Java.issuesAnnotations declares sdkInt minApiLevel rfl)
    (Java.issuesCategories declares sdkInt minApiLevel rfl) serves issuable (fun _ => rfl) runs
    plainConvention_valid typed _ _ _ loopWritten
  · intro index argument found
    rw [Java.frame, bindings]
    exact Convention.bind_binds plainConvention_valid serves.accepted typed found
  · simp [Java.recorder, Java.BuilderMethod.perform, Frame.code_eq runs.code, Except.map,
      undeclared]
  · intro argIndex argument argumentCode argumentBinds isWritten
    exact Java.emits_writeArg argumentBinds isWritten

end Java

/-! ## The generated files -/

/-- The methods of a class that build an event themselves on a device.  A `write` for Q builds
none on a device with Q. -/
def buildsEvent (sdkInt : Int) : Java.Body → Bool
  | .write _ | .buildStatsEvent _ => true
  | .writeOrQLogger .. => sdkInt > apiQ
  | .forward _ | .workSource .. => false

section Sources

variable {registrations : List Registration} {atoms : Atoms} {platform : Platform}
  {minApiLevel : Int} (registered : Registered registrations atoms)
  (serves : ∀ atomType signature declSets,
    (signatureMap atoms atomType)[signature]? = some declSets →
      Serves atoms atomType signature declSets)

include registered serves

theorem native_logsAnyCode (declares : platform.DeclaresAnnotations "ASTATSLOG_")
    {methods : List Native.Method}
    (source : Native.writeStatsLogCpp (getAnnotationIdConstants annotationConstantNamePrefix)
      atoms attributionDecl minApiLevel false = .ok methods)
    {method : Native.Method} (member : method ∈ methods)
    (hasEvent : method.body.eventClass?.isSome)
    (compiles : method.Compiles atoms (getAnnotationIdConstants annotationConstantNamePrefix)
      platform minApiLevel) :
    LogsAnyCode atoms nativeOverload method.overload Native.CountsNodes (method.log atoms
      (getAnnotationIdConstants annotationConstantNamePrefix) platform minApiLevel) := by
  have leaves {atomType : AtomType} {code : Int} {arguments : List Argument}
      (counts : ∀ argument ∈ arguments, Native.CountsNodes argument)
      (called : method.call atoms (getAnnotationIdConstants annotationConstantNamePrefix) platform
        minApiLevel code arguments = .ok (eventOfCall atoms atomType code arguments)) :=
    method.log_eq called fun argument isWrite =>
      counts argument (mem_of_write_mem_eventOfCall isWrite)
  rcases (Native.mem_methods_iff source).mp member with
    ⟨entry, entryMem, written⟩ | ⟨entry, -, rfl⟩ | ⟨entry, entryMem, written⟩
  · have found := ExtTreeMap.mem_toList_iff_getElem?_eq_some.mp entryMem
    have served := serves .pushed entry.1 entry.2 found
    have issuable : ForServed atoms .pushed entry.1 (Native.Issues minApiLevel) :=
      (forall_ofSignature_iff registered).mp
        ((Native.compiles_statsWrite_iff registered declares found written).mp compiles)
    refine ⟨.pushed, entry.1, mem_of_mem_toList entryMem,
      (Native.writeNativeStatsWriteMethod_overload written).1, ?_⟩
    intro code arguments typed counts
    apply leaves counts
    obtain ⟨body, printed, rfl⟩ := map_eq_ok_iff.mp written
    rw [if_neg (by decide)] at printed
    split at printed
    · obtain ⟨statements, compatPrinted, rfl⟩ := map_eq_ok_iff.mp printed
      exact compatBody_anyCode served typed issuable declares
        (Native.runsWith_pushed (undeclared code) served.accepted typed rfl) compatPrinted
    · obtain ⟨statements, bodyPrinted, rfl⟩ := map_eq_ok_iff.mp printed
      exact nativeMethodBody_anyCode served typed issuable declares
        (Native.runsWith_pushed (undeclared code) served.accepted typed rfl) bodyPrinted
  · cases hasEvent
  · have found := ExtTreeMap.mem_toList_iff_getElem?_eq_some.mp entryMem
    have served := serves .pulled entry.1 entry.2 found
    have issuable : ForServed atoms .pulled entry.1 (Native.Issues minApiLevel) :=
      (forall_ofSignature_iff registered).mp
        ((Native.compiles_addAStatsEvent_iff registered declares found written).mp compiles)
    refine ⟨.pulled, entry.1, mem_of_mem_toList entryMem, ?_, ?_⟩
    · rw [Native.Method.overload, addAStatsEvent_types written,
        (Native.writeNativeBuildStatsEventMethod_overload written).1]
      rfl
    intro code arguments typed counts
    apply leaves counts
    obtain ⟨statements, bodyPrinted, rfl⟩ := map_eq_ok_iff.mp written
    exact nativeMethodBody_anyCode served typed issuable declares
      (Native.runsWith_pulled (undeclared code) served.accepted typed rfl) bodyPrinted

theorem java_logsAnyCode (declares : platform.DeclaresAnnotations "StatsLog.") {sdkInt : Int}
    {supportWorkSource : Bool}
    (noErrors : (Java.writeStatsLogJava (getAnnotationIdConstants annotationConstantNamePrefix)
      atoms attributionDecl minApiLevel supportWorkSource).errors = 0)
    {method : Java.Method}
    (member : method ∈ (Java.writeStatsLogJava
      (getAnnotationIdConstants annotationConstantNamePrefix) atoms attributionDecl minApiLevel
        supportWorkSource).methods)
    (hasEvent : buildsEvent sdkInt method.body)
    (compiles : method.Compiles atoms (getAnnotationIdConstants annotationConstantNamePrefix)
      platform sdkInt minApiLevel) :
    LogsAnyCode atoms javaOverload method.overload (fun _ => True) (method.call atoms
      (getAnnotationIdConstants annotationConstantNamePrefix) platform sdkInt minApiLevel) := by
  rcases (Java.mem_methods_iff noErrors).mp member with
    ⟨entry, entryMem, written⟩ | ⟨entry, -, written⟩ | ⟨entry, entryMem, written⟩ |
      ⟨-, entry, -, methods, written, methodMem⟩
  · have found := ExtTreeMap.mem_toList_iff_getElem?_eq_some.mp entryMem
    have served := serves .pushed entry.1 entry.2 found
    have issuable : ForServed atoms .pushed entry.1 Java.Issues :=
      (forall_ofSignature_iff registered).mp
        ((Java.compiles_write_iff registered declares found written).mp compiles)
    refine ⟨.pushed, entry.1, mem_of_mem_toList entryMem,
      (Java.writeJavaPushedMethod_overload served.accepted written).1, ?_⟩
    intro code arguments typed _
    have parameters : Java.printedParameters entry.1 attributionDecl =
        javaSignatureParameters attributionDecl 1 entry.1 := by
      rw [Java.printedParameters, Java.writeJavaMethodSignature_eq]
    obtain ⟨statements, bodyWritten, rest⟩ := bind_eq_ok_iff.mp written
    dsimp only at rest
    split at rest
    · obtain ⟨qLoggerCall, -, rfl⟩ := map_eq_ok_iff.mp rest
      have newer : sdkInt > apiQ := of_decide_eq_true hasEvent
      rw [Java.Method.call, Java.Body.events, if_pos newer]
      exact methodBody_anyCode served issuable typed declares (by rw [parameters]) bodyWritten
    · rw [Except.ok.injEq] at rest
      subst rest
      exact methodBody_anyCode served issuable typed declares (by rw [parameters]) bodyWritten
  · obtain ⟨parameters, -, rfl⟩ := map_eq_ok_iff.mp written
    cases hasEvent
  · have found := ExtTreeMap.mem_toList_iff_getElem?_eq_some.mp entryMem
    have served := serves .pulled entry.1 entry.2 found
    have issuable : ForServed atoms .pulled entry.1 Java.Issues :=
      (forall_ofSignature_iff registered).mp
        ((Java.compiles_buildStatsEvent_iff registered declares found written).mp compiles)
    refine ⟨.pulled, entry.1, mem_of_mem_toList entryMem,
      writeJavaPulledMethod_overload written, ?_⟩
    intro code arguments typed _
    obtain ⟨parameters, isParameters, rest⟩ := bind_eq_ok_iff.mp written
    rw [Java.writeJavaMethodSignature_eq, Except.ok.injEq] at isParameters
    subst isParameters
    obtain ⟨statements, bodyWritten, rfl⟩ := map_eq_ok_iff.mp rest
    exact methodBody_anyCode served issuable typed declares rfl bodyWritten
  · obtain ⟨attributionArg, -, rfl⟩ := map_eq_ok_iff.mp written
    split at methodMem
    · cases methodMem
    · rw [List.mem_singleton.mp methodMem] at hasEvent
      cases hasEvent

end Sources

/-- Every generated C++ and Java method that builds an event logs every code, if it compiles. -/
structure LogEveryCode (atoms : Atoms) (platform : Platform) (minApiLevel : Int) : Prop where
  native : ∀ methods,
    Native.writeStatsLogCpp (getAnnotationIdConstants annotationConstantNamePrefix) atoms
      attributionDecl minApiLevel false = .ok methods →
    ∀ method ∈ methods, method.body.eventClass?.isSome →
      method.Compiles atoms (getAnnotationIdConstants annotationConstantNamePrefix) platform
        minApiLevel →
      LogsAnyCode atoms nativeOverload method.overload Native.CountsNodes (method.log atoms
        (getAnnotationIdConstants annotationConstantNamePrefix) platform minApiLevel)
  java : ∀ sdkInt supportWorkSource,
    (Java.writeStatsLogJava (getAnnotationIdConstants annotationConstantNamePrefix) atoms
      attributionDecl minApiLevel supportWorkSource).errors = 0 →
    ∀ method ∈ (Java.writeStatsLogJava (getAnnotationIdConstants annotationConstantNamePrefix)
        atoms attributionDecl minApiLevel supportWorkSource).methods,
      buildsEvent sdkInt method.body →
      method.Compiles atoms (getAnnotationIdConstants annotationConstantNamePrefix) platform sdkInt
        minApiLevel →
      LogsAnyCode atoms javaOverload method.overload (fun _ => True) (method.call atoms
        (getAnnotationIdConstants annotationConstantNamePrefix) platform sdkInt minApiLevel)

/-- In an accepted run a caller may pass any code.  With the code of an atom of the kind and the
signature the event is the one of the atom, and with another code it has no annotations. -/
theorem methods_log_every_code (descriptor : AtomDescriptor) (moduleName : String) (atoms : Atoms)
    (accepted : collateAtoms descriptor moduleName {} = (0, atoms))
    (constants : DistinctConstants atoms) (platform : Platform)
    (native : platform.DeclaresAnnotations "ASTATSLOG_")
    (java : platform.DeclaresAnnotations "StatsLog.") (minApiLevel : Int) :
    LogEveryCode atoms platform minApiLevel := by
  obtain ⟨registrations, -, registered⟩ := collateAtoms_registered accepted
  have serves := fun atomType signature declSets =>
    @serves_of_accepted _ _ _ accepted constants atomType signature declSets
  constructor
  · intro methods source method member hasEvent compiles
    exact native_logsAnyCode registered serves native source member hasEvent compiles
  · intro sdkInt supportWorkSource noErrors method member hasEvent compiles
    exact java_logsAnyCode registered serves java noErrors member hasEvent compiles

/-- A method of the wakelock takes the code of the pulled atom. -/
example : eventOfCall wakelockAtoms .pushed 10016
    [.attributionChain [1000] ["tag"], .string "lock", .int 1] =
      [.setAtomId 10016, .write (.attributionChain [1000] ["tag"]), .write (.string "lock"),
        .write (.int 1)] := by
  decide

theorem methods_log_every_code_wakelock :
    LogEveryCode wakelockAtoms declaredEnvironment.platform apiT :=
  let declares := declares_declaredEnvironment wakelockAtoms wakelockDecl
  methods_log_every_code wakelockDescriptor defaultModuleName wakelockAtoms
    (Prod.ext (by decide) rfl) (by decide) declaredEnvironment.platform declares.native
    declares.java apiT

end StatsLogApiGen.Record
