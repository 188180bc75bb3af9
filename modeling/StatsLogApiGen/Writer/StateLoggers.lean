import StatsLogApiGen.Rust.Agreement
import StatsLogApiGen.Rust.Hygiene

/-!
# Loggers that reset a state

The five loggers of an atom attach the same resets.  They are the declared ones unless a
declared state is -1, which every writer takes for no state, or the comparison with the state
cannot be compiled or is not exact.
-/

namespace StatsLogApiGen.Writer

open Std
open StatsLogApiGen.Container
open StatsLogApiGen.Proto
open StatsLogApiGen.Collation
open StatsLogApiGen.Vendor

/-! ## Loggers -/

/-- The writers that generate a logger. -/
inductive Logger where
  | native
  | java
  | rust
  | vendorNative
  | vendorJava
  deriving DecidableEq, Repr

/-- What surrounds the generated code: the constants that it refers to, the version of
the device, and the lowest level that it is generated for. -/
structure Environment where
  platform : Platform
  vendorNative : Platform
  vendorJava : Platform
  sdkInt : Int
  minApiLevel : Int

/-- The numbers that a parcel has for annotations. -/
def Environment.numbers (environment : Environment) : AnnotationNumbers :=
  numbersOf environment.vendorNative

/-- The platform declares its constants for annotations. -/
structure Environment.Declares (environment : Environment) (atoms : Atoms) (decl : AtomDecl) :
    Prop where
  native : environment.platform.DeclaresAnnotations "ASTATSLOG_"
  java : environment.platform.DeclaresAnnotations "StatsLog."
  vendor : SameConstants environment.vendorNative environment.vendorJava atoms decl
  distinct : DistinctReset environment.numbers decl

/-- The Java method that is generated for the signature of an atom: `write` or
`buildStatsEvent`. -/
def javaMethod (constants : AnnotationIdConstants) (minApiLevel : Int) (decl : AtomDecl)
    (declSets : FieldNumberToAtomDeclSet) : Except WriterError StatsLogApiGen.Java.Method :=
  match decl.atomType with
  | .pushed => Java.writeJavaPushedMethod constants attributionDecl minApiLevel
      (decl.signature, declSets)
  | .pulled => Java.writeJavaPulledMethod constants attributionDecl minApiLevel
      (decl.signature, declSets)

/-- What is attached to an event.  Where there is none, nothing is. -/
def attached : Except Stuck (List EventOp) → Option (List EventOp)
  | .ok events => some events
  | .error .noEvent => some []
  | .error _ => none

namespace Logger

/-- The atoms that a logger is generated for. -/
def Supports (minApiLevel : Int) (decl : AtomDecl) : Logger → Prop
  | .native => minApiLevel ≥ apiT ∨ containsRepeatedField decl.signature = false
  | .java => decl.atomType = .pulled ∨ minApiLevel ≠ apiQ ∨
      containsRepeatedField decl.signature = false
  | .rust => minApiLevel ≠ apiQ ∧ Rust.hasRepeatedField decl = false
  | .vendorNative | .vendorJava => decl.atomType = .pushed ∧
      JavaType.attributionChain ∉ decl.signature

/-- The arguments with which a logger gets to its end. -/
def Accepts (arguments : List Argument) : Logger → Prop
  | .rust => ∀ argument ∈ arguments, Rust.converts argument = true
  | _ => True

/-- The method of an atom compiles, and in Rust its names refer to what they are meant to. -/
def Compiles (environment : Environment) (atoms : Atoms) (decl : AtomDecl) : Logger → Prop
  | .native =>
      let constants := getAnnotationIdConstants annotationConstantNamePrefix
      ∃ declSets method, (signatureMap atoms decl.atomType)[decl.signature]? = some declSets ∧
        Rust.nativeMethod constants environment.minApiLevel decl declSets = .ok method ∧
        method.Compiles atoms constants environment.platform environment.minApiLevel
  | .java =>
      let constants := getAnnotationIdConstants annotationConstantNamePrefix
      ∃ declSets method, (signatureMap atoms decl.atomType)[decl.signature]? = some declSets ∧
        javaMethod constants environment.minApiLevel decl declSets = .ok method ∧
        method.Compiles atoms constants environment.platform environment.sdkInt
          environment.minApiLevel
  | .rust =>
      let constants := getAnnotationIdConstants annotationConstantNamePrefix
      ∃ function, Rust.writeRustStatsWriteMethod constants attributionDecl
          environment.minApiLevel decl = .ok function ∧
        function.ComparesIntegers (Rust.writeRustAtomConstantValues decl) ∧
        Rust.Hygienic function
  | .vendorNative =>
      let constants := getAnnotationIdConstants annotationConstantNameVendorNativePrefix
      ∃ declSets method, atoms.signatureInfoMap[decl.signature]? = some declSets ∧
        Vendor.Native.writeNativeCreateVendorAtomMethod constants attributionDecl
          (decl.signature, declSets) = .ok method ∧
        method.Compiles atoms environment.vendorNative
  | .vendorJava =>
      let constants := getAnnotationIdConstants annotationConstantNameVendorPrefix
      ∃ declSets method, atoms.signatureInfoMap[decl.signature]? = some declSets ∧
        Vendor.Java.writeJavaPushedMethodVendor constants (decl.signature, declSets) =
          .ok method ∧
        method.Compiles atoms environment.vendorJava

/-- The states that the logger of an atom resets the argument at an index to when it is
called with the code of the atom. -/
def resets (environment : Environment) (atoms : Atoms) (decl : AtomDecl)
    (arguments : List Argument) (index : Nat) : Logger → Option (List Int)
  | .native => do
      let constants := getAnnotationIdConstants annotationConstantNamePrefix
      let declSets ← (signatureMap atoms decl.atomType)[decl.signature]?
      let method ← (Rust.nativeMethod constants environment.minApiLevel decl declSets).toOption
      let events ← attached (method.call atoms constants environment.platform
        environment.minApiLevel decl.code arguments)
      return resetsAfterWrite index events
  | .java => do
      let constants := getAnnotationIdConstants annotationConstantNamePrefix
      let declSets ← (signatureMap atoms decl.atomType)[decl.signature]?
      let method ← (javaMethod constants environment.minApiLevel decl declSets).toOption
      let events ← attached (method.call atoms constants environment.platform
        environment.sdkInt environment.minApiLevel decl.code arguments)
      return resetsAfterWrite index events
  | .rust => do
      let constants := getAnnotationIdConstants annotationConstantNamePrefix
      let function ← (Rust.writeRustStatsWriteMethod constants attributionDecl
        environment.minApiLevel decl).toOption
      let events ← (function.call atoms constants arguments).toOption
      return resetsAfterWrite index events
  | .vendorNative => do
      let constants := getAnnotationIdConstants annotationConstantNameVendorNativePrefix
      let declSets ← atoms.signatureInfoMap[decl.signature]?
      let method ← (Vendor.Native.writeNativeCreateVendorAtomMethod constants attributionDecl
        (decl.signature, declSets)).toOption
      let atom ← (method.call atoms environment.vendorNative decl.code arguments).toOption
      return parcelResets (environment.numbers.annotationId .triggerStateReset) index atom
  | .vendorJava => do
      let constants := getAnnotationIdConstants annotationConstantNameVendorPrefix
      let declSets ← atoms.signatureInfoMap[decl.signature]?
      let method ← (Vendor.Java.writeJavaPushedMethodVendor constants
        (decl.signature, declSets)).toOption
      let atom ← (method.call atoms environment.vendorJava decl.code arguments).toOption
      return parcelResets (environment.numbers.annotationId .triggerStateReset) index atom

end Logger

/-- The logger of an atom compiles, and it resets the argument at an index to the default state
exactly when it is the state that triggers a reset, and never to another state. -/
structure ResetsState (logger : Logger) (environment : Environment) (atoms : Atoms)
    (decl : AtomDecl) (index : Nat) (defaultState resetState : Int) : Prop where
  compiles : logger.Compiles environment atoms decl
  resets : ∀ arguments : List Argument, arguments.map Argument.type = decl.signature →
    logger.Accepts arguments → ∀ argument, arguments[index]? = some argument →
      logger.resets environment atoms decl arguments index =
        some (if argument.isNumber resetState then [defaultState] else [])

/-! ## Loggers that compile -/

/-- What the logger of an atom names is declared, and what it compares can be compared.  The
methods, but not the functions of Rust, are shared by the atoms of a signature. -/
def Logger.Compilable (environment : Environment) (atoms : Atoms) (decl : AtomDecl) :
    Logger → Prop
  | .native => ∀ other ∈ elements atoms.decls, other.atomType = decl.atomType →
      other.signature = decl.signature → Native.Issues environment.minApiLevel other
  | .java => ∀ other ∈ elements atoms.decls, other.atomType = decl.atomType →
      other.signature = decl.signature → Java.Issues other
  | .rust => Rust.Issues decl ∧ Rust.NamesApart decl
  | .vendorNative => Vendor.Native.Compilable environment.vendorNative atoms decl.signature
  | .vendorJava => Vendor.Java.Compilable atoms decl.signature

section Compilable

variable {atoms : Atoms} {environment : Environment} {declSets : FieldNumberToAtomDeclSet}
  {decl : AtomDecl}

theorem exists_nativeMethod (logged : Logged atoms declSets decl) {minApiLevel : Int}
    (supports : Logger.native.Supports minApiLevel decl) :
    ∃ method, Rust.nativeMethod (getAnnotationIdConstants annotationConstantNamePrefix)
      minApiLevel decl declSets = .ok method := by
  have supported : (decide (minApiLevel ≥ apiT) || !containsRepeatedField decl.signature) =
      true := by
    simpa [Logger.Supports] using supports
  have accepted := mem_signatureTypes logged.accepted
  rw [← isOk_iff_exists, Rust.nativeMethod]
  cases decl.atomType with
  | pushed => exact (Native.writeNativeStatsWriteMethod_isOk _ accepted _ _).trans supported
  | pulled => exact (Native.writeNativeBuildStatsEventMethod_isOk _ accepted _ _).trans supported

theorem exists_javaMethod (logged : Logged atoms declSets decl) {minApiLevel : Int}
    (supports : Logger.java.Supports minApiLevel decl) :
    ∃ method, javaMethod (getAnnotationIdConstants annotationConstantNamePrefix) minApiLevel decl
      declSets = .ok method := by
  have accepted := mem_signatureTypes logged.accepted
  rw [← isOk_iff_exists, javaMethod]
  cases kind : decl.atomType with
  | pushed =>
      have supported := supports.resolve_left (by rw [kind]; decide)
      exact (Java.writeJavaPushedMethod_isOk _ _ accepted _).trans (by simpa using supported)
  | pulled => exact Java.writeJavaPulledMethod_isOk _ _ accepted _

theorem exists_rustFunction (logged : Logged atoms declSets decl) {minApiLevel : Int}
    (supports : Logger.rust.Supports minApiLevel decl) :
    ∃ function, Rust.writeRustStatsWriteMethod
      (getAnnotationIdConstants annotationConstantNamePrefix) attributionDecl minApiLevel decl =
        .ok function := by
  rw [← isOk_iff_exists, Rust.writeRustStatsWriteMethod, isOk_map]
  exact Rust.writeRustMethodBody_isOk _ (mem_signatureTypes logged.accepted) supports.1 supports.2

section Methods

variable {registrations : List Registration} (registered : Registered registrations atoms)

include registered

/-- The native method of an atom compiles when the atoms of its signature can be issued. -/
theorem compiles_nativeMethod_iff {platform : Platform} {minApiLevel : Int}
    (declares : platform.DeclaresAnnotations "ASTATSLOG_")
    (found : (signatureMap atoms decl.atomType)[decl.signature]? = some declSets)
    {method : StatsLogApiGen.Native.Method}
    (written : Rust.nativeMethod (getAnnotationIdConstants annotationConstantNamePrefix)
      minApiLevel decl declSets = .ok method) :
    method.Compiles atoms (getAnnotationIdConstants annotationConstantNamePrefix) platform
        minApiLevel ↔
      ∀ other ∈ elements atoms.decls, other.atomType = decl.atomType →
        other.signature = decl.signature → Native.Issues minApiLevel other := by
  rw [Rust.nativeMethod] at written
  rw [← forall_ofSignature_iff registered]
  cases kind : decl.atomType with
  | pushed =>
      rw [kind] at found written
      exact @Native.compiles_statsWrite_iff _ _ registered _ declares _ (decl.signature, declSets)
        found _ written
  | pulled =>
      rw [kind] at found written
      exact @Native.compiles_addAStatsEvent_iff _ _ registered _ declares _
        (decl.signature, declSets) found _ written

theorem compiles_javaMethod_iff {platform : Platform} (sdkInt : Int) {minApiLevel : Int}
    (declares : platform.DeclaresAnnotations "StatsLog.")
    (found : (signatureMap atoms decl.atomType)[decl.signature]? = some declSets)
    {method : StatsLogApiGen.Java.Method}
    (written : javaMethod (getAnnotationIdConstants annotationConstantNamePrefix) minApiLevel decl
      declSets = .ok method) :
    method.Compiles atoms (getAnnotationIdConstants annotationConstantNamePrefix) platform sdkInt
        minApiLevel ↔
      ∀ other ∈ elements atoms.decls, other.atomType = decl.atomType →
        other.signature = decl.signature → Java.Issues other := by
  rw [javaMethod] at written
  rw [← forall_ofSignature_iff registered]
  cases kind : decl.atomType with
  | pushed =>
      rw [kind] at found written
      exact @Java.compiles_write_iff _ _ registered _ declares _ _ (decl.signature, declSets) found
        _ written
  | pulled =>
      rw [kind] at found written
      exact @Java.compiles_buildStatsEvent_iff _ _ registered _ declares _ _
        (decl.signature, declSets) found _ written

/-- The function of an atom compares integers when it can be issued. -/
theorem comparesIntegers_function_iff (member : decl ∈ elements atoms.decls) {minApiLevel : Int}
    {function : Rust.Function}
    (written : Rust.writeRustStatsWriteMethod
      (getAnnotationIdConstants annotationConstantNamePrefix) attributionDecl minApiLevel decl =
        .ok function) :
    function.ComparesIntegers (Rust.writeRustAtomConstantValues decl) ↔ Rust.Issues decl := by
  obtain ⟨registration, -, rfl⟩ := List.mem_map.mp (registered.decls.mem_elements.mp member)
  rw [Rust.comparesIntegers_statsWrite_iff written]
  exact ⟨fun compared => ⟨fun _ _ _ _ _ _ => trivial, compared⟩, fun issuable => issuable.compared⟩

end Methods

variable {descriptor : AtomDescriptor} {moduleName : String}
  (accepted : collateAtoms descriptor moduleName {} = (0, atoms))
  (constants : DistinctConstants atoms) (member : decl ∈ elements atoms.decls)
  (declares : environment.Declares atoms decl)

include accepted constants member declares

/-- The logger of an atom compiles when it can be compiled. -/
theorem Logger.compiles_iff (logger : Logger)
    (supports : logger.Supports environment.minApiLevel decl) :
    logger.Compiles environment atoms decl ↔ logger.Compilable environment atoms decl := by
  obtain ⟨declSets, found, logged⟩ := exists_logged accepted constants member
  obtain ⟨registrations, -, registered⟩ := collateAtoms_registered accepted
  cases logger with
  | native =>
      obtain ⟨method, written⟩ := exists_nativeMethod logged supports
      rw [Compilable, ← compiles_nativeMethod_iff registered declares.native found written]
      simp [Compiles, found, written]
  | java =>
      obtain ⟨method, written⟩ := exists_javaMethod logged supports
      rw [Compilable,
        ← compiles_javaMethod_iff registered environment.sdkInt declares.java found written]
      simp [Compiles, found, written]
  | rust =>
      obtain ⟨function, written⟩ := exists_rustFunction logged supports
      rw [Compilable, ← comparesIntegers_function_iff registered member written,
        ← Rust.hygienic_iff_namesApart registered member written]
      simp [Compiles, written]
  | vendorNative =>
      obtain ⟨pushed, noChain⟩ := supports
      rw [pushed] at found
      have found : atoms.signatureInfoMap[decl.signature]? = some declSets := found
      obtain ⟨method, written⟩ := isOk_iff_exists.mp
        (Vendor.Native.writeNativeCreateVendorAtomMethod_isOk
          (getAnnotationIdConstants annotationConstantNameVendorNativePrefix) logged.accepted
          declSets)
      rw [Compilable, ← declares.vendor.compiles_native_iff registered found written]
      simp [Compiles, found, written]
  | vendorJava =>
      obtain ⟨pushed, noChain⟩ := supports
      rw [pushed] at found
      have found : atoms.signatureInfoMap[decl.signature]? = some declSets := found
      obtain ⟨method, written⟩ := isOk_iff_exists.mp
        ((Vendor.Java.writeJavaPushedMethodVendor_isOk
          (getAnnotationIdConstants annotationConstantNameVendorPrefix) logged.accepted
          declSets).mpr noChain)
      rw [Compilable, ← declares.vendor.compiles_java_iff registered found written]
      simp [Compiles, found, written]

omit constants declares in
/-- The logger of an atom can be compiled when states are integers, no atom that shares the
logger is restricted, and the names of Rust are apart. -/
theorem Logger.compilable_of_unrestricted (resets : IntegerResets atoms)
    (notShared : ¬SharesRestricted descriptor moduleName decl) (logger : Logger)
    (supports : logger.Supports environment.minApiLevel decl)
    (apart : logger = .rust → Rust.NamesApart decl)
    (startsWithString : logger = .vendorNative ∨ logger = .vendorJava →
      decl.signature.head? = some .string) :
    logger.Compilable environment atoms decl := by
  obtain ⟨registrations, selected, registered⟩ := collateAtoms_registered accepted
  cases logger with
  | native =>
      exact forall_issuable_of_unrestricted registered selected resets notShared
        cppComparable_of_isInteger
  | java =>
      exact forall_issuable_of_unrestricted registered selected resets notShared
        javaComparable_of_isInteger
  | rust => exact ⟨Rust.issues_of_integerResets resets member, apart rfl⟩
  | vendorNative =>
      exact ((compilable_iff_unrestricted accepted resets environment.vendorNative supports.1
        (startsWithString (Or.inl rfl))).mpr notShared).1
  | vendorJava =>
      exact ((compilable_iff_unrestricted accepted resets environment.vendorNative supports.1
        (startsWithString (Or.inr rfl))).mpr notShared).2

end Compilable

/-! ## What loggers attach -/

/-- The logger of an atom looks at the annotations of the argument at an index.  A `write` for Q
has no event on a device with Q, and the first argument of a vendor atom is no value. -/
def Logger.Annotates (environment : Environment) (decl : AtomDecl) (index : Nat) : Logger → Prop
  | .java => decl.atomType = .pushed → environment.minApiLevel = apiQ → environment.sdkInt > apiQ
  | .vendorNative | .vendorJava => 1 ≤ index
  | _ => True

section Attached

variable {descriptor : AtomDescriptor} {moduleName : String} {atoms : Atoms}
  {environment : Environment} {declSets : FieldNumberToAtomDeclSet} {decl : AtomDecl}
  {arguments : List Argument}

theorem nativeMethod_events (logged : Logged atoms declSets decl)
    (issuable : Native.Issues environment.minApiLevel decl)
    (typed : arguments.map Argument.type = decl.signature)
    (declares : environment.platform.DeclaresAnnotations "ASTATSLOG_")
    (supports : Logger.native.Supports environment.minApiLevel decl) :
    ∃ method,
      Rust.nativeMethod (getAnnotationIdConstants annotationConstantNamePrefix)
        environment.minApiLevel decl declSets = .ok method ∧
      method.call atoms (getAnnotationIdConstants annotationConstantNamePrefix)
        environment.platform environment.minApiLevel decl.code arguments =
          .ok (atomEvent decl arguments) := by
  rw [Rust.nativeMethod]
  cases decl.atomType with
  | pulled => exact Native.addAStatsEvent_events logged typed declares issuable supports
  | pushed =>
      by_cases isQ : environment.minApiLevel = apiQ
      · rw [isQ] at issuable supports ⊢
        have notRepeated := supports.resolve_left (by decide)
        obtain ⟨method, written, -, events⟩ :=
          Native.statsWrite_statsEventCompat logged typed declares issuable notRepeated
        exact ⟨method, written, events⟩
      · obtain ⟨method, written, -, events⟩ :=
          Native.statsWrite_aStatsEvent logged typed declares issuable isQ supports
        exact ⟨method, written, events⟩

theorem javaMethod_events (logged : Logged atoms declSets decl) (issuable : Java.Issues decl)
    (typed : arguments.map Argument.type = decl.signature)
    (declares : environment.platform.DeclaresAnnotations "StatsLog.")
    (supports : Logger.java.Supports environment.minApiLevel decl) {index : Nat}
    (annotates : Logger.java.Annotates environment decl index) :
    ∃ method,
      javaMethod (getAnnotationIdConstants annotationConstantNamePrefix)
        environment.minApiLevel decl declSets = .ok method ∧
      method.call atoms (getAnnotationIdConstants annotationConstantNamePrefix)
        environment.platform environment.sdkInt environment.minApiLevel decl.code arguments =
          .ok (atomEvent decl arguments) := by
  rw [javaMethod]
  cases kind : decl.atomType with
  | pulled => exact Java.buildStatsEvent_events logged issuable typed declares
  | pushed =>
      apply Java.write_events logged issuable typed declares _ (annotates kind)
      exact supports.resolve_left (by rw [kind]; decide)

/-- The parcel of an atom has no annotation set for the reverse domain name. -/
theorem parcelResets_first {numbers : AnnotationNumbers} {name : String} {rest : List Argument}
    (resetNumber : Int) : parcelResets resetNumber 0 (vendorAtom numbers decl name rest) = [] := by
  have noParcels : valueParcels (((0 : Nat) : Int) - 1) (vendorAtom numbers decl name rest) = [] :=
    valueParcels_vendorAtom_neg (by decide)
  rw [valueParcels, List.flatMap_eq_nil_iff] at noParcels
  rw [parcelResets, List.flatMap_eq_nil_iff]
  intro annotationSet listed
  rw [setResets_eq, noParcels annotationSet listed]
  rfl

variable (accepted : collateAtoms descriptor moduleName {} = (0, atoms))
  (constants : DistinctConstants atoms) (variants : Rust.DistinctVariants atoms)
  (member : decl ∈ elements atoms.decls) (declares : environment.Declares atoms decl)

include accepted constants member declares

/-- The vendor writers read the resets off the parcel of the atom. -/
theorem Logger.resets_vendor {logger : Logger}
    (isVendor : logger = .vendorNative ∨ logger = .vendorJava)
    (supports : logger.Supports environment.minApiLevel decl)
    (compilable : logger.Compilable environment atoms decl)
    (typed : arguments.map Argument.type = decl.signature) (index : Nat) :
    ∃ first name rest, arguments = first :: rest ∧
      logger.resets environment atoms decl arguments index =
        some (parcelResets (environment.numbers.annotationId .triggerStateReset) index
          (vendorAtom environment.numbers decl name rest)) := by
  obtain ⟨registrations, -, registered⟩ := collateAtoms_registered accepted
  rcases isVendor with rfl | rfl
  · obtain ⟨pushed, noChain⟩ := supports
    obtain ⟨declSets, setsFound, creatable⟩ :=
      exists_creatable accepted constants member pushed noChain
    have issuable := compilable.issuable decl member pushed rfl
    obtain ⟨first, name, rest, rfl, assigned⟩ := exists_assignedName compilable.assigns typed
    obtain ⟨method, written, atom⟩ :=
      Vendor.Native.call_createVendorAtom creatable typed assigned issuable.compared
        (declares.vendor.numbered_native_of_issuable registered member pushed issuable)
    refine ⟨first, name, rest, rfl, ?_⟩
    simp [resets, setsFound, written, atom, Except.toOption, Environment.numbers]
  · obtain ⟨pushed, noChain⟩ := supports
    obtain ⟨declSets, setsFound, creatable⟩ :=
      exists_creatable accepted constants member pushed noChain
    have issuable := compilable.issuable decl member pushed rfl
    obtain ⟨name, rest, rfl⟩ := exists_domainName compilable.startsWithString typed
    obtain ⟨method, written, final, ran, isAtom, -⟩ :=
      Vendor.Java.run_createVendorAtom creatable typed issuable.compared
        (declares.vendor.numbered_java_of_issuable registered member pushed issuable)
    refine ⟨.string name, name, rest, rfl, ?_⟩
    simp [resets, setsFound, written, Vendor.Java.Method.call, ran, isAtom, Except.map,
      Except.toOption, Environment.numbers]

/-- What a logger attaches to an argument whose annotations it looks at follows the declared
states that it finds. -/
theorem Logger.resets_eq (variants : Rust.DistinctVariants atoms) {logger : Logger}
    (supports : logger.Supports environment.minApiLevel decl)
    (compilable : logger.Compilable environment atoms decl) {index : Nat}
    (annotates : logger.Annotates environment decl index)
    (typed : arguments.map Argument.type = decl.signature)
    (accepts : logger.Accepts arguments) {argument : Argument}
    (found : arguments[index]? = some argument) :
    logger.resets environment atoms decl arguments index =
      some (stateResets (annotationsOf decl (1 + index)) argument.equals) := by
  obtain ⟨declSets, setsFound, logged⟩ := exists_logged accepted constants member
  have ofVendor (isVendor : logger = .vendorNative ∨ logger = .vendorJava) (isValue : 1 ≤ index) :
      logger.resets environment atoms decl arguments index =
        some (stateResets (annotationsOf decl (1 + index)) argument.equals) := by
    obtain ⟨first, name, rest, rfl, resets⟩ := Logger.resets_vendor accepted constants member
      declares isVendor supports compilable typed index
    obtain ⟨position, rfl⟩ := Nat.exists_eq_add_of_le' isValue
    rw [List.getElem?_cons_succ] at found
    rw [resets, parcelResets_vendorAtom declares.distinct found]
  cases logger with
  | native =>
      obtain ⟨method, written, events⟩ := nativeMethod_events logged
        (compilable decl member rfl rfl) typed declares.native supports
      simp [resets, setsFound, written, events, Except.toOption, attached,
        resetsAfterWrite_atomEvent found]
  | java =>
      obtain ⟨method, written, events⟩ := javaMethod_events logged
        (compilable decl member rfl rfl) typed declares.java supports annotates
      simp [resets, setsFound, written, events, Except.toOption, attached,
        resetsAfterWrite_atomEvent found]
  | rust =>
      obtain ⟨function, written, converted⟩ := Rust.statsWrite_converted logged compilable.1
        variants typed supports.1 supports.2
      simp [resets, written, converted.accepted accepts, Except.toOption,
        resetsAfterWrite_atomEvent found]
  | vendorNative => exact ofVendor (Or.inl rfl) annotates
  | vendorJava => exact ofVendor (Or.inr rfl) annotates

/-- To the other arguments it attaches nothing. -/
theorem Logger.resets_eq_nil {logger : Logger}
    (supports : logger.Supports environment.minApiLevel decl)
    (compilable : logger.Compilable environment atoms decl) {index : Nat}
    (silent : ¬logger.Annotates environment decl index)
    (typed : arguments.map Argument.type = decl.signature) :
    logger.resets environment atoms decl arguments index = some [] := by
  obtain ⟨declSets, setsFound, logged⟩ := exists_logged accepted constants member
  have ofVendor (isVendor : logger = .vendorNative ∨ logger = .vendorJava) (isFirst : ¬1 ≤ index) :
      logger.resets environment atoms decl arguments index = some [] := by
    obtain ⟨first, name, rest, -, resets⟩ := Logger.resets_vendor accepted constants member
      declares isVendor supports compilable typed index
    obtain rfl : index = 0 := by omega
    rw [resets, parcelResets_first]
  cases logger with
  | native => exact absurd trivial silent
  | java =>
      simp only [Annotates, Classical.not_imp] at silent
      obtain ⟨pushed, isQ, older⟩ := silent
      obtain ⟨method, written⟩ := exists_javaMethod logged supports
      have isWrite := written
      rw [javaMethod, pushed, isQ] at isWrite
      have noEvent := @Java.write_noEvent atoms _ decl environment.platform _ arguments _ isWrite
        older
      rw [← isQ] at noEvent
      simp [resets, setsFound, written, noEvent, Except.toOption, attached, resetsAfterWrite,
        opsAfterWrite]
  | rust => exact absurd trivial silent
  | vendorNative => exact ofVendor (Or.inl rfl) silent
  | vendorJava => exact ofVendor (Or.inr rfl) silent

end Attached

/-! ## Arguments that reset a state -/

/-- An argument of a type that every logger accepts. -/
def plainArgument : JavaType → Argument
  | .attributionChain => .attributionChain [] []
  | .boolean => .boolean false
  | .int => .int 0
  | .long => .long 0
  | .float => .float 0
  | .byteArray => .byteArray []
  | .booleanArray => .booleanArray []
  | .intArray => .intArray []
  | .longArray => .longArray []
  | .floatArray => .floatArray []
  | .stringArray => .stringArray []
  | _ => .string ""

theorem plainArgument_type {signature : Signature} (accepted : AcceptedSignature signature)
    {type : JavaType} (member : type ∈ signature) : (plainArgument type).type = type := by
  rcases accepted.mem_cases type member with isArgument | rfl
  · cases type <;> first | rfl | exact absurd isArgument id
  · rfl

theorem converts_plainArgument (type : JavaType) : Rust.converts (plainArgument type) = true := by
  cases type <;> decide

theorem plainArguments_types {signature : Signature} (accepted : AcceptedSignature signature) :
    (signature.map plainArgument).map Argument.type = signature := by
  rw [List.map_map]
  calc
    signature.map (Argument.type ∘ plainArgument) = signature.map id :=
      List.map_congr_left fun other member => plainArgument_type accepted member
    _ = signature := List.map_id signature

/-- Another argument of the same type keeps the types. -/
theorem set_types {signature : Signature} {arguments : List Argument} {index : Nat}
    {argument : Argument} (typed : arguments.map Argument.type = signature)
    (found : signature[index]? = some argument.type) :
    (arguments.set index argument).map Argument.type = signature := by
  rcases List.getElem?_eq_some_iff.mp found with ⟨bound, isType⟩
  rw [List.map_set, typed, ← isType, List.set_getElem_self]

/-- The arguments of a signature with a given one at an index. -/
def argumentsWith (signature : Signature) (index : Nat) (argument : Argument) : List Argument :=
  (signature.map plainArgument).set index argument

section ArgumentsWith

variable {signature : Signature} {index : Nat} {argument : Argument}
  (found : signature[index]? = some argument.type)

include found

theorem argumentsWith_types (accepted : AcceptedSignature signature) :
    (argumentsWith signature index argument).map Argument.type = signature :=
  set_types (plainArguments_types accepted) found

theorem argumentsWith_getElem? :
    (argumentsWith signature index argument)[index]? = some argument := by
  obtain ⟨bound, -⟩ := List.getElem?_eq_some_iff.mp found
  rw [argumentsWith, List.getElem?_set_self]
  rwa [List.length_map]

end ArgumentsWith

/-- Every logger accepts an argument that is compared with a number. -/
theorem Logger.accepts_argumentsWith (logger : Logger) (signature : Signature) (index : Nat)
    {argument : Argument} {number : Int}
    (isNumber : argument.isNumber number = true ∨ argument.equals number = true) :
    logger.Accepts (argumentsWith signature index argument) := by
  cases logger with
  | rust =>
      intro other member
      rcases List.mem_or_eq_of_mem_set member with plain | rfl
      · obtain ⟨type, -, rfl⟩ := List.mem_map.mp plain
        exact converts_plainArgument type
      · cases other <;> first | rfl | simp [Argument.isNumber, Argument.equals] at isNumber
  | _ => trivial

/-! ## Resets of every state -/

/-- The logger of an atom tests whether the argument at an index is the state that triggers a
reset. -/
def Logger.TestsState (logger : Logger) (environment : Environment) (decl : AtomDecl)
    (index : Nat) (defaultState resetState : Int) : Prop :=
  logger.Annotates environment decl index ∧ defaultState ≠ -1 ∧ resetState ≠ -1

/-- A state that is tested is not rounded to a float, and one that is not tested is passed by no
argument. -/
structure Logger.MatchesState (logger : Logger) (environment : Environment) (decl : AtomDecl)
    (index : Nat) (defaultState resetState : Int) : Prop where
  exact : logger.TestsState environment decl index defaultState resetState →
    decl.signature[index]? = some .float → Format.roundToFloat resetState = resetState
  unpassed : ¬logger.TestsState environment decl index defaultState resetState →
    ∀ argument : Argument, decl.signature[index]? = some argument.type →
      argument.isNumber resetState = false

section Resets

variable {descriptor : AtomDescriptor} {moduleName : String} {atoms : Atoms}
  {environment : Environment} {decl : AtomDecl} {index : Nat} {defaultState resetState : Int}
  {logger : Logger} (accepted : collateAtoms descriptor moduleName {} = (0, atoms))
  (constants : DistinctConstants atoms) (variants : Rust.DistinctVariants atoms)
  (member : decl ∈ elements atoms.decls)
  (stores : StoresReset decl index defaultState resetState)
  (declares : environment.Declares atoms decl)
  (supports : logger.Supports environment.minApiLevel decl)

include accepted constants variants member stores declares supports

/-- A logger that tests a state resets it when the comparison holds. -/
theorem Logger.resets_of_testsState
    (tests : logger.TestsState environment decl index defaultState resetState)
    (compilable : logger.Compilable environment atoms decl) {arguments : List Argument}
    (typed : arguments.map Argument.type = decl.signature) (accepts : logger.Accepts arguments)
    {argument : Argument} (found : arguments[index]? = some argument) :
    logger.resets environment atoms decl arguments index =
      some (if argument.equals resetState then [defaultState] else []) := by
  obtain ⟨annotates, notSentinel⟩ := tests
  rw [Logger.resets_eq accepted constants member declares variants supports compilable annotates
    typed accepts found, stores.stateResets]
  simp only [notSentinel, ne_eq, not_false_eq_true, and_self, true_and]

/-- A logger that tests no state resets nothing. -/
theorem Logger.resets_of_not_testsState
    (untested : ¬logger.TestsState environment decl index defaultState resetState)
    (compilable : logger.Compilable environment atoms decl) {arguments : List Argument}
    (typed : arguments.map Argument.type = decl.signature) (accepts : logger.Accepts arguments)
    {argument : Argument} (found : arguments[index]? = some argument) :
    logger.resets environment atoms decl arguments index = some [] := by
  by_cases annotates : logger.Annotates environment decl index
  · rw [Logger.resets_eq accepted constants member declares variants supports compilable annotates
      typed accepts found, stores.stateResets, if_neg]
    exact fun both => untested ⟨annotates, both.1⟩
  · exact Logger.resets_eq_nil accepted constants member declares supports compilable annotates
      typed

/-- A logger that compiles and matches the state resets it. -/
theorem resetsState_of_matchesState (compilable : logger.Compilable environment atoms decl)
    (matched : logger.MatchesState environment decl index defaultState resetState) :
    ResetsState logger environment atoms decl index defaultState resetState where
  compiles :=
    (Logger.compiles_iff accepted constants member declares logger supports).mpr compilable
  resets := by
    intro arguments typed accepts argument found
    have isType : decl.signature[index]? = some argument.type := by
      rw [← typed, List.getElem?_map, found, Option.map_some]
    by_cases tests : logger.TestsState environment decl index defaultState resetState
    · rw [Logger.resets_of_testsState accepted constants variants member stores declares supports
        tests compilable typed accepts found, Argument.equals_eq_isNumber]
      intro isFloat
      rw [isFloat] at isType
      exact matched.exact tests isType
    · rw [Logger.resets_of_not_testsState accepted constants variants member stores declares
        supports tests compilable typed accepts found, matched.unpassed tests argument isType]
      rfl

/-- A logger that resets the state matches it. -/
theorem matchesState_of_resetsState (bound : resetState.natAbs < 2 ^ 64)
    (resets : ResetsState logger environment atoms decl index defaultState resetState) :
    logger.MatchesState environment decl index defaultState resetState := by
  have compilable :=
    (Logger.compiles_iff accepted constants member declares logger supports).mp resets.compiles
  have acceptedSignature : AcceptedSignature decl.signature := by
    obtain ⟨registrations, -, registered⟩ := collateAtoms_registered accepted
    exact acceptedSignature_of_mem registered member
  constructor
  · intro tests isFloat
    by_contra rounded
    obtain ⟨bits, equals, notNumber⟩ := Argument.exists_equals_not_isNumber bound rounded
    have accepts := logger.accepts_argumentsWith decl.signature index (Or.inr equals)
    have typed := @argumentsWith_types _ _ (.float bits) isFloat acceptedSignature
    have found := @argumentsWith_getElem? _ _ (.float bits) isFloat
    have actual := Logger.resets_of_testsState accepted constants variants member stores declares
      supports tests compilable typed accepts found
    rw [resets.resets _ typed accepts _ found, notNumber, equals] at actual
    cases actual
  · intro untested argument isType
    by_contra isNumber
    rw [Bool.not_eq_false] at isNumber
    have accepts := logger.accepts_argumentsWith decl.signature index (Or.inl isNumber)
    have typed := argumentsWith_types isType acceptedSignature
    have found := argumentsWith_getElem? isType
    have actual := Logger.resets_of_not_testsState accepted constants variants member stores
      declares supports untested compilable typed accepts found
    rw [resets.resets _ typed accepts _ found, isNumber] at actual
    cases actual

end Resets

theorem natAbs_toInt_lt (state : BitVec 32) : state.toInt.natAbs < 2 ^ 64 := by
  have lower := state.le_toInt
  have upper := state.toInt_lt
  omega

/-- In an accepted run a logger of an atom compiles and resets its state whenever the state that
triggers the reset is logged, and only then, exactly when all that the method names is declared
and all that it compares can be compared, and the state is tested without being rounded or is
passed by no argument. -/
theorem resetsState_iff (descriptor : AtomDescriptor) (moduleName : String) (atoms : Atoms)
    (accepted : collateAtoms descriptor moduleName {} = (0, atoms))
    (constants : DistinctConstants atoms) (variants : Rust.DistinctVariants atoms)
    (decl : AtomDecl) (member : decl ∈ elements atoms.decls) (index : Nat)
    (defaultState resetState : BitVec 32)
    (declaresReset : DeclaresReset descriptor moduleName decl index defaultState.toInt
      resetState.toInt)
    (environment : Environment) (declares : environment.Declares atoms decl) (logger : Logger)
    (supports : logger.Supports environment.minApiLevel decl) :
    ResetsState logger environment atoms decl index defaultState.toInt resetState.toInt ↔
      logger.Compilable environment atoms decl ∧
        logger.MatchesState environment decl index defaultState.toInt resetState.toInt := by
  have stores := declaresReset.stores accepted member
  constructor
  · intro resets
    exact ⟨(Logger.compiles_iff accepted constants member declares logger supports).mp
      resets.compiles, matchesState_of_resetsState accepted constants variants member stores
        declares supports (natAbs_toInt_lt resetState) resets⟩
  · rintro ⟨compilable, matched⟩
    exact resetsState_of_matchesState accepted constants variants member stores declares supports
      compilable matched

/-! ## An atom with a state -/

/-- The environment in which every constant has its number. -/
def declaredEnvironment : Environment where
  platform := declaredPlatform
  vendorNative := aidlPlatform annotationConstantNameVendorNativePrefix
  vendorJava := aidlPlatform annotationConstantNameVendorPrefix
  sdkInt := 33
  minApiLevel := apiT

@[simp]
theorem numbers_declaredEnvironment (annotationId : AnnotationId) :
    declaredEnvironment.numbers.annotationId annotationId = annotationId.value := by
  cases annotationId <;> decide

theorem distinctReset_declaredEnvironment (decl : AtomDecl) :
    DistinctReset declaredEnvironment.numbers decl := by
  intro entry _ notReset
  rw [numbers_declaredEnvironment, numbers_declaredEnvironment]
  exact fun same => notReset (AnnotationId.value_injective same)

theorem declares_declaredEnvironment (atoms : Atoms) (decl : AtomDecl) :
    declaredEnvironment.Declares atoms decl :=
  ⟨declaredPlatform_declaresNative, declaredPlatform_declaresJava,
    sameConstants_aidlPlatform atoms decl, distinctReset_declaredEnvironment decl⟩

theorem resetsState_vendorDescriptor :
    ResetsState .vendorJava declaredEnvironment vendorAtoms vendorDecl 1
        (0 : BitVec 32).toInt (2 : BitVec 32).toInt ↔
      Logger.vendorJava.Compilable declaredEnvironment vendorAtoms vendorDecl ∧
        Logger.vendorJava.MatchesState declaredEnvironment vendorDecl 1 (0 : BitVec 32).toInt
          (2 : BitVec 32).toInt :=
  resetsState_iff vendorDescriptor "test" vendorAtoms (Prod.ext (by decide) rfl) (by decide)
    (by decide) vendorDecl mem_vendorDecl 1 0 2
    ⟨_, List.mem_cons_self, vendorAtomWithState, rfl, by decide, _,
      List.mem_cons_of_mem _ List.mem_cons_self, by decide, vendorState, rfl, rfl, rfl, rfl⟩
    declaredEnvironment (declares_declaredEnvironment vendorAtoms vendorDecl) .vendorJava
    ⟨by decide, by decide⟩

/-- A state with which -1 triggers a reset. -/
def sentinelState : StateAtomFieldOption where
  exclusiveState := true
  defaultStateValue := some 0
  triggerStateResetValue := some (-1)

def atomWithSentinel : Descriptor where
  name := "AtomWithSentinel"
  fields :=
    [{ name := "reverse_domain_name", number := 1, type := .string },
     { name := "state", number := 2,
       type := .enum ⟨"State", [⟨"UNKNOWN", -1⟩, ⟨"OFF", 0⟩, ⟨"ON", 1⟩]⟩,
       options := { stateFieldOption := some sentinelState } }]
  numbers_nodup := by decide

def sentinelDescriptor : AtomDescriptor where
  fields :=
    [{ name := "sentinel_atom", number := 105511, type := .message atomWithSentinel,
       options := { module := ["test"] } }]
  extensions := []
  numbers_nodup := by decide

def sentinelAtoms : Atoms :=
  (collateAtoms sentinelDescriptor "test" {}).2

/-- The declaration of the atom of `sentinelDescriptor`. -/
def sentinelDecl : AtomDecl :=
  (sentinelAtoms.decls[(⟨105511, "sentinel_atom"⟩ : DeclKey)]?).getD {}

theorem mem_sentinelDecl : sentinelDecl ∈ elements sentinelAtoms.decls :=
  getD_mem_elements (by decide) _

theorem declaresReset_sentinelDecl : DeclaresReset sentinelDescriptor "test" sentinelDecl 1
    (0 : BitVec 32).toInt (-1 : BitVec 32).toInt :=
  ⟨_, List.mem_cons_self, atomWithSentinel, rfl, by decide, _,
    List.mem_cons_of_mem _ List.mem_cons_self, by decide, sentinelState, rfl, rfl, rfl, rfl⟩

/-- No logger resets the state when -1 is logged. -/
theorem not_resetsState_sentinel :
    (collateAtoms sentinelDescriptor "test" {}).1 = 0 ∧
    DistinctConstants sentinelAtoms ∧ Rust.DistinctVariants sentinelAtoms ∧
    sentinelDecl ∈ elements sentinelAtoms.decls ∧
    DeclaresReset sentinelDescriptor "test" sentinelDecl 1 (0 : BitVec 32).toInt
      (-1 : BitVec 32).toInt ∧
    declaredEnvironment.Declares sentinelAtoms sentinelDecl ∧
    ∀ logger : Logger, logger.Supports declaredEnvironment.minApiLevel sentinelDecl ∧
      ¬ResetsState logger declaredEnvironment sentinelAtoms sentinelDecl 1
        (0 : BitVec 32).toInt (-1 : BitVec 32).toInt := by
  have accepted : collateAtoms sentinelDescriptor "test" {} = (0, sentinelAtoms) :=
    Prod.ext (by decide) rfl
  have constants : DistinctConstants sentinelAtoms := by decide
  have variants : Rust.DistinctVariants sentinelAtoms := by decide
  have declares := declares_declaredEnvironment sentinelAtoms sentinelDecl
  have stores := declaresReset_sentinelDecl.stores accepted mem_sentinelDecl
  refine ⟨by rw [accepted], constants, variants, mem_sentinelDecl, declaresReset_sentinelDecl,
    declares, ?_⟩
  intro logger
  have supports : logger.Supports declaredEnvironment.minApiLevel sentinelDecl := by
    cases logger with
    | native => exact Or.inr (by decide)
    | java => exact Or.inr (Or.inr (by decide))
    | rust => exact ⟨by decide, by decide⟩
    | vendorNative | vendorJava => exact ⟨by decide, by decide⟩
  refine ⟨supports, fun resets => ?_⟩
  have matched := matchesState_of_resetsState accepted constants variants mem_sentinelDecl stores
    declares supports (natAbs_toInt_lt _) resets
  have unpassed := matched.unpassed (fun tests => tests.2.2 rfl) (.int (-1)) (by decide)
  exact absurd unpassed (by decide)

end StatsLogApiGen.Writer
