import StatsLogApiGen.Record.Parcel
import StatsLogApiGen.Writer.StateLoggers

/-!
# Loggers deliver the record of a message

Whatever writer generates the logger of an atom, the reader of what it delivers learns
the record that the descriptor gives for the message.
-/

namespace StatsLogApiGen.Record

open StatsLogApiGen.Container
open StatsLogApiGen.Format
open StatsLogApiGen.Proto
open StatsLogApiGen.Collation
open StatsLogApiGen.Writer
open StatsLogApiGen.Vendor

/-! ## Deliveries -/

/-- What a logger leaves: an event, or the parcel of a vendor atom. -/
inductive Delivery where
  | event (ops : List EventOp)
  | parcel (atom : VendorAtom)
  deriving DecidableEq, Repr

/-- What the reader of a delivery learns. -/
def Delivery.record : Delivery → Option (AtomRecord Int)
  | .event ops => readEvent ops
  | .parcel atom => readParcel atom

/-- What the generated logger of an atom leaves when it is called with the code of the
atom. -/
def deliver (environment : Environment) (atoms : Atoms) (decl : AtomDecl)
    (arguments : List Argument) : Logger → Option Delivery
  | .native =>
      let constants := getAnnotationIdConstants annotationConstantNamePrefix
      (signatureMap atoms decl.atomType)[decl.signature]?.bind fun declSets =>
        (Rust.nativeMethod constants environment.minApiLevel decl declSets).toOption.bind
          fun method => (method.log atoms constants environment.platform
            environment.minApiLevel decl.code arguments).toOption.map .event
  | .java =>
      let constants := getAnnotationIdConstants annotationConstantNamePrefix
      (signatureMap atoms decl.atomType)[decl.signature]?.bind fun declSets =>
        (javaMethod constants environment.minApiLevel decl declSets).toOption.bind
          fun method => (method.call atoms constants environment.platform environment.sdkInt
            environment.minApiLevel decl.code arguments).toOption.map .event
  | .rust =>
      let constants := getAnnotationIdConstants annotationConstantNamePrefix
      (Rust.writeRustStatsWriteMethod constants attributionDecl environment.minApiLevel
        decl).toOption.bind fun function =>
          (function.call atoms constants arguments).toOption.map .event
  | .vendorNative =>
      let constants := getAnnotationIdConstants annotationConstantNameVendorNativePrefix
      atoms.signatureInfoMap[decl.signature]?.bind fun declSets =>
        (Vendor.Native.writeNativeCreateVendorAtomMethod constants attributionDecl
          (decl.signature, declSets)).toOption.bind fun method =>
            (method.call atoms environment.vendorNative decl.code arguments).toOption.map .parcel
  | .vendorJava =>
      let constants := getAnnotationIdConstants annotationConstantNameVendorPrefix
      atoms.signatureInfoMap[decl.signature]?.bind fun declSets =>
        (Vendor.Java.writeJavaPushedMethodVendor constants
          (decl.signature, declSets)).toOption.bind fun method =>
            (method.call atoms environment.vendorJava decl.code arguments).toOption.map .parcel

/-- What the deliveries of a logger can hold of a record. -/
def view (environment : Environment) (record : AtomRecord AnnotationId) :
    Logger → AtomRecord Int
  | .native | .java | .rust => record.map eventLabel
  | .vendorNative | .vendorJava => parcelView environment.numbers record

/-- The calls that leave all of a message: the nodes of a chain are counted by a `uint8_t`, a
`write` for Q builds an event on newer devices, a Rust function returns early where an argument is
refused, and a vendor atom starts with its reverse domain name. -/
def Conveys (environment : Environment) (decl : AtomDecl) (arguments : List Argument) :
    Logger → Prop
  | .native => ∀ argument ∈ arguments, Native.CountsNodes argument
  | .java => decl.atomType = .pushed → environment.minApiLevel = apiQ →
      environment.sdkInt > apiQ
  | .rust => ∀ argument ∈ arguments, Rust.converts argument = true
  | .vendorNative | .vendorJava => decl.signature.head? = some .string

instance (environment : Environment) (decl : AtomDecl) (arguments : List Argument) :
    (logger : Logger) → Decidable (Conveys environment decl arguments logger)
  | .native | .rust => inferInstanceAs (Decidable (∀ _ ∈ _, _))
  | .java => inferInstanceAs (Decidable (_ → _ → _))
  | .vendorNative | .vendorJava => inferInstanceAs (Decidable (_ = _))

/-! ## The record of a message -/

/-- What an event of an atom writes are the arguments. -/
theorem mem_of_write_mem_atomEvent {decl : AtomDecl} {arguments : List Argument}
    {argument : Argument} (member : .write argument ∈ atomEvent decl arguments) :
    argument ∈ arguments := by
  have ofField {fieldNumber : Int} {equals : Int → Bool}
      (listed : .write argument ∈ fieldOps decl fieldNumber equals) : False :=
    Bool.noConfusion (not_isWrite_of_mem_fieldOps _ listed)
  have ofArguments {argIndex : Int} {passed : List Argument}
      (listed : .write argument ∈ argumentOps decl argIndex passed) : argument ∈ passed := by
    induction passed generalizing argIndex with
    | nil => cases listed
    | cons first rest ih =>
        rw [argumentOps, List.mem_cons, List.mem_append] at listed
        rcases listed with isFirst | annotation | later
        · cases isFirst
          exact List.mem_cons_self
        · exact (ofField annotation).elim
        · exact List.mem_cons_of_mem first (ih later)
  rw [atomEvent, List.mem_cons, List.mem_append] at member
  rcases member with isId | annotation | listed
  · cases isId
  · exact (ofField annotation).elim
  · exact ofArguments listed

section Loggers

variable {descriptor : AtomDescriptor} {moduleName : String} {atoms : Atoms}
  {environment : Environment} {registration : Registration} {message : MessageValue}

/-- The reverse domain name comes first and nothing is a chain. -/
theorem exists_vendorArguments (fits : Fits message registration.atom)
    (startsWithString : registration.decl.signature.head? = some .string)
    (noChain : JavaType.attributionChain ∉ registration.decl.signature) :
    ∃ name rest, callArguments registration.atom message = .string name :: rest ∧
      ∀ argument ∈ rest, argument.type ≠ .attributionChain := by
  have typed := callArguments_types fits
  rw [← typed] at startsWithString noChain
  obtain ⟨name, rest, isArguments⟩ := exists_domainName startsWithString rfl
  refine ⟨name, rest, isArguments, ?_⟩
  intro argument member isChain
  apply noChain
  rw [isArguments, ← isChain]
  exact List.mem_map_of_mem (List.mem_cons_of_mem _ member)

/-- The event of an atom is read as the record of its message. -/
theorem readEvent_atomEvent (fits : Fits message registration.atom)
    (keeps : KeepsStates registration.atom) :
    readEvent (atomEvent registration.decl (callArguments registration.atom message)) =
      some ((recordOf registration.atomField registration.atom message).map eventLabel) := by
  rw [atomEvent_decl fits keeps]
  exact exact_readEvent.read_write _

variable (accepted : collateAtoms descriptor moduleName {} = (0, atoms))
  (constants : DistinctConstants atoms) (variants : Rust.DistinctVariants atoms)
  (member : registration.decl ∈ elements atoms.decls)
  (fits : Fits message registration.atom) (keeps : KeepsStates registration.atom)

include accepted constants member fits keeps

/-- The Java method delivers the record where it builds an event, whatever is declared for
other languages. -/
theorem deliver_java_record (declares : environment.platform.DeclaresAnnotations "StatsLog.")
    (compiles : Logger.java.Compiles environment atoms registration.decl)
    (supports : Logger.java.Supports environment.minApiLevel registration.decl)
    (conveys : Conveys environment registration.decl (callArguments registration.atom message)
      .java) :
    (deliver environment atoms registration.decl (callArguments registration.atom message)
        .java).bind Delivery.record =
      some (view environment (recordOf registration.atomField registration.atom message)
        .java) := by
  obtain ⟨declSets, setsFound, logged⟩ := exists_logged accepted constants member
  obtain ⟨registrations, -, registered⟩ := collateAtoms_registered accepted
  obtain ⟨compiledSets, compiled, compiledFound, isCompiled, names⟩ := compiles
  have issuable := (compiles_javaMethod_iff registered environment.sdkInt declares compiledFound
    isCompiled).mp names registration.decl member rfl rfl
  obtain ⟨method, written, events⟩ := @javaMethod_events _ environment _ _ _ logged issuable
    (callArguments_types fits) declares supports 0 conveys
  have isEvent := readEvent_atomEvent fits keeps
  simpa [deliver, setsFound, written, events, Except.toOption, Delivery.record, view]
    using isEvent

variable (declares : environment.Declares atoms registration.decl)

include declares

/-- The vendor loggers deliver what a parcel can hold of the record. -/
theorem deliver_vendor_record {logger : Logger}
    (isVendor : logger = .vendorNative ∨ logger = .vendorJava)
    (supports : logger.Supports environment.minApiLevel registration.decl)
    (compilable : logger.Compilable environment atoms registration.decl)
    (startsWithString : registration.decl.signature.head? = some .string) :
    (deliver environment atoms registration.decl (callArguments registration.atom message)
        logger).bind Delivery.record =
      some (parcelView environment.numbers
        (recordOf registration.atomField registration.atom message)) := by
  obtain ⟨registrations, -, registered⟩ := collateAtoms_registered accepted
  have typed := callArguments_types fits
  rcases isVendor with rfl | rfl
  all_goals
    obtain ⟨pushed, noChain⟩ := supports
    obtain ⟨declSets, setsFound, creatable⟩ :=
      exists_creatable accepted constants member pushed noChain
    have issuable := compilable.issuable registration.decl member pushed rfl
    obtain ⟨name, rest, isArguments, restNoChain⟩ :=
      exists_vendorArguments fits startsWithString noChain
    have isParcel :=
      @readParcel_vendorAtom environment.numbers _ _ _ _ fits keeps isArguments restNoChain
    rw [isArguments] at typed
  · obtain ⟨method, written, atom⟩ :=
      Vendor.Native.call_createVendorAtom creatable typed rfl issuable.compared
        (declares.vendor.numbered_native_of_issuable registered member pushed issuable)
    simp only [deliver, isArguments, setsFound, written, atom, Except.toOption, Option.bind_some,
      Option.map_some]
    exact isParcel
  · obtain ⟨method, written, final, ran, isAtom, -⟩ :=
      Vendor.Java.run_createVendorAtom creatable typed issuable.compared
        (declares.vendor.numbered_java_of_issuable registered member pushed issuable)
    simp only [deliver, isArguments, setsFound, written, Vendor.Java.Method.call, ran, Except.map,
      isAtom, Except.toOption, Option.bind_some, Option.map_some]
    exact isParcel

include variants

theorem deliver_record (logger : Logger)
    (supports : logger.Supports environment.minApiLevel registration.decl)
    (compiles : logger.Compiles environment atoms registration.decl)
    (conveys : Conveys environment registration.decl (callArguments registration.atom message)
      logger) :
    (deliver environment atoms registration.decl (callArguments registration.atom message)
        logger).bind Delivery.record =
      some (view environment (recordOf registration.atomField registration.atom message)
        logger) := by
  obtain ⟨declSets, setsFound, logged⟩ := exists_logged accepted constants member
  have compilable :=
    (Logger.compiles_iff accepted constants member declares logger supports).mp compiles
  have typed := callArguments_types fits
  have isEvent := readEvent_atomEvent fits keeps
  cases logger with
  | native =>
      obtain ⟨method, written, called⟩ := nativeMethod_events logged
        (compilable _ member rfl rfl) typed declares.native supports
      have events := method.log_eq called fun argument isWrite =>
        conveys argument (mem_of_write_mem_atomEvent isWrite)
      simpa [deliver, setsFound, written, events, Except.toOption, Delivery.record, view]
        using isEvent
  | java =>
      exact deliver_java_record accepted constants member fits keeps declares.java compiles
        supports conveys
  | rust =>
      obtain ⟨function, written, converted⟩ := Rust.statsWrite_converted logged compilable.1
        variants typed supports.1 supports.2
      simpa [deliver, written, converted.accepted conveys, Except.toOption, Delivery.record, view]
        using isEvent
  | vendorNative =>
      exact deliver_vendor_record accepted constants member fits keeps declares (Or.inl rfl)
        supports compilable conveys
  | vendorJava =>
      exact deliver_vendor_record accepted constants member fits keeps declares (Or.inr rfl)
        supports compilable conveys

end Loggers

/-- In an accepted run every logger of a selected atom that compiles delivers the record of the
message that it is called with. -/
theorem loggers_deliver_record (descriptor : AtomDescriptor) (moduleName : String)
    (atoms : Atoms) (accepted : collateAtoms descriptor moduleName {} = (0, atoms))
    (constants : DistinctConstants atoms) (variants : Rust.DistinctVariants atoms)
    (atomField : AtomFieldDescriptor) (selected : atomField ∈ selectedAtoms descriptor moduleName)
    (atom : Descriptor) (type : atomField.type = .message atom) (decl : AtomDecl)
    (member : decl ∈ elements atoms.decls) (code : decl.code = atomField.number)
    (environment : Environment) (declares : environment.Declares atoms decl)
    (message : MessageValue) (fits : Fits message atom) (keeps : KeepsStates atom)
    (logger : Logger) (supports : logger.Supports environment.minApiLevel decl)
    (compiles : logger.Compiles environment atoms decl)
    (conveys : Conveys environment decl (callArguments atom message) logger) :
    (deliver environment atoms decl (callArguments atom message) logger).bind
        Delivery.record =
      some (view environment (recordOf atomField atom message) logger) := by
  obtain ⟨registration, rfl, rfl, rfl⟩ :=
    exists_registration_of_code accepted selected type member code
  exact deliver_record accepted constants variants member fits keeps declares logger supports
    compiles conveys

/-- A message for the state atom of `vendorDescriptor` whose state triggers the reset. -/
def resetMessage : MessageValue
  | 1 => .string "com.vendor"
  | 2 => .int 2
  | _ => .boolean true

/-- The Java logger of the state atom compiles. -/
theorem compiles_vendorDecl :
    Logger.vendorJava.Compiles declaredEnvironment vendorAtoms vendorDecl := by
  have accepted : collateAtoms vendorDescriptor "test" {} = (0, vendorAtoms) :=
    Prod.ext (by decide) rfl
  have supports : Logger.vendorJava.Supports declaredEnvironment.minApiLevel vendorDecl :=
    ⟨by decide, by decide⟩
  apply (Logger.compiles_iff accepted (by decide) mem_vendorDecl
    (declares_declaredEnvironment _ _) _ supports).mpr
  exact Logger.compilable_of_unrestricted accepted mem_vendorDecl (by decide)
    (not_sharesRestricted (by decide)) _ supports (fun isRust => absurd isRust (by decide))
    fun _ => by decide

theorem loggers_deliver_record_reset :
    (deliver declaredEnvironment vendorAtoms vendorDecl
        [.string "com.vendor", .int 2, .boolean true] .vendorJava).bind Delivery.record =
      some ⟨⟨105509, []⟩, [⟨.string "com.vendor", []⟩,
        ⟨.int 2, [⟨4, .bool true⟩, ⟨8, .bool true⟩, ⟨7, .int 0⟩]⟩,
        ⟨.boolean true, [⟨3, .bool true⟩]⟩]⟩ :=
  (loggers_deliver_record vendorDescriptor "test" vendorAtoms (Prod.ext (by decide) rfl)
    (by decide) (by decide) _ List.mem_cons_self vendorAtomWithState rfl vendorDecl mem_vendorDecl
    (by decide) declaredEnvironment (declares_declaredEnvironment _ _) resetMessage (by decide)
    (by decide) .vendorJava ⟨by decide, by decide⟩ compiles_vendorDecl rfl).trans (by decide)

end StatsLogApiGen.Record
