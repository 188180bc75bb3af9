import StatsLogApiGen.Native.Writer
import StatsLogApiGen.Rust.Writer
import StatsLogApiGen.Vendor.JavaWriter
import StatsLogApiGen.Vendor.NativeWriter
import StatsLogApiGen.Writer.Constants

/-!
# A run of the generator

`main.cpp` after the command line is read: the atoms are collated, and then every
requested output is written in turn.  The writers share the static variable of
`get_annotation_id_constants`, and `run` keeps their results in one `errorCount`.
-/

namespace StatsLogApiGen.Main

open StatsLogApiGen.Container
open StatsLogApiGen.Proto
open StatsLogApiGen.Collation
open StatsLogApiGen.Writer

/-! ## The static table -/

/-- The variable `ANNOTATION_ID_CONSTANTS`, which the first call initializes. -/
abbrev StaticConstants := Option AnnotationIdConstants

/-- `get_annotation_id_constants`: the table that a call returns, which is in the variable
afterwards. -/
def callGetAnnotationIdConstants (namePrefix : String) (static : StaticConstants) :
    AnnotationIdConstants :=
  static.getD (getAnnotationIdConstants namePrefix)

/-- The tables that calls one after the other return. -/
def callAll : StaticConstants → List String → List AnnotationIdConstants
  | _, [] => []
  | static, namePrefix :: rest =>
      let table := callGetAnnotationIdConstants namePrefix static
      table :: callAll (some table) rest

/-! ## Requests -/

def defaultCppNamespace : String := "android,util"
def defaultCppHeaderImport : String := "statslog.h"

/-- The outputs in the order in which `run` writes them. -/
inductive Output where
  | cpp
  | header
  | java
  | rust
  | rustHeader
  deriving DecidableEq, Repr

def outputs : List Output := [.cpp, .header, .java, .rust, .rustHeader]

/-- The options of a command line.  An output is requested by a filename. -/
structure Request where
  filename : Output → String := fun _ => ""
  javaPackage : String := ""
  javaClass : String := ""
  rustHeaderCrate : String := ""
  moduleName : String := defaultModuleName
  cppNamespace : String := defaultCppNamespace
  cppHeaderImport : String := defaultCppHeaderImport
  vendorProto : String := ""
  supportWorkSource : Bool := false
  minApiLevel : Int := apiLevelCurrent
  bootstrap : Bool := false

/-- What `run` prints when it finds fault with the options of an output. -/
inductive RunError where
  | missingNamespace
  | missingHeaderImport
  | missingJavaClass
  | missingJavaPackage
  | missingModule
  | missingRustHeaderCrate
  | unableToOpen (filename : String)
  | vendorWorkSource
  deriving DecidableEq, Repr

def RunError.text : RunError → String
  | .missingNamespace => "Must supply --namespace if supplying a specific module\n"
  | .missingHeaderImport => "Must supply --headerImport if supplying a specific module\n"
  | .missingJavaClass => "Must supply --javaClass if supplying a Java filename"
  | .missingJavaPackage => "Must supply --javaPackage if supplying a Java filename"
  | .missingModule => "Must supply --module if supplying a Java filename"
  | .missingRustHeaderCrate => "rustHeaderCrate flag is either not passed or is empty"
  | .unableToOpen filename => "Unable to open file for write: " ++ filename ++ "\n"
  | .vendorWorkSource => "The attribution chain is not supported for vendor atoms"

/-- A fault if a condition holds. -/
def faultIf (condition : Bool) (fault : RunError) : List RunError :=
  if condition then [fault] else []

namespace Request

def isRequested (request : Request) (output : Output) : Bool :=
  request.filename output ≠ ""

/-- A specific module has the default namespace. -/
def lacksNamespace (request : Request) : Bool :=
  request.moduleName ≠ defaultModuleName ∧ request.cppNamespace = defaultCppNamespace

/-- The companion options of an output that are not supplied. -/
def missingOptions (request : Request) : Output → List RunError
  | .cpp =>
      faultIf request.lacksNamespace .missingNamespace ++
      faultIf (request.moduleName ≠ defaultModuleName ∧
        request.cppHeaderImport = defaultCppHeaderImport) .missingHeaderImport
  | .header => faultIf request.lacksNamespace .missingNamespace
  | .java =>
      faultIf (request.javaClass = "") .missingJavaClass ++
      faultIf (request.javaPackage = "") .missingJavaPackage ++
      faultIf (request.moduleName = "" ∨ request.moduleName = defaultModuleName) .missingModule
  | .rust | .rustHeader => faultIf (request.rustHeaderCrate = "") .missingRustHeaderCrate

/-- The faults on which `run` returns before it writes an output, in the order of the
checks.  A header without its namespace is only reported. -/
def refusals (request : Request) (opens : String → Bool) (output : Output) : List RunError :=
  (if output = .header then [] else request.missingOptions output) ++
    faultIf (!opens (request.filename output)) (.unableToOpen (request.filename output)) ++
    faultIf (output = .java ∧ request.vendorProto ≠ "" ∧ request.supportWorkSource)
      .vendorWorkSource

/-- What is reported about an output that is written all the same. -/
def warnings (request : Request) (output : Output) : List RunError :=
  if output = .header then request.missingOptions output else []

/-- The same options, with one output requested. -/
def only (request : Request) (output : Output) : Request :=
  { request with filename := fun other => if other = output then request.filename other else "" }

end Request

/-! ## Texts -/

/-- The methods that a writer prints before it gives up, and why it does. -/
structure Printed (α : Type) where
  methods : List α := []
  error : Option WriterError := none
  deriving DecidableEq, Repr

/-- Print one method for every entry until one fails. -/
def printUntilError {α β : Type} (write : α → Except WriterError β) : List α → Printed β
  | [] => {}
  | entry :: rest =>
      match write entry with
      | .error reason => { error := some reason }
      | .ok method =>
          let later := printUntilError write rest
          { later with methods := method :: later.methods }

/-- The declaration of a method in a header. -/
structure MethodHeader where
  name : String
  parameters : List Parameter
  deriving DecidableEq, Repr

/-- `write_native_method_header`. -/
def writeNativeMethodHeader (methodName : String) (before : List Parameter)
    (signatureInfoMap : SignatureInfoMap) (isVendorAtomLogging : Bool) : List MethodHeader :=
  signatureInfoMap.toList.map fun entry =>
    ⟨methodName, writeNativeMethodSignature before entry.1 attributionDecl isVendorAtomLogging⟩

/-- What a writer leaves in its file.  The methods of a native writer that fails are
left out. -/
inductive Text where
  | cpp (methods : Except WriterError (List Native.Method))
  | header (atomConstants atomEnums annotationConstants : List (String × Int))
      (methods : List MethodHeader)
  | java (atomCodes enumValues : List (String × Int))
      (annotationConstants : List (String × Java.ConstantValue)) (methods : Java.Output)
  | rust (annotationConstants : List (String × Int))
      (modules : Except WriterError (List Rust.Module))
  | rustHeader (atomConstants : List (String × Int))
  | vendorCpp (methods : Printed Vendor.Native.Method)
  | vendorHeader (atomConstants : List (String × Int)) (classes : List VendorClass)
      (methods : List MethodHeader)
  | vendorJava (atomCodes enumValues : List (String × Int))
      (methods : Printed Vendor.Java.Method)

/-- The number that the writer of a text returns. -/
def Text.status : Text → Nat
  | .cpp methods => Java.exitStatus methods
  | .java _ _ _ methods => methods.errors
  | .rust _ modules => Java.exitStatus modules
  | .vendorCpp methods | .vendorJava _ _ methods => if methods.error.isSome then 1 else 0
  | .header .. | .rustHeader .. | .vendorHeader .. => 0

/-! ## Writers -/

/-- The loop over a signature writes the annotations of a field before it gives up. -/
def writesAnnotations {α : Type} (print : Int → JavaType → Except WriterError α)
    (fieldNumberToAtomDeclSet : FieldNumberToAtomDeclSet) : Int → Signature → Bool
  | _, [] => false
  | argIndex, arg :: rest =>
      (print argIndex arg).isOk &&
        (fieldNumberToAtomDeclSet.contains argIndex ||
          writesAnnotations print fieldNumberToAtomDeclSet (argIndex + 1) rest)

/-- A loop that gives up at an entry does something for the entries up to it. -/
def doesUntilError {α β : Type} (write : α → Except WriterError β) (does : α → Bool) :
    List α → Bool
  | [] => false
  | entry :: rest => does entry || ((write entry).isOk && doesUntilError write does rest)

/-- A writer with the prefix of its annotation constants.  `calls` says whether it calls
`get_annotation_id_constants` at all. -/
structure OutputWriter where
  namePrefix : String
  calls : Bool
  write : AnnotationIdConstants → Text

/-- The text that a writer prints and the static variable after it.  All its calls pass the
same prefix, so they return the same table. -/
def OutputWriter.run (writer : OutputWriter) (static : StaticConstants) :
    Text × StaticConstants :=
  if writer.calls then
    let table := callGetAnnotationIdConstants writer.namePrefix static
    (writer.write table, some table)
  else
    (writer.write (getAnnotationIdConstants writer.namePrefix), static)

section Writers

variable (request : Request) (atoms : Atoms)

/-- The methods of the C++ source up to an error write annotations. -/
def nativeMethodsCall : Bool :=
  let constants := getAnnotationIdConstants annotationConstantNamePrefix
  let bodyCalls {α : Type} (print : Int → JavaType → Except WriterError α)
      (entry : Signature × FieldNumberToAtomDeclSet) : Bool :=
    entry.2.contains atomIdFieldNumber || writesAnnotations print entry.2 1 entry.1
  let pushedCalls (entry : Signature × FieldNumberToAtomDeclSet) : Bool :=
    if request.minApiLevel = apiQ then
      bodyCalls (Native.writeCompatArg attributionDecl) entry
    else
      bodyCalls (Native.writeNativeArg attributionDecl request.minApiLevel) entry
  !request.bootstrap &&
    (doesUntilError (Native.writeNativeStatsWriteMethod constants attributionDecl
        request.minApiLevel false) pushedCalls atoms.signatureInfoMap.toList ||
      ((Native.writeNativeStatsWriteMethods constants attributionDecl request.minApiLevel false
          atoms.signatureInfoMap).isOk &&
        doesUntilError (Native.writeNativeBuildStatsEventMethod constants attributionDecl
            request.minApiLevel)
          (bodyCalls (Native.writeNativeArg attributionDecl request.minApiLevel))
          atoms.pulledAtomsSignatureInfoMap.toList))

/-- A vendor method has annotations.  They are written after the values. -/
def vendorMethodCalls (entry : Signature × FieldNumberToAtomDeclSet) : Bool :=
  (elements (getAnnotations atomIdFieldNumber entry.2)).length > 0 ||
    Vendor.atomWithFieldsAnnotations entry.1 entry.2

/-- `write_stats_log_cpp`. -/
def cppWriter : OutputWriter where
  namePrefix := annotationConstantNamePrefix
  calls := nativeMethodsCall request atoms
  write constants :=
    .cpp (Native.writeStatsLogCpp constants atoms attributionDecl request.minApiLevel
      request.bootstrap)

/-- `write_stats_log_cpp_vendor`. -/
def cppVendorWriter : OutputWriter where
  namePrefix := annotationConstantNameVendorNativePrefix
  calls :=
    let constants := getAnnotationIdConstants annotationConstantNameVendorNativePrefix
    let write := Vendor.Native.writeNativeCreateVendorAtomMethod constants attributionDecl
    doesUntilError write (fun entry => (write entry).isOk && vendorMethodCalls entry)
      atoms.signatureInfoMap.toList
  write constants :=
    .vendorCpp (printUntilError
      (Vendor.Native.writeNativeCreateVendorAtomMethod constants attributionDecl)
      atoms.signatureInfoMap.toList)

/-- `write_stats_log_header`. -/
def headerWriter : OutputWriter where
  namePrefix := annotationConstantNamePrefix
  calls := request.minApiLevel ≤ apiR
  write constants :=
    .header (writeNativeAtomConstants atoms) (writeNativeAtomEnums atoms)
      (if request.minApiLevel ≤ apiR then Native.writeNativeAnnotationConstants constants else [])
      (writeNativeMethodHeader "stats_write" [] atoms.signatureInfoMap false ++
        if request.bootstrap then
          []
        else
          writeNativeMethodHeader "stats_write_non_chained" [] atoms.nonChainedSignatureInfoMap
            false ++
          writeNativeMethodHeader "addAStatsEvent" [⟨"AStatsEventList*", .pulledData⟩]
            atoms.pulledAtomsSignatureInfoMap false)

/-- `write_stats_log_header_vendor`. -/
def headerVendorWriter : OutputWriter where
  namePrefix := annotationConstantNameVendorNativePrefix
  calls := false
  write _ :=
    .vendorHeader (writeNativeAtomConstants atoms) (vendorClasses atoms)
      (writeNativeMethodHeader "createVendorAtom" [] atoms.signatureInfoMap true)

/-- `write_stats_log_java`. -/
def javaWriter : OutputWriter where
  namePrefix := annotationConstantNamePrefix
  calls := true
  write constants :=
    .java (writeJavaAtomCodes atoms) (writeJavaEnumValues atoms)
      (Java.writeJavaAnnotationConstants constants request.minApiLevel)
      (Java.writeStatsLogJava constants atoms attributionDecl request.minApiLevel
        request.supportWorkSource)

/-- `write_stats_log_java_vendor`. -/
def javaVendorWriter : OutputWriter where
  namePrefix := annotationConstantNameVendorPrefix
  calls :=
    let constants := getAnnotationIdConstants annotationConstantNameVendorPrefix
    let write := Vendor.Java.writeJavaPushedMethodVendor constants
    doesUntilError write (fun entry => (write entry).isOk && vendorMethodCalls entry)
      atoms.signatureInfoMap.toList
  write constants :=
    .vendorJava (writeJavaAtomCodes atoms) (writeJavaEnumValuesVendor atoms)
      (printUntilError (Vendor.Java.writeJavaPushedMethodVendor constants)
        atoms.signatureInfoMap.toList)

/-- `write_stats_log_rust`. -/
def rustWriter : OutputWriter where
  namePrefix := annotationConstantNamePrefix
  calls := true
  write constants :=
    .rust (Rust.writeRustAnnotationConstants constants)
      (Rust.writeStatsLogRust constants atoms attributionDecl request.minApiLevel)

/-- `write_stats_log_rust_header`. -/
def rustHeaderWriter : OutputWriter where
  namePrefix := annotationConstantNamePrefix
  calls := false
  write _ := .rustHeader (Rust.writeRustAtomConstants atoms)

/-- The writer of an output. -/
def writer : Output → OutputWriter
  | .cpp => if request.vendorProto = "" then cppWriter request atoms else cppVendorWriter atoms
  | .header =>
      if request.vendorProto = "" then headerWriter request atoms else headerVendorWriter atoms
  | .java =>
      if request.vendorProto = "" then javaWriter request atoms else javaVendorWriter atoms
  | .rust => rustWriter request atoms
  | .rustHeader => rustHeaderWriter atoms

end Writers

/-! ## Phases -/

/-- What a run has done so far. -/
structure Progress where
  static : StaticConstants := none
  errorCount : Nat := 0
  files : List (Output × Text) := []
  reports : List RunError := []

/-- `errorCount` after a writer.  Only the Rust writer adds to it. -/
def countErrors (output : Output) (errorCount status : Nat) : Nat :=
  match output with
  | .cpp | .header | .java => status
  | .rust => errorCount + status
  | .rustHeader => errorCount

/-- The part of `run` for one output.  It returns early at a fault. -/
def runPhase (request : Request) (opens : String → Bool) (atoms : Atoms) (progress : Progress)
    (output : Output) : Except Progress Progress :=
  if request.isRequested output then
    let reports := progress.reports ++ request.warnings output
    match request.refusals opens output with
    | fault :: _ => .error { progress with reports := reports ++ [fault] }
    | [] =>
        let (text, static) := (writer request atoms output).run progress.static
        .ok { static, reports
              errorCount := countErrors output progress.errorCount text.status
              files := progress.files ++ [(output, text)] }
  else
    .ok progress

/-- What a run leaves: its result, the written files, and what it reports about the
options. -/
structure Outcome where
  status : Nat
  files : List (Output × Text) := []
  reports : List RunError := []

/-- The outputs one after the other.  A run that returns early returns 1. -/
def runOutputs (request : Request) (opens : String → Bool) (atoms : Atoms) : Outcome :=
  match outputs.foldlM (runPhase request opens atoms) {} with
  | .error progress => ⟨1, progress.files, progress.reports⟩
  | .ok progress => ⟨progress.errorCount, progress.files, progress.reports⟩

/-- `run` with accepted options, where `descriptor` is the `Atom` message of the generator
or of the vendor proto, and `opens` says which files can be opened. -/
def run (opens : String → Bool) (descriptor : AtomDescriptor) (request : Request) : Outcome :=
  let (errorCount, atoms) := collateAtoms descriptor request.moduleName {}
  if errorCount ≠ 0 then ⟨1, [], []⟩ else runOutputs request opens atoms

end StatsLogApiGen.Main
