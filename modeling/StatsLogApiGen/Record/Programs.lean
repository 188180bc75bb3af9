import Mathlib.Data.List.Flatten
import StatsLogApiGen.Main.Advertised
import StatsLogApiGen.Native.Linking
import StatsLogApiGen.Record.Loggers
import StatsLogApiGen.Rust.Linking

/-!
# Programs that use generated files

A program that uses the written files names an atom by its constant and a method by its
overload, or a Rust function by its module.  This file says which method a call selects.
-/

namespace StatsLogApiGen.Record

open Std
open StatsLogApiGen.Container
open StatsLogApiGen.Program (Overload)
open StatsLogApiGen.Proto
open StatsLogApiGen.Collation
open StatsLogApiGen.Writer
open StatsLogApiGen.Main

/-! ## Overloads -/

/-- The overload of the native method that logs arguments of some types. -/
def nativeOverload (types : Signature) : AtomType → Overload String String
  | .pushed => ⟨"stats_write", nativeParameterTypes types⟩
  | .pulled => ⟨"addAStatsEvent", "AStatsEventList*" :: nativeParameterTypes types⟩

/-- The overload of the Java method that logs arguments of some types. -/
def javaOverload (types : Signature) : AtomType → Overload String String
  | .pushed => ⟨"write", javaParameterTypes types⟩
  | .pulled => ⟨"buildStatsEvent", javaParameterTypes types⟩

/-- The overloads of the vendor methods. -/
def vendorNativeOverload (types : Signature) : Overload String String :=
  ⟨"createVendorAtom", "int32_t" :: types.flatMap vendorTypesOf⟩

def vendorJavaOverload (types : Signature) : Overload String String :=
  ⟨"createVendorAtom", javaParameterTypes types⟩

/-- The overload of a method with some parameters. -/
def overloadOf (name : String) (parameters : List Parameter) : Overload String String :=
  ⟨name, parameters.map Parameter.typeName⟩

/-- The overload that a header declares. -/
def declaredOverload (header : MethodHeader) : Overload String String :=
  overloadOf header.name header.parameters

/-! ## Calls -/

section Calls

variable {Method Result : Type}

/-- A call that names an atom by its constant and a method by its overload. -/
def callByName (atomCodes : List (String × Int)) (atomName : String) (methods : List Method)
    (overloads : Method → Overload String String) (overload : Overload String String)
    (call : Method → Int → Option Result) : Option Result :=
  (atomCodes.lookup (makeConstantName atomName)).bind fun code =>
    (methods.find? fun method => overloads method = overload).bind fun method =>
      call method code

theorem callByName_eq {atomCodes : List (String × Int)} {atomName : String} {code : Int}
    (isCode : atomCodes.lookup (makeConstantName atomName) = some code) {methods : List Method}
    {overloads : Method → Overload String String} {overload : Overload String String}
    {method : Method} (selected : methods.find? (fun method => overloads method = overload) =
      some method) (call : Method → Int → Option Result) :
    callByName atomCodes atomName methods overloads overload call = call method code := by
  rw [callByName, isCode, Option.bind_some, selected, Option.bind_some]

/-- A C++ program also needs a declaration of the method. -/
def callDeclared (atomCodes : List (String × Int)) (headers : List MethodHeader)
    (atomName : String) (methods : List Method) (overloads : Method → Overload String String)
    (overload : Overload String String) (call : Method → Int → Option Result) : Option Result :=
  if overload ∈ headers.map declaredOverload then
    callByName atomCodes atomName methods overloads overload call
  else
    none

end Calls

section Programs

variable (environment : Environment) (atoms : Atoms) (atomName : String) (atomType : AtomType)
  (arguments : List Argument)

/-- A C++ program gets the code of an atom and the declaration of a method from the header,
and is linked with the source. -/
def logNative : Text → Text → Option Delivery
  | .header atomConstants _ _ headers, .cpp (.ok methods) =>
      callDeclared atomConstants headers atomName methods Native.Method.overload
        (nativeOverload (arguments.map Argument.type) atomType) fun method code =>
          (method.log atoms (getAnnotationIdConstants annotationConstantNamePrefix)
            environment.platform environment.minApiLevel code arguments).toOption.map .event
  | _, _ => none

/-- A Java program uses the constant and the method of the class. -/
def logJava : Text → Option Delivery
  | .java atomCodes _ _ output =>
      callByName atomCodes atomName output.methods Java.Method.overload
        (javaOverload (arguments.map Argument.type) atomType) fun method code =>
          (method.call atoms (getAnnotationIdConstants annotationConstantNamePrefix)
            environment.platform environment.sdkInt environment.minApiLevel code
              arguments).toOption.map .event
  | _ => none

/-- A Rust program uses the function in the module of an atom. -/
def logRust : Text → Option Delivery
  | .rust _ (.ok modules) =>
      (modules.find? fun crate => crate.name = atomName).bind fun crate =>
        (crate.functions.find? fun function =>
            function.name = Rust.statsWriteName atomType).bind fun function =>
          (function.call atoms (getAnnotationIdConstants annotationConstantNamePrefix)
            arguments).toOption.map .event
  | _ => none

/-- A C++ program that sends vendor atoms. -/
def logVendorNative : Text → Text → Option Delivery
  | .vendorHeader atomConstants _ headers, .vendorCpp source =>
      callDeclared atomConstants headers atomName source.methods
        (fun method => overloadOf method.name method.parameters)
        (vendorNativeOverload (arguments.map Argument.type)) fun method code =>
          (method.call atoms environment.vendorNative code arguments).toOption.map .parcel
  | _, _ => none

/-- A Java program that sends vendor atoms. -/
def logVendorJava : Text → Option Delivery
  | .vendorJava atomCodes _ output =>
      callByName atomCodes atomName output.methods
        (fun method => overloadOf method.name method.parameters)
        (vendorJavaOverload (arguments.map Argument.type)) fun method code =>
          (method.call atoms environment.vendorJava code arguments).toOption.map .parcel
  | _ => none

/-- What a program delivers that is built with the files of a run. -/
def logWith (files : List (Output × Text)) : Logger → Option Delivery
  | .native => (files.lookup .header).bind fun header => (files.lookup .cpp).bind fun source =>
      logNative environment atoms atomName atomType arguments header source
  | .java => (files.lookup .java).bind (logJava environment atoms atomName atomType arguments)
  | .rust => (files.lookup .rust).bind (logRust atoms atomName atomType arguments)
  | .vendorNative =>
      (files.lookup .header).bind fun header => (files.lookup .cpp).bind fun source =>
        logVendorNative environment atoms atomName arguments header source
  | .vendorJava =>
      (files.lookup .java).bind (logVendorJava environment atoms atomName arguments)

end Programs

/-- The files that a program needs for a logger. -/
def neededOutputs : Logger → List Output
  | .native | .vendorNative => [.header, .cpp]
  | .java | .vendorJava => [.java]
  | .rust => [.rust]

/-! ## Files that compile -/

/-- The names that a module of the crate defines. -/
def moduleNames (crate : Rust.Module) : List Identifier :=
  [crate.name] :: [crate.name, crate.struct.name] :: crate.enums.flatMap fun enum =>
    [crate.name, enum.name] :: enum.variants.map fun variant =>
      [crate.name, enum.name, variant.1]

/-- The constants, classes and modules that a file defines. -/
def definedNames : Text → List Identifier
  | .header atomConstants atomEnums annotationConstants _ =>
      constantIdentifiers (atomConstants ++ atomEnums ++ annotationConstants)
  | .java atomCodes enumValues annotationConstants _ =>
      constantIdentifiers (atomCodes ++ enumValues) ++
        annotationConstants.map fun constant => [constant.1]
  | .rust annotationConstants (.ok modules) =>
      constantIdentifiers annotationConstants ++ modules.flatMap moduleNames
  | .rustHeader atomConstants => constantIdentifiers atomConstants
  | .vendorHeader atomConstants classes _ =>
      constantIdentifiers atomConstants ++ classes.flatMap VendorClass.identifiers
  | .vendorJava atomCodes enumValues _ => constantIdentifiers (atomCodes ++ enumValues)
  | .cpp _ | .vendorCpp _ | .rust _ (.error _) => []

/-- The functions or methods that a file defines.  Those of a Rust file are in modules. -/
def definedFunctions : Text → List (Overload String String)
  | .cpp (.ok methods) => methods.map Native.Method.overload
  | .java _ _ _ output => output.overloads
  | .vendorCpp printed =>
      printed.methods.map fun method => overloadOf method.name method.parameters
  | .vendorJava _ _ printed =>
      printed.methods.map fun method => overloadOf method.name method.parameters
  | .cpp (.error _) | .header .. | .rust .. | .rustHeader _ | .vendorHeader .. => []

/-- The bodies of a file compile, and what they call is there.  In Rust a name stands for what
it is meant to. -/
def BodiesCompile (environment : Environment) (atoms : Atoms) : Text → Prop
  | .cpp (.ok methods) =>
      Native.CallsResolve methods ∧
      ∀ method ∈ methods, method.Compiles atoms
        (getAnnotationIdConstants annotationConstantNamePrefix) environment.platform
          environment.minApiLevel
  | .java _ _ _ output =>
      Java.CallsResolve output ∧
      ∀ method ∈ output.methods, method.Compiles atoms
        (getAnnotationIdConstants annotationConstantNamePrefix) environment.platform
          environment.sdkInt environment.minApiLevel
  | .rust _ (.ok modules) =>
      ∀ crate ∈ modules, crate.CallsResolve ∧ crate.ComparesIntegers ∧
        ∀ function ∈ crate.functions, Rust.Hygienic function
  | .vendorCpp printed =>
      ∀ method ∈ printed.methods, method.Compiles atoms environment.vendorNative
  | .vendorJava _ _ printed =>
      ∀ method ∈ printed.methods, method.Compiles atoms environment.vendorJava
  | .cpp (.error _) | .rust _ (.error _) | .header .. | .rustHeader _ | .vendorHeader .. => True

instance (environment : Environment) (atoms : Atoms) :
    (text : Text) → Decidable (BodiesCompile environment atoms text)
  | .cpp (.ok _) | .java .. => inferInstanceAs (Decidable (_ ∧ ∀ _ ∈ _, _))
  | .rust _ (.ok _) => inferInstanceAs (Decidable (∀ _ ∈ _, _ ∧ _ ∧ ∀ _ ∈ _, _))
  | .vendorCpp _ | .vendorJava .. => inferInstanceAs (Decidable (∀ _ ∈ _, _))
  | .cpp (.error _) | .rust _ (.error _) | .header .. | .rustHeader _ | .vendorHeader .. =>
      .isTrue trivial

/-- A file compiles: nothing in it is defined twice, and its bodies compile. -/
structure FileCompiles (environment : Environment) (atoms : Atoms) (text : Text) : Prop where
  names : (definedNames text).Nodup
  functions : (definedFunctions text).Nodup
  bodies : BodiesCompile environment atoms text

instance (environment : Environment) (atoms : Atoms) (text : Text) :
    Decidable (FileCompiles environment atoms text) :=
  decidable_of_iff (_ ∧ _ ∧ _)
    ⟨fun all => ⟨all.1, all.2.1, all.2.2⟩,
    fun compiles => ⟨compiles.names, compiles.functions, compiles.bodies⟩⟩

/-- The files for a logger compile. -/
def Builds (environment : Environment) (atoms : Atoms) (files : List (Output × Text))
    (logger : Logger) : Prop :=
  ∀ output ∈ neededOutputs logger, ∀ text ∈ files.lookup output,
    FileCompiles environment atoms text

instance (environment : Environment) (atoms : Atoms) (files : List (Output × Text))
    (logger : Logger) : Decidable (Builds environment atoms files logger) :=
  inferInstanceAs (Decidable (∀ _ ∈ _, ∀ _ ∈ _, _))

/-! ## Selected methods -/

/-- An item is found by its key where keys differ. -/
theorem find?_of_nodup {α β : Type} [DecidableEq β] {items : List α} {key : α → β}
    (distinct : (items.map key).Nodup) {item : α} (member : item ∈ items) :
    items.find? (fun other => key other = key item) = some item := by
  apply find?_eq_some_of_unique member (decide_eq_true rfl)
  intro other otherMem same
  exact List.inj_on_of_nodup_map distinct otherMem member (of_decide_eq_true same)

section Selection

variable {atoms : Atoms} {minApiLevel : Int} {decl : AtomDecl}
  {declSets : FieldNumberToAtomDeclSet} {constants : AnnotationIdConstants}

/-- The native method of an atom has its overload. -/
theorem nativeMethod_overload {method : Native.Method}
    (written : Rust.nativeMethod constants minApiLevel decl declSets = .ok method) :
    method.overload = nativeOverload decl.signature decl.atomType := by
  rw [Rust.nativeMethod] at written
  cases kind : decl.atomType with
  | pushed =>
      rw [kind] at written
      exact (Native.writeNativeStatsWriteMethod_overload written).1
  | pulled =>
      rw [kind] at written
      rw [Native.Method.overload, addAStatsEvent_types written,
        (Native.writeNativeBuildStatsEventMethod_overload written).1]
      rfl

theorem javaMethod_overload (accepted : AcceptedSignature decl.signature) {method : Java.Method}
    (written : javaMethod constants minApiLevel decl declSets = .ok method) :
    method.overload = javaOverload decl.signature decl.atomType := by
  rw [javaMethod] at written
  cases kind : decl.atomType with
  | pushed =>
      rw [kind] at written
      exact (Java.writeJavaPushedMethod_overload accepted written).1
  | pulled =>
      rw [kind] at written
      exact writeJavaPulledMethod_overload written

variable (setsFound : (signatureMap atoms decl.atomType)[decl.signature]? = some declSets)

include setsFound

/-- The source has the native method of an atom. -/
theorem mem_nativeMethods {methods : List Native.Method} {method : Native.Method}
    (source : Native.writeStatsLogCpp constants atoms attributionDecl minApiLevel false =
      .ok methods)
    (written : Rust.nativeMethod constants minApiLevel decl declSets = .ok method) :
    method ∈ methods := by
  rw [Rust.nativeMethod] at written
  cases kind : decl.atomType with
  | pushed =>
      rw [kind] at setsFound written
      exact Native.mem_writeStatsLogCpp setsFound written source
  | pulled =>
      rw [kind] at setsFound written
      exact Native.mem_writeStatsLogCpp_pulled setsFound written source

/-- The overload of an atom selects its native method. -/
theorem find?_nativeMethod {methods : List Native.Method} {method : Native.Method}
    (source : Native.writeStatsLogCpp constants atoms attributionDecl minApiLevel false =
      .ok methods)
    (distinct : (methods.map Native.Method.overload).Nodup)
    (written : Rust.nativeMethod constants minApiLevel decl declSets = .ok method) :
    methods.find? (fun other => other.overload = nativeOverload decl.signature decl.atomType) =
      some method := by
  rw [← nativeMethod_overload written]
  exact find?_of_nodup distinct (mem_nativeMethods setsFound source written)

theorem mem_javaMethods {supportWorkSource : Bool} {method : Java.Method}
    (noErrors : (Java.writeStatsLogJava constants atoms attributionDecl minApiLevel
      supportWorkSource).errors = 0)
    (written : javaMethod constants minApiLevel decl declSets = .ok method) :
    method ∈ (Java.writeStatsLogJava constants atoms attributionDecl minApiLevel
      supportWorkSource).methods := by
  have entryMem := ExtTreeMap.mem_toList_iff_getElem?_eq_some.mpr setsFound
  rw [Java.mem_methods_iff noErrors]
  rw [javaMethod] at written
  cases kind : decl.atomType with
  | pushed =>
      rw [kind] at entryMem written
      exact Or.inl ⟨_, entryMem, written⟩
  | pulled =>
      rw [kind] at entryMem written
      exact Or.inr (Or.inr (Or.inl ⟨_, entryMem, written⟩))

/-- The overload of an atom selects its Java method. -/
theorem find?_javaMethod (accepted : AcceptedSignature decl.signature) {supportWorkSource : Bool}
    {method : Java.Method}
    (noErrors : (Java.writeStatsLogJava constants atoms attributionDecl minApiLevel
      supportWorkSource).errors = 0)
    (distinct : (Java.writeStatsLogJava constants atoms attributionDecl minApiLevel
      supportWorkSource).overloads.Nodup)
    (written : javaMethod constants minApiLevel decl declSets = .ok method) :
    (Java.writeStatsLogJava constants atoms attributionDecl minApiLevel
        supportWorkSource).methods.find?
          (fun other => other.overload = javaOverload decl.signature decl.atomType) =
      some method := by
  rw [← javaMethod_overload accepted written]
  exact find?_of_nodup (List.nodup_append.mp distinct).1
    (mem_javaMethods setsFound noErrors written)

end Selection

section RustModule

variable {atoms : Atoms} {minApiLevel : Int} {decl : AtomDecl} {constants : AnnotationIdConstants}
  {function : Rust.Function} {module : Rust.Module}
  (written : Rust.writeRustStatsWriteMethod constants attributionDecl minApiLevel decl =
    .ok function)

include written

theorem exists_rustModule : ∃ module, Rust.writeRustModule attributionDecl constants minApiLevel
    atoms.nonChainedDecls decl = .ok module :=
  ⟨_, by rw [Rust.writeRustModule, written]; rfl⟩

variable (isModule : Rust.writeRustModule attributionDecl constants minApiLevel
  atoms.nonChainedDecls decl = .ok module)

include isModule

/-- The function of an atom comes first in its module. -/
theorem exists_functions :
    ∃ others, module.functions = function :: others ∧
      ∀ other ∈ others, ∃ nonChained,
        other = Rust.writeRustStatsWriteNonChainedMethod attributionDecl nonChained := by
  obtain ⟨statsWrite, isStatsWrite, rfl⟩ := map_eq_ok_iff.mp isModule
  cases isStatsWrite.symm.trans written
  cases found : atoms.nonChainedDecls[decl.key]? with
  | none => exact ⟨[], rfl, fun other member => absurd member List.not_mem_nil⟩
  | some nonChained =>
      refine ⟨_, rfl, ?_⟩
      intro other member
      exact ⟨nonChained, List.mem_singleton.mp member⟩

theorem mem_functions : function ∈ module.functions := by
  obtain ⟨others, functions, -⟩ := exists_functions written isModule
  rw [functions]
  exact List.mem_cons_self

/-- The function of an atom compares the enums of the atom. -/
theorem comparesIntegers_function (compares : module.ComparesIntegers) :
    function.ComparesIntegers (Rust.writeRustAtomConstantValues decl) := by
  have listed := mem_functions written isModule
  obtain ⟨statsWrite, -, rfl⟩ := map_eq_ok_iff.mp isModule
  exact compares function (List.mem_cons_of_mem _ listed)

end RustModule

section RustSelection

variable {atoms : Atoms} {minApiLevel : Int} {decl : AtomDecl} {constants : AnnotationIdConstants}
  (member : decl ∈ elements atoms.decls) (notRepeated : Rust.hasRepeatedField decl = false)
  {modules : List Rust.Module}
  (crate : Rust.writeStatsLogRust constants atoms attributionDecl minApiLevel = .ok modules)

include member notRepeated crate

/-- The crate has the module of an atom. -/
theorem mem_rustModules {module : Rust.Module}
    (isModule : Rust.writeRustModule attributionDecl constants minApiLevel atoms.nonChainedDecls
      decl = .ok module) : module ∈ modules :=
  (mem_of_mapM_eq_ok crate).mpr
    ⟨decl, List.mem_filter.mpr ⟨member, by rw [notRepeated]; rfl⟩, isModule⟩

/-- The name of an atom selects its Rust module. -/
theorem find?_rustModule (distinct : (modules.flatMap moduleNames).Nodup) {module : Rust.Module}
    (isModule : Rust.writeRustModule attributionDecl constants minApiLevel atoms.nonChainedDecls
      decl = .ok module) :
    modules.find? (fun crate => crate.name = decl.name) = some module := by
  have isName : module.name = decl.name := by
    obtain ⟨statsWrite, -, rfl⟩ := map_eq_ok_iff.mp isModule
    rfl
  have names : (modules.map Rust.Module.name).Nodup := by
    have first : (modules.map fun crate => [crate.name]).Sublist (modules.flatMap moduleNames) := by
      rw [List.map_eq_flatMap]
      exact List.Sublist.flatMap_right modules fun crate _ =>
        List.singleton_sublist.mpr List.mem_cons_self
    apply List.Nodup.of_map fun name : String => [name]
    rw [List.map_map]
    exact distinct.sublist first
  rw [← isName]
  exact find?_of_nodup names (mem_rustModules member notRepeated crate isModule)

/-- The name of an atom selects its Rust function. -/
theorem find?_rustFunction (distinct : (modules.flatMap moduleNames).Nodup)
    {function : Rust.Function}
    (written : Rust.writeRustStatsWriteMethod constants attributionDecl minApiLevel decl =
      .ok function) :
    ((modules.find? fun crate => crate.name = decl.name).bind fun crate =>
        crate.functions.find? fun function => function.name = Rust.statsWriteName decl.atomType) =
      some function := by
  obtain ⟨chosen, isModule⟩ := @exists_rustModule atoms _ _ _ _ written
  rw [find?_rustModule member notRepeated crate distinct isModule, Option.bind_some]
  obtain ⟨statsWrite, isStatsWrite, rfl⟩ := map_eq_ok_iff.mp isModule
  cases isStatsWrite.symm.trans written
  obtain ⟨code, -, rfl⟩ := map_eq_ok_iff.mp written
  dsimp only
  split <;> simp

end RustSelection

/-! ## Selected vendor methods -/

section VendorSelection

variable {atoms : Atoms} {decl : AtomDecl} {declSets : FieldNumberToAtomDeclSet}
  {constants : AnnotationIdConstants}

/-- What is printed for an entry is selected by its overload. -/
theorem find?_printed {Method : Type}
    {write : Signature × FieldNumberToAtomDeclSet → Except WriterError Method}
    {overloads : Method → Overload String String}
    {entries : List (Signature × FieldNumberToAtomDeclSet)}
    (complete : (printUntilError write entries).error = none)
    (distinct : ((printUntilError write entries).methods.map overloads).Nodup)
    {entry : Signature × FieldNumberToAtomDeclSet} (member : entry ∈ entries) {method : Method}
    (written : write entry = .ok method) :
    method ∈ (printUntilError write entries).methods ∧
      (printUntilError write entries).methods.find?
        (fun other => overloads other = overloads method) = some method := by
  have printed := mem_printed_of_isOk ((printUntilError_error write entries).mp complete) member
    written
  exact ⟨printed, find?_of_nodup distinct printed⟩

theorem vendorNativeMethod_overload {method : Vendor.Native.Method}
    (written : Vendor.Native.writeNativeCreateVendorAtomMethod constants attributionDecl
      (decl.signature, declSets) = .ok method) :
    overloadOf method.name method.parameters = vendorNativeOverload decl.signature := by
  rw [overloadOf, createVendorAtom_types written]
  obtain ⟨values, -, rfl⟩ := map_eq_ok_iff.mp written
  rfl

theorem vendorJavaMethod_overload (noChain : JavaType.attributionChain ∉ decl.signature)
    {method : Vendor.Java.Method}
    (written : Vendor.Java.writeJavaPushedMethodVendor constants (decl.signature, declSets) =
      .ok method) :
    overloadOf method.name method.parameters = vendorJavaOverload decl.signature := by
  have notChain : ∀ type ∈ decl.signature, type ≠ .attributionChain := by
    rintro type member rfl
    exact noChain member
  obtain ⟨parameters, isParameters, isMethod⟩ := bind_eq_ok_iff.mp written
  obtain ⟨body, -, rfl⟩ := map_eq_ok_iff.mp isMethod
  rw [Vendor.Java.writeJavaMethodSignature_eq notChain] at isParameters
  cases isParameters
  rfl

end VendorSelection

end StatsLogApiGen.Record
