import StatsLogApiGen.Java.Linking
import StatsLogApiGen.Vendor.NativeWriter
import StatsLogApiGen.Writer.Acceptance

/-!
# Overloads

The methods of one name differ in the types of their parameters only.  In Java an
attribution chain has the types of an int array and a string array, and two
signatures clash when one spells out the chain of the other.
-/

namespace StatsLogApiGen.Writer

open Std
open StatsLogApiGen.Container
open StatsLogApiGen.Proto
open StatsLogApiGen.Collation

/-! ## Clashes in one map -/

section Clash

variable {α : Type}

/-- The methods for two signatures of a map differ in the types of their parameters. -/
def OverloadsDiffer (write : Signature × FieldNumberToAtomDeclSet → Except WriterError α)
    (parameterTypes : α → List String)
    (entries : List (Signature × FieldNumberToAtomDeclSet)) : Prop :=
  ∀ first ∈ entries, ∀ second ∈ entries, first.1 ≠ second.1 →
    ∀ firstMethod, write first = .ok firstMethod →
      ∀ secondMethod, write second = .ok secondMethod →
        parameterTypes firstMethod ≠ parameterTypes secondMethod

variable {write : Signature × FieldNumberToAtomDeclSet → Except WriterError α}
  {parameterTypes : α → List String} {entries : List (Signature × FieldNumberToAtomDeclSet)}
  {map : SignatureInfoMap} {typesOf : Signature → List String}

/-- Overloads differ when the signature can be told from the types. -/
theorem overloadsDiffer_of_injective
    (describes : ∀ entry ∈ entries, ∀ method, write entry = .ok method →
      parameterTypes method = typesOf entry.1)
    (injective : ∀ left ∈ entries, ∀ right ∈ entries, typesOf left.1 = typesOf right.1 →
      left.1 = right.1) :
    OverloadsDiffer write parameterTypes entries := by
  intro first firstMem second secondMem different firstMethod firstWritten secondMethod
    secondWritten same
  rw [describes first firstMem firstMethod firstWritten,
    describes second secondMem secondMethod secondWritten] at same
  exact different (injective first firstMem second secondMem same)

/-- When every method is written, different overloads have different types. -/
theorem typesOf_injective_of_overloadsDiffer
    (describes : ∀ entry ∈ map.toList, ∀ method, write entry = .ok method →
      parameterTypes method = typesOf entry.1)
    (written : ∀ entry ∈ map.toList, (write entry).isOk = true)
    (differ : OverloadsDiffer write parameterTypes map.toList) :
    ∀ left ∈ map, ∀ right ∈ map, typesOf left = typesOf right → left = right := by
  intro left leftMem right rightMem same
  obtain ⟨first, firstMem, rfl⟩ := exists_mem_toList leftMem
  obtain ⟨second, secondMem, rfl⟩ := exists_mem_toList rightMem
  obtain ⟨firstMethod, firstWritten⟩ := isOk_iff_exists.mp (written first firstMem)
  obtain ⟨secondMethod, secondWritten⟩ := isOk_iff_exists.mp (written second secondMem)
  by_contra different
  apply differ first firstMem second secondMem different _ firstWritten _ secondWritten
  rw [describes first firstMem _ firstWritten, describes second secondMem _ secondWritten, same]

end Clash

/-! ## Java -/

/-- The signature with an int array and a string array for its chain. -/
def spelledOut : Signature → Signature
  | .attributionChain :: rest => .intArray :: .stringArray :: rest
  | signature => signature

@[simp]
theorem javaParameterTypes_spelledOut (signature : Signature) :
    javaParameterTypes (spelledOut signature) = javaParameterTypes signature := by
  rw [javaParameterTypes_eq, javaParameterTypes_eq]
  cases signature with
  | nil => rfl
  | cons type rest => cases type <;> rfl

theorem spelledOut_of_isArgument {signature : Signature}
    (areArguments : ∀ type ∈ signature, IsArgument type) : spelledOut signature = signature := by
  cases signature with
  | nil => rfl
  | cons type rest =>
      have isArgument := areArguments type List.mem_cons_self
      cases type <;> first | rfl | exact absurd isArgument id

theorem mem_spelledOut {signature : Signature} (accepted : AcceptedSignature signature) :
    ∀ type ∈ spelledOut signature, type ∈ signatureTypes.tail := by
  obtain ⟨arguments, areArguments, isSignature⟩ := accepted
  have argumentTypes : ∀ type ∈ arguments, type ∈ signatureTypes.tail :=
    fun type member => mem_signatureTypes_tail (areArguments type member)
  rcases isSignature with rfl | rfl
  · rwa [spelledOut_of_isArgument areArguments]
  · rw [spelledOut, List.forall_mem_cons, List.forall_mem_cons]
    exact ⟨by decide, by decide, argumentTypes⟩

/-- The Java types determine a signature up to its chain. -/
theorem javaParameterTypes_eq_iff {left right : Signature} (leftAccepted : AcceptedSignature left)
    (rightAccepted : AcceptedSignature right) :
    javaParameterTypes left = javaParameterTypes right ↔ spelledOut left = spelledOut right := by
  rw [← javaParameterTypes_spelledOut left, ← javaParameterTypes_spelledOut right]
  constructor
  · exact javaParameterTypes_injective (mem_spelledOut leftAccepted)
      (mem_spelledOut rightAccepted)
  · intro same
    rw [same]

/-- Spelling out a chain makes two signatures equal only if one of them spells out the
chain of the other. -/
theorem eq_of_spelledOut_eq {left right : Signature} (same : spelledOut left = spelledOut right)
    (leftFree : ∀ rest, right = .attributionChain :: rest →
      left ≠ .intArray :: .stringArray :: rest)
    (rightFree : ∀ rest, left = .attributionChain :: rest →
      right ≠ .intArray :: .stringArray :: rest) : left = right := by
  have cases (signature : Signature) :
      (∃ rest, signature = .attributionChain :: rest) ∨ spelledOut signature = signature := by
    cases signature with
    | nil => exact Or.inr rfl
    | cons type rest => cases type <;> first | exact Or.inr rfl | exact Or.inl ⟨rest, rfl⟩
  rcases cases left with ⟨leftRest, rfl⟩ | leftSame
  · rcases cases right with ⟨rightRest, rfl⟩ | rightSame
    · rw [spelledOut, spelledOut, List.cons.injEq, List.cons.injEq] at same
      rw [same.2.2]
    · rw [rightSame] at same
      exact absurd same.symm (rightFree leftRest rfl)
  · rcases cases right with ⟨rightRest, rfl⟩ | rightSame
    · rw [leftSame] at same
      exact absurd same (leftFree rightRest rfl)
    · rwa [leftSame, rightSame] at same

section JavaMethods

variable {constants : AnnotationIdConstants} {minApiLevel : Int} {method : Java.Method}
  {entry : Signature × FieldNumberToAtomDeclSet}

theorem writeJavaPulledMethod_overload
    (written : Java.writeJavaPulledMethod constants attributionDecl minApiLevel entry =
      .ok method) :
    method.overload = ⟨"buildStatsEvent", javaParameterTypes entry.1⟩ := by
  obtain ⟨parameters, isSignature, rest⟩ := bind_eq_ok_iff.mp written
  obtain ⟨code, -, rfl⟩ := map_eq_ok_iff.mp rest
  rw [Java.writeJavaMethodSignature_eq] at isSignature
  cases isSignature
  rfl

end JavaMethods

/-- The `write` methods of a class differ, and so do its `buildStatsEvent` methods. -/
structure JavaOverloadsDiffer (atoms : Atoms) : Prop where
  pushed : ∀ constants minApiLevel,
    OverloadsDiffer (Java.writeJavaPushedMethod constants attributionDecl minApiLevel)
      (fun method => method.parameters.map Parameter.typeName) atoms.signatureInfoMap.toList
  pulled : ∀ constants minApiLevel,
    OverloadsDiffer (Java.writeJavaPulledMethod constants attributionDecl minApiLevel)
      (fun method => method.parameters.map Parameter.typeName)
      atoms.pulledAtomsSignatureInfoMap.toList

/-- The Java overloads differ when the types determine the signature in both maps. -/
theorem javaOverloadsDiffer_iff_injective {atoms : Atoms} (maps : AcceptedMaps atoms) :
    JavaOverloadsDiffer atoms ↔
      (∀ left ∈ atoms.signatureInfoMap, ∀ right ∈ atoms.signatureInfoMap,
        javaParameterTypes left = javaParameterTypes right → left = right) ∧
      ∀ left ∈ atoms.pulledAtomsSignatureInfoMap, ∀ right ∈ atoms.pulledAtomsSignatureInfoMap,
        javaParameterTypes left = javaParameterTypes right → left = right := by
  have pushedTypes (constants : AnnotationIdConstants) (minApiLevel : Int) :
      ∀ entry ∈ atoms.signatureInfoMap.toList, ∀ method,
        Java.writeJavaPushedMethod constants attributionDecl minApiLevel entry = .ok method →
          method.parameters.map Parameter.typeName = javaParameterTypes entry.1 := by
    intro entry member method written
    have accepted := maps.pushed entry.1 (mem_of_mem_toList member)
    have described := (Java.writeJavaPushedMethod_overload accepted written).1
    exact congrArg Program.Overload.types described
  have pulledTypes (constants : AnnotationIdConstants) (minApiLevel : Int) :
      ∀ entry ∈ atoms.pulledAtomsSignatureInfoMap.toList, ∀ method,
        Java.writeJavaPulledMethod constants attributionDecl minApiLevel entry = .ok method →
          method.parameters.map Parameter.typeName = javaParameterTypes entry.1 := by
    intro entry _ method written
    exact congrArg Program.Overload.types (writeJavaPulledMethod_overload written)
  constructor
  · intro differ
    let constants := getAnnotationIdConstants annotationConstantNamePrefix
    constructor
    · apply typesOf_injective_of_overloadsDiffer (pushedTypes constants apiT) _
        (differ.pushed constants apiT)
      intro entry member
      have accepted := mem_signatureTypes (maps.pushed entry.1 (mem_of_mem_toList member))
      rw [Java.writeJavaPushedMethod_isOk constants apiT accepted entry.2]
      rfl
    · apply typesOf_injective_of_overloadsDiffer (pulledTypes constants apiT) _
        (differ.pulled constants apiT)
      intro entry member
      have accepted := mem_signatureTypes (maps.pulled entry.1 (mem_of_mem_toList member))
      exact Java.writeJavaPulledMethod_isOk constants apiT accepted entry.2
  · rintro ⟨pushedInjective, pulledInjective⟩
    constructor
    · intro constants minApiLevel
      apply overloadsDiffer_of_injective (pushedTypes constants minApiLevel)
      intro left leftMem right rightMem
      exact pushedInjective _ (mem_of_mem_toList leftMem) _ (mem_of_mem_toList rightMem)
    · intro constants minApiLevel
      apply overloadsDiffer_of_injective (pulledTypes constants minApiLevel)
      intro left leftMem right rightMem
      exact pulledInjective _ (mem_of_mem_toList leftMem) _ (mem_of_mem_toList rightMem)

/-! ## Signatures of selected atoms -/

/-- The atoms of one kind that are selected, by their signatures. -/
def SelectedSignature (descriptor : AtomDescriptor) (moduleName : String) (kind : AtomType)
    (signature : Signature) : Prop :=
  ∃ atomField ∈ selectedAtoms descriptor moduleName, ∃ atom,
    atomField.type = .message atom ∧ getAtomType atomField.number = kind ∧
      signatureOf atom = signature

/-- The keys of a signature map are the signatures of the selected atoms of its kind. -/
theorem mem_iff_selectedSignature {registrations : List Registration} {kind : AtomType}
    {map : SignatureInfoMap} (indexes : Indexes (entriesOf kind registrations) map)
    {descriptor : AtomDescriptor} {moduleName : String}
    (selected : registrations.map Registration.atomField =
      selectedAtoms descriptor moduleName) {signature : Signature} :
    signature ∈ map ↔ SelectedSignature descriptor moduleName kind signature := by
  rw [indexes.signatures]
  constructor
  · rintro ⟨decl, listed⟩
    obtain ⟨registration, member, isEntry⟩ := List.mem_map.mp listed
    obtain ⟨registrationMem, isKind⟩ := List.mem_filter.mp member
    refine ⟨registration.atomField, ?_, registration.atom, registration.rule.type, ?_, ?_⟩
    · exact selected ▸ List.mem_map_of_mem registrationMem
    · rw [← registration.decl_atomType]
      exact of_decide_eq_true isKind
    · exact congrArg Entry.signature isEntry
  · rintro ⟨atomField, member, atom, type, isKind, rfl⟩
    obtain ⟨registration, registrationMem, rfl, rfl⟩ := exists_registration selected member type
    refine ⟨registration.decl, List.mem_map.mpr ⟨registration, ?_, rfl⟩⟩
    apply List.mem_filter.mpr ⟨registrationMem, ?_⟩
    rw [registration.decl_atomType]
    exact decide_eq_true isKind

/-- No atom has an int array, a string array and the arguments of an atom of the same
kind that has a chain. -/
def NoChainSpelledOut (descriptor : AtomDescriptor) (moduleName : String) : Prop :=
  ∀ kind rest, SelectedSignature descriptor moduleName kind (.attributionChain :: rest) →
    ¬SelectedSignature descriptor moduleName kind (.intArray :: .stringArray :: rest)

/-- In an accepted run the Java overloads differ exactly when no atom spells out the
chain of another. -/
theorem javaOverloadsDiffer_iff (descriptor : AtomDescriptor) (moduleName : String)
    (atoms : Atoms) (accepted : collateAtoms descriptor moduleName {} = (0, atoms)) :
    JavaOverloadsDiffer atoms ↔ NoChainSpelledOut descriptor moduleName := by
  obtain ⟨registrations, selected, registered⟩ := collateAtoms_registered accepted
  have maps := acceptedMaps registered
  have injective_iff {kind : AtomType} {map : SignatureInfoMap}
      (indexes : Indexes (entriesOf kind registrations) map)
      (signatures : ∀ signature ∈ map, AcceptedSignature signature) :
      (∀ left ∈ map, ∀ right ∈ map,
        javaParameterTypes left = javaParameterTypes right → left = right) ↔
      ∀ rest, SelectedSignature descriptor moduleName kind (.attributionChain :: rest) →
        ¬SelectedSignature descriptor moduleName kind (.intArray :: .stringArray :: rest) := by
    have present := @mem_iff_selectedSignature _ _ _ indexes _ _ selected
    constructor
    · intro injective rest chained spelled
      have same := injective _ (present.mpr chained) _ (present.mpr spelled)
        (javaParameterTypes_spelledOut (.attributionChain :: rest)).symm
      cases same
    · intro free left leftMem right rightMem same
      rw [javaParameterTypes_eq_iff (signatures left leftMem) (signatures right rightMem)]
        at same
      apply eq_of_spelledOut_eq same
      · rintro rest rfl rfl
        exact free rest (present.mp rightMem) (present.mp leftMem)
      · rintro rest rfl rfl
        exact free rest (present.mp leftMem) (present.mp rightMem)
  rw [javaOverloadsDiffer_iff_injective maps, injective_iff registered.pushed maps.pushed,
    injective_iff registered.pulled maps.pulled]
  constructor
  · rintro ⟨pushed, pulled⟩ kind rest
    cases kind with
    | pushed => exact pushed rest
    | pulled => exact pulled rest
  · intro free
    exact ⟨free .pushed, free .pulled⟩

theorem javaOverloadsDiffer_wakelockDescriptor :
    JavaOverloadsDiffer (collateAtoms wakelockDescriptor defaultModuleName {}).2 ↔
      NoChainSpelledOut wakelockDescriptor defaultModuleName :=
  javaOverloadsDiffer_iff _ _ _ (Prod.ext (by decide) rfl)

/-- Two pushed atoms, one with a chain and one with the arrays of a chain. -/
def spelledOutDescriptor : AtomDescriptor where
  fields :=
    [{ name := "chain_atom", number := 1, type := .message
        { name := "ChainAtom"
          fields :=
            [{ name := "attribution_node", number := 1, isRepeated := true,
               type := .message attributionNodeFullName },
             { name := "state", number := 2, type := .int32 }]
          numbers_nodup := by decide } },
     { name := "array_atom", number := 2, type := .message
        { name := "ArrayAtom"
          fields :=
            [{ name := "uids", number := 1, isRepeated := true, type := .int32 },
             { name := "tags", number := 2, isRepeated := true, type := .string },
             { name := "state", number := 3, type := .int32 }]
          numbers_nodup := by decide } }]
  extensions := []
  numbers_nodup := by decide

/-- Both atoms get a method `write(int, int[], java.lang.String[], int)`. -/
theorem not_javaOverloadsDiffer_spelledOutDescriptor :
    (collateAtoms spelledOutDescriptor defaultModuleName {}).1 = 0 ∧
    ¬JavaOverloadsDiffer (collateAtoms spelledOutDescriptor defaultModuleName {}).2 := by
  have accepted : collateAtoms spelledOutDescriptor defaultModuleName {} =
      (0, (collateAtoms spelledOutDescriptor defaultModuleName {}).2) :=
    Prod.ext (by decide) rfl
  obtain ⟨registrations, -, registered⟩ := collateAtoms_registered accepted
  constructor
  · rw [accepted]
  · intro differ
    have injective := ((javaOverloadsDiffer_iff_injective (acceptedMaps registered)).mp differ).1
    have same := injective [.attributionChain, .int] (by decide)
      [.intArray, .stringArray, .int] (by decide)
      (javaParameterTypes_spelledOut [.attributionChain, .int]).symm
    contradiction

/-! ## C++ -/

/-- The C++ types of one entry of the signature of a vendor atom. -/
def vendorTypesOf : JavaType → List String
  | .attributionChain => ["const int32_t*", "size_t", "const std::vector<char const*>&"]
  | type => [cppTypeName true type]

theorem nativeSignatureParameters_vendor (argIndex : Int) (signature : Signature) :
    (nativeSignatureParameters attributionDecl true argIndex signature).map
      Parameter.typeName = signature.flatMap vendorTypesOf := by
  induction signature generalizing argIndex with
  | nil => rfl
  | cons type rest ih =>
      rw [nativeSignatureParameters, List.map_append, ih, List.flatMap_cons]
      congr 1
      cases type <;>
        simp [nativeArgParameters, vendorTypesOf, attributionDecl_fields, nativeChainParameters,
          cppTypeName]

/-- The type of an argument tells it from the other arguments. -/
theorem find?_vendorTypesOf :
    ∀ type ∈ signatureTypes.tail,
      signatureTypes.tail.find? (fun other =>
        (vendorTypesOf other).head? = (vendorTypesOf type).head?) = some type := by
  decide

/-- Overloads of the vendor writer determine a signature without a chain. -/
theorem flatMap_vendorTypesOf_injective {left right : Signature}
    (leftAccepted : ∀ type ∈ left, type ∈ signatureTypes.tail)
    (rightAccepted : ∀ type ∈ right, type ∈ signatureTypes.tail)
    (equal : left.flatMap vendorTypesOf = right.flatMap vendorTypesOf) : left = right := by
  apply flatMap_injective _ _ leftAccepted rightAccepted equal
  · intro type _
    cases type <;> simp [vendorTypesOf]
  · intro first second firstMem secondMem heads
    have found := find?_vendorTypesOf first firstMem
    rw [heads, find?_vendorTypesOf second secondMem] at found
    exact (Option.some.inj found).symm

/-- The entries of a map whose signatures have no chain. -/
def withoutChain (map : SignatureInfoMap) : List (Signature × FieldNumberToAtomDeclSet) :=
  map.toList.filter fun entry => .attributionChain ∉ entry.1

/-- The methods of one name in a C++ source differ.  The types of a method are those of
the entries of its signature in order. -/
structure CppOverloadsDiffer (atoms : Atoms) : Prop where
  pushedTypes : ∀ constants minApiLevel bootstrap entry method,
    Native.writeNativeStatsWriteMethod constants attributionDecl minApiLevel bootstrap entry =
      .ok method →
    method.parameters.map Parameter.typeName = "int32_t" :: entry.1.flatMap nativeTypesOf
  pushed : ∀ constants minApiLevel bootstrap,
    OverloadsDiffer
      (Native.writeNativeStatsWriteMethod constants attributionDecl minApiLevel bootstrap)
      (fun method => method.parameters.map Parameter.typeName) atoms.signatureInfoMap.toList
  pulledTypes : ∀ constants minApiLevel entry method,
    Native.writeNativeBuildStatsEventMethod constants attributionDecl minApiLevel entry =
      .ok method →
    method.parameters.map Parameter.typeName =
      "AStatsEventList*" :: "int32_t" :: entry.1.flatMap nativeTypesOf
  pulled : ∀ constants minApiLevel,
    OverloadsDiffer
      (Native.writeNativeBuildStatsEventMethod constants attributionDecl minApiLevel)
      (fun method => method.parameters.map Parameter.typeName)
      atoms.pulledAtomsSignatureInfoMap.toList
  vendorTypes : ∀ constants entry method,
    Vendor.Native.writeNativeCreateVendorAtomMethod constants attributionDecl entry =
      .ok method →
    method.parameters.map Parameter.typeName = "int32_t" :: entry.1.flatMap vendorTypesOf
  vendor : ∀ constants,
    OverloadsDiffer (Vendor.Native.writeNativeCreateVendorAtomMethod constants attributionDecl)
      (fun method => method.parameters.map Parameter.typeName)
      (withoutChain atoms.signatureInfoMap)

section CppTypes

variable {constants : AnnotationIdConstants} {minApiLevel : Int}
  {entry : Signature × FieldNumberToAtomDeclSet}

theorem statsWrite_types {bootstrap : Bool} {method : Native.Method}
    (written : Native.writeNativeStatsWriteMethod constants attributionDecl minApiLevel
      bootstrap entry = .ok method) :
    method.parameters.map Parameter.typeName = nativeParameterTypes entry.1 := by
  obtain ⟨body, -, rfl⟩ := map_eq_ok_iff.mp written
  rfl

theorem addAStatsEvent_types {method : Native.Method}
    (written : Native.writeNativeBuildStatsEventMethod constants attributionDecl minApiLevel
      entry = .ok method) :
    method.parameters.map Parameter.typeName =
      "AStatsEventList*" :: nativeParameterTypes entry.1 := by
  obtain ⟨code, -, rfl⟩ := map_eq_ok_iff.mp written
  rfl

theorem createVendorAtom_types {method : Vendor.Native.Method}
    (written : Vendor.Native.writeNativeCreateVendorAtomMethod constants attributionDecl entry =
      .ok method) :
    method.parameters.map Parameter.typeName = "int32_t" :: entry.1.flatMap vendorTypesOf := by
  obtain ⟨values, -, rfl⟩ := map_eq_ok_iff.mp written
  exact congrArg (List.cons "int32_t") (nativeSignatureParameters_vendor 1 entry.1)

end CppTypes

/-- In an accepted run the C++ overloads differ. -/
theorem cppOverloadsDiffer (descriptor : AtomDescriptor) (moduleName : String) (atoms : Atoms)
    (accepted : collateAtoms descriptor moduleName {} = (0, atoms)) :
    CppOverloadsDiffer atoms := by
  obtain ⟨registrations, -, registered⟩ := collateAtoms_registered accepted
  have maps := acceptedMaps registered
  have types {map : SignatureInfoMap} (signatures : ∀ signature ∈ map, AcceptedSignature signature)
      {entry : Signature × FieldNumberToAtomDeclSet} (member : entry ∈ map.toList) :
      ∀ type ∈ entry.1, type ∈ signatureTypes :=
    mem_signatureTypes (signatures entry.1 (mem_of_mem_toList member))
  constructor
  · intro constants minApiLevel bootstrap entry method written
    rw [statsWrite_types written, nativeParameterTypes_eq]
  · intro constants minApiLevel bootstrap
    apply overloadsDiffer_of_injective fun entry _ method written => statsWrite_types written
    intro left leftMem right rightMem same
    exact nativeParameterTypes_injective (types maps.pushed leftMem) (types maps.pushed rightMem)
      same
  · intro constants minApiLevel entry method written
    rw [addAStatsEvent_types written, nativeParameterTypes_eq]
  · intro constants minApiLevel
    let typesOf (signature : Signature) : List String :=
      "AStatsEventList*" :: nativeParameterTypes signature
    apply @overloadsDiffer_of_injective _ _ _ _ typesOf
      fun entry _ method written => addAStatsEvent_types written
    intro left leftMem right rightMem same
    exact nativeParameterTypes_injective (types maps.pulled leftMem) (types maps.pulled rightMem)
      (List.cons.inj same).2
  · intro constants entry method written
    exact createVendorAtom_types written
  · intro constants
    let typesOf (signature : Signature) : List String :=
      "int32_t" :: signature.flatMap vendorTypesOf
    apply @overloadsDiffer_of_injective _ _ _ _ typesOf
      fun entry _ method written => createVendorAtom_types written
    have arguments {entry : Signature × FieldNumberToAtomDeclSet}
        (member : entry ∈ withoutChain atoms.signatureInfoMap) :
        ∀ type ∈ entry.1, type ∈ signatureTypes.tail := by
      obtain ⟨listed, noChain⟩ := List.mem_filter.mp member
      intro type typeMem
      rcases List.mem_cons.mp (types maps.pushed listed type typeMem) with isChain | isArgument
      · exact absurd (isChain ▸ typeMem) (of_decide_eq_true noChain)
      · exact isArgument
    intro left leftMem right rightMem same
    exact flatMap_vendorTypesOf_injective (arguments leftMem) (arguments rightMem)
      (List.cons.inj same).2

theorem cppOverloadsDiffer_wakelockDescriptor :
    CppOverloadsDiffer (collateAtoms wakelockDescriptor defaultModuleName {}).2 :=
  cppOverloadsDiffer wakelockDescriptor defaultModuleName _ (Prod.ext (by decide) rfl)

end StatsLogApiGen.Writer
