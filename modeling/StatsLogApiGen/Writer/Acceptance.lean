import StatsLogApiGen.Java.Run
import StatsLogApiGen.Native.Run
import StatsLogApiGen.Writer.NonChained

/-!
# What collation accepts can be generated

The writers know fewer types than collation, and they know them at different API
levels.  On accepted atoms only repeated types make a writer fail.
-/

namespace StatsLogApiGen.Writer

open Std
open StatsLogApiGen.Container
open StatsLogApiGen.Proto
open StatsLogApiGen.Collation

/-! ## Signature maps of accepted atoms -/

/-- Some signature of the map has a repeated type. -/
def HasRepeatedField (map : SignatureInfoMap) : Prop :=
  ∃ signature ∈ map, containsRepeatedField signature = true

/-- The signature maps of an accepted run hold accepted signatures, and the
signatures of the non-chained map have no chain. -/
structure AcceptedMaps (atoms : Atoms) : Prop where
  pushed : ∀ signature ∈ atoms.signatureInfoMap, AcceptedSignature signature
  pulled : ∀ signature ∈ atoms.pulledAtomsSignatureInfoMap, AcceptedSignature signature
  nonChained : ∀ signature ∈ atoms.nonChainedSignatureInfoMap,
    JavaType.attributionChain ∉ signature

theorem acceptedMaps {registrations : List Registration} {atoms : Atoms}
    (registered : Registered registrations atoms) : AcceptedMaps atoms := by
  have accepted {atomType : AtomType} {map : SignatureInfoMap}
      (indexes : Indexes (entriesOf atomType registrations) map) :
      ∀ signature ∈ map, AcceptedSignature signature := by
    intro signature member
    obtain ⟨decl, listed⟩ := (indexes.signatures signature).mp member
    obtain ⟨declMem, -, rfl⟩ := mem_entriesOf.mp listed
    obtain ⟨registration, -, rfl⟩ := List.mem_map.mp declMem
    rw [← registration.signatureOf_eq]
    exact registration.rule.message.acceptedSignature
  constructor
  · exact accepted registered.pushed
  · exact accepted registered.pulled
  · intro signature member
    obtain ⟨registration, -, hasChain, rfl⟩ :=
      (mem_nonChainedSignatureInfoMap registered).mp member
    obtain ⟨rest, noChain, flattened, -⟩ := exists_flattenedSignature registration hasChain
    rw [flattened]
    intro chain
    rcases List.mem_cons.mp chain with isInt | later
    · contradiction
    · rcases List.mem_cons.mp later with isString | other
      · contradiction
      · exact noChain _ other rfl

/-! ## Traversing a signature map -/

section Traversal

variable {α : Type} {map : SignatureInfoMap}
  {write : Signature × FieldNumberToAtomDeclSet → Except WriterError α}

/-- A writer that accepts repeated types from a level on gets through a map when
the level is reached or no signature has a repeated type. -/
theorem mapM_isOk_iff {level : Bool}
    (writes : ∀ entry ∈ map.toList,
      (write entry).isOk = (level || !containsRepeatedField entry.1)) :
    (map.toList.mapM write).isOk = true ↔ level = true ∨ ¬HasRepeatedField map := by
  rw [mapM_isOk, List.all_eq_true]
  constructor
  · intro all
    cases level with
    | true => exact Or.inl rfl
    | false =>
        right
        rintro ⟨signature, member, repeated⟩
        obtain ⟨entry, entryMem, rfl⟩ := exists_mem_toList member
        have isOk := all entry entryMem
        rw [writes entry entryMem, repeated] at isOk
        contradiction
  · intro supported entry entryMem
    rw [writes entry entryMem]
    rcases supported with reached | none
    · rw [reached, Bool.true_or]
    · have notRepeated : containsRepeatedField entry.1 = false := by
        by_contra repeated
        rw [Bool.not_eq_false] at repeated
        exact none ⟨entry.1, mem_of_mem_toList entryMem, repeated⟩
      rw [notRepeated, Bool.not_false, Bool.or_true]

end Traversal

theorem containsRepeatedField_of_mem {signature : Signature} {type : JavaType}
    (member : type ∈ signature) (repeated : type.isRepeatedField = true) :
    containsRepeatedField signature = true :=
  List.any_eq_true.mpr ⟨type, member, repeated⟩

section Native

open StatsLogApiGen.Native

variable {atoms : Atoms} (maps : AcceptedMaps atoms) (constants : AnnotationIdConstants)
  (minApiLevel : Int)

include maps

theorem writeNativeStatsWriteMethods_isOk :
    (writeNativeStatsWriteMethods constants attributionDecl minApiLevel false
      atoms.signatureInfoMap).isOk = true ↔
        minApiLevel ≥ apiT ∨ ¬HasRepeatedField atoms.signatureInfoMap := by
  rw [← decide_eq_true_iff (p := minApiLevel ≥ apiT)]
  apply mapM_isOk_iff
  intro entry member
  exact writeNativeStatsWriteMethod_isOk _
    (mem_signatureTypes (maps.pushed entry.1 (mem_of_mem_toList member))) _ _

theorem writeNativeBuildStatsEventMethods_isOk :
    (writeNativeBuildStatsEventMethods constants attributionDecl minApiLevel
      atoms.pulledAtomsSignatureInfoMap).isOk = true ↔
        minApiLevel ≥ apiT ∨ ¬HasRepeatedField atoms.pulledAtomsSignatureInfoMap := by
  rw [← decide_eq_true_iff (p := minApiLevel ≥ apiT)]
  apply mapM_isOk_iff
  intro entry member
  exact writeNativeBuildStatsEventMethod_isOk _
    (mem_signatureTypes (maps.pulled entry.1 (mem_of_mem_toList member))) _ _

/-- The C++ source can be generated from T on, and before when no signature has a
repeated type. -/
theorem writeStatsLogCpp_isOk :
    (writeStatsLogCpp constants atoms attributionDecl minApiLevel false).isOk = true ↔
      minApiLevel ≥ apiT ∨ (¬HasRepeatedField atoms.signatureInfoMap ∧
        ¬HasRepeatedField atoms.pulledAtomsSignatureInfoMap) := by
  have both : (writeStatsLogCpp constants atoms attributionDecl minApiLevel false).isOk = true ↔
      (writeNativeStatsWriteMethods constants attributionDecl minApiLevel false
        atoms.signatureInfoMap).isOk = true ∧
      (writeNativeBuildStatsEventMethods constants attributionDecl minApiLevel
        atoms.pulledAtomsSignatureInfoMap).isOk = true := by
    rw [writeStatsLogCpp]
    cases writeNativeStatsWriteMethods constants attributionDecl minApiLevel false
        atoms.signatureInfoMap with
    | error reason => simp [Except.bind, Except.isOk, Except.toBool]
    | ok pushed =>
        change (Except.map _ _).isOk = true ↔ _
        rw [isOk_map]
        simp [Except.isOk, Except.toBool]
  rw [both, writeNativeStatsWriteMethods_isOk maps, writeNativeBuildStatsEventMethods_isOk maps,
    ← or_and_left]

omit maps in
theorem writeNativeArg_error {argIndex : Int} {type : JavaType} {reason : WriterError}
    (member : type ∈ signatureTypes)
    (failed : writeNativeArg attributionDecl minApiLevel argIndex type = .error reason) :
    reason = .repeatedBelowT := by
  unfold writeNativeArg at failed
  split at failed
  · cases failed
    rfl
  · cases type <;> contradiction

omit maps in
theorem writeCompatArg_error {argIndex : Int} {type : JavaType} {reason : WriterError}
    (member : type ∈ signatureTypes)
    (failed : writeCompatArg attributionDecl argIndex type = .error reason) :
    reason = .unsupportedType ∧ type.isRepeatedField = true := by
  cases type <;> cases failed <;> first | exact ⟨rfl, rfl⟩ | contradiction

omit maps in
theorem writeNativeMethodBody_error {signature : Signature}
    (accepted : ∀ type ∈ signature, type ∈ signatureTypes)
    {declSets : FieldNumberToAtomDeclSet} {reason : WriterError}
    (failed : writeNativeMethodBody constants attributionDecl minApiLevel signature declSets =
      .error reason) : reason = .repeatedBelowT := by
  obtain ⟨position, type, member, fails⟩ :=
    exists_error_of_writeArguments (map_eq_error_iff.mp failed)
  exact writeNativeArg_error minApiLevel (accepted type member) fails

omit maps in
theorem writeCompatBody_error {signature : Signature}
    (accepted : ∀ type ∈ signature, type ∈ signatureTypes)
    {declSets : FieldNumberToAtomDeclSet} {reason : WriterError}
    (failed : writeCompatBody constants attributionDecl minApiLevel signature declSets =
      .error reason) :
    reason = .unsupportedType ∧ containsRepeatedField signature = true := by
  obtain ⟨position, type, member, fails⟩ :=
    exists_error_of_writeArguments (map_eq_error_iff.mp failed)
  obtain ⟨isUnsupported, repeated⟩ := writeCompatArg_error (accepted type member) fails
  exact ⟨isUnsupported, containsRepeatedField_of_mem member repeated⟩

/-- Why the C++ source cannot be generated: below T a repeated type is refused, and
for Q it is unsupported in a pushed atom. -/
theorem writeStatsLogCpp_error {reason : WriterError}
    (failed : writeStatsLogCpp constants atoms attributionDecl minApiLevel false =
      .error reason) :
    reason = .repeatedBelowT ∨
      reason = .unsupportedType ∧ minApiLevel = apiQ ∧
        HasRepeatedField atoms.signatureInfoMap := by
  rcases bind_eq_error_iff.mp failed with inPushed | ⟨pushed, -, later⟩
  · obtain ⟨entry, entryMem, fails⟩ := exists_error_of_mapM inPushed
    have present := mem_of_mem_toList entryMem
    have accepted := mem_signatureTypes (maps.pushed entry.1 present)
    have bodyFails := map_eq_error_iff.mp fails
    rw [if_neg (by simp)] at bodyFails
    split at bodyFails
    · rename_i isQ
      obtain ⟨isUnsupported, repeated⟩ :=
        writeCompatBody_error _ _ accepted (map_eq_error_iff.mp bodyFails)
      exact Or.inr ⟨isUnsupported, isQ, entry.1, present, repeated⟩
    · exact Or.inl (writeNativeMethodBody_error _ _ accepted (map_eq_error_iff.mp bodyFails))
  · rw [if_neg (by simp)] at later
    obtain ⟨entry, entryMem, fails⟩ := exists_error_of_mapM (map_eq_error_iff.mp later)
    have accepted := mem_signatureTypes (maps.pulled entry.1 (mem_of_mem_toList entryMem))
    exact Or.inl (writeNativeMethodBody_error _ _ accepted (map_eq_error_iff.mp fails))

end Native

section Java

open StatsLogApiGen.Java

variable {atoms : Atoms} (maps : AcceptedMaps atoms) (constants : AnnotationIdConstants)
  (minApiLevel : Int)

/-- An accepted signature has at most one attribution chain, in the first place. -/
theorem findAttributionArg_isOk {signature : Signature}
    (accepted : AcceptedSignature signature) :
    (findAttributionArg (-1) 0 signature).isOk = true := by
  have rest (types : Signature) (areArguments : ∀ type ∈ types, IsArgument type)
      (attributionArg argIndexMax : Int) :
      findAttributionArg attributionArg argIndexMax types = .ok attributionArg := by
    induction types generalizing argIndexMax with
    | nil => rfl
    | cons type later ih =>
        have notChain : type ≠ .attributionChain := by
          rintro rfl
          exact areArguments _ List.mem_cons_self
        rw [findAttributionArg, if_neg notChain]
        exact ih (fun other member => areArguments other (List.mem_cons_of_mem type member)) _
  obtain ⟨types, areArguments, rfl | rfl⟩ := accepted
  · rw [rest _ areArguments]
    rfl
  · rw [findAttributionArg, if_pos rfl, if_neg (by decide), rest _ areArguments]
    rfl

include maps

theorem writeJavaPushedMethods_isOk :
    (writeJavaPushedMethods constants attributionDecl minApiLevel
      atoms.signatureInfoMap).isOk = true ↔
        minApiLevel ≠ apiQ ∨ ¬HasRepeatedField atoms.signatureInfoMap := by
  rw [← decide_eq_true_iff (p := minApiLevel ≠ apiQ)]
  apply mapM_isOk_iff
  intro entry member
  exact writeJavaPushedMethod_isOk constants minApiLevel
    (mem_signatureTypes (maps.pushed entry.1 (mem_of_mem_toList member))) entry.2

theorem writeJavaPulledMethods_isOk :
    (writeJavaPulledMethods constants attributionDecl minApiLevel
      atoms.pulledAtomsSignatureInfoMap).isOk = true := by
  rw [writeJavaPulledMethods, mapM_isOk, List.all_eq_true]
  intro entry member
  exact writeJavaPulledMethod_isOk constants minApiLevel
    (mem_signatureTypes (maps.pulled entry.1 (mem_of_mem_toList member))) entry.2

theorem writeJavaNonChainedMethods_isOk :
    (writeJavaNonChainedMethods atoms.nonChainedSignatureInfoMap).isOk = true := by
  rw [writeJavaNonChainedMethods, mapM_isOk, List.all_eq_true]
  intro entry member
  have noChain := maps.nonChained entry.1 (mem_of_mem_toList member)
  have parameters : (eachArg nonChainedParameter 1 entry.1).isOk =
      entry.1.all fun _ => true := by
    apply eachArg_isOk
    intro argIndex type typeMem
    have notChain : type ≠ .attributionChain := fun isChain => noChain (isChain ▸ typeMem)
    rw [nonChainedParameter, if_neg notChain]
    rfl
  rw [writeJavaNonChainedMethod, isOk_map, parameters]
  simp

theorem writeJavaWorkSourceMethods_isOk :
    (writeJavaWorkSourceMethods atoms.signatureInfoMap).isOk = true := by
  rw [writeJavaWorkSourceMethods, isOk_map, mapM_isOk, List.all_eq_true]
  intro entry member
  rw [writeJavaWorkSourceMethod, isOk_map]
  exact findAttributionArg_isOk (maps.pushed entry.1 (mem_of_mem_toList member))

omit maps in
@[simp]
theorem mem_report_iff {α : Type} {result : Except WriterError α} {reason : WriterError} :
    reason ∈ report result ↔ result = .error reason := by
  cases result <;> simp [report, eq_comm]

/-- The Java class can be generated for every level but Q, and for Q when no pushed
signature has a repeated type. -/
theorem writeStatsLogJava_errors (supportWorkSource : Bool) :
    (writeStatsLogJava constants atoms attributionDecl minApiLevel
      supportWorkSource).errors = 0 ↔
        minApiLevel ≠ apiQ ∨ ¬HasRepeatedField atoms.signatureInfoMap := by
  rw [writeStatsLogJava_errors_eq_zero_iff, writeJavaPushedMethods_isOk maps constants minApiLevel]
  simp [writeJavaNonChainedMethods_isOk maps, writeJavaWorkSourceMethods_isOk maps,
    writeJavaPulledMethods_isOk maps constants minApiLevel]

omit maps in
theorem qLoggerArguments_error {argIndex : Int} {type : JavaType} {reason : WriterError}
    (failed : qLoggerArguments attributionDecl argIndex type = .error reason) :
    reason = .moduleRepeatedField ∧ type.isRepeatedField = true := by
  unfold qLoggerArguments at failed
  split at failed
  · contradiction
  · split at failed
    · rename_i repeated
      cases failed
      exact ⟨rfl, repeated⟩
    · contradiction

theorem writeJavaPushedMethods_error {reason : WriterError}
    (failed : writeJavaPushedMethods constants attributionDecl minApiLevel
      atoms.signatureInfoMap = .error reason) :
    reason = .moduleRepeatedField ∧ minApiLevel = apiQ ∧
      HasRepeatedField atoms.signatureInfoMap := by
  obtain ⟨entry, entryMem, fails⟩ := exists_error_of_mapM failed
  have present := mem_of_mem_toList entryMem
  rcases bind_eq_error_iff.mp fails with inBody | ⟨code, -, later⟩
  · have isOk := writeMethodBody_isOk constants
      (mem_signatureTypes (maps.pushed entry.1 present)) entry.2
    rw [inBody] at isOk
    contradiction
  · dsimp only at later
    split at later
    · rename_i isQ
      obtain ⟨position, type, typeMem, argumentFails⟩ :=
        exists_error_of_eachArg (map_eq_error_iff.mp later)
      obtain ⟨isRepeated, repeated⟩ := qLoggerArguments_error argumentFails
      exact ⟨isRepeated, isQ, entry.1, present, containsRepeatedField_of_mem typeMem repeated⟩
    · contradiction

omit maps in
theorem sizeStatement_error {argIndex : Int} {type : JavaType} {reason : WriterError}
    (member : type ∈ signatureTypes)
    (failed : QSchema.sizeStatement attributionDecl argIndex type = .error reason) :
    reason = .moduleObjectOrDouble ∧ type.isRepeatedField = true := by
  cases type <;> cases failed <;> first | exact ⟨rfl, rfl⟩ | contradiction

theorem writeJavaMethodsQSchema_error {reason : WriterError}
    (failed : QSchema.writeJavaMethodsQSchema atoms.signatureInfoMap attributionDecl =
      .error reason) :
    reason = .moduleObjectOrDouble ∧ HasRepeatedField atoms.signatureInfoMap := by
  obtain ⟨entry, entryMem, fails⟩ := exists_error_of_mapM (map_eq_error_iff.mp failed)
  have present := mem_of_mem_toList entryMem
  have accepted := mem_signatureTypes (maps.pushed entry.1 present)
  rcases bind_eq_error_iff.mp fails with inSizes | ⟨sizes, sized, later⟩
  · obtain ⟨position, type, typeMem, statementFails⟩ := exists_error_of_eachArg inSizes
    obtain ⟨isUnsupported, repeated⟩ := sizeStatement_error (accepted type typeMem) statementFails
    exact ⟨isUnsupported, entry.1, present, containsRepeatedField_of_mem typeMem repeated⟩
  · -- the second switch has a case for every type that the first one lets through
    have sizesOk : (eachArg (QSchema.sizeStatement attributionDecl) 1 entry.1).isOk =
        entry.1.all QSchema.isScalarType :=
      eachArg_isOk (fun argIndex type _ =>
        QSchema.sizeStatement_isOk attributionDecl argIndex type) 1
    have writesOk : (eachArg (QSchema.writeStatement attributionDecl) 1 entry.1).isOk =
        entry.1.all QSchema.isScalarType :=
      eachArg_isOk (fun argIndex type _ =>
        QSchema.writeStatement_isOk attributionDecl argIndex type) 1
    rw [← sizesOk, sized, map_eq_error_iff.mp later] at writesOk
    contradiction

theorem workSource_isOk (supportWorkSource : Bool) :
    (if supportWorkSource then writeJavaWorkSourceMethods atoms.signatureInfoMap
      else .ok []).isOk = true := by
  cases supportWorkSource with
  | false => rfl
  | true => exact writeJavaWorkSourceMethods_isOk maps

/-- What the Java writers report: for Q, that a pushed signature has a repeated
type. -/
theorem writeStatsLogJava_reports {supportWorkSource : Bool} {reason : WriterError}
    (reported : reason ∈ (writeStatsLogJava constants atoms attributionDecl minApiLevel
      supportWorkSource).reports) :
    (reason = .moduleRepeatedField ∨ reason = .moduleObjectOrDouble) ∧ minApiLevel = apiQ ∧
      HasRepeatedField atoms.signatureInfoMap := by
  have never {α : Type} {result : Except WriterError α} (isOk : result.isOk = true) :
      reason ∉ report result := by
    intro member
    rw [mem_report_iff.mp member] at isOk
    contradiction
  rcases List.mem_append.mp reported with others | inQLogger
  · rcases List.mem_append.mp others with others | inWorkSource
    · rcases List.mem_append.mp others with others | inPulled
      · rcases List.mem_append.mp others with inPushed | inNonChained
        · obtain ⟨isRepeated, isQ, repeated⟩ := writeJavaPushedMethods_error maps constants
            minApiLevel (mem_report_iff.mp inPushed)
          exact ⟨Or.inl isRepeated, isQ, repeated⟩
        · exact absurd inNonChained (never (writeJavaNonChainedMethods_isOk maps))
      · exact absurd inPulled (never (writeJavaPulledMethods_isOk maps constants minApiLevel))
    · exact absurd inWorkSource (never (workSource_isOk maps supportWorkSource))
  · have failed := mem_report_iff.mp inQLogger
    split at failed
    · rename_i isQ
      obtain ⟨isUnsupported, repeated⟩ :=
        writeJavaMethodsQSchema_error maps (map_eq_error_iff.mp failed)
      exact ⟨Or.inr isUnsupported, isQ, repeated⟩
    · contradiction

end Java

/-! ## Generation -/

/-- What the writers make of accepted atoms.  The C++ source needs T for repeated
types, and the Java class anything but Q for repeated types in pushed atoms.
Where a writer gives up, it is because of a repeated type. -/
structure Generates (constants : AnnotationIdConstants) (atoms : Atoms) (minApiLevel : Int) :
    Prop where
  cpp : (Native.writeStatsLogCpp constants atoms attributionDecl minApiLevel false).isOk =
      true ↔
    minApiLevel ≥ apiT ∨ (¬HasRepeatedField atoms.signatureInfoMap ∧
      ¬HasRepeatedField atoms.pulledAtomsSignatureInfoMap)
  java : ∀ supportWorkSource,
    (Java.writeStatsLogJava constants atoms attributionDecl minApiLevel
        supportWorkSource).errors = 0 ↔
      minApiLevel ≠ apiQ ∨ ¬HasRepeatedField atoms.signatureInfoMap
  cppReason : ∀ reason,
    Native.writeStatsLogCpp constants atoms attributionDecl minApiLevel false =
      .error reason →
    reason = .repeatedBelowT ∨
      reason = .unsupportedType ∧ minApiLevel = apiQ ∧ HasRepeatedField atoms.signatureInfoMap
  javaReasons : ∀ supportWorkSource,
    ∀ reason ∈ (Java.writeStatsLogJava constants atoms attributionDecl minApiLevel
      supportWorkSource).reports,
    (reason = .moduleRepeatedField ∨ reason = .moduleObjectOrDouble) ∧ minApiLevel = apiQ ∧
      HasRepeatedField atoms.signatureInfoMap

/-- What collation accepts can be generated up to repeated types. -/
theorem generates (descriptor : AtomDescriptor) (moduleName : String) (atoms : Atoms)
    (accepted : collateAtoms descriptor moduleName {} = (0, atoms))
    (constants : AnnotationIdConstants) (minApiLevel : Int) :
    Generates constants atoms minApiLevel := by
  obtain ⟨registrations, -, registered⟩ := collateAtoms_registered accepted
  have maps := acceptedMaps registered
  constructor
  · exact writeStatsLogCpp_isOk maps constants minApiLevel
  · exact writeStatsLogJava_errors maps constants minApiLevel
  · intro reason
    exact writeStatsLogCpp_error maps constants minApiLevel
  · intro supportWorkSource reason
    exact writeStatsLogJava_reports maps constants minApiLevel

theorem generates_wakelockDescriptor :
    Generates (getAnnotationIdConstants annotationConstantNamePrefix)
      (collateAtoms wakelockDescriptor defaultModuleName {}).2 apiR :=
  generates wakelockDescriptor defaultModuleName _ (Prod.ext (by decide) rfl) _ _

/-- For Q a repeated type in a pushed atom reaches the unsupported types of the
Java class `QLogger` as well. -/
theorem unsupportedType_repeatedEnumDescriptor :
    (collateAtoms repeatedEnumDescriptor defaultModuleName {}).1 = 0 ∧
    WriterError.moduleObjectOrDouble ∈
      (Java.writeStatsLogJava (getAnnotationIdConstants annotationConstantNamePrefix)
        (collateAtoms repeatedEnumDescriptor defaultModuleName {}).2 attributionDecl apiQ
        false).reports := by
  decide

end StatsLogApiGen.Writer
