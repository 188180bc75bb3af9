import StatsLogApiGen.Writer.Compiles

/-!
# Agreement of the loggers

The native and the Java logger of an atom issue the same event.  Up to R the native logger does
not compile if it names a restriction category.
-/

namespace StatsLogApiGen.Writer

open Std
open StatsLogApiGen.Container
open StatsLogApiGen.Proto
open StatsLogApiGen.Collation

/-! ## Events of the generated loggers -/

/-- The `stats_write` that is generated for the signature of an atom compiles, and it issues
the events on an event of the class when it is called with the code of the atom.  It
is part of the generated source if there is one. -/
def NativeIssues (atoms : Atoms) (platform : Platform) (minApiLevel : Int)
    (eventClass : Native.EventClass) (decl : AtomDecl) (arguments : List Argument)
    (events : List EventOp) : Prop :=
  let constants := getAnnotationIdConstants annotationConstantNamePrefix
  ∃ declSets method,
    atoms.signatureInfoMap[decl.signature]? = some declSets ∧
    Native.writeNativeStatsWriteMethod constants attributionDecl minApiLevel false
      (decl.signature, declSets) = .ok method ∧
    (∀ methods, Native.writeStatsLogCpp constants atoms attributionDecl minApiLevel false =
      .ok methods → method ∈ methods) ∧
    method.Compiles atoms constants platform minApiLevel ∧
    method.body.eventClass? = some eventClass ∧
    method.call atoms constants platform minApiLevel decl.code arguments = .ok events

/-- The `write` that is generated for the signature of an atom compiles, and it issues the events
on its builder when it is called with the code of the atom.  It is part of the
generated class if there is one. -/
def JavaIssues (atoms : Atoms) (platform : Platform) (sdkInt minApiLevel : Int)
    (decl : AtomDecl) (arguments : List Argument) (events : List EventOp) : Prop :=
  let constants := getAnnotationIdConstants annotationConstantNamePrefix
  ∃ declSets method,
    atoms.signatureInfoMap[decl.signature]? = some declSets ∧
    Java.writeJavaPushedMethod constants attributionDecl minApiLevel
      (decl.signature, declSets) = .ok method ∧
    (∀ supportWorkSource, (Java.writeStatsLogJava constants atoms attributionDecl minApiLevel
        supportWorkSource).errors = 0 →
      method ∈ (Java.writeStatsLogJava constants atoms attributionDecl minApiLevel
        supportWorkSource).methods) ∧
    method.Compiles atoms constants platform sdkInt minApiLevel ∧
    method.call atoms constants platform sdkInt minApiLevel decl.code arguments = .ok events

/-- An annotation that is issued comes from the declaration. -/
def ComesFrom (decl : AtomDecl) : EventOp → Prop
  | .addAnnotationInt32 annotationId _ | .addAnnotationBool annotationId _ =>
      ∃ entry ∈ annotationEntries decl,
        entry.2.atomId = decl.code ∧ entry.2.annotationId.value = annotationId
  | .setAtomId _ | .write _ => True

/-- The loggers of an atom that are generated for an API level issue its event.  A signature
with a repeated type is logged natively from T on and in Java above Q.  The Java logger for Q has
a builder on devices above Q. -/
structure LoggersAgree (atoms : Atoms) (platform : Platform) (minApiLevel : Int)
    (decl : AtomDecl) (arguments : List Argument) : Prop where
  aStatsEvent : minApiLevel ≠ apiQ →
    minApiLevel ≥ apiT ∨ containsRepeatedField decl.signature = false →
    NativeIssues atoms platform minApiLevel .aStatsEvent decl arguments
      (atomEvent decl arguments)
  statsEventCompat : minApiLevel = apiQ → containsRepeatedField decl.signature = false →
    NativeIssues atoms platform minApiLevel .statsEventCompat decl arguments
      (atomEvent decl arguments)
  java : ∀ sdkInt, (minApiLevel = apiQ → sdkInt > apiQ) →
    minApiLevel ≠ apiQ ∨ containsRepeatedField decl.signature = false →
      JavaIssues atoms platform sdkInt minApiLevel decl arguments (atomEvent decl arguments)
  annotations : ∀ op ∈ atomEvent decl arguments, ComesFrom decl op

/-! ## Annotations of an atom -/

section Annotations

variable {decl : AtomDecl}

/-- Every annotation of a declaration carries its code. -/
def OwnsAnnotations (decl : AtomDecl) : Prop :=
  ∀ fieldNumber, ∀ ann ∈ annotationsOf decl fieldNumber, ann.atomId = decl.code

theorem ownsAnnotations (registration : Registration) : OwnsAnnotations registration.decl := by
  intro fieldNumber ann member
  rw [registration.decl_code]
  exact (registration.describes.stores.mem_elements_iff.mp member).1

theorem comesFrom_fieldOps (owns : OwnsAnnotations decl) (fieldNumber : Int)
    (equals : Int → Bool) : ∀ op ∈ fieldOps decl fieldNumber equals, ComesFrom decl op := by
  have entry {ann : Annotation} (member : ann ∈ annotationsOf decl fieldNumber)
      {annotationId : AnnotationId} (equal : ann.annotationId = annotationId) :
      ∃ entry ∈ annotationEntries decl,
        entry.2.atomId = decl.code ∧ entry.2.annotationId.value = annotationId.value :=
    ⟨_, mem_annotationEntries member, owns fieldNumber ann member,
      congrArg AnnotationId.value equal⟩
  intro op member
  rcases List.mem_append.mp member with direct | reset
  · obtain ⟨ann, annMem, rfl⟩ := List.mem_map.mp direct
    have listed := List.mem_of_mem_filter annMem
    unfold annotationOp
    split
    · exact entry listed rfl
    · exact entry listed rfl
  · rw [resetOps] at reset
    split at reset
    · rename_i both
      obtain ⟨ann, listed, isReset⟩ := exists_mem_of_declaredState both.1.2
      rw [List.mem_singleton] at reset
      subst reset
      exact entry listed isReset
    · contradiction

theorem comesFrom_argumentOps (owns : OwnsAnnotations decl) (argIndex : Int)
    (arguments : List Argument) :
    ∀ op ∈ argumentOps decl argIndex arguments, ComesFrom decl op := by
  induction arguments generalizing argIndex with
  | nil => simp [argumentOps]
  | cons argument rest ih =>
      intro op member
      rcases List.mem_cons.mp member with rfl | later
      · trivial
      · rcases List.mem_append.mp later with annotation | other
        · exact comesFrom_fieldOps owns argIndex _ op annotation
        · exact ih (argIndex + 1) op other

theorem comesFrom_atomEvent (owns : OwnsAnnotations decl) (arguments : List Argument) :
    ∀ op ∈ atomEvent decl arguments, ComesFrom decl op := by
  intro op member
  rcases List.mem_cons.mp member with rfl | later
  · trivial
  · rcases List.mem_append.mp later with annotation | other
    · exact comesFrom_fieldOps owns _ _ op annotation
    · exact comesFrom_argumentOps owns 1 arguments op other

end Annotations

/-! ## Agreement -/

section Agree

variable {descriptor : AtomDescriptor} {moduleName : String} {atoms : Atoms}
  (accepted : collateAtoms descriptor moduleName {} = (0, atoms)) {platform : Platform}
  {decl : AtomDecl} {minApiLevel : Int}

include accepted

/-- With named categories and integers for states, native loggers of an atom compile above R,
and up to R if no atom of the signature is restricted. -/
theorem compiles_statsWrite_iff_unrestricted (pushed : decl.atomType = .pushed)
    (named : NamedCategories atoms) (resets : IntegerResets atoms)
    (declares : platform.DeclaresAnnotations "ASTATSLOG_")
    {declSets : FieldNumberToAtomDeclSet}
    (found : atoms.signatureInfoMap[decl.signature]? = some declSets) {method : Native.Method}
    (written : Native.writeNativeStatsWriteMethod
      (getAnnotationIdConstants annotationConstantNamePrefix) attributionDecl minApiLevel false
        (decl.signature, declSets) = .ok method) :
    method.Compiles atoms (getAnnotationIdConstants annotationConstantNamePrefix) platform
        minApiLevel ↔
      apiR < minApiLevel ∨ ¬SharesRestricted descriptor moduleName decl := by
  obtain ⟨registrations, selected, registered⟩ := collateAtoms_registered accepted
  rw [@Native.compiles_statsWrite_iff _ _ registered _ declares _ (decl.signature, declSets) found
      _ written,
    ← Native.forall_issues_iff registered named resets selected, pushed]

/-- The Java loggers of an atom compile for every API level. -/
theorem compiles_write (named : NamedCategories atoms) (resets : IntegerResets atoms)
    (declares : platform.DeclaresAnnotations "StatsLog.") {declSets : FieldNumberToAtomDeclSet}
    (found : atoms.signatureInfoMap[decl.signature]? = some declSets) {method : Java.Method}
    (written : Java.writeJavaPushedMethod (getAnnotationIdConstants annotationConstantNamePrefix)
      attributionDecl minApiLevel (decl.signature, declSets) = .ok method) (sdkInt : Int) :
    method.Compiles atoms (getAnnotationIdConstants annotationConstantNamePrefix) platform
      sdkInt minApiLevel := by
  obtain ⟨registrations, -, registered⟩ := collateAtoms_registered accepted
  rw [@Java.compiles_write_iff _ _ registered _ declares _ _ (decl.signature, declSets) found _
    written]
  intro registration registrationMem _ _
  have declMem : registration.decl ∈ elements atoms.decls :=
    registered.decls.mem_elements.mpr (List.mem_map_of_mem registrationMem)
  exact issuable_iff.mpr ⟨fun _ isCategory => named.isNamedCategory declMem isCategory,
    resets.compared declMem javaComparable_of_isInteger 0⟩

end Agree

/-- In an accepted run the loggers of a pushed atom compile and issue the same event for the same
arguments exactly when they are for devices above R, or the atoms of the signature are not
restricted, or the signature has a repeated type and so no native logger up to R. -/
theorem loggers_agree_iff (descriptor : AtomDescriptor) (moduleName : String) (atoms : Atoms)
    (accepted : collateAtoms descriptor moduleName {} = (0, atoms))
    (constants : DistinctConstants atoms) (named : NamedCategories atoms)
    (resets : IntegerResets atoms) (platform : Platform)
    (nativeDeclares : platform.DeclaresAnnotations "ASTATSLOG_")
    (javaDeclares : platform.DeclaresAnnotations "StatsLog.") (decl : AtomDecl)
    (member : decl ∈ elements atoms.decls) (pushed : decl.atomType = .pushed)
    (minApiLevel : Int) (arguments : List Argument)
    (typed : arguments.map Argument.type = decl.signature) :
    LoggersAgree atoms platform minApiLevel decl arguments ↔
      apiR < minApiLevel ∨ ¬SharesRestricted descriptor moduleName decl ∨
        containsRepeatedField decl.signature = true := by
  obtain ⟨declSets, found, logged⟩ := exists_logged accepted constants member
  rw [pushed] at found
  have compiles_iff {method : Native.Method}
      (written : Native.writeNativeStatsWriteMethod
        (getAnnotationIdConstants annotationConstantNamePrefix) attributionDecl minApiLevel false
          (decl.signature, declSets) = .ok method) :=
    compiles_statsWrite_iff_unrestricted accepted pushed named resets nativeDeclares found
      written
  constructor
  · intro agree
    by_contra neither
    simp only [not_or, Bool.not_eq_true] at neither
    obtain ⟨upToR, restricted, notRepeated⟩ := neither
    have issues : ∃ eventClass, NativeIssues atoms platform minApiLevel eventClass decl arguments
        (atomEvent decl arguments) := by
      by_cases isQ : minApiLevel = apiQ
      · exact ⟨_, agree.statsEventCompat isQ notRepeated⟩
      · exact ⟨_, agree.aStatsEvent isQ (Or.inr notRepeated)⟩
    obtain ⟨_, _, method, otherFound, written, -, compiles, -⟩ := issues
    cases found.symm.trans otherFound
    exact ((compiles_iff written).mp compiles).elim upToR restricted
  · intro allowed
    have ofNotRepeated (notRepeated : containsRepeatedField decl.signature = false) :
        apiR < minApiLevel ∨ ¬SharesRestricted descriptor moduleName decl := by
      simpa [notRepeated] using allowed
    have issuable (supported : apiR < minApiLevel ∨ ¬SharesRestricted descriptor moduleName decl) :
        Native.Issues minApiLevel decl := by
      obtain ⟨registrations, selected, registered⟩ := collateAtoms_registered accepted
      obtain ⟨registration, registrationMem, rfl⟩ :=
        List.mem_map.mp (registered.decls.mem_elements.mp member)
      exact (Native.forall_issues_iff registered named resets selected).mpr supported registration
        registrationMem registration.decl_atomType.symm registration.signatureOf_eq
    constructor
    · intro notQ supported
      have level : apiR < minApiLevel ∨ ¬SharesRestricted descriptor moduleName decl := by
        rcases supported with fromT | notRepeated
        · exact Or.inl (Int.lt_of_lt_of_le (by decide) fromT)
        · exact ofNotRepeated notRepeated
      obtain ⟨method, written, eventClass, events⟩ := Native.statsWrite_aStatsEvent logged typed
        nativeDeclares (issuable level) notQ supported
      exact ⟨declSets, method, found, written,
        fun methods => Native.mem_writeStatsLogCpp found written, (compiles_iff written).mpr level,
        eventClass, events⟩
    · rintro rfl notRepeated
      obtain ⟨method, written, eventClass, events⟩ :=
        Native.statsWrite_statsEventCompat logged typed nativeDeclares
          (issuable (ofNotRepeated notRepeated)) notRepeated
      exact ⟨declSets, method, found, written,
        fun methods => Native.mem_writeStatsLogCpp found written,
        (compiles_iff written).mpr (ofNotRepeated notRepeated), eventClass, events⟩
    · intro sdkInt newer supported
      have javaIssuable : Java.Issues decl :=
        ⟨fun fieldNumber ann annMem =>
          (named.annotationsOf member fieldNumber ann annMem).allowsCategory,
          resets.compared member javaComparable_of_isInteger 0⟩
      obtain ⟨method, written, events⟩ :=
        Java.write_events logged javaIssuable typed javaDeclares supported newer
      exact ⟨declSets, method, found, written,
        fun supportWorkSource => Java.mem_writeStatsLogJava found written,
        compiles_write accepted named resets javaDeclares found written sdkInt, events⟩
    · obtain ⟨registrations, -, registered⟩ := collateAtoms_registered accepted
      obtain ⟨registration, -, rfl⟩ :=
        List.mem_map.mp (registered.decls.mem_elements.mp member)
      exact comesFrom_atomEvent (ownsAnnotations registration) arguments

/-! ## A platform -/

/-- The constants that a platform declares for annotations. -/
def declaredConstants : List (String × Int) :=
  (annotationIds.flatMap fun annotationId =>
    ["ASTATSLOG_", "StatsLog."].map fun namePrefix =>
      (namePrefix ++ (annotationConstantNamePrefix ++ annotationIdName annotationId),
        annotationId.value)) ++
  [1, 2, 3, 4].flatMap fun category =>
    ["ASTATSLOG_", "StatsLog."].map fun namePrefix =>
      (namePrefix ++ getRestrictionCategoryStr category, category)

/-- A platform that declares these constants only. -/
def declaredPlatform : Platform :=
  fun name => declaredConstants.lookup name

theorem declaredPlatform_declaresNative : declaredPlatform.DeclaresAnnotations "ASTATSLOG_" where
  annotationId annotationId := by
    cases annotationId <;> decide
  category category := by
    cases category <;> decide

theorem declaredPlatform_declaresJava : declaredPlatform.DeclaresAnnotations "StatsLog." where
  annotationId annotationId := by
    cases annotationId <;> decide
  category category := by
    cases category <;> decide

def wakelockAtoms : Atoms :=
  (collateAtoms wakelockDescriptor defaultModuleName {}).2

/-- The declaration of the state atom of `wakelockDescriptor`. -/
def wakelockDecl : AtomDecl :=
  (wakelockAtoms.decls[(⟨10, "wakelock_state_changed"⟩ : DeclKey)]?).getD {}

theorem mem_wakelockDecl : wakelockDecl ∈ elements wakelockAtoms.decls :=
  getD_mem_elements (by decide) _

theorem acceptedSignature_wakelockDecl : AcceptedSignature wakelockDecl.signature := by
  have accepted : collateAtoms wakelockDescriptor defaultModuleName {} = (0, wakelockAtoms) :=
    Prod.ext (by decide) rfl
  rcases collateAtoms_registered accepted with ⟨registrations, -, registered⟩
  exact acceptedSignature_of_mem registered mem_wakelockDecl

instance (atoms : Atoms) : Decidable (DistinctConstants atoms) :=
  inferInstanceAs (Decidable (List.Nodup _))

instance (atoms : Atoms) : Decidable (NamedCategories atoms) :=
  inferInstanceAs (Decidable (∀ _ ∈ _, ∀ _ ∈ _, _))

instance (atoms : Atoms) : Decidable (IntegerResets atoms) :=
  inferInstanceAs (Decidable (∀ _ ∈ _, ∀ _ ∈ _, _ → _ ∧ _))

/-- A wakelock is acquired, which is the state that triggers a reset. -/
theorem loggers_agree_iff_wakelock :
    LoggersAgree wakelockAtoms declaredPlatform apiT wakelockDecl
        [.attributionChain [1000#32] ["tag"], .string "lock", .int 1#32] ↔
      apiR < apiT ∨ ¬SharesRestricted wakelockDescriptor defaultModuleName wakelockDecl ∨
        containsRepeatedField wakelockDecl.signature = true :=
  loggers_agree_iff wakelockDescriptor defaultModuleName wakelockAtoms
    (Prod.ext (by decide) rfl) (by decide) (by decide) (by decide) declaredPlatform
    declaredPlatform_declaresNative declaredPlatform_declaresJava wakelockDecl mem_wakelockDecl
    (by decide) apiT _ (by decide)

/-! ## A restricted atom -/

/-- `RestrictedBluetoothDeviceNameReported`, a restricted atom. -/
def restrictedBluetoothDeviceNameReported : Descriptor where
  name := "RestrictedBluetoothDeviceNameReported"
  fields :=
    [{ name := "device_name", number := 1, type := .string,
       options := { fieldRestrictionOption := some { peripheralDeviceInfo := true } } }]
  numbers_nodup := by decide

def restrictedDescriptor : AtomDescriptor where
  fields := []
  extensions :=
    [{ name := "restricted_bluetooth_device_name_reported", number := 666,
       type := .message restrictedBluetoothDeviceNameReported,
       options := { module := ["bt_restricted"], restrictionCategory := some .diagnostic } }]
  numbers_nodup := by decide

def restrictedAtoms : Atoms :=
  (collateAtoms restrictedDescriptor "bt_restricted" {}).2

/-- The declaration of the atom of `restrictedDescriptor`. -/
def restrictedDecl : AtomDecl :=
  (restrictedAtoms.decls[(⟨666, "restricted_bluetooth_device_name_reported"⟩ : DeclKey)]?).getD {}

theorem mem_restrictedDecl : restrictedDecl ∈ elements restrictedAtoms.decls :=
  getD_mem_elements (by decide) _

/-- For devices from R on the native logger of the restricted atom does not compile. -/
theorem not_loggersAgree_restricted :
    (collateAtoms restrictedDescriptor "bt_restricted" {}).1 = 0 ∧
    DistinctConstants restrictedAtoms ∧ NamedCategories restrictedAtoms ∧
    IntegerResets restrictedAtoms ∧ restrictedDecl ∈ elements restrictedAtoms.decls ∧
    restrictedDecl.atomType = .pushed ∧ containsRepeatedField restrictedDecl.signature = false ∧
    declaredPlatform.DeclaresAnnotations "ASTATSLOG_" ∧
    declaredPlatform.DeclaresAnnotations "StatsLog." ∧
    [Argument.string "headset"].map Argument.type = restrictedDecl.signature ∧
    ¬LoggersAgree restrictedAtoms declaredPlatform apiR restrictedDecl [.string "headset"] := by
  refine ⟨by decide, by decide, by decide, by decide, mem_restrictedDecl, by decide, by decide,
    declaredPlatform_declaresNative, declaredPlatform_declaresJava, by decide, fun agree => ?_⟩
  obtain ⟨declSets, method, found, written, -, compiles, -⟩ :=
    agree.aStatsEvent (by decide) (Or.inr (by decide))
  have accepted : collateAtoms restrictedDescriptor "bt_restricted" {} = (0, restrictedAtoms) :=
    Prod.ext (by decide) rfl
  have allowed := (compiles_statsWrite_iff_unrestricted accepted (by decide) (by decide)
    (by decide) declaredPlatform_declaresNative found written).mp compiles
  rcases allowed with aboveR | notShared
  · exact absurd aboveR (by decide)
  · exact notShared ⟨_, List.mem_cons_self, _, rfl, by decide, by decide, by decide⟩

end StatsLogApiGen.Writer
