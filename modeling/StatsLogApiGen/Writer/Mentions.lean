import StatsLogApiGen.Writer.MethodComparisons

/-!
# The constants that generated code names

A body names the constants of atoms in its conditions, and the constants of annotations and of
restriction categories in its calls.  All but the restriction categories are declared whatever
the descriptor is, so a body names what is declared exactly when the categories are.
-/

namespace StatsLogApiGen.Writer

open Std
open StatsLogApiGen.Container
open StatsLogApiGen.Proto
open StatsLogApiGen.Collation
open StatsLogApiGen.Program

universe u

/-! ## Names -/

/-- A constant that generated code names: that of an atom, or one for annotations. -/
inductive ConstantName where
  | atom (name : String)
  | annotations (name : String)
  deriving DecidableEq, Repr

/-- The constants that a number in a call names. -/
def Operand.constantNames : Operand → List ConstantName
  | .literal _ => []
  | .constant name => [.annotations name]

def Condition.constantNames : Condition → List ConstantName
  | .codeIs atomConstant => [.atom atomConstant]
  | .argIs _ _ => []

section Code

variable {α : Type u} (inCall : α → List ConstantName)

/-- The constants that statements name, in their conditions and in their calls. -/
def constantNamesOf (code : List (Code Condition α)) : List ConstantName :=
  (conditionsOf code).flatMap Condition.constantNames ++
    (code.flatMap Code.actions).flatMap inCall

variable {inCall} {declared : ConstantName → Prop}

/-- The constants that are named are declared when those of atoms are and those in calls are. -/
theorem forall_constantNamesOf_iff {code : List (Code Condition α)} :
    (∀ name ∈ constantNamesOf inCall code, declared name) ↔
      (∀ name, .codeIs name ∈ conditionsOf code → declared (.atom name)) ∧
        AllActions (fun action => ∀ name ∈ inCall action, declared name) code := by
  rw [constantNamesOf, List.forall_mem_append, List.forall_mem_flatMap, List.forall_mem_flatMap,
    List.forall_mem_flatMap]
  apply and_congr_left
  intro _
  constructor
  · intro conditions name tested
    exact conditions (.codeIs name) tested (.atom name) List.mem_cons_self
  · intro names condition tested name named
    cases condition with
    | codeIs atomConstant =>
        rw [List.mem_singleton.mp named]
        exact names atomConstant tested
    | argIs argIndex state => cases named

end Code

/-! ## Names of annotations -/

section Annotations

variable {α : Type u} {templates : AnnotationTemplates α} {constants : AnnotationIdConstants}
  {property : α → Prop}

/-- What is printed for everything but a restriction category has a property. -/
structure AnnotationTemplates.AllButCategories (templates : AnnotationTemplates α)
    (constants : AnnotationIdConstants) (property : α → Prop) : Prop where
  int : ∀ annotationId value, property (templates.int (constants annotationId) value)
  bool : ∀ annotationId value, property (templates.bool (constants annotationId) value)
  reset : ∀ value, property (templates.reset (constants .triggerStateReset) value)

/-- The restriction categories among annotations are printed with a property. -/
def PrintsCategories (templates : AnnotationTemplates α) (constants : AnnotationIdConstants)
    (property : α → Prop) (annotations : List Annotation) : Prop :=
  ∀ ann ∈ annotations, ∀ category, ann.annotationId = .restrictionCategory →
    ann.value = .int category →
      property (templates.restriction (constants .restrictionCategory) category)

theorem AnnotationTemplates.AllButCategories.print_iff
    (all : templates.AllButCategories constants property) {ann : Annotation} :
    property (templates.print constants ann) ↔
      ∀ category, ann.annotationId = .restrictionCategory → ann.value = .int category →
        property (templates.restriction (constants .restrictionCategory) category) := by
  obtain ⟨annotationId, atomId, value⟩ := ann
  cases value with
  | bool boolValue => exact iff_of_true (all.bool _ _) (by simp)
  | int intValue =>
      by_cases isCategory : annotationId = .restrictionCategory
      · subst isCategory
        simp [AnnotationTemplates.print]
      · simp only [AnnotationTemplates.print, if_neg isCategory]
        exact iff_of_true (all.int _ _) fun _ category => absurd category isCategory

theorem allActions_annotationSet_iff {κ : Type*}
    (all : templates.AllButCategories constants property) {isState : Int → κ}
    {annotations : AnnotationSet} :
    AllActions property (writeAnnotationSet templates constants isState annotations) ↔
      PrintsCategories templates constants property (elements annotations) := by
  have reset : AllActions property (if HasReset (elements annotations) then
      [(.when (isState (declaredState .triggerStateReset (elements annotations)))
        (.call (templates.reset (constants .triggerStateReset)
          (declaredState .defaultState (elements annotations)))) : Code κ α)]
      else []) := by
    split
    · exact allActions_when.mpr (all.reset _)
    · exact allActions_nil
  rw [writeAnnotationSet_eq, allActions_append, and_iff_left reset, allActions_map]
  constructor
  · intro printed ann member category isCategory isValue
    have direct : ann ∈ directAnnotations (elements annotations) := by
      rw [directAnnotations, List.mem_filter]
      exact ⟨member, by simp [declaresState, isCategory, isValue]⟩
    exact all.print_iff.mp (printed ann direct _ List.mem_cons_self) category isCategory isValue
  · intro categories ann direct action listed
    rw [List.mem_singleton.mp listed]
    exact all.print_iff.mpr (categories ann (List.mem_filter.mp direct).1)

theorem allActions_declAnnotations_iff (all : templates.AllButCategories constants property)
    {argIndex : Int} {declSets : FieldNumberToAtomDeclSet} :
    AllActions property (writeDeclAnnotations templates constants argIndex declSets) ↔
      ∀ decl ∈ elements (getAnnotations argIndex declSets),
        PrintsCategories templates constants property (annotationsOf decl argIndex) := by
  rw [writeDeclAnnotations, getAnnotations]
  cases declSets[argIndex]? with
  | none => simp [elements]
  | some atomDeclSet =>
      rw [Option.getD_some, allActions_map_when]
      exact forall₂_congr fun _ _ => allActions_annotationSet_iff all

/-- The code of a call is compared with the constants of the declarations. -/
theorem codeIs_mem_declAnnotations {argIndex : Int} {declSets : FieldNumberToAtomDeclSet}
    {name : String} :
    .codeIs name ∈ conditionsOf (writeDeclAnnotations templates constants argIndex declSets) ↔
      ∃ decl ∈ elements (getAnnotations argIndex declSets), name = makeConstantName decl.name := by
  rw [writeDeclAnnotations, getAnnotations]
  cases declSets[argIndex]? with
  | none => simp [elements]
  | some atomDeclSet =>
      rw [Option.getD_some, mem_conditionsOf_map_when]
      simp [mem_conditionsOf_annotationSet]

end Annotations

/-! ## Names in a body -/

section Body

variable {α : Type} {write : Int → JavaType → Except WriterError (List (Code Condition α))}
  {annotations : Int → List (Code Condition α)} {templates : AnnotationTemplates α}
  {constants : AnnotationIdConstants} {inCall : α → List ConstantName}
  {declared : ConstantName → Prop} {declSets : FieldNumberToAtomDeclSet} {signature : Signature}

/-- What is printed for the arguments tests nothing and names no constants. -/
structure WritesPlainly (write : Int → JavaType → Except WriterError (List (Code Condition α)))
    (inCall : α → List ConstantName) : Prop where
  conditions : ∀ argIndex arg written, write argIndex arg = .ok written →
    conditionsOf written = []
  calls : ∀ argIndex arg written, write argIndex arg = .ok written →
    AllActions (fun action => inCall action = []) written

/-- The loop over the arguments prints what is printed for the annotations of each, and the
arguments themselves. -/
theorem allActions_arguments {property : α → Prop} {argIndex : Int}
    (writes : ∀ position arg written, write position arg = .ok written →
      AllActions property written)
    (annotated : ∀ index : Nat, AllActions property (annotations (argIndex + index)))
    {code : List (Code Condition α)}
    (printed : writeArguments write annotations argIndex signature = .ok code) :
    AllActions property code := by
  induction signature generalizing argIndex code with
  | nil =>
      cases printed
      exact allActions_nil
  | cons arg rest ih =>
      rcases writeArguments_cons_eq_ok printed with ⟨written, later, isWritten, laterPrinted, rfl⟩
      have here := annotated 0
      rw [Int.natCast_zero, Int.add_zero] at here
      rw [allActions_append, allActions_append]
      refine ⟨⟨writes _ _ _ isWritten, here⟩, ih (fun index => ?_) laterPrinted⟩
      have next := annotated (index + 1)
      rwa [Int.natCast_add, Int.natCast_one, Int.add_comm (index : Int) 1, ← Int.add_assoc] at next

/-- The constants that a body names are declared exactly when those for the restriction
categories of the atoms are. -/
theorem forall_constantNames_body_iff (plain : WritesPlainly write inCall)
    (all : templates.AllButCategories constants
      fun action => ∀ name ∈ inCall action, declared name)
    (atomNames : ∀ fieldNumber : Int, ∀ decl ∈ elements (getAnnotations fieldNumber declSets),
      declared (.atom (makeConstantName decl.name)))
    (ofFields : ∀ index : Nat, ∀ decl ∈ elements (getAnnotations (1 + index) declSets),
      ∀ ann ∈ annotationsOf decl (1 + index), ann.annotationId ≠ .restrictionCategory)
    {arguments : List (Code Condition α)}
    (printed : writeArguments write
      (fun argIndex => writeDeclAnnotations templates constants argIndex declSets) 1 signature =
        .ok arguments) {first : α} (firstPlain : inCall first = []) :
    (∀ name ∈ constantNamesOf inCall (.call first ::
        (writeDeclAnnotations templates constants atomIdFieldNumber declSets ++ arguments)),
      declared name) ↔
      ∀ decl ∈ elements (getAnnotations atomIdFieldNumber declSets),
        PrintsCategories templates constants (fun action => ∀ name ∈ inCall action, declared name)
          (annotationsOf decl atomIdFieldNumber) := by
  have tested : ∀ name, .codeIs name ∈ conditionsOf (.call first ::
      (writeDeclAnnotations templates constants atomIdFieldNumber declSets ++ arguments)) →
        declared (.atom name) := by
    intro name member
    rw [conditionsOf_cons, Code.conditions, List.nil_append, conditionsOf_append, List.mem_append,
      mem_conditionsOf_writeArguments plain.conditions printed] at member
    rcases member with ofAtom | ⟨index, -, ofField⟩
    · obtain ⟨decl, listed, rfl⟩ := codeIs_mem_declAnnotations.mp ofAtom
      exact atomNames _ decl listed
    · obtain ⟨decl, listed, rfl⟩ := codeIs_mem_declAnnotations.mp ofField
      exact atomNames _ decl listed
  have written : AllActions (fun action => ∀ name ∈ inCall action, declared name) arguments := by
    refine allActions_arguments (fun position arg written isWritten => ?_) (fun index => ?_) printed
    · intro code member action listed name named
      rw [plain.calls position arg written isWritten code member action listed] at named
      cases named
    · rw [allActions_declAnnotations_iff all]
      intro decl listed ann annMem category isCategory
      exact absurd isCategory (ofFields index decl listed ann annMem)
  have start : ∀ action ∈ (Code.call first : Code Condition α).actions,
      ∀ name ∈ inCall action, declared name := by
    intro action listed name named
    rw [List.mem_singleton.mp listed, firstPlain] at named
    cases named
  rw [forall_constantNamesOf_iff, and_iff_right tested, allActions_cons, and_iff_right start,
    allActions_append, and_iff_left written, allActions_declAnnotations_iff all]

end Body

/-! ## Restricted atoms -/

theorem fieldRequests_restrictionCategory (options : FieldOptions) :
    fieldRequests options .restrictionCategory = none :=
  rfl

/-- The restriction category of an atom is annotated on the atom. -/
theorem mem_of_restrictionCategory {registration : Registration} {category : RestrictionCategory}
    (isCategory : registration.atomField.options.restrictionCategory = some category) :
    ⟨.restrictionCategory, registration.atomField.number, .int category.number⟩ ∈
      annotationsOf registration.decl atomIdFieldNumber := by
  have requested : declRequests registration.atomField registration.atom atomIdFieldNumber
      .restrictionCategory = some (.int category.number) := by
    rw [declRequests, if_pos rfl, atomRequests, isCategory, Option.map_some]
  exact registration.describes.stores.mem_elements_iff.mpr ⟨rfl, requested⟩

/-- Restriction categories are for atoms, not for their fields. -/
theorem exists_category_of_mem {registration : Registration} {fieldNumber : Int}
    {ann : Annotation} (member : ann ∈ annotationsOf registration.decl fieldNumber)
    (isCategory : ann.annotationId = .restrictionCategory) :
    fieldNumber = atomIdFieldNumber ∧ ∃ category,
      registration.atomField.options.restrictionCategory = some category ∧
        ann.value = .int category.number := by
  have requested := requested_of_mem member
  rw [isCategory, declRequests] at requested
  split at requested
  · rename_i isAtom
    obtain ⟨category, isOption, isValue⟩ := Option.map_eq_some_iff.mp requested
    exact ⟨isAtom, category, isOption, isValue.symm⟩
  · rw [messageRequests] at requested
    cases isField : registration.atom.fields.find? (·.number = fieldNumber) with
    | none =>
        rw [isField] at requested
        contradiction
    | some field =>
        rw [isField] at requested
        exact absurd requested (by simp [fieldRequests_restrictionCategory])

section Registered

variable {registrations : List Registration} {atoms : Atoms}
  (registered : Registered registrations atoms) {atomType : AtomType} {signature : Signature}
  {declSets : FieldNumberToAtomDeclSet}

include registered

section Found

variable (found : (signatureMap atoms atomType)[signature]? = some declSets)

include found

theorem ne_restrictionCategory_of_field (index : Nat) {decl : AtomDecl}
    (listed : decl ∈ elements (getAnnotations (1 + index) declSets)) {ann : Annotation}
    (member : ann ∈ annotationsOf decl (1 + index)) :
    ann.annotationId ≠ .restrictionCategory := by
  intro isCategory
  obtain ⟨registration, -, rfl, -, -⟩ := exists_registration_of_annotated registered found listed
  have isAtom := (exists_category_of_mem member isCategory).1
  rw [atomIdFieldNumber] at isAtom
  omega

/-- The categories that are printed for the atoms of a signature are those of the options. -/
theorem printsCategories_iff {α : Type u} {templates : AnnotationTemplates α}
    {constants : AnnotationIdConstants} {property : α → Prop} :
    (∀ decl ∈ elements (getAnnotations atomIdFieldNumber declSets),
      PrintsCategories templates constants property (annotationsOf decl atomIdFieldNumber)) ↔
      ∀ registration ∈ registrations, getAtomType registration.atomField.number = atomType →
        signatureOf registration.atom = signature → ∀ category,
          registration.atomField.options.restrictionCategory = some category →
            property (templates.restriction (constants .restrictionCategory) category.number) := by
  constructor
  · intro printed registration member kind isSignature category isCategory
    have annotated := mem_of_restrictionCategory isCategory
    have listed := listed_of_annotated registered found member kind isSignature annotated
    exact printed registration.decl listed _ annotated category.number rfl rfl
  · intro asked decl listed ann annMem number isCategory isValue
    obtain ⟨registration, member, rfl, kind, isSignature⟩ :=
      exists_registration_of_annotated registered found listed
    obtain ⟨-, category, isOption, isNumber⟩ := exists_category_of_mem annMem isCategory
    cases isValue.symm.trans isNumber
    exact asked registration member kind isSignature category isOption

/-- A body for the atoms of a signature names what is declared exactly when the names for their
restriction categories are declared. -/
theorem forall_constantNames_restricted_iff {α : Type}
    {write : Int → JavaType → Except WriterError (List (Code Condition α))}
    {templates : AnnotationTemplates α} {constants : AnnotationIdConstants}
    {inCall : α → List ConstantName} {declared : ConstantName → Prop}
    (plain : WritesPlainly write inCall)
    (all : templates.AllButCategories constants
      fun action => ∀ name ∈ inCall action, declared name)
    (atomNames : ∀ decl ∈ elements atoms.decls, declared (.atom (makeConstantName decl.name)))
    {arguments : List (Code Condition α)}
    (printed : writeArguments write
      (fun argIndex => writeDeclAnnotations templates constants argIndex declSets) 1 signature =
        .ok arguments) {first : α} (firstPlain : inCall first = []) :
    (∀ name ∈ constantNamesOf inCall (.call first ::
        (writeDeclAnnotations templates constants atomIdFieldNumber declSets ++ arguments)),
      declared name) ↔
      ∀ registration ∈ registrations, getAtomType registration.atomField.number = atomType →
        signatureOf registration.atom = signature → ∀ category,
          registration.atomField.options.restrictionCategory = some category →
            ∀ name ∈ inCall (templates.restriction (constants .restrictionCategory)
              category.number), declared name := by
  rw [forall_constantNames_body_iff plain all _ _ printed firstPlain,
    printsCategories_iff registered found]
  · intro fieldNumber decl listed
    exact atomNames decl ((mem_getAnnotations_iff registered found).mp listed).member
  · intro index decl listed ann member
    exact ne_restrictionCategory_of_field registered found index listed member

end Found

end Registered

end StatsLogApiGen.Writer

/-! ## Names in a C++ source -/

namespace StatsLogApiGen.Native

open Std
open StatsLogApiGen.Container
open StatsLogApiGen.Collation
open StatsLogApiGen.Program
open StatsLogApiGen.Writer

def EventMethod.constantNames : EventMethod → List ConstantName
  | .addAnnotationInt32 annotationId value => .annotations annotationId :: value.constantNames
  | .addAnnotationBool annotationId _ => [.annotations annotationId]
  | _ => []

def EventCall.constantNames (call : EventCall) : List ConstantName :=
  call.method.constantNames

/-- The constants that a body names. -/
def Body.constantNames : Body → List ConstantName
  | .statsEventCompat code | .aStatsEvent code | .statsEventList code =>
      constantNamesOf EventCall.constantNames code
  | .bootstrap _ | .forward .. => []

theorem writesPlainly_writeNativeArg (attributionDecl : AtomDecl) (minApiLevel : Int) :
    WritesPlainly (writeNativeArg attributionDecl minApiLevel) EventCall.constantNames where
  conditions _ _ _ := conditionsOf_writeNativeArg
  calls argIndex arg written isWritten := by
    unfold writeNativeArg at isWritten
    split at isWritten
    · cases isWritten
    · cases arg <;> cases isWritten <;> exact allActions_call.mpr rfl

theorem writesPlainly_writeCompatArg (attributionDecl : AtomDecl) :
    WritesPlainly (writeCompatArg attributionDecl) EventCall.constantNames where
  conditions _ _ _ := conditionsOf_writeCompatArg
  calls argIndex arg written isWritten := by
    cases arg <;> cases isWritten <;> exact allActions_call.mpr rfl

section Source

variable {registrations : List Registration} {atoms : Atoms}
  (registered : Registered registrations atoms) {constants : AnnotationIdConstants}
  {attributionDecl : AtomDecl} {minApiLevel : Int} {declared : ConstantName → Prop}
  (atomNames : ∀ decl ∈ elements atoms.decls, declared (.atom (makeConstantName decl.name)))
  (annotationNames : ∀ annotationId,
    declared (.annotations (constantPrefix minApiLevel ++ (constants annotationId).name)))

include annotationNames in
theorem allButCategories_annotationTemplates (receiver : EventClass) :
    (annotationTemplates receiver minApiLevel).AllButCategories constants
      fun call => ∀ name ∈ call.constantNames, declared name where
  int annotationId _ := List.forall_mem_singleton.mpr (annotationNames annotationId)
  bool annotationId _ := List.forall_mem_singleton.mpr (annotationNames annotationId)
  reset _ := List.forall_mem_singleton.mpr (annotationNames _)

include registered atomNames annotationNames

theorem forall_constantNames_body_iff {atomType : AtomType} {signature : Signature}
    {declSets : FieldNumberToAtomDeclSet}
    (found : (signatureMap atoms atomType)[signature]? = some declSets) {receiver : EventClass}
    {write : Int → JavaType → Except WriterError (List (Code Condition EventCall))}
    (plain : WritesPlainly write EventCall.constantNames)
    {arguments : List (Code Condition EventCall)}
    (printed : writeArguments write
      (fun argIndex => writeAnnotations receiver constants minApiLevel argIndex declSets) 1
        signature = .ok arguments) :
    (∀ name ∈ constantNamesOf EventCall.constantNames (.call ⟨receiver, .setAtomId⟩ ::
        (writeAnnotations receiver constants minApiLevel atomIdFieldNumber declSets ++ arguments)),
      declared name) ↔
      ∀ registration ∈ registrations, getAtomType registration.atomField.number = atomType →
        signatureOf registration.atom = signature → ∀ category,
          registration.atomField.options.restrictionCategory = some category →
            declared (.annotations (constantPrefix minApiLevel ++
              getRestrictionCategoryStr category.number)) := by
  rw [writeAnnotations, forall_constantNames_restricted_iff registered found plain
    (allButCategories_annotationTemplates annotationNames receiver) atomNames printed rfl]
  have names (category : Int) : (∀ name ∈ EventCall.constantNames
      ((annotationTemplates receiver minApiLevel).restriction (constants .restrictionCategory)
        category), declared name) ↔
        declared (.annotations (constantPrefix minApiLevel ++
          getRestrictionCategoryStr category)) := by
    rw [EventCall.constantNames, annotationTemplates, EventMethod.constantNames,
      List.forall_mem_cons, and_iff_right (annotationNames _), Operand.constantNames,
      List.forall_mem_singleton]
  simp only [names]

theorem constantNames_statsWrite_iff {entry : Signature × FieldNumberToAtomDeclSet}
    (found : (signatureMap atoms .pushed)[entry.1]? = some entry.2) {method : Method}
    (written : writeNativeStatsWriteMethod constants attributionDecl minApiLevel false entry =
      .ok method) :
    (∀ name ∈ method.body.constantNames, declared name) ↔
      ∀ registration ∈ registrations, getAtomType registration.atomField.number = .pushed →
        signatureOf registration.atom = entry.1 → ∀ category,
          registration.atomField.options.restrictionCategory = some category →
            declared (.annotations (constantPrefix minApiLevel ++
              getRestrictionCategoryStr category.number)) := by
  rcases map_eq_ok_iff.mp written with ⟨body, bodyWritten, rfl⟩
  rw [if_neg (by decide)] at bodyWritten
  split at bodyWritten
  · rcases map_eq_ok_iff.mp bodyWritten with ⟨code, printed, rfl⟩
    rcases map_eq_ok_iff.mp printed with ⟨arguments, argumentsPrinted, rfl⟩
    exact forall_constantNames_body_iff registered atomNames annotationNames found
      (writesPlainly_writeCompatArg attributionDecl) argumentsPrinted
  · rcases map_eq_ok_iff.mp bodyWritten with ⟨code, printed, rfl⟩
    rcases map_eq_ok_iff.mp printed with ⟨arguments, argumentsPrinted, rfl⟩
    exact forall_constantNames_body_iff registered atomNames annotationNames found
      (writesPlainly_writeNativeArg attributionDecl minApiLevel) argumentsPrinted

theorem constantNames_addAStatsEvent_iff {entry : Signature × FieldNumberToAtomDeclSet}
    (found : (signatureMap atoms .pulled)[entry.1]? = some entry.2) {method : Method}
    (written : writeNativeBuildStatsEventMethod constants attributionDecl minApiLevel entry =
      .ok method) :
    (∀ name ∈ method.body.constantNames, declared name) ↔
      ∀ registration ∈ registrations, getAtomType registration.atomField.number = .pulled →
        signatureOf registration.atom = entry.1 → ∀ category,
          registration.atomField.options.restrictionCategory = some category →
            declared (.annotations (constantPrefix minApiLevel ++
              getRestrictionCategoryStr category.number)) := by
  rcases map_eq_ok_iff.mp written with ⟨code, printed, rfl⟩
  rcases map_eq_ok_iff.mp printed with ⟨arguments, argumentsPrinted, rfl⟩
  exact forall_constantNames_body_iff registered atomNames annotationNames found
    (writesPlainly_writeNativeArg attributionDecl minApiLevel) argumentsPrinted

/-- A source names what is declared exactly when the restriction categories of the atoms are. -/
theorem forall_constantNames_source_iff {methods : List Method}
    (source : writeStatsLogCpp constants atoms attributionDecl minApiLevel false = .ok methods) :
    (∀ method ∈ methods, ∀ name ∈ method.body.constantNames, declared name) ↔
      ∀ registration ∈ registrations, ∀ category,
        registration.atomField.options.restrictionCategory = some category →
          declared (.annotations (constantPrefix minApiLevel ++
            getRestrictionCategoryStr category.number)) :=
  forall_source_iff registered
    (fun _ found _ written =>
      constantNames_statsWrite_iff registered atomNames annotationNames found written)
    (fun _ _ named => by cases named)
    (fun _ found _ written =>
      constantNames_addAStatsEvent_iff registered atomNames annotationNames found written) source

end Source

end StatsLogApiGen.Native

/-! ## Names in a Java class -/

namespace StatsLogApiGen.Java

open Std
open StatsLogApiGen.Container
open StatsLogApiGen.Collation
open StatsLogApiGen.Program
open StatsLogApiGen.Writer

def BuilderMethod.constantNames : BuilderMethod → List ConstantName
  | .addAnnotationInt annotationId value => .annotations annotationId :: value.constantNames
  | .addAnnotationBoolean annotationId _ => [.annotations annotationId]
  | _ => []

/-- The constants that a body names. -/
def Body.constantNames : Body → List ConstantName
  | .write code | .writeOrQLogger code _ | .buildStatsEvent code =>
      constantNamesOf BuilderMethod.constantNames code
  | .forward _ | .workSource .. => []

theorem writesPlainly_writeArg (attributionDecl : AtomDecl) :
    WritesPlainly (writeArg attributionDecl) BuilderMethod.constantNames where
  conditions _ _ _ := conditionsOf_writeArg
  calls argIndex arg written isWritten := by
    cases arg <;> cases isWritten <;> exact allActions_call.mpr rfl

section Class

variable {registrations : List Registration} {atoms : Atoms}
  (registered : Registered registrations atoms) {constants : AnnotationIdConstants}
  {minApiLevel : Int} {declared : ConstantName → Prop}
  (atomNames : ∀ decl ∈ elements atoms.decls, declared (.atom (makeConstantName decl.name)))
  (annotationNames : ∀ annotationId, declared
    (.annotations (constantPrefix (constants annotationId) ++ (constants annotationId).name)))
  (resetName : declared (.annotations (constants .triggerStateReset).name))

include annotationNames resetName in
theorem allButCategories_annotationTemplates :
    annotationTemplates.AllButCategories constants
      fun call => ∀ name ∈ call.constantNames, declared name where
  int annotationId _ := List.forall_mem_singleton.mpr (annotationNames annotationId)
  bool annotationId _ := List.forall_mem_singleton.mpr (annotationNames annotationId)
  reset _ := List.forall_mem_singleton.mpr resetName

include registered atomNames annotationNames resetName

theorem forall_constantNames_body_iff {attributionDecl : AtomDecl} {atomType : AtomType}
    {signature : Signature} {declSets : FieldNumberToAtomDeclSet}
    (found : (signatureMap atoms atomType)[signature]? = some declSets)
    {code : List (Code Condition BuilderMethod)}
    (printed : writeMethodBody constants attributionDecl signature declSets = .ok code) :
    (∀ name ∈ constantNamesOf BuilderMethod.constantNames code, declared name) ↔
      ∀ registration ∈ registrations, getAtomType registration.atomField.number = atomType →
        signatureOf registration.atom = signature → ∀ category,
          registration.atomField.options.restrictionCategory = some category →
            declared (.annotations (constantPrefix (constants .restrictionCategory) ++
              getRestrictionCategoryStr category.number)) := by
  rcases map_eq_ok_iff.mp printed with ⟨arguments, argumentsPrinted, rfl⟩
  refine (forall_constantNames_restricted_iff registered found
    (writesPlainly_writeArg attributionDecl)
    (allButCategories_annotationTemplates annotationNames resetName) atomNames argumentsPrinted
    rfl).trans ?_
  have names (category : Int) : (∀ name ∈ BuilderMethod.constantNames
      (annotationTemplates.restriction (constants .restrictionCategory) category),
        declared name) ↔
      declared (.annotations (constantPrefix (constants .restrictionCategory) ++
        getRestrictionCategoryStr category)) := by
    rw [annotationTemplates, BuilderMethod.constantNames, List.forall_mem_cons,
      and_iff_right (annotationNames _), Operand.constantNames, List.forall_mem_singleton]
  simp only [names]

theorem constantNames_write_iff {entry : Signature × FieldNumberToAtomDeclSet}
    (found : (signatureMap atoms .pushed)[entry.1]? = some entry.2) {method : Method}
    (written : writeJavaPushedMethod constants attributionDecl minApiLevel entry = .ok method) :
    (∀ name ∈ method.body.constantNames, declared name) ↔
      ∀ registration ∈ registrations, getAtomType registration.atomField.number = .pushed →
        signatureOf registration.atom = entry.1 → ∀ category,
          registration.atomField.options.restrictionCategory = some category →
            declared (.annotations (constantPrefix (constants .restrictionCategory) ++
              getRestrictionCategoryStr category.number)) := by
  rcases bind_eq_ok_iff.mp written with ⟨code, printed, isMethod⟩
  have names := forall_constantNames_body_iff registered atomNames annotationNames resetName found
    printed
  split at isMethod
  · rcases map_eq_ok_iff.mp isMethod with ⟨arguments, -, rfl⟩
    exact names
  · cases isMethod
    exact names

theorem constantNames_buildStatsEvent_iff {entry : Signature × FieldNumberToAtomDeclSet}
    (found : (signatureMap atoms .pulled)[entry.1]? = some entry.2) {method : Method}
    (written : writeJavaPulledMethod constants attributionDecl minApiLevel entry = .ok method) :
    (∀ name ∈ method.body.constantNames, declared name) ↔
      ∀ registration ∈ registrations, getAtomType registration.atomField.number = .pulled →
        signatureOf registration.atom = entry.1 → ∀ category,
          registration.atomField.options.restrictionCategory = some category →
            declared (.annotations (constantPrefix (constants .restrictionCategory) ++
              getRestrictionCategoryStr category.number)) := by
  rcases bind_eq_ok_iff.mp written with ⟨parameters, -, rest⟩
  rcases map_eq_ok_iff.mp rest with ⟨code, printed, rfl⟩
  exact forall_constantNames_body_iff registered atomNames annotationNames resetName found printed

/-- A class names what is declared exactly when the restriction categories of the atoms are. -/
theorem forall_constantNames_class_iff {supportWorkSource : Bool}
    (complete : (writeStatsLogJava constants atoms attributionDecl minApiLevel
      supportWorkSource).errors = 0) :
    (∀ method ∈ (writeStatsLogJava constants atoms attributionDecl minApiLevel
        supportWorkSource).methods, ∀ name ∈ method.body.constantNames, declared name) ↔
      ∀ registration ∈ registrations, ∀ category,
        registration.atomField.options.restrictionCategory = some category →
          declared (.annotations (constantPrefix (constants .restrictionCategory) ++
            getRestrictionCategoryStr category.number)) :=
  forall_class_iff registered
    (fun _ found _ written =>
      constantNames_write_iff registered atomNames annotationNames resetName found written)
    (fun _ found _ written =>
      constantNames_buildStatsEvent_iff registered atomNames annotationNames resetName found
        written)
    (fun method isForward name named => by
      obtain ⟨call, isBody⟩ := isForward
      rw [isBody] at named
      cases named)
    (fun method isWorkSource name named => by
      obtain ⟨call, chain, isBody⟩ := isWorkSource
      rw [isBody] at named
      cases named) complete

end Class

end StatsLogApiGen.Java
