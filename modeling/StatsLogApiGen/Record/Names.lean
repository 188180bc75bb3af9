import StatsLogApiGen.Record.Files
import StatsLogApiGen.Writer.Mentions

/-!
# The constants of a program

The files of a run name constants that they do not all declare.  A C++ source sees what its
header declares and, above R, what the header of the platform declares.  A Java class sees what
it declares itself and the constants of the class `StatsLog` of the platform.
-/

namespace StatsLogApiGen.Record

open Std
open StatsLogApiGen.Container
open StatsLogApiGen.Proto
open StatsLogApiGen.Collation
open StatsLogApiGen.Writer
open StatsLogApiGen.Main

/-! ## Constants of a text -/

/-- The constant of the platform that the value of a constant names. -/
def platformName : Java.ConstantValue → String
  | .platform name | .numberUpToR _ name => name

/-- The constants that a text names. -/
def namedConstants : Text → List ConstantName
  | .cpp (.ok methods) => methods.flatMap fun method => method.body.constantNames
  | .java _ _ annotationConstants output =>
      annotationConstants.map (fun constant => .annotations (platformName constant.2)) ++
        output.methods.flatMap fun method => method.body.constantNames
  | _ => []

/-- The constants that a text declares for the codes of atoms and for annotations. -/
def declaredNames : Text → List ConstantName
  | .header atomConstants _ annotationConstants _ =>
      atomConstants.map (fun constant => .atom constant.1) ++
        annotationConstants.map fun constant => .annotations constant.1
  | .java atomCodes _ annotationConstants _ =>
      atomCodes.map (fun constant => .atom constant.1) ++
        annotationConstants.map fun constant => .annotations constant.1
  | _ => []

/-- The constants for annotations that the headers included by a C++ source declare, given
those of `stats_annotations.h`. -/
def includedConstants (request : Request) (statsAnnotations : Platform) : Platform :=
  if apiR < request.minApiLevel then statsAnnotations else fun _ => none

/-- A constant is declared by a text or, for an annotation, by the platform. -/
def IsDeclared (text : Text) (platform : Platform) (name : ConstantName) : Prop :=
  name ∈ declaredNames text ∨
    ∃ constant, name = .annotations constant ∧ (platform constant).isSome = true

/-- The constants of the platform with a prefix: those of the annotations and of the named
categories. -/
structure DeclaresUnder (platform : Platform) (namePrefix : String) : Prop where
  annotationIds : ∀ annotationId, (platform (namePrefix ++
    (annotationConstantNamePrefix ++ annotationIdName annotationId))).isSome = true
  category : ∀ category : RestrictionCategory,
    (platform (namePrefix ++ getRestrictionCategoryStr category.number)).isSome = true ↔
      category ≠ .unset

theorem isDeclared_atom_iff {text : Text} {platform : Platform} {name : String} :
    IsDeclared text platform (.atom name) ↔ .atom name ∈ declaredNames text := by
  simp [IsDeclared]

theorem isDeclared_annotation_iff {text : Text} {platform : Platform} {name : String} :
    IsDeclared text platform (.annotations name) ↔
      .annotations name ∈ declaredNames text ∨ (platform name).isSome = true := by
  simp [IsDeclared]

/-! ## Constants of a C++ program -/

/-- The header for the platform. -/
def headerText (request : Request) (atoms : Atoms) : Text :=
  (headerWriter request atoms).write (getAnnotationIdConstants annotationConstantNamePrefix)

section Native

variable {request : Request} {atoms : Atoms} {statsAnnotations : Platform}

theorem declaredNames_header :
    declaredNames (headerText request atoms) =
      (atomConstants atoms).map (fun constant => .atom constant.1) ++
        (if request.minApiLevel ≤ apiR then
          Native.writeNativeAnnotationConstants
            (getAnnotationIdConstants annotationConstantNamePrefix)
        else []).map fun constant => .annotations constant.1 :=
  rfl

/-- Every atom has its constant in the header. -/
theorem header_declares_atom {decl : AtomDecl} (member : decl ∈ elements atoms.decls) :
    IsDeclared (headerText request atoms) (includedConstants request statsAnnotations)
      (.atom (makeConstantName decl.name)) := by
  rw [isDeclared_atom_iff, declaredNames_header, List.mem_append, atomConstants, List.map_map]
  exact Or.inl (List.mem_map_of_mem member)

/-- Up to R an annotation needs a constant of the header, above R one of the platform. -/
theorem header_declares_annotation_iff {name : String} :
    IsDeclared (headerText request atoms) (includedConstants request statsAnnotations)
        (.annotations (Native.constantPrefix request.minApiLevel ++ name)) ↔
      if request.minApiLevel ≤ apiR then
        name ∈ (Native.writeNativeAnnotationConstants
          (getAnnotationIdConstants annotationConstantNamePrefix)).map Prod.fst
      else
        (statsAnnotations ("ASTATSLOG_" ++ name)).isSome = true := by
  rw [isDeclared_annotation_iff, declaredNames_header, includedConstants, Native.constantPrefix]
  by_cases upToR : request.minApiLevel ≤ apiR
  · rw [if_pos upToR, if_pos upToR, if_neg (by omega), if_neg (by omega), String.empty_append]
    simp
  · rw [if_neg upToR, if_neg upToR, if_pos (by omega), if_pos (by omega)]
    simp

variable (declares : DeclaresUnder statsAnnotations "ASTATSLOG_")

include declares

theorem header_declares_annotationId (annotationId : AnnotationId) :
    IsDeclared (headerText request atoms) (includedConstants request statsAnnotations)
      (.annotations (Native.constantPrefix request.minApiLevel ++
        (getAnnotationIdConstants annotationConstantNamePrefix annotationId).name)) := by
  rw [header_declares_annotation_iff]
  split
  · cases annotationId <;> decide
  · exact declares.annotationIds annotationId

/-- The header has no constants for restriction categories. -/
theorem header_declares_category_iff (category : RestrictionCategory) :
    IsDeclared (headerText request atoms) (includedConstants request statsAnnotations)
        (.annotations (Native.constantPrefix request.minApiLevel ++
          getRestrictionCategoryStr category.number)) ↔
      category ≠ .unset ∧ apiR < request.minApiLevel := by
  rw [header_declares_annotation_iff]
  split
  · rename_i upToR
    have absent : getRestrictionCategoryStr category.number ∉
        (Native.writeNativeAnnotationConstants
          (getAnnotationIdConstants annotationConstantNamePrefix)).map Prod.fst := by
      cases category <;> decide
    exact iff_of_false absent fun above => by omega
  · rename_i aboveR
    rw [declares.category, and_iff_left (by omega)]

end Native

/-! ## Constants of a Java class -/

/-- The Java class for the platform. -/
def classText (request : Request) (atoms : Atoms) : Text :=
  (javaWriter request atoms).write (getAnnotationIdConstants annotationConstantNamePrefix)

section Java

variable {request : Request} {atoms : Atoms} {statsLog : Platform}

theorem declaredNames_class :
    declaredNames (classText request atoms) =
      (atomConstants atoms).map (fun constant => .atom constant.1) ++
        (Java.writeJavaAnnotationConstants
          (getAnnotationIdConstants annotationConstantNamePrefix) request.minApiLevel).map
            fun constant => .annotations constant.1 :=
  rfl

theorem class_declares_atom {decl : AtomDecl} (member : decl ∈ elements atoms.decls) :
    IsDeclared (classText request atoms) statsLog (.atom (makeConstantName decl.name)) := by
  rw [isDeclared_atom_iff, declaredNames_class, List.mem_append, atomConstants, List.map_map]
  exact Or.inl (List.mem_map_of_mem member)

/-- The constants of a class do not depend on the API level, but their values do. -/
theorem names_writeJavaAnnotationConstants (minApiLevel : Int) :
    (Java.writeJavaAnnotationConstants
        (getAnnotationIdConstants annotationConstantNamePrefix) minApiLevel).map Prod.fst =
      (annotationIds.filter fun annotationId => annotationIdApiLevel annotationId < apiU).map
        fun annotationId => annotationConstantNamePrefix ++ annotationIdName annotationId := by
  by_cases upToR : minApiLevel ≤ apiR
  · simp only [Java.writeJavaAnnotationConstants, if_pos upToR]
    rfl
  · simp only [Java.writeJavaAnnotationConstants, if_neg upToR]
    rfl

theorem class_declares_annotation_iff {name : String} :
    IsDeclared (classText request atoms) statsLog (.annotations name) ↔
      name ∈ (annotationIds.filter fun annotationId =>
        annotationIdApiLevel annotationId < apiU).map
          (fun annotationId => annotationConstantNamePrefix ++ annotationIdName annotationId) ∨
        (statsLog name).isSome = true := by
  rw [isDeclared_annotation_iff, declaredNames_class,
    ← names_writeJavaAnnotationConstants request.minApiLevel]
  simp

variable (declares : DeclaresUnder statsLog "StatsLog.")

include declares

theorem class_declares_annotationId (annotationId : AnnotationId) :
    IsDeclared (classText request atoms) statsLog
      (.annotations (Java.constantPrefix
        (getAnnotationIdConstants annotationConstantNamePrefix annotationId) ++
          (getAnnotationIdConstants annotationConstantNamePrefix annotationId).name)) := by
  rw [class_declares_annotation_iff, Java.constantPrefix]
  by_cases fromU : annotationIdApiLevel annotationId ≥ apiU
  · rw [if_pos (show (getAnnotationIdConstants annotationConstantNamePrefix
      annotationId).minApiLevel ≥ apiU from fromU)]
    exact Or.inr (declares.annotationIds annotationId)
  · rw [if_neg (show ¬(getAnnotationIdConstants annotationConstantNamePrefix
      annotationId).minApiLevel ≥ apiU from fromU), String.empty_append]
    refine Or.inl (List.mem_map_of_mem (List.mem_filter.mpr ⟨?_, ?_⟩))
    · cases annotationId <;> decide
    · exact decide_eq_true (by omega)

theorem class_declares_category_iff (category : RestrictionCategory) :
    IsDeclared (classText request atoms) statsLog
        (.annotations (Java.constantPrefix (getAnnotationIdConstants annotationConstantNamePrefix
          .restrictionCategory) ++ getRestrictionCategoryStr category.number)) ↔
      category ≠ .unset := by
  rw [class_declares_annotation_iff]
  have absent : "StatsLog." ++ getRestrictionCategoryStr category.number ∉
      (annotationIds.filter fun annotationId => annotationIdApiLevel annotationId < apiU).map
        fun annotationId => annotationConstantNamePrefix ++ annotationIdName annotationId := by
    cases category <;> decide
  exact (or_iff_right absent).trans (declares.category category)

/-- The values of the constants of a class are constants of the platform. -/
theorem class_declares_values :
    ∀ constant ∈ Java.writeJavaAnnotationConstants
        (getAnnotationIdConstants annotationConstantNamePrefix) request.minApiLevel,
      IsDeclared (classText request atoms) statsLog (.annotations (platformName constant.2)) := by
  intro constant member
  obtain ⟨annotationId, -, rfl⟩ := List.mem_map.mp member
  rw [class_declares_annotation_iff]
  refine Or.inr ?_
  split
  all_goals exact declares.annotationIds annotationId

end Java

/-! ## Names of a run -/

/-- What a text names is declared by another or by the platform. -/
def NamesDeclared (text declaring : Text) (platform : Platform) : Prop :=
  ∀ name ∈ namedConstants text, IsDeclared declaring platform name

/-- The restriction categories of selected atoms have a property. -/
def CategoriesSatisfy (descriptor : AtomDescriptor) (request : Request)
    (property : RestrictionCategory → Prop) : Prop :=
  ∀ atomField ∈ selectedAtoms descriptor request.moduleName, ∀ category,
    atomField.options.restrictionCategory = some category → property category

section Run

variable {descriptor : AtomDescriptor} {request : Request} {atoms : Atoms}
  (accepted : collateAtoms descriptor request.moduleName {} = (0, atoms))

include accepted

theorem namesDeclared_source_iff {statsAnnotations : Platform}
    (declares : DeclaresUnder statsAnnotations "ASTATSLOG_") {methods : List Native.Method}
    (source : Native.writeStatsLogCpp (getAnnotationIdConstants annotationConstantNamePrefix)
      atoms attributionDecl request.minApiLevel false = .ok methods) :
    NamesDeclared (.cpp (.ok methods)) (headerText request atoms)
        (includedConstants request statsAnnotations) ↔
      CategoriesSatisfy descriptor request fun category =>
        category ≠ .unset ∧ apiR < request.minApiLevel := by
  obtain ⟨registrations, selected, registered⟩ := collateAtoms_registered accepted
  rw [NamesDeclared, namedConstants, List.forall_mem_flatMap,
    Native.forall_constantNames_source_iff registered (fun _ => header_declares_atom)
      (header_declares_annotationId declares) source,
    CategoriesSatisfy, ← selected, List.forall_mem_map]
  simp only [header_declares_category_iff declares]

theorem namesDeclared_class_iff {statsLog : Platform}
    (declares : DeclaresUnder statsLog "StatsLog.")
    (complete : (Java.writeStatsLogJava (getAnnotationIdConstants annotationConstantNamePrefix)
      atoms attributionDecl request.minApiLevel request.supportWorkSource).errors = 0) :
    NamesDeclared (classText request atoms) (classText request atoms) statsLog ↔
      CategoriesSatisfy descriptor request fun category => category ≠ .unset := by
  obtain ⟨registrations, selected, registered⟩ := collateAtoms_registered accepted
  have values : ∀ name ∈ (Java.writeJavaAnnotationConstants
      (getAnnotationIdConstants annotationConstantNamePrefix) request.minApiLevel).map
        (fun constant => ConstantName.annotations (platformName constant.2)),
      IsDeclared (classText request atoms) statsLog name :=
    List.forall_mem_map.mpr (class_declares_values declares)
  have reset : IsDeclared (classText request atoms) statsLog
      (.annotations (getAnnotationIdConstants annotationConstantNamePrefix
        .triggerStateReset).name) :=
    class_declares_annotation_iff.mpr (Or.inl (by decide))
  change (∀ name ∈ _ ++ _, _) ↔ _
  rw [List.forall_mem_append, and_iff_right values, List.forall_mem_flatMap,
    Java.forall_constantNames_class_iff registered (fun _ => class_declares_atom)
      (class_declares_annotationId declares) reset complete,
    CategoriesSatisfy, ← selected, List.forall_mem_map]
  simp only [class_declares_category_iff declares]

end Run

/-- A platform program finds the constants that it names: one with the C++ files of a run
exactly when the run is for devices above R and no category is unset, or no atom is restricted,
and one with the Java class exactly when no category is unset. -/
theorem names_declared_iff (opens : String → Bool) (descriptor : AtomDescriptor)
    (request : Request) (atoms : Atoms)
    (accepted : collateAtoms descriptor request.moduleName {} = (0, atoms))
    (platform : request.vendorProto = "") (ordinary : request.bootstrap = false)
    (statsAnnotations statsLog : Platform)
    (nativeDeclares : DeclaresUnder statsAnnotations "ASTATSLOG_")
    (javaDeclares : DeclaresUnder statsLog "StatsLog.") :
    (Provides (run opens descriptor request).files .native →
      ∃ header source, (run opens descriptor request).files.lookup .header = some header ∧
        (run opens descriptor request).files.lookup .cpp = some source ∧
        (NamesDeclared source header (includedConstants request statsAnnotations) ↔
          CategoriesSatisfy descriptor request fun category =>
            category ≠ .unset ∧ apiR < request.minApiLevel)) ∧
    (Provides (run opens descriptor request).files .java →
      ∃ text, (run opens descriptor request).files.lookup .java = some text ∧
        (NamesDeclared text text statsLog ↔
          CategoriesSatisfy descriptor request fun category => category ≠ .unset)) := by
  constructor
  · intro provides
    obtain ⟨methods, source, headerFound, sourceFound⟩ := exists_source accepted platform provides
    exact ⟨_, _, headerFound, sourceFound,
      namesDeclared_source_iff accepted nativeDeclares (ordinary ▸ source)⟩
  · intro provides
    obtain ⟨found, status⟩ := exists_class accepted platform provides
    exact ⟨_, found, namesDeclared_class_iff accepted javaDeclares status⟩

theorem declaresUnder_declaredPlatform :
    DeclaresUnder declaredPlatform "ASTATSLOG_" ∧ DeclaresUnder declaredPlatform "StatsLog." := by
  refine ⟨⟨fun annotationId => ?_, fun category => ?_⟩, fun annotationId => ?_, fun category => ?_⟩
  · cases annotationId <;> decide
  · cases category <;> decide
  · cases annotationId <;> decide
  · cases category <;> decide

/-- The C++ files of the restricted atom for devices from R on. -/
def restrictedRequest : Request where
  filename
    | .cpp => "statslog_bt_restricted.cpp"
    | .header => "statslog_bt_restricted.h"
    | _ => ""
  moduleName := "bt_restricted"
  cppNamespace := "bluetooth,stats"
  cppHeaderImport := "statslog_bt_restricted.h"
  minApiLevel := apiR

/-- Up to R the C++ source of the restricted atom names a constant that nothing declares. -/
theorem names_declared_iff_restricted :
    ∃ header source,
      (run (fun _ => true) restrictedDescriptor restrictedRequest).files.lookup .header =
        some header ∧
      (run (fun _ => true) restrictedDescriptor restrictedRequest).files.lookup .cpp =
        some source ∧
      ¬NamesDeclared source header (includedConstants restrictedRequest declaredPlatform) := by
  obtain ⟨header, source, headerFound, sourceFound, exact⟩ :=
    (names_declared_iff (fun _ => true) restrictedDescriptor restrictedRequest
      (collateAtoms restrictedDescriptor "bt_restricted" {}).2 (Prod.ext (by decide) rfl) rfl rfl
      declaredPlatform declaredPlatform declaresUnder_declaredPlatform.1
      declaresUnder_declaredPlatform.2).1 (by decide)
  refine ⟨header, source, headerFound, sourceFound, fun names => ?_⟩
  exact absurd (exact.mp names _ List.mem_cons_self .diagnostic rfl).2 (by decide)

end StatsLogApiGen.Record
