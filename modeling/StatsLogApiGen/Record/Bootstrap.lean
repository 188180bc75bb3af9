import StatsLogApiGen.Main.Bootstrap
import StatsLogApiGen.Record.Files

/-!
# The files of a bootstrap run

A bootstrap atom has no place for labels.  This file says that a source for bootstrap
processes still records whole messages: it is not generated where a label would be lost.
-/

namespace StatsLogApiGen.Record

open Std
open StatsLogApiGen.Container
open StatsLogApiGen.Program (Overload)
open StatsLogApiGen.Format
open StatsLogApiGen.Proto
open StatsLogApiGen.Collation
open StatsLogApiGen.Writer
open StatsLogApiGen.Main

/-! ## Reading bootstrap atoms -/

/-- The argument that a value carries. -/
def carriedArgument : StatsBootstrapAtomValue → Argument
  | .boolValue value => .boolean value
  | .intValue value => .int value
  | .longValue value => .long value
  | .floatValue bits => .float bits
  | .stringValue value => .string value
  | .bytesValue bytes => .byteArray bytes

theorem exact_bootstrapValueOf : Exact bootstrapValueOf carriedArgument := by
  intro argument value
  cases argument <;> cases value <;> simp [bootstrapValueOf, carriedArgument]

/-- What the reader of a bootstrap atom learns. -/
def readBootstrapAtom (atom : StatsBootstrapAtom) : AtomRecord AnnotationId where
  atom := ⟨atom.atomId, []⟩
  values := atom.values.map fun value => ⟨carriedArgument value, []⟩

/-- The values that carry arguments are read as the arguments. -/
theorem readBootstrapAtom_eq {arguments : List Argument} {values : List StatsBootstrapAtomValue}
    (carried : arguments.map bootstrapValueOf = values.map some) (atomId : Int) :
    readBootstrapAtom ⟨atomId, values⟩ =
      ⟨⟨atomId, []⟩, arguments.map fun argument => ⟨argument, []⟩⟩ := by
  have isCarried : arguments = values.map carriedArgument := by
    apply (exact_bootstrapValueOf.mapM arguments values).mp
    exact mapM_eq_some_of_map carried
  rw [readBootstrapAtom, isCarried, List.map_map]
  rfl

/-! ## Messages without labels -/

theorem labels_of_none {requests : FieldRequests}
    (unlabelled : ∀ annotationId, requests annotationId = none) (isNumber : Int → Bool) :
    labels requests isNumber = [] := by
  have direct : annotationIds.filterMap (directLabel? requests) = [] := by
    rw [List.filterMap_eq_nil_iff]
    intro annotationId _
    rw [directLabel?, unlabelled, Option.map_none, ite_self]
  have noState : requestedState requests .defaultState = none := by
    rw [requestedState, unlabelled]
  rw [labels, direct, resetLabels, noState]
  rfl

/-- Where no option asks for an annotation, the record holds the id and the values. -/
theorem recordOf_of_none (registration : Registration)
    (unlabelled : ∀ fieldNumber annotationId,
      declRequests registration.atomField registration.atom fieldNumber annotationId = none)
    (message : MessageValue) :
    recordOf registration.atomField registration.atom message =
      ⟨⟨registration.decl.code, []⟩,
        (callArguments registration.atom message).map fun argument => ⟨argument, []⟩⟩ := by
  have atomLabels :
      labels (atomRequests registration.atomField.options) (fun _ => false) = [] := by
    apply labels_of_none
    rw [← declRequests_atomId registration]
    exact unlabelled atomIdFieldNumber
  rw [recordOf, atomLabels, registration.decl_code, callArguments, List.map_map]
  congr 1
  apply List.map_congr_left
  intro field member
  obtain ⟨index, found⟩ := List.getElem?_of_mem member
  rw [fieldRecord, ← declRequests_field found, labels_of_none (unlabelled _)]
  rfl

/-! ## Programs that use the files -/

/-- A bootstrap process names an atom and a method as other C++ programs do. -/
def logBootstrap (atoms : Atoms) (atomName : String) (arguments : List Argument) :
    Text → Text → Option StatsBootstrapAtom
  | .header atomConstants _ _ headers, .cpp (.ok methods) =>
      callDeclared atomConstants headers atomName methods Native.Method.overload
        (nativeOverload (arguments.map Argument.type) .pushed) fun method code =>
          (report method atoms code arguments).toOption
  | _, _ => none

/-- What a bootstrap process reports that is built with the files of a run. -/
def reportWith (files : List (Output × Text)) (atoms : Atoms) (atomName : String)
    (arguments : List Argument) : Option StatsBootstrapAtom :=
  (files.lookup .header).bind fun header => (files.lookup .cpp).bind fun source =>
    logBootstrap atoms atomName arguments header source

section Methods

variable {registrations : List Registration} {atoms : Atoms}
  (registered : Registered registrations atoms) {constants : AnnotationIdConstants}
  {minApiLevel : Int} {methods : List Native.Method}
  (written : Native.writeStatsLogCpp constants atoms attributionDecl minApiLevel true =
    .ok methods)
  {decl : AtomDecl} (member : decl ∈ elements atoms.decls) (isPushed : decl.atomType = .pushed)

include registered written member isPushed

/-- The overload of a pushed atom selects a method, which reports the arguments. -/
theorem report_selected {arguments : List Argument}
    (typed : arguments.map Argument.type = decl.signature) :
    ∃ method values,
      methods.find? (fun method =>
        method.overload = nativeOverload decl.signature .pushed) = some method ∧
      report method atoms decl.code arguments = .ok ⟨decl.code, values⟩ ∧
      arguments.map bootstrapValueOf = values.map some := by
  obtain ⟨⟨listed, listedMem, types⟩, reports⟩ :=
    reportsAtoms registered written decl member isPushed
  obtain ⟨pushed, isSource, rest⟩ := bind_eq_ok_iff.mp written
  cases rest
  have isName : ∀ method ∈ methods, method.name = "stats_write" := by
    intro method methodMem
    obtain ⟨entry, -, isMethod⟩ := (mem_of_mapM_eq_ok isSource).mp methodMem
    obtain ⟨body, -, rfl⟩ := map_eq_ok_iff.mp isMethod
    rfl
  cases found : methods.find? fun method =>
      method.overload = nativeOverload decl.signature .pushed with
  | none =>
      have none := List.find?_eq_none.mp found listed listedMem
      rw [decide_eq_true_eq, Native.Method.overload, types, isName listed listedMem] at none
      exact absurd rfl none
  | some method =>
      have isOverload := List.find?_some found
      rw [decide_eq_true_eq] at isOverload
      obtain ⟨values, reported, carried⟩ := reports method (List.mem_of_find?_eq_some found)
        (congrArg Overload.types isOverload) arguments typed
      exact ⟨method, values, rfl, reported, carried⟩

end Methods

/-- The signatures of a source for bootstrap processes have no annotations. -/
theorem declRequests_of_bootstrap {registrations : List Registration} {atoms : Atoms}
    (registered : Registered registrations atoms) {constants : AnnotationIdConstants}
    {minApiLevel : Int} {methods : List Native.Method}
    (written : Native.writeStatsLogCpp constants atoms attributionDecl minApiLevel true =
      .ok methods)
    {registration : Registration} (listed : registration ∈ registrations)
    (isPushed : registration.decl.atomType = .pushed) (fieldNumber : Int)
    (annotationId : AnnotationId) :
    declRequests registration.atomField registration.atom fieldNumber annotationId = none := by
  have supported := (writeStatsLogCpp_bootstrap_isOk constants atoms minApiLevel).mp
    (isOk_iff_exists.mpr ⟨methods, written⟩)
  have unannotated :=
    ((forall_not_bootstrapUnsupported_iff registered).mp supported registration listed isPushed).1
  exact (not_annotated_iff registration).mp unannotated fieldNumber annotationId

/-- The files of a bootstrap run record messages like those of other runs: a bootstrap process
that names a pushed atom by its constant reports the record of the message, and no label is
missing from it. -/
theorem bootstrapFiles_record_messages (opens : String → Bool) (descriptor : AtomDescriptor)
    (request : Request) (atoms : Atoms)
    (accepted : collateAtoms descriptor request.moduleName {} = (0, atoms))
    (constants : DistinctConstants atoms) (platform : request.vendorProto = "")
    (bootstrap : request.bootstrap = true) (atomField : AtomFieldDescriptor)
    (selected : atomField ∈ selectedAtoms descriptor request.moduleName)
    (pushed : getAtomType atomField.number = .pushed)
    (atom : Descriptor) (type : atomField.type = .message atom)
    (provides : Provides (run opens descriptor request).files .native)
    (message : MessageValue) (fits : Fits message atom) :
    (reportWith (run opens descriptor request).files atoms atomField.name
        (callArguments atom message)).map readBootstrapAtom =
      some (recordOf atomField atom message) := by
  obtain ⟨registrations, chosen, registered⟩ := collateAtoms_registered accepted
  obtain ⟨registration, listed, rfl, rfl⟩ := exists_registration chosen selected type
  have isPushed := registration.decl_atomType.trans pushed
  have member := registered.decls.mem_elements.mpr (List.mem_map_of_mem listed)
  have typed := callArguments_types fits
  obtain ⟨methods, written, headerFound, sourceFound⟩ := exists_source accepted platform provides
  rw [bootstrap] at written
  obtain ⟨method, values, found, reported, carried⟩ :=
    report_selected registered written member isPushed typed
  obtain ⟨entry, entryMem, isEntry⟩ := exists_mem_toList
    (((registered.pushed.indexesDecls registered.decls).signatures _).mpr
      ⟨registration.decl, member, isPushed, rfl⟩)
  have declared : nativeOverload registration.decl.signature .pushed ∈
      (declaredMethods request atoms).map declaredOverload := by
    rw [declaredMethods, List.map_append, List.mem_append, ← isEntry]
    exact Or.inl (List.mem_map_of_mem (List.mem_map_of_mem entryMem))
  have logged : reportWith (run opens descriptor request).files atoms registration.atomField.name
      (callArguments registration.atom message) = some ⟨registration.decl.code, values⟩ := by
    rw [reportWith, headerFound, sourceFound, ← registration.decl_name]
    change callDeclared (atomConstants atoms) (declaredMethods request atoms) _ _ _ _ _ = _
    rw [typed, callDeclared, if_pos declared,
      callByName_eq (lookup_constant constants member) found, reported]
    rfl
  have unlabelled := declRequests_of_bootstrap registered written listed isPushed
  rw [logged, Option.map_some, readBootstrapAtom_eq carried,
    recordOf_of_none registration unlabelled]

/-- The outputs for a bootstrap process. -/
def bootstrapRequest : Request where
  filename
    | .cpp => "statslog_bootstrap.cpp"
    | .header => "statslog_bootstrap.h"
    | _ => ""
  bootstrap := true

/-- A message for the pushed atom of `bootstrapDescriptor`. -/
def bootMessage : MessageValue
  | 1 => .string "cold"
  | 2 => .long 1200
  | _ => .boolean true

theorem bootstrapFiles_record_messages_bootSequence :
    (reportWith (run (fun _ => true) bootstrapDescriptor bootstrapRequest).files
        (collateAtoms bootstrapDescriptor defaultModuleName {}).2 "boot_sequence_reported"
        [.string "cold", .long 1200, .boolean true]).map readBootstrapAtom =
      some ⟨⟨57, []⟩, [⟨.string "cold", []⟩, ⟨.long 1200, []⟩, ⟨.boolean true, []⟩]⟩ :=
  (bootstrapFiles_record_messages (fun _ => true) bootstrapDescriptor bootstrapRequest _
    (Prod.ext (by decide) rfl) (by decide) rfl rfl _ List.mem_cons_self (by decide)
    bootSequenceReported rfl (by decide) bootMessage (by decide)).trans (by decide)

end StatsLogApiGen.Record
