import StatsLogApiGen.Vendor.Agreement
import StatsLogApiGen.Writer.NonChained

/-!
# State resets

Every writer collects the default state and the state that triggers a reset in two
variables, in which -1 says that there is none.  This file says which states a
declaration stores for its exclusive state field, and reads the resets off the event or
the parcel that a generated method leaves.
-/

namespace StatsLogApiGen.Writer

open Std
open StatsLogApiGen.Container
open StatsLogApiGen.Proto
open StatsLogApiGen.Collation
open StatsLogApiGen.Vendor

/-! ## Declared states -/

/-- The argument at an index is the exclusive state field of a selected atom, which
declares a default state and a state that triggers a reset. -/
def DeclaresReset (descriptor : AtomDescriptor) (moduleName : String) (decl : AtomDecl)
    (index : Nat) (defaultState resetState : Int) : Prop :=
  ∃ atomField ∈ selectedAtoms descriptor moduleName, ∃ atom,
    atomField.type = .message atom ∧ decl.code = atomField.number ∧
    ∃ field ∈ atom.fields, field.number = 1 + index ∧
      ∃ option, field.options.stateFieldOption = some option ∧ option.exclusiveState = true ∧
        option.defaultStateValue = some defaultState ∧
        option.triggerStateResetValue = some resetState

/-- The states that the declaration of an atom stores for a field. -/
structure StoresReset (decl : AtomDecl) (index : Nat) (defaultState resetState : Int) :
    Prop where
  defaultState : declaredState .defaultState (annotationsOf decl (1 + index)) = defaultState
  resetState : declaredState .triggerStateReset (annotationsOf decl (1 + index)) = resetState
  annotated : ∃ ann ∈ annotationsOf decl (1 + index), ann.annotationId = .triggerStateReset

/-- The declaration of an atom stores the states of its exclusive state field. -/
theorem DeclaresReset.stores {descriptor : AtomDescriptor} {moduleName : String}
    {atoms : Atoms} (accepted : collateAtoms descriptor moduleName {} = (0, atoms))
    {decl : AtomDecl} (member : decl ∈ elements atoms.decls) {index : Nat}
    {defaultState resetState : Int}
    (declares : DeclaresReset descriptor moduleName decl index defaultState resetState) :
    StoresReset decl index defaultState resetState := by
  rcases declares with ⟨atomField, selectedMem, atom, type, code, field, fieldMem, position,
    option, hasOption, exclusive, hasDefault, hasReset⟩
  rcases collateAtoms_registered accepted with ⟨registrations, selected, registered⟩
  have faithful := registered.faithful selected
  rcases exists_registration selected selectedMem type with
    ⟨registration, registrationMem, rfl, rfl⟩
  have isDecl : decl = registration.decl := by
    apply List.inj_on_of_nodup_map faithful.codes_nodup member
    · exact registered.decls.mem_elements.mpr (List.mem_map_of_mem registrationMem)
    · rw [code, registration.decl_code]
  subst isDecl
  have requests : declRequests registration.atomField registration.atom (1 + index) =
      fieldRequests field.options := by
    rw [← position]
    apply declRequests_of_mem fieldMem
    rw [position, atomIdFieldNumber]
    omega
  have stores := registration.describes.stores
  have requestsDefault : declRequests registration.atomField registration.atom (1 + index)
      .defaultState = some (.int defaultState) := by
    rw [requests]
    simp [fieldRequests, FieldRestrictionOption.asksFor, flag, hasOption,
      StateAtomFieldOption.requests, exclusive, hasDefault]
  have requestsReset : declRequests registration.atomField registration.atom (1 + index)
      .triggerStateReset = some (.int resetState) := by
    rw [requests]
    simp [fieldRequests, FieldRestrictionOption.asksFor, flag, hasOption,
      StateAtomFieldOption.requests, exclusive, hasReset]
  exact ⟨declaredState_of_stores stores requestsDefault,
    declaredState_of_stores stores requestsReset, exists_mem_of_stores stores requestsReset⟩

/-! ## Arguments that are states -/

/-- Whether an argument is a number.  A `bool` is the number that it is promoted to. -/
def Argument.isNumber : Argument → Int → Bool
  | .boolean value, number => (if value then 1 else 0) = number
  | .int value, number => value.toInt = number
  | .long value, number => value.toInt = number
  | .float bits, number => Format.floatIs bits number
  | _, _ => false

/-- A comparison in generated code is exact unless it rounds the state to a float. -/
theorem Argument.equals_eq_isNumber {argument : Argument} {state : Int}
    (exact : argument.type = .float → Format.roundToFloat state = state) :
    argument.equals state = argument.isNumber state := by
  cases argument with
  | float bits => rw [Argument.equals, Argument.isNumber, exact rfl]
  | _ => rfl

/-- A state that is rounded is found in another number. -/
theorem Argument.exists_equals_not_isNumber {state : Int} (bound : state.natAbs < 2 ^ 64)
    (rounded : Format.roundToFloat state ≠ state) :
    ∃ bits, (Argument.float bits).equals state = true ∧
      (Argument.float bits).isNumber state = false := by
  obtain ⟨bits, isRounded⟩ := Format.exists_floatIs_roundToFloat bound
  refine ⟨bits, isRounded, ?_⟩
  by_contra isState
  rw [Bool.not_eq_false] at isState
  exact rounded (Format.roundToFloat_of_floatIs isState)

/-! ## Resets of an event -/

/-- The reset of a field whose argument is compared by `equals`. -/
def stateResets (annotations : List Annotation) (equals : Int → Bool) : List Int :=
  if HasReset annotations ∧ equals (declaredState .triggerStateReset annotations) then
    [declaredState .defaultState annotations]
  else
    []

theorem StoresReset.stateResets {decl : AtomDecl} {index : Nat} {defaultState resetState : Int}
    (stores : StoresReset decl index defaultState resetState) (equals : Int → Bool) :
    stateResets (annotationsOf decl (1 + index)) equals =
      if (defaultState ≠ -1 ∧ resetState ≠ -1) ∧ equals resetState then [defaultState]
      else [] := by
  simp only [Writer.stateResets, HasReset, stores.defaultState, stores.resetState]

def isWrite : EventOp → Bool
  | .write _ => true
  | _ => false

/-- The operations between the write at a position and the next write. -/
def opsAfterWrite : Nat → List EventOp → List EventOp
  | _, [] => []
  | 0, .write _ :: rest => rest.takeWhile fun op => !isWrite op
  | position + 1, .write _ :: rest => opsAfterWrite position rest
  | position, _ :: rest => opsAfterWrite position rest

/-- The state that an annotation resets to. -/
def resetValue? : EventOp → Option Int
  | .addAnnotationInt32 annotationId value =>
      if annotationId = AnnotationId.triggerStateReset.value then some value else none
  | _ => none

/-- The states that the annotations of an argument reset to. -/
def resetsAfterWrite (index : Nat) (events : List EventOp) : List Int :=
  (opsAfterWrite index events).filterMap resetValue?

section Events

variable {decl : AtomDecl}

theorem not_isWrite_of_mem_fieldOps {fieldNumber : Int} {equals : Int → Bool} :
    ∀ op ∈ fieldOps decl fieldNumber equals, isWrite op = false := by
  intro op member
  rcases List.mem_append.mp member with direct | reset
  · rcases List.mem_map.mp direct with ⟨ann, -, rfl⟩
    rw [annotationOp]
    split <;> rfl
  · rw [resetOps] at reset
    split at reset
    · rw [List.mem_singleton.mp reset]
      rfl
    · contradiction

/-- Annotations are no writes. -/
theorem opsAfterWrite_append {ops : List EventOp} (annotations : ∀ op ∈ ops, isWrite op = false)
    (position : Nat) (rest : List EventOp) :
    opsAfterWrite position (ops ++ rest) = opsAfterWrite position rest := by
  induction ops with
  | nil => rfl
  | cons op later ih =>
      have notWrite := annotations op List.mem_cons_self
      have restEq := ih fun other member => annotations other (List.mem_cons_of_mem op member)
      cases op with
      | write argument => contradiction
      | _ => cases position <;> exact restEq

theorem takeWhile_argumentOps {ops : List EventOp}
    (annotations : ∀ op ∈ ops, isWrite op = false) (argIndex : Int)
    (arguments : List Argument) :
    (ops ++ argumentOps decl argIndex arguments).takeWhile (fun op => !isWrite op) = ops := by
  rw [List.takeWhile_append_of_pos]
  · cases arguments <;> simp [argumentOps, isWrite]
  · intro op member
    rw [annotations op member]
    rfl

/-- The write of an argument is followed by the annotations of its field. -/
theorem opsAfterWrite_argumentOps {argIndex : Int} {arguments : List Argument} {index : Nat}
    {argument : Argument} (found : arguments[index]? = some argument) :
    opsAfterWrite index (argumentOps decl argIndex arguments) =
      fieldOps decl (argIndex + index) argument.equals := by
  induction arguments generalizing argIndex index with
  | nil => simp at found
  | cons first rest ih =>
      rw [argumentOps]
      cases index with
      | zero =>
          rw [List.getElem?_cons_zero, Option.some.injEq] at found
          subst found
          rw [Int.natCast_zero, Int.add_zero]
          exact takeWhile_argumentOps not_isWrite_of_mem_fieldOps _ _
      | succ position =>
          rw [List.getElem?_cons_succ] at found
          have later := @ih (argIndex + 1) position found
          have shift :
              argIndex + 1 + (position : Int) = argIndex + ((position + 1 : Nat) : Int) := by
            omega
          rw [← shift, ← later]
          exact opsAfterWrite_append not_isWrite_of_mem_fieldOps _ _

theorem opsAfterWrite_atomEvent {arguments : List Argument} {index : Nat} {argument : Argument}
    (found : arguments[index]? = some argument) :
    opsAfterWrite index (atomEvent decl arguments) =
      fieldOps decl (1 + index) argument.equals := by
  rw [← opsAfterWrite_argumentOps found, atomEvent]
  cases index <;> exact opsAfterWrite_append not_isWrite_of_mem_fieldOps _ _

/-- An annotation that does not depend on the argument resets nothing. -/
theorem resetValue?_annotationOp {ann : Annotation} (direct : declaresState ann = false) :
    resetValue? (annotationOp ann) = none := by
  rcases ann with ⟨annotationId, atomId, value⟩
  cases value with
  | bool boolValue => rfl
  | int intValue =>
      apply if_neg
      intro sameValue
      have isReset := AnnotationId.value_injective sameValue
      subst isReset
      contradiction

theorem filterMap_fieldOps (fieldNumber : Int) (equals : Int → Bool) :
    (fieldOps decl fieldNumber equals).filterMap resetValue? =
      stateResets (annotationsOf decl fieldNumber) equals := by
  rw [fieldOps, annotationOps, List.filterMap_append, List.filterMap_map]
  have direct : (directAnnotations (annotationsOf decl fieldNumber)).filterMap
      (resetValue? ∘ annotationOp) = [] := by
    rw [List.filterMap_eq_nil_iff]
    intro ann member
    apply resetValue?_annotationOp
    simpa using (List.mem_filter.mp member).2
  rw [direct, List.nil_append, resetOps, stateResets]
  split <;> rfl

/-- The event of an atom resets a field by its annotations. -/
theorem resetsAfterWrite_atomEvent {arguments : List Argument} {index : Nat}
    {argument : Argument} (found : arguments[index]? = some argument) :
    resetsAfterWrite index (atomEvent decl arguments) =
      stateResets (annotationsOf decl (1 + index)) argument.equals := by
  rw [resetsAfterWrite, opsAfterWrite_atomEvent found, filterMap_fieldOps]

end Events

/-! ## Resets of a parcel -/

/-- The state that an annotation resets to, where resets have a number. -/
def parcelReset? (resetNumber : Int) (parcel : AnnotationParcel) : Option Int :=
  match parcel.value with
  | .int value => if parcel.annotationId = resetNumber then some value else none
  | .bool _ => none

/-- The states that an annotation set of a value resets to. -/
def setResets (resetNumber valueIndex : Int) (annotationSet : AnnotationSetParcel) : List Int :=
  if annotationSet.valueIndex = valueIndex then
    (annotationSet.annotations.filterMap id).filterMap (parcelReset? resetNumber)
  else
    []

/-- The states that the annotations of an argument reset to.  The first argument is no
value of the parcel. -/
def parcelResets (resetNumber : Int) (index : Nat) (atom : VendorAtom) : List Int :=
  ((atom.valuesAnnotations.getD []).filterMap id).flatMap
    (setResets resetNumber ((index : Int) - 1))

section Parcels

variable {numbers : AnnotationNumbers} {decl : AtomDecl}

/-- The number of a reset is the number of no other annotation of the atom. -/
def DistinctReset (numbers : AnnotationNumbers) (decl : AtomDecl) : Prop :=
  ∀ entry ∈ annotationEntries decl, entry.2.annotationId ≠ .triggerStateReset →
    numbers.annotationId entry.2.annotationId ≠ numbers.annotationId .triggerStateReset

theorem parcelReset?_parcel {ann : Annotation} (direct : declaresState ann = false)
    (distinct : ann.annotationId ≠ .triggerStateReset →
      numbers.annotationId ann.annotationId ≠ numbers.annotationId .triggerStateReset) :
    parcelReset? (numbers.annotationId .triggerStateReset) (numbers.parcel ann) = none := by
  rcases ann with ⟨annotationId, atomId, value⟩
  cases value with
  | bool boolValue => rfl
  | int intValue =>
      apply if_neg
      apply distinct
      rintro isReset
      dsimp only at isReset
      subst isReset
      contradiction

theorem filterMap_fieldParcels (distinct : DistinctReset numbers decl) (fieldNumber : Int)
    (equals : Int → Bool) :
    (fieldParcels numbers decl fieldNumber equals).filterMap
        (parcelReset? (numbers.annotationId .triggerStateReset)) =
      stateResets (annotationsOf decl fieldNumber) equals := by
  rw [fieldParcels, List.filterMap_append, List.filterMap_map]
  have direct : (directAnnotations (annotationsOf decl fieldNumber)).filterMap
      (parcelReset? (numbers.annotationId .triggerStateReset) ∘ numbers.parcel) = [] := by
    rw [List.filterMap_eq_nil_iff]
    intro ann member
    apply parcelReset?_parcel
    · simpa using (List.mem_filter.mp member).2
    · exact distinct _ (mem_annotationEntries (List.mem_of_mem_filter member))
  rw [direct, List.nil_append, AnnotationNumbers.reset, stateResets]
  split
  · simp [parcelReset?]
  · rfl

/-- The resets of a set are among its annotations. -/
theorem setResets_eq (resetNumber valueIndex : Int) (annotationSet : AnnotationSetParcel) :
    setResets resetNumber valueIndex annotationSet =
      (setParcels valueIndex annotationSet).filterMap (parcelReset? resetNumber) := by
  rw [setResets, setParcels]
  split <;> rfl

/-- The parcel of an atom resets a value by the annotations of its field. -/
theorem parcelResets_vendorAtom (distinct : DistinctReset numbers decl) {name : String}
    {arguments : List Argument} {position : Nat} {argument : Argument}
    (found : arguments[position]? = some argument) :
    parcelResets (numbers.annotationId .triggerStateReset) (position + 1)
        (vendorAtom numbers decl name arguments) =
      stateResets (annotationsOf decl (1 + ((position + 1 : Nat) : Int))) argument.equals := by
  have valueIndex : ((position + 1 : Nat) : Int) - 1 = position := by omega
  have fieldNumber : 1 + ((position + 1 : Nat) : Int) = 2 + position := by omega
  have parcels := @valueParcels_vendorAtom numbers decl name arguments position argument found
  rw [← filterMap_fieldParcels distinct, fieldNumber, ← parcels, parcelResets, valueIndex,
    valueParcels, List.filterMap_flatMap]
  apply List.flatMap_congr
  intro annotationSet _
  exact setResets_eq _ _ _

end Parcels

end StatsLogApiGen.Writer
