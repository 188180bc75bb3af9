import StatsLogApiGen.Record.Event

/-!
# Parcels are records

The parcel that the vendor methods create for an atom holds the record of the message
that is logged, except for the labels of the reverse domain name, for which a parcel has
no place.
-/

namespace StatsLogApiGen.Record

open StatsLogApiGen.Container
open StatsLogApiGen.Format
open StatsLogApiGen.Proto
open StatsLogApiGen.Collation
open StatsLogApiGen.Writer
open StatsLogApiGen.Vendor

/-! ## Reading parcels -/

/-- The argument that a value carries. -/
def carried : VendorAtomValue → Argument
  | .intValue value => .int value
  | .longValue value => .long value
  | .floatValue bits => .float bits
  | .stringValue value => .string value
  | .boolValue value => .boolean value
  | .repeatedIntValue values => .intArray values
  | .repeatedLongValue values => .longArray values
  | .repeatedFloatValue values => .floatArray values
  | .repeatedStringValue values => .stringArray values
  | .repeatedBoolValue values => .booleanArray values
  | .byteArrayValue bytes => .byteArray bytes

/-- A value carries the argument it is made for; a chain has no value. -/
theorem exists_vendorValue {argument : Argument} (notChain : argument.type ≠ .attributionChain) :
    ∃ value, vendorValue argument = some value ∧ carried value = argument := by
  cases argument <;> first | exact absurd rfl notChain | exact ⟨_, rfl, rfl⟩

def parcelLabel (parcel : AnnotationParcel) : Label Int :=
  ⟨parcel.annotationId, parcel.value⟩

/-- The values of a parcel with the annotations that are for their index.  The reverse
domain name comes first and has no index. -/
def parcelValues (atom : VendorAtom) (name : String) (values : List VendorAtomValue) :
    List (Group Argument (Label Int)) :=
  (Argument.string name :: values.map carried).mapIdx fun index argument =>
    ⟨argument, (valueParcels ((index : Int) - 1) atom).map parcelLabel⟩

/-- What the reader of a parcel learns.  A value that is null is rejected. -/
def readParcel (atom : VendorAtom) : Option (AtomRecord Int) :=
  atom.reverseDomainName.bind fun name =>
    (atom.values.mapM id).map fun values =>
      { atom := ⟨atom.atomId, ((atom.atomAnnotations.getD []).filterMap id).map parcelLabel⟩
        values := parcelValues atom name values }

/-! ## Labels in a parcel -/

/-- A label with the numbers of a parcel. -/
def numberedLabel (numbers : AnnotationNumbers) (label : Label AnnotationId) : Label Int :=
  parcelLabel (numbers.parcel ⟨label.annotationId, 0, label.value⟩)

/-- What a parcel can hold of a record. -/
def parcelView (numbers : AnnotationNumbers) (record : AtomRecord AnnotationId) :
    AtomRecord Int where
  atom := record.atom.map (numberedLabel numbers)
  values := record.values.mapIdx fun index value =>
    if index = 0 then ⟨value.head, []⟩ else value.map (numberedLabel numbers)

section Labels

variable {numbers : AnnotationNumbers}

theorem reset_eq (annotations : List Annotation) (equals : Int → Bool) :
    (numbers.reset annotations equals).map parcelLabel =
      (stateResets annotations equals).map fun defaultState =>
        numberedLabel numbers ⟨.triggerStateReset, .int defaultState⟩ := by
  rw [AnnotationNumbers.reset, stateResets]
  split <;> rfl

/-- The annotations of a field are in the parcel as the labels that the options ask for. -/
theorem fieldParcels_decl (registration : Registration) {fieldNumber : Int}
    (noSentinel : NoSentinel
      (declRequests registration.atomField registration.atom fieldNumber))
    (equals : Int → Bool) :
    (fieldParcels numbers registration.decl fieldNumber equals).map parcelLabel =
      (labels (declRequests registration.atomField registration.atom fieldNumber)
        equals).map (numberedLabel numbers) := by
  rw [fieldParcels, annotationsOf_decl,
    labels_eq registration.atomField.number
      (integerStates_declRequests registration.atomField registration.atom fieldNumber) noSentinel,
    List.map_append, List.map_append, reset_eq, List.map_map, List.map_map, List.map_map]
  rfl

end Labels

/-! ## The parcel of an atom -/

section Parcel

variable {numbers : AnnotationNumbers} {registration : Registration} {message : MessageValue}
  {name : String} {rest : List Argument}

theorem mapM_values_vendorAtom {decl : AtomDecl}
    (noChain : ∀ argument ∈ rest, argument.type ≠ .attributionChain) :
    ∃ values, (vendorAtom numbers decl name rest).values.mapM id = some values ∧
      values.map carried = rest := by
  induction rest with
  | nil => exact ⟨[], rfl, rfl⟩
  | cons argument later ih =>
      obtain ⟨value, isValue, isCarried⟩ := exists_vendorValue (noChain argument List.mem_cons_self)
      obtain ⟨others, areOthers, areCarried⟩ :=
        ih fun other member => noChain other (List.mem_cons_of_mem _ member)
      refine ⟨value :: others, ?_, by rw [List.map_cons, isCarried, areCarried]⟩
      change ((vendorValue argument :: later.map vendorValue).mapM id) = _
      rw [List.mapM_cons, isValue]
      change ((later.map vendorValue).mapM id).bind _ = _
      rw [show (later.map vendorValue).mapM id = some others from areOthers]
      rfl

variable (fits : Fits message registration.atom) (keeps : KeepsStates registration.atom)

include fits keeps

/-- A value of the parcel has the labels of its field, and the reverse domain name has
none. -/
theorem parcelValues_vendorAtom
    (arguments : callArguments registration.atom message = .string name :: rest)
    {values : List VendorAtomValue} (areCarried : values.map carried = rest) :
    parcelValues (vendorAtom numbers registration.decl name rest) name values =
      (parcelView numbers
        (recordOf registration.atomField registration.atom message)).values := by
  rw [parcelValues, areCarried, ← arguments]
  apply List.ext_getElem?
  intro index
  simp only [callArguments, parcelView, recordOf, List.getElem?_mapIdx, List.getElem?_map,
    Option.map_map]
  cases found : (sortedFields registration.atom)[index]? with
  | none => rfl
  | some field =>
      have isArgument : (Argument.string name :: rest)[index]? = some (message field.number) := by
        rw [← arguments, callArguments, List.getElem?_map, found]
        rfl
      have noSentinel := noSentinel_field keeps found
      have labelsEq := labels_field fits keeps found
      cases index with
      | zero =>
          have noLabels := @valueParcels_vendorAtom_neg numbers registration.decl name rest
            (((0 : Nat) : Int) - 1) (by decide)
          simp only [Option.map_some, Function.comp_apply, noLabels]
          rfl
      | succ position =>
          rw [List.getElem?_cons_succ] at isArgument
          have labelled :=
            @valueParcels_vendorAtom numbers registration.decl name rest _ _ isArgument
          have valueIndex : ((position + 1 : Nat) : Int) - 1 = position := by omega
          have fieldNumber : 2 + (position : Int) = 1 + ((position + 1 : Nat) : Int) := by omega
          rw [fieldNumber] at labelled
          simp only [Option.map_some, Function.comp_apply, valueIndex, labelled,
            fieldParcels_decl registration noSentinel, labelsEq, Nat.succ_ne_zero, if_false]
          rfl

/-- The parcel of an atom is read as what it can hold of the record of its message. -/
theorem readParcel_vendorAtom
    (arguments : callArguments registration.atom message = .string name :: rest)
    (noChain : ∀ argument ∈ rest, argument.type ≠ .attributionChain) :
    readParcel (vendorAtom numbers registration.decl name rest) =
      some (parcelView numbers
        (recordOf registration.atomField registration.atom message)) := by
  obtain ⟨values, areValues, areCarried⟩ :=
    @mapM_values_vendorAtom numbers name rest registration.decl noChain
  have atomLabels :
      (((vendorAtom numbers registration.decl name rest).atomAnnotations.getD
        []).filterMap id).map parcelLabel =
      (labels (atomRequests registration.atomField.options) fun _ => false).map
        (numberedLabel numbers) := by
    rw [vendorAtom, filterMap_presentUnlessEmpty,
      fieldParcels_decl registration (noSentinel_atomId registration), declRequests_atomId]
  have isId : (vendorAtom numbers registration.decl name rest).atomId =
      registration.atomField.number :=
    registration.decl_code
  rw [readParcel, areValues, atomLabels, isId]
  change some (AtomRecord.mk _ (parcelValues _ name values)) = _
  rw [parcelValues_vendorAtom fits keeps arguments areCarried]
  rfl

end Parcel

end StatsLogApiGen.Record
