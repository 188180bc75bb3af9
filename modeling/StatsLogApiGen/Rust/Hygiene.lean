import Mathlib.Tactic.MkIffOfInductiveProp
import StatsLogApiGen.Program.Scope
import StatsLogApiGen.Rust.Run
import StatsLogApiGen.Writer.StateReset

/-!
# Hygiene of Rust functions

The fields of an atom become parameters of its function, next to variables that the
function declares itself.  This file reads the body of a function as Rust does, where a
name stands for what was declared last, and says for which field names every reference is
to the parameter of its own field.
-/

namespace StatsLogApiGen.Rust

open Std
open StatsLogApiGen.Container
open StatsLogApiGen.Proto
open StatsLogApiGen.Collation
open StatsLogApiGen.Program
open StatsLogApiGen.Writer

/-! ## Mentions -/

/-- The identifier of a variable.  A raw identifier is the one after `r#`. -/
def identifier (text : String) : String :=
  match text.toList with
  | 'r' :: '#' :: rest => String.ofList rest
  | _ => text

def Name.identifier (name : Name) : String :=
  Rust.identifier name.text

/-- A reference to a parameter. -/
def Name.refer (name : Name) : Mention String Variable :=
  .refer name.identifier (.parameter name.reads)

/-- A reference to a variable that holds what was made from a parameter. -/
def Name.referConverted (name : Name) (variableName : String) : Mention String Variable :=
  .refer variableName (.binding (some name.reads))

/-- Every call is on `__event`, which holds no argument. -/
def referEvent : Mention String Variable :=
  .refer "__event" (.binding none)

/-- The variables in what is printed for a call. -/
def EventCall.mentions : EventCall → List (Mention String Variable)
  | .setAtomId _ | .addAnnotationInt32 _ _ | .addAnnotationBool _ _ => [referEvent]
  | .writeAttributionChain uids tags =>
      [uids.refer, .bind "uids" (some uids.identifier),
        tags.refer, .bind "str_arr" (some tags.identifier),
        tags.referConverted "str_arr", .bind "ptr_arr" (some "str_arr"),
        referEvent, uids.referConverted "uids", tags.referConverted "ptr_arr", uids.refer]
  | .writeByteArray field => [referEvent, field.refer, field.refer]
  | .writeBool field | .writeInt32 field _ | .writeFloat field | .writeInt64 field =>
      [referEvent, field.refer]
  | .writeString field =>
      [field.refer, .bind "str" (some field.identifier), referEvent, field.referConverted "str"]

/-- The variables in a comparison.  Nothing is known about the text that is printed past the
fields, and no declared name is empty. -/
def Condition.mentions : Condition → List (Mention String Variable)
  | .fieldIs field _ _ => [field.refer]
  | .outOfRange => [.refer "" (.binding none)]

/-- The variables in a body. -/
def wording : Wording Condition EventCall String Variable where
  condition := Condition.mentions
  call := EventCall.mentions

/-- The list of events of a pulled atom. -/
def pulledDataName : Name :=
  ⟨"pulled_data_", .pulledData⟩

/-- The start of a body. -/
def openingMentions : AtomType → List (Mention String Variable)
  | .pushed => [.bind "__event" none, referEvent, .bind "__dropper" none]
  | .pulled => [pulledDataName.refer, .bind "__event" none]

/-- The end of a body.  A pushed event is written, and the result is looked at twice. -/
def closingMentions : AtomType → List (Mention String Variable)
  | .pushed =>
      let result : Mention String Variable := .refer "__ret" (.binding none)
      [referEvent, .bind "__ret" none, result, result]
  | .pulled => [referEvent]

/-- The references in a body with an event. -/
def eventReferences (scope : Scope String Variable) (atomType : AtomType)
    (code : List (Code Condition EventCall)) : List (Reference Variable) :=
  let opened := scope.after (openingMentions atomType)
  scope.references (openingMentions atomType) ++
    (Code.block code).references wording opened ++
      ((Code.block code).scopeAfter wording opened).references (closingMentions atomType)

/-- The variables in an argument of a call. -/
def Expression.mentions : Expression → List (Mention String Variable)
  | .name passed | .slice passed => [passed.refer]
  | .selfField _ | .empty => []

/-- The references in a body. -/
def Body.references (scope : Scope String Variable) : Body → List (Reference Variable)
  | .pushed code => eventReferences scope .pushed code
  | .pulled code => eventReferences scope .pulled code
  | .forward call => scope.references (call.arguments.flatMap Expression.mentions)

/-- The scope of the parameters of a function. -/
def Function.scope (function : Function) : Scope String Variable :=
  function.parameters.map fun parameter =>
    (parameter.name.identifier, .parameter parameter.name.reads)

/-- The parameters of a function have different identifiers, and every reference in its body
is to what it is meant to be. -/
structure Hygienic (function : Function) : Prop where
  distinct : (function.scope.map Prod.fst).Nodup
  resolves : AllResolve (function.body.references function.scope)

instance (function : Function) : Decidable (Hygienic function) :=
  decidable_of_iff (_ ∧ _)
    ⟨fun both => ⟨both.1, both.2⟩, fun hygienic => ⟨hygienic.distinct, hygienic.resolves⟩⟩

/-! ## Names that stay apart -/

/-- The identifier of a field.  The four keywords that no raw identifier can be get an
underscore. -/
def fieldIdentifier (atomField : AtomField) : String :=
  if atomField.name ∈ ["crate", "self", "super", "Self"] then
    makeSnakeCaseName atomField.name ++ "_"
  else
    makeSnakeCaseName atomField.name

/-- The fields that have a parameter of their own. -/
def argumentFields (decl : AtomDecl) : List AtomField :=
  decl.fields.filter fun atomField => atomField.javaType ≠ .attributionChain

/-- The parameters before those of the argument fields. -/
def leadingParameters (decl : AtomDecl) : List String :=
  (if decl.atomType = .pulled then ["pulled_data_"] else []) ++
    if .attributionChain ∈ decl.signature then ["uid_chain_", "tag_chain_"] else []

/-- The variables that are declared before the event gets its id. -/
def openingBindings : AtomType → List String
  | .pushed => ["__dropper", "__event"]
  | .pulled => ["__event"]

/-- The variables that are declared before the first argument field is written. -/
def leadingBindings (decl : AtomDecl) : List String :=
  (if .attributionChain ∈ decl.signature then ["ptr_arr", "str_arr", "uids"] else []) ++
    openingBindings decl.atomType

/-- The fields of an atom have names that stay apart from each other and from the variables
of the function. -/
@[mk_iff]
structure NamesApart (decl : AtomDecl) : Prop where
  distinct : ((argumentFields decl).map fieldIdentifier).Nodup
  parameters : ∀ atomField ∈ argumentFields decl,
    fieldIdentifier atomField ∉ leadingParameters decl
  bindings : ∀ atomField ∈ argumentFields decl,
    fieldIdentifier atomField ∉ leadingBindings decl
  strings : decl.fields.Pairwise fun earlier later =>
    earlier.javaType = .string → fieldIdentifier later ≠ "str"
  resets : ∀ (index : Nat) atomField, decl.fields[index]? = some atomField →
    atomField.javaType = .string → fieldIdentifier atomField = "str" →
      ¬HasReset (annotationsOf decl (1 + index))

/-! ## Identifiers -/

theorem identifier_raw (text : String) : identifier ("r#" ++ text) = text := by
  simp [identifier]

/-- A field has the identifier of the parameter that is named after it. -/
theorem identifier_getVariableName (atomField : AtomField) :
    identifier (getVariableName atomField.name) = fieldIdentifier atomField := by
  have listed : (atomField.name = "crate" ∨ atomField.name = "self" ∨ atomField.name = "super" ∨
      atomField.name = "Self") ↔ atomField.name ∈ ["crate", "self", "super", "Self"] := by
    simp
  rw [getVariableName, fieldIdentifier]
  by_cases keyword : atomField.name ∈ ["crate", "self", "super", "Self"]
  · rw [if_pos (listed.mpr keyword), if_pos keyword]
    rcases listed.mpr keyword with named | named | named | named <;> rw [named] <;> decide
  · rw [if_neg (mt listed.mp keyword), if_neg keyword, identifier_raw]

/-! ## Parameters -/

section Declared

variable {decl : AtomDecl} {fields : List AtomField}

/-- Only the first field of an accepted atom can be a chain. -/
theorem fields_cases (accepted : AcceptedSignature decl.signature) :
    (.attributionChain ∉ decl.signature ∧
      ∀ atomField ∈ decl.fields, atomField.javaType ≠ .attributionChain) ∨
    .attributionChain ∈ decl.signature ∧ ∃ chain rest, decl.fields = chain :: rest ∧
      chain.javaType = .attributionChain ∧
      ∀ atomField ∈ rest, atomField.javaType ≠ .attributionChain := by
  have isChain {atomField : AtomField} (type : atomField.javaType = .attributionChain) :
      lowered atomField.javaType = .attributionChain := by
    rw [type]
    rfl
  cases split : decl.fields with
  | nil => exact Or.inl ⟨by simp [AtomDecl.signature, split], nofun⟩
  | cons first rest =>
      have restArguments : ∀ atomField ∈ rest, atomField.javaType ≠ .attributionChain := by
        intro atomField member type
        have isArgument := accepted.tail (lowered atomField.javaType) (by
          rw [AtomDecl.signature, split]
          exact List.mem_map_of_mem member)
        rw [isChain type] at isArgument
        exact isArgument
      by_cases type : first.javaType = .attributionChain
      · right
        refine ⟨?_, first, rest, rfl, type, restArguments⟩
        rw [AtomDecl.signature, split, List.map_cons, isChain type]
        exact List.mem_cons_self
      · left
        have all : ∀ atomField ∈ first :: rest, atomField.javaType ≠ .attributionChain :=
          List.forall_mem_cons.mpr ⟨type, restArguments⟩
        refine ⟨?_, all⟩
        rw [AtomDecl.signature, split, List.mem_map]
        rintro ⟨atomField, member, isChain⟩
        apply all atomField member
        cases stored : atomField.javaType <;> rw [stored] at isChain <;> cases isChain

/-- The fields after a chain are passed under their own identifiers. -/
theorem signatureParameters_identifiers
    (areArguments : ∀ atomField ∈ fields, atomField.javaType ≠ .attributionChain)
    (argIndex : Int) :
    (signatureParameters attributionDecl false argIndex fields).map
        (fun parameter => parameter.name.identifier) = fields.map fieldIdentifier := by
  induction fields generalizing argIndex with
  | nil => rfl
  | cons first rest ih =>
      rw [List.forall_mem_cons] at areArguments
      rw [signatureParameters, fieldParameters, if_neg areArguments.1, List.map_append,
        ih areArguments.2, List.map_cons]
      exact congrArg (· :: _) (identifier_getVariableName first)

theorem argumentFields_eq_self
    (areArguments : ∀ atomField ∈ decl.fields, atomField.javaType ≠ .attributionChain) :
    argumentFields decl = decl.fields := by
  rw [argumentFields, List.filter_eq_self]
  simpa using areArguments

theorem argumentFields_of_chain {chain : AtomField} {rest : List AtomField}
    (split : decl.fields = chain :: rest) (isChain : chain.javaType = .attributionChain)
    (areArguments : ∀ atomField ∈ rest, atomField.javaType ≠ .attributionChain) :
    argumentFields decl = rest := by
  rw [argumentFields, split, List.filter_cons_of_neg (by simpa using isChain),
    List.filter_eq_self]
  simpa using areArguments

/-- The identifiers of the parameters of a function. -/
theorem signature_identifiers (accepted : AcceptedSignature decl.signature) :
    (writeRustMethodSignature attributionDecl decl false).map
        (fun parameter => parameter.name.identifier) =
      leadingParameters decl ++ (argumentFields decl).map fieldIdentifier := by
  have pulled : (if decl.atomType = .pulled then
      [(⟨.named "&mut AStatsEventList", ⟨"pulled_data_", .pulledData⟩⟩ : Parameter)]
        else []).map (fun parameter => parameter.name.identifier) =
      if decl.atomType = .pulled then ["pulled_data_"] else [] := by
    split <;> rfl
  rw [writeRustMethodSignature, List.map_append, pulled, leadingParameters]
  rcases fields_cases accepted with ⟨noChain, areArguments⟩ |
    ⟨hasChain, chain, rest, split, isChain, areArguments⟩
  · rw [if_neg noChain, List.append_nil, argumentFields_eq_self areArguments,
      signatureParameters_identifiers areArguments]
  · rw [if_pos hasChain, argumentFields_of_chain split isChain areArguments, split,
      signatureParameters, List.map_append, signatureParameters_identifiers areArguments,
      fieldParameters, if_pos isChain, List.append_assoc]
    rfl

/-- The name of a field is among the parameters. -/
theorem mem_signatureParameters {index : Nat} {atomField : AtomField}
    (found : fields[index]? = some atomField) (notChain : atomField.javaType ≠ .attributionChain)
    (argIndex : Int) :
    fieldName (argIndex + index) atomField ∈
      (signatureParameters attributionDecl false argIndex fields).map Parameter.name := by
  induction fields generalizing index argIndex with
  | nil => cases found
  | cons first rest ih =>
      rw [signatureParameters, List.map_append, List.mem_append]
      cases index with
      | zero =>
          left
          rw [List.getElem?_cons_zero, Option.some.injEq] at found
          rw [found, fieldParameters, if_neg notChain, Int.natCast_zero, Int.add_zero]
          exact List.mem_singleton_self _
      | succ index =>
          right
          rw [List.getElem?_cons_succ] at found
          have later := ih found (argIndex + 1)
          rwa [show argIndex + 1 + (index : Int) = argIndex + (index + 1 : Nat) by omega] at later

/-- Parameters with different identifiers are found in the scope of a function. -/
theorem lookup_scope {function : Function} {name : Name}
    (distinct : (function.scope.map Prod.fst).Nodup)
    (member : name ∈ function.parameters.map Parameter.name) :
    function.scope.lookup name.identifier = some (.parameter name.reads) := by
  rcases List.mem_map.mp member with ⟨parameter, listed, rfl⟩
  exact lookup_eq_some_of_mem distinct (List.mem_map_of_mem listed)

/-- What the scope of a function declares when the identifiers differ. -/
structure Declares (declared : Scope String Variable) (decl : AtomDecl) : Prop where
  fields : ∀ (index : Nat) atomField, decl.fields[index]? = some atomField →
    atomField.javaType ≠ .attributionChain →
      declared.lookup (fieldIdentifier atomField) = some (.parameter (.arg (1 + index)))
  chain : .attributionChain ∈ decl.signature →
    declared.lookup "uid_chain_" = some (.parameter (.chain "uid")) ∧
      declared.lookup "tag_chain_" = some (.parameter (.chain "tag"))
  pulledData : decl.atomType = .pulled →
    declared.lookup "pulled_data_" = some (.parameter .pulledData)

theorem declares_scope (accepted : AcceptedSignature decl.signature) {function : Function}
    (parameters : function.parameters = writeRustMethodSignature attributionDecl decl false)
    (distinct : (function.scope.map Prod.fst).Nodup) : Declares function.scope decl := by
  constructor
  · intro index atomField found notChain
    have listed : fieldName (1 + index) atomField ∈ function.parameters.map Parameter.name := by
      rw [parameters, writeRustMethodSignature, List.map_append]
      exact List.mem_append_right _ (mem_signatureParameters found notChain 1)
    have isDeclared := lookup_scope distinct listed
    rwa [Name.identifier, fieldName, identifier_getVariableName] at isDeclared
  · intro hasChain
    rcases fields_cases accepted with ⟨noChain, -⟩ | ⟨-, chain, rest, split, isChain, -⟩
    · exact absurd hasChain noChain
    · have listed : ∀ name ∈ [chainName "uid", chainName "tag"],
          name ∈ function.parameters.map Parameter.name := by
        intro name member
        rw [parameters, writeRustMethodSignature, List.map_append, split, signatureParameters,
          List.map_append, fieldParameters, if_pos isChain]
        exact List.mem_append_right _ (List.mem_append_left _ member)
      rw [List.forall_mem_cons, List.forall_mem_singleton] at listed
      exact ⟨lookup_scope distinct listed.1, lookup_scope distinct listed.2⟩
  · intro pulled
    have listed : pulledDataName ∈ function.parameters.map Parameter.name := by
      rw [parameters, writeRustMethodSignature, if_pos pulled]
      exact List.mem_cons_self
    exact lookup_scope distinct listed

end Declared

/-! ## Statements -/

section Statements

variable {declared scope : Scope String Variable} {bound : List String} {decl : AtomDecl}
  {atomField : AtomField} {argIndex : Int} {constants : AnnotationIdConstants}

/-- The scope inside a body, where `__event` is declared and further variables are. -/
structure Inside (declared : Scope String Variable) (bound : List String)
    (scope : Scope String Variable) : Prop where
  extended : Extends declared bound scope
  event : scope.lookup "__event" = some (.binding none)

theorem Inside.bind (inside : Inside declared bound scope) {variableName : String}
    (notEvent : variableName ≠ "__event") (value : Option String) :
    Inside declared (variableName :: bound) (scope.bind variableName value) := by
  constructor
  · exact inside.extended.bind variableName value
  · rw [Scope.bind, List.lookup_cons, beq_false_of_ne (Ne.symm notEvent)]
    exact inside.event

/-- The variables that are hidden after a field. -/
def boundAfter (atomField : AtomField) (bound : List String) : List String :=
  if atomField.javaType = .string then "str" :: bound else bound

/-- A call that passes a field on refers to it, once or twice. -/
theorem allResolve_refer (inside : Inside declared bound scope) (field : Name) (more : Bool) :
    AllResolve (scope.references
      (referEvent :: field.refer :: if more then [field.refer] else [])) ↔
      scope.lookup field.identifier = some (.parameter field.reads) := by
  cases more <;> simp [Scope.references, referEvent, Name.refer, inside.event]

/-- A string is converted into a new variable, and passed on from there. -/
theorem allResolve_writeString (inside : Inside declared bound scope) (field : Name) :
    AllResolve (scope.references (EventCall.writeString field).mentions) ↔
      scope.lookup field.identifier = some (.parameter field.reads) := by
  have converted : (scope.bind "str" (some field.identifier)).lookup "str" =
      some (.binding (scope.source field.identifier)) := by
    rw [Scope.bind, List.lookup_cons, beq_self_eq_true]
    rfl
  have event : (scope.bind "str" (some field.identifier)).lookup "__event" =
      some (.binding none) :=
    (inside.bind (by decide) _).event
  simp only [EventCall.mentions, Name.refer, Name.referConverted, referEvent, Scope.references,
    allResolve_cons, allResolve_nil, converted, event, and_true, true_and, Option.some.injEq,
    Declaration.binding.injEq]
  constructor
  · exact fun both => both.1
  · intro isParameter
    exact ⟨isParameter, by rw [Scope.source, isParameter]; rfl⟩

/-- What is printed for a field refers to its parameter exactly when no variable hides it. -/
theorem allResolve_writeField (inside : Inside declared bound scope)
    (isDeclared : declared.lookup (fieldIdentifier atomField) =
      some (.parameter (.arg argIndex)))
    (notChain : atomField.javaType ≠ .attributionChain)
    {written : List (Code Condition EventCall)}
    (isWritten : writeField attributionDecl argIndex atomField = .ok written) :
    (AllResolve ((Code.block written).references wording scope) ↔
      fieldIdentifier atomField ∉ bound) ∧
    Inside declared (boundAfter atomField bound)
      ((Code.block written).scopeAfter wording scope) := by
  have isIdentifier : (fieldName argIndex atomField).identifier = fieldIdentifier atomField :=
    identifier_getVariableName atomField
  rw [← isIdentifier] at isDeclared
  rw [← isIdentifier, ← inside.extended.lookup_parameter_iff isDeclared]
  rcases atomField with ⟨name, javaType, enumValues, enumTypeName⟩
  cases javaType with
  | attributionChain => exact absurd rfl notChain
  | string =>
      cases isWritten
      rw [references_block_call]
      exact ⟨allResolve_writeString inside _, inside.bind (by decide) _⟩
  | byteArray =>
      cases isWritten
      rw [references_block_call]
      exact ⟨allResolve_refer inside _ true, inside⟩
  | boolean | int | long | float | enum =>
      cases isWritten
      rw [references_block_call]
      exact ⟨allResolve_refer inside _ false, inside⟩
  | _ => cases isWritten

theorem settled_event (inside : Inside declared bound scope) : scope.Settled [referEvent] :=
  ⟨rfl, allResolve_cons.mpr ⟨inside.event, allResolve_nil⟩⟩

/-- What is printed for annotations mentions arguments in the comparison for the reset only. -/
theorem allResolve_annotationSet (inside : Inside declared bound scope)
    (isState : Int → Condition) (annotations : AnnotationSet) :
    (Code.block (writeAnnotationSet annotationTemplates constants isState
      annotations)).scopeAfter wording scope = scope ∧
    (AllResolve ((Code.block (writeAnnotationSet annotationTemplates constants isState
      annotations)).references wording scope) ↔
        (HasReset (elements annotations) → AllResolve (scope.references
          (isState (declaredState .triggerStateReset (elements annotations))).mentions))) := by
  have annotates : annotationTemplates.All fun call => scope.Settled (wording.call call) := by
    constructor <;> intro constant value <;> exact settled_event inside
  have direct := settled_block_calls fun ann (_ : ann ∈ directAnnotations (elements annotations)) =>
    annotates.print constants ann
  rw [writeAnnotationSet_eq, scopeAfter_block_append, references_block_append, allResolve_append,
    direct.1, and_iff_right direct.2]
  split
  · rename_i hasReset
    constructor
    · rfl
    · rw [forall_prop_of_true hasReset]
      change AllResolve (_ ++ _ ++ []) ↔ _
      rw [List.append_nil, allResolve_append]
      exact and_iff_left (annotates.reset _ _).resolves
  · rename_i noReset
    exact ⟨rfl, iff_of_true allResolve_nil fun hasReset => absurd hasReset noReset⟩

/-- The same for the annotations of a field of an atom. -/
theorem allResolve_writeAnnotations (inside : Inside declared bound scope)
    (constants : AnnotationIdConstants) (decl : AtomDecl) (argIndex : Int) :
    (Code.block (writeAnnotations constants decl argIndex)).scopeAfter wording scope = scope ∧
    (AllResolve ((Code.block (writeAnnotations constants decl argIndex)).references wording scope) ↔
      (HasReset (annotationsOf decl argIndex) → AllResolve (scope.references (stateCondition decl
        argIndex (declaredState .triggerStateReset (annotationsOf decl argIndex))).mentions))) := by
  rw [writeAnnotations, annotationsOf]
  cases stored : decl.fieldNumberToAnnotations[argIndex]? with
  | none =>
      have noReset : ¬HasReset (elements (∅ : AnnotationSet)) := by decide
      exact ⟨rfl, iff_of_true allResolve_nil fun hasReset => absurd hasReset noReset⟩
  | some annotations => exact allResolve_annotationSet inside _ annotations

/-- The comparison of a field with a state refers to its parameter. -/
theorem allResolve_stateCondition {index : Nat}
    (found : decl.fields[index]? = some atomField) (state : Int) :
    AllResolve (scope.references (stateCondition decl (1 + index) state).mentions) ↔
      scope.lookup (fieldIdentifier atomField) = some (.parameter (.arg (1 + index))) := by
  have position : (1 + (index : Int) - 1).toNat = index := by omega
  rw [stateCondition, if_neg (by omega), position, found, ← identifier_getVariableName]
  exact allResolve_cons.trans (and_iff_left allResolve_nil)

end Statements

/-! ## The loop over the fields -/

section Loop

variable {declared scope : Scope String Variable} {bound : List String} {decl : AtomDecl}
  {atomField : AtomField} {fields : List AtomField} {start : Nat}
  {constants : AnnotationIdConstants} {code : List (Code Condition EventCall)}

/-- The fields from an index on have names that stay apart from the bound variables and from
the one for strings. -/
@[mk_iff]
structure KeepApart (decl : AtomDecl) (bound : List String) (start : Nat)
    (fields : List AtomField) : Prop where
  bindings : ∀ atomField ∈ fields, fieldIdentifier atomField ∉ bound
  strings : fields.Pairwise fun earlier later =>
    earlier.javaType = .string → fieldIdentifier later ≠ "str"
  resets : ∀ (index : Nat) atomField, fields[index]? = some atomField →
    atomField.javaType = .string → fieldIdentifier atomField = "str" →
      ¬HasReset (annotationsOf decl (1 + (start + index : Nat)))

@[simp]
theorem notMem_boundAfter_iff {name : String} :
    name ∉ boundAfter atomField bound ↔
      name ∉ bound ∧ (atomField.javaType = .string → name ≠ "str") := by
  rw [boundAfter]
  split
  · rename_i isString
    simp [isString, and_comm]
  · rename_i notString
    simp [notString]

theorem keepApart_cons_iff {rest : List AtomField} :
    KeepApart decl bound start (atomField :: rest) ↔
      fieldIdentifier atomField ∉ bound ∧
      (HasReset (annotationsOf decl (1 + start)) →
        fieldIdentifier atomField ∉ boundAfter atomField bound) ∧
      KeepApart decl (boundAfter atomField bound) (start + 1) rest := by
  constructor
  · intro apart
    have bindings := List.forall_mem_cons.mp apart.bindings
    have strings := List.pairwise_cons.mp apart.strings
    refine ⟨bindings.1, ?_, ?_, strings.2, ?_⟩
    · intro hasReset
      apply notMem_boundAfter_iff.mpr
      exact ⟨bindings.1, fun isString isStr => apart.resets 0 atomField rfl isString isStr hasReset⟩
    · intro later member
      exact notMem_boundAfter_iff.mpr ⟨bindings.2 later member, strings.1 later member⟩
    · intro index later found
      rw [Nat.add_right_comm]
      exact apart.resets (index + 1) later found
  · rintro ⟨unbound, noReset, rest⟩
    have later := fun other member => notMem_boundAfter_iff.mp (rest.bindings other member)
    constructor
    · exact List.forall_mem_cons.mpr ⟨unbound, fun other member => (later other member).1⟩
    · exact List.pairwise_cons.mpr ⟨fun other member => (later other member).2, rest.strings⟩
    · intro index other found isString isStr
      cases index with
      | zero =>
          cases found
          intro hasReset
          exact (notMem_boundAfter_iff.mp (noReset hasReset)).2 isString isStr
      | succ index =>
          have noLaterReset := rest.resets index other found isString isStr
          rwa [Nat.add_right_comm] at noLaterReset

/-- The loop over argument fields refers to their parameters exactly when the names stay
apart. -/
theorem allResolve_writeArguments (declares : Declares declared decl)
    (areArguments : ∀ atomField ∈ fields, atomField.javaType ≠ .attributionChain)
    (placed : ∀ index : Nat, fields[index]? = decl.fields[start + index]?)
    (inside : Inside declared bound scope)
    (printed : writeArguments (writeField attributionDecl) (writeAnnotations constants decl)
      (1 + start) fields = .ok code) :
    (∃ boundAtEnd, Inside declared boundAtEnd ((Code.block code).scopeAfter wording scope)) ∧
    (AllResolve ((Code.block code).references wording scope) ↔
      KeepApart decl bound start fields) := by
  induction fields generalizing scope bound start code with
  | nil =>
      cases printed
      exact ⟨⟨bound, inside⟩, iff_of_true allResolve_nil ⟨nofun, List.Pairwise.nil, nofun⟩⟩
  | cons atomField rest ih =>
      rcases writeArguments_cons_eq_ok printed with
        ⟨written, later, isWritten, laterPrinted, rfl⟩
      rw [List.forall_mem_cons] at areArguments
      have found : decl.fields[start]? = some atomField := (placed 0).symm
      have isDeclared := declares.fields start atomField found areArguments.1
      rcases allResolve_writeField inside isDeclared areArguments.1 isWritten with
        ⟨fieldResolves, insideField⟩
      have annotations := allResolve_writeAnnotations insideField constants decl (1 + start)
      rw [allResolve_stateCondition found,
        insideField.extended.lookup_parameter_iff isDeclared] at annotations
      have restPlaced : ∀ index : Nat, rest[index]? = decl.fields[start + 1 + index]? := by
        intro index
        rw [Nat.add_assoc, Nat.add_comm 1]
        exact placed (index + 1)
      have next : (1 + start : Int) + 1 = 1 + (start + 1 : Nat) := by omega
      rw [next] at laterPrinted
      have laterLoop := ih areArguments.2 restPlaced insideField laterPrinted
      rw [scopeAfter_block_append, scopeAfter_block_append, references_block_append,
        references_block_append, allResolve_append, allResolve_append, fieldResolves,
        scopeAfter_block_append, annotations.1, annotations.2, laterLoop.2, keepApart_cons_iff,
        and_assoc]
      exact ⟨laterLoop.1, Iff.rfl⟩

end Loop

/-! ## Bodies -/

section Bodies

variable {declared scope : Scope String Variable} {bound : List String} {decl : AtomDecl}
  {constants : AnnotationIdConstants} {minApiLevel : Int} {code : List (Code Condition EventCall)}

theorem inside_event (declared : Scope String Variable) :
    Inside declared ["__event"] (declared.bind "__event" none) := by
  constructor
  · exact (extends_self declared).bind "__event" none
  · rw [Scope.bind, List.lookup_cons, beq_self_eq_true]
    rfl

/-- A body starts with the declaration of `__event`. -/
theorem inside_opening (declares : Declares declared decl) :
    AllResolve (declared.references (openingMentions decl.atomType)) ∧
    Inside declared (openingBindings decl.atomType)
      (declared.after (openingMentions decl.atomType)) := by
  have inside := inside_event declared
  cases kind : decl.atomType with
  | pushed => exact ⟨(settled_event inside).resolves, inside.bind (by decide) none⟩
  | pulled => exact ⟨allResolve_cons.mpr ⟨declares.pulledData kind, allResolve_nil⟩, inside⟩

theorem allResolve_closing (inside : Inside declared bound scope) (atomType : AtomType) :
    AllResolve (scope.references (closingMentions atomType)) := by
  cases atomType with
  | pushed =>
      have result : (scope.bind "__ret" none).lookup "__ret" = some (.binding none) := by
        rw [Scope.bind, List.lookup_cons, beq_self_eq_true]
        rfl
      simp [closingMentions, Scope.references, referEvent, inside.event, result]
  | pulled => exact (settled_event inside).resolves

/-- A chain is converted into three new variables. -/
theorem allResolve_writeAttributionChain (inside : Inside declared bound scope)
    (uidsFound : scope.lookup "uid_chain_" = some (.parameter (.chain "uid")))
    (tagsFound : scope.lookup "tag_chain_" = some (.parameter (.chain "tag"))) :
    AllResolve ((Code.block [.call
      (.writeAttributionChain (chainName "uid") (chainName "tag"))]).references wording scope) ∧
    Inside declared ("ptr_arr" :: "str_arr" :: "uids" :: bound) ((Code.block [.call
      (.writeAttributionChain (chainName "uid") (chainName "tag"))]).scopeAfter wording scope) := by
  have uids : (chainName "uid").identifier = "uid_chain_" := by decide
  have tags : (chainName "tag").identifier = "tag_chain_" := by decide
  have readsUids : (chainName "uid").reads = .chain "uid" := rfl
  have readsTags : (chainName "tag").reads = .chain "tag" := rfl
  constructor
  · rw [references_block_call]
    simp [wording, EventCall.mentions, Name.refer, Name.referConverted, referEvent, uids, tags,
      readsUids, readsTags, Scope.references, Scope.bind, Scope.source, List.lookup_cons,
      uidsFound, tagsFound, inside.event, Declaration.source]
  · have insideUids := inside.bind (by decide : "uids" ≠ "__event") (some "uid_chain_")
    have insideTags := insideUids.bind (by decide : "str_arr" ≠ "__event") (some "tag_chain_")
    exact insideTags.bind (by decide : "ptr_arr" ≠ "__event") (some "str_arr")

/-- The position of the first argument field. -/
def firstArgument (decl : AtomDecl) : Nat :=
  if .attributionChain ∈ decl.signature then 1 else 0

/-- The loop over all fields refers to their parameters exactly when the names of the
argument fields stay apart from each other and from the variables of a chain. -/
theorem allResolve_fields (accepted : AcceptedSignature decl.signature)
    (noReset : .attributionChain ∈ decl.signature → ¬HasReset (annotationsOf decl 1))
    (declares : Declares declared decl)
    (inside : Inside declared (openingBindings decl.atomType) scope)
    (printed : writeArguments (writeField attributionDecl) (writeAnnotations constants decl) 1
      decl.fields = .ok code) :
    (∃ boundAtEnd, Inside declared boundAtEnd ((Code.block code).scopeAfter wording scope)) ∧
    (AllResolve ((Code.block code).references wording scope) ↔
      KeepApart decl (leadingBindings decl) (firstArgument decl) (argumentFields decl)) := by
  rcases fields_cases accepted with ⟨noChain, areArguments⟩ |
    ⟨hasChain, chain, rest, split, isChain, areArguments⟩
  · rw [leadingBindings, if_neg noChain, List.nil_append, firstArgument, if_neg noChain,
      argumentFields_eq_self areArguments]
    apply allResolve_writeArguments declares areArguments _ inside printed
    intro index
    rw [Nat.zero_add]
  · rw [leadingBindings, if_pos hasChain, firstArgument, if_pos hasChain,
      argumentFields_of_chain split isChain areArguments]
    rw [split] at printed
    rcases writeArguments_cons_eq_ok printed with ⟨written, later, isWritten, laterPrinted, rfl⟩
    have isCall : written =
        [.call (.writeAttributionChain (chainName "uid") (chainName "tag"))] := by
      rcases chain with ⟨name, javaType, enumValues, enumTypeName⟩
      cases isChain
      cases isWritten
      rfl
    subst isCall
    have unhidden : "uid_chain_" ∉ openingBindings decl.atomType ∧
        "tag_chain_" ∉ openingBindings decl.atomType := by
      cases decl.atomType <;> decide
    have chainDeclared := declares.chain hasChain
    rcases allResolve_writeAttributionChain inside
      ((inside.extended.lookup_parameter_iff chainDeclared.1).mpr unhidden.1)
      ((inside.extended.lookup_parameter_iff chainDeclared.2).mpr unhidden.2) with
      ⟨chainResolves, insideChain⟩
    have annotations := allResolve_writeAnnotations insideChain constants decl 1
    have annotationsResolve := annotations.2.mpr fun hasReset => absurd hasReset (noReset hasChain)
    have restPlaced : ∀ index : Nat, rest[index]? = decl.fields[1 + index]? := by
      intro index
      rw [split, Nat.add_comm, List.getElem?_cons_succ]
    have laterLoop := allResolve_writeArguments declares areArguments restPlaced insideChain
      laterPrinted
    rw [scopeAfter_block_append, scopeAfter_block_append, references_block_append,
      references_block_append, allResolve_append, allResolve_append, scopeAfter_block_append,
      annotations.1]
    exact ⟨laterLoop.1, (and_iff_right ⟨chainResolves, annotationsResolve⟩).trans laterLoop.2⟩

/-- The same for a whole body. -/
theorem allResolve_writeRustMethodBody (accepted : AcceptedSignature decl.signature)
    (noAtomReset : ¬HasReset (annotationsOf decl atomIdFieldNumber))
    (noReset : .attributionChain ∈ decl.signature → ¬HasReset (annotationsOf decl 1))
    (declares : Declares declared decl)
    (printed : writeRustMethodBody constants attributionDecl minApiLevel decl = .ok code) :
    AllResolve (eventReferences declared decl.atomType code) ↔
      KeepApart decl (leadingBindings decl) (firstArgument decl) (argumentFields decl) := by
  rw [writeRustMethodBody] at printed
  split at printed
  · contradiction
  · rcases map_eq_ok_iff.mp printed with ⟨loop, loopPrinted, rfl⟩
    rcases inside_opening declares with ⟨openingResolves, inside⟩
    have annotations := allResolve_writeAnnotations inside constants decl atomIdFieldNumber
    have annotationsResolve :=
      annotations.2.mpr fun hasReset => absurd hasReset noAtomReset
    rcases allResolve_fields accepted noReset declares inside loopPrinted with
      ⟨⟨boundAtEnd, insideEnd⟩, fieldsResolve⟩
    have setsAtomId (rest : List (Code Condition EventCall)) (scope : Scope String Variable) :
        (Code.block (.call (.setAtomId (makeCamelCaseName decl.name)) :: rest)).references
          wording scope = scope.references [referEvent] ++ (Code.block rest).references wording
            scope :=
      rfl
    have scopeAfterAtomId (rest : List (Code Condition EventCall))
        (scope : Scope String Variable) :
        (Code.block (.call (.setAtomId (makeCamelCaseName decl.name)) :: rest)).scopeAfter
          wording scope = (Code.block rest).scopeAfter wording scope :=
      rfl
    rw [eventReferences, setsAtomId, scopeAfterAtomId, scopeAfter_block_append,
      references_block_append, annotations.1]
    simp only [allResolve_append]
    rw [and_iff_left (allResolve_closing insideEnd _), and_iff_right openingResolves,
      and_iff_right (settled_event inside).resolves, and_iff_right annotationsResolve,
      fieldsResolve]

end Bodies

/-! ## Functions of accepted atoms -/

section Accepted

variable {registration : Registration} {fieldNumber : Int}

/-- A reset is on the exclusive state field. -/
theorem exists_exclusiveField
    (hasReset : HasReset (annotationsOf registration.decl fieldNumber)) :
    fieldNumber ≠ atomIdFieldNumber ∧ ∃ field ∈ registration.atom.fields,
      field.number = fieldNumber ∧ Collated.isExclusiveState field.options = true := by
  rcases exists_mem_of_declaredState hasReset.2 with ⟨ann, member, isReset⟩
  rcases declRequests_state (Or.inl isReset) (requested_of_mem member) with
    ⟨notAtom, field, listed, number, exclusive, -⟩
  exact ⟨notAtom, field, listed, number, exclusive⟩

/-- Collation lets no reset on an attribution chain through. -/
theorem not_hasReset_chain (hasChain : .attributionChain ∈ registration.decl.signature) :
    ¬HasReset (annotationsOf registration.decl 1) := by
  intro hasReset
  rcases exists_exclusiveField hasReset with ⟨-, field, listed, number, exclusive⟩
  have rule := registration.rule.message
  rcases rule.sortedFields_cases with noChain | ⟨chain, rest, sorted, first, isChain, -⟩
  · have areArguments := rule.isArgument (fun _ member => member) noChain
    rw [← rule.signatureOf_eq, registration.signatureOf_eq] at areArguments
    exact areArguments _ hasChain
  · have chainListed : chain ∈ registration.atom.fields :=
      mem_sortedFields.mp (sorted ▸ List.mem_cons_self)
    have isField := eq_of_number_eq listed chainListed (number.trans first.symm)
    subst isField
    cases stored : field.options.stateFieldOption with
    | none => simp [Collated.isExclusiveState, stored] at exclusive
    | some option =>
        rw [Collated.isExclusiveState, stored, Option.getD_some] at exclusive
        have notMessage := ((rule.fields field listed).state option stored).exclusiveState exclusive
        rw [isChain] at notMessage
        exact notMessage rfl

end Accepted

section Functions

variable {decl : AtomDecl}

/-- Names that stay apart, field by field. -/
theorem keepApart_argumentFields_iff (accepted : AcceptedSignature decl.signature)
    {bound : List String} :
    KeepApart decl bound (firstArgument decl) (argumentFields decl) ↔
      (∀ atomField ∈ argumentFields decl, fieldIdentifier atomField ∉ bound) ∧
      (decl.fields.Pairwise fun earlier later =>
        earlier.javaType = .string → fieldIdentifier later ≠ "str") ∧
      ∀ (index : Nat) atomField, decl.fields[index]? = some atomField →
        atomField.javaType = .string → fieldIdentifier atomField = "str" →
          ¬HasReset (annotationsOf decl (1 + index)) := by
  rw [keepApart_iff]
  rcases fields_cases accepted with ⟨noChain, areArguments⟩ |
    ⟨hasChain, chain, rest, split, isChain, areArguments⟩
  · rw [argumentFields_eq_self areArguments, firstArgument, if_neg noChain]
    simp only [Nat.zero_add]
  · rw [argumentFields_of_chain split isChain areArguments, firstArgument, if_pos hasChain, split]
    have notString : chain.javaType ≠ .string := by
      rw [isChain]
      decide
    constructor
    · rintro ⟨unbound, strings, resets⟩
      refine ⟨unbound, List.pairwise_cons.mpr ⟨?_, strings⟩, ?_⟩
      · exact fun _ _ isString => absurd isString notString
      · intro index atomField found isString
        cases index with
        | zero =>
            cases found
            exact absurd isString notString
        | succ index =>
            rw [Nat.add_comm]
            exact resets index atomField found isString
    · rintro ⟨unbound, strings, resets⟩
      refine ⟨unbound, (List.pairwise_cons.mp strings).2, ?_⟩
      intro index atomField found
      rw [Nat.add_comm 1]
      exact resets (index + 1) atomField found

theorem namesApart_iff_keepApart (accepted : AcceptedSignature decl.signature) :
    NamesApart decl ↔
      (leadingParameters decl ++ (argumentFields decl).map fieldIdentifier).Nodup ∧
      KeepApart decl (leadingBindings decl) (firstArgument decl) (argumentFields decl) := by
  have leading : (leadingParameters decl).Nodup := by
    rw [leadingParameters]
    split <;> split <;> decide
  have apart : (∀ name ∈ leadingParameters decl,
      ∀ other ∈ (argumentFields decl).map fieldIdentifier, name ≠ other) ↔
      ∀ atomField ∈ argumentFields decl,
        fieldIdentifier atomField ∉ leadingParameters decl := by
    constructor
    · intro different atomField member isLeading
      exact different _ isLeading _ (List.mem_map_of_mem member) rfl
    · rintro notLeading name isLeading _ isField rfl
      rcases List.mem_map.mp isField with ⟨atomField, member, rfl⟩
      exact notLeading atomField member isLeading
  rw [namesApart_iff, keepApart_argumentFields_iff accepted, List.nodup_append,
    and_iff_right leading, apart, and_assoc]

/-- The function of a registered atom is hygienic when the names of its fields stay apart. -/
theorem hygienic_iff_namesApart {registrations : List Registration} {atoms : Atoms}
    (registered : Registered registrations atoms) (member : decl ∈ elements atoms.decls)
    {constants : AnnotationIdConstants} {minApiLevel : Int} {function : Function}
    (written : writeRustStatsWriteMethod constants attributionDecl minApiLevel decl =
      .ok function) :
    Hygienic function ↔ NamesApart decl := by
  rcases List.mem_map.mp (registered.decls.mem_elements.mp member) with ⟨registration, -, rfl⟩
  have acceptedSignature := acceptedSignature_of_mem registered member
  have noAtomReset : ¬HasReset (annotationsOf registration.decl atomIdFieldNumber) :=
    fun hasReset => (exists_exclusiveField hasReset).1 rfl
  rcases map_eq_ok_iff.mp written with ⟨code, printed, isFunction⟩
  have parameters : function.parameters =
      writeRustMethodSignature attributionDecl registration.decl false := by
    rw [← isFunction]
  have references : function.body.references function.scope =
      eventReferences function.scope registration.decl.atomType code := by
    rw [← isFunction]
    cases registration.decl.atomType <;> rfl
  have identifiers : function.scope.map Prod.fst = leadingParameters registration.decl ++
      (argumentFields registration.decl).map fieldIdentifier := by
    rw [← signature_identifiers acceptedSignature, ← parameters, Function.scope, List.map_map]
    rfl
  have resolves (distinct : (function.scope.map Prod.fst).Nodup) :=
    allResolve_writeRustMethodBody acceptedSignature noAtomReset not_hasReset_chain
      (declares_scope acceptedSignature parameters distinct) printed
  rw [namesApart_iff_keepApart acceptedSignature, ← identifiers]
  constructor
  · intro hygienic
    refine ⟨hygienic.distinct, (resolves hygienic.distinct).mp ?_⟩
    rw [← references]
    exact hygienic.resolves
  · rintro ⟨distinct, apart⟩
    refine ⟨distinct, ?_⟩
    rw [references]
    exact (resolves distinct).mpr apart

/-- The function of an accepted atom without repeated fields is hygienic exactly when the
names of its fields stay apart. -/
theorem hygienic_iff (descriptor : AtomDescriptor) (moduleName : String) (atoms : Atoms)
    (accepted : collateAtoms descriptor moduleName {} = (0, atoms)) (decl : AtomDecl)
    (member : decl ∈ elements atoms.decls) (constants : AnnotationIdConstants)
    (minApiLevel : Int) (function : Function)
    (written : writeRustStatsWriteMethod constants attributionDecl minApiLevel decl =
      .ok function) :
    Hygienic function ↔ NamesApart decl := by
  rcases collateAtoms_registered accepted with ⟨registrations, -, registered⟩
  exact hygienic_iff_namesApart registered member written

/-- The wake lock keeps its names apart. -/
theorem hygienic_wakelock :
    ∃ function, writeRustStatsWriteMethod
        (getAnnotationIdConstants annotationConstantNamePrefix) attributionDecl apiT
        wakelockDecl = .ok function ∧ (Hygienic function ↔ NamesApart wakelockDecl) := by
  have isOk := writeRustMethodBody_isOk (getAnnotationIdConstants annotationConstantNamePrefix)
    (mem_signatureTypes acceptedSignature_wakelockDecl) (by decide : apiT ≠ apiQ) (by decide)
  rw [← isOk_map, ← writeRustStatsWriteMethod] at isOk
  rcases isOk_iff_exists.mp isOk with ⟨function, written⟩
  exact ⟨function, written, hygienic_iff wakelockDescriptor defaultModuleName wakelockAtoms
    (Prod.ext (by decide) rfl) wakelockDecl mem_wakelockDecl _ apiT _ written⟩

end Functions

/-! ## A captured string -/

def twoStrings : Descriptor where
  name := "TwoStrings"
  fields :=
    [{ name := "first", number := 1, type := .string },
     { name := "str", number := 2, type := .string }]
  numbers_nodup := by decide

def twoStringsDescriptor : AtomDescriptor where
  fields := [{ name := "two_strings", number := 11, type := .message twoStrings }]
  extensions := []
  numbers_nodup := by decide

def twoStringsAtoms : Atoms :=
  (collateAtoms twoStringsDescriptor defaultModuleName {}).2

/-- The declaration of the atom of `twoStringsDescriptor`. -/
def twoStringsDecl : AtomDecl :=
  (twoStringsAtoms.decls[(⟨11, "two_strings"⟩ : DeclKey)]?).getD {}

/-- The function of the atom. -/
def twoStringsFunction : Function where
  name := "stats_write"
  parameters :=
    [⟨.str false, ⟨"r#first", .arg 1⟩⟩, ⟨.str false, ⟨"r#str", .arg 2⟩⟩]
  body := .pushed
    [.call (.setAtomId "TwoStrings"), .call (.writeString ⟨"r#first", .arg 1⟩),
     .call (.writeString ⟨"r#str", .arg 2⟩)]

theorem twoStringsFunction_written :
    writeRustStatsWriteMethod (getAnnotationIdConstants annotationConstantNamePrefix)
      attributionDecl apiT twoStringsDecl = .ok twoStringsFunction :=
  toOption_eq_some_iff.mp (by decide)

/-- The string that is written for the second field is made from the first one. -/
theorem not_hygienic_twoStrings :
    (collateAtoms twoStringsDescriptor defaultModuleName {}).1 = 0 ∧
    twoStringsDecl ∈ elements twoStringsAtoms.decls ∧
    hasRepeatedField twoStringsDecl = false ∧
    ∃ function, writeRustStatsWriteMethod
        (getAnnotationIdConstants annotationConstantNamePrefix) attributionDecl apiT
        twoStringsDecl = .ok function ∧
      ⟨.binding (some (.arg 2)), some (.binding (some (.arg 1)))⟩ ∈
        function.body.references function.scope ∧
      ¬Hygienic function := by
  have captured : (⟨.binding (some (.arg 2)), some (.binding (some (.arg 1)))⟩ :
      Reference Variable) ∈ twoStringsFunction.body.references twoStringsFunction.scope := by
    decide
  refine ⟨by decide, getD_mem_elements (by decide) _, by decide, twoStringsFunction,
    twoStringsFunction_written, captured, ?_⟩
  intro hygienic
  exact absurd (hygienic.resolves _ captured) (by decide)

end StatsLogApiGen.Rust
