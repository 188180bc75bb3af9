import StatsLogApiGen.Writer.Body

/-!
# The Rust writer

`rust_writer.cpp`: one module for every atom without repeated fields.  The text
of a module is kept as its types and the parameters and statements of its
functions.
-/

namespace StatsLogApiGen.Rust

open Std
open StatsLogApiGen.Container
open StatsLogApiGen.Collation
open StatsLogApiGen.Program
open StatsLogApiGen.Writer

/-! ## Types and names -/

/-- A type in generated code.  References may have the lifetime of a structure. -/
inductive RustType where
  | named (name : String)
  | str (lifetime : Bool)
  | bytes (lifetime : Bool)
  | slice (lifetime : Bool) (element : RustType)
  deriving DecidableEq, Repr

/-- How a reference starts. -/
def reference (lifetime : Bool) : String :=
  if lifetime then "&'a " else "&"

/-- How a type is spelled. -/
def RustType.text : RustType → String
  | .named name => name
  | .str lifetime => reference lifetime ++ "str"
  | .bytes lifetime => reference lifetime ++ "[u8]"
  | .slice lifetime element => reference lifetime ++ "[" ++ element.text ++ "]"

/-- `rust_type_name`. -/
def rustTypeName (type : JavaType) (lifetime : Bool) : RustType :=
  match type with
  | .boolean => .named "bool"
  | .int | .enum => .named "i32"
  | .long => .named "i64"
  | .float => .named "f32"
  | .double => .named "f64"
  | .string => .str lifetime
  | .byteArray => .bytes lifetime
  | _ => .named "UNKNOWN"

/-- The loop of `make_camel_case_name`.  A word starts at the first character and
after an underscore. -/
def camelCaseChars : Bool → List Char → List Char
  | _, [] => []
  | startsWord, c :: rest =>
      if c = '_' then camelCaseChars true rest
      else if startsWord then c.toUpper :: camelCaseChars false rest
      else c.toLower :: camelCaseChars false rest

/-- `make_camel_case_name`. -/
def makeCamelCaseName (str : String) : String :=
  String.ofList (camelCaseChars true str.toList)

/-- The loop of `make_snake_case_name`. -/
def snakeCaseChars : Bool → List Char → List Char
  | _, [] => []
  | isFirst, c :: rest =>
      if c.isUpper then
        if isFirst then c.toLower :: snakeCaseChars false rest
        else '_' :: c.toLower :: snakeCaseChars false rest
      else
        c :: snakeCaseChars false rest

/-- `make_snake_case_name`. -/
def makeSnakeCaseName (str : String) : String :=
  String.ofList (snakeCaseChars true str.toList)

/-- `get_variable_name`: four keywords cannot be raw identifiers. -/
def getVariableName (str : String) : String :=
  if str = "crate" ∨ str = "self" ∨ str = "super" ∨ str = "Self" then
    makeSnakeCaseName str ++ "_"
  else
    "r#" ++ makeSnakeCaseName str

/-! ## Statements -/

/-- A variable as it is spelled, with the argument that it is named after. -/
structure Name where
  text : String
  reads : Variable
  deriving DecidableEq, Repr

structure Parameter where
  type : RustType
  name : Name
  deriving DecidableEq, Repr

/-- A comparison of a field with a state, as `i32` if the field is an enum.  The
writer reads past the fields for a comparison on the atom itself. -/
inductive Condition where
  | fieldIs (field : Name) (asI32 : Bool) (state : Int)
  | outOfRange
  deriving DecidableEq, Repr

/-- The functions that are called on `__event`.  The chain and strings are
converted first, and the function returns when a conversion fails. -/
inductive EventCall where
  | setAtomId (atom : String)
  | writeAttributionChain (uids tags : Name)
  | writeByteArray (field : Name)
  | writeBool (field : Name)
  | writeInt32 (field : Name) (asI32 : Bool)
  | writeFloat (field : Name)
  | writeInt64 (field : Name)
  | writeString (field : Name)
  | addAnnotationInt32 (annotationId : String) (value : Int)
  | addAnnotationBool (annotationId : String) (value : Bool)
  deriving DecidableEq, Repr

/-- What is passed to another generated function.  An empty argument stands
between two commas. -/
inductive Expression where
  | name (name : Name)
  | slice (name : Name)
  | selfField (name : Name)
  | empty
  deriving DecidableEq, Repr

/-- A call of another generated function of the module. -/
structure FunctionCall where
  name : String
  arguments : List Expression
  deriving DecidableEq, Repr

/-- The body of a generated function. -/
inductive Body where
  | pushed (code : List (Code Condition EventCall))
  | pulled (code : List (Code Condition EventCall))
  | forward (call : FunctionCall)
  deriving DecidableEq, Repr

structure Function where
  name : String
  parameters : List Parameter
  body : Body
  deriving DecidableEq, Repr

/-- An enum type with its variants. -/
structure EnumType where
  name : String
  variants : List (String × Int)
  deriving DecidableEq, Repr

/-- The structure of an atom with the method of its `impl`. -/
structure Struct where
  name : String
  lifetime : Bool
  fields : List Parameter
  method : Function
  deriving DecidableEq, Repr

structure Module where
  name : String
  enums : List EnumType
  struct : Struct
  functions : List Function
  deriving DecidableEq, Repr

/-! ## Parameters -/

section Parameters

variable (attributionDecl : AtomDecl)

/-- The variable of a field of the attribution node. -/
def chainName (chainField : String) : Name :=
  ⟨chainField ++ "_chain_", .chain chainField⟩

/-- The variable of the field at `argIndex`. -/
def fieldName (argIndex : Int) (atomField : AtomField) : Name :=
  ⟨getVariableName atomField.name, .arg argIndex⟩

/-- The variable of the field at `argIndex` in a non-chained function, where the
first two fields are the attribution node. -/
def parameterName (isNonChained : Bool) (argIndex : Int) (atomField : AtomField) : Name :=
  if isNonChained ∧ argIndex - 1 < 2 then
    ⟨atomField.name ++ "_non_chained_", .arg argIndex⟩
  else
    fieldName argIndex atomField

/-- The type of a field. -/
def fieldType (atomField : AtomField) (lifetime : Bool) : RustType :=
  if atomField.javaType = .enum then .named (makeCamelCaseName atomField.name)
  else rustTypeName atomField.javaType lifetime

/-- The parameters of the field at `argIndex`. -/
def fieldParameters (isNonChained : Bool) (argIndex : Int) (atomField : AtomField) :
    List Parameter :=
  if atomField.javaType = .attributionChain then
    attributionDecl.fields.map fun chainField =>
      ⟨.slice false (rustTypeName chainField.javaType false), chainName chainField.name⟩
  else
    [⟨fieldType atomField false, parameterName isNonChained argIndex atomField⟩]

/-- The loop of `write_rust_method_signature` from the field at `argIndex` on. -/
def signatureParameters (isNonChained : Bool) : Int → List AtomField → List Parameter
  | _, [] => []
  | argIndex, atomField :: rest =>
      fieldParameters attributionDecl isNonChained argIndex atomField ++
        signatureParameters isNonChained (argIndex + 1) rest

/-- `write_rust_method_signature`. -/
def writeRustMethodSignature (atomDecl : AtomDecl) (isNonChained : Bool) : List Parameter :=
  (if atomDecl.atomType = .pulled then
    [⟨.named "&mut AStatsEventList", ⟨"pulled_data_", .pulledData⟩⟩]
  else
    []) ++ signatureParameters attributionDecl isNonChained 1 atomDecl.fields

end Parameters

/-! ## Constants -/

/-- The variants of `Atoms` that `write_rust_atom_constants` prints. -/
def writeRustAtomConstants (atoms : Atoms) : List (String × Int) :=
  (elements atoms.decls).map fun atomDecl => (makeCamelCaseName atomDecl.name, atomDecl.code)

/-- `write_rust_atom_constant_values`. -/
def writeRustAtomConstantValues (atomDecl : AtomDecl) : List EnumType :=
  (atomDecl.fields.filter fun field => field.javaType = .enum).map fun field =>
    { name := makeCamelCaseName field.name
      variants := field.enumValues.toList.map fun value => (makeCamelCaseName value.2, value.1) }

/-- The variants of `Annotations` that `write_rust_annotation_constants` prints. -/
def writeRustAnnotationConstants (constants : AnnotationIdConstants) : List (String × Int) :=
  annotationIds.map fun annotationId =>
    (makeCamelCaseName (constants annotationId).name, annotationId.value)

/-! ## Annotations -/

/-- What `write_annotations` prints.  The restriction category is printed like any
other number. -/
def annotationTemplates : AnnotationTemplates EventCall where
  restriction annotationConstant category :=
    .addAnnotationInt32 (makeCamelCaseName annotationConstant.name) category
  int annotationConstant value :=
    .addAnnotationInt32 (makeCamelCaseName annotationConstant.name) value
  bool annotationConstant value :=
    .addAnnotationBool (makeCamelCaseName annotationConstant.name) value
  reset annotationConstant value :=
    .addAnnotationInt32 (makeCamelCaseName annotationConstant.name) value

/-- The comparison of the field at `argIndex` with a state. -/
def stateCondition (atomDecl : AtomDecl) (argIndex state : Int) : Condition :=
  if argIndex < 1 then
    .outOfRange
  else
    match atomDecl.fields[(argIndex - 1).toNat]? with
    | some field => .fieldIs (fieldName argIndex field) (field.javaType = .enum) state
    | none => .outOfRange

/-- `write_annotations`. -/
def writeAnnotations (constants : AnnotationIdConstants) (atomDecl : AtomDecl)
    (argIndex : Int) : List (Code Condition EventCall) :=
  match atomDecl.fieldNumberToAnnotations[argIndex]? with
  | none => []
  | some annotations =>
      writeAnnotationSet annotationTemplates constants (stateCondition atomDecl argIndex)
        annotations

/-! ## Bodies -/

/-- The switch of `write_rust_method_body`. -/
def writeField (attributionDecl : AtomDecl) (argIndex : Int) (atomField : AtomField) :
    Except WriterError (List (Code Condition EventCall)) :=
  let name := fieldName argIndex atomField
  match atomField.javaType with
  | .attributionChain =>
      .ok [.call (.writeAttributionChain (chainName (uidName attributionDecl))
        (chainName (tagName attributionDecl)))]
  | .byteArray => .ok [.call (.writeByteArray name)]
  | .boolean => .ok [.call (.writeBool name)]
  | .enum => .ok [.call (.writeInt32 name true)]
  | .int => .ok [.call (.writeInt32 name false)]
  | .float => .ok [.call (.writeFloat name)]
  | .long => .ok [.call (.writeInt64 name)]
  | .string => .ok [.call (.writeString name)]
  | _ => .error .unsupportedType

section Functions

variable (constants : AnnotationIdConstants) (attributionDecl : AtomDecl) (minApiLevel : Int)

/-- `write_rust_method_body`. -/
def writeRustMethodBody (atomDecl : AtomDecl) :
    Except WriterError (List (Code Condition EventCall)) :=
  let annotations : Int → List (Code Condition EventCall) :=
    writeAnnotations constants atomDecl
  if minApiLevel = apiQ then
    .error .rustApiQ
  else
    (writeArguments (writeField attributionDecl) annotations 1 atomDecl.fields).map
      fun arguments =>
        .call (.setAtomId (makeCamelCaseName atomDecl.name)) ::
          (annotations atomIdFieldNumber ++ arguments)

/-- The function that logs an atom. -/
def statsWriteName : AtomType → String
  | .pushed => "stats_write"
  | .pulled => "add_astats_event"

/-- `write_rust_stats_write_method`. -/
def writeRustStatsWriteMethod (atomDecl : AtomDecl) : Except WriterError Function :=
  (writeRustMethodBody constants attributionDecl minApiLevel atomDecl).map fun code =>
    { name := statsWriteName atomDecl.atomType
      parameters := writeRustMethodSignature attributionDecl atomDecl false
      body :=
        match atomDecl.atomType with
        | .pushed => .pushed code
        | .pulled => .pulled code }

end Functions

section Modules

variable (attributionDecl : AtomDecl)

/-- The arguments that a non-chained function passes on for the field at
`argIndex`.  A separator is printed before every field and again before the
variables of a chain. -/
def nonChainedArguments (argIndex : Int) (atomField : AtomField) : List Expression :=
  if argIndex - 1 < 2 then
    -- The first two fields form the attribution node.
    [.slice ⟨atomField.name ++ "_non_chained_", .arg argIndex⟩]
  else if atomField.javaType = .attributionChain then
    .empty :: attributionDecl.fields.map fun chainField => .slice (chainName chainField.name)
  else
    [.name (fieldName argIndex atomField)]

/-- The loop of `write_rust_stats_write_non_chained_method`. -/
def nonChainedArgumentsFrom : Int → List AtomField → List Expression
  | _, [] => []
  | argIndex, atomField :: rest =>
      nonChainedArguments attributionDecl argIndex atomField ++
        nonChainedArgumentsFrom (argIndex + 1) rest

/-- `write_rust_stats_write_non_chained_method`. -/
def writeRustStatsWriteNonChainedMethod (atomDecl : AtomDecl) : Function where
  name := "stats_write_non_chained"
  parameters := writeRustMethodSignature attributionDecl atomDecl true
  body := .forward
    ⟨"stats_write", nonChainedArgumentsFrom attributionDecl 1 atomDecl.fields⟩

/-- `needs_lifetime`. -/
def needsLifetime (atomDecl : AtomDecl) : Bool :=
  atomDecl.fields.any fun atomField =>
    atomField.javaType = .attributionChain ∨ atomField.javaType = .string ∨
      atomField.javaType = .byteArray

/-- The fields of the structure for the field at `argIndex`. -/
def structFields (argIndex : Int) (atomField : AtomField) : List Parameter :=
  if atomField.javaType = .attributionChain then
    attributionDecl.fields.map fun chainField =>
      ⟨.slice true (rustTypeName chainField.javaType true), chainName chainField.name⟩
  else
    [⟨fieldType atomField true, fieldName argIndex atomField⟩]

/-- The loops of `write_rust_struct` over the fields. -/
def structFieldsFrom : Int → List AtomField → List Parameter
  | _, [] => []
  | argIndex, atomField :: rest =>
      structFields attributionDecl argIndex atomField ++ structFieldsFrom (argIndex + 1) rest

/-- `write_rust_struct`. -/
def writeRustStruct (atomDecl : AtomDecl) : Struct :=
  let fields := structFieldsFrom attributionDecl 1 atomDecl.fields
  let pulledData : Name := ⟨"pulled_data", .pulledData⟩
  let values : List Expression := fields.map fun field => .selfField field.name
  { name := makeCamelCaseName atomDecl.name
    lifetime := needsLifetime atomDecl
    fields
    method :=
      match atomDecl.atomType with
      | .pushed =>
          { name := "stats_write"
            parameters := []
            body := .forward ⟨"stats_write", values⟩ }
      | .pulled =>
          { name := "add_astats_event"
            parameters := [⟨.named "&mut AStatsEventList", pulledData⟩]
            body := .forward ⟨"add_astats_event", .name pulledData :: values⟩ } }

/-- The iteration of `write_rust_stats_write_atoms` for one atom. -/
def writeRustModule (constants : AnnotationIdConstants) (minApiLevel : Int)
    (nonChainedDecls : AtomDeclSet) (atomDecl : AtomDecl) : Except WriterError Module :=
  (writeRustStatsWriteMethod constants attributionDecl minApiLevel atomDecl).map
    fun statsWrite =>
      { name := atomDecl.name
        enums := writeRustAtomConstantValues atomDecl
        struct := writeRustStruct attributionDecl atomDecl
        functions :=
          match nonChainedDecls[atomDecl.key]? with
          | some nonChained =>
              [statsWrite, writeRustStatsWriteNonChainedMethod attributionDecl nonChained]
          | none => [statsWrite] }

end Modules

/-- Some field of the atom is repeated. -/
def hasRepeatedField (atomDecl : AtomDecl) : Bool :=
  atomDecl.fields.any fun atomField => atomField.javaType.isRepeatedField

/-- `write_rust_stats_write_atoms`: atoms with repeated fields are left out. -/
def writeRustStatsWriteAtoms (constants : AnnotationIdConstants) (decls : AtomDeclSet)
    (attributionDecl : AtomDecl) (nonChainedDecls : AtomDeclSet) (minApiLevel : Int) :
    Except WriterError (List Module) :=
  ((elements decls).filter fun atomDecl => !hasRepeatedField atomDecl).mapM
    (writeRustModule attributionDecl constants minApiLevel nonChainedDecls)

/-- `write_stats_log_rust`: the modules of the generated crate. -/
def writeStatsLogRust (constants : AnnotationIdConstants) (atoms : Atoms)
    (attributionDecl : AtomDecl) (minApiLevel : Int) : Except WriterError (List Module) :=
  writeRustStatsWriteAtoms constants atoms.decls attributionDecl atoms.nonChainedDecls
    minApiLevel

end StatsLogApiGen.Rust
