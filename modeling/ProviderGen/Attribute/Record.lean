/-
Records: what templates know about an attribute.

A record holds the names and types of an attribute in the spelling of the generated
code, both of its declarations as text, and the records of the attributes inside it.
What lies inside a read-only attribute is read-only too, and what is read-only is not
required, so every record belongs to exactly one of three groups.
-/
import ProviderGen.Attribute.Declaration
import ProviderGen.Json.Basic
import ProviderGen.Naming

set_option autoImplicit false

namespace ProviderGen

open ProviderGen.Text

/-! ## Records -/

/-- Where documentation lists an attribute. -/
inductive Group where
  | required
  | optional
  | readOnly
  deriving DecidableEq, Repr

namespace Group

/-- The group of an attribute with these properties. -/
def of (required readOnly : Bool) : Group :=
  if readOnly then .readOnly else if required then .required else .optional

/-- The name of a group. -/
def name : Group → String
  | required => "required"
  | optional => "optional"
  | readOnly => "read_only"

end Group

/-- What templates know about an attribute. -/
structure Record where
  name : String
  source : String
  /-- The name of the field of the model. -/
  identifier : String
  /-- The type of the field of the model. -/
  modelType : String
  /-- The declaration in the schema of the resource. -/
  declaration : String
  /-- The declaration in the schema of the data source. -/
  dataSourceDeclaration : String
  kind : String
  /-- The kind as documentation names it. -/
  docType : String
  group : Group
  required : Bool
  readOnly : Bool
  description : Option String
  enumValues : List String
  nested : List Record
  deriving Repr

/-- The name of the field that holds an attribute in the generated model: the Pascal
spelling, with a word in front if it does not start with an ASCII letter. -/
def fieldIdentifier (name : String) : String :=
  let spelling := Naming.pascal name
  match spelling.toList with
  | c :: _ => if isAsciiLetter c then spelling else "Field" ++ spelling
  | [] => "Field"

/-- The depth of the entries of the outermost attribute map of a schema. -/
def attributeDepth : Nat := 3

mutual

/-- The record of an attribute that stands at a depth, inside a read-only one or not. -/
def Field.toRecord (depth : Nat) (inherited : Bool) : Field → Record
  | ⟨name, source, kind, values, required, readOnly, description⟩ =>
    let field : Field := ⟨name, source, kind, values, required, readOnly, description⟩
    let fixed := readOnly || inherited
    let demanded := required && !fixed
    { name, source
      identifier := fieldIdentifier name
      modelType := kind.modelType
      declaration := (field.declare .resource .top).text depth
      dataSourceDeclaration := (field.declare .dataSource .top).text depth
      kind := kind.label
      docType := kind.title
      group := Group.of demanded fixed
      required := demanded
      readOnly := fixed
      description
      enumValues := values
      nested := Field.nestedRecords (depth + 2) fixed kind }

/-- The records of the attributes inside one of a kind. -/
def Field.nestedRecords (depth : Nat) (inherited : Bool) : Kind Field → List Record
  | .object nested _ => Field.toRecords depth inherited nested
  | .primitive _ => []
  | .list _ => []
  | .map _ => []

/-- The records of attributes in order. -/
def Field.toRecords (depth : Nat) (inherited : Bool) : List Field → List Record
  | [] => []
  | field :: rest => field.toRecord depth inherited :: Field.toRecords depth inherited rest

end

/-- The records of the outermost attributes. -/
def recordsOf (fields : List Field) : List Record := Field.toRecords attributeDepth false fields

/-! ## Blocks -/

/-- The attributes inside an attribute, under the path that leads there. -/
structure Block where
  /-- The names on the way, parted by dots. -/
  path : String
  records : List Record
  deriving Repr

/-- The path of an attribute inside another one, or of an outermost one. -/
def joinPath (parent name : String) : String := if parent = "" then name else parent ++ "." ++ name

mutual

/-- The blocks of an attribute and of those inside it, each before those inside. -/
def Record.blocks (parent : String) : Record → List Block
  | { name, nested, .. } =>
    match nested with
    | [] => []
    | first :: rest =>
      ⟨joinPath parent name, first :: rest⟩ ::
        (first.blocks (joinPath parent name) ++ Record.blocksAll (joinPath parent name) rest)

/-- The blocks of attributes in order. -/
def Record.blocksAll (parent : String) : List Record → List Block
  | [] => []
  | record :: rest => record.blocks parent ++ Record.blocksAll parent rest

end

/-- The blocks of the outermost attributes. -/
def blocksOf (records : List Record) : List Block := Record.blocksAll "" records

/-! ## Records as values -/

mutual

/-- A record as templates see it. -/
def Record.encode : Record → Json
  | ⟨name, source, identifier, modelType, declaration, dataSourceDeclaration, kind, docType,
      group, required, readOnly, description, enumValues, nested⟩ =>
    .object
      [("name", .string name),
       ("source_name", .string source),
       ("identifier", .string identifier),
       ("model_type", .string modelType),
       ("declaration", .string declaration),
       ("data_source_declaration", .string dataSourceDeclaration),
       ("kind", .string kind),
       ("doc_type", .string docType),
       ("section", .string group.name),
       ("required", .bool required),
       ("read_only", .bool readOnly),
       ("description", Json.ofOption .string description),
       ("enum_values", .strings enumValues),
       ("nested", .array (Record.encodeAll nested))]

/-- Records in order. -/
def Record.encodeAll : List Record → List Json
  | [] => []
  | record :: rest => record.encode :: Record.encodeAll rest

end

/-- Records as templates see them. -/
def encodeRecords (records : List Record) : Json := .array (Record.encodeAll records)

/-- A block as templates see it. -/
def Block.encode (block : Block) : Json :=
  .object [("path", .string block.path), ("fields", encodeRecords block.records)]

end ProviderGen
