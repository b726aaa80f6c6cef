/-
Writing the document model as a JSON value.

Every record is written with all of its fields, in the order of their declaration;
what is absent is `null`.
-/
import ProviderGen.Document.Basic

set_option autoImplicit false

namespace ProviderGen

/-! ## Schemas -/

/-- The keyword `type`. -/
def TypeKeyword.encode : TypeKeyword → Json
  | .single name => .string name
  | .multiple names => .strings names

/-- An optional text. -/
def encodeText : Option String → Json := Json.ofOption .string

mutual

/-- A schema. -/
def Schema.encode : Schema → Json
  | ⟨type, format, description, properties, required, items, additional, enumeration, readOnly,
      reference⟩ =>
    .object
      [("type", Json.ofOption TypeKeyword.encode type),
       ("format", encodeText format),
       ("description", encodeText description),
       ("properties", .object (Schema.encodeEntries properties)),
       ("required", .strings required),
       ("items", Schema.encodeOptional items),
       ("additionalProperties", Schema.encodeAdditional additional),
       ("enum", .array enumeration),
       ("readOnly", .bool readOnly),
       ("$ref", encodeText reference)]

/-- Schemas by name. -/
def Schema.encodeEntries : List (String × Schema) → List (String × Json)
  | [] => []
  | (key, schema) :: rest => (key, schema.encode) :: Schema.encodeEntries rest

/-- An optional schema. -/
def Schema.encodeOptional : Option Schema → Json
  | none => .null
  | some schema => schema.encode

/-- The keyword `additionalProperties`. -/
def Schema.encodeAdditional : Option (Additional Schema) → Json
  | none => .null
  | some (.allowed b) => .bool b
  | some (.schema schema) => schema.encode

end

/-! ## Operations -/

/-- A table, given a writer for its values. -/
def encodeTable {α : Type} (encode : α → Json) (table : Table α) : Json :=
  .object (table.map fun (key, value) => (key, encode value))

/-- The content of a body in one media type. -/
def MediaType.encode (media : MediaType) : Json :=
  .object [("schema", Json.ofOption Schema.encode media.schema)]

/-- A response. -/
def Response.encode (response : Response) : Json :=
  .object
    [("description", encodeText response.description),
     ("content", encodeTable MediaType.encode response.content)]

/-- The body of a request. -/
def RequestBody.encode (body : RequestBody) : Json :=
  .object
    [("description", encodeText body.description),
     ("content", encodeTable MediaType.encode body.content),
     ("required", .bool body.required)]

/-- An operation. -/
def Operation.encode (op : Operation) : Json :=
  .object
    [("operationId", encodeText op.operationId),
     ("summary", encodeText op.summary),
     ("description", encodeText op.description),
     ("requestBody", Json.ofOption RequestBody.encode op.requestBody),
     ("responses", encodeTable Response.encode op.responses),
     ("tags", .strings op.tags)]

/-- The operations of a path. -/
def PathItem.encode (item : PathItem) : Json :=
  .object
    [("get", Json.ofOption Operation.encode item.get),
     ("post", Json.ofOption Operation.encode item.post),
     ("put", Json.ofOption Operation.encode item.put),
     ("patch", Json.ofOption Operation.encode item.patch),
     ("delete", Json.ofOption Operation.encode item.delete)]

/-! ## Documents -/

/-- What a document says about itself. -/
def Info.encode (info : Info) : Json :=
  .object
    [("title", .string info.title),
     ("version", .string info.version),
     ("description", encodeText info.description)]

/-- The parts others refer to. -/
def Components.encode (components : Components) : Json :=
  .object [("schemas", encodeTable Schema.encode components.schemas)]

/-- A document. -/
def Document.encode (doc : Document) : Json :=
  .object
    [("openapi", .string doc.openapi),
     ("info", doc.info.encode),
     ("paths", encodeTable PathItem.encode doc.paths),
     ("components", Json.ofOption Components.encode doc.components)]

end ProviderGen
