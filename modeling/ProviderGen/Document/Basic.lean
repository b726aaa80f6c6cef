/-
The document model: as much of an OpenAPI 3 document as resources are read from.

Maps keep the order of the document, because the order of properties becomes the
order of attributes. A schema that is a reference carries the path it refers to;
what the path means is a matter of the document around it (`Document.component?`).
-/
import ProviderGen.Json.Basic
import ProviderGen.Table
import ProviderGen.Text.Case

set_option autoImplicit false

namespace ProviderGen

open ProviderGen.Text

/-! ## Schemas -/

/-- The keyword `type`: one name, or a list of names. -/
inductive TypeKeyword where
  | single (name : String)
  | multiple (names : List String)
  deriving DecidableEq, Repr, Inhabited

/-- The keyword `additionalProperties`: a truth value, or a schema for the values. -/
inductive Additional (σ : Type) where
  | allowed (b : Bool)
  | schema (s : σ)
  deriving Repr

/-- A schema. -/
structure Schema where
  type : Option TypeKeyword := none
  format : Option String := none
  description : Option String := none
  properties : List (String × Schema) := []
  required : List String := []
  items : Option Schema := none
  additional : Option (Additional Schema) := none
  enumeration : List Json := []
  readOnly : Bool := false
  reference : Option String := none
  deriving Repr, Inhabited

namespace Schema

/-- The declared type; in a list of types the first that is not `null`. -/
def typeName (s : Schema) : Option String :=
  match s.type with
  | none => none
  | some (.single name) => some name
  | some (.multiple names) => names.find? (· != "null")

/-- The texts of the enumerated values; a text stands for itself, without quotes. -/
def enumLiterals (s : Schema) : List String :=
  s.enumeration.map fun
    | .string text => text
    | other => other.compact

end Schema

/-! ## Operations -/

/-- The media type whose schemas describe resources. -/
def jsonMediaType : String := "application/json"

/-- The content of a body in one media type. -/
structure MediaType where
  schema : Option Schema := none
  deriving Repr, Inhabited

/-- The schema of a body in the JSON media type. -/
def jsonSchema (content : Table MediaType) : Option Schema :=
  (content.lookup jsonMediaType).bind MediaType.schema

/-- A response to a request. -/
structure Response where
  description : Option String := none
  content : Table MediaType := []
  deriving Repr, Inhabited

/-- The body of a request. -/
structure RequestBody where
  description : Option String := none
  content : Table MediaType := []
  required : Bool := false
  deriving Repr, Inhabited

/-- An operation on a path. -/
structure Operation where
  operationId : Option String := none
  summary : Option String := none
  description : Option String := none
  requestBody : Option RequestBody := none
  /-- Responses by status code. -/
  responses : Table Response := []
  tags : List String := []
  deriving Repr, Inhabited

/-- Whether two texts are equal up to the case of ASCII letters. -/
def sameIgnoringCase (a b : String) : Bool :=
  a.toList.map asciiLower == b.toList.map asciiLower

/-- Whether a tag marks the operation as an aid for debugging. -/
def Operation.isDebug (op : Operation) : Bool :=
  op.tags.any fun tag => sameIgnoringCase tag "debug" || sameIgnoringCase tag "debugging"

/-- The operations of one path. -/
structure PathItem where
  get : Option Operation := none
  post : Option Operation := none
  put : Option Operation := none
  patch : Option Operation := none
  delete : Option Operation := none
  deriving Repr, Inhabited

namespace PathItem

/-- The operations that can carry a payload, in the order of preference. -/
def mutatingOperations (item : PathItem) : List Operation :=
  [item.post, item.put, item.patch].filterMap id

/-- Whether an operation other than DELETE is tagged for debugging. -/
def isDebug (item : PathItem) : Bool :=
  ([item.get, item.post, item.put, item.patch].filterMap id).any Operation.isDebug

/-- The schema of the first JSON request body among POST, PUT and PATCH. -/
def requestSchema (item : PathItem) : Option Schema :=
  item.mutatingOperations.findSome? fun op =>
    op.requestBody.bind fun body => jsonSchema body.content

/-- The JSON schema of the response of GET with status 200. -/
def responseSchema (item : PathItem) : Option Schema :=
  item.get.bind fun op =>
    (op.responses.lookup "200").bind fun response => jsonSchema response.content

end PathItem

/-! ## Documents -/

/-- What the document says about itself. -/
structure Info where
  title : String
  version : String
  description : Option String := none
  deriving Repr, Inhabited

/-- The parts of a document that others refer to. -/
structure Components where
  schemas : Table Schema := []
  deriving Repr, Inhabited

/-- An OpenAPI document. -/
structure Document where
  openapi : String
  info : Info
  paths : Table PathItem := []
  components : Option Components := none
  deriving Repr, Inhabited

namespace Document

/-- How a reference to a component schema starts. -/
def referencePrefix : String := "#/components/schemas/"

/-- The name of the component schema a reference path names. -/
def referenceName? (path : String) : Option String :=
  if referencePrefix.toList.isPrefixOf path.toList then
    some (String.ofList (path.toList.drop referencePrefix.toList.length))
  else none

/-- The component schema with a name. -/
def component? (doc : Document) (name : String) : Option Schema :=
  doc.components.bind fun components => components.schemas.lookup name

/-- The component schema a reference path points to. -/
def resolve? (doc : Document) (path : String) : Option Schema :=
  (referenceName? path).bind doc.component?

end Document

end ProviderGen
