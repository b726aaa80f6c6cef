/-
Reading the document model.

One decoder for each type of the model, made of the fields in the order of their
declaration. Schemas nest, so their decoder is built in generations: generation
`n + 1` reads a schema whose parts are read by generation `n`. Since every schema
opens a container, a document that may nest `n` containers never gets beyond
generation `n`.
-/
import ProviderGen.Decode.Decoder
import ProviderGen.Document.Basic

set_option autoImplicit false

namespace ProviderGen

open Decoder

/-! ## Schemas -/

/-- The two forms of the keyword `type`. -/
def TypeKeyword.decoder : Decoder TypeKeyword :=
  untagged "SchemaType"
    [fun setting depth node => TypeKeyword.single <$> text setting depth node,
     fun setting depth node => TypeKeyword.multiple <$> Decoder.list text setting depth node]

/-- The two forms of the keyword `additionalProperties`, given a reader of schemas. -/
def Additional.decoder {σ : Type} (schema : Decoder σ) : Decoder (Additional σ) :=
  untagged "AdditionalProperties"
    [fun setting depth node => Additional.allowed <$> flag setting depth node,
     fun setting depth node => Additional.schema <$> schema setting depth node]

/-- The fields of a schema, given a reader for the schemas inside it. -/
def Schema.fields (inner : Decoder Schema) : List (RecordField Schema) :=
  [defaulted "type" (optional TypeKeyword.decoder) fun v s => { s with type := v },
   defaulted "format" (optional text) fun v s => { s with format := v },
   defaulted "description" (optional text) fun v s => { s with description := v },
   defaulted "properties" (table inner) fun v s => { s with properties := v },
   defaulted "required" (Decoder.list text) fun v s => { s with required := v },
   defaulted "items" (optional inner) fun v s => { s with items := v },
   defaulted "additionalProperties" (optional (Additional.decoder inner))
     fun v s => { s with additional := v },
   defaulted "enum" (Decoder.list literal) fun v s => { s with enumeration := v },
   defaulted "readOnly" flag fun v s => { s with readOnly := v },
   defaulted "$ref" (optional text) fun v s => { s with reference := v }]

/-- Reads a schema inside which no more than the given number of schemas nest. -/
def Schema.decoderFor : Nat → Decoder Schema
  | 0 => fun _ _ _ => fail .malformed
  | generation + 1 => record (Schema.fields (Schema.decoderFor generation)) {}

/-- A schema. -/
def Schema.decoder : Decoder Schema := fun setting depth node =>
  Schema.decoderFor (depth + 1) setting depth node

/-! ## Operations -/

/-- The content of a body in one media type. -/
def MediaType.decoder : Decoder MediaType :=
  record [defaulted "schema" (optional Schema.decoder) fun v m => { m with schema := v }] {}

/-- A response. -/
def Response.decoder : Decoder Response :=
  record
    [defaulted "description" (optional text) fun v r => { r with description := v },
     defaulted "content" (table MediaType.decoder) fun v r => { r with content := v }] {}

/-- The body of a request. -/
def RequestBody.decoder : Decoder RequestBody :=
  record
    [defaulted "description" (optional text) fun v b => { b with description := v },
     defaulted "content" (table MediaType.decoder) fun v b => { b with content := v },
     defaulted "required" flag fun v b => { b with required := v }] {}

/-- An operation. -/
def Operation.decoder : Decoder Operation :=
  record
    [defaulted "operationId" (optional text) fun v op => { op with operationId := v },
     defaulted "summary" (optional text) fun v op => { op with summary := v },
     defaulted "description" (optional text) fun v op => { op with description := v },
     defaulted "requestBody" (optional RequestBody.decoder)
       fun v op => { op with requestBody := v },
     defaulted "responses" (table Response.decoder) fun v op => { op with responses := v },
     defaulted "tags" (Decoder.list text) fun v op => { op with tags := v }] {}

/-- The operations of a path. -/
def PathItem.decoder : Decoder PathItem :=
  record
    [defaulted "get" (optional Operation.decoder) fun v p => { p with get := v },
     defaulted "post" (optional Operation.decoder) fun v p => { p with post := v },
     defaulted "put" (optional Operation.decoder) fun v p => { p with put := v },
     defaulted "patch" (optional Operation.decoder) fun v p => { p with patch := v },
     defaulted "delete" (optional Operation.decoder) fun v p => { p with delete := v }] {}

/-! ## Documents -/

/-- What a document says about itself. -/
def Info.decoder : Decoder Info :=
  record
    [required "title" text fun v i => { i with title := v },
     required "version" text fun v i => { i with version := v },
     defaulted "description" (optional text) fun v i => { i with description := v }]
    { title := "", version := "" }

/-- The parts others refer to. -/
def Components.decoder : Decoder Components :=
  record [defaulted "schemas" (table Schema.decoder) fun v c => { c with schemas := v }] {}

/-- A document. -/
def Document.decoder : Decoder Document :=
  record
    [required "openapi" text fun v d => { d with openapi := v },
     required "info" Info.decoder fun v d => { d with info := v },
     defaulted "paths" (table PathItem.decoder) fun v d => { d with paths := v },
     defaulted "components" (optional Components.decoder) fun v d => { d with components := v }]
    { openapi := "", info := { title := "", version := "" } }

end ProviderGen
