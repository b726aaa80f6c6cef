/-
Resources as JSON values, and back.

A resource is written with all of its keys. Reading it back needs only the names, the
path and the kinds; every other key has a default.
-/
import ProviderGen.Decode.Decoder
import ProviderGen.Resource.Basic

set_option autoImplicit false

namespace ProviderGen

/-! ## Writing -/

/-- The scalar type, by its name. -/
def Primitive.encode (type : Primitive) : Json := .string type.name

mutual

/-- An attribute. -/
def Field.encode : Field → Json
  | ⟨name, source, kind, enumValues, required, readOnly, description⟩ =>
    .object
      [("name", .string name),
       ("source_name", .string source),
       ("kind", Field.encodeKind kind),
       ("enum_values", .strings enumValues),
       ("required", .bool required),
       ("read_only", .bool readOnly),
       ("description", Json.ofOption .string description)]

/-- A kind, as an object of one member. -/
def Field.encodeKind : Kind Field → Json
  | .primitive type => .object [("primitive", type.encode)]
  | .list type => .object [("list", type.encode)]
  | .map type => .object [("map", type.encode)]
  | .object nested repeated =>
    .object [("object",
      .object [("nested", .array (Field.encodeAll nested)), ("repeated", .bool repeated)])]

/-- Attributes in order. -/
def Field.encodeAll : List Field → List Json
  | [] => []
  | field :: rest => field.encode :: Field.encodeAll rest

end

/-- A shape. -/
def encodeFields (fields : List Field) : Json := .array (Field.encodeAll fields)

/-- A resource. -/
def Resource.encode (r : Resource) : Json :=
  .object
    [("name", .string r.name),
     ("collection_path", .string r.collectionPath),
     ("item_path", .string r.itemPath),
     ("create_schema", Json.ofOption encodeFields r.create),
     ("read_schema", Json.ofOption encodeFields r.read),
     ("update_schema", Json.ofOption encodeFields r.update),
     ("has_delete", .bool r.hasDelete)]

/-- Resources in order. -/
def encodeResources (resources : List Resource) : Json := .array (resources.map Resource.encode)

/-! ## Reading -/

open Decoder

/-- A scalar type, by its name or as an object of one member without a value. -/
def Primitive.decoder : Decoder Primitive :=
  alternative (fun name => (Primitive.ofName? name).map .ok)
    fun name => (Primitive.ofName? name).map fun type setting depth node =>
      (fun _ => type) <$> unit setting depth node

/-- The members of the kind of an object, while they are read. -/
structure ObjectParts where
  nested : List Field := []
  repeated : Bool := false

/-- The kind of an object, given a reader of attributes. -/
def ObjectParts.decoder (field : Decoder Field) : Decoder (Kind Field) :=
  fun setting depth node =>
    (fun parts => Kind.object parts.nested parts.repeated) <$>
      record
        [Decoder.required "nested" (Decoder.list field)
           fun v (p : ObjectParts) => { p with nested := v },
         Decoder.required "repeated" flag fun v p => { p with repeated := v }]
        {} setting depth node

/-- A kind, given a reader of attributes. -/
def Field.kindDecoder (field : Decoder Field) : Decoder (Kind Field) :=
  alternative
    (fun name =>
      if ["primitive", "list", "map", "object"].contains name then some (.error .invalidType)
      else none)
    fun name =>
      if name = "primitive" then
        some fun setting depth node => Kind.primitive <$> Primitive.decoder setting depth node
      else if name = "list" then
        some fun setting depth node => Kind.list <$> Primitive.decoder setting depth node
      else if name = "map" then
        some fun setting depth node => Kind.map <$> Primitive.decoder setting depth node
      else if name = "object" then some (ObjectParts.decoder field)
      else none

/-- The members of an attribute, given a reader for the attributes inside it. -/
def Field.members (inner : Decoder Field) : List (RecordField Field) :=
  [Decoder.required "name" text fun v f => { f with name := v },
   Decoder.required "source_name" text fun v f => { f with source := v },
   Decoder.required "kind" (Field.kindDecoder inner) fun v f => { f with kind := v },
   defaulted "enum_values" (Decoder.list text) fun v f => { f with enumValues := v },
   defaulted "required" flag fun v f => { f with required := v },
   defaulted "read_only" flag fun v f => { f with readOnly := v },
   defaulted "description" (optional text) fun v f => { f with description := v }]

/-- Reads an attribute inside which no more than the given number of attributes nest. -/
def Field.decoderFor : Nat → Decoder Field
  | 0 => fun _ _ _ => fail .malformed
  | generation + 1 =>
    record (Field.members (Field.decoderFor generation))
      { name := "", source := "", kind := .primitive .string }

/-- An attribute. -/
def Field.decoder : Decoder Field := fun setting depth node =>
  Field.decoderFor (depth + 1) setting depth node

/-- A resource. -/
def Resource.decoder : Decoder Resource :=
  record
    [Decoder.required "name" text fun v r => { r with name := v },
     Decoder.required "collection_path" text fun v r => { r with collectionPath := v },
     defaulted "item_path" text fun v r => { r with itemPath := v },
     defaulted "create_schema" (optional (Decoder.list Field.decoder))
       fun v r => { r with create := v },
     defaulted "read_schema" (optional (Decoder.list Field.decoder))
       fun v r => { r with read := v },
     defaulted "update_schema" (optional (Decoder.list Field.decoder))
       fun v r => { r with update := v },
     defaulted "has_delete" flag fun v r => { r with hasDelete := v }]
    { name := "", collectionPath := "" }

end ProviderGen
