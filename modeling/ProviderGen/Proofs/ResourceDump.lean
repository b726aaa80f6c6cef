/-
Resources survive their dump.

Resources are written as JSON with all of their keys. Reading the dump gives the resources back, at
every depth of nested objects, and it does so without the keys that have their defaults too. What
is read is limited by how deep a text of JSON may nest, so the dump has to stay within that.
-/
import ProviderGen.Json.Parser
import ProviderGen.Proofs.LayoutReading
import ProviderGen.Resource.Json

set_option autoImplicit false

namespace ProviderGen

open Decoder

/-! ## The layout of a dump -/

mutual

/-- An attribute: its names and its kind have to be there. -/
def Field.layout : Field → Layout
  | ⟨name, source, kind, enumValues, required, readOnly, description⟩ =>
    .record
      [⟨"name", none, .text name⟩,
       ⟨"source_name", none, .text source⟩,
       ⟨"kind", none, Field.kindLayout kind⟩,
       ⟨"enum_values", some (.array []), .texts enumValues⟩,
       ⟨"required", some (.bool false), .flag required⟩,
       ⟨"read_only", some (.bool false), .flag readOnly⟩,
       ⟨"description", some .null, .ofOption .text description⟩]

/-- A kind: its name is the key of a map. -/
def Field.kindLayout : Kind Field → Layout
  | .primitive type => .map [("primitive", .text type.name)]
  | .list type => .map [("list", .text type.name)]
  | .map type => .map [("map", .text type.name)]
  | .object nested repeated =>
    .map [("object",
      .record
        [⟨"nested", none, .list (Field.layouts nested)⟩, ⟨"repeated", none, .flag repeated⟩])]

/-- Attributes in order. -/
def Field.layouts : List Field → List Layout
  | [] => []
  | field :: rest => field.layout :: Field.layouts rest

end

/-- A shape. -/
def shapeLayout (fields : List Field) : Layout := .list (fields.map Field.layout)

/-- A resource: its name and the path of the collection have to be there. -/
def Resource.layout (r : Resource) : Layout :=
  .record
    [⟨"name", none, .text r.name⟩,
     ⟨"collection_path", none, .text r.collectionPath⟩,
     ⟨"item_path", some (.string ""), .text r.itemPath⟩,
     ⟨"create_schema", some .null, .ofOption shapeLayout r.create⟩,
     ⟨"read_schema", some .null, .ofOption shapeLayout r.read⟩,
     ⟨"update_schema", some .null, .ofOption shapeLayout r.update⟩,
     ⟨"has_delete", some (.bool false), .flag r.hasDelete⟩]

/-- Resources in order. -/
def dumpLayout (resources : List Resource) : Layout := .list (resources.map Resource.layout)

theorem Field.layouts_eq (fields : List Field) : Field.layouts fields = fields.map Field.layout := by
  induction fields with
  | nil => rfl
  | cons field rest ih => rw [Field.layouts, ih, List.map_cons]

mutual

theorem Field.json_layout : ∀ field : Field, field.layout.json = field.encode
  | ⟨_, _, kind, _, _, _, _⟩ => by
    simp [Field.layout, Field.encode, Layout.json, Layout.jsonSlots, Field.json_kindLayout kind]

theorem Field.json_kindLayout : ∀ kind : Kind Field,
    (Field.kindLayout kind).json = Field.encodeKind kind
  | .primitive _ => rfl
  | .list _ => rfl
  | .map _ => rfl
  | .object nested _ => by
    simp [Field.kindLayout, Field.encodeKind, Layout.json, Layout.jsonEntries, Layout.jsonSlots,
      Field.json_layouts nested]

theorem Field.json_layouts : ∀ fields : List Field,
    Layout.jsonItems (Field.layouts fields) = Field.encodeAll fields
  | [] => rfl
  | field :: rest => by
    rw [Field.layouts, Layout.jsonItems, Field.json_layout field, Field.json_layouts rest,
      Field.encodeAll]

end

theorem json_shapeLayout (fields : List Field) : (shapeLayout fields).json = encodeFields fields := by
  rw [shapeLayout, ← Field.layouts_eq, Layout.json, Field.json_layouts, encodeFields]

theorem Resource.json_layout (r : Resource) : r.layout.json = r.encode := by
  simp [Resource.layout, Resource.encode, Layout.json, Layout.jsonSlots, json_shapeLayout]

theorem json_dumpLayout (resources : List Resource) :
    (dumpLayout resources).json = encodeResources resources := by
  simp [dumpLayout, Layout.json, Layout.jsonItems_map, Resource.json_layout, encodeResources]

mutual

theorem Field.proper_layout : ∀ field : Field, field.layout.Proper
  | ⟨_, _, kind, _, _, _, _⟩ => by
    simp [Field.layout, Layout.Proper, Layout.ProperSlots, Field.proper_kindLayout kind]

theorem Field.proper_kindLayout : ∀ kind : Kind Field, (Field.kindLayout kind).Proper
  | .primitive _ => by simp [Field.kindLayout, Layout.Proper, Layout.ProperEntries]
  | .list _ => by simp [Field.kindLayout, Layout.Proper, Layout.ProperEntries]
  | .map _ => by simp [Field.kindLayout, Layout.Proper, Layout.ProperEntries]
  | .object nested _ => by
    simp [Field.kindLayout, Layout.Proper, Layout.ProperEntries, Layout.ProperSlots,
      Field.proper_layouts nested]

theorem Field.proper_layouts : ∀ fields : List Field, Layout.ProperItems (Field.layouts fields)
  | [] => trivial
  | field :: rest => ⟨Field.proper_layout field, Field.proper_layouts rest⟩

end

theorem proper_shapeLayout (fields : List Field) : (shapeLayout fields).Proper := by
  rw [shapeLayout, ← Field.layouts_eq]
  exact Field.proper_layouts fields

theorem Resource.proper_layout (r : Resource) : r.layout.Proper := by
  have hshape (shape? : Option (List Field)) : (Layout.ofOption shapeLayout shape?).Proper := by
    cases shape? with
    | none => trivial
    | some fields => exact proper_shapeLayout fields
  simp [Resource.layout, Layout.Proper, Layout.ProperSlots, hshape]

theorem proper_dumpLayout (resources : List Resource) : (dumpLayout resources).Proper :=
  Layout.properItems_iff.mpr (List.forall_mem_map.mpr fun r _ => r.proper_layout)

/-! ## Reading a dump -/

section Reading

variable {bound : Nat}

theorem Primitive.reads (type : Primitive) :
    Reads bound Primitive.decoder (.text type.name) type := by
  refine reads_bare ?_ _
  cases type <;> rfl

theorem ObjectParts.reads {field : Decoder Field}
    (hfield : ∀ f : Field, Reads bound field f.layout f) (nested : List Field) (repeated : Bool) :
    Reads bound (ObjectParts.decoder field)
      (.record
        [⟨"nested", none, .list (Field.layouts nested)⟩, ⟨"repeated", none, .flag repeated⟩])
      (.object nested repeated) := by
  rw [Field.layouts_eq]
  have hparts : Fills bound
      [Decoder.required "nested" (Decoder.list field)
         fun v (p : ObjectParts) => { p with nested := v },
       Decoder.required "repeated" Decoder.flag fun v p => { p with repeated := v }]
      [⟨"nested", none, .list (nested.map Field.layout)⟩, ⟨"repeated", none, .flag repeated⟩]
      {} { nested := nested, repeated := repeated } :=
    .required (reads_list fun f _ => hfield f) <| .required (reads_flag repeated) <| .nil _
  exact (reads_record (by simp [Decoder.required]) hparts).weaken.map _

theorem Field.reads_kind {inner : Decoder Field} (hinner : ∀ f : Field, Reads bound inner f.layout f) :
    ∀ kind : Kind Field, Reads bound (Field.kindDecoder inner) (Field.kindLayout kind) kind
  | .primitive type => reads_tagged _ rfl (type.reads.map Kind.primitive)
  | .list type => reads_tagged _ rfl (type.reads.map Kind.list)
  | .map type => reads_tagged _ rfl (type.reads.map Kind.map)
  | .object nested repeated => reads_tagged _ rfl (ObjectParts.reads hinner nested repeated)

/-- A generation reads the attributes that are entered with fewer containers left. -/
theorem Field.decoderFor_reads (generation : Nat) (field : Field) :
    Reads generation (Field.decoderFor generation) field.layout field := by
  induction generation generalizing field with
  | zero => exact reads_zero _ _ _
  | succ generation ih =>
    obtain ⟨name, source, kind, enumValues, required, readOnly, description⟩ := field
    refine reads_record (by simp [Field.members, Decoder.required, Decoder.defaulted]) ?_
    refine .required (reads_text name) <| .required (reads_text source) <|
      .required (Field.reads_kind ih kind) ?_
    refine .defaulted (completes_texts enumValues) rfl ?_
    refine .defaulted (completes_flag required) rfl <| .defaulted (completes_flag readOnly) rfl ?_
    exact .defaulted (completes_optionalText description) rfl (.nil _)

theorem Field.reads (field : Field) : Reads bound Field.decoder field.layout field :=
  .of_generations fun generation => Field.decoderFor_reads generation field

theorem Resource.reads (r : Resource) : Reads bound Resource.decoder r.layout r := by
  have hshape (shape? : Option (List Field)) :
      Completes bound (optional (Decoder.list Field.decoder)) .null
        (.ofOption shapeLayout shape?) none shape? :=
    completes_optional (fun fields _ => reads_list fun field _ => field.reads) nofun
  refine (reads_record (by simp [Decoder.required, Decoder.defaulted]) ?_).weaken
  refine .required (reads_text r.name) <| .required (reads_text r.collectionPath) ?_
  refine .defaulted (completes_text r.itemPath) rfl ?_
  refine .defaulted (hshape r.create) rfl <| .defaulted (hshape r.read) rfl <|
    .defaulted (hshape r.update) rfl ?_
  exact .defaulted (completes_flag r.hasDelete) rfl (.nil _)

end Reading

/-- A JSON value as the reader of JSON text leaves it, which limits how deep containers nest. -/
def Json.limitedReading (value : Json) : Reading :=
  { value.reading with depth := Json.nestingLimit }

theorem decode_of_writes {resources : List Resource} {admits : String → Prop} {dump : Json}
    (hwrites : (dumpLayout resources).Writes admits dump) (hdepth : dump.depth ≤ Json.nestingLimit) :
    dump.limitedReading.decode (Decoder.list Resource.decoder) = .ok resources := by
  refine Step.Finds.decode ?_ rfl
  exact reads_list (fun r _ => r.reads) (proper_dumpLayout resources) admits dump hwrites _ _ hdepth
    (Nat.lt_succ_self _)

/-- **Resources survive their dump**, if it does not nest deeper than a text of JSON may: they are
read from the dump with all of its keys, and also if any keys that have their defaults are left
out, wherever in the dump they are. -/
theorem decode_encodeResources {resources : List Resource}
    (hdepth : (encodeResources resources).depth ≤ Json.nestingLimit) :
    (encodeResources resources).limitedReading.decode (Decoder.list Resource.decoder) =
        .ok resources ∧
      (dumpLayout resources).json = encodeResources resources ∧
      ∀ dump, (dumpLayout resources).Writes Layout.noKey dump →
        dump.limitedReading.decode (Decoder.list Resource.decoder) = .ok resources := by
  have hjson := json_dumpLayout resources
  have htrimmed : ∀ dump, (dumpLayout resources).Writes Layout.noKey dump →
      dump.limitedReading.decode (Decoder.list Resource.decoder) = .ok resources := by
    intro dump hwrites
    have hless := Layout.depth_le_of_writes _ hwrites
    rw [hjson] at hless
    exact decode_of_writes hwrites (hless.trans hdepth)
  have hfull := Layout.writes_json Layout.noKey (dumpLayout resources)
  rw [hjson] at hfull
  exact ⟨htrimmed _ hfull, hjson, htrimmed⟩

/-- Parcels with a list of objects in them, of which one shape is empty and one is not there. -/
def parcelResources : List Resource :=
  [{ name := "parcel"
     collectionPath := "/parcels"
     create := some
       [{ name := "stops", source := "Stops \"all\""
          kind := .object [{ name := "null", source := "", kind := .map .float }] true
          enumValues := [""], description := some "" }]
     read := some [] }]

/-- The dump of the parcels without the keys that have their defaults. -/
def parcelDump : Json :=
  .array
    [.object
      [("name", .string "parcel"),
       ("collection_path", .string "/parcels"),
       ("create_schema", .array
         [.object
           [("name", .string "stops"),
            ("source_name", .string "Stops \"all\""),
            ("kind", .object
              [("object", .object
                [("nested", .array
                   [.object
                     [("name", .string "null"), ("source_name", .string ""),
                      ("kind", .object [("map", .string "float")])]]),
                 ("repeated", .bool true)])]),
            ("enum_values", .array [.string ""]),
            ("description", .string "")]]),
       ("read_schema", .array [])]]

theorem writes_parcelDump : (dumpLayout parcelResources).Writes Layout.noKey parcelDump := by
  have hstop : (Field.layout { name := "null", source := "", kind := .map .float }).Writes
      Layout.noKey (.object [("name", .string "null"), ("source_name", .string ""),
        ("kind", .object [("map", .string "float")])]) :=
    .record (.given (.plain _) <| .given (.plain _) <| .given (.map (.cons (.plain _) .nil)) <|
      .omitted rfl <| .omitted rfl <| .omitted rfl <| .omitted rfl .nil) (by simp)
  have hstops : (Field.kindLayout
      (.object [{ name := "null", source := "", kind := .map .float }] true)).Writes
      Layout.noKey _ :=
    .map (.cons (.record (.given (.list (.cons hstop .nil)) <| .given (.plain _) .nil) (by simp))
      .nil)
  refine .list (.cons (.record (.given (.plain _) <| .given (.plain _) <| .omitted rfl <|
    .given ?_ <| .given (.list .nil) <| .omitted rfl <| .omitted rfl .nil) (by simp)) .nil)
  exact .list (.cons (.record (.given (.plain _) <| .given (.plain _) <| .given hstops <|
    .given (.list (.cons (.plain _) .nil)) <| .omitted rfl <| .omitted rfl <|
    .given (.plain _) .nil) (by simp)) .nil)

theorem decode_parcelDump :
    (encodeResources parcelResources).depth ≤ Json.nestingLimit ∧
      (encodeResources parcelResources).limitedReading.decode (Decoder.list Resource.decoder) =
        .ok parcelResources ∧
      parcelDump.limitedReading.decode (Decoder.list Resource.decoder) = .ok parcelResources := by
  have hdepth : (encodeResources parcelResources).depth ≤ Json.nestingLimit := by decide
  obtain ⟨hfull, -, htrimmed⟩ := decode_encodeResources hdepth
  exact ⟨hdepth, hfull, htrimmed parcelDump writes_parcelDump⟩

end ProviderGen
