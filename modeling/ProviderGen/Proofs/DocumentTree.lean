/-
Documents survive being written as JSON.

The keyword `type` has two written forms and so has `additionalProperties`; they are told apart by
trying one after the other, and a text is no list and a truth value no record, so that the form that
was written is the one that fits. All other types of the document model are records, maps and
lists, and have their layouts accordingly. Nothing limits the depth of a value, and the maps keep
their order.
-/
import ProviderGen.Document.Decode
import ProviderGen.Document.Encode
import ProviderGen.Proofs.LayoutReading

set_option autoImplicit false

namespace ProviderGen

open Decoder

/-! ## Layouts of documents -/

/-- The keyword `type`. -/
def TypeKeyword.layout : TypeKeyword → Layout
  | .single name => .text name
  | .multiple names => .texts names

/-- An optional text, which may be left out. -/
def textSlot (key : String) (s? : Option String) : Slot Layout :=
  ⟨key, some .null, .ofOption .text s?⟩

mutual

/-- A schema. -/
def Schema.layout : Schema → Layout
  | ⟨type, format, description, properties, required, items, additional, enumeration, readOnly,
      reference⟩ =>
    .record
      [⟨"type", some .null, .ofOption TypeKeyword.layout type⟩,
       textSlot "format" format,
       textSlot "description" description,
       ⟨"properties", some (.object []), .map (Schema.entryLayouts properties)⟩,
       ⟨"required", some (.array []), .texts required⟩,
       ⟨"items", some .null, Schema.optionalLayout items⟩,
       ⟨"additionalProperties", some .null, Schema.additionalLayout additional⟩,
       ⟨"enum", some (.array []), .list (enumeration.map .plain)⟩,
       ⟨"readOnly", some (.bool false), .flag readOnly⟩,
       textSlot "$ref" reference]

/-- Schemas by name. -/
def Schema.entryLayouts : List (String × Schema) → List (String × Layout)
  | [] => []
  | (key, schema) :: rest => (key, schema.layout) :: Schema.entryLayouts rest

/-- An optional schema. -/
def Schema.optionalLayout : Option Schema → Layout
  | none => .plain .null
  | some schema => schema.layout

/-- The keyword `additionalProperties`. -/
def Schema.additionalLayout : Option (Additional Schema) → Layout
  | none => .plain .null
  | some (.allowed b) => .flag b
  | some (.schema schema) => schema.layout

end

/-- A table, given the layouts of its values. -/
def tableLayout {α : Type} (layoutOf : α → Layout) (table : Table α) : Layout :=
  .map (table.map fun entry => (entry.1, layoutOf entry.2))

/-- The content of a body in one media type. -/
def MediaType.layout (media : MediaType) : Layout :=
  .record [⟨"schema", some .null, .ofOption Schema.layout media.schema⟩]

/-- A response. -/
def Response.layout (response : Response) : Layout :=
  .record
    [textSlot "description" response.description,
     ⟨"content", some (.object []), tableLayout MediaType.layout response.content⟩]

/-- The body of a request. -/
def RequestBody.layout (body : RequestBody) : Layout :=
  .record
    [textSlot "description" body.description,
     ⟨"content", some (.object []), tableLayout MediaType.layout body.content⟩,
     ⟨"required", some (.bool false), .flag body.required⟩]

/-- An operation. -/
def Operation.layout (op : Operation) : Layout :=
  .record
    [textSlot "operationId" op.operationId,
     textSlot "summary" op.summary,
     textSlot "description" op.description,
     ⟨"requestBody", some .null, .ofOption RequestBody.layout op.requestBody⟩,
     ⟨"responses", some (.object []), tableLayout Response.layout op.responses⟩,
     ⟨"tags", some (.array []), .texts op.tags⟩]

/-- The operations of a path. -/
def PathItem.layout (item : PathItem) : Layout :=
  .record
    [⟨"get", some .null, .ofOption Operation.layout item.get⟩,
     ⟨"post", some .null, .ofOption Operation.layout item.post⟩,
     ⟨"put", some .null, .ofOption Operation.layout item.put⟩,
     ⟨"patch", some .null, .ofOption Operation.layout item.patch⟩,
     ⟨"delete", some .null, .ofOption Operation.layout item.delete⟩]

/-- What a document says about itself: a title and a version have to be there. -/
def Info.layout (info : Info) : Layout :=
  .record
    [⟨"title", none, .text info.title⟩,
     ⟨"version", none, .text info.version⟩,
     textSlot "description" info.description]

/-- The parts others refer to. -/
def Components.layout (components : Components) : Layout :=
  .record [⟨"schemas", some (.object []), tableLayout Schema.layout components.schemas⟩]

/-- A document: the version of the format and what it says about itself have to be there. -/
def Document.layout (doc : Document) : Layout :=
  .record
    [⟨"openapi", none, .text doc.openapi⟩,
     ⟨"info", none, doc.info.layout⟩,
     ⟨"paths", some (.object []), tableLayout PathItem.layout doc.paths⟩,
     ⟨"components", some .null, .ofOption Components.layout doc.components⟩]

/-! ### What the layouts stand for -/

theorem TypeKeyword.json_layout (type : TypeKeyword) : type.layout.json = type.encode := by
  cases type with
  | single name => rfl
  | multiple names => exact Layout.json_texts names

theorem json_tableLayout {α : Type} {layoutOf : α → Layout} {encode : α → Json}
    (h : ∀ value, (layoutOf value).json = encode value) (table : Table α) :
    (tableLayout layoutOf table).json = encodeTable encode table := by
  rw [tableLayout, Layout.json, Layout.jsonEntries_map, encodeTable]
  simp only [h]

mutual

theorem Schema.json_layout : ∀ schema : Schema, schema.layout.json = schema.encode
  | ⟨_, _, _, properties, _, items, additional, _, _, _⟩ => by
    simp [Schema.layout, Schema.encode, textSlot, encodeText, Layout.json, Layout.jsonSlots,
      Layout.jsonItems_map, TypeKeyword.json_layout, Schema.json_entryLayouts properties,
      Schema.json_optionalLayout items, Schema.json_additionalLayout additional]

theorem Schema.json_entryLayouts : ∀ properties : List (String × Schema),
    Layout.jsonEntries (Schema.entryLayouts properties) = Schema.encodeEntries properties
  | [] => rfl
  | (key, schema) :: rest => by
    rw [Schema.entryLayouts, Layout.jsonEntries, Schema.json_layout schema,
      Schema.json_entryLayouts rest, Schema.encodeEntries]

theorem Schema.json_optionalLayout : ∀ schema? : Option Schema,
    (Schema.optionalLayout schema?).json = Schema.encodeOptional schema?
  | none => rfl
  | some schema => Schema.json_layout schema

theorem Schema.json_additionalLayout : ∀ additional? : Option (Additional Schema),
    (Schema.additionalLayout additional?).json = Schema.encodeAdditional additional?
  | none => rfl
  | some (.allowed _) => rfl
  | some (.schema schema) => Schema.json_layout schema

end

theorem MediaType.json_layout (media : MediaType) : media.layout.json = media.encode := by
  simp [MediaType.layout, MediaType.encode, Layout.json, Layout.jsonSlots, Schema.json_layout]

theorem Response.json_layout (response : Response) : response.layout.json = response.encode := by
  simp [Response.layout, Response.encode, textSlot, encodeText, Layout.json, Layout.jsonSlots,
    json_tableLayout MediaType.json_layout]

theorem RequestBody.json_layout (body : RequestBody) : body.layout.json = body.encode := by
  simp [RequestBody.layout, RequestBody.encode, textSlot, encodeText, Layout.json,
    Layout.jsonSlots, json_tableLayout MediaType.json_layout]

theorem Operation.json_layout (op : Operation) : op.layout.json = op.encode := by
  simp [Operation.layout, Operation.encode, textSlot, encodeText, Layout.json, Layout.jsonSlots,
    RequestBody.json_layout, json_tableLayout Response.json_layout]

theorem PathItem.json_layout (item : PathItem) : item.layout.json = item.encode := by
  simp [PathItem.layout, PathItem.encode, Layout.json, Layout.jsonSlots, Operation.json_layout]

theorem Info.json_layout (info : Info) : info.layout.json = info.encode := by
  simp [Info.layout, Info.encode, textSlot, encodeText, Layout.json, Layout.jsonSlots]

theorem Components.json_layout (components : Components) :
    components.layout.json = components.encode := by
  simp [Components.layout, Components.encode, Layout.json, Layout.jsonSlots,
    json_tableLayout Schema.json_layout]

theorem Document.json_layout (doc : Document) : doc.layout.json = doc.encode := by
  simp [Document.layout, Document.encode, Layout.json, Layout.jsonSlots, Info.json_layout,
    Components.json_layout, json_tableLayout PathItem.json_layout]

/-! ## Reading documents -/

section Reading

variable {bound : Nat}

/-! ### Schemas -/

theorem Schema.exists_layout (schema : Schema) : ∃ slots, schema.layout = .record slots := by
  obtain ⟨⟩ := schema
  exact ⟨_, rfl⟩

theorem Schema.entryLayouts_eq (properties : List (String × Schema)) :
    Schema.entryLayouts properties = properties.map fun entry => (entry.1, entry.2.layout) := by
  induction properties with
  | nil => rfl
  | cons entry rest ih => rw [Schema.entryLayouts, ih, List.map_cons]

theorem Schema.optionalLayout_eq (schema? : Option Schema) :
    Schema.optionalLayout schema? = .ofOption Schema.layout schema? := by
  cases schema? <;> rfl

/-- The layout of the keyword `additionalProperties` where it is there. -/
def Additional.layout : Additional Schema → Layout
  | .allowed b => .flag b
  | .schema s => s.layout

theorem Schema.additionalLayout_eq (additional? : Option (Additional Schema)) :
    Schema.additionalLayout additional? = .ofOption Additional.layout additional? := by
  cases additional? with
  | none => rfl
  | some additional => cases additional <;> rfl

theorem TypeKeyword.reads (type : TypeKeyword) : Reads bound TypeKeyword.decoder type.layout type := by
  cases type with
  | single name =>
    exact reads_untagged "SchemaType" (List.forall_mem_nil _) ((reads_text name).map single) _
  | multiple names =>
    refine reads_untagged "SchemaType" (List.forall_mem_singleton.mpr ?_)
      ((reads_list fun s _ => reads_text s).map multiple) []
    intro admits json hwrites setting depth followed
    -- a list is no text
    obtain ⟨values, -, rfl⟩ := hwrites.exists_of_list
    exact ⟨_, rfl⟩

theorem Additional.reads {inner : Decoder Schema}
    (hinner : ∀ schema : Schema, Reads bound inner schema.layout schema)
    (additional : Additional Schema) :
    Reads bound (Additional.decoder inner) additional.layout additional := by
  cases additional with
  | allowed b =>
    exact reads_untagged "AdditionalProperties" (List.forall_mem_nil _) ((reads_flag b).map allowed) _
  | schema schema =>
    refine reads_untagged "AdditionalProperties" (List.forall_mem_singleton.mpr ?_)
      ((hinner schema).map Additional.schema) []
    intro admits json hwrites setting depth followed
    -- a record is no truth value
    obtain ⟨slots, hslots⟩ := schema.exists_layout
    rw [hslots] at hwrites
    obtain ⟨members, -, -, -, rfl⟩ := hwrites.exists_of_record
    exact ⟨_, rfl⟩

theorem Schema.not_writes_null (schema : Schema) (admits : String → Prop) :
    ¬ schema.layout.Writes admits .null := by
  obtain ⟨slots, hslots⟩ := schema.exists_layout
  rw [hslots]
  nofun

/-- A generation reads the schemas that are entered with fewer containers left. -/
theorem Schema.decoderFor_reads (generation : Nat) (schema : Schema) :
    Reads generation (Schema.decoderFor generation) schema.layout schema := by
  induction generation generalizing schema with
  | zero => exact reads_zero _ _ _
  | succ generation ih =>
    obtain ⟨type, format, description, properties, required, items, additional, enumeration,
      readOnly, reference⟩ := schema
    have htype : Completes generation (optional TypeKeyword.decoder) .null
        (.ofOption TypeKeyword.layout type) none type := by
      refine completes_optional (fun type _ => type.reads) fun type _ admits hwrites => ?_
      cases type <;> cases hwrites
    have hproperties : Completes generation (table (Schema.decoderFor generation)) (.object [])
        (.map (properties.map fun entry => (entry.1, entry.2.layout))) [] properties :=
      completes_table fun entry _ => ih entry.2
    have hitems : Completes generation (optional (Schema.decoderFor generation)) .null
        (.ofOption Schema.layout items) none items :=
      completes_optional (fun schema _ => ih schema) fun schema _ => schema.not_writes_null
    have hadditional : Completes generation
        (optional (Additional.decoder (Schema.decoderFor generation))) .null
        (.ofOption Additional.layout additional) none additional := by
      refine completes_optional (fun value _ => value.reads ih) fun value _ admits hwrites => ?_
      cases value with
      | allowed b => cases hwrites
      | schema schema => exact schema.not_writes_null admits hwrites
    have henumeration : Completes generation (Decoder.list literal) (.array [])
        (.list (enumeration.map .plain)) [] enumeration :=
      completes_list fun value _ => reads_literal value
    rw [← Schema.entryLayouts_eq] at hproperties
    rw [← Schema.optionalLayout_eq] at hitems
    rw [← Schema.additionalLayout_eq] at hadditional
    refine reads_record (by simp [Schema.fields, Decoder.defaulted]) ?_
    refine .defaulted htype rfl <| .defaulted (completes_optionalText format) rfl <|
      .defaulted (completes_optionalText description) rfl ?_
    refine .defaulted hproperties rfl <| .defaulted (completes_texts required) rfl ?_
    refine .defaulted hitems rfl <| .defaulted hadditional rfl ?_
    refine .defaulted henumeration rfl <| .defaulted (completes_flag readOnly) rfl ?_
    exact .defaulted (completes_optionalText reference) rfl (.nil _)

theorem Schema.reads (schema : Schema) : Reads bound Schema.decoder schema.layout schema :=
  .of_generations fun generation => Schema.decoderFor_reads generation schema

/-! ### Operations -/

theorem MediaType.reads (media : MediaType) :
    Reads bound MediaType.decoder media.layout media := by
  refine (reads_record (by simp [Decoder.defaulted]) ?_).weaken
  exact .defaulted (completes_optional (fun schema _ => schema.reads)
    fun schema _ => schema.not_writes_null) rfl (.nil _)

theorem Response.reads (response : Response) :
    Reads bound Response.decoder response.layout response := by
  refine (reads_record (by simp [Decoder.defaulted]) ?_).weaken
  refine .defaulted (completes_optionalText _) rfl ?_
  exact .defaulted (completes_table fun entry _ => entry.2.reads) rfl (.nil _)

theorem RequestBody.reads (body : RequestBody) :
    Reads bound RequestBody.decoder body.layout body := by
  refine (reads_record (by simp [Decoder.defaulted]) ?_).weaken
  refine .defaulted (completes_optionalText _) rfl ?_
  refine .defaulted (completes_table fun entry _ => entry.2.reads) rfl ?_
  exact .defaulted (completes_flag _) rfl (.nil _)

theorem Operation.reads (op : Operation) : Reads bound Operation.decoder op.layout op := by
  refine (reads_record (by simp [Decoder.defaulted]) ?_).weaken
  refine .defaulted (completes_optionalText _) rfl <| .defaulted (completes_optionalText _) rfl <|
    .defaulted (completes_optionalText _) rfl ?_
  refine .defaulted (completes_optional (fun body _ => body.reads) nofun) rfl ?_
  refine .defaulted (completes_table fun entry _ => entry.2.reads) rfl ?_
  exact .defaulted (completes_texts _) rfl (.nil _)

theorem PathItem.reads (item : PathItem) : Reads bound PathItem.decoder item.layout item := by
  have hop (op? : Option Operation) :
      Completes bound (optional Operation.decoder) .null (.ofOption Operation.layout op?) none op? :=
    completes_optional (fun op _ => op.reads) nofun
  refine (reads_record (by simp [Decoder.defaulted]) ?_).weaken
  exact .defaulted (hop _) rfl <| .defaulted (hop _) rfl <| .defaulted (hop _) rfl <|
    .defaulted (hop _) rfl <| .defaulted (hop _) rfl <| .nil _

/-! ### Documents -/

theorem Info.reads (info : Info) : Reads bound Info.decoder info.layout info := by
  refine (reads_record (by simp [Decoder.required, Decoder.defaulted]) ?_).weaken
  refine .required (reads_text _) <| .required (reads_text _) ?_
  exact .defaulted (completes_optionalText _) rfl (.nil _)

theorem Components.reads (components : Components) :
    Reads bound Components.decoder components.layout components := by
  refine (reads_record (by simp [Decoder.defaulted]) ?_).weaken
  exact .defaulted (completes_table fun entry _ => entry.2.reads) rfl (.nil _)

theorem Document.reads (doc : Document) : Reads bound Document.decoder doc.layout doc := by
  refine (reads_record (by simp [Decoder.required, Decoder.defaulted]) ?_).weaken
  refine .required (reads_text _) <| .required doc.info.reads ?_
  refine .defaulted (completes_table fun entry _ => entry.2.reads) rfl ?_
  exact .defaulted (completes_optional (fun components _ => components.reads) nofun) rfl (.nil _)

end Reading

/-- **Documents survive being written as JSON**, with the order of every map, if no map has a key
twice and the members of the objects among the values of enumerations are in the order of their
keys. Members that no record knows may be put into any record, and members that have their
defaults may be left out. -/
theorem Document.decode_encode {doc : Document} (hproper : doc.layout.Proper) :
    doc.encode.reading.decode Document.decoder = .ok doc ∧
      doc.layout.json = doc.encode ∧
      ∀ json, doc.layout.Writes Layout.anyKey json →
        json.reading.decode Document.decoder = .ok doc := by
  have hread : ∀ json, doc.layout.Writes Layout.anyKey json →
      json.reading.decode Document.decoder = .ok doc := by
    intro json hwrites
    refine Step.Finds.decode ?_ rfl
    exact doc.reads hproper Layout.anyKey json hwrites _ _ le_rfl (Nat.lt_succ_self _)
  have hencode := Layout.writes_json Layout.anyKey doc.layout
  rw [doc.json_layout] at hencode
  exact ⟨hread doc.encode hencode, doc.json_layout, hread⟩

/-- A schema of names, with an enumeration that has an object. -/
def namesSchema : Schema where
  type := some (.single "")
  additional := some (.allowed false)
  enumeration := [.null, .object [("a", .null), ("b", .array [])]]

/-- The schema of names with members that no schema knows. -/
def namesJson : Json :=
  .object
    [("schema", .bool false), ("type", .string ""), ("additionalProperties", .bool false),
     ("enum", .array [.null, .object [("a", .null), ("b", .array [])]]), ("nullable", .null)]

theorem writes_namesJson : namesSchema.layout.Writes Layout.anyKey namesJson :=
  .record (.foreign <| .given (.plain _) <| .omitted rfl <| .omitted rfl <| .omitted rfl <|
    .omitted rfl <| .omitted rfl <| .given (.plain _) <|
    .given (.list (.cons (.plain _) (.cons (.plain _) .nil))) <| .foreign <| .omitted rfl <|
    .omitted rfl .nil) (by simp [Layout.anyKey, textSlot])

/-- A schema of trees: its properties are not in the order of their names. -/
def treeSchema : Schema where
  type := some (.multiple ["null", "object"])
  properties := [("root", { reference := some "#/components/schemas/Tree" }), ("bark", {})]
  additional := some (.schema namesSchema)

/-- The schema of trees without the members that have their defaults. -/
def treeJson : Json :=
  .object
    [("type", .array [.string "null", .string "object"]),
     ("properties", .object
       [("root", .object [("$ref", .string "#/components/schemas/Tree")]),
        ("bark", .object [("xml", .object [])])]),
     ("additionalProperties", namesJson)]

theorem writes_treeJson : treeSchema.layout.Writes Layout.anyKey treeJson := by
  have hroot : (Schema.layout { reference := some "#/components/schemas/Tree" }).Writes
      Layout.anyKey (.object [("$ref", .string "#/components/schemas/Tree")]) :=
    .record (.omitted rfl <| .omitted rfl <| .omitted rfl <| .omitted rfl <| .omitted rfl <|
      .omitted rfl <| .omitted rfl <| .omitted rfl <| .omitted rfl <| .given (.plain _) .nil)
      (by simp)
  have hbark : (Schema.layout {}).Writes Layout.anyKey (.object [("xml", .object [])]) :=
    .record (.foreign <| .omitted rfl <| .omitted rfl <| .omitted rfl <| .omitted rfl <|
      .omitted rfl <| .omitted rfl <| .omitted rfl <| .omitted rfl <| .omitted rfl <|
      .omitted rfl .nil) (by simp [Layout.anyKey, textSlot])
  exact .record (.given (.list (.cons (.plain _) (.cons (.plain _) .nil))) <|
    .omitted rfl <| .omitted rfl <| .given (.map (.cons hroot (.cons hbark .nil))) <|
    .omitted rfl <| .omitted rfl <| .given writes_namesJson <| .omitted rfl <| .omitted rfl <|
    .omitted rfl .nil) (by simp)

/-- A document on forests: its paths are not in the order of their texts. -/
def forestDocument : Document where
  openapi := "3.1.0"
  info := { title := "Forest", version := "" }
  paths := [("/trees", { delete := some {} }), ("/", {})]
  components := some { schemas := [("Tree", treeSchema)] }

/-- The document on forests with members that no record knows, and without most of those that have
their defaults. -/
def forestJson : Json :=
  .object
    [("x-origin", .null),
     ("openapi", .string "3.1.0"),
     ("info", .object [("title", .string "Forest"), ("type", .bool true), ("version", .string "")]),
     ("paths", .object
       [("/trees", .object [("summary", .object []), ("delete", .object [("get", .null)])]),
        ("/", .object [])]),
     ("components", .object [("schemas", .object [("Tree", treeJson)])])]

theorem writes_forestJson : forestDocument.layout.Writes Layout.anyKey forestJson := by
  have hinfo : (Info.layout { title := "Forest", version := "" }).Writes Layout.anyKey
      (.object [("title", .string "Forest"), ("type", .bool true), ("version", .string "")]) :=
    .record (.given (.plain _) <| .foreign <| .given (.plain _) <| .omitted rfl .nil)
      (by simp [Layout.anyKey, textSlot])
  have hdelete : (Operation.layout {}).Writes Layout.anyKey (.object [("get", .null)]) :=
    .record (.foreign <| .omitted rfl <| .omitted rfl <| .omitted rfl <| .omitted rfl <|
      .omitted rfl <| .omitted rfl .nil) (by simp [Layout.anyKey, textSlot])
  have htrees : (PathItem.layout { delete := some {} }).Writes Layout.anyKey
      (.object [("summary", .object []), ("delete", .object [("get", .null)])]) :=
    .record (.foreign <| .omitted rfl <| .omitted rfl <| .omitted rfl <| .omitted rfl <|
      .given hdelete .nil) (by simp [Layout.anyKey])
  have hhome : (PathItem.layout {}).Writes Layout.anyKey (.object []) :=
    .record (.omitted rfl <| .omitted rfl <| .omitted rfl <| .omitted rfl <| .omitted rfl .nil)
      (by simp)
  have hschemas : (Components.layout { schemas := [("Tree", treeSchema)] }).Writes Layout.anyKey
      (.object [("schemas", .object [("Tree", treeJson)])]) :=
    .record (.given (.map (.cons writes_treeJson .nil)) .nil) (by simp)
  exact .record (.foreign <| .given (.plain _) <| .given hinfo <|
    .given (.map (.cons htrees (.cons hhome .nil))) <| .given hschemas .nil)
    (by simp [Layout.anyKey])

theorem proper_forestDocument : forestDocument.layout.Proper := by
  have hempty : Layout.Proper (.map []) := ⟨List.nodup_nil, trivial⟩
  have hschema (reference : Option String) : (Schema.layout { reference := reference }).Proper :=
    ⟨trivial, trivial, trivial, hempty, trivial, trivial, trivial, trivial, trivial,
      Layout.proper_ofOption_text reference, trivial⟩
  have hobject : Json.Ordered (.object [("a", .null), ("b", .array [])]) :=
    ⟨by decide, trivial, trivial, trivial⟩
  have hnames : namesSchema.layout.Proper :=
    ⟨trivial, trivial, trivial, hempty, trivial, trivial, trivial, ⟨trivial, hobject, trivial⟩,
      trivial, trivial, trivial⟩
  have hproperties : Layout.Proper (.map (Schema.entryLayouts treeSchema.properties)) :=
    ⟨by decide, hschema _, hschema none, trivial⟩
  have htree : treeSchema.layout.Proper :=
    ⟨Layout.proper_texts _, trivial, trivial, hproperties, trivial, trivial, hnames, trivial, trivial,
      trivial, trivial⟩
  have hdelete : (Operation.layout {}).Proper :=
    ⟨trivial, trivial, trivial, trivial, hempty, trivial, trivial⟩
  have hpaths : (tableLayout PathItem.layout forestDocument.paths).Proper :=
    ⟨by decide, ⟨trivial, trivial, trivial, trivial, hdelete, trivial⟩,
      ⟨trivial, trivial, trivial, trivial, trivial, trivial⟩, trivial⟩
  have hschemas : Layout.Proper (tableLayout Schema.layout [("Tree", treeSchema)]) :=
    ⟨by decide, htree, trivial⟩
  exact ⟨trivial, ⟨trivial, trivial, trivial, trivial⟩, hpaths, ⟨hschemas, trivial⟩, trivial⟩

theorem decode_forestJson :
    forestDocument.layout.Proper ∧
      forestDocument.encode.reading.decode Document.decoder = .ok forestDocument ∧
      forestJson.reading.decode Document.decoder = .ok forestDocument := by
  obtain ⟨hencode, -, hread⟩ := Document.decode_encode proper_forestDocument
  exact ⟨proper_forestDocument, hencode, hread forestJson writes_forestJson⟩

end ProviderGen
