/-
In a document that was read, no map has a key twice.

A text can give one key of a map several times, but what the reader makes of it is a table. The
tables of a document are its paths, its components, the properties of its schemas, and the
responses and contents of its operations. What is shown of each decoder is that what it reads is
keyed through and through; then so are the schemas of requests and responses and those that a
reference leads to, which are all that resources are made from.
-/
import ProviderGen.Document.Load
import ProviderGen.Proofs.Decoders
import ProviderGen.Proofs.Parts

set_option autoImplicit false

namespace ProviderGen

open Decoder

/-! ## Schemas -/

namespace Schema

/-- No schema within a schema, itself included, has a property key twice. -/
def Keyed (schema : Schema) : Prop := ∀ part ∈ schema.parts, Table.Distinct part.properties

/-- What a schema is made of has no property key twice. -/
structure KeyedInside (schema : Schema) : Prop where
  properties : Table.Each Keyed schema.properties
  items : ∀ items ∈ schema.items, Keyed items
  additional : ∀ value, schema.additional = some (.schema value) → Keyed value

theorem keyed_iff {schema : Schema} : schema.Keyed ↔ schema.KeyedInside := by
  have hparts : schema.Keyed ↔
      Table.Distinct schema.properties ∧ ∀ child ∈ schema.children, child.Keyed := by
    unfold Keyed
    rw [parts_eq, List.forall_mem_cons, List.forall_mem_flatMap]
  rw [hparts]
  constructor
  · rintro ⟨hdistinct, hchildren⟩
    exact ⟨⟨hdistinct, fun entry hentry => hchildren _ (property_mem_children hentry)⟩,
      fun items hitems => hchildren _ (items_mem_children hitems),
      fun value hvalue => hchildren _ (additional_mem_children hvalue)⟩
  · rintro ⟨hproperties, hitems, hadditional⟩
    refine ⟨hproperties.distinct, fun child hchild => ?_⟩
    rcases mem_children_iff.mp hchild with ⟨entry, hentry, rfl⟩ | h | h
    · exact hproperties.each entry hentry
    · exact hitems child h
    · exact hadditional child h

theorem fields_keep {inner : Decoder Schema} (hinner : Decoder.Yields Keyed inner) :
    ∀ field ∈ fields inner, Decoder.Keeps KeyedInside field := by
  -- all fields but three leave what is inside alone
  have hother {α : Type} {name : String} {decode : Decoder α} {update : α → Schema → Schema}
      (hupdate : ∀ value schema, (update value schema).properties = schema.properties ∧
        (update value schema).items = schema.items ∧
        (update value schema).additional = schema.additional) :
      Decoder.Keeps KeyedInside (defaulted name decode update) := by
    refine defaulted_keeps (yields_any decode) fun value _ schema h => ?_
    obtain ⟨hproperties, hitems, hadditional⟩ := hupdate value schema
    exact ⟨hproperties ▸ h.properties, hitems ▸ h.items, hadditional ▸ h.additional⟩
  have hadditional : Yields (fun value => ∀ schema, value = Additional.schema schema → Keyed schema)
      (Additional.decoder inner) := by
    refine untagged_yields (List.forall_mem_cons.mpr ⟨fun setting depth node => ?_,
      List.forall_mem_singleton.mpr fun setting depth node => ?_⟩)
    · exact Step.yields_map (Step.yields_true _) fun _ _ schema h => by cases h
    · exact Step.yields_map (hinner setting depth node) fun value hvalue schema h => by
        cases h
        exact hvalue
  simp only [fields, List.forall_mem_cons]
  refine ⟨hother ?_, hother ?_, hother ?_, ?properties, hother ?_, ?items, ?additional, hother ?_,
    hother ?_, hother ?_, by simp⟩
  case properties =>
    exact defaulted_keeps (table_yields hinner) fun value hvalue schema h =>
      ⟨hvalue, h.items, h.additional⟩
  case items =>
    exact defaulted_keeps (optional_yields hinner) fun value hvalue schema h =>
      ⟨h.properties, hvalue, h.additional⟩
  case additional =>
    refine defaulted_keeps (optional_yields hadditional) fun value hvalue schema h =>
      ⟨h.properties, h.items, fun inside hinside => ?_⟩
    exact hvalue _ hinside inside rfl
  all_goals exact fun _ _ => ⟨rfl, rfl, rfl⟩

theorem keyedInside_default : KeyedInside {} := ⟨Table.each_nil, by simp, by simp⟩

/-- A schema that was read has no property key twice, and neither has any within it. -/
theorem decoder_yields : Yields Keyed Schema.decoder := by
  have hgeneration : ∀ generation, Yields Keyed (Schema.decoderFor generation) := by
    intro generation
    -- on the depth that is left: a schema within a schema is read by the decoder one lower
    induction generation with
    | zero => exact fun _ _ _ => Step.yields_fail _
    | succ generation ih =>
      intro setting depth node before value after hrun
      exact keyed_iff.mpr
        (record_yields keyedInside_default (fields_keep ih) setting depth node before value after hrun)
  exact fun setting depth node => hgeneration (depth + 1) setting depth node

end Schema

/-! ## Operations -/

/-- The schema of a content has no property key twice. -/
def MediaType.Keyed (media : MediaType) : Prop := ∀ schema ∈ media.schema, schema.Keyed

theorem MediaType.decoder_yields : Yields MediaType.Keyed MediaType.decoder := by
  refine record_yields (by simp [MediaType.Keyed]) (List.forall_mem_singleton.mpr ?_)
  exact defaulted_keeps (optional_yields Schema.decoder_yields) fun schema hschema _ _ => hschema

theorem keyed_of_jsonSchema {content : Table MediaType} (h : Table.Each MediaType.Keyed content)
    {schema : Schema} (hschema : jsonSchema content = some schema) : schema.Keyed := by
  obtain ⟨media, hmedia, hin⟩ := Option.bind_eq_some_iff.mp hschema
  exact h.of_lookup hmedia schema hin

/-- The contents of a response, by their media types. -/
def Response.Keyed (response : Response) : Prop := Table.Each MediaType.Keyed response.content

theorem Response.decoder_yields : Yields Response.Keyed Response.decoder := by
  refine record_yields Table.each_nil ?_
  simp only [List.forall_mem_cons]
  refine ⟨?_, ?_, by simp⟩
  · exact defaulted_keeps (yields_any _) fun _ _ _ h => h
  · exact defaulted_keeps (table_yields MediaType.decoder_yields) fun _ hcontent _ _ => hcontent

/-- The contents of the body of a request, by their media types. -/
def RequestBody.Keyed (body : RequestBody) : Prop := Table.Each MediaType.Keyed body.content

theorem RequestBody.decoder_yields : Yields RequestBody.Keyed RequestBody.decoder := by
  refine record_yields Table.each_nil ?_
  simp only [List.forall_mem_cons]
  refine ⟨?_, ?_, ?_, by simp⟩
  · exact defaulted_keeps (yields_any _) fun _ _ _ h => h
  · exact defaulted_keeps (table_yields MediaType.decoder_yields) fun _ hcontent _ _ => hcontent
  · exact defaulted_keeps (yields_any _) fun _ _ _ h => h

/-- The tables in an operation. -/
structure Operation.Keyed (op : Operation) : Prop where
  body : ∀ body ∈ op.requestBody, body.Keyed
  responses : Table.Each Response.Keyed op.responses

theorem Operation.decoder_yields : Yields Operation.Keyed Operation.decoder := by
  refine record_yields ⟨by simp, Table.each_nil⟩ ?_
  simp only [List.forall_mem_cons]
  refine ⟨?_, ?_, ?_, ?body, ?responses, ?_, by simp⟩
  case body =>
    exact defaulted_keeps (optional_yields RequestBody.decoder_yields) fun _ hbody _ h =>
      ⟨hbody, h.responses⟩
  case responses =>
    exact defaulted_keeps (table_yields Response.decoder_yields) fun _ hresponses _ h =>
      ⟨h.body, hresponses⟩
  all_goals exact defaulted_keeps (yields_any _) fun _ _ _ h => ⟨h.body, h.responses⟩

namespace PathItem

/-- The operations that payloads are taken from. -/
structure Keyed (item : PathItem) : Prop where
  get : ∀ op ∈ item.get, op.Keyed
  post : ∀ op ∈ item.post, op.Keyed
  put : ∀ op ∈ item.put, op.Keyed
  patch : ∀ op ∈ item.patch, op.Keyed

theorem decoder_yields : Yields Keyed PathItem.decoder := by
  have hop := optional_yields Operation.decoder_yields
  refine record_yields ⟨by simp, by simp, by simp, by simp⟩ ?_
  simp only [List.forall_mem_cons]
  refine ⟨?_, ?_, ?_, ?_, ?_, by simp⟩
  · exact defaulted_keeps hop fun _ hget _ h => ⟨hget, h.post, h.put, h.patch⟩
  · exact defaulted_keeps hop fun _ hpost _ h => ⟨h.get, hpost, h.put, h.patch⟩
  · exact defaulted_keeps hop fun _ hput _ h => ⟨h.get, h.post, hput, h.patch⟩
  · exact defaulted_keeps hop fun _ hpatch _ h => ⟨h.get, h.post, h.put, hpatch⟩
  · exact defaulted_keeps hop fun _ _ _ h => ⟨h.get, h.post, h.put, h.patch⟩

variable {item : PathItem} {schema : Schema}

theorem Keyed.requestSchema (h : item.Keyed) (hschema : item.requestSchema = some schema) :
    schema.Keyed := by
  obtain ⟨op, hop, hbody⟩ := List.exists_of_findSome?_eq_some hschema
  obtain ⟨body, hrequest, hcontent⟩ := Option.bind_eq_some_iff.mp hbody
  have hkeyed : op.Keyed := by
    obtain ⟨op?, hmem, rfl⟩ := List.mem_filterMap.mp hop
    simp only [List.mem_cons, List.not_mem_nil, or_false] at hmem
    rcases hmem with hpost | hput | hpatch
    · exact h.post op hpost.symm
    · exact h.put op hput.symm
    · exact h.patch op hpatch.symm
  exact keyed_of_jsonSchema (hkeyed.body body hrequest) hcontent

theorem Keyed.responseSchema (h : item.Keyed) (hschema : item.responseSchema = some schema) :
    schema.Keyed := by
  obtain ⟨op, hop, hresponses⟩ := Option.bind_eq_some_iff.mp hschema
  obtain ⟨response, hresponse, hcontent⟩ := Option.bind_eq_some_iff.mp hresponses
  exact keyed_of_jsonSchema ((h.get op hop).responses.of_lookup hresponse) hcontent

end PathItem

/-! ## Documents -/

/-- The component schemas. -/
def Components.Keyed (components : Components) : Prop :=
  Table.Each Schema.Keyed components.schemas

theorem Components.decoder_yields : Yields Components.Keyed Components.decoder := by
  refine record_yields Table.each_nil (List.forall_mem_singleton.mpr ?_)
  exact defaulted_keeps (table_yields Schema.decoder_yields) fun _ hschemas _ _ => hschemas

namespace Document

/-- The tables of a document. -/
structure Keyed (doc : Document) : Prop where
  paths : Table.Each PathItem.Keyed doc.paths
  components : ∀ components ∈ doc.components, components.Keyed

theorem decoder_yields : Yields Keyed Document.decoder := by
  refine record_yields ⟨Table.each_nil, by simp⟩ ?_
  simp only [List.forall_mem_cons]
  refine ⟨?_, ?_, ?_, ?_, by simp⟩
  · exact required_keeps (yields_any _) fun _ _ _ h => ⟨h.paths, h.components⟩
  · exact required_keeps (yields_any _) fun _ _ _ h => ⟨h.paths, h.components⟩
  · exact defaulted_keeps (table_yields PathItem.decoder_yields) fun _ hpaths _ h =>
      ⟨hpaths, h.components⟩
  · exact defaulted_keeps (optional_yields Components.decoder_yields) fun _ hcomponents _ h =>
      ⟨h.paths, hcomponents⟩

theorem decode_yields {α : Type} {p : α → Prop} {decode : Decoder α} (h : Yields p decode)
    {reading : Reading} {value : α} (hread : reading.decode decode = .ok value) : p value := by
  obtain ⟨⟨value', after⟩, hrun, hclean⟩ := bind_eq_ok_iff.mp hread
  dsimp only at hclean
  split at hclean
  · cases hclean
    exact h _ _ _ 0 value after hrun
  · cases hclean

theorem keyed_of_ofText {format : Format} {text : String} {doc : Document}
    (h : ofText format text = .ok doc) : doc.Keyed := by
  unfold ofText at h
  dsimp only at h
  split at h
  · next read hread =>
    have hsame : doc = read := by
      unfold accept at h
      split at h <;> cases h
      rfl
    rw [hsame]
    exact decode_yields decoder_yields hread
  · cases h

/-- **A document that was read has no key twice**, in none of its maps. -/
theorem keyed_of_ofBytes {bytes : ByteArray} {doc : Document} (h : ofBytes bytes = .ok doc) :
    doc.Keyed := by
  unfold ofBytes at h
  split at h
  · exact keyed_of_ofText h
  · cases h

/-! ## Schemas that resources are made from -/

variable {doc : Document}

/-- The schemas that an expansion of a body can come across have no property key twice. -/
theorem Keyed.parts (h : doc.Keyed) {body part : Schema} (hbody : body.Keyed)
    (hpart : part ∈ doc.parts body) : Table.Distinct part.properties := by
  rcases mem_parts_iff.mp hpart with ⟨entry, hentry, hin⟩ | hin
  · have hcomponent : entry.2.Keyed := by
      unfold schemas at hentry
      split at hentry
      · next components hcomponents =>
        exact (h.components components hcomponents).each entry hentry
      · cases hentry
    exact hcomponent part hin
  · exact hbody part hin

end Document

end ProviderGen
