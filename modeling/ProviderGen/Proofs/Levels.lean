/-
The levels of attributes.

An attribute of object kind holds a list of attributes, which together with the outermost list
make the levels of a resource. Every level that comes from a document is the outcome of one
expansion, so it mirrors the properties of one schema: there is one attribute for each property,
in their order, and it has the key as its source and the snake spelling of the key as its name.
The keys of the properties of a schema are distinct in every document that was read, and so are
the sources of a level. Merging the payloads of a resource takes over attributes whose sources
are new, and the identifier that is put in front of all has a source that is not there.
-/
import ProviderGen.Generation.Context
import ProviderGen.Proofs.Calls
import ProviderGen.Proofs.Demands
import ProviderGen.Proofs.Discovery
import ProviderGen.Proofs.DistinctKeys
import ProviderGen.Proofs.Nesting
import ProviderGen.Resource.Parse

set_option autoImplicit false

namespace ProviderGen

/-! ## Levels -/

/-- The lists of attributes that some attributes make: their own, and that inside each attribute
of such a list. -/
inductive Level (fields : List Field) : List Field → Prop
  | outermost : Level fields fields
  | inside {level : List Field} {field : Field} :
      Level fields level → field ∈ level → Level fields field.inner

/-- A level is the outermost one or a level of what one of the attributes holds. -/
theorem level_iff {fields level : List Field} :
    Level fields level ↔ level = fields ∨ ∃ field ∈ fields, Level field.inner level := by
  constructor
  · intro h
    induction h with
    | outermost => exact Or.inl rfl
    | @inside level field hlevel hfield ih =>
      rcases ih with rfl | ⟨outer, houter, hbelow⟩
      · exact Or.inr ⟨field, hfield, .outermost⟩
      · exact Or.inr ⟨outer, houter, .inside hbelow hfield⟩
  · rintro (rfl | ⟨field, hfield, hlevel⟩)
    · exact .outermost
    · induction hlevel with
      | outermost => exact .inside .outermost hfield
      | inside _ hinner ih => exact .inside ih hinner

/-- Attributes that mirror properties: one for each, in order, called after its key. -/
def Mirrors (properties : List (String × Schema)) (level : List Field) : Prop :=
  List.Forall₂ (fun entry field => field.source = entry.1 ∧ field.name = Naming.snake entry.1)
    properties level

theorem Mirrors.spelled {properties : List (String × Schema)} {level : List Field}
    (h : Mirrors properties level) : ∀ field ∈ level, field.name = Naming.snake field.source := by
  intro field hfield
  obtain ⟨entry, -, hsource, hname⟩ := exists_of_forall₂ h hfield
  rw [hname, hsource]

theorem Mirrors.sources {properties : List (String × Schema)} {level : List Field}
    (h : Mirrors properties level) : level.map Field.source = properties.map Prod.fst :=
  (map_eq_map_of_forall₂ h fun _ _ hfield => hfield.1.symm).symm

namespace Document

variable {doc : Document} {body : Schema}

/-! ## Levels of an expansion -/

/-- What an attribute holds that is made of a property: nothing, or the attributes of the schema
that the property calls for. -/
theorem inner_of_attributeOf {nested : Schema → Outcome (List Field)} {required : List String}
    {property : String × Schema} {field : Field}
    (h : doc.attributeOf nested required property = some (.ok field)) :
    field.inner = [] ∨
      ∃ target inside repeated, doc.demand property.2 = .ok (target, .nested inside repeated) ∧
        nested inside = some (.ok field.inner) := by
  obtain ⟨target, demand, kind, hdemand, hkind, rfl⟩ := attributeOf_eq_ok_iff.mp h
  cases demand with
  | leaf kind' =>
    left
    obtain rfl := Except.ok.inj (Option.some.inj hkind)
    change kind'.nested?.getD [] = []
    obtain ⟨-, hdemanded⟩ := demand_eq_ok_iff.mp hdemand
    rw [(demandOf_eq_ok_iff.mp hdemanded).nested?_of_leaf, Option.getD_none]
  | nested inside repeated =>
    right
    obtain ⟨fields, hfields, hobject⟩ := Outcome.andThen_eq_ok_iff.mp hkind
    obtain rfl := Except.ok.inj (Option.some.inj hobject)
    exact ⟨target, inside, repeated, hdemand, hfields⟩

/-- A list of attributes that an expansion ends with. -/
def Expanded (doc : Document) (body : Schema) (level : List Field) : Prop :=
  ∃ depth stack schema, schema ∈ doc.parts body ∧ doc.expand depth stack schema = some (.ok level)

/-- What an attribute holds that comes from an expansion is nothing or comes from one too. -/
theorem Expanded.inner {level : List Field} (h : doc.Expanded body level) {field : Field}
    (hfield : field ∈ level) : field.inner = [] ∨ doc.Expanded body field.inner := by
  obtain ⟨depth, stack, schema, hschema, hexpand⟩ := h
  cases depth with
  | zero => cases hexpand
  | succ depth =>
    obtain ⟨resolved, names, henter, hfields⟩ := expand_succ_eq_ok_iff.mp hexpand
    obtain ⟨entry, hentry, hattribute⟩ := exists_of_forall₂ hfields hfield
    rcases inner_of_attributeOf hattribute with hnone | ⟨target, inside, _, hdemand, hnested⟩
    · exact Or.inl hnone
    · -- the expansion inside is that of a part of the body, one level of depth lower
      have hresolved := (chain_of_enter henter).1.last_mem_parts hschema
      have hproperty := mem_parts_of_mem_children hresolved (Schema.property_mem_children hentry)
      exact Or.inr ⟨depth, _, inside, nested_mem_parts hproperty hdemand, hnested⟩

theorem Expanded.level {fields level : List Field} (h : doc.Expanded body fields)
    (hlevel : Level fields level) : level = [] ∨ doc.Expanded body level := by
  induction hlevel with
  | outermost => exact Or.inr h
  | @inside level field _ hfield ih =>
    rcases ih with rfl | hexpanded
    · cases hfield
    · exact hexpanded.inner hfield

/-- What comes from an expansion mirrors the properties of a schema. -/
theorem Expanded.mirrors {level : List Field} (h : doc.Expanded body level) :
    ∃ schema ∈ doc.parts body, Mirrors schema.properties level := by
  obtain ⟨depth, stack, schema, hschema, hexpand⟩ := h
  cases depth with
  | zero => cases hexpand
  | succ depth =>
    obtain ⟨resolved, names, henter, hfields⟩ := expand_succ_eq_ok_iff.mp hexpand
    refine ⟨resolved, (chain_of_enter henter).1.last_mem_parts hschema, hfields.imp ?_⟩
    intro entry field hattribute
    obtain ⟨target, demand, kind, -, -, rfl⟩ := attributeOf_eq_ok_iff.mp hattribute
    exact ⟨rfl, rfl⟩

/-- Every level of the attributes of a body mirrors the properties of a schema, or is empty. -/
theorem mirrors_of_flattenBody {fields level : List Field}
    (h : doc.flattenBody body = some (.ok fields)) (hlevel : Level fields level) :
    level = [] ∨ ∃ schema ∈ doc.parts body, Mirrors schema.properties level := by
  obtain ⟨depth, hdepth⟩ := flattenBody_eq_some_iff.mp h
  obtain ⟨target, htarget, hexpand⟩ := expandBody_eq_ok_iff.mp hdepth
  have hexpanded : doc.Expanded body fields :=
    ⟨depth, [], target, bodyTarget_mem_parts htarget, hexpand⟩
  exact (hexpanded.level hlevel).imp_right Expanded.mirrors

end Document

/-! ## Names and keys -/

/-- Attributes that are called after their keys, no two of which have one key. -/
structure NamedByKey (level : List Field) : Prop where
  spelled : ∀ field ∈ level, field.name = Naming.snake field.source
  distinct : (level.map Field.source).Nodup

theorem namedByKey_nil : NamedByKey [] := ⟨by simp, List.nodup_nil⟩

theorem Mirrors.namedByKey {properties : List (String × Schema)} {level : List Field}
    (h : Mirrors properties level) (hproperties : Table.Distinct properties) : NamedByKey level := by
  refine ⟨h.spelled, ?_⟩
  rw [h.sources]
  exact hproperties

theorem level_nil_iff {level : List Field} : Level [] level ↔ level = [] := by
  rw [level_iff]
  simp

/-- In a document that was read, the levels of a payload are named by its keys. -/
theorem Document.Flattens.namedByKey {doc : Document} (hdoc : doc.Keyed) {schema : Option Schema}
    (hschema : ∀ body, schema = some body → body.Keyed) {payload : Option (List Field)}
    (h : doc.Flattens schema payload) {level : List Field} (hlevel : Level (payload.getD []) level) :
    NamedByKey level := by
  cases payload with
  | none =>
    rw [level_nil_iff.mp hlevel]
    exact namedByKey_nil
  | some fields =>
    obtain ⟨body, hbody, hflatten⟩ := Option.map_eq_some_iff.mp h
    rcases mirrors_of_flattenBody hflatten hlevel with rfl | ⟨part, hpart, hmirrors⟩
    · exact namedByKey_nil
    · exact hmirrors.namedByKey (hdoc.parts (hschema body hbody) hpart)

/-! ## Merging -/

/-- What is added to attributes keeps them named by their keys. -/
theorem NamedByKey.addMissing {fields : List Field} (h : NamedByKey fields) {field : Field}
    (hfield : field.name = Naming.snake field.source) : NamedByKey (addMissing fields field) := by
  unfold ProviderGen.addMissing
  split
  · exact h
  · next hnew =>
    refine ⟨?_, ?_⟩
    · intro other hother
      rcases List.mem_append.mp hother with hold | hlast
      · exact h.spelled other hold
      · rw [List.mem_singleton.mp hlast]
        exact hfield
    · rw [List.map_append, List.nodup_append]
      refine ⟨h.distinct, by simp, ?_⟩
      rintro source hsource other hother rfl
      obtain ⟨old, hold, rfl⟩ := List.mem_map.mp hsource
      refine hnew (List.any_eq_true.mpr ⟨old, hold, ?_⟩)
      rw [beq_iff_eq]
      exact List.mem_singleton.mp hother

theorem NamedByKey.foldl_addMissing {fields more : List Field} (h : NamedByKey fields)
    (hmore : ∀ field ∈ more, field.name = Naming.snake field.source) :
    NamedByKey (more.foldl ProviderGen.addMissing fields) := by
  induction more generalizing fields with
  | nil => exact h
  | cons field more ih =>
    obtain ⟨hfield, hrest⟩ := List.forall_mem_cons.mp hmore
    exact ih (h.addMissing hfield) hrest

/-- A merged attribute is one of those to begin with, or one that was added for reading only. -/
theorem mem_foldl_addMissing {fields more : List Field} {field : Field}
    (h : field ∈ more.foldl addMissing fields) :
    field ∈ fields ∨ ∃ origin ∈ more, field = origin.asReadOnly := by
  induction more generalizing fields with
  | nil => exact Or.inl h
  | cons next more ih =>
    rcases ih h with hadded | ⟨origin, hmore, hfield⟩
    · unfold addMissing at hadded
      split at hadded
      · exact Or.inl hadded
      · rcases List.mem_append.mp hadded with hold | hlast
        · exact Or.inl hold
        · exact Or.inr ⟨next, List.mem_cons_self .., List.mem_singleton.mp hlast⟩
    · exact Or.inr ⟨origin, List.mem_cons_of_mem _ hmore, hfield⟩

/-- A merged attribute holds what an attribute of one of the payloads holds. -/
theorem exists_inner_of_mem_foldl {fields more : List Field} {field : Field}
    (h : field ∈ more.foldl addMissing fields) :
    ∃ origin, (origin ∈ fields ∨ origin ∈ more) ∧ field.inner = origin.inner := by
  rcases mem_foldl_addMissing h with hfields | ⟨origin, hmore, rfl⟩
  · exact ⟨field, Or.inl hfields, rfl⟩
  · exact ⟨origin, Or.inr hmore, rfl⟩

namespace Resource

variable {r : Resource}

/-- The attributes of a resource are named by their keys if those of its payloads are. -/
theorem namedByKey_attributes (hcreate : NamedByKey (r.create.getD []))
    (hread : NamedByKey (r.read.getD [])) : NamedByKey r.attributes := by
  have hmerged : NamedByKey r.merged := hcreate.foldl_addMissing hread.spelled
  unfold attributes
  split
  · exact hmerged
  · next hid =>
    have hspelled : r.identifier.name = Naming.snake r.identifier.source := by
      change "id" = Naming.snake "id"
      decide
    refine ⟨List.forall_mem_cons.mpr ⟨hspelled, hmerged.spelled⟩, ?_⟩
    rw [List.map_cons, List.nodup_cons]
    refine ⟨fun hmem => ?_, hmerged.distinct⟩
    -- an attribute with the key of the identifier would have its name
    obtain ⟨field, hfield, hsource⟩ := List.mem_map.mp hmem
    refine hid (List.any_eq_true.mpr ⟨field, hfield, ?_⟩)
    rw [beq_iff_eq, hmerged.spelled field hfield, hsource]
    exact hspelled.symm

theorem records_identifiers :
    r.records.map Record.identifier = r.attributes.map fun field => fieldIdentifier field.name := by
  unfold records recordsOf
  rw [Field.toRecords_eq, List.map_map]
  exact List.map_congr_left fun field _ => field.toRecord_identifier _ _

/-- What is not read-only comes from the payload that creates one. -/
theorem mem_create_of_readOnly_eq_false {field : Field} (h : field ∈ r.attributes)
    (hset : field.readOnly = false) : field ∈ r.create.getD [] := by
  have hmerged : field ∈ r.merged := by
    unfold attributes at h
    split at h
    · exact h
    · rcases List.mem_cons.mp h with rfl | hmem
      · cases hset
      · exact hmem
  rcases mem_foldl_addMissing hmerged with hcreate | ⟨origin, -, rfl⟩
  · exact hcreate
  · cases hset

/-- A level of the attributes is the outermost one, or a level of one of the payloads if it is not
empty. -/
theorem level_attributes {level : List Field} (h : Level r.attributes level) :
    level = r.attributes ∨ level = [] ∨ Level (r.create.getD []) level ∨
      Level (r.read.getD []) level := by
  refine (level_iff.mp h).imp_right ?_
  rintro ⟨field, hfield, hlevel⟩
  have horigin : field = r.identifier ∨ field ∈ r.merged := by
    unfold attributes at hfield
    split at hfield
    · exact Or.inr hfield
    · exact List.mem_cons.mp hfield
  rcases horigin with rfl | hmerged
  · exact Or.inl (level_nil_iff.mp hlevel)
  · right
    obtain ⟨origin, hcreate | hread, hinner⟩ := exists_inner_of_mem_foldl hmerged
    · rw [hinner] at hlevel
      exact Or.inl (level_iff.mpr (Or.inr ⟨origin, hcreate, hlevel⟩))
    · rw [hinner] at hlevel
      exact Or.inr (level_iff.mpr (Or.inr ⟨origin, hread, hlevel⟩))

end Resource

/-! ## Resources of a document -/

namespace Document

variable {doc : Document}

/-- A resource stands for a collection of its document. -/
theorem exists_standsFor {resources : List Resource} (h : doc.resources = .ok resources)
    {r : Resource} (hr : r ∈ resources) : ∃ entry ∈ doc.collections, doc.StandsFor entry r := by
  obtain ⟨attached, hstands, -, rfl⟩ := exists_standsFor_of_resources h
  exact exists_of_forall₂ hstands (List.mem_mergeSort.mp hr)

theorem names_nodup {resources : List Resource} (h : doc.resources = .ok resources) :
    (resources.map Resource.name).Nodup := by
  obtain ⟨attached, -, hnames, rfl⟩ := exists_standsFor_of_resources h
  exact ((List.mergeSort_perm attached _).map Resource.name).nodup_iff.mpr hnames

end Document

/-- The resources of a document are named by their collections, each with a name of its own. -/
theorem names_of_parseDocument {bytes : ByteArray} {resources : List Resource}
    (h : parseDocument bytes = .ok resources) :
    (resources.map Resource.name).Nodup ∧
      ∀ r ∈ resources, r.name = Naming.resourceName r.collectionPath := by
  obtain ⟨doc, -, hresources⟩ := bind_eq_ok_iff.mp h
  refine ⟨Document.names_nodup hresources, fun r hr => ?_⟩
  obtain ⟨entry, -, hstands⟩ := Document.exists_standsFor hresources hr
  rw [hstands.path, hstands.name]

/-- **Attributes are named by the keys of the document.** At every level an attribute has as its
name the snake spelling of its key, and no two attributes of one level have one key. -/
theorem namedByKey_of_parseDocument {bytes : ByteArray} {resources : List Resource}
    (h : parseDocument bytes = .ok resources) {r : Resource} (hr : r ∈ resources)
    {level : List Field} (hlevel : Level r.attributes level) : NamedByKey level := by
  obtain ⟨doc, hdoc, hresources⟩ := bind_eq_ok_iff.mp h
  have hkeyed := Document.keyed_of_ofBytes hdoc
  obtain ⟨entry, hentry, hstands⟩ := Document.exists_standsFor hresources hr
  have hitem : entry.2.Keyed := hkeyed.paths.each entry (Document.mem_collections_iff.mp hentry).1
  -- both payloads come from schemas of the item at the path, which was read with the document
  have hcreate {level : List Field} : Level (r.create.getD []) level → NamedByKey level :=
    hstands.create.namedByKey hkeyed fun _ => hitem.requestSchema
  have hread {level : List Field} : Level (r.read.getD []) level → NamedByKey level :=
    hstands.read.namedByKey hkeyed fun _ => hitem.responseSchema
  rcases r.level_attributes hlevel with rfl | rfl | hbelow | hbelow
  · exact r.namedByKey_attributes (hcreate .outermost) (hread .outermost)
  · exact namedByKey_nil
  · exact hcreate hbelow
  · exact hread hbelow

end ProviderGen
