/-
The attributes of a schema, at every depth.

A list of attributes mirrors the properties of a schema if there is one attribute for each
property, in order, and each has from its property and from the schema that the property resolves
to what it should. That includes the kind: if the kind is an object, its attributes mirror the
properties of another schema, that of the property or that of the items of a list. So the relation
goes down the tree of attributes, from schema to schema by way of references, and it says nothing
of stacks and depths of calls. An expansion that ends with attributes has gone the same way, which
is shown by induction on its depth.
-/
import ProviderGen.Proofs.Demands
import ProviderGen.Proofs.EnumConstraints

set_option autoImplicit false

namespace ProviderGen

namespace Document

/-! ## Attributes that mirror properties -/

/-- Following the references of a schema comes to a schema that is no reference. -/
def EndsIn (doc : Document) (schema last : Schema) : Prop :=
  ∃ names, doc.Chain schema names last ∧ last.reference = none

mutual

/-- Attributes that mirror properties: one for each, in order. -/
inductive MirrorAll (doc : Document) : List String → List (String × Schema) → List Field → Prop
  | nil {required : List String} : MirrorAll doc required [] []
  | cons {required : List String} {property : String × Schema} {field : Field}
      {properties : List (String × Schema)} {fields : List Field} :
      Mirror doc required property field → MirrorAll doc required properties fields →
      MirrorAll doc required (property :: properties) (field :: fields)

/-- An attribute that mirrors a property of a schema with some required keys. -/
inductive Mirror (doc : Document) : List String → String × Schema → Field → Prop
  | of {required : List String} {property : String × Schema} {field : Field} {resolved : Schema} :
      doc.EndsIn property.2 resolved →
      field.source = property.1 →
      field.name = Naming.snake property.1 →
      (field.required = true ↔ property.1 ∈ required) →
      field.enumValues = resolved.enumeration.map enumLiteral →
      (field.readOnly = true ↔ property.2.readOnly = true ∨ resolved.readOnly = true) →
      field.description = property.2.description.or resolved.description →
      MirrorKind doc property.2 resolved field.kind →
      Mirror doc required property field

/-- The kind of an attribute whose property resolves to a schema: one that the property has by
itself, or an object. The attributes of an object mirror what the property resolves to, and those
of a list of objects what its items do. -/
inductive MirrorKind (doc : Document) : Schema → Schema → Kind Field → Prop
  | leaf {property resolved : Schema} {kind : Kind Field} :
      doc.Demanded property resolved (.leaf kind) →
      MirrorKind doc property resolved kind
  | object {property resolved : Schema} {nested : List Field} :
      doc.Demanded property resolved (.nested property false) →
      MirrorAll doc resolved.required resolved.properties nested →
      MirrorKind doc property resolved (.object nested false)
  | objects {property resolved items target : Schema} {nested : List Field} :
      doc.Demanded property resolved (.nested items true) →
      doc.EndsIn items target →
      MirrorAll doc target.required target.properties nested →
      MirrorKind doc property resolved (.object nested true)

end

variable {doc : Document}

theorem mirrorAll_iff_forall₂ {required : List String} {properties : List (String × Schema)}
    {fields : List Field} :
    doc.MirrorAll required properties fields ↔
      List.Forall₂ (doc.Mirror required) properties fields := by
  constructor
  · intro h
    induction properties generalizing fields with
    | nil => cases h; exact .nil
    | cons property properties ih =>
      cases h with
      | cons hfirst hrest => exact .cons hfirst (ih hrest)
  · intro h
    induction h with
    | nil => exact .nil
    | cons hfirst _ ih => exact .cons hfirst ih

theorem endsIn_of_resolve {schema resolved : Schema} (h : doc.resolve schema = .ok resolved) :
    doc.EndsIn schema resolved :=
  exists_chain_of_resolve h

theorem endsIn_of_enter {stack : Stack} {schema resolved : Schema} {names : List String}
    (h : doc.enter stack schema = .ok (resolved, names)) : doc.EndsIn schema resolved :=
  ⟨names, (chain_of_enter h).1, (chain_of_enter h).2.1⟩

/-- The schema that the references of a schema come to is settled. -/
theorem EndsIn.unique {schema last last' : Schema} (h : doc.EndsIn schema last)
    (h' : doc.EndsIn schema last') : last = last' := by
  obtain ⟨names, hchain, hend⟩ := h
  obtain ⟨names', hchain', hend'⟩ := h'
  exact (hchain.unique hend hchain' hend').2

/-! ## Expansions -/

/-- An attribute mirrors its property if the attributes of a called schema mirror its
properties. -/
theorem mirror_of_attributeOf {nested : Schema → Outcome (List Field)}
    (hnested : ∀ called fields, nested called = some (.ok fields) → ∃ target,
      doc.EndsIn called target ∧ doc.MirrorAll target.required target.properties fields)
    {required : List String} {property : String × Schema} {field : Field}
    (h : doc.attributeOf nested required property = some (.ok field)) :
    doc.Mirror required property field := by
  obtain ⟨resolved, demand, kind, hdemand, hkind, rfl⟩ := attributeOf_eq_ok_iff.mp h
  obtain ⟨hresolve, hdemand⟩ := demand_eq_ok_iff.mp hdemand
  rw [demandOf_eq_ok_iff] at hdemand
  have hproperty : doc.EndsIn property.2 resolved := endsIn_of_resolve hresolve
  refine .of hproperty rfl rfl List.contains_iff_mem resolved.enumLiterals_eq
    Bool.or_eq_true_iff Option.or_eq_orElse.symm ?_
  obtain rfl | ⟨called, repeated, fields, rfl, hfields, rfl⟩ := kindFor_eq_ok_iff.mp hkind
  · exact .leaf hdemand
  · obtain ⟨target, hends, hmirror⟩ := hnested called fields hfields
    cases repeated with
    | true => exact .objects hdemand hends hmirror
    | false =>
      obtain rfl := hdemand.eq_of_nested_false
      -- the references of the property come to one schema only
      obtain rfl := hends.unique hproperty
      exact .object hdemand hmirror

/-- The attributes that an expansion ends with mirror the properties of what its schema refers
to. -/
theorem mirrorAll_of_expand {depth : Nat} {stack : Stack} {schema : Schema} {fields : List Field}
    (h : doc.expand depth stack schema = some (.ok fields)) :
    ∃ resolved, doc.EndsIn schema resolved ∧
      doc.MirrorAll resolved.required resolved.properties fields := by
  -- on the depth: the expansions of called schemas are one lower
  induction depth generalizing stack schema fields with
  | zero => cases h
  | succ depth ih =>
    obtain ⟨resolved, names, henter, hfields⟩ := expand_succ_eq_ok_iff.mp h
    refine ⟨resolved, endsIn_of_enter henter, mirrorAll_iff_forall₂.mpr (hfields.imp ?_)⟩
    exact fun property field => mirror_of_attributeOf fun called nested => ih

/-- In a document whose tables have no key twice, no list of attributes has a key twice. -/
theorem sources_nodup_of_expand {depth : Nat} {stack : Stack} {schema : Schema}
    {fields level : List Field} (h : doc.expand depth stack schema = some (.ok fields))
    (hdoc : doc.Keyed) (hschema : schema.Keyed) (hlevel : Level fields level) :
    (level.map Field.source).Nodup := by
  have hexpanded : doc.Expanded schema fields := ⟨depth, stack, schema, self_mem_parts schema, h⟩
  rcases hexpanded.level hlevel with rfl | hinner
  · exact List.nodup_nil
  · obtain ⟨part, hpart, hmirrors⟩ := hinner.mirrors
    rw [hmirrors.sources]
    exact hdoc.parts hschema hpart

/-! ## The main statement -/

/-- **Attributes mirror schemas.** A schema whose expansion ends with attributes has, where its
references end, one property for each of them, in order, and each attribute mirrors its property,
down to the innermost ones. No list of attributes has a key twice, as long as no table of schemas
has, which holds of what is read. -/
theorem flatten_mirrors {depth : Nat} {stack after : Stack} {schema : Schema} {fields : List Field}
    (h : (doc.flatten depth schema).run.run stack = some (.ok fields, after)) :
    ∃ resolved, doc.EndsIn schema resolved ∧
      List.Forall₂ (doc.Mirror resolved.required) resolved.properties fields ∧
      (doc.Keyed → schema.Keyed →
        ∀ level, Level fields level → (level.map Field.source).Nodup) := by
  rw [flatten_answers doc depth schema stack] at h
  obtain ⟨outcome, hexpand, hsame⟩ := Option.map_eq_some_iff.mp h
  obtain ⟨rfl, -⟩ := Prod.mk.inj hsame
  obtain ⟨resolved, hends, hmirror⟩ := mirrorAll_of_expand hexpand
  exact ⟨resolved, hends, mirrorAll_iff_forall₂.mp hmirror, fun hdoc hschema level =>
    sources_nodup_of_expand hexpand hdoc hschema⟩

/-! ## An order -/

/-- A line of an order. -/
def lineSchema : Schema where
  properties := [("unitPrice", { type := some (.single "number") })]

/-- An order with its lines, how many there are by their labels, and its state. -/
def orderSchema : Schema where
  type := some (.single "object")
  required := ["lines"]
  properties := [
    ("lines", {
      type := some (.single "array")
      items := some { reference := some (referencePrefix ++ "Line") } }),
    ("labels", {
      type := some (.single "object")
      additional := some (.schema { type := some (.single "integer") }) }),
    ("state", { enumeration := [.string "open", .string "closed"], readOnly := true })]

/-- A document with orders and their lines. -/
def orderDocument : Document where
  openapi := "3.0.0"
  info := { title := "t", version := "1" }
  components := some { schemas := [("Line", lineSchema), ("Order", orderSchema)] }

/-- A reference to the component of orders. -/
def orderReference : Schema where
  reference := some (referencePrefix ++ "Order")

/-- The attributes of a line. -/
def lineFields : List Field :=
  [{ name := "unit_price", source := "unitPrice", kind := .primitive .float }]

/-- The attributes of an order. -/
def orderFields : List Field :=
  [{ name := "lines", source := "lines", kind := .object lineFields true, required := true },
   { name := "labels", source := "labels", kind := .map .int },
   { name := "state", source := "state", kind := .primitive .string,
     enumValues := ["open", "closed"], readOnly := true }]

/-- The tables of the document have no key twice. -/
theorem orderDocument_keyed : orderDocument.Keyed ∧ orderReference.Keyed := by
  have hschema {schema : Schema}
      (h : ∀ part ∈ schema.parts, (part.properties.map Prod.fst).Nodup) : schema.Keyed := h
  have hschemas : Table.Each Schema.Keyed [("Line", lineSchema), ("Order", orderSchema)] := by
    refine ⟨by unfold Table.Distinct; decide, ?_⟩
    simp only [List.forall_mem_cons]
    exact ⟨hschema (by decide), hschema (by decide), by simp⟩
  refine ⟨⟨Table.each_nil, ?_⟩, hschema (by decide)⟩
  rintro _ ⟨⟩
  exact hschemas

/-- The attributes of an order mirror its properties, and no list of them has a key twice. -/
theorem orderDocument_mirrors :
    (orderDocument.flatten 3 orderReference).run.run [] = some (.ok orderFields, []) ∧
      ∃ resolved, orderDocument.EndsIn orderReference resolved ∧
        List.Forall₂ (orderDocument.Mirror resolved.required) resolved.properties orderFields ∧
        (orderFields.map Field.source).Nodup ∧ (lineFields.map Field.source).Nodup := by
  have hrun : (orderDocument.flatten 3 orderReference).run.run [] = some (.ok orderFields, []) := rfl
  obtain ⟨hdoc, hschema⟩ := orderDocument_keyed
  obtain ⟨resolved, hends, hmirror, hdistinct⟩ := flatten_mirrors hrun
  have hlines : Level orderFields lineFields := .inside .outermost (List.mem_cons_self ..)
  exact ⟨hrun, resolved, hends, hmirror, hdistinct hdoc hschema _ .outermost,
    hdistinct hdoc hschema _ hlines⟩

end Document

end ProviderGen
