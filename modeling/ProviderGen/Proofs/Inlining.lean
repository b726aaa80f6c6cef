/-
References and copies of what they refer to.

A reference means the schema it resolves to, so a copy of that schema can be written in
its place. The expansion of the changed document is not the same one: where the reference
pushed names on the stack, the copy pushes none. So the two expansions are compared call
by call, and the stack of the changed one is only known to be contained in the other.
That is enough for attributes, since a stack can turn an outcome into an error but has no
other influence on it.

Two schemas of the documents that stand in the same place are compared by what can be
between them. `Kept` says that at most one reference within the schema has been replaced,
`Placed` and `PlacedProperty` that the schema itself may have been. What a property or a
call looks at is the schema at the end of a chain, and there the two are `Alike`: their
keywords agree, and their children are in the same places.
-/
import ProviderGen.Proofs.Termination

set_option autoImplicit false

namespace ProviderGen

/-! ## Replacing one reference -/

/-- The copy that takes the place of a property: the schema that the property resolves to,
with the description of the property if it has one, and read-only if either of them is. -/
def Schema.inPlaceOf (resolved property : Schema) : Schema :=
  { resolved with
    description := property.description.orElse fun _ => resolved.description
    readOnly := property.readOnly || resolved.readOnly }

/-- One reference within a schema, at any depth, gives way to a copy of what it resolves to. -/
inductive Schema.Inlines (doc : Document) : Schema → Schema → Prop
  | property {schema property resolved : Schema} {before after : List (String × Schema)}
      {key : String} :
      schema.properties = before ++ (key, property) :: after →
      property.reference.isSome → doc.resolve property = .ok resolved →
      Inlines doc schema
        { schema with properties := before ++ (key, resolved.inPlaceOf property) :: after }
  | items {schema items resolved : Schema} :
      schema.items = some items → items.reference.isSome → doc.resolve items = .ok resolved →
      Inlines doc schema { schema with items := some resolved }
  | additional {schema value resolved : Schema} :
      schema.additional = some (.schema value) →
      value.reference.isSome → doc.resolve value = .ok resolved →
      Inlines doc schema { schema with additional := some (.schema resolved) }
  | underProperty {schema property property' : Schema} {before after : List (String × Schema)}
      {key : String} :
      schema.properties = before ++ (key, property) :: after → Inlines doc property property' →
      Inlines doc schema { schema with properties := before ++ (key, property') :: after }
  | underItems {schema items items' : Schema} :
      schema.items = some items → Inlines doc items items' →
      Inlines doc schema { schema with items := some items' }
  | underAdditional {schema value value' : Schema} :
      schema.additional = some (.schema value) → Inlines doc value value' →
      Inlines doc schema { schema with additional := some (.schema value') }

/-- One reference of a document gives way to a copy of what it resolves to, and a body of the
document is looked at before and after. The reference stands in a component, in the body,
in place of the body, or in another body. Bodies are not looked up when a body is
flattened, so nothing is said of the paths of the document. -/
inductive Document.Inlines (doc : Document) (body : Schema) (doc' : Document) : Schema → Prop
  | inComponent {components : Components} {before after : Table Schema} {name : String}
      {schema schema' : Schema} :
      doc.components = some components → components.schemas = before ++ (name, schema) :: after →
      schema.Inlines doc schema' →
      doc'.components = some { components with schemas := before ++ (name, schema') :: after } →
      Inlines doc body doc' body
  | inBody {body' : Schema} :
      doc'.components = doc.components → body.Inlines doc body' → Inlines doc body doc' body'
  | body {resolved : Schema} :
      doc'.components = doc.components → body.reference.isSome → doc.resolve body = .ok resolved →
      Inlines doc body doc' resolved
  | inOtherBody :
      doc'.components = doc.components → Inlines doc body doc' body

namespace Document

variable {doc doc' : Document}

/-! ## Schemas in the same place -/

/-- A schema is kept: at most one reference within it has been replaced. -/
def Kept (doc : Document) (schema schema' : Schema) : Prop :=
  schema' = schema ∨ schema.Inlines doc schema'

/-- A schema is kept, or it is a reference and has been replaced. -/
def Placed (doc : Document) (schema schema' : Schema) : Prop :=
  doc.Kept schema schema' ∨ schema.reference.isSome ∧ doc.resolve schema = .ok schema'

/-- A property is kept, or it is a reference and has been replaced. -/
def PlacedProperty (doc : Document) (property property' : Schema) : Prop :=
  doc.Kept property property' ∨
    ∃ resolved, property.reference.isSome ∧ doc.resolve property = .ok resolved ∧
      property' = resolved.inPlaceOf property

/-- Additional properties are the same, up to a place for a schema. -/
inductive PlacedAdditional (doc : Document) : Additional Schema → Additional Schema → Prop
  | allowed (b : Bool) : PlacedAdditional doc (.allowed b) (.allowed b)
  | schema {value value' : Schema} :
      doc.Placed value value' → PlacedAdditional doc (.schema value) (.schema value')

/-- Two schemas say the same, up to the places of their children. -/
structure Alike (doc : Document) (schema schema' : Schema) : Prop where
  type : schema'.type = schema.type
  enumeration : schema'.enumeration = schema.enumeration
  required : schema'.required = schema.required
  properties : List.Forall₂
    (fun entry entry' => entry'.1 = entry.1 ∧ doc.PlacedProperty entry.2 entry'.2)
    schema.properties schema'.properties
  items : Option.Rel doc.Placed schema.items schema'.items
  additional : Option.Rel doc.PlacedAdditional schema.additional schema'.additional

theorem Kept.refl (schema : Schema) : doc.Kept schema schema := Or.inl rfl

theorem Placed.refl (schema : Schema) : doc.Placed schema schema := Or.inl (Kept.refl schema)

theorem PlacedProperty.refl (schema : Schema) : doc.PlacedProperty schema schema :=
  Or.inl (Kept.refl schema)

theorem PlacedAdditional.refl (additional : Additional Schema) :
    doc.PlacedAdditional additional additional := by
  rcases additional with b | value
  · exact .allowed b
  · exact .schema (Placed.refl value)

theorem optionRel_refl {α : Type} {r : α → α → Prop} (hrefl : ∀ a, r a a) (o : Option α) :
    Option.Rel r o o := by
  rcases o with _ | a
  · exact .none
  · exact .some (hrefl a)

theorem isNone_eq_of_rel {α : Type} {r : α → α → Prop} {o o' : Option α}
    (h : Option.Rel r o o') : o'.isNone = o.isNone := by
  cases h <;> rfl

theorem exists_of_rel_some {α : Type} {r : α → α → Prop} {a : α} {o : Option α}
    (h : Option.Rel r (some a) o) : ∃ b, o = some b ∧ r a b := by
  cases h with
  | some hrel => exact ⟨_, rfl, hrel⟩

/-- A schema is like itself. -/
theorem Alike.refl (schema : Schema) : doc.Alike schema schema where
  type := rfl
  enumeration := rfl
  required := rfl
  properties := List.forall₂_same.mpr fun entry _ => ⟨rfl, PlacedProperty.refl entry.2⟩
  items := optionRel_refl Placed.refl schema.items
  additional := optionRel_refl PlacedAdditional.refl schema.additional

/-- A copy is like the schema it copies. -/
theorem Alike.inPlaceOf (resolved property : Schema) :
    doc.Alike resolved (resolved.inPlaceOf property) :=
  { Alike.refl resolved with }

/-- What is kept is like what it was. -/
theorem Kept.alike {schema schema' : Schema} (h : doc.Kept schema schema') :
    doc.Alike schema schema' := by
  have hentry : ∀ entry : String × Schema, entry.1 = entry.1 ∧ doc.PlacedProperty entry.2 entry.2 :=
    fun entry => ⟨rfl, PlacedProperty.refl entry.2⟩
  rcases h with rfl | hinlines
  · exact Alike.refl _
  · -- one child gives way or has it happen further down, and its siblings stay what they are
    have hsame : doc.Alike schema schema := Alike.refl schema
    cases hinlines with
    | property hsplit href hresolve =>
      refine { hsame with properties := ?_ }
      rw [hsplit]
      exact forall₂_replace hentry ⟨rfl, Or.inr ⟨_, href, hresolve, rfl⟩⟩ _ _
    | items hitems href hresolve =>
      refine { hsame with items := ?_ }
      rw [hitems]
      exact .some (Or.inr ⟨href, hresolve⟩)
    | additional hadditional href hresolve =>
      refine { hsame with additional := ?_ }
      rw [hadditional]
      exact .some (.schema (Or.inr ⟨href, hresolve⟩))
    | underProperty hsplit hinner =>
      refine { hsame with properties := ?_ }
      rw [hsplit]
      exact forall₂_replace hentry ⟨rfl, Or.inl (Or.inr hinner)⟩ _ _
    | underItems hitems hinner =>
      refine { hsame with items := ?_ }
      rw [hitems]
      exact .some (Or.inl (Or.inr hinner))
    | underAdditional hadditional hinner =>
      refine { hsame with additional := ?_ }
      rw [hadditional]
      exact .some (.schema (Or.inl (Or.inr hinner)))

/-- Replacing a reference within a schema changes no keyword of the schema itself. -/
theorem Kept.keywords {schema schema' : Schema} (h : doc.Kept schema schema') :
    schema'.reference = schema.reference ∧ schema'.description = schema.description ∧
      schema'.readOnly = schema.readOnly := by
  rcases h with rfl | hinlines
  · exact ⟨rfl, rfl, rfl⟩
  · cases hinlines <;> exact ⟨rfl, rfl, rfl⟩

/-! ## Chains in the changed document -/

/-- Every component of the one document is kept in the other. -/
def KeepsComponents (doc doc' : Document) : Prop :=
  ∀ name component, doc.component? name = some component →
    ∃ component', doc'.component? name = some component' ∧ doc.Kept component component'

/-- Where a schema leads in one document, its counterpart leads to the like in the other, by
way of no further components. -/
def Follows (doc doc' : Document) (schema schema' : Schema) : Prop :=
  ∀ resolved names, doc.resolveChain schema = .ok (resolved, names) →
    ∃ resolved' names', doc'.resolveChain schema' = .ok (resolved', names') ∧ names' ⊆ names ∧
      doc.Alike resolved resolved'

/-- The chain of a schema that is kept passes the same components. -/
theorem Kept.chain (hkeeps : KeepsComponents doc doc') {schema schema' last : Schema}
    {names : List String} (h : doc.Kept schema schema') (hchain : doc.Chain schema names last) :
    ∃ last', doc'.Chain schema' names last' ∧ doc.Kept last last' := by
  induction hchain generalizing schema' with
  | stop => exact ⟨schema', .stop schema', h⟩
  | hop href hcomp _ ih =>
    obtain ⟨component', hcomp', hkept⟩ := hkeeps _ _ hcomp
    obtain ⟨last', hchain', hlast⟩ := ih hkept
    have href' := h.keywords.1.trans href
    exact ⟨last', .hop href' hcomp' hchain', hlast⟩

theorem Kept.resolveChain (hkeeps : KeepsComponents doc doc') {schema schema' resolved : Schema}
    {names : List String} (h : doc.Kept schema schema')
    (hresolve : doc.resolveChain schema = .ok (resolved, names)) :
    ∃ resolved', doc'.resolveChain schema' = .ok (resolved', names) ∧
      doc.Kept resolved resolved' := by
  obtain ⟨hchain, hend, hle⟩ := resolveChain_eq_ok_iff.mp hresolve
  obtain ⟨resolved', hchain', hkept⟩ := h.chain hkeeps hchain
  have hend' := hkept.keywords.1.trans hend
  exact ⟨resolved', resolveChain_eq_ok_iff.mpr ⟨hchain', hend', hle⟩, hkept⟩

theorem Placed.follows (hkeeps : KeepsComponents doc doc') {schema schema' : Schema}
    (h : doc.Placed schema schema') : Follows doc doc' schema schema' := by
  intro resolved names hresolve
  rcases h with hkept | ⟨-, hcopy⟩
  · obtain ⟨resolved', hresolve', hlike⟩ := hkept.resolveChain hkeeps hresolve
    exact ⟨resolved', names, hresolve', List.Subset.refl names, hlike.alike⟩
  · have hsame : doc.resolve schema = .ok resolved := resolve_eq_ok_iff.mpr ⟨names, hresolve⟩
    rw [hsame, Except.ok.injEq] at hcopy
    subst hcopy
    obtain ⟨-, -, hend⟩ := exists_chain_of_resolve hsame
    exact ⟨resolved, [], resolveChain_of_reference_none hend, List.nil_subset names, Alike.refl _⟩

/-- What a property resolves to is the like for its counterpart, and the attribute shows
the same description and may be written as little. -/
theorem PlacedProperty.resolveChain (hkeeps : KeepsComponents doc doc')
    {property property' resolved : Schema} {names : List String}
    (h : doc.PlacedProperty property property')
    (hresolve : doc.resolveChain property = .ok (resolved, names)) :
    ∃ resolved' names', doc'.resolveChain property' = .ok (resolved', names') ∧ names' ⊆ names ∧
      doc.Alike resolved resolved' ∧
      (property'.description.orElse fun _ => resolved'.description)
        = (property.description.orElse fun _ => resolved.description) ∧
      (property'.readOnly || resolved'.readOnly) = (property.readOnly || resolved.readOnly) := by
  -- a property that is kept leads along the same chain; a copy is where the chain has led
  rcases h with hkept | ⟨copied, -, hcopy, rfl⟩
  · obtain ⟨resolved', hresolve', hlike⟩ := hkept.resolveChain hkeeps hresolve
    obtain ⟨-, hdescription, hreadOnly⟩ := hkept.keywords
    obtain ⟨-, hdescription', hreadOnly'⟩ := hlike.keywords
    refine ⟨resolved', names, hresolve', List.Subset.refl names, hlike.alike, ?_, ?_⟩
    · rw [hdescription, hdescription']
    · rw [hreadOnly, hreadOnly']
  · have hsame : doc.resolve property = .ok resolved := resolve_eq_ok_iff.mpr ⟨names, hresolve⟩
    rw [hsame, Except.ok.injEq] at hcopy
    subst hcopy
    obtain ⟨-, -, hend⟩ := exists_chain_of_resolve hsame
    refine ⟨_, [], resolveChain_of_reference_none (show (resolved.inPlaceOf property).reference = _
      from hend), List.nil_subset names, Alike.inPlaceOf resolved property, ?_, ?_⟩
    · unfold Schema.inPlaceOf
      cases property.description <;> cases resolved.description <;> rfl
    · unfold Schema.inPlaceOf
      cases property.readOnly <;> cases resolved.readOnly <;> rfl

theorem PlacedProperty.follows (hkeeps : KeepsComponents doc doc') {property property' : Schema}
    (h : doc.PlacedProperty property property') : Follows doc doc' property property' := by
  intro resolved names hresolve
  obtain ⟨resolved', names', hresolve', hnames, hlike, -, -⟩ := h.resolveChain hkeeps hresolve
  exact ⟨resolved', names', hresolve', hnames, hlike⟩

/-! ## Demands in the changed document -/

theorem Alike.typeName {schema schema' : Schema} (h : doc.Alike schema schema') :
    schema'.typeName = schema.typeName := by
  unfold Schema.typeName
  rw [h.type]

theorem Alike.isEmpty {schema schema' : Schema} (h : doc.Alike schema schema') :
    schema'.properties.isEmpty = schema.properties.isEmpty := by
  rw [Bool.eq_iff_iff, List.isEmpty_iff_length_eq_zero, List.isEmpty_iff_length_eq_zero,
    h.properties.length_eq]

theorem Alike.scalarType {schema schema' : Schema} (h : doc.Alike schema schema') :
    scalarType schema' = scalarType schema := by
  have hadditional : schema'.additional.isNone = schema.additional.isNone :=
    isNone_eq_of_rel h.additional
  unfold ProviderGen.scalarType
  rw [h.typeName, h.isEmpty, hadditional]

/-- Two demands are the same up to the schema that is expanded next. -/
inductive SameDemand (doc doc' : Document) : Demand → Demand → Prop
  | leaf (kind : Kind Field) : SameDemand doc doc' (.leaf kind) (.leaf kind)
  | nested {schema schema' : Schema} (repeated : Bool) : Follows doc doc' schema schema' →
      SameDemand doc doc' (.nested schema repeated) (.nested schema' repeated)

/-- What resolves in the one document resolves to the like in the other. -/
theorem Follows.resolve {schema schema' resolved : Schema} (h : Follows doc doc' schema schema')
    (hresolve : doc.resolve schema = .ok resolved) :
    ∃ resolved', doc'.resolve schema' = .ok resolved' ∧ doc.Alike resolved resolved' := by
  obtain ⟨names, hchain⟩ := resolve_eq_ok_iff.mp hresolve
  obtain ⟨resolved', names', hchain', -, hlike⟩ := h resolved names hchain
  exact ⟨resolved', resolve_eq_ok_iff.mpr ⟨names', hchain'⟩, hlike⟩

/-- What is called for by way of a member is called for by way of its counterpart. -/
theorem ofMember_placed (hkeeps : KeepsComponents doc doc') {member member' : Schema}
    {leaf : Primitive → Kind Field} {other other' demand : Demand}
    (hplaced : doc.Placed member member') (hother : SameDemand doc doc' other other')
    (hdemand : (doc.resolve member >>= fun resolved => .ok (Demand.ofMember leaf other resolved))
      = .ok demand) :
    ∃ demand',
      (doc'.resolve member' >>= fun resolved => .ok (Demand.ofMember leaf other' resolved))
        = .ok demand' ∧ SameDemand doc doc' demand demand' := by
  obtain ⟨resolved, hresolve, hmember⟩ := bind_eq_ok_iff.mp hdemand
  obtain ⟨resolved', hresolve', hlike⟩ := (hplaced.follows hkeeps).resolve hresolve
  refine ⟨_, bind_eq_ok_iff.mpr ⟨resolved', hresolve', rfl⟩, ?_⟩
  rw [← Except.ok.inj hmember]
  -- the two members are scalars of the same type, or neither is one
  unfold Demand.ofMember
  rw [hlike.scalarType]
  rcases ProviderGen.scalarType resolved with _ | type
  · exact hother
  · exact .leaf (leaf type)

theorem arrayDemand_placed (hkeeps : KeepsComponents doc doc') {items items' : Option Schema}
    {demand : Demand} (h : Option.Rel doc.Placed items items')
    (hdemand : doc.arrayDemand items = .ok demand) :
    ∃ demand', doc'.arrayDemand items' = .ok demand' ∧ SameDemand doc doc' demand demand' := by
  rcases h with hplaced | _
  · rw [arrayDemand_some] at hdemand ⊢
    exact ofMember_placed hkeeps hplaced (.nested true (hplaced.follows hkeeps)) hdemand
  · cases hdemand
    exact ⟨_, rfl, .leaf _⟩

theorem objectDemand_placed (hkeeps : KeepsComponents doc doc') {property property' : Schema}
    {additional additional' : Option (Additional Schema)} {demand : Demand}
    (hproperty : doc.PlacedProperty property property')
    (h : Option.Rel doc.PlacedAdditional additional additional')
    (hdemand : doc.objectDemand property additional = .ok demand) :
    ∃ demand', doc'.objectDemand property' additional' = .ok demand' ∧
      SameDemand doc doc' demand demand' := by
  have hnested : SameDemand doc doc' (.nested property false) (.nested property' false) :=
    .nested false (hproperty.follows hkeeps)
  rcases h with (_ | hplaced) | _
  · cases hdemand
    exact ⟨_, rfl, hnested⟩
  · rw [objectDemand_schema] at hdemand ⊢
    exact ofMember_placed hkeeps hplaced hnested hdemand
  · cases hdemand
    exact ⟨_, rfl, hnested⟩

/-- What a property calls for is what its counterpart calls for. -/
theorem demandOf_placed (hkeeps : KeepsComponents doc doc')
    {property property' resolved resolved' : Schema} {demand : Demand}
    (hproperty : doc.PlacedProperty property property') (hlike : doc.Alike resolved resolved')
    (hdemand : doc.demandOf property resolved = .ok demand) :
    ∃ demand', doc'.demandOf property' resolved' = .ok demand' ∧
      SameDemand doc doc' demand demand' := by
  unfold demandOf at hdemand ⊢
  rw [hlike.typeName, hlike.isEmpty]
  split at hdemand
  · exact arrayDemand_placed hkeeps hlike.items hdemand
  · exact objectDemand_placed hkeeps hproperty hlike.additional hdemand
  · cases hdemand
    exact ⟨_, rfl, .leaf _⟩
  · split at hdemand
    · rename_i hempty
      cases hdemand
      rw [if_pos hempty]
      exact ⟨_, rfl, .leaf _⟩
    · rename_i hempty
      cases hdemand
      rw [if_neg hempty]
      exact ⟨_, rfl, .nested false (hproperty.follows hkeeps)⟩

/-- What a property calls for is what its counterpart calls for, and the two have the same
attribute. -/
theorem demand_placed (hkeeps : KeepsComponents doc doc') {property property' resolved : Schema}
    {demand : Demand} (h : doc.PlacedProperty property property')
    (hdemand : doc.demand property = .ok (resolved, demand)) :
    ∃ resolved' demand', doc'.demand property' = .ok (resolved', demand') ∧
      SameDemand doc doc' demand demand' ∧
      ∀ key required kind, Field.ofProperty key property' resolved' required kind
        = Field.ofProperty key property resolved required kind := by
  obtain ⟨hresolve, hof⟩ := demand_eq_ok_iff.mp hdemand
  obtain ⟨names, hchain⟩ := resolve_eq_ok_iff.mp hresolve
  obtain ⟨resolved', names', hchain', -, hlike, hdescription, hreadOnly⟩ :=
    h.resolveChain hkeeps hchain
  obtain ⟨demand', hof', hsame⟩ := demandOf_placed hkeeps h hlike hof
  have hresolve' := resolve_eq_ok_iff.mpr ⟨names', hchain'⟩
  refine ⟨resolved', demand', demand_eq_ok_iff.mpr ⟨hresolve', hof'⟩, hsame, ?_⟩
  intro key required kind
  have hliterals : resolved'.enumLiterals = resolved.enumLiterals := by
    unfold Schema.enumLiterals
    rw [hlike.enumeration]
  unfold Field.ofProperty
  rw [hdescription, hreadOnly, hliterals]

/-! ## Calls in the changed document -/

/-- A property has the same attribute as its counterpart, if the schemas that further calls
expand have. -/
theorem attributeOf_placed (hkeeps : KeepsComponents doc doc')
    {nested nested' : Schema → Outcome (List Field)} {required : List String}
    {entry entry' : String × Schema} {field : Field}
    (hnested : ∀ schema schema' fields, Follows doc doc' schema schema' →
      nested schema = some (.ok fields) → nested' schema' = some (.ok fields))
    (hkey : entry'.1 = entry.1) (hentry : doc.PlacedProperty entry.2 entry'.2)
    (h : doc.attributeOf nested required entry = some (.ok field)) :
    doc'.attributeOf nested' required entry' = some (.ok field) := by
  obtain ⟨resolved, demand, kind, hdemand, hkind, rfl⟩ := attributeOf_eq_ok_iff.mp h
  obtain ⟨resolved', demand', hdemand', hsame, hfield⟩ := demand_placed hkeeps hentry hdemand
  have hkind' : kindFor nested' demand' = some (.ok kind) := by
    rcases hsame with _ | ⟨repeated, hfollows⟩
    · exact hkind
    · obtain ⟨fields, hfields, hobject⟩ := Outcome.andThen_eq_ok_iff.mp hkind
      exact Outcome.andThen_eq_ok_iff.mpr ⟨fields, hnested _ _ fields hfollows hfields, hobject⟩
  refine attributeOf_eq_ok_iff.mpr ⟨resolved', demand', kind, hdemand', hkind', ?_⟩
  rw [hkey, hfield]

/-- **A smaller stack and a copy in place of a reference change no attributes.** The induction
is on the depth, and the stack of the changed document stays within the other. -/
theorem expand_placed (hkeeps : KeepsComponents doc doc') {depth : Nat} {stack stack' : Stack}
    {schema schema' : Schema} {fields : List Field} (hstack : stack' ⊆ stack)
    (hfollows : Follows doc doc' schema schema')
    (h : doc.expand depth stack schema = some (.ok fields)) :
    doc'.expand depth stack' schema' = some (.ok fields) := by
  induction depth generalizing stack stack' schema schema' fields with
  | zero => cases h
  | succ depth ih =>
    obtain ⟨resolved, names, henter, hfields⟩ := expand_succ_eq_ok_iff.mp h
    obtain ⟨hchain, hfresh⟩ := enter_eq_ok_iff.mp henter
    obtain ⟨resolved', names', hchain', hnames, hlike⟩ := hfollows resolved names hchain
    -- the smaller stack stays the smaller one, so what it refuses the other refuses as well
    have hstack' : stack' ++ names' ⊆ stack ++ names :=
      List.append_subset.mpr ⟨List.subset_append_of_subset_left names hstack,
        List.subset_append_of_subset_right stack hnames⟩
    refine expand_succ_eq_ok_iff.mpr ⟨resolved', names', enter_eq_ok_iff.mpr ⟨hchain', ?_⟩, ?_⟩
    · intro name hmem hactive
      exact hfresh name (hnames hmem) (hstack hactive)
    · rw [hlike.required]
      refine forall₂_comp hlike.properties.flip hfields ?_
      rintro entry' entry field ⟨hkey, hentry⟩ hfield
      -- the calls for the property are made on stacks that are so related again
      exact attributeOf_placed hkeeps
        (fun inner inner' fields hinner hinnerFields => ih hstack' hinner hinnerFields)
        hkey hentry hfield

/-! ## Bodies in the changed document -/

/-- The schema whose attributes are those of a body has a counterpart. -/
theorem bodyTarget_placed (hkeeps : KeepsComponents doc doc') {body body' target : Schema}
    (h : doc.Placed body body') (htarget : doc.bodyTarget body = .ok target) :
    ∃ target', doc'.bodyTarget body' = .ok target' ∧ Follows doc doc' target target' := by
  have hfollows := h.follows hkeeps
  obtain ⟨resolved, hresolve, hcase⟩ := bodyTarget_eq_ok_iff.mp htarget
  obtain ⟨resolved', hresolve', hlike⟩ := hfollows.resolve hresolve
  rcases hcase with ⟨htype, hitems⟩ | ⟨hnone, rfl⟩
  · -- an array stands for its items, and those have their place in the other array
    have hrel := hlike.items
    rw [hitems] at hrel
    obtain ⟨target', hitems', htarget'⟩ := exists_of_rel_some hrel
    refine ⟨target', bodyTarget_eq_ok_iff.mpr ⟨resolved', hresolve', Or.inl ⟨?_, hitems'⟩⟩,
      htarget'.follows hkeeps⟩
    rw [hlike.typeName, htype]
  · refine ⟨body', bodyTarget_eq_ok_iff.mpr ⟨resolved', hresolve', Or.inr ⟨?_, rfl⟩⟩, hfollows⟩
    rw [hlike.typeName, ← Option.isNone_eq_false_iff, isNone_eq_of_rel hlike.items,
      Option.isNone_eq_false_iff]
    exact hnone

/-- A component stands where it stood, though one in the table has been replaced. -/
theorem lookup_replace {before after : Table Schema} {key name : String}
    {schema schema' component : Schema} (hkept : doc.Kept schema schema')
    (h : (before ++ (key, schema) :: after).lookup name = some component) :
    ∃ component', (before ++ (key, schema') :: after).lookup name = some component' ∧
      doc.Kept component component' := by
  induction before with
  | nil =>
    rw [List.nil_append, List.lookup_cons] at h ⊢
    split at h
    · cases h
      exact ⟨schema', rfl, hkept⟩
    · exact ⟨component, h, Kept.refl component⟩
  | cons entry before ih =>
    obtain ⟨other, value⟩ := entry
    rw [List.cons_append, List.lookup_cons] at h ⊢
    split at h
    · exact ⟨component, h, Kept.refl component⟩
    · exact ih h

/-- Wherever the one reference stands, the components are kept and the body has its place. -/
theorem Inlines.places {body body' : Schema} (h : doc.Inlines body doc' body') :
    KeepsComponents doc doc' ∧ doc.Placed body body' := by
  -- unless the reference stands in a component, all of them are what they were
  have hsame : doc'.components = doc.components → KeepsComponents doc doc' := by
    intro hcomponents name component hcomp
    refine ⟨component, ?_, Kept.refl component⟩
    unfold component? at hcomp ⊢
    rw [hcomponents, hcomp]
  cases h with
  | inComponent hcomponents hschemas hinner hcomponents' =>
    refine ⟨?_, Placed.refl body⟩
    intro name component hcomp
    unfold component? at hcomp ⊢
    rw [hcomponents, Option.bind_some, hschemas] at hcomp
    rw [hcomponents', Option.bind_some]
    exact lookup_replace (Or.inr hinner) hcomp
  | inBody hcomponents hinner => exact ⟨hsame hcomponents, Or.inl (Or.inr hinner)⟩
  | body hcomponents href hresolve => exact ⟨hsame hcomponents, Or.inr ⟨href, hresolve⟩⟩
  | inOtherBody hcomponents => exact ⟨hsame hcomponents, Placed.refl body⟩

/-! ## The main statement -/

/-- **A reference means what it points to.** If a reference of a document gives way to a copy of
the schema it resolves to, a body that had attributes has the same ones, at every depth. -/
theorem flattenBody_of_inlines {body body' : Schema} {fields : List Field}
    (hinlines : doc.Inlines body doc' body')
    (h : doc.flattenBody body = some (.ok fields)) :
    doc'.flattenBody body' = some (.ok fields) := by
  obtain ⟨hkeeps, hplaced⟩ := hinlines.places
  obtain ⟨depth, hdepth⟩ := flattenBody_eq_some_iff.mp h
  refine flattenBody_eq_some_iff.mpr ⟨depth, ?_⟩
  unfold expandBody at hdepth ⊢
  cases htarget : doc.bodyTarget body with
  | error error => rw [htarget] at hdepth; cases hdepth
  | ok target =>
    obtain ⟨target', htarget', hfollows⟩ := bodyTarget_placed hkeeps hplaced htarget
    rw [htarget] at hdepth
    rw [htarget']
    exact expand_placed hkeeps (List.Subset.refl []) hfollows hdepth

/-! ## A property of a component -/

/-- A member of a team has a name. -/
def memberSchema : Schema where
  type := some (.single "object")
  description := some "A member"
  properties := [("name", { type := some (.single "string") })]

/-- The member who leads the team, who is not set by others. -/
def leadReference : Schema where
  readOnly := true
  reference := some (referencePrefix ++ "Member")

/-- All members of a team. -/
def membersSchema : Schema where
  type := some (.single "array")
  items := some { reference := some (referencePrefix ++ "Member") }

/-- A team, given the schema of its lead. -/
def teamSchema (lead : Schema) : Schema where
  type := some (.single "object")
  properties := [("lead", lead), ("members", membersSchema)]

/-- A document with teams and their members. -/
def teamDocument (lead : Schema) : Document where
  openapi := "3.0.0"
  info := { title := "t", version := "1" }
  components := some { schemas := [("Member", memberSchema), ("Team", teamSchema lead)] }

/-- A reference to the component of teams. -/
def teamReference : Schema where
  reference := some (referencePrefix ++ "Team")

/-- The lead of a team can be written in place. -/
theorem teamDocument_of_inlines :
    (teamDocument leadReference).Inlines teamReference
        (teamDocument (memberSchema.inPlaceOf leadReference)) teamReference ∧
      ∃ fields, (teamDocument leadReference).flattenBody teamReference = some (.ok fields) ∧
        (teamDocument (memberSchema.inPlaceOf leadReference)).flattenBody teamReference
          = some (.ok fields) := by
  have hlead : (teamSchema leadReference).Inlines (teamDocument leadReference)
      (teamSchema (memberSchema.inPlaceOf leadReference)) :=
    Schema.Inlines.property (show _ = [] ++ ("lead", leadReference) :: _ from rfl) rfl rfl
  have hinlines : (teamDocument leadReference).Inlines teamReference
      (teamDocument (memberSchema.inPlaceOf leadReference)) teamReference :=
    Inlines.inComponent rfl (show _ = [("Member", memberSchema)] ++ ("Team", _) :: [] from rfl)
      hlead rfl
  exact ⟨hinlines, _, rfl, flattenBody_of_inlines hinlines rfl⟩

end Document

end ProviderGen
