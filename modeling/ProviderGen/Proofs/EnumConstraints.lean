/-
The literals of constraints to numbers.

An attribute at any depth stands for one property of the document: a position within the
attributes of a resource is a position within the properties of the body that they come from,
because every attribute is made of one property and holds what the property calls for. The
values to choose from are those of the schema that the property resolves to, and if the user sets
the attribute, its constraint lists their literals, all of them and in their order, without
looking at what they are.

So a constraint to numbers is one of constants just if all values of the schema suit its type.
Nothing checks that they do: an integer that may also be missing is declared with a null among
its values, and `null` is no constant.
-/
import ProviderGen.Proofs.Constants
import ProviderGen.Proofs.Levels
import ProviderGen.Proofs.Presence
import ProviderGen.Proofs.Reading

set_option autoImplicit false

namespace ProviderGen

/-! ## Properties at a position -/

namespace Document

variable {doc : Document}

/-- The property at a position within a schema: one of the properties of what the schema resolves
to, or further in, one within the schema that such a property calls for. -/
inductive PropertyAt (doc : Document) : Schema → List Nat → String × Schema → Prop
  | here {schema resolved : Schema} {i : Nat} {property : String × Schema} :
      doc.resolve schema = .ok resolved → resolved.properties[i]? = some property →
      PropertyAt doc schema [i] property
  | inside {schema resolved target nested : Schema} {i : Nat} {rest : List Nat}
      {outer property : String × Schema} {repeated : Bool} :
      doc.resolve schema = .ok resolved → resolved.properties[i]? = some outer →
      doc.demand outer.2 = .ok (target, .nested nested repeated) →
      PropertyAt doc nested rest property → PropertyAt doc schema (i :: rest) property

/-- An attribute represents a property: it has the key of the property as its source, the literals
of the values of the schema that the property resolves to and, if it is a scalar, the type that
this schema declares. -/
structure Represents (doc : Document) (field : Field) (property : String × Schema)
    (schema : Schema) : Prop where
  source : field.source = property.1
  resolve : doc.resolve property.2 = .ok schema
  values : field.enumValues = schema.enumeration.map enumLiteral
  type : ∀ type, field.kind = .primitive type →
    (schema.typeName.bind Primitive.ofTypeName?).getD .string = type

/-- A property calls for a scalar by itself only if its schema declares the type of it. -/
theorem Demanded.type_of_primitive {property schema : Schema} {type : Primitive}
    (h : doc.Demanded property schema (.leaf (.primitive type))) :
    (schema.typeName.bind Primitive.ofTypeName?).getD .string = type := by
  cases h with
  | scalar htype => rw [htype, Option.bind_some]
  | untyped htype => rw [htype, Option.bind_none, Option.getD_none]

theorem exists_represents {nested : Schema → Outcome (List Field)} {required : List String}
    {property : String × Schema} {field : Field}
    (h : doc.attributeOf nested required property = some (.ok field)) :
    ∃ schema, doc.Represents field property schema := by
  obtain ⟨schema, demand, kind, hdemand, hkind, rfl⟩ := attributeOf_eq_ok_iff.mp h
  obtain ⟨hresolve, hdemand⟩ := demand_eq_ok_iff.mp hdemand
  refine ⟨schema, rfl, hresolve, schema.enumLiterals_eq, ?_⟩
  rintro type rfl
  cases demand with
  | leaf kind =>
    obtain rfl := Except.ok.inj (Option.some.inj hkind)
    exact (demandOf_eq_ok_iff.mp hdemand).type_of_primitive
  | nested inside repeated =>
    obtain ⟨fields, -, hobject⟩ := Outcome.andThen_eq_ok_iff.mp hkind
    cases hobject

/-- Every attribute of a schema is made of the property at its place. -/
theorem exists_attributeOf {depth : Nat} {stack : Stack} {schema : Schema} {fields : List Field}
    (h : doc.expand depth stack schema = some (.ok fields)) {i : Nat} {top : Field}
    (htop : fields[i]? = some top) :
    ∃ depth' stack' resolved property, doc.resolve schema = .ok resolved ∧
      resolved.properties[i]? = some property ∧
      doc.attributeOf (doc.expand depth' stack') resolved.required property = some (.ok top) := by
  cases depth with
  | zero => cases h
  | succ depth =>
    obtain ⟨resolved, names, henter, hfields⟩ := expand_succ_eq_ok_iff.mp h
    obtain ⟨property, hproperty, hattribute⟩ := exists_getElem?_of_forall₂ hfields htop
    exact ⟨depth, stack ++ names, resolved, property,
      resolve_eq_ok_iff.mpr ⟨names, (enter_eq_ok_iff.mp henter).1⟩, hproperty, hattribute⟩

/-- What stands at a position within the attributes of a schema represents the property at that
position. -/
theorem exists_propertyAt {depth : Nat} {stack : Stack} {schema : Schema} {fields : List Field}
    (h : doc.expand depth stack schema = some (.ok fields)) {i : Nat} {rest : List Nat}
    {top field : Field} (htop : fields[i]? = some top)
    (hfield : atPosition Field.inner rest top = some field) :
    ∃ property resolved, doc.PropertyAt schema (i :: rest) property ∧
      doc.Represents field property resolved := by
  induction rest generalizing depth stack schema fields i top with
  | nil =>
    obtain rfl := Option.some.inj hfield
    obtain ⟨_, _, _, property, hresolve, hproperty, hattribute⟩ := exists_attributeOf h htop
    obtain ⟨resolved, hrepresents⟩ := exists_represents hattribute
    exact ⟨property, resolved, .here hresolve hproperty, hrepresents⟩
  | cons j rest ih =>
    -- the attributes inside come from an expansion of what the outer property calls for
    obtain ⟨child, hchild, hrest⟩ := atPosition_cons_eq_some_iff.mp hfield
    obtain ⟨_, _, _, outer, hresolve, houter, hattribute⟩ := exists_attributeOf h htop
    rcases inner_of_attributeOf hattribute with hnone | ⟨target, nested, repeated, hdemand, hinner⟩
    · rw [hnone] at hchild
      cases hchild
    · obtain ⟨property, resolved, hposition, hrepresents⟩ := ih hinner hchild hrest
      exact ⟨property, resolved, .inside hresolve houter hdemand hposition, hrepresents⟩

/-- The schema of an attribute of a resource: what the property resolves to that the attribute
represents, which stands at the same position within the body that creates the resource. -/
def SchemaOf (doc : Document) (r : Resource) (top : Field) (position : List Nat) (field : Field)
    (schema : Schema) : Prop :=
  ∃ item body target i property, (r.collectionPath, item) ∈ doc.paths ∧
    item.requestSchema = some body ∧ doc.bodyTarget body = .ok target ∧
    (r.create.getD [])[i]? = some top ∧ doc.PropertyAt target (i :: position) property ∧
    doc.Represents field property schema

theorem SchemaOf.values {r : Resource} {top field : Field} {position : List Nat} {schema : Schema}
    (h : doc.SchemaOf r top position field schema) :
    field.enumValues = schema.enumeration.map enumLiteral := by
  obtain ⟨_, _, _, _, _, -, -, -, -, -, hrepresents⟩ := h
  exact hrepresents.values

theorem exists_schemaOf {resources : List Resource} (h : doc.resources = .ok resources)
    {r : Resource} (hr : r ∈ resources) {top field : Field} {position : List Nat}
    (htop : top ∈ r.create.getD []) (hfield : atPosition Field.inner position top = some field) :
    ∃ schema, doc.SchemaOf r top position field schema := by
  obtain ⟨entry, hentry, hstands⟩ := exists_standsFor h hr
  obtain ⟨hin, -⟩ := mem_collections_iff.mp hentry
  obtain ⟨i, hi⟩ := List.mem_iff_getElem?.mp htop
  have hcreate := hstands.create
  cases hpayload : r.create with
  | none =>
    rw [hpayload] at htop
    cases htop
  | some fields =>
    rw [hpayload] at hcreate hi
    obtain ⟨body, hbody, hflatten⟩ := Option.map_eq_some_iff.mp hcreate
    obtain ⟨depth, hdepth⟩ := flattenBody_eq_some_iff.mp hflatten
    obtain ⟨target, htarget, hexpand⟩ := expandBody_eq_ok_iff.mp hdepth
    obtain ⟨property, schema, hposition, hrepresents⟩ := exists_propertyAt hexpand hi hfield
    refine ⟨schema, entry.2, body, target, i, property, ?_, hbody, htarget, ?_, hposition,
      hrepresents⟩
    · rw [hstands.path]
      exact hin
    · rw [hpayload]
      exact hi

end Document

/-! ## Constraints at a position -/

namespace Field

/-- An attribute is set by its user: neither it nor anything that it lies in is read-only. -/
def Configurable (top : Field) (position : List Nat) (field : Field) : Prop :=
  field.readOnly = false ∧ ∀ above ∈ passed inner position top, above.readOnly = false

/-- The declaration of an attribute has a constraint at a position and prints it. -/
structure ConstrainedBy (top : Field) (position : List Nat) (v : Validator) : Prop where
  declared : ∃ entry,
    atPosition Declaration.inside position (top.entry .resource .top) = some entry ∧
      entry.2.validator? = some v
  printed : ∃ depth, (v.lines depth).toList <:+:
    ((top.declare .resource .top).text attributeDepth).toList

theorem Configurable.top {top field : Field} {position : List Nat}
    (hfield : atPosition inner position top = some field) (h : Configurable top position field) :
    top.readOnly = false := by
  cases position with
  | nil =>
    obtain rfl := Option.some.inj hfield
    exact h.1
  | cons i rest => exact h.2 top (List.mem_cons_self ..)

/-- What stands at a position in a declaration is printed with it. -/
theorem constrainedBy_of_declared {top : Field} {position : List Nat} {v : Validator}
    {entry : String × Declaration}
    (hentry : atPosition Declaration.inside position (top.entry .resource .top) = some entry)
    (hv : entry.2.validator? = some v) : top.ConstrainedBy position v := by
  obtain ⟨depth, hinfix⟩ := Declaration.atPosition_infix_text hentry attributeDepth
  refine ⟨⟨entry, hentry, hv⟩, depth + 1, ?_⟩
  rw [String.toList_append] at hinfix
  exact (Declaration.validator_infix_text hv depth).trans
    ((List.suffix_append ..).isInfix.trans hinfix)

/-- A number that its user sets and that has values to choose from is constrained to them, as
they are. -/
theorem exists_constrainedBy {top field : Field} {position : List Nat} {type : Primitive}
    (hfield : atPosition inner position top = some field) (hset : Configurable top position field)
    (hkind : field.kind = .primitive type) (htype : type = .int ∨ type = .float)
    (hvalues : field.enumValues ≠ []) :
    ∃ v, top.ConstrainedBy position v ∧ type.validator? = some (v.interface, v.package) ∧
      v.literals = field.enumValues := by
  have hentry := top.atPosition_entry .resource .top position
  rw [hfield, Option.map_some] at hentry
  generalize hplace : (passed inner position top).foldl
    (fun p f => f.placeInside .resource p) .top = place at hentry
  have hpresence : (field.declare .resource place).presence ≠ .computed := by
    rw [Ne, declare_presence_eq_computed_iff, ← hplace, placeInside_foldl_iff]
    rintro (⟨above, habove, hreadOnly⟩ | hreadOnly)
    · rw [hset.2 above habove] at hreadOnly
      cases hreadOnly
    · rw [hset.1] at hreadOnly
      cases hreadOnly
  obtain ⟨⟨interface, package⟩, hpackage⟩ : ∃ pair, type.validator? = some pair := by
    rcases htype with rfl | rfl <;> exact ⟨_, rfl⟩
  have hbare : type.quotesLiterals = false := by
    rcases htype with rfl | rfl <;> rfl
  refine ⟨⟨interface, package, field.enumValues⟩, constrainedBy_of_declared hentry ?_, hpackage,
    rfl⟩
  refine (field.declare_validator?_eq_some_iff .resource place).mpr ⟨type, hkind, ?_⟩
  refine validatorOf_eq_some_iff.mpr ⟨hpresence, hvalues, hpackage, ?_⟩
  rw [hbare, if_neg Bool.false_ne_true]

end Field

/-! ## The main statement -/

/-- **Which constraints to numbers are right.** A number at any depth of a resource that its user
sets and that has values to choose from is declared with a constraint of its type. This lists the
literals of the values of its schema, each of them and in their order. A literal is a constant of
the type just if the value suits the type, so the constraint is one of constants just if all
values of the schema suit it. -/
theorem numberConstraint_iff {bytes : ByteArray} {resources : List Resource}
    (h : parseDocument bytes = .ok resources) {r : Resource} (hr : r ∈ resources)
    {top field : Field} {position : List Nat} {type : Primitive} (htop : top ∈ r.attributes)
    (hfield : atPosition Field.inner position top = some field)
    (hset : Field.Configurable top position field) (hkind : field.kind = .primitive type)
    (htype : type = .int ∨ type = .float) (hvalues : field.enumValues ≠ []) :
    ∃ doc schema v, Document.ofBytes bytes = .ok doc ∧
      doc.SchemaOf r top position field schema ∧ top.ConstrainedBy position v ∧
      type.validator? = some (v.interface, v.package) ∧
      List.Forall₂ (fun value literal =>
          literal = enumLiteral value ∧ (IsConstant type literal ↔ Suits type value))
        schema.enumeration v.literals ∧
      ((∀ literal ∈ v.literals, IsConstant type literal) ↔
        ∀ value ∈ schema.enumeration, Suits type value) := by
  obtain ⟨doc, hdoc, hresources⟩ := bind_eq_ok_iff.mp h
  have hcreate := r.mem_create_of_readOnly_eq_false htop (hset.top hfield)
  obtain ⟨schema, hschema⟩ := Document.exists_schemaOf hresources hr hcreate hfield
  obtain ⟨v, hconstrained, hpackage, hliterals⟩ :=
    Field.exists_constrainedBy hfield hset hkind htype hvalues
  rw [hschema.values] at hliterals
  refine ⟨doc, schema, v, hdoc, hschema, hconstrained, hpackage, ?_, ?_⟩
  · rw [hliterals, List.forall₂_map_right_iff, List.forall₂_same]
    exact fun value _ => ⟨rfl, isConstant_enumLiteral_iff htype value⟩
  · rw [hliterals, List.forall_mem_map]
    exact forall₂_congr fun value _ => isConstant_enumLiteral_iff htype value

/-! ## Two documents -/

/-- The scalar type of an attribute that is neither a collection nor an object. -/
def Kind.scalar? {φ : Type} : Kind φ → Option Primitive
  | .primitive type => some type
  | _ => none

theorem Kind.scalar?_eq_some_iff {φ : Type} {kind : Kind φ} {type : Primitive} :
    kind.scalar? = some type ↔ kind = .primitive type := by
  cases kind <;> simp [scalar?]

/-- What can be chosen for an attribute: by whom, and from which values of which type. -/
structure Choice where
  readOnly : Bool
  type : Option Primitive
  values : List String
  deriving DecidableEq

/-- The choice that an attribute offers. -/
def Field.choice (field : Field) : Choice :=
  ⟨field.readOnly, field.kind.scalar?, field.enumValues⟩

theorem Field.choice_eq_iff {field : Field} {readOnly : Bool} {type : Primitive}
    {values : List String} :
    field.choice = ⟨readOnly, some type, values⟩ ↔
      field.readOnly = readOnly ∧ field.kind = .primitive type ∧ field.enumValues = values := by
  unfold choice
  rw [Choice.mk.injEq, Kind.scalar?_eq_some_iff]

/-- The choices of the attributes of resources, each with those of the attributes it holds. -/
def choices (resources : List Resource) : List (List (Choice × List Choice)) :=
  resources.map fun r => r.attributes.map fun field => (field.choice, field.inner.map Field.choice)

/-- A document with a choice of whole numbers within an object. -/
def shelfLines : List String :=
  documentLines (postLines "/shelves"
    ["\"size\":\x7b\"type\":\"object\",\"properties\":\x7b",
     "\"width\":\x7b\"type\":\"integer\",\"enum\":[60,-80]\x7d\x7d\x7d"])

theorem shelfLines_choices :
    (resourcesOfJson (shelfLines.flatMap String.toList)).map choices =
      some [[(⟨true, some .string, []⟩, []),
        (⟨false, none, []⟩, [⟨false, some .int, ["60", "-80"]⟩])]] := by
  decide +kernel

/-- The width of a shelf, which lies in its size, is constrained to constants. -/
theorem shelfLines_numberConstraint :
    ∃ doc resources r top width schema v,
      Document.ofBytes (String.join shelfLines).toUTF8 = .ok doc ∧
      parseDocument (String.join shelfLines).toUTF8 = .ok resources ∧ r ∈ resources ∧
      top ∈ r.attributes ∧ atPosition Field.inner [0] top = some width ∧
      doc.SchemaOf r top [0] width schema ∧ top.ConstrainedBy [0] v ∧
      v = ⟨"validator.Int64", "int64validator", ["60", "-80"]⟩ ∧
      (∀ literal ∈ v.literals, IsConstant .int literal) ∧
      ∀ value ∈ schema.enumeration, Suits .int value := by
  obtain ⟨resources, hparse, hview⟩ := exists_parseDocument shelfLines_choices
  obtain ⟨r, rfl, hr⟩ := List.map_eq_singleton_iff.mp hview
  obtain ⟨_, _, hattributes, -, hrest⟩ := List.map_eq_cons_iff.mp hr
  obtain ⟨top, rfl, htop⟩ := List.map_eq_singleton_iff.mp hrest
  obtain ⟨htop, hinside⟩ := Prod.mk.inj htop
  obtain ⟨width, hinner, hwidth⟩ := List.map_eq_singleton_iff.mp hinside
  obtain ⟨htopFree, -, -⟩ := Choice.mk.inj htop
  obtain ⟨hwidthFree, hkind, hvalues⟩ := Field.choice_eq_iff.mp hwidth
  have hmem : top ∈ r.attributes := by
    rw [hattributes]
    simp
  have hchild : top.inner[0]? = some width := by
    rw [hinner]
    rfl
  have hposition : atPosition Field.inner [0] top = some width :=
    atPosition_cons_eq_some_iff.mpr ⟨width, hchild, rfl⟩
  have hset : Field.Configurable top [0] width := by
    refine ⟨hwidthFree, fun above habove => ?_⟩
    rw [passed_cons hchild] at habove
    obtain rfl := List.mem_singleton.mp habove
    exact htopFree
  obtain ⟨doc, schema, ⟨interface, package, literals⟩, hdoc, hschema, hconstrained, hpackage,
    hliterals, hiff⟩ := numberConstraint_iff hparse (List.mem_singleton.mpr rfl) hmem hposition
      hset hkind (Or.inl rfl) (by rw [hvalues]; simp)
  have hsame : schema.enumeration.map enumLiteral = literals.map id :=
    map_eq_map_of_forall₂ hliterals fun _ _ hliteral => hliteral.1.symm
  rw [List.map_id, ← hschema.values, hvalues] at hsame
  obtain ⟨rfl, rfl⟩ := Prod.mk.inj (Option.some.inj hpackage)
  subst hsame
  have hconstants : ∀ literal ∈ ["60", "-80"], IsConstant .int literal := by
    have hwide : IsConstant .int (toString (60 : Int)) :=
      isConstant_int_toString_iff.mpr (by unfold FitsInt64; decide)
    have hnarrow : IsConstant .int (toString (-80 : Int)) :=
      isConstant_int_toString_iff.mpr (by unfold FitsInt64; decide)
    simpa using ⟨hwide, hnarrow⟩
  exact ⟨doc, _, r, top, width, schema, _, hdoc, hparse, List.mem_singleton.mpr rfl, hmem,
    hposition, hschema, hconstrained, rfl, hconstants, hiff.mp hconstants⟩

/-- A document with a choice of whole numbers that may be missing. -/
def jobLines : List String :=
  documentLines (postLines "/jobs"
    ["\"level\":\x7b\"type\":[\"integer\",\"null\"],\"enum\":[1,2,null]\x7d"])

theorem jobLines_choices :
    (resourcesOfJson (jobLines.flatMap String.toList)).map choices =
      some [[(⟨true, some .string, []⟩, []), (⟨false, some .int, ["1", "2", "null"]⟩, [])]] := by
  decide +kernel

/-- The level of a job is constrained to what is no constant. -/
theorem jobLines_not_numberConstraint :
    ∃ resources r level v, parseDocument (String.join jobLines).toUTF8 = .ok resources ∧
      r ∈ resources ∧ level ∈ r.attributes ∧ Field.Configurable level [] level ∧
      level.kind = .primitive .int ∧ level.ConstrainedBy [] v ∧
      v = ⟨"validator.Int64", "int64validator", ["1", "2", "null"]⟩ ∧
      ¬ ∀ literal ∈ v.literals, IsConstant .int literal := by
  obtain ⟨resources, hparse, hview⟩ := exists_parseDocument jobLines_choices
  obtain ⟨r, rfl, hr⟩ := List.map_eq_singleton_iff.mp hview
  obtain ⟨_, _, hattributes, -, hrest⟩ := List.map_eq_cons_iff.mp hr
  obtain ⟨level, rfl, hlevel⟩ := List.map_eq_singleton_iff.mp hrest
  obtain ⟨hlevel, -⟩ := Prod.mk.inj hlevel
  obtain ⟨hfree, hkind, hvalues⟩ := Field.choice_eq_iff.mp hlevel
  have hmem : level ∈ r.attributes := by
    rw [hattributes]
    simp
  have hhere : atPosition Field.inner [] level = some level := rfl
  have hset : Field.Configurable level [] level := ⟨hfree, nofun⟩
  obtain ⟨⟨interface, package, literals⟩, hconstrained, hpackage, hliterals⟩ :=
    Field.exists_constrainedBy hhere hset hkind (Or.inl rfl) (by rw [hvalues]; simp)
  obtain ⟨rfl, rfl⟩ := Prod.mk.inj (Option.some.inj hpackage)
  obtain rfl : literals = ["1", "2", "null"] := hliterals.trans hvalues
  have hnull : ¬ IsConstant .int "null" := by
    refine not_isConstant_of_head rfl ?_
    unfold StartsConstant
    decide
  exact ⟨_, r, level, _, hparse, List.mem_singleton.mpr rfl, hmem, hset, hkind, hconstrained, rfl,
    fun hall => hnull (hall "null" (by simp))⟩

end ProviderGen
