/-
What properties call for, as rules.

What a property calls for depends on the type that its schema declares and, for arrays and
objects, on whether a member is a scalar: the items of an array, the additional properties of an
object. `Demanded` has a rule for each way this can go, and `demandOf_eq_ok_iff` says that the
rules are complete: a property calls for just what one of them gives it. Later modules take a
demand apart by these rules and never by the branches of `demandOf`.

A schema is a scalar as a member (`IsScalar`) just if it declares a scalar type, or nothing at
all. By itself it counts as one in more cases: any type but an array or object does, if only as a
text.
-/
import ProviderGen.Proofs.Expansion

set_option autoImplicit false

namespace ProviderGen

/-! ## Scalars -/

namespace Primitive

/-- The type name by which schemas declare a type. -/
def keyword : Primitive → String
  | string => "string"
  | int => "integer"
  | float => "number"
  | bool => "boolean"

theorem ofTypeName?_eq_some_iff {name : String} {type : Primitive} :
    ofTypeName? name = some type ↔ name = type.keyword := by
  constructor
  · intro h
    unfold ofTypeName? at h
    split_ifs at h <;> cases h <;> assumption
  · rintro rfl
    cases type <;> decide

@[simp] theorem ofTypeName?_keyword (type : Primitive) : ofTypeName? type.keyword = some type :=
  ofTypeName?_eq_some_iff.mpr rfl

theorem keyword_ne (type : Primitive) : type.keyword ≠ "array" ∧ type.keyword ≠ "object" := by
  cases type <;> decide

theorem ofTypeName?_eq_none_iff {name : String} :
    ofTypeName? name = none ↔ ∀ type : Primitive, name ≠ type.keyword := by
  rw [Option.eq_none_iff_forall_ne_some]
  exact forall_congr' fun type => not_congr ofTypeName?_eq_some_iff

end Primitive

namespace Schema

/-- A schema is a scalar of a type as a member of an array or an object: it declares the type, or
it says nothing of what it holds and counts as a text. -/
inductive IsScalar (schema : Schema) : Primitive → Prop
  | declared {type : Primitive} : schema.typeName = some type.keyword → IsScalar schema type
  | untyped : schema.typeName = none → schema.properties = [] → schema.additional = none →
      IsScalar schema .string

theorem scalarType_eq_some_iff {schema : Schema} {type : Primitive} :
    scalarType schema = some type ↔ schema.IsScalar type := by
  unfold scalarType
  constructor
  · intro h
    split at h
    · next name hname =>
      rw [Primitive.ofTypeName?_eq_some_iff] at h
      exact .declared (h ▸ hname)
    · next hname =>
      split at h
      · next hempty =>
        cases h
        simp only [Bool.and_eq_true, List.isEmpty_iff, Option.isNone_iff_eq_none] at hempty
        exact .untyped hname hempty.1 hempty.2
      · cases h
  · rintro (htype | ⟨htype, hproperties, hadditional⟩)
    · rw [htype]
      exact Primitive.ofTypeName?_keyword type
    · rw [htype, hproperties, hadditional]
      rfl

theorem scalarType_eq_none_iff {schema : Schema} :
    scalarType schema = none ↔ ∀ type, ¬ schema.IsScalar type := by
  rw [Option.eq_none_iff_forall_ne_some]
  exact forall_congr' fun type => not_congr scalarType_eq_some_iff

end Schema

/-! ## The rules -/

namespace Document

/-- What a property calls for that resolves to a schema. -/
inductive Demanded (doc : Document) (property resolved : Schema) : Demand → Prop
  | scalar {name : String} :
      resolved.typeName = some name → name ≠ "array" → name ≠ "object" →
      Demanded doc property resolved
        (.leaf (.primitive ((Primitive.ofTypeName? name).getD .string)))
  | untyped :
      resolved.typeName = none → resolved.properties = [] →
      Demanded doc property resolved (.leaf (.primitive .string))
  | untypedObject :
      resolved.typeName = none → resolved.properties ≠ [] →
      Demanded doc property resolved (.nested property false)
  | anyList :
      resolved.typeName = some "array" → resolved.items = none →
      Demanded doc property resolved (.leaf (.list .string))
  | list {items target : Schema} {type : Primitive} :
      resolved.typeName = some "array" → resolved.items = some items →
      doc.resolve items = .ok target → target.IsScalar type →
      Demanded doc property resolved (.leaf (.list type))
  | objects {items target : Schema} :
      resolved.typeName = some "array" → resolved.items = some items →
      doc.resolve items = .ok target → (∀ type, ¬ target.IsScalar type) →
      Demanded doc property resolved (.nested items true)
  | map {value target : Schema} {type : Primitive} :
      resolved.typeName = some "object" → resolved.additional = some (.schema value) →
      doc.resolve value = .ok target → target.IsScalar type →
      Demanded doc property resolved (.leaf (.map type))
  | object :
      resolved.typeName = some "object" →
      (∀ value, resolved.additional = some (.schema value) →
        ∃ target, doc.resolve value = .ok target ∧ ∀ type, ¬ target.IsScalar type) →
      Demanded doc property resolved (.nested property false)

variable {doc : Document} {property resolved : Schema} {demand : Demand}

/-! ## Members that decide -/

/-- A member that resolves decides what is called for: a kind of its own if it is a scalar, and
the other demand if not. -/
theorem resolve_ofMember_eq_ok_iff {member : Schema} {leaf : Primitive → Kind Field}
    {other : Demand} :
    (doc.resolve member >>= fun target => .ok (Demand.ofMember leaf other target)) = .ok demand ↔
      ∃ target, doc.resolve member = .ok target ∧
        ((∃ type, target.IsScalar type ∧ demand = .leaf (leaf type)) ∨
          (∀ type, ¬ target.IsScalar type) ∧ demand = other) := by
  rw [bind_eq_ok_iff]
  refine exists_congr fun target => and_congr_right fun _ => ?_
  rw [Except.ok.injEq, Demand.ofMember]
  cases hscalar : scalarType target with
  | some type =>
    have htype : target.IsScalar type := Schema.scalarType_eq_some_iff.mp hscalar
    constructor
    · rintro rfl
      exact Or.inl ⟨type, htype, rfl⟩
    · rintro (⟨type', htype', rfl⟩ | ⟨hnone, -⟩)
      · rw [← Schema.scalarType_eq_some_iff, hscalar] at htype'
        cases htype'
        rfl
      · exact absurd htype (hnone type)
  | none =>
    have hnone := Schema.scalarType_eq_none_iff.mp hscalar
    constructor
    · rintro rfl
      exact Or.inr ⟨hnone, rfl⟩
    · rintro (⟨type, htype, -⟩ | ⟨-, rfl⟩)
      · exact absurd htype (hnone type)
      · rfl

/-- What an array calls for is settled by its items. -/
theorem demanded_of_arrayDemand (htype : resolved.typeName = some "array")
    (h : doc.arrayDemand resolved.items = .ok demand) : doc.Demanded property resolved demand := by
  cases hitems : resolved.items with
  | none =>
    rw [hitems] at h
    cases h
    exact .anyList htype hitems
  | some items =>
    rw [hitems, arrayDemand_some, resolve_ofMember_eq_ok_iff] at h
    obtain ⟨target, htarget, ⟨type, hscalar, rfl⟩ | ⟨hnone, rfl⟩⟩ := h
    · exact .list htype hitems htarget hscalar
    · exact .objects htype hitems htarget hnone

/-- What an object calls for is settled by its additional properties, if they have a schema. -/
theorem demanded_of_objectDemand (htype : resolved.typeName = some "object")
    (h : doc.objectDemand property resolved.additional = .ok demand) :
    doc.Demanded property resolved demand := by
  rcases hadditional : resolved.additional with _ | allowed | value
  · rw [hadditional] at h
    cases h
    exact .object htype (by simp [hadditional])
  · rw [hadditional] at h
    cases h
    exact .object htype (by simp [hadditional])
  · rw [hadditional, objectDemand_schema, resolve_ofMember_eq_ok_iff] at h
    obtain ⟨target, htarget, ⟨type, hscalar, rfl⟩ | ⟨hnone, rfl⟩⟩ := h
    · exact .map htype hadditional htarget hscalar
    · refine .object htype fun value' hvalue' => ⟨target, ?_, hnone⟩
      rw [hadditional] at hvalue'
      cases hvalue'
      exact htarget

/-! ## Completeness -/

/-- A property calls for what a rule gives it. -/
theorem Demanded.demandOf_eq (h : doc.Demanded property resolved demand) :
    doc.demandOf property resolved = .ok demand := by
  cases h with
  | scalar htype harray hobject => exact demandOf_scalar htype harray hobject
  | untyped htype hnone => rw [demandOf_untyped htype, hnone]; rfl
  | untypedObject htype hsome =>
    rw [demandOf_untyped htype, if_neg (fun hempty => hsome (List.isEmpty_iff.mp hempty))]
  | anyList htype hitems => rw [demandOf_array htype, hitems]; rfl
  | list htype hitems htarget hscalar =>
    rw [demandOf_array htype, hitems, arrayDemand_some, resolve_ofMember_eq_ok_iff]
    exact ⟨_, htarget, Or.inl ⟨_, hscalar, rfl⟩⟩
  | objects htype hitems htarget hnone =>
    rw [demandOf_array htype, hitems, arrayDemand_some, resolve_ofMember_eq_ok_iff]
    exact ⟨_, htarget, Or.inr ⟨hnone, rfl⟩⟩
  | map htype hadditional htarget hscalar =>
    rw [demandOf_object htype, hadditional, objectDemand_schema, resolve_ofMember_eq_ok_iff]
    exact ⟨_, htarget, Or.inl ⟨_, hscalar, rfl⟩⟩
  | object htype hvalues =>
    rw [demandOf_object htype]
    rcases hadditional : resolved.additional with _ | allowed | value
    · rfl
    · rfl
    · obtain ⟨target, htarget, hnone⟩ := hvalues value hadditional
      rw [objectDemand_schema, resolve_ofMember_eq_ok_iff]
      exact ⟨target, htarget, Or.inr ⟨hnone, rfl⟩⟩

/-- **The rules are complete**: what a property calls for is what one of them gives it. -/
theorem demandOf_eq_ok_iff :
    doc.demandOf property resolved = .ok demand ↔ doc.Demanded property resolved demand := by
  refine ⟨fun h => ?_, Demanded.demandOf_eq⟩
  rcases htype : resolved.typeName with _ | name
  · rw [demandOf_untyped htype] at h
    split at h
    · next hempty =>
      cases h
      exact .untyped htype (List.isEmpty_iff.mp hempty)
    · next hsome =>
      cases h
      exact .untypedObject htype fun hempty => hsome (List.isEmpty_iff.mpr hempty)
  · by_cases harray : name = "array"
    · subst harray
      exact demanded_of_arrayDemand htype (demandOf_array htype ▸ h)
    · by_cases hobject : name = "object"
      · subst hobject
        exact demanded_of_objectDemand htype (demandOf_object htype ▸ h)
      · rw [demandOf_scalar htype harray hobject] at h
        cases h
        exact .scalar htype harray hobject

/-! ## Kinds -/

/-- The kind of a property is the one it has by itself, or an object with the attributes of the
schema that it calls for. -/
theorem kindFor_eq_ok_iff {nested : Schema → Outcome (List Field)} {kind : Kind Field} :
    kindFor nested demand = some (.ok kind) ↔
      demand = .leaf kind ∨ ∃ schema repeated fields, demand = .nested schema repeated ∧
        nested schema = some (.ok fields) ∧ kind = .object fields repeated := by
  cases demand with
  | leaf kind' => simp [kindFor]
  | nested schema repeated =>
    simp only [kindFor, Outcome.andThen_eq_ok_iff, Option.some.injEq, Except.ok.injEq, reduceCtorEq,
      Demand.nested.injEq, false_or]
    constructor
    · rintro ⟨fields, hfields, rfl⟩
      exact ⟨schema, repeated, fields, ⟨rfl, rfl⟩, hfields, rfl⟩
    · rintro ⟨_, _, fields, ⟨rfl, rfl⟩, hfields, rfl⟩
      exact ⟨fields, hfields, rfl⟩

/-- A kind that a property has by itself holds no attributes. -/
theorem Demanded.nested?_of_leaf {kind : Kind Field}
    (h : doc.Demanded property resolved (.leaf kind)) : kind.nested? = none := by
  cases h <;> rfl

/-- What a property calls for once is the property itself. -/
theorem Demanded.eq_of_nested_false {schema : Schema}
    (h : doc.Demanded property resolved (.nested schema false)) : schema = property := by
  cases h <;> rfl

end Document

end ProviderGen
