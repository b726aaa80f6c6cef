/-
Scalars by themselves, in lists and in maps.

One schema can be what a property resolves to, the items of an array or the additional properties
of an object, and there it is asked whether it is a scalar. Lists and maps ask in the same way. A
property asks in another one: everything that is neither an array nor an object is a scalar to it,
and a text if nothing better is known. So a scalar in a list is the same scalar by itself, but a
text by itself need not be one in a list. It is not just if it is a text by default, which is the
whole difference between the two questions.
-/
import ProviderGen.Proofs.Demands

set_option autoImplicit false

namespace ProviderGen

/-! ## Texts by default -/

/-- A schema is a text only for want of anything better: it declares a type that is none of the
known ones, or no type and no properties, but what additional ones are. -/
inductive Schema.IsTextByDefault (schema : Schema) : Prop
  | unknown {name : String} :
      schema.typeName = some name → name ≠ "array" → name ≠ "object" →
      (∀ type : Primitive, name ≠ type.keyword) → IsTextByDefault schema
  | untyped :
      schema.typeName = none → schema.properties = [] → schema.additional ≠ none →
      IsTextByDefault schema

namespace Schema

variable {schema : Schema}

/-- A text by default is no scalar as a member. -/
theorem IsTextByDefault.not_isScalar (h : schema.IsTextByDefault) (type : Primitive) :
    ¬ schema.IsScalar type := by
  intro hscalar
  cases h with
  | unknown htype _ _ hunknown =>
    cases hscalar with
    | declared hdeclared => exact hunknown type (Option.some.inj (htype.symm.trans hdeclared))
    | untyped hnone _ _ => rw [htype] at hnone; cases hnone
  | untyped htype _ hadditional =>
    cases hscalar with
    | declared hdeclared => rw [htype] at hdeclared; cases hdeclared
    | untyped _ _ hnone => exact hadditional hnone

end Schema

namespace Document

variable {doc : Document} {depth : Nat} {stack : Stack} {schema property resolved : Schema}

/-! ## Kinds of properties -/

/-- A property has a kind, within a depth of calls and on a stack, which is left as it was. -/
def HasKind (doc : Document) (depth : Nat) (stack : Stack) (property : Schema)
    (kind : Kind Field) : Prop :=
  ∃ resolved, doc.resolve property = .ok resolved ∧
    (doc.kindOf (doc.flatten depth) property resolved).run.run stack = some (.ok kind, stack)

/-- A property is an array with a schema as its items. -/
def IsListOf (doc : Document) (property items : Schema) : Prop :=
  ∃ resolved, doc.resolve property = .ok resolved ∧ resolved.typeName = some "array" ∧
    resolved.items = some items

/-- A property is an object with a schema for its additional properties. -/
def IsMapOf (doc : Document) (property value : Schema) : Prop :=
  ∃ resolved, doc.resolve property = .ok resolved ∧ resolved.typeName = some "object" ∧
    resolved.additional = some (.schema value)

/-- A property has the kind that its demand comes to. -/
theorem hasKind_iff {kind : Kind Field} (h : doc.resolve property = .ok resolved) :
    doc.HasKind depth stack property kind ↔
      ∃ demand, doc.Demanded property resolved demand ∧
        kindFor (doc.expand depth stack) demand = some (.ok kind) := by
  have hanswers := kindOf_answers doc (flatten_answers doc depth) property resolved
  unfold HasKind
  rw [h]
  simp only [Except.ok.injEq, exists_eq_left', hanswers.run_eq_some_iff, and_true,
    Outcome.andThen_eq_ok_iff, Option.some.injEq, demandOf_eq_ok_iff]

/-- A kind that is no object is had by a property that calls for it, at any depth. -/
theorem hasKind_iff_of_nested?_eq_none {kind : Kind Field} (hkind : kind.nested? = none)
    (h : doc.resolve property = .ok resolved) :
    doc.HasKind depth stack property kind ↔ doc.Demanded property resolved (.leaf kind) := by
  simp only [hasKind_iff h, kindFor_eq_ok_iff]
  constructor
  · rintro ⟨_, hdemand, rfl | ⟨_, _, _, rfl, -, rfl⟩⟩
    · exact hdemand
    · cases hkind
  · intro hdemand
    exact ⟨_, hdemand, Or.inl rfl⟩

/-- A list has a type just if its items are a scalar of that type. -/
theorem hasKind_list_iff {list : Schema} {type : Primitive} (hlist : doc.IsListOf list schema)
    (hschema : doc.resolve schema = .ok resolved) :
    doc.HasKind depth stack list (.list type) ↔ resolved.IsScalar type := by
  obtain ⟨target, htarget, htype, hitems⟩ := hlist
  rw [hasKind_iff_of_nested?_eq_none rfl htarget]
  constructor
  · intro hdemand
    cases hdemand with
    | anyList _ hnone => rw [hitems] at hnone; cases hnone
    | list _ hitems' hmember hscalar =>
      rw [hitems] at hitems'
      cases hitems'
      rw [hschema] at hmember
      cases hmember
      exact hscalar
  · exact .list htype hitems hschema

/-- A map has a type just if its values are a scalar of that type. -/
theorem hasKind_map_iff {map : Schema} {type : Primitive} (hmap : doc.IsMapOf map schema)
    (hschema : doc.resolve schema = .ok resolved) :
    doc.HasKind depth stack map (.map type) ↔ resolved.IsScalar type := by
  obtain ⟨target, htarget, htype, hadditional⟩ := hmap
  rw [hasKind_iff_of_nested?_eq_none rfl htarget]
  constructor
  · intro hdemand
    cases hdemand with
    | map _ hadditional' hvalue hscalar =>
      rw [hadditional] at hadditional'
      cases hadditional'
      rw [hschema] at hvalue
      cases hvalue
      exact hscalar
  · exact .map htype hadditional hschema

/-- A property that declares a scalar type calls for a scalar of that type. -/
theorem demanded_of_declared {type : Primitive} (h : resolved.typeName = some type.keyword) :
    doc.Demanded property resolved (.leaf (.primitive type)) := by
  have hdemand : doc.Demanded property resolved _ := .scalar h type.keyword_ne.1 type.keyword_ne.2
  rwa [Primitive.ofTypeName?_keyword, Option.getD_some] at hdemand

/-- A property that is a text by default calls for a text. -/
theorem demanded_of_isTextByDefault (h : resolved.IsTextByDefault) :
    doc.Demanded property resolved (.leaf (.primitive .string)) := by
  cases h with
  | unknown htype harray hobject hunknown =>
    have hdemand : doc.Demanded property resolved _ := .scalar htype harray hobject
    rwa [Primitive.ofTypeName?_eq_none_iff.mpr hunknown, Option.getD_none] at hdemand
  | untyped htype hproperties _ => exact .untyped htype hproperties

/-- A property is a scalar of a type by itself just if it is one as a member, or a text by
default. -/
theorem hasKind_primitive_iff {type : Primitive} (hschema : doc.resolve schema = .ok resolved) :
    doc.HasKind depth stack schema (.primitive type) ↔
      resolved.IsScalar type ∨ resolved.IsTextByDefault ∧ type = .string := by
  rw [hasKind_iff_of_nested?_eq_none rfl hschema]
  constructor
  · generalize hkind : Kind.primitive (φ := Field) type = kind
    intro hdemand
    cases hdemand with
    | @scalar name htype harray hobject =>
      cases hname : Primitive.ofTypeName? name with
      | some known =>
        rw [hname] at hkind
        cases hkind
        rw [Primitive.ofTypeName?_eq_some_iff] at hname
        exact Or.inl (.declared (hname ▸ htype))
      | none =>
        rw [hname] at hkind
        cases hkind
        exact Or.inr ⟨.unknown htype harray hobject (Primitive.ofTypeName?_eq_none_iff.mp hname),
          rfl⟩
    | untyped htype hnone =>
      cases hkind
      by_cases hadditional : resolved.additional = none
      · exact Or.inl (.untyped htype hnone hadditional)
      · exact Or.inr ⟨.untyped htype hnone hadditional, rfl⟩
    | anyList => cases hkind
    | list => cases hkind
    | map => cases hkind
  · rintro ((hdeclared | ⟨htype, hnone, -⟩) | ⟨htext, rfl⟩)
    · exact demanded_of_declared hdeclared
    · exact .untyped htype hnone
    · exact demanded_of_isTextByDefault htext

/-! ## The main statement -/

/-- **When a scalar is one wherever it stands.** Lists and maps of a schema have the same types,
those that it is a scalar of, and the schema has them by itself too. By itself it may be a text
that it is not in a list or map, and this happens just if it is a text by default. -/
theorem scalarKinds_agree_iff {list map : Schema} (hschema : doc.resolve schema = .ok resolved)
    (hlist : doc.IsListOf list schema) (hmap : doc.IsMapOf map schema) (depth : Nat)
    (stack : Stack) :
    (∀ type, (doc.HasKind depth stack list (.list type) ↔ resolved.IsScalar type) ∧
        (doc.HasKind depth stack list (.list type) ↔ doc.HasKind depth stack map (.map type)) ∧
        (doc.HasKind depth stack list (.list type) →
          doc.HasKind depth stack schema (.primitive type))) ∧
      ((∀ type, doc.HasKind depth stack schema (.primitive type) ↔
          doc.HasKind depth stack list (.list type)) ↔ ¬ resolved.IsTextByDefault) ∧
      (resolved.IsTextByDefault →
        doc.HasKind depth stack schema (.primitive .string) ∧
          ∀ type, ¬ doc.HasKind depth stack list (.list type) ∧
            ¬ doc.HasKind depth stack map (.map type)) := by
  have hlists (type : Primitive) :
      doc.HasKind depth stack list (.list type) ↔ resolved.IsScalar type :=
    hasKind_list_iff hlist hschema
  have hmaps (type : Primitive) :
      doc.HasKind depth stack map (.map type) ↔ resolved.IsScalar type :=
    hasKind_map_iff hmap hschema
  have hscalars (type : Primitive) : doc.HasKind depth stack schema (.primitive type) ↔
      resolved.IsScalar type ∨ resolved.IsTextByDefault ∧ type = .string :=
    hasKind_primitive_iff hschema
  refine ⟨fun type => ⟨hlists type, (hlists type).trans (hmaps type).symm, fun h => ?_⟩,
    ⟨fun hagree htext => ?_, fun hnot type => ?_⟩, fun htext => ⟨?_, fun type => ⟨fun h => ?_,
      fun h => ?_⟩⟩⟩
  · exact (hscalars type).mpr (Or.inl ((hlists type).mp h))
  · -- the text that it is by itself would be one in a list
    have htextual := (hscalars .string).mpr (Or.inr ⟨htext, rfl⟩)
    exact htext.not_isScalar .string ((hlists .string).mp ((hagree .string).mp htextual))
  · rw [hscalars type, hlists type]
    exact or_iff_left fun htext => hnot htext.1
  · exact (hscalars .string).mpr (Or.inr ⟨htext, rfl⟩)
  · exact htext.not_isScalar type ((hlists type).mp h)
  · exact htext.not_isScalar type ((hmaps type).mp h)

/-! ## Two schemas -/

/-- A list of a schema, as a property. -/
def listOf (items : Schema) : Schema where
  type := some (.single "array")
  items := some items

/-- A map to a schema, as a property. -/
def mapOf (value : Schema) : Schema where
  type := some (.single "object")
  additional := some (.schema value)

theorem isListOf_listOf (doc : Document) (items : Schema) : doc.IsListOf (listOf items) items :=
  ⟨listOf items, resolve_of_reference_none rfl, rfl, rfl⟩

theorem isMapOf_mapOf (doc : Document) (value : Schema) : doc.IsMapOf (mapOf value) value :=
  ⟨mapOf value, resolve_of_reference_none rfl, rfl, rfl⟩

/-- A reference to the component of weights. -/
def weightReference : Schema where
  reference := some (referencePrefix ++ "Weight")

/-- A weight is a number and may be missing. -/
def weightSchema : Schema where
  type := some (.multiple ["null", "number"])

/-- A document with weights. -/
def weightDocument : Document where
  openapi := "3.1.0"
  info := { title := "t", version := "1" }
  components := some { schemas := [("Weight", weightSchema)] }

/-- A weight is a number by itself, in a list and in a map. -/
theorem weight_scalarKinds_agree :
    weightDocument.resolve weightReference = .ok weightSchema ∧
      weightDocument.HasKind 0 [] weightReference (.primitive .float) ∧
      weightDocument.HasKind 0 [] (listOf weightReference) (.list .float) ∧
      weightDocument.HasKind 0 [] (mapOf weightReference) (.map .float) := by
  have hresolve : weightDocument.resolve weightReference = .ok weightSchema := rfl
  obtain ⟨hkinds, -⟩ := scalarKinds_agree_iff hresolve (isListOf_listOf _ _) (isMapOf_mapOf _ _) 0 []
  obtain ⟨hscalar, hmap, hprimitive⟩ := hkinds .float
  have hlist := hscalar.mpr (.declared rfl)
  exact ⟨hresolve, hprimitive hlist, hlist, hmap.mp hlist⟩

/-- A schema of a type that is not known. -/
def uuidSchema : Schema where
  type := some (.single "uuid")

/-- A schema of an unknown type is a text by itself, but neither in a list nor in a map. -/
theorem uuid_not_scalarKinds_agree :
    weightDocument.resolve uuidSchema = .ok uuidSchema ∧
      weightDocument.HasKind 1 [] uuidSchema (.primitive .string) ∧
      weightDocument.HasKind 1 [] (listOf uuidSchema) (.object [] true) ∧
      weightDocument.HasKind 1 [] (mapOf uuidSchema) (.object [] false) ∧
      ¬ weightDocument.HasKind 1 [] (listOf uuidSchema) (.list .string) ∧
      ¬ weightDocument.HasKind 1 [] (mapOf uuidSchema) (.map .string) := by
  have hresolve : weightDocument.resolve uuidSchema = .ok uuidSchema := rfl
  have htext : uuidSchema.IsTextByDefault :=
    .unknown rfl (by decide) (by decide) fun type => by cases type <;> decide
  have hlist := isListOf_listOf weightDocument uuidSchema
  have hmap := isMapOf_mapOf weightDocument uuidSchema
  refine ⟨hresolve, (hasKind_primitive_iff hresolve).mpr (Or.inr ⟨htext, rfl⟩), ⟨_, rfl, rfl⟩,
    ⟨_, rfl, rfl⟩, fun h => ?_, fun h => ?_⟩
  · exact htext.not_isScalar _ ((hasKind_list_iff hlist hresolve).mp h)
  · exact htext.not_isScalar _ ((hasKind_map_iff hmap hresolve).mp h)

end Document

end ProviderGen
