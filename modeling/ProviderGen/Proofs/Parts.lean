/-
The schemas within a schema.

A schema holds other schemas: under its properties, as its items and as the schema of
its additional properties. `children` are the ones it holds itself and `parts` all of
them, at every depth and with the schema in front. There are as many parts as `size`
counts, which ties the bound on expansions to a list that can be searched.

A document adds its components. `doc.parts body` are the schemas that an expansion of
the body can come across: it contains the body and is closed under going to a child and
under following references.
-/
import ProviderGen.Proofs.Chain
import ProviderGen.Proofs.Results
import ProviderGen.Resource.Flatten
import Mathlib.Data.List.Basic
import Mathlib.Algebra.GroupWithZero.Nat

set_option autoImplicit false

namespace ProviderGen

namespace Schema

/-! ## Children and parts -/

/-- The schema of additional properties, if there is one. -/
def additionalSchemas : Option (Additional Schema) → List Schema
  | some (.schema value) => [value]
  | _ => []

/-- The schemas a schema holds itself. -/
def children (schema : Schema) : List Schema :=
  schema.properties.map Prod.snd ++ schema.items.toList ++ additionalSchemas schema.additional

mutual

/-- A schema and all schemas within it. -/
def parts : Schema → List Schema
  | ⟨type, format, description, properties, required, items, additional, enumeration, readOnly,
      reference⟩ =>
    ⟨type, format, description, properties, required, items, additional, enumeration, readOnly,
      reference⟩ :: (partsAll properties ++ partsOptional items ++ partsAdditional additional)

/-- All schemas under properties. -/
def partsAll : List (String × Schema) → List Schema
  | [] => []
  | (_, schema) :: rest => schema.parts ++ partsAll rest

/-- All schemas under items. -/
def partsOptional : Option Schema → List Schema
  | none => []
  | some schema => schema.parts

/-- All schemas under additional properties. -/
def partsAdditional : Option (Additional Schema) → List Schema
  | some (.schema schema) => schema.parts
  | _ => []

end

theorem partsAll_eq (properties : List (String × Schema)) :
    partsAll properties = (properties.map Prod.snd).flatMap parts := by
  induction properties with
  | nil => rfl
  | cons entry rest ih => rw [partsAll, ih, List.map_cons, List.flatMap_cons]

/-- The parts of a schema are the schema and the parts of its children. -/
theorem parts_eq (schema : Schema) : schema.parts = schema :: schema.children.flatMap parts := by
  obtain ⟨_, _, _, properties, _, items, additional, _, _, _⟩ := schema
  have hitems : partsOptional items = items.toList.flatMap parts := by
    cases items <;> simp [partsOptional]
  have hadditional : partsAdditional additional = (additionalSchemas additional).flatMap parts := by
    rcases additional with _ | _ | value <;> simp [partsAdditional, additionalSchemas]
  rw [parts, partsAll_eq, hitems, hadditional]
  simp only [children, List.flatMap_append]

theorem self_mem_parts (schema : Schema) : schema ∈ schema.parts := by
  rw [parts_eq]
  exact List.mem_cons_self ..

theorem mem_parts_of_mem_children {schema child part : Schema} (hchild : child ∈ schema.children)
    (h : part ∈ child.parts) : part ∈ schema.parts := by
  rw [parts_eq]
  exact List.mem_cons_of_mem _ (List.mem_flatMap.mpr ⟨child, hchild, h⟩)

theorem children_subset_parts (schema : Schema) : schema.children ⊆ schema.parts :=
  fun _ hchild => mem_parts_of_mem_children hchild (self_mem_parts _)

/-- A child is the schema of a property, of the items or of the additional properties. -/
theorem mem_children_iff {schema child : Schema} :
    child ∈ schema.children ↔
      (∃ entry ∈ schema.properties, entry.2 = child) ∨ schema.items = some child ∨
        schema.additional = some (.schema child) := by
  unfold children
  rw [List.mem_append, List.mem_append, List.mem_map, Option.mem_toList, or_assoc]
  refine or_congr_right (or_congr_right ?_)
  rcases schema.additional with _ | _ | value
  · simp [additionalSchemas]
  · simp [additionalSchemas]
  · simp [additionalSchemas, eq_comm]

theorem property_mem_children {schema : Schema} {entry : String × Schema}
    (h : entry ∈ schema.properties) : entry.2 ∈ schema.children :=
  mem_children_iff.mpr (Or.inl ⟨entry, h, rfl⟩)

theorem items_mem_children {schema items : Schema} (h : schema.items = some items) :
    items ∈ schema.children :=
  mem_children_iff.mpr (Or.inr (Or.inl h))

theorem additional_mem_children {schema value : Schema}
    (h : schema.additional = some (.schema value)) : value ∈ schema.children :=
  mem_children_iff.mpr (Or.inr (Or.inr h))

/-! ## Size -/

theorem sizeAll_eq (properties : List (String × Schema)) :
    sizeAll properties = ((properties.map Prod.snd).map size).sum := by
  induction properties with
  | nil => rfl
  | cons entry rest ih => rw [sizeAll, ih, List.map_cons, List.map_cons, List.sum_cons]

theorem size_eq (schema : Schema) : schema.size = (schema.children.map size).sum + 1 := by
  obtain ⟨_, _, _, properties, _, items, additional, _, _, _⟩ := schema
  have hitems : sizeOptional items = (items.toList.map size).sum := by
    cases items <;> simp [sizeOptional]
  have hadditional :
      sizeAdditional additional = ((additionalSchemas additional).map size).sum := by
    rcases additional with _ | _ | value <;> simp [sizeAdditional, additionalSchemas]
  rw [size, sizeAll_eq, hitems, hadditional]
  simp only [children, List.map_append, List.sum_append]

/-- A child is smaller than the schema that holds it. -/
theorem size_lt_of_mem_children {schema child : Schema} (h : child ∈ schema.children) :
    child.size < schema.size := by
  obtain ⟨before, after, hsplit⟩ := List.append_of_mem h
  rw [size_eq schema, hsplit, List.map_append, List.map_cons, List.sum_append, List.sum_cons]
  omega

/-- A property of the smaller schemas of a schema can be assumed of its children. -/
theorem induction_on_children {motive : Schema → Prop}
    (step : ∀ schema, (∀ child ∈ schema.children, motive child) → motive schema)
    (schema : Schema) : motive schema := by
  induction hsize : schema.size using Nat.strongRecOn generalizing schema with
  | ind size ih =>
    apply step
    intro child hchild
    have hlt := size_lt_of_mem_children hchild
    exact ih child.size (by omega) child rfl

/-- There are as many parts as the size counts. -/
theorem length_parts (schema : Schema) : schema.parts.length = schema.size := by
  induction schema using induction_on_children with
  | step schema ih =>
    rw [parts_eq, size_eq, List.length_cons, List.length_flatMap, List.map_congr_left ih]

/-- The parts of a part are parts. -/
theorem mem_parts_trans {schema part inner : Schema} (h : part ∈ schema.parts)
    (k : inner ∈ part.parts) : inner ∈ schema.parts := by
  induction schema using induction_on_children with
  | step schema ih =>
    rw [parts_eq] at h
    rcases List.mem_cons.mp h with rfl | hbelow
    · exact k
    · obtain ⟨child, hchild, hpart⟩ := List.mem_flatMap.mp hbelow
      exact mem_parts_of_mem_children hchild (ih child hchild hpart)

end Schema

/-! ## The schemas an expansion can come across -/

namespace Document

variable {doc : Document}

theorem mem_schemas_of_component? {name : String} {component : Schema}
    (h : doc.component? name = some component) : (name, component) ∈ doc.schemas := by
  unfold component? at h
  unfold schemas
  cases hcomp : doc.components with
  | none => rw [hcomp] at h; cases h
  | some components =>
    rw [hcomp, Option.bind_some] at h
    exact mem_of_lookup h

/-- The parts of a body and of all components. -/
def parts (doc : Document) (body : Schema) : List Schema :=
  Schema.partsAll doc.schemas ++ body.parts

theorem length_parts (doc : Document) (body : Schema) :
    (doc.parts body).length = Schema.sizeAll doc.schemas + body.size := by
  unfold parts
  rw [List.length_append, Schema.length_parts, Schema.partsAll_eq, Schema.sizeAll_eq,
    List.length_flatMap, List.map_congr_left fun schema _ => Schema.length_parts schema]

theorem mem_parts_iff {body part : Schema} :
    part ∈ doc.parts body ↔
      (∃ entry ∈ doc.schemas, part ∈ entry.2.parts) ∨ part ∈ body.parts := by
  unfold parts
  rw [List.mem_append, Schema.partsAll_eq, List.flatMap_map, List.mem_flatMap]

theorem self_mem_parts (body : Schema) : body ∈ doc.parts body :=
  mem_parts_iff.mpr (Or.inr body.self_mem_parts)

theorem component_mem_parts {body component : Schema} {name : String}
    (h : doc.component? name = some component) : component ∈ doc.parts body :=
  mem_parts_iff.mpr (Or.inl ⟨_, mem_schemas_of_component? h, component.self_mem_parts⟩)

theorem mem_parts_of_mem_children {body part child : Schema} (h : part ∈ doc.parts body)
    (hchild : child ∈ part.children) : child ∈ doc.parts body := by
  have hmem := part.children_subset_parts hchild
  rcases mem_parts_iff.mp h with ⟨entry, hentry, hpart⟩ | hpart
  · exact mem_parts_iff.mpr (Or.inl ⟨entry, hentry, Schema.mem_parts_trans hpart hmem⟩)
  · exact mem_parts_iff.mpr (Or.inr (Schema.mem_parts_trans hpart hmem))

/-- The end of a chain is a component or the schema the chain starts at. -/
theorem Chain.last_mem_parts {body schema last : Schema} {names : List String}
    (h : doc.Chain schema names last) (hmem : schema ∈ doc.parts body) :
    last ∈ doc.parts body := by
  cases h with
  | stop => exact hmem
  | hop href hcomp hrest =>
    obtain ⟨name, -, hlast⟩ := (Chain.hop href hcomp hrest).last_component (by simp)
    exact component_mem_parts hlast

theorem mem_parts_of_resolve {body schema resolved : Schema} (hmem : schema ∈ doc.parts body)
    (h : doc.resolve schema = .ok resolved) : resolved ∈ doc.parts body := by
  obtain ⟨names, hchain, -⟩ := exists_chain_of_resolve h
  exact hchain.last_mem_parts hmem

end Document

end ProviderGen
