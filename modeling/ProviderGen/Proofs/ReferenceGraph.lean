/-
Expansions and the graph of references between components.

One component refers to another if a reference to the other stands anywhere within it.
The stack of names knows nothing of that graph, and the two are tied by an invariant:
every name on the stack leads to the schema of the call, that is, whatever the schema
mentions can be reached from the component with that name. A reference that meets a name
on the stack then closes a circle in the graph, so a document without circles never has
it refused, however often its components are shared.

Circles that meet no name on the stack are list circles, and those close a circle in the
graph as well: the array is a component, and what its items mention leads back to it.
-/
import ProviderGen.Proofs.Termination

set_option autoImplicit false

namespace ProviderGen

open Relation

/-! ## The graph -/

/-- A reference to the component with the name stands somewhere in the schema. -/
def Schema.Mentions (schema : Schema) (name : String) : Prop :=
  ∃ part ∈ schema.parts, part.reference = some (Document.referencePrefix ++ name)

namespace Document

variable {doc : Document}

/-- The component with the one name mentions the other name. -/
def Refers (doc : Document) (name other : String) : Prop :=
  ∃ component, doc.component? name = some component ∧ component.Mentions other

/-- All that the schema mentions is reached from the component with the name. -/
def Leads (doc : Document) (name : String) (schema : Schema) : Prop :=
  ∀ other, schema.Mentions other → TransGen doc.Refers name other

/-! ## Where a component leads -/

theorem leads_component {name : String} {component : Schema}
    (hcomp : doc.component? name = some component) : doc.Leads name component :=
  fun _ hmentions => TransGen.single ⟨component, hcomp, hmentions⟩

/-- What leads to a schema leads to its children. -/
theorem Leads.child {name : String} {schema child : Schema} (h : doc.Leads name schema)
    (hchild : child ∈ schema.children) : doc.Leads name child := by
  rintro other ⟨part, hpart, href⟩
  exact h other ⟨part, Schema.mem_parts_of_mem_children hchild hpart, href⟩

/-- What leads to the start of a chain reaches the components of the chain and leads to
its end. -/
theorem Leads.chain {name : String} {schema last : Schema} {names : List String}
    (h : doc.Leads name schema) (hchain : doc.Chain schema names last) :
    (∀ passed ∈ names, TransGen doc.Refers name passed) ∧ doc.Leads name last := by
  induction hchain with
  | stop => exact ⟨by simp, h⟩
  | @hop schema component last passed names href hcomp _ ih =>
    -- the schema mentions the first component, and what that one mentions is one edge further
    have hfirst : TransGen doc.Refers name passed := h passed ⟨schema, schema.self_mem_parts, href⟩
    have hcomponent : doc.Leads name component := fun other hmentions =>
      hfirst.trans (leads_component hcomp other hmentions)
    obtain ⟨hnames, hlast⟩ := ih hcomponent
    exact ⟨List.forall_mem_cons.mpr ⟨hfirst, hnames⟩, hlast⟩

/-- Every component of a chain leads to the end of the chain. -/
theorem Chain.leads {schema last : Schema} {names : List String} {name : String}
    (hchain : doc.Chain schema names last) (hmem : name ∈ names) : doc.Leads name last := by
  obtain ⟨component, rest, hcomp, hrest, -⟩ := hchain.from_mem hmem
  exact ((leads_component hcomp).chain hrest).2

/-- What leads to a schema leads to what the schema resolves to. -/
theorem Leads.resolve {name : String} {schema resolved : Schema} (h : doc.Leads name schema)
    (hresolve : doc.resolve schema = .ok resolved) : doc.Leads name resolved := by
  obtain ⟨names, hchain, -⟩ := exists_chain_of_resolve hresolve
  exact (h.chain hchain).2

/-- What leads to a property leads to the schema that the property calls for. -/
theorem Leads.demand {name : String} {property target schema : Schema} {repeated : Bool}
    (h : doc.Leads name property)
    (hdemand : doc.demand property = .ok (target, .nested schema repeated)) :
    doc.Leads name schema := by
  obtain ⟨hresolve, rfl | ⟨-, hitems⟩⟩ := demand_eq_nested hdemand
  · exact h
  · exact (h.resolve hresolve).child (Schema.items_mem_children hitems)

/-! ## The invariant -/

/-- What leads to the schema of a call leads to the schemas of the calls it makes, and so do
the components that the call pushes. -/
theorem Leads.calls {call inner : Call} {name : String} (hcalls : doc.Calls call inner)
    (h : doc.Leads name call.schema ∨ name ∈ inner.stack ∧ name ∉ call.stack) :
    doc.Leads name inner.schema := by
  obtain ⟨entry, resolved, names, target, repeated, depth, henter, hreached, hdemand, hstack⟩ :=
    hcalls
  obtain ⟨hchain, -, -⟩ := chain_of_enter henter
  have hresolved : doc.Leads name resolved := by
    rcases h with hleads | ⟨hmem, hnew⟩
    · exact (hleads.chain hchain).2
    · -- a name that is new on the stack is one the chain has passed
      rw [hstack, List.mem_append] at hmem
      exact hchain.leads (hmem.resolve_left hnew)
  exact (hresolved.child (Schema.property_mem_children hreached.mem)).demand hdemand

/-- Every name on the stack of a call leads to its schema. -/
def Led (doc : Document) (call : Call) : Prop := ∀ name ∈ call.stack, doc.Leads name call.schema

theorem Led.calls {call inner : Call} (h : doc.Led call) (hcalls : doc.Calls call inner) :
    doc.Led inner := by
  intro name hmem
  apply Leads.calls hcalls
  by_cases hold : name ∈ call.stack
  · exact Or.inl (h name hold)
  · exact Or.inr ⟨hmem, hold⟩

theorem Led.reflTransGen {call inner : Call} (h : doc.Led call)
    (hreach : ReflTransGen doc.Calls call inner) : doc.Led inner := by
  induction hreach with
  | refl => exact h
  | tail _ hcalls ih => exact ih.calls hcalls

theorem Leads.reflTransGen {call inner : Call} {name : String} (h : doc.Leads name call.schema)
    (hreach : ReflTransGen doc.Calls call inner) : doc.Leads name inner.schema := by
  induction hreach with
  | refl => exact h
  | tail _ hcalls ih => exact Leads.calls hcalls (Or.inl ih)

/-! ## Errors of single schemas -/

/-- Following references finds no component under expansion: it does not look at the stack. -/
theorem resolveChain_ne_recursive {schema : Schema} {name : String} :
    doc.resolveChain schema ≠ .error (.recursive name) := by
  intro h
  cases resolveChain_eq_error_iff.mp h

/-- What a property calls for is an error only if the property does not resolve, or a child of
what it resolves to does not. -/
theorem demand_eq_error {property : Schema} {error : SchemaError}
    (h : doc.demand property = .error error) :
    doc.resolve property = .error error ∨
      ∃ resolved child, doc.resolve property = .ok resolved ∧ child ∈ resolved.children ∧
        doc.resolve child = .error error := by
  rcases demand_eq_error_iff.mp h with hresolve | ⟨resolved, hresolve, hdemand⟩
  · exact Or.inl hresolve
  · obtain ⟨child, hitems | hadditional, hchild⟩ := demandOf_eq_error hdemand
    · exact Or.inr ⟨resolved, child, hresolve, Schema.items_mem_children hitems, hchild⟩
    · exact Or.inr ⟨resolved, child, hresolve, Schema.additional_mem_children hadditional, hchild⟩

/-! ## Circles -/

/-- A call that finds a component under expansion raises the error that says so at its
schema, and a call whose names lead to its schema does so only on a circle. -/
theorem Led.circle {call : Call} {name : String} (h : doc.Led call)
    (hraises : doc.Raises call (.recursive name)) : TransGen doc.Refers name name := by
  rcases hraises with henter | ⟨resolved, names, entry, -, -, hdemand⟩
  · rcases enter_eq_error_iff.mp henter with hchain | ⟨resolved, names, found, hchain, hfind, heq⟩
    · exact absurd hchain resolveChain_ne_recursive
    · cases heq
      -- the name is on the stack, so it leads to the schema, and the schema's chain passes it
      have hpassed : name ∈ names := List.mem_of_find?_eq_some hfind
      have hactive : name ∈ call.stack := by simpa using List.find?_some hfind
      exact ((h name hactive).chain (resolveChain_eq_ok_iff.mp hchain).1).1 name hpassed
  · -- a demand only looks at what references resolve to
    rcases demand_eq_error hdemand with hresolve | ⟨_, _, _, _, hresolve⟩ <;>
      exact absurd (resolve_eq_error_iff.mp hresolve) resolveChain_ne_recursive

/-- A list circle closes a circle of references: the array that it goes by way of is a
component. -/
theorem ListCircle.circle {call : Call} (h : doc.ListCircle call) :
    ∃ name, TransGen doc.Refers name name := by
  obtain ⟨first, last, entry, array, -, hround, hentry, href, hresolve, -, hitems, -⟩ := h
  obtain ⟨passed, hchain, hend⟩ := exists_chain_of_resolve hresolve
  have hpassed : passed ≠ [] := by
    rintro rfl
    rw [hchain.eq_of_nil] at hend
    rw [hend] at href
    cases href
  obtain ⟨name, hmem, hcomp⟩ := hchain.last_component hpassed
  refine ⟨name, ?_⟩
  -- the array leads to its items, along the calls to the property, and so to itself
  have hfirst : doc.Leads name first.schema :=
    (leads_component hcomp).child (Schema.items_mem_children hitems)
  have hlast := hfirst.reflTransGen hround
  obtain ⟨resolved, names, target, repeated, depth, henter, hreached, -, -⟩ := hentry
  have hresolved := (hlast.chain (chain_of_enter henter).1).2
  exact ((hresolved.child (Schema.property_mem_children hreached.mem)).chain hchain).1 name hmem

/-! ## Documents whose references are in order -/

/-- The references of a document and of a body lead somewhere: each names a component, no
chain of them has more than 32 hops, and no component refers to itself, not even by way of
others. -/
structure WellReferenced (doc : Document) (body : Schema) : Prop where
  defined : ∀ schema ∈ doc.parts body, ∀ path, schema.reference = some path →
    ∃ name component, path = referencePrefix ++ name ∧ doc.component? name = some component
  short : ∀ schema ∈ doc.parts body, ∀ names last,
    doc.Chain schema names last → names.length ≤ 32
  acyclic : ∀ name, ¬ TransGen doc.Refers name name

theorem WellReferenced.resolves {body schema : Schema} (h : doc.WellReferenced body)
    (hmem : schema ∈ doc.parts body) : ∃ resolved, doc.resolve schema = .ok resolved := by
  have hdefined : ∀ names last path, doc.Chain schema names last → last.reference = some path →
      ∃ name component, path = referencePrefix ++ name ∧ doc.component? name = some component :=
    fun names last path hchain => h.defined last (hchain.last_mem_parts hmem) path
  obtain ⟨resolved, names, hfollow⟩ := exists_follow_eq_ok (h.short schema hmem) hdefined
  exact ⟨resolved, resolve_eq_ok_iff.mpr ⟨names, hfollow⟩⟩

theorem WellReferenced.resolve_ne_error {body schema : Schema} {error : SchemaError}
    (h : doc.WellReferenced body) (hmem : schema ∈ doc.parts body) :
    doc.resolve schema ≠ .error error := by
  obtain ⟨resolved, hresolved⟩ := h.resolves hmem
  rw [hresolved]
  exact fun heq => by cases heq

/-- In such a document no call raises an error but that of a component under expansion. -/
theorem WellReferenced.recursive_of_raises {body : Schema} {call : Call} {error : SchemaError}
    (h : doc.WellReferenced body) (hmem : call.schema ∈ doc.parts body)
    (hraises : doc.Raises call error) : ∃ name, error = .recursive name := by
  rcases hraises with henter | ⟨resolved, names, entry, henter, hentry, hdemand⟩
  · rcases enter_eq_error_iff.mp henter with hchain | ⟨_, _, found, -, -, rfl⟩
    · exact absurd (resolve_eq_error_iff.mpr hchain) (h.resolve_ne_error hmem)
    · exact ⟨found, rfl⟩
  · obtain ⟨hchain, -, -⟩ := chain_of_enter henter
    have hproperty : entry.2 ∈ doc.parts body :=
      mem_parts_of_mem_children (hchain.last_mem_parts hmem) (Schema.property_mem_children hentry)
    rcases demand_eq_error hdemand with hresolve | ⟨target, child, htarget, hchild, hresolve⟩
    · exact absurd hresolve (h.resolve_ne_error hproperty)
    · have hinner := mem_parts_of_resolve hproperty htarget
      exact absurd hresolve (h.resolve_ne_error (mem_parts_of_mem_children hinner hchild))

/-! ## The main statement -/

/-- **Recursion is reported exactly where there is one.** A body whose references are in order
has attributes, however its components are shared; and a component that is reported as
recursive, in whatever document, refers to itself. -/
theorem flattenBody_no_false_alarms (doc : Document) (body : Schema) :
    (doc.WellReferenced body → ∃ fields, doc.flattenBody body = some (.ok fields)) ∧
      ∀ name, doc.flattenBody body = some (.error (.recursive name)) →
        TransGen doc.Refers name name := by
  have hcircle : ∀ name, doc.flattenBody body = some (.error (.recursive name)) →
      TransGen doc.Refers name name := by
    intro name h
    rcases flattenBody_error_cause h with hbody | ⟨target, call, -, hreach, hraises⟩
    · exact absurd (resolve_eq_error_iff.mp hbody) resolveChain_ne_recursive
    · -- nothing is on the stack to begin with
      have hstart : doc.Led ⟨[], target⟩ := fun name hmem => by cases hmem
      exact (hstart.reflTransGen hreach).circle hraises
  refine ⟨fun hwell => ?_, hcircle⟩
  -- no outcome would be a list circle, and any error one of recursion; both close a circle
  cases hresult : doc.flattenBody body with
  | none =>
    obtain ⟨target, -, hendless⟩ := flattenBody_eq_none_iff.mp hresult
    obtain ⟨name, hname⟩ := (endless_iff_listCircle.mp hendless).circle
    exact absurd hname (hwell.acyclic name)
  | some result =>
    cases result with
    | ok fields => exact ⟨fields, rfl⟩
    | error error =>
      rcases flattenBody_error_cause hresult with hbody | ⟨target, call, htarget, hreach, hraises⟩
      · exact absurd hbody (hwell.resolve_ne_error (self_mem_parts body))
      · have hmem := mem_parts_of_reflTransGen (bodyTarget_mem_parts htarget) hreach
        obtain ⟨name, rfl⟩ := hwell.recursive_of_raises hmem hraises
        exact absurd (hcircle name hresult) (hwell.acyclic name)

/-! ## A component that siblings share -/

/-- A reference to the component of owners. -/
def ownerReference : Schema where
  reference := some (referencePrefix ++ "Owner")

/-- An owner has a name. -/
def ownerSchema : Schema where
  type := some (.single "object")
  properties := [("name", { type := some (.single "string") })]

/-- A body with two owners. -/
def ownersBody : Schema where
  properties := [("primary", ownerReference), ("backup", ownerReference)]

/-- A document whose only component refers to no other. -/
def ownerDocument : Document where
  openapi := "3.0.0"
  info := { title := "t", version := "1" }
  components := some { schemas := [("Owner", ownerSchema)] }

theorem ownerDocument_component_eq_some {name : String} {component : Schema}
    (h : ownerDocument.component? name = some component) : component = ownerSchema := by
  have hmem := mem_schemas_of_component? h
  rw [show ownerDocument.schemas = [("Owner", ownerSchema)] from rfl, List.mem_singleton,
    Prod.mk.injEq] at hmem
  exact hmem.2

theorem ownerDocument_wellReferenced : ownerDocument.WellReferenced ownersBody := by
  have hend : ownerSchema.reference = none := rfl
  have hparts : ownerDocument.parts ownersBody = [ownerSchema, { type := some (.single "string") },
      ownersBody, ownerReference, ownerReference] := rfl
  refine ⟨?_, ?_, ?_⟩
  · intro schema hmem path href
    have howner : path = referencePrefix ++ "Owner" := by
      rw [hparts] at hmem
      simp only [List.mem_cons, List.not_mem_nil, or_false] at hmem
      rcases hmem with rfl | rfl | rfl | rfl | rfl <;> cases href <;> rfl
    exact ⟨"Owner", ownerSchema, howner, rfl⟩
  · intro schema hmem names last hchain
    cases hchain with
    | stop => exact Nat.zero_le _
    | hop href hcomp hrest =>
      obtain rfl := ownerDocument_component_eq_some hcomp
      rw [(hrest.of_reference_none hend).1, List.length_singleton]
      omega
  · intro name hcircle
    -- the component mentions nothing
    obtain ⟨other, ⟨component, hcomp, part, hpart, href⟩, -⟩ := TransGen.head'_iff.mp hcircle
    obtain rfl := ownerDocument_component_eq_some hcomp
    have hparts : ownerSchema.parts = [ownerSchema, { type := some (.single "string") }] := rfl
    rw [hparts] at hpart
    simp only [List.mem_cons, List.not_mem_nil, or_false] at hpart
    rcases hpart with rfl | rfl <;> cases href

/-- Two owners are no recursion, and a node with a node is one. -/
theorem ownerDocument_no_false_alarms :
    ownerDocument.WellReferenced ownersBody ∧
      (∃ fields, ownerDocument.flattenBody ownersBody = some (.ok fields)) ∧
      nodeDocument.flattenBody nodeReference = some (.error (.recursive "Node")) ∧
      TransGen nodeDocument.Refers "Node" "Node" :=
  ⟨ownerDocument_wellReferenced,
    (flattenBody_no_false_alarms ownerDocument ownersBody).1 ownerDocument_wellReferenced,
    rfl, (flattenBody_no_false_alarms nodeDocument nodeReference).2 "Node" rfl⟩

end Document

end ProviderGen
