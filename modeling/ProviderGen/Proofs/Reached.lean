/-
What the resources of a document depend on.

A document is asked for its components one name at a time, and only for names that a
reference in its way mentions. The schemas in its way are those that a body reaches: the
body, what such a schema holds, and the component that such a reference names. Every step
of an expansion stays among them, so a document that has the same answer to every name
that is asked for goes through the same steps, whether they end in attributes, in an error
or not at all. Which names are asked for is settled by the one document alone: the other
one is led along the same way and comes to no other name.

Only the bodies of paths that are not for debugging are expanded. Components that none of
them reaches can be added, changed and taken away, and the resources stay as they are.
-/
import ProviderGen.Proofs.Pairing
import ProviderGen.Proofs.ReferenceGraph

set_option autoImplicit false

namespace ProviderGen

/-- Lists are collected alike by families that agree on their members. -/
theorem Outcome.collect_congr {α β : Type} {f g : α → Outcome β} {items : List α}
    (h : ∀ item ∈ items, f item = g item) : Outcome.collect f items = Outcome.collect g items := by
  induction items with
  | nil => rfl
  | cons item rest ih =>
    obtain ⟨hitem, hrest⟩ := List.forall_mem_cons.mp h
    rw [Outcome.collect, Outcome.collect, hitem, ih hrest]

namespace Document

variable {doc doc' : Document} {body : Schema}

/-! ## What a body reaches -/

/-- The schemas that a body reaches: itself, what a schema that is reached holds, and the
component that it names if it is a reference. What is written beside a reference is not reached,
because a reference is followed. -/
inductive Reached (doc : Document) (body : Schema) : Schema → Prop
  | self : Reached doc body body
  | child {schema child : Schema} :
      Reached doc body schema → schema.reference = none → child ∈ schema.children →
      Reached doc body child
  | component {schema component : Schema} {name : String} :
      Reached doc body schema → schema.reference = some (referencePrefix ++ name) →
      doc.component? name = some component → Reached doc body component

/-- A body asks for a component if it reaches a reference to it. The document need not have the
component. -/
def AsksFor (doc : Document) (body : Schema) (name : String) : Prop :=
  ∃ schema, doc.Reached body schema ∧ schema.reference = some (referencePrefix ++ name)

theorem Reached.chain {schema last : Schema} {names : List String}
    (h : doc.Reached body schema) (hchain : doc.Chain schema names last) :
    doc.Reached body last := by
  induction hchain with
  | stop => exact h
  | hop href hcomp _ ih => exact ih (h.component href hcomp)

/-- What a reached schema resolves to is reached, and so is what that holds. -/
theorem Reached.resolve {schema resolved : Schema} (h : doc.Reached body schema)
    (hresolve : doc.resolve schema = .ok resolved) :
    doc.Reached body resolved ∧ ∀ child ∈ resolved.children, doc.Reached body child := by
  obtain ⟨names, hchain, hend⟩ := exists_chain_of_resolve hresolve
  exact ⟨h.chain hchain, fun child hchild => (h.chain hchain).child hend hchild⟩

/-- The schema that a reached property calls for is reached. -/
theorem Reached.demand {property target schema : Schema} {repeated : Bool}
    (h : doc.Reached body property)
    (hdemand : doc.demand property = .ok (target, .nested schema repeated)) :
    doc.Reached body schema := by
  obtain ⟨hresolve, rfl | ⟨-, hitems⟩⟩ := demand_eq_nested hdemand
  · exact h
  · exact (h.resolve hresolve).2 schema (Schema.items_mem_children hitems)

/-- The schema whose attributes are those of a body is reached. -/
theorem reached_bodyTarget {target : Schema} (h : doc.bodyTarget body = .ok target) :
    doc.Reached body target := by
  obtain ⟨resolved, hresolve, ⟨-, hitems⟩ | ⟨-, rfl⟩⟩ := bodyTarget_eq_ok_iff.mp h
  · exact (Reached.self.resolve hresolve).2 target (Schema.items_mem_children hitems)
  · exact .self

/-! ## The same answers -/

section Agreement

variable (hagree : ∀ name, doc.AsksFor body name → doc'.component? name = doc.component? name)
include hagree

theorem follow_eq_of_reached (hops : Nat) {schema : Schema} (h : doc.Reached body schema) :
    doc'.follow hops schema = doc.follow hops schema := by
  induction hops generalizing schema with
  | zero =>
    unfold follow
    rfl
  | succ hops ih =>
    cases href : schema.reference with
    | none => rw [follow_of_reference_none href, follow_of_reference_none href]
    | some path =>
      cases hname : referenceName? path with
      | none => simp only [follow, href, hname]
      | some name =>
        obtain rfl := referenceName?_eq_some_iff.mp hname
        have hsame := hagree name ⟨schema, h, href⟩
        cases hcomp : doc.component? name with
        | none => simp only [follow, href, hname, hsame, hcomp]
        | some component =>
          -- both go on from the one component, and that is reached as well
          rw [hcomp] at hsame
          rw [follow_succ hops href hcomp, follow_succ hops href hsame,
            ih (h.component href hcomp)]

theorem resolve_eq_of_reached {schema : Schema} (h : doc.Reached body schema) :
    doc'.resolve schema = doc.resolve schema := by
  unfold resolve resolveChain
  rw [follow_eq_of_reached hagree maxHops h]

theorem demand_eq_of_reached {property : Schema} (h : doc.Reached body property) :
    doc'.demand property = doc.demand property := by
  unfold demand
  rw [resolve_eq_of_reached hagree h]
  cases hresolve : doc.resolve property with
  | error error => rfl
  | ok resolved =>
    -- a further look goes to a child of what the property resolves to
    have hchild : ∀ child ∈ resolved.children, doc'.resolve child = doc.resolve child :=
      fun child hchild => resolve_eq_of_reached hagree ((h.resolve hresolve).2 child hchild)
    have harray : doc'.arrayDemand resolved.items = doc.arrayDemand resolved.items := by
      cases hitems : resolved.items with
      | none => rfl
      | some items =>
        rw [arrayDemand_some, arrayDemand_some, hchild items (Schema.items_mem_children hitems)]
    have hobject : doc'.objectDemand property resolved.additional
        = doc.objectDemand property resolved.additional := by
      rcases hadditional : resolved.additional with _ | allowed | value
      · rfl
      · rfl
      · rw [objectDemand_schema, objectDemand_schema,
          hchild value (Schema.additional_mem_children hadditional)]
    dsimp only
    unfold demandOf
    rw [harray, hobject]

theorem attributeOf_eq_of_reached {nested nested' : Schema → Outcome (List Field)}
    (hnested : ∀ schema, doc.Reached body schema → nested' schema = nested schema)
    (required : List String) {entry : String × Schema} (h : doc.Reached body entry.2) :
    doc'.attributeOf nested' required entry = doc.attributeOf nested required entry := by
  unfold attributeOf
  rw [demand_eq_of_reached hagree h]
  cases hdemand : doc.demand entry.2 with
  | error error => rfl
  | ok result =>
    obtain ⟨target, demand⟩ := result
    cases demand with
    | leaf kind => rfl
    | nested schema repeated => simp only [kindFor, hnested schema (h.demand hdemand)]

theorem expand_eq_of_reached (depth : Nat) (stack : Stack) {schema : Schema}
    (h : doc.Reached body schema) :
    doc'.expand depth stack schema = doc.expand depth stack schema := by
  induction depth generalizing stack schema with
  | zero => rfl
  | succ depth ih =>
    have henter : doc'.enter stack schema = doc.enter stack schema := by
      unfold enter resolveChain
      rw [follow_eq_of_reached hagree maxHops h]
    unfold expand
    rw [henter]
    cases hentered : doc.enter stack schema with
    | error error => rfl
    | ok result =>
      obtain ⟨resolved, names⟩ := result
      obtain ⟨hchain, hend, -⟩ := chain_of_enter hentered
      refine Outcome.collect_congr fun entry hentry => ?_
      have hproperty := (h.chain hchain).child hend (Schema.property_mem_children hentry)
      exact attributeOf_eq_of_reached hagree (fun _ hinner => ih (stack ++ names) hinner)
        resolved.required hproperty

/-- **A body depends on what it asks for.** A document with the same components under the names
that the expansion of a body asks for has the same attributes for it, or the same error. -/
theorem flattenBody_congr : doc'.flattenBody body = doc.flattenBody body := by
  have htarget : doc'.bodyTarget body = doc.bodyTarget body := by
    unfold bodyTarget
    rw [resolve_eq_of_reached hagree .self]
  have hexpand : ∀ depth, doc'.expandBody depth [] body = doc.expandBody depth [] body := by
    intro depth
    unfold expandBody
    rw [htarget]
    cases hbody : doc.bodyTarget body with
    | error error => rfl
    | ok target => exact expand_eq_of_reached hagree depth [] (reached_bodyTarget hbody)
  -- the bounds may differ, since they count all components, but any depth that suffices will do
  refine Option.ext fun result => ?_
  simp only [flattenBody_eq_some_iff, hexpand]

end Agreement

/-! ## The same resources -/

theorem shape_congr {schema : Option Schema}
    (hagree : ∀ body, schema = some body →
      ∀ name, doc.AsksFor body name → doc'.component? name = doc.component? name) :
    doc'.shape schema = doc.shape schema := by
  cases schema with
  | none => rfl
  | some body =>
    unfold shape
    simp only [flattenBody_congr (hagree body rfl)]

/-- The item path of a collection is a path that is not for debugging. -/
theorem mem_paths_of_itemOf {collection : String} {entry : String × PathItem}
    (h : doc.itemOf collection = some entry) : entry ∈ doc.paths ∧ entry.2.isDebug = false := by
  have hmem := shallowest_mem h
  unfold candidates at hmem
  rw [List.mem_filter, Bool.and_eq_true, Bool.and_eq_true, Bool.not_eq_true'] at hmem
  exact ⟨hmem.1, hmem.2.1.1⟩

theorem resources_eq (doc : Document) :
    doc.resources = (doc.collections.mapM fun entry => doc.draft entry.1 entry.2) >>= fun drafts =>
      checkNames [] drafts >>= fun _ => drafts.mapM doc.attach >>= fun attached =>
        .ok (attached.mergeSort fun a b => decide (a.name ≤ b.name)) :=
  rfl

/-- Documents have the same resources, or the same failure, if they have the same collections with
the same item paths, and the same payloads on the paths that are not for debugging. -/
theorem resources_congr (hcollections : doc'.collections = doc.collections)
    (hitem : ∀ entry ∈ doc.collections, doc'.itemOf entry.1 = doc.itemOf entry.1)
    (hshape : ∀ entry ∈ doc.paths, entry.2.isDebug = false →
      doc'.shape entry.2.requestSchema = doc.shape entry.2.requestSchema ∧
        doc'.shape entry.2.responseSchema = doc.shape entry.2.responseSchema) :
    doc'.resources = doc.resources := by
  have hdrafts : (doc.collections.mapM fun entry => doc'.draft entry.1 entry.2)
      = doc.collections.mapM fun entry => doc.draft entry.1 entry.2 := by
    refine mapM_congr fun entry hentry => ?_
    obtain ⟨hin, hdebug, -, -⟩ := mem_collections_iff.mp hentry
    obtain ⟨hrequest, hresponse⟩ := hshape entry hin hdebug
    unfold draft
    rw [hrequest, hresponse]
  rw [resources_eq, resources_eq, hcollections, hdrafts]
  rcases hresult : doc.collections.mapM fun entry => doc.draft entry.1 entry.2 with failure | drafts
  · rw [hresult, error_bind, error_bind]
  · have hattach : drafts.mapM doc'.attach = drafts.mapM doc.attach := by
      refine mapM_congr fun draft hmem => ?_
      obtain ⟨entry, hentry, hdraft⟩ := exists_of_forall₂ (mapM_eq_ok_iff.mp hresult) hmem
      unfold attach
      rw [(standsFor_of_draft hdraft).path, hitem entry hentry]
      rcases hpaired : doc.itemOf entry.1 with _ | ⟨path, item⟩
      · rfl
      · obtain ⟨hin, hdebug⟩ := mem_paths_of_itemOf hpaired
        have hrequest := (hshape (path, item) hin hdebug).1
        dsimp only at hrequest ⊢
        rw [hrequest]
    rw [hresult, ok_bind, ok_bind, hattach]

/-- A component is reachable if the request or the response of a path that is not for debugging
asks for it. -/
def Reachable (doc : Document) (name : String) : Prop :=
  ∃ entry ∈ doc.paths, entry.2.isDebug = false ∧ ∃ body,
    (entry.2.requestSchema = some body ∨ entry.2.responseSchema = some body) ∧
      doc.AsksFor body name

theorem resources_eq_of_reachable (hpaths : doc'.paths = doc.paths)
    (hagree : ∀ name, doc.Reachable name → doc'.component? name = doc.component? name) :
    doc'.resources = doc.resources := by
  refine resources_congr ?_ (fun entry _ => ?_) fun entry hentry hdebug => ⟨?_, ?_⟩
  · unfold collections
    rw [hpaths]
  · unfold itemOf candidates
    rw [hpaths]
  · exact shape_congr fun body hbody name hasks =>
      hagree name ⟨entry, hentry, hdebug, body, Or.inl hbody, hasks⟩
  · exact shape_congr fun body hbody name hasks =>
      hagree name ⟨entry, hentry, hdebug, body, Or.inr hbody, hasks⟩

/-- **Only reachable components matter.** Documents with the same paths that have the same
component, or none, under every reachable name have the same resources, or the same failure. In
particular a component that is not reachable can be added, changed or taken away. -/
theorem resources_reachable (doc : Document) :
    (∀ doc' : Document, doc'.paths = doc.paths →
        (∀ name, doc.Reachable name → doc'.component? name = doc.component? name) →
        doc'.resources = doc.resources) ∧
      ∀ name, ¬ doc.Reachable name → ∀ schemas : Table Schema,
        (∀ other, other ≠ name → schemas.lookup other = doc.component? other) →
        ({ doc with components := some { schemas } } : Document).resources = doc.resources := by
  refine ⟨fun doc' => resources_eq_of_reachable, fun name hname schemas hother => ?_⟩
  refine resources_eq_of_reachable rfl fun other hreachable => hother other ?_
  rintro rfl
  exact hname hreachable

/-! ## A component that is not reachable -/

/-- A document that creates teams, with some components. A path for debugging asks for nodes. -/
def companyWith (schemas : Table Schema) : Document where
  openapi := "3.0.0"
  info := { title := "t", version := "1" }
  paths := [
    ("/teams", { post := some { requestBody := some { content := jsonContent ownersBody } } }),
    ("/dump", { get := some {
      responses := [("200", { content := jsonContent nodeReference })], tags := ["debug"] } })]
  components := some { schemas }

/-- The document with owners, and with nodes that refer to themselves. -/
def companyDocument : Document := companyWith [("Owner", ownerSchema), ("Node", nodeSchema)]

/-- The attribute that stands for an owner. -/
def ownerField (key : String) : Field where
  name := key
  source := key
  kind := .object [nameField] false

/-- The resource of teams, which have two owners. -/
def teamResource : Resource where
  name := "team"
  collectionPath := "/teams"
  create := some [ownerField "primary", ownerField "backup"]

theorem companyDocument_resources : companyDocument.resources = .ok [teamResource] := by
  refine resources_eq_ok_iff.mpr ⟨[teamResource], [teamResource],
    mapM_eq_ok_iff.mp rfl, rfl, mapM_eq_ok_iff.mp rfl, ?_⟩
  rw [List.mergeSort_singleton]

/-- A team reaches its owners and their names. -/
theorem companyDocument_reached {schema : Schema} (h : companyDocument.Reached ownersBody schema) :
    schema ∈ [ownersBody, ownerReference, ownerSchema, { type := some (.single "string") }] := by
  induction h with
  | self => simp
  | @child _ child _ href hchild ih =>
    simp only [List.mem_cons, List.not_mem_nil, or_false] at ih
    rcases ih with rfl | rfl | rfl | rfl
    · have hchildren : ownersBody.children = [ownerReference, ownerReference] := rfl
      rw [hchildren, List.mem_pair, or_self] at hchild
      simp [hchild]
    · cases href
    · have hchildren : ownerSchema.children = [{ type := some (.single "string") }] := rfl
      rw [hchildren, List.mem_singleton] at hchild
      simp [hchild]
    · cases hchild
  | @component _ component name _ href hcomp ih =>
    simp only [List.mem_cons, List.not_mem_nil, or_false] at ih
    rcases ih with rfl | rfl | rfl | rfl
    · cases href
    · obtain rfl : "Owner" = name := by
        rw [show ownerReference.reference = some (referencePrefix ++ "Owner") from rfl,
          Option.some.injEq, String.append_right_inj] at href
        exact href
      cases hcomp
      simp
    · cases href
    · cases href

/-- Nodes are not reachable. -/
theorem companyDocument_not_reachable : ¬ companyDocument.Reachable "Node" := by
  rintro ⟨entry, hentry, hdebug, body, hbody, schema, hreached, href⟩
  rw [show companyDocument.paths = [_, _] from rfl, List.mem_pair] at hentry
  rcases hentry with rfl | rfl
  · obtain rfl : ownersBody = body := by
      rcases hbody with hbody | hbody
      · exact Option.some.inj hbody
      · cases hbody
    have hmem := companyDocument_reached hreached
    simp only [List.mem_cons, List.not_mem_nil, or_false] at hmem
    rcases hmem with rfl | rfl | rfl | rfl
    · cases href
    · exact absurd href (by decide)
    · cases href
    · cases href
  · exact absurd hdebug (by decide)

/-- Nodes can be taken away, or come first and refer to nothing, and the teams stay as they are. -/
theorem companyDocument_reachable :
    companyDocument.resources = .ok [teamResource] ∧ ¬ companyDocument.Reachable "Node" ∧
      (companyWith [("Owner", ownerSchema)]).resources = .ok [teamResource] ∧
      (companyWith [("Node", { reference := some "#/nowhere" }), ("Owner", ownerSchema)]).resources
        = .ok [teamResource] := by
  have hunreachable := companyDocument_not_reachable
  obtain ⟨hagree, hother⟩ := resources_reachable companyDocument
  refine ⟨companyDocument_resources, hunreachable, ?_, ?_⟩
  · rw [hagree (companyWith [("Owner", ownerSchema)]) rfl, companyDocument_resources]
    intro name hreachable
    have hnode : (name == "Node") = false :=
      beq_eq_false_iff_ne.mpr fun h => hunreachable (h ▸ hreachable)
    simp [component?, companyDocument, companyWith, List.lookup_cons, hnode]
  · refine (hother "Node" hunreachable _ fun name hne => ?_).trans companyDocument_resources
    have hnode : (name == "Node") = false := beq_eq_false_iff_ne.mpr hne
    simp [component?, companyDocument, companyWith, List.lookup_cons, hnode]

end Document

end ProviderGen
