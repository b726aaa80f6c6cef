/-
Which resources a document has, and what they are made of.

The resources come about in steps: every collection is drafted, the names are checked,
every draft is given its item path, and the result is sorted. Each step is described by
what it comes to when it succeeds. A draft is settled by its path and the operations on
it; checking passes drafts with distinct names only; attaching an item path changes
neither name, path, nor the payloads to create and to read; and sorting changes the order
alone. So nothing is lost on the way and nothing is added, and since the names are
distinct, the order by name is strict.
-/
import ProviderGen.Proofs.ByteOrder
import ProviderGen.Proofs.Results
import ProviderGen.Proofs.Termination
import ProviderGen.Resource.Discovery
import Mathlib.Data.List.Nodup

set_option autoImplicit false

namespace ProviderGen

open ProviderGen.Text

/-! ## Bodies -/

/-- The schema of the JSON body that an operation is sent, if the path has the operation. -/
def sentSchema (op : Option Operation) : Option Schema :=
  op.bind fun op => op.requestBody.bind fun body => jsonSchema body.content

/-- The first result is that of the first member, if the member is there and has one. -/
theorem findSome?_filterMap_cons {α β : Type} (f : α → Option β) (o : Option α)
    (rest : List (Option α)) :
    ((o :: rest).filterMap id).findSome? f = (o.bind f).or ((rest.filterMap id).findSome? f) := by
  rcases o with _ | a
  · rfl
  · rw [List.filterMap_cons]
    dsimp only [id]
    rw [List.findSome?_cons, Option.bind_some]
    rcases f a with _ | b <;> rfl

/-- The schema of a request is that of the first among POST, PUT and PATCH that has one. -/
theorem PathItem.requestSchema_eq (item : PathItem) :
    item.requestSchema
      = (sentSchema item.post).or ((sentSchema item.put).or (sentSchema item.patch)) := by
  unfold PathItem.requestSchema PathItem.mutatingOperations sentSchema
  rw [findSome?_filterMap_cons, findSome?_filterMap_cons, findSome?_filterMap_cons,
    List.filterMap_nil, List.findSome?_nil, Option.or_none]

namespace Document

variable {doc : Document}

/-- A payload is what a schema that may be missing flattens to: it is missing exactly if the
schema is. -/
def Flattens (doc : Document) (schema : Option Schema) (payload : Option (List Field)) : Prop :=
  schema.map doc.flattenBody = payload.map fun fields => some (.ok fields)

theorem shape_eq_ok_iff {schema : Option Schema} {payload : Option (List Field)} :
    doc.shape schema = .ok payload ↔ doc.Flattens schema payload := by
  unfold shape Flattens
  cases schema with
  | none => cases payload <;> simp
  | some schema =>
    dsimp only
    rw [Option.map_some]
    generalize doc.flattenBody schema = outcome
    rcases outcome with _ | error | fields <;> rcases payload with _ | payload <;> simp

/-! ## The steps -/

/-- A draft has the name and path of its collection and the payloads of its operations. -/
theorem draft_eq_ok_iff {path : String} {item : PathItem} {resource : Resource} :
    doc.draft path item = .ok resource ↔
      ∃ create read, doc.Flattens item.requestSchema create ∧
        doc.Flattens item.responseSchema read ∧
        resource = { name := Naming.resourceName path, collectionPath := path, create, read } := by
  unfold draft
  simp only [bind_eq_ok_iff, pure_eq_ok_iff, shape_eq_ok_iff]
  constructor
  · rintro ⟨create, hcreate, read, hread, rfl⟩
    exact ⟨create, read, hcreate, hread, rfl⟩
  · rintro ⟨create, read, hcreate, hread, rfl⟩
    exact ⟨create, hcreate, read, hread, rfl⟩

/-- A resource stands for a collection: it has its path and name, and the payloads of the
operations on it. -/
structure StandsFor (doc : Document) (entry : String × PathItem) (resource : Resource) : Prop where
  path : resource.collectionPath = entry.1
  name : resource.name = Naming.resourceName entry.1
  create : doc.Flattens entry.2.requestSchema resource.create
  read : doc.Flattens entry.2.responseSchema resource.read

/-- A draft stands for its collection. -/
theorem standsFor_of_draft {entry : String × PathItem} {draft : Resource}
    (h : doc.draft entry.1 entry.2 = .ok draft) : doc.StandsFor entry draft := by
  obtain ⟨create, read, hcreate, hread, rfl⟩ := draft_eq_ok_iff.mp h
  exact ⟨rfl, rfl, hcreate, hread⟩

/-- An item path adds to a resource and leaves what it has. -/
theorem attach_eq_ok {resource attached : Resource} (h : doc.attach resource = .ok attached) :
    attached.name = resource.name ∧ attached.collectionPath = resource.collectionPath ∧
      attached.create = resource.create ∧ attached.read = resource.read := by
  unfold attach at h
  rcases hitem : doc.itemOf resource.collectionPath with _ | ⟨path, item⟩
  · rw [hitem] at h
    cases h
    exact ⟨rfl, rfl, rfl, rfl⟩
  · rw [hitem] at h
    obtain ⟨update, -, hattached⟩ := bind_eq_ok_iff.mp h
    rw [pure_eq_ok_iff.mp hattached]
    exact ⟨rfl, rfl, rfl, rfl⟩

theorem StandsFor.attach {entry : String × PathItem} {draft resource : Resource}
    (h : doc.StandsFor entry draft) (hattach : doc.attach draft = .ok resource) :
    doc.StandsFor entry resource := by
  obtain ⟨hname, hpath, hcreate, hread⟩ := attach_eq_ok hattach
  refine ⟨hpath.trans h.path, hname.trans h.name, ?_, ?_⟩
  · rw [hcreate]
    exact h.create
  · rw [hread]
    exact h.read

/-- The check passes exactly if no name stands twice, neither among the resources to come nor
among them and the ones before. -/
theorem checkNames_eq_ok_iff {seen resources : List Resource} :
    checkNames seen resources = .ok () ↔
      (resources.map Resource.name).Nodup ∧
        ∀ earlier ∈ seen, ∀ resource ∈ resources, earlier.name ≠ resource.name := by
  induction resources generalizing seen with
  | nil => simp [checkNames]
  | cons resource rest ih =>
    unfold checkNames
    rw [List.map_cons, List.nodup_cons]
    rcases hfind : seen.find? fun earlier => earlier.name == resource.name with _ | earlier
    · -- a name that is new is one of those before from here on
      have hnew : ∀ earlier ∈ seen, earlier.name ≠ resource.name := by
        simpa using List.find?_eq_none.mp hfind
      rw [hfind]
      dsimp only
      rw [ih]
      constructor
      · rintro ⟨hnodup, hseen⟩
        refine ⟨⟨?_, hnodup⟩, ?_⟩
        · intro hmem
          obtain ⟨other, hother, hname⟩ := List.mem_map.mp hmem
          exact hseen resource (by simp) other hother hname.symm
        · intro earlier hearlier other hother
          rcases List.mem_cons.mp hother with rfl | hrest
          · exact hnew earlier hearlier
          · exact hseen earlier (List.mem_append_left _ hearlier) other hrest
      · rintro ⟨⟨hfresh, hnodup⟩, hseen⟩
        refine ⟨hnodup, ?_⟩
        intro earlier hearlier other hother
        rcases List.mem_append.mp hearlier with hold | hsame
        · exact hseen earlier hold other (List.mem_cons_of_mem _ hother)
        · rw [List.mem_singleton.mp hsame]
          intro hname
          exact hfresh (List.mem_map.mpr ⟨other, hother, hname.symm⟩)
    · have hname : earlier.name = resource.name := by simpa using List.find?_some hfind
      rw [hfind]
      constructor
      · intro h
        cases h
      · rintro ⟨-, hseen⟩
        exact absurd hname (hseen earlier (List.mem_of_find?_eq_some hfind) resource (by simp))

/-- The resources come about by drafting, checking, attaching and sorting. -/
theorem resources_eq_ok_iff {resources : List Resource} :
    doc.resources = .ok resources ↔
      ∃ drafts attached,
        List.Forall₂ (fun entry draft => doc.draft entry.1 entry.2 = .ok draft)
          doc.collections drafts ∧
        checkNames [] drafts = .ok () ∧
        List.Forall₂ (fun draft resource => doc.attach draft = .ok resource) drafts attached ∧
        resources = attached.mergeSort fun a b => decide (a.name ≤ b.name) := by
  unfold Document.resources
  simp only [bind_eq_ok_iff, pure_eq_ok_iff, mapM_eq_ok_iff]
  constructor
  · rintro ⟨drafts, hdrafts, ⟨⟩, hcheck, attached, hattached, hsorted⟩
    exact ⟨drafts, attached, hdrafts, hcheck, hattached, hsorted⟩
  · rintro ⟨drafts, attached, hdrafts, hcheck, hattached, hsorted⟩
    exact ⟨drafts, hdrafts, (), hcheck, attached, hattached, hsorted⟩

/-- Before they are sorted, the resources stand for the collections one by one, and their names
are distinct. -/
theorem exists_standsFor_of_resources {resources : List Resource}
    (h : doc.resources = .ok resources) :
    ∃ attached, List.Forall₂ doc.StandsFor doc.collections attached ∧
      (attached.map Resource.name).Nodup ∧
      resources = attached.mergeSort fun a b => decide (a.name ≤ b.name) := by
  obtain ⟨drafts, attached, hdrafts, hcheck, hattached, hsorted⟩ := resources_eq_ok_iff.mp h
  refine ⟨attached, ?_, ?_, hsorted⟩
  · exact forall₂_comp hdrafts hattached fun entry draft resource hdraft hattach =>
      (standsFor_of_draft hdraft).attach hattach
  · -- the names were checked before the item paths were attached
    have hsame : drafts.map Resource.name = attached.map Resource.name :=
      map_eq_map_of_forall₂ hattached fun draft resource hattach => (attach_eq_ok hattach).1.symm
    rw [← hsame]
    exact (checkNames_eq_ok_iff.mp hcheck).1

/-- Resources with distinct names that are sorted by name are sorted strictly. -/
theorem pairwise_mergeSort_name {resources : List Resource}
    (h : (resources.map Resource.name).Nodup) :
    (resources.mergeSort fun a b => decide (a.name ≤ b.name)).Pairwise
      fun a b => a.name < b.name := by
  have hsorted : (resources.mergeSort fun a b => decide (a.name ≤ b.name)).Pairwise
      fun a b => decide (a.name ≤ b.name) = true := by
    apply List.pairwise_mergeSort
    · intro a b c hab hbc
      rw [decide_eq_true_eq] at hab hbc ⊢
      exact String.le_trans hab hbc
    · intro a b
      rw [Bool.or_eq_true, decide_eq_true_eq, decide_eq_true_eq]
      exact String.le_total a.name b.name
  have hperm := List.mergeSort_perm resources fun a b => decide (a.name ≤ b.name)
  have hdistinct := List.pairwise_map.mp ((hperm.map Resource.name).nodup_iff.mpr h)
  -- sorted and distinct is strictly sorted
  refine hsorted.imp₂ (fun a b hle hne => ?_) hdistinct
  rw [decide_eq_true_eq] at hle
  by_contra hlt
  exact hne (String.le_antisymm hle (String.not_lt.mp hlt))

/-- The collections are the paths without a placeholder that are not for debugging and have
a name to give. -/
theorem mem_collections_iff {entry : String × PathItem} :
    entry ∈ doc.collections ↔
      entry ∈ doc.paths ∧ entry.2.isDebug = false ∧ '\x7b' ∉ entry.1.toList ∧
        Naming.resourceName entry.1 ≠ "" := by
  unfold collections isItemPath
  simp [List.mem_filter, and_assoc]

/-! ## The main statement -/

/-- **Discovery loses and invents nothing.** The resources of a document stand for its
collections, each for one; they are sorted by the bytes of their names, and no name stands
twice; and the payloads of a resource are those of the operations on its collection. -/
theorem resources_exact {resources : List Resource} (h : doc.resources = .ok resources) :
    (∀ path, path ∈ resources.map Resource.collectionPath ↔
        ∃ item, (path, item) ∈ doc.paths ∧ item.isDebug = false ∧ '\x7b' ∉ path.toList ∧
          Naming.resourceName path ≠ "") ∧
      (resources.map Resource.collectionPath).Nodup ∧
      (resources.Pairwise fun a b => utf8Bytes a.name < utf8Bytes b.name) ∧
      ∀ resource ∈ resources, ∃ item, (resource.collectionPath, item) ∈ doc.paths ∧
        item.isDebug = false ∧
        resource.name = Naming.resourceName resource.collectionPath ∧
        doc.Flattens
          ((sentSchema item.post).or ((sentSchema item.put).or (sentSchema item.patch)))
          resource.create ∧
        doc.Flattens
          (item.get.bind fun op => (op.responses.lookup "200").bind fun response =>
            jsonSchema response.content)
          resource.read := by
  obtain ⟨attached, hstands, hnames, rfl⟩ := exists_standsFor_of_resources h
  have hperm := List.mergeSort_perm attached fun a b => decide (a.name ≤ b.name)
  have hpaths : attached.map Resource.collectionPath = doc.collections.map Prod.fst :=
    (map_eq_map_of_forall₂ hstands fun entry resource hstand => hstand.path.symm).symm
  -- sorting has changed the order alone
  refine ⟨?_, ?_, ?_, ?_⟩
  · intro path
    rw [(hperm.map Resource.collectionPath).mem_iff, hpaths, List.mem_map]
    constructor
    · rintro ⟨entry, hentry, rfl⟩
      exact ⟨entry.2, mem_collections_iff.mp hentry⟩
    · rintro ⟨item, hitem⟩
      exact ⟨(path, item), mem_collections_iff.mpr hitem, rfl⟩
  · rw [(hperm.map Resource.collectionPath).nodup_iff]
    -- two resources of one path would have one name
    have hofPath : (attached.map Resource.collectionPath).map Naming.resourceName
        = attached.map Resource.name := by
      rw [hpaths, List.map_map]
      exact map_eq_map_of_forall₂ hstands fun entry resource hstand => hstand.name.symm
    rw [← hofPath] at hnames
    exact hnames.of_map _
  · exact (pairwise_mergeSort_name hnames).imp fun hlt => utf8Bytes_lt_iff.mpr hlt
  · intro resource hmem
    obtain ⟨entry, hentry, hstand⟩ := exists_of_forall₂ hstands (hperm.mem_iff.mp hmem)
    obtain ⟨hin, hdebug, -, -⟩ := mem_collections_iff.mp hentry
    have hcreate := hstand.create
    rw [PathItem.requestSchema_eq] at hcreate
    rw [hstand.path]
    exact ⟨entry.2, hin, hdebug, hstand.name, hcreate, hstand.read⟩

/-! ## A catalog -/

/-- The content of a body in JSON. -/
def jsonContent (schema : Schema) : Table MediaType := [(jsonMediaType, { schema := some schema })]

/-- A thing with a name. -/
def namedSchema : Schema where
  properties := [("name", { type := some (.single "string") })]

/-- The attribute that stands for the name. -/
def nameField : Field where
  name := "name"
  source := "name"
  kind := .primitive .string

/-- A document with two collections, an item path and a path for debugging. -/
def catalogDocument : Document where
  openapi := "3.0.0"
  info := { title := "t", version := "1" }
  paths := [
    ("/widgets", { post := some { requestBody := some { content := jsonContent namedSchema } } }),
    ("/widgets/\x7bid\x7d", { delete := some {} }),
    ("/debug", { get := some { tags := ["debug"] } }),
    ("/gadgets", { get := some {
      responses := [("200", { content := jsonContent namedSchema })] } })]

/-- The resource of gadgets, which are read. -/
def gadgetResource : Resource where
  name := "gadget"
  collectionPath := "/gadgets"
  read := some [nameField]

/-- The resource of widgets, before it is given its item path. -/
def widgetDraft : Resource where
  name := "widget"
  collectionPath := "/widgets"
  create := some [nameField]

/-- The resource of widgets, which are created and deleted. -/
def widgetResource : Resource :=
  { widgetDraft with itemPath := "/widgets/\x7bid\x7d", hasDelete := true }

theorem catalogDocument_resources :
    catalogDocument.resources = .ok [gadgetResource, widgetResource] := by
  refine resources_eq_ok_iff.mpr ⟨[widgetDraft, gadgetResource], [widgetResource, gadgetResource],
    mapM_eq_ok_iff.mp rfl, rfl, mapM_eq_ok_iff.mp rfl, ?_⟩
  simp [List.mergeSort, widgetResource, widgetDraft, gadgetResource]

/-- The catalog has the collections that its resources stand for, gadgets before widgets, and
the payload to create a widget is that of its collection. -/
theorem catalogDocument_resources_exact :
    catalogDocument.resources = .ok [gadgetResource, widgetResource] ∧
      ("/widgets" ∈ [gadgetResource, widgetResource].map Resource.collectionPath ↔
        ∃ item, ("/widgets", item) ∈ catalogDocument.paths ∧ item.isDebug = false ∧
          '\x7b' ∉ "/widgets".toList ∧ Naming.resourceName "/widgets" ≠ "") ∧
      utf8Bytes gadgetResource.name < utf8Bytes widgetResource.name ∧
      ∃ item, ("/widgets", item) ∈ catalogDocument.paths ∧
        catalogDocument.Flattens
          ((sentSchema item.post).or ((sentSchema item.put).or (sentSchema item.patch)))
          (some [nameField]) := by
  obtain ⟨hpaths, -, hsorted, hpayloads⟩ := resources_exact catalogDocument_resources
  obtain ⟨item, hitem, -, -, hcreate, -⟩ := hpayloads widgetResource (by simp)
  exact ⟨catalogDocument_resources, hpaths "/widgets", List.rel_of_pairwise_cons hsorted (by simp),
    item, hitem, hcreate⟩

end Document

end ProviderGen
