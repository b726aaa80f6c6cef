/-
Which documents have no resources, and for which reason.

Three passes can fail, one after the other: the bodies of every collection are flattened,
the names are compared, and the body of every item path that won its pairing is flattened.
Each pass goes through the collections in the order of the document and stops at the first
fault, so each is described by where that fault stands. The passes are statements on drafts
and on what is kept of the document; here they are carried over to the paths of the
document, along the splits of the lists: a list splits where a list that is kept of it or
related to it does.

A path that is not kept and wins no pairing is looked at for its spelling and its tags
alone. The last part says so: the operations on such a path may be anything, the outcome
is the same.
-/
import ProviderGen.Proofs.Ignored

set_option autoImplicit false

namespace ProviderGen

namespace Document

variable {doc : Document}

/-! ## Bodies -/

/-- A body is refused with an error: it is there, and its flattening ends in the error. -/
def Refuses (doc : Document) (body : Option Schema) (error : SchemaError) : Prop :=
  ∃ schema, body = some schema ∧ doc.flattenBody schema = some (.error error)

/-- The flattening of a body ends, if the body is there. -/
def Ends (doc : Document) (body : Option Schema) : Prop :=
  ∀ schema, body = some schema → doc.flattenBody schema ≠ none

/-- The flattenings of the bodies of a document end: those of the paths that are kept and those of
the item paths that are paired with them. -/
structure BodiesEnd (doc : Document) : Prop where
  request : ∀ entry ∈ doc.paths, KeptPath entry → doc.Ends entry.2.requestSchema
  response : ∀ entry ∈ doc.paths, KeptPath entry → doc.Ends entry.2.responseSchema
  item : ∀ entry ∈ doc.paths, KeptPath entry → ∀ item, doc.Paired entry.1 item →
    doc.Ends item.2.requestSchema

/-- A computation fails exactly with the faults of a schema. -/
def FailsWith {β : Type} (result : Except Failure β) (fault : SchemaError → Prop) : Prop :=
  ∀ failure, result = .error failure ↔ ∃ error, fault error ∧ failure = .input (.schema error)

theorem FailsWith.exists_ok_iff {β : Type} {result : Except Failure β}
    {fault : SchemaError → Prop} (h : FailsWith result fault) :
    (∃ value, result = .ok value) ↔ ∀ error, ¬ fault error := by
  rw [ProviderGen.exists_ok_iff]
  constructor
  · intro hok error hfault
    exact hok _ ((h _).mpr ⟨error, hfault, rfl⟩)
  · intro hnone failure hfailure
    obtain ⟨error, hfault, -⟩ := (h failure).mp hfailure
    exact hnone error hfault

/-- A body whose flattening ends has no shape exactly if it is refused. -/
theorem shape_failsWith {body : Option Schema} (hends : doc.Ends body) :
    FailsWith (doc.shape body) (doc.Refuses body) := by
  intro failure
  unfold shape Refuses
  cases body with
  | none => simp
  | some schema =>
    have hsome := hends schema rfl
    simp only [Option.some.injEq, exists_eq_left']
    generalize doc.flattenBody schema = outcome at hsome
    rcases outcome with _ | error | fields
    · exact absurd rfl hsome
    · simp [eq_comm]
    · simp

/-! ## Faults -/

/-- The fault of a collection: the error of its request, or of its response if the request has
none. -/
def BodyFault (doc : Document) (entry : String × PathItem) (error : SchemaError) : Prop :=
  doc.Refuses entry.2.requestSchema error ∨
    (∀ other, ¬ doc.Refuses entry.2.requestSchema other) ∧
      doc.Refuses entry.2.responseSchema error

/-- The fault of the item path of a collection: the error of its request. -/
def ItemFault (doc : Document) (entry : String × PathItem) (error : SchemaError) : Prop :=
  ∃ item, doc.Paired entry.1 item ∧ doc.Refuses item.2.requestSchema error

/-- A failure is the first fault of a kind: that of the earliest path that is kept and has one. -/
def FirstFault (doc : Document) (fault : String × PathItem → SchemaError → Prop)
    (failure : Failure) : Prop :=
  ∃ before entry after error, doc.paths = before ++ entry :: after ∧ KeptPath entry ∧
    fault entry error ∧ (∀ earlier ∈ before, KeptPath earlier → ∀ other, ¬ fault earlier other) ∧
    failure = .input (.schema error)

/-- A failure is the first clash of names: the second path is the earliest that is kept and has
the name of a path before it, and the first is the one before it that has the name. -/
def FirstClash (doc : Document) (failure : Failure) : Prop :=
  ∃ before second after first, doc.paths = before ++ second :: after ∧ KeptPath second ∧
    (before.Pairwise fun a b =>
      KeptPath a → KeptPath b → Naming.resourceName a.1 ≠ Naming.resourceName b.1) ∧
    first ∈ before ∧ KeptPath first ∧ Naming.resourceName first.1 = Naming.resourceName second.1 ∧
    failure = .nameConflict (Naming.resourceName second.1) first.1 second.1

/-- A collection has a fault if one of its bodies is refused. -/
theorem exists_bodyFault_iff {entry : String × PathItem} :
    (∃ error, doc.BodyFault entry error) ↔
      ∃ error, doc.Refuses entry.2.requestSchema error ∨
        doc.Refuses entry.2.responseSchema error := by
  unfold BodyFault
  simp only [exists_or, exists_and_left, ← not_exists]
  tauto

/-- There is a first fault of a kind if there is one at all. -/
theorem exists_firstFault_iff {fault : String × PathItem → SchemaError → Prop} :
    (∃ failure, doc.FirstFault fault failure) ↔
      ∃ entry ∈ doc.paths, KeptPath entry ∧ ∃ error, fault entry error := by
  constructor
  · rintro ⟨-, before, entry, after, error, hpaths, hkept, hfault, -, -⟩
    exact ⟨entry, by rw [hpaths]; simp, hkept, error, hfault⟩
  · intro h
    obtain ⟨before, entry, after, hpaths, ⟨hkept, error, hfault⟩, hbefore⟩ := exists_first h
    exact ⟨_, before, entry, after, error, hpaths, hkept, hfault,
      fun earlier hmem hkeptEarlier other hother =>
        hbefore earlier hmem ⟨hkeptEarlier, other, hother⟩, rfl⟩

/-- There is a first clash if two paths that are kept have one name. -/
theorem exists_firstClash_iff :
    (∃ failure, doc.FirstClash failure) ↔
      ∃ first second, [first, second].Sublist doc.paths ∧ KeptPath first ∧ KeptPath second ∧
        Naming.resourceName first.1 = Naming.resourceName second.1 := by
  constructor
  · rintro ⟨-, before, second, after, first, hpaths, hsecond, -, hmem, hfirst, hname, -⟩
    refine ⟨first, second, ?_, hfirst, hsecond, hname⟩
    rw [hpaths]
    exact (List.singleton_sublist.mpr hmem).append
      (List.singleton_sublist.mpr (List.mem_cons_self ..))
  · rintro ⟨first, second, hsub, hfirst, hsecond, hname⟩
    -- the two are a pair that is not told apart, so there is a first such pair
    have hclash : ¬ doc.paths.Pairwise fun a b =>
        KeptPath a → KeptPath b → Naming.resourceName a.1 ≠ Naming.resourceName b.1 := by
      intro h
      exact List.pairwise_iff_forall_sublist.mp h hsub hfirst hsecond hname
    obtain ⟨before, second, after, first, hpaths, hbefore, hmem, hnot⟩ := not_pairwise_iff.mp hclash
    push Not at hnot
    obtain ⟨hfirst, hsecond, hname⟩ := hnot
    exact ⟨_, before, second, after, first, hpaths, hsecond, hbefore, hmem, hfirst, hname, rfl⟩

/-! ## Passes over the collections -/

theorem kept_iff {entry : String × PathItem} :
    (!entry.2.isDebug && !isItemPath entry.1 && Naming.resourceName entry.1 != "") = true ↔
      KeptPath entry := by
  unfold KeptPath isItemPath
  simp [and_assoc]

/-- The collections split where the document does at a path that is kept. -/
theorem collections_eq_append_cons_iff {before after : Table PathItem}
    {entry : String × PathItem} :
    doc.collections = before ++ entry :: after ↔
      ∃ front back, doc.paths = front ++ entry :: back ∧ KeptPath entry ∧
        front.filter (fun (path, item) =>
          !item.isDebug && !isItemPath path && Naming.resourceName path != "") = before ∧
        back.filter (fun (path, item) =>
          !item.isDebug && !isItemPath path && Naming.resourceName path != "") = after := by
  unfold collections
  rw [filter_eq_append_cons_iff]
  simp only [kept_iff]

/-- A pass over the collections in which each fails with its fault fails with the first fault. -/
theorem mapM_collections_eq_error_iff {β : Type} {f : String × PathItem → Except Failure β}
    {fault : String × PathItem → SchemaError → Prop}
    (hf : ∀ entry ∈ doc.paths, KeptPath entry → FailsWith (f entry) (fault entry))
    {failure : Failure} :
    doc.collections.mapM f = .error failure ↔ doc.FirstFault fault failure := by
  rw [mapM_eq_error_iff]
  unfold FirstFault
  simp only [collections_eq_append_cons_iff]
  constructor
  · rintro ⟨_, entry, _, ⟨before, after, hpaths, hkept, rfl, -⟩, hbefore, herror⟩
    obtain ⟨error, hfault, rfl⟩ := (hf entry (by simp [hpaths]) hkept failure).mp herror
    refine ⟨before, entry, after, error, hpaths, hkept, hfault, ?_, rfl⟩
    intro earlier hmem hkeptEarlier
    refine (hf earlier (by simp [hpaths, hmem]) hkeptEarlier).exists_ok_iff.mp (hbefore earlier ?_)
    exact List.mem_filter.mpr ⟨hmem, kept_iff.mpr hkeptEarlier⟩
  · rintro ⟨before, entry, after, error, hpaths, hkept, hfault, hbefore, rfl⟩
    refine ⟨_, entry, _, ⟨before, after, hpaths, hkept, rfl, rfl⟩, ?_,
      (hf entry (by simp [hpaths]) hkept _).mpr ⟨error, hfault, rfl⟩⟩
    intro earlier hmem
    obtain ⟨hin, hp⟩ := List.mem_filter.mp hmem
    have hkeptEarlier := kept_iff.mp hp
    exact (hf earlier (by simp [hpaths, hin]) hkeptEarlier).exists_ok_iff.mpr
      (hbefore earlier hin hkeptEarlier)

/-! ## The first pass -/

/-- A draft fails with the fault of its collection. -/
theorem draft_failsWith {entry : String × PathItem} (hrequest : doc.Ends entry.2.requestSchema)
    (hresponse : doc.Ends entry.2.responseSchema) :
    FailsWith (doc.draft entry.1 entry.2) (doc.BodyFault entry) := by
  intro failure
  unfold draft BodyFault
  simp only [bind_eq_error_iff, shape_failsWith hrequest failure, shape_failsWith hresponse failure]
  constructor
  · rintro (⟨error, hrefuses, rfl⟩ | ⟨create, hcreate, ⟨error, hrefuses, rfl⟩ | ⟨read, -, hpure⟩⟩)
    · exact ⟨error, Or.inl hrefuses, rfl⟩
    · have hnone := (shape_failsWith hrequest).exists_ok_iff.mp ⟨create, hcreate⟩
      exact ⟨error, Or.inr ⟨hnone, hrefuses⟩, rfl⟩
    · cases hpure
  · rintro ⟨error, hrefuses | ⟨hnone, hrefuses⟩, rfl⟩
    · exact Or.inl ⟨error, hrefuses, rfl⟩
    · obtain ⟨create, hcreate⟩ := (shape_failsWith hrequest).exists_ok_iff.mpr hnone
      exact Or.inr ⟨create, hcreate, Or.inl ⟨error, hrefuses, rfl⟩⟩

/-- The drafts fail with the first fault of a collection. -/
theorem drafts_eq_error_iff (hends : doc.BodiesEnd) {failure : Failure} :
    (doc.collections.mapM fun (path, item) => doc.draft path item) = .error failure ↔
      doc.FirstFault doc.BodyFault failure :=
  mapM_collections_eq_error_iff fun entry hmem hkept =>
    draft_failsWith (hends.request entry hmem hkept) (hends.response entry hmem hkept)

/-! ## The second pass -/

/-- The check fails at the first resource whose name one before it has. -/
theorem checkNames_eq_error_iff {seen resources : List Resource} {failure : Failure} :
    checkNames seen resources = .error failure ↔
      ∃ before second after first, resources = before ++ second :: after ∧
        checkNames seen before = .ok () ∧
        ((seen ++ before).find? fun earlier => earlier.name == second.name) = some first ∧
        failure = .nameConflict second.name first.collectionPath second.collectionPath := by
  induction resources generalizing seen with
  | nil => simp [checkNames]
  | cons resource rest ih =>
    rcases hfind : seen.find? fun earlier => earlier.name == resource.name with _ | earlier
    · -- the check goes on with one more name
      have hstep : ∀ others, checkNames seen (resource :: others)
          = checkNames (seen ++ [resource]) others := by
        intro others
        rw [checkNames, hfind]
      rw [hstep, ih]
      constructor
      · rintro ⟨before, second, after, first, rfl, hbefore, hfirst, rfl⟩
        refine ⟨resource :: before, second, after, first, rfl, ?_, ?_, rfl⟩
        · rw [hstep, hbefore]
        · rw [List.append_cons]
          exact hfirst
      · rintro ⟨before, second, after, first, hsplit, hbefore, hfirst, rfl⟩
        cases before with
        | nil =>
          obtain ⟨rfl, -⟩ := List.cons.inj hsplit
          rw [List.append_nil, hfind] at hfirst
          cases hfirst
        | cons head before =>
          obtain ⟨rfl, rfl⟩ := List.cons.inj hsplit
          rw [hstep] at hbefore
          rw [List.append_cons] at hfirst
          exact ⟨before, second, after, first, rfl, hbefore, hfirst, rfl⟩
    · have hstop : ∀ others, checkNames seen (resource :: others)
          = .error (.nameConflict resource.name earlier.collectionPath
              resource.collectionPath) := by
        intro others
        rw [checkNames, hfind]
      rw [hstop]
      constructor
      · intro h
        cases h
        exact ⟨[], resource, rest, earlier, rfl, rfl, by rw [List.append_nil, hfind], rfl⟩
      · rintro ⟨before, second, after, first, hsplit, hbefore, hfirst, rfl⟩
        cases before with
        | nil =>
          obtain ⟨rfl, -⟩ := List.cons.inj hsplit
          rw [List.append_nil, hfind] at hfirst
          cases hfirst
          rfl
        | cons head before =>
          obtain ⟨rfl, -⟩ := List.cons.inj hsplit
          rw [hstop] at hbefore
          cases hbefore

/-- Names that were compared from the start clash first where one before is the same. -/
theorem checkNames_nil_eq_error_iff {resources : List Resource} {failure : Failure} :
    checkNames [] resources = .error failure ↔
      ∃ before second after first, resources = before ++ second :: after ∧
        (before.map Resource.name).Nodup ∧ first ∈ before ∧ first.name = second.name ∧
        failure = .nameConflict second.name first.collectionPath second.collectionPath := by
  rw [checkNames_eq_error_iff]
  simp only [checkNames_eq_ok_iff, List.nil_append, List.not_mem_nil, false_imp_iff,
    implies_true, and_true]
  constructor
  · rintro ⟨before, second, after, first, hsplit, hnodup, hfind, hfailure⟩
    exact ⟨before, second, after, first, hsplit, hnodup, List.mem_of_find?_eq_some hfind,
      by simpa using List.find?_some hfind, hfailure⟩
  · rintro ⟨before, second, after, first, hsplit, hnodup, hmem, hname, hfailure⟩
    refine ⟨before, second, after, first, hsplit, hnodup, ?_, hfailure⟩
    -- no other resource before has the name
    have hsome : (before.find? fun earlier => earlier.name == second.name).isSome := by
      rw [List.find?_isSome]
      exact ⟨first, hmem, beq_iff_eq.mpr hname⟩
    obtain ⟨found, hfound⟩ := Option.isSome_iff_exists.mp hsome
    have hsame : found.name = first.name := by
      rw [hname]
      simpa using List.find?_some hfound
    rw [hfound, List.inj_on_of_nodup_map hnodup (List.mem_of_find?_eq_some hfound) hmem hsame]

/-- The names of the drafts clash first where those of the collections do. -/
theorem checkNames_drafts_eq_error_iff {drafts : List Resource}
    (hstands : List.Forall₂ doc.StandsFor doc.collections drafts) {failure : Failure} :
    checkNames [] drafts = .error failure ↔ doc.FirstClash failure := by
  have hnames : ∀ {part : Table PathItem} {before : List Resource},
      List.Forall₂ doc.StandsFor part before →
        ((before.map Resource.name).Nodup ↔
          part.Pairwise fun a b => Naming.resourceName a.1 ≠ Naming.resourceName b.1) := by
    intro part before hpart
    rw [← map_eq_map_of_forall₂ hpart fun entry draft hstand => hstand.name.symm]
    exact List.pairwise_map
  rw [checkNames_nil_eq_error_iff]
  constructor
  · rintro ⟨_, second, _, first, rfl, hnodup, hmem, hname, rfl⟩
    obtain ⟨_, entry, _, hsplit, hbefore, hsecond, -⟩ := exists_split_of_forall₂ hstands
    obtain ⟨before, after, hpaths, hkept, rfl, -⟩ := collections_eq_append_cons_iff.mp hsplit
    obtain ⟨other, hother, hfirst⟩ := exists_of_forall₂ hbefore hmem
    obtain ⟨hin, hkeptOther⟩ := List.mem_filter.mp hother
    have hpairwise := List.pairwise_filter.mp ((hnames hbefore).mp hnodup)
    simp only [kept_iff] at hpairwise
    rw [hfirst.name, hsecond.name] at hname
    rw [hsecond.name, hfirst.path, hsecond.path]
    exact ⟨before, entry, after, other, hpaths, hkept, hpairwise, hin, kept_iff.mp hkeptOther,
      hname, rfl⟩
  · rintro ⟨before, entry, after, other, hpaths, hkept, hpairwise, hin, hkeptOther, hname, rfl⟩
    have hsplit := collections_eq_append_cons_iff.mpr ⟨before, after, hpaths, hkept, rfl, rfl⟩
    rw [hsplit] at hstands
    obtain ⟨front, second, back, rfl, hfront, hsecond, -⟩ :=
      exists_split_of_forall₂ (List.Forall₂.flip hstands)
    have hfront' := List.Forall₂.flip hfront
    have hnodup : (front.map Resource.name).Nodup := by
      refine (hnames hfront').mpr (List.pairwise_filter.mpr ?_)
      simp only [kept_iff]
      exact hpairwise
    obtain ⟨first, hmem, hfirst⟩ := exists_of_forall₂ hfront
      (List.mem_filter.mpr ⟨hin, kept_iff.mpr hkeptOther⟩)
    refine ⟨front, second, back, first, rfl, hnodup, hmem, ?_, ?_⟩
    · rw [hfirst.name, hsecond.name, hname]
    · rw [hsecond.name, hfirst.path, hsecond.path]

/-! ## The third pass -/

/-- A resource is not given its item path exactly if the body of that is refused. -/
theorem attach_failsWith {entry : String × PathItem} {resource : Resource}
    (hpath : resource.collectionPath = entry.1) (hcollection : '\x7b' ∉ entry.1.toList)
    (hends : ∀ item, doc.Paired entry.1 item → doc.Ends item.2.requestSchema) :
    FailsWith (doc.attach resource) (doc.ItemFault entry) := by
  intro failure
  unfold attach ItemFault
  rw [hpath]
  simp only [← itemOf_eq_some_iff hcollection] at hends ⊢
  rcases hitem : doc.itemOf entry.1 with _ | ⟨path, item⟩
  · simp
  · have hbody := shape_failsWith (hends (path, item) hitem)
    simp only [bind_eq_error_iff, hbody failure, Option.some.injEq, exists_eq_left']
    constructor
    · rintro (hfault | ⟨update, -, hpure⟩)
      · exact hfault
      · cases hpure
    · exact Or.inl

/-- The drafts are not all given their item paths exactly if there is a first fault of one. -/
theorem attach_drafts_eq_error_iff (hends : doc.BodiesEnd) {drafts : List Resource}
    (hstands : List.Forall₂ doc.StandsFor doc.collections drafts) {failure : Failure} :
    drafts.mapM doc.attach = .error failure ↔ doc.FirstFault doc.ItemFault failure := by
  have hfails : ∀ entry ∈ doc.paths, KeptPath entry → ∀ resource : Resource,
      resource.collectionPath = entry.1 → FailsWith (doc.attach resource) (doc.ItemFault entry) :=
    fun entry hmem hkept resource hpath =>
      attach_failsWith hpath hkept.2.1 (hends.item entry hmem hkept)
  -- a resource without its payloads fails as the draft does
  rw [← mapM_collections_eq_error_iff fun entry hmem hkept =>
    hfails entry hmem hkept { name := "", collectionPath := entry.1 } rfl]
  refine (mapM_eq_error_congr ?_ failure).symm
  have hmem := (List.forall₂_and_left doc.collections drafts).mpr ⟨fun _ hentry => hentry, hstands⟩
  refine hmem.imp fun entry draft ⟨hentry, hstand⟩ error => ?_
  obtain ⟨hin, hkept⟩ := mem_collections_iff.mp hentry
  rw [hfails entry hin hkept _ rfl error, hfails entry hin hkept draft hstand.path error]

/-! ## All passes -/

/-- The failure of a document is the first fault of a collection; if there is none, the first clash
of names; and if there is none either, the first fault of an item path. -/
theorem resources_eq_error_iff_first (hends : doc.BodiesEnd) (failure : Failure) :
    doc.resources = .error failure ↔
      doc.FirstFault doc.BodyFault failure ∨
        (∀ other, ¬ doc.FirstFault doc.BodyFault other) ∧
          (doc.FirstClash failure ∨
            (∀ other, ¬ doc.FirstClash other) ∧ doc.FirstFault doc.ItemFault failure) := by
  unfold Document.resources
  refine bind_eq_error_iff_first (q := fun other => doc.FirstClash other ∨
    (∀ another, ¬ doc.FirstClash another) ∧ doc.FirstFault doc.ItemFault other)
    (fun _ => drafts_eq_error_iff hends) (fun drafts hdrafts => ?_) failure
  have hstands : List.Forall₂ doc.StandsFor doc.collections drafts :=
    (mapM_eq_ok_iff.mp hdrafts).imp fun _ _ hdraft => standsFor_of_draft hdraft
  refine bind_eq_error_iff_first (fun _ => checkNames_drafts_eq_error_iff hstands) ?_
  intro _ _ other
  rw [bind_eq_error_iff, attach_drafts_eq_error_iff hends hstands]
  -- sorting does not fail
  constructor
  · rintro (hfault | ⟨resources, -, hpure⟩)
    · exact hfault
    · cases hpure
  · exact Or.inl

/-! ## The main statement -/

/-- **A document fails exactly when it must, and with its first fault.** There are no resources
exactly if the body of a path that is kept is refused, or two such paths have one name, or the
body of an item path that is paired with one is refused. The failure is the first of these
faults: bodies come before names and names before item paths, and within a kind the order of the
document decides. It is a fault of the input, and the operations on paths that are ignored have
no part in it. -/
theorem resources_fail_iff (hends : doc.BodiesEnd) :
    ((∃ failure, doc.resources = .error failure) ↔
        (∃ entry ∈ doc.paths, KeptPath entry ∧ ∃ error,
          doc.Refuses entry.2.requestSchema error ∨ doc.Refuses entry.2.responseSchema error) ∨
        (∃ first second, [first, second].Sublist doc.paths ∧ KeptPath first ∧ KeptPath second ∧
          Naming.resourceName first.1 = Naming.resourceName second.1) ∨
        ∃ entry ∈ doc.paths, KeptPath entry ∧ ∃ error item,
          doc.Paired entry.1 item ∧ doc.Refuses item.2.requestSchema error) ∧
      (∀ failure, doc.resources = .error failure ↔
        doc.FirstFault doc.BodyFault failure ∨
          (∀ other, ¬ doc.FirstFault doc.BodyFault other) ∧
            (doc.FirstClash failure ∨
              (∀ other, ¬ doc.FirstClash other) ∧ doc.FirstFault doc.ItemFault failure)) ∧
      (∀ failure, doc.resources = .error failure →
        (∃ error, failure = .input (.schema error)) ∨
          ∃ name first second, failure = .nameConflict name first second) ∧
      ∀ paths, List.Forall₂ doc.SameButIgnored doc.paths paths →
        ({ doc with paths } : Document).resources = doc.resources := by
  have hfirst := resources_eq_error_iff_first hends
  have hsome : (∃ failure, doc.resources = .error failure) ↔
      (∃ failure, doc.FirstFault doc.BodyFault failure) ∨ (∃ failure, doc.FirstClash failure) ∨
        ∃ failure, doc.FirstFault doc.ItemFault failure := by
    simp only [hfirst, exists_or, exists_and_left, ← not_exists]
    tauto
  refine ⟨?_, hfirst, ?_, fun paths => resources_eq_of_sameButIgnored⟩
  · rw [hsome, exists_firstFault_iff, exists_firstClash_iff, exists_firstFault_iff]
    refine or_congr ?_ Iff.rfl
    simp only [exists_bodyFault_iff]
  · intro failure hfailure
    rcases (hfirst failure).mp hfailure with
      ⟨_, _, _, error, -, -, -, -, hinput⟩ | ⟨-, ⟨_, _, _, _, -, -, -, -, -, -, hclash⟩ |
        ⟨-, _, _, _, error, -, -, -, -, hinput⟩⟩
    · exact Or.inl ⟨error, hinput⟩
    · exact Or.inr ⟨_, _, _, hclash⟩
    · exact Or.inl ⟨error, hinput⟩

/-! ## A clash -/

/-- A reference that leads nowhere. -/
def brokenSchema : Schema where
  reference := some (referencePrefix ++ "Missing")

/-- The operations of a path to which such a body is sent. -/
def brokenItem : PathItem where
  post := some { requestBody := some { content := jsonContent brokenSchema } }

/-- A document with two collections of one name. The first has an item path that is refused, and so
would be a path for debugging, one without a name, one without a collection and one that lost
its pairing. -/
def clashDocument : Document where
  openapi := "3.0.0"
  info := { title := "t", version := "1" }
  paths := [
    ("/debug", { brokenItem with get := some { tags := ["debug"] } }),
    ("/", brokenItem),
    ("/orphans/\x7bid\x7d", brokenItem),
    ("/v1/widgets", {}),
    ("/v1/widgets/\x7bid\x7d", brokenItem),
    ("/v2/widgets", {}),
    ("/v2/widgets/\x7bid\x7d", {}),
    ("/v2/widgets/\x7bid\x7d/parts", brokenItem)]

/-- What a path of the document is sent is refused, if it is sent anything, and nothing is read. -/
theorem clashDocument_bodies : ∀ entry ∈ clashDocument.paths,
    (entry.2.requestSchema = none ∨ entry.2.requestSchema = some brokenSchema) ∧
      entry.2.responseSchema = none := by
  unfold clashDocument
  simp only [List.forall_mem_cons, List.not_mem_nil, false_imp_iff, implies_true, and_true]
  exact ⟨⟨Or.inr rfl, rfl⟩, ⟨Or.inr rfl, rfl⟩, ⟨Or.inr rfl, rfl⟩, ⟨Or.inl rfl, rfl⟩,
    ⟨Or.inr rfl, rfl⟩, ⟨Or.inl rfl, rfl⟩, ⟨Or.inl rfl, rfl⟩, ⟨Or.inr rfl, rfl⟩⟩

theorem clashDocument_bodiesEnd : clashDocument.BodiesEnd := by
  have hbroken : clashDocument.flattenBody brokenSchema
      = some (.error (.unresolved (referencePrefix ++ "Missing"))) := rfl
  have hrequest : ∀ entry ∈ clashDocument.paths, clashDocument.Ends entry.2.requestSchema := by
    intro entry hmem schema hschema
    rcases (clashDocument_bodies entry hmem).1 with hnone | hsome
    · rw [hnone] at hschema
      cases hschema
    · rw [hsome] at hschema
      cases hschema
      rw [hbroken]
      exact Option.some_ne_none _
  refine ⟨fun entry hmem _ => hrequest entry hmem, ?_, ?_⟩
  · intro entry hmem _ schema hschema
    rw [(clashDocument_bodies entry hmem).2] at hschema
    cases hschema
  · rintro entry - - item ⟨before, after, hpaths, -⟩
    exact hrequest item (by simp [hpaths])

/-- The paths of the document that are kept have no operations. -/
theorem clashDocument_kept : ∀ entry ∈ clashDocument.paths, KeptPath entry → entry.2 = {} := by
  unfold clashDocument
  simp only [List.forall_mem_cons, List.not_mem_nil, false_imp_iff, implies_true, and_true]
  refine ⟨fun h => ?_, fun h => ?_, fun h => ?_, trivial, fun h => ?_, trivial, trivial,
    fun h => ?_⟩
  · exact absurd h.1 (by decide)
  · exact absurd rfl h.2.2
  · exact absurd (by decide) h.2.1
  · exact absurd (by decide) h.2.1
  · exact absurd (by decide) h.2.1

/-- The second of the widgets is the first path whose name is taken. -/
theorem clashDocument_firstClash :
    clashDocument.FirstClash (.nameConflict "widget" "/v1/widgets" "/v2/widgets") := by
  refine ⟨clashDocument.paths.take 5, ("/v2/widgets", {}), clashDocument.paths.drop 6,
    ("/v1/widgets", {}), rfl, ⟨rfl, by decide, by decide⟩, ?_, by simp [clashDocument],
    ⟨rfl, by decide, by decide⟩, by decide, rfl⟩
  -- before it there is one path that is kept, the fourth
  refine .cons (fun _ _ h => absurd h.1 (by decide)) (.cons (fun _ _ h => absurd rfl h.2.2)
    (.cons (fun _ _ h => absurd (by decide) h.2.1) (.cons (fun other hother _ h => ?_)
      (.cons (by simp) .nil))))
  rw [List.mem_singleton.mp hother] at h
  exact absurd (by decide) h.2.1

/-- The two widgets clash. The fault of the item path comes too late to be told, and the broken
references on the other paths are none at all. -/
theorem clashDocument_fails :
    clashDocument.BodiesEnd ∧
      clashDocument.resources = .error (.nameConflict "widget" "/v1/widgets" "/v2/widgets") := by
  refine ⟨clashDocument_bodiesEnd, ((resources_fail_iff clashDocument_bodiesEnd).2.1 _).mpr
    (Or.inr ⟨?_, Or.inl clashDocument_firstClash⟩)⟩
  rintro - ⟨before, entry, after, error, hpaths, hkept, hfault, -, -⟩
  have hempty := clashDocument_kept entry (by simp [hpaths]) hkept
  rcases hfault with ⟨schema, hbody, -⟩ | ⟨-, schema, hbody, -⟩
  · rw [hempty] at hbody
    cases hbody
  · rw [hempty] at hbody
    cases hbody

end Document

end ProviderGen
