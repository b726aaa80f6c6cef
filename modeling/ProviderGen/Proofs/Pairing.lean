/-
Which item path a resource is given.

An item path belongs to the collection that stands before its first placeholder, without
the slashes between. Cutting the slashes off has an exact inverse: the paths that are cut
to a collection are those that go on from it with slashes and a placeholder, and a
collection that itself ends in a slash is what no path is cut to. Of the candidates of a
collection the fold keeps the first that no other undercuts, so the winner splits the
document: what stands before it is longer, what stands behind it is not shorter. The same
winners are found in one pass over the paths that keeps, under every prefix, the best
candidate so far.

The main statement reads the rest of a resource off its winner. Since the prefix of an item
path tells its collection, no path is given to two resources.
-/
import ProviderGen.Proofs.Discovery
import Mathlib.Data.List.DropRight

set_option autoImplicit false

namespace ProviderGen

open ProviderGen.Text

/-! ## Prefixes -/

/-- A text is cut to a front that does not end in the character and is followed by nothing else. -/
theorem dropEndWhile_eq_iff {c : Char} {s front : List Char} :
    dropEndWhile (· == c) s = front ↔
      front.getLast? ≠ some c ∧ ∃ count, s = front ++ List.replicate count c := by
  unfold dropEndWhile
  constructor
  · rintro rfl
    constructor
    · intro hlast
      obtain ⟨hne, hc⟩ := List.mem_getLast?_eq_getLast hlast
      have hkept : ¬ ((s.rdropWhile (· == c)).getLast hne == c) = true :=
        List.rdropWhile_last_not (· == c) s hne
      exact hkept (beq_iff_eq.mpr hc.symm)
    · refine ⟨(s.rtakeWhile (· == c)).length, ?_⟩
      have hend : s.rtakeWhile (· == c) = List.replicate (s.rtakeWhile (· == c)).length c :=
        List.eq_replicate_of_mem fun x hx => by simpa using List.mem_rtakeWhile_imp hx
      rw [← hend]
      exact List.rdropWhile_append_rtakeWhile.symm
  · rintro ⟨hlast, count, rfl⟩
    -- the character goes away one by one, from the end
    change (front ++ List.replicate count c).rdropWhile (· == c) = front
    induction count with
    | zero =>
      rw [List.replicate_zero, List.append_nil, List.rdropWhile_eq_self_iff]
      intro hne hc
      rw [List.getLast?_eq_some_getLast hne] at hlast
      exact hlast (congrArg some (by simpa using hc))
    | succ count ih =>
      rw [List.replicate_succ', ← List.append_assoc, List.rdropWhile_concat_pos _ _ _ (by simp), ih]

/-- A text that has a character is what stands before the first of them, and the rest. -/
theorem takeWhile_ne_eq_iff {c : Char} {s front : List Char} :
    c ∈ s ∧ s.takeWhile (· != c) = front ↔ c ∉ front ∧ ∃ rest, s = front ++ c :: rest := by
  constructor
  · rintro ⟨hmem, rfl⟩
    refine ⟨?_, ?_⟩
    · intro hc
      simpa using List.mem_takeWhile_imp hc
    · induction s with
      | nil => cases hmem
      | cons x s ih =>
        by_cases hx : x = c
        · exact ⟨s, by simp [hx]⟩
        · obtain ⟨rest, hrest⟩ := ih ((List.mem_cons.mp hmem).resolve_left fun h => hx h.symm)
          refine ⟨rest, ?_⟩
          rw [List.takeWhile_cons_of_pos (by simpa using hx), List.cons_append, ← hrest]
  · rintro ⟨hc, rest, rfl⟩
    refine ⟨by simp, ?_⟩
    rw [List.takeWhile_append_of_pos, List.takeWhile_cons_of_neg (by simp), List.append_nil]
    intro x hx
    simpa using fun h : x = c => hc (h ▸ hx)

/-- A path is an item path of a collection: it goes on from it with slashes, if any, and a
placeholder. A collection that ends in a slash has none. -/
def ItemPathOf (collection path : String) : Prop :=
  collection.toList.getLast? ≠ some '/' ∧
    ∃ slashes rest,
      path.toList = collection.toList ++ List.replicate slashes '/' ++ '\x7b' :: rest

/-- **The prefix inverted.** The paths with a placeholder that have a collection as their prefix
are the item paths of the collection. -/
theorem itemPathOf_iff {collection path : String} (hcollection : '\x7b' ∉ collection.toList) :
    isItemPath path = true ∧ Naming.itemPrefix path = collection ↔ ItemPathOf collection path := by
  unfold isItemPath Naming.itemPrefix ItemPathOf
  rw [List.contains_iff_mem, ← String.toList_inj, String.toList_ofList, dropEndWhile_eq_iff]
  constructor
  · rintro ⟨hmem, hlast, slashes, hfront⟩
    obtain ⟨-, rest, hpath⟩ := takeWhile_ne_eq_iff.mp ⟨hmem, hfront⟩
    exact ⟨hlast, slashes, rest, hpath⟩
  · rintro ⟨hlast, slashes, rest, hpath⟩
    have hfront : '\x7b' ∉ collection.toList ++ List.replicate slashes '/' := by
      rw [List.mem_append, List.mem_replicate]
      rintro (hmem | ⟨-, hslash⟩)
      · exact hcollection hmem
      · exact absurd hslash (by decide)
    obtain ⟨hmem, htake⟩ := takeWhile_ne_eq_iff.mpr ⟨hfront, rest, hpath⟩
    exact ⟨hmem, hlast, slashes, htake⟩

/-- An item path has a placeholder. -/
theorem ItemPathOf.placeholder_mem {collection path : String} (h : ItemPathOf collection path) :
    '\x7b' ∈ path.toList := by
  obtain ⟨-, slashes, rest, hpath⟩ := h
  rw [hpath]
  simp

/-- An item path is not empty. -/
theorem ItemPathOf.ne_empty {collection path : String} (h : ItemPathOf collection path) :
    path ≠ "" := by
  rintro rfl
  exact absurd h.placeholder_mem (by decide)

/-! ## Candidates -/

/-- A candidate of a collection: an item path of it that is not for debugging. -/
def Candidate (collection : String) (entry : String × PathItem) : Prop :=
  entry.2.isDebug = false ∧ ItemPathOf collection entry.1

namespace Document

variable {doc : Document}

/-- The item path of a collection: the candidate with the fewest segments, and of several such
the first in the document. -/
def Paired (doc : Document) (collection : String) (entry : String × PathItem) : Prop :=
  ∃ before after, doc.paths = before ++ entry :: after ∧ Candidate collection entry ∧
    (∀ earlier ∈ before, Candidate collection earlier →
      segmentCount entry.1 < segmentCount earlier.1) ∧
    ∀ later ∈ after, Candidate collection later → segmentCount entry.1 ≤ segmentCount later.1

theorem candidate_iff {collection : String} {entry : String × PathItem}
    (hcollection : '\x7b' ∉ collection.toList) :
    (!entry.2.isDebug && isItemPath entry.1 && Naming.itemPrefix entry.1 == collection) = true ↔
      Candidate collection entry := by
  unfold Candidate
  rw [← itemPathOf_iff hcollection]
  simp [and_assoc]

/-- The better of an item path and the best before it, if there is one. -/
def better (best? : Option (String × PathItem)) (entry : String × PathItem) : String × PathItem :=
  match best? with
  | none => entry
  | some best => shallowest.closer best entry

theorem better_none (entry : String × PathItem) : better none entry = entry := rfl

/-- An item path with fewer segments than the best takes its place. -/
theorem better_of_lt {best entry : String × PathItem}
    (h : segmentCount entry.1 < segmentCount best.1) : better (some best) entry = entry :=
  if_pos h

/-- The best stays where the next item path has no fewer segments. -/
theorem better_of_le {best entry : String × PathItem}
    (h : segmentCount best.1 ≤ segmentCount entry.1) : better (some best) entry = best :=
  if_neg (Nat.not_lt.mpr h)

/-- The fold compares the last member with the best of those before it. -/
theorem shallowest_concat (items : Table PathItem) (entry : String × PathItem) :
    shallowest (items ++ [entry]) = some (better (shallowest items) entry) := by
  cases items with
  | nil => rfl
  | cons first rest =>
    change some ((rest ++ [entry]).foldl shallowest.closer first) = _
    rw [List.foldl_append]
    rfl

theorem shallowest_eq_none_iff {items : Table PathItem} : shallowest items = none ↔ items = [] := by
  cases items <;> simp [shallowest]

theorem shallowest_mem {items : Table PathItem} {entry : String × PathItem}
    (h : shallowest items = some entry) : entry ∈ items := by
  induction items using List.reverseRecOn generalizing entry with
  | nil => cases h
  | append_singleton items last ih =>
    rw [shallowest_concat, Option.some.injEq] at h
    rcases hbest : shallowest items with _ | best
    · rw [hbest, better_none] at h
      simp [h]
    · rw [hbest] at h
      rcases Nat.lt_or_ge (segmentCount last.1) (segmentCount best.1) with hlt | hle
      · rw [better_of_lt hlt] at h
        simp [h]
      · rw [better_of_le hle] at h
        exact List.mem_append_left _ (ih (h ▸ hbest))

/-- Of a list the fold keeps the member that is shorter than those before it and no longer than
those behind it. -/
theorem shallowest_eq_some_iff {items : Table PathItem} {entry : String × PathItem} :
    shallowest items = some entry ↔
      ∃ before after, items = before ++ entry :: after ∧
        (∀ earlier ∈ before, segmentCount entry.1 < segmentCount earlier.1) ∧
        ∀ later ∈ after, segmentCount entry.1 ≤ segmentCount later.1 := by
  constructor
  · intro h
    induction items using List.reverseRecOn generalizing entry with
    | nil => cases h
    | append_singleton items last ih =>
      rw [shallowest_concat, Option.some.injEq] at h
      rcases hbest : shallowest items with _ | best
      · rw [hbest, better_none] at h
        rw [shallowest_eq_none_iff.mp hbest, h]
        exact ⟨[], [], rfl, by simp, by simp⟩
      · rw [hbest] at h
        obtain ⟨before, after, rfl, hbefore, hafter⟩ := ih hbest
        rcases Nat.lt_or_ge (segmentCount last.1) (segmentCount best.1) with hlt | hle
        · -- the last member undercuts the best, and with it all others
          rw [better_of_lt hlt] at h
          subst h
          refine ⟨before ++ best :: after, [], rfl, ?_, by simp⟩
          intro earlier hmem
          rcases List.mem_append.mp hmem with hfront | hback
          · exact hlt.trans (hbefore earlier hfront)
          · rcases List.mem_cons.mp hback with rfl | hback
            · exact hlt
            · exact hlt.trans_le (hafter earlier hback)
        · rw [better_of_le hle] at h
          subst h
          refine ⟨before, after ++ [last], by simp, hbefore, ?_⟩
          intro later hmem
          rcases List.mem_append.mp hmem with hfront | hback
          · exact hafter later hfront
          · rw [List.mem_singleton.mp hback]
            exact hle
  · rintro ⟨before, after, rfl, hbefore, hafter⟩
    induction after using List.reverseRecOn with
    | nil =>
      rw [shallowest_concat]
      rcases hbest : shallowest before with _ | best
      · rfl
      · rw [better_of_lt (hbefore best (shallowest_mem hbest))]
    | append_singleton after last ih =>
      have hfront := ih fun later hmem => hafter later (List.mem_append_left _ hmem)
      rw [← List.cons_append, ← List.append_assoc, shallowest_concat, hfront,
        better_of_le (hafter last (by simp))]

theorem itemOf_eq_none_iff {collection : String} (hcollection : '\x7b' ∉ collection.toList) :
    doc.itemOf collection = none ↔ ∀ entry ∈ doc.paths, ¬ Candidate collection entry := by
  unfold itemOf candidates
  rw [shallowest_eq_none_iff, List.filter_eq_nil_iff]
  simp only [candidate_iff hcollection]

/-- What holds of the candidates of a part of the document holds of what the search keeps of it. -/
theorem forall_mem_filter_candidate_iff {collection : String} {part : Table PathItem}
    {p : String × PathItem → Prop} (hcollection : '\x7b' ∉ collection.toList) :
    (∀ entry ∈ part.filter fun (path, item) =>
        !item.isDebug && isItemPath path && Naming.itemPrefix path == collection, p entry) ↔
      ∀ entry ∈ part, Candidate collection entry → p entry := by
  simp only [List.mem_filter, candidate_iff hcollection, and_imp]

/-- The item path that is looked for is the one that is paired. -/
theorem itemOf_eq_some_iff {collection : String} {entry : String × PathItem}
    (hcollection : '\x7b' ∉ collection.toList) :
    doc.itemOf collection = some entry ↔ doc.Paired collection entry := by
  unfold itemOf candidates Paired
  simp only [shallowest_eq_some_iff, filter_eq_append_cons_iff, candidate_iff hcollection]
  constructor
  · rintro ⟨_, _, ⟨before, after, hpaths, hentry, rfl, rfl⟩, hbefore, hafter⟩
    exact ⟨before, after, hpaths, hentry, (forall_mem_filter_candidate_iff hcollection).mp hbefore,
      (forall_mem_filter_candidate_iff hcollection).mp hafter⟩
  · rintro ⟨before, after, hpaths, hentry, hbefore, hafter⟩
    exact ⟨_, _, ⟨before, after, hpaths, hentry, rfl, rfl⟩,
      (forall_mem_filter_candidate_iff hcollection).mpr hbefore,
      (forall_mem_filter_candidate_iff hcollection).mpr hafter⟩

/-! ## One pass -/

/-- What is kept under the prefixes after one more path: an item path that is not for debugging
takes the place under its prefix if it is free or held by a longer one. -/
def offer (kept : Table (String × PathItem)) (entry : String × PathItem) :
    Table (String × PathItem) :=
  if !entry.2.isDebug && isItemPath entry.1 then
    match kept.lookup (Naming.itemPrefix entry.1) with
    | none => kept.put (Naming.itemPrefix entry.1) entry
    | some best =>
      if segmentCount entry.1 < segmentCount best.1 then
        kept.put (Naming.itemPrefix entry.1) entry
      else kept
  else kept

/-- Under its prefix a path leaves the better one, and under all others what was there. -/
theorem lookup_offer (kept : Table (String × PathItem)) (entry : String × PathItem)
    (collection : String) :
    (offer kept entry).lookup collection
      = if !entry.2.isDebug && isItemPath entry.1 && Naming.itemPrefix entry.1 == collection then
          some (better (kept.lookup collection) entry)
        else kept.lookup collection := by
  unfold offer
  cases hitem : !entry.2.isDebug && isItemPath entry.1 with
  | false => rw [Bool.false_and]; rfl
  | true =>
    rw [if_pos rfl, Bool.true_and]
    by_cases hprefix : Naming.itemPrefix entry.1 = collection
    · rw [if_pos (beq_iff_eq.mpr hprefix), hprefix]
      rcases hbest : kept.lookup collection with _ | best
      · exact Table.lookup_put_self collection entry kept
      · dsimp only
        split
        · next hlt => rw [Table.lookup_put_self, better_of_lt hlt]
        · next hle => rw [hbest, better_of_le (Nat.not_lt.mp hle)]
    · rw [if_neg (by simpa using hprefix)]
      have hput := Table.lookup_put_of_ne (Ne.symm hprefix) entry kept
      split
      · exact hput
      · split
        · exact hput
        · rfl

/-- **One pass finds every item path.** A pass over the paths that keeps the best so far under
each prefix ends with the item path of each collection. -/
theorem lookup_foldl_offer (doc : Document) (collection : String) :
    (doc.paths.foldl offer []).lookup collection = doc.itemOf collection := by
  unfold itemOf candidates
  induction doc.paths using List.reverseRecOn with
  | nil => rfl
  | append_singleton paths entry ih =>
    rw [List.foldl_append, List.foldl_cons, List.foldl_nil, lookup_offer, List.filter_append, ih]
    cases hin : !entry.2.isDebug && isItemPath entry.1 &&
      Naming.itemPrefix entry.1 == collection with
    | false => simp [hin]
    | true => simp [hin, shallowest_concat]

/-! ## Resources -/

/-- What a resource owes to the item path of its collection: nothing if there is none, else its
path, the payload to change one and whether one can be deleted. -/
inductive GivenItemPath (doc : Document) (resource : Resource) : Prop
  | alone (hitem : doc.itemOf resource.collectionPath = none) (hpath : resource.itemPath = "")
      (hupdate : resource.update = none) (hdelete : resource.hasDelete = false)
  | paired (entry : String × PathItem) (hitem : doc.itemOf resource.collectionPath = some entry)
      (hpath : resource.itemPath = entry.1)
      (hupdate : doc.Flattens entry.2.requestSchema resource.update)
      (hdelete : resource.hasDelete = entry.2.delete.isSome)

/-- A draft owes nothing to an item path yet, so attaching gives it what it owes. -/
theorem GivenItemPath.of_attach {entry : String × PathItem} {draft resource : Resource}
    (hdraft : doc.draft entry.1 entry.2 = .ok draft) (h : doc.attach draft = .ok resource) :
    doc.GivenItemPath resource := by
  obtain ⟨create, read, -, -, rfl⟩ := draft_eq_ok_iff.mp hdraft
  unfold attach at h
  dsimp only at h
  rcases hitem : doc.itemOf entry.1 with _ | ⟨path, item⟩
  · rw [hitem] at h
    cases h
    exact .alone hitem rfl rfl rfl
  · rw [hitem] at h
    obtain ⟨update, hupdate, hresource⟩ := bind_eq_ok_iff.mp h
    rw [pure_eq_ok_iff.mp hresource]
    exact .paired (path, item) hitem rfl (shape_eq_ok_iff.mp hupdate) rfl

/-- Every resource has what it owes to its item path, and its collection has no placeholder. -/
theorem givenItemPath_of_resources {resources : List Resource} (h : doc.resources = .ok resources)
    {resource : Resource} (hmem : resource ∈ resources) :
    '\x7b' ∉ resource.collectionPath.toList ∧ doc.GivenItemPath resource := by
  obtain ⟨drafts, attached, hdrafts, -, hattached, rfl⟩ := resources_eq_ok_iff.mp h
  have hperm := List.mergeSort_perm attached fun a b => decide (a.name ≤ b.name)
  obtain ⟨draft, hdraftmem, hattach⟩ := exists_of_forall₂ hattached (hperm.mem_iff.mp hmem)
  obtain ⟨entry, hentry, hdraft⟩ := exists_of_forall₂ hdrafts hdraftmem
  have hpath := ((standsFor_of_draft hdraft).attach hattach).path
  obtain ⟨-, -, hplaceholder, -⟩ := mem_collections_iff.mp hentry
  rw [hpath]
  exact ⟨hplaceholder, .of_attach hdraft hattach⟩

/-- Two resources have two collections. -/
theorem pairwise_collectionPath_of_resources {resources : List Resource}
    (h : doc.resources = .ok resources) :
    resources.Pairwise fun a b => a.collectionPath ≠ b.collectionPath := by
  obtain ⟨attached, hstands, hnames, rfl⟩ := exists_standsFor_of_resources h
  have hperm := List.mergeSort_perm attached fun a b => decide (a.name ≤ b.name)
  refine (pairwise_mergeSort_name hnames).imp_of_mem fun {a b} ha hb hlt hpath => ?_
  -- the name of a resource is read off its collection
  obtain ⟨entry, -, hentry⟩ := exists_of_forall₂ hstands (hperm.mem_iff.mp ha)
  obtain ⟨entry', -, hentry'⟩ := exists_of_forall₂ hstands (hperm.mem_iff.mp hb)
  rw [hentry.name, hentry'.name, ← hentry.path, ← hentry'.path, hpath] at hlt
  exact String.lt_irrefl _ hlt

/-- An item path tells the collection of its resource. -/
theorem GivenItemPath.itemPrefix_eq {resource : Resource} (h : doc.GivenItemPath resource)
    (hcollection : '\x7b' ∉ resource.collectionPath.toList) (hpath : resource.itemPath ≠ "") :
    Naming.itemPrefix resource.itemPath = resource.collectionPath := by
  cases h with
  | alone _ hnone => exact absurd hnone hpath
  | paired entry hitem hentry =>
    obtain ⟨-, -, -, ⟨-, hof⟩, -⟩ := (itemOf_eq_some_iff hcollection).mp hitem
    rw [hentry]
    exact ((itemPathOf_iff hcollection).mpr hof).2

/-- What can be deleted has an item path. -/
theorem GivenItemPath.itemPath_ne_empty {resource : Resource} (h : doc.GivenItemPath resource)
    (hcollection : '\x7b' ∉ resource.collectionPath.toList) (hdelete : resource.hasDelete = true) :
    resource.itemPath ≠ "" := by
  cases h with
  | alone _ _ _ hnone =>
    rw [hnone] at hdelete
    cases hdelete
  | paired entry hitem hentry =>
    obtain ⟨-, -, -, hcandidate, -⟩ := (itemOf_eq_some_iff hcollection).mp hitem
    rw [hentry]
    exact hcandidate.2.ne_empty

/-! ## The main statement -/

/-- **Pairing picks the right path.** A resource whose collection has no candidate has no item
path, no payload to change one and nothing to delete. If there are candidates, the resource has
the path of the one with the fewest segments, the first of several such, and takes the payload
and the deletion from the operations on it. No item path is given to two resources. -/
theorem resources_itemPath {resources : List Resource} (h : doc.resources = .ok resources) :
    (∀ resource ∈ resources,
        ((∀ entry ∈ doc.paths, ¬ Candidate resource.collectionPath entry) →
          resource.itemPath = "" ∧ resource.update = none ∧ resource.hasDelete = false) ∧
        ((∃ entry ∈ doc.paths, Candidate resource.collectionPath entry) →
          ∃ path item, doc.Paired resource.collectionPath (path, item) ∧
            resource.itemPath = path ∧
            doc.Flattens
              ((sentSchema item.post).or ((sentSchema item.put).or (sentSchema item.patch)))
              resource.update ∧
            (resource.hasDelete = true ↔ item.delete.isSome)) ∧
        (resource.hasDelete = true ∨ resource.update.isSome → resource.itemPath ≠ "")) ∧
      resources.Pairwise fun a b => a.itemPath = b.itemPath → a.itemPath = "" := by
  constructor
  · intro resource hmem
    obtain ⟨hcollection, hgiven⟩ := givenItemPath_of_resources h hmem
    cases hgiven with
    | alone hitem hpath hupdate hdelete =>
      refine ⟨fun _ => ⟨hpath, hupdate, hdelete⟩, ?_, ?_⟩
      · rintro ⟨entry, hentry, hcandidate⟩
        exact absurd hcandidate ((itemOf_eq_none_iff hcollection).mp hitem entry hentry)
      · rw [hupdate, hdelete]
        simp
    | paired entry hitem hpath hupdate hdelete =>
      have hpaired := (itemOf_eq_some_iff hcollection).mp hitem
      obtain ⟨before, after, hpaths, hcandidate, -, -⟩ := id hpaired
      refine ⟨?_, ?_, ?_⟩
      · intro hnone
        exact absurd hcandidate (hnone entry (by rw [hpaths]; simp))
      · intro _
        rw [PathItem.requestSchema_eq] at hupdate
        exact ⟨entry.1, entry.2, hpaired, hpath, hupdate, by rw [hdelete]⟩
      · intro _
        rw [hpath]
        exact hcandidate.2.ne_empty
  · refine (pairwise_collectionPath_of_resources h).imp_of_mem fun {a b} ha hb hne hpath => ?_
    by_contra hsome
    obtain ⟨hcollection, hgiven⟩ := givenItemPath_of_resources h ha
    obtain ⟨hcollection', hgiven'⟩ := givenItemPath_of_resources h hb
    -- one item path has one prefix
    have hprefix := hgiven.itemPrefix_eq hcollection hsome
    have hprefix' := hgiven'.itemPrefix_eq hcollection' (hpath ▸ hsome)
    exact hne (by rw [← hprefix, ← hprefix', hpath])

/-! ## Zones -/

/-- The operations of a zone that can be changed. -/
def changeableZone : PathItem where
  patch := some { requestBody := some { content := jsonContent namedSchema } }

/-- A document whose zones have four paths below them: one for debugging, one that is too long,
and two of one length, the first with a doubled slash. Its shelves end in a slash. -/
def zonesDocument : Document where
  openapi := "3.0.0"
  info := { title := "t", version := "1" }
  paths := [
    ("/zones/\x7bdump\x7d", { get := some { tags := ["Debug"] } }),
    ("/zones/\x7bzone\x7d/records/\x7bid\x7d", { delete := some {} }),
    ("/zones", { get := some {} }),
    ("/zones//\x7bzone\x7d", changeableZone),
    ("/zones/\x7bid\x7d", { delete := some {} }),
    ("/shelves/", { get := some {} }),
    ("/shelves/\x7bid\x7d", { delete := some {} })]

/-- The resource of shelves, which have no item path. -/
def shelfResource : Resource where
  name := "shelve"
  collectionPath := "/shelves/"

/-- The resource of zones, before it is given its item path. -/
def zoneDraft : Resource where
  name := "zone"
  collectionPath := "/zones"

/-- The resource of zones, which are changed. -/
def zoneResource : Resource :=
  { zoneDraft with itemPath := "/zones//\x7bzone\x7d", update := some [nameField] }

theorem zonesDocument_resources :
    zonesDocument.resources = .ok [shelfResource, zoneResource] := by
  refine resources_eq_ok_iff.mpr ⟨[zoneDraft, shelfResource], [zoneResource, shelfResource],
    mapM_eq_ok_iff.mp rfl, rfl, mapM_eq_ok_iff.mp rfl, ?_⟩
  simp [List.mergeSort, zoneResource, zoneDraft, shelfResource]

/-- The path with the doubled slash belongs to zones. -/
theorem zonesDocument_candidate :
    Candidate "/zones" ("/zones//\x7bzone\x7d", changeableZone) :=
  ⟨rfl, by decide, 2, "zone\x7d".toList, by decide⟩

/-- Zones are given the first of the two shortest paths, and the payload that changes one. Shelves
are given nothing, because no item path belongs to a collection that ends in a slash. -/
theorem zonesDocument_itemPath :
    zonesDocument.resources = .ok [shelfResource, zoneResource] ∧
      (∃ path item, zonesDocument.Paired "/zones" (path, item) ∧
        path = "/zones//\x7bzone\x7d" ∧
        zonesDocument.Flattens
          ((sentSchema item.post).or ((sentSchema item.put).or (sentSchema item.patch)))
          (some [nameField]) ∧
        (false = true ↔ item.delete.isSome)) ∧
      shelfResource.itemPath = "" ∧ shelfResource.update = none ∧
      shelfResource.hasDelete = false := by
  obtain ⟨hgiven, -⟩ := resources_itemPath zonesDocument_resources
  obtain ⟨-, hzone, -⟩ := hgiven zoneResource (by simp)
  obtain ⟨hshelf, -, -⟩ := hgiven shelfResource (by simp)
  obtain ⟨path, item, hpaired, hpath, hupdate, hdelete⟩ :=
    hzone ⟨_, by simp [zonesDocument], zonesDocument_candidate⟩
  refine ⟨zonesDocument_resources, ⟨path, item, hpaired, hpath.symm, hupdate, hdelete⟩, ?_⟩
  exact hshelf fun entry _ hcandidate => hcandidate.2.1 (by decide)

end Document

end ProviderGen
