/-
Paths whose operations make no difference.

Of a path that is tagged for debugging, gives no name, belongs to no collection or has lost
its pairing, only the spelling and the tags are looked at: they settle what the path is
for. A path that is kept is none of these, nor is one that is paired with a kept one, so two
documents that differ in the operations on such paths have the same collections, the same
item paths and the same resources, or the same failure.
-/
import ProviderGen.Proofs.Reached

set_option autoImplicit false

namespace ProviderGen

/-- A path is kept if it is a collection that gives a name and is not for debugging. -/
def KeptPath (entry : String × PathItem) : Prop :=
  entry.2.isDebug = false ∧ '\x7b' ∉ entry.1.toList ∧ Naming.resourceName entry.1 ≠ ""

namespace Document

variable {doc : Document}

/-! ## What is ignored -/

/-- A path is ignored: it is for debugging, it is a collection without a name, it is an item path
that belongs to no collection which is kept, or it belongs to one that is paired with another. -/
inductive Ignored (doc : Document) (entry : String × PathItem) : Prop
  | debugging (hdebug : entry.2.isDebug = true)
  | nameless (hcollection : '\x7b' ∉ entry.1.toList) (hname : Naming.resourceName entry.1 = "")
  | orphan (hitem : '\x7b' ∈ entry.1.toList)
      (hnone : ∀ collection ∈ doc.paths, KeptPath collection → ¬ ItemPathOf collection.1 entry.1)
  | lost (collection winner : String × PathItem) (hmem : collection ∈ doc.paths)
      (hkept : KeptPath collection) (hitem : ItemPathOf collection.1 entry.1)
      (hwinner : doc.Paired collection.1 winner) (hne : entry ≠ winner)

/-- What is kept is not ignored. -/
theorem not_ignored_of_kept {entry : String × PathItem} (h : KeptPath entry) :
    ¬ doc.Ignored entry := by
  obtain ⟨hdebug, hcollection, hname⟩ := h
  rintro (hdebug' | ⟨-, hname'⟩ | ⟨hitem, -⟩ | ⟨_, _, -, -, hitem, -, -⟩)
  · rw [hdebug] at hdebug'
    cases hdebug'
  · exact hname hname'
  · exact hcollection hitem
  · exact hcollection hitem.placeholder_mem

/-- What is paired with a kept path is not ignored. -/
theorem not_ignored_of_paired {entry collection : String × PathItem}
    (hmem : collection ∈ doc.paths) (hkept : KeptPath collection)
    (h : doc.Paired collection.1 entry) : ¬ doc.Ignored entry := by
  obtain ⟨-, -, -, ⟨hdebug, hof⟩, -, -⟩ := id h
  rintro (hdebug' | ⟨hcollection, -⟩ | ⟨-, hnone⟩ | ⟨other, winner, -, hother, hitem, hwinner, hne⟩)
  · rw [hdebug] at hdebug'
    cases hdebug'
  · exact hcollection hof.placeholder_mem
  · exact hnone collection hmem hkept hof
  · -- it belongs to one collection only, and that has one item path
    have hprefix := ((itemPathOf_iff hkept.2.1).mpr hof).2
    have hprefix' := ((itemPathOf_iff hother.2.1).mpr hitem).2
    have hpaired := (itemOf_eq_some_iff hkept.2.1).mpr h
    have hpaired' := (itemOf_eq_some_iff hother.2.1).mpr hwinner
    rw [← hprefix', hprefix, hpaired] at hpaired'
    exact hne (Option.some.inj hpaired')

/-- A path that is ignored has the same spelling and is for debugging as before, and one that is
not ignored is the same. -/
structure SameButIgnored (doc : Document) (entry entry' : String × PathItem) : Prop where
  path : entry'.1 = entry.1
  isDebug : entry'.2.isDebug = entry.2.isDebug
  same : ¬ doc.Ignored entry → entry' = entry

/-! ## What stays the same -/

variable {paths : Table PathItem}

theorem SameButIgnored.candidate_iff {entry entry' : String × PathItem}
    (h : doc.SameButIgnored entry entry') (collection : String) :
    Candidate collection entry' ↔ Candidate collection entry := by
  unfold Candidate
  rw [h.path, h.isDebug]

/-- The collections are kept, so they are the same. -/
theorem collections_eq_of_sameButIgnored
    (h : List.Forall₂ doc.SameButIgnored doc.paths paths) :
    ({ doc with paths } : Document).collections = doc.collections := by
  have hfilter : List.Forall₂ doc.SameButIgnored doc.collections
      ({ doc with paths } : Document).collections := by
    refine List.rel_filter (fun entry entry' hsame => ?_) h
    dsimp only
    rw [hsame.path, hsame.isDebug]
  have hkept := (List.forall₂_and_left _ _).mpr
    ⟨fun entry hentry => (mem_collections_iff.mp hentry).2, hfilter⟩
  have hsame : List.Forall₂ (· = ·) doc.collections ({ doc with paths } : Document).collections :=
    hkept.imp fun entry entry' ⟨hentry, hsame⟩ => (hsame.same (not_ignored_of_kept hentry)).symm
  rw [List.forall₂_eq_eq_eq] at hsame
  exact hsame.symm

/-- The item path of a collection that is kept is the same. -/
theorem itemOf_eq_of_sameButIgnored (h : List.Forall₂ doc.SameButIgnored doc.paths paths)
    {collection : String × PathItem} (hmem : collection ∈ doc.paths) (hkept : KeptPath collection) :
    ({ doc with paths } : Document).itemOf collection.1 = doc.itemOf collection.1 := by
  rcases hitem : doc.itemOf collection.1 with _ | entry
  · rw [itemOf_eq_none_iff hkept.2.1] at hitem ⊢
    intro entry' hentry' hcandidate
    obtain ⟨entry, hentry, hsame⟩ := exists_of_forall₂ h hentry'
    exact hitem entry hentry ((hsame.candidate_iff collection.1).mp hcandidate)
  · rw [itemOf_eq_some_iff hkept.2.1] at hitem ⊢
    have hheeded := not_ignored_of_paired hmem hkept hitem
    obtain ⟨before, after, hpaths, hcandidate, hbefore, hafter⟩ := hitem
    rw [hpaths] at h
    obtain ⟨front, entry', back, hsplit, hfront, hsame, hback⟩ :=
      exists_split_of_forall₂ (List.Forall₂.flip h)
    -- the winner stands where it stood, among candidates of the same spelling
    obtain rfl := hsame.same hheeded
    refine ⟨front, back, hsplit, hcandidate, ?_, ?_⟩
    · intro earlier hearlier hin
      obtain ⟨other, hother, hsameOther⟩ := exists_of_forall₂ (List.Forall₂.flip hfront) hearlier
      rw [hsameOther.path]
      exact hbefore other hother ((hsameOther.candidate_iff collection.1).mp hin)
    · intro later hlater hin
      obtain ⟨other, hother, hsameOther⟩ := exists_of_forall₂ (List.Forall₂.flip hback) hlater
      rw [hsameOther.path]
      exact hafter other hother ((hsameOther.candidate_iff collection.1).mp hin)

/-- **Operations that are ignored make no difference.** Documents that are the same but for the
operations on ignored paths have the same resources, or the same failure. -/
theorem resources_eq_of_sameButIgnored (h : List.Forall₂ doc.SameButIgnored doc.paths paths) :
    ({ doc with paths } : Document).resources = doc.resources := by
  have hshape : ∀ body, ({ doc with paths } : Document).shape body = doc.shape body :=
    fun _ => shape_congr fun _ _ _ _ => rfl
  refine resources_congr (collections_eq_of_sameButIgnored h) (fun entry hentry => ?_)
    fun entry _ _ => ⟨hshape entry.2.requestSchema, hshape entry.2.responseSchema⟩
  obtain ⟨hin, hkept⟩ := mem_collections_iff.mp hentry
  exact itemOf_eq_of_sameButIgnored h hin hkept

end Document

end ProviderGen
