/-
The order of the paths.

Paths are gone through from first to last, but little of the order survives. The collections of
a document in another order are the same in another order, and so are their drafts and the
finished resources, one by one. Whether a name stands twice is no matter of order, and sorting
by distinct names leaves one order only. There is a single place where the order decides: of
several candidates with the fewest segments a collection is given the first. So if no
collection that is kept has two of them, all orders of the paths have the same resources. Which
failure is reported does depend on the order, but whether there is one does not.
-/
import ProviderGen.Proofs.Ignored
import Mathlib.Data.List.Perm.Basic

set_option autoImplicit false

namespace ProviderGen

namespace Document

variable {doc doc' : Document}

/-! ## Ties -/

/-- A candidate of a collection has the fewest segments if no other candidate has fewer. -/
structure Fewest (doc : Document) (collection : String) (entry : String × PathItem) : Prop where
  mem : entry ∈ doc.paths
  candidate : Candidate collection entry
  least : ∀ other ∈ doc.paths, Candidate collection other →
    segmentCount entry.1 ≤ segmentCount other.1

/-- No two candidates of a collection that is kept tie for the fewest segments. -/
def Untied (doc : Document) : Prop :=
  ∀ collection ∈ doc.paths, KeptPath collection → ∀ entry other,
    doc.Fewest collection.1 entry → doc.Fewest collection.1 other → entry = other

/-- The item path of a collection has the fewest segments. -/
theorem fewest_of_paired {collection : String} {entry : String × PathItem}
    (h : doc.Paired collection entry) : doc.Fewest collection entry := by
  obtain ⟨before, after, hpaths, hcandidate, hbefore, hafter⟩ := h
  refine ⟨by rw [hpaths]; simp, hcandidate, ?_⟩
  intro other hmem hother
  rw [hpaths] at hmem
  rcases List.mem_append.mp hmem with hfront | hback
  · exact (hbefore other hfront hother).le
  · rcases List.mem_cons.mp hback with rfl | hback
    · exact Nat.le_refl _
    · exact hafter other hback hother

/-! ## Another order -/

section Order

variable (hpaths : doc'.paths.Perm doc.paths)
include hpaths

theorem fewest_iff_of_perm {collection : String} {entry : String × PathItem} :
    doc'.Fewest collection entry ↔ doc.Fewest collection entry := by
  constructor
  · rintro ⟨hmem, hcandidate, hleast⟩
    exact ⟨hpaths.mem_iff.mp hmem, hcandidate,
      fun other hother => hleast other (hpaths.mem_iff.mpr hother)⟩
  · rintro ⟨hmem, hcandidate, hleast⟩
    exact ⟨hpaths.mem_iff.mpr hmem, hcandidate,
      fun other hother => hleast other (hpaths.mem_iff.mp hother)⟩

theorem Untied.of_perm (h : doc.Untied) : doc'.Untied := by
  intro collection hmem hkept entry other hentry hother
  exact h collection (hpaths.mem_iff.mp hmem) hkept entry other
    ((fewest_iff_of_perm hpaths).mp hentry) ((fewest_iff_of_perm hpaths).mp hother)

theorem collections_perm : doc'.collections.Perm doc.collections := hpaths.filter _

/-- Without ties the item path of a collection that is kept is the same in every order. -/
theorem itemOf_eq_of_perm (huntied : doc.Untied) {collection : String × PathItem}
    (hmem : collection ∈ doc.paths) (hkept : KeptPath collection) :
    doc'.itemOf collection.1 = doc.itemOf collection.1 := by
  have hnone : doc'.itemOf collection.1 = none ↔ doc.itemOf collection.1 = none := by
    simp only [itemOf_eq_none_iff hkept.2.1, hpaths.mem_iff]
  rcases hitem : doc.itemOf collection.1 with _ | entry
  · exact hnone.mpr hitem
  · rcases hitem' : doc'.itemOf collection.1 with _ | entry'
    · rw [hnone.mp hitem'] at hitem
      cases hitem
    · -- both have the fewest segments, each in its own order
      have hfewest := fewest_of_paired ((itemOf_eq_some_iff hkept.2.1).mp hitem)
      have hfewest' := fewest_of_paired ((itemOf_eq_some_iff hkept.2.1).mp hitem')
      rw [huntied collection hmem hkept entry' entry
        ((fewest_iff_of_perm hpaths).mp hfewest') hfewest]

end Order

/-- Sorting resources with distinct names leaves nothing of the order they were in. -/
theorem mergeSort_name_eq_of_perm {resources resources' : List Resource}
    (hperm : resources'.Perm resources) (hnames : (resources.map Resource.name).Nodup) :
    (resources'.mergeSort fun a b => decide (a.name ≤ b.name))
      = resources.mergeSort fun a b => decide (a.name ≤ b.name) := by
  have hnames' : (resources'.map Resource.name).Nodup :=
    (hperm.map Resource.name).nodup_iff.mpr hnames
  refine List.Perm.eq_of_pairwise ?_ (pairwise_mergeSort_name hnames')
    (pairwise_mergeSort_name hnames) ?_
  · intro a b _ _ hab hba
    exact absurd (String.lt_trans hab hba) (String.lt_irrefl _)
  · exact (List.mergeSort_perm _ _).trans (hperm.trans (List.mergeSort_perm _ _).symm)

/-! ## The main statement -/

/-- The resources of a document are the resources of the document in another order. -/
theorem resources_eq_ok_of_perm
    (hcomponents : ∀ name, doc'.component? name = doc.component? name)
    (hpaths : doc'.paths.Perm doc.paths) (huntied : doc.Untied) {resources : List Resource}
    (h : doc.resources = .ok resources) : doc'.resources = .ok resources := by
  have hshape : ∀ body, doc'.shape body = doc.shape body :=
    fun _ => shape_congr fun _ _ name _ => hcomponents name
  obtain ⟨drafts, attached, hdrafts, hcheck, hattached, rfl⟩ := resources_eq_ok_iff.mp h
  -- the drafts of the other order are the same ones, and so are the finished resources
  obtain ⟨drafts', hdrafts', hdraftsPerm⟩ :=
    List.perm_comp_forall₂ (collections_perm hpaths) hdrafts
  obtain ⟨attached', hattached', hattachedPerm⟩ := List.perm_comp_forall₂ hdraftsPerm hattached
  have hsame : attached.map Resource.name = drafts.map Resource.name :=
    (map_eq_map_of_forall₂ hattached fun _ _ hattach => (attach_eq_ok hattach).1.symm).symm
  have hnames : (drafts.map Resource.name).Nodup := (checkNames_eq_ok_iff.mp hcheck).1
  refine resources_eq_ok_iff.mpr ⟨drafts', attached', ?_, ?_, ?_, ?_⟩
  · refine hdrafts'.imp fun entry resource hdraft => ?_
    rw [← hdraft]
    unfold draft
    simp only [hshape]
  · rw [checkNames_eq_ok_iff]
    exact ⟨(hdraftsPerm.map Resource.name).nodup_iff.mpr hnames, by simp⟩
  · -- a draft is attached the same item path, because its collection is kept
    have hkept : ∀ draft ∈ drafts', doc'.attach draft = doc.attach draft := by
      intro draft hmem
      obtain ⟨entry, hentry, hdraft⟩ := exists_of_forall₂ hdrafts (hdraftsPerm.mem_iff.mp hmem)
      obtain ⟨hin, hkept⟩ := mem_collections_iff.mp hentry
      unfold attach
      rw [(standsFor_of_draft hdraft).path, itemOf_eq_of_perm hpaths huntied hin hkept]
      simp only [hshape]
    exact ((List.forall₂_and_left _ _).mpr ⟨hkept, hattached'⟩).imp
      fun draft resource ⟨heq, hattach⟩ => heq.trans hattach
  · exact (mergeSort_name_eq_of_perm hattachedPerm (hsame ▸ hnames)).symm

/-- **The order of the paths does not matter.** Documents with the same components whose paths are
the same in different orders, without a tie for the item path of a collection, either both have
resources or both have none, and the resources are the same. -/
theorem resources_eq_ok_iff_of_perm
    (hcomponents : ∀ name, doc'.component? name = doc.component? name)
    (hpaths : doc'.paths.Perm doc.paths) (huntied : doc.Untied) (resources : List Resource) :
    doc'.resources = .ok resources ↔ doc.resources = .ok resources := by
  constructor
  · exact resources_eq_ok_of_perm (fun name => (hcomponents name).symm) hpaths.symm
      (huntied.of_perm hpaths)
  · exact resources_eq_ok_of_perm hcomponents hpaths huntied

/-! ## A garden -/

/-- The path of a single plot, which can be changed. -/
def plotPath : String × PathItem := ("/plots/\x7bplot\x7d", changeableZone)

/-- The paths of a garden. A longer path below a plot comes before that of the plot. -/
def gardenPaths : Table PathItem := [
  ("/plots/\x7bplot\x7d/beds/\x7bbed\x7d", { delete := some {} }),
  ("/tools", { get := some {} }),
  plotPath,
  ("/plots", { get := some {} })]

/-- A document with some paths. -/
def gardenWith (paths : Table PathItem) : Document where
  openapi := "3.0.0"
  info := { title := "t", version := "1" }
  paths := paths

/-- The resource of tools. -/
def toolResource : Resource where
  name := "tool"
  collectionPath := "/tools"

/-- The resource of plots, before it is given its item path. -/
def plotDraft : Resource where
  name := "plot"
  collectionPath := "/plots"

/-- The resource of plots, which are changed. -/
def plotResource : Resource :=
  { plotDraft with itemPath := "/plots/\x7bplot\x7d", update := some [nameField] }

theorem gardenWith_resources :
    (gardenWith gardenPaths).resources = .ok [plotResource, toolResource] := by
  refine resources_eq_ok_iff.mpr ⟨[toolResource, plotDraft], [toolResource, plotResource],
    mapM_eq_ok_iff.mp rfl, rfl, mapM_eq_ok_iff.mp rfl, ?_⟩
  simp [List.mergeSort, plotResource, plotDraft, toolResource]

/-- Of the two item paths, which have one prefix, that of a plot has the fewest segments. -/
theorem gardenWith_fewest {collection : String} {entry : String × PathItem}
    (hcollection : '\x7b' ∉ collection.toList)
    (h : (gardenWith gardenPaths).Fewest collection entry) : entry = plotPath := by
  obtain ⟨hmem, ⟨-, hof⟩, hleast⟩ := h
  simp only [gardenWith, gardenPaths, List.mem_cons, List.not_mem_nil, or_false] at hmem
  rcases hmem with rfl | rfl | rfl | rfl
  · have hprefix := ((itemPathOf_iff hcollection).mpr hof).2
    have hplot : ItemPathOf collection plotPath.1 :=
      (itemPathOf_iff hcollection).mp ⟨by decide, .trans (by decide) hprefix⟩
    have hfewer := hleast plotPath (by simp [gardenWith, gardenPaths]) ⟨by decide, hplot⟩
    exact absurd hfewer (by decide)
  · exact absurd hof.placeholder_mem (by decide)
  · rfl
  · exact absurd hof.placeholder_mem (by decide)

theorem gardenWith_untied : (gardenWith gardenPaths).Untied := by
  intro collection _ hkept entry other hentry hother
  rw [gardenWith_fewest hkept.2.1 hentry, gardenWith_fewest hkept.2.1 hother]

/-- The garden has the same resources if its paths are reversed. -/
theorem gardenWith_reverse :
    (gardenWith gardenPaths).resources = .ok [plotResource, toolResource] ∧
      (gardenWith gardenPaths).Untied ∧
      (gardenWith gardenPaths.reverse).resources = .ok [plotResource, toolResource] := by
  have hperm : (gardenWith gardenPaths.reverse).paths.Perm (gardenWith gardenPaths).paths :=
    List.reverse_perm gardenPaths
  have hcomponents : ∀ name, (gardenWith gardenPaths.reverse).component? name
      = (gardenWith gardenPaths).component? name := fun _ => rfl
  exact ⟨gardenWith_resources, gardenWith_untied,
    (resources_eq_ok_iff_of_perm hcomponents hperm gardenWith_untied _).mpr gardenWith_resources⟩

end Document

end ProviderGen
