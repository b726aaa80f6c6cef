/-
The names that generated files declare in their package.

For every resource six names are declared: its title with one of four endings, and two of these
once more behind `New`. No ending is the end of another, so a declared name tells its ending and
what stands before it. Two names of a resource are therefore never the same; and names of two
resources are the same just if both have one title, or if the title of one is that of the other
behind `New`. Neither is checked: the resources of a document have distinct names, but a title
forgets where the words of its name began. If every word of the names begins with a small letter,
all titles are distinct, and what is left are a resource and another one that is called after it
with `new_` in front.
-/
import ProviderGen.Generation.Context
import ProviderGen.Proofs.Levels
import ProviderGen.Proofs.Reading
import ProviderGen.Proofs.Spelling
import ProviderGen.Template.Render
import Mathlib.Data.List.Pairwise

set_option autoImplicit false

namespace ProviderGen

/-! ## Declared names -/

/-- The names under which templates know what is declared for a resource. -/
def packageKeys : List String :=
  ["struct_name", "constructor", "model_name", "data_source_struct_name",
    "data_source_constructor", "data_source_model_name"]

/-- How the declared names end. -/
def packageEndings : List String := ["Resource", "ResourceModel", "DataSource", "DataSourceModel"]

namespace Resource

/-- What is declared for a resource: the texts that templates show under the names. -/
def packageNames (config : Config) (r : Resource) : List String :=
  packageKeys.map fun key => (((r.context config).lookup key).getD .null).shown

/-- What stands before the ending of each declared name, and the ending. -/
def packageStems (r : Resource) : List (String × String) :=
  [(r.title, "Resource"), ("New" ++ r.title, "Resource"), (r.title, "ResourceModel"),
    (r.title, "DataSource"), ("New" ++ r.title, "DataSource"), (r.title, "DataSourceModel")]

theorem packageNames_eq (config : Config) (r : Resource) :
    r.packageNames config = r.packageStems.map fun stem => stem.1 ++ stem.2 := by
  rfl

theorem ending_mem {r : Resource} : ∀ stem ∈ r.packageStems, stem.2 ∈ packageEndings := by
  simp [packageStems, packageEndings]

end Resource

/-! ## Telling names apart -/

/-- No ending is the end of another. -/
theorem packageEndings_suffix :
    ∀ x ∈ packageEndings, ∀ y ∈ packageEndings, x.toList <:+ y.toList → x = y := by
  decide

/-- A declared name tells its ending and what stands before it. -/
theorem append_ending_inj {a b x y : String} (hx : x ∈ packageEndings) (hy : y ∈ packageEndings)
    (h : a ++ x = b ++ y) : a = b ∧ x = y := by
  have hlist : a.toList ++ x.toList = b.toList ++ y.toList := by
    rw [← String.toList_append, ← String.toList_append, h]
  have hxs : x.toList <:+ a.toList ++ x.toList := List.suffix_append ..
  have hys : y.toList <:+ a.toList ++ x.toList := hlist ▸ List.suffix_append ..
  have hsame : x = y := by
    rcases List.suffix_or_suffix_of_suffix hxs hys with hle | hle
    · exact packageEndings_suffix x hx y hy hle
    · exact (packageEndings_suffix y hy x hx hle).symm
  subst hsame
  exact ⟨String.toList_inj.mp (List.append_cancel_right hlist), rfl⟩

theorem new_append_inj {a b : String} : "New" ++ a = "New" ++ b ↔ a = b := by
  rw [← String.toList_inj, String.toList_append, String.toList_append, List.append_right_inj,
    String.toList_inj]

/-- Nothing is itself behind a word. -/
theorem ne_new_append (a : String) : a ≠ "New" ++ a := by
  intro h
  have hlength := congrArg (fun s : String => s.toList.length) h
  simp only [String.toList_append, List.length_append] at hlength
  have : "New".toList.length = 3 := by decide
  omega

namespace Resource

theorem packageStems_nodup (r : Resource) : r.packageStems.Nodup := by
  have hne := ne_new_append r.title
  simp [packageStems, hne, Ne.symm hne]

/-- A stem is the title with any ending, or the title behind `New` with one that a constructor
has. -/
theorem mem_packageStems_iff {r : Resource} {stem : String × String} :
    stem ∈ r.packageStems ↔
      stem.1 = r.title ∧ stem.2 ∈ packageEndings ∨
        stem.1 = "New" ++ r.title ∧ stem.2 ∈ ["Resource", "DataSource"] := by
  obtain ⟨front, ending⟩ := stem
  simp only [packageStems, packageEndings, List.mem_cons, List.not_mem_nil, Prod.mk.injEq]
  grind

/-- Names of two resources are different unless one title is the other, or the other behind
`New`. -/
theorem disjoint_packageStems_iff {r s : Resource} :
    r.packageStems.Disjoint s.packageStems ↔
      r.title ≠ s.title ∧ r.title ≠ "New" ++ s.title ∧ s.title ≠ "New" ++ r.title := by
  simp only [List.disjoint_left, mem_packageStems_iff]
  constructor
  · intro h
    have hending : "Resource" ∈ packageEndings := by decide
    have hconstructor : "Resource" ∈ ["Resource", "DataSource"] := by decide
    refine ⟨fun hsame => ?_, fun hsame => ?_, fun hsame => ?_⟩
    · exact h (a := (r.title, "Resource")) (Or.inl ⟨rfl, hending⟩) (Or.inl ⟨hsame, hending⟩)
    · exact h (a := (r.title, "Resource")) (Or.inl ⟨rfl, hending⟩) (Or.inr ⟨hsame, hconstructor⟩)
    · exact h (a := (s.title, "Resource")) (Or.inr ⟨hsame, hconstructor⟩) (Or.inl ⟨rfl, hending⟩)
  · rintro ⟨hne, hnew, hnew'⟩ stem (⟨hr, -⟩ | ⟨hr, -⟩) (⟨hs, -⟩ | ⟨hs, -⟩)
    · exact hne (hr.symm.trans hs)
    · exact hnew (hr.symm.trans hs)
    · exact hnew' (hs.symm.trans hr)
    · exact hne (new_append_inj.mp (hr.symm.trans hs))

/-- All declared names are distinct if all stems are. -/
theorem packageNames_nodup_iff_stems (config : Config) (resources : List Resource) :
    (resources.flatMap (packageNames config)).Nodup ↔ (resources.flatMap packageStems).Nodup := by
  have hmap : resources.flatMap (packageNames config) =
      (resources.flatMap packageStems).map fun stem => stem.1 ++ stem.2 := by
    rw [List.map_flatMap]
    exact List.flatMap_congr fun r _ => r.packageNames_eq config
  have hending : ∀ stem ∈ resources.flatMap packageStems, stem.2 ∈ packageEndings := by
    intro stem hstem
    obtain ⟨r, -, hr⟩ := List.mem_flatMap.mp hstem
    exact ending_mem stem hr
  rw [hmap]
  refine ⟨List.Nodup.of_map _, List.Nodup.map_on fun a ha b hb h => ?_⟩
  obtain ⟨hstem, hsame⟩ := append_ending_inj (hending a ha) (hending b hb) h
  exact Prod.ext hstem hsame

/-- The names of a package are distinct if the titles are and none is another behind `New`. -/
theorem packageNames_nodup_iff_titles (config : Config) (resources : List Resource) :
    (resources.flatMap (packageNames config)).Nodup ↔
      (resources.map title).Nodup ∧
        ∀ r ∈ resources, ∀ s ∈ resources, r.title ≠ "New" ++ s.title := by
  rw [packageNames_nodup_iff_stems, List.nodup_flatMap,
    and_iff_right fun r _ => r.packageStems_nodup]
  have hpairs : resources.Pairwise (Function.onFun List.Disjoint packageStems) ↔
      resources.Pairwise (fun r s => r.title ≠ s.title) ∧
        resources.Pairwise fun r s => r.title ≠ "New" ++ s.title ∧ s.title ≠ "New" ++ r.title := by
    rw [← List.pairwise_and_iff]
    exact List.Pairwise.iff fun _ _ => disjoint_packageStems_iff
  rw [hpairs, List.Nodup, List.pairwise_map]
  refine and_congr_right fun _ => ⟨fun h r hr s hs => ?_, fun h => ?_⟩
  · -- of two resources one comes first, and a resource is not called after itself
    have hsymm : Std.Symm fun r s : Resource =>
        r.title ≠ "New" ++ s.title ∧ s.title ≠ "New" ++ r.title := ⟨fun _ _ h => ⟨h.2, h.1⟩⟩
    exact (h.forall_of_forall (fun r _ => ⟨ne_new_append _, ne_new_append _⟩) hr hs).1
  · exact List.pairwise_of_forall_mem_list fun r hr s hs => ⟨h r hr s hs, h s hs r hr⟩

end Resource

/-! ## Resources of a document -/

/-- **Declared names are distinct exactly if titles are**, and none is another behind `New`; and if
all words of the names of resources begin with a small letter, exactly if no resource is called
after another one with `new_` in front. -/
theorem packageNames_nodup_iff {bytes : ByteArray} {resources : List Resource}
    (h : parseDocument bytes = .ok resources) (config : Config) :
    ((resources.flatMap (Resource.packageNames config)).Nodup ↔
        (resources.map Resource.title).Nodup ∧
          ∀ r ∈ resources, ∀ s ∈ resources, r.title ≠ "New" ++ s.title) ∧
      ((∀ r ∈ resources, Naming.worded r.name = true) →
        ((resources.flatMap (Resource.packageNames config)).Nodup ↔
          ∀ r ∈ resources, ∀ s ∈ resources, r.name ≠ "new_" ++ s.name)) := by
  have htitles := Resource.packageNames_nodup_iff_titles config resources
  refine ⟨htitles, fun hworded => ?_⟩
  obtain ⟨hnames, hresource⟩ := names_of_parseDocument h
  have hcapitals : ∀ r ∈ resources, ∀ c ∈ r.name.toList, Text.isAsciiUpper c = false := by
    intro r hr
    rw [hresource r hr]
    exact Naming.forall_mem_resourceName_isAsciiUpper r.collectionPath
  have hnodup : (resources.map Resource.title).Nodup := by
    have hinj : (resources.map Resource.name).map Naming.pascal = resources.map Resource.title := by
      rw [List.map_map]
      rfl
    rw [← hinj]
    refine List.Nodup.map_on ?_ hnames
    simp only [List.forall_mem_map]
    intro r hr s hs
    exact (Naming.pascal_inj (hworded r hr) (hworded s hs) (hcapitals r hr) (hcapitals s hs)).mp
  rw [htitles, and_iff_right hnodup]
  refine forall₂_congr fun r hr => forall₂_congr fun s hs => not_congr ?_
  have hnew : ∀ c ∈ ("new_" ++ s.name).toList, Text.isAsciiUpper c = false := by
    rw [String.toList_append, List.forall_mem_append]
    exact ⟨by decide, hcapitals s hs⟩
  rw [Resource.title, Resource.title, ← Naming.pascal_new]
  exact Naming.pascal_inj (hworded r hr) ((Naming.worded_new s.name).trans (hworded s hs))
    (hcapitals r hr) hnew

/-! ## Two documents -/

/-- A document with two paths whose names have different titles. -/
def shopLines : List String :=
  documentLines ["\"/pets\":\x7b\x7d,", "\"/petOwners\":\x7b\x7d"]

theorem shopLines_names :
    (resourcesOfJson (shopLines.flatMap String.toList)).map (List.map Resource.name) =
      some ["pet", "pet_owner"] := by
  decide +kernel

/-- All names declared for pets and their owners are different. -/
theorem shopLines_packageNames :
    ∃ resources, parseDocument (String.join shopLines).toUTF8 = .ok resources ∧
      resources.map Resource.name = ["pet", "pet_owner"] ∧
      (resources.flatMap (Resource.packageNames {})).Nodup := by
  obtain ⟨resources, hparse, hnames⟩ := exists_parseDocument shopLines_names
  have hworded : ∀ name ∈ resources.map Resource.name, Naming.worded name = true := by
    rw [hnames]
    decide
  have hnew : ∀ a ∈ resources.map Resource.name, ∀ b ∈ resources.map Resource.name,
      a ≠ "new_" ++ b := by
    rw [hnames]
    decide
  refine ⟨resources, hparse, hnames, ((packageNames_nodup_iff hparse {}).2 ?_).mpr ?_⟩
  · exact fun r hr => hworded r.name (List.mem_map_of_mem hr)
  · exact fun r hr s hs => hnew r.name (List.mem_map_of_mem hr) s.name (List.mem_map_of_mem hs)

/-- A document with two paths whose names have one title. -/
def accountLines : List String :=
  documentLines ["\"/user1\":\x7b\x7d,", "\"/user_1\":\x7b\x7d"]

theorem accountLines_names :
    (resourcesOfJson (accountLines.flatMap String.toList)).map (List.map Resource.name) =
      some ["user1", "user_1"] := by
  decide +kernel

/-- Both resources are declared under one title. -/
theorem accountLines_not_packageNames :
    ∃ resources, parseDocument (String.join accountLines).toUTF8 = .ok resources ∧
      resources.map Resource.title = ["User1", "User1"] ∧
      ¬ (resources.flatMap (Resource.packageNames {})).Nodup := by
  obtain ⟨resources, hparse, hnames⟩ := exists_parseDocument accountLines_names
  have htitles : resources.map Resource.title = ["User1", "User1"] := by
    have hpascal : resources.map Resource.title = (resources.map Resource.name).map Naming.pascal :=
      (List.map_map ..).symm
    rw [hpascal, hnames]
    decide
  refine ⟨resources, hparse, htitles, fun hnodup => ?_⟩
  have htitlesNodup := ((Resource.packageNames_nodup_iff_titles {} resources).mp hnodup).1
  rw [htitles] at htitlesNodup
  exact absurd htitlesNodup (by decide)

end ProviderGen
