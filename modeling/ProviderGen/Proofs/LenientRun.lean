/-
Strict and lenient runs.

Both runs take the resources in order and ask for the files of each. The strict one stops at the
first resource that has none, the lenient one goes on and keeps its failure. A resource has either
all of its files or none: its files are the results of one `mapM` over the kinds, so a template
that fails late takes the earlier files of the resource with it. The two runs are told apart by
what they do with the list of outcomes, and that is one induction over the resources for each.
-/
import ProviderGen.Proofs.BuiltinTemplates

set_option autoImplicit false

namespace ProviderGen

variable {renderer : Renderer} {config : Config}

/-! ## One resource -/

/-- What a file of a resource holds is what its template is rendered to. -/
theorem contents_of_generate {r : Resource} {files : List GeneratedFile}
    (h : generate renderer config r = .ok files) {file : GeneratedFile} (hfile : file ∈ files) :
    renderer file.artifact.template (r.context config) = .ok file.contents := by
  obtain ⟨artifact, -, hplace, hcontents⟩ := exists_of_forall₂ (generate_eq_ok_iff.mp h) hfile
  have hkind : artifact = file.artifact := congrArg Prod.fst hplace
  rwa [hkind] at hcontents

/-! ## Lenient runs -/

/-- Whether a resource has files. -/
def Resource.isGenerated (renderer : Renderer) (config : Config) (r : Resource) : Bool :=
  (generate renderer config r).isOk

section Lenient

variable {r : Resource} {rest : List Resource}

theorem Resource.isGenerated_of_ok {files : List GeneratedFile}
    (h : generate renderer config r = .ok files) : r.isGenerated renderer config = true := by
  rw [isGenerated, h]
  rfl

theorem Resource.isGenerated_of_error {failure : Failure}
    (h : generate renderer config r = .error failure) :
    r.isGenerated renderer config = false := by
  rw [isGenerated, h]
  rfl

theorem Resource.isGenerated_iff :
    r.isGenerated renderer config = true ↔ ∃ files, generate renderer config r = .ok files := by
  cases h : generate renderer config r with
  | ok files => simp [isGenerated_of_ok h]
  | error failure => simp [isGenerated_of_error h]

theorem generateLenient_cons_ok {files : List GeneratedFile}
    (h : generate renderer config r = .ok files) :
    generateLenient renderer config (r :: rest) =
      { generateLenient renderer config rest with
        files := files ++ (generateLenient renderer config rest).files } := by
  rw [generateLenient, h]

theorem generateLenient_cons_error {failure : Failure}
    (h : generate renderer config r = .error failure) :
    generateLenient renderer config (r :: rest) =
      { generateLenient renderer config rest with
        failures := (r.name, failure) :: (generateLenient renderer config rest).failures } := by
  rw [generateLenient, h]

end Lenient

/-- The files of a lenient run are those of the resources that have files, in order. -/
theorem exists_files_generateLenient (renderer : Renderer) (config : Config)
    (resources : List Resource) :
    ∃ groups, List.Forall₂ (fun r group => generate renderer config r = .ok group)
        (resources.filter (Resource.isGenerated renderer config)) groups ∧
      (generateLenient renderer config resources).files = groups.flatten := by
  induction resources with
  | nil => exact ⟨[], .nil, rfl⟩
  | cons r rest ih =>
    obtain ⟨groups, hgroups, hfiles⟩ := ih
    cases h : generate renderer config r with
    | ok files =>
      refine ⟨files :: groups, ?_, ?_⟩
      · rw [List.filter_cons_of_pos (Resource.isGenerated_of_ok h)]
        exact .cons h hgroups
      · rw [generateLenient_cons_ok h, List.flatten_cons, ← hfiles]
    | error failure =>
      refine ⟨groups, ?_, ?_⟩
      · rw [List.filter_cons_of_neg (by simp [Resource.isGenerated_of_error h])]
        exact hgroups
      · rw [generateLenient_cons_error h, ← hfiles]

/-- The failures of a lenient run are those of the other resources, each once and in order. -/
theorem failures_generateLenient (renderer : Renderer) (config : Config)
    (resources : List Resource) :
    List.Forall₂
      (fun r entry => entry.1 = r.name ∧ generate renderer config r = .error entry.2)
      (resources.filter fun r => !r.isGenerated renderer config)
      (generateLenient renderer config resources).failures := by
  induction resources with
  | nil => exact .nil
  | cons r rest ih =>
    cases h : generate renderer config r with
    | ok files =>
      rw [generateLenient_cons_ok h,
        List.filter_cons_of_neg (by simp [Resource.isGenerated_of_ok h])]
      exact ih
    | error failure =>
      rw [generateLenient_cons_error h,
        List.filter_cons_of_pos (by simp [Resource.isGenerated_of_error h])]
      exact .cons ⟨rfl, h⟩ ih

/-- A lenient run reports no failure if every resource has files. -/
theorem failures_generateLenient_eq_nil_iff {resources : List Resource} :
    (generateLenient renderer config resources).failures = [] ↔
      ∀ r ∈ resources, r.isGenerated renderer config = true := by
  have hlength := (failures_generateLenient renderer config resources).length_eq
  rw [← List.length_eq_zero_iff, ← hlength, List.length_eq_zero_iff, List.filter_eq_nil_iff]
  simp only [Bool.not_eq_true', Bool.not_eq_false]

/-! ## Strict runs -/

theorem generateAll_eq_mapM (resources : List Resource) :
    generateAll renderer config resources =
      List.flatten <$> resources.mapM (generate renderer config) := by
  induction resources with
  | nil => rfl
  | cons r rest ih =>
    rw [generateAll, ih, List.mapM_cons]
    cases generate renderer config r with
    | error failure => rfl
    | ok files =>
      cases rest.mapM (generate renderer config) with
      | error failure => rfl
      | ok groups => rfl

/-- A strict run fails as the first resource does that has no files. -/
theorem generateAll_eq_error_iff {resources : List Resource} {failure : Failure} :
    generateAll renderer config resources = .error failure ↔
      ∃ before r after, resources = before ++ r :: after ∧
        (∀ earlier ∈ before, ∃ files, generate renderer config earlier = .ok files) ∧
        generate renderer config r = .error failure := by
  rw [← mapM_eq_error_iff, generateAll_eq_mapM]
  cases resources.mapM (generate renderer config) with
  | error other => simp
  | ok groups => simp

/-- A strict run has files if no resource fails, and then it has those of the lenient run. -/
theorem generateAll_eq_ok_iff_lenient {resources : List Resource} {files : List GeneratedFile} :
    generateAll renderer config resources = .ok files ↔
      (generateLenient renderer config resources).failures = [] ∧
        (generateLenient renderer config resources).files = files := by
  obtain ⟨groups, hgroups, hfiles⟩ := exists_files_generateLenient renderer config resources
  have hsame : (∀ r ∈ resources, r.isGenerated renderer config = true) →
      List.Forall₂ (fun r group => generate renderer config r = .ok group) resources groups := by
    intro hall
    rwa [List.filter_eq_self.mpr hall] at hgroups
  rw [failures_generateLenient_eq_nil_iff, hfiles]
  constructor
  · intro h
    obtain ⟨groups', hgroups', rfl⟩ := generateAll_eq_ok_iff.mp h
    have hmapM := mapM_eq_ok_iff.mpr hgroups'
    have hall : ∀ r ∈ resources, r.isGenerated renderer config = true := fun r hr =>
      Resource.isGenerated_iff.mpr (exists_mapM_ok_iff.mp ⟨groups', hmapM⟩ r hr)
    rw [mapM_eq_ok_iff.mpr (hsame hall), Except.ok.injEq] at hmapM
    exact ⟨hall, congrArg List.flatten hmapM⟩
  · rintro ⟨hall, rfl⟩
    exact generateAll_eq_ok_iff.mpr ⟨groups, hsame hall, rfl⟩

/-- The first failure of a lenient run is that of the strict one, under the name of the resource
that fails first. -/
theorem head?_failures_of_generateAll {resources : List Resource} {failure : Failure}
    (h : generateAll renderer config resources = .error failure) :
    ∃ before r after, resources = before ++ r :: after ∧
      (∀ earlier ∈ before, ∃ files, generate renderer config earlier = .ok files) ∧
      generate renderer config r = .error failure ∧
      (generateLenient renderer config resources).failures.head? = some (r.name, failure) := by
  obtain ⟨before, r, after, rfl, hbefore, hr⟩ := generateAll_eq_error_iff.mp h
  refine ⟨before, r, after, rfl, hbefore, hr, ?_⟩
  have hskipped : before.filter (fun r => !r.isGenerated renderer config) = [] := by
    refine List.filter_eq_nil_iff.mpr fun earlier hearlier => ?_
    simp [Resource.isGenerated_iff.mpr (hbefore earlier hearlier)]
  have hfailures := failures_generateLenient renderer config (before ++ r :: after)
  rw [List.filter_append, hskipped, List.nil_append,
    List.filter_cons_of_pos (by simp [Resource.isGenerated_of_error hr]),
    List.forall₂_cons_left_iff] at hfailures
  obtain ⟨entry, entries, ⟨hname, hentry⟩, -, hsplit⟩ := hfailures
  have hfailure : entry.2 = failure := Except.error.inj (hentry.symm.trans hr)
  rw [hsplit, List.head?_cons, ← hname, ← hfailure]

/-! ## The two runs -/

/-- **Strict and lenient runs agree**, whatever the renderer does. The strict run has files just if
the lenient one reports no failure, and they are the same files; if it fails, it fails as the first
resource without files does, and that is the first failure reported. The files of the lenient run
are those of the resources that have files, the failures those of all others, each in order. A
resource has files if all its templates are rendered, and then one of each kind, so one that fails
late leaves none. -/
theorem generateAll_generateLenient (renderer : Renderer) (config : Config)
    (resources : List Resource) :
    (∀ files, generateAll renderer config resources = .ok files ↔
      (generateLenient renderer config resources).failures = [] ∧
        (generateLenient renderer config resources).files = files) ∧
    (∀ failure, generateAll renderer config resources = .error failure →
      ∃ before r after, resources = before ++ r :: after ∧
        (∀ earlier ∈ before, ∃ files, generate renderer config earlier = .ok files) ∧
        generate renderer config r = .error failure ∧
        (generateLenient renderer config resources).failures.head? = some (r.name, failure)) ∧
    (∃ groups, List.Forall₂ (fun r group => generate renderer config r = .ok group)
        (resources.filter (Resource.isGenerated renderer config)) groups ∧
      (generateLenient renderer config resources).files = groups.flatten) ∧
    List.Forall₂
      (fun r entry => entry.1 = r.name ∧ generate renderer config r = .error entry.2)
      (resources.filter fun r => !r.isGenerated renderer config)
      (generateLenient renderer config resources).failures ∧
    ∀ r : Resource,
      (r.isGenerated renderer config = true ↔
        ∀ artifact : Artifact, ∃ text,
          renderer artifact.template (r.context config) = .ok text) ∧
      ∀ files, generate renderer config r = .ok files →
        files.map GeneratedFile.place = r.places ∧
          ∀ file ∈ files,
            renderer file.artifact.template (r.context config) = .ok file.contents := by
  refine ⟨fun files => generateAll_eq_ok_iff_lenient,
    fun failure => head?_failures_of_generateAll,
    exists_files_generateLenient renderer config resources,
    failures_generateLenient renderer config resources, fun r => ⟨?_, fun files hfiles => ?_⟩⟩
  · rw [Resource.isGenerated_iff, exists_generate_iff]
  · exact ⟨places_of_generate hfiles, fun file hfile => contents_of_generate hfiles hfile⟩

end ProviderGen
