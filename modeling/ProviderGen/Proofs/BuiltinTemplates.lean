/-
The built-in templates never fail.

The context of a resource has the same names for every resource, and the value of each name is of
one type. The built-in templates pass the check against these types, so each of them is rendered
for every resource and all settings. A run with them therefore has all four files of every
resource.
-/
import ProviderGen.Proofs.Results
import ProviderGen.Proofs.TemplateTypes
import ProviderGen.Template.Collection

set_option autoImplicit false

namespace ProviderGen

/-! ## Types of contexts -/

/-- The type of a record, as far as templates use it. -/
def recordType : ValueType :=
  .record
    [("name", .text), ("source_name", .text), ("identifier", .text), ("model_type", .text),
     ("declaration", .text), ("data_source_declaration", .text), ("kind", .text),
     ("doc_type", .text), ("section", .text), ("required", .flag), ("read_only", .flag),
     ("description", .any), ("enum_values", .list .text), ("nested", .list .any)]

/-- The type of a block. -/
def blockType : ValueType := .record [("path", .text), ("fields", .list recordType)]

/-- The names of a context, with the types of their values. -/
def contextTypes : List (String × ValueType) :=
  [("provider_name", .text), ("package_name", .text), ("resource_name", .text),
   ("original_name", .text), ("type_name", .text), ("title", .text), ("struct_name", .text),
   ("constructor", .text), ("model_name", .text), ("data_source_struct_name", .text),
   ("data_source_constructor", .text), ("data_source_model_name", .text),
   ("collection_path", .text), ("item_path", .text), ("has_item_path", .flag),
   ("has_update", .flag), ("has_delete", .flag), ("id_is_string", .flag),
   ("validator_imports", .list .text), ("nested_blocks", .list blockType),
   ("fields", .list recordType)]

theorem Record.encodeAll_eq (records : List Record) :
    Record.encodeAll records = records.map Record.encode := by
  induction records with
  | nil => rfl
  | cons record rest ih => rw [Record.encodeAll, ih, List.map_cons]

theorem holds_strings (items : List String) : (ValueType.list .text).Holds (.strings items) :=
  ValueType.holds_list_map fun s _ => ValueType.holds_text s

theorem Record.holds_encode (record : Record) : recordType.Holds record.encode := by
  obtain ⟨_, _, _, _, _, _, _, _, _, _, _, _, values, nested⟩ := record
  have hvalues := holds_strings values
  have hnested : (ValueType.list .any).Holds (.array (Record.encodeAll nested)) :=
    ⟨_, rfl, fun v _ => ValueType.holds_any v⟩
  refine ⟨_, rfl, ?_⟩
  simp [ValueType.HoldAll, hvalues, hnested]

theorem holds_encodeRecords (records : List Record) :
    (ValueType.list recordType).Holds (encodeRecords records) := by
  rw [encodeRecords, Record.encodeAll_eq]
  exact ValueType.holds_list_map fun record _ => record.holds_encode

theorem Block.holds_encode (block : Block) : blockType.Holds block.encode :=
  ⟨_, rfl, rfl, ValueType.holds_text _, rfl, holds_encodeRecords _, trivial⟩

theorem contextTypes_holdAll (config : Config) (r : Resource) :
    ValueType.HoldAll contextTypes (r.context config) := by
  have himports := holds_strings (validatorImports r.attributes)
  have hblocks : (ValueType.list blockType).Holds
      (.array ((blocksOf r.records).map Block.encode)) :=
    ValueType.holds_list_map fun block _ => block.holds_encode
  have hfields := holds_encodeRecords r.records
  simp [contextTypes, Resource.context, ValueType.HoldAll, himports, hblocks, hfields]

/-! ## The built-in templates -/

/-- The scope in which a template of a resource is rendered. -/
def Resource.scope (config : Config) (r : Resource) : Scope :=
  [{}, { bindings := r.context config }]

/-- The types of that scope. -/
def rootTypes : ScopeType := [{}, { bindings := contextTypes }]

theorem rootTypes_holds (config : Config) (r : Resource) : rootTypes.Holds (r.scope config) :=
  .cons ⟨trivial, .none⟩ (.cons ⟨contextTypes_holdAll config r, .none⟩ .nil)

theorem afterAll?_builtin :
    ∀ artifact : Artifact, (Part.afterAll? artifact.builtin rootTypes).isSome = true := by
  rintro (_ | _ | _ | _) <;> decide +kernel

theorem Templates.render_builtin (artifact : Artifact) (context : Context) :
    Templates.builtin.render artifact.template context =
      artifact.builtin.render artifact.template context := by
  have hlookup : Templates.builtin.lookup artifact.template = some artifact.builtin := by
    cases artifact <;> simp [Templates.builtin, Artifact.all, Artifact.template, List.lookup_cons]
  rw [Templates.render, hlookup]

/-- **The built-in templates never fail**, whatever the resource and the settings are. -/
theorem Templates.exists_render_builtin (artifact : Artifact) (config : Config) (r : Resource) :
    ∃ text, Templates.builtin.render artifact.template (r.context config) = .ok text := by
  obtain ⟨after, hafter⟩ := Option.isSome_iff_exists.mp (afterAll?_builtin artifact)
  obtain ⟨text, scope', htext, -⟩ :=
    Part.exists_renderAll artifact.builtin (rootTypes_holds config r) hafter
  refine ⟨text, ?_⟩
  rw [Resource.scope] at htext
  rw [Templates.render_builtin, Template.render, htext]

/-! ## Generated files -/

section Files

variable {renderer : Renderer} {config : Config} {r : Resource} {files : List GeneratedFile}

/-- The kind of a file and the place where it goes. -/
def GeneratedFile.place (file : GeneratedFile) : Artifact × String := (file.artifact, file.path)

/-- The kinds and the places of the files of a resource. -/
def Resource.places (r : Resource) : List (Artifact × String) :=
  [(.resource, Artifact.resource.path r.name), (.dataSource, Artifact.dataSource.path r.name),
   (.resourcePage, Artifact.resourcePage.path r.name),
   (.dataSourcePage, Artifact.dataSourcePage.path r.name)]

theorem renderFile_eq_ok_iff {name : String} {context : Context} {artifact : Artifact}
    {file : GeneratedFile} :
    renderFile renderer name context artifact = .ok file ↔
      (artifact, artifact.path name) = file.place ∧
        renderer artifact.template context = .ok file.contents := by
  obtain ⟨kind, path, contents⟩ := file
  rw [renderFile]
  cases hrender : renderer artifact.template context with
  | error reasons => simp
  | ok text => simp [GeneratedFile.place, and_assoc]

/-- The files of a resource are what its templates are rendered to, in order. -/
theorem generate_eq_ok_iff :
    generate renderer config r = .ok files ↔
      List.Forall₂ (fun artifact file => (artifact, artifact.path r.name) = file.place ∧
        renderer artifact.template (r.context config) = .ok file.contents) Artifact.all files := by
  simp only [generate, mapM_eq_ok_iff, renderFile_eq_ok_iff]

theorem places_of_generate (h : generate renderer config r = .ok files) :
    files.map GeneratedFile.place = r.places :=
  (map_eq_map_of_forall₂ (generate_eq_ok_iff.mp h) fun _ _ hfile => hfile.1).symm

/-- The places of a whole run are those of each resource, group by group. -/
theorem places_of_groups {resources : List Resource} {groups : List (List GeneratedFile)}
    (h : List.Forall₂ (fun r group => generate renderer config r = .ok group) resources groups) :
    groups.flatten.map GeneratedFile.place = resources.flatMap Resource.places := by
  rw [List.map_flatten, List.flatMap_def]
  exact congrArg List.flatten
    (map_eq_map_of_forall₂ h fun r group hgroup => (places_of_generate hgroup).symm).symm

/-- A resource has files if each of its templates can be rendered. -/
theorem exists_generate_iff :
    (∃ files, generate renderer config r = .ok files) ↔
      ∀ artifact : Artifact, ∃ text, renderer artifact.template (r.context config) = .ok text := by
  have hall : ∀ artifact : Artifact, artifact ∈ Artifact.all := by
    rintro (_ | _ | _ | _) <;> decide
  simp only [generate, exists_mapM_ok_iff, renderFile_eq_ok_iff]
  constructor
  · intro h artifact
    obtain ⟨file, -, hfile⟩ := h artifact (hall artifact)
    exact ⟨file.contents, hfile⟩
  · intro h artifact _
    obtain ⟨contents, hcontents⟩ := h artifact
    exact ⟨{ artifact, path := artifact.path r.name, contents }, rfl, hcontents⟩

/-- A run has the files of its resources, one resource after the other. -/
theorem generateAll_eq_ok_iff {resources : List Resource} :
    generateAll renderer config resources = .ok files ↔
      ∃ groups, List.Forall₂ (fun r group => generate renderer config r = .ok group)
        resources groups ∧ files = groups.flatten := by
  induction resources generalizing files with
  | nil => simp [generateAll, eq_comm]
  | cons r rest ih =>
    simp only [generateAll, bind_eq_ok_iff, pure_eq_ok_iff, ih, List.forall₂_cons_left_iff]
    constructor
    · rintro ⟨group, hgroup, _, ⟨groups, hgroups, rfl⟩, rfl⟩
      exact ⟨group :: groups, ⟨group, groups, hgroup, hgroups, rfl⟩, rfl⟩
    · rintro ⟨_, ⟨group, groups, hgroup, hgroups, rfl⟩, rfl⟩
      exact ⟨group, hgroup, groups.flatten, ⟨groups, hgroups, rfl⟩, rfl⟩

end Files

theorem exists_generate_builtin (config : Config) (r : Resource) :
    ∃ files, generate Templates.builtin.render config r = .ok files :=
  exists_generate_iff.mpr fun artifact => Templates.exists_render_builtin artifact config r

/-- A run with the built-in templates has the files of all its resources, at their places. -/
theorem exists_generateAll_builtin (config : Config) (resources : List Resource) :
    ∃ files, generateAll Templates.builtin.render config resources = .ok files ∧
      files.map GeneratedFile.place = resources.flatMap Resource.places := by
  obtain ⟨groups, hgroups⟩ : ∃ groups,
      resources.mapM (generate Templates.builtin.render config) = .ok groups :=
    exists_mapM_ok_iff.mpr fun r _ => exists_generate_builtin config r
  have hgroups := mapM_eq_ok_iff.mp hgroups
  exact ⟨groups.flatten, generateAll_eq_ok_iff.mpr ⟨groups, hgroups, rfl⟩, places_of_groups hgroups⟩

/-- **Generation with the built-in templates never fails**: every resource has exactly its four
files, in order and each at its place, and so a run over any resources has the files of all of
them. -/
theorem generate_builtin (config : Config) :
    (∀ r : Resource, ∃ files, generate Templates.builtin.render config r = .ok files ∧
      files.map GeneratedFile.place = r.places) ∧
    ∀ resources : List Resource, ∃ files,
      generateAll Templates.builtin.render config resources = .ok files ∧
        files.map GeneratedFile.place = resources.flatMap Resource.places := by
  refine ⟨fun r => ?_, exists_generateAll_builtin config⟩
  obtain ⟨files, hfiles⟩ := exists_generate_builtin config r
  exact ⟨files, hfiles, places_of_generate hfiles⟩

end ProviderGen
