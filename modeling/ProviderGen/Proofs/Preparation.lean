/-
What a run comes to write.

Before it writes anything, a run settles its settings, reads the document and the templates and
renders all files. None of this changes the disk, and what it comes to is a condition on the tree of
files as it was: with settings that are valid, a document that has resources and templates that
load, the run has the files of all resources or, if it keeps going, those of the resources that do
not fail. Otherwise it ends with a report. All of it holds with any engine for the templates, which
may load and render them as it likes.
-/
import ProviderGen.Proofs.Sessions

set_option autoImplicit false

namespace ProviderGen.CommandLine

variable {Loaded : Type} (engine : Engine Loaded)

/-! ## What is rendered -/

/-- The settings that the options come to: those of the file that they name or the defaults, with
what they say in its place. -/
def Settles (tree : FileTree) (options : GenerateOptions) (config : Config) : Prop :=
  ∃ base,
    (match options.config with
      | none => base = {}
      | some path => ∃ bytes text, tree.read path = .ok bytes ∧
          Text.decodeUtf8 bytes = .ok text ∧ Config.ofYaml text = .ok base) ∧
    config = base.override options.providerName options.packageName ∧ config.validate = .ok ()

/-- The resources of the document in a file. -/
def Holds (tree : FileTree) (spec : String) (resources : List Resource) : Prop :=
  ∃ bytes, tree.read spec = .ok bytes ∧ parseDocument bytes = .ok resources

/-- What is loaded once the files of a directory are there for some kinds, in order: for a kind
that has a file its text is loaded, for any other nothing changes. -/
inductive Loads (tree : FileTree) (directory : String) :
    List Artifact → Loaded → Loaded → Prop where
  | done {loaded : Loaded} : Loads tree directory [] loaded loaded
  | passed {artifact : Artifact} {rest : List Artifact} {loaded after : Loaded} :
      tree.isFile (Path.join directory artifact.templateFile) = false →
      Loads tree directory rest loaded after → Loads tree directory (artifact :: rest) loaded after
  | file {artifact : Artifact} {rest : List Artifact} {loaded between after : Loaded}
      {bytes : ByteArray} {text : String} :
      tree.read (Path.join directory artifact.templateFile) = .ok bytes →
      Text.decodeUtf8 bytes = .ok text →
      engine.load loaded artifact.template text = .ok between →
      Loads tree directory rest between after → Loads tree directory (artifact :: rest) loaded after

/-- The built-in templates, or these with the files of a directory loaded over them. -/
def Supplies (tree : FileTree) (directory? : Option String) (templates : Loaded) : Prop :=
  match directory? with
  | none => engine.builtin = .ok templates
  | some directory => tree.isDirectory directory = true ∧
      ∃ builtin, engine.builtin = .ok builtin ∧
        Loads engine tree directory Artifact.all builtin templates

/-- The files that a run on a tree comes to write: those of all resources or, if it keeps going,
those of the resources that do not fail. -/
def Plans (tree : FileTree) (options : GenerateOptions) (files : List GeneratedFile) : Prop :=
  ∃ config resources templates, Settles tree options config ∧ Holds tree options.spec resources ∧
    Supplies engine tree options.templates templates ∧
    if options.keepGoing then
      (generateLenient (engine.render templates) config resources).files = files
    else generateAll (engine.render templates) config resources = .ok files

/-! ## Preparing -/

section Prepare

variable (tree : FileTree) (options : GenerateOptions)

theorem looks_readConfig (path : String) : FileTree.Looks (readConfig FileTree.files path) := by
  refine (FileTree.looks_readText path).bind fun outcome => ?_
  split <;> exact FileTree.looks_pure _

theorem looks_readDocument (path : String) : FileTree.Looks (readDocument FileTree.files path) := by
  refine (FileTree.looks_read path).bind fun outcome => ?_
  split <;> exact FileTree.looks_pure _

theorem looks_overrideFrom (directory : String) (artifacts : List Artifact) (loaded : Loaded) :
    FileTree.Looks (engine.overrideFrom FileTree.files directory artifacts loaded) := by
  -- what the engine makes of a text decides how the loop goes on, but touches no file
  induction artifacts generalizing loaded with
  | nil => exact FileTree.looks_pure _
  | cons artifact rest ih =>
    refine (FileTree.looks_isFile _).bind fun found => ?_
    split
    · refine (FileTree.looks_readText _).bind fun outcome => ?_
      split
      · exact FileTree.looks_pure _
      · split
        · exact ih _
        · exact FileTree.looks_pure _
    · exact ih loaded

theorem looks_ofDirectory (directory : String) :
    FileTree.Looks (engine.ofDirectory FileTree.files directory) := by
  refine (FileTree.looks_isDirectory directory).bind fun found => ?_
  split
  · split
    · exact looks_overrideFrom engine directory Artifact.all _
    · exact FileTree.looks_pure _
  · exact FileTree.looks_pure _

theorem add_eq_ok_iff {artifact : Artifact} {text : String} {loaded after : Loaded} :
    engine.add loaded artifact text = .ok after ↔
      engine.load loaded artifact.template text = .ok after := by
  unfold Engine.add
  cases engine.load loaded artifact.template text with
  | ok between => simp only [Except.ok.injEq]
  | error reasons => exact ⟨nofun, nofun⟩

/-- What is loaded for several kinds, by what reading the file of the first one comes to. -/
theorem loads_cons_iff {directory : String} {artifact : Artifact} {rest : List Artifact}
    {loaded after : Loaded} :
    Loads engine tree directory (artifact :: rest) loaded after ↔
      tree.isFile (Path.join directory artifact.templateFile) = false ∧
          Loads engine tree directory rest loaded after ∨
        ∃ text,
          ((FileTree.files.readText (Path.join directory artifact.templateFile)).run tree).1 =
            .ok text ∧
          ∃ between, engine.add loaded artifact text = .ok between ∧
            Loads engine tree directory rest between after := by
  simp only [FileTree.readText_eq_ok_iff, add_eq_ok_iff]
  constructor
  · rintro (- | ⟨hnone, hrest⟩ | ⟨hread, htext, hload, hrest⟩)
    · exact Or.inl ⟨hnone, hrest⟩
    · exact Or.inr ⟨_, ⟨_, hread, htext⟩, _, hload, hrest⟩
  · rintro (⟨hnone, hrest⟩ | ⟨text, ⟨bytes, hread, htext⟩, between, hload, hrest⟩)
    · exact .passed hnone hrest
    · exact .file hread htext hload hrest

/-- One kind after the other is looked for in the directory, and what is loaded for the one is there
when the next is. -/
theorem overrideFrom_eq_ok_iff {directory : String} {artifacts : List Artifact}
    {loaded after : Loaded} :
    ((engine.overrideFrom FileTree.files directory artifacts loaded).run tree).1 = .ok after ↔
      Loads engine tree directory artifacts loaded after := by
  induction artifacts generalizing loaded with
  | nil =>
    constructor
    · rintro ⟨⟩
      exact .done
    · rintro ⟨⟩
      rfl
  | cons artifact rest ih =>
    unfold Engine.overrideFrom
    rw [loads_cons_iff, (FileTree.looks_isFile _).run_bind]
    change ((if tree.isFile _ = true then _ else _ : StateM FileTree _).run tree).1 = _ ↔ _
    by_cases hfile : tree.isFile (Path.join directory artifact.templateFile) = true
    · have hthere : tree.isFile (Path.join directory artifact.templateFile) ≠ false := by
        simp [hfile]
      rw [if_pos hfile, (FileTree.looks_readText _).run_bind, or_iff_right fun h => hthere h.1]
      -- the file may not be text, and its text may be refused; then nothing is loaded at all
      cases ((FileTree.files.readText (Path.join directory artifact.templateFile)).run tree).1 with
      | error reason => exact ⟨nofun, fun ⟨_, htext, _⟩ => nomatch htext⟩
      | ok text =>
        simp only [Except.ok.injEq, exists_eq_left']
        cases engine.add loaded artifact text with
        | error failure => exact ⟨nofun, fun ⟨_, hadd, _⟩ => nomatch hadd⟩
        | ok between =>
          simp only [Except.ok.injEq, exists_eq_left']
          exact ih
    · rw [if_neg hfile, ih, and_iff_right (Bool.eq_false_iff.mpr hfile), iff_self_or]
      rintro ⟨text, htext, -⟩
      obtain ⟨bytes, hread, -⟩ := FileTree.readText_eq_ok_iff.mp htext
      exact absurd (FileTree.isFile_iff.mpr ⟨bytes, hread⟩) hfile

theorem ofDirectory_eq_ok_iff {directory : String} {templates : Loaded} :
    ((engine.ofDirectory FileTree.files directory).run tree).1 = .ok templates ↔
      tree.isDirectory directory = true ∧
        ∃ builtin, engine.builtin = .ok builtin ∧
          Loads engine tree directory Artifact.all builtin templates := by
  unfold Engine.ofDirectory
  rw [(FileTree.looks_isDirectory _).run_bind]
  change ((if tree.isDirectory _ = true then _ else _ : StateM FileTree _).run tree).1 = _ ↔ _
  by_cases hdirectory : tree.isDirectory directory = true
  · rw [if_pos hdirectory, and_iff_right hdirectory]
    cases engine.builtin with
    | error failure => exact ⟨nofun, fun ⟨_, hbuiltin, _⟩ => nomatch hbuiltin⟩
    | ok builtin =>
      simp only [Except.ok.injEq, exists_eq_left']
      exact overrideFrom_eq_ok_iff engine tree
  · rw [if_neg hdirectory]
    exact ⟨nofun, fun h => absurd h.1 hdirectory⟩

theorem readConfig_eq_ok_iff {path : String} {base : Config} :
    ((readConfig FileTree.files path).run tree).1 = .ok base ↔
      ∃ bytes text, tree.read path = .ok bytes ∧ Text.decodeUtf8 bytes = .ok text ∧
        Config.ofYaml text = .ok base := by
  have htext : ((readConfig FileTree.files path).run tree).1 = .ok base ↔
      ∃ text, ((FileTree.files.readText path).run tree).1 = .ok text ∧
        Config.ofYaml text = .ok base := by
    unfold readConfig
    rw [(FileTree.looks_readText path).run_bind]
    cases ((FileTree.files.readText path).run tree).1 with
    | error reason => exact ⟨nofun, fun ⟨_, htext, _⟩ => nomatch htext⟩
    | ok text => simp only [Except.ok.injEq, exists_eq_left']; exact Iff.rfl
  rw [htext]
  simp only [FileTree.readText_eq_ok_iff]
  constructor
  · rintro ⟨text, ⟨bytes, hread, hdecode⟩, hbase⟩
    exact ⟨bytes, text, hread, hdecode, hbase⟩
  · rintro ⟨bytes, text, hread, hdecode, hbase⟩
    exact ⟨text, ⟨bytes, hread, hdecode⟩, hbase⟩

theorem readDocument_eq_ok_iff {path : String} {doc : Document} :
    ((readDocument FileTree.files path).run tree).1 = .ok doc ↔
      ∃ bytes, tree.read path = .ok bytes ∧ Document.ofBytes bytes = .ok doc := by
  unfold readDocument
  rw [(FileTree.looks_read path).run_bind,
    show ((FileTree.files.read path).run tree).1 = tree.read path from rfl]
  cases tree.read path with
  | error fault => exact ⟨nofun, fun ⟨_, hread, _⟩ => nomatch hread⟩
  | ok bytes => simp only [Except.ok.injEq, exists_eq_left']; exact Iff.rfl

theorem tells_resolveConfig :
    Tells (resolveConfig FileTree.files options) tree (Settles tree options) := by
  -- the settings are completed and checked in the same way wherever they come from
  have hrest (base : Config) : Tells (do
      let config := base.override options.providerName options.packageName
      demand "Invalid generator config" config.validate
      return config : Session (StateM FileTree) Config) tree fun config =>
        config = base.override options.providerName options.packageName ∧
          config.validate = .ok () := by
    refine ((tells_demand _ _ tree).bind fun _ _ => tells_of_ok (ends_pure _ tree)).congr ?_
    intro config
    constructor
    · rintro ⟨⟨⟩, hvalid, rfl⟩
      exact ⟨rfl, hvalid⟩
    · rintro ⟨rfl, hvalid⟩
      exact ⟨(), hvalid, rfl⟩
  unfold resolveConfig Settles
  cases options.config with
  | none =>
    refine Tells.congr (Tells.of_ends (ends_pure ({} : Config) tree) (hrest {})) fun config => ?_
    simp only [exists_eq_left]
  | some path =>
    refine (Tells.of_ends (ends_look (looks_readConfig path) tree)
      ((tells_demand _ _ tree).bind fun base _ => hrest base)).congr fun config => ?_
    simp only [readConfig_eq_ok_iff]

theorem tells_loadResources (spec : String) :
    Tells (loadResources FileTree.files spec) tree (Holds tree spec) := by
  refine (Tells.of_ends (ends_look (looks_readDocument spec) tree)
    ((tells_demand _ _ tree).bind fun doc _ => tells_demand _ doc.resources tree)).congr ?_
  intro resources
  simp only [readDocument_eq_ok_iff]
  constructor
  · rintro ⟨doc, ⟨bytes, hread, hdoc⟩, hresources⟩
    exact ⟨bytes, hread, bind_eq_ok_iff.mpr ⟨doc, hdoc, hresources⟩⟩
  · rintro ⟨bytes, hread, hparse⟩
    obtain ⟨doc, hdoc, hresources⟩ := bind_eq_ok_iff.mp hparse
    exact ⟨doc, ⟨bytes, hread, hdoc⟩, hresources⟩

theorem tells_loadTemplates (directory? : Option String) :
    Tells (loadTemplates engine FileTree.files directory?) tree
      (Supplies engine tree directory?) := by
  cases directory? with
  | none => exact tells_demand _ engine.builtin tree
  | some directory =>
    refine Tells.congr (.of_ends (ends_look (looks_ofDirectory engine directory) tree)
      (tells_demand _ _ tree)) fun templates => ?_
    exact ofDirectory_eq_ok_iff engine tree

theorem ends_warnings (line : String × Failure → String) (warnings : List (String × Failure)) :
    Ends (warnings.forM fun warning => warn (line warning)) tree (.ok ()) tree := by
  induction warnings with
  | nil => exact ends_pure () tree
  | cons warning rest ih => exact (ends_warn _ tree).bind ih

theorem tells_renderAll (renderer : Renderer) (config : Config) (keepGoing : Bool)
    (resources : List Resource) :
    Tells (renderAll renderer config keepGoing resources) tree fun files =>
      if keepGoing then (generateLenient renderer config resources).files = files
      else generateAll renderer config resources = .ok files := by
  cases keepGoing with
  | false => exact tells_demand _ _ tree
  | true =>
    have hwarnings := ends_warnings tree
      (fun warning => "⚠ Skipping " ++ warning.1 ++ ": " ++ warning.2.message)
      (generateLenient renderer config resources).failures
    exact Tells.congr (Tells.of_ends hwarnings (tells_of_ok (ends_pure _ tree))) fun _ => eq_comm

/-- Preparing a run changes nothing, and it comes to the files that the run is to write. -/
theorem tells_prepare :
    Tells (prepare engine FileTree.files options) tree (Plans engine tree options) := by
  refine ((tells_resolveConfig tree options).bind fun config _ =>
    .of_ends (ends_say _ tree) ((tells_loadResources tree options.spec).bind fun resources _ =>
      .of_ends (ends_say _ tree) ((tells_loadTemplates engine tree options.templates).bind
        fun templates _ => tells_renderAll tree (engine.render templates) config
          options.keepGoing resources))).congr fun files => ?_
  constructor
  · rintro ⟨config, hconfig, resources, hresources, templates, htemplates, hfiles⟩
    exact ⟨config, resources, templates, hconfig, hresources, htemplates, hfiles⟩
  · rintro ⟨config, resources, templates, hconfig, hresources, htemplates, hfiles⟩
    exact ⟨config, hconfig, resources, hresources, templates, htemplates, hfiles⟩

end Prepare

end ProviderGen.CommandLine
