/-
What a run that generates files does to the disk.

All files are rendered before the first is written. So a run that fails for its settings, its
document, its templates or the rendering has not changed anything, whatever engine the templates
are loaded and rendered with. Once all is rendered, what is left is to write file by file: a file
goes where its destination leads, in directories that are made if they are missing. Since no two
files go to the same place, each is there at the end.
-/
import ProviderGen.Proofs.LenientRun
import ProviderGen.Proofs.Preparation

set_option autoImplicit false

namespace ProviderGen.CommandLine

variable {Loaded : Type} {engine : Engine Loaded}

/-! ## Writing -/

/-- Where a generated file goes. -/
def GenerateOptions.target (options : GenerateOptions) (file : GeneratedFile) : String :=
  file.artifact.destination options.output options.docs file.path

/-- A report that a file could not be written: the directory around it was not made, or the file
itself was refused. -/
def WriteFault (target : String) (report : Report) : Prop :=
  ∃ fault, report = .ofFault ("Failed to create directory " ++ Path.parent target) fault ∨
    report = .ofFault ("Failed to write " ++ target) fault

section Write

variable {tree : FileTree}

/-- Writing a file leaves it where its path leads, or fails with a report and makes no more than
directories. -/
theorem writeFile_ends (target contents : String) (tree : FileTree) :
    (∃ after, Ends (writeFile FileTree.files target contents) tree (.ok ()) after ∧
      after.locate target = .ok (tree.leads target) ∧
      FileTree.Grows [tree.leads target] tree after ∧
      after.read target = .ok contents.toUTF8) ∨
    ∃ report after, Ends (writeFile FileTree.files target contents) tree (.error report) after ∧
      FileTree.Grows [] tree after ∧ WriteFault target report := by
  have hopens := FileTree.opens_ensureDirectories (Path.parent target) tree
  have hensure := ends_perform ("Failed to create directory " ++ Path.parent target)
    (FileTree.files.ensureDirectories (Path.parent target)) tree
  generalize hrun : (FileTree.files.ensureDirectories (Path.parent target)).run tree = made at *
  obtain ⟨outcome, between⟩ := made
  cases outcome with
  | error fault => exact .inr ⟨_, between, hensure.bind_error _, hopens, fault, .inl rfl⟩
  | ok _ =>
    have hwrite := ends_perform ("Failed to write " ++ target)
      (FileTree.files.write target contents.toUTF8) between
    cases hset : between.write target contents.toUTF8 with
    | error fault =>
      rw [FileTree.run_write_error hset] at hwrite
      exact .inr ⟨_, between, hensure.bind hwrite, hopens, fault, .inr rfl⟩
    | ok after =>
      rw [FileTree.run_write_ok hset] at hwrite
      obtain ⟨hlocate, hgrows, hread⟩ := FileTree.write_eq_ok hset
      rw [hopens.leads] at hlocate hgrows
      exact .inl ⟨after, hensure.bind hwrite, hlocate, hopens.trans hgrows, hread⟩

variable (options : GenerateOptions)

/-- Writing the files of a run, none to the place of another: directories are made, and what else
is written is a file of the run at its destination. Either all are there at the end, or one could
not be written. -/
theorem writeAll_ends (files : List GeneratedFile) (tree : FileTree)
    (hapart : (files.map fun file => tree.leads (options.target file)).Nodup) :
    ∃ result after written,
      Ends (writeAll FileTree.files options.output options.docs files) tree result after ∧
      FileTree.Grows written tree after ∧
      (∀ trail ∈ written, ∃ file ∈ files, after.locate (options.target file) = .ok trail) ∧
      (result = .ok () → ∀ file ∈ files,
        after.read (options.target file) = .ok file.contents.toUTF8) ∧
      ∀ report, result = .error report → ∃ file ∈ files, WriteFault (options.target file) report := by
  induction files generalizing tree with
  | nil => exact ⟨_, tree, [], ends_pure () tree, .refl tree, by simp, by simp, nofun⟩
  | cons file rest ih =>
    rcases writeFile_ends (options.target file) file.contents tree with
      ⟨between, hwrite, hlocate, hgrows, hread⟩ | ⟨report, after, hwrite, hgrows, hfault⟩
    · rw [List.map_cons, List.nodup_cons] at hapart
      have hleads : (fun other => between.leads (options.target other)) =
          fun other => tree.leads (options.target other) := funext fun other => hgrows.leads _
      obtain ⟨result, after, written, hends, hgrows', hwritten, hreads, hreports⟩ :=
        ih between (hleads ▸ hapart.2)
      -- what is written after this file goes elsewhere, so it is still there at the end
      have hother : between.leads (options.target file) ∉ written := by
        intro hmem
        obtain ⟨other, hin, hsame⟩ := hwritten _ hmem
        rw [hgrows.leads] at hsame
        have hlead := FileTree.leads_of_locate hsame
        rw [hgrows'.leads, hgrows.leads] at hlead
        exact hapart.1 (List.mem_map.mpr ⟨other, hin, hlead.symm⟩)
      refine ⟨result, after, [tree.leads (options.target file)] ++ written,
        hwrite.bind ((ends_say _ between).bind hends), hgrows.trans hgrows', ?_, ?_, ?_⟩
      · refine List.forall_mem_cons.mpr ⟨⟨file, List.mem_cons_self .., hgrows'.locate hlocate⟩, ?_⟩
        intro trail htrail
        obtain ⟨other, hin, hplace⟩ := hwritten trail htrail
        exact ⟨other, List.mem_cons_of_mem _ hin, hplace⟩
      · intro hok
        exact List.forall_mem_cons.mpr ⟨hgrows'.read hread hother, hreads hok⟩
      · intro report hreport
        obtain ⟨other, hin, hfault⟩ := hreports report hreport
        exact ⟨other, List.mem_cons_of_mem _ hin, hfault⟩
    · refine ⟨.error report, after, [], hwrite.bind_error _, hgrows, by simp, nofun, ?_⟩
      rintro _ ⟨⟩
      exact ⟨file, List.mem_cons_self .., hfault⟩

/-- Files that are ready to be written are written. -/
theorem writeAll_succeeds (files : List GeneratedFile) (tree : FileTree)
    (hready : ∀ file ∈ files, tree.Ready (options.target file)) :
    ∃ after,
      Ends (writeAll FileTree.files options.output options.docs files) tree (.ok ()) after := by
  induction files generalizing tree with
  | nil => exact ⟨tree, ends_pure () tree⟩
  | cons file rest ih =>
    obtain ⟨hfirst, hrest⟩ := List.forall_mem_cons.mp hready
    obtain ⟨between, hset⟩ := hfirst.exists_write file.contents.toUTF8
    have hensure := ends_perform ("Failed to create directory " ++
      Path.parent (options.target file))
      (FileTree.files.ensureDirectories (Path.parent (options.target file))) tree
    have hwrite := ends_perform ("Failed to write " ++ options.target file)
      (FileTree.files.write (options.target file) file.contents.toUTF8) tree
    rw [FileTree.run_ensureDirectories hfirst.parent] at hensure
    rw [FileTree.run_write_ok hset] at hwrite
    obtain ⟨after, hends⟩ := ih between fun other hother => (hrest other hother).of_write hset
    exact ⟨after, (hensure.bind hwrite).bind ((ends_say _ between).bind hends)⟩

end Write

/-! ## Whole runs -/

/-- The files of a run go to places of their own. -/
theorem Plans.apart {tree : FileTree} {options : GenerateOptions} {files : List GeneratedFile}
    (h : Plans engine tree options files) :
    (files.map fun file => tree.leads (options.target file)).Nodup := by
  obtain ⟨config, resources, templates, -, ⟨bytes, -, hparse⟩, -, hfiles⟩ := h
  obtain ⟨hnames, hresource⟩ := names_of_parseDocument hparse
  obtain ⟨kept, hkept, groups, hgroups, rfl⟩ : ∃ kept, kept.Sublist resources ∧ ∃ groups,
      List.Forall₂ (fun r group => generate (engine.render templates) config r = .ok group)
        kept groups ∧ groups.flatten = files := by
    split at hfiles
    · obtain ⟨groups, hgroups, hflatten⟩ :=
        exists_files_generateLenient (engine.render templates) config resources
      exact ⟨_, List.filter_sublist, groups, hgroups, hflatten ▸ hfiles⟩
    · obtain ⟨groups, hgroups, hflatten⟩ := generateAll_eq_ok_iff.mp hfiles
      exact ⟨resources, .refl _, groups, hgroups, hflatten.symm⟩
  have hslash : ∀ r ∈ kept, '/' ∉ r.name.toList := by
    intro r hr
    rw [hresource r (hkept.subset hr)]
    exact Naming.slash_not_mem_resourceName r.collectionPath
  -- the places are apart in what the two directories lead to, however the options name these
  have hview := places_apart
    (fun place => tree.namesTo (place.1.destination options.output options.docs place.2))
    (fun artifact name hname => tree.namesTo_destination hname options.output options.docs artifact)
    ((hkept.map Resource.name).nodup hnames) hslash (places_of_groups hgroups)
  have hmap : groups.flatten.map (fun file =>
      tree.namesTo (file.place.1.destination options.output options.docs file.place.2)) =
      (groups.flatten.map fun file => tree.leads (options.target file)).map
        (List.map Path.Step.enter) := by
    rw [List.map_map]
    rfl
  exact List.Nodup.of_map _ (hmap ▸ hview.1)

/-- What a run leaves that comes to write some files. -/
structure Delivers (options : GenerateOptions) (files : List GeneratedFile)
    (before after : FileTree) (outcome : Outcome) : Prop where
  /-- Away from the destinations nothing changes, except that directories are made where nothing
  was. -/
  elsewhere : ∀ trail, (∀ file ∈ files, after.locate (options.target file) ≠ .ok trail) →
    after.entry? trail = before.entry? trail ∨
      before.entry? trail = none ∧ after.entry? trail = some .directory
  /-- The run succeeds with all files in place, or fails with a report of one that could not be
  written. -/
  ending :
    outcome.exitCode = 0 ∧
        (∀ file ∈ files, after.read (options.target file) = .ok file.contents.toUTF8) ∨
      outcome.exitCode = 1 ∧ ∃ file ∈ files, ∃ report, WriteFault (options.target file) report ∧
        ∃ printed, outcome.err = printed ++ report.text
  /-- It succeeds if all files can be written where they go. -/
  success : (∀ file ∈ files, before.Ready (options.target file)) → outcome.exitCode = 0

section Run

variable {words : List String} {before after : FileTree}

/-- A run ends as its command does, with what the command printed. -/
theorem run_of_ends {command : Command} {verbose : Bool} {result : Except Report Unit}
    (hwords : readArguments words = .run command verbose)
    (h : Ends (runCommand engine FileTree.files command) before result after) :
    ∃ printed : Printed, (runWith engine FileTree.files words).run before =
      (match result with
        | .ok () => ⟨0, printed.out, printed.err⟩
        | .error report => ⟨1, printed.out, printed.err ++ report.text⟩, after) := by
  obtain ⟨printed, hrun⟩ := h {}
  refine ⟨printed, ?_⟩
  unfold runWith
  rw [hwords, StateT.run_bind, hrun]
  cases result with
  | ok _ => rfl
  | error report => rfl

theorem run_of_ok {command : Command} {verbose : Bool}
    (hwords : readArguments words = .run command verbose)
    (h : Ends (runCommand engine FileTree.files command) before (.ok ()) after) :
    ∃ outcome, (runWith engine FileTree.files words).run before = (outcome, after) ∧
      outcome.exitCode = 0 := by
  obtain ⟨printed, hrun⟩ := run_of_ends hwords h
  exact ⟨_, hrun, rfl⟩

theorem run_of_error {command : Command} {verbose : Bool} {report : Report}
    (hwords : readArguments words = .run command verbose)
    (h : Ends (runCommand engine FileTree.files command) before (.error report) after) :
    ∃ outcome, (runWith engine FileTree.files words).run before = (outcome, after) ∧
      outcome.exitCode = 1 ∧ ∃ printed, outcome.err = printed ++ report.text := by
  obtain ⟨printed, hrun⟩ := run_of_ends hwords h
  exact ⟨_, hrun, rfl, printed.err, rfl⟩

variable {options : GenerateOptions} {verbose : Bool} {files : List GeneratedFile}

/-- Once its files are prepared, a run delivers them. -/
theorem delivers_of_prepare (hwords : readArguments words = .run (.generate options) verbose)
    (hprepare : Ends (prepare engine FileTree.files options) before (.ok files) before)
    (hfiles : Plans engine before options files) :
    ∃ outcome after, (runWith engine FileTree.files words).run before = (outcome, after) ∧
      Delivers options files before after outcome := by
  obtain ⟨result, after, written, hwrite, hgrows, hwritten, hreads, hreports⟩ :=
    writeAll_ends options files before hfiles.apart
  have helsewhere : ∀ trail, (∀ file ∈ files, after.locate (options.target file) ≠ .ok trail) →
      after.entry? trail = before.entry? trail ∨
        before.entry? trail = none ∧ after.entry? trail = some .directory := by
    intro trail hother
    refine hgrows.elsewhere trail fun hmem => ?_
    obtain ⟨file, hfile, hplace⟩ := hwritten trail hmem
    exact hother file hfile hplace
  cases result with
  | ok _ =>
    obtain ⟨outcome, hrun, hcode⟩ :=
      run_of_ok hwords (hprepare.bind (hwrite.bind (ends_say _ after)))
    exact ⟨outcome, after, hrun, helsewhere, .inl ⟨hcode, hreads rfl⟩, fun _ => hcode⟩
  | error report =>
    obtain ⟨outcome, hrun, hcode, hprinted⟩ :=
      run_of_error hwords (hprepare.bind (hwrite.bind_error _))
    obtain ⟨file, hfile, hfault⟩ := hreports report rfl
    refine ⟨outcome, after, hrun, helsewhere,
      .inr ⟨hcode, file, hfile, report, hfault, hprinted⟩, fun hready => ?_⟩
    obtain ⟨after', hsucceeds⟩ := writeAll_succeeds options files before hready
    cases hwrite.unique hsucceeds

end Run

/-- **A failed run leaves the disk alone**, whatever the engine, the arguments and the tree of files
are. A run with arguments that make no sense changes nothing, and neither does one that does not
come to the files that it is to write; both fail. A run that comes to them delivers them: it writes
nothing but these files at their destinations and makes directories for them, and if it succeeds
all of them are there. -/
theorem run_generate (engine : Engine Loaded) (words : List String) (tree : FileTree) :
    ∃ outcome after, (runWith engine FileTree.files words).run tree = (outcome, after) ∧
      (readArguments words = .usageError → outcome.exitCode = 2 ∧ after = tree) ∧
      ∀ options verbose, readArguments words = .run (.generate options) verbose →
        ((¬ ∃ files, Plans engine tree options files) → outcome.exitCode = 1 ∧ after = tree) ∧
        ∀ files, Plans engine tree options files → Delivers options files tree after outcome := by
  by_cases hgenerate : ∃ options verbose, readArguments words = .run (.generate options) verbose
  · obtain ⟨options, verbose, hwords⟩ := hgenerate
    have hsame : ∀ options' verbose', readArguments words = .run (.generate options') verbose' →
        options' = options := by
      intro options' verbose' hwords'
      cases hwords.symm.trans hwords'
      rfl
    have husage : readArguments words ≠ .usageError := by simp [hwords]
    obtain ⟨result, hprepare, hresult⟩ := tells_prepare engine tree options
    cases result with
    | error report =>
      have hnone : ∀ files, ¬ Plans engine tree options files := fun files hfiles =>
        nomatch (hresult files).mpr hfiles
      obtain ⟨outcome, hrun, hcode, -⟩ := run_of_error hwords (hprepare.bind_error _)
      refine ⟨outcome, tree, hrun, fun h => absurd h husage, fun options' verbose' hwords' => ?_⟩
      rw [hsame options' verbose' hwords']
      exact ⟨fun _ => ⟨hcode, rfl⟩, fun files hfiles => absurd hfiles (hnone files)⟩
    | ok files =>
      have hfiles := (hresult files).mp rfl
      obtain ⟨outcome, after, hrun, hdelivers⟩ := delivers_of_prepare hwords hprepare hfiles
      refine ⟨outcome, after, hrun, fun h => absurd h husage, fun options' verbose' hwords' => ?_⟩
      rw [hsame options' verbose' hwords']
      refine ⟨fun hnone => absurd ⟨files, hfiles⟩ hnone, fun other hother => ?_⟩
      rw [Except.ok.inj ((hresult other).mpr hother)] at hdelivers
      exact hdelivers
  · have hrun : readArguments words = .usageError →
        (runWith engine FileTree.files words).run tree = (⟨2, "", ""⟩, tree) := by
      intro husage
      unfold runWith
      rw [husage]
      rfl
    refine ⟨_, _, (Prod.eta _).symm, fun husage => ?_, fun options verbose hwords =>
      absurd ⟨options, verbose, hwords⟩ hgenerate⟩
    rw [hrun husage]
    exact ⟨rfl, rfl⟩

/-! ### A run into directories that are there -/

/-- A document with one collection. -/
def harborLines : List String := documentLines ["\"/ports\":\x7b\x7d"]

theorem harborLines_names :
    (resourcesOfJson (harborLines.flatMap String.toList)).map (List.map Resource.name) =
      some ["port"] := by
  decide +kernel

/-- A disk with a document, a directory for templates that has none, the directories for the output
and an older source. -/
def harborTree (spec : ByteArray) : FileTree where
  workingDirectory := ["work".toList]
  entries :=
    [(["work".toList], .directory),
     (["work".toList, "api.json".toList], .file spec),
     (["work".toList, "forms".toList], .directory),
     (["srv".toList], .directory),
     (["srv".toList, "resource_port.go".toList], .file .empty),
     (["wiki".toList], .directory),
     (["wiki".toList, "resources".toList], .directory),
     (["wiki".toList, "data-sources".toList], .directory)]

def harborWords : List String :=
  ["generate", "-s", "api.json", "-o", "/srv", "--docs=../wiki", "--templates", "forms"]

def harborOptions : GenerateOptions where
  spec := "api.json"
  output := "/srv"
  docs := "../wiki"
  providerName := none
  packageName := none
  config := none
  templates := some "forms"
  keepGoing := false

theorem readArguments_harborWords :
    readArguments harborWords = .run (.generate harborOptions) false := by
  decide +kernel

/-- Since the directory for templates has none, the built-in ones are used. -/
theorem harborTree_supplies (spec : ByteArray) :
    Supplies Templates.engine (harborTree spec) harborOptions.templates Templates.builtin :=
  ⟨rfl, Templates.builtin, rfl, .passed rfl (.passed rfl (.passed rfl (.passed rfl .done)))⟩

theorem harborTree_ready (spec : ByteArray) (artifact : Artifact) :
    (harborTree spec).Ready (artifact.destination "/srv" "../wiki" (artifact.path "port")) := by
  have hready : ∀ path trail, (harborTree spec).isDirectory
      (Path.ofPieces (Path.components (Path.parent path))) = true →
      (harborTree spec).locate path = .ok trail →
      FileTree.entry? (harborTree spec) trail ≠ some .directory → (harborTree spec).Ready path :=
    fun path trail hparent hlocate hentry => ⟨hparent, trail, hlocate, hentry⟩
  cases artifact with
  | resource =>
    rw [show Artifact.destination "/srv" "../wiki" (Artifact.path "port" .resource) .resource =
      "/srv/resource_port.go" by decide]
    exact hready _ ["srv".toList, "resource_port.go".toList] rfl rfl nofun
  | dataSource =>
    rw [show Artifact.destination "/srv" "../wiki" (Artifact.path "port" .dataSource) .dataSource =
      "/srv/datasource_port.go" by decide]
    exact hready _ ["srv".toList, "datasource_port.go".toList] rfl rfl nofun
  | resourcePage =>
    rw [show Artifact.destination "/srv" "../wiki" (Artifact.path "port" .resourcePage)
      .resourcePage = "../wiki/resources/port.md" by decide]
    exact hready _ ["wiki".toList, "resources".toList, "port.md".toList] rfl rfl nofun
  | dataSourcePage =>
    rw [show Artifact.destination "/srv" "../wiki" (Artifact.path "port" .dataSourcePage)
      .dataSourcePage = "../wiki/data-sources/port.md" by decide]
    exact hready _ ["wiki".toList, "data-sources".toList, "port.md".toList] rfl rfl nofun

/-- The run puts the four files of the collection in their places; where there is no document it
fails and leaves nothing behind. -/
theorem run_harborTree :
    (∃ (outcome : Outcome) (after : FileTree) (files : List GeneratedFile),
      (run FileTree.files harborWords).run (harborTree (String.join harborLines).toUTF8) =
        (outcome, after) ∧
      outcome.exitCode = 0 ∧ files.length = 4 ∧
      ∀ file ∈ files, after.read (harborOptions.target file) = .ok file.contents.toUTF8) ∧
    ∃ outcome, (run FileTree.files harborWords).run ⟨[], []⟩ = (outcome, ⟨[], []⟩) ∧
      outcome.exitCode = 1 := by
  have hwords := readArguments_harborWords
  constructor
  · obtain ⟨resources, hparse, hnames⟩ := exists_parseDocument harborLines_names
    obtain ⟨r, rfl, hname⟩ : ∃ r : Resource, resources = [r] ∧ r.name = "port" := by
      simpa [List.map_eq_singleton_iff] using hnames
    obtain ⟨files, hfiles, hplaces⟩ := exists_generateAll_builtin {} [r]
    have hread : (harborTree (String.join harborLines).toUTF8).read "api.json" =
        .ok (String.join harborLines).toUTF8 := by
      generalize (String.join harborLines).toUTF8 = spec
      rfl
    have hplans : Plans Templates.engine (harborTree (String.join harborLines).toUTF8)
        harborOptions files :=
      ⟨{}, [r], Templates.builtin, ⟨{}, rfl, rfl, by decide⟩, ⟨_, hread, hparse⟩,
        harborTree_supplies _, hfiles⟩
    have hready : ∀ file ∈ files, (harborTree (String.join harborLines).toUTF8).Ready
        (harborOptions.target file) := by
      intro file hfile
      have hplace : file.place ∈ [r].flatMap Resource.places :=
        hplaces ▸ List.mem_map_of_mem hfile
      rw [List.flatMap_singleton] at hplace
      obtain ⟨artifact, -, hsame⟩ : ∃ artifact ∈ Artifact.all,
          (artifact, artifact.path r.name) = file.place := List.mem_map.mp hplace
      obtain ⟨rfl, hpath⟩ := Prod.mk.inj hsame
      rw [GenerateOptions.target, ← hpath, hname]
      exact harborTree_ready _ file.artifact
    obtain ⟨outcome, after, hrun, -, hgenerate⟩ :=
      run_generate Templates.engine harborWords (harborTree (String.join harborLines).toUTF8)
    have hdelivers := (hgenerate harborOptions false hwords).2 files hplans
    have hcode := hdelivers.success hready
    refine ⟨outcome, after, files, hrun, hcode, ?_, ?_⟩
    · rw [← List.length_map GeneratedFile.place, hplaces]
      rfl
    · rcases hdelivers.ending with ⟨-, hreads⟩ | ⟨hfailed, -⟩
      · exact hreads
      · rw [hcode] at hfailed
        cases hfailed
  · obtain ⟨outcome, after, hrun, -, hgenerate⟩ :=
      run_generate Templates.engine harborWords ⟨[], []⟩
    have hnone : ¬ ∃ files, Plans Templates.engine ⟨[], []⟩ harborOptions files := by
      rintro ⟨files, config, resources, templates, -, ⟨bytes, hread, -⟩, -⟩
      cases hread
    obtain ⟨hcode, rfl⟩ := (hgenerate harborOptions false hwords).1 hnone
    exact ⟨outcome, hrun, hcode⟩

end ProviderGen.CommandLine
