/-
What operations on a tree of files change.

An operation on files either leaves the tree as it is, or makes a directory where nothing was, or
writes a file where no directory is. So directories stay, and with them every path that could be
looked up leads to where it led before: a file that was written is read back later, unless another
one was written to the same place. In a tree without links the place that a path leads to can be
told from the path alone.
-/
import ProviderGen.Proofs.OutputPaths
import ProviderGen.Storage.Tree

set_option autoImplicit false

namespace ProviderGen

open Naming

variable {α β : Type}

namespace FileTree

/-! ## Entries -/

theorem lookup_setEntry_self (trail : Trail) (entry : TreeEntry)
    (entries : List (Trail × TreeEntry)) :
    (setEntry trail entry entries).lookup trail = some entry := by
  induction entries with
  | nil => rw [setEntry, List.lookup_cons, beq_self_eq_true]
  | cons first rest ih =>
    obtain ⟨other, held⟩ := first
    by_cases h : other = trail
    · rw [setEntry, if_pos h, List.lookup_cons, beq_iff_eq.mpr h.symm]
    · rw [setEntry, if_neg h, List.lookup_cons, beq_eq_false_iff_ne.mpr (Ne.symm h), ih]

theorem lookup_setEntry_of_ne {trail other : Trail} (hne : other ≠ trail) (entry : TreeEntry)
    (entries : List (Trail × TreeEntry)) :
    (setEntry trail entry entries).lookup other = entries.lookup other := by
  have hother : (other == trail) = false := beq_eq_false_iff_ne.mpr hne
  induction entries with
  | nil => rw [setEntry, List.lookup_cons, hother]
  | cons first rest ih =>
    obtain ⟨key, held⟩ := first
    by_cases h : key = trail
    · rw [setEntry, if_pos h, h, List.lookup_cons, List.lookup_cons, hother]
    · rw [setEntry, if_neg h, List.lookup_cons, List.lookup_cons, ih]

theorem lookup_set_self (tree : FileTree) {trail : Trail} (h : trail ≠ []) (entry : TreeEntry) :
    entry? (tree.set trail entry) trail = some entry := by
  unfold entry?
  rw [if_neg h]
  exact lookup_setEntry_self trail entry tree.entries

theorem lookup_set_of_ne (tree : FileTree) {trail other : Trail} (hne : other ≠ trail)
    (entry : TreeEntry) : entry? (tree.set trail entry) other = tree.entry? other := by
  unfold entry?
  split
  · rfl
  · exact lookup_setEntry_of_ne hne entry tree.entries

theorem ne_nil_of_not_directory {tree : FileTree} {trail : Trail}
    (h : tree.entry? trail ≠ some .directory) : trail ≠ [] := fun hnil => h (if_pos hnil)

/-! ## Growth -/

/-- From one tree to another directories were made where nothing was, and at some places something
was written that is no directory. -/
structure Grows (written : List Trail) (before after : FileTree) : Prop where
  workingDirectory : after.workingDirectory = before.workingDirectory
  directory : ∀ trail, before.entry? trail = some .directory → after.entry? trail = some .directory
  elsewhere : ∀ trail, trail ∉ written → after.entry? trail = before.entry? trail ∨
    before.entry? trail = none ∧ after.entry? trail = some .directory

theorem Grows.refl (tree : FileTree) : Grows [] tree tree :=
  ⟨rfl, fun _ h => h, fun _ _ => Or.inl rfl⟩

theorem Grows.trans {first second : List Trail} {before between after : FileTree}
    (h : Grows first before between) (h' : Grows second between after) :
    Grows (first ++ second) before after := by
  refine ⟨h'.workingDirectory.trans h.workingDirectory,
    fun trail hdirectory => h'.directory trail (h.directory trail hdirectory), ?_⟩
  intro trail hother
  obtain ⟨hfirst, hsecond⟩ := not_or.mp (mt List.mem_append.mpr hother)
  rcases h.elsewhere trail hfirst with hsame | ⟨hnone, hmade⟩
  · rw [← hsame]
    exact h'.elsewhere trail hsecond
  -- a directory that was made first is still there after the second growth
  · exact Or.inr ⟨hnone, h'.directory trail hmade⟩

theorem grows_set_directory {tree : FileTree} {trail : Trail} (h : tree.entry? trail = none) :
    Grows [] tree (tree.set trail .directory) := by
  have hne : trail ≠ [] := by
    rintro rfl
    cases h
  refine ⟨rfl, fun other hother => ?_, fun other _ => ?_⟩
  · have hother' : other ≠ trail := by
      rintro rfl
      rw [h] at hother
      cases hother
    rw [lookup_set_of_ne tree hother', hother]
  · by_cases heq : other = trail
    · rw [heq]
      exact Or.inr ⟨h, lookup_set_self tree hne _⟩
    · exact Or.inl (lookup_set_of_ne tree heq _)

theorem grows_set_file {tree : FileTree} {trail : Trail} (h : tree.entry? trail ≠ some .directory)
    (contents : ByteArray) : Grows [trail] tree (tree.set trail (.file contents)) := by
  refine ⟨rfl, fun other hother => ?_, fun other hother => Or.inl ?_⟩
  · have hother' : other ≠ trail := fun heq => h (by rw [← heq, hother])
    rw [lookup_set_of_ne tree hother', hother]
  · exact lookup_set_of_ne tree (fun heq => hother (List.mem_singleton.mpr heq)) _

/-! ## Looking up paths -/

/-- The trail after a piece of a path, where there are no links. -/
def follow (trail : Trail) (piece : List Char) : Trail :=
  if Path.isIdle piece then trail else if piece = ['.', '.'] then trail.dropLast else trail ++ [piece]

theorem stepInto_eq_ok {tree : FileTree} {trail next : Trail} {piece : List Char}
    (h : tree.stepInto trail piece = .ok next) :
    tree.entry? trail = some .directory ∧ next = follow trail piece := by
  unfold stepInto at h
  split at h
  · cases h
  · cases h
  · next hentry =>
    refine ⟨hentry, ?_⟩
    split at h
    · next hidle => rw [follow, if_pos hidle, Except.ok.inj h]
    · next hidle =>
      split at h
      · next hup => rw [follow, if_neg hidle, if_pos hup, Except.ok.inj h]
      · next hup =>
        split at h
        · cases h
        · rw [follow, if_neg hidle, if_neg hup, Except.ok.inj h]

/-- Where directories stay, a path that leads somewhere leads there later too. -/
theorem Grows.stepInto {written : List Trail} {before after : FileTree}
    (h : Grows written before after) {trail next : Trail} {piece : List Char}
    (hstep : before.stepInto trail piece = .ok next) : after.stepInto trail piece = .ok next := by
  have hentry := (stepInto_eq_ok hstep).1
  rw [FileTree.stepInto, hentry] at hstep
  rw [FileTree.stepInto, h.directory trail hentry]
  exact hstep

/-- Where a path leads from the working directory, if all on its way is there. -/
def leads (tree : FileTree) (path : String) : Trail :=
  (pieces '/' path.toList).foldl follow (if Path.isAbsolute path then [] else tree.workingDirectory)

theorem eq_foldl_follow {tree : FileTree} {parts : List (List Char)} {start trail : Trail}
    (h : parts.foldlM tree.stepInto start = .ok trail) : trail = parts.foldl follow start := by
  induction parts generalizing start with
  | nil => exact (Except.ok.inj h).symm
  | cons piece rest ih =>
    rw [List.foldlM_cons, bind_eq_ok_iff] at h
    obtain ⟨next, hnext, hrest⟩ := h
    rw [List.foldl_cons, ← (stepInto_eq_ok hnext).2]
    exact ih hrest

theorem leads_of_locate {tree : FileTree} {path : String} {trail : Trail}
    (h : tree.locate path = .ok trail) : trail = tree.leads path := by
  unfold locate at h
  split at h
  · cases h
  · split at h
    · cases h
    · split at h
      · cases h
      · exact eq_foldl_follow h

section Growth

variable {written : List Trail} {before after : FileTree}

theorem Grows.leads (h : Grows written before after) (path : String) :
    after.leads path = before.leads path := by
  rw [FileTree.leads, FileTree.leads, h.workingDirectory]

theorem Grows.foldlM_stepInto (h : Grows written before after) {parts : List (List Char)}
    {start trail : Trail} (hbefore : parts.foldlM before.stepInto start = .ok trail) :
    parts.foldlM after.stepInto start = .ok trail := by
  induction parts generalizing start with
  | nil => exact hbefore
  | cons piece rest ih =>
    rw [List.foldlM_cons, bind_eq_ok_iff] at hbefore ⊢
    obtain ⟨next, hnext, hrest⟩ := hbefore
    exact ⟨next, h.stepInto hnext, ih hrest⟩

theorem Grows.locate (h : Grows written before after) {path : String} {trail : Trail}
    (hbefore : before.locate path = .ok trail) : after.locate path = .ok trail := by
  unfold FileTree.locate at hbefore ⊢
  split at hbefore
  · cases hbefore
  · next hempty =>
    split at hbefore
    · cases hbefore
    · next hnul =>
      split at hbefore
      · cases hbefore
      · next hlong =>
        rw [if_neg hempty, if_neg hnul, if_neg hlong, h.workingDirectory]
        exact h.foldlM_stepInto hbefore

end Growth

theorem read_eq_ok_iff {tree : FileTree} {path : String} {contents : ByteArray} :
    tree.read path = .ok contents ↔
      ∃ trail, tree.locate path = .ok trail ∧ tree.entry? trail = some (.file contents) := by
  rw [FileTree.read, FileTree.find]
  cases tree.locate path with
  | error fault => simp [error_bind]
  | ok trail =>
    simp only [ok_bind, Except.ok.injEq, exists_eq_left']
    cases tree.entry? trail with
    | none => simp [error_bind]
    | some entry => cases entry <;> simp [ok_bind]

theorem isDirectory_iff {tree : FileTree} {path : String} :
    tree.isDirectory path = true ↔
      ∃ trail, tree.locate path = .ok trail ∧ tree.entry? trail = some .directory := by
  rw [isDirectory, find]
  cases tree.locate path with
  | error fault => simp [error_bind]
  | ok trail =>
    simp only [ok_bind, Except.ok.injEq, exists_eq_left']
    cases tree.entry? trail with
    | none => simp
    | some entry => cases entry <;> simp

/-- A path leads to a file where one can be read, and nowhere else. -/
theorem isFile_iff {tree : FileTree} {path : String} :
    tree.isFile path = true ↔ ∃ contents, tree.read path = .ok contents := by
  rw [isFile, FileTree.read]
  cases tree.find path with
  | error fault => simp [error_bind]
  | ok entry => cases entry <;> simp [ok_bind]

/-- What is in a file is kept if nothing else is written to its place. -/
theorem Grows.read {written : List Trail} {before after : FileTree}
    (h : Grows written before after) {path : String} {contents : ByteArray}
    (hread : before.read path = .ok contents) (hother : before.leads path ∉ written) :
    after.read path = .ok contents := by
  obtain ⟨trail, hlocate, hentry⟩ := read_eq_ok_iff.mp hread
  rw [← leads_of_locate hlocate] at hother
  refine read_eq_ok_iff.mpr ⟨trail, h.locate hlocate, ?_⟩
  rcases h.elsewhere trail hother with hsame | ⟨hnone, -⟩
  · rw [hsame, hentry]
  · rw [hnone] at hentry
    cases hentry

theorem exists_set_of_write {tree after : FileTree} {path : String} {contents : ByteArray}
    (h : tree.write path contents = .ok after) :
    ∃ trail, tree.locate path = .ok trail ∧ tree.entry? trail ≠ some .directory ∧
      after = tree.set trail (.file contents) := by
  rw [write, bind_eq_ok_iff] at h
  obtain ⟨trail, hlocate, hset⟩ := h
  split at hset
  · cases hset
  · next hother => exact ⟨trail, hlocate, hother, (Except.ok.inj hset).symm⟩

theorem write_eq_ok {tree after : FileTree} {path : String} {contents : ByteArray}
    (h : tree.write path contents = .ok after) :
    after.locate path = .ok (tree.leads path) ∧ Grows [tree.leads path] tree after ∧
      after.read path = .ok contents := by
  obtain ⟨trail, hlocate, hother, rfl⟩ := exists_set_of_write h
  rw [← leads_of_locate hlocate]
  have hgrows := grows_set_file hother contents
  refine ⟨hgrows.locate hlocate, hgrows, read_eq_ok_iff.mpr ⟨trail, hgrows.locate hlocate, ?_⟩⟩
  exact lookup_set_self tree (ne_nil_of_not_directory hother) _

/-- A file can be written where the directory around it is and it is no directory itself. -/
structure Ready (tree : FileTree) (path : String) : Prop where
  parent : tree.isDirectory (Path.ofPieces (Path.components (Path.parent path))) = true
  place : ∃ trail, tree.locate path = .ok trail ∧ tree.entry? trail ≠ some .directory

section Ready

variable {tree : FileTree} {path : String} {contents : ByteArray}

theorem Ready.exists_write (h : Ready tree path) (contents : ByteArray) :
    ∃ after, tree.write path contents = .ok after := by
  obtain ⟨-, trail, hlocate, hentry⟩ := h
  rw [write, hlocate, ok_bind]
  split
  · next hdirectory => exact absurd hdirectory hentry
  · exact ⟨_, rfl⟩

/-- Writing a file leaves all places ready. -/
theorem Ready.of_write {other : String} {after : FileTree} (h : Ready tree other)
    (hwrite : tree.write path contents = .ok after) : Ready after other := by
  obtain ⟨hparent, trail, hlocate, hentry⟩ := h
  obtain ⟨around, haround, hdirectory⟩ := isDirectory_iff.mp hparent
  obtain ⟨written, -, hfile, rfl⟩ := exists_set_of_write hwrite
  have hgrows := grows_set_file hfile contents
  refine ⟨isDirectory_iff.mpr ⟨around, hgrows.locate haround, hgrows.directory around hdirectory⟩,
    trail, hgrows.locate hlocate, ?_⟩
  by_cases hsame : trail = written
  · rw [hsame, lookup_set_self tree (ne_nil_of_not_directory hfile)]
    exact nofun
  · rwa [lookup_set_of_ne tree hsame]

end Ready

theorem makeDirectory_eq_ok {tree after : FileTree} {path : String}
    (h : tree.makeDirectory path = .ok after) : Grows [] tree after := by
  rw [makeDirectory, bind_eq_ok_iff] at h
  obtain ⟨trail, -, hset⟩ := h
  split at hset
  · cases hset
  · next hnone => exact Except.ok.inj hset ▸ grows_set_directory hnone

/-! ### Where generated files go -/

/-- The trail after a step, from a working directory on. -/
def take (trail : Trail) : Path.Step → Trail
  | .root => []
  | .here => trail
  | .up => trail.dropLast
  | .enter name => trail ++ [name]

theorem follow_eq (trail : Trail) (piece : List Char) :
    follow trail piece = ((Path.stepOf? piece).map (take trail)).getD trail := by
  unfold follow Path.stepOf?
  split
  · rfl
  · split <;> rfl

/-- A path leads where its steps do. -/
theorem leads_eq (tree : FileTree) (path : String) :
    tree.leads path = (Path.steps path).foldl take tree.workingDirectory := by
  have hpieces : ∀ (parts : List (List Char)) (start : Trail),
      parts.foldl follow start = (parts.filterMap Path.stepOf?).foldl take start := by
    intro parts start
    rw [List.foldl_filterMap]
    congr 1
    funext trail piece
    rw [follow_eq]
    cases Path.stepOf? piece <;> rfl
  rw [leads, hpieces, Path.steps, List.foldl_append, Path.start]
  congr 1
  split
  · rfl
  · split <;> rfl

/-- The steps by name to the place that a path leads to. -/
def namesTo (tree : FileTree) (path : String) : List Path.Step :=
  (tree.leads path).map .enter

/-- A generated file goes into its folder in the directory that the output leads to, or in the one
that the documentation leads to. -/
theorem namesTo_destination (tree : FileTree) {name : String} (hname : '/' ∉ name.toList)
    (output docs : String) (artifact : Artifact) :
    tree.namesTo (artifact.destination output docs (artifact.path name)) =
      artifact.folder (tree.namesTo output) (tree.namesTo docs) ++
        [.enter (artifact.fileName name).toList] := by
  unfold namesTo
  rw [leads_eq, leads_eq, leads_eq, artifact.steps_destination hname]
  cases artifact <;> simp [Artifact.folder, take]

/-! ## Operations -/

/-- What an operation leaves of a tree stands in a relation to the tree. -/
def Leaves (r : FileTree → FileTree → Prop) (operation : StateM FileTree α) : Prop :=
  ∀ tree, r tree (operation.run tree).2

/-- The operation changes nothing. -/
abbrev Looks (operation : StateM FileTree α) : Prop :=
  Leaves (fun before after => after = before) operation

/-- The operation makes directories and nothing else. -/
abbrev Opens (operation : StateM FileTree α) : Prop := Leaves (Grows []) operation

theorem Looks.opens {operation : StateM FileTree α} (h : Looks operation) : Opens operation := by
  intro tree
  rw [h tree]
  exact .refl tree

theorem looks_pure (value : α) : Looks (pure value) := fun _ => rfl

theorem Looks.bind {operation : StateM FileTree α} {next : α → StateM FileTree β}
    (h : Looks operation) (hnext : ∀ value, Looks (next value)) : Looks (operation >>= next) :=
  fun tree => (hnext _ _).trans (h tree)

theorem Looks.run_bind {operation : StateM FileTree α} (h : Looks operation)
    (next : α → StateM FileTree β) (tree : FileTree) :
    (operation >>= next).run tree = (next (operation.run tree).1).run tree := by
  change (next (operation.run tree).1).run (operation.run tree).2 = _
  rw [h tree]

theorem Opens.bind {operation : StateM FileTree α} {next : α → StateM FileTree β}
    (h : Opens operation) (hnext : ∀ value, Opens (next value)) : Opens (operation >>= next) :=
  fun tree => (h tree).trans (hnext _ _)

theorem looks_read (path : String) : Looks (files.read path) := fun _ => rfl

theorem looks_isFile (path : String) : Looks (files.isFile path) := fun _ => rfl

theorem looks_isDirectory (path : String) : Looks (files.isDirectory path) := fun _ => rfl

theorem looks_readText (path : String) : Looks (files.readText path) := by
  refine (looks_read path).bind fun outcome => ?_
  split
  · exact looks_pure _
  · split <;> exact looks_pure _

theorem readText_eq_ok_iff {tree : FileTree} {path text : String} :
    ((files.readText path).run tree).1 = .ok text ↔
      ∃ bytes, tree.read path = .ok bytes ∧ Text.decodeUtf8 bytes = .ok text := by
  unfold Files.readText
  rw [(looks_read path).run_bind, show ((files.read path).run tree).1 = tree.read path from rfl]
  cases tree.read path with
  | error fault => simp [StateT.run_pure]
  | ok bytes =>
    simp only [Except.ok.injEq, exists_eq_left']
    cases Text.decodeUtf8 bytes with
    | error fault => exact ⟨nofun, nofun⟩
    | ok decoded =>
      change (Except.ok decoded : Except String String) = .ok text ↔ _
      rw [Except.ok.injEq, Except.ok.injEq]

theorem opens_makeDirectory (path : String) : Opens (files.makeDirectory path) := by
  intro tree
  change Grows [] tree (change (fun tree => tree.makeDirectory path) tree).2
  unfold change
  split
  · next hmade => exact makeDirectory_eq_ok hmade
  · exact .refl tree

theorem run_write_error {tree : FileTree} {path : String} {contents : ByteArray} {fault : FileFault}
    (h : tree.write path contents = .error fault) :
    (files.write path contents).run tree = (.error fault, tree) := by
  change change (fun tree => tree.write path contents) tree = _
  rw [change, h]

theorem run_write_ok {tree after : FileTree} {path : String} {contents : ByteArray}
    (h : tree.write path contents = .ok after) :
    (files.write path contents).run tree = (.ok (), after) := by
  change change (fun tree => tree.write path contents) tree = _
  rw [change, h]

theorem opens_ensureDirectory (path : String) : Opens (files.ensureDirectory path) := by
  refine (opens_makeDirectory path).bind fun outcome => ?_
  cases outcome with
  | ok _ => exact (looks_pure _).opens
  | error fault =>
    refine (looks_isDirectory path).opens.bind fun found => ?_
    split <;> exact (looks_pure _).opens

theorem opens_ensureComponents (parts : List (List Char)) :
    Opens (files.ensureComponents parts) := by
  induction parts with
  | nil => exact (looks_pure _).opens
  | cons last around ih =>
    refine (opens_ensureDirectory _).bind fun outcome => ?_
    split
    · split
      · exact (looks_pure _).opens
      · refine ih.bind fun outer => ?_
        cases outer with
        | ok _ => exact opens_ensureDirectory _
        | error fault => exact (looks_pure _).opens
    · exact (looks_pure _).opens

theorem opens_ensureDirectories (path : String) : Opens (files.ensureDirectories path) := by
  unfold Files.ensureDirectories
  split
  · exact (looks_pure _).opens
  · exact opens_ensureComponents _

theorem run_ensureDirectory {tree : FileTree} {path : String} (h : tree.isDirectory path = true) :
    (files.ensureDirectory path).run tree = (.ok (), tree) := by
  obtain ⟨trail, hlocate, hentry⟩ := isDirectory_iff.mp h
  have hmake : tree.makeDirectory path = .error .exists := by
    rw [makeDirectory, hlocate, ok_bind, hentry]
  have hrun : (files.makeDirectory path).run tree = (.error .exists, tree) := by
    change change (fun tree => tree.makeDirectory path) tree = _
    rw [change, hmake]
  unfold Files.ensureDirectory
  rw [StateT.run_bind, hrun]
  change ((files.isDirectory path >>= _).run tree) = _
  rw [(looks_isDirectory path).run_bind]
  change StateT.run (if tree.isDirectory path = true then _ else _) tree = _
  rw [if_pos h]
  rfl

/-- Making a directory that is there changes nothing. -/
theorem run_ensureDirectories {tree : FileTree} {path : String}
    (h : tree.isDirectory (Path.ofPieces (Path.components path)) = true) :
    (files.ensureDirectories path).run tree = (.ok (), tree) := by
  unfold Files.ensureDirectories
  split
  · rfl
  · cases hparts : (Path.components path).reverse with
    | nil => rfl
    | cons last around =>
      have hback : (last :: around).reverse = Path.components path := by
        rw [← hparts, List.reverse_reverse]
      rw [Files.ensureComponents, StateT.run_bind, hback, run_ensureDirectory h]
      rfl

end FileTree

end ProviderGen
