/-
Where generated files go.

A path is a list of steps: it starts at the root or where it is read, and each piece between its
slashes goes up or enters something by name. Joining a relative path to a directory takes its steps
after those of the directory (`steps_join`). The name of a resource is spelled from one segment of
a path, so it has no slash, whatever the document has there, and the name of a file with it is one
step. The four files of a resource are told apart by how their names begin and end and by the
directory of a page, so files of resources with distinct names are never the same.
-/
import ProviderGen.Proofs.BuiltinTemplates
import ProviderGen.Proofs.Levels
import ProviderGen.Proofs.Reading
import ProviderGen.Proofs.Spelling

set_option autoImplicit false

namespace ProviderGen

open Naming

/-! ## Steps of a path -/

namespace Path

/-- A step on a path: to start at the root or, if that is said, where the path is read; to go up;
or to enter something by name. -/
inductive Step where
  | root
  | here
  | up
  | enter (name : List Char)
  deriving DecidableEq, Repr

/-- What can be entered by name. -/
def IsName (name : List Char) : Prop :=
  name ≠ [] ∧ name ≠ ['.'] ∧ name ≠ ['.', '.'] ∧ '/' ∉ name

/-- The step of a piece between slashes. -/
def stepOf? (piece : List Char) : Option Step :=
  if isIdle piece then none else if piece = ['.', '.'] then some .up else some (.enter piece)

/-- The steps before the pieces. -/
def start (path : String) : List Step :=
  if isAbsolute path then [.root]
  else if (pieces '/' path.toList).head? = some ['.'] then [.here]
  else []

/-- The steps of a path. -/
def steps (path : String) : List Step :=
  start path ++ (pieces '/' path.toList).filterMap stepOf?

/-- A path that starts by entering something. -/
def StartsByName (path : String) : Prop :=
  isAbsolute path = false ∧ (pieces '/' path.toList).head? ≠ some ['.']

theorem start_eq_nil {path : String} (h : StartsByName path) : start path = [] := by
  unfold start
  rw [h.1, if_neg (by simp), if_neg h.2]

/-- Joining puts the pieces of a relative path after those of a directory, an idle one apart. -/
theorem exists_pieces_join {directory path : String} (hdirectory : directory ≠ "")
    (hpath : isAbsolute path = false) :
    ∃ front, front ≠ [] ∧ pieces '/' (join directory path).toList =
        front ++ pieces '/' path.toList ∧
      (pieces '/' directory.toList = front ∨ pieces '/' directory.toList = front ++ [[]]) := by
  unfold join
  rw [hpath, if_neg (by simp)]
  by_cases hslash : directory.toList.getLast? = some '/'
  · obtain ⟨front, hfront⟩ := List.getLast?_eq_some_iff.mp hslash
    rw [if_pos (Or.inr hslash), String.toList_append, hfront, List.append_assoc,
      List.singleton_append, pieces_append_sep, pieces_append_sep]
    exact ⟨_, pieces_ne_nil '/' front, rfl, Or.inr rfl⟩
  · rw [if_neg (not_or.mpr ⟨hdirectory, hslash⟩), String.toList_append, String.toList_append,
      List.append_assoc]
    exact ⟨_, pieces_ne_nil '/' directory.toList, pieces_append_sep .., Or.inl rfl⟩

theorem isAbsolute_join {directory path : String} (hdirectory : directory ≠ "")
    (hpath : isAbsolute path = false) :
    isAbsolute (join directory path) = isAbsolute directory := by
  have hne : directory.toList ≠ [] := fun h => hdirectory (String.toList_eq_nil_iff.mp h)
  obtain ⟨c, rest, hlist⟩ := List.exists_cons_of_ne_nil hne
  unfold join
  rw [hpath, if_neg (by simp)]
  unfold isAbsolute
  split <;> simp [String.toList_append, hlist]

/-- **Joining a relative path to a directory takes its steps after those of the directory.** -/
theorem steps_join {path : String} (directory : String) (hpath : StartsByName path) :
    steps (join directory path) = steps directory ++ steps path := by
  by_cases hdirectory : directory = ""
  · subst hdirectory
    unfold join
    rw [hpath.1, if_neg (by simp), if_pos (Or.inl rfl), String.empty_append]
    rfl
  · obtain ⟨front, hne, hjoin, hfront⟩ := exists_pieces_join hdirectory hpath.1
    obtain ⟨first, more, rfl⟩ := List.exists_cons_of_ne_nil hne
    have hhead : (pieces '/' directory.toList).head? = some first := by
      rcases hfront with h | h <;> rw [h] <;> rfl
    have hsteps : (pieces '/' directory.toList).filterMap stepOf? =
        (first :: more).filterMap stepOf? := by
      rcases hfront with h | h <;> rw [h]
      rw [List.filterMap_append]
      exact List.append_nil _
    have hstart : start (join directory path) = start directory := by
      unfold start
      rw [isAbsolute_join hdirectory hpath.1, hjoin, hhead]
      rfl
    rw [steps, steps, steps, hstart, hjoin, hsteps, start_eq_nil hpath, List.filterMap_append,
      List.nil_append, List.append_assoc]

/-! ### Names -/

section Names

variable {name : String}

/-- A name is a path of one step. -/
theorem startsByName_of_isName (h : IsName name.toList) : StartsByName name := by
  obtain ⟨-, hdot, -, hslash⟩ := h
  constructor
  · rw [isAbsolute, beq_eq_false_iff_ne]
    exact fun hhead => hslash (List.mem_of_head? hhead)
  · rw [pieces_of_not_mem hslash, List.head?_cons, Option.some_inj.ne]
    exact hdot

theorem steps_of_isName (h : IsName name.toList) : steps name = [.enter name.toList] := by
  have hstep : stepOf? name.toList = some (.enter name.toList) := by
    simp [stepOf?, isIdle, h.1, h.2.1, h.2.2.1]
  rw [steps, start_eq_nil (startsByName_of_isName h), pieces_of_not_mem h.2.2.2, List.nil_append,
    List.filterMap_cons_some hstep, List.filterMap_nil]

/-- A text of more than two characters without a slash is a name. -/
theorem isName_of_length (hlength : 2 < name.toList.length) (hslash : '/' ∉ name.toList) :
    IsName name.toList := by
  refine ⟨fun h => ?_, fun h => ?_, fun h => ?_, hslash⟩ <;>
  · rw [h] at hlength
    exact absurd hlength (by decide)

/-- A directory that does not end in a slash is parted by one from what is in it. -/
theorem join_eq {directory path : String} (hempty : directory.toList ≠ [])
    (hslash : directory.toList.getLast? ≠ some '/') (hpath : isAbsolute path = false) :
    join directory path = directory ++ "/" ++ path := by
  unfold join
  rw [hpath, if_neg (by simp), if_neg]
  exact not_or.mpr ⟨fun h => hempty (String.toList_eq_nil_iff.mpr h), hslash⟩

theorem getLast?_of_isName (h : IsName name.toList) : name.toList.getLast? ≠ some '/' :=
  fun hlast => h.2.2.2 (List.mem_of_getLast? hlast)

theorem join_of_isName {path : String} (h : IsName name.toList) (hpath : isAbsolute path = false) :
    join name path = name ++ "/" ++ path :=
  join_eq h.1 (getLast?_of_isName h) hpath

/-- What is in a directory with a name starts by entering the directory. -/
theorem startsByName_join {directory : String} (hdirectory : IsName directory.toList)
    (hname : IsName name.toList) : StartsByName (join directory name) := by
  have hempty : directory ≠ "" := fun h => hdirectory.1 (String.toList_eq_nil_iff.mpr h)
  have hrelative := (startsByName_of_isName hname).1
  refine ⟨(isAbsolute_join hempty hrelative).trans (startsByName_of_isName hdirectory).1, ?_⟩
  rw [join_of_isName hdirectory hrelative, String.toList_append, String.toList_append,
    List.append_assoc, show "/".toList = ['/'] from rfl, List.singleton_append, pieces_append_sep,
    pieces_of_not_mem hdirectory.2.2.2, List.singleton_append, List.head?_cons,
    Option.some_inj.ne]
  exact hdirectory.2.1

/-- The first of three names can be joined last. -/
theorem join_join {first second : String} (hfirst : IsName first.toList)
    (hsecond : IsName second.toList) (hname : IsName name.toList) :
    join (join first second) name = first ++ "/" ++ join second name := by
  have hrelative := (startsByName_of_isName hname).1
  have hlist : (first ++ "/" ++ second).toList = (first ++ "/").toList ++ second.toList :=
    String.toList_append ..
  have hlast : (first ++ "/" ++ second).toList.getLast? = second.toList.getLast? := by
    rw [hlist, List.getLast?_append_of_ne_nil _ hsecond.1]
  have hempty : (first ++ "/" ++ second).toList ≠ [] := by
    rw [hlist]
    exact List.append_ne_nil_of_right_ne_nil _ hsecond.1
  rw [join_of_isName hfirst (startsByName_of_isName hsecond).1, join_of_isName hsecond hrelative,
    join_eq hempty (hlast ▸ getLast?_of_isName hsecond) hrelative]
  simp only [String.append_assoc]

/-- Dropping the first directory of a path leaves what is in it. -/
theorem dropFirst_append {component path : String} (hpath : isAbsolute path = false) :
    dropFirst component (component ++ "/" ++ path) = path := by
  have hlist : (component ++ "/" ++ path).toList = component.toList ++ ['/'] ++ path.toList := by
    rw [String.toList_append, String.toList_append]
    rfl
  have hprefix :
      (component.toList ++ ['/']).isPrefixOf (component ++ "/" ++ path).toList = true := by
    rw [hlist, List.isPrefixOf_iff_prefix]
    exact List.prefix_append ..
  have hlength : component.toList.length + 1 = (component.toList ++ ['/']).length := by
    rw [List.length_append]
    rfl
  have hdrop : path.toList.dropWhile (· == '/') = path.toList := by
    cases hchars : path.toList with
    | nil => rfl
    | cons c rest =>
      rw [isAbsolute, hchars, List.head?_cons] at hpath
      exact List.dropWhile_cons_of_neg (by simpa using hpath)
  unfold dropFirst
  rw [if_pos hprefix, hlist, hlength, List.drop_left, hdrop, String.ofList_toList]

end Names

end Path

/-! ## Files of a resource -/

namespace Artifact

open ProviderGen.Path

/-- How the name of the file begins. -/
def opening : Artifact → String
  | resource => "resource_"
  | dataSource => "datasource_"
  | resourcePage => ""
  | dataSourcePage => ""

/-- How the name of the file ends. -/
def ending (artifact : Artifact) : String := if artifact.isPage then ".md" else ".go"

/-- The name of the file for a resource. -/
def fileName (name : String) (artifact : Artifact) : String :=
  artifact.opening ++ name ++ artifact.ending

/-- Where the file goes, given the steps to the directory of the output and to that of the
documentation. -/
def folder (output docs : List Path.Step) : Artifact → List Path.Step
  | resource => output
  | dataSource => output
  | resourcePage => docs ++ [.enter "resources".toList]
  | dataSourcePage => docs ++ [.enter "data-sources".toList]

variable {name : String} (artifact : Artifact)

theorem isName_fileName (hname : '/' ∉ name.toList) :
    IsName (artifact.fileName name).toList := by
  apply isName_of_length
  · have hending : artifact.ending.toList.length = 3 := by cases artifact <;> decide
    rw [fileName, String.toList_append, String.toList_append, List.length_append]
    omega
  · have hopening : '/' ∉ artifact.opening.toList := by cases artifact <;> decide
    have hending : '/' ∉ artifact.ending.toList := by cases artifact <;> decide
    rw [fileName, String.toList_append, String.toList_append, List.mem_append, List.mem_append]
    tauto

/-- A source has its name for its path. -/
theorem path_of_source (name : String) (h : artifact.isPage = false) :
    artifact.path name = artifact.fileName name ∧
      ∀ output docs, artifact.folder output docs = output := by
  cases artifact with
  | resource => exact ⟨rfl, fun _ _ => rfl⟩
  | dataSource => exact ⟨rfl, fun _ _ => rfl⟩
  | resourcePage => cases h
  | dataSourcePage => cases h

/-- A page is in a directory of the documentation. -/
theorem path_of_page (name : String) (h : artifact.isPage = true) :
    ∃ directory, IsName directory.toList ∧
      artifact.path name = join (join "docs" directory) (artifact.fileName name) ∧
      ∀ output docs, artifact.folder output docs = docs ++ [.enter directory.toList] := by
  cases artifact with
  | resource => cases h
  | dataSource => cases h
  | resourcePage =>
    have hdirectory : join "docs" "resources" = "docs/resources" := by decide
    refine ⟨"resources", isName_of_length (by decide) (by decide), ?_, fun _ _ => rfl⟩
    rw [hdirectory, fileName, opening, String.empty_append]
    rfl
  | dataSourcePage =>
    have hdirectory : join "docs" "data-sources" = "docs/data-sources" := by decide
    refine ⟨"data-sources", isName_of_length (by decide) (by decide), ?_, fun _ _ => rfl⟩
    rw [hdirectory, fileName, opening, String.empty_append]
    rfl

theorem isName_docs : IsName "docs".toList := isName_of_length (by decide) (by decide)

/-- The path of a page enters the documentation and leads on to the file, that of a source is the
name of the file. -/
theorem steps_path (hname : '/' ∉ name.toList) :
    steps (artifact.path name) = artifact.folder [] [.enter "docs".toList] ++
      [.enter (artifact.fileName name).toList] := by
  have hfile := artifact.isName_fileName hname
  cases hpage : artifact.isPage with
  | false =>
    obtain ⟨hpath, hfolder⟩ := artifact.path_of_source name hpage
    rw [hpath, hfolder, steps_of_isName hfile, List.nil_append]
  | true =>
    obtain ⟨directory, hdirectory, hpath, hfolder⟩ := artifact.path_of_page name hpage
    rw [hpath, hfolder, steps_join _ (startsByName_of_isName hfile),
      steps_join _ (startsByName_of_isName hdirectory), steps_of_isName isName_docs,
      steps_of_isName hdirectory, steps_of_isName hfile]

/-- **A file goes where its name says**, in the directory of the output or, if it is a page, in its
directory of the documentation. -/
theorem steps_destination (hname : '/' ∉ name.toList) (output docs : String) :
    steps (artifact.destination output docs (artifact.path name)) =
      artifact.folder (steps output) (steps docs) ++
        [.enter (artifact.fileName name).toList] := by
  have hfile := artifact.isName_fileName hname
  unfold destination
  cases hpage : artifact.isPage with
  | false =>
    obtain ⟨hpath, hfolder⟩ := artifact.path_of_source name hpage
    rw [hpath, hfolder, if_neg (by simp), steps_join _ (startsByName_of_isName hfile),
      steps_of_isName hfile]
  | true =>
    -- without the directory that is dropped, the path leads on from the other one
    obtain ⟨directory, hdirectory, hpath, hfolder⟩ := artifact.path_of_page name hpage
    have hstarts := startsByName_join hdirectory hfile
    rw [hpath, hfolder, if_pos rfl, join_join isName_docs hdirectory hfile,
      dropFirst_append hstarts.1, steps_join _ hstarts, steps_join _ (startsByName_of_isName hfile),
      steps_of_isName hdirectory, steps_of_isName hfile, List.append_assoc]

/-! ### Telling files apart -/

/-- The last character of the name of a file tells whether it is a page. -/
theorem getLast?_fileName :
    (artifact.fileName name).toList.getLast? = some (if artifact.isPage then 'd' else 'o') := by
  rw [fileName, ending, String.toList_append]
  cases artifact.isPage with
  | false => exact List.getLast?_append_of_ne_nil _ (by decide)
  | true => exact List.getLast?_append_of_ne_nil _ (by decide)

/-- The name of a file tells how it begins and ends and the name of the resource. -/
theorem fileName_inj {a b : Artifact} {n m : String} (h : a.fileName n = b.fileName m) :
    a.isPage = b.isPage ∧ a.opening = b.opening ∧ n = m := by
  have hpage : a.isPage = b.isPage := by
    have hlast := congrArg (fun s : String => s.toList.getLast?) h
    simp only [getLast?_fileName, Option.some.injEq] at hlast
    cases ha : a.isPage <;> cases hb : b.isPage <;> simp_all
  have hopen : a.opening ++ n = b.opening ++ m := by
    rw [fileName, fileName, ending, ending, hpage] at h
    exact String.append_left_inj _ |>.mp h
  have hopening : a.opening = b.opening := by
    -- of two sources the first character tells which is which
    have hfirst := congrArg (fun s : String => s.toList.head?) hopen
    cases a <;> cases b <;> simp [opening, isPage] at hpage hfirst ⊢
  rw [hopening, String.append_right_inj] at hopen
  exact ⟨hpage, hopening, hopen⟩

/-- **No two files have the same place**: the place tells the kind of the file and the name of the
resource. -/
theorem folder_fileName_inj {output docs : List Path.Step} {a b : Artifact} {n m : String}
    (h : a.folder output docs ++ [.enter (a.fileName n).toList] =
      b.folder output docs ++ [.enter (b.fileName m).toList]) : a = b ∧ n = m := by
  obtain ⟨hfolder, hfile⟩ := List.append_inj' h rfl
  simp only [List.cons.injEq, Path.Step.enter.injEq, String.toList_inj, and_true] at hfile
  obtain ⟨hpage, hopening, rfl⟩ := fileName_inj hfile
  refine ⟨?_, rfl⟩
  -- two pages of one name are in different directories
  cases a <;> cases b <;> simp [opening, isPage, folder] at hpage hopening hfolder ⊢

end Artifact

/-! ## Files of a document -/

/-- Whatever steps are seen in the places of files, each in the folder for its kind and under the
name for its kind and resource, they are distinct if no two resources have one name. -/
theorem places_apart (view : Artifact × String → List Path.Step) {output docs : List Path.Step}
    (hview : ∀ (artifact : Artifact) (name : String), '/' ∉ name.toList →
      view (artifact, artifact.path name) =
        artifact.folder output docs ++ [.enter (artifact.fileName name).toList])
    {resources : List Resource} (hnames : (resources.map Resource.name).Nodup)
    (hslash : ∀ r ∈ resources, '/' ∉ r.name.toList) {files : List GeneratedFile}
    (hfiles : files.map GeneratedFile.place = resources.flatMap Resource.places) :
    (files.map fun file => view file.place).Nodup ∧
      ∀ file ∈ files, ∃ name, Path.IsName name ∧
        view file.place = file.artifact.folder output docs ++ [.enter name] := by
  have hplaces : ∀ r : Resource,
      r.places = Artifact.all.map fun artifact => (artifact, artifact.path r.name) := fun _ => rfl
  constructor
  · have hmap : files.map (fun file => view file.place) =
        (resources.flatMap Resource.places).map view := by
      rw [← hfiles, List.map_map]
      rfl
    rw [hmap, List.map_flatMap, List.nodup_flatMap]
    constructor
    · intro r hr
      rw [hplaces, List.map_map]
      refine List.Nodup.map_on (fun a _ b _ hsame => ?_) (by decide)
      rw [Function.comp, Function.comp, hview a _ (hslash r hr), hview b _ (hslash r hr)] at hsame
      exact (Artifact.folder_fileName_inj hsame).1
    · rw [List.Nodup, List.pairwise_map] at hnames
      refine hnames.imp_of_mem fun {r s} hr hs hne => List.disjoint_left.mpr ?_
      intro steps hmem hmem'
      simp only [hplaces, List.map_map, List.mem_map, Function.comp] at hmem hmem'
      obtain ⟨a, -, rfl⟩ := hmem
      obtain ⟨b, -, hsame⟩ := hmem'
      rw [hview a _ (hslash r hr), hview b _ (hslash s hs)] at hsame
      exact hne (Artifact.folder_fileName_inj hsame).2.symm
  · intro file hfile
    have hplace : file.place ∈ resources.flatMap Resource.places :=
      hfiles ▸ List.mem_map_of_mem hfile
    obtain ⟨r, hr, hmem⟩ := List.mem_flatMap.mp hplace
    rw [hplaces, List.mem_map] at hmem
    obtain ⟨artifact, -, hsame⟩ := hmem
    have hkind : artifact = file.artifact := congrArg Prod.fst hsame
    rw [← hsame, ← hkind]
    exact ⟨_, artifact.isName_fileName (hslash r hr), hview artifact r.name (hslash r hr)⟩

/-- **Output files never collide and never escape.** Generation for the resources of a document has
four files for each. Their paths are distinct, and so are their destinations, step by step, whatever
the two directories are. A source goes into the directory of the output and a page into its
directory of the documentation, each under a name: nothing starts at the root, goes up or enters
another directory. -/
theorem outputPaths {bytes : ByteArray} {resources : List Resource}
    (h : parseDocument bytes = .ok resources) (config : Config) :
    ∃ files, generateAll Templates.builtin.render config resources = .ok files ∧
      files.length = 4 * resources.length ∧
      (files.map fun file => Path.steps file.path).Nodup ∧
      (∀ file ∈ files, ∃ name, Path.IsName name ∧
        Path.steps file.path =
          file.artifact.folder [] [.enter "docs".toList] ++ [.enter name]) ∧
      ∀ output docs : String,
        (files.map fun file =>
          Path.steps (file.artifact.destination output docs file.path)).Nodup ∧
        ∀ file ∈ files, ∃ name, Path.IsName name ∧
          Path.steps (file.artifact.destination output docs file.path) =
            file.artifact.folder (Path.steps output) (Path.steps docs) ++ [.enter name] := by
  obtain ⟨hnames, hresource⟩ := names_of_parseDocument h
  have hslash : ∀ r ∈ resources, '/' ∉ r.name.toList := by
    intro r hr
    rw [hresource r hr]
    exact slash_not_mem_resourceName r.collectionPath
  obtain ⟨files, hfiles, hplaces⟩ := exists_generateAll_builtin config resources
  have hlength : files.length = 4 * resources.length := by
    rw [← List.length_map GeneratedFile.place, hplaces, List.length_flatMap]
    simp [Resource.places, Nat.mul_comm]
  obtain ⟨hpaths, hpath⟩ := places_apart (fun place => Path.steps place.2)
    (fun artifact _ hname => artifact.steps_path hname) hnames hslash hplaces
  refine ⟨files, hfiles, hlength, hpaths, hpath, fun output docs => ?_⟩
  exact places_apart (fun place => Path.steps (place.1.destination output docs place.2))
    (fun artifact _ hname => artifact.steps_destination hname output docs) hnames hslash hplaces

/-- A document whose paths lead up and to a hidden file. -/
def escapeLines : List String :=
  documentLines ["\"/..\":\x7b\x7d,", "\"/../etc.Passwd\":\x7b\x7d,", "\"/v1/.git\":\x7b\x7d"]

theorem escapeLines_names :
    (resourcesOfJson (escapeLines.flatMap String.toList)).map (List.map Resource.name) =
      some ["etc_passwd", "git"] := by
  decide +kernel

/-- The eight files stay where they belong: the sources in `/srv`, the pages of the resources in the
directory for them beside it. -/
theorem escapeLines_outputPaths :
    ∃ resources files, parseDocument (String.join escapeLines).toUTF8 = .ok resources ∧
      resources.map Resource.name = ["etc_passwd", "git"] ∧
      generateAll Templates.builtin.render {} resources = .ok files ∧ files.length = 8 ∧
      (files.map fun file =>
        Path.steps (file.artifact.destination "/srv" "../wiki" file.path)).Nodup ∧
      ∀ file ∈ files, ∃ name, Path.IsName name ∧
        (file.artifact = .resource →
          Path.steps (file.artifact.destination "/srv" "../wiki" file.path) =
            [.root, .enter "srv".toList, .enter name]) ∧
        (file.artifact = .resourcePage →
          Path.steps (file.artifact.destination "/srv" "../wiki" file.path) =
            [.up, .enter "wiki".toList, .enter "resources".toList, .enter name]) := by
  obtain ⟨resources, hparse, hnames⟩ := exists_parseDocument escapeLines_names
  obtain ⟨files, hfiles, hlength, -, -, hdestinations⟩ := outputPaths hparse {}
  obtain ⟨hnodup, hplaces⟩ := hdestinations "/srv" "../wiki"
  have hcount : resources.length = 2 := by
    rw [← List.length_map Resource.name, hnames]
    rfl
  refine ⟨resources, files, hparse, hnames, hfiles, by rw [hlength, hcount], hnodup, ?_⟩
  intro file hfile
  obtain ⟨name, hname, hsteps⟩ := hplaces file hfile
  refine ⟨name, hname, fun hkind => ?_, fun hkind => ?_⟩
  · have hroot : Path.steps "/srv" = [.root, .enter "srv".toList] := by decide
    rw [hsteps, hkind, hroot]
    rfl
  · have hwiki : Path.steps "../wiki" = [.up, .enter "wiki".toList] := by decide
    rw [hsteps, hkind, hwiki]
    rfl

end ProviderGen
