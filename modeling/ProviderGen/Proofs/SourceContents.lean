/-
What source files contain.

Each section of the template of a source file writes the lines that `Source` has for it, so the
whole file is `Source.lines`, whatever the settings and the resource are. The sections with a
choice or a loop are settled one by one, and the others by filling in. What the two files declare
and call is then known from the kinds of their lines: they list the same records in one order, and
set a path or make a call just if the resource has what that takes. A path that is asked for one
by its identifier is never empty, as documents have no payload and no deletion without one.
-/
import ProviderGen.Proofs.Pairing
import ProviderGen.Proofs.Reading
import ProviderGen.Proofs.SourceText

set_option autoImplicit false

namespace ProviderGen

open ProviderGen.Text SourceLine

section Sections

variable (config : Config) (r : Resource)

/-- What templates show under the names that source files use. -/
@[simp] theorem Resource.shown_context :
    r.shown config "package_name" = config.packageName ∧
      r.shown config "resource_name" = r.name ∧
      r.shown config "original_name" = r.apiName ∧
      r.shown config "type_name" = Source.fullName config r ∧
      r.shown config "struct_name" = Source.typeName r .resource ∧
      r.shown config "constructor" = Source.constructorName r .resource ∧
      r.shown config "model_name" = Source.modelName r .resource ∧
      r.shown config "data_source_struct_name" = Source.typeName r .dataSource ∧
      r.shown config "data_source_constructor" = Source.constructorName r .dataSource ∧
      r.shown config "data_source_model_name" = Source.modelName r .dataSource ∧
      r.shown config "collection_path" = r.collectionPath ∧
      r.shown config "item_path" = r.itemPath :=
  ⟨rfl, rfl, rfl, rfl, rfl, rfl, rfl, rfl, rfl, rfl, rfl, rfl⟩

/-! ## Sections of texts and names -/

/-- The sections of the file of a resource that are filled in. -/
theorem filled_resource :
    filled config r Builtin.resourceChecks = below (Source.resourceChecks r) ∧
      filled config r Builtin.resourceConstructor = below (Source.resourceConstructor config r) ∧
      filled config r Builtin.resourceType = below (Source.resourceType r) ∧
      filled config r Builtin.resourceMetadata = below (Source.resourceMetadata r) ∧
      filled config r Builtin.resourceConfigure = below (Source.resourceConfigure r) ∧
      filled config r Builtin.resourceCreate = below (Source.resourceCreate config r) ∧
      filled config r Builtin.resourceImport = below (Source.resourceImport r) := by
  -- both sides are the same texts and names, as long as no two texts are put together
  simp [-String.reduceAppend, String.append_assoc,
    Builtin.resourceChecks, Source.resourceChecks,
    Builtin.resourceConstructor, Source.resourceConstructor,
    Builtin.resourceType, Source.resourceType,
    Builtin.resourceMetadata, Source.resourceMetadata,
    Builtin.resourceConfigure, Source.resourceConfigure,
    Builtin.resourceCreate, Source.resourceCreate,
    Builtin.resourceImport, Source.resourceImport]

/-- The sections of the file of a data source that are filled in. -/
theorem filled_dataSource :
    filled config r Builtin.dataSourceImports = fileText (Source.dataSourceImports config) ∧
      filled config r Builtin.dataSourceChecks = below (Source.dataSourceChecks r) ∧
      filled config r Builtin.dataSourceConstructor =
        below (Source.dataSourceConstructor config r) ∧
      filled config r Builtin.dataSourceType = below (Source.dataSourceType r) ∧
      filled config r Builtin.dataSourceMetadata = below (Source.dataSourceMetadata r) ∧
      filled config r Builtin.dataSourceConfigure = below (Source.dataSourceConfigure r) := by
  simp [-String.reduceAppend, String.append_assoc,
    Builtin.dataSourceImports, Source.dataSourceImports,
    Builtin.dataSourceChecks, Source.dataSourceChecks,
    Builtin.dataSourceConstructor, Source.dataSourceConstructor,
    Builtin.dataSourceType, Source.dataSourceType,
    Builtin.dataSourceMetadata, Source.dataSourceMetadata,
    Builtin.dataSourceConfigure, Source.dataSourceConfigure]

/-! ## Imports and models -/

theorem writes_resourceImports :
    Writes config r Builtin.resourceImports (fileText (Source.resourceImports config r)) := by
  refine .around (n := 3) rfl writes_packages rfl rfl ?_
  simp [-String.reduceAppend, String.append_assoc, Builtin.resourceImports, Source.resourceImports]

theorem writes_resourceModel :
    Writes config r Builtin.resourceModel (below (Source.resourceModel config r)) := by
  refine .around (n := 7) rfl writes_modelFields rfl rfl ?_
  simp [-String.reduceAppend, String.append_assoc, Builtin.resourceModel, Source.resourceModel,
    Source.model]

theorem writes_dataSourceModel :
    Writes config r Builtin.dataSourceModel (below (Source.dataSourceModel r)) := by
  refine .around (n := 3) rfl writes_modelFields rfl rfl ?_
  simp [-String.reduceAppend, String.append_assoc, Builtin.dataSourceModel, Source.dataSourceModel,
    Source.model]

/-! ## Schemas -/

theorem Mode.eval_description (mode : Mode) {scope : Scope} (hscope : scope.Knows config r) :
    mode.description.eval scope = .ok (.string (Source.description r mode)) := by
  have hname : scope.lookup? ["resource_name"] = some (.string r.name) := hscope _ _ rfl
  cases mode <;>
    simp [-String.reduceAppend, Mode.description, Source.description, Expr.eval, Expr.evalJoin,
      Scope.lookup, hname, joinable, ok_bind, pure, Except.pure, String.append_assoc]

/-- The beginning of the schema shows the description. -/
theorem prints_opening {scope : Scope} {description : String}
    (h : scope.lookup? ["description"] = some (.string description)) :
    Prints Mode.opening scope
      ("\n" ++ ("\tresp.Schema = schema.Schema\x7b" ++
        ("\n" ++ ("\t\tMarkdownDescription: " ++ quote description)))) := by
  have hput : (Part.put (.filter (.name ["description"]) "go_string" [])).render scope =
      .ok (quote description, scope) := by
    rw [Part.render, Expr.eval, Expr.eval, Scope.lookup, h]
    rfl
  have hquote : Prints [.put (.filter (.name ["description"]) "go_string" [])] scope
      (quote description ++ "") := renderAll_cons hput Prints.nil
  have hopening : Prints Mode.opening scope _ :=
    hquote.lines ["", "\tresp.Schema = schema.Schema\x7b", "\t\tMarkdownDescription: "]
  simp only [String.intercalate_cons_cons, String.intercalate_singleton, String.empty_append,
    String.append_empty, String.append_assoc] at hopening
  exact hopening

/-- The parts of the template from the end of the description to that of the schema. -/
def Mode.mapParts (mode : Mode) : Template :=
  [.lines [",", "\t\tAttributes: map[string]schema.Attribute\x7b"],
   .each "field" (.name ["fields"]) mode.entryParts,
   .lines ["", "\t\t\x7d,", "\t\x7d", "\x7d"]]

theorem writes_mapParts (mode : Mode) :
    Writes config r mode.mapParts
      ("," ++ below (Source.attributes r mode ++ codes ["\t\x7d", "\x7d"])) := by
  refine .around (n := 1) rfl (writes_entries mode) rfl rfl ?_
  simp [-String.reduceAppend, String.append_assoc, Mode.mapParts, Source.attributes]

/-- The definition of the description and what follows it write the schema. -/
theorem writes_schema (mode : Mode) :
    Writes config r (.define "description" mode.description :: (Mode.opening ++ mode.mapParts))
      (below (Source.schema r mode)) := by
  intro scope hscope
  let described := scope.define "description" (.string (Source.description r mode))
  have hdescribed : described.Knows config r := hscope.define rfl _
  have hvalue : described.lookup? ["description"] = some (.string (Source.description r mode)) :=
    scope.lookup?_define_self _ _
  obtain ⟨scope', hscope', hmap⟩ := writes_mapParts config r mode described hdescribed
  refine ⟨scope', hscope', ?_⟩
  rw [renderAll_define (mode.eval_description config r hscope)
    (renderAll_append (prints_opening hvalue) hmap)]
  simp [-String.reduceAppend, String.append_assoc, Source.schema, Source.attributes]

/-- A section whose first three parts are filled in and whose others write the schema. -/
theorem Writes.schema {parts : Template} {mode : Mode} {first : List SourceLine}
    (hparts : parts.drop 3 =
      .define "description" mode.description :: (Mode.opening ++ mode.mapParts))
    (hfront : (parts.take 3).all Part.isFilled = true)
    (hfirst : filled config r (parts.take 3) = below first) :
    Writes config r parts (below (first ++ Source.schema r mode)) := by
  have hwrites := (writes_filled hfront).append (hparts ▸ writes_schema config r mode)
  rw [List.take_append_drop, hfirst, ← below_append] at hwrites
  exact hwrites

theorem writes_resourceSchema :
    Writes config r Builtin.resourceSchema (below (Source.resourceSchema r)) := by
  refine .schema config r rfl rfl ?_
  simp [-String.reduceAppend, String.append_assoc, Builtin.resourceSchema]

theorem writes_dataSourceSchema :
    Writes config r Builtin.dataSourceSchema (below (Source.dataSourceSchema r)) := by
  refine .schema config r rfl rfl ?_
  simp [-String.reduceAppend, String.append_assoc, Builtin.dataSourceSchema]

/-! ## Functions that act on a single one -/

theorem writes_readPath : Writes config r [Builtin.readPath] (below (Source.readPath r)) := by
  obtain ⟨hflag, -⟩ := lookup_flags config r
  refine writes_choose_below hflag ?_ ?_
  · refine .around (n := 3) rfl (writes_identifier "state") rfl rfl ?_
    simp [-String.reduceAppend, String.append_assoc]
  · refine .of_filled rfl ?_
    simp [-String.reduceAppend, String.append_assoc]

theorem writes_resourceRead :
    Writes config r Builtin.resourceRead (below (Source.resourceRead config r)) := by
  refine .around (n := 5) rfl (writes_readPath config r) rfl rfl ?_
  simp [-String.reduceAppend, String.append_assoc, Builtin.resourceRead, Source.resourceRead]

theorem writes_dataSourceRead :
    Writes config r Builtin.dataSourceRead (below (Source.dataSourceRead config r)) := by
  refine .around (n := 5) rfl (writes_readPath config r) rfl rfl ?_
  simp [-String.reduceAppend, String.append_assoc, Builtin.dataSourceRead, Source.dataSourceRead]

theorem writes_resourceUpdate :
    Writes config r Builtin.resourceUpdate (below (Source.resourceUpdate config r)) := by
  obtain ⟨-, hflag, -⟩ := lookup_flags config r
  refine .around (n := 5) rfl
    (?_ : Writes config r _ (below (Source.resourceUpdateBody config r))) rfl rfl ?_
  · refine writes_choose_below hflag ?_ ?_
    · refine .around (n := 3) rfl (writes_identifier "plan") rfl rfl ?_
      simp [-String.reduceAppend, String.append_assoc]
    · refine .of_filled rfl ?_
      simp [-String.reduceAppend, String.append_assoc]
  · simp [-String.reduceAppend, String.append_assoc, Builtin.resourceUpdate, Source.resourceUpdate]

theorem writes_resourceDelete :
    Writes config r Builtin.resourceDelete (below (Source.resourceDelete config r)) := by
  obtain ⟨-, -, hflag, -⟩ := lookup_flags config r
  refine .around (n := 5) rfl
    (?_ : Writes config r _ (below (Source.resourceDeleteBody config r))) rfl rfl ?_
  · refine writes_choose_below hflag ?_ ?_
    · refine .around (n := 3) rfl (writes_identifier "state") rfl rfl ?_
      simp [-String.reduceAppend, String.append_assoc]
    · refine .of_filled rfl ?_
      simp [-String.reduceAppend]
  · simp [-String.reduceAppend, String.append_assoc, Builtin.resourceDelete, Source.resourceDelete]

/-! ## Whole files -/

/-- Sections, each of which writes its lines. -/
def WriteEach (config : Config) (r : Resource) :
    List Template → List (List SourceLine) → Prop :=
  List.Forall₂ fun parts lines => Writes config r parts (below lines)

/-- Sections that write their lines write them one after another. -/
theorem WriteEach.flatten {templates : List Template} {sections : List (List SourceLine)}
    (h : WriteEach config r templates sections) :
    Writes config r templates.flatten (below sections.flatten) := by
  induction h with
  | nil => exact .of_filled rfl rfl
  | cons hsection _ ih =>
    rw [List.flatten_cons, List.flatten_cons, below_append]
    exact hsection.append ih

/-- A file is its imports and the sections below. -/
theorem Writes.file {parts imports : Template} {templates : List Template} {mode : Mode}
    (himports : Writes config r imports (fileText (Source.imports config r mode)))
    (hsections : WriteEach config r templates (Source.sections config r mode))
    (hparts : parts = imports ++ templates.flatten) :
    Writes config r parts (fileText (Source.lines config r mode)) := by
  have hne : Source.imports config r mode ≠ [] := by cases mode <;> exact List.cons_ne_nil _ _
  rw [hparts, Source.lines, fileText_append hne]
  exact himports.append (hsections.flatten)

theorem writes_resourceSource :
    Writes config r Builtin.resourceSource (fileText (Source.lines config r .resource)) := by
  obtain ⟨hchecks, hconstructor, htype, hmetadata, hconfigure, hcreate, himport⟩ :=
    filled_resource config r
  have hsections : WriteEach config r
      [Builtin.resourceChecks, Builtin.resourceConstructor, Builtin.resourceType,
        Builtin.resourceModel, Builtin.resourceMetadata, Builtin.resourceSchema,
        Builtin.resourceConfigure, Builtin.resourceCreate, Builtin.resourceRead,
        Builtin.resourceUpdate, Builtin.resourceDelete, Builtin.resourceImport]
      (Source.sections config r .resource) :=
    .cons (.of_filled rfl hchecks) <| .cons (.of_filled rfl hconstructor) <|
    .cons (.of_filled rfl htype) <| .cons (writes_resourceModel config r) <|
    .cons (.of_filled rfl hmetadata) <| .cons (writes_resourceSchema config r) <|
    .cons (.of_filled rfl hconfigure) <| .cons (.of_filled rfl hcreate) <|
    .cons (writes_resourceRead config r) <| .cons (writes_resourceUpdate config r) <|
    .cons (writes_resourceDelete config r) <| .cons (.of_filled rfl himport) .nil
  refine .file config r (writes_resourceImports config r) hsections ?_
  simp [Builtin.resourceSource]

theorem writes_dataSourceSource :
    Writes config r Builtin.dataSourceSource (fileText (Source.lines config r .dataSource)) := by
  obtain ⟨himports, hchecks, hconstructor, htype, hmetadata, hconfigure⟩ :=
    filled_dataSource config r
  have hsections : WriteEach config r
      [Builtin.dataSourceChecks, Builtin.dataSourceConstructor, Builtin.dataSourceType,
        Builtin.dataSourceModel, Builtin.dataSourceMetadata, Builtin.dataSourceSchema,
        Builtin.dataSourceConfigure, Builtin.dataSourceRead]
      (Source.sections config r .dataSource) :=
    .cons (.of_filled rfl hchecks) <| .cons (.of_filled rfl hconstructor) <|
    .cons (.of_filled rfl htype) <| .cons (writes_dataSourceModel config r) <|
    .cons (.of_filled rfl hmetadata) <| .cons (writes_dataSourceSchema config r) <|
    .cons (.of_filled rfl hconfigure) <| .cons (writes_dataSourceRead config r) .nil
  refine .file config r (.of_filled rfl himports) hsections ?_
  simp [Builtin.dataSourceSource]

/-- **A source file is its lines**, whatever the settings and the resource are. -/
theorem render_eq_lines (mode : Mode) :
    Templates.builtin.render mode.artifact.template (r.context config) =
      .ok (fileText (Source.lines config r mode)) := by
  have hwrites : Writes config r mode.artifact.builtin (fileText (Source.lines config r mode)) := by
    cases mode with
    | resource => exact writes_resourceSource config r
    | dataSource => exact writes_dataSourceSource config r
  exact hwrites.render

end Sections

/-! ## Paths -/

/-- Whatever is done with a single one of a document needs its path. -/
theorem itemPath_ne_empty_of_acts {bytes : ByteArray} {resources : List Resource}
    (h : parseDocument bytes = .ok resources) {r : Resource} (hr : r ∈ resources) {mode : Mode}
    {action : Action} (hacts : Source.acts r mode action = true) : r.itemPath ≠ "" := by
  have hitem (hpath : r.hasItemPath = true) : r.itemPath ≠ "" := by
    simpa [Resource.hasItemPath] using hpath
  cases action with
  | read => exact hitem hacts
  | update =>
    cases mode with
    | resource => exact hitem (Bool.and_eq_true_iff.mp hacts).1
    | dataSource => cases hacts
  | delete =>
    cases mode with
    | resource =>
      -- the template does not ask for the path here, only the pairing knows it
      obtain ⟨doc, -, hresources⟩ := bind_eq_ok_iff.mp h
      obtain ⟨hcollection, hgiven⟩ := Document.givenItemPath_of_resources hresources hr
      exact hgiven.itemPath_ne_empty hcollection hacts
    | dataSource => cases hacts

/-! ## The main statement -/

/-- **Both source files declare the attributes of the resource.** Each file is its lines: the model
has a field for each record and the attribute map of the schema an entry, both in order, and there
are no others. A file reads from the item path if there is one and otherwise from the collection,
and that of the resource calls the client to change or delete one just if that can be done. In the
files of a document no path that is asked for a single one is empty. -/
theorem sourceFiles_contents (config : Config) :
    (∀ (r : Resource) (mode : Mode),
      Templates.builtin.render mode.artifact.template (r.context config) =
          .ok (fileText (Source.lines config r mode)) ∧
        (Source.lines config r mode).filter isMarked =
          r.records.map .field ++ r.records.map (.entry mode) ++ Source.calls r mode ∧
        Source.model r mode <:+: Source.lines config r mode ∧
        Source.attributes r mode <:+: Source.lines config r mode ∧
        (∀ path isText, .itemPath .read path isText ∈ Source.lines config r mode ↔
          r.hasItemPath = true ∧ path = r.itemPath ∧ isText = hasTextId r.attributes) ∧
        (∀ path, .collectionPath path ∈ Source.lines config r mode ↔
          r.hasItemPath = false ∧ path = r.collectionPath) ∧
        (.call mode .update ∈ Source.lines config r mode ↔
          mode = .resource ∧ r.hasUpdate = true) ∧
        (.call mode .delete ∈ Source.lines config r mode ↔
          mode = .resource ∧ r.hasDelete = true)) ∧
      ∀ bytes resources, parseDocument bytes = .ok resources → ∀ r ∈ resources,
        ∀ mode action path isText,
          .itemPath action path isText ∈ Source.lines config r mode → path ≠ "" := by
  constructor
  · intro r mode
    refine ⟨render_eq_lines config r mode, Source.filter_lines config r mode,
      Source.model_infix_lines config r mode, Source.attributes_infix_lines config r mode,
      ?_, ?_, ?_, ?_⟩
    · intro path isText
      rw [Source.itemPath_mem_lines_iff, Source.acts]
    · intro path
      exact Source.collectionPath_mem_lines_iff config r
    · rw [Source.call_mem_lines_iff]
      cases mode <;> simp [Source.acts]
    · rw [Source.call_mem_lines_iff]
      cases mode <;> simp [Source.acts]
  · intro bytes resources h r hr mode action path isText hline
    obtain ⟨hacts, rfl, -⟩ := (Source.itemPath_mem_lines_iff config r).mp hline
    exact itemPath_ne_empty_of_acts h hr hacts

/-- A document whose rooms can be deleted but not changed. -/
def roomLines : List String :=
  documentLines (postLines "/rooms" ["\"title\":\x7b\"type\":\"string\"\x7d"] ++
    [",\"/rooms/\x7bid\x7d\":\x7b\"delete\":\x7b\x7d\x7d"])

theorem roomLines_paths :
    (resourcesOfJson (roomLines.flatMap String.toList)).map
        (List.map fun r => (r.itemPath, r.hasUpdate, r.hasDelete)) =
      some [("/rooms/\x7bid\x7d", false, true)] := by
  decide +kernel

/-- The file of rooms calls the client to delete one, at its path, and never to change one. -/
theorem roomLines_contents :
    ∃ resources, parseDocument (String.join roomLines).toUTF8 = .ok resources ∧
      ∃ r ∈ resources, r.itemPath = "/rooms/\x7bid\x7d" ∧
        Templates.builtin.render Mode.resource.artifact.template (r.context {}) =
          .ok (fileText (Source.lines {} r .resource)) ∧
        .call .resource .delete ∈ Source.lines {} r .resource ∧
        .call .resource .update ∉ Source.lines {} r .resource ∧
        ∀ action path isText, .itemPath action path isText ∈ Source.lines {} r .resource →
          path ≠ "" := by
  obtain ⟨resources, hparse, hpaths⟩ := exists_parseDocument roomLines_paths
  obtain ⟨r, rfl, hr⟩ := List.map_eq_singleton_iff.mp hpaths
  obtain ⟨hitem, hupdate, hdelete⟩ :
      r.itemPath = "/rooms/\x7bid\x7d" ∧ r.hasUpdate = false ∧ r.hasDelete = true := by
    simpa using hr
  obtain ⟨hcontents, hempty⟩ := sourceFiles_contents {}
  obtain ⟨hrender, -, -, -, -, -, hcallUpdate, hcallDelete⟩ := hcontents r .resource
  refine ⟨[r], hparse, r, List.mem_singleton_self r, hitem, hrender,
    hcallDelete.mpr ⟨rfl, hdelete⟩, ?_, ?_⟩
  · rw [hcallUpdate, hupdate]
    simp
  · intro action path isText
    exact hempty _ [r] hparse r (List.mem_singleton_self r) .resource action path isText

end ProviderGen
