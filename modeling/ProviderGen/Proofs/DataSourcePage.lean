/-
The page of a data source and its schema.

The page is written out line by line, like that of a resource, and what it lists is read off its
marked lines: under each heading the names and labels of the bullets below it. Its schema asks for
the attribute called `id` and reads all others, and so does the page: it lists the records of all
others under `Read-Only`. But the entry of the `id` is fixed, and says that it is a string. So the
page tells what the schema has just if one attribute is called `id` and is a string; where the
`id` is declared with another type, the page keeps saying that it is a string.
-/
import ProviderGen.Proofs.ResourcePage

set_option autoImplicit false

namespace ProviderGen

open ProviderGen.Text PageLine

/-! ## Lines of the page -/

namespace Record

variable (record : Record)

/-- The line that lists an outermost attribute of a data source. -/
def readBullet : PageLine :=
  .bullet record.name record.docType (record.descriptionNote ++ record.linkNote)

/-- The line that lists an attribute inside another one of a data source. -/
def innerReadBullet : PageLine := .bullet record.name record.docType record.descriptionNote

end Record

namespace Page

variable (config : Config) (r : Resource)

/-- The outermost attributes that are not called `id`. -/
def others : List Record := r.records.filter fun record => decide (record.name ≠ "id")

/-- The head of the page. -/
def dataSourceTitle : List PageLine :=
  plains
    ["---",
     "page_title: \"" ++ Source.fullName config r ++ " Data Source - " ++ config.providerName ++ "\"",
     "subcategory: \"\"",
     "description: |-",
     "  Reads a " ++ r.name ++ " entry.",
     "---",
     "",
     "# " ++ Source.fullName config r ++ " (Data Source)",
     "",
     "Reads an existing `" ++ r.name ++ "` entry" ++
       (if r.hasItemPath then " from `" ++ r.itemPath ++ "`" else "") ++ "."]

def dataSourceExample : List PageLine :=
  plains
    ["", "## Example Usage", "", "```terraform",
     "data \"" ++ Source.fullName config r ++ "\" \"example\" \x7b"] ++
    [.setting "id" "\"example\""] ++ plains ["\x7d", "```"]

/-- The line for the `id`, which is the same for all types. -/
def idBullet : PageLine :=
  .bullet "id" "String" (" Identifier of the " ++ r.name ++ " entry to read.")

theorem text_idBullet :
    (idBullet r).text = "- `id` (String) Identifier of the " ++ (r.name ++ " entry to read.") := by
  have hfront : "- `" ++ "id" ++ "` (" ++ "String" ++ ")" ++ " Identifier of the " =
      "- `id` (String) Identifier of the " := rfl
  rw [idBullet, text_bullet, ← hfront]
  simp only [String.append_assoc]

def dataSourceAttributes : List PageLine :=
  plains ["", "<!-- schema generated by provider-codegen -->", "## Schema", ""] ++
    [.heading "Required"] ++ plains [""] ++ [idBullet r] ++ plains [""] ++
    [.heading "Read-Only"] ++ plains [""] ++ (others r).map Record.readBullet ++ plains [""]

/-- The lines of a block, below the place that links lead to. -/
def readBlockLines (block : Block) : List PageLine :=
  linesOfBlock ["", "Read-Only:", ""] Record.innerReadBullet block

def dataSourceBlocks : List PageLine := (blocksOf r.records).flatMap readBlockLines

/-- The page of a data source. -/
def dataSourceLines : List PageLine :=
  dataSourceTitle config r ++ dataSourceExample config r ++ dataSourceAttributes r ++
    dataSourceBlocks r

/-! ## Parts of the template -/

/-- The line for an outermost attribute. -/
def readBulletParts : Template :=
  [.lines ["", "- `"], .slot ["field", "name"], .text "` (", .slot ["field", "doc_type"],
   .text ")", Builtin.description, Builtin.nestedLink]

/-- The line for an outermost attribute that is not called `id`. -/
def otherPart : Part :=
  .given (.compare .different (.name ["field", "name"]) (.text "id")) readBulletParts

/-- The line for an attribute inside another one. -/
def innerReadBulletParts : Template :=
  [.lines ["", "- `"], .slot ["field", "name"], .text "` (", .slot ["field", "doc_type"],
   .text ")", Builtin.description]

end Page

section Records

variable {scope : Scope} {record : Record}

theorem prints_readBullet (h : scope.HasField record) :
    Prints Page.readBulletParts scope ("\n" ++ record.readBullet.text) := by
  have hnotes := (prints_description h).cons (prints_link h)
  simp only [Record.readBullet, text_bullet, String.append_assoc]
  exact prints_entry h (hnotes.text ")")

theorem prints_innerReadBullet (h : scope.HasField record) :
    Prints Page.innerReadBulletParts scope ("\n" ++ record.innerReadBullet.text) := by
  simp only [Record.innerReadBullet, text_bullet, String.append_assoc]
  exact prints_entry h ((prints_description h).text ")")

/-- In a loop over all records those that are not called `id` are listed. -/
theorem prints_other (h : scope.HasField record) :
    Prints [Page.otherPart] scope
      (if record.name ≠ "id" then "\n" ++ record.readBullet.text else "") := by
  have hprints := (prints_readBullet h).given (Expr.truth_differs h.lookup?.1 "id")
  simp only [decide_eq_true_eq] at hprints
  exact hprints

end Records

/-! ## Sections of the page -/

section Sections

variable (config : Config) (r : Resource)

theorem writes_dataSourceTitle :
    Writes config r Builtin.dataSourceTitle (pageText (Page.dataSourceTitle config r)) := by
  have hprovider : r.shown config "provider_name" = config.providerName := rfl
  have hpath : Writes config r [.text " from `", .slot ["item_path"], .text "`"]
      (" from `" ++ r.itemPath ++ "`") := by
    refine .of_filled rfl ?_
    simp [-String.reduceAppend, String.append_assoc]
  have hplace : Writes config r
      [.given (.name ["has_item_path"]) [.text " from `", .slot ["item_path"], .text "`"]] _ :=
    writes_choose (lookup_flags config r).1 hpath (.of_filled rfl (filled_nil config r))
  refine .around (n := 11) rfl hplace rfl rfl ?_
  simp [-String.reduceAppend, String.append_assoc, Builtin.dataSourceTitle, Page.dataSourceTitle,
    pageText, hprovider]

theorem writes_dataSourceExample :
    Writes config r Builtin.dataSourceExample
      (hung ((Page.dataSourceExample config r).map PageLine.text)) := by
  have hsetting : (setting "id" "\"example\"").text = "  id = \"example\"" := rfl
  refine .of_filled rfl ?_
  simp [-String.reduceAppend, -text_setting, String.append_assoc, Builtin.dataSourceExample,
    Page.dataSourceExample, hsetting]

theorem writes_others :
    Writes config r [.each "field" (.name ["fields"]) [Page.otherPart]]
      (hung (((Page.others r).map Record.readBullet).map PageLine.text)) := by
  have hloop : Writes config r [.each "field" (.name ["fields"]) [Page.otherPart]] _ :=
    writes_join lookup_fields
      fun record index count scope => prints_other (record.hasField_item index count scope)
  rw [join_map_ite] at hloop
  rw [List.map_map]
  exact hloop

theorem writes_dataSourceAttributes :
    Writes config r Builtin.dataSourceAttributes
      (hung ((Page.dataSourceAttributes r).map PageLine.text)) := by
  have hrequired : (heading "Required").text = "### Required" := rfl
  have hreadOnly : (heading "Read-Only").text = "### Read-Only" := rfl
  refine .around (n := 3) rfl (writes_others config r) rfl rfl ?_
  simp [-String.reduceAppend, -text_heading, String.append_assoc, Builtin.dataSourceAttributes,
    Page.dataSourceAttributes, hrequired, hreadOnly, Page.text_idBullet]

theorem writes_dataSourceBlocks :
    Writes config r Builtin.dataSourceBlocks
      (hung ((Page.dataSourceBlocks r).map PageLine.text)) := by
  have hloop := writes_join (lookup_blocks config r)
    (prints_linesOfBlock prints_innerReadBullet "" ["Read-Only:", ""])
  rw [Page.dataSourceBlocks, List.map_flatMap, hung_flatMap]
  exact hloop

/-- **The page of a data source is its lines**, whatever the settings and the resource are. -/
theorem render_eq_dataSourceLines :
    Templates.builtin.render Artifact.dataSourcePage.template (r.context config) =
      .ok (pageText (Page.dataSourceLines config r)) := by
  have hwrites : Writes config r Artifact.dataSourcePage.builtin _ :=
    (((writes_dataSourceTitle config r).append (writes_dataSourceExample config r)).append
      (writes_dataSourceAttributes config r)).append (writes_dataSourceBlocks config r)
  have hne : Page.dataSourceTitle config r ≠ [] := List.cons_ne_nil _ _
  have htext : pageText (Page.dataSourceLines config r) =
      pageText (Page.dataSourceTitle config r) ++
        hung ((Page.dataSourceExample config r).map PageLine.text) ++
        hung ((Page.dataSourceAttributes r).map PageLine.text) ++
        hung ((Page.dataSourceBlocks r).map PageLine.text) := by
    simp only [Page.dataSourceLines, List.append_assoc, pageText_append hne, List.map_append,
      hung_append, String.append_assoc]
  rw [htext]
  exact hwrites.render

end Sections

/-! ## What a page lists -/

namespace PageLine

/-- The bullets of a page in order: the heading that each of them stands below, its name and its
label. What stands above the first heading is given. -/
def entries (title : String) : List PageLine → List (String × String × String)
  | [] => []
  | .heading next :: rest => entries next rest
  | .bullet name label _ :: rest => (title, name, label) :: entries title rest
  | .plain _ :: rest => entries title rest
  | .setting _ _ :: rest => entries title rest

/-- The names and labels of the bullets below a heading. -/
def listedUnder (title : String) (lines : List PageLine) : List (String × String) :=
  ((entries "" lines).filter fun entry => decide (entry.1 = title)).map Prod.snd

/-- Plain lines list nothing. -/
theorem entries_filter (title : String) (lines : List PageLine) :
    entries title (lines.filter isMarked) = entries title lines := by
  induction lines generalizing title with
  | nil => rfl
  | cons line rest ih =>
    cases line with
    | plain _ => exact ih title
    | heading next => exact ih next
    | setting _ _ => exact ih title
    | bullet name label _ => exact congrArg (List.cons _) (ih title)

/-- The bullets of records are listed below the heading that stands above them. -/
theorem entries_append {line : Record → PageLine}
    (hline : ∀ record, ∃ note, line record = .bullet record.name record.docType note)
    (title : String) (records : List Record) (rest : List PageLine) :
    entries title (records.map line ++ rest) =
      (records.map fun record => (title, record.name, record.docType)) ++ entries title rest := by
  induction records with
  | nil => rfl
  | cons record records ih =>
    obtain ⟨note, hbullet⟩ := hline record
    rw [List.map_cons, List.cons_append, hbullet, entries, ih, List.map_cons, List.cons_append]

end PageLine

namespace Page

variable (config : Config) (r : Resource)

theorem filter_readBlockLines (block : Block) :
    (readBlockLines block).filter isMarked =
      .heading ("Nested Schema for `" ++ block.path ++ "`") ::
        block.records.map Record.innerReadBullet :=
  filter_linesOfBlock (fun _ => rfl) _ block

/-- **What the page of a data source lists**: the `id`, the other attributes, and those inside
attributes. -/
theorem entries_dataSourceLines :
    entries "" (dataSourceLines config r) =
      ("Required", "id", "String") ::
        ((others r).map fun record => ("Read-Only", record.name, record.docType)) ++
        (blocksOf r.records).flatMap fun block => block.records.map fun record =>
          ("Nested Schema for `" ++ block.path ++ "`", record.name, record.docType) := by
  have hread (record : Record) :
      ∃ note, record.readBullet = .bullet record.name record.docType note := ⟨_, rfl⟩
  have hinner (record : Record) :
      ∃ note, record.innerReadBullet = .bullet record.name record.docType note := ⟨_, rfl⟩
  have hblocks (title : String) (blocks : List Block) :
      entries title ((blocks.flatMap readBlockLines).filter isMarked) =
        blocks.flatMap fun block => block.records.map fun record =>
          ("Nested Schema for `" ++ block.path ++ "`", record.name, record.docType) := by
    induction blocks generalizing title with
    | nil => rfl
    | cons block rest ih =>
      rw [List.flatMap_cons, List.filter_append, filter_readBlockLines, List.cons_append, entries,
        entries_append hinner, ih, List.flatMap_cons]
  have hothers := filter_map_of_marked Record.readBullet (fun _ => rfl) (others r)
  have hfirst : (dataSourceLines config r).filter isMarked =
      .setting "id" "\"example\"" :: .heading "Required" :: idBullet r :: .heading "Read-Only" ::
        ((others r).map Record.readBullet ++ (dataSourceBlocks r).filter isMarked) := by
    simp only [dataSourceLines, dataSourceTitle, dataSourceExample, dataSourceAttributes,
      List.filter_append, filter_plains, hothers, List.nil_append, List.append_assoc]
    rfl
  -- the marked lines are gone through one by one, those of records and of blocks at once
  rw [← entries_filter, hfirst]
  simp only [entries, idBullet]
  rw [entries_append hread, dataSourceBlocks, hblocks, List.cons_append]

/-- No heading of a block is one of a list of outermost attributes. -/
theorem nested_ne (path : String) :
    "Nested Schema for `" ++ path ++ "`" ≠ "Required" ∧
      "Nested Schema for `" ++ path ++ "`" ≠ "Read-Only" := by
  constructor
  all_goals
    intro h
    have hfirst := congrArg (fun s => s.toList.head?) h
    simp [String.toList_append] at hfirst

theorem listedUnder_dataSourceLines :
    listedUnder "Required" (dataSourceLines config r) = [("id", "String")] ∧
      listedUnder "Read-Only" (dataSourceLines config r) =
        (others r).map fun record => (record.name, record.docType) := by
  unfold listedUnder
  rw [entries_dataSourceLines]
  simp [List.filter_flatMap, List.filter_map, Function.comp_def, nested_ne]

/-! ### What the page does not list -/

theorem clear_dataSourceTitle : Clear (dataSourceTitle config r) := by
  have hfirm : Firm "page_title: \"" ∧ Firm "  Reads a " ∧ Firm "# " ∧ Firm "Reads an existing `" := by
    decide
  obtain ⟨htitle, habout, hhead, hreads⟩ := hfirm
  refine clear_plains ?_
  simp only [List.forall_mem_cons]
  exact ⟨by decide, ((((htitle.append _).append _).append _).append _).prosaic, by decide,
    by decide, ((habout.append _).append _).prosaic, by decide, by decide,
    ((hhead.append _).append _).prosaic, by decide,
    ((((hreads.append _).append _).append _).append _).prosaic, List.forall_mem_nil _⟩

theorem clear_dataSourceExample : Clear (dataSourceExample config r) := by
  have hfirm : Firm "data \"" := by decide
  have hopen : Clear (plains ["", "## Example Usage", "", "```terraform",
      "data \"" ++ Source.fullName config r ++ "\" \"example\" \x7b"]) := by
    refine clear_plains ?_
    simp only [List.forall_mem_cons]
    exact ⟨by decide, by decide, by decide, by decide, ((hfirm.append _).append _).prosaic,
      List.forall_mem_nil _⟩
  simp only [dataSourceExample, clear_append_iff]
  exact ⟨⟨hopen, clear_singleton rfl⟩, clear_plains (by decide)⟩

theorem clear_dataSourceAttributes : Clear (dataSourceAttributes r) := by
  have hblank : Clear (plains [""]) := clear_plains (by decide)
  have hbullets := clear_map_of_marked Record.readBullet (fun _ => rfl) (others r)
  simp only [dataSourceAttributes, clear_append_iff]
  exact ⟨⟨⟨⟨⟨⟨⟨⟨clear_plains (by decide), clear_singleton rfl⟩, hblank⟩, clear_singleton rfl⟩,
    hblank⟩, clear_singleton rfl⟩, hblank⟩, hbullets⟩, hblank⟩

/-- **What is not marked is no bullet and no heading.** -/
theorem clear_dataSourceLines : Clear (dataSourceLines config r) := by
  simp only [dataSourceLines, clear_append_iff]
  exact ⟨⟨⟨clear_dataSourceTitle config r, clear_dataSourceExample config r⟩,
    clear_dataSourceAttributes r⟩, clear_flatMap (clear_linesOfBlock (fun _ => rfl) (by decide))⟩

/-! ## The page and the schema -/

/-- The outermost attributes that are called `id`. -/
def ids : List Field := r.attributes.filter fun field => decide (field.name = "id")

/-- The outermost attributes that are required in the schema of the data source, or those that are
not, with their types as documentation names them. -/
def inSchema (required : Bool) : List (String × String) :=
  (r.attributes.filter fun field =>
    decide ((field.declare .dataSource .top).presence = .required) == required).map fun field =>
      (field.name, (field.toRecord attributeDepth false).docType)

/-- A page tells what the schema of the data source has: it lists each outermost attribute once with
its type, below `Required` if the schema requires it and below `Read-Only` otherwise. -/
structure MatchesSchema (r : Resource) (lines : List PageLine) : Prop where
  required : (listedUnder "Required" lines).Perm (inSchema r true)
  readOnly : (listedUnder "Read-Only" lines).Perm (inSchema r false)

theorem toRecord_docType (field : Field) (depth : Nat) (inherited : Bool) :
    (field.toRecord depth inherited).docType = field.kind.title := by
  cases field
  rfl

theorem required_iff (field : Field) :
    (field.declare .dataSource .top).presence = .required ↔ field.name = "id" := by
  rw [field.declare_presence_dataSource]
  split_ifs with h
  · exact iff_of_true rfl h.2
  · exact iff_of_false (by decide) fun hname => h ⟨rfl, hname⟩

/-- What the schema requires is called `id`. -/
theorem inSchema_true : inSchema r true = (ids r).map fun field => ("id", field.kind.title) := by
  unfold inSchema ids
  simp only [required_iff, beq_true]
  refine List.map_congr_left fun field hfield => ?_
  rw [of_decide_eq_true (List.mem_filter.mp hfield).2, toRecord_docType]

/-- What the schema does not require are the other attributes, in order. -/
theorem inSchema_false :
    inSchema r false = (others r).map fun record => (record.name, record.docType) := by
  unfold inSchema others Resource.records recordsOf
  rw [Field.toRecords_eq, List.filter_map, List.map_map]
  simp only [required_iff, beq_false, Function.comp_def, Field.toRecord_name, decide_not]

theorem title_eq_string_iff (kind : Kind Field) :
    kind.title = "String" ↔ kind = .primitive .string := by
  constructor
  · intro h
    rcases kind with type | type | type | ⟨nested, _ | _⟩
    · cases type <;> first | rfl | exact absurd h (by decide)
    · cases type <;> exact absurd h (by decide)
    · cases type <;> exact absurd h (by decide)
    · exact absurd h (by decide : "Attributes" ≠ "String")
    · exact absurd h (by decide : "Attributes List" ≠ "String")
  · rintro rfl
    rfl

/-- The page tells what the schema has just if one attribute is called `id` and is a string. -/
theorem matchesSchema_iff :
    MatchesSchema r (dataSourceLines config r) ↔ (ids r).map Field.kind = [.primitive .string] := by
  obtain ⟨hrequired, hreadOnly⟩ := listedUnder_dataSourceLines config r
  -- below `Read-Only` page and schema always agree, so the fixed entry decides
  have hlisted : MatchesSchema r (dataSourceLines config r) ↔
      [("id", "String")].Perm (inSchema r true) := by
    constructor
    · intro h
      rw [← hrequired]
      exact h.required
    · intro h
      refine ⟨hrequired ▸ h, ?_⟩
      rw [hreadOnly, inSchema_false]
  rw [hlisted, List.singleton_perm, inSchema_true, eq_comm, List.map_eq_singleton_iff,
    List.map_eq_singleton_iff]
  simp only [Prod.mk.injEq, true_and, title_eq_string_iff]

end Page

/-- **When the page of a data source tells what its schema has.** The page is its lines, of which no
others open as bullets and headings do. Below `Read-Only` it always lists what the schema does not
require, with its types and in order. In all it lists the attributes of the schema, each of them
once, just if one attribute is called `id` and is a string. -/
theorem dataSourcePage_iff (config : Config) (r : Resource) :
    Templates.builtin.render Artifact.dataSourcePage.template (r.context config) =
        .ok (pageText (Page.dataSourceLines config r)) ∧
      Clear (Page.dataSourceLines config r) ∧
      listedUnder "Read-Only" (Page.dataSourceLines config r) = Page.inSchema r false ∧
      (Page.MatchesSchema r (Page.dataSourceLines config r) ↔
        (Page.ids r).map Field.kind = [.primitive .string]) := by
  refine ⟨render_eq_dataSourceLines config r, Page.clear_dataSourceLines config r, ?_,
    Page.matchesSchema_iff config r⟩
  rw [(Page.listedUnder_dataSourceLines config r).2, Page.inSchema_false]

/-! ## Two documents -/

/-- A document with one resource whose `id` has a type. -/
def tokenLines (type : String) : List String :=
  documentLines (postLines "/tokens" ["\"id\":\x7b\"type\":\"" ++ type ++ "\"\x7d"])

/-- The names of the attributes of resources and what documentation calls their types. -/
def typesOf (resources : List Resource) : List (List (String × String)) :=
  resources.map fun r => r.attributes.map fun field => (field.name, field.kind.title)

/-- The page tells what the schema has where the `id` is a string. -/
theorem tokenLines_string_matches :
    ∃ resources r, parseDocument (String.join (tokenLines "string")).toUTF8 = .ok resources ∧
      r ∈ resources ∧ typesOf resources = [[("id", "String")]] ∧
      ∀ config, Page.MatchesSchema r (Page.dataSourceLines config r) := by
  have htypes : (resourcesOfJson ((tokenLines "string").flatMap String.toList)).map typesOf =
      some [[("id", "String")]] := by
    decide +kernel
  obtain ⟨resources, hparse, hseen⟩ := exists_parseDocument htypes
  obtain ⟨r, rfl, hr⟩ := List.map_eq_singleton_iff.mp hseen
  obtain ⟨field, hattributes, hfield⟩ := List.map_eq_singleton_iff.mp hr
  obtain ⟨hname, htitle⟩ := Prod.mk.inj hfield
  refine ⟨[r], r, hparse, List.mem_singleton.mpr rfl, hseen, fun config => ?_⟩
  refine (dataSourcePage_iff config r).2.2.2.mpr ?_
  rw [Page.ids, hattributes, List.filter_singleton, hname, ← (Page.title_eq_string_iff _).mp htitle]
  rfl

/-- Where the `id` is a whole number the page still says that it is a string. -/
theorem tokenLines_integer_not_matches :
    ∃ resources r, parseDocument (String.join (tokenLines "integer")).toUTF8 = .ok resources ∧
      r ∈ resources ∧ typesOf resources = [[("id", "Number")]] ∧
      ∀ config, ¬ Page.MatchesSchema r (Page.dataSourceLines config r) := by
  have htypes : (resourcesOfJson ((tokenLines "integer").flatMap String.toList)).map typesOf =
      some [[("id", "Number")]] := by
    decide +kernel
  obtain ⟨resources, hparse, hseen⟩ := exists_parseDocument htypes
  obtain ⟨r, rfl, hr⟩ := List.map_eq_singleton_iff.mp hseen
  obtain ⟨field, hattributes, hfield⟩ := List.map_eq_singleton_iff.mp hr
  obtain ⟨hname, htitle⟩ := Prod.mk.inj hfield
  refine ⟨[r], r, hparse, List.mem_singleton.mpr rfl, hseen, fun config hmatches => ?_⟩
  -- the schema requires an `id` that is a number, the page a string
  have hlisted := hmatches.required
  rw [(Page.listedUnder_dataSourceLines config r).1, Page.inSchema_true, Page.ids, hattributes,
    List.filter_singleton, hname, List.singleton_perm] at hlisted
  simp [htitle] at hlisted

end ProviderGen
