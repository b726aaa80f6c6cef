/-
The lines of pages.

The page of a resource is written out here, line by line, as it is meant to be. The lines that
matter are the settings of the example, the headings above lists, and the bullets of these lists;
all others are plain. So what a page lists is read off the kinds of its lines: first the required
attributes are set, then each group that has members is listed under its heading, and then each
block under its own. Every record has one of three groups, so the groups list all records, each of
them once.
-/
import ProviderGen.Proofs.SourceLines
import ProviderGen.Template.Render

set_option autoImplicit false

namespace ProviderGen

/-! ## Lines -/

/-- A line of a page. -/
inductive PageLine where
  /-- Text that is none of the others. -/
  | plain (text : String)
  /-- Sets an attribute in an example. -/
  | setting (name value : String)
  /-- A heading above a list. -/
  | heading (title : String)
  /-- Lists an attribute under a label, with a note. -/
  | bullet (name label note : String)
  deriving DecidableEq, Repr

namespace PageLine

/-- The text of a line. -/
def text : PageLine → String
  | plain text => text
  | setting name value => "  " ++ name ++ " = " ++ value
  | heading title => "### " ++ title
  | bullet name label note => "- `" ++ name ++ "` (" ++ label ++ ")" ++ note

/-- Whether a line is of one of the kinds that matter. -/
def isMarked : PageLine → Bool
  | plain _ => false
  | _ => true

/-- Lines of plain text. -/
def plains (texts : List String) : List PageLine := texts.map plain

/-- The text of lines, parted by line breaks. -/
def pageText (lines : List PageLine) : String := "\n".intercalate (lines.map text)

/-- A page goes on below its first lines. -/
theorem pageText_append {first : List PageLine} (h : first ≠ []) (second : List PageLine) :
    pageText (first ++ second) = pageText first ++ hung (second.map text) := by
  obtain ⟨line, rest, rfl⟩ := List.exists_cons_of_ne_nil h
  rw [pageText, pageText, List.map_append, List.map_cons, List.cons_append,
    intercalate_cons_eq_hung, intercalate_cons_eq_hung, hung_append, String.append_assoc]

/-- Texts below another one are those of the lines for some items. -/
theorem join_map_line {α : Type} (line : α → PageLine) (items : List α) :
    String.join (items.map fun item => "\n" ++ (line item).text) =
      hung ((items.map line).map text) := by
  rw [hung, List.map_map, List.map_map]
  rfl

section Text

variable (name label note value title : String)

@[simp] theorem text_plain (text : String) : (plain text).text = text := rfl

@[simp] theorem text_setting : (setting name value).text = "  " ++ name ++ " = " ++ value := rfl

@[simp] theorem text_heading : (heading title).text = "### " ++ title := rfl

@[simp] theorem text_bullet :
    (bullet name label note).text = "- `" ++ name ++ "` (" ++ label ++ ")" ++ note := rfl

@[simp] theorem map_text_plains (texts : List String) : (plains texts).map text = texts := by
  rw [plains, List.map_map]
  exact List.map_id texts

@[simp] theorem filter_plains (texts : List String) : (plains texts).filter isMarked = [] := by
  rw [plains, List.filter_eq_nil_iff, List.forall_mem_map]
  exact fun _ _ => Bool.false_ne_true

end Text

/-! ### Plain text -/

/-- How bullets and headings open. -/
def openings : List String := ["- ", "### "]

/-- A text does not open as bullets and headings do. -/
def Prosaic (text : String) : Prop := ∀ opening ∈ openings, ¬ opening.toList <+: text.toList

/-- A text does not open as bullets and headings do, whatever follows it. -/
def Firm (text : String) : Prop :=
  ∀ opening ∈ openings, ¬ opening.toList <+: text.toList ∧ ¬ text.toList <+: opening.toList

instance (text : String) : Decidable (Prosaic text) :=
  inferInstanceAs (Decidable (∀ opening ∈ openings, ¬ opening.toList <+: text.toList))

instance (text : String) : Decidable (Firm text) :=
  inferInstanceAs (Decidable (∀ opening ∈ openings,
    ¬ opening.toList <+: text.toList ∧ ¬ text.toList <+: opening.toList))

theorem Firm.append {text : String} (h : Firm text) (more : String) : Firm (text ++ more) := by
  intro opening hopening
  obtain ⟨hfront, hback⟩ := h opening hopening
  rw [String.toList_append]
  constructor
  · intro hprefix
    rcases List.prefix_or_prefix_of_prefix hprefix (List.prefix_append ..) with hshort | hlong
    · exact hfront hshort
    · exact hback hlong
  · exact fun hprefix => hback ((List.prefix_append ..).trans hprefix)

theorem Firm.prosaic {text : String} (h : Firm text) : Prosaic text :=
  fun opening hopening => (h opening hopening).1

/-- The plain lines among some do not open as bullets and headings do. -/
def Clear (lines : List PageLine) : Prop := ∀ line ∈ lines, line.isMarked = false → Prosaic line.text

theorem clear_nil : Clear [] := List.forall_mem_nil _

theorem clear_append_iff {first second : List PageLine} :
    Clear (first ++ second) ↔ Clear first ∧ Clear second :=
  List.forall_mem_append

theorem clear_flatMap {α : Type} {items : List α} {lines : α → List PageLine}
    (h : ∀ a, Clear (lines a)) : Clear (items.flatMap lines) := by
  intro line hline
  obtain ⟨a, -, hmem⟩ := List.mem_flatMap.mp hline
  exact h a line hmem

theorem clear_plains {texts : List String} (h : ∀ text ∈ texts, Prosaic text) :
    Clear (plains texts) := by
  unfold Clear plains
  rw [List.forall_mem_map]
  exact fun text htext _ => h text htext

theorem clear_map_of_marked {α : Type} (line : α → PageLine)
    (h : ∀ a, (line a).isMarked = true) (items : List α) : Clear (items.map line) := by
  unfold Clear
  rw [List.forall_mem_map]
  intro a _ hplain
  rw [h a] at hplain
  cases hplain

theorem clear_singleton {line : PageLine} (h : line.isMarked = true) : Clear [line] := by
  intro other hother hplain
  rw [List.mem_singleton.mp hother, h] at hplain
  cases hplain

end PageLine

open PageLine

/-! ## What is said of a record -/

namespace Group

/-- The groups, in the order in which pages list them. -/
def all : List Group := [required, optional, readOnly]

/-- The heading above the list of a group. -/
def title : Group → String
  | required => "Required"
  | optional => "Optional"
  | readOnly => "Read-Only"

/-- What the label of an attribute inside another one says of its group. -/
def remark : Group → String
  | required => ", Required"
  | optional => ""
  | readOnly => ", Read-Only"

theorem name_inj {a b : Group} (h : a.name = b.name) : a = b := by
  cases a <;> cases b <;> first | rfl | exact absurd h (by decide)

end Group

namespace Record

variable (record : Record)

/-- The value of an attribute in an example. -/
def exampleValue : String :=
  if record.docType = "String" then "\"" ++ record.enumValues.headD "example" ++ "\""
  else if record.docType = "Number" then "0"
  else if record.docType = "Boolean" then "false"
  else if "List".toList <+: record.docType.toList ∨ record.docType = "Attributes List" then "[]"
  else "\x7b\x7d"

/-- The description behind a label. -/
def descriptionNote : String :=
  match record.description with
  | none => ""
  | some description => if description = "" then "" else " " ++ description

/-- The enumerated values behind a label. -/
def valuesNote : String :=
  if record.enumValues = [] then ""
  else " Allowed values: " ++ ", ".intercalate (record.enumValues.map fun value =>
    "`" ++ value ++ "`") ++ "."

/-- The link to the attributes inside an attribute. -/
def linkNote : String :=
  if record.nested.isEmpty then ""
  else " (see [below for nested schema](#nestedatt--" ++ record.name ++ "))"

/-- The line that sets an attribute in the example of a resource. -/
def setting : PageLine := .setting record.name record.exampleValue

/-- The line that lists an outermost attribute of a resource. -/
def bullet : PageLine :=
  .bullet record.name record.docType (record.descriptionNote ++ record.valuesNote ++ record.linkNote)

/-- The line that lists an attribute inside another one of a resource. -/
def innerBullet : PageLine :=
  .bullet record.name (record.docType ++ record.group.remark)
    (record.descriptionNote ++ record.valuesNote)

end Record

/-- The label of an attribute inside another one says `Required` or `Read-Only` just if its group
does. -/
theorem Record.innerBullet_says (record : Record) :
    (("- `" ++ record.name ++ "` (" ++ record.docType ++ ", Required)").toList <+:
        record.innerBullet.text.toList ↔ record.group = .required) ∧
      (("- `" ++ record.name ++ "` (" ++ record.docType ++ ", Read-Only)").toList <+:
        record.innerBullet.text.toList ↔ record.group = .readOnly) := by
  rw [innerBullet, text_bullet]
  simp only [String.toList_append, List.append_assoc, List.prefix_append_right_inj]
  cases record.group <;> simp [Group.remark]

/-! ## The page of a resource -/

namespace Page

variable (config : Config) (r : Resource)

/-- The outermost attributes of a group. -/
def members (group : Group) : List Record :=
  r.records.filter fun record => decide (record.group = group)

/-- The example: a setting for each required attribute. -/
def exampleBlock : List PageLine :=
  plains ["resource \"" ++ Source.fullName config r ++ "\" \"example\" \x7b"] ++
    (members r .required).map Record.setting ++ plains ["\x7d"]

/-- The list of a group, which is there if the group has members. -/
def groupList (group : Group) : List PageLine :=
  if (members r group).isEmpty then []
  else .heading group.title :: (members r group).map Record.bullet

/-- The list of the attributes inside an attribute. -/
def blockList (block : Block) : List PageLine :=
  .heading ("Nested Schema for `" ++ block.path ++ "`") :: block.records.map Record.innerBullet

/-- The head of the page. -/
def resourceTitle : List PageLine :=
  plains
    ["---",
     "page_title: \"" ++ Source.fullName config r ++ " Resource - " ++ config.providerName ++ "\"",
     "subcategory: \"\"",
     "description: |-",
     "  Manages a " ++ r.name ++ " resource.",
     "---",
     "",
     "# " ++ Source.fullName config r ++ " (Resource)",
     "",
     "Manages a `" ++ r.name ++ "` resource through `" ++ r.collectionPath ++ "`."]

def resourceExample : List PageLine :=
  plains ["", "## Example Usage", "", "```terraform"] ++ exampleBlock config r ++ plains ["```"]

/-- The lines of a group: blank ones around its heading. -/
def groupLines (group : Group) : List PageLine :=
  if (members r group).isEmpty then []
  else
    plains [""] ++ [.heading group.title] ++ plains [""] ++ (members r group).map Record.bullet

def resourceGroups : List PageLine :=
  plains ["", "<!-- schema generated by provider-codegen -->", "## Schema", ""] ++
    Group.all.flatMap (groupLines r) ++ plains [""]

/-- The lines for what is inside an attribute, below the place that links lead to: a heading, some
remarks and a line for each attribute there. -/
def linesOfBlock (remarks : List String) (line : Record → PageLine) (block : Block) :
    List PageLine :=
  plains ["<a id=\"nestedatt--" ++ replaceAll block.path "." "--" ++ "\"></a>"] ++
    [.heading ("Nested Schema for `" ++ block.path ++ "`")] ++ plains remarks ++
    block.records.map line ++ plains [""]

/-- The lines of a block, below the place that links lead to. -/
def blockLines (block : Block) : List PageLine :=
  plains ["<a id=\"nestedatt--" ++ replaceAll block.path "." "--" ++ "\"></a>"] ++
    [.heading ("Nested Schema for `" ++ block.path ++ "`")] ++ plains [""] ++
    block.records.map Record.innerBullet ++ plains [""]

theorem blockLines_eq : blockLines = linesOfBlock [""] Record.innerBullet := rfl

def resourceBlocks : List PageLine := (blocksOf r.records).flatMap blockLines

/-- How to import a resource that has an item path. -/
def resourceImportHelp : List PageLine :=
  if r.hasItemPath then
    plains
      ["## Import",
       "",
       "Import is supported using the following syntax:",
       "",
       "```shell",
       "terraform import " ++ Source.fullName config r ++ ".example <id>",
       "```",
       ""]
  else []

/-- The page of a resource. -/
def resourceLines : List PageLine :=
  resourceTitle config r ++ resourceExample config r ++ resourceGroups r ++ resourceBlocks r ++
    resourceImportHelp config r

/-! ### What the page lists -/

/-- Every record is a member of one group. -/
theorem members_perm : (Group.all.flatMap (members r)).Perm r.records := by
  have hall (records : List Record) : (Group.all.flatMap fun group =>
      records.filter fun record => decide (record.group = group)).Perm records := by
    induction records with
    | nil => rfl
    | cons record rest ih =>
      -- the first record comes before the other members of its group, behind the earlier groups
      simp only [Group.all, List.flatMap_cons, List.flatMap_nil, List.append_nil] at ih ⊢
      cases hgroup : record.group with
      | required => simpa [hgroup] using ih
      | optional => simpa [hgroup] using List.perm_middle.trans (ih.cons record)
      | readOnly =>
        simp only [List.filter_cons, hgroup]
        rw [← List.append_assoc] at ih ⊢
        simpa using List.perm_middle.trans (ih.cons record)
  exact hall r.records

/-- Records are made of the attributes, in order. -/
theorem records_outline :
    (r.records.map fun record => (record.name, record.docType, record.group)) =
      r.attributes.map fun field =>
        (field.name, field.kind.title, Group.of field.required field.readOnly) := by
  unfold Resource.records recordsOf
  rw [Field.toRecords_eq, List.map_map]
  refine List.map_congr_left fun field _ => ?_
  obtain ⟨name, source, kind, values, required, readOnly, description⟩ := field
  cases required <;> cases readOnly <;> rfl

theorem filter_map_of_marked {α : Type} (line : α → PageLine)
    (h : ∀ a, (line a).isMarked = true) (items : List α) :
    (items.map line).filter isMarked = items.map line := by
  rw [List.filter_eq_self, List.forall_mem_map]
  exact fun a _ => h a

theorem filter_groupLines (group : Group) :
    (groupLines r group).filter isMarked = groupList r group := by
  have hheading : [PageLine.heading group.title].filter isMarked = [.heading group.title] := rfl
  have hbullets := filter_map_of_marked Record.bullet (fun _ => rfl) (members r group)
  unfold groupLines groupList
  split
  · rfl
  · simp only [List.filter_append, filter_plains, hheading, hbullets, List.nil_append,
      List.append_nil, List.singleton_append]

theorem filter_linesOfBlock {line : Record → PageLine} (hline : ∀ record, (line record).isMarked = true)
    (remarks : List String) (block : Block) :
    (linesOfBlock remarks line block).filter isMarked =
      .heading ("Nested Schema for `" ++ block.path ++ "`") :: block.records.map line := by
  have hheading (title : String) : [PageLine.heading title].filter isMarked = [.heading title] := rfl
  have hbullets := filter_map_of_marked line hline block.records
  unfold linesOfBlock
  simp only [List.filter_append, filter_plains, hheading, hbullets, List.nil_append,
    List.append_nil, List.singleton_append]

theorem filter_blockLines (block : Block) :
    (blockLines block).filter isMarked = blockList block :=
  filter_linesOfBlock (fun _ => rfl) [""] block

/-- **What a page lists**: the settings of its example, the groups and the blocks. -/
theorem filter_resourceLines :
    (resourceLines config r).filter isMarked =
      (members r .required).map Record.setting ++ Group.all.flatMap (groupList r) ++
        (blocksOf r.records).flatMap blockList := by
  have hsettings :=
    filter_map_of_marked Record.setting (fun _ => rfl) (members r .required)
  have hhelp : (resourceImportHelp config r).filter isMarked = [] := by
    unfold resourceImportHelp
    split
    · exact filter_plains _
    · rfl
  simp only [resourceLines, resourceTitle, resourceExample, exampleBlock, resourceGroups,
    resourceBlocks, List.filter_append, List.filter_flatMap, filter_plains, filter_groupLines,
    filter_blockLines, hsettings, hhelp, List.nil_append, List.append_nil, List.append_assoc]

theorem exampleBlock_infix_resourceLines : exampleBlock config r <:+: resourceLines config r :=
  ⟨resourceTitle config r ++ plains ["", "## Example Usage", "", "```terraform"],
    plains ["```"] ++ resourceGroups r ++ resourceBlocks r ++ resourceImportHelp config r, by
    simp only [resourceLines, resourceExample, List.append_assoc]⟩

/-! ### What the page does not list -/

theorem clear_resourceTitle : Clear (resourceTitle config r) := by
  have hfirm : Firm "page_title: \"" ∧ Firm "  Manages a " ∧ Firm "# " ∧ Firm "Manages a `" := by
    decide
  obtain ⟨htitle, habout, hhead, hmanages⟩ := hfirm
  refine clear_plains ?_
  simp only [List.forall_mem_cons]
  exact ⟨by decide, ((((htitle.append _).append _).append _).append _).prosaic, by decide,
    by decide, ((habout.append _).append _).prosaic, by decide, by decide,
    ((hhead.append _).append _).prosaic, by decide,
    ((((hmanages.append _).append _).append _).append _).prosaic, List.forall_mem_nil _⟩

theorem clear_resourceExample : Clear (resourceExample config r) := by
  have hfirm : Firm "resource \"" := by decide
  have hblock : Clear (exampleBlock config r) := by
    refine clear_append_iff.mpr ⟨clear_append_iff.mpr ⟨clear_plains ?_, ?_⟩, clear_plains (by decide)⟩
    · rw [List.forall_mem_singleton]
      exact ((hfirm.append _).append _).prosaic
    · exact clear_map_of_marked _ (fun _ => rfl) _
  exact clear_append_iff.mpr ⟨clear_append_iff.mpr ⟨clear_plains (by decide), hblock⟩,
    clear_plains (by decide)⟩

theorem clear_groupLines (group : Group) : Clear (groupLines r group) := by
  unfold groupLines
  split
  · exact clear_nil
  · have hheading : Clear [.heading group.title] := clear_singleton rfl
    have hblank : Clear (plains [""]) := clear_plains (by decide)
    have hbullets := clear_map_of_marked Record.bullet (fun _ => rfl) (members r group)
    simp only [clear_append_iff]
    exact ⟨⟨⟨hblank, hheading⟩, hblank⟩, hbullets⟩

theorem clear_linesOfBlock {line : Record → PageLine} (hline : ∀ record, (line record).isMarked = true)
    {remarks : List String} (hremarks : ∀ remark ∈ remarks, Prosaic remark) (block : Block) :
    Clear (linesOfBlock remarks line block) := by
  have hfirm : Firm "<a id=\"nestedatt--" := by decide
  have hanchor : Clear (plains ["<a id=\"nestedatt--" ++ replaceAll block.path "." "--" ++ "\"></a>"]) := by
    refine clear_plains ?_
    rw [List.forall_mem_singleton]
    exact ((hfirm.append _).append _).prosaic
  have hbullets := clear_map_of_marked line hline block.records
  unfold linesOfBlock
  simp only [clear_append_iff]
  exact ⟨⟨⟨⟨hanchor, clear_singleton rfl⟩, clear_plains hremarks⟩, hbullets⟩,
    clear_plains (by decide)⟩

theorem clear_blockLines (block : Block) : Clear (blockLines block) :=
  clear_linesOfBlock (fun _ => rfl) (by decide) block

theorem clear_resourceImportHelp : Clear (resourceImportHelp config r) := by
  have hfirm : Firm "terraform import " := by decide
  unfold resourceImportHelp
  split
  · refine clear_plains ?_
    simp only [List.forall_mem_cons]
    exact ⟨by decide, by decide, by decide, by decide, by decide,
      ((hfirm.append _).append _).prosaic, by decide, by decide, List.forall_mem_nil _⟩
  · exact clear_nil

/-- **What is not marked is no bullet and no heading.** -/
theorem clear_resourceLines : Clear (resourceLines config r) := by
  have hgroups : Clear (resourceGroups r) := by
    simp only [resourceGroups, clear_append_iff]
    exact ⟨⟨clear_plains (by decide), clear_flatMap (clear_groupLines r)⟩, clear_plains (by decide)⟩
  simp only [resourceLines, clear_append_iff]
  exact ⟨⟨⟨⟨clear_resourceTitle config r, clear_resourceExample config r⟩, hgroups⟩,
    clear_flatMap clear_blockLines⟩, clear_resourceImportHelp config r⟩

end Page

end ProviderGen
