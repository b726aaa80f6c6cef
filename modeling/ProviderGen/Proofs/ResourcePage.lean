/-
The page of a resource lists every attribute once.

In a loop over records a bullet is printed for each, with the notes that the record calls for, and
in one over groups the bullets of the members of each, which the template selects by the name of
the group. So the sections of the template write the sections of the page, whatever is known
besides, and the page is its lines.
-/
import ProviderGen.Proofs.PageLines
import ProviderGen.Proofs.SourceContents

set_option autoImplicit false

namespace ProviderGen

open ProviderGen.Text PageLine

/-! ## Parts of the template -/

namespace Page

/-- The value of an attribute in the example. -/
def valuePart : Part :=
  .choose
    [(.nameIs ["field", "doc_type"] "String",
      [.text "\"",
       .choose
         [(.hasItems ["field", "enum_values"],
           [.put (.filter (.name ["field", "enum_values"]) "first" [])])]
         [.text "example"],
       .text "\""]),
     (.nameIs ["field", "doc_type"] "Number", [.text "0"]),
     (.nameIs ["field", "doc_type"] "Boolean", [.text "false"]),
     (.either (.test ["field", "doc_type"] "starting_with" [.text "List"])
         (.nameIs ["field", "doc_type"] "Attributes List"),
      [.text "[]"])]
    [.text "\x7b\x7d"]

/-- The line of the example for an attribute. -/
def settingPart : Part :=
  .given (.nameIs ["field", "section"] "required")
    [.lines ["", "  "], .slot ["field", "name"], .text " = ", valuePart]

/-- The line for an outermost attribute. -/
def bulletParts : Template :=
  [.lines ["", "- `"], .slot ["field", "name"], .text "` (", .slot ["field", "doc_type"],
   .text ")", Builtin.description, Builtin.allowedValues, Builtin.nestedLink]

/-- What is said of the group of an attribute inside another one. -/
def remarkPart : Part :=
  .choose
    [(.nameIs ["field", "section"] "required", [.text ", Required"]),
     (.nameIs ["field", "section"] "read_only", [.text ", Read-Only"])]
    []

/-- The line for an attribute inside another one. -/
def innerBulletParts : Template :=
  [.lines ["", "- `"], .slot ["field", "name"], .text "` (", .slot ["field", "doc_type"],
   remarkPart, .text ")", Builtin.description, Builtin.allowedValues]

/-- The heading of a group. -/
def groupTitlePart : Part :=
  .choose
    [(.nameIs ["section"] "required", [.text "Required"]),
     (.nameIs ["section"] "optional", [.text "Optional"])]
    [.text "Read-Only"]

/-- Defines the members of a group by the name of the group. -/
def membersPart : Part :=
  .define "members"
    (.filter (.name ["fields"]) "filter"
      [("attribute", .text "section"), ("value", .name ["section"])])

/-- The list of a group, given its members. -/
def groupParts : Template :=
  [.given (.hasItems ["members"])
    [.lines ["", "", "### "], groupTitlePart, .lines ["", ""],
     .each "field" (.name ["members"]) bulletParts]]

end Page

/-! ## Records in a loop -/

section Records

variable {scope : Scope} {record : Record}

/-- A scope has a record under the name that loops over records have for it. -/
def Scope.HasField (scope : Scope) (record : Record) : Prop :=
  ∀ keys value, record.encode.follow? keys = some value →
    scope.lookup? ("field" :: keys) = some value

theorem Record.hasField_item (record : Record) (index count : Nat) (scope : Scope) :
    Scope.HasField
      ({ loop := some { name := "field", item := record.encode, index, count } } :: scope) record := by
  have hne : "field" ≠ "loop" := by decide
  exact fun keys value h => lookup?_item hne h index count scope

/-- What the members of a record are on pages. -/
theorem Scope.HasField.lookup? (h : scope.HasField record) :
    scope.lookup? ["field", "name"] = some (.string record.name) ∧
      scope.lookup? ["field", "doc_type"] = some (.string record.docType) ∧
      scope.lookup? ["field", "section"] = some (.string record.group.name) ∧
      scope.lookup? ["field", "description"] = some (Json.ofOption .string record.description) ∧
      scope.lookup? ["field", "enum_values"] = some (.array (record.enumValues.map .string)) ∧
      scope.lookup? ["field", "nested"] = some (.array (record.nested.map Record.encode)) := by
  have hmembers : record.encode.follow? ["name"] = some (.string record.name) ∧
      record.encode.follow? ["doc_type"] = some (.string record.docType) ∧
      record.encode.follow? ["section"] = some (.string record.group.name) ∧
      record.encode.follow? ["description"] =
        some (Json.ofOption .string record.description) ∧
      record.encode.follow? ["enum_values"] = some (.array (record.enumValues.map .string)) ∧
      record.encode.follow? ["nested"] = some (.array (record.nested.map Record.encode)) := by
    cases record
    simp [Record.encode, Json.follow?, Json.child?, List.lookup_cons, Record.encodeAll_eq,
      Json.strings]
  obtain ⟨hname, htype, hsection, hdescription, hvalues, hnested⟩ := hmembers
  exact ⟨h _ _ hname, h _ _ htype, h _ _ hsection, h _ _ hdescription, h _ _ hvalues, h _ _ hnested⟩

/-! ### Notes -/

theorem prints_description (h : scope.HasField record) :
    Prints [Builtin.description] scope record.descriptionNote := by
  obtain ⟨-, -, -, hdescription, -⟩ := h.lookup?
  have hprints := ((Prints.nil.slot hdescription).text " ").given (Expr.truth_name hdescription)
  unfold Record.descriptionNote
  cases hvalue : record.description with
  | none =>
    rw [hvalue] at hprints
    exact hprints
  | some description =>
    rw [hvalue, String.append_empty] at hprints
    by_cases hempty : description = ""
    · subst hempty
      exact hprints
    · have htruthy : (Json.ofOption Json.string (some description)).isTruthy = true :=
        bne_iff_ne.mpr hempty
      rw [if_pos htruthy] at hprints
      dsimp only
      rw [if_neg hempty]
      exact hprints

theorem prints_values (h : scope.HasField record) :
    Prints [Builtin.allowedValues] scope record.valuesNote := by
  obtain ⟨-, -, -, -, hvalues, -⟩ := h.lookup?
  have hvalue (value : String) (index count : Nat) :
      Prints [.text "`", .slot ["value"], .text "`"]
        ({ loop := some { name := "value", item := .string value, index, count } } :: scope)
        ("`" ++ value ++ "`") := by
    have hne : "value" ≠ "loop" := by decide
    have hitem : Json.follow? [] (.string value) = some (.string value) := rfl
    have hprints := ((Prints.nil.text "`").slot (lookup?_item hne hitem index count scope)).text "`"
    rw [String.append_empty, ← String.append_assoc] at hprints
    exact hprints
  have hloop := Prints.eachParted ", " hvalues fun value _ => hvalue value
  have hprints := ((hloop.cons (Prints.nil.text ".")).text " Allowed values: ").given
    (Expr.truth_hasItems hvalues)
  unfold Record.valuesNote
  cases hempty : record.enumValues with
  | nil =>
    rw [hempty] at hprints
    exact hprints
  | cons first rest =>
    rw [hempty, String.append_empty, ← String.append_assoc] at hprints
    exact hprints

theorem prints_link (h : scope.HasField record) :
    Prints [Builtin.nestedLink] scope record.linkNote := by
  obtain ⟨hname, -, -, -, -, hnested⟩ := h.lookup?
  have hprints := (((Prints.nil.text "))").slot hname).text
    " (see [below for nested schema](#nestedatt--").given (Expr.truth_hasItems hnested)
  unfold Record.linkNote
  cases hempty : record.nested with
  | nil =>
    rw [hempty] at hprints
    exact hprints
  | cons first rest =>
    rw [hempty] at hprints
    simp only [Json.shown, String.append_empty, ← String.append_assoc] at hprints
    exact hprints

/-! ### Lines -/

/-- A bullet begins with a name and a type, and the rest follows. -/
theorem prints_entry (h : scope.HasField record) {rest : List Part} {others : String}
    (hrest : Prints rest scope others) :
    Prints (.lines ["", "- `"] :: .slot ["field", "name"] :: .text "` (" ::
        .slot ["field", "doc_type"] :: rest) scope
      ("\n" ++ ("- `" ++ (record.name ++ ("` (" ++ (record.docType ++ others))))) := by
  obtain ⟨hname, htype, -⟩ := h.lookup?
  have hprints := (((hrest.slot htype).text "` (").slot hname).lines ["", "- `"]
  simp only [Json.shown, String.intercalate_cons_cons, String.intercalate_singleton,
    String.empty_append, String.append_assoc] at hprints
  exact hprints

theorem prints_bullet (h : scope.HasField record) :
    Prints Page.bulletParts scope ("\n" ++ record.bullet.text) := by
  have hnotes := (prints_description h).cons ((prints_values h).cons (prints_link h))
  simp only [Record.bullet, text_bullet, String.append_assoc]
  exact prints_entry h (hnotes.text ")")

theorem prints_remark (h : scope.HasField record) :
    Prints [Page.remarkPart] scope record.group.remark := by
  obtain ⟨-, -, hsection, -⟩ := h.lookup?
  have hreadOnly :=
    (Prints.nil.text ", Read-Only").given (Expr.truth_nameIs hsection "read_only")
  have hprints :=
    (Prints.nil.text ", Required").choose (Expr.truth_nameIs hsection "required") hreadOnly
  cases hgroup : record.group <;> rw [hgroup] at hprints <;> exact hprints

theorem prints_innerBullet (h : scope.HasField record) :
    Prints Page.innerBulletParts scope ("\n" ++ record.innerBullet.text) := by
  have hnotes := (prints_description h).cons (prints_values h)
  simp only [Record.innerBullet, text_bullet, String.append_assoc]
  exact prints_entry h ((prints_remark h).cons (hnotes.text ")"))

theorem prints_exampleValue (h : scope.HasField record) :
    Prints [Page.valuePart] scope record.exampleValue := by
  obtain ⟨-, htype, -, -, hvalues, -⟩ := h.lookup?
  have hfirst : Prints [.put (.filter (.name ["field", "enum_values"]) "first" [])] scope
      (record.enumValues.headD "") := by
    rw [prints_singleton_iff, Part.render, Expr.eval, Expr.eval, Scope.lookup, hvalues,
      Expr.evalArguments]
    cases record.enumValues <;> simp [applyFilter, ok_bind, Json.shown, pure, Except.pure]
  have htext : (if !(record.enumValues.map Json.string).isEmpty then record.enumValues.headD ""
      else "example" ++ "") = record.enumValues.headD "example" := by
    cases record.enumValues <;> rfl
  have hstring := hfirst.choose (Expr.truth_hasItems hvalues) (Prints.last (Prints.nil.text "example"))
  rw [htext] at hstring
  -- the first branch that holds decides, as in the definition of the value
  have hlist := Expr.truth_either (Expr.truth_startsWith htype "List")
    (Expr.truth_nameIs htype "Attributes List")
  have hprints :=
    ((hstring.cons (Prints.nil.text "\"")).text "\"").choose (Expr.truth_nameIs htype "String") <|
    (Prints.nil.text "0").choose (Expr.truth_nameIs htype "Number") <|
    (Prints.nil.text "false").choose (Expr.truth_nameIs htype "Boolean") <|
    (Prints.nil.text "[]").choose hlist (Prints.last (Prints.nil.text "\x7b\x7d"))
  simp only [decide_eq_true_eq, Bool.or_eq_true, List.isPrefixOf_iff_prefix, String.append_empty,
    ← String.append_assoc] at hprints
  exact hprints

/-- In a loop over all records those that are required are set. -/
theorem prints_setting (h : scope.HasField record) :
    Prints [Page.settingPart] scope
      (if record.group = .required then "\n" ++ record.setting.text else "") := by
  obtain ⟨hname, -, hsection, -⟩ := h.lookup?
  have hline := (((prints_exampleValue h).text " = ").slot hname).lines ["", "  "]
  have hprints := hline.given (Expr.truth_nameIs hsection "required")
  have hgroup : record.group.name = "required" ↔ record.group = .required :=
    ⟨fun hname => Group.name_inj hname, congrArg Group.name⟩
  simp only [decide_eq_true_eq, hgroup, Json.shown, String.intercalate_cons_cons,
    String.intercalate_singleton, String.empty_append, String.append_assoc] at hprints
  simp only [Record.setting, text_setting, String.append_assoc]
  exact hprints

end Records

/-! ## Groups and blocks in a loop -/

section Lists

variable {config : Config} {r : Resource}

/-- Selecting by the name of a group gives its members. -/
theorem selectItems_encode (group : Group) (records : List Record) :
    selectItems "section" (.string group.name) (records.map Record.encode) =
      (records.filter fun record => decide (record.group = group)).map Record.encode := by
  have hsection (record : Record) :
      record.encode.child? "section" = some (.string record.group.name) := by
    cases record
    simp [Record.encode, Json.child?, List.lookup_cons]
  have hsame (record : Record) :
      (record.group.name == group.name) = decide (record.group = group) := by
    rw [Bool.eq_iff_iff, beq_iff_eq, decide_eq_true_eq]
    exact ⟨Group.name_inj, congrArg Group.name⟩
  unfold selectItems
  rw [List.filter_map]
  simp only [Function.comp_def, hsection, Option.getD_some, Json.same, hsame]

theorem prints_groupTitle {scope : Scope} {group : Group}
    (h : scope.lookup? ["section"] = some (.string group.name)) :
    Prints [Page.groupTitlePart] scope group.title := by
  have hprints :=
    (Prints.nil.text "Required").choose (Expr.truth_nameIs h "required") <|
    (Prints.nil.text "Optional").choose (Expr.truth_nameIs h "optional")
      (Prints.last (Prints.nil.text "Read-Only"))
  cases group <;> exact hprints

/-- Where the members of a group are defined, they are listed. -/
theorem prints_group {scope : Scope} {group : Group}
    (hsection : scope.lookup? ["section"] = some (.string group.name))
    (hmembers : scope.lookup? ["members"] =
      some (.array ((Page.members r group).map Record.encode))) :
    Prints Page.groupParts scope (hung ((Page.groupLines r group).map PageLine.text)) := by
  have hlist := Prints.each hmembers
    (fun record _ index count => prints_bullet (record.hasField_item index count scope)) Prints.nil
  have hbody := ((prints_groupTitle hsection).cons (hlist.lines ["", ""])).lines ["", "", "### "]
  have hprints := hbody.given (Expr.truth_hasItems hmembers)
  rw [join_map_line, String.append_empty] at hprints
  unfold Page.groupLines
  cases hempty : Page.members r group with
  | nil =>
    rw [hempty] at hprints
    exact hprints
  | cons first rest =>
    rw [hempty] at hprints
    have htext : hung ((plains [""] ++ [PageLine.heading group.title] ++ plains [""] ++
        (first :: rest).map Record.bullet).map PageLine.text) =
          "\n".intercalate ["", "", "### "] ++ (group.title ++ ("\n".intercalate ["", ""] ++
            hung (((first :: rest).map Record.bullet).map PageLine.text))) := by
      simp [-String.reduceAppend, String.append_assoc]
    rw [← htext] at hprints
    exact hprints

theorem eval_members {scope : Scope} {group : Group}
    (hfields : scope.lookup? ["fields"] = some (.array (r.records.map Record.encode)))
    (hsection : scope.lookup? ["section"] = some (.string group.name)) :
    Expr.eval scope
        (.filter (.name ["fields"]) "filter"
          [("attribute", .text "section"), ("value", .name ["section"])]) =
      .ok (.array ((Page.members r group).map Record.encode)) := by
  have hfilter : applyFilter "filter"
      [("attribute", .string "section"), ("value", .string group.name)]
      (.array (r.records.map Record.encode)) =
        .ok (.array ((Page.members r group).map Record.encode)) := by
    simp [applyFilter, List.lookup_cons, selectItems_encode, Page.members]
  simp only [Expr.eval, Expr.evalArguments, Scope.lookup, hfields, hsection, ok_bind, pure,
    Except.pure, hfilter]

/-- In a loop over the groups their lists are printed. -/
theorem renderAll_group {scope : Scope} (hscope : scope.Knows config r) (group : Group)
    (index count : Nat) :
    ∃ scope', Part.renderAll (Page.membersPart :: Page.groupParts)
        ({ loop := some { name := "section", item := .string group.name, index, count } } :: scope) =
      .ok (hung ((Page.groupLines r group).map PageLine.text), scope') := by
  have hne : "section" ≠ "loop" := by decide
  have hitem : Json.follow? [] (.string group.name) = some (.string group.name) := rfl
  have hsection := lookup?_item hne hitem index count scope
  have hfields : Scope.lookup?
      ({ loop := some { name := "section", item := .string group.name, index, count } } :: scope)
      ["fields"] = some (.array (r.records.map Record.encode)) := by
    rw [← hscope "fields" _ lookup_fields]
    simp [Scope.lookup?, Frame.lookup?, LoopPlace.lookup?]
  -- the members go into the frame of the loop, and the name of the group stays what it is
  refine ⟨_, renderAll_define (eval_members hfields hsection) (prints_group ?_ ?_)⟩
  · have hother : "section" ≠ "members" := by decide
    rw [Scope.lookup?_define hother]
    exact hsection
  · exact Scope.lookup?_define_self _ _ _

/-- The place that links to a block lead to is its path with hyphens for dots. -/
theorem prints_anchor {scope : Scope} {path : String}
    (h : scope.lookup? ["block", "path"] = some (.string path)) :
    Prints [Builtin.anchor] scope (replaceAll path "." "--") := by
  rw [Builtin.anchor, prints_singleton_iff, Part.render]
  simp [Expr.eval, Expr.evalArguments, Scope.lookup, h, applyFilter, List.lookup_cons, ok_bind, pure,
    Except.pure, Json.shown]

/-- What the members of a block are in a template. -/
theorem Block.follow?_encode (block : Block) :
    block.encode.follow? ["path"] = some (.string block.path) ∧
      block.encode.follow? ["fields"] = some (.array (block.records.map Record.encode)) := by
  simp [Block.encode, Json.follow?, Json.child?, List.lookup_cons, encodeRecords,
    Record.encodeAll_eq]

/-- In a loop over the blocks their lists are printed, if the bullets in them are. -/
theorem prints_linesOfBlock {parts : Template} {line : Record → PageLine}
    (hline : ∀ {scope : Scope} {record : Record}, scope.HasField record →
      Prints parts scope ("\n" ++ (line record).text))
    (remark : String) (remarks : List String) (block : Block) (index count : Nat) (scope : Scope) :
    Prints
      [.lines ["", "<a id=\"nestedatt--"], Builtin.anchor,
       .lines ["\"></a>", "### Nested Schema for `"], .slot ["block", "path"],
       .lines ("`" :: remark :: remarks), .each "field" (.name ["block", "fields"]) parts,
       .lines ["", ""]]
      ({ loop := some { name := "block", item := block.encode, index, count } } :: scope)
      (hung ((Page.linesOfBlock (remark :: remarks) line block).map PageLine.text)) := by
  have hne : "block" ≠ "loop" := by decide
  have hpath := lookup?_item hne block.follow?_encode.1 index count scope
  have hfields := lookup?_item hne block.follow?_encode.2 index count scope
  have hlist := Prints.each hfields
    (fun record _ index count => hline (record.hasField_item index count _))
    (Prints.nil.lines ["", ""])
  have hprints := ((prints_anchor hpath).cons (((hlist.lines ("`" :: remark :: remarks)).slot
    hpath).lines ["\"></a>", "### Nested Schema for `"])).lines ["", "<a id=\"nestedatt--"]
  rw [join_map_line] at hprints
  have htext : hung ((Page.linesOfBlock (remark :: remarks) line block).map PageLine.text) =
      "\n".intercalate ["", "<a id=\"nestedatt--"] ++ (replaceAll block.path "." "--" ++
        ("\n".intercalate ["\"></a>", "### Nested Schema for `"] ++ (block.path ++
          ("\n".intercalate ("`" :: remark :: remarks) ++
            (hung ((block.records.map line).map PageLine.text) ++
              ("\n".intercalate ["", ""] ++ "")))))) := by
    -- the template has the heading and its first words in one text
    have hheading (rest : String) : "### " ++ ("Nested Schema for `" ++ rest) =
        "### Nested Schema for `" ++ rest := by
      rw [← String.append_assoc]
      rfl
    simp [-String.reduceAppend, String.append_assoc, Page.linesOfBlock, hheading,
      intercalate_cons_eq_hung]
  rw [htext]
  exact hprints

end Lists

/-! ## Sections of the page -/

section Sections

variable (config : Config) (r : Resource)

theorem writes_resourceTitle :
    Writes config r Builtin.resourceTitle (pageText (Page.resourceTitle config r)) := by
  have hprovider : r.shown config "provider_name" = config.providerName := rfl
  refine .of_filled rfl ?_
  simp [-String.reduceAppend, String.append_assoc, Builtin.resourceTitle, Page.resourceTitle,
    pageText, hprovider]

theorem writes_settings :
    Writes config r [.each "field" (.name ["fields"]) [Page.settingPart]]
      (hung (((Page.members r .required).map Record.setting).map PageLine.text)) := by
  have hloop : Writes config r [.each "field" (.name ["fields"]) [Page.settingPart]] _ :=
    writes_join lookup_fields
      fun record index count scope => prints_setting (record.hasField_item index count scope)
  rw [join_map_ite] at hloop
  rw [List.map_map]
  exact hloop

theorem writes_resourceExample :
    Writes config r Builtin.resourceExample
      (hung ((Page.resourceExample config r).map PageLine.text)) := by
  refine .around (n := 3) rfl (writes_settings config r) rfl rfl ?_
  simp [-String.reduceAppend, String.append_assoc, Builtin.resourceExample, Page.resourceExample,
    Page.exampleBlock]

theorem writes_groups :
    Writes config r
      [.each "section" (.list [.text "required", .text "optional", .text "read_only"])
        (Page.membersPart :: Page.groupParts)]
      (hung ((Group.all.flatMap (Page.groupLines r)).map PageLine.text)) := by
  refine .of_prints fun scope hscope => ?_
  have hgroups : Expr.eval scope
      (.list [.text "required", .text "optional", .text "read_only"]) =
        .ok (.array (Group.all.map fun group => .string group.name)) := rfl
  rw [prints_singleton_iff, Part.render, hgroups]
  simp only [itemsOf, ok_bind]
  rw [renderLoop_eq_join fun group _ index => renderAll_group hscope group index _]
  rw [List.map_flatMap, hung_flatMap]
  rfl

theorem writes_resourceGroups :
    Writes config r Builtin.resourceGroups
      (hung ((Page.resourceGroups r).map PageLine.text)) := by
  refine .around (n := 1) rfl (writes_groups config r) rfl rfl ?_
  simp [-String.reduceAppend, String.append_assoc, Builtin.resourceGroups, Page.resourceGroups]

theorem lookup_blocks : (r.context config).lookup "nested_blocks" =
    some (.array ((blocksOf r.records).map Block.encode)) := by
  simp [Resource.context, List.lookup_cons]

theorem writes_resourceBlocks :
    Writes config r Builtin.resourceBlocks
      (hung ((Page.resourceBlocks r).map PageLine.text)) := by
  have hloop := writes_join (lookup_blocks config r)
    (prints_linesOfBlock prints_innerBullet "" [])
  rw [Page.resourceBlocks, Page.blockLines_eq, List.map_flatMap, hung_flatMap]
  exact hloop

theorem writes_resourceImportHelp :
    Writes config r Builtin.resourceImportHelp
      (hung ((Page.resourceImportHelp config r).map PageLine.text)) := by
  obtain ⟨hflag, -⟩ := lookup_flags config r
  unfold Page.resourceImportHelp
  rw [apply_ite (List.map PageLine.text), apply_ite hung]
  refine writes_choose hflag (.of_filled rfl ?_) (.of_filled rfl rfl)
  simp [-String.reduceAppend, String.append_assoc]

/-- **The page of a resource is its lines**, whatever the settings and the resource are. -/
theorem render_eq_resourceLines :
    Templates.builtin.render Artifact.resourcePage.template (r.context config) =
      .ok (pageText (Page.resourceLines config r)) := by
  have hwrites : Writes config r Artifact.resourcePage.builtin _ :=
    ((((writes_resourceTitle config r).append (writes_resourceExample config r)).append
      (writes_resourceGroups config r)).append (writes_resourceBlocks config r)).append
      (writes_resourceImportHelp config r)
  have hne : Page.resourceTitle config r ≠ [] := List.cons_ne_nil _ _
  have htext : pageText (Page.resourceLines config r) =
      pageText (Page.resourceTitle config r) ++
        hung ((Page.resourceExample config r).map PageLine.text) ++
        hung ((Page.resourceGroups r).map PageLine.text) ++
        hung ((Page.resourceBlocks r).map PageLine.text) ++
        hung ((Page.resourceImportHelp config r).map PageLine.text) := by
    simp only [Page.resourceLines, List.append_assoc, pageText_append hne, List.map_append,
      hung_append, String.append_assoc]
  rw [htext]
  exact hwrites.render

end Sections

/-! ## The main statement -/

/-- **The page of a resource lists every attribute once.** The page is its lines. The marked ones
are a setting for each required attribute, in the example; then, for each group that has members,
its heading and a bullet for each member, in order; and then, for each block, its heading and a
bullet for each attribute of the block. The groups list all records, each of them once, and these
are made of the attributes in order. No other line opens as a bullet or a heading does, and the
bullets of blocks say `Required` or `Read-Only` just of the attributes of these groups. -/
theorem resourcePage_lists (config : Config) (r : Resource) :
    Templates.builtin.render Artifact.resourcePage.template (r.context config) =
        .ok (pageText (Page.resourceLines config r)) ∧
      (Page.resourceLines config r).filter isMarked =
        (Page.members r .required).map Record.setting ++
          [Group.required, Group.optional, Group.readOnly].flatMap (Page.groupList r) ++
          (blocksOf r.records).flatMap Page.blockList ∧
      Page.exampleBlock config r <:+: Page.resourceLines config r ∧
      ([Group.required, Group.optional, Group.readOnly].flatMap (Page.members r)).Perm r.records ∧
      (r.records.map fun record => (record.name, record.docType, record.group)) =
        (r.attributes.map fun field =>
          (field.name, field.kind.title, Group.of field.required field.readOnly)) ∧
      Clear (Page.resourceLines config r) ∧
      ∀ record : Record,
        (("- `" ++ record.name ++ "` (" ++ record.docType ++ ", Required)").toList <+:
            record.innerBullet.text.toList ↔ record.group = .required) ∧
          (("- `" ++ record.name ++ "` (" ++ record.docType ++ ", Read-Only)").toList <+:
            record.innerBullet.text.toList ↔ record.group = .readOnly) :=
  ⟨render_eq_resourceLines config r, Page.filter_resourceLines config r,
    Page.exampleBlock_infix_resourceLines config r, Page.members_perm r, Page.records_outline r,
    Page.clear_resourceLines config r, Record.innerBullet_says⟩

end ProviderGen
