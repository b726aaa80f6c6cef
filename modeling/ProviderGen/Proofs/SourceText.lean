/-
The text of source files.

Parts of a template write a text for a resource if they do so wherever its names are known, and
leave these known. So what parts write one after another is what each of them writes, and a
definition of another name does no harm. Most parts are literal text and names that all templates
know, and what these write is filled in. What is left are the loops over imports and attributes and
the choices by a flag, which write lines.
-/
import ProviderGen.Proofs.BuiltinTemplates
import ProviderGen.Proofs.Rendering
import ProviderGen.Proofs.SourceLines

set_option autoImplicit false

namespace ProviderGen

open ProviderGen.Text SourceLine

/-! ## Templates of source files -/

namespace Mode

/-- The source file with a schema. -/
def artifact : Mode → Artifact
  | resource => .resource
  | dataSource => .dataSource

/-- The description of the schema. -/
def description : Mode → Expr
  | resource => .join [.text "Manages a ", .name ["resource_name"], .text " resource."]
  | dataSource => .join [.text "Reads a ", .name ["resource_name"], .text " entry."]

/-- The member of a record that has the declaration for the schema. -/
def member : Mode → String
  | resource => "declaration"
  | dataSource => "data_source_declaration"

/-- The beginning of the schema. -/
def opening : Template :=
  [.lines ["", "\tresp.Schema = schema.Schema\x7b", "\t\tMarkdownDescription: "],
   .put (.filter (.name ["description"]) "go_string" [])]

/-- The entry of an attribute. -/
def entryParts (mode : Mode) : Template :=
  [.lines ["", "\t\t\t\""],
   .slot ["field", "name"],
   .text "\": ",
   .slot ["field", mode.member],
   .text ","]

end Mode

/-! ## What is known -/

section Known

variable {config : Config} {r : Resource} {scope : Scope}

/-- A scope has what templates know about a resource. -/
def Scope.Knows (config : Config) (r : Resource) (scope : Scope) : Prop :=
  ∀ key value, (r.context config).lookup key = some value → scope.lookup? [key] = some value

theorem Resource.knows_scope (config : Config) (r : Resource) :
    (r.scope config).Knows config r := by
  intro key value h
  simp [Resource.scope, Scope.lookup?, Frame.lookup?, h, Json.follow?]

/-- A definition changes no other name. -/
theorem Scope.lookup?_define {name key : String} (h : key ≠ name) (value : Json) (scope : Scope) :
    (scope.define name value).lookup? [key] = scope.lookup? [key] := by
  have hkey : (key == name) = false := beq_eq_false_iff_ne.mpr h
  cases scope with
  | nil => simp [Scope.define, Scope.lookup?, Frame.lookup?, List.lookup_cons, hkey]
  | cons frame outer =>
    simp [Scope.define, Scope.lookup?, Frame.lookup?, List.findSome?_cons, List.lookup_cons, hkey]

theorem Scope.lookup?_define_self (name : String) (value : Json) (scope : Scope) :
    (scope.define name value).lookup? [name] = some value := by
  cases scope <;> simp [Scope.define, Scope.lookup?, Frame.lookup?, Json.follow?]

theorem Scope.Knows.define (h : scope.Knows config r) {name : String}
    (hname : (r.context config).lookup name = none) (value : Json) :
    (scope.define name value).Knows config r := by
  intro key value' hvalue
  have hne : key ≠ name := by
    rintro rfl
    rw [hname] at hvalue
    cases hvalue
  rw [Scope.lookup?_define hne]
  exact h key value' hvalue

end Known

/-! ## What is written -/

section Writing

variable {config : Config} {r : Resource}

/-- Parts write a text for a resource, wherever what templates know about it is known, and leave
it known. -/
def Writes (config : Config) (r : Resource) (parts : Template) (text : String) : Prop :=
  ∀ scope : Scope, scope.Knows config r → ∃ scope' : Scope, scope'.Knows config r ∧
    Part.renderAll parts scope = .ok (text, scope')

theorem Writes.of_prints {parts : Template} {text : String}
    (h : ∀ scope : Scope, scope.Knows config r → Prints parts scope text) :
    Writes config r parts text :=
  fun scope hscope => ⟨scope, hscope, h scope hscope⟩

theorem Writes.append {first second : Template} {text text' : String}
    (hfirst : Writes config r first text) (hsecond : Writes config r second text') :
    Writes config r (first ++ second) (text ++ text') := by
  intro scope hscope
  obtain ⟨between, hbetween, htext⟩ := hfirst scope hscope
  obtain ⟨after, hafter, htext'⟩ := hsecond between hbetween
  exact ⟨after, hafter, renderAll_append htext htext'⟩

/-- What the parts of a built-in template write is what the template is rendered to. -/
theorem Writes.render {artifact : Artifact} {text : String}
    (h : Writes config r artifact.builtin text) :
    Templates.builtin.render artifact.template (r.context config) = .ok text := by
  obtain ⟨scope', -, htext⟩ := h (r.scope config) (r.knows_scope config)
  rw [Resource.scope] at htext
  rw [Templates.render_builtin, Template.render, htext]

/-! ### Texts and names -/

/-- What templates show under a name of the context. -/
def Resource.shown (config : Config) (r : Resource) (key : String) : String :=
  (((r.context config).lookup key).getD .null).shown

/-- Whether a part is a text or shows a text that all templates know. -/
def Part.isFilled : Part → Bool
  | .text _ => true
  | .put (.name [key]) =>
    match contextTypes.lookup key with
    | some .text => true
    | _ => false
  | _ => false

/-- The text of such a part. -/
def Part.fill (config : Config) (r : Resource) : Part → String
  | .text s => s
  | .put (.name [key]) => r.shown config key
  | _ => ""

theorem Part.prints_fill {part : Part} (hpart : part.isFilled = true) {scope : Scope}
    (hscope : scope.Knows config r) {rest : Template} {others : String}
    (hrest : Prints rest scope others) :
    Prints (part :: rest) scope (part.fill config r ++ others) := by
  unfold isFilled at hpart
  split at hpart
  · exact hrest.text _
  · next key =>
    split at hpart
    · next htype =>
      obtain ⟨value, hvalue, -⟩ := (contextTypes_holdAll config r).exists_lookup htype
      have hslot := hrest.slot (hscope key value hvalue)
      have hfill : (Part.put (.name [key])).fill config r = value.shown := by
        rw [fill, Resource.shown, hvalue, Option.getD_some]
      rw [hfill]
      exact hslot
    · cases hpart
  · cases hpart

/-- The text of parts that are filled in. -/
def filled (config : Config) (r : Resource) (parts : Template) : String :=
  String.join (parts.map (Part.fill config r))

section Filled

variable (config r) (rest : Template)

@[simp] theorem filled_nil : filled config r [] = "" := rfl

@[simp] theorem filled_text (s : String) :
    filled config r (.text s :: rest) = s ++ filled config r rest := by
  rw [filled, filled, List.map_cons, String.join_cons, Part.fill]

@[simp] theorem filled_slot (key : String) :
    filled config r (.slot [key] :: rest) = r.shown config key ++ filled config r rest := by
  rw [filled, filled, List.map_cons, String.join_cons, Part.slot, Part.fill]

@[simp] theorem filled_lines_singleton (line : String) :
    filled config r (.lines [line] :: rest) = line ++ filled config r rest := by
  rw [Part.lines, String.intercalate_singleton, filled_text]

@[simp] theorem filled_lines_cons_cons (line next : String) (lines : List String) :
    filled config r (.lines (line :: next :: lines) :: rest) =
      line ++ ("\n" ++ filled config r (.lines (next :: lines) :: rest)) := by
  rw [Part.lines, Part.lines, String.intercalate_cons_cons, filled_text, filled_text]
  simp only [String.append_assoc]

end Filled

/-- **Texts and names are filled in.** -/
theorem writes_filled {parts : Template} (h : parts.all Part.isFilled = true) :
    Writes config r parts (filled config r parts) := by
  refine .of_prints fun scope hscope => ?_
  induction parts with
  | nil => exact .nil
  | cons part rest ih =>
    obtain ⟨hpart, hrest⟩ := Bool.and_eq_true_iff.mp (List.all_cons ▸ h)
    rw [filled, List.map_cons, String.join_cons]
    exact Part.prints_fill hpart hscope (ih hrest)

/-- Parts that are filled in write what they are filled in to. -/
theorem Writes.of_filled {parts : Template} {text : String} (h : parts.all Part.isFilled = true)
    (htext : filled config r parts = text) : Writes config r parts text :=
  htext ▸ writes_filled h

/-- All but one of some parts are filled in. -/
theorem Writes.around {parts : Template} {n : Nat} {part : Part} {inner text : String}
    (hpart : parts[n]? = some part) (hinner : Writes config r [part] inner)
    (hfront : (parts.take n).all Part.isFilled = true)
    (hback : (parts.drop (n + 1)).all Part.isFilled = true)
    (htext : filled config r (parts.take n) ++ inner ++ filled config r (parts.drop (n + 1)) =
      text) :
    Writes config r parts text := by
  have hsplit : parts.take n ++ [part] ++ parts.drop (n + 1) = parts := by
    obtain ⟨hn, rfl⟩ := List.getElem?_eq_some_iff.mp hpart
    rw [List.append_assoc, List.singleton_append, List.getElem_cons_drop, List.take_append_drop]
  have hall := ((writes_filled hfront).append hinner).append (writes_filled hback)
  rw [hsplit, htext] at hall
  exact hall

/-! ### Loops -/

/-- What an item has is found under the name of the loop. -/
theorem lookup?_item {name : String} {keys : List String} (hname : name ≠ "loop")
    {item value : Json} (h : item.follow? keys = some value) (index count : Nat) (scope : Scope) :
    Scope.lookup? ({ loop := some { name, item, index, count } } :: scope) (name :: keys) =
      some value := by
  simp [Scope.lookup?, Frame.lookup?, LoopPlace.lookup?, hname, h]

/-- What the members of a record are in a template. -/
theorem Record.follow?_encode (record : Record) (mode : Mode) :
    record.encode.follow? ["name"] = some (.string record.name) ∧
      record.encode.follow? ["source_name"] = some (.string record.source) ∧
      record.encode.follow? ["identifier"] = some (.string record.identifier) ∧
      record.encode.follow? ["model_type"] = some (.string record.modelType) ∧
      record.encode.follow? [mode.member] = some (.string (record.declarationFor mode)) := by
  cases record
  cases mode <;>
    simp [Record.encode, Record.declarationFor, Json.follow?, Json.child?, Mode.member,
      List.lookup_cons]

/-- A loop writes the texts of its items. -/
theorem writes_join {α : Type} {items : List α} {encode : α → Json} {key name : String}
    (hkey : (r.context config).lookup key = some (.array (items.map encode))) {body : Template}
    {print : α → String}
    (hbody : ∀ (item : α) (index count : Nat) (scope : Scope), Prints body
      ({ loop := some { name, item := encode item, index, count } } :: scope) (print item)) :
    Writes config r [.each name (.name [key]) body] (String.join (items.map print)) := by
  refine .of_prints fun scope hscope => ?_
  have hloop := Prints.each (hscope key _ hkey)
    (fun item _ index count => hbody item index count scope) Prints.nil
  rw [String.append_empty] at hloop
  exact hloop

/-- A loop writes a line for each of its items. -/
theorem writes_each {α : Type} {items : List α} {encode : α → Json} {key name : String}
    (hkey : (r.context config).lookup key = some (.array (items.map encode))) {body : Template}
    {line : α → SourceLine}
    (hbody : ∀ (item : α) (index count : Nat) (scope : Scope), Prints body
      ({ loop := some { name, item := encode item, index, count } } :: scope)
      ("\n" ++ (line item).text)) :
    Writes config r [.each name (.name [key]) body] (below (items.map line)) := by
  rw [below, List.map_map]
  exact writes_join hkey hbody

/-- The packages of validators. -/
theorem writes_packages :
    Writes config r
      [.each "import" (.name ["validator_imports"])
        [.lines ["", "\t\""], .slot ["import"], .text "\""]]
      (below (codes ((validatorImports r.attributes).map fun package =>
        "\t\"" ++ package ++ "\""))) := by
  have hkey : (r.context config).lookup "validator_imports" =
      some (.array ((validatorImports r.attributes).map .string)) := by
    simp [Resource.context, Json.strings, List.lookup_cons]
  rw [codes, List.map_map]
  refine writes_each hkey fun package index count scope => ?_
  have hne : "import" ≠ "loop" := by decide
  have hitem : Json.follow? [] (.string package) = some (.string package) := rfl
  have hpackage := lookup?_item hne hitem index count scope
  have hprints : Prints _ _ _ := ((Prints.nil.text "\"").slot hpackage).lines ["", "\t\""]
  simp only [Json.shown, String.intercalate_cons_cons, String.intercalate_singleton,
    String.empty_append, String.append_empty, String.append_assoc] at hprints
  simp only [Function.comp, text_code, String.append_assoc]
  exact hprints

theorem lookup_fields :
    (r.context config).lookup "fields" = some (.array (r.records.map Record.encode)) := by
  simp [Resource.context, encodeRecords, Record.encodeAll_eq, List.lookup_cons]

/-- The fields of the model. -/
theorem writes_modelFields :
    Writes config r [Builtin.modelFields] (below (r.records.map .field)) := by
  unfold Builtin.modelFields
  refine writes_each lookup_fields fun record index count scope => ?_
  obtain ⟨hname, hsource, hidentifier, htype, -⟩ := record.follow?_encode .resource
  have hne : "field" ≠ "loop" := by decide
  have hname := lookup?_item hne hname index count scope
  have hsource := lookup?_item hne hsource index count scope
  have hidentifier := lookup?_item hne hidentifier index count scope
  have htype := lookup?_item hne htype index count scope
  have hprints : Prints _ _ _ :=
    ((((((((Prints.nil.text "\"`").slot hsource).text "\" json:\"").slot hname).text
      " `tfsdk:\"").slot htype).text " ").slot hidentifier).lines ["", "\t"]
  simp only [Json.shown, String.intercalate_cons_cons, String.intercalate_singleton,
    String.empty_append, String.append_empty, String.append_assoc] at hprints
  simp only [text_field, String.append_assoc]
  exact hprints

/-- The entries of the schema. -/
theorem writes_entries (mode : Mode) :
    Writes config r [.each "field" (.name ["fields"]) mode.entryParts]
      (below (r.records.map (.entry mode))) := by
  refine writes_each lookup_fields fun record index count scope => ?_
  obtain ⟨hname, -, -, -, hdeclaration⟩ := record.follow?_encode mode
  have hne : "field" ≠ "loop" := by decide
  have hname := lookup?_item hne hname index count scope
  have hdeclaration := lookup?_item hne hdeclaration index count scope
  have hprints : Prints mode.entryParts _ _ :=
    ((((Prints.nil.text ",").slot hdeclaration).text "\": ").slot hname).lines ["", "\t\t\t\""]
  simp only [Json.shown, String.intercalate_cons_cons, String.intercalate_singleton,
    String.empty_append, String.append_empty, String.append_assoc] at hprints
  simp only [text_entry, String.append_assoc]
  exact hprints

/-! ### Choices -/

/-- The flags that choices are made by. -/
theorem lookup_flags (config : Config) (r : Resource) :
    (r.context config).lookup "has_item_path" = some (.bool r.hasItemPath) ∧
      (r.context config).lookup "has_update" = some (.bool r.hasUpdate) ∧
      (r.context config).lookup "has_delete" = some (.bool r.hasDelete) ∧
      (r.context config).lookup "id_is_string" = some (.bool (hasTextId r.attributes)) :=
  ⟨rfl, rfl, rfl, rfl⟩

/-- A choice by a flag writes what one of its bodies does. -/
theorem writes_choose {key : String} {b : Bool}
    (hkey : (r.context config).lookup key = some (.bool b)) {body otherwise : Template}
    {yes no : String} (hyes : Writes config r body yes) (hno : Writes config r otherwise no) :
    Writes config r [.choose [(.name [key], body)] otherwise] (if b then yes else no) := by
  intro scope hscope
  have htruth : Expr.truth scope (.name [key]) = .ok b := Expr.truth_name (hscope key _ hkey)
  obtain ⟨scope', hscope', htext⟩ : ∃ scope' : Scope, scope'.Knows config r ∧
      Part.renderAll (if b then body else otherwise) scope =
        .ok (if b then yes else no, scope') := by
    cases b
    · exact hno scope hscope
    · exact hyes scope hscope
  have hchoice : (Part.choose [(.name [key], body)] otherwise).render scope =
      .ok (if b then yes else no, scope') := by
    rw [Part.render, Part.renderChoice, htruth, ok_bind]
    cases b <;> exact htext
  refine ⟨scope', hscope', ?_⟩
  rw [← String.append_empty (s := if b then yes else no)]
  exact renderAll_cons hchoice Prints.nil

/-- A choice by a flag writes the lines that one of its bodies does. -/
theorem writes_choose_below {key : String} {b : Bool}
    (hkey : (r.context config).lookup key = some (.bool b)) {body otherwise : Template}
    {yes no : List SourceLine} (hyes : Writes config r body (below yes))
    (hno : Writes config r otherwise (below no)) :
    Writes config r [.choose [(.name [key], body)] otherwise] (below (if b then yes else no)) := by
  rw [apply_ite below]
  exact writes_choose hkey hyes hno

/-- The identifier of a model as a text. -/
theorem writes_identifier (model : String) :
    Writes config r [Builtin.identifier model] (identifierText model (hasTextId r.attributes)) := by
  obtain ⟨-, -, -, hflag⟩ := lookup_flags config r
  have htext (s : String) : Writes config r [.text s] s := .of_filled rfl (by simp)
  exact writes_choose hflag (htext _) (htext _)

end Writing

end ProviderGen
