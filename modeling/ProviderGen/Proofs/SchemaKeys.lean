/-
Keys of attribute maps.

The schema in a source file maps the names of attributes to their declarations, and so does every
declaration of an object. Inside a declaration the keys are quoted, so each is a literal of the
name. The outermost keys are written by the template, which puts the name between quotes as it is.
The two agree exactly if no character of the key in the document needs an escape, and what the
template writes is a literal of the name exactly if the key has no quote, backslash or line break:
the snake spelling keeps these signs.
-/
import ProviderGen.Proofs.Levels
import ProviderGen.Proofs.Printing
import ProviderGen.Proofs.Reading
import ProviderGen.Proofs.SourceFiles
import ProviderGen.Proofs.Spelling

set_option autoImplicit false

namespace ProviderGen

open ProviderGen.Text

/-! ## Keys inside declarations -/

/-- An attribute that holds others is declared with their attribute map. -/
theorem Field.declare_shape_of_inner {field : Field} (h : field.inner ≠ []) (mode : Mode)
    (place : Place) : ∃ repeated, (field.declare mode place).shape =
      .object (Field.declareAll mode (field.placeInside mode place) field.inner) repeated := by
  obtain ⟨name, source, kind, values, required, readOnly, description⟩ := field
  cases kind with
  | object nested repeated => exact ⟨repeated, rfl⟩
  | primitive _ => exact absurd rfl h
  | list _ => exact absurd rfl h
  | map _ => exact absurd rfl h

/-- The attribute map of an attribute at any position stands in the declaration of the outermost
one, and its keys are quoted. -/
theorem Field.exists_attributeMap_infix {top field : Field} {position : List Nat}
    (hfield : atPosition Field.inner position top = some field) (h : field.inner ≠ [])
    (mode : Mode) :
    ∃ depth entries, entries.map Prod.fst = field.inner.map Field.name ∧
      (attributeMap quote depth entries).toList <:+:
        ((top.declare mode .top).text attributeDepth).toList := by
  have hentry := top.atPosition_entry mode .top position
  rw [hfield, Option.map_some] at hentry
  obtain ⟨depth, htext⟩ := Declaration.atPosition_infix_text hentry attributeDepth
  obtain ⟨repeated, hshape⟩ := Field.declare_shape_of_inner h mode
    ((passed Field.inner position top).foldl (fun p f => f.placeInside mode p) .top)
  obtain ⟨front, back, hmap⟩ := Declaration.exists_text_of_object hshape depth
  rw [Field.entry, hmap, String.toList_append, String.toList_append, String.toList_append] at htext
  refine ⟨Declaration.mapDepth repeated depth, _, ?_,
    (List.infix_append ..).trans ((List.suffix_append ..).isInfix.trans htext)⟩
  rw [Field.declareAll_eq, List.map_map]
  rfl

/-! ## Keys and their characters -/

/-- What needs an escape is neither a capital nor a separator, so the snake spelling keeps it. -/
theorem kept_of_needsEscape {c : Char} (h : NeedsEscape c) :
    c.toNat < 97 ∧ isAsciiUpper c = false ∧ Naming.isSeparator c = false := by
  rcases h with rfl | rfl | hcontrol
  · decide
  · decide
  · refine ⟨by omega, Bool.eq_false_iff.mpr fun hupper => ?_, Bool.eq_false_iff.mpr fun hsep => ?_⟩
    · have := isAsciiUpper_iff.mp hupper
      omega
    · simp only [Naming.isSeparator, Bool.or_eq_true, beq_iff_eq] at hsep
      rcases hsep with ((rfl | rfl) | rfl) | rfl <;> exact absurd hcontrol (by decide)

/-- The name for a key is quoted without escapes just if the key needs none. -/
theorem enclose_snake_eq_quote_iff (key : String) :
    enclose (Naming.snake key) = quote (Naming.snake key) ↔ ∀ c ∈ key.toList, ¬ NeedsEscape c := by
  rw [enclose_eq_quote_iff]
  exact Naming.forall_mem_snake_iff fun c hc => kept_of_needsEscape (not_not.mp hc)

/-- The name for a key is a literal between quotes just if all of the key stands for itself. -/
theorem isLiteral_enclose_snake_iff (key : String) :
    IsLiteral (enclose (Naming.snake key)) (Naming.snake key) ↔
      ∀ c ∈ key.toList, StandsForItself c := by
  rw [isLiteral_enclose_iff]
  refine Naming.forall_mem_snake_iff fun c hc => kept_of_needsEscape ?_
  by_contra hnot
  exact hc (standsForItself_of_not_needsEscape hnot)

/-- **Which keys are right.** The outermost attribute map of either source file has each name
between quotes as it is; that is the name quoted just if the key in the document has no quote,
backslash or control character, and a literal of the name just if it has no quote, backslash or
line break. In the attribute map of every attribute inside a declaration the keys are quoted, and
each is a literal whose one value is the name. -/
theorem schemaKeys_iff {bytes : ByteArray} {resources : List Resource}
    (h : parseDocument bytes = .ok resources) {r : Resource} (hr : r ∈ resources)
    (mode : Mode) (config : Config) :
    (∃ front back, Templates.builtin.render mode.artifact.template (r.context config) =
      .ok (front ++
        attributeMap enclose 2 (Field.declareAll mode .top r.attributes) ++ back)) ∧
    (∀ top ∈ r.attributes,
      (enclose top.name = quote top.name ↔ ∀ c ∈ top.source.toList, ¬ NeedsEscape c) ∧
      (IsLiteral (enclose top.name) top.name ↔ ∀ c ∈ top.source.toList, StandsForItself c) ∧
      ∀ position field, atPosition Field.inner position top = some field → field.inner ≠ [] →
        ∃ depth entries, entries.map Prod.fst = field.inner.map Field.name ∧
          (attributeMap quote depth entries).toList <:+:
            ((top.declare mode .top).text attributeDepth).toList ∧
          ∀ entry ∈ entries, ∀ value, IsLiteral (quote entry.1) value ↔ value = entry.1) := by
  refine ⟨exists_render_source mode config r, fun top htop => ?_⟩
  have hspelled := (namedByKey_of_parseDocument h hr .outermost).spelled top htop
  refine ⟨?_, ?_, ?_⟩
  · rw [hspelled]
    exact enclose_snake_eq_quote_iff top.source
  · rw [hspelled]
    exact isLiteral_enclose_snake_iff top.source
  · intro position field hfield hinner
    obtain ⟨depth, entries, hnames, hmap⟩ := Field.exists_attributeMap_infix hfield hinner mode
    exact ⟨depth, entries, hnames, hmap, fun entry _ value => isLiteral_quote_iff⟩

/-! ## Two documents -/

/-- The keys of attributes, their names, and the names of the attributes they hold. -/
def keysAndNames (resources : List Resource) : List (List (String × String × List String)) :=
  resources.map fun r => r.attributes.map fun field =>
    (field.source, field.name, field.inner.map Field.name)

/-- A document with a quote in a key that is not an outermost one. -/
def bookLines : List String :=
  documentLines (postLines "/books"
    ["\"title\":\x7b\x7d,",
     "\"author\":\x7b\"type\":\"object\",\"properties\":\x7b\"pen\\\"name\":\x7b\x7d\x7d\x7d"])

theorem bookLines_names :
    (resourcesOfJson (bookLines.flatMap String.toList)).map keysAndNames =
      some [[("id", "id", []), ("title", "title", []), ("author", "author", ["pen\"name"])]] := by
  decide +kernel

/-- All keys of a book are literals of the names. -/
theorem bookLines_schemaKeys :
    ∃ resources r, parseDocument (String.join bookLines).toUTF8 = .ok resources ∧ r ∈ resources ∧
      r.attributes.map Field.source = ["id", "title", "author"] ∧
      ∀ (mode : Mode) (config : Config),
        (∃ front back, Templates.builtin.render mode.artifact.template (r.context config) =
          .ok (front ++
            attributeMap quote 2 (Field.declareAll mode .top r.attributes) ++ back)) ∧
        (∀ top ∈ r.attributes, IsLiteral (enclose top.name) top.name) ∧
        ∃ author ∈ r.attributes, ∃ depth entries, entries.map Prod.fst = ["pen\"name"] ∧
          (attributeMap quote depth entries).toList <:+:
            ((author.declare mode .top).text attributeDepth).toList ∧
          ∀ entry ∈ entries, IsLiteral (quote entry.1) entry.1 := by
  obtain ⟨resources, hparse, hview⟩ := exists_parseDocument bookLines_names
  obtain ⟨r, rfl, hr⟩ := List.map_eq_singleton_iff.mp hview
  have hmem : r ∈ [r] := List.mem_singleton.mpr rfl
  have hsources : r.attributes.map Field.source = ["id", "title", "author"] := by
    simpa [Function.comp_def] using congrArg (List.map Prod.fst) hr
  have hplain : ∀ key ∈ r.attributes.map Field.source, ∀ c ∈ key.toList, ¬ NeedsEscape c := by
    rw [hsources]
    decide
  rw [List.forall_mem_map] at hplain
  refine ⟨[r], r, hparse, hmem, hsources, fun mode config => ?_⟩
  obtain ⟨⟨front, back, hrender⟩, hkeys⟩ := schemaKeys_iff hparse hmem mode config
  refine ⟨⟨front, back, ?_⟩, fun top htop => ?_, ?_⟩
  · have hquoted : ∀ entry ∈ Field.declareAll mode .top r.attributes,
        enclose entry.1 = quote entry.1 := by
      rw [Field.declareAll_eq, List.forall_mem_map]
      exact fun top htop => (hkeys top htop).1.mpr (hplain top htop)
    rw [hrender, attributeMap_congr hquoted]
  · exact (hkeys top htop).2.1.mpr fun c hc => standsForItself_of_not_needsEscape (hplain top htop c hc)
  · have hauthor : ("author", "author", ["pen\"name"]) ∈ r.attributes.map fun field =>
        (field.source, field.name, field.inner.map Field.name) := by
      rw [hr]
      simp
    obtain ⟨author, hauthor, hsame⟩ := List.mem_map.mp hauthor
    simp only [Prod.mk.injEq] at hsame
    obtain ⟨-, -, hinner⟩ := hsame
    have hne : author.inner ≠ [] := by
      intro hnil
      rw [hnil] at hinner
      cases hinner
    obtain ⟨depth, entries, hnames, hmap, hliteral⟩ := (hkeys author hauthor).2.2 [] author rfl hne
    exact ⟨author, hauthor, depth, entries, hnames.trans hinner, hmap,
      fun entry hentry => (hliteral entry hentry entry.1).mpr rfl⟩

/-- A document with a quote in an outermost key. -/
def noteLines : List String :=
  documentLines (postLines "/notes" ["\"say\\\"hi\\\"\":\x7b\x7d"])

theorem noteLines_names :
    (resourcesOfJson (noteLines.flatMap String.toList)).map keysAndNames =
      some [[("id", "id", []), ("say\"hi\"", "say\"hi\"", [])]] := by
  decide +kernel

/-- The outermost key of a note is written with its quotes as they are, which is not the name
quoted and no literal at all. -/
theorem noteLines_not_schemaKeys :
    ∃ resources r, parseDocument (String.join noteLines).toUTF8 = .ok resources ∧ r ∈ resources ∧
      r.attributes.map Field.name = ["id", "say\"hi\""] ∧
      (∀ (mode : Mode) (config : Config), ∃ front declaration back,
        Templates.builtin.render mode.artifact.template (r.context config) =
          .ok (front ++ line attributeDepth ("\"say\"hi\"\"" ++ ": " ++ declaration ++ ",") ++
            back)) ∧
      "\"say\"hi\"\"" ≠ quote "say\"hi\"" ∧ ∀ value, ¬ IsLiteral "\"say\"hi\"\"" value := by
  obtain ⟨resources, hparse, hview⟩ := exists_parseDocument noteLines_names
  obtain ⟨r, rfl, hr⟩ := List.map_eq_singleton_iff.mp hview
  have hmem : r ∈ [r] := List.mem_singleton.mpr rfl
  have hnames : r.attributes.map Field.name = ["id", "say\"hi\""] := by
    simpa [Function.comp_def] using congrArg (List.map fun entry => entry.2.1) hr
  have hkey : enclose "say\"hi\"" = "\"say\"hi\"\"" := by decide
  refine ⟨[r], r, hparse, hmem, hnames, fun mode config => ?_, by decide, ?_⟩
  · obtain ⟨id, _, hattributes, -, hrest⟩ := List.map_eq_cons_iff.mp hnames
    obtain ⟨note, rfl, hnote⟩ := List.map_eq_singleton_iff.mp hrest
    obtain ⟨front, back, hrender⟩ := exists_render_source mode config r
    have hentry : note.entryText mode = line attributeDepth ("\"say\"hi\"\"" ++ ": " ++
        (note.declare mode .top).text attributeDepth ++ ",") := by
      rw [Field.entryText, hnote, hkey]
    refine ⟨front ++ "Attributes: map[string]schema.Attribute\x7b" ++ id.entryText mode,
      (note.declare mode .top).text attributeDepth, line 2 "\x7d," ++ back, ?_⟩
    rw [hrender, attributeMap_declareAll, hattributes, List.map_cons, List.map_singleton, hentry]
    simp only [String.join_cons, String.join_nil, String.append_empty, String.append_assoc]
  · rw [← hkey]
    exact not_isLiteral_enclose (by decide) (by decide)

end ProviderGen
