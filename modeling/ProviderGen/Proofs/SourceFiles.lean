/-
The attribute maps of source files.

The lines of a source file hold those of the attribute map of its schema, one entry for each record
of the resource. The name and the declaration of a record are those of its attribute, so these
lines are the code of an attribute map whose keys are the names between quotes, as they are.
-/
import ProviderGen.Proofs.Literals
import ProviderGen.Proofs.SourceContents

set_option autoImplicit false

namespace ProviderGen

open ProviderGen.Text SourceLine

/-- The entry of an attribute, as the template writes it. -/
def Field.entryText (mode : Mode) (field : Field) : String :=
  line attributeDepth
    (enclose field.name ++ ": " ++ (field.declare mode .top).text attributeDepth ++ ",")

theorem attributeMap_declareAll (mode : Mode) (fields : List Field) :
    attributeMap enclose 2 (Field.declareAll mode .top fields) =
      "Attributes: map[string]schema.Attribute\x7b" ++
        String.join (fields.map (Field.entryText mode)) ++ line 2 "\x7d," := by
  unfold attributeMap
  rw [Field.declareAll_eq, List.map_map]
  rfl

/-- The line of a record is the entry of its attribute. -/
theorem Field.entryText_eq (mode : Mode) (field : Field) :
    field.entryText mode =
      "\n" ++ (SourceLine.entry mode (field.toRecord attributeDepth false)).text := by
  have hopening : tabs attributeDepth ++ "\"" = "\t\t\t\"" := by decide
  have hbetween : "\"" ++ ": " = "\": " := by decide
  unfold Field.entryText line enclose
  rw [text_entry, field.toRecord_name, field.toRecord_declarationFor, ← hopening, ← hbetween]
  simp only [String.append_assoc]

/-- The lines of the records are the entries of the attributes. -/
theorem below_entries (mode : Mode) (r : Resource) :
    below (r.records.map (.entry mode)) =
      String.join (r.attributes.map (Field.entryText mode)) := by
  rw [below, Resource.records, recordsOf, Field.toRecords_eq, List.map_map, List.map_map]
  exact congrArg String.join (List.map_congr_left fun field _ => (field.entryText_eq mode).symm)

/-- The lines of the attribute map are its code. -/
theorem fileText_attributes (mode : Mode) (r : Resource) :
    fileText (Source.attributes r mode) =
      "\t\t" ++ attributeMap enclose 2 (Field.declareAll mode .top r.attributes) := by
  have hopening : "\t\tAttributes: map[string]schema.Attribute\x7b" =
      "\t\t" ++ "Attributes: map[string]schema.Attribute\x7b" := by decide
  have hclose : "\n" ++ "\t\t\x7d," = line 2 "\x7d," := by decide
  rw [attributeMap_declareAll, ← below_entries, Source.attributes, codes_cons, codes_nil,
    List.append_assoc, List.singleton_append, fileText_cons, below_append, codes_cons, codes_nil,
    below_cons, below_nil, text_code, text_code, String.append_empty, hclose, hopening]
  simp only [String.append_assoc]

/-- **A source file has the attribute map of its schema**, with the names between quotes as they
are for keys. -/
theorem exists_render_source (mode : Mode) (config : Config) (r : Resource) :
    ∃ front back, Templates.builtin.render mode.artifact.template (r.context config) =
      .ok (front ++
        attributeMap enclose 2 (Field.declareAll mode .top r.attributes) ++ back) := by
  have hne : Source.attributes r mode ≠ [] := List.cons_ne_nil _ _
  obtain ⟨front, back, htext⟩ := exists_fileText (Source.attributes_infix_lines config r mode) hne
  refine ⟨front ++ "\t\t", back, ?_⟩
  rw [render_eq_lines, htext, fileText_attributes]
  simp only [String.append_assoc]

end ProviderGen
