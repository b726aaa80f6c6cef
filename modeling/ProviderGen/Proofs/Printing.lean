/-
The code of declarations.

A declaration is printed with everything it holds, so the text of a declaration at any position
stands, after its name, within the text of the outermost one (`atPosition_infix_text`). That text
begins with the constructor and the presence, and the lines of a constraint are part of it.
-/
import ProviderGen.Proofs.Nesting

set_option autoImplicit false

namespace ProviderGen

open ProviderGen.Text

/-! ## Attribute maps -/

/-- The code of an attribute map at a depth, whose keys are written in a given way. -/
def attributeMap (writeKey : String → String) (depth : Nat)
    (entries : List (String × Declaration)) : String :=
  "Attributes: map[string]schema.Attribute\x7b" ++
    String.join (entries.map fun entry =>
      line (depth + 1) (writeKey entry.1 ++ ": " ++ entry.2.text (depth + 1) ++ ",")) ++
    line depth "\x7d,"

theorem attributeMap_congr {writeKey writeKey' : String → String}
    {entries : List (String × Declaration)}
    (h : ∀ entry ∈ entries, writeKey entry.1 = writeKey' entry.1) (depth : Nat) :
    attributeMap writeKey depth entries = attributeMap writeKey' depth entries := by
  unfold attributeMap
  rw [List.map_congr_left fun entry hentry => by rw [h entry hentry]]

namespace Declaration

/-! ## Text within text -/

/-- The line of a description. -/
def descriptionLines (depth : Nat) : Option String → String
  | none => ""
  | some words => line depth ("MarkdownDescription: " ++ quote words ++ ",")

/-- What the text of a declaration says after its constructor. -/
def body (depth : Nat) (declaration : Declaration) : String :=
  line (depth + 1) (declaration.presence.text ++ ",") ++
    descriptionLines (depth + 1) declaration.description ++
    shapeLines (depth + 1) declaration.shape ++
    line depth "\x7d"

theorem text_eq (declaration : Declaration) (depth : Nat) :
    declaration.text depth =
      declaration.shape.constructor ++ "\x7b" ++ declaration.body depth := by
  obtain ⟨presence, _ | words, shape⟩ := declaration <;>
    simp only [text, body, descriptionLines, String.append_assoc]

/-- The line of an entry stands in the attribute map. -/
theorem entry_infix_attributeMap {entries : List (String × Declaration)}
    {entry : String × Declaration} (h : entry ∈ entries) (depth : Nat) :
    (quote entry.1 ++ ": " ++ entry.2.text (depth + 1)).toList <:+:
      (attributeMap quote depth entries).toList := by
  obtain ⟨front, back, rfl⟩ := List.append_of_mem h
  unfold attributeMap
  simp only [List.map_append, List.map_cons, String.join_append, String.join_cons]
  generalize String.join (front.map _) = before, String.join (back.map _) = after
  refine ⟨("Attributes: map[string]schema.Attribute\x7b" ++ before ++
      ("\n" ++ tabs (depth + 1))).toList, ("," ++ after ++ line depth "\x7d,").toList, ?_⟩
  simp only [line, String.toList_append, List.append_assoc]

/-- The lines of what a declaration is stand within its text. -/
theorem shapeLines_infix_text (declaration : Declaration) (depth : Nat) :
    (shapeLines (depth + 1) declaration.shape).toList <:+: (declaration.text depth).toList := by
  rw [text_eq, body, ← String.append_assoc, ← String.append_assoc, String.toList_append,
    String.toList_append]
  exact List.infix_append ..

theorem entryLines_eq (depth : Nat) (entries : List (String × Declaration)) :
    entryLines depth entries =
      String.join (entries.map fun entry =>
        line depth (quote entry.1 ++ ": " ++ entry.2.text depth ++ ",")) := by
  induction entries with
  | nil => rfl
  | cons entry rest ih => rw [entryLines, ih, List.map_cons, String.join_cons]

/-- The depth of the attribute map of an object that stands at a depth. That of a list of objects
is one deeper, because it stands in the nested object. -/
def mapDepth (repeated : Bool) (depth : Nat) : Nat := depth + if repeated then 2 else 1

/-- **Inside a declaration the keys are quoted.** The code of an object has its attribute map. -/
theorem exists_text_of_object {declaration : Declaration} {entries : List (String × Declaration)}
    {repeated : Bool} (h : declaration.shape = .object entries repeated) (depth : Nat) :
    ∃ front back, declaration.text depth =
      front ++ attributeMap quote (mapDepth repeated depth) entries ++ back := by
  rw [text_eq, body, h]
  -- the map of a repeated object stands inside the nested object
  cases repeated with
  | false =>
    refine ⟨Shape.constructor (.object entries false) ++ "\x7b" ++
      line (depth + 1) (declaration.presence.text ++ ",") ++
        descriptionLines (depth + 1) declaration.description ++ ("\n" ++ tabs (depth + 1)),
      line depth "\x7d", ?_⟩
    unfold attributeMap
    simp only [shapeLines, entryLines_eq, mapDepth, line, Bool.false_eq_true, if_false,
      String.append_assoc]
  | true =>
    refine ⟨Shape.constructor (.object entries true) ++ "\x7b" ++
      line (depth + 1) (declaration.presence.text ++ ",") ++
        descriptionLines (depth + 1) declaration.description ++
          line (depth + 1) "NestedObject: schema.NestedAttributeObject\x7b" ++
            ("\n" ++ tabs (depth + 2)),
      line (depth + 1) "\x7d," ++ line depth "\x7d", ?_⟩
    unfold attributeMap
    simp only [shapeLines, entryLines_eq, mapDepth, line, if_true, String.append_assoc]

/-- The text of an entry, after its name, stands within that of the declaration which holds it. -/
theorem entry_infix_text {declaration : Declaration} {entry : String × Declaration}
    (h : entry ∈ declaration.entries) (depth : Nat) :
    ∃ depth', (quote entry.1 ++ ": " ++ entry.2.text depth').toList <:+:
      (declaration.text depth).toList := by
  obtain ⟨repeated, hshape⟩ :
      ∃ repeated, declaration.shape = .object declaration.entries repeated := by
    obtain ⟨presence, description, shape⟩ := declaration
    cases shape with
    | object entries repeated => exact ⟨repeated, rfl⟩
    | primitive _ _ => cases h
    | list _ => cases h
    | map _ => cases h
  obtain ⟨front, back, htext⟩ := exists_text_of_object hshape depth
  have hentry := entry_infix_attributeMap h (mapDepth repeated depth)
  refine ⟨_, hentry.trans ?_⟩
  rw [htext, String.toList_append, String.toList_append]
  exact List.infix_append ..

/-- **A declaration is printed inside the outermost one.** Unless it is that one itself, its name
stands before it. -/
theorem atPosition_infix_text {position : List Nat} {entry there : String × Declaration}
    (h : atPosition inside position entry = some there) (depth : Nat) :
    ∃ depth', ((if position = [] then "" else quote there.1 ++ ": ") ++
      there.2.text depth').toList <:+: (entry.2.text depth).toList := by
  induction position generalizing entry depth with
  | nil =>
    obtain rfl := Option.some.inj h
    rw [if_pos rfl]
    exact ⟨depth, by simp only [String.empty_append, List.infix_rfl]⟩
  | cons i rest ih =>
    obtain ⟨child, hchild, hrest⟩ := atPosition_cons_eq_some_iff.mp h
    obtain ⟨depthChild, hinfix⟩ := entry_infix_text (List.mem_of_getElem? hchild) depth
    rw [if_neg (List.cons_ne_nil i rest)]
    by_cases hnil : rest = []
    · subst hnil
      obtain rfl := Option.some.inj hrest
      exact ⟨depthChild, hinfix⟩
    · obtain ⟨depth', hinner⟩ := ih hrest depthChild
      rw [if_neg hnil] at hinner
      rw [String.toList_append] at hinfix
      exact ⟨depth', hinner.trans ((List.suffix_append ..).isInfix.trans hinfix)⟩

/-- The presence is the first thing the text of a declaration says. -/
theorem flag_prefix_text (declaration : Declaration) (depth : Nat) :
    (declaration.shape.constructor ++ "\x7b" ++
      line (depth + 1) (declaration.presence.text ++ ",")).toList <+:
        (declaration.text depth).toList := by
  rw [text_eq, body]
  simp only [String.toList_append, List.append_assoc, List.prefix_append_right_inj,
    List.prefix_append]

/-- A constraint is printed with the declaration that has it. -/
theorem validator_infix_text {declaration : Declaration} {v : Validator}
    (h : declaration.validator? = some v) (depth : Nat) :
    (v.lines (depth + 1)).toList <:+: (declaration.text depth).toList := by
  have hshape := declaration.shapeLines_infix_text depth
  obtain ⟨presence, description, shape⟩ := declaration
  cases shape with
  | primitive type validator =>
    obtain rfl : validator = some v := h
    exact hshape
  | list _ => cases h
  | map _ => cases h
  | object _ _ => cases h

end Declaration

/-! ## Records -/

/-- The declaration that a record has for a schema. -/
def Record.declarationFor (record : Record) : Mode → String
  | .resource => record.declaration
  | .dataSource => record.dataSourceDeclaration

theorem Field.toRecord_declarationFor (field : Field) (depth : Nat) (inherited : Bool)
    (mode : Mode) :
    (field.toRecord depth inherited).declarationFor mode =
      (field.declare mode .top).text depth := by
  cases field
  cases mode <;> rfl

theorem Field.toRecord_name (field : Field) (depth : Nat) (inherited : Bool) :
    (field.toRecord depth inherited).name = field.name := by
  cases field
  rfl

end ProviderGen
