/-
Declarations of nested attributes.

A record holds the code that declares its attribute, and its declaration of an object embeds those
of the attributes inside. The records inside have declarations too, and these are printed as if
the attribute were outermost, two tabs further in. What is embedded is printed in the place where
it stands, under a list of objects three tabs further in. The tabs before the last brace of a
declaration tell its depth, and the first line inside it tells its presence, so the two are the
same text just if they agree in both (`text_declare_eq_iff`).
-/
import ProviderGen.Proofs.Printing
import Mathlib.Data.List.Forall2

set_option autoImplicit false

namespace ProviderGen

open ProviderGen.Text

/-! ## What the text of a declaration tells -/

/-- The tabs before the last character of a text. -/
def closingTabs (text : String) : Nat :=
  (text.toList.reverse.tail.takeWhile (· == '\t')).length

theorem toList_tabs (depth : Nat) : (tabs depth).toList = List.replicate depth '\t' :=
  String.toList_ofList

/-- The last brace of a declaration stands at the depth of the declaration. -/
theorem Declaration.closingTabs_text (declaration : Declaration) (depth : Nat) :
    closingTabs (declaration.text depth) = depth := by
  have hclose : ∀ front : String, closingTabs (front ++ line depth "\x7d") = depth := by
    intro front
    have hlist : (front ++ line depth "\x7d").toList =
        front.toList ++ '\n' :: (List.replicate depth '\t' ++ ['\x7d']) := by
      simp only [line, String.toList_append, toList_tabs, List.append_assoc]
      rfl
    rw [closingTabs, hlist]
    simp
  rw [Declaration.text_eq, Declaration.body, ← String.append_assoc]
  exact hclose _

/-- The three presences differ in what a text begins with. -/
theorem Presence.eq_of_text_append {presence presence' : Presence} {back back' : String}
    (h : presence.text ++ back = presence'.text ++ back') : presence = presence' := by
  have hlist := congrArg String.toList h
  cases presence <;> cases presence' <;>
    first
    | rfl
    | simp [Presence.text] at hlist

namespace Field

/-- The place of an attribute matters to its presence alone. -/
theorem declare_congr {field : Field} {mode : Mode} {place place' : Place}
    (h : (field.declare mode place).presence = (field.declare mode place').presence) :
    field.declare mode place = field.declare mode place' := by
  cases field
  rw [declare_presence, declare_presence] at h
  simp only [declare]
  rw [h]

/-- **Two declarations of an attribute for one schema are the same text just if they are printed
at the same depth and have the same presence.** -/
theorem text_declare_eq_iff (field : Field) (mode : Mode) (place place' : Place)
    (depth depth' : Nat) :
    (field.declare mode place).text depth = (field.declare mode place').text depth' ↔
      depth = depth' ∧
        (field.declare mode place).presence = (field.declare mode place').presence := by
  constructor
  · intro h
    obtain rfl : depth = depth' := by
      rw [← (field.declare mode place).closingTabs_text depth, h,
        (field.declare mode place').closingTabs_text depth']
    refine ⟨rfl, ?_⟩
    rw [Declaration.text_eq, Declaration.text_eq, Declaration.body, Declaration.body,
      field.declare_constructor mode place mode place'] at h
    simp only [line, String.append_assoc, String.append_right_inj] at h
    exact Presence.eq_of_text_append h
  · rintro ⟨rfl, hpresence⟩
    rw [declare_congr hpresence]

/-! ## What is embedded -/

/-- The declaration of an attribute as the record of the attribute around it embeds it, where that
record stands at a depth and has a list of objects or one. -/
def embedded (mode : Mode) (repeated : Bool) (depth : Nat) (parent child : Field) : String :=
  (child.declare mode (parent.placeInside mode .top)).text
    (Declaration.mapDepth repeated depth + 1)

/-- The record of an attribute gives it the presence it has inside another one. In the schema of a
resource an attribute inside a read-only one is computed, in that of a data source one that is
called `id` is required only if it is outermost. -/
def KeepsPresence (mode : Mode) (parent child : Field) : Prop :=
  match mode with
  | .resource => parent.readOnly = true → child.readOnly = true
  | .dataSource => child.name ≠ "id"

theorem presence_top_eq_iff (mode : Mode) (parent child : Field) :
    (child.declare mode .top).presence =
      (child.declare mode (parent.placeInside mode .top)).presence ↔
        KeepsPresence mode parent child := by
  cases mode with
  | resource =>
    have hplace := parent.placeInside_eq_iff .top
    simp only [reduceCtorEq, false_or] at hplace
    simp only [declare_presence, presenceOf, hplace, KeepsPresence, reduceCtorEq, false_or]
    cases parent.readOnly <;> cases child.readOnly <;> cases child.required <;> simp
  | dataSource =>
    have hplace := parent.placeInside_ne_top .dataSource .top
    rw [declare_presence_dataSource, declare_presence_dataSource, KeepsPresence]
    by_cases hid : child.name = "id" <;> simp [hid, hplace]

/-- **The record of an attribute inside has the text that is embedded just if it is not in a list
of objects and its presence is kept.** -/
theorem text_top_eq_embedded_iff (mode : Mode) (repeated : Bool) (depth : Nat)
    (parent child : Field) :
    (child.declare mode .top).text (depth + 2) = embedded mode repeated depth parent child ↔
      repeated = false ∧ KeepsPresence mode parent child := by
  unfold embedded
  rw [text_declare_eq_iff, presence_top_eq_iff]
  cases repeated <;> simp [Declaration.mapDepth]

end Field

/-! ## Records inside records -/

/-- Every attribute on the way to a position puts what is inside two tabs further in. -/
theorem Field.foldl_tell_fst (above : List Field) (told : Nat × Bool) :
    (above.foldl tell told).1 = told.1 + 2 * above.length := by
  induction above generalizing told with
  | nil => rfl
  | cons outer rest ih =>
    rw [List.foldl_cons, ih, List.length_cons]
    simp only [tell]
    omega

/-- As much is passed on the way to a position as the position is long. -/
theorem length_passed {α : Type} {inner : α → List α} {position : List Nat} {a b : α}
    (h : atPosition inner position a = some b) :
    (passed inner position a).length = position.length := by
  induction position generalizing a with
  | nil => rfl
  | cons i rest ih =>
    obtain ⟨child, hchild, hrest⟩ := atPosition_cons_eq_some_iff.mp h
    rw [passed_cons hchild, List.length_cons, List.length_cons, ih hrest]

/-- **What a record of an object embeds and what the records inside it carry.** The record of the
attribute at any position has, for either schema, a declaration with an attribute map. The map has
one entry for each attribute inside, with its quoted name and the declaration it has there, and
there is one record for each of them, with its name. The declaration of that record is the one in
the map just if the object is not a list of objects and the presence is the same: for the resource,
unless the object is read-only and the attribute itself is not, and for the data source, unless it
is called `id`. -/
theorem nestedDeclaration_iff {fields : List Field} {i : Nat} {position : List Nat}
    {top parent : Field} {nested : List Field} {repeated : Bool} (htop : fields[i]? = some top)
    (hparent : atPosition Field.inner position top = some parent)
    (hkind : parent.kind = .object nested repeated) :
    ∃ outermost record depth, (recordsOf fields)[i]? = some outermost ∧
      atPosition Record.nested position outermost = some record ∧
      depth = attributeDepth + 2 * position.length ∧
      (∀ mode, ∃ front back, record.declarationFor mode = front ++
        ("Attributes: map[string]schema.Attribute\x7b" ++
          String.join (nested.map fun child =>
            line (Declaration.mapDepth repeated depth + 1)
              (quote child.name ++ ": " ++ parent.embedded mode repeated depth child ++ ",")) ++
          line (Declaration.mapDepth repeated depth) "\x7d,") ++ back) ∧
      List.Forall₂ (fun child inside => inside.name = child.name ∧
          ∀ mode, inside.declarationFor mode = parent.embedded mode repeated depth child ↔
            repeated = false ∧ parent.KeepsPresence mode child)
        nested record.nested := by
  set told := (passed Field.inner position top).foldl Field.tell (attributeDepth, false) with htold
  have hdepth : told.1 = attributeDepth + 2 * position.length := by
    rw [htold, Field.foldl_tell_fst, length_passed hparent]
  have houtermost : (recordsOf fields)[i]? = some (top.recordTold (attributeDepth, false)) := by
    rw [recordsOf, Field.toRecords_eq, List.getElem?_map, htop]
    rfl
  have hrecord : atPosition Record.nested position (top.recordTold (attributeDepth, false)) =
      some (parent.toRecord told.1 told.2) := by
    rw [Field.atPosition_recordTold, hparent]
    rfl
  refine ⟨_, _, told.1, houtermost, hrecord, hdepth, fun mode => ?_, ?_⟩
  · obtain ⟨front, back, htext⟩ := Declaration.exists_text_of_object
      (parent.declare_shape_of_object mode .top hkind) told.1
    refine ⟨front, back, ?_⟩
    rw [Field.toRecord_declarationFor, htext, Field.declareAll_eq]
    unfold attributeMap
    simp only [List.map_map, Function.comp_def, Field.entry, Field.embedded]
  · have hinner : parent.inner = nested := by
      rw [Field.inner, hkind]
      rfl
    rw [Field.toRecord_nested, hinner, List.forall₂_map_right_iff, List.forall₂_same]
    intro child _
    refine ⟨Field.toRecord_name .., fun mode => ?_⟩
    rw [Field.toRecord_declarationFor]
    exact Field.text_top_eq_embedded_iff mode repeated told.1 parent child

/-- A read-only owner with a role, a parent with an `id`, and a list of rules with a port. -/
def shareFields : List Field :=
  [{ name := "owner", source := "owner", readOnly := true,
     kind := .object [{ name := "role", source := "role", kind := .primitive .string }] false },
   { name := "parent", source := "parent",
     kind := .object [{ name := "id", source := "id", kind := .primitive .string }] false },
   { name := "rules", source := "rules",
     kind := .object [{ name := "port", source := "port", kind := .primitive .int }] true }]

/-- The record of the `id` inside the parent has the declaration that is embedded for the resource,
and not the one for the data source. -/
theorem shareFields_nestedDeclaration :
    ∃ record inside, (recordsOf shareFields)[1]? = some record ∧ record.nested = [inside] ∧
      inside.name = "id" ∧ ∀ mode, ∃ front back embedded,
        record.declarationFor mode = front ++ line 5 ("\"id\": " ++ embedded ++ ",") ++ back ∧
          (inside.declarationFor mode = embedded ↔ mode = .resource) := by
  have htop : shareFields[1]? = some _ := rfl
  obtain ⟨record, _, _, hrecord, hhere, rfl, hembeds, hnested⟩ :=
    nestedDeclaration_iff htop (show atPosition Field.inner [] _ = some _ from rfl) rfl
  obtain rfl := Option.some.inj hhere
  obtain ⟨inside, rest, ⟨hname, hiff⟩, hrest, hinside⟩ := List.forall₂_cons_left_iff.mp hnested
  rw [List.forall₂_nil_left_iff.mp hrest] at hinside
  refine ⟨record, inside, hrecord, hinside, hname, fun mode => ?_⟩
  obtain ⟨front, back, htext⟩ := hembeds mode
  refine ⟨front ++ "Attributes: map[string]schema.Attribute\x7b", line 4 "\x7d," ++ back, _, ?_,
    (hiff mode).trans ?_⟩
  · have hquote : quote "id" ++ ": " = "\"id\": " := by decide +kernel
    rw [htext, ← hquote]
    simp only [List.map_cons, List.map_nil, String.join_cons, String.join_nil, String.append_empty,
      String.append_assoc]
    rfl
  · cases mode <;> simp [Field.KeepsPresence]

/-- None of the three records inside carries what the record around it embeds: the role is optional
although the owner is read-only, the `id` is required in the data source, and the port does not
stand as far in. -/
theorem shareFields_not_nestedDeclaration :
    ∃ owner role parent id rules port, recordsOf shareFields = [owner, parent, rules] ∧
      owner.nested = [role] ∧ parent.nested = [id] ∧ rules.nested = [port] ∧
      ¬ (quote role.name ++ ": " ++ role.declaration).toList <:+: owner.declaration.toList ∧
      ¬ (quote id.name ++ ": " ++ id.dataSourceDeclaration).toList <:+:
          parent.dataSourceDeclaration.toList ∧
      ¬ (quote port.name ++ ": " ++ port.declaration).toList <:+: rules.declaration.toList ∧
      ¬ (quote port.name ++ ": " ++ port.dataSourceDeclaration).toList <:+:
          rules.dataSourceDeclaration.toList := by
  refine ⟨_, _, _, _, _, _, rfl, rfl, rfl, rfl, ?_⟩
  -- the characters of short texts are found faster than those of a long one
  simp only [Field.toRecord, Declaration.text_eq, Declaration.body, Declaration.descriptionLines,
    Declaration.shapeLines, Declaration.entryLines, Field.declare, Field.declareKind,
    Field.declareAll, line, String.toList_append, toList_tabs]
  decide +kernel

end ProviderGen
