/-
Attributes within attributes.

An attribute of object kind holds attributes of its own, and so do the record and the
declaration that are made from it. A position leads from an outermost attribute to one within
it: it says which one to enter first, which one inside that, and so on. `atPosition` goes there and
`passed` are those that are entered on the way.

Records and declarations are trees made from the tree of the attributes, and each hands one
thing down: a record whether what is inside is read-only, a declaration the place of what is
inside. So all three trees have the same positions, and what a tree knows at a position is what
it is told at the outside, changed by everything that is passed (`atPosition_make`).
-/
import ProviderGen.Attribute.Record
import Mathlib.Data.List.Basic

set_option autoImplicit false

namespace ProviderGen

open ProviderGen.Text

/-! ## Positions -/

section Positions

variable {α β σ : Type}

/-- What stands at a position within something, where `inner` is what each holds itself. -/
def atPosition (inner : α → List α) : List Nat → α → Option α
  | [], a => some a
  | i :: rest, a => (inner a)[i]?.bind (atPosition inner rest)

/-- What is passed on the way to a position, from the outside in. -/
def passed (inner : α → List α) : List Nat → α → List α
  | [], _ => []
  | i :: rest, a => a :: (inner a)[i]?.elim [] (passed inner rest)

variable {inner : α → List α}

theorem atPosition_cons_eq_some_iff {i : Nat} {rest : List Nat} {a b : α} :
    atPosition inner (i :: rest) a = some b ↔
      ∃ child, (inner a)[i]? = some child ∧ atPosition inner rest child = some b := by
  rw [atPosition, Option.bind_eq_some_iff]

theorem passed_cons {i : Nat} {a child : α} (h : (inner a)[i]? = some child) (rest : List Nat) :
    passed inner (i :: rest) a = a :: passed inner rest child := by
  rw [passed, h, Option.elim_some]

/-- What holds at every position holds of what is outside and at every position within what it
holds itself. -/
theorem forall_atPosition_iff {p : α → Prop} {a : α} :
    (∀ position there, atPosition inner position a = some there → p there) ↔
      p a ∧ ∀ child ∈ inner a,
        ∀ position there, atPosition inner position child = some there → p there := by
  constructor
  · intro h
    refine ⟨h [] a rfl, ?_⟩
    intro child hchild position there hthere
    obtain ⟨i, hi⟩ := List.mem_iff_getElem?.mp hchild
    exact h (i :: position) there (atPosition_cons_eq_some_iff.mpr ⟨child, hi, hthere⟩)
  · rintro ⟨hown, hchildren⟩ position there hthere
    cases position with
    | nil =>
      obtain rfl := Option.some.inj hthere
      exact hown
    | cons i rest =>
      obtain ⟨child, hchild, hrest⟩ := atPosition_cons_eq_some_iff.mp hthere
      exact hchildren child (List.mem_of_getElem? hchild) rest there hrest

/-! ### Trees that are made from trees -/

variable {innerMade : β → List β} {make : σ → α → β} {next : σ → α → σ}

/-- **A tree that is made top down has the same positions.** What is made at a position knows
what everything that is passed makes of what is known at the outside. -/
theorem atPosition_make
    (hmake : ∀ s a, innerMade (make s a) = (inner a).map (make (next s a)))
    (position : List Nat) (s : σ) (a : α) :
    atPosition innerMade position (make s a) =
      (atPosition inner position a).map (make ((passed inner position a).foldl next s)) := by
  induction position generalizing s a with
  | nil => rfl
  | cons i rest ih =>
    rw [atPosition, atPosition, hmake, List.getElem?_map]
    cases hchild : (inner a)[i]? with
    | none => rfl
    | some child =>
      rw [passed_cons hchild, List.foldl_cons, Option.map_some, Option.bind_some,
        Option.bind_some]
      exact ih (next s a) child

/-- What is passed in a tree that is made is made from what is passed. -/
theorem exists_of_mem_passed_make
    (hmake : ∀ s a, innerMade (make s a) = (inner a).map (make (next s a)))
    {position : List Nat} {s : σ} {a : α} {above : β}
    (h : above ∈ passed innerMade position (make s a)) :
    ∃ before b after, passed inner position a = before ++ b :: after ∧
      above = make (before.foldl next s) b := by
  induction position generalizing s a with
  | nil => cases h
  | cons i rest ih =>
    rw [passed, hmake, List.getElem?_map] at h
    rcases List.mem_cons.mp h with rfl | hbelow
    · exact ⟨[], a, _, rfl, rfl⟩
    · cases hchild : (inner a)[i]? with
      | none => rw [hchild] at hbelow; cases hbelow
      | some child =>
        rw [hchild, Option.map_some, Option.elim_some] at hbelow
        obtain ⟨before, b, after, hpassed, habove⟩ := ih hbelow
        exact ⟨a :: before, b, after, by rw [passed_cons hchild, hpassed, List.cons_append],
          by rw [List.foldl_cons]; exact habove⟩

/-- A flag that some set and nothing clears is set at the end if it was set before or one of
them sets it. -/
theorem flag_foldl_iff (flag : σ → Prop) (sets : α → Prop)
    (hnext : ∀ s a, flag (next s a) ↔ flag s ∨ sets a) (s : σ) (as : List α) :
    flag (as.foldl next s) ↔ flag s ∨ ∃ a ∈ as, sets a := by
  induction as generalizing s with
  | nil => simp
  | cons a rest ih => rw [List.foldl_cons, ih, hnext, List.exists_mem_cons_iff, or_assoc]

end Positions

/-! ## What attributes hold -/

namespace Field

/-- The attributes an attribute holds itself. -/
def inner (field : Field) : List Field := field.kind.nested?.getD []

/-- What an attribute holds is smaller. -/
theorem sizeOf_lt_of_mem_inner {field child : Field} (h : child ∈ field.inner) :
    sizeOf child < sizeOf field := by
  obtain ⟨name, source, kind, values, required, readOnly, description⟩ := field
  cases kind with
  | object nested repeated =>
    have hlt : sizeOf child < sizeOf nested := List.sizeOf_lt_of_mem h
    simp only [Field.mk.sizeOf_spec, Kind.object.sizeOf_spec]
    omega
  | primitive _ => cases h
  | list _ => cases h
  | map _ => cases h

/-- A property of an attribute can be shown from that of the attributes it holds. -/
theorem induction_on_inner {motive : Field → Prop}
    (step : ∀ field, (∀ child ∈ field.inner, motive child) → motive field)
    (field : Field) : motive field := by
  induction hsize : sizeOf field using Nat.strongRecOn generalizing field with
  | ind size ih =>
    apply step
    intro child hchild
    have hlt := sizeOf_lt_of_mem_inner hchild
    exact ih (sizeOf child) (by omega) child rfl

end Field

/-! ## Declarations of what is inside -/

namespace Declaration

/-- The declarations a declaration holds itself, under their names. -/
def entries (declaration : Declaration) : List (String × Declaration) :=
  match declaration.shape with
  | .object entries _ => entries
  | _ => []

/-- The constraint a declaration has itself. -/
def validator? (declaration : Declaration) : Option Validator :=
  match declaration.shape with
  | .primitive _ validator => validator
  | _ => none

/-- The declarations an entry of an attribute map holds itself. -/
def inside (entry : String × Declaration) : List (String × Declaration) := entry.2.entries

/-- An entry has a constraint of some sort, at whatever depth. -/
def Constrains (sort : Validator → Prop) (entry : String × Declaration) : Prop :=
  ∃ (position : List Nat) (there : String × Declaration) (v : Validator),
    atPosition inside position entry = some there ∧ there.2.validator? = some v ∧ sort v

theorem constrains_iff {sort : Validator → Prop} {entry : String × Declaration} :
    Constrains sort entry ↔
      (∃ v, entry.2.validator? = some v ∧ sort v) ∨
        ∃ child ∈ entry.2.entries, Constrains sort child := by
  constructor
  · rintro ⟨position, there, v, hthere, hv, hsort⟩
    cases position with
    | nil =>
      obtain rfl := Option.some.inj hthere
      exact Or.inl ⟨v, hv, hsort⟩
    | cons i rest =>
      obtain ⟨child, hchild, hrest⟩ := atPosition_cons_eq_some_iff.mp hthere
      exact Or.inr ⟨child, List.mem_of_getElem? hchild, rest, there, v, hrest, hv, hsort⟩
  · rintro (⟨v, hv, hsort⟩ | ⟨child, hchild, rest, there, v, hrest, hv, hsort⟩)
    · exact ⟨[], entry, v, rfl, hv, hsort⟩
    · obtain ⟨i, hi⟩ := List.mem_iff_getElem?.mp hchild
      exact ⟨i :: rest, there, v, atPosition_cons_eq_some_iff.mpr ⟨child, hi, hrest⟩, hv, hsort⟩

end Declaration

/-- A scalar is constrained just if its user sets it, there are values to choose from and there is
a package of constraints for its type. -/
theorem validatorOf_eq_some_iff {type : Primitive} {values : List String} {presence : Presence}
    {v : Validator} :
    validatorOf type values presence .resource = some v ↔
      presence ≠ .computed ∧ values ≠ [] ∧ type.validator? = some (v.interface, v.package) ∧
        v.literals = if type.quotesLiterals then values.map quote else values := by
  obtain ⟨interface, package, literals⟩ := v
  unfold validatorOf
  dsimp only
  by_cases hnone : presence = .computed ∨ values = []
  · rw [if_pos hnone]
    simp only [reduceCtorEq, false_iff]
    tauto
  · rw [if_neg hnone]
    rw [not_or] at hnone
    rcases type.validator? with _ | ⟨interface', package'⟩ <;>
      simp [hnone, and_assoc, @eq_comm _ literals]

namespace Field

/-- An attribute as an entry of an attribute map. -/
def entry (mode : Mode) (place : Place) (field : Field) : String × Declaration :=
  (field.name, field.declare mode place)

theorem declareAll_eq (mode : Mode) (place : Place) (fields : List Field) :
    declareAll mode place fields = fields.map (entry mode place) := by
  induction fields with
  | nil => rfl
  | cons field rest ih => rw [declareAll, ih, List.map_cons, entry]

variable (field : Field) (mode : Mode) (place : Place)

@[simp] theorem declare_presence :
    (field.declare mode place).presence =
      presenceOf field.name field.required field.readOnly mode place := by
  cases field
  rfl

/-- What constructs an attribute depends on its kind alone. -/
theorem declare_constructor (mode' : Mode) (place' : Place) :
    (field.declare mode place).shape.constructor =
      (field.declare mode' place').shape.constructor := by
  obtain ⟨name, source, kind, values, required, readOnly, description⟩ := field
  rcases kind with _ | _ | _ | ⟨nested, _ | _⟩ <;> rfl

/-- The place of what is inside an attribute that stands at a place. -/
def placeInside : Place :=
  .inside (decide ((field.declare mode place).presence = .computed))

/-- What is inside an attribute is not outermost. -/
theorem placeInside_ne_top : field.placeInside mode place ≠ .top := by
  unfold placeInside
  exact Place.noConfusion

theorem declare_entries :
    (field.declare mode place).entries =
      field.inner.map (entry mode (field.placeInside mode place)) := by
  obtain ⟨name, source, kind, values, required, readOnly, description⟩ := field
  cases kind with
  | object nested repeated => exact declareAll_eq ..
  | primitive _ => rfl
  | list _ => rfl
  | map _ => rfl

/-- An object is declared by what is inside it. -/
theorem declare_shape_of_object {nested : List Field} {repeated : Bool}
    (h : field.kind = .object nested repeated) :
    (field.declare mode place).shape =
      .object (declareAll mode (field.placeInside mode place) nested) repeated := by
  cases field
  cases h
  rfl

theorem declare_validator?_eq_some_iff {v : Validator} :
    (field.declare mode place).validator? = some v ↔
      ∃ type, field.kind = .primitive type ∧
        validatorOf type field.enumValues (field.declare mode place).presence mode = some v := by
  obtain ⟨name, source, kind, values, required, readOnly, description⟩ := field
  cases kind <;> simp [declare, declareKind, Declaration.validator?]

/-- In the schema of a resource, the provider sets what is read-only and what stands inside
something that it sets. -/
theorem declare_presence_eq_computed_iff :
    (field.declare .resource place).presence = .computed ↔
      place = .inside true ∨ field.readOnly = true := by
  rw [declare_presence, presenceOf]
  split_ifs <;> simp_all

/-- In the schema of a data source, only the outermost `id` is given by its user. -/
theorem declare_presence_dataSource :
    (field.declare .dataSource place).presence =
      if place = .top ∧ field.name = "id" then .required else .computed := by
  rw [declare_presence]
  cases place <;> simp [presenceOf]

theorem placeInside_eq_iff :
    field.placeInside .resource place = .inside true ↔
      place = .inside true ∨ field.readOnly = true := by
  rw [placeInside, Place.inside.injEq, decide_eq_true_iff, declare_presence_eq_computed_iff]

/-- The entry at a position is that of the attribute there. -/
theorem atPosition_entry (position : List Nat) :
    atPosition Declaration.inside position (field.entry mode place) =
      (atPosition inner position field).map
        (entry mode
          ((passed inner position field).foldl (fun p f => f.placeInside mode p) place)) :=
  atPosition_make (fun place field => field.declare_entries mode place) position place field

/-! ## Records of what is inside -/

theorem toRecords_eq (depth : Nat) (inherited : Bool) (fields : List Field) :
    toRecords depth inherited fields = fields.map (toRecord depth inherited) := by
  induction fields with
  | nil => rfl
  | cons field rest ih => rw [toRecords, ih, List.map_cons]

variable (depth : Nat) (inherited : Bool)

theorem toRecord_nested :
    (field.toRecord depth inherited).nested =
      field.inner.map (toRecord (depth + 2) (field.readOnly || inherited)) := by
  obtain ⟨name, source, kind, values, required, readOnly, description⟩ := field
  cases kind with
  | object nested repeated => exact toRecords_eq ..
  | primitive _ => rfl
  | list _ => rfl
  | map _ => rfl

theorem toRecord_readOnly :
    (field.toRecord depth inherited).readOnly = (field.readOnly || inherited) := by
  cases field
  rfl

theorem toRecord_group :
    (field.toRecord depth inherited).group =
      Group.of (field.required && !(field.readOnly || inherited))
        (field.readOnly || inherited) := by
  cases field
  rfl

theorem toRecord_identifier :
    (field.toRecord depth inherited).identifier = fieldIdentifier field.name := by
  cases field
  rfl

theorem toRecord_declaration :
    (field.toRecord depth inherited).declaration =
      (field.declare .resource .top).text depth := by
  cases field
  rfl

/-- The record of an attribute that is told its depth and whether it is inside something
read-only. -/
def recordTold (told : Nat × Bool) (field : Field) : Record := field.toRecord told.1 told.2

/-- What an attribute tells those inside it. -/
def tell (told : Nat × Bool) (field : Field) : Nat × Bool :=
  (told.1 + 2, field.readOnly || told.2)

/-- The record at a position is that of the attribute there. -/
theorem atPosition_recordTold (position : List Nat) (told : Nat × Bool) :
    atPosition Record.nested position (field.recordTold told) =
      (atPosition inner position field).map
        (recordTold ((passed inner position field).foldl tell told)) :=
  atPosition_make (fun told field => field.toRecord_nested told.1 told.2) position told field

end Field

end ProviderGen
