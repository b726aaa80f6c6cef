/-
The ways to write a value.

An object of JSON stands for a record, whose keys are fixed, or for a map, whose keys belong to the
value. A layout is a JSON value in which the two are told apart, and which says of every member of
a record what counts in its place if it is left out. One layout can be written in several ways:
members that have what counts anyway may be left out, and members that the record does not know
may be put in, where their keys are admitted. Nothing can be changed in a map, and nothing in a
value that is no more than JSON.
-/
import ProviderGen.Decode.Node
import Mathlib.Data.List.Forall2
import Mathlib.Data.String.Basic

set_option autoImplicit false

namespace ProviderGen

/-! ## Values in order -/

namespace Json

mutual

/-- The members of every object are in the order of their keys, so that none stands twice. -/
def Ordered : Json → Prop
  | array items => OrderedItems items
  | object members => (members.map Prod.fst).Pairwise (· < ·) ∧ OrderedMembers members
  | _ => True

/-- All items are in order. -/
def OrderedItems : List Json → Prop
  | [] => True
  | item :: rest => item.Ordered ∧ OrderedItems rest

/-- All values of members are in order. -/
def OrderedMembers : List (String × Json) → Prop
  | [] => True
  | (_, value) :: rest => value.Ordered ∧ OrderedMembers rest

end

end Json

/-! ## Layouts -/

/-- A member of a record, with a content of type `φ`. -/
structure Slot (φ : Type) where
  key : String
  /-- What counts if the member is left out; nothing if it has to be there. -/
  absent : Option Json
  content : φ

/-- A JSON value with its records told from its maps. -/
inductive Layout where
  | plain (value : Json)
  | list (items : List Layout)
  | map (entries : List (String × Layout))
  | record (slots : List (Slot Layout))

namespace Layout

/-- A text. -/
def text (s : String) : Layout := plain (.string s)

/-- A truth value. -/
def flag (b : Bool) : Layout := plain (.bool b)

/-- A list of texts. -/
def texts (items : List String) : Layout := list (items.map text)

/-- The layout of what is there, or `null` if nothing is. -/
def ofOption {α : Type} (layoutOf : α → Layout) : Option α → Layout
  | none => plain .null
  | some value => layoutOf value

mutual

/-- The value with every member of its records. -/
def json : Layout → Json
  | plain value => value
  | list items => .array (jsonItems items)
  | map entries => .object (jsonEntries entries)
  | record slots => .object (jsonSlots slots)

/-- The values of items. -/
def jsonItems : List Layout → List Json
  | [] => []
  | item :: rest => item.json :: jsonItems rest

/-- The members of a map. -/
def jsonEntries : List (String × Layout) → List (String × Json)
  | [] => []
  | (key, entry) :: rest => (key, entry.json) :: jsonEntries rest

/-- The members of a record. -/
def jsonSlots : List (Slot Layout) → List (String × Json)
  | [] => []
  | ⟨key, _, content⟩ :: rest => (key, content.json) :: jsonSlots rest

end

theorem jsonItems_map {α : Type} (layoutOf : α → Layout) (items : List α) :
    jsonItems (items.map layoutOf) = items.map fun item => (layoutOf item).json := by
  induction items with
  | nil => rfl
  | cons item rest ih => rw [List.map_cons, jsonItems, ih, List.map_cons]

theorem jsonEntries_map {α : Type} (layoutOf : α → Layout) (table : List (String × α)) :
    jsonEntries (table.map fun entry => (entry.1, layoutOf entry.2)) =
      table.map fun entry => (entry.1, (layoutOf entry.2).json) := by
  induction table with
  | nil => rfl
  | cons entry rest ih => rw [List.map_cons, jsonEntries, ih, List.map_cons]

@[simp] theorem json_text (s : String) : (text s).json = .string s := rfl

@[simp] theorem json_flag (b : Bool) : (flag b).json = .bool b := rfl

@[simp] theorem json_texts (items : List String) : (texts items).json = .strings items :=
  congrArg Json.array (jsonItems_map text items)

@[simp] theorem json_ofOption {α : Type} (layoutOf : α → Layout) (value? : Option α) :
    (ofOption layoutOf value?).json = Json.ofOption (fun value => (layoutOf value).json) value? := by
  cases value? <;> rfl

mutual

/-- No map has a key twice, and plain values are in order. -/
def Proper : Layout → Prop
  | plain value => value.Ordered
  | list items => ProperItems items
  | map entries => (entries.map Prod.fst).Nodup ∧ ProperEntries entries
  | record slots => ProperSlots slots

/-- All items are proper. -/
def ProperItems : List Layout → Prop
  | [] => True
  | item :: rest => item.Proper ∧ ProperItems rest

/-- All values of a map are proper. -/
def ProperEntries : List (String × Layout) → Prop
  | [] => True
  | (_, entry) :: rest => entry.Proper ∧ ProperEntries rest

/-- All contents of members are proper. -/
def ProperSlots : List (Slot Layout) → Prop
  | [] => True
  | ⟨_, _, content⟩ :: rest => content.Proper ∧ ProperSlots rest

end

theorem properItems_iff {items : List Layout} :
    ProperItems items ↔ ∀ item ∈ items, item.Proper := by
  induction items with
  | nil => simp [ProperItems]
  | cons item rest ih => rw [ProperItems, ih, List.forall_mem_cons]

theorem properEntries_iff {entries : List (String × Layout)} :
    ProperEntries entries ↔ ∀ entry ∈ entries, entry.2.Proper := by
  induction entries with
  | nil => simp [ProperEntries]
  | cons entry rest ih => rw [ProperEntries, ih, List.forall_mem_cons]

@[simp] theorem proper_text (s : String) : (text s).Proper := trivial

@[simp] theorem proper_flag (b : Bool) : (flag b).Proper := trivial

@[simp] theorem proper_texts (items : List String) : (texts items).Proper := by
  refine properItems_iff.mpr (List.forall_mem_map.mpr fun s _ => proper_text s)

@[simp] theorem proper_ofOption_text (s? : Option String) : (ofOption text s?).Proper := by
  cases s? <;> trivial

/-- The members of a map, in order and under their keys. -/
inductive Entries (writes : Layout → Json → Prop) :
    List (String × Layout) → List (String × Json) → Prop
  | nil : Entries writes [] []
  | cons {key : String} {entry : Layout} {value : Json} {entries : List (String × Layout)}
      {members : List (String × Json)} (hentry : writes entry value)
      (hrest : Entries writes entries members) :
      Entries writes ((key, entry) :: entries) ((key, value) :: members)

/-- The members of a record, with the keys of those that were put in. -/
inductive Members (writes : Layout → Json → Prop) :
    List (Slot Layout) → List (String × Json) → List String → Prop
  | nil : Members writes [] [] []
  | given {slot : Slot Layout} {value : Json} {slots : List (Slot Layout)}
      {members : List (String × Json)} {added : List String} (hcontent : writes slot.content value)
      (hrest : Members writes slots members added) :
      Members writes (slot :: slots) ((slot.key, value) :: members) added
  /-- A member may be left out if it has what counts then. -/
  | omitted {slot : Slot Layout} {slots : List (Slot Layout)} {members : List (String × Json)}
      {added : List String} (habsent : slot.absent = some slot.content.json)
      (hrest : Members writes slots members added) : Members writes (slot :: slots) members added
  | foreign {key : String} {value : Json} {slots : List (Slot Layout)}
      {members : List (String × Json)} {added : List String}
      (hrest : Members writes slots members added) :
      Members writes slots ((key, value) :: members) (key :: added)

/-- The JSON values that a layout can be written as, if some keys are admitted beside those of
the records. -/
inductive Writes (admits : String → Prop) : Layout → Json → Prop
  | plain (value : Json) : Writes admits (.plain value) value
  | list {items : List Layout} {values : List Json}
      (hitems : List.Forall₂ (Writes admits) items values) :
      Writes admits (.list items) (.array values)
  | map {entries : List (String × Layout)} {members : List (String × Json)}
      (hentries : Entries (Writes admits) entries members) :
      Writes admits (.map entries) (.object members)
  /-- The record does not know the keys of the members that are put in. -/
  | record {slots : List (Slot Layout)} {members : List (String × Json)} {added : List String}
      (hmembers : Members (Writes admits) slots members added)
      (hadded : ∀ key ∈ added, admits key ∧ key ∉ slots.map Slot.key) :
      Writes admits (.record slots) (.object members)

/-! ### How a layout is written -/

section Inversion

variable {admits : String → Prop} {json : Json}

theorem Writes.eq_of_plain {value : Json} (h : Writes admits (.plain value) json) :
    json = value := by
  cases h
  rfl

theorem Writes.exists_of_list {items : List Layout} (h : Writes admits (.list items) json) :
    ∃ values, List.Forall₂ (Writes admits) items values ∧ json = .array values := by
  cases h with
  | list hitems => exact ⟨_, hitems, rfl⟩

theorem Writes.exists_of_map {entries : List (String × Layout)}
    (h : Writes admits (.map entries) json) :
    ∃ members, List.Forall₂
        (fun entry member => entry.1 = member.1 ∧ Writes admits entry.2 member.2) entries members ∧
      json = .object members := by
  cases h with
  | map hentries =>
    refine ⟨_, ?_, rfl⟩
    induction hentries with
    | nil => exact .nil
    | cons hentry _ ih => exact .cons ⟨rfl, hentry⟩ ih

theorem Writes.exists_of_record {slots : List (Slot Layout)}
    (h : Writes admits (.record slots) json) :
    ∃ members added, Members (Writes admits) slots members added ∧
      (∀ key ∈ added, admits key ∧ key ∉ slots.map Slot.key) ∧ json = .object members := by
  cases h with
  | record hmembers hadded => exact ⟨_, _, hmembers, hadded, rfl⟩

end Inversion

/-! ### Every member in its place -/

mutual

/-- A layout can be written with every member in its place and no other. -/
theorem writes_json (admits : String → Prop) : ∀ layout : Layout, layout.Writes admits layout.json
  | plain value => .plain value
  | list items => .list (writes_jsonItems admits items)
  | map entries => .map (writes_jsonEntries admits entries)
  | record slots => .record (writes_jsonSlots admits slots) (by simp)

theorem writes_jsonItems (admits : String → Prop) :
    ∀ items : List Layout, List.Forall₂ (Writes admits) items (jsonItems items)
  | [] => .nil
  | item :: rest => .cons (writes_json admits item) (writes_jsonItems admits rest)

theorem writes_jsonEntries (admits : String → Prop) :
    ∀ entries : List (String × Layout), Entries (Writes admits) entries (jsonEntries entries)
  | [] => .nil
  | (_, entry) :: rest => .cons (writes_json admits entry) (writes_jsonEntries admits rest)

theorem writes_jsonSlots (admits : String → Prop) :
    ∀ slots : List (Slot Layout), Members (Writes admits) slots (jsonSlots slots) []
  | [] => .nil
  | ⟨_, _, content⟩ :: rest => .given (writes_json admits content) (writes_jsonSlots admits rest)

end

/-- Any key is admitted. -/
def anyKey : String → Prop := fun _ => True

/-- No key is admitted: members can be left out, but none put in. -/
def noKey : String → Prop := fun _ => False

mutual

/-- With members left out and none put in, a layout is not written deeper. -/
theorem depth_le_of_writes :
    ∀ (layout : Layout) {json : Json}, layout.Writes noKey json → json.depth ≤ layout.json.depth
  | plain _, _, .plain _ => le_rfl
  | list items, _, .list hitems => Nat.succ_le_succ (depthItems_le_of_writes items hitems)
  | map entries, _, .map hentries => Nat.succ_le_succ (depthEntries_le_of_writes entries hentries)
  | record slots, _, .record hmembers hadded => by
    refine Nat.succ_le_succ (depthSlots_le_of_writes slots hmembers ?_)
    exact List.eq_nil_iff_forall_not_mem.mpr fun key hkey => (hadded key hkey).1

theorem depthItems_le_of_writes :
    ∀ (items : List Layout) {values : List Json}, List.Forall₂ (Writes noKey) items values →
      Json.depthItems values ≤ Json.depthItems (jsonItems items)
  | [], _, .nil => le_rfl
  | item :: rest, _, .cons hitem hrest =>
    max_le_max (depth_le_of_writes item hitem) (depthItems_le_of_writes rest hrest)

theorem depthEntries_le_of_writes :
    ∀ (entries : List (String × Layout)) {members : List (String × Json)},
      Entries (Writes noKey) entries members →
      Json.depthMembers members ≤ Json.depthMembers (jsonEntries entries)
  | [], _, .nil => le_rfl
  | (_, entry) :: rest, _, .cons hentry hrest =>
    max_le_max (depth_le_of_writes entry hentry) (depthEntries_le_of_writes rest hrest)

theorem depthSlots_le_of_writes :
    ∀ (slots : List (Slot Layout)) {members : List (String × Json)} {added : List String},
      Members (Writes noKey) slots members added → added = [] →
      Json.depthMembers members ≤ Json.depthMembers (jsonSlots slots)
  | [], _, _, .nil, _ => le_rfl
  | ⟨_, _, content⟩ :: rest, _, _, .given hcontent hrest, hnone =>
    max_le_max (depth_le_of_writes content hcontent) (depthSlots_le_of_writes rest hrest hnone)
  | ⟨_, _, _⟩ :: rest, _, _, .omitted _ hrest, hnone =>
    (depthSlots_le_of_writes rest hrest hnone).trans (Nat.le_max_right _ _)

end

end Layout

end ProviderGen
