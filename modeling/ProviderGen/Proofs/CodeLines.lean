/-
Reading the code of declarations line by line.

The lines of a constraint start with words that no other line of a declaration starts with, so
they can be told from the rest by reading: names and descriptions are quoted, which keeps them on
one line and away from its start. Only a literal that is printed without quotes could break a
line; where none does, the text of a declaration has such lines just if some declaration inside
it has the constraint (`hasLine_text_iff`).
-/
import ProviderGen.Attribute.Imports
import ProviderGen.Proofs.Printing

set_option autoImplicit false

namespace ProviderGen

open ProviderGen.Text

/-! ## Reading lines of code -/

/-- The lines of a text without the tabs before them. -/
def codeLines (text : String) : List (List Char) :=
  (text.toList.splitOn '\n').map (List.dropWhile (· == '\t'))

/-- A text has a line of code that starts with a word. -/
def HasLine (word text : String) : Prop := ∃ code ∈ codeLines text, word.toList <+: code

theorem line_append (depth : Nat) (code tail : String) :
    line depth code ++ tail = line depth (code ++ tail) := by
  rw [line, line, String.append_assoc]

theorem codeLines_tabs_append (depth : Nat) (code : String) :
    codeLines (tabs depth ++ code) = codeLines code := by
  unfold codeLines tabs
  rw [String.toList_append, String.toList_ofList]
  induction depth with
  | zero => rfl
  | succ depth ih =>
    rw [List.replicate_succ, List.cons_append, List.splitOn_cons_eq_if_modifyHead,
      if_neg (by decide), ← ih]
    cases (List.replicate depth '\t' ++ code.toList).splitOn '\n' with
    | nil => rfl
    | cons first rest => rfl

theorem codeLines_append_line (text code : String) (depth : Nat) :
    codeLines (text ++ line depth code) = codeLines text ++ codeLines code := by
  rw [← codeLines_tabs_append depth code]
  unfold codeLines line
  have hbreak : (text ++ ("\n" ++ tabs depth ++ code)).toList =
      text.toList ++ '\n' :: (tabs depth ++ code).toList := by
    rw [String.append_assoc, String.toList_append, String.toList_append]
    rfl
  rw [hbreak, List.splitOn_append_cons_self, List.map_append]

theorem hasLine_of_oneLine {word code : String} (h : '\n' ∉ code.toList) :
    HasLine word code ↔ word.toList <+: code.toList.dropWhile (· == '\t') := by
  rw [HasLine, codeLines, List.splitOn_eq_singleton h, List.map_singleton]
  simp only [List.mem_singleton, exists_eq_left]

/-- What is added to a text brings a line that starts with the word just if `brings`. -/
def Adds (word added : String) (brings : Prop) : Prop :=
  ∀ text, HasLine word (text ++ added) ↔ HasLine word text ∨ brings

namespace Adds

variable {word front back : String} {p q : Prop}

theorem empty : Adds word "" False := fun text => by rw [String.append_empty, or_false]

theorem append (hfront : Adds word front p) (hback : Adds word back q) :
    Adds word (front ++ back) (p ∨ q) := fun text => by
  rw [← String.append_assoc, hback, hfront, or_assoc]

theorem line (depth : Nat) (code : String) :
    Adds word (line depth code) (HasLine word code) := fun text => by
  rw [HasLine, codeLines_append_line]
  simp only [List.mem_append, or_and_right, exists_or]
  rfl

theorem of_iff (h : Adds word front p) (hpq : p ↔ q) : Adds word front q := fun text => by
  rw [h, hpq]

end Adds

/-! ## The lines of constraints -/

/-- The words that the lines of constraints start with. -/
def marks : List String :=
  "Validators: []" :: validatorPackages.map fun package => package ++ ".OneOf("

/-- A constraint has a line that starts with a word. -/
def Validator.Bears (word : String) (v : Validator) : Prop :=
  word = "Validators: []" ∨ word = v.package ++ ".OneOf("

/-- The first two characters of the words. -/
def markStarts : List (List Char) := [['V', 'a'], ['f', 'l'], ['i', 'n'], ['s', 't']]

theorem take_two_mem_markStarts :
    ∀ word ∈ marks, 2 ≤ word.toList.length ∧ word.toList.take 2 ∈ markStarts := by
  decide

/-- A line of code that does not start like one of a constraint. -/
def Unmarked (code : String) : Prop :=
  '\n' ∉ code.toList ∧ (code.toList.dropWhile (· == '\t')).take 2 ∉ markStarts

theorem not_hasLine_of_unmarked {word code : String} (hword : word ∈ marks)
    (h : Unmarked code) : ¬ HasLine word code := by
  obtain ⟨hlength, hstart⟩ := take_two_mem_markStarts word hword
  rw [hasLine_of_oneLine h.1]
  rintro ⟨rest, hrest⟩
  have hother := h.2
  rw [← hrest, List.take_append_of_le_length hlength] at hother
  exact hother hstart

theorem adds_unmarked {word code : String} (hword : word ∈ marks) (h : Unmarked code)
    (depth : Nat) : Adds word (line depth code) False :=
  (Adds.line depth code).of_iff (iff_false_intro (not_hasLine_of_unmarked hword h))

/-! ## Lines that are not of constraints -/

theorem newline_not_mem_escape (c : Char) : '\n' ∉ escape c := by
  have hdigit : ∀ n < 16, '\n' ≠ hexDigit n := by decide
  unfold escape
  split_ifs with _ _ _ _ hbreak
  all_goals try decide
  · have hhigh := hdigit (c.toNat / 16) (by omega)
    have hlow := hdigit (c.toNat % 16) (by omega)
    simp [hhigh, hlow]
  · rw [List.mem_singleton]
    rintro rfl
    exact hbreak rfl

/-- A quoted text is on one line. -/
theorem newline_not_mem_quote (s : String) : '\n' ∉ (quote s).toList := by
  rw [quote, String.toList_ofList, quoteChars]
  simp [newline_not_mem_escape]

/-- What constructs an attribute. -/
def constructors : List String :=
  ["schema.StringAttribute", "schema.Int64Attribute", "schema.Float64Attribute",
    "schema.BoolAttribute", "schema.ListAttribute", "schema.MapAttribute",
    "schema.SingleNestedAttribute", "schema.ListNestedAttribute"]

theorem Shape.constructor_mem {δ : Type} (shape : Shape δ) : shape.constructor ∈ constructors := by
  rcases shape with type | _ | _ | ⟨_, _ | _⟩
  · cases type <;> simp [Shape.constructor, Primitive.attributeType, constructors]
  all_goals simp [Shape.constructor, constructors]

theorem unmarked_constructor {code : String} (h : code ∈ constructors) :
    Unmarked (code ++ "\x7b") := by
  revert code
  unfold Unmarked
  decide

theorem unmarked_entry {code : String} (h : code ∈ constructors) (name : String) :
    Unmarked (quote name ++ ": " ++ code ++ "\x7b") := by
  have hcode : '\n' ∉ code.toList := by
    revert code
    decide
  constructor
  · simp [newline_not_mem_quote, hcode]
  · simp [markStarts, quote, quoteChars]

theorem unmarked_presence (presence : Presence) : Unmarked (presence.text ++ ",") := by
  cases presence <;> exact ⟨by decide, by decide⟩

theorem unmarked_description (words : String) :
    Unmarked ("MarkdownDescription: " ++ quote words ++ ",") := by
  constructor
  · simp [newline_not_mem_quote]
  · simp [markStarts]

theorem unmarked_elementType (type : Primitive) :
    Unmarked ("ElementType: " ++ type.elementType ++ ",") := by
  cases type <;> exact ⟨by decide, by decide⟩

/-! ## Lines that are of constraints -/

section Lines

variable {word : String}

/-- What stands neither in texts nor in what parts them does not stand in them together. -/
theorem not_mem_intercalate {c : Char} {between : String} (hbetween : c ∉ between.toList)
    {texts : List String} (h : ∀ text ∈ texts, c ∉ text.toList) :
    c ∉ (between.intercalate texts).toList := by
  induction texts with
  | nil => simp
  | cons first rest ih =>
    rw [List.forall_mem_cons] at h
    cases rest with
    | nil => simpa using h.1
    | cons second rest =>
      rw [String.intercalate_cons_cons]
      simp only [String.toList_append, List.mem_append, not_or]
      exact ⟨⟨h.1, hbetween⟩, ih h.2⟩

theorem hasLine_open_iff {type : Primitive} {interface package : String} (hword : word ∈ marks)
    (htype : type.validator? = some (interface, package)) :
    HasLine word ("Validators: []" ++ interface ++ "\x7b") ↔ word = "Validators: []" := by
  cases type <;> simp only [Primitive.validator?, Option.some.injEq, Prod.mk.injEq, reduceCtorEq]
    at htype
  all_goals
    obtain ⟨rfl, rfl⟩ := htype
    rw [hasLine_of_oneLine (by decide)]
    revert word
    decide

theorem hasLine_call_iff {type : Primitive} {interface package code : String}
    (hword : word ∈ marks) (htype : type.validator? = some (interface, package))
    (hcode : '\n' ∉ code.toList) :
    HasLine word (package ++ ".OneOf(" ++ code ++ "),") ↔ word = package ++ ".OneOf(" := by
  simp only [marks, validatorPackages, List.map_cons, List.map_nil, List.mem_cons,
    List.not_mem_nil, or_false] at hword
  cases type <;> simp only [Primitive.validator?, Option.some.injEq, Prod.mk.injEq, reduceCtorEq]
    at htype
  all_goals
    obtain ⟨rfl, rfl⟩ := htype
    rw [hasLine_of_oneLine (by simp [hcode])]
    rcases hword with rfl | rfl | rfl | rfl <;> simp

/-- The lines of a constraint, where literals without quotes have no line break. -/
theorem adds_validator {type : Primitive} {values : List String} {presence : Presence}
    {v : Validator} (hword : word ∈ marks)
    (hv : validatorOf type values presence .resource = some v)
    (hbare : type.quotesLiterals = false → ∀ value ∈ values, '\n' ∉ value.toList)
    (depth : Nat) : Adds word (v.lines depth) (v.Bears word) := by
  obtain ⟨-, -, htype, hliterals⟩ := validatorOf_eq_some_iff.mp hv
  have hbreak : ∀ literal ∈ v.literals, '\n' ∉ literal.toList := by
    rw [hliterals]
    split_ifs with hquotes
    · intro literal hliteral
      obtain ⟨value, -, rfl⟩ := List.mem_map.mp hliteral
      exact newline_not_mem_quote value
    · exact hbare (Bool.eq_false_iff.mpr hquotes)
  have hclose : Unmarked "\x7d," := ⟨by decide, by decide⟩
  refine (((Adds.line depth _).append (Adds.line (depth + 1) _)).append
    (adds_unmarked hword hclose depth)).of_iff ?_
  rw [hasLine_open_iff hword htype,
    hasLine_call_iff hword htype (not_mem_intercalate (by decide) hbreak), or_false, Validator.Bears]

/-! ## Reading constraints off the text -/

theorem adds_description (hword : word ∈ marks) (depth : Nat) (description : Option String) :
    Adds word (Declaration.descriptionLines depth description) False := by
  cases description with
  | none => exact Adds.empty
  | some words => exact adds_unmarked hword (unmarked_description words) depth

/-- The lines of entries, where what the text of each brings is known. -/
theorem adds_entryLines (hword : word ∈ marks) {sort : Validator → Prop}
    {entries : List (String × Declaration)}
    (hentries : ∀ entry ∈ entries, ∀ depth tail, Unmarked ("\x7d" ++ tail) →
      Adds word (entry.2.body depth ++ tail) (Declaration.Constrains sort entry))
    (depth : Nat) :
    Adds word (Declaration.entryLines depth entries)
      (∃ entry ∈ entries, Declaration.Constrains sort entry) := by
  induction entries with
  | nil => exact Adds.empty.of_iff (by simp)
  | cons entry rest ih =>
    rw [List.forall_mem_cons] at hentries
    obtain ⟨hentry, hrest⟩ := hentries
    have hopen := adds_unmarked hword (unmarked_entry entry.2.shape.constructor_mem entry.1) depth
    have hbody := hentry depth "," ⟨by decide, by decide⟩
    have hlines : Declaration.entryLines depth (entry :: rest) =
        line depth (quote entry.1 ++ ": " ++ entry.2.shape.constructor ++ "\x7b") ++
          (entry.2.body depth ++ ",") ++ Declaration.entryLines depth rest := by
      rw [Declaration.entryLines, Declaration.text_eq, line, line]
      simp only [String.append_assoc]
    rw [hlines]
    refine ((hopen.append hbody).append (ih hrest)).of_iff ?_
    rw [List.exists_mem_cons_iff, false_or]

/-- The lines of what a declaration is, where what the lines of its constraint and of its entries
bring is known. -/
theorem adds_shapeLines (hword : word ∈ marks) {sort : Validator → Prop}
    {entry : String × Declaration}
    (hown : ∀ v, entry.2.validator? = some v → ∀ depth, Adds word (v.lines depth) (sort v))
    (hentries : ∀ depth, Adds word (Declaration.entryLines depth entry.2.entries)
      (∃ child ∈ entry.2.entries, Declaration.Constrains sort child))
    (depth : Nat) :
    Adds word (Declaration.shapeLines depth entry.2.shape) (Declaration.Constrains sort entry) := by
  refine Adds.of_iff ?_ Declaration.constrains_iff.symm
  have hmap : ∀ depth, Adds word (line depth "Attributes: map[string]schema.Attribute\x7b") False :=
    adds_unmarked hword ⟨by decide, by decide⟩
  have hclose : ∀ depth, Adds word (line depth "\x7d,") False :=
    adds_unmarked hword ⟨by decide, by decide⟩
  obtain ⟨name, presence, description, shape⟩ := entry
  rcases shape with ⟨type, _ | v⟩ | type | type | ⟨entries, _ | _⟩
  · exact Adds.empty.of_iff (by simp [Declaration.validator?, Declaration.entries])
  · exact (hown v rfl depth).of_iff (by simp [Declaration.validator?, Declaration.entries])
  · exact (adds_unmarked hword (unmarked_elementType type) depth).of_iff
      (by simp [Declaration.validator?, Declaration.entries])
  · exact (adds_unmarked hword (unmarked_elementType type) depth).of_iff
      (by simp [Declaration.validator?, Declaration.entries])
  · exact (((hmap depth).append (hentries (depth + 1))).append (hclose depth)).of_iff
      (by simp [Declaration.validator?])
  · have hobject : Adds word (line depth "NestedObject: schema.NestedAttributeObject\x7b") False :=
      adds_unmarked hword ⟨by decide, by decide⟩ depth
    exact ((((hobject.append (hmap (depth + 1))).append (hentries (depth + 2))).append
      (hclose (depth + 1))).append (hclose depth)).of_iff (by simp [Declaration.validator?])

/-- The literals of an attribute, and of all inside it, that are printed without quotes are on
one line each. -/
def BareOnOneLine (field : Field) : Prop :=
  ∀ (position : List Nat) (there : Field) (type : Primitive),
    atPosition Field.inner position field = some there → there.kind = .primitive type →
      type.quotesLiterals = false → ∀ value ∈ there.enumValues, '\n' ∉ value.toList

theorem bareOnOneLine_iff {field : Field} :
    BareOnOneLine field ↔
      (∀ type, field.kind = .primitive type → type.quotesLiterals = false →
        ∀ value ∈ field.enumValues, '\n' ∉ value.toList) ∧
      ∀ child ∈ field.inner, BareOnOneLine child := by
  have hswap (field : Field) : BareOnOneLine field ↔ ∀ position there,
      atPosition Field.inner position field = some there → ∀ type, there.kind = .primitive type →
        type.quotesLiterals = false → ∀ value ∈ there.enumValues, '\n' ∉ value.toList :=
    forall₂_congr fun _ _ => forall_comm
  simp only [hswap]
  exact forall_atPosition_iff

/-- After its constructor, the text of a declaration has the lines of its constraints. -/
theorem adds_body (hword : word ∈ marks) {field : Field} (hbare : BareOnOneLine field)
    (place : Place) (depth : Nat) {tail : String} (htail : Unmarked ("\x7d" ++ tail)) :
    Adds word ((field.declare .resource place).body depth ++ tail)
      (Declaration.Constrains (Validator.Bears word) (field.entry .resource place)) := by
  induction field using Field.induction_on_inner generalizing place depth tail with
  | step field ih =>
    obtain ⟨hliterals, hchildren⟩ := bareOnOneLine_iff.mp hbare
    have hown : ∀ v, (field.entry .resource place).2.validator? = some v →
        ∀ depth, Adds word (v.lines depth) (v.Bears word) := by
      intro v hv
      obtain ⟨type, hkind, hv⟩ := (field.declare_validator?_eq_some_iff ..).mp hv
      exact adds_validator hword hv (hliterals type hkind)
    have hentries : ∀ depth,
        Adds word (Declaration.entryLines depth (field.entry .resource place).2.entries)
          (∃ child ∈ (field.entry .resource place).2.entries,
            Declaration.Constrains (Validator.Bears word) child) := by
      intro depth
      refine adds_entryLines hword ?_ depth
      rw [Field.entry, field.declare_entries]
      intro entry hentry depth tail htail
      obtain ⟨child, hchild, rfl⟩ := List.mem_map.mp hentry
      exact ih child hchild (hchildren child hchild) _ depth htail
    have hshape : Adds word
        (Declaration.shapeLines (depth + 1) (field.entry .resource place).2.shape)
        (Declaration.Constrains (Validator.Bears word) (field.entry .resource place)) :=
      adds_shapeLines hword hown hentries (depth + 1)
    have hflag := adds_unmarked hword
      (unmarked_presence (field.declare .resource place).presence) (depth + 1)
    have hwords := adds_description hword (depth + 1) (field.declare .resource place).description
    have hbody : (field.declare .resource place).body depth ++ tail =
        line (depth + 1) ((field.declare .resource place).presence.text ++ ",") ++
          Declaration.descriptionLines (depth + 1) (field.declare .resource place).description ++
          Declaration.shapeLines (depth + 1) (field.declare .resource place).shape ++
          line depth ("\x7d" ++ tail) := by
      rw [Declaration.body, String.append_assoc, line_append depth "\x7d" tail]
    rw [hbody]
    refine (((hflag.append hwords).append hshape).append
      (adds_unmarked hword htail depth)).of_iff ?_
    rw [or_false, or_false, false_or]

/-- **The text of a declaration has the lines of its constraints and no other line that could be
one of them**, as long as literals that are printed without quotes have no line break. -/
theorem hasLine_text_iff (hword : word ∈ marks) {field : Field} (hbare : BareOnOneLine field)
    (place : Place) (depth : Nat) :
    HasLine word ((field.declare .resource place).text depth) ↔
      Declaration.Constrains (Validator.Bears word) (field.entry .resource place) := by
  have hopen := not_hasLine_of_unmarked hword
    (unmarked_constructor (field.declare .resource place).shape.constructor_mem)
  have hbody : Adds word ((field.declare .resource place).body depth ++ "")
      (Declaration.Constrains (Validator.Bears word) (field.entry .resource place)) :=
    adds_body hword hbare place depth ⟨by decide, by decide⟩
  rw [String.append_empty] at hbody
  rw [Declaration.text_eq, hbody]
  exact or_iff_right hopen

end Lines

end ProviderGen
