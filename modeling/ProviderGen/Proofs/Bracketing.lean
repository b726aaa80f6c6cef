/-
Brackets and indentation of declarations.

The code of a declaration is laid out as its shape is: the count of open braces at the start of a
line is the depth at which the printer writes it, from where the declaration begins, and each of the
three ways in which it goes deeper opens just as many braces. Names and descriptions are quoted and
so are skipped. Only values of numbers are printed as they are, so they must have no braces, no
quotes and no line breaks.

What follows the constructor of a declaration stays inside its own brace until the last character,
which is where the count comes back to zero (`bracketed_text`).
-/
import ProviderGen.Proofs.BraceDepth
import ProviderGen.Proofs.CodeLines

set_option autoImplicit false

namespace ProviderGen

open ProviderGen.Text

section Layout

variable {backQuotes : Bool} {indent : Nat} {low n : Int} {depth : Nat} {code : String}

/-! ## Words of declarations -/

theorem starts_and_inert_presence (presence : Presence) :
    Starts (presence.text ++ ",") ∧ Inert (presence.text ++ ",") := by
  cases presence <;> decide

theorem starts_and_inert_elementType (type : Primitive) :
    Starts ("ElementType: " ++ type.elementType ++ ",") ∧
      Inert ("ElementType: " ++ type.elementType ++ ",") := by
  cases type <;> decide

theorem inert_constructor {constructor : String} (h : constructor ∈ constructors) :
    Inert constructor := by
  revert constructor
  decide

/-- The words that the lines of a constraint are made of. -/
theorem starts_and_inert_validator {type : Primitive} {interface package : String}
    (h : type.validator? = some (interface, package)) :
    (Starts ("Validators: []" ++ interface) ∧ Inert ("Validators: []" ++ interface)) ∧
      Starts (package ++ ".OneOf(") ∧ Inert (package ++ ".OneOf(") := by
  cases type <;> simp only [Primitive.validator?, Option.some.injEq, Prod.mk.injEq, reduceCtorEq]
    at h
  all_goals
    obtain ⟨rfl, rfl⟩ := h
    decide

/-! ## Lines of declarations -/

namespace WellBraced

/-- Literals that are well braced within the code are so with commas between them. -/
theorem intercalate (hlow : low ≤ n) {literals : List String}
    (h : ∀ literal ∈ literals,
      WellBraced backQuotes indent low ⟨.code, n⟩ literal.toList ⟨.code, n⟩) :
    WellBraced backQuotes indent low ⟨.code, n⟩ (", ".intercalate literals).toList ⟨.code, n⟩ := by
  induction literals with
  | nil => exact nil
  | cons first rest ih =>
    rw [List.forall_mem_cons] at h
    cases rest with
    | nil => simpa using h.1
    | cons second rest =>
      rw [String.intercalate_cons_cons]
      exact append_code (append_code h.1 (inert hlow (by decide))) (ih h.2)

theorem openLine (hlow : low ≤ n) (hdepth : (depth : Int) = indent + n)
    (hcode : Starts code ∧ Inert code) {text : String} (htext : text = code ++ "\x7b") :
    WellBraced backQuotes indent low ⟨.code, n⟩ (ProviderGen.line depth text).toList
      ⟨.code, n + 1⟩ := by
  rw [htext]
  apply codeLine hlow hdepth (hcode.1.append _)
  exact append_code (inert hlow hcode.2) (opening hlow)

theorem inertLine (hlow : low ≤ n) (hdepth : (depth : Int) = indent + n)
    (hcode : Starts code ∧ Inert code) :
    WellBraced backQuotes indent low ⟨.code, n⟩ (ProviderGen.line depth code).toList ⟨.code, n⟩ :=
  codeLine hlow hdepth hcode.1 (inert hlow hcode.2)

/-- The line that closes what was opened `n` braces deep, with a comma. -/
theorem closeLine (hlow : low ≤ n) (hdepth : (depth : Int) = indent + n) :
    WellBraced backQuotes indent low ⟨.code, n + 1⟩ (ProviderGen.line depth "\x7d,").toList
      ⟨.code, n⟩ := by
  have hback : n + 1 - 1 = n := by omega
  have hcomma : WellBraced backQuotes indent low ⟨.code, n + 1 - 1⟩ ",".toList ⟨.code, n⟩ := by
    rw [hback]
    exact inert hlow (by decide)
  exact closingLine (by omega) (by omega) (by decide) hcomma

theorem description (hlow : low ≤ n) (hdepth : (depth : Int) = indent + n)
    (words : Option String) :
    WellBraced backQuotes indent low ⟨.code, n⟩ (Declaration.descriptionLines depth words).toList
      ⟨.code, n⟩ := by
  cases words with
  | none => exact nil
  | some words =>
    have hstarts : Starts "MarkdownDescription: " := by decide
    apply codeLine hlow hdepth ((hstarts.append _).append _)
    exact append_code (append_code (inert hlow (by decide)) (quote hlow words))
      (inert hlow (by decide))

/-- The lines of a constraint, where literals without quotes are neutral. -/
theorem validator (hlow : low ≤ n) (hdepth : (depth : Int) = indent + n) {type : Primitive}
    {values : List String} {presence : Presence} {v : Validator}
    (hv : validatorOf type values presence .resource = some v)
    (hbare : type = .int ∨ type = .float →
      ∀ value ∈ values, ∀ c ∈ value.toList, Neutral backQuotes c) :
    WellBraced backQuotes indent low ⟨.code, n⟩ (v.lines depth).toList ⟨.code, n⟩ := by
  obtain ⟨-, -, htype, hwritten⟩ := validatorOf_eq_some_iff.mp hv
  have hinner : low ≤ n + 1 := by omega
  have hliterals : ∀ literal ∈ v.literals,
      WellBraced backQuotes indent low ⟨.code, n + 1⟩ literal.toList ⟨.code, n + 1⟩ := by
    rw [hwritten]
    split_ifs with hquotes
    · intro literal hliteral
      obtain ⟨value, -, rfl⟩ := List.mem_map.mp hliteral
      exact quote hinner value
    · -- of the types whose literals have no quotes only numbers can be constrained
      have hnumber : type = .int ∨ type = .float := by
        cases type with
        | int => exact Or.inl rfl
        | float => exact Or.inr rfl
        | string => exact absurd rfl hquotes
        | bool => cases htype
      intro value hvalue
      exact neutral hinner (hbare hnumber value hvalue)
  obtain ⟨hopen, hcallStarts, hcallInert⟩ := starts_and_inert_validator htype
  have hcall : WellBraced backQuotes indent low ⟨.code, n + 1⟩
      (ProviderGen.line (depth + 1)
        (v.package ++ ".OneOf(" ++ ", ".intercalate v.literals ++ "),")).toList ⟨.code, n + 1⟩ := by
    apply codeLine hinner (by omega) ((hcallStarts.append _).append _)
    exact append_code (append_code (inert hinner hcallInert) (intercalate hinner hliterals))
      (inert hinner (by decide))
  exact append_code (append_code (openLine hlow hdepth hopen rfl) hcall)
    (closeLine hlow hdepth)

/-- The lines of entries, where the text of each is well braced. -/
theorem entries (hlow : low ≤ n) (hdepth : (depth : Int) = indent + n)
    {entries : List (String × Declaration)}
    (hentries : ∀ entry ∈ entries,
      WellBraced backQuotes indent low ⟨.code, n⟩ (entry.2.text depth).toList ⟨.code, n⟩) :
    WellBraced backQuotes indent low ⟨.code, n⟩ (Declaration.entryLines depth entries).toList
      ⟨.code, n⟩ := by
  induction entries with
  | nil => exact nil
  | cons entry rest ih =>
    rw [List.forall_mem_cons] at hentries
    have hstarts : Starts (Text.quote entry.1 ++ ": " ++ entry.2.text depth ++ ",") := by
      rw [String.append_assoc, String.append_assoc]
      unfold Starts
      rw [String.toList_append, Text.quote, String.toList_ofList]
      rfl
    rw [Declaration.entryLines]
    apply append_code _ (ih hentries.2)
    apply codeLine hlow hdepth hstarts
    exact append_code (append_code (append_code (quote hlow _) (inert hlow (by decide)))
      hentries.1) (inert hlow (by decide))

/-- The lines of what a declaration is, where those of its constraint and those of its entries are
well braced. Each brace that is opened on the way makes what is inside one tab deeper. -/
theorem shape (hlow : low ≤ n) (hdepth : (depth : Int) = indent + n) {declaration : Declaration}
    (hown : ∀ v, declaration.validator? = some v →
      WellBraced backQuotes indent low ⟨.code, n⟩ (v.lines depth).toList ⟨.code, n⟩)
    (hentries : ∀ (depth' : Nat) (n' : Int), low ≤ n' → (depth' : Int) = indent + n' →
      WellBraced backQuotes indent low ⟨.code, n'⟩
        (Declaration.entryLines depth' declaration.entries).toList ⟨.code, n'⟩) :
    WellBraced backQuotes indent low ⟨.code, n⟩
      (Declaration.shapeLines depth declaration.shape).toList ⟨.code, n⟩ := by
  have hwords : (Starts "Attributes: map[string]schema.Attribute" ∧
      Inert "Attributes: map[string]schema.Attribute") ∧
      Starts "NestedObject: schema.NestedAttributeObject" ∧
      Inert "NestedObject: schema.NestedAttributeObject" := by decide
  have hmap : ∀ (depth' : Nat) (n' : Int), low ≤ n' → (depth' : Int) = indent + n' →
      WellBraced backQuotes indent low ⟨.code, n'⟩
        (ProviderGen.line depth' "Attributes: map[string]schema.Attribute\x7b").toList
        ⟨.code, n' + 1⟩ := by
    intro depth' n' hlow' hdepth'
    exact openLine hlow' hdepth' hwords.1 (by decide)
  obtain ⟨presence, words, shape⟩ := declaration
  rcases shape with ⟨type, _ | v⟩ | type | type | ⟨entries, _ | _⟩
  · exact nil
  · exact hown v rfl
  · exact inertLine hlow hdepth (starts_and_inert_elementType type)
  · exact inertLine hlow hdepth (starts_and_inert_elementType type)
  · exact append_code (append_code (hmap depth n hlow hdepth)
      (hentries (depth + 1) (n + 1) (by omega) (by omega))) (closeLine hlow hdepth)
  · have hobject : WellBraced backQuotes indent low ⟨.code, n⟩
        (ProviderGen.line depth "NestedObject: schema.NestedAttributeObject\x7b").toList
        ⟨.code, n + 1⟩ :=
      openLine hlow hdepth hwords.2 (by decide)
    exact append_code (append_code (append_code (append_code hobject
      (hmap (depth + 1) (n + 1) (by omega) (by omega)))
      (hentries (depth + 2) (n + 1 + 1) (by omega) (by omega)))
      (closeLine (by omega) (by omega))) (closeLine hlow hdepth)

end WellBraced

/-! ## Layouts of declarations -/

/-- The values of numbers, of an attribute and of all inside it, have no braces, no quotes and no
line breaks. -/
def PlainNumbers (backQuotes : Bool) (field : Field) : Prop :=
  ∀ (position : List Nat) (there : Field), atPosition Field.inner position field = some there →
    there.kind = .primitive .int ∨ there.kind = .primitive .float →
      ∀ value ∈ there.enumValues, ∀ c ∈ value.toList, Neutral backQuotes c

theorem plainNumbers_iff {field : Field} :
    PlainNumbers backQuotes field ↔
      (field.kind = .primitive .int ∨ field.kind = .primitive .float →
        ∀ value ∈ field.enumValues, ∀ c ∈ value.toList, Neutral backQuotes c) ∧
      ∀ child ∈ field.inner, PlainNumbers backQuotes child :=
  forall_atPosition_iff

/-- The text of a declaration, where what follows its constructor is well braced. -/
theorem WellBraced.text (hlow : low ≤ n) {declaration : Declaration}
    (hbody : WellBraced backQuotes indent low ⟨.code, n + 1⟩ (declaration.body depth).toList
      ⟨.code, n⟩) :
    WellBraced backQuotes indent low ⟨.code, n⟩ (declaration.text depth).toList ⟨.code, n⟩ := by
  have hconstructor := inert_constructor declaration.shape.constructor_mem
  rw [declaration.text_eq]
  exact append_code (append_code (inert hlow hconstructor) (opening hlow)) hbody

/-- **After its constructor, the text of a declaration stays inside its own brace** until the end,
and its lines are as deep as braces are open. -/
theorem wellBraced_body (mode : Mode) (place : Place) {field : Field}
    (hplain : PlainNumbers backQuotes field) {n : Int} {depth : Nat}
    (hdepth : (depth : Int) = indent + n) :
    WellBraced backQuotes indent (n + 1) ⟨.code, n + 1⟩
      ((field.declare mode place).body depth).toList ⟨.code, n⟩ := by
  induction field using Field.induction_on_inner generalizing place n depth with
  | step field ih =>
    obtain ⟨hnumbers, hchildren⟩ := plainNumbers_iff.mp hplain
    have hinner : ((depth + 1 : Nat) : Int) = indent + (n + 1) := by omega
    have hown : ∀ v, (field.declare mode place).validator? = some v →
        WellBraced backQuotes indent (n + 1) ⟨.code, n + 1⟩ (v.lines (depth + 1)).toList
          ⟨.code, n + 1⟩ := by
      intro v hv
      obtain ⟨type, hkind, hv⟩ := (field.declare_validator?_eq_some_iff ..).mp hv
      cases mode with
      | dataSource => cases hv
      | resource =>
        refine WellBraced.validator (Int.le_refl _) hinner hv fun htype => hnumbers ?_
        rw [hkind]
        exact htype.imp (congrArg _) (congrArg _)
    have hentries : ∀ (depth' : Nat) (n' : Int), n + 1 ≤ n' → (depth' : Int) = indent + n' →
        WellBraced backQuotes indent (n + 1) ⟨.code, n'⟩
          (Declaration.entryLines depth' (field.declare mode place).entries).toList
          ⟨.code, n'⟩ := by
      intro depth' n' hlow hdepth'
      refine WellBraced.entries hlow hdepth' ?_
      rw [field.declare_entries]
      intro entry hentry
      obtain ⟨child, hchild, rfl⟩ := List.mem_map.mp hentry
      -- what stands inside the brace of an entry is inside this one all the more
      have hbody := ih child hchild (field.placeInside mode place) (hchildren child hchild) hdepth'
      have hdeeper : n + 1 ≤ n' + 1 := by omega
      exact WellBraced.text hlow (hbody.mono hdeeper)
    -- the last line closes the brace, and is not below it before that
    have hback : n + 1 - 1 = n := by omega
    have hend : WellBraced backQuotes indent (n + 1) ⟨.code, n + 1 - 1⟩ "".toList ⟨.code, n⟩ := by
      rw [hback]
      exact WellBraced.nil
    have hclose : WellBraced backQuotes indent (n + 1) ⟨.code, n + 1⟩ (line depth "\x7d").toList
        ⟨.code, n⟩ :=
      WellBraced.closingLine (Int.le_refl _) (by omega) (by decide) hend
    have hflag : WellBraced backQuotes indent (n + 1) ⟨.code, n + 1⟩
        (line (depth + 1) ((field.declare mode place).presence.text ++ ",")).toList
        ⟨.code, n + 1⟩ :=
      WellBraced.inertLine (Int.le_refl _) hinner (starts_and_inert_presence _)
    have hwords : WellBraced backQuotes indent (n + 1) ⟨.code, n + 1⟩
        (Declaration.descriptionLines (depth + 1) (field.declare mode place).description).toList
        ⟨.code, n + 1⟩ :=
      WellBraced.description (Int.le_refl _) hinner _
    have hshape := WellBraced.shape (Int.le_refl (n + 1)) hinner hown hentries
    rw [Declaration.body]
    exact WellBraced.append_code
      (WellBraced.append_code (WellBraced.append_code hflag hwords) hshape) hclose

/-! ## Bracketed texts -/

/-- A text of code is bracketed and its lines are as deep as its braces say: it is not empty; as it
is read, never more braces are closed than were opened; the last brace that is open is closed with
the last character and with no other; a line begins with an indentation and one tab for each brace
that is open, but for one that it closes first; and the text ends outside of literals. -/
structure Bracketed (backQuotes : Bool) (indent : Nat) (s : List Char) : Prop where
  nonempty : s ≠ []
  nonneg : ∀ front back, s = front ++ back → 0 ≤ openBraces backQuotes front
  closed : ∀ front c back, s = front ++ c :: back →
    ((openBraces backQuotes front ≠ 0 ∧ openBraces backQuotes (front ++ [c]) = 0) ↔ back = [])
  lines : ∀ front back, s = front ++ '\n' :: back →
    ∃ tabs c rest, back = List.replicate tabs '\t' ++ c :: rest ∧ c ≠ '\t' ∧
      (tabs : Int) =
        indent + openBraces backQuotes (front ++ ['\n']) - if c = '\x7d' then 1 else 0
  ends : (Spot.read backQuotes ⟨.code, 0⟩ s).within = .code

/-- What follows a constructor, from inside its own brace to behind it, makes it bracketed. -/
theorem WellBraced.bracketed {code : String} (hcode : Inert code) {s : List Char}
    (hs : WellBraced backQuotes indent 1 ⟨.code, 1⟩ s ⟨.code, 0⟩) :
    Bracketed backQuotes indent ((code ++ "\x7b").toList ++ s) := by
  have hopen : WellBraced backQuotes indent 0 ⟨.code, 0⟩ (code ++ "\x7b").toList ⟨.code, 1⟩ :=
    append_code (inert (Int.le_refl 0) hcode) (opening (Int.le_refl 0))
  have hwhole := hopen.append (hs.mono (by decide : (0 : Int) ≤ 1))
  refine ⟨?_, ?_, ?_, ?_, ?_⟩
  · intro hnil
    rw [String.toList_append, List.append_assoc, List.append_eq_nil_iff] at hnil
    cases hnil.2
  · intro front back h
    cases back with
    | nil =>
      rw [List.append_nil] at h
      have hclosed : openBraces backQuotes front = 0 := by rw [← h, openBraces, hwhole.ends]
      exact Int.le_of_eq hclosed.symm
    | cons c back => exact hwhole.above front c back h
  · intro front c back h
    rcases append_eq_append_cons h with ⟨between, rfl, hsecond⟩ | ⟨between, hfirst, rfl⟩
    · -- inside its own brace the text stays above zero until its last character
      have hopened : openBraces backQuotes ((code ++ "\x7b").toList ++ between) ≠ 0 := by
        have habove := hs.above between c back hsecond
        rw [openBraces, Spot.read_append, hopen.ends]
        omega
      rw [and_iff_right hopened, List.append_assoc]
      cases back with
      | nil =>
        rw [← hsecond, openBraces, hwhole.ends]
        exact iff_of_true rfl rfl
      | cons d back =>
        have habove := hs.above (between ++ [c]) d back (by rw [hsecond, List.append_assoc]; rfl)
        rw [openBraces, Spot.read_append, hopen.ends]
        refine iff_of_false ?_ (List.cons_ne_nil d back)
        omega
    · -- up to the brace of the constructor nothing has been opened
      have hnonempty : between ++ s ≠ [] := by
        intro hnil
        rw [(List.append_eq_nil_iff.mp hnil).2] at hs
        cases hs.ends
      have hfront : ∀ d ∈ front, d ∈ code.toList := by
        rw [String.toList_append] at hfirst
        rcases append_eq_append_cons hfirst with ⟨more, rfl, hbrace⟩ | ⟨more, hmore, -⟩
        · rcases List.singleton_eq_append_iff.mp hbrace with ⟨rfl, -⟩ | ⟨-, hnil⟩
          · rw [List.append_nil]
            exact fun d hd => hd
          · cases hnil
        · rw [hmore]
          exact fun d hd => List.mem_append_left _ hd
      have hzero : openBraces backQuotes front = 0 := by
        have hneutral : WellBraced backQuotes indent 0 ⟨.code, 0⟩ front ⟨.code, 0⟩ :=
          neutral (Int.le_refl 0) fun d hd => (hcode d (hfront d hd)).of_true
        rw [openBraces, hneutral.ends]
      exact iff_of_false (fun h => h.1 hzero) hnonempty
  · intro front back h
    obtain ⟨tabs, c, rest, hback, hc, htabs⟩ := hwhole.lines front back h
    refine ⟨tabs, c, rest, hback, hc, ?_⟩
    rw [openBraces, Spot.read_append, Spot.read_cons, Spot.read_nil, Spot.braces_step_newline]
    exact htabs
  · rw [hwhole.ends]

/-- **Declarations are bracketed, and every line is as deep as its braces.** So it is whatever the
names and the descriptions of attributes are, and whatever a string may be, at every indentation;
only the values of numbers must be plain. -/
theorem bracketed_text (mode : Mode) (place : Place) {field : Field}
    (hplain : PlainNumbers backQuotes field) (indent : Nat) :
    Bracketed backQuotes indent ((field.declare mode place).text indent).toList := by
  have hconstructor := inert_constructor (field.declare mode place).shape.constructor_mem
  have hdepth : (indent : Int) = indent + 0 := by omega
  have hbody : WellBraced backQuotes indent 1 ⟨.code, 1⟩
      ((field.declare mode place).body indent).toList ⟨.code, 0⟩ :=
    wellBraced_body mode place hplain hdepth
  rw [Declaration.text_eq, String.toList_append]
  exact hbody.bracketed hconstructor

/-- Neither braces nor quotes nor line breaks in a name and in a description change that, nor the
constraint of a number inside a list of objects. -/
theorem bracketed_text_list :
    let port : Field := ⟨"port\x7d \"\x7b", "port", .primitive .int, ["80", "-1"], false, false,
      some "one of \x7b\n\x7d \\"⟩
    let field : Field := ⟨"rules\n", "rules", .object [port] true, [], false, false, none⟩
    PlainNumbers true field ∧
      Bracketed true 2 ((field.declare .resource .top).text 2).toList := by
  intro port field
  have hport : PlainNumbers true port :=
    plainNumbers_iff.mpr ⟨fun _ => by decide, List.forall_mem_nil _⟩
  have hplain : PlainNumbers true field := by
    refine plainNumbers_iff.mpr ⟨?_, List.forall_mem_singleton.mpr hport⟩
    rintro (hkind | hkind)
    · cases hkind
    · cases hkind
  exact ⟨hplain, bracketed_text .resource .top hplain 2⟩

end Layout

end ProviderGen
