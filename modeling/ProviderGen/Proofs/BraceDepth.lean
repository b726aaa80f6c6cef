/-
Reading code brace by brace.

A reader of code counts the braces that are open and skips literals, in which braces do not count.
What it goes through is well braced from one place to another (`WellBraced`): the braces never fall
below a level before the end, and every line begins with as many tabs as the count says, one fewer
if it begins with a closing brace. Layouts of this kind are put together like texts, so that of code
is made of those of its parts. A quoted text is skipped from its first quote to its last one,
whatever is in it. A reader that knows back quotes too is kept from these in the same way; both
kinds of reader are covered.
-/
import ProviderGen.Attribute.Declaration
import ProviderGen.Proofs.Literals

set_option autoImplicit false

namespace ProviderGen

open ProviderGen.Text

/-! ## A reader that counts braces -/

/-- What a reader is in the middle of. -/
inductive Within where
  | code
  /-- A literal between double quotes. -/
  | literal
  /-- The same, behind a backslash. -/
  | escape
  /-- A literal between back quotes. -/
  | raw
  deriving DecidableEq, Repr

/-- Where a reader has come to: what it is within, and how many braces are open. -/
structure Spot where
  within : Within
  braces : Int
  deriving DecidableEq, Repr

namespace Spot

/-- A reader takes one character. Whether back quotes enclose literals too depends on the reader. -/
def step (backQuotes : Bool) (spot : Spot) (c : Char) : Spot :=
  match spot.within with
  | .code =>
    if c = '"' then { spot with within := .literal }
    else if backQuotes = true ∧ c = '\x60' then { spot with within := .raw }
    else if c = '\x7b' then { spot with braces := spot.braces + 1 }
    else if c = '\x7d' then { spot with braces := spot.braces - 1 }
    else spot
  | .literal =>
    if c = '"' then { spot with within := .code }
    else if c = '\\' then { spot with within := .escape }
    else spot
  | .escape => { spot with within := .literal }
  | .raw => if c = '\x60' then { spot with within := .code } else spot

/-- A reader goes through a text. -/
def read (backQuotes : Bool) (spot : Spot) (s : List Char) : Spot := s.foldl (step backQuotes) spot

variable {backQuotes : Bool}

@[simp] theorem read_nil (spot : Spot) : spot.read backQuotes [] = spot := rfl

@[simp] theorem read_cons (spot : Spot) (c : Char) (s : List Char) :
    spot.read backQuotes (c :: s) = (spot.step backQuotes c).read backQuotes s := rfl

@[simp] theorem read_append (spot : Spot) (s t : List Char) :
    spot.read backQuotes (s ++ t) = (spot.read backQuotes s).read backQuotes t :=
  List.foldl_append

/-- A line break opens and closes nothing. -/
theorem braces_step_newline (spot : Spot) :
    (spot.step backQuotes '\n').braces = spot.braces := by
  have hbreak : '\n' ≠ '"' ∧ '\n' ≠ '\x60' ∧ '\n' ≠ '\x7b' ∧ '\n' ≠ '\x7d' ∧ '\n' ≠ '\\' := by
    decide
  cases hwithin : spot.within <;> simp [step, hwithin, hbreak]

end Spot

/-- How many braces are open behind a text. -/
def openBraces (backQuotes : Bool) (s : List Char) : Int := (Spot.read backQuotes ⟨.code, 0⟩ s).braces

/-! ## Layouts -/

/-- A split at a sign goes through the one or the other part of a text. -/
theorem append_eq_append_cons {s t front back : List Char} {c : Char}
    (h : s ++ t = front ++ c :: back) :
    (∃ between, front = s ++ between ∧ t = between ++ c :: back) ∨
      ∃ between, s = front ++ c :: between ∧ back = between ++ t := by
  rcases List.append_eq_append_iff.mp h with hsecond | ⟨between, hfirst, hrest⟩
  · exact Or.inl hsecond
  · rcases List.cons_eq_append_iff.mp hrest with ⟨rfl, rfl⟩ | ⟨between, rfl, rfl⟩
    · exact Or.inl ⟨[], by rw [hfirst, List.append_nil, List.append_nil], rfl⟩
    · exact Or.inr ⟨between, hfirst, rfl⟩

section Layout

variable {backQuotes : Bool} {indent : Nat} {low : Int}

/-- A text is well braced from one place to another: before its end no fewer braces are open than
a lower bound, and each of its lines begins with as many tabs as braces are open, over an
indentation; a closing brace at the beginning of a line counts as read already. -/
structure WellBraced (backQuotes : Bool) (indent : Nat) (low : Int) (spot : Spot) (s : List Char)
    (spot' : Spot) : Prop where
  ends : spot.read backQuotes s = spot'
  above : ∀ front c back, s = front ++ c :: back → low ≤ (spot.read backQuotes front).braces
  lines : ∀ front back, s = front ++ '\n' :: back →
    ∃ tabs c rest, back = List.replicate tabs '\t' ++ c :: rest ∧ c ≠ '\t' ∧
      (tabs : Int) =
        indent + (spot.read backQuotes front).braces - if c = '\x7d' then 1 else 0

namespace WellBraced

variable {spot spot' spot'' : Spot} {s t : List Char}

theorem nil : WellBraced backQuotes indent low spot [] spot := by
  refine ⟨rfl, ?_, ?_⟩
  · intro front c back h
    exact absurd h.symm (List.append_ne_nil_of_right_ne_nil _ (List.cons_ne_nil c back))
  · intro front back h
    exact absurd h.symm (List.append_ne_nil_of_right_ne_nil _ (List.cons_ne_nil _ back))

theorem mono {low' : Int} (h : WellBraced backQuotes indent low spot s spot') (hlow : low' ≤ low) :
    WellBraced backQuotes indent low' spot s spot' :=
  ⟨h.ends, fun front c back hs => Int.le_trans hlow (h.above front c back hs), h.lines⟩

/-- **Layouts are put together like texts.** A line that begins in the first part has its tabs and
its first sign there too. -/
theorem append (hs : WellBraced backQuotes indent low spot s spot')
    (ht : WellBraced backQuotes indent low spot' t spot'') :
    WellBraced backQuotes indent low spot (s ++ t) spot'' := by
  refine ⟨?_, ?_, ?_⟩
  · rw [Spot.read_append, hs.ends, ht.ends]
  · intro front c back h
    rcases append_eq_append_cons h with ⟨between, rfl, hsecond⟩ | ⟨between, hfirst, -⟩
    · rw [Spot.read_append, hs.ends]
      exact ht.above between c back hsecond
    · exact hs.above front c between hfirst
  · intro front back h
    rcases append_eq_append_cons h with ⟨between, rfl, hsecond⟩ | ⟨between, hfirst, rfl⟩
    · rw [Spot.read_append, hs.ends]
      exact ht.lines between back hsecond
    · obtain ⟨tabs, c, rest, rfl, hc, htabs⟩ := hs.lines front between hfirst
      exact ⟨tabs, c, rest ++ t, by rw [List.append_assoc, List.cons_append], hc, htabs⟩

/-- One sign is well braced where enough braces are open, unless it breaks the line. -/
theorem char {c : Char} (hc : c ≠ '\n') (hlow : low ≤ spot.braces) :
    WellBraced backQuotes indent low spot [c] (spot.step backQuotes c) := by
  refine ⟨rfl, ?_, ?_⟩
  · intro front d back h
    rcases List.singleton_eq_append_iff.mp h with ⟨rfl, -⟩ | ⟨-, hnil⟩
    · exact hlow
    · cases hnil
  · intro front back h
    rcases List.singleton_eq_append_iff.mp h with ⟨-, hline⟩ | ⟨-, hnil⟩
    · cases hline
      exact absurd rfl hc
    · cases hnil

theorem cons {c : Char} (hc : c ≠ '\n') (hlow : low ≤ spot.braces)
    (h : WellBraced backQuotes indent low (spot.step backQuotes c) s spot') :
    WellBraced backQuotes indent low spot (c :: s) spot' :=
  (char hc hlow).append h

end WellBraced

/-! ### Code -/

/-- A sign that changes nothing for a reader of code, and breaks no line. -/
def Neutral (backQuotes : Bool) (c : Char) : Prop :=
  c ≠ '\x7b' ∧ c ≠ '\x7d' ∧ c ≠ '"' ∧ c ≠ '\n' ∧ (backQuotes = true → c ≠ '\x60')

instance (backQuotes : Bool) (c : Char) : Decidable (Neutral backQuotes c) :=
  inferInstanceAs (Decidable (c ≠ '\x7b' ∧ c ≠ '\x7d' ∧ c ≠ '"' ∧ c ≠ '\n' ∧
    (backQuotes = true → c ≠ '\x60')))

/-- All signs of a text are neutral, also for a reader that knows back quotes. -/
def Inert (code : String) : Prop := ∀ c ∈ code.toList, Neutral true c

instance (code : String) : Decidable (Inert code) :=
  inferInstanceAs (Decidable (∀ c ∈ code.toList, Neutral true c))

theorem Neutral.of_true {c : Char} (h : Neutral true c) : Neutral backQuotes c :=
  ⟨h.1, h.2.1, h.2.2.1, h.2.2.2.1, fun _ => h.2.2.2.2 rfl⟩

theorem Neutral.step {c : Char} (h : Neutral backQuotes c) (n : Int) :
    Spot.step backQuotes ⟨.code, n⟩ c = ⟨.code, n⟩ := by
  obtain ⟨hopen, hclose, hquote, -, hback⟩ := h
  unfold Spot.step
  dsimp only
  rw [if_neg hquote, if_neg fun hboth => hback hboth.1 hboth.2, if_neg hopen, if_neg hclose]

/-- A text begins with a sign that is neither a tab nor a closing brace. -/
def Starts (code : String) : Prop :=
  code.toList.head?.any (fun c => c != '\t' && c != '\x7d') = true

instance (code : String) : Decidable (Starts code) := inferInstanceAs (Decidable (_ = true))

theorem Starts.append {code : String} (h : Starts code) (more : String) : Starts (code ++ more) := by
  unfold Starts at h ⊢
  rw [String.toList_append]
  cases hcode : code.toList with
  | nil =>
    rw [hcode] at h
    cases h
  | cons c rest =>
    rw [hcode] at h
    exact h

/-! ### Signs of literals -/

/-- Within a literal a sign that stands for itself changes nothing. -/
theorem step_literal {c : Char} (h : StandsForItself c) (n : Int) :
    Spot.step backQuotes ⟨.literal, n⟩ c = ⟨.literal, n⟩ := by
  unfold Spot.step
  dsimp only
  rw [if_neg h.1, if_neg h.2.1]

/-- A sign is quoted as itself, or as a backslash, one sign that is no line break, and others that
stand for themselves. -/
theorem escape_cases (c : Char) :
    (escape c = [c] ∧ StandsForItself c) ∨
      ∃ d rest, escape c = '\\' :: d :: rest ∧ d ≠ '\n' ∧ ∀ e ∈ rest, StandsForItself e := by
  by_cases hc : NeedsEscape c
  · right
    -- besides the quote and the backslash only the first 32 characters are escaped
    have hcontrol : ∀ n < 32, ∀ e ∈ (escape (Char.ofNat n)).tail.tail, StandsForItself e := by
      decide
    have hrest : ∀ e ∈ (escape c).tail.tail, StandsForItself e := by
      rcases hc with rfl | rfl | hlt
      · decide
      · decide
      · rw [← Char.ofNat_toNat c]
        exact hcontrol c.toNat hlt
    obtain ⟨d, form, digits, hescape, hform, -⟩ := exists_escape hc
    have hd : d ≠ '\n' := by
      rintro rfl
      cases hform
    rw [hescape] at hrest
    exact ⟨d, digits, hescape, hd, hrest⟩
  · exact Or.inl ⟨escape_of_not_needsEscape hc, standsForItself_of_not_needsEscape hc⟩

/-! ### Layouts of code -/

namespace WellBraced

variable {n : Int} {depth : Nat} {code : String} {spot : Spot}

theorem neutral {s : List Char} (hlow : low ≤ n) (h : ∀ c ∈ s, Neutral backQuotes c) :
    WellBraced backQuotes indent low ⟨.code, n⟩ s ⟨.code, n⟩ := by
  induction s with
  | nil => exact nil
  | cons c rest ih =>
    obtain ⟨hc, hrest⟩ := List.forall_mem_cons.mp h
    apply cons hc.2.2.2.1 hlow
    rw [hc.step]
    exact ih hrest

theorem inert (hlow : low ≤ n) (h : Inert code) :
    WellBraced backQuotes indent low ⟨.code, n⟩ code.toList ⟨.code, n⟩ :=
  neutral hlow fun c hc => (h c hc).of_true

theorem opening (hlow : low ≤ n) :
    WellBraced backQuotes indent low ⟨.code, n⟩ "\x7b".toList ⟨.code, n + 1⟩ := by
  have hstep : Spot.step backQuotes ⟨.code, n⟩ '\x7b' = ⟨.code, n + 1⟩ := by
    cases backQuotes <;> rfl
  rw [← hstep]
  exact char (by decide) hlow

theorem closing (hlow : low ≤ n) :
    WellBraced backQuotes indent low ⟨.code, n⟩ "\x7d".toList ⟨.code, n - 1⟩ := by
  have hstep : Spot.step backQuotes ⟨.code, n⟩ '\x7d' = ⟨.code, n - 1⟩ := by
    cases backQuotes <;> rfl
  rw [← hstep]
  exact char (by decide) hlow

/-- A text within the code, signs and parts of it in a row. -/
theorem append_code {spot' spot'' : Spot} {first second : String}
    (hfirst : WellBraced backQuotes indent low spot first.toList spot')
    (hsecond : WellBraced backQuotes indent low spot' second.toList spot'') :
    WellBraced backQuotes indent low spot (first ++ second).toList spot'' := by
  rw [String.toList_append]
  exact hfirst.append hsecond

/-! ### Layouts of literals -/

theorem literal {s : List Char} (hlow : low ≤ n) (h : ∀ c ∈ s, StandsForItself c) :
    WellBraced backQuotes indent low ⟨.literal, n⟩ s ⟨.literal, n⟩ := by
  induction s with
  | nil => exact nil
  | cons c rest ih =>
    obtain ⟨hc, hrest⟩ := List.forall_mem_cons.mp h
    apply cons hc.2.2 hlow
    rw [step_literal hc]
    exact ih hrest

theorem escaped (hlow : low ≤ n) (c : Char) :
    WellBraced backQuotes indent low ⟨.literal, n⟩ (escape c) ⟨.literal, n⟩ := by
  rcases escape_cases c with ⟨hsame, hself⟩ | ⟨d, rest, hescape, hd, hrest⟩
  · rw [hsame]
    exact literal hlow (List.forall_mem_singleton.mpr hself)
  · rw [hescape]
    -- behind a backslash any sign brings the reader back into the literal
    exact cons (by decide) hlow (cons hd hlow (literal hlow hrest))

/-- **A quoted text is skipped**, whatever is in it. -/
theorem quote (hlow : low ≤ n) (words : String) :
    WellBraced backQuotes indent low ⟨.code, n⟩ (quote words).toList ⟨.code, n⟩ := by
  have hbody : ∀ s : List Char,
      WellBraced backQuotes indent low ⟨.literal, n⟩ (s.flatMap escape) ⟨.literal, n⟩ := by
    intro s
    induction s with
    | nil => exact nil
    | cons c rest ih => exact (escaped hlow c).append ih
  rw [Text.quote, String.toList_ofList, quoteChars]
  exact cons (by decide) hlow ((hbody words.toList).append (char (by decide) hlow))

/-! ### Layouts of lines -/

/-- A line is well braced if its code is and it has the tabs that it should have. -/
theorem line (hlow : low ≤ n) {c : Char} (hfirst : code.toList.head? = some c) (hc : c ≠ '\t')
    (hdepth : (depth : Int) = indent + n - if c = '\x7d' then 1 else 0)
    (hcode : WellBraced backQuotes indent low ⟨.code, n⟩ code.toList spot) :
    WellBraced backQuotes indent low ⟨.code, n⟩ (line depth code).toList spot := by
  obtain ⟨rest, hrest⟩ := List.head?_eq_some_iff.mp hfirst
  have htab : Neutral backQuotes '\t' := by cases backQuotes <;> decide
  have htabs : WellBraced backQuotes indent low ⟨.code, n⟩ (List.replicate depth '\t')
      ⟨.code, n⟩ := by
    apply neutral hlow
    intro d hd
    rw [List.eq_of_mem_replicate hd]
    exact htab
  have hbehind := htabs.append hcode
  have hbreak : Spot.step backQuotes ⟨.code, n⟩ '\n' = ⟨.code, n⟩ := by cases backQuotes <;> rfl
  have hline : (ProviderGen.line depth code).toList =
      '\n' :: (List.replicate depth '\t' ++ code.toList) := by
    have htext : (tabs depth).toList = List.replicate depth '\t' := String.toList_ofList
    rw [ProviderGen.line, String.toList_append, String.toList_append, htext, List.append_assoc]
    rfl
  rw [hline]
  -- a break comes first, which leaves the reader where it was; the rest is well braced
  refine ⟨?_, ?_, ?_⟩
  · rw [Spot.read_cons, hbreak]
    exact hbehind.ends
  · intro front d back h
    rcases List.cons_eq_append_iff.mp h with ⟨rfl, -⟩ | ⟨front, rfl, hfront⟩
    · exact hlow
    · rw [Spot.read_cons, hbreak]
      exact hbehind.above front d back hfront
  · intro front back h
    rcases List.cons_eq_append_iff.mp h with ⟨rfl, hback⟩ | ⟨front, rfl, hfront⟩
    · rw [List.cons.injEq] at hback
      exact ⟨depth, c, rest, by rw [hback.2, hrest], hc, hdepth⟩
    · rw [Spot.read_cons, hbreak]
      exact hbehind.lines front back hfront

/-- A line of code that begins with no closing brace stands as deep as braces are open. -/
theorem codeLine (hlow : low ≤ n) (hdepth : (depth : Int) = indent + n) (hstarts : Starts code)
    (hcode : WellBraced backQuotes indent low ⟨.code, n⟩ code.toList spot) :
    WellBraced backQuotes indent low ⟨.code, n⟩ (ProviderGen.line depth code).toList spot := by
  unfold Starts at hstarts
  cases hfirst : code.toList.head? with
  | none =>
    rw [hfirst] at hstarts
    cases hstarts
  | some c =>
    rw [hfirst, Option.any_some, Bool.and_eq_true, bne_iff_ne, bne_iff_ne] at hstarts
    obtain ⟨htab, hclose⟩ := hstarts
    apply line hlow hfirst htab _ hcode
    rw [if_neg hclose]
    omega

/-- A line that begins with a closing brace stands as deep as braces are open behind it. -/
theorem closingLine (hlow : low ≤ n) (hdepth : (depth : Int) = indent + n - 1)
    {text tail : String} (htext : text = "\x7d" ++ tail)
    (htail : WellBraced backQuotes indent low ⟨.code, n - 1⟩ tail.toList spot) :
    WellBraced backQuotes indent low ⟨.code, n⟩ (ProviderGen.line depth text).toList spot := by
  have hfirst : text.toList.head? = some '\x7d' := by
    rw [htext, String.toList_append]
    rfl
  apply line hlow hfirst (by decide) hdepth
  rw [htext]
  exact (closing hlow).append_code htail

end WellBraced

end Layout

end ProviderGen
