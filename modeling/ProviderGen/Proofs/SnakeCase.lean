/-
The shape of a snake spelling.

The spelling is written from the front to the back and kept with its last character first, so what
has to be shown is shown of that: nowhere do two underscores stand together, and the far end, which
is where the text begins, is no underscore. Every step keeps this, since an underscore is only
written behind something else; what is left for the end is to take off an underscore that nothing
follows.

A text of this shape in which no character is a capital or parts words, underscores apart, is its
own spelling. Within ASCII the spelling of every text is such a text, so to spell it again changes
nothing. Beyond ASCII that is not so: there are capitals without a small letter, which stay.
-/
import ProviderGen.Proofs.Spelling

set_option autoImplicit false

namespace ProviderGen.Text

/-! ## Small letters -/

theorem ne_nil_of_mem_lowerExpansions : ∀ entry ∈ lowerExpansions, entry.2 ≠ [] := by decide

/-- Every character has a lower case. -/
theorem lower_ne_nil (c : Char) : lower c ≠ [] := by
  unfold lower mapCode
  by_cases hascii : c.toNat < 128
  · rw [if_pos hascii]
    exact List.cons_ne_nil _ _
  · rw [if_neg hascii, Ne, List.map_eq_nil_iff]
    split
    · next codes hlookup =>
      exact ne_nil_of_mem_lowerExpansions (c.toNat, codes) (mem_of_lookup hlookup)
    · split <;> exact List.cons_ne_nil _ _

end ProviderGen.Text

namespace ProviderGen.Naming

open ProviderGen.Text

/-! ## Underscores that stand alone -/

/-- The shape of a name: no underscore begins it, none ends it, and no two stand together. -/
structure Tidy (name : List Char) : Prop where
  leading : name.head? ≠ some '_'
  trailing : name.getLast? ≠ some '_'
  doubled : ¬ ['_', '_'] <:+: name

/-- The shape of a text that is being written, its last character first: no two underscores stand
together, and the text does not begin with one. -/
structure Parted (out : List Char) : Prop where
  beginning : out.getLast? ≠ some '_'
  doubled : ¬ ['_', '_'] <:+: out

theorem parted_nil : Parted [] where
  beginning := nofun
  doubled := by decide

/-- A character more makes no pair of underscores unless it is the second one of it. -/
theorem doubled_cons_iff {c : Char} {out : List Char} :
    ['_', '_'] <:+: c :: out ↔ (c = '_' ∧ out.head? = some '_') ∨ ['_', '_'] <:+: out := by
  rw [List.infix_cons_iff, List.cons_prefix_cons, eq_comm]
  refine or_congr_left (and_congr_right' ?_)
  cases out with
  | nil => simp
  | cons d out => simp [List.cons_prefix_cons, eq_comm]

theorem Parted.cons {c : Char} {out : List Char} (h : Parted out)
    (hc : c = '_' → out ≠ [] ∧ out.head? ≠ some '_') : Parted (c :: out) where
  beginning := by
    rw [List.getLast?_cons]
    cases hlast : out.getLast? with
    | none =>
      -- the character is all there is
      rw [Option.getD_none, Ne, Option.some.injEq]
      intro hunderscore
      exact (hc hunderscore).1 (List.getLast?_eq_none_iff.mp hlast)
    | some d =>
      rw [Option.getD_some, ← hlast]
      exact h.beginning
  doubled := by
    rw [doubled_cons_iff]
    rintro (⟨hunderscore, hhead⟩ | hinside)
    · exact (hc hunderscore).2 hhead
    · exact h.doubled hinside

/-- An underscore is only written behind something else. -/
theorem Parted.underscore {out : List Char} (h : Parted out) : Parted (underscore out) := by
  cases out with
  | nil => exact parted_nil
  | cons c out =>
    rw [underscore_cons]
    by_cases hc : c = '_'
    · rw [if_pos hc]
      exact h
    · rw [if_neg hc]
      refine h.cons fun _ => ⟨List.cons_ne_nil _ _, ?_⟩
      rw [List.head?_cons, Ne, Option.some.injEq]
      exact hc

/-- Characters other than underscores can be written anywhere. -/
theorem Parted.append {word out : List Char} (hword : ∀ c ∈ word, c ≠ '_') (h : Parted out) :
    Parted (word ++ out) := by
  induction word with
  | nil => exact h
  | cons c word ih =>
    obtain ⟨hc, hrest⟩ := List.forall_mem_cons.mp hword
    exact (ih hrest).cons fun hunderscore => absurd hunderscore hc

/-! ## Spelling a text -/

/-- One step of the spelling keeps the shape. -/
theorem Parted.snakeStep {out : List Char} (h : Parted out) (prev : Option Char) (c : Char) :
    Parted (snakeStep prev out c) := by
  unfold Naming.snakeStep
  by_cases hsep : isSeparator c = true
  · rw [if_pos hsep]
    exact h.underscore
  · rw [if_neg hsep]
    have hfolded : ∀ d ∈ folded c, d ≠ '_' := fun d hd =>
      ne_underscore_of_mem_folded (Bool.eq_false_iff.mpr hsep) hd
    unfold folded at hfolded
    by_cases hupper : isUpper c = true
    · rw [if_pos hupper] at hfolded ⊢
      refine Parted.append (fun d hd => hfolded d (List.mem_reverse.mp hd)) ?_
      split
      · split
        · exact h.underscore
        · exact h
      · exact h
    · rw [if_neg hupper] at hfolded ⊢
      exact Parted.append hfolded h

/-- A run of the spelling keeps the shape. -/
theorem Parted.snakeFold {prev : Option Char} {out : List Char} (h : Parted out)
    (s : List Char) : Parted (snakeFold prev out s) := by
  induction s generalizing prev out with
  | nil => exact h
  | cons c s ih => exact ih (h.snakeStep prev c)

/-- **A snake spelling is tidy.** -/
theorem tidy_snakeChars (s : List Char) : Tidy (snakeChars s) := by
  have hparted : Parted (snakeFold none [] s) := parted_nil.snakeFold s
  unfold snakeChars
  generalize snakeFold none [] s = out at hparted
  have hsuffix : out.dropWhile (· == '_') <:+ out := List.dropWhile_suffix _
  constructor
  · -- the far end is that of the text before the underscore was taken off
    rw [List.head?_reverse]
    intro hhead
    obtain ⟨front, hfront⟩ := hsuffix
    apply hparted.beginning
    rw [← hfront, List.getLast?_append, hhead]
    rfl
  · rw [List.getLast?_reverse]
    intro hlast
    have hnot := List.head?_dropWhile_not (· == '_') out
    rw [hlast] at hnot
    cases hnot
  · intro hdoubled
    apply hparted.doubled
    have hreverse : ['_', '_'].reverse <:+: (out.dropWhile (· == '_')).reverse := hdoubled
    exact (List.reverse_infix.mp hreverse).trans hsuffix.isInfix

/-! ## Where words begin -/

/-- A character that does not part words is written. -/
theorem snakeStep_ne_nil {c : Char} (hsep : isSeparator c = false) (prev : Option Char)
    (out : List Char) : snakeStep prev out c ≠ [] := by
  unfold snakeStep
  rw [hsep, if_neg Bool.false_ne_true]
  by_cases hupper : isUpper c = true
  · rw [if_pos hupper]
    intro hnil
    exact lower_ne_nil c (List.reverse_eq_nil_iff.mp (List.append_eq_nil_iff.mp hnil).1)
  · rw [if_neg hupper]
    exact List.cons_ne_nil c out

theorem snakeFold_append_singleton (prev : Option Char) (out s : List Char) (c : Char) :
    ∃ before, snakeFold prev out (s ++ [c]) = snakeStep before (snakeFold prev out s) c := by
  induction s generalizing prev out with
  | nil => exact ⟨prev, rfl⟩
  | cons d s ih => exact ih (some d) (snakeStep prev out d)

/-- Where a capital begins a word because a small letter or a digit comes before it, there is a
text before it already. So the underscore of the word never opens the name. -/
theorem snakeFold_ne_nil {s : List Char} {p : Char} (hlast : s.getLast? = some p)
    (hp : isLower p = true ∨ isAsciiDigit p = true) : snakeFold none [] s ≠ [] := by
  obtain ⟨front, rfl⟩ := List.getLast?_eq_some_iff.mp hlast
  have hsep : isSeparator p = false := by
    rw [Bool.eq_false_iff]
    intro hsep
    simp only [isSeparator, Bool.or_eq_true, beq_iff_eq] at hsep
    rcases hsep with ((rfl | rfl) | rfl) | rfl <;> revert hp <;> decide
  obtain ⟨before, hstep⟩ := snakeFold_append_singleton none [] front p
  rw [hstep]
  exact snakeStep_ne_nil hsep before _

/-! ## Spelling a spelling -/

/-- Spelling adds a text as it is, if what comes out has the shape of one that is being written and
no character of the text is folded. -/
theorem snakeFold_eq_append {prev : Option Char} {out s : List Char}
    (hplain : ∀ c ∈ s, c = '_' ∨ isSeparator c = false ∧ isUpper c = false)
    (h : Parted (s.reverse ++ out)) : snakeFold prev out s = s.reverse ++ out := by
  induction s generalizing prev out with
  | nil => rfl
  | cons c s ih =>
    obtain ⟨hc, hrest⟩ := List.forall_mem_cons.mp hplain
    rw [List.reverse_cons, List.append_assoc, List.singleton_append] at h ⊢
    have hstep : snakeStep prev out c = c :: out := by
      unfold snakeStep
      rcases hc with rfl | ⟨hsep, hupper⟩
      · -- there is something before the underscore, and it is no underscore
        rw [if_pos (by decide : isSeparator '_' = true)]
        cases out with
        | nil =>
          exact absurd (by rw [List.getLast?_append]; rfl) h.beginning
        | cons d out =>
          rw [underscore_cons, if_neg]
          rintro rfl
          exact h.doubled ⟨s.reverse, out, by simp⟩
      · rw [hsep, hupper, if_neg Bool.false_ne_true, if_neg Bool.false_ne_true]
    rw [snakeFold, hstep]
    exact ih hrest h

/-- A tidy text without capitals and without other signs that part words is its own spelling. -/
theorem snakeChars_eq_self {s : List Char} (h : Tidy s)
    (hplain : ∀ c ∈ s, c = '_' ∨ isSeparator c = false ∧ isUpper c = false) :
    snakeChars s = s := by
  have hparted : Parted (s.reverse ++ []) := by
    rw [List.append_nil]
    constructor
    · rw [List.getLast?_reverse]
      exact h.leading
    · intro hdoubled
      have hreverse : ['_', '_'].reverse <:+: s.reverse := hdoubled
      exact h.doubled (List.reverse_infix.mp hreverse)
  unfold snakeChars
  rw [snakeFold_eq_append hplain hparted, List.append_nil]
  cases hreverse : s.reverse with
  | nil =>
    obtain rfl := List.reverse_eq_nil_iff.mp hreverse
    rfl
  | cons c front =>
    have hc : c ≠ '_' := by
      rintro rfl
      apply h.trailing
      rw [← List.head?_reverse, hreverse]
      rfl
    rw [List.dropWhile_cons_of_neg (by simpa using hc), ← hreverse, List.reverse_reverse]

/-- To spell a spelling again changes nothing, if no capital is left in it. -/
theorem snakeChars_idem {s : List Char} (h : ∀ c ∈ snakeChars s, isUpper c = false) :
    snakeChars (snakeChars s) = snakeChars s := by
  apply snakeChars_eq_self (tidy_snakeChars s)
  intro c hc
  by_cases hunderscore : c = '_'
  · exact Or.inl hunderscore
  · exact Or.inr ⟨isSeparator_of_mem_snakeChars hunderscore hc, h c hc⟩

/-- No capital is left in the spelling of an ASCII text. -/
theorem isUpper_of_mem_snakeChars {s : List Char} (hascii : ∀ c ∈ s, c.toNat < 128) {c : Char}
    (hc : c ∈ snakeChars s) : isUpper c = false := by
  have hcode : c.toNat < 128 := by
    by_cases hunderscore : c = '_'
    · rw [hunderscore]
      decide
    · obtain ⟨d, hd, -, hfolded⟩ := (mem_snakeChars_iff hunderscore).mp hc
      obtain ⟨e, he, hlow⟩ := folded_of_ascii (hascii d hd)
      rw [he, List.mem_singleton] at hfolded
      have hd' := hascii d hd
      rw [hfolded, hlow]
      split
      · next hupper =>
        have := isAsciiUpper_iff.mp hupper
        omega
      · exact hd'
  rw [isUpper, if_pos hcode]
  exact isAsciiUpper_of_mem_snakeChars hc

/-! ## The main statement -/

/-- **Spelling brings a text into a normal form.** A snake spelling does not begin or end with an
underscore and has no two together; it has no hyphen, blank, dot or ASCII capital, and a slash just
if the text has one. The spelling of an ASCII text is its own spelling. -/
theorem snake_normal (s : String) :
    Tidy (snake s).toList ∧
      (∀ c ∈ (snake s).toList, c ≠ '-' ∧ c ≠ ' ' ∧ c ≠ '.' ∧ ¬ ('A' ≤ c ∧ c ≤ 'Z')) ∧
      ('/' ∈ (snake s).toList ↔ '/' ∈ s.toList) ∧
      ((∀ c ∈ s.toList, c.toNat < 128) → snake (snake s) = snake s) := by
  unfold snake
  rw [String.toList_ofList]
  refine ⟨tidy_snakeChars s.toList, ?_, ?_, ?_⟩
  · intro c hc
    have hcapital : ¬ ('A' ≤ c ∧ c ≤ 'Z') := by
      have := isAsciiUpper_of_mem_snakeChars hc
      simpa [isAsciiUpper] using this
    by_cases hunderscore : c = '_'
    · subst hunderscore
      exact ⟨by decide, by decide, by decide, hcapital⟩
    · have hsep := isSeparator_of_mem_snakeChars hunderscore hc
      refine ⟨?_, ?_, ?_, hcapital⟩ <;> rintro rfl <;> revert hsep <;> decide
  · exact mem_snakeChars_iff_of_lt (by decide) (by decide) (by decide)
  · intro hascii
    rw [snakeChars_idem fun c hc => isUpper_of_mem_snakeChars hascii hc]

/-- A key with all that is taken out of a name or changed in it. -/
theorem snake_normal_key :
    snake "-APIKey.v2  Token_/x" = "apikey_v2_token_/x" ∧
      snake (snake "-APIKey.v2  Token_/x") = snake "-APIKey.v2  Token_/x" :=
  ⟨by decide, (snake_normal "-APIKey.v2  Token_/x").2.2.2 (by decide)⟩

-- Beyond ASCII it need not be so: the bold capital has no small letter, and what is before it is a
-- capital in the text and a small letter in the spelling.
example : snake "B𝐀" = "b𝐀" ∧ snake "b𝐀" = "b_𝐀" := by decide +kernel

end ProviderGen.Naming
