/-
What the spellings keep of a text.

A snake spelling is read off its text character by character: a separator leaves at most an
underscore, a capital its lower case, and every other character itself. So, underscores apart,
the characters of the spelling are known from those of the text one by one
(`mem_snakeChars_iff`), and none of them is an ASCII capital.

A Pascal spelling forgets where the words began. It can be undone just where the words show: in a
name whose words all begin with a small ASCII letter and which has no ASCII capital, the capitals
of the Pascal spelling are where the words begin, and `reopen` puts the underscores back. On such
names the Pascal spelling is injective. On others it is not, since `a_1` and `a1` are both
spelled `A1`.
-/
import ProviderGen.Attribute.Record
import ProviderGen.Proofs.Letters

set_option autoImplicit false

namespace ProviderGen.Naming

open ProviderGen.Text

/-! ## Pieces -/

section Pieces

variable {sep : Char}

theorem pieces_ne_nil (sep : Char) (s : List Char) : pieces sep s ≠ [] := by
  cases s with
  | nil => exact List.cons_ne_nil _ _
  | cons c rest =>
    unfold pieces
    split
    · exact List.cons_ne_nil _ _
    · split <;> exact List.cons_ne_nil _ _

theorem pieces_cons_self (s : List Char) : pieces sep (sep :: s) = [] :: pieces sep s := by
  rw [pieces, if_pos rfl]

/-- A character that does not part pieces goes to the first of them. -/
theorem exists_pieces_cons {c : Char} (h : c ≠ sep) (s : List Char) :
    ∃ piece more, pieces sep s = piece :: more ∧ pieces sep (c :: s) = (c :: piece) :: more := by
  obtain ⟨piece, more, hpieces⟩ := List.exists_cons_of_ne_nil (pieces_ne_nil sep s)
  refine ⟨piece, more, hpieces, ?_⟩
  rw [pieces, if_neg h, hpieces]

/-- Two texts that are parted have the pieces of both. -/
theorem pieces_append_sep (s t : List Char) :
    pieces sep (s ++ sep :: t) = pieces sep s ++ pieces sep t := by
  induction s with
  | nil => exact pieces_cons_self t
  | cons c s ih =>
    by_cases h : c = sep
    · subst h
      rw [List.cons_append, pieces_cons_self, pieces_cons_self, ih, List.cons_append]
    · obtain ⟨piece, more, hpieces, hcons⟩ := exists_pieces_cons h s
      rw [hcons, List.cons_append, pieces, if_neg h, ih, hpieces]
      rfl

/-- A text that is not parted is one piece. -/
theorem pieces_of_not_mem {word : List Char} (h : sep ∉ word) : pieces sep word = [word] := by
  induction word with
  | nil => rfl
  | cons c word ih =>
    obtain ⟨hc, hword⟩ := not_or.mp (mt List.mem_cons.mpr h)
    rw [pieces, if_neg (Ne.symm hc), ih hword]

/-- The pieces with what parts them in front of each are the text with it in front. -/
theorem flatMap_cons_pieces (sep : Char) (s : List Char) :
    (pieces sep s).flatMap (fun piece => sep :: piece) = sep :: s := by
  induction s with
  | nil => rfl
  | cons c s ih =>
    by_cases h : c = sep
    · subst h
      rw [pieces_cons_self, List.flatMap_cons, ih, List.cons_append, List.nil_append]
    · obtain ⟨piece, more, hpieces, hcons⟩ := exists_pieces_cons h s
      rw [hpieces, List.flatMap_cons, List.cons_append, List.cons.injEq] at ih
      rw [hcons, List.flatMap_cons, List.cons_append, List.cons_append, ih.2]

/-- The characters of the pieces are those of the text that do not part them. -/
theorem exists_mem_pieces_iff {s : List Char} {c : Char} :
    (∃ piece ∈ pieces sep s, c ∈ piece) ↔ c ∈ s ∧ c ≠ sep := by
  induction s with
  | nil => simp [pieces]
  | cons d s ih =>
    by_cases h : d = sep
    · subst h
      rw [pieces_cons_self, List.exists_mem_cons_iff, ih, List.mem_cons]
      refine ⟨?_, ?_⟩
      · rintro (hnil | hrest)
        · cases hnil
        · exact ⟨Or.inr hrest.1, hrest.2⟩
      · rintro ⟨rfl | hmem, hne⟩
        · exact absurd rfl hne
        · exact Or.inr ⟨hmem, hne⟩
    · obtain ⟨piece, more, hpieces, hcons⟩ := exists_pieces_cons h s
      rw [hpieces, List.exists_mem_cons_iff] at ih
      rw [hcons, List.exists_mem_cons_iff, List.mem_cons, List.mem_cons, or_assoc, ih]
      constructor
      · rintro (rfl | hrest)
        · exact ⟨Or.inl rfl, h⟩
        · exact ⟨Or.inr hrest.1, hrest.2⟩
      · rintro ⟨rfl | hmem, hne⟩
        · exact Or.inl rfl
        · exact Or.inr ⟨hmem, hne⟩

end Pieces

/-! ## Snake case -/

/-- What the snake spelling has for a character that does not part words. -/
def folded (c : Char) : List Char := if isUpper c then lower c else [c]

/-- Within ASCII a capital is written as the small letter 32 codes behind it. -/
theorem folded_of_ascii {c : Char} (h : c.toNat < 128) :
    ∃ d, folded c = [d] ∧ d.toNat = if isAsciiUpper c then c.toNat + 32 else c.toNat := by
  unfold folded isUpper lower
  rw [if_pos h, if_pos h]
  by_cases hupper : isAsciiUpper c = true
  · rw [if_pos hupper]
    exact ⟨_, rfl, asciiLower_toNat c⟩
  · rw [if_neg hupper, if_neg hupper]
    exact ⟨c, rfl, rfl⟩

/-- What parts words comes before the small letters in ASCII. -/
theorem lt_of_isSeparator {c : Char} (h : isSeparator c = true) : c.toNat < 97 := by
  simp only [isSeparator, Bool.or_eq_true, beq_iff_eq] at h
  rcases h with ((rfl | rfl) | rfl) | rfl <;> decide

/-- What stands for a character that does not part words does not part them either. -/
theorem isSeparator_of_mem_folded {c d : Char} (hsep : isSeparator d = false)
    (h : c ∈ folded d) : isSeparator c = false := by
  unfold folded at h
  split at h
  · next hupper =>
    have hcode := le_of_mem_lower hupper h
    rw [Bool.eq_false_iff]
    intro hparts
    have hlt := lt_of_isSeparator hparts
    omega
  · rw [List.mem_singleton.mp h]
    exact hsep

/-- What stands for a character that does not part words is no underscore. -/
theorem ne_underscore_of_mem_folded {c d : Char} (hsep : isSeparator d = false)
    (h : c ∈ folded d) : c ≠ '_' := by
  rintro rfl
  exact absurd (isSeparator_of_mem_folded hsep h) (by decide)

theorem underscore_cons (c : Char) (out : List Char) :
    underscore (c :: out) = if c = '_' then c :: out else '_' :: c :: out :=
  rfl

/-- Underscores apart, no character is added by an underscore. -/
theorem mem_underscore_iff {c : Char} (hc : c ≠ '_') {out : List Char} :
    c ∈ underscore out ↔ c ∈ out := by
  cases out with
  | nil => exact Iff.rfl
  | cons d out =>
    rw [underscore_cons]
    split
    · exact Iff.rfl
    · rw [List.mem_cons, or_iff_right hc]

/-- One step adds what the spelling has for its character. -/
theorem mem_snakeStep_iff {c : Char} (hc : c ≠ '_') (prev : Option Char) {out : List Char}
    {d : Char} :
    c ∈ snakeStep prev out d ↔ c ∈ out ∨ isSeparator d = false ∧ c ∈ folded d := by
  unfold snakeStep folded
  by_cases hsep : isSeparator d = true
  · rw [if_pos hsep, mem_underscore_iff hc]
    simp [hsep]
  · rw [if_neg hsep]
    rw [Bool.not_eq_true] at hsep
    by_cases hupper : isUpper d = true
    · have hout : ∀ starts : Bool, c ∈ (if starts then underscore out else out) ↔ c ∈ out := by
        intro starts
        cases starts
        · exact Iff.rfl
        · exact mem_underscore_iff hc
      rw [if_pos hupper, if_pos hupper, List.mem_append, List.mem_reverse, hout, or_comm]
      simp [hsep]
    · rw [if_neg hupper, if_neg hupper, List.mem_cons, List.mem_singleton, or_comm]
      simp [hsep]

theorem mem_snakeFold_iff {c : Char} (hc : c ≠ '_') {prev : Option Char} {out s : List Char} :
    c ∈ snakeFold prev out s ↔ c ∈ out ∨ ∃ d ∈ s, isSeparator d = false ∧ c ∈ folded d := by
  induction s generalizing prev out with
  | nil => simp [snakeFold]
  | cons d s ih =>
    rw [snakeFold, ih, mem_snakeStep_iff hc, List.exists_mem_cons_iff, or_assoc]

/-- What is dropped from the front of a list are characters to drop. -/
theorem mem_dropWhile_iff {c : Char} {p : Char → Bool} (hc : p c = false) {s : List Char} :
    c ∈ s.dropWhile p ↔ c ∈ s := by
  induction s with
  | nil => exact Iff.rfl
  | cons d s ih =>
    rw [List.dropWhile_cons]
    split
    · next hd =>
      rw [ih, List.mem_cons, or_iff_right]
      rintro rfl
      rw [hc] at hd
      cases hd
    · exact Iff.rfl

/-- **The characters of a snake spelling.** Underscores apart they are the characters of the text
that do not part words, capitals in lower case. -/
theorem mem_snakeChars_iff {c : Char} (hc : c ≠ '_') {s : List Char} :
    c ∈ snakeChars s ↔ ∃ d ∈ s, isSeparator d = false ∧ c ∈ folded d := by
  unfold snakeChars
  rw [List.mem_reverse, mem_dropWhile_iff (by simpa using hc), mem_snakeFold_iff hc]
  simp

/-- Of the characters that part words, a snake spelling has underscores only. -/
theorem isSeparator_of_mem_snakeChars {c : Char} (hc : c ≠ '_') {s : List Char}
    (h : c ∈ snakeChars s) : isSeparator c = false := by
  obtain ⟨d, -, hsep, hfolded⟩ := (mem_snakeChars_iff hc).mp h
  exact isSeparator_of_mem_folded hsep hfolded

/-- A snake spelling has no ASCII capital. -/
theorem isAsciiUpper_of_mem_snakeChars {c : Char} {s : List Char} (h : c ∈ snakeChars s) :
    isAsciiUpper c = false := by
  by_cases hc : c = '_'
  · subst hc
    decide
  · obtain ⟨d, -, -, hfolded⟩ := (mem_snakeChars_iff hc).mp h
    unfold folded at hfolded
    split at hfolded
    · next hupper =>
      have hcode := le_of_mem_lower hupper hfolded
      rw [Bool.eq_false_iff]
      intro hcapital
      have := isAsciiUpper_iff.mp hcapital
      omega
    · next hupper =>
      rw [List.mem_singleton.mp hfolded]
      exact isAsciiUpper_eq_false_of_isUpper (Bool.eq_false_iff.mpr hupper)

theorem forall_mem_snake_isAsciiUpper (s : String) :
    ∀ c ∈ (snake s).toList, isAsciiUpper c = false := by
  intro c hc
  rw [snake, String.toList_ofList] at hc
  exact isAsciiUpper_of_mem_snakeChars hc

theorem forall_mem_resourceName_isAsciiUpper (path : String) :
    ∀ c ∈ (resourceName path).toList, isAsciiUpper c = false := by
  unfold resourceName
  split
  · intro c hc
    rw [String.toList_ofList] at hc
    exact isAsciiUpper_of_mem_snakeChars hc
  · exact List.forall_mem_nil _

/-- A sign before the small letters in ASCII stands in a snake spelling just if it stands in the
text, unless it parts words. -/
theorem mem_snakeChars_iff_of_lt {c : Char} (hcode : c.toNat < 97) (hcapital : isAsciiUpper c = false)
    (hsep : isSeparator c = false) {s : List Char} : c ∈ snakeChars s ↔ c ∈ s := by
  have hc : c ≠ '_' := by
    rintro rfl
    exact absurd hsep (by decide)
  rw [mem_snakeChars_iff hc]
  constructor
  · rintro ⟨d, hd, -, hfolded⟩
    unfold folded at hfolded
    split at hfolded
    · next hupper =>
      have := le_of_mem_lower hupper hfolded
      omega
    · rw [List.mem_singleton.mp hfolded]
      exact hd
  · intro h
    refine ⟨c, h, hsep, ?_⟩
    have hupper : isUpper c = false := by
      unfold isUpper
      rw [if_pos (by omega)]
      exact hcapital
    rw [folded, hupper]
    exact List.mem_singleton.mpr rfl

theorem mem_of_mem_singularChars {c : Char} {s : List Char} (h : c ∈ singularChars s) : c ∈ s := by
  unfold singularChars at h
  split at h
  · exact h
  · split at h
    · next last before front hreverse =>
      split at h
      · rw [← List.mem_reverse, hreverse]
        exact List.mem_cons_of_mem last (List.mem_reverse.mp h)
      · exact h
    · exact h

/-- The name for a path is spelled from what stands between two slashes. -/
theorem slash_not_mem_resourceName (path : String) : '/' ∉ (resourceName path).toList := by
  unfold resourceName
  split
  · next segment hlast =>
    rw [String.toList_ofList,
      mem_snakeChars_iff_of_lt (by decide) (by decide) (by decide)]
    intro h
    have hpiece := (List.mem_filter.mp (List.mem_of_getLast? hlast)).1
    exact (exists_mem_pieces_iff.mp ⟨segment, hpiece, mem_of_mem_singularChars h⟩).2 rfl
  · exact List.not_mem_nil

/-- What all signs but some before the small letters in ASCII have is had by all characters of a
snake spelling just if all characters of the text have it. -/
theorem forall_mem_snake_iff {p : Char → Prop} {s : String}
    (hp : ∀ c, ¬ p c → c.toNat < 97 ∧ isAsciiUpper c = false ∧ isSeparator c = false) :
    (∀ c ∈ (snake s).toList, p c) ↔ ∀ c ∈ s.toList, p c := by
  have hsame : ∀ c, ¬ p c → (c ∈ (snake s).toList ↔ c ∈ s.toList) := by
    intro c hc
    obtain ⟨hcode, hcapital, hsep⟩ := hp c hc
    rw [snake, String.toList_ofList]
    exact mem_snakeChars_iff_of_lt hcode hcapital hsep
  constructor
  · intro h c hmem
    by_contra hc
    exact hc (h c ((hsame c hc).mpr hmem))
  · intro h c hmem
    by_contra hc
    exact hc (h c ((hsame c hc).mp hmem))

/-! ## Pascal case -/

/-- Whether every word of a name begins with a small ASCII letter. -/
def worded (name : String) : Bool :=
  (pieces '_' name.toList).all fun word => word.head?.any isAsciiLower

/-- A character of a Pascal spelling as characters of the name: a capital begins a word. -/
def reopen (c : Char) : List Char := if isAsciiUpper c then ['_', asciiLower c] else [c]

theorem flatMap_reopen_of_forall {s : List Char} (h : ∀ c ∈ s, isAsciiUpper c = false) :
    s.flatMap reopen = s := by
  induction s with
  | nil => rfl
  | cons c s ih =>
    obtain ⟨hc, hs⟩ := List.forall_mem_cons.mp h
    rw [List.flatMap_cons, ih hs, reopen, hc]
    rfl

/-- A word that begins with a small letter comes back from its capitalized form. -/
theorem flatMap_reopen_capitalize {word : List Char} (hhead : word.head?.any isAsciiLower = true)
    (hword : ∀ c ∈ word, isAsciiUpper c = false) :
    (capitalize word).flatMap reopen = '_' :: word := by
  cases word with
  | nil => cases hhead
  | cons c rest =>
    obtain ⟨-, hrest⟩ := List.forall_mem_cons.mp hword
    obtain ⟨d, hupper, hcapital, hback⟩ := upper_of_isAsciiLower (c := c) hhead
    rw [capitalize, hupper, List.singleton_append, List.flatMap_cons,
      flatMap_reopen_of_forall hrest, reopen, if_pos hcapital, hback]
    rfl

/-- **A Pascal spelling can be undone** where the words of the name show. -/
theorem flatMap_reopen_pascalChars {name : String} (hworded : worded name = true)
    (hname : ∀ c ∈ name.toList, isAsciiUpper c = false) :
    (pascalChars name.toList).flatMap reopen = '_' :: name.toList := by
  unfold worded at hworded
  rw [List.all_eq_true] at hworded
  rw [pascalChars, List.flatMap_assoc, ← flatMap_cons_pieces '_' name.toList]
  refine List.flatMap_congr fun word hword => ?_
  refine flatMap_reopen_capitalize (hworded word hword) fun c hc => ?_
  exact hname c (exists_mem_pieces_iff.mp ⟨word, hword, hc⟩).1

/-- Names whose words show are the same if their Pascal spellings are. -/
theorem pascal_inj {a b : String} (ha : worded a = true) (hb : worded b = true)
    (hcapitalsA : ∀ c ∈ a.toList, isAsciiUpper c = false)
    (hcapitalsB : ∀ c ∈ b.toList, isAsciiUpper c = false) : pascal a = pascal b ↔ a = b := by
  constructor
  · intro h
    -- both names are got back from the one spelling
    have hchars := congrArg (fun spelling : String => spelling.toList.flatMap reopen) h
    simp only [pascal, String.toList_ofList] at hchars
    rw [flatMap_reopen_pascalChars ha hcapitalsA, flatMap_reopen_pascalChars hb hcapitalsB,
      List.cons.injEq] at hchars
    exact String.toList_inj.mp hchars.2
  · rintro rfl
    rfl

/-- A name that is worded has a Pascal spelling that begins with a letter. -/
theorem fieldIdentifier_of_worded {name : String} (h : worded name = true) :
    fieldIdentifier name = pascal name := by
  obtain ⟨word, more, hpieces⟩ := List.exists_cons_of_ne_nil (pieces_ne_nil '_' name.toList)
  unfold worded at h
  rw [hpieces, List.all_cons, Bool.and_eq_true] at h
  cases word with
  | nil => cases h.1
  | cons c rest =>
    obtain ⟨d, hupper, hcapital, -⟩ := upper_of_isAsciiLower (c := c) h.1
    have hspelling : (pascal name).toList = d :: (rest ++ more.flatMap capitalize) := by
      rw [pascal, String.toList_ofList, pascalChars, hpieces, List.flatMap_cons, capitalize, hupper]
      rfl
    unfold fieldIdentifier
    dsimp only
    rw [hspelling]
    dsimp only
    rw [isAsciiLetter, hcapital, Bool.true_or, if_pos rfl]

/-- The words of a name with a word in front. -/
theorem pieces_new (name : String) :
    pieces '_' ("new_" ++ name).toList = "new".toList :: pieces '_' name.toList := by
  have hsplit : "new_".toList = "new".toList ++ ['_'] := by decide
  have hnew : '_' ∉ "new".toList := by decide
  rw [String.toList_append, hsplit, List.append_assoc, List.singleton_append, pieces_append_sep,
    pieces_of_not_mem hnew, List.singleton_append]

theorem worded_new (name : String) : worded ("new_" ++ name) = worded name := by
  unfold worded
  rw [pieces_new, List.all_cons]
  exact Bool.true_and _

/-- A word in front of a name stands capitalized in front of its Pascal spelling. -/
theorem pascal_new (name : String) : pascal ("new_" ++ name) = "New" ++ pascal name := by
  rw [← String.toList_inj, String.toList_append]
  simp only [pascal, String.toList_ofList, pascalChars, pieces_new, List.flatMap_cons]
  rfl

/-! ## Classes of characters -/

/-- A class that upper case leaves holds of a Pascal spelling if it holds of the words. -/
theorem forall_mem_pascalChars_iff {p : Char → Prop} {s : List Char}
    (hupper : ∀ c ∈ s, (∀ d ∈ upper c, p d) ↔ p c) :
    (∀ d ∈ pascalChars s, p d) ↔ ∀ c ∈ s, c = '_' ∨ p c := by
  have hword : ∀ word ∈ pieces '_' s, (∀ d ∈ capitalize word, p d) ↔ ∀ c ∈ word, p c := by
    intro word hmem
    cases word with
    | nil => exact Iff.rfl
    | cons c rest =>
      have hc := hupper c (exists_mem_pieces_iff.mp ⟨_, hmem, List.mem_cons_self ..⟩).1
      rw [capitalize, List.forall_mem_append, hc, List.forall_mem_cons]
  calc (∀ d ∈ pascalChars s, p d)
      ↔ ∀ word ∈ pieces '_' s, ∀ d ∈ capitalize word, p d := by
        simp only [pascalChars, List.mem_flatMap]
        grind
    _ ↔ ∀ word ∈ pieces '_' s, ∀ c ∈ word, p c := forall₂_congr hword
    _ ↔ ∀ c, (∃ word ∈ pieces '_' s, c ∈ word) → p c := by grind
    _ ↔ ∀ c ∈ s, c = '_' ∨ p c := by
        simp only [exists_mem_pieces_iff]
        grind

/-- A class that lower case leaves holds of a snake spelling if it holds of the text. -/
theorem forall_mem_snakeChars_iff {p : Char → Prop} {s : List Char}
    (hfolded : ∀ c ∈ s, (∀ d ∈ folded c, p d) ↔ p c) :
    (∀ d ∈ snakeChars s, d = '_' ∨ p d) ↔ ∀ c ∈ s, isSeparator c = true ∨ p c := by
  constructor
  · intro h c hc
    by_cases hsep : isSeparator c = true
    · exact Or.inl hsep
    · rw [Bool.not_eq_true] at hsep
      refine Or.inr ((hfolded c hc).mp fun d hd => ?_)
      have hne := ne_underscore_of_mem_folded hsep hd
      exact (h d ((mem_snakeChars_iff hne).mpr ⟨c, hc, hsep, hd⟩)).resolve_left hne
  · intro h d hd
    by_cases hne : d = '_'
    · exact Or.inl hne
    · obtain ⟨c, hc, hsep, hmem⟩ := (mem_snakeChars_iff hne).mp hd
      have hp := (h c hc).resolve_left (by rw [hsep]; exact Bool.false_ne_true)
      exact Or.inr ((hfolded c hc).mpr hp d hmem)

/-- Within ASCII a Pascal spelling begins with the first character that is no underscore, in upper
case. -/
theorem head?_pascalChars {s : List Char} (hascii : ∀ c ∈ s, c.toNat < 128) :
    (pascalChars s).head? = (s.find? (· != '_')).bind fun c => (upper c).head? := by
  induction s with
  | nil => rfl
  | cons c s ih =>
    obtain ⟨hc, hs⟩ := List.forall_mem_cons.mp hascii
    by_cases h : c = '_'
    · subst h
      rw [pascalChars, pieces_cons_self, List.flatMap_cons]
      exact ih hs
    · obtain ⟨piece, more, -, hcons⟩ := exists_pieces_cons h s
      obtain ⟨d, hupper, -⟩ := upper_of_ascii hc
      rw [pascalChars, hcons, List.flatMap_cons, capitalize, hupper,
        List.find?_cons_of_pos (by simpa using h), Option.bind_some, hupper]
      rfl

end ProviderGen.Naming
