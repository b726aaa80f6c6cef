/-
Interpreted string literals of Go.

Between the quotes of a literal every character stands for its bytes, except that a quote or a
line break may not stand there and that a backslash begins an escape. The character after the
backslash tells how the escape goes on: it stands for a character, or so many digits follow that
write a byte or the code of a character. `Denotes` says which bytes a body stands for; they are
determined by the body.

Quoting escapes what it must, so a quoted text is a literal of that text. A text that is put
between quotes as it is can only be one if it has none of the three characters: an escape stands
for fewer bytes than it has, so with a backslash too few bytes come out.
-/
import ProviderGen.Json.Parser
import ProviderGen.Proofs.ByteOrder
import ProviderGen.Proofs.Results

set_option autoImplicit false

namespace ProviderGen.Text

/-! ## Escapes -/

/-- How an escape goes on after its first character. -/
inductive EscapeForm where
  /-- It ends there and stands for a character. -/
  | sign (c : Char)
  /-- Digits follow; their number, counted from a start, is a byte. -/
  | byte (base count start : Nat)
  /-- Hexadecimal digits follow; their number is the code of a character. -/
  | code (count : Nat)

/-- The escapes, by the character after the backslash. Three octal digits write a byte, so the
first of them is at most three. -/
def escapeForms : List (Char × EscapeForm) :=
  [('a', .sign '\x07'), ('b', .sign '\x08'), ('f', .sign '\x0c'), ('n', .sign '\n'),
   ('r', .sign '\r'), ('t', .sign '\t'), ('v', .sign '\x0b'), ('\\', .sign '\\'), ('"', .sign '"'),
   ('0', .byte 8 2 0), ('1', .byte 8 2 64), ('2', .byte 8 2 128), ('3', .byte 8 2 192),
   ('x', .byte 16 2 0), ('u', .code 4), ('U', .code 8)]

/-- The number that digits write in a base. -/
def numberIn (base : Nat) (digits : List Char) : Option Nat :=
  digits.foldlM
    (fun n c => (Json.hexValue c).bind fun d => if d < base then some (n * base + d) else none) 0

namespace EscapeForm

/-- How many characters follow the first one. -/
def count : EscapeForm → Nat
  | sign _ => 0
  | byte _ count _ => count
  | code count => count

/-- The bytes that an escape stands for, given the characters that follow the first one. -/
def bytes (digits : List Char) : EscapeForm → Option (List UInt8)
  | sign c => some (String.utf8EncodeChar c)
  | byte base _ start => (numberIn base digits).map fun n => [UInt8.ofNat (start + n)]
  | code _ =>
    (numberIn 16 digits).bind fun n =>
      if n.isValidChar then some (String.utf8EncodeChar (Char.ofNat n)) else none

/-- How many bytes an escape stands for at most. -/
def room : EscapeForm → Nat
  | sign c => c.utf8Size
  | byte _ _ _ => 1
  | code _ => 4

theorem length_bytes_le {form : EscapeForm} {digits : List Char} {bytes : List UInt8}
    (h : form.bytes digits = some bytes) : bytes.length ≤ form.room := by
  cases form with
  | sign c =>
    obtain rfl := Option.some.inj h
    exact Nat.le_of_eq (String.length_utf8EncodeChar c)
  | byte base count start =>
    obtain ⟨n, -, rfl⟩ := Option.map_eq_some_iff.mp h
    exact Nat.le_refl 1
  | code count =>
    obtain ⟨n, -, hn⟩ := Option.bind_eq_some_iff.mp h
    obtain ⟨-, hbytes⟩ := Option.ite_none_right_eq_some.mp hn
    obtain rfl := Option.some.inj hbytes
    rw [String.length_utf8EncodeChar]
    exact Char.utf8Size_le_four _

/-- With its backslash, an escape is longer than what it stands for. -/
theorem room_le_of_mem : ∀ entry ∈ escapeForms, entry.2.room ≤ entry.2.count + 1 := by decide

end EscapeForm

/-! ## Literals -/

/-- A character that stands for itself within a literal. -/
def StandsForItself (c : Char) : Prop := c ≠ '"' ∧ c ≠ '\\' ∧ c ≠ '\n'

instance (c : Char) : Decidable (StandsForItself c) :=
  inferInstanceAs (Decidable (c ≠ '"' ∧ c ≠ '\\' ∧ c ≠ '\n'))

/-- What is written between the quotes of a literal stands for some bytes. -/
inductive Denotes : List Char → List UInt8 → Prop
  | nil : Denotes [] []
  | char {c : Char} {body : List Char} {bytes : List UInt8} : StandsForItself c →
      Denotes body bytes → Denotes (c :: body) (String.utf8EncodeChar c ++ bytes)
  | escape {c : Char} {form : EscapeForm} {body : List Char} {escaped bytes : List UInt8} :
      escapeForms.lookup c = some form → form.count ≤ body.length →
      form.bytes (body.take form.count) = some escaped →
      Denotes (body.drop form.count) bytes → Denotes ('\\' :: c :: body) (escaped ++ bytes)

/-- A text is a literal whose value is another text. -/
def IsLiteral (text value : String) : Prop :=
  ∃ body, text.toList = '"' :: (body ++ ['"']) ∧ Denotes body (utf8Bytes value)

/-- A body stands for its bytes alone. -/
theorem Denotes.unique {body : List Char} {bytes bytes' : List UInt8} (h : Denotes body bytes)
    (h' : Denotes body bytes') : bytes = bytes' := by
  induction h generalizing bytes' with
  | nil => cases h'; rfl
  | char hplain _ ih =>
    cases h' with
    | char _ hrest => rw [ih hrest]
    | escape => exact absurd rfl hplain.2.1
  | escape hform _ hescaped _ ih =>
    cases h' with
    | char hplain _ => exact absurd rfl hplain.2.1
    | escape hform' _ hescaped' hrest =>
      obtain rfl := Option.some.inj (hform.symm.trans hform')
      rw [Option.some.inj (hescaped.symm.trans hescaped'), ih hrest]

theorem utf8Bytes_inj {a b : String} (h : utf8Bytes a = utf8Bytes b) : a = b := by
  refine String.le_antisymm (String.not_lt.mp fun hlt => ?_) (String.not_lt.mp fun hlt => ?_)
  · exact List.lt_irrefl _ (h ▸ utf8Bytes_lt_iff.mpr hlt)
  · exact List.lt_irrefl _ (h ▸ utf8Bytes_lt_iff.mpr hlt)

/-- A literal has one value. -/
theorem IsLiteral.unique {text a b : String} (ha : IsLiteral text a) (hb : IsLiteral text b) :
    a = b := by
  obtain ⟨body, htext, hdenotes⟩ := ha
  obtain ⟨body', htext', hdenotes'⟩ := hb
  rw [htext, List.cons_inj_right, List.append_cancel_right_eq] at htext'
  subst htext'
  exact utf8Bytes_inj (hdenotes.unique hdenotes')

/-! ## Quoted texts -/

/-- A character that cannot be written as it is. -/
def NeedsEscape (c : Char) : Prop := c = '"' ∨ c = '\\' ∨ c.toNat < 32

instance (c : Char) : Decidable (NeedsEscape c) :=
  inferInstanceAs (Decidable (c = '"' ∨ c = '\\' ∨ c.toNat < 32))

/-- Whether a text is an escape that stands for a character. -/
def isEscapeOf (c : Char) : List Char → Bool
  | '\\' :: d :: digits =>
    match escapeForms.lookup d with
    | some form =>
      form.count == digits.length && form.bytes digits == some (String.utf8EncodeChar c)
    | none => false
  | _ => false

theorem isEscapeOf_escape_of_lt :
    ∀ n < 32, isEscapeOf (Char.ofNat n) (escape (Char.ofNat n)) = true := by decide

/-- What needs an escape is written as one that stands for it. -/
theorem exists_escape {c : Char} (h : NeedsEscape c) :
    ∃ d form digits, escape c = '\\' :: d :: digits ∧ escapeForms.lookup d = some form ∧
      form.count = digits.length ∧ form.bytes digits = some (String.utf8EncodeChar c) := by
  have hescape : isEscapeOf c (escape c) = true := by
    rcases h with rfl | rfl | hcontrol
    · decide
    · decide
    · rw [← Char.ofNat_toNat c]
      exact isEscapeOf_escape_of_lt c.toNat hcontrol
  unfold isEscapeOf at hescape
  split at hescape
  · next d digits hwritten =>
    split at hescape
    · next form hform =>
      rw [Bool.and_eq_true, beq_iff_eq, beq_iff_eq] at hescape
      exact ⟨d, form, digits, hwritten, hform, hescape⟩
    · cases hescape
  · cases hescape

/-- What needs no escape is written as it is. -/
theorem escape_of_not_needsEscape {c : Char} (h : ¬ NeedsEscape c) : escape c = [c] := by
  unfold NeedsEscape at h
  rw [not_or, not_or] at h
  obtain ⟨hquote, hbackslash, hcode⟩ := h
  unfold escape
  rw [if_neg hquote, if_neg hbackslash, if_neg (by omega), if_neg (by omega), if_neg (by omega),
    if_neg (by omega), if_neg (by omega), if_neg hcode]

theorem standsForItself_of_not_needsEscape {c : Char} (h : ¬ NeedsEscape c) :
    StandsForItself c := by
  unfold NeedsEscape at h
  rw [not_or, not_or] at h
  refine ⟨h.1, h.2.1, ?_⟩
  rintro rfl
  exact h.2.2 (by decide)

/-- Quoting keeps what is written: the body of a quoted text stands for the text. -/
theorem denotes_flatMap_escape (s : List Char) :
    Denotes (s.flatMap escape) (s.flatMap String.utf8EncodeChar) := by
  induction s with
  | nil => exact .nil
  | cons c s ih =>
    rw [List.flatMap_cons, List.flatMap_cons]
    by_cases hc : NeedsEscape c
    · obtain ⟨d, form, digits, hescape, hform, hcount, hbytes⟩ := exists_escape hc
      rw [hescape, List.cons_append, List.cons_append]
      refine .escape hform ?_ ?_ ?_
      · rw [hcount, List.length_append]
        exact Nat.le_add_right ..
      · rw [hcount, List.take_left]
        exact hbytes
      · rw [hcount, List.drop_left]
        exact ih
    · rw [escape_of_not_needsEscape hc]
      exact .char (standsForItself_of_not_needsEscape hc) ih

/-- **A quoted text is a literal of that text**, and of no other. -/
theorem isLiteral_quote_iff {s value : String} : IsLiteral (quote s) value ↔ value = s := by
  have hquote : IsLiteral (quote s) s :=
    ⟨s.toList.flatMap escape, by rw [quote, String.toList_ofList, quoteChars, List.cons_append],
      by rw [utf8Bytes_eq]; exact denotes_flatMap_escape s.toList⟩
  constructor
  · intro h
    exact h.unique hquote
  · rintro rfl
    exact hquote

/-! ## Texts between quotes -/

/-- A text between quotes, as it is. -/
def enclose (s : String) : String := "\"" ++ s ++ "\""

theorem toList_enclose (s : String) : (enclose s).toList = '"' :: (s.toList ++ ['"']) := by
  rw [enclose, String.toList_append, String.toList_append]
  rfl

/-- A body without a backslash has neither quotes nor line breaks. -/
theorem Denotes.standsForItself {body : List Char} {bytes : List UInt8} (h : Denotes body bytes)
    (hbackslash : '\\' ∉ body) : ∀ c ∈ body, StandsForItself c := by
  induction h with
  | nil => exact List.forall_mem_nil _
  | char hplain _ ih =>
    rw [List.mem_cons, not_or] at hbackslash
    exact List.forall_mem_cons.mpr ⟨hplain, ih hbackslash.2⟩
  | escape => exact absurd (List.mem_cons_self ..) hbackslash

theorem length_le_flatMap_utf8EncodeChar (s : List Char) :
    s.length ≤ (s.flatMap String.utf8EncodeChar).length := by
  induction s with
  | nil => exact Nat.le_refl 0
  | cons c s ih =>
    have hfirst := c.utf8Size_pos
    rw [List.length_cons, List.flatMap_cons, List.length_append, String.length_utf8EncodeChar]
    omega

/-- A body stands for at most as many bytes as it has, and for fewer if it has an escape. -/
theorem Denotes.length_le {body : List Char} {bytes : List UInt8} (h : Denotes body bytes) :
    bytes.length ≤ (body.flatMap String.utf8EncodeChar).length ∧
      ('\\' ∈ body → bytes.length < (body.flatMap String.utf8EncodeChar).length) := by
  induction h with
  | nil => simp
  | @char c body bytes hplain _ ih =>
    rw [List.flatMap_cons, List.length_append, List.length_append, List.mem_cons,
      or_iff_right (Ne.symm hplain.2.1)]
    exact ⟨Nat.add_le_add_left ih.1 _, fun hmem => Nat.add_lt_add_left (ih.2 hmem) _⟩
  | @escape c form body escaped bytes hform hcount hescaped _ ih =>
    suffices hlt : (escaped ++ bytes).length <
        (('\\' :: c :: body).flatMap String.utf8EncodeChar).length from
      ⟨Nat.le_of_lt hlt, fun _ => hlt⟩
    -- the backslash makes the escape longer than what it stands for
    have hroom : form.room ≤ form.count + 1 := EscapeForm.room_le_of_mem _ (mem_of_lookup hform)
    have hlength := EscapeForm.length_bytes_le hescaped
    have hdigits := length_le_flatMap_utf8EncodeChar (body.take form.count)
    rw [List.length_take_of_le hcount] at hdigits
    have hsplit : (body.flatMap String.utf8EncodeChar).length =
        ((body.take form.count).flatMap String.utf8EncodeChar).length +
          ((body.drop form.count).flatMap String.utf8EncodeChar).length := by
      rw [← List.length_append, ← List.flatMap_append, List.take_append_drop]
    have hbackslash : ('\\' : Char).utf8Size = 1 := rfl
    have hfirst := c.utf8Size_pos
    simp only [List.flatMap_cons, List.length_append, String.length_utf8EncodeChar]
    omega

/-- **A text between quotes is a literal of itself** just if every character stands for itself. -/
theorem isLiteral_enclose_iff {s : String} :
    IsLiteral (enclose s) s ↔ ∀ c ∈ s.toList, StandsForItself c := by
  have hbody : IsLiteral (enclose s) s ↔
      Denotes s.toList (s.toList.flatMap String.utf8EncodeChar) := by
    unfold IsLiteral
    rw [toList_enclose, utf8Bytes_eq]
    constructor
    · rintro ⟨body, htext, hdenotes⟩
      rw [List.cons_inj_right, List.append_cancel_right_eq] at htext
      subst htext
      exact hdenotes
    · intro hdenotes
      exact ⟨s.toList, rfl, hdenotes⟩
  rw [hbody]
  constructor
  · intro h
    -- with a backslash the body would stand for fewer bytes than it has
    refine h.standsForItself fun hbackslash => ?_
    have hlt := h.length_le.2 hbackslash
    exact Nat.lt_irrefl _ hlt
  · generalize s.toList = body
    intro h
    induction body with
    | nil => exact .nil
    | cons c body ih =>
      obtain ⟨hc, hrest⟩ := List.forall_mem_cons.mp h
      exact .char hc (ih hrest)

/-- A text between quotes that has a quote in it and no backslash is no literal at all. -/
theorem not_isLiteral_enclose {s : String} (hquote : '"' ∈ s.toList) (hbackslash : '\\' ∉ s.toList)
    (value : String) : ¬ IsLiteral (enclose s) value := by
  rintro ⟨body, htext, hdenotes⟩
  rw [toList_enclose, List.cons_inj_right, List.append_cancel_right_eq] at htext
  subst htext
  exact (hdenotes.standsForItself hbackslash _ hquote).1 rfl

/-! ## Texts that need no escape -/

/-- An escape has at least two characters. -/
theorem length_escape (c : Char) :
    1 ≤ (escape c).length ∧ (NeedsEscape c → 2 ≤ (escape c).length) := by
  by_cases hc : NeedsEscape c
  · obtain ⟨d, form, digits, hescape, -⟩ := exists_escape hc
    rw [hescape, List.length_cons, List.length_cons]
    omega
  · rw [escape_of_not_needsEscape hc]
    exact ⟨Nat.le_refl 1, fun h => absurd h hc⟩

theorem length_le_flatMap_escape (s : List Char) : s.length ≤ (s.flatMap escape).length := by
  induction s with
  | nil => exact Nat.le_refl 0
  | cons c s ih =>
    rw [List.flatMap_cons, List.length_append, List.length_cons]
    have := (length_escape c).1
    omega

theorem flatMap_escape_eq_self_iff {s : List Char} :
    s.flatMap escape = s ↔ ∀ c ∈ s, ¬ NeedsEscape c := by
  induction s with
  | nil => simp
  | cons c s ih =>
    rw [List.flatMap_cons, List.forall_mem_cons]
    by_cases hc : NeedsEscape c
    · -- an escape makes the text longer
      refine iff_of_false (fun hsame => ?_) fun hnone => hnone.1 hc
      have hlength := congrArg List.length hsame
      rw [List.length_append, List.length_cons] at hlength
      have hfirst := (length_escape c).2 hc
      have hrest := length_le_flatMap_escape s
      omega
    · rw [escape_of_not_needsEscape hc, List.singleton_append, List.cons_inj_right, ih]
      exact (and_iff_right hc).symm

/-- **Quoting is putting between quotes** just if no character needs an escape. -/
theorem enclose_eq_quote_iff {s : String} :
    enclose s = quote s ↔ ∀ c ∈ s.toList, ¬ NeedsEscape c := by
  rw [← flatMap_escape_eq_self_iff, ← String.toList_inj, toList_enclose, quote,
    String.toList_ofList, quoteChars, List.cons_append, List.cons_inj_right,
    List.append_cancel_right_eq]
  exact eq_comm

end ProviderGen.Text
