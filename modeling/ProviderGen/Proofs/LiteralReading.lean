/-
Reading literals in code.

A reader of code comes to the opening quote of a literal and does not know where the literal ends:
it takes one character or one escape after another, and the first quote that no escape has taken
closes the literal. `readLiteral` is such a reader. It finds in a code just the literals that
`Denotes` allows in front of a closing quote (`readLiteral_eq_some_iff`), so what stands at the
front of a code is one literal at most.

A quoted text is read to its end and not beyond, whatever follows it, and the bytes that are read
are those of the text. So nothing in a text can close its literal early or keep it open, and two
texts are never quoted alike.
-/
import ProviderGen.Proofs.CodeLines
import ProviderGen.Proofs.Literals
import ProviderGen.Template.Render

set_option autoImplicit false

namespace ProviderGen.Text

/-! ## A reader -/

/-- What is read of an escape behind its backslash: the bytes that it stands for, and the code
behind its last digit. -/
def readEscape : List Char → Option (List UInt8 × List Char)
  | [] => none
  | c :: rest =>
    (escapeForms.lookup c).bind fun form =>
      if rest.length < form.count then none
      else (form.bytes (rest.take form.count)).map fun bytes => (bytes, rest.drop form.count)

/-- What an escape is, as the reader sees it. -/
theorem readEscape_cons_eq_some_iff {c : Char} {rest after : List Char} {bytes : List UInt8} :
    readEscape (c :: rest) = some (bytes, after) ↔
      ∃ form, escapeForms.lookup c = some form ∧ form.count ≤ rest.length ∧
        form.bytes (rest.take form.count) = some bytes ∧ rest.drop form.count = after := by
  rw [readEscape, Option.bind_eq_some_iff]
  apply exists_congr
  intro form
  by_cases hcount : form.count ≤ rest.length
  · rw [if_neg (by omega)]
    simp [hcount]
  · rw [if_pos (by omega)]
    simp [hcount]

theorem length_lt_of_readEscape {code after : List Char} {bytes : List UInt8}
    (h : readEscape code = some (bytes, after)) : after.length < code.length := by
  cases code with
  | nil => cases h
  | cons c rest =>
    obtain ⟨form, -, -, -, rfl⟩ := readEscape_cons_eq_some_iff.mp h
    rw [List.length_drop, List.length_cons]
    omega

/-- What is read of a literal behind its opening quote: the bytes that it stands for, and the code
behind its closing quote. -/
def readBody : List Char → Option (List UInt8 × List Char)
  | [] => none
  | c :: rest =>
    if c = '"' then some ([], rest)
    else if c = '\n' then none
    else if c = '\\' then
      match h : readEscape rest with
      | none => none
      | some (escaped, more) =>
        have := length_lt_of_readEscape h
        (readBody more).map fun (bytes, after) => (escaped ++ bytes, after)
    else (readBody rest).map fun (bytes, after) => (String.utf8EncodeChar c ++ bytes, after)
termination_by code => code.length

/-- What is read of a literal at the front of a code. -/
def readLiteral : List Char → Option (List UInt8 × List Char)
  | '"' :: rest => readBody rest
  | _ => none

theorem readBody_quote (rest : List Char) : readBody ('"' :: rest) = some ([], rest) := by
  rw [readBody, if_pos rfl]

theorem readBody_of_standsForItself {c : Char} (h : StandsForItself c) (rest : List Char) :
    readBody (c :: rest) =
      (readBody rest).map fun (bytes, after) => (String.utf8EncodeChar c ++ bytes, after) := by
  obtain ⟨hquote, hbackslash, hbreak⟩ := h
  rw [readBody, if_neg hquote, if_neg hbreak, if_neg hbackslash]

theorem readBody_of_readEscape {rest more : List Char} {escaped : List UInt8}
    (h : readEscape rest = some (escaped, more)) :
    readBody ('\\' :: rest) =
      (readBody more).map fun (bytes, after) => (escaped ++ bytes, after) := by
  have hquote : '\\' ≠ '"' := by decide
  have hbreak : '\\' ≠ '\n' := by decide
  rw [readBody, if_neg hquote, if_neg hbreak, if_pos rfl]
  split
  · next hnone =>
    rw [h] at hnone
    cases hnone
  · next hsome =>
    rw [h] at hsome
    cases hsome
    rfl

/-! ## What the reader finds -/

/-- The reader goes to the end of what stands for some bytes. -/
theorem Denotes.readBody_append {body : List Char} {bytes : List UInt8} (h : Denotes body bytes)
    (rest : List Char) : readBody (body ++ '"' :: rest) = some (bytes, rest) := by
  induction h with
  | nil => exact readBody_quote rest
  | char hplain _ ih =>
    rw [List.cons_append, readBody_of_standsForItself hplain, ih]
    rfl
  | @escape c form body escaped bytes hform hcount hescaped _ ih =>
    -- all digits of the escape stand in the body, in front of the closing quote
    have hescape : readEscape (c :: (body ++ '"' :: rest)) =
        some (escaped, body.drop form.count ++ '"' :: rest) := by
      rw [readEscape_cons_eq_some_iff]
      refine ⟨form, hform, ?_, ?_, List.drop_append_of_le_length hcount⟩
      · rw [List.length_append]
        omega
      · rw [List.take_append_of_le_length hcount]
        exact hescaped
    rw [List.cons_append, List.cons_append, readBody_of_readEscape hescape, ih]
    rfl

/-- An escape that is read in front of what stands for some bytes makes it stand for more. -/
theorem exists_denotes_of_readEscape {rest body after : List Char} {escaped bytes : List UInt8}
    (h : readEscape rest = some (escaped, body ++ after)) (hbody : Denotes body bytes) :
    ∃ digits, rest = digits ++ (body ++ after) ∧
      Denotes ('\\' :: (digits ++ body)) (escaped ++ bytes) := by
  cases rest with
  | nil => cases h
  | cons c tail =>
    obtain ⟨form, hform, hcount, hescaped, hafter⟩ := readEscape_cons_eq_some_iff.mp h
    have hdigits : (tail.take form.count).length = form.count := List.length_take_of_le hcount
    refine ⟨c :: tail.take form.count, ?_, ?_⟩
    · rw [List.cons_append, ← hafter, List.take_append_drop]
    rw [List.cons_append]
    refine .escape hform ?_ ?_ ?_
    · rw [List.length_append]
      omega
    · rw [List.take_left' hdigits]
      exact hescaped
    · rw [List.drop_left' hdigits]
      exact hbody

/-- What the reader has read stands for the bytes that it has found. The induction is that of the
reader, which goes on behind a character or behind an escape. -/
theorem exists_denotes_of_readBody {code rest : List Char} {bytes : List UInt8}
    (h : readBody code = some (bytes, rest)) :
    ∃ body, code = body ++ '"' :: rest ∧ Denotes body bytes := by
  induction code using readBody.induct generalizing bytes with
  | case1 =>
    rw [readBody] at h
    cases h
  | case2 tail =>
    rw [readBody_quote] at h
    cases h
    exact ⟨[], rfl, .nil⟩
  | case3 tail hquote =>
    rw [readBody, if_neg hquote, if_pos rfl] at h
    cases h
  | case4 tail hnone hquote hbreak =>
    rw [readBody, if_neg hquote, if_neg hbreak, if_pos rfl] at h
    split at h
    · cases h
    · next hsome =>
      rw [hnone] at hsome
      cases hsome
  | case5 tail escaped more hescape _ _ _ ih =>
    rw [readBody_of_readEscape hescape] at h
    obtain ⟨⟨found, after⟩, hfound, hsame⟩ := Option.map_eq_some_iff.mp h
    cases hsame
    obtain ⟨body, rfl, hbody⟩ := ih hfound
    obtain ⟨digits, rfl, hall⟩ := exists_denotes_of_readEscape hescape hbody
    exact ⟨_, by rw [List.cons_append, List.append_assoc], hall⟩
  | case6 c tail hquote hbreak hbackslash ih =>
    have hplain : StandsForItself c := ⟨hquote, hbackslash, hbreak⟩
    rw [readBody_of_standsForItself hplain] at h
    obtain ⟨⟨found, after⟩, hfound, hsame⟩ := Option.map_eq_some_iff.mp h
    cases hsame
    obtain ⟨body, rfl, hbody⟩ := ih hfound
    exact ⟨c :: body, rfl, .char hplain hbody⟩

/-- **The reader finds what is a literal**: characters and escapes between an opening quote and a
closing one, with what they stand for. -/
theorem readLiteral_eq_some_iff {code rest : List Char} {bytes : List UInt8} :
    readLiteral code = some (bytes, rest) ↔
      ∃ body, code = '"' :: (body ++ '"' :: rest) ∧ Denotes body bytes := by
  constructor
  · intro h
    unfold readLiteral at h
    split at h
    · next tail =>
      obtain ⟨body, htail, hbody⟩ := exists_denotes_of_readBody h
      exact ⟨body, by rw [htail], hbody⟩
    · cases h
  · rintro ⟨body, rfl, hbody⟩
    exact hbody.readBody_append rest

/-! ## Quoted texts -/

/-- A quoted text is read to its end, whatever follows it. -/
theorem readLiteral_quote (s : String) (rest : List Char) :
    readLiteral ((quote s).toList ++ rest) = some (utf8Bytes s, rest) := by
  rw [readLiteral_eq_some_iff]
  refine ⟨s.toList.flatMap escape, ?_, ?_⟩
  · rw [quote, String.toList_ofList, quoteChars, List.cons_append, List.cons_append,
      List.append_assoc, List.singleton_append]
  · rw [utf8Bytes_eq]
    exact denotes_flatMap_escape s.toList

/-- **A quoted text is one literal, and its value is the text.** A reader that comes to it takes it
as a whole and nothing of what follows, and has the bytes of the text. What such a reader takes are
characters that stand for themselves, which quotes, backslashes and line breaks do not, and escapes
of the grammar, up to the closing quote. As a literal a quoted text has the text as its one value,
no line break is in it, and no two texts are quoted alike. Templates quote in the same way. -/
theorem quote_faithful :
    (∀ (s : String) (rest : List Char),
      readLiteral ((quote s).toList ++ rest) = some (utf8Bytes s, rest)) ∧
    (∀ (code rest : List Char) (bytes : List UInt8), readLiteral code = some (bytes, rest) ↔
      ∃ body, code = '"' :: (body ++ '"' :: rest) ∧ Denotes body bytes) ∧
    (∀ s value : String, IsLiteral (quote s) value ↔ value = s) ∧
    (∀ s : String, '\n' ∉ (quote s).toList) ∧
    (∀ s : String, applyFilter "go_string" [] (.string s) = .ok (.string (quote s))) ∧
    Function.Injective quote := by
  refine ⟨readLiteral_quote, fun code rest bytes => readLiteral_eq_some_iff,
    fun s value => isLiteral_quote_iff, newline_not_mem_quote, ?_, ?_⟩
  · intro s
    rw [applyFilter, if_pos rfl]
  · intro a b hquoted
    have hvalue : IsLiteral (quote b) a := hquoted ▸ isLiteral_quote_iff.mpr rfl
    exact isLiteral_quote_iff.mp hvalue

/-- A text that looks like an escape and ends in a backslash is read back as it is. -/
example : readLiteral (quote "\\u0041\\").toList = some (utf8Bytes "\\u0041\\", []) := by
  decide +kernel

end ProviderGen.Text
