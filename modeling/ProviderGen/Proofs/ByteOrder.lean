/-
The order of texts and the order of their bytes.

Texts are compared character by character. UTF-8 is made so that it comes to the same
to compare their bytes: of two characters the greater one has, at the first place where
their bytes differ, the greater byte, and no character's bytes begin another's.
-/
import Mathlib.Data.List.Basic

set_option autoImplicit false

namespace ProviderGen.Text

/-! ## Bytes -/

/-- The bytes that write a text in UTF-8. -/
def utf8Bytes (text : String) : List UInt8 := text.toUTF8.data.toList

/-- The bytes of a text are those of its characters, one after another. -/
theorem utf8Bytes_eq (text : String) :
    utf8Bytes text = text.toList.flatMap String.utf8EncodeChar := by
  unfold utf8Bytes
  rw [String.toUTF8_eq_toByteArray, ← String.utf8Encode_toList, List.utf8Encode,
    List.data_toByteArray]

/-! ## Characters -/

/-- A list of bytes is less than another if its first byte is no greater and, where the first
bytes are the same, its rest is less. -/
theorem ofNat_cons_lt {m n : Nat} {rest rest' : List UInt8} (hle : m ≤ n) (hn : n < 256)
    (hrest : m = n → rest < rest') : UInt8.ofNat m :: rest < UInt8.ofNat n :: rest' := by
  rw [List.cons_lt_cons_iff, UInt8.lt_iff_toNat_lt, ← UInt8.toNat_inj, UInt8.toNat_ofNat',
    UInt8.toNat_ofNat', Nat.mod_eq_of_lt (show m < 2 ^ 8 by omega), Nat.mod_eq_of_lt hn]
  by_cases hsame : m = n
  · exact Or.inr ⟨hsame, hrest hsame⟩
  · exact Or.inl (by omega)

/-- A greater character has greater bytes, whatever follows them. -/
theorem utf8EncodeChar_append_lt {c d : Char} (h : c < d) (after after' : List UInt8) :
    String.utf8EncodeChar c ++ after < String.utf8EncodeChar d ++ after' := by
  have hcode : c.val.toNat < d.val.toNat := UInt32.lt_iff_toNat_lt.mp h
  have hbound : d.val.toNat < 1114112 := by
    rcases d.valid with hlow | ⟨-, hhigh⟩ <;> omega
  unfold String.utf8EncodeChar
  dsimp only
  generalize c.val.toNat = m at hcode
  generalize d.val.toNat = n at hcode hbound
  by_cases hm1 : m ≤ 0x7f
  · rw [if_pos hm1]
    -- the first byte of a character tells how many there are, and more bytes begin with more
    split
    · exact ofNat_cons_lt (by omega) (by omega) (by omega)
    · split
      · exact ofNat_cons_lt (by omega) (by omega) (by omega)
      · split <;> exact ofNat_cons_lt (by omega) (by omega) (by omega)
  · rw [if_neg hm1, if_neg (show ¬ n ≤ 0x7f by omega)]
    by_cases hm2 : m ≤ 0x7ff
    · rw [if_pos hm2]
      split
      · -- as many bytes: they are digits of the two codes, the highest in front
        refine ofNat_cons_lt (by omega) (by omega) fun hfirst => ?_
        exact ofNat_cons_lt (by omega) (by omega) (by omega)
      · split <;> exact ofNat_cons_lt (by omega) (by omega) (by omega)
    · rw [if_neg hm2, if_neg (show ¬ n ≤ 0x7ff by omega)]
      by_cases hm3 : m ≤ 0xffff
      · rw [if_pos hm3]
        split
        · refine ofNat_cons_lt (by omega) (by omega) fun hfirst => ?_
          refine ofNat_cons_lt (by omega) (by omega) fun hsecond => ?_
          exact ofNat_cons_lt (by omega) (by omega) (by omega)
        · exact ofNat_cons_lt (by omega) (by omega) (by omega)
      · rw [if_neg hm3, if_neg (show ¬ n ≤ 0xffff by omega)]
        refine ofNat_cons_lt (by omega) (by omega) fun hfirst => ?_
        refine ofNat_cons_lt (by omega) (by omega) fun hsecond => ?_
        refine ofNat_cons_lt (by omega) (by omega) fun hthird => ?_
        exact ofNat_cons_lt (by omega) (by omega) (by omega)

/-! ## Texts -/

theorem flatMap_utf8EncodeChar_lt {l m : List Char} (h : l < m) :
    l.flatMap String.utf8EncodeChar < m.flatMap String.utf8EncodeChar := by
  induction l generalizing m with
  | nil =>
    cases m with
    | nil => exact absurd h (List.lt_irrefl [])
    | cons d m =>
      rw [List.flatMap_nil, List.flatMap_cons]
      have hsome : String.utf8EncodeChar d ≠ [] := String.utf8EncodeChar_ne_nil
      obtain ⟨byte, bytes, hbytes⟩ := List.exists_cons_of_ne_nil hsome
      rw [hbytes]
      exact List.nil_lt_cons byte _
  | cons c l ih =>
    cases m with
    | nil => exact absurd h (List.not_lt_nil _)
    | cons d m =>
      rw [List.flatMap_cons, List.flatMap_cons]
      -- the first characters settle it, or they are the same and so are their bytes
      rcases List.cons_lt_cons_iff.mp h with hchar | ⟨rfl, hrest⟩
      · exact utf8EncodeChar_append_lt hchar _ _
      · exact List.append_left_lt (ih hrest)

/-- **The order of texts is the order of their bytes.** -/
theorem utf8Bytes_lt_iff {a b : String} : utf8Bytes a < utf8Bytes b ↔ a < b := by
  have hmono : ∀ {a b : String}, a < b → utf8Bytes a < utf8Bytes b := by
    intro a b h
    rw [utf8Bytes_eq, utf8Bytes_eq]
    exact flatMap_utf8EncodeChar_lt h
  refine ⟨fun h => ?_, hmono⟩
  by_cases hgt : b < a
  · exact absurd h (List.lt_asymm (hmono hgt))
  · by_contra hlt
    have hsame : a = b := String.le_antisymm (String.not_lt.mp hgt) (String.not_lt.mp hlt)
    rw [hsame] at h
    exact List.lt_irrefl _ h

end ProviderGen.Text
