/-
Numeric constants of the generated code.

A constraint to numbers lists its literals bare, so each of them should be a numeric constant. An
integer constant is written with digits and perhaps a sign, and has to fit the 64 bits of its
type; a decimal constant may have a point and an exponent as well. The literals are the texts of
values of any sort, and the text of a value shows its sort: whole numbers consist of digits and a
sign, doubles have a point or an exponent, and all other values but texts start with what no
constant starts with. So the sort of a value tells whether its literal is a constant, except that
a text is its own literal and may be anything (`isConstant_enumLiteral_iff`).
-/
import ProviderGen.Document.Basic
import ProviderGen.Resource.Basic
import Mathlib.Data.List.Basic

set_option autoImplicit false

namespace ProviderGen

open ProviderGen.Text

/-! ## Constants -/

/-- A run of digits, which may be empty. -/
def Digits (s : List Char) : Prop := ∀ c ∈ s, c.isDigit = true

/-- A text is a constant of an integer: its digits without a zero in front, and perhaps a sign. -/
inductive IntegerConstant : Int → String → Prop
  | bare (n : Nat) : IntegerConstant n (toString n)
  | plus (n : Nat) : IntegerConstant n ("+" ++ toString n)
  | minus (n : Nat) : IntegerConstant (-n) ("-" ++ toString n)

/-- The exponent of a decimal. -/
inductive Exponent : List Char → Prop
  | mk {mark : Char} {sign digits : List Char} :
      mark = 'e' ∨ mark = 'E' → sign = [] ∨ sign = ['+'] ∨ sign = ['-'] → Digits digits →
      digits ≠ [] → Exponent (mark :: (sign ++ digits))

/-- A decimal without a sign: with a point and perhaps an exponent, or with an exponent alone. -/
inductive Decimal : List Char → Prop
  | point {whole fraction exponent : List Char} :
      Digits whole → Digits fraction → whole ++ fraction ≠ [] →
      exponent = [] ∨ Exponent exponent → Decimal (whole ++ '.' :: (fraction ++ exponent))
  | exponent {whole exponent : List Char} :
      Digits whole → whole ≠ [] → Exponent exponent → Decimal (whole ++ exponent)

/-- A text is a constant of a number: that of an integer, or a decimal and perhaps a sign. -/
inductive NumberConstant (text : String) : Prop
  | integer {n : Int} : IntegerConstant n text → NumberConstant text
  | decimal {sign s : List Char} :
      sign = [] ∨ sign = ['+'] ∨ sign = ['-'] → Decimal s → text.toList = sign ++ s →
      NumberConstant text

/-- A whole number that fits 64 bits. -/
def FitsInt64 (n : Int) : Prop := Int64.minValue.toInt ≤ n ∧ n ≤ Int64.maxValue.toInt

/-- A text is a constant of one of the numeric types. -/
def IsConstant : Primitive → String → Prop
  | .int, text => ∃ n, IntegerConstant n text ∧ FitsInt64 n
  | .float, text => NumberConstant text
  | _, _ => False

/-! ## Characters of constants -/

theorem digits_toString (n : Nat) : Digits (toString n).toList := by
  rw [Nat.toString_eq_ofList_toDigits, String.toList_ofList]
  exact fun c hc => Nat.isDigit_of_mem_toDigits (by decide) (by decide) hc

theorem toList_toString_ne_nil (n : Nat) : (toString n).toList ≠ [] := by
  rw [Nat.toString_eq_ofList_toDigits, String.toList_ofList]
  exact Nat.toDigits_ne_nil

/-- What stands in an integer constant: digits and signs. -/
theorem IntegerConstant.digit_or_sign {n : Int} {text : String} (h : IntegerConstant n text) :
    ∀ c ∈ text.toList, c.isDigit = true ∨ c = '+' ∨ c = '-' := by
  cases h with
  | bare m => exact fun c hc => Or.inl (digits_toString m c hc)
  | plus m =>
    intro c hc
    rw [String.toList_append] at hc
    rcases List.mem_append.mp hc with hsign | hdigit
    · exact Or.inr (Or.inl (List.mem_singleton.mp hsign))
    · exact Or.inl (digits_toString m c hdigit)
  | minus m =>
    intro c hc
    rw [String.toList_append] at hc
    rcases List.mem_append.mp hc with hsign | hdigit
    · exact Or.inr (Or.inr (List.mem_singleton.mp hsign))
    · exact Or.inl (digits_toString m c hdigit)

/-- Natural numbers with the same digits are the same. -/
theorem toString_nat_injective {m n : Nat} (h : toString m = toString n) : m = n := by
  rw [Nat.toString_eq_ofList_toDigits, Nat.toString_eq_ofList_toDigits, String.ofList_inj] at h
  have hread := congrArg (Nat.ofDigitChars 10 · 0) h
  rwa [Nat.ofDigitChars_ten_toDigits, Nat.ofDigitChars_ten_toDigits] at hread

theorem toString_int_cases (n : Int) :
    (∃ m : Nat, n = m ∧ toString n = toString m) ∨
      ∃ m : Nat, 0 < m ∧ n = -m ∧ toString n = "-" ++ toString m := by
  cases n with
  | ofNat m => exact Or.inl ⟨m, rfl, rfl⟩
  | negSucc m => exact Or.inr ⟨m + 1, Nat.succ_pos m, rfl, rfl⟩

/-- Signs are no digits. -/
theorem sign_not_mem_toString {c : Char} (hsign : c = '+' ∨ c = '-') (n : Nat) :
    c ∉ (toString n).toList := by
  intro hc
  have hdigit := digits_toString n c hc
  rcases hsign with rfl | rfl <;> exact absurd hdigit (by decide)

/-- The text of a whole number is a constant of that number alone. -/
theorem integerConstant_toString_iff {n k : Int} : IntegerConstant k (toString n) ↔ k = n := by
  constructor
  · intro h
    generalize htext : toString n = text at h
    rcases toString_int_cases n with ⟨m, rfl, hm⟩ | ⟨m, -, rfl, hm⟩ <;> rw [hm] at htext
    · -- the text has digits alone
      cases h with
      | bare other => rw [toString_nat_injective htext]
      | plus other => exact absurd (by rw [htext]; simp) (sign_not_mem_toString (Or.inl rfl) m)
      | minus other => exact absurd (by rw [htext]; simp) (sign_not_mem_toString (Or.inr rfl) m)
    · cases h with
      | bare other =>
        exact absurd (by rw [← htext]; simp) (sign_not_mem_toString (Or.inr rfl) other)
      | plus other =>
        have hhead := congrArg (fun s => s.toList.head?) htext
        exact absurd hhead (by simp)
      | minus other => rw [toString_nat_injective ((String.append_right_inj _).mp htext)]
  · rintro rfl
    rcases toString_int_cases k with ⟨m, rfl, hm⟩ | ⟨m, -, rfl, hm⟩ <;> rw [hm]
    · exact .bare m
    · exact .minus m

/-- What a constant starts with. -/
def StartsConstant (c : Char) : Prop := c.isDigit = true ∨ c = '+' ∨ c = '-' ∨ c = '.'

theorem IntegerConstant.head {n : Int} {text : String} (h : IntegerConstant n text) :
    ∃ c rest, text.toList = c :: rest ∧ StartsConstant c := by
  have hne : text.toList ≠ [] := by
    cases h with
    | bare m => exact toList_toString_ne_nil m
    | plus m => simp
    | minus m => simp
  obtain ⟨c, rest, htext⟩ := List.exists_cons_of_ne_nil hne
  refine ⟨c, rest, htext, ?_⟩
  rcases h.digit_or_sign c (by rw [htext]; exact List.mem_cons_self ..) with hdigit | hplus | hminus
  · exact Or.inl hdigit
  · exact Or.inr (Or.inl hplus)
  · exact Or.inr (Or.inr (Or.inl hminus))

theorem Decimal.head {s : List Char} (h : Decimal s) :
    ∃ c rest, s = c :: rest ∧ StartsConstant c := by
  cases h with
  | @point whole fraction exponent hwhole _ _ _ =>
    cases whole with
    | nil => exact ⟨'.', _, rfl, Or.inr (Or.inr (Or.inr rfl))⟩
    | cons c rest => exact ⟨c, _, rfl, Or.inl (hwhole c (List.mem_cons_self ..))⟩
  | @exponent whole exponent hwhole hne _ =>
    obtain ⟨c, rest, rfl⟩ := List.exists_cons_of_ne_nil hne
    exact ⟨c, _, rfl, Or.inl (hwhole c (List.mem_cons_self ..))⟩

theorem IsConstant.head {type : Primitive} {text : String} (h : IsConstant type text) :
    ∃ c rest, text.toList = c :: rest ∧ StartsConstant c := by
  cases type with
  | int =>
    obtain ⟨n, hconstant, -⟩ := h
    exact hconstant.head
  | float =>
    obtain hinteger | ⟨hsign, hdecimal, htext⟩ := h
    · exact hinteger.head
    · rw [htext]
      rcases hsign with rfl | rfl | rfl
      · exact hdecimal.head
      · exact ⟨'+', _, rfl, Or.inr (Or.inl rfl)⟩
      · exact ⟨'-', _, rfl, Or.inr (Or.inr (Or.inl rfl))⟩
  | string => cases h
  | bool => cases h

/-- A decimal has a point or an exponent, which no integer has. -/
theorem Decimal.exists_mark {s : List Char} (h : Decimal s) :
    ∃ c ∈ s, c = '.' ∨ c = 'e' ∨ c = 'E' := by
  cases h with
  | point => exact ⟨'.', by simp, Or.inl rfl⟩
  | exponent _ _ hexponent =>
    obtain ⟨hmark, -, -, -⟩ := hexponent
    exact ⟨_, by simp, Or.inr hmark⟩

/-! ## Texts of numbers -/

theorem Digits.append {s t : List Char} (hs : Digits s) (ht : Digits t) : Digits (s ++ t) := by
  intro c hc
  rcases List.mem_append.mp hc with hmem | hmem
  · exact hs c hmem
  · exact ht c hmem

theorem Digits.sublist {s t : List Char} (hs : Digits s) (h : t.Sublist s) : Digits t :=
  fun c hc => hs c (h.subset hc)

theorem digits_zeros (n : Nat) : Digits (List.replicate n '0') := by
  intro c hc
  rw [(List.mem_replicate.mp hc).2]
  rfl

namespace Double

theorem decimal_fixedText (n : Nat) (power : Int) :
    Decimal (fixedText (toString n) power).toList := by
  have hdigits := digits_toString n
  unfold fixedText
  by_cases hpower : 0 ≤ power
  · rw [if_pos hpower]
    have hwhole := hdigits.append (digits_zeros power.toNat)
    have hzero : Digits ['0'] := digits_zeros 1
    simpa using Decimal.point hwhole hzero (by simp) (Or.inl rfl)
  · rw [if_neg hpower]
    dsimp only
    generalize hpadded : List.replicate ((-power).toNat + 1 - (toString n).length) '0' ++
      (toString n).toList = padded
    have hall : Digits padded := by
      rw [← hpadded]
      exact (digits_zeros _).append hdigits
    have hne : padded ≠ [] := by
      rw [← hpadded]
      simp
    generalize padded.length - (-power).toNat = count
    have hpoint := Decimal.point (hall.sublist (List.take_sublist count padded))
      (hall.sublist (List.drop_sublist count padded)) (by rwa [List.take_append_drop]) (Or.inl rfl)
    simpa using hpoint

theorem decimal_scientificText (n : Nat) (exponent : Int) :
    Decimal (scientificText .standard (toString n) exponent).toList := by
  have hdigits := digits_toString n
  obtain ⟨first, fraction, htext⟩ := List.exists_cons_of_ne_nil (toList_toString_ne_nil n)
  rw [htext] at hdigits
  have hfirst : Digits [first] := hdigits.sublist (by simp)
  have hfraction : Digits fraction := hdigits.sublist (by simp)
  have hsign : ∀ sign ∈ ["-", Layout.standard.positiveSign],
      sign.toList = [] ∨ sign.toList = ['+'] ∨ sign.toList = ['-'] := by decide
  have hexponent := Exponent.mk (Or.inl rfl)
    (hsign (if exponent < 0 then "-" else Layout.standard.positiveSign) (by split <;> simp))
    (digits_toString exponent.natAbs) (toList_toString_ne_nil exponent.natAbs)
  unfold scientificText
  dsimp only
  rw [htext]
  cases fraction with
  | nil => simpa using Decimal.exponent hfirst (by simp) hexponent
  | cons c rest => simpa using Decimal.point hfirst hfraction (by simp) (Or.inr hexponent)

/-- The text of a double is a decimal. -/
theorem exists_decimal (x : Double) : ∃ sign s, (sign = [] ∨ sign = ['-']) ∧ Decimal s ∧
    (x.text .standard).toList = sign ++ s := by
  unfold text
  dsimp only
  refine ⟨(if x.negative then "-" else "").toList, _, ?_, ?_, String.toList_append⟩
  · cases x.negative
    · exact Or.inl rfl
    · exact Or.inr rfl
  · split
    · exact decimal_fixedText ..
    · exact decimal_scientificText ..

end Double

/-! ## Literals of values -/

/-- The literal of an enumerated value. -/
def enumLiteral : Json → String
  | .string text => text
  | other => other.compact

theorem Schema.enumLiterals_eq (schema : Schema) :
    schema.enumLiterals = schema.enumeration.map enumLiteral :=
  List.map_congr_left fun value _ => by cases value <;> rfl

/-- A value suits a numeric type: it is a number of the type, or a text that is a constant of it. -/
def Suits : Primitive → Json → Prop
  | type, .string text => IsConstant type text
  | .int, .number (.whole n) => FitsInt64 n
  | .float, .number _ => True
  | _, _ => False

theorem isConstant_int_toString_iff {n : Int} :
    IsConstant .int (toString n) ↔ FitsInt64 n := by
  constructor
  · rintro ⟨k, hconstant, hfits⟩
    rwa [← integerConstant_toString_iff.mp hconstant]
  · exact fun hfits => ⟨n, integerConstant_toString_iff.mpr rfl, hfits⟩

/-- The text of a double is a constant of a number and never one of an integer. -/
theorem isConstant_doubleText_iff {type : Primitive} (x : Double) :
    IsConstant type (x.text .standard) ↔ type = .float := by
  obtain ⟨sign, s, hsign, hdecimal, htext⟩ := x.exists_decimal
  constructor
  · intro h
    cases type with
    | int =>
      -- the point or the exponent is neither a digit nor a sign
      obtain ⟨n, hconstant, -⟩ := h
      obtain ⟨c, hc, hmark⟩ := hdecimal.exists_mark
      have hmem : c ∈ (x.text .standard).toList := by
        rw [htext]
        exact List.mem_append_right _ hc
      rcases hmark with rfl | rfl | rfl <;>
        exact absurd (hconstant.digit_or_sign _ hmem) (by decide)
    | float => rfl
    | string => cases h
    | bool => cases h
  · rintro rfl
    exact .decimal (hsign.imp_right Or.inr) hdecimal htext

/-- A text that starts with what no constant starts with is no constant. -/
theorem not_isConstant_of_head {type : Primitive} {text : String} {c : Char} {rest : List Char}
    (htext : text.toList = c :: rest) (hc : ¬ StartsConstant c) : ¬ IsConstant type text := by
  intro h
  obtain ⟨first, rest', hfirst, hstarts⟩ := h.head
  rw [htext] at hfirst
  obtain ⟨rfl, -⟩ := List.cons.inj hfirst
  exact hc hstarts

/-- A value that is neither a number nor a text starts with a letter or a bracket. -/
theorem exists_head_enumLiteral {value : Json} (hnumber : ∀ n, value ≠ .number n)
    (htext : ∀ text, value ≠ .string text) :
    ∃ c ∈ ['n', 't', 'f', '[', '\x7b'], ∃ rest, (enumLiteral value).toList = c :: rest := by
  cases value with
  | null => exact ⟨'n', by simp, _, rfl⟩
  | bool b => cases b with
    | false => exact ⟨'f', by simp, _, rfl⟩
    | true => exact ⟨'t', by simp, _, rfl⟩
  | array items =>
    exact ⟨'[', by simp, (Json.compactItems items ++ "]").toList,
      by simp [enumLiteral, Json.compact]⟩
  | object members =>
    exact ⟨'\x7b', by simp, (Json.compactMembers members ++ "\x7d").toList,
      by simp [enumLiteral, Json.compact]⟩
  | number n => exact absurd rfl (hnumber n)
  | string text => exact absurd rfl (htext text)

/-- **Which literals are constants.** The literal of a value is a constant of a numeric type just
if the value suits the type: whole numbers of 64 bits suit integers, and all numbers suit numbers;
a text suits if it is a constant itself; and nothing else suits. -/
theorem isConstant_enumLiteral_iff {type : Primitive} (htype : type = .int ∨ type = .float)
    (value : Json) : IsConstant type (enumLiteral value) ↔ Suits type value := by
  have hother (hnumber : ∀ n, value ≠ .number n) (htext : ∀ text, value ≠ .string text) :
      ¬ IsConstant type (enumLiteral value) := by
    obtain ⟨c, hc, rest, hrest⟩ := exists_head_enumLiteral hnumber htext
    have hstarts : ∀ c ∈ ['n', 't', 'f', '[', '\x7b'], ¬ StartsConstant c := by
      unfold StartsConstant
      decide
    exact not_isConstant_of_head hrest (hstarts c hc)
  cases value with
  | string text => rfl
  | number n =>
    cases n with
    | whole n =>
      rcases htype with rfl | rfl
      · exact isConstant_int_toString_iff
      · exact iff_of_true (.integer (integerConstant_toString_iff.mpr rfl)) trivial
    | double x =>
      refine (isConstant_doubleText_iff x).trans ?_
      rcases htype with rfl | rfl <;> simp [Suits]
  | _ => exact iff_of_false (hother nofun nofun) (by rcases htype with rfl | rfl <;> exact id)

end ProviderGen
