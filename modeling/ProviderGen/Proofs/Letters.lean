/-
Letter case, by the tables.

The tables of letter case list a few hundred runs of code points, so what all of them send to
where is settled by looking at the runs. What is needed of the lower case of a capital is that it
lies beyond the capitals and the signs of ASCII: it begins no word, parts no words and needs no
quoting. The classes of ASCII are intervals of codes, and the two cases of an ASCII letter are
each other's inverse.
-/
import ProviderGen.Proofs.Results
import ProviderGen.Text.Case

set_option autoImplicit false

namespace ProviderGen.Text

/-! ## Classes of ASCII -/

/-- What is said of the characters of a text is decided by running over the text. Stated here so
that it comes before any way to decide it that runs over all characters there are. -/
instance decidableForallMem {p : Char → Prop} [DecidablePred p] (s : List Char) : Decidable (∀ c ∈ s, p c) :=
  List.decidableBAll p s

theorem isAsciiUpper_iff {c : Char} : isAsciiUpper c = true ↔ 65 ≤ c.toNat ∧ c.toNat ≤ 90 := by
  unfold isAsciiUpper
  rw [Bool.and_eq_true, decide_eq_true_eq, decide_eq_true_eq, Char.le_def, Char.le_def,
    UInt32.le_iff_toNat_le, UInt32.le_iff_toNat_le]
  exact Iff.rfl

theorem isAsciiLower_iff {c : Char} : isAsciiLower c = true ↔ 97 ≤ c.toNat ∧ c.toNat ≤ 122 := by
  unfold isAsciiLower
  rw [Bool.and_eq_true, decide_eq_true_eq, decide_eq_true_eq, Char.le_def, Char.le_def,
    UInt32.le_iff_toNat_le, UInt32.le_iff_toNat_le]
  exact Iff.rfl

theorem isAsciiDigit_iff {c : Char} : isAsciiDigit c = true ↔ 48 ≤ c.toNat ∧ c.toNat ≤ 57 := by
  unfold isAsciiDigit
  rw [Bool.and_eq_true, decide_eq_true_eq, decide_eq_true_eq, Char.le_def, Char.le_def,
    UInt32.le_iff_toNat_le, UInt32.le_iff_toNat_le]
  exact Iff.rfl

theorem isAsciiLetter_iff {c : Char} :
    isAsciiLetter c = true ↔
      (65 ≤ c.toNat ∧ c.toNat ≤ 90) ∨ (97 ≤ c.toNat ∧ c.toNat ≤ 122) := by
  rw [isAsciiLetter, Bool.or_eq_true, isAsciiUpper_iff, isAsciiLower_iff]

/-! ## Codes -/

theorem toNat_ofNat {n : Nat} (h : n.isValidChar) : (Char.ofNat n).toNat = n := by
  unfold Char.ofNat
  rw [dif_pos h]
  rfl

/-- A run holds codes between its ends. -/
theorem CodeRun.le_of_holds {run : CodeRun} {n : Nat} (h : run.holds n = true) :
    run.first ≤ n ∧ n ≤ run.last := by
  unfold CodeRun.holds at h
  rw [Bool.and_eq_true, Bool.and_eq_true, decide_eq_true_eq, decide_eq_true_eq] at h
  exact h.1

/-- Where a table sends the codes of a run: beyond the capitals of ASCII, to characters. -/
def CaseShift.Lowers (run : CaseShift) : Prop :=
  97 ≤ run.first + run.shift ∧
    (run.last + run.shift < 0xD800 ∨
      0xE000 ≤ run.first + run.shift ∧ run.last + run.shift < 0x110000)

instance (run : CaseShift) : Decidable run.Lowers := inferInstanceAs (Decidable (_ ∧ _))

theorem lowers_of_mem_lowerShifts : ∀ run ∈ lowerShifts, run.Lowers := by decide +kernel

theorem le_of_mem_lowerExpansions :
    ∀ entry ∈ lowerExpansions, ∀ code ∈ entry.2, 97 ≤ code ∧ code < 0xD800 := by decide

/-! ## Lower case -/

/-- Within ASCII a capital is written with the small letter that stands 32 codes behind it. -/
theorem asciiLower_toNat (c : Char) :
    (asciiLower c).toNat = if isAsciiUpper c then c.toNat + 32 else c.toNat := by
  unfold asciiLower
  by_cases h : isAsciiUpper c = true
  · have hcode := isAsciiUpper_iff.mp h
    rw [if_pos h, if_pos h]
    exact toNat_ofNat (by unfold Nat.isValidChar; omega)
  · rw [if_neg h, if_neg h]

/-- The codes of the lower case of a character that is not ASCII. -/
theorem le_of_mem_mapCode {n code : Nat} (hn : ¬ n < 128) (hvalid : n.isValidChar)
    (h : code ∈ mapCode lowerExpansions lowerShifts n) : 97 ≤ code ∧ code.isValidChar := by
  unfold mapCode at h
  split at h
  · next codes hlookup =>
    obtain ⟨hlow, hhigh⟩ :=
      le_of_mem_lowerExpansions (n, codes) (mem_of_lookup hlookup) code h
    exact ⟨hlow, Or.inl hhigh⟩
  · split at h
    · next distance hshift =>
      obtain ⟨run, hfind, rfl⟩ := Option.map_eq_some_iff.mp hshift
      have hholds : run.holds n = true := by simpa using List.find?_some hfind
      have hbounds := CodeRun.le_of_holds hholds
      obtain ⟨hlow, hvalid'⟩ := lowers_of_mem_lowerShifts run (List.mem_of_find?_eq_some hfind)
      rw [List.mem_singleton.mp h]
      unfold Nat.isValidChar
      omega
    · rw [List.mem_singleton.mp h]
      exact ⟨by omega, hvalid⟩

/-- **The lower case of a capital lies beyond the capitals of ASCII.** -/
theorem le_of_mem_lower {c d : Char} (hd : isUpper d = true) (h : c ∈ lower d) :
    97 ≤ c.toNat := by
  unfold isUpper at hd
  unfold lower at h
  split at h
  · next hascii =>
    rw [if_pos hascii] at hd
    rw [List.mem_singleton.mp h, asciiLower_toNat, if_pos hd]
    have := isAsciiUpper_iff.mp hd
    omega
  · next hbeyond =>
    obtain ⟨code, hcode, rfl⟩ := List.mem_map.mp h
    obtain ⟨hlow, hvalid⟩ := le_of_mem_mapCode hbeyond d.valid hcode
    rw [toNat_ofNat hvalid]
    exact hlow

/-- A character that is no capital is no capital of ASCII. -/
theorem isAsciiUpper_eq_false_of_isUpper {c : Char} (h : isUpper c = false) :
    isAsciiUpper c = false := by
  unfold isUpper at h
  split at h
  · exact h
  · rw [Bool.eq_false_iff]
    intro hupper
    have := isAsciiUpper_iff.mp hupper
    omega

/-! ## Upper case -/

/-- The upper case of an ASCII character, by its code. -/
theorem upper_of_ascii {c : Char} (h : c.toNat < 128) :
    ∃ d, upper c = [d] ∧ d.toNat = if isAsciiLower c then c.toNat - 32 else c.toNat := by
  unfold upper
  rw [if_pos h]
  refine ⟨_, rfl, ?_⟩
  by_cases hlower : isAsciiLower c = true
  · have := isAsciiLower_iff.mp hlower
    rw [if_pos hlower, if_pos hlower]
    exact toNat_ofNat (by unfold Nat.isValidChar; omega)
  · rw [if_neg hlower, if_neg hlower]

/-- The upper case of a small ASCII letter is a capital, and the small letter is its lower case. -/
theorem upper_of_isAsciiLower {c : Char} (h : isAsciiLower c = true) :
    ∃ d, upper c = [d] ∧ isAsciiUpper d = true ∧ asciiLower d = c := by
  have hcode := isAsciiLower_iff.mp h
  obtain ⟨d, hupper, hd⟩ := upper_of_ascii (c := c) (by omega)
  rw [if_pos h] at hd
  have hcapital : isAsciiUpper d = true := isAsciiUpper_iff.mpr (by omega)
  refine ⟨d, hupper, hcapital, Char.toNat_inj.mp ?_⟩
  rw [asciiLower_toNat, if_pos hcapital]
  omega

end ProviderGen.Text
