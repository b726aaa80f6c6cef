/-
Which name a path gives.

The segments of a path are the words that slashes part, however many slashes there are. This is
said without the function that finds them: `LaidOut` lists the ways to lay words out between
slashes, and the segments are the words that a path lays out. So a path keeps its name under
everything that keeps its last segment: segments in front of it and slashes before, between and
behind its segments.

The singular of a segment is found by its letters without their case, and only its end is cut off.
Read by bytes, the cut takes off the last one, and since the letter there is in ASCII this is where
a character begins.
-/
import ProviderGen.Proofs.Spelling

set_option autoImplicit false

namespace ProviderGen.Naming

open ProviderGen.Text

/-! ## Layouts of a path -/

/-- The ways to lay out words between slashes: a slash may always come first, and a word may come
before a slash or at the end. -/
inductive LaidOut : List (List Char) → List Char → Prop
  | nothing : LaidOut [] []
  | slash {words : List (List Char)} {text : List Char} :
      LaidOut words text → LaidOut words ('/' :: text)
  | word {words : List (List Char)} {word text : List Char} :
      word ≠ [] → '/' ∉ word → (text = [] ∨ ∃ rest, text = '/' :: rest) →
      LaidOut words text → LaidOut (word :: words) (word ++ text)

theorem segments_slash (text : List Char) :
    segments (String.ofList ('/' :: text)) = segments (String.ofList text) := by
  unfold segments
  rw [String.toList_ofList, String.toList_ofList, pieces_cons_self,
    List.filter_cons_of_neg (by decide)]

/-- A word up to a slash or to the end is the first segment. -/
theorem segments_word {word text : List Char} (hne : word ≠ []) (hword : '/' ∉ word)
    (htext : text = [] ∨ ∃ rest, text = '/' :: rest) :
    segments (String.ofList (word ++ text)) = word :: segments (String.ofList text) := by
  have hkeep : (!word.isEmpty) = true := by simpa using hne
  rcases htext with rfl | ⟨rest, rfl⟩
  · unfold segments
    rw [List.append_nil, String.toList_ofList, pieces_of_not_mem hword, List.filter_cons,
      if_pos hkeep]
    rfl
  · rw [segments_slash]
    unfold segments
    rw [String.toList_ofList, String.toList_ofList, pieces_append_sep, pieces_of_not_mem hword,
      List.singleton_append, List.filter_cons, if_pos hkeep]

/-- The segments of a path are the words that it lays out. -/
theorem LaidOut.segments_eq {words : List (List Char)} {text : List Char}
    (h : LaidOut words text) : segments (String.ofList text) = words := by
  induction h with
  | nothing => rfl
  | slash _ ih => rw [segments_slash, ih]
  | word hne hword htext _ ih => rw [segments_word hne hword htext, ih]

/-- Every path lays out some words. -/
theorem exists_laidOut (text : List Char) : ∃ words, LaidOut words text := by
  induction text with
  | nil => exact ⟨[], .nothing⟩
  | cons c text ih =>
    obtain ⟨words, h⟩ := ih
    by_cases hc : c = '/'
    · subst hc
      exact ⟨words, .slash h⟩
    · have hsingle : '/' ∉ [c] := by
        rw [List.mem_singleton]
        exact Ne.symm hc
      -- the character begins a word of its own or goes to the word that follows it
      cases h with
      | nothing =>
        exact ⟨[[c]], .word (List.cons_ne_nil c []) hsingle (Or.inl rfl) .nothing⟩
      | slash h =>
        exact ⟨[c] :: words, .word (List.cons_ne_nil c []) hsingle (Or.inr ⟨_, rfl⟩) (.slash h)⟩
      | @word words word text hne hword htext h =>
        have hlonger : '/' ∉ c :: word := by
          rw [List.mem_cons, not_or]
          exact ⟨Ne.symm hc, hword⟩
        exact ⟨(c :: word) :: words, .word (List.cons_ne_nil c word) hlonger htext h⟩

theorem laidOut_iff {words : List (List Char)} {path : String} :
    LaidOut words path.toList ↔ segments path = words := by
  constructor
  · intro h
    rw [← h.segments_eq, String.ofList_toList]
  · rintro rfl
    obtain ⟨words, h⟩ := exists_laidOut path.toList
    have hwords : segments path = words := by
      rw [← h.segments_eq, String.ofList_toList]
    rw [hwords]
    exact h

/-! ## Names -/

/-- A path has a segment if not all of it is slashes. -/
theorem segments_ne_nil_iff {path : String} :
    segments path ≠ [] ↔ ∃ c ∈ path.toList, c ≠ '/' := by
  have hmem (c : Char) : (∃ piece ∈ segments path, c ∈ piece) ↔ c ∈ path.toList ∧ c ≠ '/' := by
    rw [← exists_mem_pieces_iff]
    unfold segments
    constructor
    · rintro ⟨piece, hpiece, hc⟩
      exact ⟨piece, (List.mem_filter.mp hpiece).1, hc⟩
    · rintro ⟨piece, hpiece, hc⟩
      refine ⟨piece, List.mem_filter.mpr ⟨hpiece, ?_⟩, hc⟩
      simpa using List.ne_nil_of_mem hc
  constructor
  · intro h
    obtain ⟨piece, hpiece⟩ := List.exists_mem_of_ne_nil _ h
    have hne : piece ≠ [] := by
      have hkept := (List.mem_filter.mp hpiece).2
      simpa using hkept
    obtain ⟨c, hc⟩ := List.exists_mem_of_ne_nil _ hne
    exact ⟨c, (hmem c).mp ⟨piece, hpiece, hc⟩⟩
  · rintro ⟨c, hc⟩ hnil
    obtain ⟨piece, hpiece, -⟩ := (hmem c).mpr hc
    rw [hnil] at hpiece
    cases hpiece

/-- Paths whose segments end alike have one name. -/
theorem resourceName_of_segments {path other : String} {front : List (List Char)}
    (hne : segments path ≠ []) (h : segments other = front ++ segments path) :
    resourceName other = resourceName path := by
  unfold resourceName
  rw [h, List.getLast?_append_of_ne_nil front hne]

theorem resourceName_of_slashes {path : String} (h : ∀ c ∈ path.toList, c = '/') :
    resourceName path = "" := by
  have hnil : segments path = [] := by
    by_contra hne
    obtain ⟨c, hc, hslash⟩ := segments_ne_nil_iff.mp hne
    exact hslash (h c hc)
  unfold resourceName
  rw [hnil]
  rfl

/-! ## Singular -/

/-- A plural: it ends in one `s`, which is not the end of `us` and comes behind something, and it
is none of the segments that only look like plurals. Letters count without their case. -/
def IsPlural (segment : List Char) : Prop :=
  ∃ front before last, segment = front ++ [before, last] ∧ asciiLower last = 's' ∧
    asciiLower before ≠ 's' ∧ asciiLower before ≠ 'u' ∧
    segment.map asciiLower ∉ invariantSegments

/-- The singular of a plural lacks the last letter of it. -/
theorem singularChars_of_plural {front : List Char} {before last : Char}
    (hlast : asciiLower last = 's') (hs : asciiLower before ≠ 's') (hu : asciiLower before ≠ 'u')
    (hinvariant : (front ++ [before, last]).map asciiLower ∉ invariantSegments) :
    singularChars (front ++ [before, last]) = front ++ [before] := by
  have hreverse : (front ++ [before, last]).reverse = last :: before :: front.reverse := by simp
  unfold singularChars
  rw [if_neg (by simpa using hinvariant), hreverse]
  dsimp only
  rw [if_pos ⟨hlast, hs, hu⟩, List.reverse_cons, List.reverse_reverse]

/-- What is no plural is its own singular. -/
theorem singularChars_of_not_plural {segment : List Char} (h : ¬ IsPlural segment) :
    singularChars segment = segment := by
  unfold singularChars
  split
  · rfl
  · next hinvariant =>
    split
    · next last before front hreverse =>
      rw [if_neg]
      rintro ⟨hlast, hs, hu⟩
      apply h
      refine ⟨front.reverse, before, last, ?_, hlast, hs, hu, by simpa using hinvariant⟩
      rw [← List.reverse_reverse segment, hreverse]
      simp
    · rfl

/-- What does not end in an `s` is no plural. -/
theorem not_isPlural_of_last {front : List Char} {last : Char} (h : asciiLower last ≠ 's') :
    ¬ IsPlural (front ++ [last]) := by
  rintro ⟨front', before, last', hsame, hlast, -⟩
  have hends : front ++ [last] = (front' ++ [before]) ++ [last'] := by simpa using hsame
  obtain ⟨-, rfl⟩ := List.append_singleton_inj.mp hends
  exact h hlast

/-- The letters that count as an `s`. -/
theorem asciiLower_eq_s_iff {c : Char} : asciiLower c = 's' ↔ c = 's' ∨ c = 'S' := by
  constructor
  · intro h
    have hcode : (asciiLower c).toNat = 115 := by rw [h]; rfl
    rw [asciiLower_toNat] at hcode
    split at hcode
    · exact Or.inr (Char.toNat_inj.mp (by omega : c.toNat = 83))
    · exact Or.inl (Char.toNat_inj.mp hcode)
  · rintro (rfl | rfl) <;> decide

/-- The singular of a plural ends in no `s`, so a second cut finds nothing. -/
theorem singularChars_idem (segment : List Char) :
    singularChars (singularChars segment) = singularChars segment := by
  by_cases hplural : IsPlural segment
  · obtain ⟨front, before, last, rfl, hlast, hs, hu, hinvariant⟩ := hplural
    rw [singularChars_of_plural hlast hs hu hinvariant]
    exact singularChars_of_not_plural (not_isPlural_of_last hs)
  · have hsame := singularChars_of_not_plural hplural
    rw [hsame, hsame]

theorem singularChars_eq_or (segment : List Char) :
    singularChars segment = segment ∨
      ∃ c, (c = 's' ∨ c = 'S') ∧ segment = singularChars segment ++ [c] := by
  by_cases hplural : IsPlural segment
  · right
    obtain ⟨front, before, last, rfl, hlast, hs, hu, hinvariant⟩ := hplural
    refine ⟨last, asciiLower_eq_s_iff.mp hlast, ?_⟩
    rw [singularChars_of_plural hlast hs hu hinvariant, List.append_assoc, List.singleton_append]
  · exact Or.inl (singularChars_of_not_plural hplural)

theorem singularChars_ne_nil {segment : List Char} (hne : segment ≠ []) :
    singularChars segment ≠ [] := by
  by_cases hplural : IsPlural segment
  · obtain ⟨front, before, last, rfl, hlast, hs, hu, hinvariant⟩ := hplural
    rw [singularChars_of_plural hlast hs hu hinvariant]
    exact List.append_ne_nil_of_right_ne_nil front (List.cons_ne_nil before [])
  · rw [singularChars_of_not_plural hplural]
    exact hne

/-! ## Singular by bytes -/

/-- The text without its last byte. There is none where the cut goes through a character. -/
def withoutLastByte (s : String) : Option String :=
  String.fromUTF8? (s.toByteArray.extract 0 (s.utf8ByteSize - 1))

/-- The tests on a segment in lower case that leave it as it is. -/
def LooksSingular (lowered : String) : Prop :=
  lowered.utf8ByteSize ≤ 1 ∨ ¬ ['s'] <:+ lowered.toList ∨ ['s', 's'] <:+ lowered.toList ∨
    ['u', 's'] <:+ lowered.toList ∨ lowered.toList ∈ invariantSegments

instance (lowered : String) : Decidable (LooksSingular lowered) :=
  inferInstanceAs (Decidable (_ ∨ _))

/-- The singular as it is found by bytes: the tests are made on a copy in lower case, and the cut
is made in the segment itself. -/
def singularByBytes (s : String) : Option String :=
  if LooksSingular (String.ofList (s.toList.map asciiLower)) then some s else withoutLastByte s

/-- A cut behind an ASCII character goes through no character. -/
theorem withoutLastByte_push {s : String} {c : Char} (hc : c.toNat < 128) :
    withoutLastByte (s.push c) = some s := by
  have hsize : c.utf8Size = 1 := by
    rw [Char.utf8Size_eq_one_iff, UInt32.le_iff_toNat_le]
    exact Nat.le_of_lt_succ hc
  unfold withoutLastByte
  rw [String.utf8ByteSize_push, hsize, Nat.add_sub_cancel, String.toByteArray_push]
  have hbytes : (s.toByteArray ++ [c].utf8Encode).extract 0 s.utf8ByteSize = s.toByteArray := by
    rw [← String.size_toByteArray, ByteArray.extract_append_size_left, ByteArray.extract_zero_size]
  rw [hbytes, String.fromUTF8?, dif_pos s.isValidUTF8]
  rfl

theorem pair_suffix_iff {text : List Char} {a b c d : Char} :
    [a, b] <:+ text ++ [c, d] ↔ a = c ∧ b = d := by
  constructor
  · rintro ⟨front, h⟩
    obtain ⟨-, hpair⟩ := List.append_inj' h rfl
    simpa using hpair
  · rintro ⟨rfl, rfl⟩
    exact List.suffix_append _ _

/-- The plurals are what no test on the copy in lower case leaves as it is. -/
theorem looksSingular_iff (segment : List Char) :
    LooksSingular (String.ofList (segment.map asciiLower)) ↔ ¬ IsPlural segment := by
  unfold LooksSingular
  rw [String.toList_ofList]
  constructor
  · intro h hplural
    obtain ⟨front, before, last, rfl, hlast, hs, hu, hinvariant⟩ := hplural
    have hlowered : (front ++ [before, last]).map asciiLower =
        front.map asciiLower ++ [asciiLower before, 's'] := by
      rw [← hlast, List.map_append, List.map_cons, List.map_cons, List.map_nil]
    rw [hlowered] at h hinvariant
    rw [pair_suffix_iff, pair_suffix_iff] at h
    rcases h with hshort | hend | hss | hus | hkept
    · -- two characters have at least two bytes
      have htwo : String.ofList (front.map asciiLower ++ [asciiLower before, 's']) =
          ((String.ofList (front.map asciiLower)).push (asciiLower before)).push 's' := by
        apply String.toList_inj.mp
        simp
      have hbefore := Char.utf8Size_pos (asciiLower before)
      have hlastSize := Char.utf8Size_pos 's'
      rw [htwo, String.utf8ByteSize_push, String.utf8ByteSize_push] at hshort
      omega
    · apply hend
      exact ⟨front.map asciiLower ++ [asciiLower before], by simp⟩
    · exact hs hss.1.symm
    · exact hu hus.1.symm
    · exact hinvariant hkept
  · intro hplural
    by_contra hkept
    rw [not_or, not_or, not_or, not_or, not_not] at hkept
    obtain ⟨hlong, ⟨front, hend⟩, hss, hus, hinvariant⟩ := hkept
    -- the copy ends in an `s`, so the segment ends in a letter that counts as one
    obtain ⟨front', letters, rfl, -, hletters⟩ := List.map_eq_append_iff.mp hend.symm
    obtain ⟨last, rfl, hlast⟩ := List.map_eq_singleton_iff.mp hletters
    rcases List.eq_nil_or_concat front' with rfl | ⟨front', before, rfl⟩
    · apply hlong
      rw [List.nil_append, hletters]
      decide
    · rw [List.concat_eq_append, List.append_assoc, List.singleton_append] at hss hus hinvariant hplural
      have hlowered : (front' ++ [before, last]).map asciiLower =
          front'.map asciiLower ++ [asciiLower before, 's'] := by
        rw [← hlast, List.map_append, List.map_cons, List.map_cons, List.map_nil]
      apply hplural
      refine ⟨front', before, last, rfl, hlast, ?_, ?_, hinvariant⟩
      · intro hs
        apply hss
        rw [hlowered, pair_suffix_iff]
        exact ⟨hs.symm, rfl⟩
      · intro hu
        apply hus
        rw [hlowered, pair_suffix_iff]
        exact ⟨hu.symm, rfl⟩

/-- The singular by bytes never cuts through a character, and it is the singular. -/
theorem singularByBytes_eq (s : String) : singularByBytes s = some (singular s) := by
  unfold singularByBytes singular
  by_cases hplural : IsPlural s.toList
  · rw [if_neg (mt (looksSingular_iff s.toList).mp (not_not.mpr hplural))]
    obtain ⟨front, before, last, hs, hlast, hne, hu, hinvariant⟩ := hplural
    -- the tests were made on the copy, but no letter beyond ASCII has an `s` in its place there
    have hascii : last.toNat < 128 := by
      rcases asciiLower_eq_s_iff.mp hlast with rfl | rfl <;> decide
    have hpush : s = (String.ofList (front ++ [before])).push last := by
      apply String.toList_inj.mp
      rw [hs, String.toList_push, String.toList_ofList, List.append_assoc, List.singleton_append]
    rw [hs, singularChars_of_plural hlast hne hu (hs ▸ hinvariant)]
    nth_rewrite 1 [hpush]
    exact withoutLastByte_push hascii
  · rw [if_pos ((looksSingular_iff s.toList).mpr hplural), singularChars_of_not_plural hplural,
      String.ofList_toList]

/-! ## The name of a path -/

/-- **The name of a path hangs on its last segment alone.** The segments are the words that the
path lays out between slashes. A path that lays out further segments in front of them, however the
slashes stand, has the same name, and a path of slashes has the empty name. The singular cuts
through no character, takes off at most one `s`, leaves no segment empty and is its own
singular. -/
theorem resourceName_layout :
    (∀ (words : List (List Char)) (path : String),
      LaidOut words path.toList ↔ segments path = words) ∧
    (∀ (front : List (List Char)) (path other : String), (∃ c ∈ path.toList, c ≠ '/') →
      LaidOut (front ++ segments path) other.toList → resourceName other = resourceName path) ∧
    (∀ path : String, (∀ c ∈ path.toList, c = '/') → resourceName path = "") ∧
    (∀ s : String, singularByBytes s = some (singular s)) ∧
    (∀ s : String, singular s = s ∨ ∃ c, (c = 's' ∨ c = 'S') ∧ s = (singular s).push c) ∧
    (∀ s : String, s ≠ "" → singular s ≠ "") ∧
    (∀ s : String, singular (singular s) = singular s) := by
  refine ⟨fun words path => laidOut_iff, ?_, fun path => resourceName_of_slashes,
    singularByBytes_eq, ?_, ?_, ?_⟩
  · intro front path other hletter hlayout
    exact resourceName_of_segments (segments_ne_nil_iff.mpr hletter) (laidOut_iff.mp hlayout)
  · intro s
    unfold singular
    rcases singularChars_eq_or s.toList with hsame | ⟨c, hc, hcut⟩
    · left
      rw [hsame, String.ofList_toList]
    · right
      refine ⟨c, hc, ?_⟩
      apply String.toList_inj.mp
      rw [String.toList_push, String.toList_ofList]
      exact hcut
  · intro s hne hempty
    have hletters : s.toList ≠ [] := by
      intro hnil
      exact hne (String.toList_eq_nil_iff.mp hnil)
    apply singularChars_ne_nil hletters
    rw [← String.toList_ofList (l := singularChars s.toList)]
    exact String.toList_eq_nil_iff.mpr hempty
  · intro s
    unfold singular
    rw [String.toList_ofList, singularChars_idem]

/-- Two segments in front and some slashes more leave the name of a path as it is, slashes alone
give no name, and a segment of one `s` stays. -/
theorem resourceName_layout_widgets :
    resourceName "//api/v1//widgets/" = resourceName "/widgets" ∧
      resourceName "/widgets" = "widget" ∧ resourceName "//" = "" ∧ singular "s" ≠ "" := by
  obtain ⟨hlayout, hname, hslashes, -, -, hne, -⟩ := resourceName_layout
  refine ⟨?_, by decide +kernel, hslashes "//" (by decide), hne "s" (by decide)⟩
  apply hname ["api".toList, "v1".toList]
  · exact ⟨'w', by decide, by decide⟩
  · apply (hlayout _ _).mpr
    decide +kernel

example : singular "Größes" = "Größe" ∧ singular "ſs" = "ſ" ∧ singular "DNS" = "DNS" := by
  decide +kernel

end ProviderGen.Naming
