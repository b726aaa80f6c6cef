/-
Which derived names are identifiers.

An identifier is a letter or an underscore, and then letters, digits and underscores. What counts
as a letter or digit beyond ASCII is a matter of the language of the generated code, so it is a
parameter here (`Alphabet`); within ASCII there is nothing to choose. The identifier of an
attribute is a Pascal spelling with a guard: where the spelling does not begin with a letter, a
word is put in front. The names of a package have no such guard, except that constructors begin
with `New`. And nothing guards the characters behind the first, which are those of the key or path
segment, separators apart. So a key makes an identifier if all its characters could stand in one,
and a title needs a letter in front as well.
-/
import ProviderGen.Proofs.Levels
import ProviderGen.Proofs.PackageNames
import ProviderGen.Proofs.Reading
import ProviderGen.Proofs.Spelling

set_option autoImplicit false

namespace ProviderGen

open ProviderGen.Text

/-! ## Identifiers -/

/-- Letters and digits, which within ASCII are the usual ones. -/
structure Alphabet where
  isLetter : Char → Bool
  isDigit : Char → Bool
  isLetter_ascii : ∀ c, c.toNat < 128 → isLetter c = isAsciiLetter c
  isDigit_ascii : ∀ c, c.toNat < 128 → isDigit c = isAsciiDigit c

namespace Alphabet

/-- The alphabet that has no letters and digits but those of ASCII. -/
def ascii : Alphabet := ⟨isAsciiLetter, isAsciiDigit, fun _ _ => rfl, fun _ _ => rfl⟩

variable (alphabet : Alphabet)

/-- A character that an identifier may begin with. -/
def isStart (c : Char) : Bool := alphabet.isLetter c || c == '_'

/-- A character that may stand in an identifier. -/
def isPart (c : Char) : Bool := alphabet.isStart c || alphabet.isDigit c

/-- A character to begin with, and then characters that may stand in an identifier. -/
def isIdentifier (name : String) : Bool :=
  match name.toList with
  | [] => false
  | c :: rest => alphabet.isStart c && rest.all alphabet.isPart

variable {alphabet}

theorem isStart_of_isAsciiLetter {c : Char} (h : isAsciiLetter c = true) :
    alphabet.isStart c = true := by
  have hcode := isAsciiLetter_iff.mp h
  rw [isStart, alphabet.isLetter_ascii c (by omega), h, Bool.true_or]

theorem isPart_of_isStart {c : Char} (h : alphabet.isStart c = true) :
    alphabet.isPart c = true := by
  rw [isPart, h, Bool.true_or]

theorem isPart_underscore : alphabet.isPart '_' = true := by
  rw [isPart, isStart, beq_self_eq_true, Bool.or_true, Bool.true_or]

/-- Within ASCII the characters of identifiers are the letters, the digits and the underscore. -/
theorem isPart_iff_of_ascii {c : Char} (h : c.toNat < 128) :
    alphabet.isPart c = true ↔ isAsciiLetter c = true ∨ isAsciiDigit c = true ∨ c = '_' := by
  rw [isPart, isStart, alphabet.isLetter_ascii c h, alphabet.isDigit_ascii c h, Bool.or_eq_true,
    Bool.or_eq_true, beq_iff_eq, or_assoc, or_comm (a := c = '_')]

/-- Within ASCII a capital may stand where its small letter may. -/
theorem isPart_congr_of_ascii {c d : Char} (hc : c.toNat < 128)
    (hd : d.toNat = c.toNat ∨
      (isAsciiUpper c = true ∧ d.toNat = c.toNat + 32) ∨
      (isAsciiLower c = true ∧ d.toNat = c.toNat - 32)) :
    d.toNat < 128 ∧ (alphabet.isPart d = true ↔ alphabet.isPart c = true) := by
  have hunderscore : ∀ c : Char, c = '_' ↔ c.toNat = 95 := fun c => Char.toNat_inj (d := '_').symm
  rw [isAsciiUpper_iff, isAsciiLower_iff] at hd
  have hlt : d.toNat < 128 := by omega
  refine ⟨hlt, ?_⟩
  rw [isPart_iff_of_ascii hlt, isPart_iff_of_ascii hc, hunderscore, hunderscore]
  simp only [isAsciiLetter_iff, isAsciiDigit_iff]
  omega

/-- A text is an identifier if it is not empty, begins well and goes on well. -/
theorem isIdentifier_iff {name : String} :
    alphabet.isIdentifier name = true ↔
      name.toList ≠ [] ∧ (∀ c ∈ name.toList.head?, alphabet.isStart c = true) ∧
        ∀ c ∈ name.toList, alphabet.isPart c = true := by
  unfold isIdentifier
  rcases name.toList with _ | ⟨c, rest⟩
  · simp
  · rw [Bool.and_eq_true, List.all_eq_true, List.forall_mem_cons]
    constructor
    · rintro ⟨hstart, hrest⟩
      exact ⟨by simp, by simpa using hstart, isPart_of_isStart hstart, hrest⟩
    · rintro ⟨-, hstart, -, hrest⟩
      exact ⟨by simpa using hstart, hrest⟩

/-- What begins and goes on an identifier, put together. -/
theorem isIdentifier_append_iff {front back : String} :
    alphabet.isIdentifier (front ++ back) = true ↔
      front.toList ++ back.toList ≠ [] ∧
        (∀ c ∈ front.toList.head?.or back.toList.head?, alphabet.isStart c = true) ∧
        (∀ c ∈ front.toList, alphabet.isPart c = true) ∧
        ∀ c ∈ back.toList, alphabet.isPart c = true := by
  rw [isIdentifier_iff, String.toList_append, List.head?_append, List.forall_mem_append]

/-- A text of ASCII letters. -/
def IsWord (word : String) : Prop := word.toList ≠ [] ∧ ∀ c ∈ word.toList, isAsciiLetter c = true

instance (word : String) : Decidable (IsWord word) := inferInstanceAs (Decidable (_ ∧ _))

/-- Behind a word may stand what may stand in an identifier. -/
theorem isIdentifier_word_append_iff {word back : String} (h : IsWord word) :
    alphabet.isIdentifier (word ++ back) = true ↔
      ∀ c ∈ back.toList, alphabet.isPart c = true := by
  obtain ⟨hne, hletters⟩ := h
  have hstart : ∀ c ∈ word.toList, alphabet.isStart c = true := fun c hc =>
    isStart_of_isAsciiLetter (hletters c hc)
  have hhead : ∀ c ∈ word.toList.head?.or back.toList.head?, alphabet.isStart c = true := by
    obtain ⟨c, rest, hword⟩ := List.exists_cons_of_ne_nil hne
    rw [hword] at hstart ⊢
    simpa using (List.forall_mem_cons.mp hstart).1
  rw [isIdentifier_append_iff, and_iff_right (List.append_ne_nil_of_left_ne_nil hne _),
    and_iff_right hhead, and_iff_right fun c hc => isPart_of_isStart (hstart c hc)]

/-- Before a word stands nothing, or what may begin and go on an identifier. -/
theorem isIdentifier_append_word_iff {front word : String} (h : IsWord word) :
    alphabet.isIdentifier (front ++ word) = true ↔
      (∀ c ∈ front.toList.head?, alphabet.isStart c = true) ∧
        ∀ c ∈ front.toList, alphabet.isPart c = true := by
  obtain ⟨hne, hletters⟩ := h
  have hstart : ∀ c ∈ word.toList, alphabet.isStart c = true := fun c hc =>
    isStart_of_isAsciiLetter (hletters c hc)
  have hhead : (∀ c ∈ front.toList.head?.or word.toList.head?, alphabet.isStart c = true) ↔
      ∀ c ∈ front.toList.head?, alphabet.isStart c = true := by
    cases hfront : front.toList.head? with
    | none =>
      rw [Option.none_or]
      exact iff_of_true (fun c hc => hstart c (List.mem_of_head? hc)) (by simp)
    | some c => rw [Option.some_or]
  rw [isIdentifier_append_iff, and_iff_right (List.append_ne_nil_of_right_ne_nil _ hne), hhead,
    and_iff_left fun c hc => isPart_of_isStart (hstart c hc)]

end Alphabet

/-! ## Names of attributes and packages -/

open Alphabet

variable {alphabet : Alphabet}

/-- The guard on the first character works: the identifier of an attribute is one if the
characters of the Pascal spelling may stand in one. -/
theorem isIdentifier_fieldIdentifier_iff (name : String) :
    alphabet.isIdentifier (fieldIdentifier name) = true ↔
      ∀ c ∈ (Naming.pascal name).toList, alphabet.isPart c = true := by
  unfold fieldIdentifier
  dsimp only
  split
  · next c rest hspelling =>
    split
    · next hletter =>
      have hstart : alphabet.isStart c = true := isStart_of_isAsciiLetter hletter
      rw [isIdentifier_iff, hspelling, and_iff_right (List.cons_ne_nil c rest), List.head?_cons]
      exact and_iff_right fun d hd => Option.some.inj hd ▸ hstart
    · exact isIdentifier_word_append_iff (by decide)
  · next hspelling =>
    have hword : IsWord "Field" := by decide
    rw [hspelling, ← String.append_empty (s := "Field"), isIdentifier_word_append_iff hword]
    rfl

/-- All package names of a resource are identifiers if its title begins and goes on well. -/
theorem isIdentifier_packageNames_iff (config : Config) (r : Resource) :
    (∀ name ∈ r.packageNames config, alphabet.isIdentifier name = true) ↔
      (∀ c ∈ r.title.toList.head?, alphabet.isStart c = true) ∧
        ∀ c ∈ r.title.toList, alphabet.isPart c = true := by
  have hplain : ∀ ending, IsWord ending →
      (alphabet.isIdentifier (r.title ++ ending) = true ↔
        (∀ c ∈ r.title.toList.head?, alphabet.isStart c = true) ∧
          ∀ c ∈ r.title.toList, alphabet.isPart c = true) := fun _ h =>
    isIdentifier_append_word_iff h
  have hnew : ∀ ending, IsWord ending →
      (alphabet.isIdentifier ("New" ++ r.title ++ ending) = true ↔
        ∀ c ∈ r.title.toList, alphabet.isPart c = true) := by
    rintro ending ⟨-, hletters⟩
    rw [String.append_assoc, isIdentifier_word_append_iff (by decide), String.toList_append,
      List.forall_mem_append]
    exact and_iff_left fun c hc => isPart_of_isStart (isStart_of_isAsciiLetter (hletters c hc))
  rw [Resource.packageNames_eq, List.forall_mem_map]
  simp only [Resource.packageStems, List.forall_mem_cons]
  rw [hplain _ (by decide), hplain _ (by decide), hplain _ (by decide), hplain _ (by decide),
    hnew _ (by decide), hnew _ (by decide)]
  exact ⟨fun h => h.1, fun h => ⟨h, h.2, h, h, h.2, h, by simp⟩⟩

namespace Resource

/-- The fields of the model of a resource and all that is declared for it in the package are
called by identifiers. -/
structure ValidNames (alphabet : Alphabet) (config : Config) (r : Resource) : Prop where
  fields : ∀ record ∈ r.records, alphabet.isIdentifier record.identifier = true
  package : ∀ name ∈ r.packageNames config, alphabet.isIdentifier name = true

end Resource

/-! ## ASCII -/

theorem isPart_upper_iff {c : Char} (hc : c.toNat < 128) :
    (∀ d ∈ upper c, alphabet.isPart d = true) ↔ alphabet.isPart c = true := by
  obtain ⟨d, hupper, hcode⟩ := upper_of_ascii hc
  rw [hupper, List.forall_mem_singleton]
  refine (isPart_congr_of_ascii hc ?_).2
  split at hcode
  · next hlower => exact Or.inr (Or.inr ⟨hlower, hcode⟩)
  · exact Or.inl hcode

theorem isPart_folded_iff (alphabet : Alphabet) {c : Char} (hc : c.toNat < 128) :
    (∀ d ∈ Naming.folded c, d.toNat < 128) ∧
      ((∀ d ∈ Naming.folded c, alphabet.isPart d = true) ↔ alphabet.isPart c = true) := by
  obtain ⟨d, hfolded, hcode⟩ := Naming.folded_of_ascii hc
  rw [hfolded, List.forall_mem_singleton, List.forall_mem_singleton]
  refine isPart_congr_of_ascii hc ?_
  split at hcode
  · next hupper => exact Or.inr (Or.inl ⟨hupper, hcode⟩)
  · exact Or.inl hcode

/-- The characters of an ASCII name may stand in an identifier if those of its Pascal spelling
may. -/
theorem isPart_pascal_iff {name : String} (hascii : ∀ c ∈ name.toList, c.toNat < 128) :
    (∀ c ∈ (Naming.pascal name).toList, alphabet.isPart c = true) ↔
      ∀ c ∈ name.toList, alphabet.isPart c = true := by
  rw [Naming.pascal, String.toList_ofList,
    Naming.forall_mem_pascalChars_iff fun c hc => isPart_upper_iff (hascii c hc)]
  refine forall₂_congr fun c _ => or_iff_right_of_imp ?_
  rintro rfl
  exact isPart_underscore

/-- The characters of an ASCII key may stand in an identifier, separators apart, if those of its
snake spelling may; and the spelling is ASCII too. -/
theorem isPart_snake_iff (alphabet : Alphabet) {key : String}
    (hascii : ∀ c ∈ key.toList, c.toNat < 128) :
    (∀ c ∈ (Naming.snake key).toList, c.toNat < 128) ∧
      ((∀ c ∈ (Naming.snake key).toList, alphabet.isPart c = true) ↔
        ∀ c ∈ key.toList, Naming.isSeparator c = true ∨ alphabet.isPart c = true) := by
  rw [Naming.snake, String.toList_ofList]
  constructor
  · have hcodes := (Naming.forall_mem_snakeChars_iff (p := fun c => c.toNat < 128) fun c hc =>
      iff_of_true (isPart_folded_iff .ascii (hascii c hc)).1 (hascii c hc)).mpr
        fun c hc => Or.inr (hascii c hc)
    intro c hc
    rcases hcodes c hc with rfl | hlt
    · decide
    · exact hlt
  · rw [← Naming.forall_mem_snakeChars_iff fun c hc => (isPart_folded_iff alphabet (hascii c hc)).2]
    refine forall₂_congr fun c _ => (or_iff_right_of_imp ?_).symm
    rintro rfl
    exact isPart_underscore

/-- The Pascal spelling of an ASCII name begins as an identifier if the name, underscores apart,
begins with a letter. -/
theorem isStart_pascal_iff {name : String} (hascii : ∀ c ∈ name.toList, c.toNat < 128) :
    (∀ c ∈ (Naming.pascal name).toList.head?, alphabet.isStart c = true) ↔
      ∀ c ∈ name.toList.find? (· != '_'), isAsciiLetter c = true := by
  rw [Naming.pascal, String.toList_ofList, Naming.head?_pascalChars hascii]
  cases hfirst : name.toList.find? (· != '_') with
  | none => simp
  | some c =>
    have hc := hascii c (List.mem_of_find?_eq_some hfirst)
    have hne : c.toNat ≠ 95 := by
      have hfound : c ≠ '_' := by simpa using List.find?_some hfirst
      exact fun hcode => hfound (Char.toNat_inj.mp hcode)
    obtain ⟨d, hupper, hcode⟩ := upper_of_ascii hc
    have hd : d.toNat < 128 := by
      split at hcode <;> omega
    have hunderscore : d = '_' ↔ d.toNat = 95 := (Char.toNat_inj (d := '_')).symm
    rw [Option.bind_some, hupper, List.head?_cons]
    simp only [Option.mem_def, Option.some.injEq, forall_eq', isStart,
      alphabet.isLetter_ascii d hd, Bool.or_eq_true, beq_iff_eq, hunderscore, isAsciiLetter_iff]
    split at hcode
    · next hlower =>
      have := isAsciiLower_iff.mp hlower
      omega
    · next hlower =>
      rw [isAsciiLower_iff] at hlower
      omega

/-! ## The main statement -/

/-- **Which names are identifiers.** The fields of the model are called by identifiers if the
Pascal spellings of the outermost names have no other characters, and the package names if the
title has no other characters and begins with a letter. In ASCII that can be read off the
document: each key needs letters, digits and separators only, and the name of the resource
letters, digits and underscores, the first character that is no underscore a letter. -/
theorem validNames_iff {bytes : ByteArray} {resources : List Resource}
    (h : parseDocument bytes = .ok resources) {r : Resource} (hr : r ∈ resources)
    (alphabet : Alphabet) (config : Config) :
    (r.ValidNames alphabet config ↔
        (∀ field ∈ r.attributes, ∀ c ∈ (Naming.pascal field.name).toList,
          alphabet.isPart c = true) ∧
        (∀ c ∈ r.title.toList.head?, alphabet.isStart c = true) ∧
        ∀ c ∈ r.title.toList, alphabet.isPart c = true) ∧
      ((∀ field ∈ r.attributes, ∀ c ∈ field.source.toList, c.toNat < 128) →
        (∀ c ∈ r.name.toList, c.toNat < 128) →
        (r.ValidNames alphabet config ↔
          (∀ field ∈ r.attributes, ∀ c ∈ field.source.toList, Naming.isSeparator c = true ∨
            isAsciiLetter c = true ∨ isAsciiDigit c = true) ∧
          (∀ c ∈ r.name.toList.find? (· != '_'), isAsciiLetter c = true) ∧
          ∀ c ∈ r.name.toList, isAsciiLetter c = true ∨ isAsciiDigit c = true ∨ c = '_')) := by
  have hvalid : r.ValidNames alphabet config ↔
      (∀ field ∈ r.attributes, ∀ c ∈ (Naming.pascal field.name).toList,
        alphabet.isPart c = true) ∧
      (∀ c ∈ r.title.toList.head?, alphabet.isStart c = true) ∧
      ∀ c ∈ r.title.toList, alphabet.isPart c = true := by
    have hfields : (∀ record ∈ r.records, alphabet.isIdentifier record.identifier = true) ↔
        ∀ field ∈ r.attributes, ∀ c ∈ (Naming.pascal field.name).toList,
          alphabet.isPart c = true := by
      rw [← List.forall_mem_map (P := fun name => alphabet.isIdentifier name = true),
        Resource.records_identifiers, List.forall_mem_map]
      exact forall₂_congr fun field _ => isIdentifier_fieldIdentifier_iff field.name
    rw [← hfields, ← isIdentifier_packageNames_iff config]
    exact ⟨fun valid => ⟨valid.fields, valid.package⟩, fun ⟨hf, hp⟩ => ⟨hf, hp⟩⟩
  refine ⟨hvalid, fun hkeys hname => hvalid.trans (and_congr ?_ (and_congr ?_ ?_))⟩
  · have hkeyed := namedByKey_of_parseDocument h hr .outermost
    refine forall₂_congr fun field hfield => ?_
    obtain ⟨hcodes, hparts⟩ := isPart_snake_iff alphabet (hkeys field hfield)
    rw [hkeyed.spelled field hfield, isPart_pascal_iff hcodes, hparts]
    refine forall₂_congr fun c hc => ?_
    rw [isPart_iff_of_ascii (hkeys field hfield c hc), ← or_assoc, ← or_assoc, ← or_assoc]
    refine or_iff_left_of_imp ?_
    rintro rfl
    exact Or.inl (Or.inl rfl)
  · exact isStart_pascal_iff hname
  · rw [Resource.title, isPart_pascal_iff hname]
    exact forall₂_congr fun c hc => isPart_iff_of_ascii (hname c hc)

/-! ## Two documents -/

/-- The names of resources and the keys of their attributes. -/
def namesAndKeys (resources : List Resource) : List (String × List String) :=
  resources.map fun r => (r.name, r.attributes.map Field.source)

/-- A document with names of letters. -/
def ticketLines : List String :=
  documentLines (postLines "/tickets" ["\"dueDate\":\x7b\x7d"])

theorem ticketLines_names :
    (resourcesOfJson (ticketLines.flatMap String.toList)).map namesAndKeys =
      some [("ticket", ["id", "dueDate"])] := by
  decide +kernel

/-- The names of a ticket are identifiers. -/
theorem ticketLines_validNames :
    ∃ resources r, parseDocument (String.join ticketLines).toUTF8 = .ok resources ∧
      r ∈ resources ∧ r.name = "ticket" ∧ r.attributes.map Field.source = ["id", "dueDate"] ∧
      r.ValidNames .ascii {} := by
  obtain ⟨resources, hparse, hview⟩ := exists_parseDocument ticketLines_names
  obtain ⟨r, rfl, hr⟩ := List.map_eq_singleton_iff.mp hview
  obtain ⟨hname, hkeys⟩ := Prod.mk.inj hr
  have hmem : r ∈ [r] := List.mem_singleton.mpr rfl
  have hascii : ∀ key ∈ r.attributes.map Field.source, ∀ c ∈ key.toList, c.toNat < 128 := by
    rw [hkeys]
    decide
  have hplain : ∀ key ∈ r.attributes.map Field.source, ∀ c ∈ key.toList,
      Naming.isSeparator c = true ∨ isAsciiLetter c = true ∨ isAsciiDigit c = true := by
    rw [hkeys]
    decide
  have hfirst : "ticket".toList.find? (· != '_') = some 't' := by decide
  rw [List.forall_mem_map] at hascii hplain
  refine ⟨[r], r, hparse, hmem, hname, hkeys,
    ((validNames_iff hparse hmem .ascii {}).2 hascii ?_).mpr ⟨hplain, ?_, ?_⟩⟩
  · rw [hname]
    decide
  · rw [hname, hfirst]
    rintro c ⟨⟩
    decide
  · rw [hname]
    decide

/-- A document with a sign in a key and a digit in front of a path segment. -/
def factorLines : List String :=
  documentLines (postLines "/2fas" ["\"a/b\":\x7b\x7d"])

theorem factorLines_names :
    (resourcesOfJson (factorLines.flatMap String.toList)).map
        (List.map fun r => (r.title, r.records.map Record.identifier)) =
      some [("2fa", ["Id", "A/b"])] := by
  decide +kernel

/-- The sign ends up in the name of a field, and the digit in front of a declared name. -/
theorem factorLines_not_validNames :
    ∃ resources r, parseDocument (String.join factorLines).toUTF8 = .ok resources ∧
      r ∈ resources ∧ r.records.map Record.identifier = ["Id", "A/b"] ∧
      ∀ (alphabet : Alphabet) (config : Config),
        alphabet.isIdentifier "A/b" = false ∧
        "2faResource" ∈ r.packageNames config ∧ alphabet.isIdentifier "2faResource" = false ∧
        ¬ r.ValidNames alphabet config := by
  obtain ⟨resources, hparse, hview⟩ := exists_parseDocument factorLines_names
  obtain ⟨r, rfl, hr⟩ := List.map_eq_singleton_iff.mp hview
  obtain ⟨htitle, hidentifiers⟩ := Prod.mk.inj hr
  refine ⟨[r], r, hparse, List.mem_singleton.mpr rfl, hidentifiers, fun alphabet config => ?_⟩
  have hfield : alphabet.isIdentifier "A/b" = false := by
    rw [Bool.eq_false_iff, ne_eq, isIdentifier_iff]
    rintro ⟨-, -, hparts⟩
    have hmem : '/' ∈ "A/b".toList := by decide
    have hslash := (isPart_iff_of_ascii (by decide)).mp (hparts '/' hmem)
    exact absurd hslash (by decide)
  have hstruct : alphabet.isIdentifier "2faResource" = false := by
    rw [Bool.eq_false_iff, ne_eq, isIdentifier_iff]
    rintro ⟨-, hhead, -⟩
    have hfirst : "2faResource".toList.head? = some '2' := by decide
    have hdigit := hhead '2' hfirst
    rw [isStart, alphabet.isLetter_ascii '2' (by decide)] at hdigit
    exact absurd hdigit (by decide)
  have hname : "2fa" ++ "Resource" = "2faResource" := by decide
  refine ⟨hfield, ?_, hstruct, fun valid => ?_⟩
  · rw [Resource.packageNames_eq, Resource.packageStems, htitle, ← hname]
    exact List.mem_cons_self ..
  · have hmem : "A/b" ∈ r.records.map Record.identifier := by
      rw [hidentifiers]
      decide
    obtain ⟨record, hrecord, hsame⟩ := List.mem_map.mp hmem
    have hvalid := valid.fields record hrecord
    rw [hsame, hfield] at hvalid
    exact Bool.false_ne_true hvalid

end ProviderGen
