/-
Reading the bytes of a text.

UTF-8 writes a character in one to four bytes, and the first of them tells how many there are. So
the bytes of a text are read back character by character, and what they are read as is the text.
It follows that a document which is given as a text is the document of its bytes, and for a
document in JSON the resources can be computed from its characters.
-/
import ProviderGen.Proofs.ByteOrder
import ProviderGen.Proofs.Discovery
import ProviderGen.Resource.Parse

set_option autoImplicit false

namespace ProviderGen

open ProviderGen.Text

/-! ## Characters -/

namespace Text

variable {index : Nat} {done : List Char} {rest : List Nat} {a b c d : Nat}

theorem decodeFrom_one (ha : a < 0x80) :
    decodeFrom index done (a :: rest) = decodeFrom (index + 1) (Char.ofNat a :: done) rest := by
  rw [decodeFrom.eq_def]
  dsimp only
  rw [if_pos ha]

theorem decodeFrom_two (ha : 0xC2 ≤ a ∧ a < 0xE0) (hb : isContinuation b = true) :
    decodeFrom index done (a :: b :: rest) =
      decodeFrom (index + 2) (Char.ofNat ((a - 0xC0) * 64 + (b - 0x80)) :: done) rest := by
  rw [decodeFrom.eq_def]
  dsimp only
  rw [if_neg (by omega), if_neg (by omega), if_pos ha.2, if_pos hb]

theorem decodeFrom_three (ha : 0xE0 ≤ a ∧ a < 0xF0) (hb : mayFollow a b = true)
    (hc : isContinuation c = true) :
    decodeFrom index done (a :: b :: c :: rest) =
      decodeFrom (index + 3)
        (Char.ofNat (((a - 0xE0) * 64 + (b - 0x80)) * 64 + (c - 0x80)) :: done) rest := by
  rw [decodeFrom.eq_def]
  dsimp only
  rw [if_neg (by omega), if_neg (by omega), if_neg (by omega), hb, hc]
  exact if_pos ha.2

theorem decodeFrom_four (ha : 0xF0 ≤ a ∧ a ≤ 0xF4) (hb : mayFollow a b = true)
    (hc : isContinuation c = true) (hd : isContinuation d = true) :
    decodeFrom index done (a :: b :: c :: d :: rest) =
      decodeFrom (index + 4)
        (Char.ofNat ((((a - 0xF0) * 64 + (b - 0x80)) * 64 + (c - 0x80)) * 64 + (d - 0x80)) ::
          done) rest := by
  rw [decodeFrom.eq_def]
  dsimp only
  rw [if_neg (by omega), if_neg (by omega), if_neg (by omega), hb, hc, hd]
  exact if_neg (Nat.not_lt.mpr ha.1)

/-- The last six bits of a number, as a byte that goes on a character. -/
theorem isContinuation_low (n : Nat) : isContinuation (n % 64 + 128) = true := by
  unfold isContinuation
  rw [Bool.and_eq_true, decide_eq_true_eq, decide_eq_true_eq]
  omega

/-- The bytes of a character are read as the character. -/
theorem decodeFrom_utf8EncodeChar (c : Char) (index : Nat) (done : List Char) (rest : List Nat) :
    ∃ next, decodeFrom index done ((String.utf8EncodeChar c).map UInt8.toNat ++ rest) =
      decodeFrom next (c :: done) rest := by
  have hvalid : c.val.toNat.isValidChar := c.valid
  have hback : Char.ofNat c.val.toNat = c := Char.ofNat_toNat c
  unfold String.utf8EncodeChar
  dsimp only
  generalize c.val.toNat = n at hvalid hback
  unfold Nat.isValidChar at hvalid
  -- by the number of bytes
  split
  · refine ⟨index + 1, ?_⟩
    simp only [List.map_cons, List.map_nil, List.cons_append, List.nil_append, UInt8.toNat_ofNat']
    rw [decodeFrom_one (by omega), show n % 2 ^ 8 = n by omega, hback]
  · split
    · refine ⟨index + 2, ?_⟩
      simp only [List.map_cons, List.map_nil, List.cons_append, List.nil_append,
        UInt8.toNat_ofNat']
      rw [show (n / 64 % 32 + 192) % 2 ^ 8 = n / 64 + 192 by omega,
        show (n % 64 + 128) % 2 ^ 8 = n % 64 + 128 by omega,
        decodeFrom_two (by omega) (isContinuation_low n),
        show (n / 64 + 192 - 0xC0) * 64 + (n % 64 + 128 - 0x80) = n by omega, hback]
    · split
      · refine ⟨index + 3, ?_⟩
        simp only [List.map_cons, List.map_nil, List.cons_append, List.nil_append,
          UInt8.toNat_ofNat']
        -- three bytes are needed, and the code is that of no surrogate
        have hfollow : mayFollow (n / 4096 + 224) (n / 64 % 64 + 128) = true := by
          unfold mayFollow isContinuation
          split_ifs <;> simp only [Bool.and_eq_true, decide_eq_true_eq] <;> omega
        rw [show (n / 4096 % 16 + 224) % 2 ^ 8 = n / 4096 + 224 by omega,
          show (n / 64 % 64 + 128) % 2 ^ 8 = n / 64 % 64 + 128 by omega,
          show (n % 64 + 128) % 2 ^ 8 = n % 64 + 128 by omega,
          decodeFrom_three (by omega) hfollow (isContinuation_low n),
          show ((n / 4096 + 224 - 0xE0) * 64 + (n / 64 % 64 + 128 - 0x80)) * 64 +
            (n % 64 + 128 - 0x80) = n by omega, hback]
      · refine ⟨index + 4, ?_⟩
        simp only [List.map_cons, List.map_nil, List.cons_append, List.nil_append,
          UInt8.toNat_ofNat']
        -- four bytes are needed, and the code is not beyond the last one
        have hfollow : mayFollow (n / 262144 + 240) (n / 4096 % 64 + 128) = true := by
          unfold mayFollow isContinuation
          split_ifs <;> simp only [Bool.and_eq_true, decide_eq_true_eq] <;> omega
        rw [show (n / 262144 % 8 + 240) % 2 ^ 8 = n / 262144 + 240 by omega,
          show (n / 4096 % 64 + 128) % 2 ^ 8 = n / 4096 % 64 + 128 by omega,
          show (n / 64 % 64 + 128) % 2 ^ 8 = n / 64 % 64 + 128 by omega,
          show (n % 64 + 128) % 2 ^ 8 = n % 64 + 128 by omega,
          decodeFrom_four (by omega) hfollow (isContinuation_low _) (isContinuation_low n),
          show (((n / 262144 + 240 - 0xF0) * 64 + (n / 4096 % 64 + 128 - 0x80)) * 64 +
            (n / 64 % 64 + 128 - 0x80)) * 64 + (n % 64 + 128 - 0x80) = n by omega, hback]

theorem decodeFrom_flatMap (s : List Char) (index : Nat) (done : List Char) :
    decodeFrom index done ((s.flatMap String.utf8EncodeChar).map UInt8.toNat) =
      .ok (done.reverse ++ s) := by
  induction s generalizing index done with
  | nil => rw [List.flatMap_nil, List.map_nil, decodeFrom, List.append_nil]
  | cons c s ih =>
    rw [List.flatMap_cons, List.map_append]
    obtain ⟨next, hnext⟩ := decodeFrom_utf8EncodeChar c index done _
    rw [hnext, ih, List.reverse_cons, List.append_assoc, List.singleton_append]

/-- The bytes are collected from the front, those before in reverse. -/
theorem toList_loop_eq (bytes : ByteArray) (i : Nat) (before : List UInt8) :
    ByteArray.toList.loop bytes i before = before.reverse ++ bytes.data.toList.drop i := by
  fun_induction ByteArray.toList.loop bytes i before with
  | case1 i before h ih =>
    have hlt : i < bytes.data.toList.length := by simpa using h
    have hget : bytes.get! i = bytes.data.toList[i] := by
      change bytes.data[i]! = _
      rw [getElem!_pos bytes.data i h]
      rfl
    rw [ih, List.reverse_cons, List.append_assoc, List.singleton_append, hget,
      List.getElem_cons_drop]
  | case2 i before h =>
    rw [List.drop_eq_nil_of_le (by simpa using h), List.append_nil]

/-- **The bytes of a text are read as the text.** -/
theorem decodeUtf8_toUTF8 (text : String) : decodeUtf8 text.toUTF8 = .ok text := by
  unfold decodeUtf8
  rw [ByteArray.toList, toList_loop_eq]
  change (decodeFrom 0 [] ((utf8Bytes text).map UInt8.toNat)).map String.ofList = .ok text
  rw [utf8Bytes_eq, decodeFrom_flatMap]
  exact congrArg Except.ok String.ofList_toList

end Text

/-! ## Documents -/

namespace Document

/-- A document that is given as a text is the document of its bytes. -/
theorem ofBytes_toUTF8 (text : String) : ofBytes text.toUTF8 = ofText (formatOf text) text := by
  unfold ofBytes
  rw [decodeUtf8_toUTF8]

/-- The resources of a document before they are sorted. -/
def unsorted (doc : Document) : Except Failure (List Resource) := do
  let drafts ← doc.collections.mapM fun (path, item) => doc.draft path item
  checkNames [] drafts
  drafts.mapM doc.attach

/-- Resources that come in the order of their names are not moved. -/
theorem resources_of_unsorted {doc : Document} {resources : List Resource}
    (h : doc.unsorted = .ok resources)
    (hsorted : resources.Pairwise fun a b => decide (a.name ≤ b.name) = true) :
    doc.resources = .ok resources := by
  unfold unsorted at h
  obtain ⟨drafts, hdrafts, hrest⟩ := bind_eq_ok_iff.mp h
  obtain ⟨⟨⟩, hcheck, hattach⟩ := bind_eq_ok_iff.mp hrest
  refine resources_eq_ok_iff.mpr ⟨drafts, resources, mapM_eq_ok_iff.mp hdrafts, hcheck,
    mapM_eq_ok_iff.mp hattach, ?_⟩
  rw [List.mergeSort_of_pairwise hsorted]

end Document

/-! ## Documents in JSON -/

/-- What is found in characters as JSON. -/
def readingOfJson (s : List Char) : Reading where
  root := (Json.readValue (s.length + 1) s).1
  setting := { anchors := [], aliasLimit := 0, listRecords := true }
  depth := Json.nestingLimit
  clean := (Json.readValue (s.length + 1) s).2.any fun rest => (Json.skipBlanks rest).isEmpty

theorem read_eq (text : String) : Json.read text = readingOfJson text.toList := by
  unfold Json.read readingOfJson
  dsimp only
  cases (Json.readValue (text.toList.length + 1) text.toList).2 <;> rfl

/-- The resources of a document in JSON whose collections come in the order of their names, as
they are computed from its characters. -/
def resourcesOfJson (s : List Char) : Option (List Resource) := do
  let doc ← ((readingOfJson s).decode Document.decoder).toOption
  let accepted ← doc.accept.toOption
  let resources ← accepted.unsorted.toOption
  if (trimStart s).head? = some '\x7b' ∧
      resources.Pairwise fun a b => decide (a.name ≤ b.name) = true
  then some resources else none

/-- A document in JSON has the resources that are computed from its characters. -/
theorem parseDocument_of_json {text : String} {resources : List Resource}
    (h : resourcesOfJson text.toList = some resources) :
    parseDocument text.toUTF8 = .ok resources := by
  obtain ⟨doc, hread, h⟩ := Option.bind_eq_some_iff.mp h
  obtain ⟨accepted, haccept, h⟩ := Option.bind_eq_some_iff.mp h
  obtain ⟨listed, hunsorted, h⟩ := Option.bind_eq_some_iff.mp h
  rw [toOption_eq_some_iff] at hread haccept hunsorted
  split at h
  · next hholds =>
    obtain rfl := Option.some.inj h
    have hformat : Document.formatOf text = .json := by
      unfold Document.formatOf
      rw [if_pos hholds.1]
    have hbytes : Document.ofBytes text.toUTF8 = .ok accepted := by
      rw [Document.ofBytes_toUTF8, hformat]
      unfold Document.ofText
      dsimp only
      rw [read_eq, hread]
      exact haccept
    exact bind_eq_ok_iff.mpr
      ⟨accepted, hbytes, Document.resources_of_unsorted hunsorted hholds.2⟩
  · cases h

/-- What is computed of the resources of a document in JSON is true of them. -/
theorem exists_parseDocument {α : Type} {lines : List String} {view : List Resource → α} {seen : α}
    (h : (resourcesOfJson (lines.flatMap String.toList)).map view = some seen) :
    ∃ resources, parseDocument (String.join lines).toUTF8 = .ok resources ∧
      view resources = seen := by
  obtain ⟨resources, hresources, hseen⟩ := Option.map_eq_some_iff.mp h
  rw [← String.toList_join] at hresources
  exact ⟨resources, parseDocument_of_json hresources, hseen⟩

/-! ## Small documents -/

/-- The lines of a document in JSON, given those of its paths. -/
def documentLines (paths : List String) : List String :=
  ["\x7b\"openapi\":\"3.0.0\",", "\"info\":\x7b\"title\":\"t\",", "\"version\":\"1\"\x7d,",
    "\"paths\":\x7b"] ++ paths ++ ["\x7d\x7d"]

/-- The lines of a path whose payload to create has properties, given the lines of those. -/
def postLines (path : String) (properties : List String) : List String :=
  ["\"" ++ path ++ "\":\x7b\"post\":\x7b", "\"requestBody\":\x7b", "\"content\":\x7b",
    "\"application/json\":\x7b", "\"schema\":\x7b", "\"properties\":\x7b"] ++ properties ++
    ["\x7d\x7d\x7d\x7d\x7d\x7d\x7d"]

end ProviderGen
