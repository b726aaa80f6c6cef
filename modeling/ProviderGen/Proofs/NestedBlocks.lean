/-
Links to blocks.

A path is read back from its anchor. The names of a document have neither dots nor hyphens, because
the snake spelling parts words at both, so the dots of a path are those between names and the
hyphens of an anchor are those that stand for dots. So two blocks have one anchor just if the names
on the way to them are the same, and then two attributes side by side share a name. The path of
an outermost attribute is its name, which has no dot, so the link on a page leads to its block.
-/
import ProviderGen.Proofs.BlockOrder
import ProviderGen.Proofs.CodeLines
import ProviderGen.Proofs.DataSourcePage
import ProviderGen.Proofs.Levels
import ProviderGen.Proofs.Reading
import ProviderGen.Proofs.Spelling

set_option autoImplicit false

namespace ProviderGen

open ProviderGen.Text

/-! ## Anchors -/

/-- The anchor of a block on a page. -/
def Block.anchor (block : Block) : String := replaceAll block.path "." "--"

/-- In a text one character is replaced by characters. -/
theorem replaceChars_singleton (a : Char) (new : List Char) {fuel : Nat} {s : List Char}
    (h : s.length ≤ fuel) :
    replaceChars [a] new fuel s = s.flatMap fun c => if c = a then new else [c] := by
  induction fuel generalizing s with
  | zero =>
    rw [List.length_eq_zero_iff.mp (Nat.le_zero.mp h)]
    rfl
  | succ fuel ih =>
    cases s with
    | nil => rfl
    | cons c rest =>
      have hrest := ih (Nat.le_of_succ_le_succ h)
      rw [replaceChars, List.flatMap_cons]
      by_cases hc : c = a
      · subst hc
        rw [if_pos (by simp), if_pos rfl]
        exact congrArg _ hrest
      · rw [if_neg (by simp [Ne.symm hc]), if_neg hc, hrest]
        rfl

theorem toList_replaceAll_dots (s : String) :
    (replaceAll s "." "--").toList = s.toList.flatMap fun c => if c = '.' then ['-', '-'] else [c] := by
  unfold replaceAll
  rw [if_neg (by decide), String.toList_ofList]
  exact replaceChars_singleton '.' ['-', '-'] (Nat.le_refl _)

/-- A text without dots is its own anchor. -/
theorem replaceAll_eq_self {s : String} (h : '.' ∉ s.toList) : replaceAll s "." "--" = s := by
  have hchars : ∀ chars : List Char, '.' ∉ chars →
      chars.flatMap (fun c => if c = '.' then ['-', '-'] else [c]) = chars := by
    intro chars hchars
    induction chars with
    | nil => rfl
    | cons c rest ih =>
      rw [List.mem_cons, not_or] at hchars
      rw [List.flatMap_cons, if_neg (Ne.symm hchars.1), ih hchars.2]
      rfl
  rw [← String.toList_inj, toList_replaceAll_dots, hchars _ h]

/-- Dots are read back from hyphens where there were no hyphens before. -/
theorem flatMap_dots_inj {s t : List Char} (hs : '-' ∉ s) (ht : '-' ∉ t)
    (h : (s.flatMap fun c => if c = '.' then ['-', '-'] else [c]) =
      t.flatMap fun c => if c = '.' then ['-', '-'] else [c]) : s = t := by
  induction s generalizing t with
  | nil =>
    cases t with
    | nil => rfl
    | cons d t =>
      rw [List.flatMap_nil, List.flatMap_cons] at h
      split at h <;> cases h
  | cons c s ih =>
    cases t with
    | nil =>
      rw [List.flatMap_nil, List.flatMap_cons] at h
      split at h <;> cases h
    | cons d t =>
      rw [List.mem_cons, not_or] at hs ht
      rw [List.flatMap_cons, List.flatMap_cons] at h
      by_cases hc : c = '.'
      · by_cases hd : d = '.'
        · rw [if_pos hc, if_pos hd, List.append_cancel_left_eq] at h
          rw [hc, hd, ih hs.2 ht.2 h]
        · rw [if_pos hc, if_neg hd] at h
          exact absurd (List.cons.inj h).1 ht.1
      · by_cases hd : d = '.'
        · rw [if_neg hc, if_pos hd] at h
          exact absurd (List.cons.inj h).1.symm hs.1
        · rw [if_neg hc, if_neg hd] at h
          obtain ⟨rfl, hrest⟩ := List.cons.inj h
          rw [ih hs.2 ht.2 hrest]

/-- A name has neither dots nor hyphens. -/
def Unparted (name : String) : Prop := '.' ∉ name.toList ∧ '-' ∉ name.toList

/-- **Names are read back from an anchor.** -/
theorem anchor_inj {block block' : Block} {names names' : List String} (hnil : names ≠ [])
    (hnil' : names' ≠ []) (hnames : ∀ name ∈ names, Unparted name)
    (hnames' : ∀ name ∈ names', Unparted name) (hpath : block.path = ".".intercalate names)
    (hpath' : block'.path = ".".intercalate names') (h : block.anchor = block'.anchor) :
    names = names' := by
  -- all hyphens of an anchor were dots of the path, and these all stand between names
  have hhyphen {names : List String} (hnames : ∀ name ∈ names, Unparted name) :
      '-' ∉ (".".intercalate names).toList :=
    not_mem_intercalate (by decide) fun name hname => (hnames name hname).2
  have hsplit {names : List String} (hnil : names ≠ []) (hnames : ∀ name ∈ names, Unparted name) :
      (".".intercalate names).toList.splitOn '.' = names.map String.toList := by
    rw [String.toList_intercalate]
    refine List.splitOn_intercalate '.' ?_ (by simpa using hnil)
    rw [List.forall_mem_map]
    exact fun name hname => (hnames name hname).1
  have hpaths : (".".intercalate names).toList = (".".intercalate names').toList := by
    rw [Block.anchor, Block.anchor, ← String.toList_inj, toList_replaceAll_dots,
      toList_replaceAll_dots, hpath, hpath'] at h
    exact flatMap_dots_inj (hhyphen hnames) (hhyphen hnames') h
  have hlists := congrArg (List.splitOn '.') hpaths
  rw [hsplit hnil hnames, hsplit hnil' hnames'] at hlists
  exact List.map_injective_iff.mpr (fun _ _ => String.toList_inj.mp) hlists

/-! ## Blocks with one anchor -/

/-- No two records that stand side by side and hold others have one name. -/
def HoldersApart (records : List Record) : Prop :=
  ∀ (position : List Nat) (i j : Nat) (a b : Record), i ≠ j →
    recordAt records (position ++ [i]) = some a → recordAt records (position ++ [j]) = some b →
      a.nested ≠ [] → b.nested ≠ [] → a.name ≠ b.name

theorem HoldersApart.nested {records : List Record} (h : HoldersApart records) {i : Nat}
    {record : Record} (hrecord : records[i]? = some record) : HoldersApart record.nested := by
  intro position j k a b hne ha hb
  have hbelow (l : Nat) :
      recordAt records (i :: position ++ [l]) = recordAt record.nested (position ++ [l]) :=
    recordAt_cons hrecord (List.append_ne_nil_of_right_ne_nil _ (List.cons_ne_nil l []))
  refine h (i :: position) j k a b hne ?_ ?_
  · rw [hbelow, ha]
  · rw [hbelow, hb]

/-- On the way to a record that holds others every record holds others. -/
theorem nested_ne_nil_of_recordAt {record there : Record} {rest : List Nat}
    (h : rest = [] ∧ there = record ∨ rest ≠ [] ∧ recordAt record.nested rest = some there)
    (hthere : there.nested ≠ []) : record.nested ≠ [] := by
  rcases h with ⟨-, rfl⟩ | ⟨hrest, hat⟩
  · exact hthere
  · intro hnil
    obtain ⟨i, rest, rfl⟩ := List.exists_cons_of_ne_nil hrest
    obtain ⟨child, hchild, -⟩ := exists_of_recordAt_cons hat
    rw [hnil] at hchild
    cases hchild

/-- **Names lead to one place** where those who stand side by side and hold others are apart. -/
theorem HoldersApart.eq_of_namesAt {records : List Record} (h : HoldersApart records)
    {p q : List Nat} {a b : Record} (hp : recordAt records p = some a) (ha : a.nested ≠ [])
    (hq : recordAt records q = some b) (hb : b.nested ≠ [])
    (hnames : namesAt records p = namesAt records q) : p = q := by
  induction p generalizing records q with
  | nil => cases hp
  | cons i rest ih =>
    cases q with
    | nil => cases hq
    | cons j rest' =>
      obtain ⟨x, hx, hpx⟩ := exists_of_recordAt_cons hp
      obtain ⟨y, hy, hqy⟩ := exists_of_recordAt_cons hq
      rw [namesAt_cons hx, namesAt_cons hy, List.cons.injEq] at hnames
      obtain ⟨hname, hbelow⟩ := hnames
      have hij : i = j := by
        -- otherwise two that hold others stand side by side and share a name
        by_contra hne
        have hx' : recordAt records ([] ++ [i]) = some x := by
          rw [List.nil_append, recordAt_singleton, hx]
        have hy' : recordAt records ([] ++ [j]) = some y := by
          rw [List.nil_append, recordAt_singleton, hy]
        exact h [] i j x y hne hx' hy' (nested_ne_nil_of_recordAt hpx ha)
          (nested_ne_nil_of_recordAt hqy hb) hname
      subst hij
      obtain rfl := Option.some.inj (hx.symm.trans hy)
      -- either both ways end here, or both go on within the same record
      rcases hpx with ⟨rfl, -⟩ | ⟨hrest, hpx⟩
      · rcases hqy with ⟨rfl, -⟩ | ⟨-, hqy⟩
        · rfl
        · exact absurd hbelow.symm (namesAt_ne_nil hqy)
      · rcases hqy with ⟨rfl, -⟩ | ⟨-, hqy⟩
        · exact absurd hbelow (namesAt_ne_nil hpx)
        · rw [ih (h.nested hx) hpx hqy hbelow]

/-- **When anchors are distinct**: just if no two records that stand side by side and hold others
have one name. -/
theorem nodup_anchors_iff {records : List Record} (hnamed : Record.allNamed records = true)
    (hunparted : ∀ position there, recordAt records position = some there → Unparted there.name) :
    ((blocksOf records).map Block.anchor).Nodup ↔ HoldersApart records := by
  obtain ⟨positions, hsorted, hmem, hvalues⟩ := enumerates_blocksOf hnamed
  have hdistinct : positions.Nodup := by
    refine List.Pairwise.imp ?_ hsorted
    rintro p q hlt rfl
    exact List.lt_irrefl p hlt
  have hanchors : ((blocksOf records).map Block.anchor).map some =
      positions.map fun position => (blockAt records position).map Block.anchor := by
    have hmapped := congrArg (List.map (Option.map Block.anchor)) hvalues
    rw [List.map_map, List.map_map] at hmapped
    rw [List.map_map]
    exact hmapped.symm
  have hnames (position : List Nat) : ∀ name ∈ namesAt records position, Unparted name := by
    intro name hname
    obtain ⟨position', there, hthere, rfl⟩ := exists_of_mem_namesAt hname
    exact hunparted position' there hthere
  have hsome : ((blocksOf records).map Block.anchor).Nodup ↔
      (((blocksOf records).map Block.anchor).map some).Nodup :=
    (List.nodup_map_iff fun _ _ => Option.some.inj).symm
  -- positions are distinct, so anchors are if they are never those of two positions
  rw [hsome, hanchors, List.nodup_map_iff_inj_on hdistinct]
  constructor
  · intro hinj position i j a b hne ha hb hholds hholds' hname
    have hblock (k : Nat) (there : Record) (hthere : recordAt records (position ++ [k]) = some there)
        (hnested : there.nested ≠ []) :
        blockAt records (position ++ [k]) =
          some ⟨".".intercalate (namesAt records position ++ [there.name]), there.nested⟩ := by
      rw [← namesAt_concat hthere]
      exact blockAt_eq_some_iff.mpr ⟨there, hthere, hnested, rfl⟩
    have hi := hblock i a ha hholds
    have hj := hblock j b hb hholds'
    have hsame := hinj _ ((hmem _).mpr (by rw [hi]; rfl)) _ ((hmem _).mpr (by rw [hj]; rfl))
      (by rw [hi, hj, hname]; rfl)
    rw [List.append_cancel_left_eq, List.cons.injEq] at hsame
    exact hne hsame.1
  · intro hapart p hp q hq hsame
    obtain ⟨block, hblock⟩ := Option.isSome_iff_exists.mp ((hmem p).mp hp)
    obtain ⟨block', hblock'⟩ := Option.isSome_iff_exists.mp ((hmem q).mp hq)
    obtain ⟨a, ha, hholds, hpath⟩ := blockAt_eq_some_iff.mp hblock
    obtain ⟨b, hb, hholds', hpath'⟩ := blockAt_eq_some_iff.mp hblock'
    rw [hblock, hblock', Option.map_some, Option.map_some, Option.some.injEq] at hsame
    exact hapart.eq_of_namesAt ha hholds hb hholds'
      (anchor_inj (namesAt_ne_nil ha) (namesAt_ne_nil hb) (hnames p) (hnames q)
        (congrArg Block.path hpath) (congrArg Block.path hpath') hsame)

/-! ## Resources of a document -/

/-- What is at a position within an attribute of a level is an attribute of a level. -/
theorem Level.exists_of_atPosition {fields level : List Field} (h : Level fields level)
    {field there : Field} (hfield : field ∈ level) {position : List Nat}
    (hthere : atPosition Field.inner position field = some there) :
    ∃ level', Level fields level' ∧ there ∈ level' := by
  induction position generalizing level field with
  | nil =>
    obtain rfl := Option.some.inj hthere
    exact ⟨level, h, hfield⟩
  | cons i rest ih =>
    obtain ⟨child, hchild, hrest⟩ := atPosition_cons_eq_some_iff.mp hthere
    exact ih (.inside h hfield) (List.mem_of_getElem? hchild) hrest

/-- The records of a resource have the names of attributes. -/
theorem Resource.exists_of_recordAt {r : Resource} {position : List Nat} {there : Record}
    (h : recordAt r.records position = some there) :
    ∃ level field, Level r.attributes level ∧ field ∈ level ∧ there.name = field.name := by
  cases position with
  | nil => cases h
  | cons i rest =>
    obtain ⟨record, hrecord, hthere⟩ := atAmong_cons_eq_some_iff.mp h
    rw [Resource.records, recordsOf, Field.toRecords_eq, List.getElem?_map, Option.map_eq_some_iff]
      at hrecord
    obtain ⟨field, hfield, rfl⟩ := hrecord
    have hmade := field.atPosition_recordTold rest (attributeDepth, false)
    rw [Field.recordTold, hthere, eq_comm, Option.map_eq_some_iff] at hmade
    obtain ⟨inner, hinner, rfl⟩ := hmade
    obtain ⟨level, hlevel, hmem⟩ :=
      Level.outermost.exists_of_atPosition (List.mem_of_getElem? hfield) hinner
    exact ⟨level, inner, hlevel, hmem, Field.toRecord_name ..⟩

/-- **The names of a document have neither dots nor hyphens.** -/
theorem unparted_of_parseDocument {bytes : ByteArray} {resources : List Resource}
    (h : parseDocument bytes = .ok resources) {r : Resource} (hr : r ∈ resources)
    {position : List Nat} {there : Record} (hthere : recordAt r.records position = some there) :
    Unparted there.name := by
  obtain ⟨level, field, hlevel, hfield, hname⟩ := Resource.exists_of_recordAt hthere
  have hspelled := (namedByKey_of_parseDocument h hr hlevel).spelled field hfield
  have hnot {c : Char} (hsep : Naming.isSeparator c = true) (hc : c ≠ '_') :
      c ∉ there.name.toList := by
    intro hmem
    rw [hname, hspelled, Naming.snake, String.toList_ofList] at hmem
    rw [Naming.isSeparator_of_mem_snakeChars hc hmem] at hsep
    cases hsep
  exact ⟨hnot (by decide) (by decide), hnot (by decide) (by decide)⟩

/-! ## Links -/

/-- The link at a record leads to the block of the record, on both pages. -/
structure LinkedAt (r : Resource) (record : Record) (block : Block) : Prop where
  link : record.linkNote = " (see [below for nested schema](#nestedatt--" ++ block.anchor ++ "))"
  onResourcePage : ∀ config, PageLine.plain ("<a id=\"nestedatt--" ++ block.anchor ++ "\"></a>") ∈
    Page.resourceLines config r
  onDataSourcePage : ∀ config,
    PageLine.plain ("<a id=\"nestedatt--" ++ block.anchor ++ "\"></a>") ∈
      Page.dataSourceLines config r

theorem anchor_mem_linesOfBlock (remarks : List String) (line : Record → PageLine) (block : Block) :
    PageLine.plain ("<a id=\"nestedatt--" ++ block.anchor ++ "\"></a>") ∈
      Page.linesOfBlock remarks line block := by
  simp [Page.linesOfBlock, PageLine.plains, Block.anchor]

/-- Both pages have the anchors of all blocks. -/
theorem anchor_mem_pages {r : Resource} {block : Block} (h : block ∈ blocksOf r.records)
    (config : Config) :
    PageLine.plain ("<a id=\"nestedatt--" ++ block.anchor ++ "\"></a>") ∈
        Page.resourceLines config r ∧
      PageLine.plain ("<a id=\"nestedatt--" ++ block.anchor ++ "\"></a>") ∈
        Page.dataSourceLines config r := by
  have hresource : Page.resourceBlocks r ⊆ Page.resourceLines config r := by
    unfold Page.resourceLines
    exact fun line hline => List.mem_append_left _ (List.mem_append_right _ hline)
  have hdataSource : Page.dataSourceBlocks r ⊆ Page.dataSourceLines config r := by
    unfold Page.dataSourceLines
    exact fun line hline => List.mem_append_right _ hline
  constructor
  · exact hresource (List.mem_flatMap.mpr ⟨block, h, anchor_mem_linesOfBlock ..⟩)
  · exact hdataSource (List.mem_flatMap.mpr ⟨block, h, anchor_mem_linesOfBlock ..⟩)

/-- An outermost attribute that holds others is linked to its block, if its name has no dot. -/
theorem exists_linkedAt {r : Resource} (hnamed : Record.allNamed r.records = true) {i : Nat}
    {record : Record} (hrecord : r.records[i]? = some record) (hholds : record.nested ≠ [])
    (hunparted : Unparted record.name) :
    ∃ block, blockAt r.records [i] = some block ∧ LinkedAt r record block := by
  have hat : recordAt r.records [i] = some record := by rw [recordAt_singleton, hrecord]
  have hblock := blockAt_eq_some_iff.mpr ⟨record, hat, hholds, rfl⟩
  have hmem := (enumerates_blocksOf hnamed).mem_iff.mpr ⟨[i], hblock⟩
  have hanchor : Block.anchor ⟨".".intercalate (namesAt r.records [i]), record.nested⟩ =
      record.name := by
    rw [Block.anchor, namesAt_cons hrecord, namesAt, String.intercalate_singleton]
    exact replaceAll_eq_self hunparted.1
  refine ⟨_, hblock, ?_, fun config => (anchor_mem_pages hmem config).1,
    fun config => (anchor_mem_pages hmem config).2⟩
  rw [hanchor, Record.linkNote, if_neg fun hempty => hholds (List.isEmpty_iff.mp hempty)]

/-- **Links lead to blocks.** Among records without empty names there is one block for each that
holds others, in depth-first order, and its path are the names on the way. Where such records come
from a document, the anchors of their blocks are distinct unless two records that stand side by side
and hold others share a name, and each outermost one that holds others is linked to its block. -/
theorem nestedBlocks_linked :
    (∀ records : List Record, Record.allNamed records = true →
      Enumerates (blockAt records) (blocksOf records)) ∧
    ∀ (bytes : ByteArray) (resources : List Resource) (r : Resource),
      parseDocument bytes = .ok resources → r ∈ resources → Record.allNamed r.records = true →
        (((blocksOf r.records).map Block.anchor).Nodup ↔ HoldersApart r.records) ∧
          ∀ (i : Nat) (record : Record), r.records[i]? = some record →
            if record.nested = [] then record.linkNote = ""
            else ∃ block, blockAt r.records [i] = some block ∧ LinkedAt r record block := by
  refine ⟨fun records => enumerates_blocksOf, ?_⟩
  intro bytes resources r hparse hr hnamed
  have hunparted : ∀ position there, recordAt r.records position = some there →
      Unparted there.name :=
    fun position there => unparted_of_parseDocument hparse hr
  refine ⟨nodup_anchors_iff hnamed hunparted, ?_⟩
  intro i record hrecord
  by_cases hholds : record.nested = []
  · rw [if_pos hholds, Record.linkNote, if_pos (List.isEmpty_iff.mpr hholds)]
  · rw [if_neg hholds]
    have hat : recordAt r.records [i] = some record := by rw [recordAt_singleton, hrecord]
    exact exists_linkedAt hnamed hrecord hholds (hunparted [i] record hat)

/-- A document with objects in objects and in lists. -/
def clubLines : List String :=
  documentLines (postLines "/clubs"
    ["\"owner\":\x7b\"type\":\"object\",", "\"properties\":\x7b\"home\":\x7b\"type\":\"object\",",
      "\"properties\":\x7b\"city\":\x7b\x7d\x7d\x7d\x7d\x7d,",
      "\"rules\":\x7b\"type\":\"array\",", "\"items\":\x7b\"type\":\"object\",",
      "\"properties\":\x7b\"port\":\x7b\x7d\x7d\x7d\x7d"])

/-- Whether the records of resources are named, and the paths and anchors of their blocks. -/
def anchorsOf (resources : List Resource) : List (Bool × List (String × String)) :=
  resources.map fun r =>
    (Record.allNamed r.records, (blocksOf r.records).map fun block => (block.path, block.anchor))

/-- The blocks of a club are linked. -/
theorem clubLines_linked :
    ∃ resources r, parseDocument (String.join clubLines).toUTF8 = .ok resources ∧ r ∈ resources ∧
      Record.allNamed r.records = true ∧ Enumerates (blockAt r.records) (blocksOf r.records) ∧
      ((blocksOf r.records).map fun block => (block.path, block.anchor)) =
        [("owner", "owner"), ("owner.home", "owner--home"), ("rules", "rules")] ∧
      HoldersApart r.records ∧
      ∀ (i : Nat) (record : Record), r.records[i]? = some record → record.nested ≠ [] →
        ∃ block, blockAt r.records [i] = some block ∧ LinkedAt r record block := by
  have hanchors : (resourcesOfJson (clubLines.flatMap String.toList)).map anchorsOf =
      some [(true, [("owner", "owner"), ("owner.home", "owner--home"), ("rules", "rules")])] := by
    decide +kernel
  obtain ⟨resources, hparse, hseen⟩ := exists_parseDocument hanchors
  obtain ⟨r, rfl, hr⟩ := List.map_eq_singleton_iff.mp hseen
  obtain ⟨hnamed, hblocks⟩ := Prod.mk.inj hr
  have hmem : r ∈ [r] := List.mem_singleton.mpr rfl
  obtain ⟨hdistinct, hlinks⟩ := nestedBlocks_linked.2 _ _ r hparse hmem hnamed
  refine ⟨[r], r, hparse, hmem, hnamed, nestedBlocks_linked.1 _ hnamed, hblocks,
    hdistinct.mp ?_, ?_⟩
  · have honly : (blocksOf r.records).map Block.anchor =
        ((blocksOf r.records).map fun block => (block.path, block.anchor)).map Prod.snd := by
      rw [List.map_map]
      rfl
    rw [honly, hblocks]
    decide
  · intro i record hrecord hholds
    have hlink := hlinks i record hrecord
    rw [if_neg hholds] at hlink
    exact hlink

end ProviderGen
