/-
Blocks in depth-first order.

Positions among records are lists of numbers. If they are compared as such, a position comes before
those within it and these before all that follow, so the positions in order are those that a
depth-first search comes by. `Enumerates` says that a list has what there is at positions, once for
each and in this order; a list for what is at the outside and lists for what is within several make
one for the whole.

The blocks of records are collected with the path so far at hand. They are exactly those of the
records that hold others, in this order, and the path of each is made of the names on the way.
-/
import Mathlib.Data.List.Induction
import ProviderGen.Proofs.Nesting

set_option autoImplicit false

namespace ProviderGen

open ProviderGen.Text

/-! ## Positions in depth-first order -/

section Positions

variable {α β : Type} {f : List Nat → α → Option β} {as : List α} {a : α} {i : Nat} {rest : List Nat}

/-- What is at a position among several: the first number says which of them to enter, and the
others lead on from there. -/
def atAmong (f : List Nat → α → Option β) (as : List α) : List Nat → Option β
  | [] => none
  | i :: rest => as[i]?.bind (f rest)

theorem atAmong_cons_eq_some_iff {b : β} :
    atAmong f as (i :: rest) = some b ↔ ∃ a, as[i]? = some a ∧ f rest a = some b := by
  rw [atAmong, Option.bind_eq_some_iff]

theorem atAmong_concat_of_lt (h : i < as.length) :
    atAmong f (as ++ [a]) (i :: rest) = atAmong f as (i :: rest) := by
  rw [atAmong, atAmong, List.getElem?_append_left h]

theorem atAmong_concat_length : atAmong f (as ++ [a]) (as.length :: rest) = f rest a := by
  rw [atAmong, List.getElem?_concat_length, Option.bind_some]

theorem lt_length_of_isSome_atAmong (h : (atAmong f as (i :: rest)).isSome) : i < as.length := by
  obtain ⟨b, hb⟩ := Option.isSome_iff_exists.mp h
  obtain ⟨a, ha, -⟩ := atAmong_cons_eq_some_iff.mp hb
  exact (List.getElem?_eq_some_iff.mp ha).1

/-- A list has what there is at positions, once for each position that has something, in
depth-first order: first what is at a position, then what is within it, then what follows. -/
def Enumerates (f : List Nat → Option β) (values : List β) : Prop :=
  ∃ positions : List (List Nat), positions.Pairwise (· < ·) ∧
    (∀ position, position ∈ positions ↔ (f position).isSome = true) ∧
    positions.map f = values.map some

theorem Enumerates.mem_iff {f : List Nat → Option β} {values : List β} (h : Enumerates f values)
    {b : β} : b ∈ values ↔ ∃ position, f position = some b := by
  obtain ⟨positions, -, hmem, hvalues⟩ := h
  have hsome : b ∈ values ↔ some b ∈ positions.map f := by
    rw [hvalues, List.mem_map_of_injective fun _ _ => Option.some.inj]
  rw [hsome, List.mem_map]
  constructor
  · rintro ⟨position, -, hposition⟩
    exact ⟨position, hposition⟩
  · rintro ⟨position, hposition⟩
    exact ⟨position, (hmem position).mpr (by rw [hposition]; rfl), hposition⟩

/-- What is at the outside comes before all that is within. -/
theorem Enumerates.cons {f g : List Nat → Option β} {values : List β} (h : Enumerates f values)
    {b : β} (hhead : g [] = some b) (hnil : f [] = none)
    (hwithin : ∀ i rest, g (i :: rest) = f (i :: rest)) : Enumerates g (b :: values) := by
  obtain ⟨positions, hsorted, hmem, hvalues⟩ := h
  have hne : ∀ position ∈ positions, position ≠ [] := by
    rintro position hposition rfl
    have hsome := (hmem []).mp hposition
    rw [hnil] at hsome
    cases hsome
  have hsame : ∀ position ∈ positions, g position = f position := by
    intro position hposition
    obtain ⟨i, rest, rfl⟩ := List.exists_cons_of_ne_nil (hne position hposition)
    exact hwithin i rest
  refine ⟨[] :: positions, List.pairwise_cons.mpr ⟨?_, hsorted⟩, ?_, ?_⟩
  · intro position hposition
    obtain ⟨i, rest, rfl⟩ := List.exists_cons_of_ne_nil (hne position hposition)
    exact List.nil_lt_cons i rest
  · intro position
    cases position with
    | nil =>
      rw [hhead]
      exact iff_of_true (List.mem_cons_self ..) rfl
    | cons i rest =>
      rw [hwithin, ← hmem, List.mem_cons]
      exact or_iff_right (List.cons_ne_nil i rest)
  · rw [List.map_cons, List.map_cons, hhead, List.map_congr_left hsame, hvalues]

/-- What is within the first of several comes before what is within the next. -/
theorem enumerates_atAmong {values : α → List β} (h : ∀ a ∈ as, Enumerates (f · a) (values a)) :
    Enumerates (atAmong f as) (as.flatMap values) := by
  -- from the back: the numbers of those in front stay as they are
  induction as using List.reverseRecOn with
  | nil =>
    refine ⟨[], List.Pairwise.nil, ?_, rfl⟩
    intro position
    cases position <;> simp [atAmong]
  | append_singleton front a ih =>
    obtain ⟨within, hwithinSorted, hwithinMem, hwithinValues⟩ :=
      h a (List.mem_append_right _ (List.mem_singleton.mpr rfl))
    obtain ⟨before, hbeforeSorted, hbeforeMem, hbeforeValues⟩ :=
      ih fun b hb => h b (List.mem_append_left _ hb)
    -- the positions before lead into an earlier one
    have hbefore : ∀ position ∈ before, ∃ i rest, position = i :: rest ∧ i < front.length := by
      intro position hposition
      have hsome := (hbeforeMem position).mp hposition
      cases position with
      | nil => cases hsome
      | cons i rest => exact ⟨i, rest, rfl, lt_length_of_isSome_atAmong hsome⟩
    refine ⟨before ++ within.map (front.length :: ·), ?_, ?_, ?_⟩
    · rw [List.pairwise_append, List.pairwise_map]
      refine ⟨hbeforeSorted, hwithinSorted.imp fun hlt => ?_, ?_⟩
      · exact List.cons_lt_cons_iff.mpr (Or.inr ⟨rfl, hlt⟩)
      · intro position hposition later hlater
        obtain ⟨i, rest, rfl, hi⟩ := hbefore position hposition
        obtain ⟨rest', -, rfl⟩ := List.mem_map.mp hlater
        exact List.cons_lt_cons_iff.mpr (Or.inl hi)
    · intro position
      rw [List.mem_append, List.mem_map]
      cases position with
      | nil =>
        rw [hbeforeMem]
        simp [atAmong]
      | cons i rest =>
        rw [hbeforeMem]
        -- the number leads where it led before, into the last one, or nowhere
        rcases Nat.lt_trichotomy i front.length with hlt | rfl | hgt
        · rw [atAmong_concat_of_lt hlt]
          refine or_iff_left ?_
          rintro ⟨rest', -, hsame⟩
          rw [List.cons.injEq] at hsame
          omega
        · rw [atAmong_concat_length, ← hwithinMem]
          have hnone : ¬ (atAmong f front (front.length :: rest)).isSome = true :=
            fun hsome => Nat.lt_irrefl _ (lt_length_of_isSome_atAmong hsome)
          rw [or_iff_right hnone]
          simp
        · have hnone : ¬ (atAmong f front (i :: rest)).isSome = true := fun hsome => by
            have hlt := lt_length_of_isSome_atAmong hsome
            omega
          have hnone' : ¬ (atAmong f (front ++ [a]) (i :: rest)).isSome = true := fun hsome => by
            have hlt := lt_length_of_isSome_atAmong hsome
            rw [List.length_append, List.length_singleton] at hlt
            omega
          refine iff_of_false ?_ hnone'
          rintro (hsome | ⟨rest', -, hsame⟩)
          · exact hnone hsome
          · rw [List.cons.injEq] at hsame
            omega
    · have hsame : ∀ position ∈ before, atAmong f (front ++ [a]) position = atAmong f front position := by
        intro position hposition
        obtain ⟨i, rest, rfl, hi⟩ := hbefore position hposition
        exact atAmong_concat_of_lt hi
      rw [List.map_append, List.map_congr_left hsame, hbeforeValues, List.map_map,
        List.flatMap_append, List.flatMap_singleton, List.map_append, ← hwithinValues]
      exact congrArg _ (List.map_congr_left fun rest _ => atAmong_concat_length)

end Positions

/-! ## Records and names at positions -/

/-- The record at a position among records. -/
def recordAt (records : List Record) : List Nat → Option Record :=
  atAmong (atPosition Record.nested) records

/-- The names on the way to a position among records, from the outside in, that of the record there
included. -/
def namesAt : List Record → List Nat → List String
  | _, [] => []
  | records, i :: rest =>
    records[i]?.elim [] fun record => record.name :: namesAt record.nested rest

section At

variable {records : List Record} {record there : Record} {i : Nat} {rest position : List Nat}

theorem namesAt_cons (h : records[i]? = some record) (rest : List Nat) :
    namesAt records (i :: rest) = record.name :: namesAt record.nested rest := by
  rw [namesAt, h, Option.elim_some]

theorem recordAt_singleton : recordAt records [i] = records[i]? := by
  rw [recordAt, atAmong]
  exact Option.bind_fun_some _

/-- Within a record, positions go on among those it holds. -/
theorem recordAt_cons (h : records[i]? = some record) (hrest : rest ≠ []) :
    recordAt records (i :: rest) = recordAt record.nested rest := by
  obtain ⟨k, rest, rfl⟩ := List.exists_cons_of_ne_nil hrest
  rw [recordAt, atAmong, h]
  rfl

theorem exists_of_recordAt_cons (h : recordAt records (i :: rest) = some there) :
    ∃ record, records[i]? = some record ∧
      (rest = [] ∧ there = record ∨ rest ≠ [] ∧ recordAt record.nested rest = some there) := by
  obtain ⟨record, hrecord, hthere⟩ := atAmong_cons_eq_some_iff.mp h
  refine ⟨record, hrecord, ?_⟩
  by_cases hrest : rest = []
  · subst hrest
    exact Or.inl ⟨rfl, (Option.some.inj hthere).symm⟩
  · rw [recordAt_cons hrecord hrest] at h
    exact Or.inr ⟨hrest, h⟩

/-- Names on the way are names of records. -/
theorem exists_of_mem_namesAt {name : String} (h : name ∈ namesAt records position) :
    ∃ position' there, recordAt records position' = some there ∧ there.name = name := by
  induction position generalizing records with
  | nil => cases h
  | cons i rest ih =>
    cases hrecord : records[i]? with
    | none =>
      rw [namesAt, hrecord] at h
      cases h
    | some record =>
      rw [namesAt_cons hrecord, List.mem_cons] at h
      rcases h with rfl | hbelow
      · exact ⟨[i], record, by rw [recordAt_singleton, hrecord], rfl⟩
      · obtain ⟨position', there, hthere, hname⟩ := ih hbelow
        have hne : position' ≠ [] := by
          rintro rfl
          cases hthere
        exact ⟨i :: position', there, by rw [recordAt_cons hrecord hne, hthere], hname⟩

theorem namesAt_ne_nil (h : recordAt records position = some there) :
    namesAt records position ≠ [] := by
  cases position with
  | nil => cases h
  | cons i rest =>
    obtain ⟨record, hrecord, -⟩ := exists_of_recordAt_cons h
    rw [namesAt_cons hrecord]
    exact List.cons_ne_nil _ _

/-- The last of the names is that of the record there. -/
theorem namesAt_concat (h : recordAt records (position ++ [i]) = some there) :
    namesAt records (position ++ [i]) = namesAt records position ++ [there.name] := by
  induction position generalizing records with
  | nil =>
    rw [List.nil_append, recordAt_singleton] at h
    rw [List.nil_append, namesAt_cons h]
    rfl
  | cons k rest ih =>
    rw [List.cons_append] at h ⊢
    obtain ⟨record, hrecord, ⟨hnil, -⟩ | ⟨-, hthere⟩⟩ := exists_of_recordAt_cons h
    · exact absurd hnil (List.append_ne_nil_of_right_ne_nil _ (List.cons_ne_nil i []))
    · rw [namesAt_cons hrecord, namesAt_cons hrecord, ih hthere, List.cons_append]

end At

/-! ## Blocks at positions -/

/-- The block at a position among records, which is there if the record there holds others. Its path
are the names on the way. -/
def blockAt (records : List Record) (position : List Nat) : Option Block :=
  (recordAt records position).bind fun there =>
    if there.nested.isEmpty then none
    else some { path := ".".intercalate (namesAt records position), records := there.nested }

theorem blockAt_eq_some_iff {records : List Record} {position : List Nat} {block : Block} :
    blockAt records position = some block ↔
      ∃ there, recordAt records position = some there ∧ there.nested ≠ [] ∧
        block = { path := ".".intercalate (namesAt records position), records := there.nested } := by
  rw [blockAt, Option.bind_eq_some_iff]
  refine exists_congr fun there => and_congr_right fun _ => ?_
  rw [Option.ite_none_left_eq_some, List.isEmpty_iff, Option.some.injEq]
  exact and_congr_right fun _ => eq_comm

/-- The block at a position within a record, where there are names above it. -/
def Record.blockAt (above : List String) (position : List Nat) (record : Record) : Option Block :=
  (atPosition Record.nested position record).bind fun there =>
    if there.nested.isEmpty then none
    else
      some
        { path := ".".intercalate (above ++ record.name :: namesAt record.nested position)
          records := there.nested }

theorem blockAt_eq_atAmong (records : List Record) :
    blockAt records = atAmong (Record.blockAt []) records := by
  funext position
  cases position with
  | nil => rfl
  | cons i rest =>
    rw [blockAt, recordAt, atAmong, atAmong]
    cases hrecord : records[i]? with
    | none => rfl
    | some record =>
      rw [namesAt_cons hrecord, Option.bind_some, Option.bind_some]
      rfl

mutual

/-- The name of a record and all names within it are not empty. -/
def Record.isNamed : Record → Bool
  | { name, nested, .. } => name != "" && Record.allNamed nested

/-- All names of records are not empty, whatever depth they are at. -/
def Record.allNamed : List Record → Bool
  | [] => true
  | record :: rest => record.isNamed && Record.allNamed rest

end

theorem Record.allNamed_iff {records : List Record} :
    Record.allNamed records = true ↔ ∀ record ∈ records, record.isNamed = true := by
  induction records with
  | nil => exact iff_of_true rfl (List.forall_mem_nil _)
  | cons record rest ih => rw [allNamed, Bool.and_eq_true, ih, List.forall_mem_cons]

theorem Record.isNamed_iff {record : Record} :
    record.isNamed = true ↔ record.name ≠ "" ∧ ∀ child ∈ record.nested, child.isNamed = true := by
  rw [← allNamed_iff]
  cases record
  rw [isNamed, Bool.and_eq_true, bne_iff_ne]

theorem Record.blocksAll_eq (parent : String) (records : List Record) :
    Record.blocksAll parent records = records.flatMap (Record.blocks parent) := by
  induction records with
  | nil => rfl
  | cons record rest ih => rw [blocksAll, ih, List.flatMap_cons]

theorem Record.blocks_eq (parent : String) (record : Record) :
    record.blocks parent =
      if record.nested.isEmpty then []
      else
        { path := joinPath parent record.name, records := record.nested } ::
          record.nested.flatMap (Record.blocks (joinPath parent record.name)) := by
  rw [← blocksAll_eq]
  obtain ⟨_, _, _, _, _, _, _, _, _, _, _, _, _, _ | ⟨first, rest⟩⟩ := record
  · rfl
  · rfl

/-- Paths are joined like lists of names, as long as no name is empty. -/
theorem joinPath_intercalate {above : List String} (habove : ∀ name ∈ above, name ≠ "")
    (name : String) :
    joinPath (".".intercalate above) name = ".".intercalate (above ++ [name]) := by
  unfold joinPath
  by_cases hnil : above = []
  · subst hnil
    rw [String.intercalate_nil, if_pos rfl, List.nil_append, String.intercalate_singleton]
  · have hparent : ".".intercalate above ≠ "" := by
      obtain ⟨first, rest, rfl⟩ := List.exists_cons_of_ne_nil hnil
      have hfirst := habove first (List.mem_cons_self ..)
      intro hempty
      cases rest with
      | nil => exact hfirst hempty
      | cons second rest =>
        rw [String.intercalate_cons_cons, String.append_eq_empty_iff, String.append_eq_empty_iff]
          at hempty
        exact hfirst hempty.1.1
    rw [if_neg hparent, String.intercalate_append_of_ne_nil hnil (List.cons_ne_nil _ _),
      String.intercalate_singleton]

theorem Record.blockAt_nil (above : List String) (record : Record) :
    record.blockAt above [] =
      if record.nested.isEmpty then none
      else some { path := ".".intercalate (above ++ [record.name]), records := record.nested } := by
  rw [blockAt, atPosition, Option.bind_some, namesAt]

/-- The block within a record is one of those among what the record holds, below its name. -/
theorem Record.blockAt_cons (above : List String) (record : Record) (i : Nat) (rest : List Nat) :
    record.blockAt above (i :: rest) =
      atAmong (Record.blockAt (above ++ [record.name])) record.nested (i :: rest) := by
  rw [blockAt, atPosition, atAmong]
  cases hchild : record.nested[i]? with
  | none => rfl
  | some child =>
    rw [namesAt_cons hchild, Option.bind_some, Option.bind_some, blockAt, List.append_assoc,
      List.singleton_append]

/-- What a record holds is smaller. -/
theorem Record.sizeOf_lt_of_mem_nested {record child : Record} (h : child ∈ record.nested) :
    sizeOf child < sizeOf record := by
  obtain ⟨_, _, _, _, _, _, _, _, _, _, _, _, _, nested⟩ := record
  have hlt : sizeOf child < sizeOf nested := List.sizeOf_lt_of_mem h
  simp only [Record.mk.sizeOf_spec]
  omega

/-- A property of a record can be shown from that of the records it holds. -/
theorem Record.induction_on_nested {motive : Record → Prop}
    (step : ∀ record, (∀ child ∈ record.nested, motive child) → motive record)
    (record : Record) : motive record := by
  induction hsize : sizeOf record using Nat.strongRecOn generalizing record with
  | ind size ih =>
    apply step
    intro child hchild
    have hlt := Record.sizeOf_lt_of_mem_nested hchild
    exact ih (sizeOf child) (by omega) child rfl

/-- The blocks within a record are those at positions within it, in order. -/
theorem Record.enumerates_blocks {record : Record} (hnamed : record.isNamed = true)
    {above : List String} (habove : ∀ name ∈ above, name ≠ "") :
    Enumerates (record.blockAt above) (record.blocks (".".intercalate above)) := by
  induction record using Record.induction_on_nested generalizing above with
  | step record ih =>
    obtain ⟨hname, hchildren⟩ := Record.isNamed_iff.mp hnamed
    rw [Record.blocks_eq, joinPath_intercalate habove]
    by_cases hempty : record.nested.isEmpty = true
    · -- without others inside there is no block at any position
      rw [if_pos hempty]
      refine ⟨[], List.Pairwise.nil, fun position => iff_of_false List.not_mem_nil ?_, rfl⟩
      cases position with
      | nil => simp [blockAt_nil, hempty]
      | cons i rest => simp [blockAt_cons, atAmong, List.isEmpty_iff.mp hempty]
    · rw [if_neg hempty]
      -- the path so far is made of names again, one more than before
      have hbelow : ∀ name ∈ above ++ [record.name], name ≠ "" := by
        rw [List.forall_mem_append, List.forall_mem_singleton]
        exact ⟨habove, hname⟩
      have hinside := enumerates_atAmong fun child hchild =>
        ih child hchild (hchildren child hchild) hbelow
      refine hinside.cons ?_ rfl (Record.blockAt_cons above record)
      rw [blockAt_nil, if_neg hempty]

/-- **Blocks are the blocks at positions**, one for each record that holds others, in depth-first
order. -/
theorem enumerates_blocksOf {records : List Record} (hnamed : Record.allNamed records = true) :
    Enumerates (blockAt records) (blocksOf records) := by
  rw [blocksOf, Record.blocksAll_eq, blockAt_eq_atAmong]
  exact enumerates_atAmong fun record hrecord =>
    Record.enumerates_blocks (Record.allNamed_iff.mp hnamed record hrecord) (List.forall_mem_nil _)

end ProviderGen
