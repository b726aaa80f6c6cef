/-
When two attributes share a name.

The keys of a level are distinct, but what is generated has their spellings: names in the schema
and identifiers in the model. Nothing checks that these are distinct. They are exactly if no
spelling merges two keys, and keys are merged in two ways. The snake spelling forgets case and
separators, so `userId` and `user_id` have one name. The identifier forgets, of a name, where its
words began: `a_1` and `a1` are both held in `A1`. If every word of the outermost names begins
with a small letter, the identifiers tell apart what the names do, and then only the first way is
left.
-/
import ProviderGen.Proofs.Levels
import ProviderGen.Proofs.Reading
import ProviderGen.Proofs.Spelling

set_option autoImplicit false

namespace ProviderGen

/-! ## Spellings that merge keys -/

/-- A spelling does not tell two keys apart. -/
def Merges (spelling : String → String) (keys : List String) : Prop :=
  ∃ a ∈ keys, ∃ b ∈ keys, a ≠ b ∧ spelling a = spelling b

instance (spelling : String → String) (keys : List String) : Decidable (Merges spelling keys) :=
  inferInstanceAs (Decidable (∃ a ∈ keys, ∃ b ∈ keys, a ≠ b ∧ spelling a = spelling b))

/-- Distinct keys have distinct spellings unless the spelling merges some. -/
theorem nodup_map_iff_not_merges {spelling : String → String} {keys : List String}
    (hkeys : keys.Nodup) : (keys.map spelling).Nodup ↔ ¬ Merges spelling keys := by
  rw [List.nodup_map_iff_inj_on hkeys]
  unfold Merges
  constructor
  · rintro hinj ⟨a, ha, b, hb, hne, hsame⟩
    exact hne (hinj a ha b hb hsame)
  · intro hnot a ha b hb hsame
    by_contra hne
    exact hnot ⟨a, ha, b, hb, hne, hsame⟩

/-- The keys of attributes. -/
def keysOf (fields : List Field) : List String := fields.map Field.source

/-- What is spelled from the keys of a level is distinct unless the spelling merges some. -/
theorem NamedByKey.nodup_iff {level : List Field} (h : NamedByKey level)
    (spelling : String → String) :
    ((level.map fun field => spelling field.name).Nodup ↔
      ¬ Merges (spelling ∘ Naming.snake) (keysOf level)) := by
  have hspelled : (level.map fun field => spelling field.name) =
      (keysOf level).map (spelling ∘ Naming.snake) := by
    rw [keysOf, List.map_map]
    exact List.map_congr_left fun field hfield => congrArg spelling (h.spelled field hfield)
  rw [hspelled]
  exact nodup_map_iff_not_merges h.distinct

/-! ## Names and identifiers -/

namespace Resource

/-- No two attributes of one level have one name, and no two outermost attributes are held in
fields of one name. -/
structure NamesApart (r : Resource) : Prop where
  names : ∀ level, Level r.attributes level → (level.map Field.name).Nodup
  identifiers : (r.records.map Record.identifier).Nodup

end Resource

/-- On keys whose names are worded, the identifiers merge no more than the names. -/
theorem merges_snake_of_merges_fieldIdentifier {keys : List String}
    (hworded : ∀ key ∈ keys, Naming.worded (Naming.snake key) = true)
    (h : Merges (fieldIdentifier ∘ Naming.snake) keys) : Merges Naming.snake keys := by
  obtain ⟨a, ha, b, hb, hne, hsame⟩ := h
  refine ⟨a, ha, b, hb, hne, ?_⟩
  rw [Function.comp_apply, Function.comp_apply, Naming.fieldIdentifier_of_worded (hworded a ha),
    Naming.fieldIdentifier_of_worded (hworded b hb)] at hsame
  refine (Naming.pascal_inj (hworded a ha) (hworded b hb) ?_ ?_).mp hsame
  · exact Naming.forall_mem_snake_isAsciiUpper a
  · exact Naming.forall_mem_snake_isAsciiUpper b

/-- **Names are apart exactly if no spelling merges keys.** The names of a resource collide just
where two keys of one level have one snake spelling, or two outermost keys one identifier; and if
all words of the outermost names begin with a small letter, just where two keys of one level have
one snake spelling. -/
theorem namesApart_iff {bytes : ByteArray} {resources : List Resource}
    (h : parseDocument bytes = .ok resources) {r : Resource} (hr : r ∈ resources) :
    (r.NamesApart ↔
        (∀ level, Level r.attributes level → ¬ Merges Naming.snake (keysOf level)) ∧
          ¬ Merges (fieldIdentifier ∘ Naming.snake) (keysOf r.attributes)) ∧
      ((∀ field ∈ r.attributes, Naming.worded field.name = true) →
        (r.NamesApart ↔
          ∀ level, Level r.attributes level → ¬ Merges Naming.snake (keysOf level))) := by
  have hkeyed {level : List Field} (hlevel : Level r.attributes level) : NamedByKey level :=
    namedByKey_of_parseDocument h hr hlevel
  have hapart : r.NamesApart ↔
      (∀ level, Level r.attributes level → ¬ Merges Naming.snake (keysOf level)) ∧
        ¬ Merges (fieldIdentifier ∘ Naming.snake) (keysOf r.attributes) := by
    have hnames : ∀ level, Level r.attributes level →
        ((level.map Field.name).Nodup ↔ ¬ Merges Naming.snake (keysOf level)) :=
      fun level hlevel => (hkeyed hlevel).nodup_iff id
    rw [← forall₂_congr hnames, ← (hkeyed .outermost).nodup_iff fieldIdentifier,
      ← Resource.records_identifiers]
    exact ⟨fun apart => ⟨apart.names, apart.identifiers⟩, fun ⟨hn, hi⟩ => ⟨hn, hi⟩⟩
  refine ⟨hapart, fun hworded => hapart.trans (and_iff_left_of_imp fun hnames hmerges => ?_)⟩
  refine hnames r.attributes .outermost (merges_snake_of_merges_fieldIdentifier ?_ hmerges)
  unfold keysOf
  rw [List.forall_mem_map]
  intro field hfield
  rw [← (hkeyed .outermost).spelled field hfield]
  exact hworded field hfield

/-! ## Two documents -/

/-- A document whose keys have different names. -/
def petLines : List String :=
  documentLines (postLines "/pets" ["\"petName\":\x7b\x7d,", "\"ownerId\":\x7b\x7d"])

/-- The keys of the attributes of resources, those inside them, and their names. -/
def outline (resources : List Resource) : List (List String × List (List String) × List String) :=
  resources.map fun r =>
    (keysOf r.attributes, r.attributes.map fun field => keysOf field.inner,
      r.attributes.map Field.name)

theorem petLines_outline :
    (resourcesOfJson (petLines.flatMap String.toList)).map outline =
      some [(["id", "petName", "ownerId"], [[], [], []], ["id", "pet_name", "owner_id"])] := by
  decide +kernel

/-- The attributes of a pet have different names. -/
theorem petLines_namesApart :
    ∃ resources r, parseDocument (String.join petLines).toUTF8 = .ok resources ∧ r ∈ resources ∧
      r.attributes.map Field.name = ["id", "pet_name", "owner_id"] ∧ r.NamesApart := by
  obtain ⟨resources, hparse, houtline⟩ := exists_parseDocument petLines_outline
  obtain ⟨r, rfl, hr⟩ := List.map_eq_singleton_iff.mp houtline
  simp only [Prod.mk.injEq] at hr
  obtain ⟨hkeys, hinside, hnames⟩ := hr
  have hmem : r ∈ [r] := List.mem_singleton.mpr rfl
  refine ⟨[r], r, hparse, hmem, hnames, ((namesApart_iff hparse hmem).2 ?_).mpr ?_⟩
  · rw [← List.forall_mem_map (P := fun name => Naming.worded name = true), hnames]
    decide
  · intro level hlevel
    rcases level_iff.mp hlevel with rfl | ⟨field, hfield, hbelow⟩
    · rw [hkeys]
      decide
    · -- no attribute holds others
      have hinner : keysOf field.inner ∈ [[], [], []] := hinside ▸ List.mem_map_of_mem hfield
      have hnil : field.inner = [] := by simpa [keysOf] using hinner
      rw [hnil, level_nil_iff] at hbelow
      rw [hbelow]
      decide

/-- A document with two keys that the snake spelling merges. -/
def userLines : List String :=
  documentLines (postLines "/users" ["\"userId\":\x7b\x7d,", "\"user_id\":\x7b\x7d"])

theorem userLines_outline :
    (resourcesOfJson (userLines.flatMap String.toList)).map outline =
      some [(["id", "userId", "user_id"], [[], [], []], ["id", "user_id", "user_id"])] := by
  decide +kernel

/-- Both keys of a user become one name. -/
theorem userLines_not_namesApart :
    ∃ resources r, parseDocument (String.join userLines).toUTF8 = .ok resources ∧ r ∈ resources ∧
      r.attributes.map Field.name = ["id", "user_id", "user_id"] ∧ ¬ r.NamesApart := by
  obtain ⟨resources, hparse, houtline⟩ := exists_parseDocument userLines_outline
  obtain ⟨r, rfl, hr⟩ := List.map_eq_singleton_iff.mp houtline
  simp only [Prod.mk.injEq] at hr
  obtain ⟨-, -, hnames⟩ := hr
  refine ⟨[r], r, hparse, List.mem_singleton.mpr rfl, hnames, fun apart => ?_⟩
  have hnodup := apart.names r.attributes .outermost
  rw [hnames] at hnodup
  exact absurd hnodup (by decide)

end ProviderGen
