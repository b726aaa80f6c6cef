/-
The attributes of a resource and the two payloads they come from.

Merging goes through the payload that is read with a list that grows, and adds what has a key that
is not in the list yet. That is the same as to say at which places of the payload an attribute is
new: its key is neither one of the payload that creates, nor one of an attribute before it
(`freshOver`). After merging no key of the payload is new, and there is an attribute called `id`, so
merging again adds nothing.
-/
import ProviderGen.Proofs.AttributeNames

set_option autoImplicit false

namespace ProviderGen

/-! ## New attributes -/

/-- The attributes of a list whose keys are not among some keys nor among those of the attributes
before them. -/
def freshOver (keys : List String) (fields : List Field) : List Field :=
  (fields.zipIdx.filter fun entry =>
    entry.1.source ∉ keys ∧ entry.1.source ∉ keysOf (fields.take entry.2)).map Prod.fst

section Keys

variable {keys : List String} {fields more : List Field} {field : Field}

/-- Behind an attribute its key is no longer new. -/
theorem freshOver_cons :
    freshOver keys (field :: fields) =
      (if field.source ∈ keys then [] else [field]) ++ freshOver (field.source :: keys) fields := by
  have hrest : ∀ entry : Field × Nat,
      (entry.1.source ∉ keys ∧ entry.1.source ∉ keysOf ((field :: fields).take (entry.2 + 1))) ↔
        entry.1.source ∉ field.source :: keys ∧ entry.1.source ∉ keysOf (fields.take entry.2) := by
    intro entry
    simp only [List.take_succ_cons, keysOf, List.map_cons, List.mem_cons, not_or]
    tauto
  unfold freshOver
  rw [List.zipIdx_cons, List.zipIdx_succ, List.filter_cons, List.filter_map]
  simp only [Function.comp_def, hrest]
  split
  · next hnew => simp_all [keysOf]
  · next hold => simp_all [keysOf]

/-- Only which keys there are matters, not their order. -/
theorem freshOver_congr {keys' : List String} (h : ∀ key, key ∈ keys ↔ key ∈ keys') :
    freshOver keys fields = freshOver keys' fields := by
  unfold freshOver
  simp only [h]

/-- Every key is an old one or that of a new attribute. -/
theorem mem_keysOf_freshOver (h : field ∈ fields) :
    field.source ∈ keys ∨ field.source ∈ keysOf (freshOver keys fields) := by
  induction fields generalizing keys with
  | nil => cases h
  | cons next rest ih =>
    rw [freshOver_cons, keysOf, List.map_append, List.mem_append]
    by_cases hold : field.source ∈ keys
    · exact Or.inl hold
    right
    by_cases hnext : field.source = next.source
    · left
      rw [if_neg (hnext ▸ hold), List.map_singleton, List.mem_singleton]
      exact hnext
    · -- with a key of its own it is new behind the first one too
      right
      have hrest : field ∈ rest := (List.mem_cons.mp h).resolve_left fun heq => hnext (heq ▸ rfl)
      refine (ih hrest).resolve_left fun hmem => ?_
      rcases List.mem_cons.mp hmem with heq | hmem
      · exact hnext heq
      · exact hold hmem

theorem freshOver_eq_nil (h : ∀ field ∈ fields, field.source ∈ keys) :
    freshOver keys fields = [] := by
  induction fields generalizing keys with
  | nil => rfl
  | cons field rest ih =>
    obtain ⟨hfield, hrest⟩ := List.forall_mem_cons.mp h
    rw [freshOver_cons, if_pos hfield, List.nil_append]
    exact ih fun other hother => List.mem_cons_of_mem _ (hrest other hother)

/-! ## The loop -/

theorem addMissing_eq :
    addMissing fields field =
      if field.source ∈ keysOf fields then fields else fields ++ [field.asReadOnly] := by
  have hany : (fields.any fun other => other.source == field.source) = true ↔
      field.source ∈ keysOf fields := by
    simp [keysOf]
  unfold addMissing
  simp only [hany]

/-- The loop puts the attributes that are new behind those that are there, for reading only. -/
theorem foldl_addMissing_eq :
    more.foldl addMissing fields =
      fields ++ (freshOver (keysOf fields) more).map Field.asReadOnly := by
  induction more generalizing fields with
  | nil => exact (List.append_nil fields).symm
  | cons field rest ih =>
    -- either way the keys that the rest is tried against are the old ones and that of the first
    rw [List.foldl_cons, ih, freshOver_cons, addMissing_eq]
    split
    · next hold =>
      have hkeys : ∀ key, key ∈ keysOf fields ↔ key ∈ field.source :: keysOf fields := by
        intro key
        rw [List.mem_cons, iff_or_self]
        rintro rfl
        exact hold
      rw [List.nil_append, freshOver_congr hkeys]
    · have hkeys : ∀ key, key ∈ keysOf (fields ++ [field.asReadOnly]) ↔
          key ∈ field.source :: keysOf fields := by
        intro key
        rw [keysOf, List.map_append, List.mem_append, List.map_singleton, List.mem_singleton,
          or_comm, List.mem_cons]
        rfl
      rw [freshOver_congr hkeys, List.append_assoc, List.map_append, List.map_singleton]

end Keys

/-! ## The attributes of a resource -/

namespace Resource

variable {r : Resource}

/-- The attributes that the payload that is read has alone. -/
def readAlone (r : Resource) : List Field :=
  freshOver (keysOf (r.create.getD [])) (r.read.getD [])

theorem merged_eq : r.merged = r.create.getD [] ++ r.readAlone.map Field.asReadOnly :=
  foldl_addMissing_eq

theorem attributes_eq :
    r.attributes =
      (if ∃ field ∈ r.merged, field.name = "id" then [] else [r.identifier]) ++ r.merged := by
  have hany : (r.merged.any fun field => field.name == "id") = true ↔
      ∃ field ∈ r.merged, field.name = "id" := by
    simp
  unfold attributes
  simp only [hany]
  split <;> rfl

/-- There is an identifier. -/
theorem exists_id (r : Resource) : ∃ field ∈ r.attributes, field.name = "id" := by
  rw [attributes_eq]
  split
  · next hid => exact hid
  · exact ⟨r.identifier, List.mem_cons_self .., rfl⟩

/-- Every key of the payload that is read is that of an attribute. -/
theorem source_mem_attributes {field : Field} (h : field ∈ r.read.getD []) :
    field.source ∈ keysOf r.attributes := by
  have hmerged : field.source ∈ keysOf r.merged := by
    rw [merged_eq, keysOf, List.map_append, List.map_map, List.mem_append]
    exact mem_keysOf_freshOver h
  rw [attributes_eq, keysOf, List.map_append]
  exact List.mem_append_right _ hmerged

/-- If the attributes are what is created, merging leaves them as they are. -/
theorem attributes_idem (r : Resource) :
    ({ r with create := some r.attributes } : Resource).attributes = r.attributes := by
  have hnone : ({ r with create := some r.attributes } : Resource).readAlone = [] :=
    freshOver_eq_nil fun field hfield => source_mem_attributes hfield
  have hmerged : ({ r with create := some r.attributes } : Resource).merged = r.attributes := by
    rw [merged_eq, hnone]
    exact List.append_nil _
  rw [attributes_eq, hmerged, if_pos r.exists_id, List.nil_append]

end Resource

/-- **Merging two payloads.** The attributes of a resource are those of the payload that creates it,
and after them those of the payload that is read whose keys are new, changed to be read only; in
front of them comes an identifier just if none of these is called `id`. So there always is one, and
merging the attributes with the payload that is read gives them back. In a document their keys are
distinct. -/
theorem Resource.attributes_merge (r : Resource) :
    (let created := r.create.getD []
     let added : List Field := (freshOver (keysOf created) (r.read.getD [])).map fun field =>
       { field with readOnly := true, required := false }
     let identifier : Field :=
       { name := "id", source := "id", kind := .primitive .string, readOnly := true,
         description := some ("Identifier of the " ++ r.name ++ ".") }
     r.attributes =
       (if ∃ field ∈ created ++ added, field.name = "id" then [] else [identifier]) ++
         (created ++ added)) ∧
      (∃ field ∈ r.attributes, field.name = "id") ∧
      ({ r with create := some r.attributes } : Resource).attributes = r.attributes ∧
      ∀ bytes resources, parseDocument bytes = .ok resources → r ∈ resources →
        (keysOf r.attributes).Nodup := by
  refine ⟨?_, r.exists_id, r.attributes_idem, ?_⟩
  · intro created added identifier
    rw [Resource.attributes_eq, Resource.merged_eq]
    rfl
  · intro bytes resources h hr
    exact (namedByKey_of_parseDocument h hr .outermost).distinct

/-- A document whose cups are created with a size and read with a date before it. -/
def cupLines : List String :=
  documentLines
    ["\"/cups\":\x7b\"get\":\x7b", "\"responses\":\x7b\"200\":\x7b", "\"content\":\x7b",
      "\"application/json\":\x7b", "\"schema\":\x7b", "\"properties\":\x7b",
      "\"madeAt\":\x7b\x7d,", "\"size\":\x7b\x7d", "\x7d\x7d\x7d\x7d\x7d\x7d\x7d,",
      "\"post\":\x7b", "\"requestBody\":\x7b", "\"content\":\x7b", "\"application/json\":\x7b",
      "\"schema\":\x7b", "\"properties\":\x7b", "\"size\":\x7b\"type\":\"integer\"\x7d",
      "\x7d\x7d\x7d\x7d\x7d\x7d\x7d"]

theorem cupLines_keys :
    (resourcesOfJson (cupLines.flatMap String.toList)).map (List.map fun r =>
        (keysOf (r.create.getD []), keysOf (r.read.getD []),
          r.attributes.map fun field => (field.source, field.readOnly))) =
      some [(["size"], ["madeAt", "size"], [("id", true), ("size", false), ("madeAt", true)])] := by
  decide +kernel

/-- The attributes of cups are an identifier, the size and the date, under distinct keys. -/
theorem cupLines_merge :
    ∃ resources, parseDocument (String.join cupLines).toUTF8 = .ok resources ∧
      ∃ r ∈ resources, keysOf (r.create.getD []) = ["size"] ∧
        keysOf (r.read.getD []) = ["madeAt", "size"] ∧
        keysOf r.attributes = ["id", "size", "madeAt"] ∧
        (r.attributes.map Field.readOnly) = [true, false, true] ∧
        ({ r with create := some r.attributes } : Resource).attributes = r.attributes ∧
        (keysOf r.attributes).Nodup := by
  obtain ⟨resources, hparse, hkeys⟩ := exists_parseDocument cupLines_keys
  obtain ⟨r, rfl, hr⟩ := List.map_eq_singleton_iff.mp hkeys
  simp only [Prod.mk.injEq] at hr
  obtain ⟨hcreate, hread, hattributes⟩ := hr
  have hmem : r ∈ [r] := List.mem_singleton_self r
  obtain ⟨-, -, hidem, hnodup⟩ := r.attributes_merge
  have hsources := congrArg (List.map Prod.fst) hattributes
  have hflags := congrArg (List.map Prod.snd) hattributes
  rw [List.map_map] at hsources hflags
  exact ⟨[r], hparse, r, hmem, hcreate, hread, hsources, hflags, hidem, hnodup _ [r] hparse hmem⟩

end ProviderGen
