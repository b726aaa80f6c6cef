/-
What decoders yield.

Whatever the text, the values that a decoder reads have something in common: `Yields` says what.
Each combinator yields what the decoders that it is made of let it yield. A map yields a table,
in which no key stands twice, since each value is put under its key as it comes; a record has what
it starts with and each of its fields keeps; and of several written forms it does not matter which
one fits.
-/
import ProviderGen.Decode.Decoder
import ProviderGen.Proofs.Results

set_option autoImplicit false

namespace ProviderGen

variable {α β ρ : Type}

/-! ## Steps -/

namespace Step

/-- Every value that a step ends with has a property. -/
def Yields (p : α → Prop) (step : Step α) : Prop :=
  ∀ before value after, step before = .ok (value, after) → p value

variable {p : α → Prop} {q : β → Prop}

theorem yields_pure {value : α} (h : p value) : Yields p (pure value) := by
  intro before value' after hrun
  obtain ⟨rfl, -⟩ := Prod.mk.inj (Except.ok.inj hrun)
  exact h

theorem yields_fail (fault : Fault) : Yields p (Decoder.fail fault) := by
  intro before value after hrun
  cases hrun

theorem yields_true (step : Step α) : Yields (fun _ => True) step := fun _ _ _ _ => trivial

/-- What the second step yields from what the first one yields. -/
theorem yields_bind {first : Step β} {next : β → Step α} (hfirst : Yields q first)
    (hnext : ∀ value, q value → Yields p (next value)) : Yields p (first >>= next) := by
  intro before value after hrun
  obtain ⟨⟨middle, between⟩, hmiddle, hrest⟩ := bind_eq_ok_iff.mp hrun
  exact hnext middle (hfirst before middle between hmiddle) between value after hrest

theorem yields_map {step : Step β} {f : β → α} (hstep : Yields q step)
    (hf : ∀ value, q value → p (f value)) : Yields p (f <$> step) := by
  rw [map_eq_pure_bind]
  exact yields_bind hstep fun value hvalue => yields_pure (hf value hvalue)

/-- What every step of a fold preserves holds at its end. -/
theorem yields_foldlM {items : List β} {f : α → β → Step α} {start : α} (hstart : p start)
    (h : ∀ state, p state → ∀ item ∈ items, Yields p (f state item)) :
    Yields p (items.foldlM f start) := by
  induction items generalizing start with
  | nil =>
    rw [List.foldlM_nil]
    exact yields_pure hstart
  | cons item rest ih =>
    rw [List.foldlM_cons]
    refine yields_bind (h start hstart item (List.mem_cons_self ..)) fun state hstate => ?_
    exact ih hstate fun state' hstate' other hother =>
      h state' hstate' other (List.mem_cons_of_mem _ hother)

end Step

/-! ## Combinators -/

namespace Table

/-- No key stands twice, and every value has a property. -/
structure Each (p : α → Prop) (table : Table α) : Prop where
  distinct : table.Distinct
  each : ∀ entry ∈ table, p entry.2

variable {p : α → Prop}

theorem each_nil : Each p [] := ⟨List.nodup_nil, by simp⟩

theorem Each.put {table : Table α} (h : Each p table) (key : String) {value : α}
    (hvalue : p value) : Each p (table.put key value) := by
  refine ⟨distinct_put key value h.distinct, ?_⟩
  have heach := h.each
  clear h
  induction table with
  | nil => simpa [Table.put] using hvalue
  | cons entry rest ih =>
    obtain ⟨hentry, hrest⟩ := List.forall_mem_cons.mp heach
    unfold Table.put
    split
    · exact List.forall_mem_cons.mpr ⟨hvalue, hrest⟩
    · exact List.forall_mem_cons.mpr ⟨hentry, ih hrest⟩

theorem Each.of_lookup {table : Table α} (h : Each p table) {key : String} {value : α}
    (hlookup : table.lookup key = some value) : p value :=
  h.each (key, value) (mem_of_lookup hlookup)

end Table

namespace Decoder

open Step

/-- Every value that a decoder reads has a property. -/
def Yields (p : α → Prop) (decode : Decoder α) : Prop :=
  ∀ setting depth node, Step.Yields p (decode setting depth node)

variable {p : α → Prop}

theorem optional_yields {decode : Decoder α} (h : Yields p decode) :
    Yields (fun value? => ∀ value ∈ value?, p value) (optional decode) := by
  intro setting depth node
  have hsome : ∀ node, Step.Yields (fun value? : Option α => ∀ value ∈ value?, p value)
      (some <$> decode setting depth node) := fun node =>
    yields_map (h setting depth node) fun value hvalue => by simpa using hvalue
  refine yields_bind (yields_true _) fun node _ => ?_
  cases node with
  | scalar s =>
    refine yields_bind (yields_true _) fun absent _ => ?_
    cases absent
    · exact hsome _
    · exact yields_pure (by simp)
  | list _ _ _ => exact hsome _
  | record _ _ _ => exact hsome _
  | link _ => exact hsome _
  | unreadable => exact hsome _
  | broken => exact hsome _

theorem mismatch_yields (node : Node) : Step.Yields p (mismatch node) := by
  cases node <;> exact yields_fail _

/-- A map is read as a table. -/
theorem table_yields {decode : Decoder α} (h : Yields p decode) :
    Yields (Table.Each p) (table decode) := by
  intro setting depth node
  refine yields_bind (yields_true _) fun node _ => ?_
  cases node with
  | record _ members ending =>
    refine yields_bind (yields_true _) fun depth _ => ?_
    have hmembers : Step.Yields (Table.Each p) (members.foldlM (fun entries member => do
        let key ← text setting depth member.1
        let value ← decode setting depth member.2
        pure (Table.put key value entries)) []) := by
      refine yields_foldlM Table.each_nil fun entries hentries member _ => ?_
      refine yields_bind (yields_true _) fun key _ => ?_
      exact yields_bind (h setting depth member.2) fun value hvalue =>
        yields_pure (hentries.put key hvalue)
    exact yields_bind hmembers fun entries hentries =>
      yields_bind (yields_true _) fun _ _ => yields_pure hentries
  | scalar s =>
    dsimp only
    split
    · exact yields_pure Table.each_nil
    · exact yields_fail _
  | list _ _ _ => exact mismatch_yields _
  | link _ => exact mismatch_yields _
  | unreadable => exact mismatch_yields _
  | broken => exact mismatch_yields _

/-- What all written forms of a type yield. -/
theorem untagged_yields {name : String} {forms : List (Decoder α)}
    (h : ∀ form ∈ forms, Yields p form) : Yields p (untagged name forms) := by
  intro setting depth node
  refine yields_bind (yields_true _) fun node _ => yields_bind (yields_true _) fun followed _ => ?_
  split
  · next value after hfound =>
    obtain ⟨form, hform, hrun⟩ := List.exists_of_findSome?_eq_some hfound
    rw [toOption_eq_some_iff] at hrun
    exact yields_pure (h form hform (buffered setting) depth node followed value after hrun)
  · exact yields_fail _

end Decoder

/-! ## Records -/

namespace Decoder

open Step

/-- What a field makes of a record has a property if the record has. -/
def Keeps (p : ρ → Prop) (field : RecordField ρ) : Prop :=
  ∀ setting depth node,
    Step.Yields (fun update : ρ → ρ => ∀ record, p record → p (update record))
      (field.read setting depth node)

variable {p : ρ → Prop} {q : α → Prop} {name : String} {decode : Decoder α} {update : α → ρ → ρ}

theorem defaulted_keeps (hdecode : Yields q decode)
    (hupdate : ∀ value, q value → ∀ record, p record → p (update value record)) :
    Keeps p (defaulted name decode update) := fun setting depth node =>
  yields_map (hdecode setting depth node) hupdate

theorem required_keeps (hdecode : Yields q decode)
    (hupdate : ∀ value, q value → ∀ record, p record → p (update value record)) :
    Keeps p (required name decode update) := fun setting depth node =>
  yields_map (hdecode setting depth node) hupdate

theorem yields_any (decode : Decoder α) : Yields (fun _ => True) decode := fun _ _ _ =>
  yields_true _

variable {fields : List (RecordField ρ)}

/-- The field a key stands for is one of the fields. -/
theorem fieldOf_yields (setting : Setting) (key : Node) :
    Step.Yields (fun field? => ∀ field ∈ field?, field ∈ fields)
      (fieldOf fields setting key) := by
  refine yields_bind (yields_true _) fun key _ => ?_
  cases key with
  | scalar s =>
    dsimp only
    split
    · exact yields_pure fun field hfield => List.mem_of_find?_eq_some hfield
    · split
      · exact yields_pure fun field hfield => List.mem_of_getElem? hfield
      · exact yields_fail _
    · exact yields_fail _
  | list _ _ _ => exact mismatch_yields _
  | record _ _ _ => exact mismatch_yields _
  | link _ => exact mismatch_yields _
  | unreadable => exact mismatch_yields _
  | broken => exact mismatch_yields _

theorem member_yields (hfields : ∀ field ∈ fields, Keeps p field) (setting : Setting) (depth : Nat)
    {state : List String × ρ} (hstate : p state.2) (entry : Node × Node) :
    Step.Yields (fun state => p state.2) (member fields setting depth state entry) := by
  refine yields_bind (fieldOf_yields setting entry.1) fun field? hfield => ?_
  cases field? with
  | none => exact yields_bind (yields_true _) fun _ _ => yields_pure hstate
  | some field =>
    dsimp only
    split
    · exact yields_fail _
    · refine yields_bind (hfields field (hfield field rfl) setting depth entry.2)
        fun update hupdate => ?_
      exact yields_pure (hupdate state.2 hstate)

theorem positional_yields (hfields : ∀ field ∈ fields, Keeps p field) (setting : Setting)
    (depth : Nat) (ending : Ending) (items : List Node) {record : ρ} (hrecord : p record) :
    Step.Yields p (positional setting depth ending fields items record) := by
  induction fields generalizing items record with
  | nil =>
    cases items with
    | nil => exact yields_bind (yields_true _) fun _ _ => yields_pure hrecord
    | cons item items => exact yields_fail _
  | cons field fields ih =>
    obtain ⟨hfield, hrest⟩ := List.forall_mem_cons.mp hfields
    cases items with
    | nil =>
      refine yields_bind (yields_true _) fun _ _ => ?_
      split
      · exact yields_fail _
      · exact ih hrest [] hrecord
    | cons item items =>
      refine yields_bind (hfield setting depth item) fun update hupdate => ?_
      exact ih hrest items (hupdate record hrecord)

theorem complete_yields (seen : List String) {result : ρ} (hresult : p result) :
    Step.Yields p (record.complete fields seen result) := by
  unfold record.complete
  split
  · exact yields_fail _
  · exact yields_pure hresult

/-- **A record has what it starts with and every field keeps.** -/
theorem record_yields {blank : ρ} (hblank : p blank) (hfields : ∀ field ∈ fields, Keeps p field) :
    Yields p (record fields blank) := by
  intro setting depth node
  refine yields_bind (yields_true _) fun node _ => ?_
  cases node with
  | record _ members ending =>
    refine yields_bind (yields_true _) fun depth _ => ?_
    refine yields_bind (q := fun state : List String × ρ => p state.2) ?_ fun state hstate => ?_
    · exact yields_foldlM hblank fun state hstate entry _ =>
        member_yields hfields setting depth hstate entry
    · exact yields_bind (yields_true _) fun _ _ => complete_yields state.1 hstate
  | list _ items ending =>
    dsimp only
    split
    · exact yields_bind (yields_true _) fun depth _ =>
        positional_yields hfields setting depth ending items hblank
    · exact yields_fail _
  | scalar s =>
    dsimp only
    split
    · exact complete_yields [] hblank
    · exact yields_fail _
  | link _ => exact mismatch_yields _
  | unreadable => exact mismatch_yields _
  | broken => exact mismatch_yields _

end Decoder

end ProviderGen
