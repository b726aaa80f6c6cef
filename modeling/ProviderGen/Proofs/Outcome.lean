/-
Outcomes of an expansion, and what lists of them come to.

An outcome is a value, an error, or nothing at all when the depth of calls was too
small. The last two are one case below, `failed`: an expansion that fails passes its
failure on unchanged, whether it is an error or a lack of depth. Outcomes of a list are
collected from the front and the first failure decides, so a member matters only behind
members that all have values; that is what `Reached` says, and every proof about the
properties of a schema rests on it.
-/
import ProviderGen.Resource.Flatten
import Mathlib.Data.List.Forall2

set_option autoImplicit false

namespace ProviderGen

/-- What an expansion comes to: a value, an error, or nothing within the depth. -/
abbrev Outcome (α : Type) := Option (Except SchemaError α)

namespace Outcome

variable {α β : Type}

/-- The outcome that is no value: an error, or no outcome within the depth. -/
def failed (why : Option SchemaError) : Outcome α := why.map .error

/-- The outcome of going on with the value, if there is one. -/
def andThen (outcome : Outcome α) (next : α → Outcome β) : Outcome β :=
  match outcome with
  | none => none
  | some (.error error) => some (.error error)
  | some (.ok value) => next value

/-- The values of the members of a list, or the first failure. -/
def collect (f : α → Outcome β) : List α → Outcome (List β)
  | [] => some (.ok [])
  | a :: rest => andThen (f a) fun b => andThen (collect f rest) fun bs => some (.ok (b :: bs))

/-! ## Going on -/

@[simp] theorem failed_none : (failed none : Outcome α) = none := rfl

@[simp] theorem failed_some (error : SchemaError) :
    (failed (some error) : Outcome α) = some (.error error) := rfl

/-- An outcome is a value or a failure. -/
theorem value_or_failed (outcome : Outcome α) :
    (∃ value, outcome = some (.ok value)) ∨ ∃ why, outcome = failed why := by
  rcases outcome with _ | error | value
  · exact Or.inr ⟨none, rfl⟩
  · exact Or.inr ⟨some error, rfl⟩
  · exact Or.inl ⟨value, rfl⟩

@[simp] theorem ok_ne_failed (value : α) (why : Option SchemaError) :
    (some (.ok value) : Outcome α) ≠ failed why := by
  rcases why with _ | error <;> simp

/-- A failure has no value, whatever the type of values. -/
theorem failed_eq_failed_iff {why why' : Option SchemaError} :
    (failed why : Outcome α) = failed why' ↔ why = why' := by
  rcases why with _ | error <;> rcases why' with _ | error' <;> simp

theorem error_eq_failed_iff {error : SchemaError} {why : Option SchemaError} :
    (some (.error error) : Outcome α) = failed why ↔ why = some error := by
  rw [← failed_some, failed_eq_failed_iff, eq_comm]

@[simp] theorem andThen_failed (why : Option SchemaError) (next : α → Outcome β) :
    andThen (failed why) next = failed why := by
  rcases why with _ | error <;> rfl

@[simp] theorem andThen_ok (value : α) (next : α → Outcome β) :
    andThen (some (.ok value)) next = next value := rfl

theorem andThen_eq_failed_iff {outcome : Outcome α} {next : α → Outcome β}
    {why : Option SchemaError} :
    andThen outcome next = failed why ↔
      outcome = failed why ∨ ∃ value, outcome = some (.ok value) ∧ next value = failed why := by
  rcases value_or_failed outcome with ⟨value, rfl⟩ | ⟨why', rfl⟩
  · simp
  · rw [andThen_failed, failed_eq_failed_iff, failed_eq_failed_iff]
    constructor
    · exact Or.inl
    · rintro (h | ⟨value, hvalue, -⟩)
      · exact h
      · exact absurd hvalue.symm (ok_ne_failed value why')

theorem andThen_eq_ok_iff {outcome : Outcome α} {next : α → Outcome β} {result : β} :
    andThen outcome next = some (.ok result) ↔
      ∃ value, outcome = some (.ok value) ∧ next value = some (.ok result) := by
  rcases outcome with _ | other | value
  · constructor
    · intro h
      cases h
    · rintro ⟨value, hvalue, -⟩
      cases hvalue
  · constructor
    · intro h
      cases h
    · rintro ⟨value, hvalue, -⟩
      cases hvalue
  · constructor
    · exact fun h => ⟨value, rfl, h⟩
    · rintro ⟨value', hvalue, h⟩
      cases hvalue
      exact h

/-! ## Collecting -/

/-- The values of a list are the values of its members, in order. -/
theorem collect_eq_ok_iff {f : α → Outcome β} {items : List α} {values : List β} :
    collect f items = some (.ok values) ↔
      List.Forall₂ (fun item value => f item = some (.ok value)) items values := by
  induction items generalizing values with
  | nil =>
    rw [collect, List.forall₂_nil_left_iff, Option.some.injEq, Except.ok.injEq, eq_comm]
  | cons item rest ih =>
    rw [collect, andThen_eq_ok_iff, List.forall₂_cons_left_iff]
    constructor
    · rintro ⟨value, hitem, hrest⟩
      obtain ⟨values', hcollect, hvalues⟩ := andThen_eq_ok_iff.mp hrest
      cases hvalues
      exact ⟨value, values', hitem, ih.mp hcollect, rfl⟩
    · rintro ⟨value, values', hitem, hrest, rfl⟩
      exact ⟨value, hitem, andThen_eq_ok_iff.mpr ⟨values', ih.mpr hrest, rfl⟩⟩

/-- A member of a list is reached if every member before it has a value. -/
def Reached (f : α → Outcome β) (items : List α) (item : α) : Prop :=
  ∃ before after, items = before ++ item :: after ∧
    ∀ earlier ∈ before, ∃ b, f earlier = some (.ok b)

theorem Reached.mem {f : α → Outcome β} {items : List α} {item : α} (h : Reached f items item) :
    item ∈ items := by
  obtain ⟨before, after, rfl, -⟩ := h
  exact List.mem_append_right _ (List.mem_cons_self ..)

/-- The first member is reached, and behind it what its value lets pass. -/
theorem reached_cons_iff {f : α → Outcome β} {first item : α} {rest : List α} :
    Reached f (first :: rest) item ↔
      item = first ∨ (∃ value, f first = some (.ok value)) ∧ Reached f rest item := by
  constructor
  · rintro ⟨before, after, hsplit, hbefore⟩
    cases before with
    | nil => exact Or.inl (List.cons.inj hsplit).1.symm
    | cons earlier before =>
      obtain ⟨rfl, hrest⟩ := List.cons.inj hsplit
      exact Or.inr ⟨hbefore first (by simp), before, after, hrest,
        fun other hmem => hbefore other (List.mem_cons_of_mem _ hmem)⟩
  · rintro (rfl | ⟨hfirst, before, after, rfl, hbefore⟩)
    · exact ⟨[], rest, rfl, by simp⟩
    · refine ⟨first :: before, after, rfl, ?_⟩
      intro earlier hmem
      rcases List.mem_cons.mp hmem with rfl | hlater
      · exact hfirst
      · exact hbefore earlier hlater

/-- A list fails exactly if one of its members is reached and fails so. -/
theorem collect_eq_failed_iff {f : α → Outcome β} {items : List α} {why : Option SchemaError} :
    collect f items = failed why ↔ ∃ item, Reached f items item ∧ f item = failed why := by
  induction items with
  | nil =>
    constructor
    · intro h
      exact absurd h (ok_ne_failed _ _)
    · rintro ⟨item, hreached, -⟩
      cases hreached.mem
  | cons first rest ih =>
    -- the first member fails, or it has a value and the failure is one of the rest
    simp only [collect, andThen_eq_failed_iff, ih, ok_ne_failed, and_false, exists_false, or_false,
      reached_cons_iff]
    constructor
    · rintro (hfirst | ⟨value, hfirst, item, hreached, hitem⟩)
      · exact ⟨first, Or.inl rfl, hfirst⟩
      · exact ⟨item, Or.inr ⟨⟨value, hfirst⟩, hreached⟩, hitem⟩
    · rintro ⟨item, rfl | ⟨⟨value, hfirst⟩, hreached⟩, hitem⟩
      · exact Or.inl hitem
      · exact Or.inr ⟨value, hfirst, item, hreached, hitem⟩

/-! ## More depth -/

/-- One family of outcomes extends another: where the other has an outcome, it has the
same. -/
def Extends (g f : α → Outcome β) : Prop := ∀ a outcome, f a = some outcome → g a = some outcome

theorem Extends.value {f g : α → Outcome β} (h : Extends g f) {a : α}
    (hf : ∃ b, f a = some (.ok b)) : ∃ b, g a = some (.ok b) := by
  obtain ⟨b, hb⟩ := hf
  exact ⟨b, h a _ hb⟩

/-- What a family reaches, a family that extends it reaches. -/
theorem Reached.extends {f g : α → Outcome β} (h : Extends g f) {items : List α} {item : α}
    (hreached : Reached f items item) : Reached g items item := by
  obtain ⟨before, after, hsplit, hbefore⟩ := hreached
  exact ⟨before, after, hsplit, fun earlier hmem => h.value (hbefore earlier hmem)⟩

/-- What a family reaches, a family that it extends reaches too, unless that one has no
outcome for the list: it may be late, but it goes the same way. -/
theorem Reached.of_extends {f g : α → Outcome β} (h : Extends g f) {items : List α} {item : α}
    (hreached : Reached g items item) (hsome : Outcome.collect f items ≠ none) :
    Reached f items item := by
  induction items with
  | nil => cases hreached.mem
  | cons first rest ih =>
    rcases reached_cons_iff.mp hreached with rfl | ⟨⟨value, hfirst⟩, hrest⟩
    · exact reached_cons_iff.mpr (Or.inl rfl)
    · -- `f` has an outcome for the first member, and it is the value `g` has for it
      have hvalue : f first = some (.ok value) := by
        cases hf : f first with
        | none => rw [Outcome.collect, hf] at hsome; exact absurd rfl hsome
        | some outcome => rw [h first outcome hf] at hfirst; exact hfirst
      rw [Outcome.collect, hvalue, andThen_ok] at hsome
      -- so the list is decided by the rest
      refine reached_cons_iff.mpr (Or.inr ⟨⟨value, hvalue⟩, ih hrest ?_⟩)
      intro hnone
      rw [hnone] at hsome
      exact hsome rfl

/-- Collecting from a family that extends another extends what the other collects. -/
theorem Extends.collect {f g : α → Outcome β} (h : Extends g f) :
    Extends (Outcome.collect g) (Outcome.collect f) := by
  intro items result hresult
  rcases result with error | values
  · rw [← failed_some] at hresult ⊢
    obtain ⟨item, hreached, hitem⟩ := collect_eq_failed_iff.mp hresult
    exact collect_eq_failed_iff.mpr ⟨item, hreached.extends h, h item _ hitem⟩
  · exact collect_eq_ok_iff.mpr
      ((collect_eq_ok_iff.mp hresult).imp fun item value hvalue => h item _ hvalue)

end Outcome

end ProviderGen
