/-
Computations that may fail, and lists of them.

A computation in several steps has a result if every step has one, and otherwise the error
of the first step that has none. Over a list, the results stand beside the members they
belong to, so that what is known of a member and its result is known of the two lists.
-/
import Mathlib.Data.List.Forall2
import Mathlib.Data.List.Induction

set_option autoImplicit false

namespace ProviderGen

variable {α β γ δ ε : Type}

/-! ## Steps -/

theorem ok_bind (value : α) (next : α → Except ε β) :
    ((Except.ok value : Except ε α) >>= next) = next value :=
  rfl

theorem error_bind (error : ε) (next : α → Except ε β) :
    ((Except.error error : Except ε α) >>= next) = .error error :=
  rfl

theorem bind_eq_ok_iff {first : Except ε α} {next : α → Except ε β} {result : β} :
    (first >>= next) = .ok result ↔ ∃ value, first = .ok value ∧ next value = .ok result := by
  rcases first with error | value
  · constructor
    · intro h
      cases h
    · rintro ⟨value, hvalue, -⟩
      cases hvalue
  · constructor
    · intro h
      exact ⟨value, rfl, h⟩
    · rintro ⟨value', hvalue, h⟩
      cases hvalue
      exact h

theorem bind_eq_error_iff {first : Except ε α} {next : α → Except ε β} {error : ε} :
    (first >>= next) = .error error ↔
      first = .error error ∨ ∃ value, first = .ok value ∧ next value = .error error := by
  rcases first with error' | value
  · constructor
    · intro h
      cases h
      exact Or.inl rfl
    · rintro (h | ⟨value, hvalue, -⟩)
      · cases h
        rfl
      · cases hvalue
  · constructor
    · intro h
      exact Or.inr ⟨value, rfl, h⟩
    · rintro (h | ⟨value', hvalue, h⟩)
      · cases h
      · cases hvalue
        exact h

/-- A computation has a result if it has no error. -/
theorem exists_ok_iff {result : Except ε α} :
    (∃ value, result = .ok value) ↔ ∀ error, result ≠ .error error := by
  rcases result with error | value
  · simp
  · simp

/-- Two steps fail with the fault of the first or, if that has none, with that of the second. -/
theorem bind_eq_error_iff_first {first : Except ε α} {next : α → Except ε β} {p q : ε → Prop}
    (hfirst : ∀ error, first = .error error ↔ p error)
    (hnext : ∀ value, first = .ok value → ∀ error, next value = .error error ↔ q error)
    (error : ε) : (first >>= next) = .error error ↔ p error ∨ (∀ other, ¬ p other) ∧ q error := by
  have hok : (∃ value, first = .ok value) ↔ ∀ other, ¬ p other := by
    rw [exists_ok_iff]
    exact forall_congr' fun other => not_congr (hfirst other)
  rw [bind_eq_error_iff, hfirst, ← hok]
  refine or_congr_right ?_
  constructor
  · rintro ⟨value, hvalue, herror⟩
    exact ⟨⟨value, hvalue⟩, (hnext value hvalue error).mp herror⟩
  · rintro ⟨⟨value, hvalue⟩, herror⟩
    exact ⟨value, hvalue, (hnext value hvalue error).mpr herror⟩

theorem pure_eq_ok_iff {value result : α} :
    (pure value : Except ε α) = .ok result ↔ result = value := by
  constructor
  · intro h
    cases h
    rfl
  · rintro rfl
    rfl

theorem toOption_eq_some_iff {result : Except ε α} {value : α} :
    result.toOption = some value ↔ result = .ok value := by
  cases result <;> simp [Except.toOption]

/-! ## Lists -/

/-- The results of a list are the results of its members, in order. -/
theorem mapM_eq_ok_iff {f : α → Except ε β} {items : List α} {values : List β} :
    items.mapM f = .ok values ↔
      List.Forall₂ (fun item value => f item = .ok value) items values := by
  induction items generalizing values with
  | nil => rw [List.mapM_nil, pure_eq_ok_iff, List.forall₂_nil_left_iff]
  | cons item rest ih =>
    simp only [List.mapM_cons, List.forall₂_cons_left_iff, bind_eq_ok_iff, pure_eq_ok_iff, ih]
    constructor
    · rintro ⟨value, hitem, values', hrest, rfl⟩
      exact ⟨value, values', hitem, hrest, rfl⟩
    · rintro ⟨value, values', hitem, hrest, rfl⟩
      exact ⟨value, hitem, values', hrest, rfl⟩

/-- A list has results if each of its members has one. -/
theorem exists_mapM_ok_iff {f : α → Except ε β} {items : List α} :
    (∃ values, items.mapM f = .ok values) ↔ ∀ item ∈ items, ∃ value, f item = .ok value := by
  simp only [mapM_eq_ok_iff]
  induction items with
  | nil => simp
  | cons item rest ih =>
    simp only [List.forall₂_cons_left_iff, List.forall_mem_cons, ← ih]
    constructor
    · rintro ⟨_, value, values, hitem, hrest, rfl⟩
      exact ⟨⟨value, hitem⟩, ⟨values, hrest⟩⟩
    · rintro ⟨⟨value, hitem⟩, ⟨values, hrest⟩⟩
      exact ⟨_, value, values, hitem, hrest, rfl⟩

/-- Computations that are the same on the members of a list are the same on the list. -/
theorem mapM_congr {f g : α → Except ε β} {items : List α} (h : ∀ item ∈ items, f item = g item) :
    items.mapM f = items.mapM g := by
  induction items with
  | nil => rfl
  | cons item rest ih =>
    obtain ⟨hitem, hrest⟩ := List.forall_mem_cons.mp h
    rw [List.mapM_cons, List.mapM_cons, hitem, ih hrest]

/-- What is the same of each member and its result is the same of both lists. -/
theorem map_eq_map_of_forall₂ {r : α → β → Prop} {f : α → γ} {g : β → γ} {items : List α}
    {values : List β} (h : List.Forall₂ r items values)
    (hsame : ∀ item value, r item value → f item = g value) : items.map f = values.map g := by
  induction h with
  | nil => rfl
  | cons hfirst _ ih => rw [List.map_cons, List.map_cons, hsame _ _ hfirst, ih]

/-- Every result is the result of a member. -/
theorem exists_of_forall₂ {r : α → β → Prop} {items : List α} {values : List β}
    (h : List.Forall₂ r items values) {value : β} (hmem : value ∈ values) :
    ∃ item ∈ items, r item value := by
  induction h with
  | nil => cases hmem
  | @cons item first items values hfirst _ ih =>
    rcases List.mem_cons.mp hmem with rfl | hlater
    · exact ⟨item, List.mem_cons_self .., hfirst⟩
    · obtain ⟨later, hin, hr⟩ := ih hlater
      exact ⟨later, List.mem_cons_of_mem _ hin, hr⟩

/-- A result at a place is the result of the member at that place. -/
theorem exists_getElem?_of_forall₂ {r : α → β → Prop} {items : List α} {values : List β}
    (h : List.Forall₂ r items values) {i : Nat} {value : β} (hi : values[i]? = some value) :
    ∃ item, items[i]? = some item ∧ r item value := by
  induction h generalizing i with
  | nil => cases hi
  | @cons item _ _ _ hfirst _ ih =>
    cases i with
    | zero =>
      obtain rfl := Option.some.inj hi
      exact ⟨item, rfl, hfirst⟩
    | succ i => exact ih hi

/-- Members that are related are related in another way as well if that holds of each pair. -/
theorem forall₂_imp_of_mem {r p : α → β → Prop} {items : List α} {values : List β}
    (h : List.Forall₂ r items values)
    (himp : ∀ item ∈ items, ∀ value ∈ values, r item value → p item value) :
    List.Forall₂ p items values := by
  induction h with
  | nil => exact .nil
  | cons hfirst _ ih =>
    refine .cons (himp _ (List.mem_cons_self ..) _ (List.mem_cons_self ..) hfirst) (ih ?_)
    exact fun item hitem value hvalue =>
      himp item (List.mem_cons_of_mem _ hitem) value (List.mem_cons_of_mem _ hvalue)

/-- Lists that are related member by member, one to the next, are related over the middle one. -/
theorem forall₂_comp {r : α → β → Prop} {p : β → γ → Prop} {q : α → γ → Prop} {items : List α}
    {middle : List β} {values : List γ} (h : List.Forall₂ r items middle)
    (hp : List.Forall₂ p middle values) (hstep : ∀ a b c, r a b → p b c → q a c) :
    List.Forall₂ q items values := by
  induction h generalizing values with
  | nil =>
    rw [List.forall₂_nil_left_iff] at hp
    rw [hp]
    exact .nil
  | cons hfirst _ ih =>
    obtain ⟨value, values', hvalue, hrest, rfl⟩ := List.forall₂_cons_left_iff.mp hp
    exact .cons (hstep _ _ _ hfirst hvalue) (ih hrest)

/-- A member of a list is replaced by one that it is related to. -/
theorem forall₂_replace {r : α → α → Prop} (hrefl : ∀ a, r a a) {a b : α} (h : r a b)
    (before after : List α) : List.Forall₂ r (before ++ a :: after) (before ++ b :: after) := by
  have hsame : ∀ l : List α, List.Forall₂ r l l := fun l => List.forall₂_same.mpr fun x _ => hrefl x
  exact List.rel_append (hsame before) (List.Forall₂.cons h (hsame after))

/-- A list of which a part is kept splits where the kept part does. -/
theorem filter_eq_append_cons_iff {p : α → Bool} {items before after : List α} {item : α} :
    items.filter p = before ++ item :: after ↔
      ∃ front back, items = front ++ item :: back ∧ p item = true ∧ front.filter p = before ∧
        back.filter p = after := by
  rw [List.filter_eq_append_iff]
  constructor
  · rintro ⟨front, _, rfl, hbefore, hrest⟩
    obtain ⟨skipped, back, rfl, hskipped, hitem, hafter⟩ := List.filter_eq_cons_iff.mp hrest
    refine ⟨front ++ skipped, back, by rw [List.append_assoc], hitem, ?_, hafter⟩
    rw [List.filter_append, List.filter_eq_nil_iff.mpr hskipped, List.append_nil, hbefore]
  · rintro ⟨front, back, rfl, hitem, hbefore, hafter⟩
    refine ⟨front, item :: back, rfl, hbefore, ?_⟩
    rw [List.filter_cons_of_pos hitem, hafter]

/-- A list that is related to one that splits splits as well. -/
theorem exists_split_of_forall₂ {r : α → β → Prop} {items : List α} {before after : List β}
    {value : β} (h : List.Forall₂ r items (before ++ value :: after)) :
    ∃ front item back, items = front ++ item :: back ∧ List.Forall₂ r front before ∧
      r item value ∧ List.Forall₂ r back after := by
  induction before generalizing items with
  | nil =>
    obtain ⟨item, back, hitem, hback, rfl⟩ := List.forall₂_cons_right_iff.mp h
    exact ⟨[], item, back, rfl, .nil, hitem, hback⟩
  | cons first before ih =>
    obtain ⟨head, rest, hhead, hrest, rfl⟩ := List.forall₂_cons_right_iff.mp h
    obtain ⟨front, item, back, rfl, hfront, hitem, hback⟩ := ih hrest
    exact ⟨head :: front, item, back, rfl, .cons hhead hfront, hitem, hback⟩

/-- What is found under a key stands there. -/
theorem mem_of_lookup [BEq α] [LawfulBEq α] {entries : List (α × β)} {key : α} {value : β}
    (h : entries.lookup key = some value) : (key, value) ∈ entries := by
  obtain ⟨before, after, hsplit, -⟩ := List.lookup_eq_some_iff.mp h
  rw [hsplit]
  exact List.mem_append_right _ (List.mem_cons_self ..)

/-! ## The first failure -/

/-- If a member has a property, there is a first one. -/
theorem exists_first {p : α → Prop} {items : List α} (h : ∃ item ∈ items, p item) :
    ∃ before item after, items = before ++ item :: after ∧ p item ∧
      ∀ earlier ∈ before, ¬ p earlier := by
  classical
  obtain ⟨item, hmem, hitem⟩ := h
  obtain ⟨first, hfirst⟩ := Option.isSome_iff_exists.mp
    (List.find?_isSome (p := fun item => decide (p item)) |>.mpr ⟨item, hmem, decide_eq_true hitem⟩)
  obtain ⟨hp, before, after, hsplit, hbefore⟩ := List.find?_eq_some_iff_append.mp hfirst
  exact ⟨before, first, after, hsplit, of_decide_eq_true hp,
    fun earlier hearlier => by simpa using hbefore earlier hearlier⟩

/-- If not all pairs of a list are related, there is a first member that one before it is not
related to. -/
theorem not_pairwise_iff {r : α → α → Prop} {items : List α} :
    ¬ items.Pairwise r ↔
      ∃ before second after first, items = before ++ second :: after ∧ before.Pairwise r ∧
        first ∈ before ∧ ¬ r first second := by
  constructor
  · intro h
    induction items using List.reverseRecOn with
    | nil => exact absurd List.Pairwise.nil h
    | append_singleton items last ih =>
      by_cases hitems : items.Pairwise r
      · -- the pairs before the last member are related, so it is the last that is not
        have hlast : ¬ ∀ first ∈ items, r first last := by
          intro hall
          refine h (List.pairwise_append.mpr ⟨hitems, List.pairwise_singleton r last, ?_⟩)
          intro first hfirst second hsecond
          rw [List.mem_singleton.mp hsecond]
          exact hall first hfirst
        push Not at hlast
        obtain ⟨first, hfirst, hnot⟩ := hlast
        exact ⟨items, last, [], first, rfl, hitems, hfirst, hnot⟩
      · obtain ⟨before, second, after, first, rfl, hbefore, hfirst, hnot⟩ := ih hitems
        exact ⟨before, second, after ++ [last], first, by simp, hbefore, hfirst, hnot⟩
  · rintro ⟨before, second, after, first, rfl, -, hfirst, hnot⟩ h
    exact hnot ((List.pairwise_append.mp h).2.2 first hfirst second (List.mem_cons_self ..))

/-- A list fails as its first member does, or as the rest if that has a result. -/
theorem mapM_cons_eq_error_iff {f : α → Except ε β} {item : α} {rest : List α} {error : ε} :
    (item :: rest).mapM f = .error error ↔
      f item = .error error ∨ (∃ value, f item = .ok value) ∧ rest.mapM f = .error error := by
  rw [List.mapM_cons, bind_eq_error_iff]
  refine or_congr_right ?_
  constructor
  · rintro ⟨value, hitem, hrest⟩
    rcases bind_eq_error_iff.mp hrest with hrest | ⟨values, -, hpure⟩
    · exact ⟨⟨value, hitem⟩, hrest⟩
    · cases hpure
  · rintro ⟨⟨value, hitem⟩, hrest⟩
    exact ⟨value, hitem, bind_eq_error_iff.mpr (Or.inl hrest)⟩

/-- A list fails as the first of its members does that has no result. -/
theorem mapM_eq_error_iff {f : α → Except ε β} {items : List α} {error : ε} :
    items.mapM f = .error error ↔
      ∃ before item after, items = before ++ item :: after ∧
        (∀ earlier ∈ before, ∃ value, f earlier = .ok value) ∧ f item = .error error := by
  induction items with
  | nil =>
    rw [List.mapM_nil]
    constructor
    · intro h
      cases h
    · rintro ⟨before, item, after, hsplit, -⟩
      simp at hsplit
  | cons first rest ih =>
    rw [mapM_cons_eq_error_iff, ih]
    constructor
    · rintro (hfirst | ⟨hfirst, before, item, after, rfl, hbefore, hitem⟩)
      · exact ⟨[], first, rest, rfl, by simp, hfirst⟩
      · exact ⟨first :: before, item, after, rfl, List.forall_mem_cons.mpr ⟨hfirst, hbefore⟩, hitem⟩
    · rintro ⟨before, item, after, hsplit, hbefore, hitem⟩
      cases before with
      | nil =>
        obtain ⟨rfl, -⟩ := List.cons.inj hsplit
        exact Or.inl hitem
      | cons head before =>
        obtain ⟨rfl, rfl⟩ := List.cons.inj hsplit
        obtain ⟨hfirst, hbefore⟩ := List.forall_mem_cons.mp hbefore
        exact Or.inr ⟨hfirst, before, item, after, rfl, hbefore, hitem⟩

/-- Two lists whose members fail alike fail alike. -/
theorem mapM_eq_error_congr {f : α → Except ε γ} {g : β → Except ε δ} {items : List α}
    {values : List β}
    (h : List.Forall₂ (fun a b => ∀ error, f a = .error error ↔ g b = .error error) items values)
    (error : ε) : items.mapM f = .error error ↔ values.mapM g = .error error := by
  induction h with
  | nil =>
    rw [List.mapM_nil, List.mapM_nil]
    constructor <;> intro h <;> cases h
  | cons hfirst _ ih =>
    simp only [mapM_cons_eq_error_iff, exists_ok_iff, ne_eq, hfirst, ih]

end ProviderGen
