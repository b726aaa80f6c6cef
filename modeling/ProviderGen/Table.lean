/-
Tables: lists of pairs in which every key stands once.

A table keeps the order in which its keys first came. Writing to a key that is
there replaces its value and moves nothing; a new key goes to the end.
-/
set_option autoImplicit false

namespace ProviderGen

/-- Pairs of a key and a value, in the order of the keys. -/
abbrev Table (α : Type) := List (String × α)

namespace Table

variable {α : Type}

/-- The table with `value` under `key`. -/
def put (key : String) (value : α) : Table α → Table α
  | [] => [(key, value)]
  | (k, v) :: rest => if k = key then (k, value) :: rest else (k, v) :: put key value rest

/-- The keys in order. -/
def keys (table : Table α) : List String := table.map Prod.fst

/-- No key stands twice. -/
def Distinct (table : Table α) : Prop := table.keys.Nodup

theorem lookup_put_self (key : String) (value : α) (table : Table α) :
    (table.put key value).lookup key = some value := by
  induction table with
  | nil => simp [put]
  | cons entry rest ih =>
    obtain ⟨k, v⟩ := entry
    by_cases h : k = key
    · simp [put, h]
    · have h' : (key == k) = false := by simpa using fun e => h e.symm
      simp [put, h, List.lookup_cons, h', ih]

theorem lookup_put_of_ne {key other : String} (hne : other ≠ key) (value : α) (table : Table α) :
    (table.put key value).lookup other = table.lookup other := by
  have hother : (other == key) = false := beq_eq_false_iff_ne.mpr hne
  induction table with
  | nil => simp [put, List.lookup_cons, hother]
  | cons entry rest ih =>
    obtain ⟨k, v⟩ := entry
    by_cases h : k = key
    · simp [put, h, List.lookup_cons, hother]
    · simp [put, h, List.lookup_cons, ih]

theorem keys_put (key : String) (value : α) (table : Table α) :
    (table.put key value).keys = if key ∈ table.keys then table.keys else table.keys ++ [key] := by
  induction table with
  | nil => simp [put, keys]
  | cons entry rest ih =>
    obtain ⟨k, v⟩ := entry
    by_cases h : k = key
    · simp [put, keys, h]
    · have h' : ¬ key = k := fun e => h e.symm
      simp only [put, h, if_false, keys, List.map_cons, List.mem_cons, h', false_or]
      simp only [keys] at ih
      rw [ih]
      split <;> simp_all

theorem distinct_put (key : String) (value : α) {table : Table α} (h : table.Distinct) :
    (table.put key value).Distinct := by
  unfold Distinct at *
  rw [keys_put]
  split
  · exact h
  · rename_i absent
    rw [List.nodup_append]
    refine ⟨h, by simp, ?_⟩
    intro a ha b hb e
    simp only [List.mem_singleton] at hb
    exact absent (hb ▸ e ▸ ha)

end Table

end ProviderGen
