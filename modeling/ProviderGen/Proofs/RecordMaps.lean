/-
Two record types that are read alike.

A record is read field by field, and all that the reading does with the record is to let its fields
change it. So where a map between two record types fits the changes that their fields make, reading
the one type and mapping the result is reading the other. The faults are the same and in the same
places, since neither the keys nor the values are looked at in different ways.
-/
import ProviderGen.Decode.Decoder
import Mathlib.Data.List.Forall2

set_option autoImplicit false

namespace ProviderGen

variable {α β ρ σ : Type}

/-- A map that fits every step of a fold fits the fold. -/
theorem Step.map_foldlM {f : ρ → σ} {next : ρ → α → Step ρ} {next' : σ → α → Step σ}
    (h : ∀ state item, f <$> next state item = next' (f state) item) (items : List α) (start : ρ) :
    f <$> items.foldlM next start = items.foldlM next' (f start) := by
  induction items generalizing start with
  | nil => rw [List.foldlM_nil, List.foldlM_nil, map_pure]
  | cons item rest ih =>
    rw [List.foldlM_cons, List.foldlM_cons, map_bind, ← h, bind_map_left]
    exact bind_congr fun state => ih state

namespace Decoder

/-! ## Fields -/

/-- A map between two record types fits a field of each: the fields have one key, and they read one
change, before the map or behind it. -/
structure Fits (f : ρ → σ) (field : RecordField ρ) (field' : RecordField σ) : Prop where
  name : field.name = field'.name
  required : field.required = field'.required
  read : ∀ setting depth node,
    (fun update => f ∘ update) <$> field.read setting depth node =
      (fun update => update ∘ f) <$> field'.read setting depth node

variable {f : ρ → σ} {field : RecordField ρ} {field' : RecordField σ}
  {fields : List (RecordField ρ)} {fields' : List (RecordField σ)}

theorem defaulted_fits {update : α → ρ → ρ} {update' : α → σ → σ}
    (h : ∀ value record, f (update value record) = update' value (f record)) (name : String)
    (decode : Decoder α) : Fits f (defaulted name decode update) (defaulted name decode update') := by
  refine ⟨rfl, rfl, fun setting depth node => ?_⟩
  unfold defaulted
  rw [Functor.map_map, Functor.map_map]
  congr 1
  funext value record
  exact h value record

/-- What comes after a field may work on the record before the map or behind it. -/
theorem Fits.read_bind (h : Fits f field field') (setting : Setting) (depth : Nat) (node : Node)
    (next : (ρ → σ) → Step β) :
    (field.read setting depth node >>= fun update => next (f ∘ update)) =
      field'.read setting depth node >>= fun update => next (update ∘ f) := by
  have hread := congrArg (· >>= next) (h.read setting depth node)
  simpa only [bind_map_left] using hread

/-! ## Finding a field -/

theorem find?_fits (h : List.Forall₂ (Fits f) fields fields') {p : RecordField ρ → Bool}
    {p' : RecordField σ → Bool} (hp : ∀ field field', Fits f field field' → p field = p' field') :
    Option.Rel (Fits f) (fields.find? p) (fields'.find? p') := by
  induction h with
  | nil => exact .none
  | @cons field field' _ _ hfield _ ih =>
    rw [List.find?_cons, List.find?_cons, hp field field' hfield]
    cases p' field'
    · exact ih
    · exact .some hfield

theorem getElem?_fits (h : List.Forall₂ (Fits f) fields fields') (place : Nat) :
    Option.Rel (Fits f) fields[place]? fields'[place]? := by
  induction h generalizing place with
  | nil => exact .none
  | cons hfield _ ih =>
    cases place with
    | zero => exact .some hfield
    | succ place => exact ih place

/-- A key stands for fields that fit, or for none. -/
theorem fieldOf_bind (h : List.Forall₂ (Fits f) fields fields') (setting : Setting) (key : Node)
    {next : Option (RecordField ρ) → Step β} {next' : Option (RecordField σ) → Step β}
    (hnext : ∀ field? field?', Option.Rel (Fits f) field? field?' → next field? = next' field?') :
    (fieldOf fields setting key >>= next) = (fieldOf fields' setting key >>= next') := by
  unfold fieldOf
  rw [bind_assoc, bind_assoc]
  refine bind_congr fun key => ?_
  cases key with
  | scalar s =>
    dsimp only
    split
    · next name _ =>
      rw [pure_bind, pure_bind]
      apply hnext
      exact find?_fits h fun field field' hfield => by rw [hfield.name]
    · split
      · rw [pure_bind, pure_bind]
        exact hnext _ _ (getElem?_fits h _)
      · rfl
    · rfl
  | list _ _ _ => rfl
  | record _ _ _ => rfl
  | link _ => rfl
  | unreadable => rfl
  | broken => rfl

/-! ## Records -/

/-- A member changes the keys seen so far alike, and the record before the map or behind it. -/
theorem member_fits (h : List.Forall₂ (Fits f) fields fields') (setting : Setting) (depth : Nat)
    (state : List String × ρ) (entry : Node × Node) :
    Prod.map id f <$> member fields setting depth state entry =
      member fields' setting depth (Prod.map id f state) entry := by
  unfold member
  rw [map_bind]
  apply fieldOf_bind h
  rintro _ _ (hfield | _)
  · next field field' =>
    dsimp only [Prod.map_fst, id_eq]
    rw [hfield.name]
    split
    · rfl
    · rw [map_bind]
      exact hfield.read_bind setting depth entry.2 fun update =>
        pure (field'.name :: state.1, update state.2)
  · rw [map_bind]
    rfl

theorem positional_fits (h : List.Forall₂ (Fits f) fields fields') (setting : Setting)
    (depth : Nat) (ending : Ending) (items : List Node) (record : ρ) :
    f <$> positional setting depth ending fields items record =
      positional setting depth ending fields' items (f record) := by
  induction h generalizing items record with
  | nil =>
    cases items with
    | nil =>
      unfold positional
      rw [map_bind]
      rfl
    | cons item items => rfl
  | cons hfield _ ih =>
    cases items with
    | nil =>
      unfold positional
      rw [map_bind, hfield.required]
      refine bind_congr fun _ => ?_
      split
      · rfl
      · exact ih [] record
    | cons item items =>
      unfold positional
      rw [map_bind]
      simp only [ih]
      exact hfield.read_bind setting depth item fun update =>
        positional setting depth ending _ items (update record)

theorem complete_fits (h : List.Forall₂ (Fits f) fields fields') (seen : List String) (result : ρ) :
    f <$> record.complete fields seen result = record.complete fields' seen (f result) := by
  have hlacking : Option.Rel (Fits f)
      (fields.find? fun field => field.required && !seen.contains field.name)
      (fields'.find? fun field => field.required && !seen.contains field.name) :=
    find?_fits h fun field field' hfield => by rw [hfield.name, hfield.required]
  unfold record.complete
  generalize fields.find? _ = lacking at hlacking
  generalize fields'.find? _ = lacking' at hlacking
  cases hlacking with
  | none => rfl
  | some hfield =>
    dsimp only
    rw [hfield.name]
    rfl

/-- **Two record types whose fields fit are read alike, up to the map.** -/
theorem record_fits (h : List.Forall₂ (Fits f) fields fields') (blank : ρ) (setting : Setting)
    (depth : Nat) (node : Node) :
    f <$> record fields blank setting depth node =
      record fields' (f blank) setting depth node := by
  unfold record
  rw [map_bind]
  refine bind_congr fun node => ?_
  cases node with
  | record _ members ending =>
    dsimp only
    rw [map_bind]
    refine bind_congr fun depth => ?_
    -- the fold carries the keys seen so far beside the record, and the map leaves them alone
    have hmembers := Step.map_foldlM (member_fits h setting depth) members ([], blank)
    rw [map_bind]
    refine Eq.trans ?_ (congrArg (· >>= _) hmembers)
    rw [bind_map_left]
    refine bind_congr fun state => ?_
    rw [map_bind]
    exact bind_congr fun _ => complete_fits h state.1 state.2
  | list _ items ending =>
    dsimp only
    split
    · rw [map_bind]
      exact bind_congr fun depth => positional_fits h setting depth ending items blank
    · rfl
  | scalar s =>
    dsimp only
    split
    · exact complete_fits h [] blank
    · rfl
  | link _ => rfl
  | unreadable => rfl
  | broken => rfl

end Decoder

end ProviderGen
