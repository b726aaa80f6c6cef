/-
The calls an expansion makes, and when it comes to an end.

`Calls` relates a call to the further calls that it gets as far as to make: a property
is expanded only if every property before it has an attribute. A call that comes to an
outcome within a depth has all its further calls come to one within a smaller depth,
so an expansion that leads back to a call it is in the middle of has no outcome at any
depth.

The converse needs the bound. An expansion that has no outcome at some depth makes a run
of that many calls, each for the one before it. The names pushed along a run are distinct
components, the schemas come from the document, and the stack only grows; so a run
longer than the number of heights times the number of schemas has the same call twice.
-/
import ProviderGen.Proofs.Expansion
import ProviderGen.Proofs.Parts
import Mathlib.Data.List.ProdSigma
import Mathlib.Data.List.Nodup
import Mathlib.Logic.Relation

set_option autoImplicit false

namespace ProviderGen

open Relation

/-- A call: a schema to expand on a stack. -/
@[ext]
structure Call where
  stack : Stack
  schema : Schema

/-- The height of the stack and the schema. Along a run they settle the call. -/
def Call.place (call : Call) : Nat × Schema := (call.stack.length, call.schema)

namespace Document

variable {doc : Document}

/-- What a call comes to within a depth. -/
def outcome (doc : Document) (depth : Nat) (call : Call) : Outcome (List Field) :=
  doc.expand depth call.stack call.schema

/-- A call makes a further one for a property: it gets past its schema, every property
before this one has an attribute, and this one calls for the expansion of a schema. -/
def CallsFor (doc : Document) (entry : String × Schema) (call inner : Call) : Prop :=
  ∃ resolved names target repeated depth,
    doc.enter call.stack call.schema = .ok (resolved, names) ∧
      Outcome.Reached (doc.attributeOf (doc.expand depth (call.stack ++ names)) resolved.required)
        resolved.properties entry ∧
      doc.demand entry.2 = .ok (target, .nested inner.schema repeated) ∧
      inner.stack = call.stack ++ names

/-- A call makes a further one for some property. -/
def Calls (doc : Document) (call inner : Call) : Prop := ∃ entry, doc.CallsFor entry call inner

/-! ## Outcomes along calls -/

/-- The calls that a call with an outcome makes have outcomes, within less depth. -/
theorem Calls.exists_outcome {call inner : Call} (h : doc.Calls call inner) {depth : Nat}
    (hcall : doc.outcome (depth + 1) call ≠ none) : doc.outcome depth inner ≠ none := by
  obtain ⟨entry, resolved, names, target, repeated, deep, henter, hreached, hdemand, hstack⟩ := h
  unfold outcome at hcall ⊢
  rw [expand, henter] at hcall
  dsimp only at hcall
  -- the property may have been reached at another depth; then it is reached at this one
  have hhere := (hreached.extends
    (attributeOf_extends (expand_extends (Nat.le_max_left deep depth) _) _)).of_extends
      (attributeOf_extends (expand_extends (Nat.le_max_right deep depth) _) _) hcall
  intro hnone
  rw [hstack, ← Outcome.failed_none] at hnone
  exact hcall (Outcome.collect_eq_failed_iff.mpr ⟨entry, hhere,
    attributeOf_eq_failed_iff.mpr (Or.inr ⟨target, inner.schema, repeated, hdemand, hnone⟩)⟩)

/-- A call that makes a further one has the error of that one. -/
theorem Calls.error {call inner : Call} (h : doc.Calls call inner) {error : SchemaError}
    (hinner : ∃ depth, doc.outcome depth inner = some (.error error)) :
    ∃ depth, doc.outcome depth call = some (.error error) := by
  obtain ⟨entry, resolved, names, target, repeated, deep, henter, hreached, hdemand, hstack⟩ := h
  obtain ⟨depth, hdepth⟩ := hinner
  -- deep enough to reach the property and to see the error of the inner call
  refine ⟨max deep depth + 1, ?_⟩
  unfold outcome at hdepth ⊢
  rw [hstack] at hdepth
  have hnested := expand_extends (Nat.le_max_right deep depth) _ _ _ hdepth
  rw [← Outcome.failed_some, expand_succ_eq_failed_iff]
  refine Or.inr ⟨resolved, names, entry, henter, hreached.extends
    (attributeOf_extends (expand_extends (Nat.le_max_left deep depth) _) _), ?_⟩
  exact attributeOf_eq_failed_iff.mpr
    (Or.inr ⟨target, inner.schema, repeated, hdemand, hnested⟩)

/-- A call has the error of every call that it gets to. -/
theorem error_of_reflTransGen {call inner : Call} (h : ReflTransGen doc.Calls call inner)
    {error : SchemaError} (hinner : ∃ depth, doc.outcome depth inner = some (.error error)) :
    ∃ depth, doc.outcome depth call = some (.error error) := by
  induction h using ReflTransGen.head_induction_on with
  | refl => exact hinner
  | head hcalls _ ih => exact hcalls.error ih

/-- A call without an outcome makes a further one without an outcome in less depth. -/
theorem exists_calls_of_outcome_none {call : Call} {depth : Nat}
    (h : doc.outcome (depth + 1) call = none) :
    ∃ inner, doc.Calls call inner ∧ doc.outcome depth inner = none := by
  unfold outcome at h
  rw [← Outcome.failed_none, expand_succ_eq_failed_iff] at h
  rcases h with ⟨error, -, hwhy⟩ | ⟨resolved, names, entry, henter, hreached, hentry⟩
  · cases hwhy
  · rcases attributeOf_eq_failed_iff.mp hentry with
      ⟨error, -, hwhy⟩ | ⟨target, schema, repeated, hdemand, hnested⟩
    · cases hwhy
    · exact ⟨⟨call.stack ++ names, schema⟩,
        ⟨entry, resolved, names, target, repeated, depth, henter, hreached, hdemand, rfl⟩, hnested⟩

/-- A call raises an error itself: it does not get past its schema, or it comes to a property
whose demand is an error. -/
def Raises (doc : Document) (call : Call) (error : SchemaError) : Prop :=
  doc.enter call.stack call.schema = .error error ∨
    ∃ resolved names entry, doc.enter call.stack call.schema = .ok (resolved, names) ∧
      entry ∈ resolved.properties ∧ doc.demand entry.2 = .error error

/-- The error of a call is raised by a call that it gets to. -/
theorem exists_raises_of_error {call : Call} {depth : Nat} {error : SchemaError}
    (h : doc.outcome depth call = some (.error error)) :
    ∃ inner, ReflTransGen doc.Calls call inner ∧ doc.Raises inner error := by
  -- on the depth: the call raises the error itself, or it is the error of a call it makes
  induction depth generalizing call with
  | zero => cases h
  | succ depth ih =>
    unfold outcome at h
    rw [← Outcome.failed_some, expand_succ_eq_failed_iff] at h
    rcases h with ⟨error', henter, hwhy⟩ | ⟨resolved, names, entry, henter, hreached, hentry⟩
    · rw [Option.some.injEq] at hwhy
      exact ⟨call, .refl, Or.inl (by rw [henter, hwhy])⟩
    · rcases attributeOf_eq_failed_iff.mp hentry with
        ⟨error', hdemand, hwhy⟩ | ⟨target, schema, repeated, hdemand, hnested⟩
      · rw [Option.some.injEq] at hwhy
        exact ⟨call, .refl, Or.inr ⟨resolved, names, entry, henter, hreached.mem,
          by rw [hdemand, hwhy]⟩⟩
      · obtain ⟨inner, hreach, hraises⟩ :=
          ih (show doc.outcome depth ⟨call.stack ++ names, schema⟩ = _ from hnested)
        refine ⟨inner, hreach.head ?_, hraises⟩
        exact ⟨entry, resolved, names, target, repeated, depth, henter, hreached, hdemand, rfl⟩

/-! ## Loops -/

/-- Along one call or more the depth that an outcome takes goes down. -/
theorem exists_lt_of_transGen {call inner : Call} (h : TransGen doc.Calls call inner) {depth : Nat}
    (hcall : doc.outcome depth call ≠ none) :
    ∃ less, less < depth ∧ doc.outcome less inner ≠ none := by
  induction h with
  | single hcalls =>
    cases depth with
    | zero => exact absurd rfl hcall
    | succ depth => exact ⟨depth, Nat.lt_succ_self depth, hcalls.exists_outcome hcall⟩
  | tail _ hcalls ih =>
    obtain ⟨less, hless, hmiddle⟩ := ih
    cases less with
    | zero => exact absurd rfl hmiddle
    | succ less => exact ⟨less, by omega, hcalls.exists_outcome hmiddle⟩

/-- A call that leads back to itself has no outcome, at any depth: an outcome would need
less depth than itself. -/
theorem outcome_eq_none_of_loop {call : Call} (h : TransGen doc.Calls call call) (depth : Nat) :
    doc.outcome depth call = none := by
  induction depth using Nat.strongRecOn with
  | ind depth ih =>
    by_contra hsome
    -- back at the call, less depth is left
    obtain ⟨less, hless, hagain⟩ := exists_lt_of_transGen h hsome
    exact hagain (ih less hless)

/-- An expansion is endless if it gets to a call that leads back to itself. -/
def Endless (doc : Document) (call : Call) : Prop :=
  ∃ inner, ReflTransGen doc.Calls call inner ∧ TransGen doc.Calls inner inner

theorem Endless.outcome_eq_none {call : Call} (h : doc.Endless call) (depth : Nat) :
    doc.outcome depth call = none := by
  obtain ⟨inner, hreach, hloop⟩ := h
  by_contra hsome
  rcases reflTransGen_iff_eq_or_transGen.mp hreach with rfl | htrans
  · exact hsome (outcome_eq_none_of_loop hloop depth)
  · obtain ⟨less, -, hinner⟩ := exists_lt_of_transGen htrans hsome
    exact hinner (outcome_eq_none_of_loop hloop less)

/-! ## Runs -/

/-- A call without an outcome at some depth starts a run of that many calls. -/
theorem exists_run {call : Call} {depth : Nat} (h : doc.outcome depth call = none) :
    ∃ run : Nat → Call, run 0 = call ∧ ∀ i < depth, doc.Calls (run i) (run (i + 1)) := by
  induction depth generalizing call with
  | zero => exact ⟨fun _ => call, rfl, by omega⟩
  | succ depth ih =>
    obtain ⟨inner, hcalls, hinner⟩ := exists_calls_of_outcome_none h
    obtain ⟨run, hstart, hrun⟩ := ih hinner
    -- the call in front of the run that its inner call starts
    refine ⟨fun i => if i = 0 then call else run (i - 1), by simp, ?_⟩
    intro i hi
    cases i with
    | zero => simpa [hstart] using hcalls
    | succ i => simpa using hrun i (by omega)

/-- The calls of a run follow from those before them. -/
theorem transGen_of_run {run : Nat → Call} {depth : Nat}
    (hrun : ∀ i < depth, doc.Calls (run i) (run (i + 1))) {i j : Nat} (hij : i < j)
    (hj : j ≤ depth) :
    TransGen doc.Calls (run i) (run j) := by
  induction j with
  | zero => omega
  | succ j ih =>
    by_cases hlast : i = j
    · rw [hlast]
      exact TransGen.single (hrun j (by omega))
    · exact (ih (by omega) (by omega)).tail (hrun j (by omega))

/-! ## The bound -/

/-- What holds of the calls in the expansion of a body: beyond the stack it started with,
the stack holds distinct components, and the schema is one the expansion can come
across. -/
def Within (doc : Document) (body : Schema) (start : Stack) (call : Call) : Prop :=
  ∃ pushed, call.stack = start ++ pushed ∧ pushed.Nodup ∧
    pushed ⊆ doc.schemas.keys ∧ call.schema ∈ doc.parts body

theorem Within.start {body : Schema} {call : Call} (h : call.schema ∈ doc.parts body) :
    doc.Within body call.stack call :=
  ⟨[], by rw [List.append_nil], List.nodup_nil, List.nil_subset _, h⟩

/-- The schema that a property calls for is one the expansion can come across. -/
theorem nested_mem_parts {body property target schema : Schema} {repeated : Bool}
    (hproperty : property ∈ doc.parts body)
    (h : doc.demand property = .ok (target, .nested schema repeated)) :
    schema ∈ doc.parts body := by
  obtain ⟨hresolve, rfl | ⟨-, hitems⟩⟩ := demand_eq_nested h
  · exact hproperty
  · have htarget := mem_parts_of_resolve hproperty hresolve
    exact mem_parts_of_mem_children htarget (Schema.items_mem_children hitems)

theorem Within.calls {body : Schema} {start : Stack} {call inner : Call}
    (h : doc.Within body start call) (hcalls : doc.Calls call inner) :
    doc.Within body start inner := by
  obtain ⟨pushed, hstack, hnodup, hkeys, hschema⟩ := h
  obtain ⟨entry, resolved, names, target, repeated, deep, henter, hreached, hdemand, hinner⟩ :=
    hcalls
  obtain ⟨hchain, hend, hfresh⟩ := chain_of_enter henter
  refine ⟨pushed ++ names, by rw [hinner, hstack, List.append_assoc], ?_, ?_, ?_⟩
  · -- a chain has no component twice, and none that is on the stack is entered again
    refine List.nodup_append.mpr ⟨hnodup, hchain.nodup hend, ?_⟩
    rintro name hpushed other hother rfl
    exact hfresh name hother (by rw [hstack]; exact List.mem_append_right _ hpushed)
  · refine List.append_subset.mpr ⟨hkeys, fun name hname => ?_⟩
    obtain ⟨component, hcomp⟩ := hchain.defined hname
    exact List.mem_map_of_mem (mem_schemas_of_component? hcomp)
  · have hresolved := hchain.last_mem_parts hschema
    exact nested_mem_parts
      (mem_parts_of_mem_children hresolved (Schema.property_mem_children hreached.mem)) hdemand

/-- An expansion of a schema it can come across only comes across such schemas. -/
theorem mem_parts_of_reflTransGen {body : Schema} {call inner : Call}
    (hbody : call.schema ∈ doc.parts body) (hreach : ReflTransGen doc.Calls call inner) :
    inner.schema ∈ doc.parts body := by
  have hwithin : doc.Within body call.stack inner := by
    induction hreach with
    | refl => exact Within.start hbody
    | tail _ hcalls ih => exact ih.calls hcalls
  obtain ⟨_, _, _, _, hschema⟩ := hwithin
  exact hschema

theorem within_of_run {body : Schema} {run : Nat → Call} {depth : Nat}
    (hbody : (run 0).schema ∈ doc.parts body)
    (hrun : ∀ i < depth, doc.Calls (run i) (run (i + 1))) :
    ∀ i ≤ depth, doc.Within body (run 0).stack (run i) := by
  intro i hi
  induction i with
  | zero => exact Within.start hbody
  | succ i ih => exact (ih (by omega)).calls (hrun i (by omega))

/-- There are no more components on the stack than the document has. -/
theorem Within.height_mem {body : Schema} {start : Stack} {call : Call}
    (h : doc.Within body start call) :
    call.stack.length ∈ (List.range (doc.schemas.length + 1)).map (start.length + ·) := by
  obtain ⟨pushed, hstack, hnodup, hkeys, -⟩ := h
  have hle : pushed.length ≤ doc.schemas.length := by
    have hle := hnodup.length_le_of_subset hkeys
    rwa [Table.keys, List.length_map] at hle
  rw [hstack, List.length_append]
  exact List.mem_map.mpr ⟨pushed.length, List.mem_range.mpr (by omega), rfl⟩

/-- A run is no longer than there are heights and schemas if no two of its calls agree on
both. -/
theorem length_le_of_run {body : Schema} {run : Nat → Call} {depth : Nat}
    (hbody : (run 0).schema ∈ doc.parts body)
    (hrun : ∀ i < depth, doc.Calls (run i) (run (i + 1)))
    (hdistinct : ∀ i j, i < j → j ≤ depth → (run i).place ≠ (run j).place) :
    depth + 1 ≤ (doc.schemas.length + 1) * (doc.parts body).length := by
  have hnodup : ((List.range (depth + 1)).map fun i => (run i).place).Nodup := by
    refine List.nodup_range.map_on ?_
    intro i hi j hj heq
    rw [List.mem_range] at hi hj
    rcases Nat.lt_trichotomy i j with hlt | hsame | hlt
    · exact absurd heq (hdistinct i j hlt (by omega))
    · exact hsame
    · exact absurd heq.symm (hdistinct j i hlt (by omega))
  -- the places are pairs of a height and a schema of the document
  have hsubset : ((List.range (depth + 1)).map fun i => (run i).place) ⊆
      ((List.range (doc.schemas.length + 1)).map ((run 0).stack.length + ·)) ×ˢ
        doc.parts body := by
    intro pair hpair
    obtain ⟨i, hi, rfl⟩ := List.mem_map.mp hpair
    rw [List.mem_range] at hi
    have hwithin := within_of_run hbody hrun i (by omega)
    obtain ⟨_, _, _, _, hschema⟩ := id hwithin
    exact List.mem_product.mpr ⟨hwithin.height_mem, hschema⟩
  have hle := hnodup.length_le_of_subset hsubset
  rwa [List.length_product, List.length_map, List.length_map, List.length_range,
    List.length_range] at hle

/-- Along calls the stack is only added to. -/
theorem stack_prefix_of_transGen {call inner : Call} (h : TransGen doc.Calls call inner) :
    call.stack <+: inner.stack := by
  induction h with
  | single hcalls =>
    obtain ⟨_, _, names, _, _, _, _, _, _, hstack⟩ := hcalls
    exact ⟨names, hstack.symm⟩
  | tail _ hcalls ih =>
    obtain ⟨_, _, names, _, _, _, _, _, _, hstack⟩ := hcalls
    exact ih.trans ⟨names, hstack.symm⟩

/-- **The bound is large enough.** An expansion that has no outcome at as many calls as
there are heights of the stack and schemas is endless. -/
theorem endless_of_outcome_eq_none {body : Schema} {call : Call} {depth : Nat}
    (hbody : call.schema ∈ doc.parts body)
    (hdepth : (doc.schemas.length + 1) * (doc.parts body).length ≤ depth)
    (h : doc.outcome depth call = none) : doc.Endless call := by
  obtain ⟨run, rfl, hrun⟩ := exists_run h
  by_contra hendless
  have hle := length_le_of_run hbody hrun ?_
  · omega
  intro i j hij hj heq
  rw [Call.place, Call.place, Prod.mk.injEq] at heq
  -- the stack only grows, so calls at one height have one stack
  have hloop := transGen_of_run hrun hij hj
  have hstack := (stack_prefix_of_transGen hloop).eq_of_length heq.1
  have hsame : run j = run i := Call.ext hstack.symm heq.2.symm
  rw [hsame] at hloop
  refine hendless ⟨run i, ?_, hloop⟩
  rcases Nat.eq_zero_or_pos i with rfl | hpos
  · exact ReflTransGen.refl
  · exact (transGen_of_run hrun hpos (by omega)).to_reflTransGen

end Document

end ProviderGen
