/-
When the expansion of a body comes to an end.

The stack of names is the only thing that stops an expansion from running in a circle,
and it misses one kind of circle. A property that refers to an array is expanded by way
of the items of the array, and the name of the array is not pushed for that. If the items
are written in place and lead back to such a property, no name is pushed on the way
round and the expansion is in the same call again.

The main statement says that this is the only way: a body has no attributes and no
error at any depth exactly if its expansion gets into such a list circle. Every other
circle of references meets a name that is on the stack and ends in an error.
-/
import ProviderGen.Proofs.Calls

set_option autoImplicit false

namespace ProviderGen.Document

open Relation

variable {doc : Document}

/-! ## The shape of a loop -/

/-- An expansion runs in a list circle: it gets to a call from which it gets to a further
one that, for a property, makes the first call again; the property refers to an array,
and the schema of the call is what the array has in place as its items. -/
def ListCircle (doc : Document) (call : Call) : Prop :=
  ∃ first last entry array, ReflTransGen doc.Calls call first ∧ ReflTransGen doc.Calls first last ∧
    doc.CallsFor entry last first ∧ entry.2.reference.isSome ∧ doc.resolve entry.2 = .ok array ∧
    array.typeName = some "array" ∧ array.items = some first.schema ∧ first.schema.reference = none

/-- One call is below another if its stack is higher, or as high and its schema smaller. -/
def Below (call inner : Call) : Prop :=
  call.stack.length < inner.stack.length ∨
    call.stack.length = inner.stack.length ∧ inner.schema.size < call.schema.size

/-- A call for a property that is no reference goes down. -/
theorem CallsFor.below {entry : String × Schema} {call inner : Call}
    (h : doc.CallsFor entry call inner) (hentry : entry.2.reference = none) : Below call inner := by
  obtain ⟨resolved, names, target, repeated, depth, henter, hreached, hdemand, hstack⟩ := h
  obtain ⟨hchain, -, -⟩ := chain_of_enter henter
  by_cases hnames : names = []
  · right
    subst hnames
    obtain rfl := hchain.eq_of_nil
    have hproperty := Schema.size_lt_of_mem_children (Schema.property_mem_children hreached.mem)
    refine ⟨by rw [hstack, List.append_nil], ?_⟩
    obtain ⟨hresolve, hschema | ⟨-, hitems⟩⟩ := demand_eq_nested hdemand
    · rw [hschema]
      exact hproperty
    · -- the property stands for itself, so its items are within it
      rw [resolve_of_reference_none hentry, Except.ok.injEq] at hresolve
      subst hresolve
      have hinner := Schema.size_lt_of_mem_children (Schema.items_mem_children hitems)
      omega
  · left
    have hpos := List.length_pos_iff.mpr hnames
    rw [hstack, List.length_append]
    omega

/-- Calls that never go by way of a reference go down. -/
theorem below_or_reference {call inner : Call} (h : TransGen doc.Calls call inner) :
    Below call inner ∨ ∃ last first entry, ReflTransGen doc.Calls call last ∧
      doc.CallsFor entry last first ∧ entry.2.reference.isSome ∧
      ReflTransGen doc.Calls first inner := by
  -- the first call for a reference settles it; before that every call goes down
  induction h with
  | @single inner hcalls =>
    obtain ⟨entry, hcalls⟩ := hcalls
    cases hentry : entry.2.reference with
    | none => exact Or.inl (hcalls.below hentry)
    | some path =>
      exact Or.inr ⟨call, inner, entry, .refl, hcalls, by rw [hentry]; rfl, .refl⟩
  | @tail middle inner hmiddle hcalls ih =>
    rcases ih with hbelow | ⟨last, first, entry, hlast, hentry, href, hfirst⟩
    · obtain ⟨entry, hinner⟩ := hcalls
      cases hentry : entry.2.reference with
      | none =>
        have hstep := hinner.below hentry
        unfold Below at hbelow hstep ⊢
        left
        omega
      | some path =>
        exact Or.inr ⟨middle, inner, entry, hmiddle.to_reflTransGen, hinner,
          by rw [hentry]; rfl, .refl⟩
    · exact Or.inr ⟨last, first, entry, hlast, hentry, href, hfirst.tail hcalls⟩

/-- Nothing is pushed on the way round, so the schema of a call that leads back to itself is
written in place. -/
theorem reference_none_of_loop {call : Call} (h : TransGen doc.Calls call call) :
    call.schema.reference = none := by
  obtain ⟨inner, ⟨entry, hcalls⟩, hback⟩ := TransGen.head'_iff.mp h
  obtain ⟨resolved, names, target, repeated, depth, henter, hreached, hdemand, hstack⟩ := hcalls
  have hprefix : inner.stack <+: call.stack := by
    rcases reflTransGen_iff_eq_or_transGen.mp hback with heq | htrans
    · exact ⟨[], by rw [List.append_nil, heq]⟩
    · exact stack_prefix_of_transGen htrans
  -- what the call pushes stays on the stack until it is made again
  have hnames : names = [] := by
    have hle := hprefix.length_le
    rw [hstack, List.length_append] at hle
    exact List.length_eq_zero_iff.mp (by omega)
  subst hnames
  obtain ⟨hchain, hend, -⟩ := chain_of_enter henter
  obtain rfl := hchain.eq_of_nil
  exact hend

/-- Every loop goes by way of an array that a property refers to. -/
theorem endless_iff_listCircle {call : Call} : doc.Endless call ↔ doc.ListCircle call := by
  constructor
  · rintro ⟨inner, hreach, hloop⟩
    rcases below_or_reference hloop with hbelow | ⟨last, first, entry, hlast, hentry, href, hfirst⟩
    · -- nothing is below itself
      unfold Below at hbelow
      omega
    · -- the loop can as well be entered behind the reference
      have hround : TransGen doc.Calls first first :=
        TransGen.tail' (hfirst.trans hlast) ⟨entry, hentry⟩
      have hinplace := reference_none_of_loop hround
      obtain ⟨resolved, names, target, repeated, depth, -, -, hdemand, -⟩ := id hentry
      obtain ⟨hresolve, hschema | ⟨htype, hitems⟩⟩ := demand_eq_nested hdemand
      · -- a call for the property itself would be one for a reference
        rw [← hschema, hinplace] at href
        cases href
      · exact ⟨first, last, entry, target, (hreach.trans hlast).tail ⟨entry, hentry⟩,
          hfirst.trans hlast, hentry, href, hresolve, htype, hitems, hinplace⟩
  · rintro ⟨first, last, entry, array, hreach, hround, hentry, -, -, -, -, -⟩
    exact ⟨first, hreach, TransGen.tail' hround ⟨entry, hentry⟩⟩

/-! ## Bodies -/

/-- The schema whose attributes are those of a body is one that the expansion of the body
can come across. -/
theorem bodyTarget_mem_parts {body target : Schema} (h : doc.bodyTarget body = .ok target) :
    target ∈ doc.parts body := by
  obtain ⟨resolved, hresolve, ⟨-, hitems⟩ | ⟨-, rfl⟩⟩ := bodyTarget_eq_ok_iff.mp h
  · have hmem := mem_parts_of_resolve (self_mem_parts body) hresolve
    exact mem_parts_of_mem_children hmem (Schema.items_mem_children hitems)
  · exact self_mem_parts target

/-- A body has no outcome exactly if its expansion is endless. -/
theorem flattenBody_eq_none_iff {body : Schema} :
    doc.flattenBody body = none ↔
      ∃ target, doc.bodyTarget body = .ok target ∧ doc.Endless ⟨[], target⟩ := by
  rw [flattenBody_eq_expandBody]
  unfold expandBody
  cases htarget : doc.bodyTarget body with
  | error error => simp
  | ok target =>
    dsimp only
    constructor
    · intro h
      -- the bound exceeds what the parts and the heights of the stack can tell apart
      have hdepth : (doc.schemas.length + 1) * (doc.parts body).length
          ≤ doc.expansionBound body := by
        rw [length_parts, expansionBound]
        exact Nat.le_succ _
      exact ⟨target, rfl, endless_of_outcome_eq_none (bodyTarget_mem_parts htarget) hdepth h⟩
    · rintro ⟨target', heq, hendless⟩
      cases heq
      exact hendless.outcome_eq_none _

/-- A body without an outcome has none at any depth. -/
theorem expandBody_eq_none {body : Schema} (h : doc.flattenBody body = none) (depth : Nat) :
    doc.expandBody depth [] body = none := by
  obtain ⟨target, htarget, hendless⟩ := flattenBody_eq_none_iff.mp h
  unfold expandBody
  rw [htarget]
  exact hendless.outcome_eq_none depth

/-- What a body comes to is what it comes to at any depth that suffices. -/
theorem flattenBody_eq_some_iff {body : Schema} {result : Except SchemaError (List Field)} :
    doc.flattenBody body = some result ↔ ∃ depth, doc.expandBody depth [] body = some result := by
  constructor
  · intro h
    rw [flattenBody_eq_expandBody] at h
    exact ⟨_, h⟩
  · rintro ⟨depth, h⟩
    cases hbody : doc.flattenBody body with
    | none =>
      rw [expandBody_eq_none hbody depth] at h
      cases h
    | some result' =>
      rw [flattenBody_eq_expandBody] at hbody
      have hmax := expandBody_extends (Nat.le_max_left depth (doc.expansionBound body)) _ _ _ h
      rw [expandBody_extends (Nat.le_max_right depth _) _ _ _ hbody] at hmax
      exact hmax

/-- A body is expanded as on an empty stack, and the stack is empty again afterwards. -/
theorem flattenBodyWithin_run_eq_some_iff {depth : Nat} {body : Schema}
    {result : Except SchemaError (List Field)} :
    (doc.flattenBodyWithin depth body).run.run [] = some (result, []) ↔
      doc.expandBody depth [] body = some result := by
  rw [(flattenBodyWithin_answers doc depth body).run_eq_some_iff, and_iff_left rfl]

/-- The error of a call that the expansion of a body gets to is the error of the body. -/
theorem flattenBody_eq_error {body target : Schema} {call : Call} {error : SchemaError}
    (htarget : doc.bodyTarget body = .ok target)
    (hreach : ReflTransGen doc.Calls ⟨[], target⟩ call)
    (hcall : ∃ depth, doc.outcome depth call = some (.error error)) :
    doc.flattenBody body = some (.error error) := by
  obtain ⟨depth, hdepth⟩ := error_of_reflTransGen hreach hcall
  refine flattenBody_eq_some_iff.mpr ⟨depth, ?_⟩
  unfold expandBody
  rw [htarget]
  exact hdepth

/-- The error of a body is that of its own references, or it is raised by a call that the
expansion of the body gets to. -/
theorem flattenBody_error_cause {body : Schema} {error : SchemaError}
    (h : doc.flattenBody body = some (.error error)) :
    doc.resolve body = .error error ∨
      ∃ target call, doc.bodyTarget body = .ok target ∧
        ReflTransGen doc.Calls ⟨[], target⟩ call ∧ doc.Raises call error := by
  obtain ⟨depth, hdepth⟩ := flattenBody_eq_some_iff.mp h
  unfold expandBody at hdepth
  cases htarget : doc.bodyTarget body with
  | ok target =>
    rw [htarget] at hdepth
    obtain ⟨call, hreach, hraises⟩ :=
      exists_raises_of_error (show doc.outcome depth ⟨[], target⟩ = _ from hdepth)
    exact Or.inr ⟨target, call, rfl, hreach, hraises⟩
  | error error' =>
    rw [htarget] at hdepth
    cases hdepth
    exact Or.inl (bodyTarget_eq_error_iff.mp htarget)

/-! ## The main statement -/

/-- **When an expansion ends.** Some depth of calls suffices for a body exactly if its
expansion does not get into a list circle, and then the bound suffices. An expansion that
gets to a call which refers to a component under expansion ends with the error that says
so. -/
theorem flattenBody_ends_iff (doc : Document) (body : Schema) :
    ((∃ depth result, (doc.flattenBodyWithin depth body).run.run [] = some (result, [])) ↔
        ¬ ∃ target, doc.bodyTarget body = .ok target ∧ doc.ListCircle ⟨[], target⟩) ∧
      (∀ result, doc.flattenBody body = some result ↔
        ∃ depth, (doc.flattenBodyWithin depth body).run.run [] = some (result, [])) ∧
      ∀ target call resolved names name, doc.bodyTarget body = .ok target →
        ReflTransGen doc.Calls ⟨[], target⟩ call →
        doc.resolveChain call.schema = .ok (resolved, names) →
        names.find? call.stack.contains = some name →
        doc.flattenBody body = some (.error (.recursive name)) := by
  simp only [flattenBodyWithin_run_eq_some_iff]
  refine ⟨?_, fun result => flattenBody_eq_some_iff, ?_⟩
  · simp only [← endless_iff_listCircle]
    rw [← flattenBody_eq_none_iff, ← ne_eq, Option.ne_none_iff_exists']
    simp only [flattenBody_eq_some_iff]
    exact exists_comm
  · intro target call resolved names name htarget hreach hchain hfind
    refine flattenBody_eq_error htarget hreach ⟨1, ?_⟩
    have henter : doc.enter call.stack call.schema = .error (.recursive name) :=
      enter_eq_error_iff.mpr (Or.inr ⟨resolved, names, name, hchain, hfind, rfl⟩)
    rw [outcome, expand, henter]

/-! ## An expansion without an end -/

/-- A part, written in place, whose own parts are a component. -/
def partSchema : Schema where
  type := some (.single "object")
  properties := [("parts", { reference := some (referencePrefix ++ "Parts") })]

/-- The component that lists parts. -/
def partsSchema : Schema where
  type := some (.single "array")
  items := some partSchema

/-- A document that creates parts. -/
def partsDocument : Document where
  openapi := "3.0.3"
  info := { title := "t", version := "1" }
  paths := [("/parts", { post := some { requestBody := some {
    content := [("application/json", { schema := some partSchema })] } } })]
  components := some { schemas := [("Parts", partsSchema)] }

/-- The expansion of a part calls for the expansion of the part. -/
theorem partsDocument_calls : partsDocument.Calls ⟨[], partSchema⟩ ⟨[], partSchema⟩ :=
  ⟨("parts", { reference := some (referencePrefix ++ "Parts") }), partSchema, [], partsSchema, true,
    0, rfl, ⟨[], [], rfl, by simp⟩, rfl, rfl⟩

/-- No depth of calls suffices for a part, though its only circle goes by way of a component. -/
theorem partsDocument_never_ends :
    ¬ ∃ depth result,
      (partsDocument.flattenBodyWithin depth partSchema).run.run [] = some (result, []) := by
  rintro ⟨depth, result, h⟩
  rw [flattenBodyWithin_run_eq_some_iff] at h
  have htarget : partsDocument.bodyTarget partSchema = .ok partSchema := rfl
  have hendless : partsDocument.Endless ⟨[], partSchema⟩ :=
    ⟨_, ReflTransGen.refl, TransGen.single partsDocument_calls⟩
  have hnone := hendless.outcome_eq_none depth
  rw [expandBody, htarget] at h
  cases h.symm.trans hnone

/-! ## An expansion that meets itself -/

/-- A reference to the component of nodes. -/
def nodeReference : Schema where
  reference := some (referencePrefix ++ "Node")

/-- A node with a child that is a node. -/
def nodeSchema : Schema where
  type := some (.single "object")
  properties := [("child", nodeReference)]

/-- A document whose only component refers to itself. -/
def nodeDocument : Document where
  openapi := "3.0.3"
  info := { title := "t", version := "1" }
  components := some { schemas := [("Node", nodeSchema)] }

/-- The expansion of a node gets to its child, and the child is the node again. -/
theorem nodeDocument_ends :
    nodeDocument.flattenBody nodeReference = some (.error (.recursive "Node")) := by
  have hcalls : nodeDocument.Calls ⟨[], nodeReference⟩ ⟨["Node"], nodeReference⟩ :=
    ⟨("child", nodeReference), nodeSchema, ["Node"], nodeSchema, false, 0, rfl,
      ⟨[], [], rfl, by simp⟩, rfl, rfl⟩
  exact (flattenBody_ends_iff nodeDocument nodeReference).2.2 nodeReference
    ⟨["Node"], nodeReference⟩ nodeSchema ["Node"] "Node" rfl (ReflTransGen.single hcalls) rfl
    (by simp)

end ProviderGen.Document
