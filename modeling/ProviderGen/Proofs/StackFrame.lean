/-
What an expansion does to the stack, and what the stack does to an expansion.

An expansion hands the stack back. The names that a call pushes are taken off again
whether its properties all have attributes or one of them fails, however deep in the
calls below it the failure arose. So the expansion of a property finds the stack as the
schema around it has left it, whatever its siblings have been through.

The stack in turn can do one thing to an expansion: it can cut it short. On a larger
stack an expansion goes the same way as on a smaller one until it meets a component that
only the larger one holds, and there it ends with the error that says so. `CutShort` is
this relation between two outcomes. It passes through everything that a call is made of,
so an induction on the depth carries it from the entry of a schema, where the stack is
looked at, to whole expansions (`expand_cutShort`). An expansion that has come to its
attributes has not been cut short, and that is why a smaller stack gives the same ones.
-/
import ProviderGen.Proofs.Inlining

set_option autoImplicit false

namespace ProviderGen

/-! ## Handing back the stack -/

namespace Expansion

variable {α : Type}

/-- An expansion hands the stack back: on every stack on which it comes to an outcome, a value
or an error, it leaves the stack as it was. -/
def HandsBack (expansion : Expansion α) : Prop :=
  ∀ stack outcome after, expansion.run.run stack = some (outcome, after) → after = stack

theorem Answers.handsBack {expansion : Expansion α} {f : Stack → Outcome α}
    (h : expansion.Answers f) : expansion.HandsBack := by
  intro stack outcome after hrun
  exact (h.run_eq_some_iff.mp hrun).2

end Expansion

/-! ## Cutting short -/

namespace Outcome

variable {α β : Type} {smaller larger : Stack}

/-- What an outcome on a smaller stack can be on a larger one: the same outcome, or the error
about a component that only the larger one holds. -/
inductive CutShort (smaller larger : Stack) : Outcome α → Outcome α → Prop
  | same (outcome : Outcome α) : CutShort smaller larger outcome outcome
  | met {outcome : Outcome α} {name : String} :
      name ∈ larger → name ∉ smaller →
      CutShort smaller larger outcome (some (.error (.recursive name)))

/-- An outcome with a value has not been cut short. -/
theorem CutShort.eq_of_ok {outcome : Outcome α} {value : α}
    (h : CutShort smaller larger outcome (some (.ok value))) : outcome = some (.ok value) := by
  cases h with
  | same => rfl

/-- Names that both stacks have pushed are not what an outcome is cut short by. -/
theorem CutShort.of_append {outcome outcome' : Outcome α} {names : List String}
    (h : CutShort (smaller ++ names) (larger ++ names) outcome outcome') :
    CutShort smaller larger outcome outcome' := by
  cases h with
  | same => exact .same _
  | @met name hlarger hsmaller =>
    have hpushed : name ∉ names := by
      intro hmem
      exact hsmaller (List.mem_append_right smaller hmem)
    refine .met ?_ ?_
    · exact (List.mem_append.mp hlarger).resolve_right hpushed
    · intro hmem
      exact hsmaller (List.mem_append_left names hmem)

/-- Going on is cut short where it starts, or where it goes on from the same value. -/
theorem CutShort.andThen {first first' : Outcome α} {next next' : α → Outcome β}
    (hfirst : CutShort smaller larger first first')
    (hnext : ∀ value, CutShort smaller larger (next value) (next' value)) :
    CutShort smaller larger (Outcome.andThen first next) (Outcome.andThen first' next') := by
  cases hfirst with
  | same =>
    -- with a value it goes on, and only there can it be cut short
    rcases first with _ | error | value
    · exact .same none
    · exact .same (some (.error error))
    · exact hnext value
  | met hlarger hsmaller => exact .met hlarger hsmaller

/-- Collecting is cut short where one of the members is. -/
theorem CutShort.collect {f g : α → Outcome β} (h : ∀ a, CutShort smaller larger (f a) (g a))
    (items : List α) :
    CutShort smaller larger (Outcome.collect f items) (Outcome.collect g items) := by
  induction items with
  | nil => exact .same _
  | cons item rest ih =>
    refine (h item).andThen ?_
    intro value
    refine ih.andThen ?_
    intro values
    exact .same _

end Outcome

namespace Document

open Outcome

variable {doc : Document} {smaller larger : Stack}

/-- The component that a larger stack meets first is the one that a smaller stack meets first, if
the smaller one holds it. -/
theorem find?_contains_of_subset {names : List String} {name : String} (hsub : smaller ⊆ larger)
    (hfind : names.find? larger.contains = some name) (hmem : name ∈ smaller) :
    names.find? smaller.contains = some name := by
  obtain ⟨-, before, after, hsplit, hbefore⟩ := List.find?_eq_some_iff_append.mp hfind
  refine List.find?_eq_some_iff_append.mpr ⟨by simpa using hmem, before, after, hsplit, ?_⟩
  -- the names in front of it are not on the larger stack, so they are not on the smaller one
  intro earlier hearlier
  have hlarger : earlier ∉ larger := by simpa using hbefore earlier hearlier
  have hsmaller : earlier ∉ smaller := by
    intro hactive
    exact hlarger (hsub hactive)
  simpa using hsmaller

/-- A schema is entered alike on both stacks, unless its references pass a component that only
the larger one holds. -/
theorem enter_cutShort (hsub : smaller ⊆ larger) (schema : Schema) :
    CutShort smaller larger (some (doc.enter smaller schema)) (some (doc.enter larger schema)) := by
  cases hlarger : doc.enter larger schema with
  | ok result =>
    obtain ⟨resolved, names⟩ := result
    obtain ⟨hchain, hfresh⟩ := enter_eq_ok_iff.mp hlarger
    have hsmaller : doc.enter smaller schema = .ok (resolved, names) := by
      refine enter_eq_ok_iff.mpr ⟨hchain, ?_⟩
      intro name hmem hactive
      exact hfresh name hmem (hsub hactive)
    rw [hsmaller]
    exact .same _
  | error error =>
    rcases enter_eq_error_iff.mp hlarger with hchain | ⟨resolved, names, name, hchain, hfind, rfl⟩
    · have hsmaller : doc.enter smaller schema = .error error :=
        enter_eq_error_iff.mpr (Or.inl hchain)
      rw [hsmaller]
      exact .same _
    · -- what tells the stacks apart is whether the smaller one holds the component too
      by_cases hmem : name ∈ smaller
      · have hfind' := find?_contains_of_subset hsub hfind hmem
        have hsmaller : doc.enter smaller schema = .error (.recursive name) :=
          enter_eq_error_iff.mpr (Or.inr ⟨resolved, names, name, hchain, hfind', rfl⟩)
        rw [hsmaller]
        exact .same _
      · have hactive : name ∈ larger := by simpa using List.find?_some hfind
        exact .met hactive hmem

/-- What a property calls for has its kind on both stacks, unless the call is cut short. -/
theorem kindFor_cutShort {nested nested' : Schema → Outcome (List Field)}
    (h : ∀ schema, CutShort smaller larger (nested schema) (nested' schema)) (demand : Demand) :
    CutShort smaller larger (kindFor nested demand) (kindFor nested' demand) := by
  cases demand with
  | leaf kind => exact .same _
  | nested schema repeated =>
    refine (h schema).andThen ?_
    intro fields
    exact .same _

/-- A property calls for the same on every stack, so only a further call can be cut short. -/
theorem attributeOf_cutShort {nested nested' : Schema → Outcome (List Field)}
    (h : ∀ schema, CutShort smaller larger (nested schema) (nested' schema))
    (required : List String) (entry : String × Schema) :
    CutShort smaller larger (doc.attributeOf nested required entry)
      (doc.attributeOf nested' required entry) := by
  unfold attributeOf
  cases doc.demand entry.2 with
  | error error => exact .same _
  | ok result =>
    obtain ⟨resolved, demand⟩ := result
    refine (kindFor_cutShort h demand).andThen ?_
    intro kind
    exact .same _

/-- **A larger stack only cuts short.** Within every depth, a schema comes to the same outcome on
two stacks of which one holds the names of the other, unless its expansion on the larger one
meets a component that the smaller one does not hold. -/
theorem expand_cutShort (hsub : smaller ⊆ larger) (depth : Nat) (schema : Schema) :
    CutShort smaller larger (doc.expand depth smaller schema) (doc.expand depth larger schema) := by
  induction depth generalizing smaller larger schema with
  | zero => exact .same none
  | succ depth ih =>
    rw [expand_succ, expand_succ]
    refine (enter_cutShort hsub schema).andThen ?_
    intro entered
    refine CutShort.collect (attributeOf_cutShort ?_ entered.1.required) entered.1.properties
    intro inner
    -- both stacks are taller by the same names, so the one still holds the names of the other
    have hpushed : smaller ++ entered.2 ⊆ larger ++ entered.2 := by
      refine List.append_subset.mpr ⟨?_, List.subset_append_right larger entered.2⟩
      exact List.subset_append_of_subset_left entered.2 hsub
    exact (ih hpushed inner).of_append

/-! ## The main statement -/

/-- The attribute of a property leaves the stack alone, whether the property is required or not. -/
theorem fieldOf_handsBack (depth : Nat) (key : String) (property : Schema) (required : Bool) :
    (doc.fieldOf (doc.flatten depth) key property required).HandsBack := by
  obtain ⟨keys, rfl⟩ : ∃ keys : List String, keys.contains key = required := by
    cases required with
    | false => exact ⟨[], rfl⟩
    | true => exact ⟨[key], by simp⟩
  exact (fieldOf_answers doc (flatten_answers doc depth) key property keys).handsBack

/-- **The stack is handed back, and a smaller one gives the same attributes.** -/
theorem flatten_stack_frame (doc : Document) (depth : Nat) :
    (∀ schema, (doc.flatten depth schema).HandsBack) ∧
      (∀ key property required,
        (doc.fieldOf (doc.flatten depth) key property required).HandsBack) ∧
      (∀ property resolved, (doc.kindOf (doc.flatten depth) property resolved).HandsBack) ∧
      ∀ schema stack smaller fields after, smaller ⊆ stack →
        (doc.flatten depth schema).run.run stack = some (.ok fields, after) →
        (doc.flatten depth schema).run.run smaller = some (.ok fields, smaller) := by
  have hflatten := flatten_answers doc depth
  refine ⟨?_, ?_, ?_, ?_⟩
  · intro schema
    exact (hflatten schema).handsBack
  · intro key property required
    exact fieldOf_handsBack depth key property required
  · intro property resolved
    exact (kindOf_answers doc hflatten property resolved).handsBack
  · intro schema stack smaller fields after hsub hrun
    -- what has its attributes on the larger stack has not been cut short there
    obtain ⟨hfields, -⟩ := (hflatten schema).run_eq_some_iff.mp hrun
    have hcut : CutShort smaller stack (doc.expand depth smaller schema)
        (doc.expand depth stack schema) := expand_cutShort hsub depth schema
    rw [hfields] at hcut
    exact (hflatten schema).run_eq_some_iff.mpr ⟨hcut.eq_of_ok, rfl⟩

/-- A team has its attributes under components that it does not refer to, and the same ones under
fewer of them. Under the component of members it is refused while the team itself is on the
stack, and the stack is handed back all the same. -/
theorem teamDocument_stack_frame :
    ["Admin"] ⊆ ["Group", "Admin"] ∧
      (∃ fields, ((teamDocument leadReference).flatten 2 teamReference).run.run ["Group", "Admin"]
          = some (.ok fields, ["Group", "Admin"]) ∧
        ((teamDocument leadReference).flatten 2 teamReference).run.run ["Admin"]
          = some (.ok fields, ["Admin"])) ∧
      (∃ after, ((teamDocument leadReference).flatten 2 teamReference).run.run ["Member"]
        = some (.error (.recursive "Member"), after) ∧ after = ["Member"]) ∧
      (∃ after, ((teamDocument leadReference).fieldOf ((teamDocument leadReference).flatten 2) "team"
        teamReference true).run.run ["Member"]
          = some (.error (.recursive "Member"), after) ∧ after = ["Member"]) ∧
      ∃ after, ((teamDocument leadReference).kindOf ((teamDocument leadReference).flatten 2)
        teamReference (teamSchema leadReference)).run.run ["Member"]
          = some (.error (.recursive "Member"), after) ∧ after = ["Member"] := by
  obtain ⟨hschema, hfield, hkind, hsmaller⟩ := flatten_stack_frame (teamDocument leadReference) 2
  have hsub : ["Admin"] ⊆ ["Group", "Admin"] := by simp
  refine ⟨hsub, ⟨_, rfl, ?_⟩, ⟨_, rfl, ?_⟩, ⟨_, rfl, ?_⟩, ⟨_, rfl, ?_⟩⟩
  · exact hsmaller teamReference ["Group", "Admin"] ["Admin"] _ _ hsub rfl
  · exact hschema teamReference ["Member"] _ _ rfl
  · exact hfield "team" teamReference true ["Member"] _ _ rfl
  · exact hkind teamReference (teamSchema leadReference) ["Member"] _ _ rfl

end Document

end ProviderGen
