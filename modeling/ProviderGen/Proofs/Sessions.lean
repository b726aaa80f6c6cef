/-
Parts of a command on a tree of files.

What a part of a command does to files and how it ends does not depend on what was printed before.
Many parts change nothing: they end with a value if a condition on the tree holds for it and with a
report otherwise, and so do parts that are put together from such.
-/
import ProviderGen.CommandLine.Run
import ProviderGen.Proofs.TreeChanges

set_option autoImplicit false

namespace ProviderGen.CommandLine

variable {α β : Type}

/-! ## Endings -/

/-- On one tree a part of a command ends with a result and leaves another, whatever was printed
before. -/
def Ends (action : Session (StateM FileTree) α) (before : FileTree) (result : Except Report α)
    (after : FileTree) : Prop :=
  ∀ printed, ∃ printed', (action.run.run printed).run before = ((result, printed'), after)

section Ends

variable {action : Session (StateM FileTree) α} {next : α → Session (StateM FileTree) β}
  {before between after : FileTree}

theorem ends_pure (value : α) (tree : FileTree) :
    Ends (pure value : Session (StateM FileTree) α) tree (.ok value) tree :=
  fun printed => ⟨printed, rfl⟩

theorem ends_throw (report : Report) (tree : FileTree) :
    Ends (throw report : Session (StateM FileTree) α) tree (.error report) tree :=
  fun printed => ⟨printed, rfl⟩

theorem ends_say (line : String) (tree : FileTree) : Ends (say line) tree (.ok ()) tree :=
  fun _ => ⟨_, rfl⟩

theorem ends_warn (line : String) (tree : FileTree) : Ends (warn line) tree (.ok ()) tree :=
  fun _ => ⟨_, rfl⟩

theorem ends_lift (operation : StateM FileTree α) (tree : FileTree) :
    Ends (liftM operation) tree (.ok (operation.run tree).1) (operation.run tree).2 :=
  fun printed => ⟨printed, rfl⟩

theorem ends_look {operation : StateM FileTree α} (h : FileTree.Looks operation)
    (tree : FileTree) : Ends (liftM operation) tree (.ok (operation.run tree).1) tree := by
  have hends := ends_lift operation tree
  rwa [h tree] at hends

theorem run_bind (action : Session (StateM FileTree) α) (next : α → Session (StateM FileTree) β)
    (printed : Printed) (tree : FileTree) :
    ((action >>= next).run.run printed).run tree =
      ((ExceptT.bindCont next ((action.run.run printed).run tree).1.1).run
        ((action.run.run printed).run tree).1.2).run ((action.run.run printed).run tree).2 :=
  rfl

theorem Ends.bind {value : α} {result : Except Report β}
    (h : Ends action before (.ok value) between) (hnext : Ends (next value) between result after) :
    Ends (action >>= next) before result after := by
  intro printed
  obtain ⟨printed', hrun⟩ := h printed
  obtain ⟨printed'', hrest⟩ := hnext printed'
  refine ⟨printed'', ?_⟩
  rw [run_bind, hrun]
  exact hrest

theorem Ends.bind_error {report : Report} (h : Ends action before (.error report) after)
    (next : α → Session (StateM FileTree) β) :
    Ends (action >>= next) before (.error report) after := by
  intro printed
  obtain ⟨printed', hrun⟩ := h printed
  refine ⟨printed', ?_⟩
  rw [run_bind, hrun]
  rfl

theorem Ends.unique {result result' : Except Report α} {after' : FileTree}
    (h : Ends action before result after) (h' : Ends action before result' after') :
    result = result' := by
  obtain ⟨printed, hrun⟩ := h {}
  obtain ⟨printed', hrun'⟩ := h' {}
  exact congrArg (fun ending => ending.1.1) (hrun.symm.trans hrun')

/-- A failure that is demanded not to be ends a command. -/
theorem ends_demand (headline : String) (outcome : Except Failure α) (tree : FileTree) :
    Ends (demand headline outcome) tree (outcome.mapError (Report.ofFailure headline)) tree := by
  cases outcome with
  | ok value => exact ends_pure value tree
  | error failure => exact ends_throw _ tree

/-- An operation on files ends a command if it fails. -/
theorem ends_perform (headline : String) (operation : StateM FileTree (Except FileFault α))
    (tree : FileTree) :
    Ends (perform headline operation) tree
      ((operation.run tree).1.mapError (Report.ofFault headline)) (operation.run tree).2 := by
  refine (ends_lift operation tree).bind ?_
  cases (operation.run tree).1 with
  | ok value => exact ends_pure value _
  | error fault => exact ends_throw _ _

end Ends

/-! ## Parts that change nothing -/

/-- On a tree that it leaves as it is, a part of a command ends with the values that meet a
condition, or with a report if there are none. -/
def Tells (action : Session (StateM FileTree) α) (tree : FileTree) (p : α → Prop) : Prop :=
  ∃ result, Ends action tree result tree ∧ ∀ value, result = .ok value ↔ p value

section Tells

variable {action : Session (StateM FileTree) α} {next : α → Session (StateM FileTree) β}
  {tree : FileTree} {p : α → Prop} {q : α → β → Prop}

theorem Tells.congr {p' : α → Prop} (h : Tells action tree p) (hp : ∀ value, p value ↔ p' value) :
    Tells action tree p' := by
  obtain ⟨result, hends, hresult⟩ := h
  exact ⟨result, hends, fun value => (hresult value).trans (hp value)⟩

theorem tells_of_ok {value : α} (h : Ends action tree (.ok value) tree) :
    Tells action tree (· = value) :=
  ⟨.ok value, h, fun other => by rw [Except.ok.injEq, eq_comm]⟩

theorem Tells.bind (h : Tells action tree p)
    (hnext : ∀ value, p value → Tells (next value) tree (q value)) :
    Tells (action >>= next) tree fun value => ∃ first, p first ∧ q first value := by
  obtain ⟨result, hends, hresult⟩ := h
  cases result with
  | ok value =>
    have hvalue := (hresult value).mp rfl
    obtain ⟨result', hends', hresult'⟩ := hnext value hvalue
    refine ⟨result', hends.bind hends', fun last => ?_⟩
    rw [hresult']
    constructor
    · exact fun hlast => ⟨value, hvalue, hlast⟩
    · rintro ⟨first, hfirst, hlast⟩
      rwa [Except.ok.inj ((hresult first).mpr hfirst)]
  | error report =>
    refine ⟨.error report, hends.bind_error next, fun last => ⟨nofun, ?_⟩⟩
    rintro ⟨first, hfirst, -⟩
    cases (hresult first).mpr hfirst

theorem tells_demand (headline : String) (outcome : Except Failure α) (tree : FileTree) :
    Tells (demand headline outcome) tree fun value => outcome = .ok value := by
  refine ⟨_, ends_demand headline outcome tree, fun value => ?_⟩
  cases outcome with
  | ok result =>
    constructor
    · rintro ⟨⟩
      rfl
    · rintro ⟨⟩
      rfl
  | error failure => exact ⟨nofun, nofun⟩

/-- What comes before with a value of its own adds no condition. -/
theorem Tells.of_ends {value : α} {q : β → Prop} (h : Ends action tree (.ok value) tree)
    (hnext : Tells (next value) tree q) : Tells (action >>= next) tree q := by
  obtain ⟨result, hends, hresult⟩ := hnext
  exact ⟨result, h.bind hends, hresult⟩

end Tells

end ProviderGen.CommandLine
