/-
What templates print.

Parts that define nothing print a text and leave the names as they are; the text of several parts
is the texts of each, one after another. A loop prints the text of its body for each item, so
where that text is determined by the item, the loop maps the items to texts and joins them.
-/
import ProviderGen.Proofs.Results
import ProviderGen.Template.Render

set_option autoImplicit false

namespace ProviderGen

/-- Parts print a text and leave the scope as it is. -/
def Prints (parts : List Part) (scope : Scope) (text : String) : Prop :=
  Part.renderAll parts scope = .ok (text, scope)

-- what a template prints is found by unfolding, part by part
attribute [local simp] Part.render Part.renderAll Part.renderChoice Expr.eval Expr.evalAll
  Expr.evalArguments Expr.truth Scope.lookup ok_bind pure Except.pure

section Parts

variable {parts rest : List Part} {scope scope' scope'' : Scope} {first others : String}

theorem renderAll_cons {part : Part} (h : part.render scope = .ok (first, scope'))
    (hrest : Part.renderAll rest scope' = .ok (others, scope'')) :
    Part.renderAll (part :: rest) scope = .ok (first ++ others, scope'') := by
  simp [h, hrest]

theorem renderAll_append (h : Part.renderAll parts scope = .ok (first, scope'))
    (hrest : Part.renderAll rest scope' = .ok (others, scope'')) :
    Part.renderAll (parts ++ rest) scope = .ok (first ++ others, scope'') := by
  induction parts generalizing scope first with
  | nil =>
    cases h
    rw [List.nil_append, String.empty_append]
    exact hrest
  | cons part parts ih =>
    rw [Part.renderAll] at h
    obtain ⟨⟨head, between⟩, hhead, h⟩ := bind_eq_ok_iff.mp h
    obtain ⟨⟨tail, after⟩, htail, h⟩ := bind_eq_ok_iff.mp h
    cases h
    rw [String.append_assoc]
    exact renderAll_cons hhead (ih htail)

theorem Prints.nil : Prints [] scope "" := rfl

theorem Prints.append (h : Prints parts scope first) (hrest : Prints rest scope others) :
    Prints (parts ++ rest) scope (first ++ others) :=
  renderAll_append h hrest

theorem Prints.cons {part : Part} (h : Prints [part] scope first) (hrest : Prints rest scope others) :
    Prints (part :: rest) scope (first ++ others) :=
  h.append hrest

theorem prints_singleton_iff {part : Part} :
    Prints [part] scope first ↔ part.render scope = .ok (first, scope) := by
  constructor
  · intro h
    obtain ⟨⟨head, after⟩, hhead, h⟩ := bind_eq_ok_iff.mp h
    cases h
    rw [String.append_empty]
    exact hhead
  · intro h
    rw [← String.append_empty (s := first)]
    exact renderAll_cons h Prints.nil

/-- Literal text is printed as it is. -/
theorem Prints.text (h : Prints rest scope others) (s : String) :
    Prints (.text s :: rest) scope (s ++ others) :=
  renderAll_cons rfl h

theorem Prints.lines (h : Prints rest scope others) (lines : List String) :
    Prints (.lines lines :: rest) scope ("\n".intercalate lines ++ others) :=
  h.text _

/-- A slot prints the value of its name. -/
theorem Prints.slot (h : Prints rest scope others) {path : List String} {value : Json}
    (hvalue : scope.lookup? path = some value) :
    Prints (.slot path :: rest) scope (value.shown ++ others) := by
  refine renderAll_cons ?_ h
  simp [Part.slot, hvalue]

/-- What follows a definition is printed with the name defined. -/
theorem renderAll_define {name : String} {e : Expr} {value : Json}
    (hvalue : e.eval scope = .ok value)
    (h : Part.renderAll rest (scope.define name value) = .ok (others, scope')) :
    Part.renderAll (.define name e :: rest) scope = .ok (others, scope') := by
  have hdefine : (Part.define name e).render scope = .ok ("", scope.define name value) := by
    simp [hvalue]
  rw [← String.empty_append (s := others)]
  exact renderAll_cons hdefine h

end Parts

/-! ## Choices -/

section Choices

variable {scope : Scope} {body fallback : List Part} {yes no : String} {b : Bool}

theorem Expr.truth_name {path : List String} {value : Json}
    (h : scope.lookup? path = some value) : (Expr.name path).truth scope = .ok value.isTruthy := by
  simp [Expr.holds, h]

theorem Expr.truth_nameIs {path : List String} {s : String}
    (h : scope.lookup? path = some (.string s)) (t : String) :
    (Expr.nameIs path t).truth scope = .ok (decide (s = t)) := by
  rw [truth, nameIs, eval, eval, eval, Scope.lookup, h]
  rfl

theorem Expr.truth_differs {path : List String} {s : String}
    (h : scope.lookup? path = some (.string s)) (t : String) :
    (Expr.compare .different (.name path) (.text t)).truth scope = .ok (decide (s ≠ t)) := by
  rw [truth, eval, eval, eval, Scope.lookup, h, decide_not]
  rfl

theorem Expr.truth_hasItems {path : List String} {items : List Json}
    (h : scope.lookup? path = some (.array items)) :
    (Expr.hasItems path).truth scope = .ok (!items.isEmpty) := by
  have hlength : applyFilter "length" [] (.array items) = .ok (.nat items.length) := by
    simp [applyFilter]
  cases items <;> simp [hasItems, holds, h, hlength, Comparison.apply, Json.nat, Json.isTruthy]

theorem Expr.truth_negate {condition : Expr} (h : condition.truth scope = .ok b) :
    (Expr.negate condition).truth scope = .ok (!b) := by
  rw [truth] at h
  rw [truth, eval, h]
  rfl

theorem Expr.truth_startsWith {path : List String} {s : String}
    (h : scope.lookup? path = some (.string s)) (start : String) :
    (Expr.test path "starting_with" [.text start]).truth scope =
      .ok (start.toList.isPrefixOf s.toList) := by
  have htest : applyTest "starting_with" [.string start] (some (.string s)) =
      .ok (start.toList.isPrefixOf s.toList) := by
    simp [applyTest]
  simp [holds, h, htest, Json.isTruthy]

theorem Expr.truth_either {left right : Expr} {a : Bool} (hleft : left.truth scope = .ok a)
    (hright : right.truth scope = .ok b) : (Expr.either left right).truth scope = .ok (a || b) := by
  rw [truth] at hleft hright
  rw [truth, eval, hleft, hright]
  cases a <;> rfl

/-- A choice prints the body of its first branch if that holds, and otherwise what it prints
without this branch. -/
theorem Prints.choose {condition : Expr} {branches : List (Expr × List Part)}
    (hcondition : condition.truth scope = .ok b) (hyes : Prints body scope yes)
    (hno : Prints [.choose branches fallback] scope no) :
    Prints [.choose ((condition, body) :: branches) fallback] scope (if b then yes else no) := by
  rw [prints_singleton_iff, Part.render] at hno ⊢
  rw [Part.renderChoice, hcondition, ok_bind]
  cases b
  · exact hno
  · exact hyes

/-- A choice without branches prints its last body. -/
theorem Prints.last (h : Prints fallback scope no) : Prints [.choose [] fallback] scope no := by
  rw [prints_singleton_iff, Part.render, Part.renderChoice]
  exact h

/-- A body that is there if a condition holds is printed if it does. -/
theorem Prints.given {condition : Expr} (hcondition : condition.truth scope = .ok b)
    (hyes : Prints body scope yes) :
    Prints [.given condition body] scope (if b then yes else "") :=
  .choose hcondition hyes (.last .nil)

end Choices

/-! ## Loops -/

section Loops

variable {name : String} {count : Nat} {scope : Scope} {body : Scope → Rendering (String × Scope)}
  {items : List Json}

/-- A loop is rendered if its body is rendered at every place. -/
theorem exists_renderLoop
    (h : ∀ item ∈ items, ∀ index, ∃ rendered,
      body ({ loop := some { name, item, index, count } } :: scope) = .ok rendered)
    (index : Nat) : ∃ text, renderLoop name count scope body index items = .ok text := by
  induction items generalizing index with
  | nil => exact ⟨"", rfl⟩
  | cons item rest ih =>
    obtain ⟨hitem, hrest⟩ := List.forall_mem_cons.mp h
    obtain ⟨⟨first, after⟩, hfirst⟩ := hitem index
    obtain ⟨others, hothers⟩ := ih hrest (index + 1)
    exact ⟨first ++ others, by rw [renderLoop, hfirst, ok_bind, hothers]; rfl⟩

/-- A loop joins the texts of its items. -/
theorem renderLoop_eq_join {α : Type} {values : List α} {encode : α → Json} {print : α → String}
    (h : ∀ value ∈ values, ∀ index, ∃ scope',
      body ({ loop := some { name, item := encode value, index, count } } :: scope) =
        .ok (print value, scope'))
    (index : Nat) :
    renderLoop name count scope body index (values.map encode) =
      .ok (String.join (values.map print)) := by
  induction values generalizing index with
  | nil => rfl
  | cons value rest ih =>
    obtain ⟨hvalue, hrest⟩ := List.forall_mem_cons.mp h
    obtain ⟨after, hfirst⟩ := hvalue index
    rw [List.map_cons, renderLoop, hfirst, ok_bind, List.map_cons, String.join_cons]
    dsimp only
    rw [ih hrest (index + 1)]
    rfl

/-- A loop whose body has a separator behind every item but the last one puts the separator between
the texts of its items. -/
theorem renderLoop_eq_intercalate {α : Type} {values : List α} {encode : α → Json}
    {print : α → String} {separator : String}
    (h : ∀ value ∈ values, ∀ index, ∃ scope',
      body ({ loop := some { name, item := encode value, index, count } } :: scope) =
        .ok (print value ++ (if index + 1 = count then "" else separator), scope'))
    {index : Nat} (hcount : index + values.length = count) :
    renderLoop name count scope body index (values.map encode) =
      .ok (separator.intercalate (values.map print)) := by
  induction values generalizing index with
  | nil => rfl
  | cons value rest ih =>
    obtain ⟨hvalue, hrest⟩ := List.forall_mem_cons.mp h
    obtain ⟨after, hfirst⟩ := hvalue index
    have hnext : index + 1 + rest.length = count := by
      rw [List.length_cons] at hcount
      omega
    rw [List.map_cons, renderLoop, hfirst, ok_bind]
    dsimp only
    rw [ih hrest hnext, ok_bind]
    cases rest with
    | nil =>
      have hlast : index + 1 = count := hnext
      rw [if_pos hlast, String.append_empty]
      exact congrArg Except.ok (String.append_empty ..)
    | cons next rest =>
      have hmore : index + 1 ≠ count := by
        rw [List.length_cons] at hnext
        omega
      rw [if_neg hmore]
      simp only [List.map_cons, String.intercalate_cons_cons]
      rfl

/-- A loop over a list of values prints the texts of the values. -/
theorem Prints.each {α : Type} {values : List α} {encode : α → Json} {print : α → String}
    {path : List String} {parts rest : List Part} {others : String}
    (hvalue : scope.lookup? path = some (.array (values.map encode)))
    (hbody : ∀ value ∈ values, ∀ index count, Prints parts
      ({ loop := some { name, item := encode value, index, count } } :: scope) (print value))
    (h : Prints rest scope others) :
    Prints (.each name (.name path) parts :: rest) scope
      (String.join (values.map print) ++ others) := by
  refine renderAll_cons ?_ h
  rw [Part.render, Expr.eval, Scope.lookup, hvalue]
  simp only [itemsOf, ok_bind, List.length_map]
  rw [renderLoop_eq_join fun value hmem index => ⟨_, hbody value hmem index _⟩]
  rfl

/-- A loop with a separator behind every item but the last one prints the texts of the values with
the separator between them. -/
theorem Prints.eachParted {α : Type} {values : List α} {encode : α → Json} {print : α → String}
    {path : List String} {parts : List Part} (separator : String)
    (hvalue : scope.lookup? path = some (.array (values.map encode)))
    (hbody : ∀ value ∈ values, ∀ index count, Prints parts
      ({ loop := some { name, item := encode value, index, count } } :: scope) (print value)) :
    Prints
      [.each name (.name path)
        (parts ++ [.given (.negate (.name ["loop", "last"])) [.text separator]])] scope
      (separator.intercalate (values.map print)) := by
  have hlast (item : Json) (index count : Nat) :
      Scope.lookup? ({ loop := some { name, item, index, count } } :: scope) ["loop", "last"] =
        some (.bool (index + 1 == count)) := by
    simp [Scope.lookup?, Frame.lookup?, LoopPlace.lookup?]
  have hitem (value : α) (hmem : value ∈ values) (index count : Nat) :
      Prints (parts ++ [.given (.negate (.name ["loop", "last"])) [.text separator]])
        ({ loop := some { name, item := encode value, index, count } } :: scope)
        (print value ++ if index + 1 = count then "" else separator) := by
    have hseparator := (Prints.nil.text separator).given
      (Expr.truth_negate (Expr.truth_name (hlast (encode value) index count)))
    have htext : (if !(Json.bool (index + 1 == count)).isTruthy then separator ++ "" else "") =
        if index + 1 = count then "" else separator := by
      by_cases hend : index + 1 = count <;> simp [Json.isTruthy, hend]
    rw [htext] at hseparator
    exact (hbody value hmem index count).append hseparator
  rw [prints_singleton_iff, Part.render, Expr.eval, Scope.lookup, hvalue]
  simp only [itemsOf, ok_bind, List.length_map]
  rw [renderLoop_eq_intercalate (fun value hmem index => ⟨_, hitem value hmem index _⟩)
    (Nat.zero_add _)]
  rfl

end Loops

end ProviderGen
