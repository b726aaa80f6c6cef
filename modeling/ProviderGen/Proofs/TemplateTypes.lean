/-
Templates that are rendered without a fault.

A template has a fault where a name has no value or a value does not suit. Both can be told before
the values are there, from the names that will be there and the types of their values: `type?`
finds the type of an expression, and `after?` checks a part and finds the types of the names after
it. What passes is rendered, whatever the values are (`Part.exists_renderAll`).

A choice opens no frame, so what its branches define would stay. Branches are therefore checked
to define nothing, which `stays` does; then the names after the choice are those before it.
-/
import ProviderGen.Proofs.Rendering

set_option autoImplicit false

namespace ProviderGen

/-! ## Types of values -/

/-- What can be known of a value before it is there. -/
inductive ValueType where
  | any
  | text
  | flag
  | number
  | list (item : ValueType)
  /-- An object with these members. -/
  | record (members : List (String × ValueType))

mutual

/-- A value is of a type. -/
def ValueType.Holds : ValueType → Json → Prop
  | .any, _ => True
  | .text, value => ∃ s, value = .string s
  | .flag, value => ∃ b, value = .bool b
  | .number, value => ∃ n, value = .number (.whole n)
  | .list item, value => ∃ items, value = .array items ∧ ∀ v ∈ items, item.Holds v
  | .record members, value => ∃ entries, value = .object entries ∧ HoldAll members entries

/-- Members have the keys of others, in order, and values of their types. -/
def ValueType.HoldAll : List (String × ValueType) → List (String × Json) → Prop
  | [], [] => True
  | (key, type) :: rest, (name, value) :: more =>
    key = name ∧ type.Holds value ∧ HoldAll rest more
  | _, _ => False

end

namespace ValueType

@[simp] theorem holds_any (value : Json) : any.Holds value := trivial

@[simp] theorem holds_text (s : String) : text.Holds (.string s) := ⟨s, rfl⟩

@[simp] theorem holds_flag (b : Bool) : flag.Holds (.bool b) := ⟨b, rfl⟩

theorem holds_list_map {α : Type} {item : ValueType} {encode : α → Json} {values : List α}
    (h : ∀ value ∈ values, item.Holds (encode value)) :
    (list item).Holds (.array (values.map encode)) :=
  ⟨_, rfl, List.forall_mem_map.mpr h⟩

/-- The type of what a value has at the end of some keys. -/
def follow? : List String → ValueType → Option ValueType
  | [], type => some type
  | key :: keys, .record members => (members.lookup key).bind (follow? keys)
  | _ :: _, _ => none

theorem HoldAll.lookup {types : List (String × ValueType)} {values : List (String × Json)}
    (h : HoldAll types values) (key : String) :
    Option.Rel Holds (types.lookup key) (values.lookup key) := by
  induction types generalizing values with
  | nil =>
    cases values with
    | nil => exact .none
    | cons => exact h.elim
  | cons first rest ih =>
    obtain ⟨name, type⟩ := first
    obtain _ | ⟨⟨name', value⟩, more⟩ := values
    · exact h.elim
    obtain ⟨rfl, hholds, hmore⟩ := h
    cases hkey : key == name with
    | true => simpa only [List.lookup_cons, hkey] using .some hholds
    | false => simpa only [List.lookup_cons, hkey] using ih hmore

/-- What has a type is there. -/
theorem HoldAll.exists_lookup {types : List (String × ValueType)} {values : List (String × Json)}
    (h : HoldAll types values) {key : String} {type : ValueType}
    (htype : types.lookup key = some type) :
    ∃ value, values.lookup key = some value ∧ type.Holds value := by
  have hrel := h.lookup key
  rw [htype] at hrel
  generalize values.lookup key = value? at hrel
  cases hrel with
  | some hholds => exact ⟨_, rfl, hholds⟩

theorem Holds.follow? {keys : List String} {type result : ValueType} {value : Json}
    (h : type.Holds value) (hresult : type.follow? keys = some result) :
    ∃ found, value.follow? keys = some found ∧ result.Holds found := by
  induction keys generalizing type value with
  | nil =>
    obtain rfl := Option.some.inj hresult
    exact ⟨value, rfl, h⟩
  | cons key keys ih =>
    cases type with
    | record members =>
      obtain ⟨entries, rfl, hall⟩ := h
      obtain ⟨member, hmember, hfollow⟩ := Option.bind_eq_some_iff.mp hresult
      obtain ⟨child, hchild, hholds⟩ := hall.exists_lookup hmember
      obtain ⟨found, hfound, hresult⟩ := ih hholds hfollow
      refine ⟨found, ?_, hresult⟩
      rw [Json.follow?, Json.child?, hchild, Option.bind_some, hfound]
    | _ => cases hresult

end ValueType

/-! ## Types of names -/

/-- What is known of a level of a template before it is there. -/
structure FrameType where
  bindings : List (String × ValueType) := []
  /-- The name of the items of a loop, and their type. -/
  loop : Option (String × ValueType) := none

/-- The types of frames, the innermost first. -/
abbrev ScopeType := List FrameType

/-- A frame has the names of a type, with values of their types. -/
structure FrameType.Holds (type : FrameType) (frame : Frame) : Prop where
  bindings : ValueType.HoldAll type.bindings frame.bindings
  loop : Option.Rel (fun known place => known.1 = place.name ∧ known.2.Holds place.item)
    type.loop frame.loop

namespace ScopeType

/-- A scope has frames of some types. -/
def Holds (types : ScopeType) (scope : Scope) : Prop := List.Forall₂ FrameType.Holds types scope

/-- What is known in every loop. -/
def loopMembers : List (String × ValueType) :=
  [("index", .number), ("index0", .number), ("first", .flag), ("last", .flag)]

/-- The type of a path. The first frame that knows its head settles it. -/
def lookup? : ScopeType → List String → Option ValueType
  | [], _ => none
  | _ :: _, [] => none
  | frame :: outer, head :: keys =>
    match frame.bindings.lookup head, frame.loop with
    | some type, _ => type.follow? keys
    | none, none => lookup? outer (head :: keys)
    | none, some (name, item) =>
      if head = "loop" then
        match keys with
        | [key] => loopMembers.lookup key
        | _ => none
      else if head = name then item.follow? keys
      else lookup? outer (head :: keys)

/-- The types with a name defined in the innermost frame. -/
def define (name : String) (type : ValueType) : ScopeType → ScopeType
  | [] => [{ bindings := [(name, type)] }]
  | frame :: outer => { frame with bindings := (name, type) :: frame.bindings } :: outer

theorem exists_lookup?_loop (place : LoopPlace) {key : String} {type : ValueType}
    (h : loopMembers.lookup key = some type) :
    ∃ value, place.lookup? ["loop", key] = some value ∧ type.Holds value := by
  have hmem : (key, type) ∈ loopMembers := mem_of_lookup h
  simp only [loopMembers, List.mem_cons, Prod.mk.injEq, List.not_mem_nil, or_false] at hmem
  rcases hmem with ⟨rfl, rfl⟩ | ⟨rfl, rfl⟩ | ⟨rfl, rfl⟩ | ⟨rfl, rfl⟩
  · exact ⟨.nat (place.index + 1), by simp [LoopPlace.lookup?], _, rfl⟩
  · exact ⟨.nat place.index, by simp [LoopPlace.lookup?], _, rfl⟩
  · exact ⟨.bool (place.index == 0), by simp [LoopPlace.lookup?], _, rfl⟩
  · exact ⟨.bool (place.index + 1 == place.count), by simp [LoopPlace.lookup?], _, rfl⟩

theorem lookup?_of_ne_loop {place : LoopPlace} {head : String} (h : head ≠ "loop")
    (keys : List String) :
    place.lookup? (head :: keys) =
      if head = place.name then place.item.follow? keys else none := by
  simp [LoopPlace.lookup?, h]

/-- A path that has a type has a value of that type. -/
theorem Holds.exists_lookup? {types : ScopeType} {scope : Scope} (h : types.Holds scope)
    {path : List String} {type : ValueType} (htype : types.lookup? path = some type) :
    ∃ value, scope.lookup? path = some value ∧ type.Holds value := by
  induction h with
  | nil => cases htype
  | @cons known frame outerTypes outer hframe _ ih =>
    obtain _ | ⟨head, keys⟩ := path
    · cases htype
    have hscope : Scope.lookup? (frame :: outer) (head :: keys) =
        (frame.lookup? (head :: keys)).or (Scope.lookup? outer (head :: keys)) := by
      rw [Scope.lookup?, List.findSome?_cons, Scope.lookup?]
      cases frame.lookup? (head :: keys) <;> rfl
    have hbinding := hframe.bindings.lookup head
    have hloop := hframe.loop
    -- the type is found by the cases in which the frame has the head or leaves it to the outer ones
    rw [hscope, Frame.lookup?]
    unfold lookup? at htype
    generalize known.bindings.lookup head = known? at htype hbinding
    generalize frame.bindings.lookup head = bound? at hbinding ⊢
    cases hbinding with
    | some hholds =>
      obtain ⟨found, hfound, hresult⟩ := hholds.follow? htype
      exact ⟨found, by rw [Option.bind_some, hfound]; rfl, hresult⟩
    | none =>
      generalize known.loop = loopType at htype hloop
      generalize frame.loop = place? at hloop ⊢
      cases hloop with
      | none => exact ih htype
      | @some item place hitem =>
        obtain ⟨name, item⟩ := item
        obtain ⟨rfl, hholds⟩ := hitem
        dsimp only at htype
        split_ifs at htype with hhead hname
        · subst hhead
          split at htype
          · obtain ⟨value, hvalue, hresult⟩ := exists_lookup?_loop place htype
            exact ⟨value, by simp [hvalue], hresult⟩
          · cases htype
        · obtain ⟨found, hfound, hresult⟩ := hholds.follow? htype
          have hplace : place.lookup? (head :: keys) = some found := by
            rw [lookup?_of_ne_loop hhead, if_pos hname, hfound]
          exact ⟨found, by simp [hplace], hresult⟩
        · obtain ⟨found, hfound, hresult⟩ := ih htype
          have hplace : place.lookup? (head :: keys) = none := by
            rw [lookup?_of_ne_loop hhead, if_neg hname]
          exact ⟨found, by simp [hplace, hfound], hresult⟩

end ScopeType

/-! ## Types of expressions -/

/-- The type of what a filter makes of a value. -/
def filterType? (name : String) (arguments : List (String × ValueType)) :
    ValueType → Option ValueType
  | .text =>
    if name = "go_string" ∨ name = "pascal_case" then some .text
    else if name = "length" then some .number
    else if name = "replace" then
      match arguments.lookup "from", arguments.lookup "to" with
      | some .text, some .text => some .text
      | _, _ => none
    else none
  | .list item =>
    if name = "length" then some .number
    else if name = "first" then some .any
    else if name = "filter" then
      match arguments.lookup "attribute" with
      | some .text => some (.list item)
      | _ => none
    else none
  | _ => none

/-- Whether values of two types can be compared. -/
def Comparison.suits : Comparison → ValueType → ValueType → Bool
  | .equal, _, _ => true
  | .different, _, _ => true
  | _, .number, .number => true
  | _, _, _ => false

/-- Whether the text of a value can be joined to others. -/
def ValueType.isJoinable : ValueType → Bool
  | .text => true
  | .number => true
  | _ => false

mutual

/-- The type of an expression, if it has a value. -/
def Expr.type? (types : ScopeType) : Expr → Option ValueType
  | .name path => types.lookup? path
  | .text _ => some .text
  | .number _ => some .number
  | .flag _ => some .flag
  | .list items => (Expr.types? types items).map fun _ => .list .any
  | .join items =>
    (Expr.types? types items).bind fun found =>
      if found.all ValueType.isJoinable then some .text else none
  | .filter value filterName arguments =>
    (value.type? types).bind fun type =>
      (Expr.argumentTypes? types arguments).bind fun given => filterType? filterName given type
  | .test path testName arguments =>
    match types.lookup? path, Expr.types? types arguments with
    | some .text, some [.text] => if testName = "starting_with" then some .flag else none
    | _, _ => none
  | .compare comparison left right =>
    (left.type? types).bind fun l =>
      (right.type? types).bind fun r => if comparison.suits l r then some .flag else none
  | .negate condition => (condition.type? types).map fun _ => .flag
  | .both left right =>
    (left.type? types).bind fun _ => (right.type? types).map fun _ => .flag
  | .either left right =>
    (left.type? types).bind fun _ => (right.type? types).map fun _ => .flag

/-- The types of expressions in order. -/
def Expr.types? (types : ScopeType) : List Expr → Option (List ValueType)
  | [] => some []
  | e :: rest =>
    (e.type? types).bind fun type => (Expr.types? types rest).map fun more => type :: more

/-- The types of named arguments. -/
def Expr.argumentTypes? (types : ScopeType) :
    List (String × Expr) → Option (List (String × ValueType))
  | [] => some []
  | (key, e) :: rest =>
    (e.type? types).bind fun type =>
      (Expr.argumentTypes? types rest).map fun more => (key, type) :: more

end

/-- A filter that has a type for a value makes a value of that type. -/
theorem exists_applyFilter {name : String} {given : List (String × ValueType)}
    {arguments : List (String × Json)}
    (harguments : ValueType.HoldAll given arguments)
    {type result : ValueType} {value : Json} (hvalue : type.Holds value)
    (h : filterType? name given type = some result) :
    ∃ found, applyFilter name arguments value = .ok found ∧ result.Holds found := by
  have hgiven {key : String} (hkey : given.lookup key = some .text) :
      ∃ s, arguments.lookup key = some (.string s) := by
    obtain ⟨_, hlookup, s, rfl⟩ := harguments.exists_lookup hkey
    exact ⟨s, hlookup⟩
  unfold filterType? at h
  split at h
  · obtain ⟨s, rfl⟩ := hvalue
    split_ifs at h with hspelling hlength hreplace
    · obtain rfl := Option.some.inj h
      rcases hspelling with rfl | rfl
      · exact ⟨_, rfl, _, rfl⟩
      · exact ⟨_, rfl, _, rfl⟩
    · obtain rfl := Option.some.inj h
      subst hlength
      exact ⟨_, rfl, _, rfl⟩
    · subst hreplace
      split at h
      · next hfrom hto =>
        obtain rfl := Option.some.inj h
        obtain ⟨old, hold⟩ := hgiven hfrom
        obtain ⟨new, hnew⟩ := hgiven hto
        refine ⟨.string (replaceAll s old new), ?_, _, rfl⟩
        simp [applyFilter, hold, hnew]
      · cases h
  · obtain ⟨items, rfl, hitems⟩ := hvalue
    split_ifs at h with hlength hfirst hfilter
    · obtain rfl := Option.some.inj h
      subst hlength
      exact ⟨_, rfl, _, rfl⟩
    · obtain rfl := Option.some.inj h
      subst hfirst
      exact ⟨_, rfl, trivial⟩
    · subst hfilter
      split at h
      · next hattribute =>
        obtain rfl := Option.some.inj h
        obtain ⟨key, hkey⟩ := hgiven hattribute
        refine ⟨_, by simp [applyFilter, hkey]; rfl, _, rfl, fun v hv => hitems v ?_⟩
        exact List.mem_of_mem_filter hv
      · cases h
  · cases h

section Expressions

variable {types : ScopeType} {scope : Scope}

theorem exists_joinable {type : ValueType} {value : Json} (h : type.Holds value)
    (hjoinable : type.isJoinable = true) (e : Expr) : ∃ s, joinable e value = .ok s := by
  cases type with
  | text =>
    obtain ⟨s, rfl⟩ := h
    exact ⟨s, rfl⟩
  | number =>
    obtain ⟨n, rfl⟩ := h
    exact ⟨_, rfl⟩
  | _ => cases hjoinable

theorem exists_compare {comparison : Comparison} {l r : ValueType} {left right : Json}
    (hl : l.Holds left) (hr : r.Holds right) (h : comparison.suits l r = true) :
    ∃ b, comparison.apply left right = .ok b := by
  unfold Comparison.suits at h
  split at h
  · exact ⟨_, rfl⟩
  · exact ⟨_, rfl⟩
  · obtain ⟨m, rfl⟩ := hl
    obtain ⟨n, rfl⟩ := hr
    cases comparison <;> exact ⟨_, rfl⟩
  · cases h

mutual

/-- **An expression that has a type has a value of that type.** -/
theorem Expr.exists_eval (h : types.Holds scope) :
    ∀ (e : Expr) {type : ValueType}, e.type? types = some type →
      ∃ value, e.eval scope = .ok value ∧ type.Holds value
  | .name path, type, htype => by
    obtain ⟨value, hvalue, hholds⟩ := h.exists_lookup? htype
    exact ⟨value, by rw [Expr.eval, Scope.lookup, hvalue], hholds⟩
  | .text s, _, htype => by
    obtain rfl := Option.some.inj htype
    exact ⟨_, rfl, s, rfl⟩
  | .number n, _, htype => by
    obtain rfl := Option.some.inj htype
    exact ⟨_, rfl, n, rfl⟩
  | .flag b, _, htype => by
    obtain rfl := Option.some.inj htype
    exact ⟨_, rfl, b, rfl⟩
  | .list items, _, htype => by
    obtain ⟨found, hfound, rfl⟩ := Option.map_eq_some_iff.mp htype
    obtain ⟨values, hvalues, -⟩ := Expr.exists_evalAll h items hfound
    exact ⟨.array values, by rw [Expr.eval, hvalues]; rfl, values, rfl, fun _ _ => trivial⟩
  | .join items, _, htype => by
    obtain ⟨found, hfound, hall⟩ := Option.bind_eq_some_iff.mp htype
    obtain ⟨hjoinable, hresult⟩ := Option.ite_none_right_eq_some.mp hall
    obtain rfl := Option.some.inj hresult
    obtain ⟨s, hs⟩ := Expr.exists_evalJoin h items hfound hjoinable
    exact ⟨.string s, by rw [Expr.eval, hs]; rfl, s, rfl⟩
  | .filter value filterName arguments, _, htype => by
    obtain ⟨input, hinput, hrest⟩ := Option.bind_eq_some_iff.mp htype
    obtain ⟨given, hgiven, hresult⟩ := Option.bind_eq_some_iff.mp hrest
    obtain ⟨v, hv, hholds⟩ := Expr.exists_eval h value hinput
    obtain ⟨vs, hvs, harguments⟩ := Expr.exists_evalArguments h arguments hgiven
    obtain ⟨found, hfound, hholds⟩ := exists_applyFilter harguments hholds hresult
    exact ⟨found, by rw [Expr.eval, hv, ok_bind, hvs, ok_bind, hfound], hholds⟩
  | .test path testName arguments, _, htype => by
    unfold Expr.type? at htype
    split at htype
    · next hpath harguments =>
      obtain ⟨rfl, hresult⟩ := Option.ite_none_right_eq_some.mp htype
      obtain rfl := Option.some.inj hresult
      obtain ⟨v, hv, s, rfl⟩ := h.exists_lookup? hpath
      obtain ⟨vs, hvs, hall⟩ := Expr.exists_evalAll h arguments harguments
      obtain ⟨start, rest, ⟨t, rfl⟩, hrest, rfl⟩ := List.forall₂_cons_left_iff.mp hall
      obtain rfl := List.forall₂_nil_left_iff.mp hrest
      exact ⟨_, by rw [Expr.eval, hvs, ok_bind, hv]; rfl, _, rfl⟩
    · cases htype
  | .compare comparison left right, _, htype => by
    obtain ⟨l, hleft, hrest⟩ := Option.bind_eq_some_iff.mp htype
    obtain ⟨r, hright, hresult⟩ := Option.bind_eq_some_iff.mp hrest
    obtain ⟨hsuits, hflag⟩ := Option.ite_none_right_eq_some.mp hresult
    obtain rfl := Option.some.inj hflag
    obtain ⟨v, hv, hl⟩ := Expr.exists_eval h left hleft
    obtain ⟨w, hw, hr⟩ := Expr.exists_eval h right hright
    obtain ⟨b, hb⟩ := exists_compare hl hr hsuits
    exact ⟨.bool b, by rw [Expr.eval, hv, ok_bind, hw, ok_bind, hb]; rfl, b, rfl⟩
  | .negate condition, _, htype => by
    obtain ⟨t, hcondition, rfl⟩ := Option.map_eq_some_iff.mp htype
    obtain ⟨v, hv, -⟩ := Expr.exists_eval h condition hcondition
    exact ⟨_, by rw [Expr.eval, hv, Expr.holds]; rfl, _, rfl⟩
  | .both left right, _, htype => by
    obtain ⟨l, hleft, hrest⟩ := Option.bind_eq_some_iff.mp htype
    obtain ⟨r, hright, rfl⟩ := Option.map_eq_some_iff.mp hrest
    obtain ⟨v, hv, -⟩ := Expr.exists_eval h left hleft
    obtain ⟨w, hw, -⟩ := Expr.exists_eval h right hright
    -- the second side is asked for in one case only, but it has a value in both
    rw [Expr.eval, hv, hw, Expr.holds, Expr.holds]
    cases hfirst : v.isTruthy
    · exact ⟨.bool false, by rw [ok_bind]; rfl, _, rfl⟩
    · exact ⟨.bool w.isTruthy, by rw [ok_bind]; rfl, _, rfl⟩
  | .either left right, _, htype => by
    obtain ⟨l, hleft, hrest⟩ := Option.bind_eq_some_iff.mp htype
    obtain ⟨r, hright, rfl⟩ := Option.map_eq_some_iff.mp hrest
    obtain ⟨v, hv, -⟩ := Expr.exists_eval h left hleft
    obtain ⟨w, hw, -⟩ := Expr.exists_eval h right hright
    rw [Expr.eval, hv, hw, Expr.holds, Expr.holds]
    cases hfirst : v.isTruthy
    · exact ⟨.bool w.isTruthy, by rw [ok_bind]; rfl, _, rfl⟩
    · exact ⟨.bool true, by rw [ok_bind]; rfl, _, rfl⟩

theorem Expr.exists_evalAll (h : types.Holds scope) :
    ∀ (es : List Expr) {found : List ValueType}, Expr.types? types es = some found →
      ∃ values, Expr.evalAll scope es = .ok values ∧ List.Forall₂ ValueType.Holds found values
  | [], _, hfound => by
    obtain rfl := Option.some.inj hfound
    exact ⟨[], rfl, .nil⟩
  | e :: rest, _, hfound => by
    obtain ⟨type, htype, hrest⟩ := Option.bind_eq_some_iff.mp hfound
    obtain ⟨more, hmore, rfl⟩ := Option.map_eq_some_iff.mp hrest
    obtain ⟨v, hv, hholds⟩ := Expr.exists_eval h e htype
    obtain ⟨vs, hvs, hall⟩ := Expr.exists_evalAll h rest hmore
    exact ⟨v :: vs, by rw [Expr.evalAll, hv, ok_bind, hvs]; rfl, .cons hholds hall⟩

theorem Expr.exists_evalJoin (h : types.Holds scope) :
    ∀ (es : List Expr) {found : List ValueType}, Expr.types? types es = some found →
      found.all ValueType.isJoinable = true → ∃ s, Expr.evalJoin scope es = .ok s
  | [], _, _, _ => ⟨"", rfl⟩
  | e :: rest, _, hfound, hjoinable => by
    obtain ⟨type, htype, hrest⟩ := Option.bind_eq_some_iff.mp hfound
    obtain ⟨more, hmore, rfl⟩ := Option.map_eq_some_iff.mp hrest
    rw [List.all_cons, Bool.and_eq_true] at hjoinable
    obtain ⟨v, hv, hholds⟩ := Expr.exists_eval h e htype
    obtain ⟨first, hfirst⟩ := exists_joinable hholds hjoinable.1 e
    obtain ⟨others, hothers⟩ := Expr.exists_evalJoin h rest hmore hjoinable.2
    exact ⟨first ++ others, by rw [Expr.evalJoin, hv, ok_bind, hfirst, ok_bind, hothers]; rfl⟩

theorem Expr.exists_evalArguments (h : types.Holds scope) :
    ∀ (arguments : List (String × Expr)) {given : List (String × ValueType)},
      Expr.argumentTypes? types arguments = some given →
      ∃ values, Expr.evalArguments scope arguments = .ok values ∧
        ValueType.HoldAll given values
  | [], _, hgiven => by
    obtain rfl := Option.some.inj hgiven
    exact ⟨[], rfl, trivial⟩
  | (key, e) :: rest, _, hgiven => by
    obtain ⟨type, htype, hrest⟩ := Option.bind_eq_some_iff.mp hgiven
    obtain ⟨more, hmore, rfl⟩ := Option.map_eq_some_iff.mp hrest
    obtain ⟨v, hv, hholds⟩ := Expr.exists_eval h e htype
    obtain ⟨vs, hvs, hall⟩ := Expr.exists_evalArguments h rest hmore
    exact ⟨(key, v) :: vs, by rw [Expr.evalArguments, hv, ok_bind, hvs]; rfl, rfl, hholds, hall⟩

end

end Expressions

/-! ## Checking parts -/

mutual

/-- The types of the names after a part, if it is rendered whatever their values are. -/
def Part.after? : Part → ScopeType → Option ScopeType
  | .text _, types => some types
  | .put value, types => (value.type? types).map fun _ => types
  | .define name value, types => (value.type? types).map fun type => types.define name type
  | .choose branches otherwise, types =>
    if Part.branchesStay types branches && Part.stays types otherwise then some types else none
  | .each name items body, types =>
    match items.type? types with
    | some (.list item) =>
      (Part.afterAll? body ({ loop := some (name, item) } :: types)).map fun _ => types
    | _ => none

/-- The types of the names after some parts. -/
def Part.afterAll? : List Part → ScopeType → Option ScopeType
  | [], types => some types
  | part :: rest, types => (part.after? types).bind fun types => Part.afterAll? rest types

/-- Whether parts are rendered whatever the values are, and define nothing. -/
def Part.stays (types : ScopeType) : List Part → Bool
  | [] => true
  | .define _ _ :: _ => false
  | part :: rest => (part.after? types).isSome && Part.stays types rest

/-- Whether the conditions of branches have values and their bodies stay. -/
def Part.branchesStay (types : ScopeType) : List (Expr × List Part) → Bool
  | [] => true
  | (condition, body) :: rest =>
    (condition.type? types).isSome && Part.stays types body && Part.branchesStay types rest

end

theorem Part.stays_cons_iff {types : ScopeType} {part : Part} {rest : List Part} :
    Part.stays types (part :: rest) = true ↔
      (∃ after, part.after? types = some after) ∧ (∀ name value, part ≠ .define name value) ∧
        Part.stays types rest = true := by
  cases part <;> simp [Part.stays, Option.isSome_iff_exists]

theorem ScopeType.Holds.define {types : ScopeType} {scope : Scope} (h : types.Holds scope)
    {type : ValueType} {value : Json} (hvalue : type.Holds value) (name : String) :
    (types.define name type).Holds (scope.define name value) := by
  cases h with
  | nil => exact .cons ⟨⟨rfl, hvalue, trivial⟩, .none⟩ .nil
  | cons hframe houter => exact .cons ⟨⟨rfl, hvalue, hframe.bindings⟩, hframe.loop⟩ houter

mutual

/-- **A part that passes the check is rendered**, and the names after it are as expected. -/
theorem Part.exists_render :
    ∀ (part : Part) {types after : ScopeType} {scope : Scope}, types.Holds scope →
      part.after? types = some after → ∃ text scope', part.render scope = .ok (text, scope') ∧
        after.Holds scope' ∧ ((∀ name value, part ≠ .define name value) → scope' = scope)
  | .text s, _, _, scope, h, hafter => by
    obtain rfl := Option.some.inj hafter
    exact ⟨s, scope, rfl, h, fun _ => rfl⟩
  | .put value, _, _, scope, h, hafter => by
    obtain ⟨type, htype, rfl⟩ := Option.map_eq_some_iff.mp hafter
    obtain ⟨v, hv, -⟩ := Expr.exists_eval h value htype
    exact ⟨v.shown, scope, by rw [Part.render, hv]; rfl, h, fun _ => rfl⟩
  | .define name value, _, _, scope, h, hafter => by
    obtain ⟨type, htype, rfl⟩ := Option.map_eq_some_iff.mp hafter
    obtain ⟨v, hv, hholds⟩ := Expr.exists_eval h value htype
    exact ⟨"", scope.define name v, by rw [Part.render, hv]; rfl, h.define hholds name,
      fun hdefine => absurd rfl (hdefine name value)⟩
  | .choose branches otherwise, _, _, scope, h, hafter => by
    obtain ⟨hstay, hsame⟩ := Option.ite_none_right_eq_some.mp hafter
    obtain rfl := Option.some.inj hsame
    rw [Bool.and_eq_true] at hstay
    obtain ⟨text, htext⟩ := Part.exists_renderChoice branches h hstay.1
      (Part.exists_prints otherwise h hstay.2)
    exact ⟨text, scope, by rw [Part.render, htext], h, fun _ => rfl⟩
  | .each name items body, types, _, scope, h, hafter => by
    unfold Part.after? at hafter
    split at hafter
    · next item hitems =>
      obtain ⟨inside, hinside, rfl⟩ := Option.map_eq_some_iff.mp hafter
      obtain ⟨-, hvalue, values, rfl, hvalues⟩ := Expr.exists_eval h items hitems
      have hbody : ∀ value ∈ values, ∀ index, ∃ rendered, Part.renderAll body
          ({ loop := some { name, item := value, index, count := values.length } } :: scope) =
            .ok rendered := by
        intro value hmem index
        have hframe : FrameType.Holds { loop := some (name, item) }
            { loop := some { name, item := value, index, count := values.length } } :=
          ⟨trivial, .some ⟨rfl, hvalues value hmem⟩⟩
        obtain ⟨text, scope', htext, -⟩ := Part.exists_renderAll body
          (.cons hframe h) hinside
        exact ⟨(text, scope'), htext⟩
      obtain ⟨text, htext⟩ := exists_renderLoop hbody 0
      exact ⟨text, scope, by rw [Part.render, hvalue]; simp [itemsOf, ok_bind, htext], h,
        fun _ => rfl⟩
    · cases hafter

/-- Parts that pass the check are rendered. -/
theorem Part.exists_renderAll :
    ∀ (parts : List Part) {types after : ScopeType} {scope : Scope}, types.Holds scope →
      Part.afterAll? parts types = some after →
      ∃ text scope', Part.renderAll parts scope = .ok (text, scope') ∧ after.Holds scope'
  | [], _, _, scope, h, hafter => by
    obtain rfl := Option.some.inj hafter
    exact ⟨"", scope, rfl, h⟩
  | part :: rest, _, _, _, h, hafter => by
    obtain ⟨between, hbetween, hrest⟩ := Option.bind_eq_some_iff.mp hafter
    obtain ⟨first, scope', hfirst, h', -⟩ := Part.exists_render part h hbetween
    obtain ⟨others, scope'', hothers, h''⟩ := Part.exists_renderAll rest h' hrest
    exact ⟨first ++ others, scope'', renderAll_cons hfirst hothers, h''⟩

/-- Parts that stay are rendered and leave the scope as it is. -/
theorem Part.exists_prints :
    ∀ (parts : List Part) {types : ScopeType} {scope : Scope}, types.Holds scope →
      Part.stays types parts = true → ∃ text, Prints parts scope text
  | [], _, _, _, _ => ⟨"", rfl⟩
  | part :: rest, _, _, h, hstays => by
    obtain ⟨⟨after, hafter⟩, hdefines, hrest⟩ := Part.stays_cons_iff.mp hstays
    obtain ⟨first, scope', hfirst, -, hsame⟩ := Part.exists_render part h hafter
    obtain rfl := hsame hdefines
    obtain ⟨others, hothers⟩ := Part.exists_prints rest h hrest
    exact ⟨first ++ others, renderAll_cons hfirst hothers⟩

/-- A choice between branches that stay is rendered and leaves the scope as it is. -/
theorem Part.exists_renderChoice :
    ∀ (branches : List (Expr × List Part)) {types : ScopeType} {scope : Scope}
      {otherwise : Scope → Rendering (String × Scope)}, types.Holds scope →
      Part.branchesStay types branches = true → (∃ text, otherwise scope = .ok (text, scope)) →
      ∃ text, Part.renderChoice branches otherwise scope = .ok (text, scope)
  | [], _, _, _, _, _, hotherwise => hotherwise
  | (condition, body) :: rest, _, _, _, h, hstay, hotherwise => by
    rw [Part.branchesStay, Bool.and_eq_true, Bool.and_eq_true, Option.isSome_iff_exists] at hstay
    obtain ⟨⟨⟨type, htype⟩, hbody⟩, hrest⟩ := hstay
    obtain ⟨v, hv, -⟩ := Expr.exists_eval h condition htype
    rw [Part.renderChoice, Expr.truth, hv, Expr.holds, ok_bind]
    cases v.isTruthy
    · exact Part.exists_renderChoice rest h hrest hotherwise
    · exact Part.exists_prints body h hbody

end

end ProviderGen
