/-
Expansions without the state.

An expansion reads the stack and changes it, but it hands it back as it found it, so
what it comes to is a function of the stack alone. `expand` is that function: it recurs
on the depth as `flatten` does, and `flatten_answers` says that the two agree on every
depth, stack and schema and that the stack is restored, whatever the outcome.

What a single call does is said once, by `enter` and `demand`. A call enters a schema: it
follows its references and pushes the components passed. Then it goes through the
properties, and what a property calls for is settled before any further call is made:
an error, a kind without attributes of its own, or the expansion of one more schema.
All later modules take a call apart with the statements on `attributeOf` and `expand` and
never unfold `flatten`, `fieldOf` or `kindOf`.
-/
import ProviderGen.Proofs.Chain
import ProviderGen.Proofs.Outcome
import ProviderGen.Proofs.Results

set_option autoImplicit false

namespace ProviderGen

/-! ## Answers -/

namespace Expansion

variable {α β : Type}

/-- An expansion answers a function of the stack: on every stack it comes to what the
function says and leaves the stack as it was. -/
def Answers (expansion : Expansion α) (f : Stack → Outcome α) : Prop :=
  ∀ stack, expansion.run.run stack = (f stack).map fun outcome => (outcome, stack)

/-- An expansion that answers a function of the stack comes to what the function says, and to
the stack that it was given. -/
theorem Answers.run_eq_some_iff {expansion : Expansion α} {f : Stack → Outcome α}
    (h : expansion.Answers f) {stack after : Stack} {outcome : Except SchemaError α} :
    expansion.run.run stack = some (outcome, after) ↔ f stack = some outcome ∧ after = stack := by
  rw [h stack, Option.map_eq_some_iff]
  constructor
  · rintro ⟨found, hfound, hpair⟩
    cases hpair
    exact ⟨hfound, rfl⟩
  · rintro ⟨hfound, rfl⟩
    exact ⟨outcome, hfound, rfl⟩

theorem answers_outOfDepth : (outOfDepth : Expansion α).Answers fun _ => none :=
  fun _ => rfl

theorem answers_pure (value : α) : (pure value : Expansion α).Answers fun _ => some (.ok value) :=
  fun _ => rfl

theorem answers_throw (error : SchemaError) :
    (throw error : Expansion α).Answers fun _ => some (.error error) :=
  fun _ => rfl

@[simp] theorem settled_ok_bind (value : α) (next : α → Expansion β) :
    settled (.ok value) >>= next = next value :=
  rfl

/-- Reading the stack takes nothing from it. -/
theorem Answers.get {next : Stack → Expansion α} {f : Stack → Outcome α}
    (h : ∀ stack, (next stack).run.run stack = (f stack).map fun outcome => (outcome, stack)) :
    (get >>= next : Expansion α).Answers f :=
  fun stack => h stack

theorem Answers.bind {first : Expansion α} {next : α → Expansion β} {f : Stack → Outcome α}
    {g : α → Stack → Outcome β} (hfirst : first.Answers f)
    (hnext : ∀ value, (next value).Answers (g value)) :
    (first >>= next).Answers fun stack => Outcome.andThen (f stack) fun value => g value stack := by
  intro stack
  rw [ExceptT.run_bind, StateT.run_bind, hfirst stack]
  dsimp only
  rcases f stack with _ | error | value
  · rfl
  · rfl
  · exact hnext value stack

theorem Answers.mapM {next : α → Expansion β} {f : α → Stack → Outcome β}
    (h : ∀ a, (next a).Answers (f a)) (items : List α) :
    (items.mapM next).Answers fun stack => Outcome.collect (fun a => f a stack) items := by
  induction items with
  | nil => rw [List.mapM_nil]; exact answers_pure []
  | cons item rest ih =>
    rw [List.mapM_cons]
    exact (h item).bind fun value => ih.bind fun values => answers_pure (value :: values)

/-- What is pushed for an expansion is taken off again, whatever the expansion comes to. -/
theorem Answers.within {inner : Expansion α} {f : Stack → Outcome α} (h : inner.Answers f)
    (names : List String) : (within names inner).Answers fun stack => f (stack ++ names) := by
  intro stack
  -- on the taller stack the inner expansion answers, and it leaves that stack as it was
  have hinner : inner.run.run (stack ++ names)
      = (f (stack ++ names)).map fun outcome => (outcome, stack ++ names) := h (stack ++ names)
  have hrun : (Expansion.within names inner).run.run stack
      = (inner.run.run (stack ++ names)).bind fun result =>
          some (result.1, result.2.take stack.length) := by
    simp only [Expansion.within, settled, ExceptT.run_bind, StateT.run_bind, ExceptT.run_lift,
      ExceptT.run_mk, bind_map_left, Option.bind_eq_bind]
    rfl
  rw [hrun, hinner]
  dsimp only
  rcases f (stack ++ names) with _ | outcome
  · rfl
  · rw [Option.map_some, Option.bind_some, List.take_left, Option.map_some]

end Expansion

/-! ## Properties -/

/-- What the value of a property calls for: a kind without attributes of its own, or the
attributes of one more schema, once or for each member of a list. -/
inductive Demand where
  | leaf (kind : Kind Field)
  | nested (schema : Schema) (repeated : Bool)

/-- The attribute of a property that resolves to a schema, given its kind. -/
def Field.ofProperty (key : String) (property resolved : Schema) (required : Bool)
    (kind : Kind Field) : Field where
  name := Naming.snake key
  source := key
  kind := kind
  enumValues := resolved.enumLiterals
  required := required
  readOnly := property.readOnly || resolved.readOnly
  description := property.description.orElse fun _ => resolved.description

namespace Document

/-- What the members of an array call for, given the schema of its items. -/
def arrayDemand (doc : Document) : Option Schema → Except SchemaError Demand
  | none => .ok (.leaf (.list .string))
  | some items =>
    match doc.resolve items with
    | .error error => .error error
    | .ok resolved =>
      match scalarType resolved with
      | some type => .ok (.leaf (.list type))
      | none => .ok (.nested items true)

/-- What an object calls for, given its additional properties. -/
def objectDemand (doc : Document) (property : Schema) :
    Option (Additional Schema) → Except SchemaError Demand
  | some (.schema value) =>
    match doc.resolve value with
    | .error error => .error error
    | .ok resolved =>
      match scalarType resolved with
      | some type => .ok (.leaf (.map type))
      | none => .ok (.nested property false)
  | _ => .ok (.nested property false)

/-- What a property calls for, given the schema it resolves to. -/
def demandOf (doc : Document) (property resolved : Schema) : Except SchemaError Demand :=
  match resolved.typeName with
  | some "array" => doc.arrayDemand resolved.items
  | some "object" => doc.objectDemand property resolved.additional
  | some other => .ok (.leaf (.primitive ((Primitive.ofTypeName? other).getD .string)))
  | none =>
    if resolved.properties.isEmpty then .ok (.leaf (.primitive .string))
    else .ok (.nested property false)

/-- What a property resolves to and what it calls for. -/
def demand (doc : Document) (property : Schema) : Except SchemaError (Schema × Demand) :=
  match doc.resolve property with
  | .error error => .error error
  | .ok resolved => (doc.demandOf property resolved).map fun demand => (resolved, demand)

/-- What a schema calls for by way of a member, given what the member resolves to: a kind of its
own if that is a scalar. -/
def Demand.ofMember (leaf : Primitive → Kind Field) (other : Demand) (resolved : Schema) :
    Demand :=
  match scalarType resolved with
  | some type => .leaf (leaf type)
  | none => other

theorem Demand.eq_of_ofMember_eq_nested {leaf : Primitive → Kind Field} {other : Demand}
    {resolved schema : Schema} {repeated : Bool}
    (h : Demand.ofMember leaf other resolved = .nested schema repeated) :
    other = .nested schema repeated := by
  unfold Demand.ofMember at h
  split at h
  · cases h
  · exact h

theorem arrayDemand_some (doc : Document) (items : Schema) :
    doc.arrayDemand (some items)
      = doc.resolve items >>= fun resolved =>
          .ok (Demand.ofMember .list (.nested items true) resolved) := by
  unfold arrayDemand Demand.ofMember
  dsimp only
  rcases doc.resolve items with error | resolved
  · rfl
  · rw [ok_bind]
    dsimp only
    rcases scalarType resolved with _ | type <;> rfl

theorem objectDemand_schema (doc : Document) (property value : Schema) :
    doc.objectDemand property (some (.schema value))
      = doc.resolve value >>= fun resolved =>
          .ok (Demand.ofMember .map (.nested property false) resolved) := by
  unfold objectDemand Demand.ofMember
  dsimp only
  rcases doc.resolve value with error | resolved
  · rfl
  · rw [ok_bind]
    dsimp only
    rcases scalarType resolved with _ | type <;> rfl

section Types

variable {doc : Document} {property resolved : Schema}

theorem demandOf_array (h : resolved.typeName = some "array") :
    doc.demandOf property resolved = doc.arrayDemand resolved.items := by
  simp only [demandOf, h]

theorem demandOf_object (h : resolved.typeName = some "object") :
    doc.demandOf property resolved = doc.objectDemand property resolved.additional := by
  simp only [demandOf, h]

theorem demandOf_scalar {name : String} (h : resolved.typeName = some name)
    (harray : name ≠ "array") (hobject : name ≠ "object") :
    doc.demandOf property resolved =
      .ok (.leaf (.primitive ((Primitive.ofTypeName? name).getD .string))) := by
  unfold demandOf
  split
  · next htype => rw [h] at htype; exact absurd (Option.some.inj htype) harray
  · next htype => rw [h] at htype; exact absurd (Option.some.inj htype) hobject
  · next htype => rw [h] at htype; cases htype; rfl
  · next htype => rw [h] at htype; cases htype

theorem demandOf_untyped (h : resolved.typeName = none) :
    doc.demandOf property resolved =
      if resolved.properties.isEmpty then .ok (.leaf (.primitive .string))
      else .ok (.nested property false) := by
  simp only [demandOf, h]

end Types

theorem demand_eq (doc : Document) (property : Schema) :
    doc.demand property = doc.resolve property >>= fun resolved =>
      doc.demandOf property resolved >>= fun demand => .ok (resolved, demand) := by
  unfold demand
  rcases doc.resolve property with error | resolved
  · rfl
  · rw [ok_bind]
    dsimp only
    rcases doc.demandOf property resolved with error | demand <;> rfl

/-- The kind a demand comes to, given the outcomes of further calls. -/
def kindFor (nested : Schema → Outcome (List Field)) : Demand → Outcome (Kind Field)
  | .leaf kind => some (.ok kind)
  | .nested schema repeated =>
    Outcome.andThen (nested schema) fun fields => some (.ok (.object fields repeated))

/-- The attribute of a property, given the outcomes of further calls. -/
def attributeOf (doc : Document) (nested : Schema → Outcome (List Field)) (required : List String)
    (entry : String × Schema) : Outcome Field :=
  match doc.demand entry.2 with
  | .error error => some (.error error)
  | .ok (resolved, demand) =>
    Outcome.andThen (kindFor nested demand) fun kind =>
      some (.ok (Field.ofProperty entry.1 entry.2 resolved (required.contains entry.1) kind))

/-- What a call does with its schema before it goes through any property: it follows the
references and refuses a component that is under expansion. -/
def enter (doc : Document) (stack : Stack) (schema : Schema) :
    Except SchemaError (Schema × List String) :=
  match doc.resolveChain schema with
  | .error error => .error error
  | .ok (resolved, names) =>
    match names.find? stack.contains with
    | some name => .error (.recursive name)
    | none => .ok (resolved, names)

/-- The attributes of a schema as a function of the stack, within a depth of calls. -/
def expand (doc : Document) : Nat → Stack → Schema → Outcome (List Field)
  | 0, _, _ => none
  | depth + 1, stack, schema =>
    match doc.enter stack schema with
    | .error error => some (.error error)
    | .ok (resolved, names) =>
      Outcome.collect (doc.attributeOf (doc.expand depth (stack ++ names)) resolved.required)
        resolved.properties

theorem expand_succ (doc : Document) (depth : Nat) (stack : Stack) (schema : Schema) :
    doc.expand (depth + 1) stack schema
      = Outcome.andThen (some (doc.enter stack schema)) fun entered =>
          Outcome.collect
            (doc.attributeOf (doc.expand depth (stack ++ entered.2)) entered.1.required)
            entered.1.properties := by
  rw [expand]
  rcases doc.enter stack schema with error | ⟨resolved, names⟩ <;> rfl

/-- The schema whose attributes are those of a body: its items, if it is an array. -/
def bodyTarget (doc : Document) (body : Schema) : Except SchemaError Schema :=
  match doc.resolve body with
  | .error error => .error error
  | .ok resolved =>
    match resolved.typeName, resolved.items with
    | some "array", some items => .ok items
    | _, _ => .ok body

/-- The attributes of a body as a function of the stack, within a depth of calls. -/
def expandBody (doc : Document) (depth : Nat) (stack : Stack) (body : Schema) :
    Outcome (List Field) :=
  match doc.bodyTarget body with
  | .error error => some (.error error)
  | .ok target => doc.expand depth stack target

/-- The attributes of a body are those of the schema it stands for. -/
theorem expandBody_eq_ok_iff {doc : Document} {depth : Nat} {stack : Stack} {body : Schema}
    {fields : List Field} :
    doc.expandBody depth stack body = some (.ok fields) ↔
      ∃ target, doc.bodyTarget body = .ok target ∧
        doc.expand depth stack target = some (.ok fields) := by
  unfold expandBody
  cases doc.bodyTarget body <;> simp

/-- A body stands for its items if it resolves to an array that has some, and for itself
otherwise. -/
theorem bodyTarget_eq_ok_iff {doc : Document} {body target : Schema} :
    doc.bodyTarget body = .ok target ↔
      ∃ resolved, doc.resolve body = .ok resolved ∧
        (resolved.typeName = some "array" ∧ resolved.items = some target ∨
          ¬ (resolved.typeName = some "array" ∧ resolved.items.isSome) ∧ target = body) := by
  unfold bodyTarget
  cases doc.resolve body with
  | error error => simp
  | ok resolved =>
    simp only [Except.ok.injEq, exists_eq_left']
    split
    · rename_i items htype hitems
      simp [htype, hitems]
    · rename_i hother
      have hnot : ¬ (resolved.typeName = some "array" ∧ resolved.items.isSome) := by
        rintro ⟨htype, hsome⟩
        obtain ⟨items, hitems⟩ := Option.isSome_iff_exists.mp hsome
        exact hother items htype hitems
      have hnone : ¬ (resolved.typeName = some "array" ∧ resolved.items = some target) := by
        rintro ⟨htype, hitems⟩
        exact hother target htype hitems
      rw [Except.ok.injEq]
      constructor
      · rintro rfl
        exact Or.inr ⟨hnot, rfl⟩
      · rintro (hitems | ⟨-, rfl⟩)
        · exact absurd hitems hnone
        · rfl

/-- A body stands for nothing only if it does not resolve. -/
theorem bodyTarget_eq_error_iff {doc : Document} {body : Schema} {error : SchemaError} :
    doc.bodyTarget body = .error error ↔ doc.resolve body = .error error := by
  unfold bodyTarget
  cases doc.resolve body with
  | error error' => rfl
  | ok resolved =>
    dsimp only
    split <;> simp

/-! ## Agreement -/

open Expansion

variable (doc : Document) {flatten : Schema → Expansion (List Field)}
  {nested : Stack → Schema → Outcome (List Field)}

/-- A call for another schema answers as the demand for that schema says. -/
theorem nestedKind_answers
    (h : ∀ schema, (flatten schema).Answers fun stack => nested stack schema) (schema : Schema)
    (repeated : Bool) :
    (do return Kind.object (← flatten schema) repeated : Expansion (Kind Field)).Answers
      fun stack =>
        Outcome.andThen (some (.ok (.nested schema repeated))) (kindFor (nested stack)) :=
  (h schema).bind fun fields => answers_pure (Kind.object fields repeated)

theorem arrayKind_answers (h : ∀ schema, (flatten schema).Answers fun stack => nested stack schema)
    (items : Option Schema) :
    (doc.arrayKind flatten items).Answers fun stack =>
      Outcome.andThen (some (doc.arrayDemand items)) (kindFor (nested stack)) := by
  cases items with
  | none => exact answers_pure (Kind.list Primitive.string)
  | some items =>
    simp only [arrayKind, arrayDemand]
    cases doc.resolve items with
    | error error => exact answers_throw error
    | ok resolved =>
      rw [settled_ok_bind]
      dsimp only
      cases scalarType resolved with
      | some type => exact answers_pure (Kind.list type)
      | none => exact nestedKind_answers h items true

theorem objectKind_answers (h : ∀ schema, (flatten schema).Answers fun stack => nested stack schema)
    (property : Schema) (additional : Option (Additional Schema)) :
    (do
      match ← doc.mapType additional with
      | some type => pure (Kind.map type)
      | none => return Kind.object (← flatten property) false : Expansion (Kind Field)).Answers
      fun stack =>
        Outcome.andThen (some (doc.objectDemand property additional)) (kindFor (nested stack)) := by
  have hobject := nestedKind_answers h property false
  unfold objectDemand mapType
  rcases additional with _ | allowed | value
  · exact hobject
  · exact hobject
  · dsimp only
    cases doc.resolve value with
    | error error => exact answers_throw error
    | ok target =>
      rw [settled_ok_bind, pure_bind]
      dsimp only
      cases scalarType target with
      | some type => exact answers_pure (Kind.map type)
      | none => exact hobject

theorem kindOf_answers (h : ∀ schema, (flatten schema).Answers fun stack => nested stack schema)
    (property resolved : Schema) :
    (doc.kindOf flatten property resolved).Answers fun stack =>
      Outcome.andThen (some (doc.demandOf property resolved)) (kindFor (nested stack)) := by
  -- the type decides on both sides, so each case settles the demand first
  unfold kindOf
  split
  · rename_i htype
    rw [demandOf_array htype]
    exact arrayKind_answers doc h resolved.items
  · rename_i htype
    rw [demandOf_object htype]
    exact objectKind_answers doc h property resolved.additional
  · rename_i other harray hobject htype
    rw [demandOf_scalar htype harray hobject]
    exact answers_pure _
  · rename_i htype
    rw [demandOf_untyped htype]
    by_cases hempty : resolved.properties.isEmpty
    · rw [if_pos hempty, if_pos hempty]
      exact answers_pure _
    · rw [if_neg hempty, if_neg hempty]
      exact nestedKind_answers h property false

theorem fieldOf_answers (h : ∀ schema, (flatten schema).Answers fun stack => nested stack schema)
    (key : String) (property : Schema) (required : List String) :
    (doc.fieldOf flatten key property (required.contains key)).Answers fun stack =>
      doc.attributeOf (nested stack) required (key, property) := by
  unfold fieldOf attributeOf demand
  cases doc.resolve property with
  | error error => exact answers_throw error
  | ok resolved =>
    rw [settled_ok_bind]
    dsimp only
    have hfield := (kindOf_answers doc h property resolved).bind fun kind =>
      answers_pure (Field.ofProperty key property resolved (required.contains key) kind)
    cases hdemand : doc.demandOf property resolved with
    | error error =>
      rw [hdemand] at hfield
      exact hfield
    | ok demand =>
      rw [hdemand] at hfield
      exact hfield

/-- **The stack is restored.** On every depth and stack, `flatten` comes to what `expand`
says and leaves the stack as it was. -/
theorem flatten_answers (depth : Nat) (schema : Schema) :
    (doc.flatten depth schema).Answers fun stack => doc.expand depth stack schema := by
  induction depth generalizing schema with
  | zero => exact answers_outOfDepth
  | succ depth ih =>
    have hentry : ∀ (required : List String) (entry : String × Schema),
        (doc.fieldOf (doc.flatten depth) entry.1 entry.2 (required.contains entry.1)).Answers
          fun stack => doc.attributeOf (doc.expand depth stack) required entry :=
      fun required entry => fieldOf_answers doc ih entry.1 entry.2 required
    simp only [expand_succ]
    unfold flatten enter
    cases doc.resolveChain schema with
    | error error => exact answers_throw error
    | ok result =>
      obtain ⟨resolved, names⟩ := result
      rw [settled_ok_bind]
      dsimp only
      refine Answers.get fun stack => ?_
      cases names.find? stack.contains with
      | some name => exact answers_throw (.recursive name) stack
      | none =>
        -- the properties are expanded on the taller stack, and the names are taken off again
        have hproperties := Answers.mapM (hentry resolved.required) resolved.properties
        exact hproperties.within names stack

/-- A body is flattened like the schema that it stands for. -/
theorem flattenBodyWithin_eq (depth : Nat) (body : Schema) :
    doc.flattenBodyWithin depth body = settled (doc.bodyTarget body) >>= doc.flatten depth := by
  unfold flattenBodyWithin
  cases htarget : doc.bodyTarget body with
  | error error =>
    rw [bodyTarget_eq_error_iff.mp htarget]
    rfl
  | ok target =>
    obtain ⟨resolved, hresolve, hcase⟩ := bodyTarget_eq_ok_iff.mp htarget
    rw [hresolve, settled_ok_bind, settled_ok_bind]
    -- an array that has items stands for them, any other body for itself
    rcases hcase with ⟨htype, hitems⟩ | ⟨hother, rfl⟩
    · rw [htype, hitems]
      rfl
    · split
      · rename_i items htype hitems
        exact absurd ⟨htype, Option.isSome_iff_exists.mpr ⟨items, hitems⟩⟩ hother
      · rfl

theorem flattenBodyWithin_answers (depth : Nat) (body : Schema) :
    (doc.flattenBodyWithin depth body).Answers fun stack => doc.expandBody depth stack body := by
  rw [flattenBodyWithin_eq]
  unfold expandBody
  cases doc.bodyTarget body with
  | error error => exact answers_throw error
  | ok target =>
    rw [settled_ok_bind]
    exact flatten_answers doc depth target

/-- What a body comes to when it is flattened is what it comes to at the bound. -/
theorem flattenBody_eq_expandBody (body : Schema) :
    doc.flattenBody body = doc.expandBody (doc.expansionBound body) [] body := by
  unfold flattenBody
  rw [flattenBodyWithin_answers doc (doc.expansionBound body) body [], Option.map_map]
  exact Option.map_id'

/-! ## Calls taken apart -/

variable {doc}

/-- A call gets past its schema if the references of the schema come to an end and pass no
component under expansion. -/
theorem enter_eq_ok_iff {stack : Stack} {schema resolved : Schema} {names : List String} :
    doc.enter stack schema = .ok (resolved, names) ↔
      doc.resolveChain schema = .ok (resolved, names) ∧ ∀ name ∈ names, name ∉ stack := by
  unfold enter
  cases hchain : doc.resolveChain schema with
  | error error => simp
  | ok result =>
    obtain ⟨resolved', names'⟩ := result
    dsimp only
    cases hfind : names'.find? stack.contains with
    | some name =>
      have hmem : name ∈ names' := List.mem_of_find?_eq_some hfind
      have hactive : name ∈ stack := by simpa using List.find?_some hfind
      constructor
      · intro h
        cases h
      · rintro ⟨h, hfresh⟩
        cases h
        exact absurd hactive (hfresh name hmem)
    | none =>
      have hfresh : ∀ name ∈ names', name ∉ stack := by simpa using List.find?_eq_none.mp hfind
      constructor
      · intro h
        cases h
        exact ⟨rfl, hfresh⟩
      · rintro ⟨h, -⟩
        cases h
        rfl

/-- A call that gets past its schema goes along a chain to its end, by way of components that
are not under expansion. -/
theorem chain_of_enter {stack : Stack} {schema resolved : Schema} {names : List String}
    (h : doc.enter stack schema = .ok (resolved, names)) :
    doc.Chain schema names resolved ∧ resolved.reference = none ∧ ∀ name ∈ names, name ∉ stack := by
  obtain ⟨hresolve, hfresh⟩ := enter_eq_ok_iff.mp h
  obtain ⟨hchain, hend, -⟩ := resolveChain_eq_ok_iff.mp hresolve
  exact ⟨hchain, hend, hfresh⟩

/-- A call does not get past its schema if the references have no end or pass a component
under expansion. -/
theorem enter_eq_error_iff {stack : Stack} {schema : Schema} {error : SchemaError} :
    doc.enter stack schema = .error error ↔
      doc.resolveChain schema = .error error ∨
        ∃ resolved names name, doc.resolveChain schema = .ok (resolved, names) ∧
          names.find? stack.contains = some name ∧ error = .recursive name := by
  unfold enter
  cases hchain : doc.resolveChain schema with
  | error error => simp
  | ok result =>
    obtain ⟨resolved, names⟩ := result
    dsimp only
    cases hfind : names.find? stack.contains with
    | some name =>
      constructor
      · intro h
        cases h
        exact Or.inr ⟨resolved, names, name, rfl, hfind, rfl⟩
      · rintro (h | ⟨resolved', names', name', h, hfind', rfl⟩)
        · cases h
        · cases h
          rw [hfind] at hfind'
          cases hfind'
          rfl
    | none =>
      constructor
      · intro h
        cases h
      · rintro (h | ⟨resolved', names', name', h, hfind', -⟩)
        · cases h
        · cases h
          rw [hfind] at hfind'
          cases hfind'

/-- A property calls for something if it resolves and what it resolves to calls for it. -/
theorem demand_eq_ok_iff {property resolved : Schema} {demand : Demand} :
    doc.demand property = .ok (resolved, demand) ↔
      doc.resolve property = .ok resolved ∧ doc.demandOf property resolved = .ok demand := by
  rw [demand_eq]
  simp only [bind_eq_ok_iff, Except.ok.injEq, Prod.mk.injEq]
  constructor
  · rintro ⟨target, hresolve, demand', hdemand, rfl, rfl⟩
    exact ⟨hresolve, hdemand⟩
  · rintro ⟨hresolve, hdemand⟩
    exact ⟨resolved, hresolve, demand, hdemand, rfl, rfl⟩

/-- A property calls for a kind of its own or for itself, unless a member of what it resolves to
decides: the items of an array, or the additional properties of an object. -/
theorem demandOf_cases (doc : Document) (property resolved : Schema) :
    (∃ kind, doc.demandOf property resolved = .ok (.leaf kind)) ∨
      doc.demandOf property resolved = .ok (.nested property false) ∨
      ∃ member leaf other,
        (doc.demandOf property resolved
          = doc.resolve member >>= fun target => .ok (Demand.ofMember leaf other target)) ∧
        (resolved.typeName = some "array" ∧ resolved.items = some member ∧
            other = .nested member true ∨
          resolved.additional = some (.schema member) ∧ other = .nested property false) := by
  unfold demandOf
  split
  · rename_i htype
    cases resolved.items with
    | none => exact Or.inl ⟨_, rfl⟩
    | some items =>
      right; right
      exact ⟨items, .list, _, doc.arrayDemand_some items, Or.inl ⟨htype, rfl, rfl⟩⟩
  · rcases resolved.additional with _ | allowed | value
    · exact Or.inr (Or.inl rfl)
    · exact Or.inr (Or.inl rfl)
    · right; right
      exact ⟨value, .map, _, doc.objectDemand_schema property value, Or.inr ⟨rfl, rfl⟩⟩
  · exact Or.inl ⟨_, rfl⟩
  · by_cases hempty : resolved.properties.isEmpty
    · rw [if_pos hempty]
      exact Or.inl ⟨_, rfl⟩
    · rw [if_neg hempty]
      exact Or.inr (Or.inl rfl)

/-- The schema that a property calls for is the property itself, or the items of the
array it resolves to. -/
theorem demand_eq_nested {property target schema : Schema} {repeated : Bool}
    (h : doc.demand property = .ok (target, .nested schema repeated)) :
    doc.resolve property = .ok target ∧
      (schema = property ∨ target.typeName = some "array" ∧ target.items = some schema) := by
  obtain ⟨hresolve, hdemand⟩ := demand_eq_ok_iff.mp h
  refine ⟨hresolve, ?_⟩
  rcases doc.demandOf_cases property target with
    ⟨kind, heq⟩ | heq | ⟨member, leaf, other, heq, hcase⟩
  · rw [heq] at hdemand
    cases hdemand
  · rw [heq] at hdemand
    cases hdemand
    exact Or.inl rfl
  · -- the member is no scalar, or it would have called for a kind
    rw [heq] at hdemand
    obtain ⟨found, -, hfound⟩ := bind_eq_ok_iff.mp hdemand
    have hother := Demand.eq_of_ofMember_eq_nested (Except.ok.inj hfound)
    rcases hcase with ⟨htype, hitems, rfl⟩ | ⟨-, rfl⟩
    · cases hother
      exact Or.inr ⟨htype, hitems⟩
    · cases hother
      exact Or.inl rfl

/-- What a property calls for is an error only if a child of what it resolves to does not
resolve. -/
theorem demandOf_eq_error {property resolved : Schema} {error : SchemaError}
    (h : doc.demandOf property resolved = .error error) :
    ∃ child, (resolved.items = some child ∨ resolved.additional = some (.schema child)) ∧
      doc.resolve child = .error error := by
  rcases doc.demandOf_cases property resolved with
    ⟨kind, heq⟩ | heq | ⟨member, leaf, other, heq, hcase⟩
  · rw [heq] at h
    cases h
  · rw [heq] at h
    cases h
  · rw [heq] at h
    have hchild : resolved.items = some member ∨ resolved.additional = some (.schema member) :=
      hcase.imp (fun harray => harray.2.1) fun hobject => hobject.1
    rcases bind_eq_error_iff.mp h with hmember | ⟨found, -, hfound⟩
    · exact ⟨member, hchild, hmember⟩
    · cases hfound

/-- A property calls for an error if it does not resolve, or what it resolves to calls for it. -/
theorem demand_eq_error_iff {property : Schema} {error : SchemaError} :
    doc.demand property = .error error ↔
      doc.resolve property = .error error ∨
        ∃ resolved, doc.resolve property = .ok resolved ∧
          doc.demandOf property resolved = .error error := by
  rw [demand_eq]
  simp only [bind_eq_error_iff]
  constructor
  · rintro (hresolve | ⟨resolved, hresolve, hdemand | ⟨demand, -, hnone⟩⟩)
    · exact Or.inl hresolve
    · exact Or.inr ⟨resolved, hresolve, hdemand⟩
    · cases hnone
  · rintro (hresolve | ⟨resolved, hresolve, hdemand⟩)
    · exact Or.inl hresolve
    · exact Or.inr ⟨resolved, hresolve, Or.inl hdemand⟩

section

variable {nested : Schema → Outcome (List Field)} {required : List String}
  {entry : String × Schema}

/-- A property fails by itself or by the one call it leads to. -/
theorem attributeOf_eq_failed_iff {why : Option SchemaError} :
    doc.attributeOf nested required entry = Outcome.failed why ↔
      (∃ error, doc.demand entry.2 = .error error ∧ why = some error) ∨
        ∃ resolved schema repeated, doc.demand entry.2 = .ok (resolved, .nested schema repeated) ∧
          nested schema = Outcome.failed why := by
  unfold attributeOf
  cases doc.demand entry.2 with
  | error error => simp [Outcome.error_eq_failed_iff]
  | ok result =>
    obtain ⟨resolved, demand⟩ := result
    cases demand with
    | leaf kind => simp [kindFor]
    | nested schema repeated =>
      simp only [kindFor, Outcome.andThen_eq_failed_iff, Outcome.andThen_eq_ok_iff]
      simp

/-- A property has an attribute if its demand has a kind. -/
theorem attributeOf_eq_ok_iff {field : Field} :
    doc.attributeOf nested required entry = some (.ok field) ↔
      ∃ resolved demand kind, doc.demand entry.2 = .ok (resolved, demand) ∧
        kindFor nested demand = some (.ok kind) ∧
        field = Field.ofProperty entry.1 entry.2 resolved (required.contains entry.1) kind := by
  unfold attributeOf
  cases doc.demand entry.2 with
  | error error => simp
  | ok result =>
    obtain ⟨resolved, demand⟩ := result
    simp only [Outcome.andThen_eq_ok_iff, Option.some.injEq, Except.ok.injEq]
    constructor
    · rintro ⟨kind, hkind, rfl⟩
      exact ⟨resolved, demand, kind, rfl, hkind, rfl⟩
    · rintro ⟨resolved', demand', kind, h, hkind, rfl⟩
      cases h
      exact ⟨kind, hkind, rfl⟩

end

/-- A call fails by itself or by a property that it reaches. -/
theorem expand_succ_eq_failed_iff {depth : Nat} {stack : Stack} {schema : Schema}
    {why : Option SchemaError} :
    doc.expand (depth + 1) stack schema = Outcome.failed why ↔
      (∃ error, doc.enter stack schema = .error error ∧ why = some error) ∨
        ∃ resolved names entry, doc.enter stack schema = .ok (resolved, names) ∧
          Outcome.Reached (doc.attributeOf (doc.expand depth (stack ++ names)) resolved.required)
            resolved.properties entry ∧
          doc.attributeOf (doc.expand depth (stack ++ names)) resolved.required entry
            = Outcome.failed why := by
  rw [expand]
  cases doc.enter stack schema with
  | error error => simp [Outcome.error_eq_failed_iff]
  | ok result =>
    obtain ⟨resolved, names⟩ := result
    simp [Outcome.collect_eq_failed_iff]

/-- A call comes to one attribute for each property, in order. -/
theorem expand_succ_eq_ok_iff {depth : Nat} {stack : Stack} {schema : Schema}
    {fields : List Field} :
    doc.expand (depth + 1) stack schema = some (.ok fields) ↔
      ∃ resolved names, doc.enter stack schema = .ok (resolved, names) ∧
        List.Forall₂ (fun entry field =>
            doc.attributeOf (doc.expand depth (stack ++ names)) resolved.required entry
              = some (.ok field))
          resolved.properties fields := by
  rw [expand]
  cases doc.enter stack schema with
  | error error => simp
  | ok result =>
    obtain ⟨resolved, names⟩ := result
    simp [Outcome.collect_eq_ok_iff]

/-! ## More depth -/

/-- More depth for further calls changes no outcome of a property. -/
theorem attributeOf_extends {nested nested' : Schema → Outcome (List Field)}
    (h : Outcome.Extends nested' nested) (required : List String) :
    Outcome.Extends (doc.attributeOf nested' required) (doc.attributeOf nested required) := by
  rintro entry (error | field) hresult
  · rw [← Outcome.failed_some, attributeOf_eq_failed_iff] at hresult ⊢
    rcases hresult with hdemand | ⟨resolved, schema, repeated, hdemand, hnested⟩
    · exact Or.inl hdemand
    · exact Or.inr ⟨resolved, schema, repeated, hdemand, h schema _ hnested⟩
  · obtain ⟨resolved, demand, kind, hdemand, hkind, rfl⟩ := attributeOf_eq_ok_iff.mp hresult
    refine attributeOf_eq_ok_iff.mpr ⟨resolved, demand, kind, hdemand, ?_, rfl⟩
    cases demand with
    | leaf kind' => exact hkind
    | nested schema repeated =>
      obtain ⟨fields, hfields, hkind⟩ := Outcome.andThen_eq_ok_iff.mp hkind
      exact Outcome.andThen_eq_ok_iff.mpr ⟨fields, h schema _ hfields, hkind⟩

/-- More depth changes no outcome of a call. -/
theorem expand_extends {depth depth' : Nat} (hle : depth ≤ depth') (stack : Stack) :
    Outcome.Extends (doc.expand depth' stack) (doc.expand depth stack) := by
  induction depth generalizing depth' stack with
  | zero => intro schema outcome h; cases h
  | succ depth ih =>
    obtain ⟨fewer, rfl⟩ : ∃ fewer, depth' = fewer + 1 := ⟨depth' - 1, by omega⟩
    intro schema outcome h
    rw [expand] at h ⊢
    cases henter : doc.enter stack schema with
    | error error =>
      rw [henter] at h
      exact h
    | ok result =>
      obtain ⟨resolved, names⟩ := result
      rw [henter] at h
      exact (attributeOf_extends (ih (by omega) (stack ++ names)) resolved.required).collect _ _ h

/-- More depth changes no outcome of a body. -/
theorem expandBody_extends {depth depth' : Nat} (hle : depth ≤ depth') (stack : Stack) :
    Outcome.Extends (doc.expandBody depth' stack) (doc.expandBody depth stack) := by
  intro body outcome h
  unfold expandBody at h ⊢
  cases htarget : doc.bodyTarget body with
  | error error =>
    rw [htarget] at h
    exact h
  | ok target =>
    rw [htarget] at h
    exact expand_extends hle stack target outcome h

end Document

end ProviderGen
