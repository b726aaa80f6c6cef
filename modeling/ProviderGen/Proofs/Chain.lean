/-
Chains of references, apart from the function that follows them.

A chain is a sequence of components: the first is the one a schema refers to, and each
of the others is the one its predecessor refers to. The chain that a schema starts is
settled by the document, so a component cannot stand in it twice and the chain still
come to an end: what follows the component would follow it again. The bound on the
number of hops plays no part in this, and `resolveChain_eq_ok_iff` says what part it
does play: `resolveChain` comes to the end of a chain exactly when the chain is no
longer than the bound.
-/
import ProviderGen.Document.Reference
import Mathlib.Data.List.Basic

set_option autoImplicit false

namespace ProviderGen

namespace Document

variable {doc : Document}

/-! ## Reference paths -/

/-- A path names a component exactly when it is the prefix followed by the name. -/
theorem referenceName?_eq_some_iff {path name : String} :
    referenceName? path = some name ↔ path = referencePrefix ++ name := by
  unfold referenceName?
  constructor
  · intro h
    split at h
    · rename_i hpre
      obtain ⟨rest, hrest⟩ := List.isPrefixOf_iff_prefix.mp hpre
      have hname : rest = name.toList := by
        rw [← hrest, List.drop_left] at h
        rw [← Option.some.inj h, String.toList_ofList]
      apply String.toList_inj.mp
      rw [String.toList_append, ← hrest, hname]
    · cases h
  · rintro rfl
    rw [String.toList_append, if_pos (List.isPrefixOf_iff_prefix.mpr (List.prefix_append _ _)),
      List.drop_left, String.ofList_toList]

/-! ## Chains -/

/-- A chain: following references from a schema passes some components, in order, and
comes to a schema. It need not have come to its end there. -/
inductive Chain (doc : Document) : Schema → List String → Schema → Prop
  | stop (schema : Schema) : Chain doc schema [] schema
  | hop {schema component last : Schema} {name : String} {names : List String} :
      schema.reference = some (referencePrefix ++ name) →
      doc.component? name = some component →
      Chain doc component names last →
      Chain doc schema (name :: names) last

/-- A chain without hops stays where it starts. -/
theorem Chain.eq_of_nil {schema last : Schema} (h : doc.Chain schema [] last) : last = schema := by
  cases h
  rfl

/-- The chain of a schema that is no reference is empty. -/
theorem Chain.of_reference_none {schema last : Schema} {names : List String}
    (h : doc.Chain schema names last) (hnone : schema.reference = none) :
    names = [] ∧ last = schema := by
  cases h with
  | stop => exact ⟨rfl, rfl⟩
  | hop href _ _ => rw [hnone] at href; cases href

/-- The end of a chain, and the chain up to it, are settled by where it starts. -/
theorem Chain.unique {schema r q : Schema} {names others : List String}
    (h : doc.Chain schema names r) (hr : r.reference = none)
    (k : doc.Chain schema others q) (hq : q.reference = none) :
    names = others ∧ r = q := by
  -- on the first chain; the second one makes the same hop, since the reference names one component
  induction h generalizing others with
  | stop =>
    obtain ⟨rfl, rfl⟩ := k.of_reference_none hr
    exact ⟨rfl, rfl⟩
  | @hop _ component _ name _ href hcomp _ ih =>
    cases k with
    | stop => rw [hq] at href; cases href
    | @hop _ component' _ name' _ href' hcomp' rest =>
      have hname : name = name' := by
        rw [href, Option.some.injEq, String.append_right_inj] at href'
        exact href'
      subst hname
      rw [hcomp, Option.some.injEq] at hcomp'
      subst hcomp'
      obtain ⟨hnames, hlast⟩ := ih hr rest
      exact ⟨by rw [hnames], hlast⟩

/-- Behind each of its components a chain goes on as the chain of that component. -/
theorem Chain.from_mem {schema last : Schema} {names : List String} {name : String}
    (h : doc.Chain schema names last) (hmem : name ∈ names) :
    ∃ component rest, doc.component? name = some component ∧ doc.Chain component rest last ∧
      rest.length < names.length := by
  induction h with
  | stop => cases hmem
  | @hop _ component _ _ names _ hcomp rest ih =>
    rcases List.mem_cons.mp hmem with rfl | hlater
    · exact ⟨component, names, hcomp, rest, by simp⟩
    · -- further along, the rest is shorter still
      obtain ⟨later, rest', hlater', hchain, hlt⟩ := ih hlater
      exact ⟨later, rest', hlater', hchain, by rw [List.length_cons]; omega⟩

/-- A schema that no chain goes on from: it refers to no component of the document. -/
def Final (doc : Document) (schema : Schema) : Prop :=
  ∀ name component, schema.reference = some (referencePrefix ++ name) →
    doc.component? name ≠ some component

/-- A schema that is no reference is one that no chain goes on from. -/
theorem final_of_reference_none {schema : Schema} (h : schema.reference = none) :
    doc.Final schema := by
  intro name component href
  rw [h] at href
  cases href

/-- Where a chain cannot go on it is the longest chain of its schema: all others are its
beginnings. -/
theorem Chain.prefix_of_final {schema last q : Schema} {names others : List String}
    (h : doc.Chain schema names last) (hlast : doc.Final last) (k : doc.Chain schema others q) :
    others <+: names := by
  induction h generalizing others with
  | stop =>
    cases k with
    | stop => exact List.nil_prefix
    | hop href hcomp _ => exact absurd hcomp (hlast _ _ href)
  | @hop _ component _ name _ href hcomp _ ih =>
    cases k with
    | stop => exact List.nil_prefix
    | @hop _ component' _ name' _ href' hcomp' rest =>
      -- a reference names one component, so both chains make the same hop
      have hname : name = name' := by
        rw [href, Option.some.injEq, String.append_right_inj] at href'
        exact href'
      subst hname
      rw [hcomp, Option.some.injEq] at hcomp'
      subst hcomp'
      exact List.cons_prefix_cons.mpr ⟨rfl, ih hlast rest⟩

/-- No component stands twice in a chain that cannot go on. -/
theorem Chain.nodup_of_final {schema last : Schema} {names : List String}
    (h : doc.Chain schema names last) (hlast : doc.Final last) : names.Nodup := by
  induction h with
  | stop => exact List.nodup_nil
  | @hop _ component _ name names _ hcomp rest ih =>
    refine List.nodup_cons.mpr ⟨?_, ih hlast⟩
    intro hagain
    -- the chain behind the second passage is shorter than the one behind the first
    obtain ⟨component', others, hcomp', hchain, hlt⟩ := rest.from_mem hagain
    rw [hcomp, Option.some.injEq] at hcomp'
    subst hcomp'
    have hle := (hchain.prefix_of_final hlast rest).length_le
    omega

/-- No component stands twice in a chain that comes to its end. -/
theorem Chain.nodup {schema last : Schema} {names : List String}
    (h : doc.Chain schema names last) (hend : last.reference = none) : names.Nodup :=
  h.nodup_of_final (final_of_reference_none hend)

/-- Two chains one after the other are one chain. -/
theorem Chain.trans {schema between last : Schema} {names more : List String}
    (h : doc.Chain schema names between) (k : doc.Chain between more last) :
    doc.Chain schema (names ++ more) last := by
  induction h with
  | stop => exact k
  | hop href hcomp _ ih => exact .hop href hcomp (ih k)

/-- The components of a chain are components of the document. -/
theorem Chain.defined {schema last : Schema} {names : List String} {name : String}
    (h : doc.Chain schema names last) (hmem : name ∈ names) :
    ∃ component, doc.component? name = some component := by
  obtain ⟨component, -, hcomp, -, -⟩ := h.from_mem hmem
  exact ⟨component, hcomp⟩

/-- A chain of at least one hop ends in a component, the last of its names. -/
theorem Chain.last_component {schema last : Schema} {names : List String}
    (h : doc.Chain schema names last) (hne : names ≠ []) :
    ∃ name ∈ names, doc.component? name = some last := by
  induction h with
  | stop => exact absurd rfl hne
  | @hop _ component _ name names _ hcomp rest ih =>
    by_cases hnil : names = []
    · subst hnil
      cases rest
      exact ⟨name, by simp, hcomp⟩
    · obtain ⟨later, hmem, hlater⟩ := ih hnil
      exact ⟨later, List.mem_cons_of_mem _ hmem, hlater⟩

/-! ## Following a chain -/

/-- A schema that is no reference is followed to itself. -/
theorem follow_of_reference_none {hops : Nat} {schema : Schema} (h : schema.reference = none) :
    doc.follow hops schema = .ok (schema, []) := by
  unfold follow
  rw [h]

/-- A reference to a component is followed to where the component is followed to. -/
theorem follow_succ (hops : Nat) {schema component : Schema} {name : String}
    (href : schema.reference = some (referencePrefix ++ name))
    (hcomp : doc.component? name = some component) :
    doc.follow (hops + 1) schema
      = (doc.follow hops component).map fun (resolved, names) => (resolved, name :: names) := by
  rw [follow, href]
  simp only [referenceName?_eq_some_iff.mpr rfl, hcomp]
  cases doc.follow hops component <;> rfl

/-- Without hops a reference is not followed. -/
theorem follow_zero {schema : Schema} {path : String} (href : schema.reference = some path) :
    doc.follow 0 schema = .error (.chainTooLong path) := by
  rw [follow, href]

/-- A reference that names no component schema is not followed. -/
theorem follow_succ_unsupported (hops : Nat) {schema : Schema} {path : String}
    (href : schema.reference = some path) (hname : referenceName? path = none) :
    doc.follow (hops + 1) schema = .error (.unsupported path) := by
  rw [follow, href]
  simp only [hname]

/-- A reference to a component that the document does not have is not followed. -/
theorem follow_succ_unresolved (hops : Nat) {schema : Schema} {path name : String}
    (href : schema.reference = some path) (hname : referenceName? path = some name)
    (hcomp : doc.component? name = none) :
    doc.follow (hops + 1) schema = .error (.unresolved path) := by
  rw [follow, href]
  simp only [hname, hcomp]

/-- What following a schema comes to, and in which of the ways: the schema is the end, it is a
reference that leads nowhere, or it leads to a component and that decides. -/
inductive FollowStep (doc : Document) :
    Nat → Schema → Except SchemaError (Schema × List String) → Prop
  | atEnd {hops : Nat} {schema : Schema} :
      schema.reference = none → FollowStep doc hops schema (.ok (schema, []))
  | tooLong {schema : Schema} {path : String} :
      schema.reference = some path → FollowStep doc 0 schema (.error (.chainTooLong path))
  | unsupported {hops : Nat} {schema : Schema} {path : String} :
      schema.reference = some path → referenceName? path = none →
      FollowStep doc (hops + 1) schema (.error (.unsupported path))
  | unresolved {hops : Nat} {schema : Schema} {path name : String} :
      schema.reference = some path → referenceName? path = some name →
      doc.component? name = none → FollowStep doc (hops + 1) schema (.error (.unresolved path))
  | hop {hops : Nat} {schema component resolved : Schema} {name : String} {names : List String} :
      schema.reference = some (referencePrefix ++ name) → doc.component? name = some component →
      doc.follow hops component = .ok (resolved, names) →
      FollowStep doc (hops + 1) schema (.ok (resolved, name :: names))
  | hopError {hops : Nat} {schema component : Schema} {name : String} {error : SchemaError} :
      schema.reference = some (referencePrefix ++ name) → doc.component? name = some component →
      doc.follow hops component = .error error → FollowStep doc (hops + 1) schema (.error error)

/-- Following a schema goes one of these ways. -/
theorem follow_step {hops : Nat} {schema : Schema}
    {result : Except SchemaError (Schema × List String)}
    (h : doc.follow hops schema = result) : doc.FollowStep hops schema result := by
  subst h
  cases href : schema.reference with
  | none =>
    rw [follow_of_reference_none href]
    exact .atEnd href
  | some path =>
    cases hops with
    | zero =>
      rw [follow_zero href]
      exact .tooLong href
    | succ hops =>
      cases hname : referenceName? path with
      | none =>
        rw [follow_succ_unsupported hops href hname]
        exact .unsupported href hname
      | some name =>
        cases hcomp : doc.component? name with
        | none =>
          rw [follow_succ_unresolved hops href hname hcomp]
          exact .unresolved href hname hcomp
        | some component =>
          -- from here on the component decides
          rw [referenceName?_eq_some_iff.mp hname] at href
          rw [follow_succ hops href hcomp]
          cases hrest : doc.follow hops component with
          | ok result => exact .hop href hcomp hrest
          | error error => exact .hopError href hcomp hrest

/-- Following goes along a chain and on from where the chain is, with the hops that are left. -/
theorem follow_of_chain {schema last : Schema} {names : List String}
    (h : doc.Chain schema names last) (rest : Nat) :
    doc.follow (names.length + rest) schema =
      (doc.follow rest last).map fun (resolved, more) => (resolved, names ++ more) := by
  induction h with
  | stop =>
    rw [List.length_nil, Nat.zero_add]
    cases doc.follow rest _ <;> rfl
  | @hop _ component last name names href hcomp _ ih =>
    rw [List.length_cons, Nat.add_right_comm, follow_succ _ href hcomp, ih]
    cases doc.follow rest last <;> rfl

/-- Following comes to the end of a chain of at most the given number of hops. -/
theorem follow_eq_ok_iff {hops : Nat} {schema resolved : Schema} {names : List String} :
    doc.follow hops schema = .ok (resolved, names) ↔
      doc.Chain schema names resolved ∧ resolved.reference = none ∧ names.length ≤ hops := by
  constructor
  · intro h
    induction hops generalizing schema names with
    | zero =>
      cases follow_step h with
      | atEnd hend => exact ⟨.stop _, hend, Nat.le_refl _⟩
    | succ hops ih =>
      cases follow_step h with
      | atEnd hend => exact ⟨.stop _, hend, Nat.zero_le _⟩
      | hop href hcomp hrest =>
        obtain ⟨hchain, hend, hle⟩ := ih hrest
        exact ⟨.hop href hcomp hchain, hend, Nat.succ_le_succ hle⟩
  · rintro ⟨hchain, hend, hle⟩
    obtain ⟨rest, rfl⟩ := Nat.exists_eq_add_of_le hle
    rw [follow_of_chain hchain, follow_of_reference_none hend]
    simp only [Except.map, List.append_nil]

/-- Where following a chain breaks off, and with which error: the hops are used up at a
reference, or with hops left a reference names no component schema, or one that the document
does not have. -/
inductive BreaksOff (doc : Document) (hops : Nat) (schema : Schema) : SchemaError → Prop
  | tooLong {names : List String} {last : Schema} {path : String} :
      doc.Chain schema names last → last.reference = some path → names.length = hops →
      BreaksOff doc hops schema (.chainTooLong path)
  | unsupported {names : List String} {last : Schema} {path : String} :
      doc.Chain schema names last → last.reference = some path →
      (∀ name, path ≠ referencePrefix ++ name) → names.length < hops →
      BreaksOff doc hops schema (.unsupported path)
  | unresolved {names : List String} {last : Schema} {name : String} :
      doc.Chain schema names last → last.reference = some (referencePrefix ++ name) →
      doc.component? name = none → names.length < hops →
      BreaksOff doc hops schema (.unresolved (referencePrefix ++ name))

/-- What breaks off behind a hop breaks off before it, with one hop more. -/
theorem BreaksOff.hop {hops : Nat} {schema component : Schema} {name : String}
    {error : SchemaError} (h : doc.BreaksOff hops component error)
    (href : schema.reference = some (referencePrefix ++ name))
    (hcomp : doc.component? name = some component) : doc.BreaksOff (hops + 1) schema error := by
  cases h with
  | tooLong hchain hlast hlength =>
    exact .tooLong (.hop href hcomp hchain) hlast (congrArg Nat.succ hlength)
  | unsupported hchain hlast hpath hlt =>
    exact .unsupported (.hop href hcomp hchain) hlast hpath (Nat.succ_lt_succ hlt)
  | unresolved hchain hlast hnone hlt =>
    exact .unresolved (.hop href hcomp hchain) hlast hnone (Nat.succ_lt_succ hlt)

/-- Following breaks off at the place, and with the error, that the chain says. -/
theorem follow_eq_error_iff {hops : Nat} {schema : Schema} {error : SchemaError} :
    doc.follow hops schema = .error error ↔ doc.BreaksOff hops schema error := by
  constructor
  · intro h
    induction hops generalizing schema with
    | zero =>
      cases follow_step h with
      | tooLong href => exact .tooLong (.stop _) href rfl
    | succ hops ih =>
      cases follow_step h with
      | unsupported href hname =>
        refine .unsupported (.stop _) href ?_ (Nat.succ_pos _)
        rintro name rfl
        rw [referenceName?_eq_some_iff.mpr rfl] at hname
        cases hname
      | unresolved href hname hcomp =>
        obtain rfl := referenceName?_eq_some_iff.mp hname
        exact .unresolved (.stop _) href hcomp (Nat.succ_pos _)
      | hopError href hcomp hrest => exact (ih hrest).hop href hcomp
  · -- along the chain, and there the next step is the one that fails
    intro h
    cases h with
    | tooLong hchain hlast hlength =>
      rw [← hlength, ← Nat.add_zero (List.length _), follow_of_chain hchain, follow_zero hlast]
      rfl
    | @unsupported _ _ path hchain hlast hpath hlt =>
      obtain ⟨rest, rfl⟩ := Nat.exists_eq_add_of_lt hlt
      have hname : referenceName? path = none := by
        rw [Option.eq_none_iff_forall_ne_some]
        exact fun name hname => hpath name (referenceName?_eq_some_iff.mp hname)
      rw [Nat.add_assoc, follow_of_chain hchain, follow_succ_unsupported rest hlast hname]
      rfl
    | @unresolved _ _ name hchain hlast hnone hlt =>
      obtain ⟨rest, rfl⟩ := Nat.exists_eq_add_of_lt hlt
      have hname : referenceName? (referencePrefix ++ name) = some name :=
        referenceName?_eq_some_iff.mpr rfl
      rw [Nat.add_assoc, follow_of_chain hchain, follow_succ_unresolved rest hlast hname hnone]
      rfl

/-- A chain is followed to its end if each of its references names a component and the
bound is not passed on the way. -/
theorem exists_follow_eq_ok {hops : Nat} {schema : Schema}
    (hshort : ∀ names last, doc.Chain schema names last → names.length ≤ hops)
    (hdefined : ∀ names last path, doc.Chain schema names last → last.reference = some path →
      ∃ name component, path = referencePrefix ++ name ∧ doc.component? name = some component) :
    ∃ resolved names, doc.follow hops schema = .ok (resolved, names) := by
  cases hfollow : doc.follow hops schema with
  | ok result => exact ⟨result.1, result.2, rfl⟩
  | error error =>
    -- at no place of the chain can it break off
    exfalso
    cases follow_eq_error_iff.mp hfollow with
    | tooLong hchain hlast hlength =>
      obtain ⟨name, component, rfl, hcomp⟩ := hdefined _ _ _ hchain hlast
      have hlong := hshort _ _ (hchain.trans (.hop hlast hcomp (.stop component)))
      rw [List.length_append, List.length_singleton] at hlong
      omega
    | unsupported hchain hlast hpath _ =>
      obtain ⟨name, component, hname, -⟩ := hdefined _ _ _ hchain hlast
      exact hpath name hname
    | unresolved hchain hlast hnone _ =>
      obtain ⟨name, component, hname, hcomp⟩ := hdefined _ _ _ hchain hlast
      rw [String.append_right_inj] at hname
      rw [← hname, hnone] at hcomp
      cases hcomp

/-! ## Resolving -/

/-- Resolving comes to the end of a chain exactly when the chain is within the bound. -/
theorem resolveChain_eq_ok_iff {schema resolved : Schema} {names : List String} :
    doc.resolveChain schema = .ok (resolved, names) ↔
      doc.Chain schema names resolved ∧ resolved.reference = none ∧ names.length ≤ maxHops :=
  follow_eq_ok_iff

/-- Resolving fails exactly where and as the chain breaks off within the bound. -/
theorem resolveChain_eq_error_iff {schema : Schema} {error : SchemaError} :
    doc.resolveChain schema = .error error ↔ doc.BreaksOff maxHops schema error :=
  follow_eq_error_iff

/-- The chain of a schema that is no reference ends at once. -/
theorem resolveChain_of_reference_none {schema : Schema} (h : schema.reference = none) :
    doc.resolveChain schema = .ok (schema, []) :=
  follow_of_reference_none h

/-- What a schema resolves to is where its chain ends. -/
theorem resolve_eq_ok_iff {schema resolved : Schema} :
    doc.resolve schema = .ok resolved ↔
      ∃ names, doc.resolveChain schema = .ok (resolved, names) := by
  unfold resolve
  cases doc.resolveChain schema with
  | error _ => simp
  | ok result =>
    obtain ⟨last, names⟩ := result
    constructor
    · intro h
      cases h
      exact ⟨names, rfl⟩
    · rintro ⟨names', h⟩
      cases h
      rfl

/-- Resolving goes along a chain to its end. -/
theorem exists_chain_of_resolve {schema resolved : Schema}
    (h : doc.resolve schema = .ok resolved) :
    ∃ names, doc.Chain schema names resolved ∧ resolved.reference = none := by
  obtain ⟨names, hresolve⟩ := resolve_eq_ok_iff.mp h
  obtain ⟨hchain, hend, -⟩ := resolveChain_eq_ok_iff.mp hresolve
  exact ⟨names, hchain, hend⟩

/-- A schema that is no reference resolves to itself. -/
theorem resolve_of_reference_none {schema : Schema} (h : schema.reference = none) :
    doc.resolve schema = .ok schema :=
  resolve_eq_ok_iff.mpr ⟨[], resolveChain_of_reference_none h⟩

/-- What a schema resolves to fails as its chain does. -/
theorem resolve_eq_error_iff {schema : Schema} {error : SchemaError} :
    doc.resolve schema = .error error ↔ doc.resolveChain schema = .error error := by
  unfold resolve
  cases doc.resolveChain schema with
  | error _ => simp
  | ok result => constructor <;> intro h <;> cases h

end Document

end ProviderGen
