/-
What a chain of references comes to, exactly.

A schema resolves if its chain comes to an end within 32 hops, and where it does not, the chain says
which error there is. The bound is also what stops a circle of aliases, that is, of components that
are nothing but references to one another: a chain that goes round such a circle passes a component
twice, and no chain that cannot go on does that (`Chain.nodup_of_final`). So it never breaks off at
a reference that leads nowhere, and it is left with the error that it is too long, wherever it
enters the circle and however long that is.
-/
import ProviderGen.Proofs.Chain
import ProviderGen.Proofs.Expansion
import ProviderGen.Resource.Discovery
import Mathlib.Logic.Relation

set_option autoImplicit false

namespace ProviderGen

open Relation

namespace Document

variable {doc : Document}

/-! ## Aliases -/

/-- The component with the one name is a reference to the component with the other name. -/
def Alias (doc : Document) (name next : String) : Prop :=
  ∃ component, doc.component? name = some component ∧
    component.reference = some (referencePrefix ++ next)

/-- A chain of aliases is a chain between the components at its two ends, and it passes the last
one. -/
theorem exists_chain_of_transGen {name other : String} (h : TransGen doc.Alias name other)
    {first last : Schema} (hfirst : doc.component? name = some first)
    (hlast : doc.component? other = some last) :
    ∃ names, doc.Chain first names last ∧ other ∈ names := by
  induction h generalizing last with
  | single hstep =>
    obtain ⟨component, hcomp, href⟩ := hstep
    rw [hfirst, Option.some.injEq] at hcomp
    subst hcomp
    exact ⟨_, .hop href hlast (.stop last), List.mem_singleton.mpr rfl⟩
  | @tail between other _ hstep ih =>
    obtain ⟨component, hcomp, href⟩ := hstep
    obtain ⟨names, hchain, -⟩ := ih hcomp
    refine ⟨names ++ [other], hchain.trans (.hop href hlast (.stop last)), ?_⟩
    exact List.mem_append_right names (List.mem_singleton.mpr rfl)

/-- A reference from which aliases lead on to a component starts a chain to that component, and
the chain passes it. -/
theorem exists_chain_of_reference {schema component : Schema} {start name : String}
    (href : schema.reference = some (referencePrefix ++ start))
    (h : ReflTransGen doc.Alias start name) (hcomp : doc.component? name = some component) :
    ∃ names, doc.Chain schema names component ∧ name ∈ names := by
  rcases reflTransGen_iff_eq_or_transGen.mp h with rfl | htrans
  · exact ⟨_, .hop href hcomp (.stop component), List.mem_singleton.mpr rfl⟩
  · obtain ⟨between, hstep, -⟩ := TransGen.head'_iff.mp htrans
    obtain ⟨first, hfirst, -⟩ := hstep
    obtain ⟨names, hchain, hmem⟩ := exists_chain_of_transGen htrans hfirst hcomp
    exact ⟨start :: names, .hop href hfirst hchain, List.mem_cons_of_mem start hmem⟩

/-- A chain that gets into a circle of aliases passes a component twice. -/
theorem exists_chain_not_nodup {schema : Schema} {start name : String}
    (href : schema.reference = some (referencePrefix ++ start))
    (hreach : ReflTransGen doc.Alias start name) (hcircle : TransGen doc.Alias name name) :
    ∃ names last, doc.Chain schema names last ∧ ¬ names.Nodup := by
  obtain ⟨between, hstep, -⟩ := TransGen.head'_iff.mp hcircle
  obtain ⟨component, hcomp, -⟩ := hstep
  obtain ⟨names, hchain, hmem⟩ := exists_chain_of_reference href hreach hcomp
  -- once round the circle, and the chain is where it has been
  obtain ⟨round, hround, hagain⟩ := exists_chain_of_transGen hcircle hcomp hcomp
  refine ⟨names ++ round, component, hchain.trans hround, ?_⟩
  intro hnodup
  exact (List.nodup_append.mp hnodup).2.2 name hmem name hagain rfl

/-! ## Circles -/

/-- A reference that names no component schema leads nowhere. -/
theorem final_of_unsupported {schema : Schema} {path : String}
    (href : schema.reference = some path) (hpath : ∀ name, path ≠ referencePrefix ++ name) :
    doc.Final schema := by
  intro name component hname
  rw [href, Option.some.injEq] at hname
  exact absurd hname (hpath name)

/-- A reference to a component that the document does not have leads nowhere. -/
theorem final_of_unresolved {schema : Schema} {name : String}
    (href : schema.reference = some (referencePrefix ++ name))
    (hnone : doc.component? name = none) : doc.Final schema := by
  intro other component hother
  rw [href, Option.some.injEq, String.append_right_inj] at hother
  rw [← hother, hnone]
  exact Option.some_ne_none component |>.symm

/-- Where a chain passes a component twice, no chain of its schema comes to a place where it
cannot go on. -/
theorem Chain.not_final {schema last q : Schema} {names others : List String}
    (h : doc.Chain schema names last) (htwice : ¬ names.Nodup)
    (k : doc.Chain schema others q) : ¬ doc.Final q := by
  intro hfinal
  apply htwice
  have hprefix : names <+: others := k.prefix_of_final hfinal h
  exact (k.nodup_of_final hfinal).sublist hprefix.sublist

/-- A chain that passes a component twice is too long. -/
theorem Chain.tooLong {schema last : Schema} {names : List String}
    (h : doc.Chain schema names last) (htwice : ¬ names.Nodup) :
    ∃ path, doc.resolveChain schema = .error (.chainTooLong path) := by
  cases hresolve : doc.resolveChain schema with
  | ok result =>
    obtain ⟨hchain, hend, -⟩ := resolveChain_eq_ok_iff.mp hresolve
    exact absurd (final_of_reference_none hend) (h.not_final htwice hchain)
  | error error =>
    -- the two other errors are found at places where the chain cannot go on
    cases resolveChain_eq_error_iff.mp hresolve with
    | tooLong => exact ⟨_, rfl⟩
    | unsupported hchain hlast hpath _ =>
      exact absurd (final_of_unsupported hlast hpath) (h.not_final htwice hchain)
    | unresolved hchain hlast hnone _ =>
      exact absurd (final_of_unresolved hlast hnone) (h.not_final htwice hchain)

/-! ## The main statement -/

/-- A body that does not resolve is a fault of the input, and the error of its chain tells it. -/
theorem shape_eq_error_of_resolveChain {schema : Schema} {error : SchemaError}
    (h : doc.resolveChain schema = .error error) :
    doc.shape (some schema) = .error (.input (.schema error)) := by
  have htarget : doc.bodyTarget schema = .error error :=
    bodyTarget_eq_error_iff.mpr (resolve_eq_error_iff.mpr h)
  have hbody : doc.flattenBody schema = some (.error error) := by
    rw [flattenBody_eq_expandBody, expandBody, htarget]
  rw [shape, hbody]

/-- **References are followed exactly.** A schema resolves just if its chain comes to a schema
that is no reference within 32 hops; it resolves to that schema, and the names are the components
that the chain passes, in order and each of them once. Otherwise there is an error, which is one
of the input: it tells the place where the chain breaks off. A chain that gets into a circle of
aliases, at whatever component and however many there are, is too long. -/
theorem resolveChain_exact (doc : Document) (schema : Schema) :
    (∀ resolved names, doc.resolveChain schema = .ok (resolved, names) ↔
      doc.Chain schema names resolved ∧ resolved.reference = none ∧ names.length ≤ 32) ∧
    (∀ resolved names, doc.resolveChain schema = .ok (resolved, names) →
      names.Nodup ∧ names.length ≤ 32) ∧
    ((¬ ∃ resolved names, doc.Chain schema names resolved ∧ resolved.reference = none ∧
        names.length ≤ 32) →
      ∃ error, doc.resolveChain schema = .error error ∧
        doc.shape (some schema) = .error (.input (.schema error))) ∧
    (∀ error, doc.resolveChain schema = .error error ↔ doc.BreaksOff 32 schema error) ∧
    ∀ start name, schema.reference = some (referencePrefix ++ start) →
      ReflTransGen doc.Alias start name → TransGen doc.Alias name name →
        ∃ path, doc.resolveChain schema = .error (.chainTooLong path) := by
  refine ⟨fun resolved names => resolveChain_eq_ok_iff, ?_, ?_,
    fun error => resolveChain_eq_error_iff, ?_⟩
  · intro resolved names h
    obtain ⟨hchain, hend, hle⟩ := resolveChain_eq_ok_iff.mp h
    exact ⟨hchain.nodup hend, hle⟩
  · intro hnone
    cases hresolve : doc.resolveChain schema with
    | ok result => exact absurd ⟨_, _, resolveChain_eq_ok_iff.mp hresolve⟩ hnone
    | error error => exact ⟨error, rfl, shape_eq_error_of_resolveChain hresolve⟩
  · intro start name href hreach hcircle
    obtain ⟨names, last, hchain, htwice⟩ := exists_chain_not_nodup href hreach hcircle
    exact hchain.tooLong htwice

/-- A document with an alias of a text and with two components that are aliases of each other. -/
def aliasDocument : Document where
  openapi := "3.0.0"
  info := { title := "badges", version := "1" }
  components := some { schemas :=
    [("Badge", { reference := some "#/components/schemas/Tag" }),
     ("Tag", { type := some (.single "string") }),
     ("Front", { reference := some "#/components/schemas/Back" }),
     ("Back", { reference := some "#/components/schemas/Front" })] }

/-- A reference to the alias passes it and comes to the text, and a reference to one of the two
others goes round. -/
theorem aliasDocument_resolveChain :
    aliasDocument.resolveChain { reference := some "#/components/schemas/Badge" } =
        .ok ({ type := some (.single "string") }, ["Badge", "Tag"]) ∧
      ∃ path, aliasDocument.resolveChain { reference := some "#/components/schemas/Front" } =
        .error (.chainTooLong path) := by
  have hbadge : aliasDocument.Chain { reference := some "#/components/schemas/Badge" }
      ["Badge", "Tag"] { type := some (.single "string") } :=
    .hop rfl rfl (.hop rfl rfl (.stop _))
  have hfront : aliasDocument.Alias "Front" "Back" := ⟨_, rfl, rfl⟩
  have hback : aliasDocument.Alias "Back" "Front" := ⟨_, rfl, rfl⟩
  refine ⟨((resolveChain_exact aliasDocument _).1 _ _).mpr ⟨hbadge, rfl, by decide⟩, ?_⟩
  exact (resolveChain_exact aliasDocument _).2.2.2.2 "Front" "Front" rfl .refl
    (.tail (.single hfront) hback)

end Document

end ProviderGen
