/-
References between the schemas of a document.

A schema that is a reference stands for the component it names, and that component
may be a reference again. `resolveChain` follows such a chain to a schema of its own
and lists the components on the way; a chain of more than `maxHops` references is
given up, which is what stops a chain that runs in a circle.
-/
import ProviderGen.Document.Basic

set_option autoImplicit false

namespace ProviderGen

/-! ## Errors -/

/-- Why a schema has no list of attributes. -/
inductive SchemaError where
  /-- The chain of references at `reference` has too many members. -/
  | chainTooLong (reference : String)
  /-- The reference does not name a component schema. -/
  | unsupported (reference : String)
  /-- The document has no component of that name. -/
  | unresolved (reference : String)
  /-- The component is expanded inside its own expansion. -/
  | recursive (name : String)
  deriving DecidableEq, Repr

/-- The wording of an error. -/
def SchemaError.message : SchemaError → String
  | .chainTooLong reference => "Reference chain too long at " ++ reference
  | .unsupported reference => "Unsupported schema reference: " ++ reference
  | .unresolved reference => "Unresolved schema reference: " ++ reference
  | .recursive name => "Recursive schema reference: " ++ Document.referencePrefix ++ name

/-! ## Chains -/

namespace Document

/-- How many references may follow one another. -/
def maxHops : Nat := 32

/-- Follows at most `hops` references; the names of the components passed come along. -/
def follow (doc : Document) : Nat → Schema → Except SchemaError (Schema × List String)
  | hops, schema =>
    match schema.reference with
    | none => .ok (schema, [])
    | some path =>
      match hops with
      | 0 => .error (.chainTooLong path)
      | hops + 1 =>
        match referenceName? path with
        | none => .error (.unsupported path)
        | some name =>
          match doc.component? name with
          | none => .error (.unresolved path)
          | some next =>
            match follow doc hops next with
            | .ok (resolved, names) => .ok (resolved, name :: names)
            | .error error => .error error

/-- The schema a chain of references ends in, and the components passed on the way. -/
def resolveChain (doc : Document) (schema : Schema) : Except SchemaError (Schema × List String) :=
  doc.follow maxHops schema

/-- The schema a chain of references ends in. -/
def resolve (doc : Document) (schema : Schema) : Except SchemaError Schema :=
  match doc.resolveChain schema with
  | .ok (resolved, _) => .ok resolved
  | .error error => .error error

end Document

end ProviderGen
