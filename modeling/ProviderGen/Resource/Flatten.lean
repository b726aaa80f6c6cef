/-
From a schema to a list of attributes.

An object schema becomes one attribute for each of its properties. A property that is
an object, or a list of objects, is expanded in turn, and so is every component a
reference leads to. The names of the components under expansion form a stack; a
component that a reference meets again while it is on the stack is an error. The stack
is a state: `within` pushes names, runs an expansion and takes them off again, whatever
its outcome.

The stack does not catch every circle: a list whose items lead back to the list by way
of a schema without a name pushes nothing, and its expansion never ends. An expansion
therefore runs within a bounded depth of calls and has no outcome if it goes deeper. A
document can make no expansion that ends go deeper than `expansionBound`.
-/
import ProviderGen.Document.Reference
import ProviderGen.Naming
import ProviderGen.Resource.Basic

set_option autoImplicit false

namespace ProviderGen

/-! ## Expansions -/

/-- The names of the components under expansion, the outermost first. -/
abbrev Stack := List String

/-- An expansion: it reads and changes the stack and ends with a value or an error. It
has no outcome if it needs more depth than it is given. -/
abbrev Expansion (α : Type) := ExceptT SchemaError (StateT Stack Option) α

namespace Expansion

variable {α : Type}

/-- The expansion that has run out of depth. -/
def outOfDepth : Expansion α := ExceptT.mk fun _ => none

/-- A settled outcome as an expansion. -/
def settled (outcome : Except SchemaError α) : Expansion α := ExceptT.mk (pure outcome)

/-- Runs an expansion with more names on the stack and restores the height of the stack
afterwards. -/
def within (names : List String) (inner : Expansion α) : Expansion α := do
  let height := (← get).length
  modify (· ++ names)
  let outcome ← ExceptT.lift inner.run
  modify (·.take height)
  settled outcome

end Expansion

/-! ## Kinds -/

/-- The type of a schema that is a scalar. A schema without a type counts as a text if
it has neither properties nor additional ones. -/
def scalarType (schema : Schema) : Option Primitive :=
  match schema.typeName with
  | some name => Primitive.ofTypeName? name
  | none => if schema.properties.isEmpty && schema.additional.isNone then some .string else none

namespace Document

open Expansion

/-- The kind of an array, given the schema of its items. -/
def arrayKind (doc : Document) (flatten : Schema → Expansion (List Field)) :
    Option Schema → Expansion (Kind Field)
  | none => pure (.list .string)
  | some items => do
    match scalarType (← settled (doc.resolve items)) with
    | some type => pure (.list type)
    | none => return .object (← flatten items) true

/-- The scalar type of the additional properties of an object. -/
def mapType (doc : Document) : Option (Additional Schema) → Expansion (Option Primitive)
  | some (.schema value) => do return scalarType (← settled (doc.resolve value))
  | _ => pure none

/-- The kind of a property, given what it resolves to. -/
def kindOf (doc : Document) (flatten : Schema → Expansion (List Field))
    (property resolved : Schema) : Expansion (Kind Field) := do
  match resolved.typeName with
  | some "array" => doc.arrayKind flatten resolved.items
  | some "object" =>
    match ← doc.mapType resolved.additional with
    | some type => pure (.map type)
    | none => return .object (← flatten property) false
  | some other => pure (.primitive ((Primitive.ofTypeName? other).getD .string))
  | none =>
    if resolved.properties.isEmpty then pure (.primitive .string)
    else return .object (← flatten property) false

/-! ## Attributes -/

/-- The attribute of a property. -/
def fieldOf (doc : Document) (flatten : Schema → Expansion (List Field)) (key : String)
    (property : Schema) (required : Bool) : Expansion Field := do
  let resolved ← settled (doc.resolve property)
  let kind ← doc.kindOf flatten property resolved
  return {
    name := Naming.snake key
    source := key
    kind
    enumValues := resolved.enumLiterals
    required
    readOnly := property.readOnly || resolved.readOnly
    description := property.description.orElse fun _ => resolved.description }

/-- The attributes of a schema, within a depth of calls. -/
def flatten (doc : Document) : Nat → Schema → Expansion (List Field)
  | 0, _ => outOfDepth
  | depth + 1, schema => do
    let (resolved, names) ← settled (doc.resolveChain schema)
    let active ← get
    match names.find? active.contains with
    | some name => throw (.recursive name)
    | none =>
      within names <| resolved.properties.mapM fun (key, property) =>
        doc.fieldOf (doc.flatten depth) key property (resolved.required.contains key)

/-- The attributes of a request or response body; an array stands for its items. -/
def flattenBodyWithin (doc : Document) (depth : Nat) (schema : Schema) :
    Expansion (List Field) := do
  let resolved ← settled (doc.resolve schema)
  match resolved.typeName, resolved.items with
  | some "array", some items => doc.flatten depth items
  | _, _ => doc.flatten depth schema

end Document

/-! ## The bound -/

mutual

/-- The number of schemas in a schema, itself included. -/
def Schema.size : Schema → Nat
  | ⟨_, _, _, properties, _, items, additional, _, _, _⟩ =>
    Schema.sizeAll properties + Schema.sizeOptional items + Schema.sizeAdditional additional + 1

/-- The number of schemas under properties. -/
def Schema.sizeAll : List (String × Schema) → Nat
  | [] => 0
  | (_, schema) :: rest => schema.size + Schema.sizeAll rest

/-- The number of schemas under items. -/
def Schema.sizeOptional : Option Schema → Nat
  | none => 0
  | some schema => schema.size

/-- The number of schemas under additional properties. -/
def Schema.sizeAdditional : Option (Additional Schema) → Nat
  | some (.schema schema) => schema.size
  | _ => 0

end

namespace Document

/-- The component schemas. -/
def schemas (doc : Document) : Table Schema :=
  match doc.components with
  | some components => components.schemas
  | none => []

/-- A depth that suffices for every expansion that ends: one call for each schema of the
document and each height of the stack. Beyond it a call repeats an earlier one. -/
def expansionBound (doc : Document) (body : Schema) : Nat :=
  (doc.schemas.length + 1) * (Schema.sizeAll doc.schemas + body.size) + 1

/-- The attributes of a request or response body, if their expansion ends. -/
def flattenBody (doc : Document) (body : Schema) : Option (Except SchemaError (List Field)) :=
  (doc.flattenBodyWithin (doc.expansionBound body) body |>.run.run []).map Prod.fst

end Document

end ProviderGen
