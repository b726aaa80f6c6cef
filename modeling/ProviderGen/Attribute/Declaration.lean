/-
Declarations of attributes in a schema of the provider framework.

`Field.declare` turns an attribute into a tree that holds what its declaration says:
presence, description, and what its kind adds. `Declaration.text` alone turns such a
tree into code; the tree knows nothing of tabs and braces. The schema of a resource and
that of a data source differ in presence and in validators only: a data source takes
nothing from its user but the `id` at the top.
-/
import ProviderGen.Attribute.Types
import ProviderGen.Text.Quoted

set_option autoImplicit false

namespace ProviderGen

open ProviderGen.Text

/-! ## Declarations -/

/-- Who gives an attribute its value: the user always or sometimes, or the provider. -/
inductive Presence where
  | required
  | optional
  | computed
  deriving DecidableEq, Repr

/-- A constraint to one of several literals, with the interface of the constraint and
the package that makes it. -/
structure Validator where
  interface : String
  package : String
  literals : List String
  deriving DecidableEq, Repr

/-- What a declaration of a kind holds, where `δ` is the type of declarations. -/
inductive Shape (δ : Type) where
  | primitive (type : Primitive) (validator : Option Validator)
  | list (type : Primitive)
  | map (type : Primitive)
  | object (entries : List (String × δ)) (repeated : Bool)
  deriving Repr

/-- A declaration of an attribute. -/
structure Declaration where
  presence : Presence
  description : Option String
  shape : Shape Declaration
  deriving Repr

/-! ## From attributes to declarations -/

/-- Whose schema a declaration belongs to. -/
inductive Mode where
  | resource
  | dataSource
  deriving DecidableEq, Repr

/-- Where an attribute stands: in the outermost schema, or in an attribute, which may
be computed. -/
inductive Place where
  | top
  | inside (computed : Bool)
  deriving DecidableEq, Repr

/-- The presence of an attribute with these properties. Below a computed attribute all
is computed. -/
def presenceOf (name : String) (required readOnly : Bool) : Mode → Place → Presence
  | .dataSource, .top => if name = "id" then .required else .computed
  | .dataSource, .inside _ => .computed
  | .resource, place =>
    if place = .inside true ∨ readOnly = true then .computed
    else if required then .required
    else .optional

/-- The constraint of a scalar to its enumerated values; an attribute that its user
does not set has none. -/
def validatorOf (type : Primitive) (values : List String) (presence : Presence) :
    Mode → Option Validator
  | .dataSource => none
  | .resource =>
    if presence = .computed ∨ values = [] then none
    else
      type.validator?.map fun (interface, package) =>
        { interface, package,
          literals := if type.quotesLiterals then values.map quote else values }

mutual

/-- The declaration of an attribute. -/
def Field.declare (mode : Mode) (place : Place) : Field → Declaration
  | ⟨name, _, kind, values, required, readOnly, description⟩ =>
    let presence := presenceOf name required readOnly mode place
    ⟨presence, description, Field.declareKind mode values presence kind⟩

/-- What the declaration of an attribute of a kind holds. -/
def Field.declareKind (mode : Mode) (values : List String) (presence : Presence) :
    Kind Field → Shape Declaration
  | .primitive type => .primitive type (validatorOf type values presence mode)
  | .list type => .list type
  | .map type => .map type
  | .object nested repeated =>
    .object (Field.declareAll mode (.inside (decide (presence = .computed))) nested) repeated

/-- The declarations of attributes, by name. -/
def Field.declareAll (mode : Mode) (place : Place) : List Field → List (String × Declaration)
  | [] => []
  | field :: rest => (field.name, field.declare mode place) :: Field.declareAll mode place rest

end

/-! ## From declarations to code -/

/-- As many tabs as given. -/
def tabs (depth : Nat) : String := String.ofList (List.replicate depth '\t')

/-- A line of code within a text: a line break and the tabs before it. -/
def line (depth : Nat) (code : String) : String := "\n" ++ tabs depth ++ code

/-- The presence, as a setting of an attribute. -/
def Presence.text : Presence → String
  | .required => "Required: true"
  | .optional => "Optional: true"
  | .computed => "Computed: true"

/-- The lines of a constraint. -/
def Validator.lines (depth : Nat) (v : Validator) : String :=
  line depth ("Validators: []" ++ v.interface ++ "\x7b") ++
    line (depth + 1) (v.package ++ ".OneOf(" ++ ", ".intercalate v.literals ++ "),") ++
    line depth "\x7d,"

/-- The constructor of an attribute of the shape. -/
def Shape.constructor {δ : Type} : Shape δ → String
  | primitive type _ => type.attributeType
  | list _ => "schema.ListAttribute"
  | map _ => "schema.MapAttribute"
  | object _ false => "schema.SingleNestedAttribute"
  | object _ true => "schema.ListNestedAttribute"

mutual

/-- The code of a declaration that stands at a depth. The first line has no tabs before
it, so that it can follow the name of the attribute. -/
def Declaration.text (depth : Nat) : Declaration → String
  | ⟨presence, description, shape⟩ =>
    shape.constructor ++ "\x7b" ++
      line (depth + 1) (presence.text ++ ",") ++
      (match description with
        | none => ""
        | some words => line (depth + 1) ("MarkdownDescription: " ++ quote words ++ ",")) ++
      Declaration.shapeLines (depth + 1) shape ++
      line depth "\x7d"

/-- The lines that are particular to a shape. -/
def Declaration.shapeLines (depth : Nat) : Shape Declaration → String
  | .primitive _ none => ""
  | .primitive _ (some validator) => validator.lines depth
  | .list type => line depth ("ElementType: " ++ type.elementType ++ ",")
  | .map type => line depth ("ElementType: " ++ type.elementType ++ ",")
  | .object entries false =>
    line depth "Attributes: map[string]schema.Attribute\x7b" ++
      Declaration.entryLines (depth + 1) entries ++
      line depth "\x7d,"
  | .object entries true =>
    line depth "NestedObject: schema.NestedAttributeObject\x7b" ++
      line (depth + 1) "Attributes: map[string]schema.Attribute\x7b" ++
      Declaration.entryLines (depth + 2) entries ++
      line (depth + 1) "\x7d," ++
      line depth "\x7d,"

/-- The lines of the entries of an attribute map. -/
def Declaration.entryLines (depth : Nat) : List (String × Declaration) → String
  | [] => ""
  | (name, declaration) :: rest =>
    line depth (quote name ++ ": " ++ declaration.text depth ++ ",") ++
      Declaration.entryLines depth rest

end

end ProviderGen
