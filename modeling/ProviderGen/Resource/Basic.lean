/-
Resources: what the generator knows about an API.

A resource is a collection of an API with the shapes of its payloads. A shape is a
list of attributes in the order of the document; an attribute of object kind has
attributes of its own. These values are built once from a document and only read
from then on.
-/
set_option autoImplicit false

namespace ProviderGen

/-! ## Kinds -/

/-- The type of a scalar. -/
inductive Primitive where
  | string
  | int
  | float
  | bool
  deriving DecidableEq, Repr, Inhabited

namespace Primitive

/-- The type a type name of a schema stands for. -/
def ofTypeName? (name : String) : Option Primitive :=
  if name = "string" then some string
  else if name = "integer" then some int
  else if name = "number" then some float
  else if name = "boolean" then some bool
  else none

/-- The name of the type. -/
def name : Primitive → String
  | string => "string"
  | int => "int"
  | float => "float"
  | bool => "bool"

/-- The type with a name. -/
def ofName? (name : String) : Option Primitive :=
  [string, int, float, bool].find? fun type => type.name == name

end Primitive

/-- The shape of an attribute, where `φ` is the type of attributes. A list of objects
is an object that is `repeated`. -/
inductive Kind (φ : Type) where
  | primitive (type : Primitive)
  | list (type : Primitive)
  | map (type : Primitive)
  | object (nested : List φ) (repeated : Bool)
  deriving DecidableEq, Repr

instance {φ : Type} : Inhabited (Kind φ) := ⟨.primitive .string⟩

namespace Kind

variable {φ : Type}

/-- The scalar type of the values, except for objects. -/
def primitive? : Kind φ → Option Primitive
  | primitive type => some type
  | list type => some type
  | map type => some type
  | object _ _ => none

/-- The attributes of an object. -/
def nested? : Kind φ → Option (List φ)
  | object nested _ => some nested
  | _ => none

/-- Whether the attribute is a list of objects. -/
def isListOfObject : Kind φ → Bool
  | object _ repeated => repeated
  | _ => false

/-- A short name of the kind. -/
def label : Kind φ → String
  | primitive type => type.name
  | list type => "list(" ++ type.name ++ ")"
  | map type => "map(" ++ type.name ++ ")"
  | object _ false => "object"
  | object _ true => "list(object)"

end Kind

/-! ## Attributes -/

/-- An attribute of a resource. -/
structure Field where
  /-- The name in snake case. -/
  name : String
  /-- The key of the property it stands for. -/
  source : String
  kind : Kind Field
  /-- The values it may take, in the order of the document; empty if any. -/
  enumValues : List String := []
  required : Bool := false
  /-- Set by the API and not by its clients. -/
  readOnly : Bool := false
  description : Option String := none
  deriving Repr, Inhabited

/-- The first attribute that stands for a property. -/
def fieldFor? (fields : List Field) (source : String) : Option Field :=
  fields.find? fun field => field.source == source

/-! ## Resources -/

/-- A resource of an API. -/
structure Resource where
  name : String
  /-- The path that lists and creates, such as `/widgets`. -/
  collectionPath : String
  /-- The path of a single one, such as `/widgets/{id}`; empty if there is none. -/
  itemPath : String := ""
  /-- The payload that creates one. -/
  create : Option (List Field) := none
  /-- The payload that is read. -/
  read : Option (List Field) := none
  /-- The payload that changes one. -/
  update : Option (List Field) := none
  hasDelete : Bool := false
  deriving Repr, Inhabited

namespace Resource

/-- Whether there is a path of a single one. -/
def hasItemPath (r : Resource) : Bool := r.itemPath != ""

/-- Whether a single one can be changed. -/
def hasUpdate (r : Resource) : Bool := r.hasItemPath && r.update.isSome

end Resource

end ProviderGen
