/-
The types of the provider framework.

Every scalar type has three spellings in the generated code: as the type of a model
field, as the constructor of a schema attribute and as the element type of a list or
map. For all but truth values there is also a package of validators.
-/
import ProviderGen.Resource.Basic

set_option autoImplicit false

namespace ProviderGen

namespace Primitive

/-- The type of a model field. -/
def modelType : Primitive → String
  | string => "types.String"
  | int => "types.Int64"
  | float => "types.Float64"
  | bool => "types.Bool"

/-- The constructor of a schema attribute. -/
def attributeType : Primitive → String
  | string => "schema.StringAttribute"
  | int => "schema.Int64Attribute"
  | float => "schema.Float64Attribute"
  | bool => "schema.BoolAttribute"

/-- The type of the elements of a list or map. -/
def elementType : Primitive → String
  | string => "types.StringType"
  | int => "types.Int64Type"
  | float => "types.Float64Type"
  | bool => "types.BoolType"

/-- The interface of validators and the package that helps to make them. -/
def validator? : Primitive → Option (String × String)
  | string => some ("validator.String", "stringvalidator")
  | int => some ("validator.Int64", "int64validator")
  | float => some ("validator.Float64", "float64validator")
  | bool => none

/-- Whether literals of the type stand between quotes. -/
def quotesLiterals : Primitive → Bool
  | string => true
  | _ => false

/-- The type as documentation names it. -/
def title : Primitive → String
  | string => "String"
  | int => "Number"
  | float => "Number"
  | bool => "Boolean"

end Primitive

namespace Kind

variable {φ : Type}

/-- The type of a model field. -/
def modelType : Kind φ → String
  | primitive type => type.modelType
  | list _ => "types.List"
  | map _ => "types.Map"
  | object _ false => "types.Object"
  | object _ true => "types.List"

/-- The kind as documentation names it. -/
def title : Kind φ → String
  | primitive type => type.title
  | list type => "List of " ++ type.title
  | map type => "Map of " ++ type.title
  | object _ false => "Attributes"
  | object _ true => "Attributes List"

end Kind

end ProviderGen
