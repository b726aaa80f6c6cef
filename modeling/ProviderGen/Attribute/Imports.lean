/-
The packages of validators that the generated code imports.

The schema of a resource uses a package when somewhere in it a scalar that its user may
set has enumerated values and a type for which the package makes constraints. An import
that is missing or not used is an error of the generated code, so this search follows
the same attributes that the declarations are made from.
-/
import ProviderGen.Attribute.Types

set_option autoImplicit false

namespace ProviderGen

/-! ## Needs -/

/-- Whether the schema of a resource constrains a scalar to its enumerated values with the
help of a package. -/
def usesPackage (package : String) (type : Primitive) (values : List String) : Bool :=
  values != [] && type.validator?.any fun (_, used) => used == package

mutual

/-- Whether an attribute needs a package of validators; what is read-only needs none. -/
def Field.needs (package : String) : Field → Bool
  | ⟨_, _, kind, values, _, readOnly, _⟩ => !readOnly && Field.kindNeeds package values kind

/-- Whether an attribute of a kind needs a package. -/
def Field.kindNeeds (package : String) (values : List String) : Kind Field → Bool
  | .primitive type => usesPackage package type values
  | .object nested _ => Field.anyNeeds package nested
  | .list _ => false
  | .map _ => false

/-- Whether one of some attributes needs a package. -/
def Field.anyNeeds (package : String) : List Field → Bool
  | [] => false
  | field :: rest => field.needs package || Field.anyNeeds package rest

end

/-! ## Imports -/

/-- The packages of validators, sorted. -/
def validatorPackages : List String := ["float64validator", "int64validator", "stringvalidator"]

/-- What the schema of a resource imports for its validators. -/
def validatorImports (fields : List Field) : List String :=
  let packages := validatorPackages.filter fun package => Field.anyNeeds package fields
  if packages.isEmpty then []
  else
    packages.map (fun package =>
        "github.com/hashicorp/terraform-plugin-framework-validators/" ++ package) ++
      ["github.com/hashicorp/terraform-plugin-framework/schema/validator"]

end ProviderGen
