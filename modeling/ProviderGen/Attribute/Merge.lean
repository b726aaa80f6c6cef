/-
The attributes of a resource.

They are the attributes of the payload that creates it and, after them and for reading
only, those that occur in the payload that is read alone. Every resource has an
identifier: if no attribute is called `id`, one comes in front of all.
-/
import ProviderGen.Resource.Basic

set_option autoImplicit false

namespace ProviderGen

/-- The attribute as one that its user does not set. -/
def Field.asReadOnly (field : Field) : Field := { field with readOnly := true, required := false }

/-- The attributes with one more, unless one stands for the same property already. -/
def addMissing (fields : List Field) (field : Field) : List Field :=
  if fields.any fun other => other.source == field.source then fields
  else fields ++ [field.asReadOnly]

namespace Resource

/-- The identifier of a resource that declares none. -/
def identifier (r : Resource) : Field where
  name := "id"
  source := "id"
  kind := .primitive .string
  readOnly := true
  description := "Identifier of the " ++ r.name ++ "."

/-- The attributes of both payloads. -/
def merged (r : Resource) : List Field := (r.read.getD []).foldl addMissing (r.create.getD [])

/-- The attributes of the resource. -/
def attributes (r : Resource) : List Field :=
  if r.merged.any fun field => field.name == "id" then r.merged else r.identifier :: r.merged

end Resource

end ProviderGen
