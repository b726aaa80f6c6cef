/-
What can be wrong with the text of a document.

A text is read front to back and the first fault decides. A fault in the syntax
has no further kind: broken text, a number out of range, nesting that is too deep
and text after the end are all `malformed`. The other faults say how a well-formed
value misses the type that is expected of it.
-/
set_option autoImplicit false

namespace ProviderGen

/-- Why a text does not denote a value of the expected type. -/
inductive Fault where
  | malformed
  | missingField (name : String)
  | duplicateField (name : String)
  | invalidType
  | invalidValue
  | invalidLength
  | unknownVariant
  | noVariant (type : String)
  deriving DecidableEq, Repr, Inhabited

/-- The wording of a fault. -/
def Fault.message : Fault → String
  | .malformed => "malformed text"
  | .missingField name => "missing field `" ++ name ++ "`"
  | .duplicateField name => "duplicate field `" ++ name ++ "`"
  | .invalidType => "invalid type"
  | .invalidValue => "invalid value"
  | .invalidLength => "invalid length"
  | .unknownVariant => "unknown variant"
  | .noVariant type => "data did not match any variant of untagged enum " ++ type

end ProviderGen
