/-
The tokens of a YAML text.

Scalars appear with their final text: escapes are replaced and lines are folded.
The block tokens do not stand in the text; they mark where indentation opens and
closes a collection.
-/
set_option autoImplicit false

namespace ProviderGen.Yaml

/-- How a scalar is written. -/
inductive Style where
  | plain
  | quoted
  /-- A block whose line breaks are kept. -/
  | literal
  /-- A block whose lines are folded. -/
  | folded
  deriving DecidableEq, Repr

/-- A token. -/
inductive Token where
  | streamEnd
  | version (major minor : Nat)
  | tagDirective (handle address : String)
  | documentStart
  | documentEnd
  | blockSequenceStart
  | blockMappingStart
  | blockEnd
  | flowSequenceStart
  | flowSequenceEnd
  | flowMappingStart
  | flowMappingEnd
  | blockEntry
  | flowEntry
  | key
  | value
  | link (name : String)
  | anchor (name : String)
  | tag (handle suffix : String)
  | scalar (text : String) (style : Style)
  deriving DecidableEq, Repr

end ProviderGen.Yaml
