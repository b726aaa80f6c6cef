/-
Loading a document from its text.

A text whose first character after blanks is an opening brace is read as JSON and
every other text as YAML. Only documents of version 3 are accepted.
-/
import ProviderGen.Document.Decode
import ProviderGen.Failure
import ProviderGen.Json.Parser
import ProviderGen.Text.Blank
import ProviderGen.Yaml.Node

set_option autoImplicit false

namespace ProviderGen.Document

open ProviderGen.Text

/-- Demands a version that starts with `3.`. -/
def accept (doc : Document) : Except Failure Document :=
  match doc.openapi.toList with
  | '3' :: '.' :: _ => .ok doc
  | _ => .error (.input (.unsupportedVersion doc.openapi))

/-- The document a text holds in a format. -/
def ofText (format : Format) (text : String) : Except Failure Document :=
  let reading := match format with
    | .json => Json.read text
    | .yaml => Yaml.read text
  match reading.decode Document.decoder with
  | .ok doc => doc.accept
  | .error fault => .error (.input (.malformedDocument format fault))

/-- The format of a text, by its first character that is not blank. -/
def formatOf (text : String) : Format :=
  if (trimStart text.toList).head? = some '\x7b' then .json else .yaml

/-- The document that bytes hold in one of the two formats. -/
def ofBytes (bytes : ByteArray) : Except Failure Document :=
  match decodeUtf8 bytes with
  | .ok text => ofText (formatOf text) text
  | .error fault => .error (.input (.notUtf8 fault))

end ProviderGen.Document
