/-
What can go wrong, by cause.

A failure is a cause with the facts about it; its wording is one function. Failures of
the input, which its author can mend, are told from failures of templates and files.
-/
import ProviderGen.Decode.Fault
import ProviderGen.Document.Reference
import ProviderGen.Text.Utf8

set_option autoImplicit false

namespace ProviderGen

open ProviderGen.Text

/-! ## Causes -/

/-- The two formats of a document. -/
inductive Format where
  | json
  | yaml
  deriving DecidableEq, Repr

/-- The name of a format. -/
def Format.name : Format → String
  | .json => "JSON"
  | .yaml => "YAML"

/-- What is wrong with an input. -/
inductive InputFault where
  | unreadableDocument (path reason : String)
  | notUtf8 (fault : Utf8Fault)
  | malformedDocument (format : Format) (fault : Fault)
  | unsupportedVersion (version : String)
  | schema (error : SchemaError)
  | unreadableConfig (path reason : String)
  | invalidName (key value : String)
  deriving DecidableEq, Repr

/-- What is wrong with a template. -/
inductive TemplateFault where
  | directoryNotFound (directory : String)
  /-- The text of the template is refused, for reasons given from the outside in. -/
  | malformed (template : String) (reasons : List String)
  /-- Rendering failed, for reasons given likewise. -/
  | render (template : String) (reasons : List String)
  deriving DecidableEq, Repr

/-- A failure of the generator. -/
inductive Failure where
  | input (fault : InputFault)
  /-- The expansion of a schema comes back to where it was and never ends. -/
  | endless
  /-- Two collection paths give one resource name. -/
  | nameConflict (name first second : String)
  /-- A template fault, at a resource or at `*` for all. -/
  | template (resource : String) (fault : TemplateFault)
  | file (reason : String)
  | yaml (fault : Fault)
  deriving DecidableEq, Repr

/-! ## Wording -/

/-- A character of a path between quotes. -/
def showChar (c : Char) : List Char :=
  if c = '"' ∨ c = '\\' then ['\\', c]
  else if c = '\n' then ['\\', 'n']
  else if c = '\r' then ['\\', 'r']
  else if c = '\t' then ['\\', 't']
  else if c.toNat = 0 then ['\\', '0']
  else if c.toNat < 32 ∨ (127 ≤ c.toNat ∧ c.toNat < 160) then
    "\\u\x7b".toList ++ Nat.toDigits 16 c.toNat ++ ['\x7d']
  else [c]

/-- A path between quotes. -/
def showPath (path : String) : String :=
  "\"" ++ String.ofList (path.toList.flatMap showChar) ++ "\""

/-- The wording of an input fault. -/
def InputFault.message : InputFault → String
  | .unreadableDocument path reason => "Failed to read OpenAPI file " ++ path ++ ": " ++ reason
  | .notUtf8 fault => "OpenAPI document is not UTF-8: " ++ fault.message
  | .malformedDocument format fault =>
    "Failed to parse OpenAPI " ++ format.name ++ ": " ++ fault.message
  | .unsupportedVersion version =>
    "Unsupported OpenAPI version '" ++ version ++ "' (expected 3.x)"
  | .schema error => error.message
  | .unreadableConfig path reason =>
    "Failed to read config file " ++ showPath path ++ ": " ++ reason
  | .invalidName key value =>
    "Invalid " ++ key ++ ": '" ++ value ++ "' (expected lowercase letters, digits and underscores)"

/-- The wording of a template fault. -/
def TemplateFault.message : TemplateFault → String
  | .directoryNotFound directory => "Template directory not found: " ++ directory
  | .malformed template reasons =>
    "Failed to load " ++ template ++ " template: " ++ ": ".intercalate reasons
  | .render template reasons => template ++ " template: " ++ ": ".intercalate reasons

namespace Failure

/-- The wording of a failure. -/
def message : Failure → String
  | input fault => "Input error: " ++ fault.message
  | endless => "Endless schema expansion"
  | nameConflict name first second =>
    "Resource name conflict: '" ++ name ++ "' is derived from both '" ++ first ++ "' and '" ++
      second ++ "'"
  | template resource fault => "Template error for '" ++ resource ++ "': " ++ fault.message
  | file reason => "IO error: " ++ reason
  | yaml fault => "YAML error: " ++ fault.message

/-- The reason behind a failure that only passes it on. -/
def cause? : Failure → Option String
  | file reason => some reason
  | yaml fault => some fault.message
  | _ => none

/-- Whether the input is at fault. -/
def isInputError : Failure → Bool
  | input _ => true
  | nameConflict _ _ _ => true
  | yaml _ => true
  | _ => false

end Failure

end ProviderGen
