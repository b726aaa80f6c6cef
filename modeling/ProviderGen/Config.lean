/-
The settings of a provider.

Both names come to stand inside identifiers and package clauses of the generated
code, so only small ASCII letters, digits and underscores are valid in them, and a
letter comes first. A settings file gives any part of them; what it leaves out
keeps its default.
-/
import ProviderGen.Decode.Decoder
import ProviderGen.Failure
import ProviderGen.Text.Case
import ProviderGen.Yaml.Node

set_option autoImplicit false

namespace ProviderGen

open ProviderGen.Text

/-- The settings of a provider. -/
structure Config where
  /-- What every type name starts with, before an underscore. -/
  providerName : String := "provider"
  /-- The package of the generated sources. -/
  packageName : String := "provider"
  deriving DecidableEq, Repr, Inhabited

namespace Config

/-! ## Valid names -/

/-- A character that a name may contain. -/
def isNameChar (c : Char) : Bool := isAsciiLower c || isAsciiDigit c || c == '_'

/-- Whether a text is a name: a small letter, then small letters, digits and underscores. -/
def isName (s : String) : Bool :=
  match s.toList with
  | [] => false
  | c :: rest => isAsciiLower c && rest.all isNameChar

/-- Demands that a setting is a name. -/
def checkName (key value : String) : Except Failure Unit :=
  if isName value then .ok () else .error (.input (.invalidName key value))

/-- Demands that both settings are names, the provider first. -/
def validate (config : Config) : Except Failure Unit := do
  checkName "provider_name" config.providerName
  checkName "package_name" config.packageName

/-! ## Settings files -/

/-- The settings of a file. -/
def decoder : Decoder Config :=
  Decoder.record
    [Decoder.defaulted "provider_name" Decoder.text fun v c => { c with providerName := v },
     Decoder.defaulted "package_name" Decoder.text fun v c => { c with packageName := v }] {}

/-- The valid settings that a YAML text gives. -/
def ofYaml (text : String) : Except Failure Config :=
  match (Yaml.read text).decode decoder with
  | .error fault => .error (.yaml fault)
  | .ok config => do
    config.validate
    return config

/-- The settings with the names that are given in place of their own. -/
def override (config : Config) (providerName packageName : Option String) : Config where
  providerName := providerName.getD config.providerName
  packageName := packageName.getD config.packageName

end Config

end ProviderGen
