/-
The four artifacts of a resource.

Every resource gets two source files, for itself and for the data source that reads it,
and a page of documentation for each.
-/
import ProviderGen.Path

set_option autoImplicit false

namespace ProviderGen

/-- A kind of generated file. -/
inductive Artifact where
  | resource
  | dataSource
  | resourcePage
  | dataSourcePage
  deriving DecidableEq, Repr

namespace Artifact

/-- All kinds, in the order in which they are generated. -/
def all : List Artifact := [resource, dataSource, resourcePage, dataSourcePage]

/-- The name of the template. -/
def template : Artifact → String
  | resource => "resource"
  | dataSource => "data_source"
  | resourcePage => "resource_doc"
  | dataSourcePage => "data_source_doc"

/-- The name of the file that overrides the template. -/
def templateFile : Artifact → String
  | resource => "resource.go.tera"
  | dataSource => "data_source.go.tera"
  | resourcePage => "resource.md.tera"
  | dataSourcePage => "data_source.md.tera"

/-- Whether the file is a page of documentation. -/
def isPage : Artifact → Bool
  | resource => false
  | dataSource => false
  | resourcePage => true
  | dataSourcePage => true

/-- The path of the file for a resource. -/
def path (name : String) : Artifact → String
  | resource => "resource_" ++ name ++ ".go"
  | dataSource => "datasource_" ++ name ++ ".go"
  | resourcePage => Path.join "docs/resources" (name ++ ".md")
  | dataSourcePage => Path.join "docs/data-sources" (name ++ ".md")

/-- Where a file goes under the two output directories: a page to the documentation, at its
place below `docs`, and a source to the other. -/
def destination (output docs path : String) (artifact : Artifact) : String :=
  if artifact.isPage then Path.join docs (Path.dropFirst "docs" path) else Path.join output path

/-- The kind with a template name. -/
def ofTemplate? (template : String) : Option Artifact :=
  all.find? fun artifact => artifact.template == template

end Artifact

end ProviderGen
