/-
Collections of templates.

A collection has at most one template of each name. The built-in one has all four, and a
collection made of texts has those alone. Collections are what the engine for the language
of the built-in templates works with: it reads and renders as much of the language as these
are written in, and refuses other texts. What holds of a run with any templates is therefore
shown for every engine, and only what is said of the built-in ones rests on this one.
-/
import ProviderGen.Table
import ProviderGen.Template.Builtin.DataSourcePage
import ProviderGen.Template.Builtin.DataSourceSource
import ProviderGen.Template.Builtin.ResourcePage
import ProviderGen.Template.Builtin.ResourceSource
import ProviderGen.Template.Engine
import ProviderGen.Template.Parser
import ProviderGen.Template.Render

set_option autoImplicit false

namespace ProviderGen

/-- The built-in template of a kind of file. -/
def Artifact.builtin : Artifact → Template
  | resource => Builtin.resourceSource
  | dataSource => Builtin.dataSourceSource
  | resourcePage => Builtin.resourcePage
  | dataSourcePage => Builtin.dataSourcePage

/-- Templates by name. -/
abbrev Templates := Table Template

namespace Templates

/-- The built-in templates. -/
def builtin : Templates := Artifact.all.map fun artifact => (artifact.template, artifact.builtin)

/-- The collection with the template that a text writes, under a name. -/
def load (templates : Templates) (name text : String) : Except (List String) Templates :=
  match Template.ofText? text with
  | some template => .ok (Table.put name template templates)
  | none => .error ["malformed text"]

/-- Renders a template of the collection. -/
def render (templates : Templates) : Renderer := fun name context =>
  match templates.lookup name with
  | some template => template.render name context
  | none => .error ["Template '" ++ name ++ "' not found"]

/-- The engine for the language of the built-in templates. -/
def engine : Engine Templates where
  builtin := .ok builtin
  load := load
  render := render

/-- The collection of some texts alone; of several texts for one kind the last counts. -/
def ofTexts (texts : List (Artifact × String)) : Except Failure Templates :=
  texts.foldlM (fun templates (artifact, text) => engine.add templates artifact text) []

/-- The built-in collection, except for what a directory overrides. -/
def ofDirectory {m : Type → Type} [Monad m] (files : Files m) (directory : String) :
    m (Except Failure Templates) :=
  engine.ofDirectory files directory

end Templates

end ProviderGen
