/-
Engines for templates.

What the text of a template means is up to an engine. It comes with the built-in templates,
loads further texts under names, where a text may be refused on account of those that are
there already, and renders what it has loaded. Which texts are loaded and what becomes of a
refusal is the same with every engine: a directory overrides the built-in templates, kind by
kind, by the files that it has for them.
-/
import ProviderGen.Generation.Run
import ProviderGen.Storage.Basic

set_option autoImplicit false

namespace ProviderGen

/-- An engine, by the type of what it has loaded. -/
structure Engine (Loaded : Type) where
  /-- The built-in templates, unless one of them is refused. -/
  builtin : Except Failure Loaded
  /-- What is loaded once a text is there under a name, or the reasons why the text is
  refused, from the outside in. -/
  load : Loaded → String → String → Except (List String) Loaded
  /-- Renders what is loaded. -/
  render : Loaded → Renderer

namespace Engine

variable {Loaded : Type} (engine : Engine Loaded)

/-- What is loaded once a text is there for a kind of file. -/
def add (loaded : Loaded) (artifact : Artifact) (text : String) : Except Failure Loaded :=
  match engine.load loaded artifact.template text with
  | .ok loaded => .ok loaded
  | .error reasons => .error (.template "*" (.malformed artifact.template reasons))

variable {m : Type → Type} [Monad m]

/-- What is loaded once the files of a directory are there for the given kinds. -/
def overrideFrom (files : Files m) (directory : String) :
    List Artifact → Loaded → m (Except Failure Loaded)
  | [], loaded => return .ok loaded
  | artifact :: rest, loaded => do
    let path := Path.join directory artifact.templateFile
    if ← files.isFile path then
      match ← files.readText path with
      | .error reason => return .error (.file reason)
      | .ok text =>
        match engine.add loaded artifact text with
        | .ok loaded => overrideFrom files directory rest loaded
        | .error failure => return .error failure
    else overrideFrom files directory rest loaded

/-- The built-in templates, except for those that a directory overrides. -/
def ofDirectory (files : Files m) (directory : String) : m (Except Failure Loaded) := do
  if ← files.isDirectory directory then
    match engine.builtin with
    | .ok loaded => engine.overrideFrom files directory Artifact.all loaded
    | .error failure => return .error failure
  else return .error (.template "*" (.directoryNotFound directory))

end Engine

end ProviderGen
