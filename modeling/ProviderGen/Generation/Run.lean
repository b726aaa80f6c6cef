/-
Generating files.

A renderer turns the name of a template and a context into text. With it every resource
becomes four files, and a resource one of whose templates fails has none. A strict run
stops at the first resource that fails; a lenient run leaves out those that fail and
reports them.
-/
import ProviderGen.Artifact
import ProviderGen.Generation.Context

set_option autoImplicit false

namespace ProviderGen

/-! ## Files -/

/-- Renders a template, given by name; a failure has its reasons from the outside in. -/
abbrev Renderer := String → Context → Except (List String) String

/-- A generated file. -/
structure GeneratedFile where
  artifact : Artifact
  /-- The path under the directory of the output. -/
  path : String
  contents : String
  deriving DecidableEq, Repr

/-- The file of one kind for a resource, given what its templates know. -/
def renderFile (renderer : Renderer) (name : String) (context : Context) (artifact : Artifact) :
    Except Failure GeneratedFile :=
  match renderer artifact.template context with
  | .ok contents => .ok { artifact, path := artifact.path name, contents }
  | .error reasons => .error (.template name (.render artifact.template reasons))

/-- The files of a resource. -/
def generate (renderer : Renderer) (config : Config) (r : Resource) :
    Except Failure (List GeneratedFile) :=
  Artifact.all.mapM (renderFile renderer r.name (r.context config))

/-! ## Runs -/

/-- The files of all resources, up to the first failure. -/
def generateAll (renderer : Renderer) (config : Config) :
    List Resource → Except Failure (List GeneratedFile)
  | [] => .ok []
  | r :: rest => do
    let files ← generate renderer config r
    return files ++ (← generateAll renderer config rest)

/-- The outcome of a lenient run. -/
structure GenerationReport where
  files : List GeneratedFile := []
  /-- The names of the resources that failed, with the failure. -/
  failures : List (String × Failure) := []

/-- The files of all resources that do not fail, and the failures of the others. -/
def generateLenient (renderer : Renderer) (config : Config) : List Resource → GenerationReport
  | [] => {}
  | r :: rest =>
    let report := generateLenient renderer config rest
    match generate renderer config r with
    | .ok files => { report with files := files ++ report.files }
    | .error failure => { report with failures := (r.name, failure) :: report.failures }

end ProviderGen
