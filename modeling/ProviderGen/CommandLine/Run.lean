/-
Running commands.

A command works on files through the operations and on templates through the engine that it
is given, collects what it prints, and ends with success or with a report of what went wrong:
the failure and, before it, what the command was about to do. The command that generates
renders everything before it writes anything.
-/
import ProviderGen.CommandLine.Arguments
import ProviderGen.Document.Load
import ProviderGen.Generation.Run
import ProviderGen.Resource.Discovery
import ProviderGen.Resource.Json
import ProviderGen.Template.Collection

set_option autoImplicit false

namespace ProviderGen.CommandLine

/-! ## Reports -/

/-- What went wrong, from the outside in. -/
structure Report where
  headline : String
  causes : List String

/-- The lines of a text, with an indent before all but the first. -/
def indentLines (indent text : String) : String :=
  ("\n" ++ indent).intercalate ((Naming.pieces '\n' text.toList).map String.ofList)

/-- A number in five columns. -/
def column (n : Nat) : String :=
  let digits := toString n
  String.ofList (List.replicate (5 - digits.length) ' ') ++ digits

/-- Causes with their numbers, from a number on. -/
def numbered : Nat → List String → List String
  | _, [] => []
  | n, cause :: rest =>
    (column n ++ ": " ++ indentLines "       " cause) :: numbered (n + 1) rest

/-- The text of a report. A single cause has no number. -/
def Report.text (report : Report) : String :=
  "Error: " ++ report.headline ++
    match report.causes with
    | [] => "\n"
    | [cause] => "\n\nCaused by:\n    " ++ indentLines "    " cause ++ "\n"
    | causes => "\n\nCaused by:\n" ++ "\n".intercalate (numbered 0 causes) ++ "\n"

/-- The report of a failure of what the headline tells. -/
def Report.ofFailure (headline : String) (failure : Failure) : Report where
  headline := headline
  causes := failure.message :: failure.cause?.toList

/-- The report of a fault with a file. -/
def Report.ofFault (headline : String) (fault : FileFault) : Report where
  headline := headline
  causes := [fault.message]

/-! ## Sessions -/

/-- What was printed so far. -/
structure Printed where
  out : String := ""
  err : String := ""

/-- A part of a command: it prints, works on files, and may end the command. -/
abbrev Session (m : Type → Type) := ExceptT Report (StateT Printed m)

section

variable {Loaded : Type} {m : Type → Type} [Monad m]

/-- Prints a line. -/
def say (line : String) : Session m Unit :=
  modify fun printed => { printed with out := printed.out ++ line ++ "\n" }

/-- Prints a line where errors go. -/
def warn (line : String) : Session m Unit :=
  modify fun printed => { printed with err := printed.err ++ line ++ "\n" }

/-- The value of an outcome; its failure ends the command. -/
def demand {α : Type} (headline : String) : Except Failure α → Session m α
  | .ok value => pure value
  | .error failure => throw (.ofFailure headline failure)

/-- Performs an operation on a file; its fault ends the command. -/
def perform {α : Type} (headline : String) (operation : m (Except FileFault α)) : Session m α := do
  match ← (operation : m (Except FileFault α)) with
  | .ok value => pure value
  | .error fault => throw (.ofFault headline fault)

/-! ## Loading -/

/-- The document in a file. -/
def readDocument (files : Files m) (path : String) : m (Except Failure Document) := do
  match ← files.read path with
  | .ok bytes => return Document.ofBytes bytes
  | .error fault => return .error (.input (.unreadableDocument path fault.message))

/-- The resources of the document in a file. -/
def loadResources (files : Files m) (path : String) : Session m (List Resource) := do
  let found ← (readDocument files path : m _)
  let doc ← demand ("Failed to load OpenAPI document " ++ path) found
  demand "Failed to infer resources" doc.resources

/-- The settings in a file. -/
def readConfig (files : Files m) (path : String) : m (Except Failure Config) := do
  match ← files.readText path with
  | .ok text => return Config.ofYaml text
  | .error reason => return .error (.input (.unreadableConfig path reason))

/-- The settings of the file, or the defaults, with what the options say in their place. -/
def resolveConfig (files : Files m) (options : GenerateOptions) : Session m Config := do
  let base ← match options.config with
    | none => pure ({} : Config)
    | some path => do
      let found ← (readConfig files path : m _)
      demand ("Failed to load config " ++ path) found
  let config := base.override options.providerName options.packageName
  demand "Invalid generator config" config.validate
  return config

/-- The built-in templates, or those of the directory that the options name. -/
def loadTemplates (engine : Engine Loaded) (files : Files m) : Option String → Session m Loaded
  | none => demand "Failed to load embedded templates" engine.builtin
  | some directory => do
    let found ← (engine.ofDirectory files directory : m _)
    demand ("Failed to load templates from " ++ directory) found

/-! ## Showing resources -/

/-- How many attributes a shape has. -/
def shapeSize (shape : Option (List Field)) : Nat := (shape.getD []).length

/-- Prints what is known of a resource. -/
def showResource (r : Resource) : Session m Unit := do
  say ("\n  • " ++ r.name)
  say ("    Collection: " ++ r.collectionPath)
  if r.hasItemPath then say ("    Item: " ++ r.itemPath)
  say ("    Fields: create " ++ toString (shapeSize r.create) ++ ", read " ++
    toString (shapeSize r.read) ++ ", update " ++ toString (shapeSize r.update))
  if r.hasDelete then say "    Delete: yes"

/-- Shows the resources of a document. -/
def runParse (files : Files m) (spec : String) (json : Bool) : Session m Unit := do
  let resources ← loadResources files spec
  if json then say (encodeResources resources).pretty
  else
    say ("✓ Parsed " ++ toString resources.length ++ " resources from " ++ spec)
    resources.forM showResource

/-! ## Generating -/

/-- Renders the files of all resources. -/
def renderAll (renderer : Renderer) (config : Config) (keepGoing : Bool)
    (resources : List Resource) : Session m (List GeneratedFile) :=
  if keepGoing then do
    let report := generateLenient renderer config resources
    report.failures.forM fun (name, failure) =>
      warn ("⚠ Skipping " ++ name ++ ": " ++ failure.message)
    return report.files
  else demand "Failed to generate resources" (generateAll renderer config resources)

/-- Writes a file, in directories that are made if they are missing. -/
def writeFile (files : Files m) (target contents : String) : Session m Unit := do
  let parent := Path.parent target
  perform ("Failed to create directory " ++ parent) (files.ensureDirectories parent)
  perform ("Failed to write " ++ target) (files.write target contents.toUTF8)

/-- Writes the generated files to their places. -/
def writeAll (files : Files m) (output docs : String) : List GeneratedFile → Session m Unit
  | [] => pure ()
  | file :: rest => do
    let target := file.artifact.destination output docs file.path
    writeFile files target file.contents
    say ("  ✓ " ++ target)
    writeAll files output docs rest

/-- Renders what the options ask for; nothing is written. -/
def prepare (engine : Engine Loaded) (files : Files m) (options : GenerateOptions) :
    Session m (List GeneratedFile) := do
  let config ← resolveConfig files options
  say ("→ Generating from: " ++ options.spec)
  let resources ← loadResources files options.spec
  say ("✓ Parsed " ++ toString resources.length ++ " resources")
  let templates ← loadTemplates engine files options.templates
  renderAll (engine.render templates) config options.keepGoing resources

/-- Generates files. -/
def runGenerate (engine : Engine Loaded) (files : Files m) (options : GenerateOptions) :
    Session m Unit := do
  let generated ← prepare engine files options
  writeAll files options.output options.docs generated
  say ("\n✓ Generated " ++ toString generated.length ++ " files")

/-! ## Outcomes -/

/-- How a run of the program ends. -/
structure Outcome where
  exitCode : Nat
  out : String
  err : String
  deriving DecidableEq, Repr

/-- What `--version` prints. -/
def versionText : String := "provider-codegen 0.1.0\n"

/-- What `--help` prints. -/
def helpText : String := "Usage: provider-codegen [OPTIONS] <COMMAND>\n"

/-- Runs a command. -/
def runCommand (engine : Engine Loaded) (files : Files m) : Command → Session m Unit
  | .parse spec json => runParse files spec json
  | .generate options => runGenerate engine files options

/-- Runs the program with the given arguments and an engine for the templates. -/
def runWith (engine : Engine Loaded) (files : Files m) (words : List String) : m Outcome :=
  match readArguments words with
  | .usageError => pure ⟨2, "", ""⟩
  | .version => pure ⟨0, versionText, ""⟩
  | .help => pure ⟨0, helpText, ""⟩
  | .run command _ => do
    let (result, printed) ← (runCommand engine files command).run.run {}
    match result with
    | .ok () => return ⟨0, printed.out, printed.err⟩
    | .error report => return ⟨1, printed.out, printed.err ++ report.text⟩

/-- Runs the program with the given arguments and the engine for the language of the built-in
templates. -/
def run (files : Files m) (words : List String) : m Outcome := runWith Templates.engine files words

end

end ProviderGen.CommandLine
