/-
The arguments of the command line.

A command is named by the first word that is no option. Options have a long name and
some of them a letter; their values follow as the next word or are attached to the option.
Letters may be run together. No option may be given twice, and no option takes a value
that looks like an option unless it is attached. Anything else is a usage error.
-/
set_option autoImplicit false

namespace ProviderGen.CommandLine

/-! ## Commands -/

/-- What the command that generates is asked to do. -/
structure GenerateOptions where
  spec : String
  /-- Where sources go. -/
  output : String
  /-- Where pages go. -/
  docs : String
  providerName : Option String
  packageName : Option String
  /-- A settings file. -/
  config : Option String
  /-- A directory of templates. -/
  templates : Option String
  /-- Whether resources that fail are left out. -/
  keepGoing : Bool
  deriving DecidableEq, Repr

/-- A command. -/
inductive Command where
  | parse (spec : String) (json : Bool)
  | generate (options : GenerateOptions)
  deriving DecidableEq, Repr

/-- What the arguments ask for. -/
inductive Invocation where
  | run (command : Command) (verbose : Bool)
  | version
  | help
  | usageError
  deriving DecidableEq, Repr

/-! ## Options -/

/-- What follows an option. -/
inductive Arity where
  | flag
  /-- A text, which may be empty. -/
  | text
  /-- A path, which may not be empty. -/
  | path
  deriving DecidableEq, Repr

/-- An option. -/
structure OptionSpec where
  long : String
  short : Option Char
  arity : Arity
  deriving DecidableEq, Repr

/-- The options that were given, with their values. -/
abbrev Given := List (String × String)

/-- Where reading the options of a command ends. -/
inductive Scan where
  /-- At the first word that is no option. -/
  | word (given : Given) (word : String) (rest : List String)
  | done (given : Given)
  | version
  | help
  | usageError

/-- The options that every command has. -/
def verboseOption : OptionSpec := ⟨"verbose", some 'v', .flag⟩

/-- The options of the command that shows the resources. -/
def parseOptions : List OptionSpec :=
  [⟨"spec", some 's', .path⟩, ⟨"json", none, .flag⟩, verboseOption]

/-- The options of the command that generates. -/
def generateOptions : List OptionSpec :=
  [⟨"spec", some 's', .path⟩, ⟨"output", some 'o', .path⟩, ⟨"docs", none, .path⟩,
   ⟨"provider-name", none, .text⟩, ⟨"package", none, .text⟩, ⟨"config", some 'c', .path⟩,
   ⟨"templates", none, .path⟩, ⟨"keep-going", none, .flag⟩, verboseOption]

/-- The options given so far with one more, unless it is there already or its value is not
valid. -/
def give (option : OptionSpec) (value : String) (given : Given) : Option Given :=
  if given.any fun (name, _) => name == option.long then none
  else if option.arity = .path ∧ value = "" then none
  else some ((option.long, value) :: given)

/-- Whether a word looks like an option and so cannot be the value of one. -/
def looksLikeOption (word : String) : Bool :=
  match word.toList with
  | '-' :: _ :: _ => true
  | _ => false

/-- What a long option says: its name, and the value attached to it. -/
def splitLong (body : List Char) : String × Option String :=
  match body.dropWhile (· != '=') with
  | [] => (String.ofList body, none)
  | _ :: value => (String.ofList (body.takeWhile (· != '=')), some (String.ofList value))

/-- How a cluster of letters ends: with all of them taken in, with an option whose value
is the next word, or otherwise. -/
inductive Cluster where
  | done (given : Given)
  | needsValue (option : OptionSpec) (given : Given)
  | version
  | help
  | usageError

/-- Takes in a cluster of letters. -/
def readCluster (options : List OptionSpec) (outermost : Bool) : Given → List Char → Cluster
  | given, [] => .done given
  | given, c :: rest =>
    if c = 'h' then .help
    else if outermost ∧ c = 'V' then .version
    else
      match options.find? fun option => option.short == some c with
      | none => .usageError
      | some option =>
        if option.arity = .flag then
          match give option "" given with
          | some given => readCluster options outermost given rest
          | none => .usageError
        else
          match rest with
          | [] => .needsValue option given
          | '=' :: value =>
            match give option (String.ofList value) given with
            | some given => .done given
            | none => .usageError
          | value =>
            match give option (String.ofList value) given with
            | some given => .done given
            | none => .usageError

/-- Reads options up to the first word that is none; `outermost` tells whether the words
before the command are read. -/
def scan (options : List OptionSpec) (outermost : Bool) : Given → List String → Scan
  | given, [] => .done given
  | given, word :: rest =>
    match word.toList with
    | ['-', '-'] => if rest = [] then .done given else .usageError
    | '-' :: '-' :: body =>
      let (name, attached) := splitLong body
      if name = "help" then if attached.isNone then .help else .usageError
      else if outermost ∧ name = "version" then
        if attached.isNone then .version else .usageError
      else
        match options.find? fun option => option.long == name with
        | none => .usageError
        | some option =>
          match option.arity, attached with
          | .flag, some _ => .usageError
          | .flag, none =>
            match give option "" given with
            | some given => scan options outermost given rest
            | none => .usageError
          | _, some value =>
            match give option value given with
            | some given => scan options outermost given rest
            | none => .usageError
          | _, none =>
            match rest with
            | [] => .usageError
            | value :: rest =>
              if looksLikeOption value then .usageError
              else
                match give option value given with
                | some given => scan options outermost given rest
                | none => .usageError
    | '-' :: letter :: letters =>
      match readCluster options outermost given (letter :: letters) with
      | .version => .version
      | .help => .help
      | .usageError => .usageError
      | .done given => scan options outermost given rest
      | .needsValue option given =>
        match rest with
        | [] => .usageError
        | value :: rest =>
          if looksLikeOption value then .usageError
          else
            match give option value given with
            | some given => scan options outermost given rest
            | none => .usageError
    | _ => .word given word rest

/-! ## Reading commands -/

/-- The command that shows the resources, with its options. -/
def parseCommand (given : Given) : Option Command := do
  return .parse (← given.lookup "spec") (given.lookup "json").isSome

/-- The command that generates, with its options. -/
def generateCommand (given : Given) : Option Command := do
  return .generate
    { spec := ← given.lookup "spec"
      output := (given.lookup "output").getD "generated"
      docs := (given.lookup "docs").getD "docs"
      providerName := given.lookup "provider-name"
      packageName := given.lookup "package"
      config := given.lookup "config"
      templates := given.lookup "templates"
      keepGoing := (given.lookup "keep-going").isSome }

/-- What the words after the name of a command ask for. -/
def readCommand (options : List OptionSpec) (build : Given → Option Command) (verbose : Bool)
    (words : List String) : Invocation :=
  match scan options false [] words with
  | .done given =>
    match build given with
    | some command => .run command (verbose || (given.lookup "verbose").isSome)
    | none => .usageError
  | .word _ _ _ => .usageError
  | .version => .version
  | .help => .help
  | .usageError => .usageError

/-- What the words after `help` ask for: help on nothing or on one command. -/
def readHelp : List String → Invocation
  | [] => .help
  | [topic] => if ["parse", "generate", "help"].contains topic then .help else .usageError
  | _ => .usageError

/-- What arguments ask for. -/
def readArguments (words : List String) : Invocation :=
  match scan [verboseOption] true [] words with
  | .word given word rest =>
    let verbose := (given.lookup "verbose").isSome
    if word = "parse" then readCommand parseOptions parseCommand verbose rest
    else if word = "generate" then readCommand generateOptions generateCommand verbose rest
    else if word = "help" then readHelp rest
    else .usageError
  | .done _ => .usageError
  | .version => .version
  | .help => .help
  | .usageError => .usageError

end ProviderGen.CommandLine
