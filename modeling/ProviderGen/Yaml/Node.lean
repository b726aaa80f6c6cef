/-
Reading YAML text.

The events of the first document are put together to a node; where the events break
off, the containers around that place stay open. Anchors are numbered as they come: a
new one takes the count of the names seen so far, so a name that is used again may
take a number that a later name takes once more. An alias points to the node that
had its number last.
-/
import ProviderGen.Decode.Decoder
import ProviderGen.Yaml.Scalar
import ProviderGen.Yaml.Tokens

set_option autoImplicit false

namespace ProviderGen.Yaml

/-! ## Anchors -/

/-- An event of a document whose anchors and aliases are numbered. -/
inductive Step where
  | link (anchor : Nat)
  | scalar (anchor : Option Nat) (s : Scalar)
  | listStart (anchor : Option Nat) (tagged : Bool)
  | listEnd
  | recordStart (anchor : Option Nat) (tagged : Bool)
  | recordEnd

/-- The numbers of the anchor names seen so far. -/
abbrev Names := Table Nat

/-- Numbers the anchor of a value. -/
def number (names : Names) : Option String → Option Nat × Names
  | none => (none, names)
  | some name => (some names.length, names.put name names.length)

/-- The steps of the first document and the events after it. An alias without an anchor
breaks the document off. -/
def documentSteps (names : Names) : List Event → List Step × List Event
  | [] => ([], [])
  | .documentStart :: rest => documentSteps names rest
  | .documentEnd :: rest => ([], rest)
  | .streamEnd :: rest => ([], .streamEnd :: rest)
  | .link name :: rest =>
    match names.lookup name with
    | none => ([], [])
    | some n => push (.link n) (documentSteps names rest)
  | .scalar p text style :: rest =>
    let (anchor, names) := number names p.anchor
    push (.scalar anchor (Yaml.scalar p.tag text style)) (documentSteps names rest)
  | .listStart p :: rest =>
    let (anchor, names) := number names p.anchor
    push (.listStart anchor (scalar.isCustom p.tag)) (documentSteps names rest)
  | .recordStart p :: rest =>
    let (anchor, names) := number names p.anchor
    push (.recordStart anchor (scalar.isCustom p.tag)) (documentSteps names rest)
  | .listEnd :: rest => push .listEnd (documentSteps names rest)
  | .recordEnd :: rest => push .recordEnd (documentSteps names rest)
where
  /-- Puts a step in front. -/
  push (step : Step) (result : List Step × List Event) : List Step × List Event :=
    (step :: result.1, result.2)

/-! ## Nodes -/

/-- The steps that are left, and the anchored nodes found so far with their numbers and
the number of steps that were left where they began. -/
structure Building where
  rest : List Step
  anchored : List (Nat × Nat × Node) := []

/-- Notes a node that bears an anchor, given the steps that were left where it began. -/
def Building.note (b : Building) (anchor : Option Nat) (left : List Step) (node : Node) :
    Building :=
  match anchor with
  | none => b
  | some n => { b with anchored := (n, left.length, node) :: b.anchored }

mutual

/-- The next node. -/
def build : Nat → Building → Node × Building
  | 0, b => (.broken, b)
  | fuel + 1, b =>
    match b.rest with
    | .link anchor :: rest => (.link anchor, { b with rest })
    | .scalar anchor s :: rest =>
      let node := Node.scalar s
      (node, { b with rest }.note anchor b.rest node)
    | .listStart anchor tagged :: rest =>
      let (items, ending, after) := buildItems fuel { b with rest }
      let node := Node.list tagged items ending
      (node, after.note anchor b.rest node)
    | .recordStart anchor tagged :: rest =>
      let (members, ending, after) := buildMembers fuel { b with rest }
      let node := Node.record tagged members ending
      (node, after.note anchor b.rest node)
    | _ => (.broken, b)

/-- The items of a list from here to its end. -/
def buildItems : Nat → Building → List Node × Ending × Building
  | 0, b => ([], .broken, b)
  | fuel + 1, b =>
    match b.rest with
    | [] => ([], .broken, b)
    | .listEnd :: rest => ([], .closed, { b with rest })
    | _ =>
      let (item, b) := build fuel b
      let (items, ending, b) := buildItems fuel b
      (item :: items, ending, b)

/-- The members of a record from here to its end. -/
def buildMembers : Nat → Building → List (Node × Node) × Ending × Building
  | 0, b => ([], .broken, b)
  | fuel + 1, b =>
    match b.rest with
    | [] => ([], .broken, b)
    | .recordEnd :: rest => ([], .closed, { b with rest })
    | _ =>
      let (key, b) := build fuel b
      let (value, b) := build fuel b
      let (members, ending, b) := buildMembers fuel b
      ((key, value) :: members, ending, b)

end

/-- For each number the node that began last. -/
def latest (anchored : List (Nat × Nat × Node)) : List (Nat × Node) :=
  anchored.filterMap fun (n, left, node) =>
    if anchored.any fun (m, other, _) => m == n && other < left then none else some (n, node)

/-! ## Documents -/

/-- How many containers a YAML text may nest. -/
def nestingLimit : Nat := 128

/-- How often aliases may be followed, for each event of the document. -/
def aliasesPerEvent : Nat := 100

/-- A YAML text as a document. An empty text is an empty document. -/
def read (text : String) : Reading :=
  let found := events (tokens text.toList).1
  match found with
  | .streamEnd :: _ =>
    { root := .scalar .void
      setting := { anchors := [], aliasLimit := aliasesPerEvent, listRecords := false }
      depth := nestingLimit
      clean := true }
  | _ =>
    let (steps, after) := documentSteps [] found
    let (root, built) := build (2 * steps.length + 2) { rest := steps }
    { root
      setting :=
        { anchors := latest built.anchored
          aliasLimit := aliasesPerEvent * steps.length
          listRecords := false }
      depth := nestingLimit
      clean := match after with
        | .streamEnd :: _ => true
        | _ => false }

end ProviderGen.Yaml
