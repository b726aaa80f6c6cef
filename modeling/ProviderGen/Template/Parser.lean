/-
From the pieces of a text to a template.

Expressions are read by precedence: `or`, `and`, comparisons, then values with their
filters. Statements that open a body are kept on a stack until they are closed, so the
pieces are read once, from first to last. What is read is the part of the template language
that the built-in templates are written in; a text that uses more of it (arithmetic, keys in
brackets, macros, blocks, other files) gives no template here.
-/
import ProviderGen.Template.Basic
import ProviderGen.Template.Piece

set_option autoImplicit false

namespace ProviderGen

/-! ## Expressions -/

/-- The comparison a symbol stands for. -/
def Comparison.ofSymbol? (symbol : String) : Option Comparison :=
  [("==", equal), ("!=", different), ("<", less), ("<=", lessOrEqual), (">", greater),
    (">=", greaterOrEqual)].lookup symbol

/-- The words that are truth values. -/
def truthWords : List (String × Bool) :=
  [("true", true), ("True", true), ("false", false), ("False", false)]

mutual

/-- Reads conditions joined by `or`. The fuel bounds the nesting and the length. -/
def parseEither : Nat → List Lexeme → Option (Expr × List Lexeme)
  | 0, _ => none
  | fuel + 1, s => do
    let (left, rest) ← parseBoth fuel s
    match rest with
    | .path ["or"] :: rest =>
      let (right, rest) ← parseEither fuel rest
      return (.either left right, rest)
    | _ => return (left, rest)

/-- Reads conditions joined by `and`. -/
def parseBoth : Nat → List Lexeme → Option (Expr × List Lexeme)
  | 0, _ => none
  | fuel + 1, s => do
    let (left, rest) ← parseCondition fuel s
    match rest with
    | .path ["and"] :: rest =>
      let (right, rest) ← parseBoth fuel rest
      return (.both left right, rest)
    | _ => return (left, rest)

/-- Reads one condition, with or without `not`, or several between parentheses. -/
def parseCondition : Nat → List Lexeme → Option (Expr × List Lexeme)
  | 0, _ => none
  | fuel + 1, .symbol "(" :: rest => do
    let (inner, rest) ← parseEither fuel rest
    match rest with
    | .symbol ")" :: rest => return (inner, rest)
    | _ => none
  | fuel + 1, .path ["not"] :: rest => do
    let (inner, rest) ← parseComparison fuel rest
    return (.negate inner, rest)
  | fuel + 1, s => parseComparison fuel s

/-- Reads a value, or a comparison of two. -/
def parseComparison : Nat → List Lexeme → Option (Expr × List Lexeme)
  | 0, _ => none
  | fuel + 1, s => do
    let (left, rest) ← parseFiltered fuel s
    match rest with
    | .symbol symbol :: others =>
      match Comparison.ofSymbol? symbol with
      | some comparison =>
        let (right, rest) ← parseFiltered fuel others
        return (.compare comparison left right, rest)
      | none => return (left, rest)
    | _ => return (left, rest)

/-- Reads a value, or several joined ones, with its filters. -/
def parseFiltered : Nat → List Lexeme → Option (Expr × List Lexeme)
  | 0, _ => none
  | fuel + 1, s => do
    let (first, rest) ← parseTerm fuel s
    match rest with
    | .symbol "~" :: rest =>
      let (others, rest) ← parseJoined fuel rest
      parseFilters fuel (.join (first :: others)) rest
    | _ => parseFilters fuel first rest

/-- Reads the values that are joined to a first one. -/
def parseJoined : Nat → List Lexeme → Option (List Expr × List Lexeme)
  | 0, _ => none
  | fuel + 1, s => do
    let (term, rest) ← parseTerm fuel s
    match rest with
    | .symbol "~" :: rest =>
      let (others, rest) ← parseJoined fuel rest
      return (term :: others, rest)
    | _ => return ([term], rest)

/-- Reads the filters of a value. -/
def parseFilters : Nat → Expr → List Lexeme → Option (Expr × List Lexeme)
  | 0, _, _ => none
  | fuel + 1, value, .symbol "|" :: .path [name] :: .symbol "(" :: rest => do
    let (arguments, rest) ← parseArguments fuel rest
    parseFilters fuel (.filter value name arguments) rest
  | fuel + 1, value, .symbol "|" :: .path [name] :: rest =>
    parseFilters fuel (.filter value name []) rest
  | _ + 1, _, .symbol "|" :: _ => none
  | _ + 1, value, rest => some (value, rest)

/-- Reads named arguments up to a closing parenthesis. -/
def parseArguments : Nat → List Lexeme → Option (List (String × Expr) × List Lexeme)
  | 0, _ => none
  | _ + 1, .symbol ")" :: rest => some ([], rest)
  | fuel + 1, .path [name] :: .symbol "=" :: rest => do
    let (value, rest) ← parseEither fuel rest
    match rest with
    | .symbol ")" :: rest => return ([(name, value)], rest)
    | .symbol "," :: rest =>
      let (others, rest) ← parseArguments fuel rest
      return ((name, value) :: others, rest)
    | _ => none
  | _, _ => none

/-- Reads expressions up to a closing symbol. -/
def parseItems (close : String) : Nat → List Lexeme → Option (List Expr × List Lexeme)
  | 0, _ => none
  | _ + 1, [] => none
  | fuel + 1, .symbol s :: rest =>
    if s = close then some ([], rest) else parseItem close fuel (.symbol s :: rest)
  | fuel + 1, s => parseItem close fuel s

/-- Reads an expression and those after it up to a closing symbol. -/
def parseItem (close : String) : Nat → List Lexeme → Option (List Expr × List Lexeme)
  | 0, _ => none
  | fuel + 1, s => do
    let (item, rest) ← parseEither fuel s
    match rest with
    | .symbol "," :: rest =>
      let (others, rest) ← parseItems close fuel rest
      return (item :: others, rest)
    | .symbol symbol :: rest => if symbol = close then return ([item], rest) else none
    | _ => none

/-- Reads a test of a name, after `is`. -/
def parseTest : Nat → List String → List Lexeme → Option (Expr × List Lexeme)
  | fuel + 1, path, .path [name] :: .symbol "(" :: rest => do
    let (arguments, rest) ← parseItems ")" fuel rest
    return (.test path name arguments, rest)
  | _ + 1, path, .path [name] :: rest => some (.test path name [], rest)
  | _, _, _ => none

/-- Reads a single value. -/
def parseTerm : Nat → List Lexeme → Option (Expr × List Lexeme)
  | 0, _ => none
  | _ + 1, .text s :: rest => some (.text s, rest)
  | _ + 1, .number n :: rest => some (.number n, rest)
  | fuel + 1, .symbol "[" :: rest => do
    let (items, rest) ← parseItems "]" fuel rest
    return (.list items, rest)
  | fuel + 1, .path path :: .path ["is"] :: .path ["not"] :: rest => do
    let (test, rest) ← parseTest fuel path rest
    return (.negate test, rest)
  | fuel + 1, .path path :: .path ["is"] :: rest => parseTest fuel path rest
  | _ + 1, .path [word] :: rest =>
    match truthWords.lookup word with
    | some b => some (.flag b, rest)
    | none => some (.name [word], rest)
  | _ + 1, .path path :: rest => some (.name path, rest)
  | _ + 1, _ => none

end

/-- The expression that lexemes make up. Each step of reading spends one unit of fuel, and
no more than ten steps pass between two lexemes. -/
def Expr.ofLexemes? (s : List Lexeme) : Option Expr :=
  match parseEither (10 * s.length + 10) s with
  | some (e, []) => some e
  | _ => none

/-! ## Statements -/

/-- A statement whose body is being read, with the parts before it in reverse. -/
inductive Pending where
  | each (name : String) (items : Expr) (before : List Part)
  /-- A branch, after branches that are complete, in reverse. -/
  | branch (done : List (Expr × List Part)) (condition : Expr) (before : List Part)
  /-- The body for the case that no condition holds. -/
  | otherwise (done : List (Expr × List Part)) (before : List Part)

/-- The parts of the innermost body so far, in reverse, and the open statements around. -/
structure Progress where
  parts : List Part := []
  pending : List Pending := []

namespace Progress

/-- Adds a part. -/
def add (part : Part) (p : Progress) : Progress := { p with parts := part :: p.parts }

/-- Opens a statement. -/
def opening (statement : List Part → Pending) (p : Progress) : Progress where
  parts := []
  pending := statement p.parts :: p.pending

/-- Takes in a statement. -/
def statement (p : Progress) : List Lexeme → Option Progress
  | .path ["set"] :: .path [name] :: .symbol "=" :: value => do
    return p.add (.define name (← Expr.ofLexemes? value))
  | .path ["for"] :: .path [name] :: .path ["in"] :: items => do
    return p.opening (.each name (← Expr.ofLexemes? items))
  | .path ["if"] :: condition => do
    return p.opening (.branch [] (← Expr.ofLexemes? condition))
  | .path ["elif"] :: condition =>
    match p.pending with
    | .branch done current before :: outer => do
      let next ← Expr.ofLexemes? condition
      return { parts := []
               pending := .branch ((current, p.parts.reverse) :: done) next before :: outer }
    | _ => none
  | [.path ["else"]] =>
    match p.pending with
    | .branch done current before :: outer =>
      some
        { parts := []
          pending := .otherwise ((current, p.parts.reverse) :: done) before :: outer }
    | _ => none
  | [.path ["endif"]] =>
    match p.pending with
    | .branch done current before :: outer =>
      some
        { parts := .choose ((current, p.parts.reverse) :: done).reverse [] :: before
          pending := outer }
    | .otherwise done before :: outer =>
      some { parts := .choose done.reverse p.parts.reverse :: before, pending := outer }
    | _ => none
  | [.path ["endfor"]] =>
    match p.pending with
    | .each name items before :: outer =>
      some { parts := .each name items p.parts.reverse :: before, pending := outer }
    | _ => none
  | _ => none

/-- Takes in a piece. -/
def step (p : Progress) : Piece → Option Progress
  | .text s => some (if s = [] then p else p.add (.text (String.ofList s)))
  | .tag _ _ .comment => some p
  | .tag _ _ (.value lexemes) => do return p.add (.put (← Expr.ofLexemes? lexemes))
  | .tag _ _ (.statement lexemes) => p.statement lexemes

end Progress

/-! ## Templates -/

/-- The template of some pieces, if every statement is closed. -/
def Template.ofPieces? (pieces : List Piece) : Option Template := do
  let progress ← pieces.foldlM Progress.step {}
  match progress.pending with
  | [] => return progress.parts.reverse
  | _ => none

/-- The template that a text writes in the part of the language that is read here. -/
def Template.ofText? (text : String) : Option Template := do
  Template.ofPieces? (trimBlanks false (← cut text.toList))

end ProviderGen
