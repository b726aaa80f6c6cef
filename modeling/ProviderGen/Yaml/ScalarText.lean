/-
The texts of YAML scalars.

Each function starts at the first character of a scalar (after the opening quote or
indicator) and returns the text of the scalar and the place behind it, or nothing if
the text breaks a rule. A line break between two words of a plain or quoted scalar
is folded: one break becomes a blank, and of several breaks all but the first stay.
-/
import ProviderGen.Yaml.Cursor

set_option autoImplicit false

namespace ProviderGen.Yaml

/-! ## Folding -/

/-- The blanks and breaks between two words of a scalar. -/
structure Gap where
  /-- Blanks before any break. -/
  blanks : List Char := []
  /-- A break, or an escaped one, has been passed. -/
  broken : Bool := false
  /-- The first break. -/
  leading : List Char := []
  /-- The breaks after the first. -/
  trailing : List Char := []

/-- What a gap contributes to the text of the scalar. -/
def Gap.text (gap : Gap) : List Char :=
  if gap.broken then
    if gap.leading = ['\n'] then
      if gap.trailing.isEmpty then [' '] else gap.trailing
    else gap.leading ++ gap.trailing
  else gap.blanks

/-- Passes over blanks and breaks. With `indent`, a tab before that column is a fault
once a break has been passed. -/
def passGap (indent : Option Int) : Nat → Gap → Cursor → Option (Gap × Cursor)
  | 0, gap, c => some (gap, c)
  | fuel + 1, gap, c =>
    match c.rest with
    | [] => some (gap, c)
    | x :: _ =>
      if isBlank x then
        if gap.broken then
          if x == '\t' && indent.any (fun least => (c.column : Int) < least) then none
          else passGap indent fuel gap (c.skip 1)
        else passGap indent fuel { gap with blanks := gap.blanks ++ [x] } (c.skip 1)
      else if isBreak x then
        if gap.broken then
          passGap indent fuel { gap with trailing := gap.trailing ++ c.lineText } c.skipLine
        else
          passGap indent fuel { gap with blanks := [], broken := true, leading := c.lineText }
            c.skipLine
      else some (gap, c)

/-! ## Plain scalars -/

/-- The characters that end a plain scalar inside brackets. -/
def isFlowIndicator (c : Char) : Bool :=
  c == ',' || c == '[' || c == ']' || c == '\x7b' || c == '\x7d'

/-- One word of a plain scalar. Inside brackets a colon before an indicator is a fault. -/
def plainWord (flow : Bool) : Nat → List Char → Cursor → Option (List Char × Cursor)
  | 0, word, c => some (word.reverse, c)
  | fuel + 1, word, c =>
    match c.rest with
    | [] => some (word.reverse, c)
    | x :: _ =>
      if isBlank x || isBreak x then some (word.reverse, c)
      else if flow && x == ':' && (c.peek 1).any (fun y => isFlowIndicator y || y == '?') then none
      else if (x == ':' && c.gapAhead 1) || (flow && isFlowIndicator x) then some (word.reverse, c)
      else plainWord flow fuel (x :: word) (c.skip 1)

/-- A plain scalar: its text, whether a line break follows it, and the place behind it. The
fuel exceeds the number of characters left, here and in the words and gaps. -/
def plainText (flow : Bool) (indent : Int) :
    Nat → List Char → Gap → Cursor → Option (List Char × Bool × Cursor)
  | 0, text, gap, c => some (text, gap.broken, c)
  | fuel + 1, text, gap, c =>
    if c.atMarker '-' || c.atMarker '.' || c.sees '#' then some (text, gap.broken, c)
    else do
      let (word, c) ← plainWord flow fuel [] c
      let (text, gap) := if word.isEmpty then (text, gap) else (text ++ gap.text ++ word, {})
      if !(c.blankAhead 0 || c.breakAhead 0) then some (text, gap.broken, c)
      else
        let (gap, c) ← passGap (some indent) fuel gap c
        if !flow && (c.column : Int) < indent then some (text, gap.broken, c)
        else plainText flow indent fuel text gap c

/-! ## Quoted scalars -/

/-- The character of an escape with one letter. -/
def escaped (c : Char) : Option Char :=
  [('0', '\x00'), ('a', '\x07'), ('b', '\x08'), ('t', '\t'), ('\t', '\t'), ('n', '\n'),
    ('v', '\x0b'), ('f', '\x0c'), ('r', '\r'), ('e', '\x1b'), (' ', ' '), ('"', '"'), ('/', '/'),
    ('\\', '\\'), ('N', '\u0085'), ('_', '\u00a0'), ('L', '\u2028'), ('P', '\u2029')].lookup c

/-- The number of digits of an escape by code point. -/
def escapeLength (c : Char) : Option Nat := [('x', 2), ('u', 4), ('U', 8)].lookup c

/-- The value of a hexadecimal digit. -/
def hexValue (c : Char) : Option Nat :=
  if '0' ≤ c ∧ c ≤ '9' then some (c.toNat - '0'.toNat)
  else if 'a' ≤ c ∧ c ≤ 'f' then some (c.toNat - 'a'.toNat + 10)
  else if 'A' ≤ c ∧ c ≤ 'F' then some (c.toNat - 'A'.toNat + 10)
  else none

/-- The number that hexadecimal digits write. -/
def hexNumber (digits : List Char) : Option Nat :=
  digits.foldlM (fun n c => (hexValue c).map (n * 16 + ·)) 0

/-- The character of the escape whose backslash is next, and the place behind it. -/
def escapeSequence (c : Cursor) : Option (Char × Cursor) := do
  let letter ← c.peek 1
  match escaped letter with
  | some x => some (x, c.skip 2)
  | none =>
    let size ← escapeLength letter
    let c := c.skip 2
    let digits := c.rest.take size
    if digits.length < size then none
    else
      let n ← hexNumber digits
      if (0xD800 ≤ n ∧ n ≤ 0xDFFF) ∨ n > 0x10FFFF then none
      else some (Char.ofNat n, c.skip size)

/-- One word of a quoted scalar; the flag tells that it ended in an escaped break. -/
def quotedWord (single : Bool) : Nat → List Char → Cursor → Option (List Char × Bool × Cursor)
  | 0, word, c => some (word.reverse, false, c)
  | fuel + 1, word, c =>
    match c.rest with
    | [] => some (word.reverse, false, c)
    | x :: _ =>
      if isBlank x || isBreak x then some (word.reverse, false, c)
      else if single && x == '\'' && c.ahead 1 '\'' then
        quotedWord single fuel ('\'' :: word) (c.skip 2)
      else if x == (if single then '\'' else '"') then some (word.reverse, false, c)
      else if !single && x == '\\' && c.breakAhead 1 then
        some (word.reverse, true, (c.skip 1).skipLine)
      else if !single && x == '\\' then
        match escapeSequence c with
        | some (y, c) => quotedWord single fuel (y :: word) c
        | none => none
      else quotedWord single fuel (x :: word) (c.skip 1)

/-- A quoted scalar after its opening quote. The fuel exceeds the number of characters left. -/
def quotedText (single : Bool) : Nat → List Char → Cursor → Option (List Char × Cursor)
  | 0, _, _ => none
  | fuel + 1, text, c =>
    if c.atMarker '-' || c.atMarker '.' || c.rest.isEmpty then none
    else do
      let (word, escapedBreak, c) ← quotedWord single fuel [] c
      let text := text ++ word
      if c.sees (if single then '\'' else '"') then some (text, c.skip 1)
      else
        let (gap, c) ← passGap none fuel { broken := escapedBreak } c
        quotedText single fuel (text ++ gap.text) c

/-! ## Block scalars -/

/-- Whether the breaks at the end of a block scalar are dropped, reduced to one, or kept. -/
inductive Chomping where
  | strip
  | clip
  | keep
  deriving DecidableEq

/-- The header of a block scalar after its indicator: the chomping and the indentation
it states. The two come in either order. -/
def blockHeader (c : Cursor) : Option (Chomping × Option Nat × Cursor) := do
  let (chomping, c) := chompingAt c
  let (indent, c) ← indentAt c
  match chomping, indent with
  | none, some _ =>
    let (chomping, c) := chompingAt c
    some (chomping.getD .clip, indent, c)
  | _, _ => some (chomping.getD .clip, indent, c)
where
  /-- The chomping indicator that is next. -/
  chompingAt (c : Cursor) : Option Chomping × Cursor :=
    if c.sees '+' then (some .keep, c.skip 1)
    else if c.sees '-' then (some .strip, c.skip 1)
    else (none, c)
  /-- The indentation indicator that is next; it may not be zero. -/
  indentAt (c : Cursor) : Option (Option Nat × Cursor) :=
    match c.rest with
    | x :: _ =>
      if x == '0' then none
      else if '0' < x && x ≤ '9' then some (some (x.toNat - '0'.toNat), c.skip 1)
      else some (none, c)
    | [] => some (none, c)

/-- The rest of a line on which only blanks and a comment may stand, with its break. -/
def pastComment (c : Cursor) : Option Cursor :=
  let c := c.skipWhile isBlank
  let c := if c.sees '#' then c.skipWhile fun x => !isBreak x else c
  if c.atLineEnd then some c.pastBreak else none

/-- Passes over empty lines and the indentation of the next one; yields the breaks,
the greatest column reached and the place. A tab in the indentation is a fault. -/
def blockBreaks (indent : Option Nat) :
    Nat → List Char → Nat → Cursor → Option (List Char × Nat × Cursor)
  | 0, breaks, column, c => some (breaks, column, c)
  | fuel + 1, breaks, column, c =>
    let room := match indent with
      | some n => c.rest.take (n - c.column)
      | none => c.rest
    let c := c.skip (room.takeWhile (· == ' ')).length
    let column := max column c.column
    if c.sees '\t' && indent.all (fun n => c.column < n) then none
    else if c.breakAhead 0 then
      blockBreaks indent fuel (breaks ++ c.lineText) column c.skipLine
    else some (breaks, column, c)

/-- The state between two lines of a block scalar. -/
structure BlockState where
  text : List Char := []
  leading : List Char := []
  trailing : List Char
  /-- The line before began with a blank. -/
  blankBefore : Bool := false

/-- The lines of a block scalar at a known indentation. -/
def blockLines (literal : Bool) (indent : Nat) :
    Nat → BlockState → Cursor → Option (BlockState × Cursor)
  | 0, state, c => some (state, c)
  | fuel + 1, state, c =>
    if c.column ≠ indent ∨ c.rest.isEmpty then some (state, c)
    else do
      let blank := c.blankAhead 0
      let joint :=
        if !literal && state.leading.head? == some '\n' && !state.blankBefore && !blank then
          if state.trailing.isEmpty then [' '] else []
        else state.leading
      let line := c.rest.takeWhile fun x => !isBreak x
      let c := c.skip line.length
      let leading := c.lineText
      let (trailing, _, c) ← blockBreaks (some indent) fuel [] 0 c.pastBreak
      blockLines literal indent fuel
        { text := state.text ++ joint ++ state.trailing ++ line
          leading := leading
          trailing := trailing
          blankBefore := blank } c

/-- A block scalar after its indicator, below a collection at column `parent`. The size is
that of the whole text. -/
def blockText (literal : Bool) (parent : Int) (size : Nat) (c : Cursor) :
    Option (List Char × Cursor) := do
  let (chomping, stated, c) ← blockHeader c
  let c ← pastComment c
  let stated := stated.map fun n => (max parent 0).toNat + n
  let (breaks, column, c) ← blockBreaks stated size [] 0 c
  let indent := stated.getD (max column (max (parent + 1) 1).toNat)
  let (state, c) ← blockLines literal indent size { trailing := breaks } c
  let tail := match chomping with
    | .strip => []
    | .clip => state.leading
    | .keep => state.leading ++ state.trailing
  some (state.text ++ tail, c)

end ProviderGen.Yaml
