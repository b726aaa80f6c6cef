/-
From a YAML text to its tokens.

The scanner reads one token at a time into a queue. A token may have to wait there:
as long as the text after it could still make it the key of a mapping, it is not
known whether a KEY and a BLOCK-MAPPING-START go before it. A waiting token is lost
if the text turns out to be faulty before that is settled, so the list of tokens
ends where the first fault is noticed and not where it stands.
-/
import ProviderGen.Yaml.ScalarText
import ProviderGen.Yaml.Token

set_option autoImplicit false

namespace ProviderGen.Yaml

/-! ## The state -/

/-- A place at which the key of a mapping may have begun. -/
structure KeyPlace where
  /-- The key has to be one, because the text could mean nothing else. -/
  required : Bool
  /-- The number of its first token. -/
  number : Nat
  index : Nat
  line : Nat
  column : Nat

/-- The scanner between two tokens. -/
structure Scanner where
  cursor : Cursor
  /-- The length of the whole text, which no loop within it exceeds. -/
  size : Nat
  /-- The number of open brackets. -/
  flow : Nat := 0
  /-- The column of the innermost block collection. -/
  indent : Int := -1
  /-- The columns of the block collections around it. -/
  outer : List Int := []
  /-- The place of a possible key for each level of brackets, the innermost first. -/
  keys : List (Option KeyPlace) := [none]
  /-- A key may begin here. -/
  keyAllowed : Bool := true
  /-- How many tokens have left the queue. -/
  taken : Nat := 0
  queue : List Token := []
  finished : Bool := false

namespace Scanner

/-! ## Tokens and indentation -/

/-- Adds a token at the end of the queue. -/
def push (s : Scanner) (token : Token) : Scanner := { s with queue := s.queue ++ [token] }

/-- Inserts a token before the one with a number. -/
def insert (s : Scanner) (number : Nat) (token : Token) : Scanner :=
  let place := number - s.taken
  { s with queue := s.queue.take place ++ token :: s.queue.drop place }

/-- Moves over `n` characters of the line. -/
def skip (s : Scanner) (n : Nat) : Scanner := { s with cursor := s.cursor.skip n }

/-- Closes the block collections to the right of a column. -/
def unroll (s : Scanner) (column : Int) : Scanner :=
  if s.flow > 0 then s else go s s.outer
where
  /-- The same, along the columns of the collections around. -/
  go (s : Scanner) : List Int → Scanner
    | [] => s
    | above :: rest =>
      if s.indent > column then
        go { s.push .blockEnd with indent := above, outer := rest } rest
      else s

/-- Opens a block collection at a column, if it is to the right of the innermost
one. The token goes before the one with the given number, or to the end. -/
def roll (s : Scanner) (column : Nat) (number : Option Nat) (token : Token) : Scanner :=
  if s.flow > 0 then s
  else if s.indent < column then
    let s := { s with outer := s.indent :: s.outer, indent := column }
    match number with
    | some n => s.insert n token
    | none => s.push token
  else s

/-! ## Possible keys -/

/-- Forgets possible keys that are too far back; a required one may not be. -/
def dropStale (s : Scanner) : Option Scanner := do
  let keys ← s.keys.mapM fun
    | none => some none
    | some key =>
      if key.line < s.cursor.line ∨ key.index + 1024 < s.cursor.index then
        if key.required then none else some none
      else some (some key)
  some { s with keys }

/-- Forgets the possible key of this level; a required one may not be forgotten. -/
def dropKey (s : Scanner) : Option Scanner :=
  match s.keys with
  | some key :: rest => if key.required then none else some { s with keys := none :: rest }
  | _ => some s

/-- Notes that a key may begin here. -/
def saveKey (s : Scanner) : Option Scanner :=
  if s.keyAllowed then do
    let place : KeyPlace :=
      { required := s.flow = 0 ∧ s.indent = (s.cursor.column : Int)
        number := s.taken + s.queue.length
        index := s.cursor.index
        line := s.cursor.line
        column := s.cursor.column }
    let s ← s.dropKey
    some { s with keys := some place :: s.keys.drop 1 }
  else some s

/-- Opens a level of brackets. -/
def openFlow (s : Scanner) : Scanner := { s with flow := s.flow + 1, keys := none :: s.keys }

/-- Closes a level of brackets. -/
def closeFlow (s : Scanner) : Scanner :=
  if s.flow > 0 then { s with flow := s.flow - 1, keys := s.keys.drop 1 } else s

/-! ## Directives -/

/-- The number of a version, of at most nine digits. -/
def versionNumber (c : Cursor) : Option (Nat × Cursor) :=
  let digits := c.rest.takeWhile Char.isDigit
  if digits.isEmpty ∨ digits.length > 9 then none
  else some (digits.foldl (fun n d => n * 10 + (d.toNat - '0'.toNat)) 0, c.skip digits.length)

/-- A tag handle; in a directive it has to be complete. -/
def tagHandle (directive : Bool) (c : Cursor) : Option (List Char × Cursor) :=
  if c.sees '!' then
    let word := (c.rest.drop 1).takeWhile isWord
    let c := c.skip (word.length + 1)
    if c.sees '!' then some ('!' :: word ++ ['!'], c.skip 1)
    else if directive ∧ ¬ word.isEmpty then none
    else some ('!' :: word, c)
  else none

/-- The characters of a tag address; a verbatim one may hold three more. -/
def isAddress (verbatim : Bool) (c : Char) : Bool :=
  isWord c || ";/?:@&=+$.!~*'()%".toList.contains c || (verbatim && ",[]".toList.contains c)

/-- The bytes of consecutive percent escapes, as many as the first one announces. -/
def escapedBytes : Nat → Cursor → Option (List UInt8 × Cursor)
  | 0, c => some ([], c)
  | n + 1, c =>
    match c.rest with
    | '%' :: a :: b :: _ => do
      let byte ← hexNumber [a, b]
      let (bytes, c) ← escapedBytes n (c.skip 3)
      some (byte.toUInt8 :: bytes, c)
    | _ => none

/-- The character that percent escapes write in UTF-8. -/
def addressEscape (c : Cursor) : Option (Char × Cursor) := do
  let (first, _) ← escapedBytes 1 c
  let width ← match first with
    | [byte] =>
      if byte < 0x80 then some 1
      else if byte &&& 0xE0 == 0xC0 then some 2
      else if byte &&& 0xF0 == 0xE0 then some 3
      else if byte &&& 0xF8 == 0xF0 then some 4
      else none
    | _ => none
  let (bytes, c) ← escapedBytes width c
  let text ← String.fromUTF8? ⟨bytes.toArray⟩
  match text.toList with
  | [x] => some (x, c)
  | _ => none

/-- A tag address. -/
def tagAddress (verbatim : Bool) : Nat → List Char → Cursor → Option (List Char × Cursor)
  | 0, text, c => some (text, c)
  | fuel + 1, text, c =>
    match c.rest with
    | '%' :: _ => do
      let (x, c) ← addressEscape c
      tagAddress verbatim fuel (text ++ [x]) c
    | x :: _ =>
      if isAddress verbatim x then tagAddress verbatim fuel (text ++ [x]) (c.skip 1)
      else some (text, c)
    | [] => some (text, c)

/-- A directive, whose percent sign is next, with the rest of its line. -/
def directive (c : Cursor) : Option (Token × Cursor) := do
  let c := c.skip 1
  let name := c.rest.takeWhile isWord
  let c := c.skip name.length
  if name.isEmpty ∨ ¬ c.gapAhead 0 then none
  else
    let (token, c) ←
      if name = "YAML".toList then do
        let (major, c) ← versionNumber (c.skipWhile isBlank)
        if ¬ c.sees '.' then none
        else
          let (minor, c) ← versionNumber (c.skip 1)
          some (Token.version major minor, c)
      else if name = "TAG".toList then do
        let (handle, c) ← tagHandle true (c.skipWhile isBlank)
        if ¬ c.blankAhead 0 then none
        else
          let (address, c) ← tagAddress true c.rest.length [] (c.skipWhile isBlank)
          if address.isEmpty ∨ ¬ c.gapAhead 0 then none
          else some (Token.tagDirective (String.ofList handle) (String.ofList address), c)
      else none
    let c ← pastComment c
    some (token, c)

/-! ## Anchors and tags -/

/-- The name of an anchor or alias after its indicator. -/
def anchorName (c : Cursor) : Option (String × Cursor) :=
  let c := c.skip 1
  let name := c.rest.takeWhile isWord
  let c := c.skip name.length
  let ends := c.gapAhead 0 || c.rest.head?.any fun x => "?:,]\x7d%@`".toList.contains x
  if name.isEmpty || !ends then none else some (String.ofList name, c)

/-- A tag, whose exclamation mark is next. -/
def tagToken (flow : Bool) (c : Cursor) : Option (Token × Cursor) := do
  let (handle, suffix, c) ←
    if c.ahead 1 '<' then do
      let (address, c) ← tagAddress true c.rest.length [] (c.skip 2)
      if address.isEmpty ∨ ¬ c.sees '>' then none else some ([], address, c.skip 1)
    else do
      let (handle, c) ← tagHandle false c
      if handle.length > 1 ∧ handle.getLast? = some '!' then
        let (address, c) ← tagAddress false c.rest.length [] c
        if address.isEmpty then none else some (handle, address, c)
      else
        let (address, c) ← tagAddress false c.rest.length (handle.drop 1) c
        if address.isEmpty then some ([], ['!'], c) else some (['!'], address, c)
  if (flow ∧ c.sees ',') ∨ c.gapAhead 0 then
    some (.tag (String.ofList handle) (String.ofList suffix), c)
  else none

/-! ## One token -/

/-- Passes over blanks, comments and line breaks before the next token. -/
def toNextToken : Nat → Scanner → Scanner
  | 0, s => s
  | fuel + 1, s =>
    let s := if s.cursor.index = 0 ∧ s.cursor.sees '\ufeff' then s.skip 1 else s
    let tabs := s.flow > 0 ∨ ¬ s.keyAllowed
    let c := s.cursor.skipWhile fun x => x == ' ' || (tabs && x == '\t')
    let c := if c.sees '#' then c.skipWhile fun x => !isBreak x else c
    if c.breakAhead 0 then
      toNextToken fuel { s with cursor := c.skipLine, keyAllowed := s.keyAllowed || s.flow == 0 }
    else { s with cursor := c }

/-- The end of the text. -/
def fetchEnd (s : Scanner) : Option Scanner := do
  let c := s.cursor
  let c := if c.column = 0 then c else { c with column := 0, line := c.line + 1 }
  let s ← ({ s with cursor := c }.unroll (-1)).dropKey
  some { s.push .streamEnd with keyAllowed := false, finished := true }

/-- A document marker of three characters. -/
def fetchMarker (s : Scanner) (token : Token) : Option Scanner := do
  let s ← (s.unroll (-1)).dropKey
  some ({ s with keyAllowed := false }.push token |>.skip 3)

/-- A directive line. -/
def fetchDirective (s : Scanner) : Option Scanner := do
  let s ← (s.unroll (-1)).dropKey
  let (token, c) ← directive s.cursor
  some { s.push token with keyAllowed := false, cursor := c }

/-- An opening bracket. -/
def fetchOpening (s : Scanner) (token : Token) : Option Scanner := do
  let s ← s.saveKey
  some ({ s.openFlow with keyAllowed := true }.push token |>.skip 1)

/-- A closing bracket. -/
def fetchClosing (s : Scanner) (token : Token) : Option Scanner := do
  let s ← s.dropKey
  some ({ s.closeFlow with keyAllowed := false }.push token |>.skip 1)

/-- A comma between brackets. -/
def fetchComma (s : Scanner) : Option Scanner := do
  let s ← s.dropKey
  some ({ s with keyAllowed := true }.push .flowEntry |>.skip 1)

/-- The hyphen of a block sequence. -/
def fetchHyphen (s : Scanner) : Option Scanner := do
  if s.flow = 0 ∧ ¬ s.keyAllowed then none
  else
    let s ← (s.roll s.cursor.column none .blockSequenceStart).dropKey
    some ({ s with keyAllowed := true }.push .blockEntry |>.skip 1)

/-- The question mark before an explicit key. -/
def fetchQuestion (s : Scanner) : Option Scanner := do
  if s.flow = 0 ∧ ¬ s.keyAllowed then none
  else
    let s ← (s.roll s.cursor.column none .blockMappingStart).dropKey
    some ({ s with keyAllowed := s.flow == 0 }.push .key |>.skip 1)

/-- The colon before a value. If a key may have begun before it, that was a key. -/
def fetchColon (s : Scanner) : Option Scanner :=
  match s.keys with
  | some key :: rest =>
    let s := s.insert key.number .key
    let s := s.roll key.column (some key.number) .blockMappingStart
    some ({ s with keys := none :: rest, keyAllowed := false }.push .value |>.skip 1)
  | _ =>
    if s.flow = 0 ∧ ¬ s.keyAllowed then none
    else
      let s := s.roll s.cursor.column none .blockMappingStart
      some ({ s with keyAllowed := s.flow == 0 }.push .value |>.skip 1)

/-- An anchor or alias. -/
def fetchAnchor (s : Scanner) (token : String → Token) : Option Scanner := do
  let s ← s.saveKey
  let (name, c) ← anchorName s.cursor
  some { s.push (token name) with keyAllowed := false, cursor := c }

/-- A tag. -/
def fetchTag (s : Scanner) : Option Scanner := do
  let s ← s.saveKey
  let (token, c) ← tagToken (s.flow > 0) s.cursor
  some { s.push token with keyAllowed := false, cursor := c }

/-- A block scalar. -/
def fetchBlock (s : Scanner) (literal : Bool) : Option Scanner := do
  let s ← s.dropKey
  let (text, c) ← blockText literal s.indent s.size (s.cursor.skip 1)
  let token := Token.scalar (String.ofList text) (if literal then .literal else .folded)
  some { s.push token with keyAllowed := true, cursor := c }

/-- A quoted scalar. -/
def fetchQuoted (s : Scanner) (single : Bool) : Option Scanner := do
  let s ← s.saveKey
  let c := s.cursor.skip 1
  let (text, c) ← quotedText single (s.size + 2) [] c
  some { s.push (.scalar (String.ofList text) .quoted) with keyAllowed := false, cursor := c }

/-- A plain scalar. After a line break behind it a key may begin. -/
def fetchPlain (s : Scanner) : Option Scanner := do
  let s ← s.saveKey
  let c := s.cursor
  let (text, broken, c) ← plainText (s.flow > 0) (s.indent + 1) (s.size + 1) [] {} c
  some { s.push (.scalar (String.ofList text) .plain) with keyAllowed := broken, cursor := c }

/-- The characters that are indicators at the start of a token. -/
def isIndicator (c : Char) : Bool := "-?:,[]\x7b\x7d#&*!|>'\"%@`".toList.contains c

/-- Reads the next token into the queue. -/
def fetch (s : Scanner) : Option Scanner := do
  let s := toNextToken (s.size + 1) s
  let s ← s.dropStale
  let s := s.unroll s.cursor.column
  let c := s.cursor
  match c.rest with
  | [] => s.fetchEnd
  | x :: _ =>
    let gap := c.gapAhead 1
    let inFlow := s.flow > 0
    if c.column = 0 ∧ x = '%' then s.fetchDirective
    else if c.atMarker '-' then s.fetchMarker .documentStart
    else if c.atMarker '.' then s.fetchMarker .documentEnd
    else if x = '[' then s.fetchOpening .flowSequenceStart
    else if x = '\x7b' then s.fetchOpening .flowMappingStart
    else if x = ']' then s.fetchClosing .flowSequenceEnd
    else if x = '\x7d' then s.fetchClosing .flowMappingEnd
    else if x = ',' then s.fetchComma
    else if x = '-' ∧ gap then s.fetchHyphen
    else if x = '?' ∧ (inFlow ∨ gap) then s.fetchQuestion
    else if x = ':' ∧ (inFlow ∨ gap) then s.fetchColon
    else if x = '*' then s.fetchAnchor .link
    else if x = '&' then s.fetchAnchor .anchor
    else if x = '!' then s.fetchTag
    else if x = '|' ∧ ¬ inFlow then s.fetchBlock true
    else if x = '>' ∧ ¬ inFlow then s.fetchBlock false
    else if x = '\'' then s.fetchQuoted true
    else if x = '"' then s.fetchQuoted false
    else if ¬ (isBlank x ∨ isIndicator x) ∨ (x = '-' ∧ ¬ c.blankAhead 1) ∨
        (¬ inFlow ∧ (x = '?' ∨ x = ':') ∧ ¬ gap) then s.fetchPlain
    else none

/-! ## All tokens -/

/-- Takes tokens from the queue as they become certain, and reads on when none is.
The list is in reverse; the flag tells that the text ended well. -/
def run : Nat → List Token → Scanner → List Token × Bool
  | 0, done, _ => (done, false)
  | fuel + 1, done, s =>
    match s.queue with
    | [] =>
      if s.finished then (done, true)
      else
        match s.fetch with
        | some s => run fuel done s
        | none => (done, false)
    | token :: queue =>
      match s.dropStale with
      | none => (done, false)
      | some s =>
        if s.keys.any fun key => key.any fun place => place.number == s.taken then
          match s.fetch with
          | some s => run fuel done s
          | none => (done, false)
        else run fuel (token :: done) { s with queue, taken := s.taken + 1 }

end Scanner

/-- The tokens of a text up to its first fault, and whether there is none. -/
def tokens (text : List Char) : List Token × Bool :=
  if text.all isAllowed then
    let start : Scanner := { cursor := { rest := text }, size := text.length }
    let (done, sound) := Scanner.run (8 * text.length + 32) [] start
    (done.reverse, sound)
  else ([], false)

end ProviderGen.Yaml
