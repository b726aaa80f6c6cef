/-
From the tokens of a YAML text to its events.

The events are the values of the document in the order of the text: a scalar is one
event, and a list or record is an opening event, the events of its members and a
closing event. The grammar is a machine with a stack; its states are named for what
may come next. Each step looks at tokens only as far as its event needs them, so all
events before a missing or misplaced token are produced.
-/
import ProviderGen.Yaml.Token

set_option autoImplicit false

namespace ProviderGen.Yaml

/-! ## Events -/

/-- The anchor and the tag of a value. -/
structure Properties where
  anchor : Option String := none
  tag : Option String := none
  deriving Repr

/-- An event. -/
inductive Event where
  | documentStart
  | documentEnd
  | streamEnd
  | link (name : String)
  | scalar (properties : Properties) (text : String) (style : Style)
  | listStart (properties : Properties)
  | listEnd
  | recordStart (properties : Properties)
  | recordEnd
  deriving Repr

/-- The value that stands where the text has none. -/
def Event.empty : Event := .scalar {} "" .plain

/-! ## The machine -/

/-- What may come next. -/
inductive State where
  /-- A document, without a marker only at the start of the stream. -/
  | document (first : Bool)
  | documentContent
  | documentClose
  | blockNode
  | blockEntry (first : Bool)
  | indentlessEntry
  | blockKey (first : Bool)
  | blockValue
  | flowEntry (first : Bool)
  | pairKey
  | pairValue
  | pairClose
  | flowKey (first : Bool)
  | flowValue
  | flowMissingValue
  | done

/-- The machine between two events. -/
structure Machine where
  tokens : List Token
  state : State := .document true
  stack : List State := []
  /-- The addresses of the tag handles of this document. -/
  handles : List (String × String) := []

namespace Machine

/-- A step that produces an event, or nothing if the text is faulty here. -/
abbrev Result := Option (Event × Machine)

/-- The next token. -/
def peek (m : Machine) : Option Token := m.tokens.head?

/-- The machine after the next token. -/
def skip (m : Machine) : Machine := { m with tokens := m.tokens.drop 1 }

/-- Goes on in a state. -/
def goto (m : Machine) (state : State) : Machine := { m with state }

/-- Comes back to a state after the next value. -/
def later (m : Machine) (state : State) : Machine := { m with stack := state :: m.stack }

/-- Goes on with the state that was put aside last. -/
def resume (m : Machine) : Machine :=
  match m.stack with
  | [] => { m with state := .done }
  | state :: rest => { m with state, stack := rest }

/-- The event of a missing value. -/
def missing (m : Machine) (state : State) : Result := some (.empty, m.goto state)

/-! ## Values -/

/-- Anchor and tag before a value, in either order. -/
def properties (m : Machine) : Option (Option String × Option (String × String) × Machine) := do
  match ← m.peek with
  | .anchor name =>
    let m := m.skip
    match ← m.peek with
    | .tag handle suffix => some (some name, some (handle, suffix), m.skip)
    | _ => some (some name, none, m)
  | .tag handle suffix =>
    let m := m.skip
    match ← m.peek with
    | .anchor name => some (some name, some (handle, suffix), m.skip)
    | _ => some (none, some (handle, suffix), m)
  | _ => some (none, none, m)

/-- The full tag of a handle and a suffix. -/
def fullTag (m : Machine) (handle suffix : String) : Option String :=
  if handle = "" then some suffix else (m.handles.lookup handle).map (· ++ suffix)

/-- A value. Only in a block may it be a block collection, and only as a member of a
block mapping a sequence without an indentation of its own. -/
def node (m : Machine) (block indentless : Bool) : Result := do
  match ← m.peek with
  | .link name => some (.link name, m.skip.resume)
  | _ =>
    let (anchor, written, m) ← m.properties
    let tag ← match written with
      | none => some none
      | some (handle, suffix) => (m.fullTag handle suffix).map some
    let found : Properties := { anchor, tag }
    match ← m.peek with
    | .blockEntry =>
      if indentless then some (.listStart found, m.goto .indentlessEntry) else bare m found
    | .scalar text style =>
      let tag := if found.tag = some "!" then none else found.tag
      some (.scalar { found with tag } text style, m.skip.resume)
    | .flowSequenceStart => some (.listStart found, m.goto (.flowEntry true))
    | .flowMappingStart => some (.recordStart found, m.goto (.flowKey true))
    | .blockSequenceStart =>
      if block then some (.listStart found, m.goto (.blockEntry true)) else bare m found
    | .blockMappingStart =>
      if block then some (.recordStart found, m.goto (.blockKey true)) else bare m found
    | _ => bare m found
where
  /-- A value of which only the properties are written. -/
  bare (m : Machine) (found : Properties) : Result :=
    if found.anchor.isSome ∨ found.tag.isSome then some (.scalar found "" .plain, m.resume)
    else none

/-! ## Documents -/

/-- Passes over the directives before a document and notes the tag handles. -/
def directives : List Token → Bool → List (String × String) →
    Option (List Token × List (String × String))
  | .version major minor :: rest, versioned, handles =>
    if versioned ∨ major ≠ 1 ∨ (minor ≠ 1 ∧ minor ≠ 2) then none
    else directives rest true handles
  | .tagDirective handle address :: rest, versioned, handles =>
    if (handles.lookup handle).isSome then none
    else directives rest versioned (handles ++ [(handle, address)])
  | tokens, _, handles =>
    if tokens.isEmpty then none
    else some (tokens, handles ++ [("!", "!"), ("!!", "tag:yaml.org,2002:")])

/-- The start of a document or the end of the stream. -/
def document (m : Machine) (first : Bool) : Result := do
  let m := if first then m else
    { m with tokens := m.tokens.dropWhile fun token => token == .documentEnd }
  match ← m.peek with
  | .streamEnd => some (.streamEnd, m.skip.goto .done)
  | token =>
    let marked : Bool := match token with
      | .version _ _ => true
      | .tagDirective _ _ => true
      | .documentStart => true
      | _ => false
    let (tokens, handles) ← directives m.tokens false []
    let m := { m with tokens, handles }
    if first ∧ ¬ marked then some (.documentStart, (m.later .documentClose).goto .blockNode)
    else
      match ← m.peek with
      | .documentStart =>
        some (.documentStart, (m.later .documentClose).skip.goto .documentContent)
      | _ => none

/-- What follows the marker of a document. -/
def content (m : Machine) : Result := do
  match ← m.peek with
  | .version _ _ | .tagDirective _ _ | .documentStart | .documentEnd | .streamEnd =>
    some (.empty, m.resume)
  | _ => m.node true false

/-- The end of a document. -/
def close (m : Machine) : Result := do
  let token ← m.peek
  let m := if token = .documentEnd then m.skip else m
  some (.documentEnd, m.goto (.document false))

/-! ## Block collections -/

/-- An entry of a block sequence, or its end. -/
def blockEntry (m : Machine) : Result := do
  match ← m.peek with
  | .blockEntry =>
    let m := m.skip
    match ← m.peek with
    | .blockEntry | .blockEnd => m.missing (.blockEntry false)
    | _ => (m.later (.blockEntry false)).node true false
  | .blockEnd => some (.listEnd, m.skip.resume)
  | _ => none

/-- An entry of a sequence that is not indented, or its end. -/
def indentlessEntry (m : Machine) : Result := do
  match ← m.peek with
  | .blockEntry =>
    let m := m.skip
    match ← m.peek with
    | .blockEntry | .key | .value | .blockEnd => m.missing .indentlessEntry
    | _ => (m.later .indentlessEntry).node true false
  | _ => some (.listEnd, m.resume)

/-- A key of a block mapping, or its end. -/
def blockKey (m : Machine) : Result := do
  match ← m.peek with
  | .key =>
    let m := m.skip
    match ← m.peek with
    | .key | .value | .blockEnd => m.missing .blockValue
    | _ => (m.later .blockValue).node true true
  | .blockEnd => some (.recordEnd, m.skip.resume)
  | _ => none

/-- The value of a key in a block mapping. -/
def blockValue (m : Machine) : Result := do
  match ← m.peek with
  | .value =>
    let m := m.skip
    match ← m.peek with
    | .key | .value | .blockEnd => m.missing (.blockKey false)
    | _ => (m.later (.blockKey false)).node true true
  | _ => m.missing (.blockKey false)

/-! ## Flow collections -/

/-- Passes over the comma before a further member; nothing if there is none. -/
def pastComma (m : Machine) (first : Bool) : Option Machine :=
  if first then some m
  else
    match m.peek with
    | some .flowEntry => some m.skip
    | _ => none

/-- An entry between square brackets, or their end. -/
def flowEntry (m : Machine) (first : Bool) : Result := do
  match ← m.peek with
  | .flowSequenceEnd => some (.listEnd, m.skip.resume)
  | _ =>
    let m ← m.pastComma first
    match ← m.peek with
    | .key => some (.recordStart {}, m.skip.goto .pairKey)
    | .flowSequenceEnd => some (.listEnd, m.skip.resume)
    | _ => (m.later (.flowEntry false)).node false false

/-- The key of a pair between square brackets. -/
def pairKey (m : Machine) : Result := do
  match ← m.peek with
  | .value | .flowEntry | .flowSequenceEnd => m.skip.missing .pairValue
  | _ => (m.later .pairValue).node false false

/-- The value of a pair between square brackets. -/
def pairValue (m : Machine) : Result := do
  match ← m.peek with
  | .value =>
    let m := m.skip
    match ← m.peek with
    | .flowEntry | .flowSequenceEnd => m.missing .pairClose
    | _ => (m.later .pairClose).node false false
  | _ => m.missing .pairClose

/-- A key between braces, or their end. -/
def flowKey (m : Machine) (first : Bool) : Result := do
  match ← m.peek with
  | .flowMappingEnd => some (.recordEnd, m.skip.resume)
  | _ =>
    let m ← m.pastComma first
    match ← m.peek with
    | .key =>
      let m := m.skip
      match ← m.peek with
      | .value | .flowEntry | .flowMappingEnd => m.missing .flowValue
      | _ => (m.later .flowValue).node false false
    | .flowMappingEnd => some (.recordEnd, m.skip.resume)
    | _ => (m.later .flowMissingValue).node false false

/-- The value of a key between braces. -/
def flowValue (m : Machine) : Result := do
  match ← m.peek with
  | .value =>
    let m := m.skip
    match ← m.peek with
    | .flowEntry | .flowMappingEnd => m.missing (.flowKey false)
    | _ => (m.later (.flowKey false)).node false false
  | _ => m.missing (.flowKey false)

/-! ## All events -/

/-- The next event. -/
def step (m : Machine) : Result :=
  match m.state with
  | .document first => m.document first
  | .documentContent => m.content
  | .documentClose => m.close
  | .blockNode => m.node true false
  | .blockEntry first => (if first then m.skip else m).blockEntry
  | .indentlessEntry => m.indentlessEntry
  | .blockKey first => (if first then m.skip else m).blockKey
  | .blockValue => m.blockValue
  | .flowEntry first => (if first then m.skip else m).flowEntry first
  | .pairKey => m.pairKey
  | .pairValue => m.pairValue
  | .pairClose => m.peek.map fun _ => (.recordEnd, m.goto (.flowEntry false))
  | .flowKey first => (if first then m.skip else m).flowKey first
  | .flowValue => m.flowValue
  | .flowMissingValue => m.peek.bind fun _ => m.missing (.flowKey false)
  | .done => none

/-- The events from here on, as many as the first fault leaves. -/
def run : Nat → Machine → List Event
  | 0, _ => []
  | fuel + 1, m =>
    match m.step with
    | some (event, m) => event :: run fuel m
    | none => []

end Machine

/-- The events of a list of tokens. The last one is the end of the stream unless the
text is faulty. -/
def events (tokens : List Token) : List Event :=
  ({ tokens } : Machine).run (4 * tokens.length + 16)

end ProviderGen.Yaml
