/-
Decoders: from a node of a document to a value of a type.

A decoder is made of a few combinators, one for each shape a type can have. All of
them visit the node in the order of its text and stop at the first fault. Two
quantities run along: how many containers may still be opened, and how often an
alias has been followed. A record is described by its fields; each field knows how
its value changes the record under construction, so that one combinator serves
every record type.
-/
import ProviderGen.Decode.Node
import ProviderGen.Table

set_option autoImplicit false

namespace ProviderGen

/-! ## Decoders -/

/-- What a decoder has to know about the document around a node. -/
structure Setting where
  /-- The anchored nodes, by number. -/
  anchors : List (Nat × Node)
  /-- How often an alias may be followed. -/
  aliasLimit : Nat
  /-- Whether a record may be written as the list of its fields. -/
  listRecords : Bool

/-- A step of decoding; the state counts the aliases followed so far. -/
abbrev Step := StateT Nat (Except Fault)

/-- Reads a node as an `α`, with a number of containers that may still be opened. -/
abbrev Decoder (α : Type) := Setting → Nat → Node → Step α

namespace Decoder

variable {α β : Type}

/-- Stops with a fault. -/
def fail (fault : Fault) : Step α := fun _ => .error fault

/-- The node an alias stands for; any other node stands for itself. -/
def follow (setting : Setting) : Node → Step Node
  | .link anchor => do
    let followed ← get
    if followed ≥ setting.aliasLimit then fail .malformed
    else
      set (followed + 1)
      match setting.anchors.lookup anchor with
      | some node => pure node
      | none => fail .malformed
  | node => pure node

/-- The number of containers that may be opened inside one more container. -/
def enter : Nat → Step Nat
  | 0 => fail .malformed
  | depth + 1 => pure depth

/-- Demands that the text of a container ends well. -/
def close : Ending → Step Unit
  | .closed => pure ()
  | _ => fail .malformed

/-- The fault of a node that is not of the expected type. -/
def mismatch : Node → Step α
  | .unreadable => fail .malformed
  | .broken => fail .malformed
  | _ => fail .invalidType

/-! ## Scalars -/

/-- A text. -/
def text : Decoder String := fun setting _ node => do
  match ← follow setting node with
  | .scalar s =>
    match s.text with
    | some value => pure value
    | none => fail .invalidType
  | other => mismatch other

/-- A truth value. -/
def flag : Decoder Bool := fun setting _ node => do
  match ← follow setting node with
  | .scalar s =>
    match s.flag with
    | some value => pure value
    | none => fail .invalidType
  | other => mismatch other

/-- A value that may be absent. -/
def optional (decode : Decoder α) : Decoder (Option α) := fun setting depth node => do
  let node ← follow setting node
  match node with
  | .scalar s =>
    if ← liftExcept s.absent then pure none else some <$> decode setting depth node
  | _ => some <$> decode setting depth node
where
  /-- An outcome as a step. -/
  liftExcept {γ : Type} : Except Fault γ → Step γ
    | .ok value => pure value
    | .error fault => fail fault

/-! ## Lists and maps -/

/-- A list of values. -/
def list (decode : Decoder α) : Decoder (List α) := fun setting depth node => do
  match ← follow setting node with
  | .list _ items ending =>
    let depth ← enter depth
    let values ← items.mapM (decode setting depth)
    close ending
    pure values
  | .scalar s => if s.hollow then pure [] else fail .invalidType
  | other => mismatch other

/-- A map from texts; the last value of a key counts, in the place of the first. -/
def table (decode : Decoder α) : Decoder (Table α) := fun setting depth node => do
  match ← follow setting node with
  | .record _ members ending =>
    let depth ← enter depth
    let entries ← members.foldlM (fun entries (key, value) => do
      let key ← text setting depth key
      let value ← decode setting depth value
      pure (Table.put key value entries)) []
    close ending
    pure entries
  | .scalar s => if s.hollow then pure [] else fail .invalidType
  | other => mismatch other

/-! ## Records -/

/-- A field of a record type: its key, how its value changes the record, and
whether the record may lack it. -/
structure RecordField (ρ : Type) where
  name : String
  read : Decoder (ρ → ρ)
  required : Bool

/-- A field without which there is no record. -/
def required {ρ : Type} (name : String) (decode : Decoder α) (update : α → ρ → ρ) :
    RecordField ρ where
  name := name
  read := fun setting depth node => update <$> decode setting depth node
  required := true

/-- A field that keeps its default if it is left out. -/
def defaulted {ρ : Type} (name : String) (decode : Decoder α) (update : α → ρ → ρ) :
    RecordField ρ where
  name := name
  read := fun setting depth node => update <$> decode setting depth node
  required := false

/-- The field a key stands for, if it stands for one. A whole number that is not
negative stands for the field at that place. -/
def fieldOf {ρ : Type} (fields : List (RecordField ρ)) (setting : Setting) (key : Node) :
    Step (Option (RecordField ρ)) := do
  match ← follow setting key with
  | .scalar s =>
    match s.text, s.value with
    | some name, _ => pure (fields.find? fun field => field.name == name)
    | none, .ok (.number (.whole n)) =>
      if setting.listRecords ∧ 0 ≤ n then pure fields[n.toNat]? else fail .invalidType
    | none, _ => fail .invalidType
  | other => mismatch other

/-- Passes over the value of an unknown key, which only has to be complete. -/
def skip (node : Node) : Step Unit := if node.intact then pure () else fail .malformed

/-- Takes in one member of a record: the keys seen before and the record so far. -/
def member {ρ : Type} (fields : List (RecordField ρ)) (setting : Setting) (depth : Nat)
    (state : List String × ρ) (entry : Node × Node) : Step (List String × ρ) := do
  match ← fieldOf fields setting entry.1 with
  | some field =>
    if state.1.contains field.name then fail (.duplicateField field.name)
    else
      let update ← field.read setting depth entry.2
      pure (field.name :: state.1, update state.2)
  | none =>
    skip entry.2
    pure state

/-- Takes in the items of a record that is written as a list. -/
def positional {ρ : Type} (setting : Setting) (depth : Nat) (ending : Ending) :
    List (RecordField ρ) → List Node → ρ → Step ρ
  | [], [], record => do
    close ending
    pure record
  | [], _ :: _, _ => fail .malformed
  | field :: fields, [], record => do
    close ending
    if field.required then fail .invalidLength
    else positional setting depth ending fields [] record
  | field :: fields, item :: items, record => do
    let update ← field.read setting depth item
    positional setting depth ending fields items (update record)

/-- A record with the given fields, which starts as `blank`. -/
def record {ρ : Type} (fields : List (RecordField ρ)) (blank : ρ) : Decoder ρ :=
  fun setting depth node => do
    match ← follow setting node with
    | .record _ members ending =>
      let depth ← enter depth
      let (seen, result) ← members.foldlM (member fields setting depth) ([], blank)
      close ending
      complete seen result
    | .list _ items ending =>
      if setting.listRecords then
        let depth ← enter depth
        positional setting depth ending fields items blank
      else fail .invalidType
    | .scalar s => if s.hollow then complete [] blank else fail .invalidType
    | other => mismatch other
where
  /-- The record, if no required field is lacking. -/
  complete (seen : List String) (result : ρ) : Step ρ :=
    match fields.find? fun field => field.required && !seen.contains field.name with
    | some field => fail (.missingField field.name)
    | none => pure result

/-! ## Tagged alternatives -/

/-- One of several alternatives, written as a record of one member whose key names
the alternative, or as the bare name. `bare` answers a bare name and `tagged` reads
the value of a member; neither knows a name that is no alternative. -/
def alternative (bare : String → Option (Except Fault α)) (tagged : String → Option (Decoder α)) :
    Decoder α := fun setting depth node => do
  match node with
  | .scalar s =>
    match s.text with
    | some name =>
      match bare name with
      | some (.ok value) => pure value
      | some (.error fault) => fail fault
      | none => fail .unknownVariant
    | none => fail .malformed
  | .record _ members ending =>
    let depth ← enter depth
    match members with
    | [] => if ending = .misplaced then fail .invalidType else fail .malformed
    | (key, value) :: others =>
      let name ← text setting depth key
      match tagged name with
      | none => fail .unknownVariant
      | some decode =>
        let result ← decode setting depth value
        if others.isEmpty then
          close ending
          pure result
        else fail .malformed
  | _ => fail .malformed

/-- The value of an alternative that carries none. -/
def unit : Decoder Unit := fun setting _ node => do
  match ← follow setting node with
  | .scalar s =>
    match s.value with
    | .ok .null => pure ()
    | _ => fail .invalidType
  | other => mismatch other

/-! ## Values without a type -/

/-- Reads a node by what its scalars are on their own, following aliases, so that
several types can be tried on it. -/
def buffer (setting : Setting) : Nat → Node → Step Node
  | depth, node => do
    match ← follow setting node with
    | .scalar s =>
      if s.tagged then fail .malformed
      else
        match s.value with
        | .ok .huge => fail .invalidType
        | .ok atom => pure (.scalar (.ofAtom atom))
        | .error fault => fail fault
    | .list tagged items ending =>
      match depth with
      | 0 => fail .malformed
      | depth + 1 =>
        if tagged then fail .malformed
        else
          let items ← items.mapM (buffer setting depth)
          close ending
          pure (.list false items .closed)
    | .record tagged members ending =>
      match depth with
      | 0 => fail .malformed
      | depth + 1 =>
        if tagged then fail .malformed
        else
          let members ← members.mapM fun (key, value) => do
            let key ← buffer setting depth key
            let value ← buffer setting depth value
            pure (key, value)
          close ending
          pure (.record false members .closed)
    | _ => fail .malformed

/-- The setting of a buffered node. -/
def buffered (setting : Setting) : Setting := { setting with anchors := [], listRecords := true }

/-- A value of the type `name` that has several written forms, tried in turn on a
buffered node. Why a form does not fit is not reported. -/
def untagged (name : String) (forms : List (Decoder α)) : Decoder α := fun setting depth node => do
  let node ← buffer setting depth node
  let followed ← get
  match forms.findSome? fun form =>
      ((form (buffered setting) depth node).run followed).toOption with
  | some (value, _) => pure value
  | none => fail (.noVariant name)

/-- Inserts a member into members that are sorted by their keys; a present key
takes the new value. -/
def insertSorted (key : String) (value : Json) : List (String × Json) → List (String × Json)
  | [] => [(key, value)]
  | (k, v) :: rest =>
    if key = k then (key, value) :: rest
    else if key < k then (key, value) :: (k, v) :: rest
    else (k, v) :: insertSorted key value rest

/-- Any value, with the members of its objects sorted. -/
def literal (setting : Setting) : Nat → Node → Step Json
  | depth, node => do
    match ← follow setting node with
    | .scalar s =>
      if s.tagged then fail .invalidType
      else
        match s.value with
        | .ok .null => pure .null
        | .ok (.bool b) => pure (.bool b)
        | .ok (.number n) => pure (.number n)
        | .ok .nonFinite => pure .null
        | .ok .huge => fail .malformed
        | .ok (.text s) => pure (.string s)
        | .error fault => fail fault
    | .list tagged items ending =>
      if tagged then fail .invalidType
      else
        match depth with
        | 0 => fail .malformed
        | depth + 1 =>
          let items ← items.mapM (literal setting depth)
          close ending
          pure (.array items)
    | .record tagged members ending =>
      if tagged then fail .invalidType
      else
        match depth with
        | 0 => fail .malformed
        | depth + 1 =>
          let members ← members.foldlM (fun sorted (key, value) => do
            let key ← text setting depth key
            let value ← literal setting depth value
            pure (insertSorted key value sorted)) []
          close ending
          pure (.object members)
    | _ => fail .malformed

end Decoder

/-! ## Whole documents -/

/-- A document: its root, its anchored nodes, and whether its text ends with the root. -/
structure Reading where
  root : Node
  setting : Setting
  /-- How many containers may be nested. -/
  depth : Nat
  /-- Nothing but blanks follows the root. -/
  clean : Bool

/-- The value of a whole document. -/
def Reading.decode {α : Type} (reading : Reading) (decode : Decoder α) : Except Fault α := do
  let (value, _) ← (decode reading.setting reading.depth reading.root).run 0
  if reading.clean then pure value else throw .malformed

/-- A JSON value as a document of its own, as deep as it is. -/
def Json.reading (value : Json) : Reading where
  root := value.node
  setting := { anchors := [], aliasLimit := 0, listRecords := true }
  depth := value.depth
  clean := true

end ProviderGen
