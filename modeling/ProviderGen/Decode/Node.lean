/-
A document as a reader of JSON or YAML text has found it.

A node is a value together with what may be wrong with its text. Where the text
breaks off, the tree holds `broken`, and the containers around that place are left
open; since decoding visits a tree in the order of its text, the first fault in
text order is the one it meets first. A scalar carries one view for each kind of
target, because the same text may be a number to one and a word to another.
-/
import ProviderGen.Decode.Fault
import ProviderGen.Json.Basic

set_option autoImplicit false

namespace ProviderGen

/-! ## Scalars -/

/-- A scalar as a target without a type of its own sees it. -/
inductive Atom where
  | null
  | bool (b : Bool)
  | number (n : Number)
  /-- An infinity or a value that is no number. -/
  | nonFinite
  /-- A whole number that does not fit 64 bits and is not taken for a double. -/
  | huge
  | text (s : String)
  deriving Repr, Inhabited

/-- A scalar, by what each kind of target makes of it. -/
structure Scalar where
  /-- What a text target reads. -/
  text : Option String
  /-- What a truth value target reads. -/
  flag : Option Bool
  /-- Whether an optional target reads it as nothing. -/
  absent : Except Fault Bool
  /-- Whether it stands for an empty list, map or record. -/
  hollow : Bool
  /-- Whether it bears a tag that belongs to the document and not to the format. -/
  tagged : Bool
  /-- What a target without a type reads. -/
  value : Except Fault Atom

namespace Scalar

/-- A scalar whose own type is all that any target sees. -/
def ofAtom (atom : Atom) : Scalar where
  text := match atom with
    | .text s => some s
    | _ => none
  flag := match atom with
    | .bool b => some b
    | _ => none
  absent := .ok (match atom with
    | .null => true
    | _ => false)
  hollow := false
  tagged := false
  value := .ok atom

/-- An empty document: nothing to an optional target, an empty container to the others. -/
def void : Scalar where
  text := none
  flag := none
  absent := .ok true
  hollow := true
  tagged := false
  value := .ok .null

end Scalar

/-! ## Nodes -/

/-- How the text of a list or record ends. -/
inductive Ending where
  | closed
  /-- The text goes wrong after the last member. -/
  | broken
  /-- A record that opens with a value in the place of its first key. -/
  | misplaced
  deriving DecidableEq, Repr, Inhabited

/-- A value in a document. -/
inductive Node where
  | scalar (s : Scalar)
  | list (tagged : Bool) (items : List Node) (ending : Ending)
  | record (tagged : Bool) (members : List (Node × Node)) (ending : Ending)
  /-- Stands for the node that bears the anchor. -/
  | link (anchor : Nat)
  /-- A value that may be skipped but not read. -/
  | unreadable
  /-- The place where the text goes wrong. -/
  | broken
  deriving Inhabited

namespace Node

mutual

/-- Whether the text of the node runs to its end without a break. -/
def intact : Node → Bool
  | scalar _ => true
  | list _ items ending => ending == .closed && intactItems items
  | record _ members ending => ending == .closed && intactMembers members
  | link _ => true
  | unreadable => true
  | broken => false

/-- Whether all items are intact. -/
def intactItems : List Node → Bool
  | [] => true
  | item :: rest => item.intact && intactItems rest

/-- Whether all keys and values are intact. -/
def intactMembers : List (Node × Node) → Bool
  | [] => true
  | (key, value) :: rest => key.intact && value.intact && intactMembers rest

end

end Node

/-! ## JSON values as nodes -/

namespace Json

mutual

/-- The node of a JSON value: every part is readable and every container closed. -/
def node : Json → Node
  | null => .scalar (.ofAtom .null)
  | bool b => .scalar (.ofAtom (.bool b))
  | number n => .scalar (.ofAtom (.number n))
  | string s => .scalar (.ofAtom (.text s))
  | array items => .list false (nodes items) .closed
  | object members => .record false (memberNodes members) .closed

/-- The nodes of the items of an array. -/
def nodes : List Json → List Node
  | [] => []
  | item :: rest => item.node :: nodes rest

/-- The nodes of the members of an object. -/
def memberNodes : List (String × Json) → List (Node × Node)
  | [] => []
  | (key, value) :: rest => (.scalar (.ofAtom (.text key)), value.node) :: memberNodes rest

end

mutual

/-- The number of containers around the innermost value. -/
def depth : Json → Nat
  | array items => depthItems items + 1
  | object members => depthMembers members + 1
  | _ => 0

/-- The greatest depth of an item. -/
def depthItems : List Json → Nat
  | [] => 0
  | item :: rest => max item.depth (depthItems rest)

/-- The greatest depth of a member. -/
def depthMembers : List (String × Json) → Nat
  | [] => 0
  | (_, value) :: rest => max value.depth (depthMembers rest)

end

end Json

end ProviderGen
