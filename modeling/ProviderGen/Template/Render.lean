/-
Rendering templates.

Names are looked up in frames, the innermost first. A loop opens a frame for each of its
items, which holds the item and the place in the loop; a definition goes into the frame
where it stands and ends with it. A choice opens no frame. A name that has no value is
a fault, except as a condition, where it counts as false. Of the filters and tests of the
template language those are known that the built-in templates use, and the two filters that
the generator brings along.
-/
import ProviderGen.Naming
import ProviderGen.Template.Basic
import ProviderGen.Text.Quoted

set_option autoImplicit false

namespace ProviderGen

open ProviderGen.Text

/-! ## Values -/

namespace Json

mutual

/-- Whether two values are equal. -/
def same : Json → Json → Bool
  | null, null => true
  | bool a, bool b => a == b
  | number a, number b => decide (a = b)
  | string a, string b => a == b
  | array a, array b => sameItems a b
  | object a, object b => sameMembers a b
  | _, _ => false

/-- Whether two lists of values are equal. -/
def sameItems : List Json → List Json → Bool
  | [], [] => true
  | a :: as, b :: bs => same a b && sameItems as bs
  | _, _ => false

/-- Whether two lists of members are equal. -/
def sameMembers : List (String × Json) → List (String × Json) → Bool
  | [], [] => true
  | (k, a) :: as, (l, b) :: bs => k == l && same a b && sameMembers as bs
  | _, _ => false

end

/-- Whether a value counts as true. -/
def isTruthy : Json → Bool
  | null => false
  | bool b => b
  | number (.whole n) => n != 0
  | number (.double x) => decide (x ≠ .zero false ∧ x ≠ .zero true)
  | string s => s != ""
  | array items => !items.isEmpty
  | object members => !members.isEmpty

mutual

/-- The text in which a template shows a value. -/
def shown : Json → String
  | null => ""
  | bool b => if b then "true" else "false"
  | number n => n.text
  | string s => s
  | array items => "[" ++ shownItems items ++ "]"
  | object _ => "[object]"

/-- The items of an array as a template shows them. -/
def shownItems : List Json → String
  | [] => ""
  | [item] => item.shown
  | item :: rest => item.shown ++ ", " ++ shownItems rest

end

/-- The place in a list that a key names. -/
def index? (key : String) : Option Nat :=
  let digits := key.toList
  if digits = [] ∨ !digits.all isAsciiDigit ∨ (digits.head? = some '0' ∧ digits ≠ ['0']) then none
  else some (digits.foldl (fun n c => n * 10 + (c.toNat - '0'.toNat)) 0)

/-- The value under a key or at a place. -/
def child? (key : String) : Json → Option Json
  | object members => members.lookup key
  | array items => (index? key).bind fun i => items[i]?
  | _ => none

/-- The value at the end of some keys. -/
def follow? : List String → Json → Option Json
  | [], value => some value
  | key :: keys, value => (value.child? key).bind (follow? keys)

end Json

/-! ## Faults -/

/-- Why a template cannot be rendered. -/
inductive RenderFault where
  | unknownName (path : List String)
  | unknownFilter (name : String)
  | filterFailed (name reason : String)
  | unknownTest (name : String)
  | testFailed (name reason : String)
  | notComparable
  | notJoinable (path : List String)
  | notIterable (name : String)
  deriving DecidableEq, Repr

/-- The reasons of a fault in a template, from the outside in. -/
def RenderFault.reasons (template : String) : RenderFault → List String
  | unknownName path =>
    ["Variable `" ++ ".".intercalate path ++ "` not found in context while rendering '" ++
      template ++ "'"]
  | unknownFilter name => ["Filter '" ++ name ++ "' not found"]
  | filterFailed name reason => ["Filter call '" ++ name ++ "' failed", reason]
  | unknownTest name => ["Test '" ++ name ++ "' not found"]
  | testFailed name reason => ["Test call '" ++ name ++ "' failed", reason]
  | notComparable => ["Comparison to NaN"]
  | notJoinable path =>
    ["Tried to concat a value that is not a string or a number from ident " ++
      ".".intercalate path]
  | notIterable name =>
    ["Tried to iterate on a container (`" ++ name ++ "`) that has a unsupported type"]

/-- A value or a fault. -/
abbrev Rendering (α : Type) := Except RenderFault α

/-! ## Frames -/

/-- A place in a loop. -/
structure LoopPlace where
  name : String
  item : Json
  index : Nat
  count : Nat
  deriving Repr

/-- What one level of a template knows. -/
structure Frame where
  bindings : List (String × Json) := []
  loop : Option LoopPlace := none
  deriving Repr

/-- The frames, the innermost first. -/
abbrev Scope := List Frame

/-- What a place in a loop has under a path. -/
def LoopPlace.lookup? (place : LoopPlace) (path : List String) : Option Json :=
  if path = ["loop", "index"] then some (.nat (place.index + 1))
  else if path = ["loop", "index0"] then some (.nat place.index)
  else if path = ["loop", "first"] then some (.bool (place.index == 0))
  else if path = ["loop", "last"] then some (.bool (place.index + 1 == place.count))
  else
    match path with
    | [] => none
    | head :: keys => if head = place.name then place.item.follow? keys else none

/-- What a frame has under a path. -/
def Frame.lookup? (frame : Frame) (path : List String) : Option Json :=
  match path with
  | [] => none
  | head :: keys =>
    ((frame.bindings.lookup head).bind (Json.follow? keys)).orElse fun _ =>
      frame.loop.bind fun place => place.lookup? path

namespace Scope

/-- The value of a path in the innermost frame that has one. -/
def lookup? (scope : Scope) (path : List String) : Option Json :=
  scope.findSome? fun frame => frame.lookup? path

/-- The value of a path, or a fault. -/
def lookup (scope : Scope) (path : List String) : Rendering Json :=
  match scope.lookup? path with
  | some value => .ok value
  | none => .error (.unknownName path)

/-- The scope with a name defined in its innermost frame. -/
def define (name : String) (value : Json) : Scope → Scope
  | [] => [{ bindings := [(name, value)] }]
  | frame :: outer => { frame with bindings := (name, value) :: frame.bindings } :: outer

end Scope

/-! ## Filters and tests -/

/-- A text with every occurrence of another text replaced; the fuel is the length of
the text. -/
def replaceChars (old new : List Char) : Nat → List Char → List Char
  | 0, s => s
  | _ + 1, [] => []
  | fuel + 1, c :: rest =>
    if old.isPrefixOf (c :: rest) then
      new ++ replaceChars old new fuel ((c :: rest).drop old.length)
    else c :: replaceChars old new fuel rest

/-- A text with every occurrence of another text, which is not empty, replaced. -/
def replaceAll (s old new : String) : String :=
  if old = "" then s
  else String.ofList (replaceChars old.toList new.toList s.toList.length s.toList)

/-- The items whose value under a key is the given one; without a value, those
that have any. -/
def selectItems (key : String) (wanted : Json) (items : List Json) : List Json :=
  items.filter fun item =>
    let found := (item.child? key).getD .null
    match wanted with
    | .null => !found.same .null
    | value => found.same value

/-- The value of a filter, if it is one of the generator or of the built-in templates; any other
is not found. -/
def applyFilter (name : String) (arguments : List (String × Json)) (value : Json) :
    Rendering Json :=
  let failed (reason : String) : Rendering Json := .error (.filterFailed name reason)
  if name = "go_string" then
    match value with
    | .string s => .ok (.string (quote s))
    | _ => failed "go_string filter expects a string"
  else if name = "pascal_case" then
    match value with
    | .string s => .ok (.string (Naming.pascal s))
    | _ => failed "pascal_case filter expects a string"
  else if name = "length" then
    match value with
    | .array items => .ok (.nat items.length)
    | .object members => .ok (.nat members.length)
    | .string s => .ok (.nat s.length)
    | _ => failed "Filter `length` was used on a value that isn't an array, an object, or a string."
  else if name = "first" then
    match value with
    | .array items => .ok (items.head?.getD (.string ""))
    | _ => failed "Filter `first` was called on an incorrect value"
  else if name = "filter" then
    match value, arguments.lookup "attribute" with
    | .array items, some (.string key) =>
      .ok (.array (selectItems key ((arguments.lookup "value").getD .null) items))
    | _, _ => failed "Filter `filter` was called on an incorrect value"
  else if name = "replace" then
    match value, arguments.lookup "from", arguments.lookup "to" with
    | .string s, some (.string old), some (.string new) => .ok (.string (replaceAll s old new))
    | _, _, _ => failed "Filter `replace` was called on an incorrect value"
  else .error (.unknownFilter name)

/-- The outcome of a test on a value, if there is one. The only test known is the one that the
built-in templates make. -/
def applyTest (name : String) (arguments : List Json) (value : Option Json) : Rendering Bool :=
  if name = "starting_with" then
    match value, arguments with
    | some (.string s), [.string start] => .ok (start.toList.isPrefixOf s.toList)
    | _, _ => .error (.testFailed name "Tester `starting_with` was called on an incorrect value")
  else .error (.unknownTest name)

/-! ## Expressions -/

/-- Whether an expression, as a condition, counts as false where it has no value. -/
def Expr.isLenient : Expr → Bool
  | .name _ => true
  | .filter value _ _ => value.isLenient
  | _ => false

/-- An expression as a condition, given its value. -/
def Expr.holds (e : Expr) (value : Rendering Json) : Rendering Bool :=
  match value with
  | .ok v => .ok v.isTruthy
  | .error fault => if e.isLenient then .ok false else .error fault

/-- The outcome of a comparison. -/
def Comparison.apply (comparison : Comparison) (left right : Json) : Rendering Bool :=
  match comparison, left, right with
  | .equal, _, _ => .ok (left.same right)
  | .different, _, _ => .ok (!left.same right)
  | .less, .number (.whole a), .number (.whole b) => .ok (decide (a < b))
  | .lessOrEqual, .number (.whole a), .number (.whole b) => .ok (decide (a ≤ b))
  | .greater, .number (.whole a), .number (.whole b) => .ok (decide (a > b))
  | .greaterOrEqual, .number (.whole a), .number (.whole b) => .ok (decide (a ≥ b))
  | _, _, _ => .error .notComparable

/-- The text of a value that is joined to others. -/
def joinable (e : Expr) (value : Json) : Rendering String :=
  match value, e with
  | .string s, _ => .ok s
  | .number n, _ => .ok n.text
  | _, .name path => .error (.notJoinable path)
  | _, _ => .error (.notJoinable [])

mutual

/-- The value of an expression. -/
def Expr.eval (scope : Scope) : Expr → Rendering Json
  | .name path => scope.lookup path
  | .text s => .ok (.string s)
  | .number n => .ok (.number (.whole n))
  | .flag b => .ok (.bool b)
  | .list items => do return .array (← Expr.evalAll scope items)
  | .join items => do return .string (← Expr.evalJoin scope items)
  | .filter value filterName arguments => do
    let input ← value.eval scope
    let given ← Expr.evalArguments scope arguments
    applyFilter filterName given input
  | .test path testName arguments => do
    let given ← Expr.evalAll scope arguments
    return .bool (← applyTest testName given (scope.lookup? path))
  | .compare comparison left right => do
    let l ← left.eval scope
    let r ← right.eval scope
    return .bool (← comparison.apply l r)
  | .negate condition => do return .bool (!(← condition.holds (condition.eval scope)))
  | .both left right => do
    if ← left.holds (left.eval scope) then return .bool (← right.holds (right.eval scope))
    else return .bool false
  | .either left right => do
    if ← left.holds (left.eval scope) then return .bool true
    else return .bool (← right.holds (right.eval scope))

/-- The values of expressions in order. -/
def Expr.evalAll (scope : Scope) : List Expr → Rendering (List Json)
  | [] => .ok []
  | e :: rest => do return (← e.eval scope) :: (← Expr.evalAll scope rest)

/-- The joined texts of the values of expressions. -/
def Expr.evalJoin (scope : Scope) : List Expr → Rendering String
  | [] => .ok ""
  | e :: rest => do
    let first ← joinable e (← e.eval scope)
    return first ++ (← Expr.evalJoin scope rest)

/-- The values of named arguments. -/
def Expr.evalArguments (scope : Scope) : List (String × Expr) → Rendering (List (String × Json))
  | [] => .ok []
  | (key, e) :: rest => do
    let value ← e.eval scope
    return (key, value) :: (← Expr.evalArguments scope rest)

end

/-- Whether an expression holds as a condition. -/
def Expr.truth (scope : Scope) (e : Expr) : Rendering Bool := e.holds (e.eval scope)

/-! ## Parts -/

/-- The name under which faults know what a loop runs over. -/
def Expr.containerName : Expr → String
  | .name path => ".".intercalate path
  | .filter value _ _ => value.containerName
  | _ => "an array literal"

/-- The items of a value that a loop runs over; those of a text are its characters. -/
def itemsOf (name : String) : Json → Rendering (List Json)
  | .array items => .ok items
  | .string s => .ok (s.toList.map fun c => .string (String.singleton c))
  | _ => .error (.notIterable name)

/-- The texts of a loop body for the items from a place on, in the scope around the loop. -/
def renderLoop (name : String) (count : Nat) (scope : Scope)
    (body : Scope → Rendering (String × Scope)) : Nat → List Json → Rendering String
  | _, [] => .ok ""
  | index, item :: rest => do
    let (text, _) ← body ({ loop := some { name, item, index, count } } :: scope)
    return text ++ (← renderLoop name count scope body (index + 1) rest)

mutual

/-- The text of a part, and the scope for the parts that follow. -/
def Part.render : Part → Scope → Rendering (String × Scope)
  | .text s, scope => .ok (s, scope)
  | .put value, scope => do return ((← value.eval scope).shown, scope)
  | .define name value, scope => do return ("", scope.define name (← value.eval scope))
  | .choose branches otherwise, scope =>
    Part.renderChoice branches (fun scope => Part.renderAll otherwise scope) scope
  | .each name items body, scope => do
    let values ← itemsOf items.containerName (← items.eval scope)
    let shown ← renderLoop name values.length scope
      (fun scope => Part.renderAll body scope) 0 values
    return (shown, scope)

/-- The text of the first branch whose condition holds. -/
def Part.renderChoice :
    List (Expr × List Part) → (Scope → Rendering (String × Scope)) → Scope →
      Rendering (String × Scope)
  | [], otherwise, scope => otherwise scope
  | (condition, body) :: rest, otherwise, scope => do
    if ← condition.truth scope then Part.renderAll body scope
    else Part.renderChoice rest otherwise scope

/-- The text of parts in order. -/
def Part.renderAll : List Part → Scope → Rendering (String × Scope)
  | [], scope => .ok ("", scope)
  | part :: rest, scope => do
    let (first, scope) ← part.render scope
    let (others, scope) ← Part.renderAll rest scope
    return (first ++ others, scope)

end

/-! ## Templates -/

/-- The text of a template called `name`, or the reasons why there is none. -/
def Template.render (name : String) (template : Template) (context : List (String × Json)) :
    Except (List String) String :=
  match Part.renderAll template [{}, { bindings := context }] with
  | .ok (text, _) => .ok text
  | .error fault => .error (("Failed to render '" ++ name ++ "'") :: fault.reasons name)

end ProviderGen
