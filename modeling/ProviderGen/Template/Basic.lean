/-
Templates: texts with places to fill in.

A template is a list of parts. A part is literal text, an expression whose value is
shown, a definition, a choice or a loop. Expressions look up names in a context of JSON
values and pass values through filters.
-/
import ProviderGen.Json.Basic

set_option autoImplicit false

namespace ProviderGen

/-! ## Expressions -/

/-- A comparison of two values. -/
inductive Comparison where
  | equal
  | different
  | less
  | lessOrEqual
  | greater
  | greaterOrEqual
  deriving DecidableEq, Repr

/-- An expression. -/
inductive Expr where
  /-- A name and the keys that lead on from its value. -/
  | name (path : List String)
  | text (s : String)
  | number (n : Int)
  | flag (b : Bool)
  | list (items : List Expr)
  /-- The texts of some values, one after the other. -/
  | join (items : List Expr)
  | filter (value : Expr) (filter : String) (arguments : List (String × Expr))
  /-- Whether the value of a name passes a test. -/
  | test (path : List String) (test : String) (arguments : List Expr)
  | compare (comparison : Comparison) (left right : Expr)
  | negate (condition : Expr)
  | both (left right : Expr)
  | either (left right : Expr)
  deriving Repr, Inhabited

/-! ## Parts -/

/-- A part of a template. -/
inductive Part where
  | text (s : String)
  /-- Shows a value. -/
  | put (value : Expr)
  /-- Defines a name for the parts that follow. -/
  | define (name : String) (value : Expr)
  /-- The body of the first branch whose condition holds, or else the last body. -/
  | choose (branches : List (Expr × List Part)) (otherwise : List Part)
  /-- The body once for each item. -/
  | each (name : String) (items : Expr) (body : List Part)
  deriving Repr, Inhabited

/-- A template. -/
abbrev Template := List Part

/-! ## Frequent parts -/

/-- Whether a name stands for a text. -/
def Expr.nameIs (path : List String) (s : String) : Expr := .compare .equal (.name path) (.text s)

/-- Whether the value of a name has items. -/
def Expr.hasItems (path : List String) : Expr :=
  .compare .greater (.filter (.name path) "length" []) (.number 0)

/-- Literal text, given line by line. -/
def Part.lines (lines : List String) : Part := .text ("\n".intercalate lines)

/-- Shows the value of a name. -/
def Part.slot (path : List String) : Part := .put (.name path)

/-- A body that is there if a condition holds. -/
def Part.given (condition : Expr) (body : List Part) : Part := .choose [(condition, body)] []

end ProviderGen
