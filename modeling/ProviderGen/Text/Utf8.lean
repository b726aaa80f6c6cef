/-
Text from bytes.

UTF-8 admits one byte sequence for each character. `decode` reads bytes up to the
first place that is no such sequence and tells where that is: either the bytes there
can begin no character, or the bytes end within a character.
-/
set_option autoImplicit false

namespace ProviderGen.Text

/-! ## Faults -/

/-- Where and how bytes fail to be UTF-8. -/
inductive Utf8Fault where
  /-- The first `length` bytes from `index` on begin no character. -/
  | invalid (length index : Nat)
  /-- The bytes end within the character that begins at `index`. -/
  | incomplete (index : Nat)
  deriving DecidableEq, Repr

/-- The wording of a fault. -/
def Utf8Fault.message : Utf8Fault → String
  | .invalid length index =>
    "invalid utf-8 sequence of " ++ toString length ++ " bytes from index " ++ toString index
  | .incomplete index => "incomplete utf-8 byte sequence from index " ++ toString index

/-! ## Decoding -/

/-- A byte that continues a character. -/
def isContinuation (b : Nat) : Bool := 0x80 ≤ b && b ≤ 0xBF

/-- Whether a second byte may follow the first byte of a character of three or four bytes. -/
def mayFollow (first second : Nat) : Bool :=
  if first = 0xE0 then 0xA0 ≤ second && second ≤ 0xBF
  else if first = 0xED then 0x80 ≤ second && second ≤ 0x9F
  else if first = 0xF0 then 0x90 ≤ second && second ≤ 0xBF
  else if first = 0xF4 then 0x80 ≤ second && second ≤ 0x8F
  else isContinuation second

/-- Reads the bytes from `index` on; `done` holds the characters before, in reverse. -/
def decodeFrom : Nat → List Char → List Nat → Except Utf8Fault (List Char)
  | _, done, [] => .ok done.reverse
  | index, done, a :: rest =>
    if a < 0x80 then decodeFrom (index + 1) (Char.ofNat a :: done) rest
    else if a < 0xC2 ∨ a > 0xF4 then .error (.invalid 1 index)
    else
      match rest with
      | [] => .error (.incomplete index)
      | b :: rest =>
        if a < 0xE0 then
          if isContinuation b then
            decodeFrom (index + 2) (Char.ofNat ((a - 0xC0) * 64 + (b - 0x80)) :: done) rest
          else .error (.invalid 1 index)
        else if !mayFollow a b then .error (.invalid 1 index)
        else
          match rest with
          | [] => .error (.incomplete index)
          | c :: rest =>
            if !isContinuation c then .error (.invalid 2 index)
            else if a < 0xF0 then
              let code := ((a - 0xE0) * 64 + (b - 0x80)) * 64 + (c - 0x80)
              decodeFrom (index + 3) (Char.ofNat code :: done) rest
            else
              match rest with
              | [] => .error (.incomplete index)
              | d :: rest =>
                if isContinuation d then
                  let code :=
                    (((a - 0xF0) * 64 + (b - 0x80)) * 64 + (c - 0x80)) * 64 + (d - 0x80)
                  decodeFrom (index + 4) (Char.ofNat code :: done) rest
                else .error (.invalid 3 index)

/-- The text that bytes write in UTF-8. -/
def decodeUtf8 (bytes : ByteArray) : Except Utf8Fault String :=
  (decodeFrom 0 [] (bytes.toList.map UInt8.toNat)).map String.ofList

end ProviderGen.Text
