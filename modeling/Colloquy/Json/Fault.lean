import Colloquy.Text.Digits
import Colloquy.Utf8

/-!
# Faults of a JSON text

A fault is the reason why a text is not JSON and how many of its bytes were still to come. Lines
are counted from one; a column is the number of bytes of the line up to the fault.
-/

namespace Colloquy.Json

/-- Why a text is not JSON. -/
inductive Cause where
  | endInValue
  | endInList
  | endInObject
  | endInString
  | value
  | word
  | colon
  | listEnd
  | objectEnd
  | trailingComma
  | trailingText
  | key
  | control
  | escape
  | hexEnd
  | loneSurrogate
  | number
  | range
  | depth
deriving DecidableEq, Repr

/-- The wording of a cause. -/
def Cause.message : Cause → Text
  | endInValue => "EOF while parsing a value"
  | endInList => "EOF while parsing a list"
  | endInObject => "EOF while parsing an object"
  | endInString => "EOF while parsing a string"
  | value => "expected value"
  | word => "expected ident"
  | colon => "expected \x60:\x60"
  | listEnd => "expected \x60,\x60 or \x60]\x60"
  | objectEnd => "expected \x60,\x60 or \x60\x7d\x60"
  | trailingComma => "trailing comma"
  | trailingText => "trailing characters"
  | key => "key must be a string"
  | control => "control character (\\u0000-\\u001F) found while parsing a string"
  | escape => "invalid escape"
  | hexEnd => "unexpected end of hex escape"
  | loneSurrogate => "lone leading surrogate in hex escape"
  | number => "invalid number"
  | range => "number out of range"
  | depth => "recursion limit exceeded"

/-- A cause and the number of bytes after the place where it was found. -/
structure Fault where
  cause : Cause
  left : Nat
deriving DecidableEq, Repr

namespace Fault

/-- A fault in front of a text. -/
def before (cause : Cause) (text : Text) : Fault := ⟨cause, Utf8.size text⟩

/-- A fault in the first character of a text, or at its end. -/
def within (cause : Cause) (text : Text) : Fault := ⟨cause, Utf8.size text - 1⟩

/-- The line and the column after some bytes. -/
def place (bytes : List UInt8) : Nat × Nat :=
  bytes.foldl
    (fun spot (byte : UInt8) => if byte = 10 then (spot.1 + 1, 0) else (spot.1, spot.2 + 1)) (1, 0)

/-- The message about a fault of a text. -/
def message (text : Text) (fault : Fault) : Text :=
  let bytes := Utf8.encode text
  let (line, column) := place (bytes.take (bytes.length - fault.left))
  Text.concat [fault.cause.message, " at line ", Text.ofNat line, " column ", Text.ofNat column]

end Fault

/-- Whether a character is blank space between the parts of a JSON text. -/
def isSpace (c : Char) : Bool := c == ' ' || c == '\n' || c == '\t' || c == '\r'

/-- The text without the blank space it starts with. -/
def skip (text : Text) : Text := text.dropWhile isSpace

/-- A value, or none for a fault, unless the reading is strict: then the fault counts. -/
def settle {α : Type} (strict : Bool) : Except Fault α → Except Fault (Option α)
  | .ok value => .ok (some value)
  | .error fault => if strict then .error fault else .ok none

end Colloquy.Json
