import Colloquy.Json
import Colloquy.Binary64.Shortest

/-!
# Writing JSON

Values are written in one of two styles that differ in blank space only: compact on one line, or
with every item and member on a line of its own, indented by two spaces for each level. A string
escapes the quote, the backslash and the control characters; all other characters stand for
themselves.
-/

namespace Colloquy.Json

/-- One character of a string. -/
def escape (c : Char) : Text :=
  if c = '"' then "\\\""
  else if c = '\\' then "\\\\"
  else if c = '\n' then "\\n"
  else if c = '\r' then "\\r"
  else if c = '\t' then "\\t"
  else if c = '\x08' then "\\b"
  else if c = '\x0c' then "\\f"
  else if c.toNat < 32 then
    ['\\', 'u', '0', '0', Nat.digitChar (c.toNat / 16), Nat.digitChar (c.toNat % 16)]
  else [c]

/-- A string between its quotes. -/
def writeString (value : Text) : Text := '"' :: value.flatMap escape ++ ['"']

/-- Where a style puts blank space. -/
structure Style where
  /-- What begins a line at a level. -/
  newline : Nat → Text
  /-- What stands between a colon and its value. -/
  gap : Text

namespace Style

/-- No blank space. -/
def compact : Style := ⟨fun _ => [], []⟩

/-- Two spaces for every level. -/
def pretty : Style := ⟨fun level => '\n' :: List.replicate (2 * level) ' ', [' ']⟩

end Style

/-- Parts between brackets, with commas; brackets without parts stay together. -/
def enclose (style : Style) (level : Nat) (left right : Char) (parts : List Text) : Text :=
  if parts = [] then [left, right]
  else
    let line := style.newline (level + 1)
    left :: line ++ Text.join (',' :: line) parts ++ style.newline level ++ [right]

mutual

/-- The text of a value at a level. -/
def writeAt (style : Style) (level : Nat) : Json → Text
  | .null => "null"
  | .bool true => "true"
  | .bool false => "false"
  | .int value => Text.ofInt value
  | .real value => value.write
  | .string value => writeString value
  | .array items => enclose style level '[' ']' (writeItems style (level + 1) items)
  | .object members => enclose style level '{' '}' (writeMembers style (level + 1) members)

/-- The texts of the items of an array. -/
def writeItems (style : Style) (level : Nat) : List Json → List Text
  | [] => []
  | item :: rest => writeAt style level item :: writeItems style level rest

/-- The texts of the members of an object. -/
def writeMembers (style : Style) (level : Nat) : List (Text × Json) → List Text
  | [] => []
  | entry :: rest => writeMember style level entry :: writeMembers style level rest

/-- The text of a member. -/
def writeMember (style : Style) (level : Nat) : Text × Json → Text
  | (key, value) => writeString key ++ ':' :: style.gap ++ writeAt style level value

end

/-- The text of a value. -/
def write (style : Style) (value : Json) : Text := writeAt style 0 value

example : write .compact (.object [("a", .array [.int 1, .null]), ("b", .object [])]) =
    "\x7b\"a\":[1,null],\"b\":\x7b\x7d\x7d".toList := by decide
example : write .pretty (.array [.string "\t\x01"]) = "[\n  \"\\t\\u0001\"\n]".toList := by decide

end Colloquy.Json
