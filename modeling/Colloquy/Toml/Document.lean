import Colloquy.Toml
import Colloquy.Toml.Token

/-!
# TOML documents

Values recur on the levels of nesting that are left, and the loops over items, pairs and lines on
a bound for their number. A document is its statements, and what they make is the value of the
document; a text that is no document has none.
-/

namespace Colloquy.Toml

/-- The items of an array up to its closing bracket, with a comma after each but the last. -/
def items? (value? : Reader Toml) : Nat → Reader (List Toml)
  | 0, _ => none
  | fuel + 1, text =>
    match skipBlanks text.length text with
    | ']' :: rest => some ([], rest)
    | text => do
      let (item, text) ← value? text
      match skipBlanks text.length text with
      | ']' :: rest => pure ([item], rest)
      | ',' :: rest => do
        let (items, rest) ← items? value? fuel rest
        pure (item :: items, rest)
      | _ => none

/-- The keys and values of an inline table up to its closing brace. -/
def pairs? (value? : Reader Toml) : Nat → Reader (List (List Text × Toml))
  | 0, _ => none
  | fuel + 1, text => do
    let (path, text) ← key? text
    let text ← Text.after? ['='] text
    let (value, text) ← value? (skipSpace text)
    match skipSpace text with
    | '\x7d' :: rest => pure ([(path, value)], rest)
    | ',' :: rest => do
      let (pairs, rest) ← pairs? value? fuel rest
      pure ((path, value) :: pairs, rest)
    | _ => none

/-- An inline table after its opening brace. -/
def inlineTable? (value? : Reader Toml) (text : Text) : Option (Toml × Text) :=
  match skipSpace text with
  | '\x7d' :: rest => some (.inlineTable [], rest)
  | text => do
    let (pairs, rest) ← pairs? value? text.length text
    let entries ← ofPairs? pairs
    pure (.inlineTable entries, rest)

/-- A value that is no array and no table. -/
def scalar? (text : Text) : Option (Toml × Text) :=
  match text with
  | '"' :: _ => (string? text).map fun (value, rest) => (.string value, rest)
  | '\'' :: _ => (string? text).map fun (value, rest) => (.string value, rest)
  | 't' :: _ => (Text.after? "true" text).map fun rest => (.boolean true, rest)
  | 'f' :: _ => (Text.after? "false" text).map fun rest => (.boolean false, rest)
  | _ => (dateTime? text).or ((decimal? text).or ((wordFloat? text).or (integer? text)))

/-- The value that a text starts with, with at most so many levels of arrays and inline tables. -/
def value? : Nat → Reader Toml
  | 0, text =>
    match text with
    | '[' :: _ => none
    | '\x7b' :: _ => none
    | _ => scalar? text
  | levels + 1, text =>
    match text with
    | '[' :: rest => do
      let (items, rest) ← items? (value? levels) (rest.length + 1) rest
      pure (.array items, rest)
    | '\x7b' :: rest => inlineTable? (value? levels) rest
    | _ => scalar? text

/-- A statement up to the end of its line. -/
def statement? (text : Text) : Option (Statement × Text) :=
  match text with
  | '[' :: '[' :: rest => do
    let (path, rest) ← key? rest
    let rest ← Text.after? "]]" rest
    pure (.arrayHeader path, ← lineEnd? rest)
  | '[' :: rest => do
    let (path, rest) ← key? rest
    let rest ← Text.after? "]" rest
    pure (.header path, ← lineEnd? rest)
  | _ => do
    let (path, rest) ← key? text
    let rest ← Text.after? "=" rest
    let (value, rest) ← value? (nestingLimit - 1) (skipSpace rest)
    pure (.pair path value, ← lineEnd? rest)

/-- All statements of a text, at most `fuel` of them. -/
def statements? : Nat → Text → Option (List Statement)
  | 0, text => if skipBlanks text.length text = [] then some [] else none
  | fuel + 1, text =>
    match skipBlanks text.length text with
    | [] => some []
    | text => do
      let (statement, rest) ← statement? text
      let statements ← statements? fuel rest
      pure (statement :: statements)

/-- The entries of the document that a text is. A byte order mark in front of it is ignored. -/
def read? (text : Text) : Option Entries := do
  let text := (Text.after? ['\ufeff'] text).getD text
  let statements ← statements? text.length text
  ofStatements? statements

example : ((read? "a.b = 1 # c\n[c]\nd = [0x1F, \x7b\x7d]\n").bind (find? "a")).bind entries?
    matches some [(['b'], .integer 1)] := by decide +kernel
example : (read? "[a]\nb = 1\n[a]\n").isNone = true ∧ (read? "a = 1 b = 2").isNone = true := by
  decide +kernel

end Colloquy.Toml
