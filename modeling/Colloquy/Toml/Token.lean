import Colloquy.Text.Digits
import Colloquy.Toml

/-!
# Tokens of TOML

Blank space, comments, strings, keys, numbers, dates and times. Each reader takes what a text
starts with and gives the rest; none of them looks beyond what it takes, so what follows a token
is for its caller to check.
-/

namespace Colloquy.Toml

open Text (isDigit hexValue?)

/-- A reader: what a text starts with, and the text after it. -/
abbrev Reader (α : Type) := Text → Option (α × Text)

/-- The text without the spaces and tabs it starts with. -/
def skipSpace (text : Text) : Text := text.dropWhile fun c => c == ' ' || c == '\t'

/-- The text after a line break. -/
def afterBreak? : Text → Option Text
  | '\n' :: rest => some rest
  | '\r' :: '\n' :: rest => some rest
  | _ => none

/-- Whether a character can stand in a comment. -/
def isCommentChar (c : Char) : Bool := c == '\t' || 0x20 ≤ c.toNat

/-- Whether a character can stand in a string, quotes and backslash apart. -/
def isStringChar (c : Char) : Bool := isCommentChar c && c != '\x7f'

/-- The text without the comment it starts with, if it does. -/
def skipComment : Text → Text
  | '#' :: rest => rest.dropWhile isCommentChar
  | text => text

/-- The text after the end of a line, before which there may be a comment. -/
def lineEnd? (text : Text) : Option Text :=
  match skipComment (skipSpace text) with
  | [] => some []
  | rest => afterBreak? rest

/-- The text without spaces, comments and line breaks at its start; `fuel` of them at most. -/
def skipBlanks : Nat → Text → Text
  | 0, text => text
  | fuel + 1, text =>
    match skipComment (skipSpace text) with
    | [] => []
    | rest =>
      match afterBreak? rest with
      | some after => skipBlanks fuel after
      | none => rest

/-- The text without spaces and line breaks at its start; `fuel` of them at most. -/
def skipBreaks : Nat → Text → Text
  | 0, text => text
  | fuel + 1, text =>
    let rest := skipSpace text
    match afterBreak? rest with
    | some after => skipBreaks fuel after
    | none => rest

/-! ### Strings -/

/-- The character with so many hexadecimal digits as its number. -/
def numbered? (count : Nat) : Reader Char := fun text => do
  let digits ← (text.take count).mapM hexValue?
  let n := digits.foldl (fun n digit => n * 16 + digit) 0
  if digits.length = count ∧ (n < 0xD800 ∨ (0xDFFF < n ∧ n < 0x110000)) then
    some (Char.ofNat n, text.drop count)
  else none

/-- The character of an escape after its backslash. -/
def escaped? : Reader Char
  | 'b' :: rest => some ('\x08', rest)
  | 'f' :: rest => some ('\x0c', rest)
  | 'n' :: rest => some ('\n', rest)
  | 'r' :: rest => some ('\r', rest)
  | 't' :: rest => some ('\t', rest)
  | '\\' :: rest => some ('\\', rest)
  | '"' :: rest => some ('"', rest)
  | 'u' :: rest => numbered? 4 rest
  | 'U' :: rest => numbered? 8 rest
  | _ => none

/-- A string up to its closing quote, of at most `fuel` characters. Only double quotes allow
escapes. -/
def line? (quote : Char) : Nat → Reader Text
  | 0, _ => none
  | fuel + 1, text =>
    match text with
    | [] => none
    | c :: rest =>
      if c = quote then some ([], rest)
      else if c = '\\' ∧ quote = '"' then do
        let (c, rest) ← escaped? rest
        let (cs, rest) ← line? quote fuel rest
        pure (c :: cs, rest)
      else if isStringChar c then do
        let (cs, rest) ← line? quote fuel rest
        pure (c :: cs, rest)
      else none

/-- A string of several lines up to its three closing quotes, of at most `fuel` characters. One or
two quotes are part of it, also before those that close it. A backslash at the end of a line takes
the blanks after it away. -/
def lines? (quote : Char) : Nat → Reader Text
  | 0, _ => none
  | fuel + 1, text =>
    let quotes := (text.takeWhile (· == quote)).length
    if 3 ≤ quotes then
      let kept := min (quotes - 3) 2
      some (List.replicate kept quote, text.drop (kept + 3))
    else
      match text with
      | [] => none
      | c :: rest =>
        if c = '\\' ∧ quote = '"' then
          match afterBreak? (skipSpace rest) with
          | some after => lines? quote fuel (skipBreaks after.length after)
          | none => do
            let (c, rest) ← escaped? rest
            let (cs, rest) ← lines? quote fuel rest
            pure (c :: cs, rest)
        else
          match afterBreak? text with
          | some after => do
            let (cs, rest) ← lines? quote fuel after
            pure ('\n' :: cs, rest)
          | none =>
            if isStringChar c then do
              let (cs, rest) ← lines? quote fuel rest
              pure (c :: cs, rest)
            else none

/-- A string from its opening quote on. A line break right after three opening quotes is no part
of it. -/
def string? : Reader Text
  | '"' :: '"' :: '"' :: rest => lines? '"' (rest.length + 1) ((afterBreak? rest).getD rest)
  | '\'' :: '\'' :: '\'' :: rest => lines? '\'' (rest.length + 1) ((afterBreak? rest).getD rest)
  | '"' :: rest => line? '"' (rest.length + 1) rest
  | '\'' :: rest => line? '\'' (rest.length + 1) rest
  | _ => none

/-! ### Keys -/

/-- Whether a character can stand in a key without quotes. -/
def isKeyChar (c : Char) : Bool :=
  isDigit c || ('a' ≤ c && c ≤ 'z') || ('A' ≤ c && c ≤ 'Z') || c == '-' || c == '_'

/-- One part of a dotted key. -/
def keyPart? (text : Text) : Option (Text × Text) :=
  match text with
  | '"' :: rest => line? '"' (rest.length + 1) rest
  | '\'' :: rest => line? '\'' (rest.length + 1) rest
  | _ =>
    let part := text.takeWhile isKeyChar
    if part = [] then none else some (part, text.dropWhile isKeyChar)

/-- The parts of a dotted key with blanks around them, at most `fuel` parts. -/
def keyParts? : Nat → Reader (List Text)
  | 0, _ => none
  | fuel + 1, text => do
    let (part, rest) ← keyPart? (skipSpace text)
    match skipSpace rest with
    | '.' :: more =>
      let (parts, rest) ← keyParts? fuel more
      pure (part :: parts, rest)
    | rest => pure ([part], rest)

/-- The number that levels of nesting and parts of a key stay below. -/
def nestingLimit : Nat := 80

/-- A dotted key. -/
def key? (text : Text) : Option (List Text × Text) := keyParts? (nestingLimit - 1) text

/-! ### Numbers -/

/-- Digits with single underscores between them, without the underscores; at most `fuel` digits. -/
def moreDigits (isOne : Char → Bool) : Nat → Text → Option (Text × Text)
  | 0, text => some ([], text)
  | fuel + 1, text =>
    match text with
    | '_' :: c :: rest =>
      if isOne c then (moreDigits isOne fuel rest).map fun (cs, rest) => (c :: cs, rest) else none
    | ['_'] => none
    | c :: rest =>
      if isOne c then (moreDigits isOne fuel rest).map fun (cs, rest) => (c :: cs, rest)
      else some ([], text)
    | [] => some ([], text)

/-- One or more digits with underscores between them. -/
def digits? (isOne : Char → Bool) (text : Text) : Option (Text × Text) :=
  match text with
  | c :: rest =>
    if isOne c then (moreDigits isOne rest.length rest).map fun (cs, rest) => (c :: cs, rest)
    else none
  | [] => none

/-- Whether a minus sign is there, and the text after an optional sign. -/
def sign : Text → Bool × Text
  | '-' :: rest => (true, rest)
  | '+' :: rest => (false, rest)
  | text => (false, text)

/-- The decimal digits of a whole number: zero alone, or digits that do not start with it. -/
def whole? (text : Text) : Option (Text × Text) :=
  match text with
  | '0' :: rest => some (['0'], rest)
  | _ => digits? isDigit text

/-- A number as a signed one of 64 bits. -/
def signed? (negative : Bool) (n : Nat) : Option Toml :=
  let n : Int := if negative then -n else n
  if Text.fits64 n then some (.integer n) else none

/-- A number with digits in a base. -/
def inBase? (base : Nat) : Reader Toml := fun text => do
  let (digits, rest) ← digits? (fun c => (hexValue? c).any (· < base)) text
  let n := digits.foldl (fun n c => n * base + (hexValue? c).getD 0) 0
  (signed? false n).map fun value => (value, rest)

/-- An integer. -/
def integer? (text : Text) : Option (Toml × Text) :=
  match text with
  | '0' :: 'x' :: rest => inBase? 16 rest
  | '0' :: 'o' :: rest => inBase? 8 rest
  | '0' :: 'b' :: rest => inBase? 2 rest
  | _ => do
    let (negative, rest) := sign text
    let (digits, rest) ← whole? rest
    (signed? negative (Text.valueOf digits)).map fun value => (value, rest)

/-- The sign and the digits of an exponent, if there is one here. -/
def exponent? (text : Text) : Option (Option (Bool × Text) × Text) :=
  match text with
  | c :: rest =>
    if c = 'e' ∨ c = 'E' then
      let (negative, rest) := sign rest
      (digits? isDigit rest).map fun (digits, rest) => (some (negative, digits), rest)
    else some (none, text)
  | [] => some (none, text)

/-- The least magnitude that rounds to infinity. -/
def overflow : Nat := Nat.pow 2 1024 - Nat.pow 2 970

/-- Whether `digits · 10 ^ exponent` is too large for a double. -/
def isTooLarge (digits : Text) (exponent : Int) : Bool :=
  let digits := digits.dropWhile (· == '0')
  let magnitude := (digits.length : Int) + exponent
  if digits = [] ∨ magnitude ≤ 308 then false
  else if 309 < magnitude then true
  else if 0 ≤ exponent then overflow ≤ Text.valueOf digits * Nat.pow 10 exponent.toNat
  else overflow * Nat.pow 10 exponent.natAbs ≤ Text.valueOf digits

/-- A number with a point or an exponent. A positive one has to be finite. -/
def decimal? (text : Text) : Option (Toml × Text) := do
  let (negative, rest) := sign text
  let (whole, rest) ← whole? rest
  let (fraction, rest) ←
    match rest with
    | '.' :: more => digits? isDigit more
    | _ => some ([], rest)
  let (exponent, rest) ← exponent? rest
  if fraction = [] ∧ exponent.isNone then none
  else
    let shift : Int :=
      match exponent with
      | none => 0
      | some (true, digits) => -(Text.valueOf digits : Int)
      | some (false, digits) => Text.valueOf digits
    if !negative && isTooLarge (whole ++ fraction) (shift - fraction.length) then none
    else some (.float (text.take (text.length - rest.length)), rest)

/-- A float that is a word. -/
def wordFloat? (text : Text) : Option (Toml × Text) :=
  let (_, rest) := sign text
  ["inf".toList, "nan".toList].findSome? fun word =>
    (Text.after? word rest).map fun after => (.float (text.take (text.length - after.length)), after)

/-! ### Dates and times -/

/-- A number in a fixed number of digits, between two bounds. -/
def field? (count low high : Nat) (text : Text) : Option (Nat × Text) := do
  let n ← Text.ofDigits? (text.take count)
  if (text.take count).length = count ∧ low ≤ n ∧ n ≤ high then some (n, text.drop count) else none

/-- The text after a date. -/
def afterDate? (text : Text) : Option Text := do
  let (year, rest) ← field? 4 0 9999 text
  let rest ← Text.after? ['-'] rest
  let (month, rest) ← field? 2 1 12 rest
  let rest ← Text.after? ['-'] rest
  let leap := year % 4 = 0 ∧ (year % 100 ≠ 0 ∨ year % 400 = 0)
  let longest :=
    if month = 2 then (if leap then 29 else 28) else if [4, 6, 9, 11].contains month then 30 else 31
  let (_, rest) ← field? 2 1 longest rest
  pure rest

/-- The text after a time of day. -/
def afterTime? (text : Text) : Option Text := do
  let (_, rest) ← field? 2 0 23 text
  let rest ← Text.after? [':'] rest
  let (_, rest) ← field? 2 0 59 rest
  let rest ← Text.after? [':'] rest
  let (_, rest) ← field? 2 0 60 rest
  match rest with
  | '.' :: more =>
    if more.head?.any isDigit then some (more.dropWhile isDigit) else some rest
  | _ => some rest

/-- The text after an offset, if there is one here. -/
def afterOffset (text : Text) : Text :=
  match text with
  | [] => []
  | c :: rest =>
    if c = 'Z' ∨ c = 'z' then rest
    else if c = '+' ∨ c = '-' then
      let after? := do
        let (_, rest) ← field? 2 0 23 rest
        let rest ← Text.after? [':'] rest
        let (_, rest) ← field? 2 0 59 rest
        pure rest
      after?.getD text
    else text

/-- The text after a time of day and its offset that follow a date, if they do. -/
def afterTimeOfDate (text : Text) : Text :=
  match text with
  | [] => []
  | c :: rest =>
    if c = 'T' ∨ c = 't' ∨ c = ' ' then ((afterTime? rest).map afterOffset).getD text else text

/-- A date, a time of day, or both with or without an offset. -/
def dateTime? (text : Text) : Option (Toml × Text) := do
  let rest ← ((afterDate? text).map afterTimeOfDate).or (afterTime? text)
  pure (.dateTime (text.take (text.length - rest.length)), rest)

example : (string? "\"\"\"\"a\\\n  b\"\"\"\"\"x").map Prod.fst = some "\"ab\"\"".toList := by
  decide +kernel
example : (key? " a . \"b.c\" =").map Prod.fst = some ["a".toList, "b.c".toList] := by decide +kernel
example : isTooLarge ['1'] 309 = true ∧ isTooLarge "17976931348623157" 292 = false := by
  decide +kernel

end Colloquy.Toml
