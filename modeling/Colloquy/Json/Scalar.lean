import Colloquy.Json
import Colloquy.Json.Fault

/-!
# Numbers and strings of JSON

A number is read in two steps. Its text has a sign, whole digits, a fraction and an exponent,
whatever their size; its value is then an integer or a double, or none if it is out of range. Of
the digits only as many count as fit in 64 bits: later whole digits count for their place only,
later digits of the fraction not at all.

A string is read in the same way: an escape for half of a character is well formed, but has no
value without its other half.
-/

namespace Colloquy.Json

open Colloquy.Text

/-! ### Numbers -/

/-- A number as it is written. -/
structure Numeral where
  negative : Bool
  whole : Text
  fraction : Text
  /-- Whether there is a point. -/
  pointed : Bool
  /-- Whether the exponent is negative, and its digits. -/
  exponent : Option (Bool × Text)
deriving DecidableEq, Repr

namespace Numeral

/-- The digits at the start of a text and the text after them. -/
def digits (text : Text) : Text × Text := (text.takeWhile isDigit, text.dropWhile isDigit)

/-- The whole digits: a zero alone, or digits that start with no zero. -/
def whole? (text : Text) : Except Fault (Text × Text) :=
  match text with
  | [] => .error (.before .endInValue text)
  | '0' :: rest =>
    if rest.head?.any isDigit then .error (.within .number rest) else .ok (['0'], rest)
  | c :: _ => if isDigit c then .ok (digits text) else .error (.within .number text)

/-- The digits of a fraction after its point. -/
def fraction? (text : Text) : Except Fault (Text × Text) :=
  match digits text with
  | ([], []) => .error (.within .endInValue text)
  | ([], _) => .error (.within .number text)
  | found => .ok found

/-- The sign and the digits of an exponent after its letter. -/
def exponent? (text : Text) : Except Fault ((Bool × Text) × Text) :=
  let (negative, text) : Bool × Text :=
    match text with
    | '+' :: rest => (false, rest)
    | '-' :: rest => (true, rest)
    | _ => (false, text)
  match digits text with
  | ([], []) => .error (.before .endInValue text)
  | ([], _) => .error (.within .number text)
  | (found, rest) => .ok ((negative, found), rest)

/-- The exponent, if there is one here. -/
def optionalExponent (text : Text) : Except Fault ((Option (Bool × Text)) × Text) :=
  match text with
  | 'e' :: rest => do let (found, rest) ← exponent? rest; pure (some found, rest)
  | 'E' :: rest => do let (found, rest) ← exponent? rest; pure (some found, rest)
  | _ => .ok (none, text)

/-- The number after its sign. -/
def magnitude? (negative : Bool) (text : Text) : Except Fault (Numeral × Text) := do
  let (whole, text) ← whole? text
  match text with
  | '.' :: rest =>
    let (fraction, rest) ← fraction? rest
    let (exponent, rest) ← optionalExponent rest
    pure (⟨negative, whole, fraction, true, exponent⟩, rest)
  | _ =>
    let (exponent, rest) ← optionalExponent text
    pure (⟨negative, whole, [], false, exponent⟩, rest)

/-- The number that a text starts with. -/
def read? (text : Text) : Except Fault (Numeral × Text) :=
  match text with
  | '-' :: rest => magnitude? true rest
  | _ => magnitude? false text

/-- Appends digits to a number as long as it stays within a limit; the digits that are left. -/
def absorb (limit : Nat) : Nat → Text → Nat × Text
  | n, [] => (n, [])
  | n, c :: cs =>
    let next := n * 10 + digitValue c
    if limit < next then (n, c :: cs) else absorb limit next cs

/-- The greatest whole number of 64 bits. -/
def greatest : Nat := 18446744073709551615

/-- The greatest exponent that is counted with. -/
def greatestExponent : Nat := 2147483647

/-- An integer, or the double for a negative number that is none: zero, or too far from it. -/
def integer? (negative : Bool) (n : Nat) : Option Json :=
  if !negative then some (.int n)
  else if 0 < n ∧ n ≤ 9223372036854775808 then some (.int (-(n : Int)))
  else (Binary64.ofRatio? true n 1).map .real

/-- The value, or the number of digits at the end that were not needed to see that it is out of
range. -/
def value? (numeral : Numeral) : Except Nat Json :=
  let real? (significand : Nat) (exponent : Int) : Except Nat Json :=
    match Binary64.ofDecimal? numeral.negative significand exponent with
    | some x => .ok (.real x)
    | none => .error 0
  let (n, dropped) := absorb greatest 0 numeral.whole
  if !numeral.pointed && numeral.exponent.isNone && dropped.isEmpty then
    match integer? numeral.negative n with
    | some number => .ok number
    | none => .error 0
  else
    let (n, unused) := absorb greatest n numeral.fraction
    let shift : Int := (dropped.length : Int) - (numeral.fraction.length - unused.length : Nat)
    match numeral.exponent with
    | none => real? n shift
    | some (negative, digits) =>
      match absorb greatestExponent 0 digits with
      | (e, []) => real? n (if negative then shift - e else shift + e)
      | (_, _ :: later) =>
        if n ≠ 0 ∧ !negative then .error later.length
        else .ok (.real (.zero numeral.negative))

end Numeral

/-- The value of the number that a text starts with; its own fault is that it is out of range. -/
def number? (text : Text) : Except Fault ((Except Fault Json) × Text) := do
  let (numeral, rest) ← Numeral.read? text
  match numeral.value? with
  | .ok value => pure (.ok value, rest)
  | .error unread => pure (.error ⟨.range, Utf8.size rest + unread⟩, rest)

/-! ### Strings -/

/-- The value of four hexadecimal digits. They have to stand in four bytes. -/
def fourHex? (text : Text) : Except Fault (Nat × Text) :=
  let fault : Fault :=
    if Utf8.size text < 4 then ⟨.endInString, 0⟩ else ⟨.escape, Utf8.size text - 4⟩
  match text with
  | a :: b :: c :: d :: rest =>
    match hexValue? a, hexValue? b, hexValue? c, hexValue? d with
    | some a, some b, some c, some d => .ok (((a * 16 + b) * 16 + c) * 16 + d, rest)
    | _, _, _, _ => .error fault
  | _ => .error fault

/-- Whether a number is the first half of a character in two halves. -/
def isLeading (n : Nat) : Bool := 0xD800 ≤ n && n ≤ 0xDBFF

/-- Whether a number is the second half of a character in two halves. -/
def isTrailing (n : Nat) : Bool := 0xDC00 ≤ n && n ≤ 0xDFFF

/-- The character of two halves. -/
def ofHalves (first second : Nat) : Char :=
  Char.ofNat ((first - 0xD800) * 0x400 + (second - 0xDC00) + 0x10000)

/-- The character of an escape by number, after its letter. -/
def numbered? (text : Text) : Except Fault ((Except Fault Char) × Text) := do
  let (n, rest) ← fourHex? text
  if isTrailing n then pure (.error (.before .loneSurrogate rest), rest)
  else if !isLeading n then pure (.ok (Char.ofNat n), rest)
  else
    match rest with
    | '\\' :: 'u' :: more =>
      let (m, after) ← fourHex? more
      if isTrailing m then pure (.ok (ofHalves n m), after)
      else pure (.error (.before .loneSurrogate after), rest)
    | [] => pure (.error ⟨.endInString, 0⟩, rest)
    | ['\\'] => pure (.error ⟨.endInString, 0⟩, rest)
    | '\\' :: c :: more => pure (.error (.within .hexEnd (c :: more)), rest)
    | _ => pure (.error (.within .hexEnd rest), rest)

/-- The character of an escape, after its backslash. -/
def escaped? (text : Text) : Except Fault ((Except Fault Char) × Text) :=
  match text with
  | [] => .error (.before .endInString text)
  | 'u' :: rest => numbered? rest
  | '"' :: rest => .ok (.ok '"', rest)
  | '\\' :: rest => .ok (.ok '\\', rest)
  | '/' :: rest => .ok (.ok '/', rest)
  | 'b' :: rest => .ok (.ok '\x08', rest)
  | 'f' :: rest => .ok (.ok '\x0c', rest)
  | 'n' :: rest => .ok (.ok '\n', rest)
  | 'r' :: rest => .ok (.ok '\r', rest)
  | 't' :: rest => .ok (.ok '\t', rest)
  | _ => .error (.within .escape text)

/-- The characters up to the closing quote; none if one of them has no value. At most `fuel`
characters and escapes are read. -/
def characters? (strict : Bool) : Nat → Text → Except Fault ((Option Text) × Text)
  | 0, text => .error (.before .endInString text)
  | fuel + 1, text =>
    match text with
    | [] => .error (.before .endInString text)
    | '"' :: rest => .ok (some [], rest)
    | '\\' :: rest => do
      let (found, rest) ← escaped? rest
      let c ← settle strict found
      let (cs, rest) ← characters? strict fuel rest
      pure (c.bind fun c => cs.map (c :: ·), rest)
    | c :: rest =>
      if c.toNat < 32 then .error (.before .control rest)
      else do
        let (cs, rest) ← characters? strict fuel rest
        pure (cs.map (c :: ·), rest)

/-- The text of a string after its opening quote; none if it has no value. -/
def string? (strict : Bool) (text : Text) : Except Fault ((Option Text) × Text) :=
  characters? strict (text.length + 1) text

example : (string? true "a\\u00e9\\ud83d\\ude00\",").toOption = some (some "aé😀".toList, [',']) := by
  decide +kernel
example : (string? false "\\ud800x\"").toOption = some (none, []) := by decide +kernel
example : (number? "-0.50e1]").toOption.bind (·.1.toOption) =
    some (.real ⟨true, 5 * 2 ^ 50, -50⟩) := by rfl

end Colloquy.Json
