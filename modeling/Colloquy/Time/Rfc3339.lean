import Colloquy.Text.Digits
import Colloquy.Time.Moment

/-!
# Moments as text

The internet date format: `2024-01-01T00:00:02.5+01:00`. Writing gives four digits for the year,
the fraction of a second without trailing zeros and without a point when it is zero, and `Z` for
the offset zero; a year outside 0 to 9999 or an offset that is not a whole number of minutes within
a day has no such form. Reading takes the fields in their fixed places, any one ASCII character
between date and time, a fraction of any length of which nine digits count, and a leap second
where one can be inserted.

`describe` is the form that messages show, which every moment has.
-/

namespace Colloquy.Time.Rfc3339

open Colloquy.Text

/-! ### Writing -/

/-- The digits of a fraction of nine places without its trailing zeros. -/
def fraction (nanosecond : Nat) : Text :=
  ((padded 9 nanosecond).reverse.dropWhile (· == '0')).reverse

/-- Hours and minutes of an offset, with its sign. -/
def writeOffset (offset : Int) : Text :=
  let minutes := offset.natAbs / 60
  concat [if offset < 0 then "-" else "+", padded 2 (minutes / 60), ":", padded 2 (minutes % 60)]

/-- The text of a moment, if its year and its offset have one. -/
def write? (moment : Moment) : Option Text :=
  let date := moment.date
  if 0 ≤ date.year ∧ date.year ≤ 9999 ∧ moment.offset % 60 = 0 ∧ moment.offset.natAbs < 86400 then
    some <| concat [
      padded 4 date.year.toNat, "-", padded 2 date.month, "-", padded 2 date.day, "T",
      padded 2 moment.hour, ":", padded 2 moment.minute, ":", padded 2 moment.secondOfMinute,
      if moment.nanosecond = 0 then [] else '.' :: fraction moment.nanosecond,
      if moment.offset = 0 then "Z" else writeOffset moment.offset]
  else none

/-- The text of a moment in a message: the hour without a leading zero, at least one digit of the
fraction, and the seconds of the offset. -/
def describe (moment : Moment) : Text :=
  let date := moment.date
  let offset := moment.offset.natAbs
  concat [
    if date.year < 0 then "-" else "", padded 4 date.year.natAbs, "-",
    padded 2 date.month, "-", padded 2 date.day, " ",
    ofNat moment.hour, ":", padded 2 moment.minute, ":", padded 2 moment.secondOfMinute, ".",
    if moment.nanosecond = 0 then "0" else fraction moment.nanosecond, " ",
    if moment.offset < 0 then "-" else "+",
    padded 2 (offset / 3600), ":", padded 2 (offset / 60 % 60), ":", padded 2 (offset % 60)]

/-! ### Reading -/

/-- The number in the first `count` places, all of them digits, and the text after them. -/
def field? (count : Nat) (text : Text) : Option (Nat × Text) :=
  if (text.take count).length = count then
    (ofDigits? (text.take count)).map fun n => (n, text.drop count)
  else none

/-- The nanoseconds of an optional fraction and the text after it. -/
def fraction? : Text → Option (Nat × Text)
  | '.' :: rest =>
    let digits := rest.takeWhile isDigit
    if digits = [] then none
    else
      let nine := digits.take 9
      some (valueOf nine * Nat.pow 10 (9 - nine.length), rest.dropWhile isDigit)
  | text => some (0, text)

/-- The seconds of an offset that is the whole text. -/
def offset? (text : Text) : Option Int :=
  match text with
  | ['Z'] => some 0
  | ['z'] => some 0
  | sign :: rest => do
    guard (sign = '+' ∨ sign = '-')
    let (hours, rest) ← field? 2 rest
    let rest ← after? ":" rest
    let (minutes, rest) ← field? 2 rest
    guard (rest = [] ∧ hours ≤ 23 ∧ minutes ≤ 59)
    let seconds : Int := (hours * 3600 + minutes * 60 : Nat)
    pure (if sign = '-' then -seconds else seconds)
  | [] => none

/-- Whether a leap second can follow the second that the moment falls in: the last one of a month
in UTC. -/
def endsMonth (moment : Moment) : Bool :=
  let utc : Moment := ⟨moment.instant, 0⟩
  utc.hour == 23 && utc.minute == 59 && utc.secondOfMinute == 59 && utc.date.isMonthEnd

/-- The moment that a text stands for. A leap second is the last nanosecond before it. -/
def read? (text : Text) : Option Moment := do
  let (year, text) ← field? 4 text
  let text ← after? "-" text
  let (month, text) ← field? 2 text
  let text ← after? "-" text
  let (day, text) ← field? 2 text
  let separator ← text.head?
  guard (separator.toNat < 128)
  let (hour, text) ← field? 2 text.tail
  let text ← after? ":" text
  let (minute, text) ← field? 2 text
  let text ← after? ":" text
  let (second, text) ← field? 2 text
  let (nanosecond, text) ← fraction? text
  let offset ← offset? text
  let date : Date := ⟨year, month, day⟩
  guard (date.IsValid ∧ hour ≤ 23 ∧ minute ≤ 59)
  if second = 60 then
    let moment := Moment.ofDate date
      (((hour * 60 + minute) * 60 + 59) * 1000000000 + 999999999) offset
    guard (endsMonth moment)
    pure moment
  else
    guard (second ≤ 59)
    pure (Moment.ofDate date (((hour * 60 + minute) * 60 + second) * 1000000000 + nanosecond) offset)

example : (read? "2024-01-01t00:00:02.500z").bind write? = some "2024-01-01T00:00:02.5Z".toList := by
  decide +kernel
example : (read? "2024-06-30T23:59:60Z").bind write? =
    some "2024-06-30T23:59:59.999999999Z".toList := by decide +kernel
example : (read? "2024-01-01T23:59:60Z").isNone = true := by decide +kernel
example : describe Moment.epoch = "1970-01-01 0:00:00.0 +00:00:00".toList := by decide +kernel

end Colloquy.Time.Rfc3339
