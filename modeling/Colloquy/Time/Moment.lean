import Colloquy.Time.Calendar

/-!
# Moments

A moment is a reading of a local clock together with the clock's offset from UTC. Two moments are
compared as instants, whatever their offsets; a moment is moved along its own local clock, which
shows the years -9999 to 9999 and stops at either end.
-/

namespace Colloquy.Time

/-- A date and time of day on a clock that runs ahead of UTC by a fixed offset. -/
structure Moment where
  /-- Nanoseconds on the local clock since the start of year 0. -/
  wall : Int
  /-- Seconds by which the local clock is ahead of UTC. -/
  offset : Int
deriving DecidableEq, Repr

namespace Moment

/-- Nanoseconds in a second. -/
def second : Int := 1000000000

/-- Nanoseconds in a millisecond. -/
def millisecond : Int := 1000000

/-- Nanoseconds in a day. -/
def day : Int := 86400 * second

/-- The earliest reading of a local clock. -/
def earliest : Int := yearStart (-9999) * day

/-- The latest reading of a local clock. -/
def latest : Int := yearStart 10000 * day - 1

/-- The position on the time line: nanoseconds in UTC since the start of year 0. -/
def instant (moment : Moment) : Int := moment.wall - moment.offset * second

/-- Whether the first moment is an earlier instant than the second. -/
def isBefore (a b : Moment) : Bool := a.instant < b.instant

/-- The moment so many milliseconds later on the same clock, or the end that the clock stops at. -/
def advance (moment : Moment) (milliseconds : Int) : Moment :=
  { moment with wall := max earliest (min latest (moment.wall + milliseconds * millisecond)) }

/-- The start of the second that the moment falls in. -/
def wholeSecond (moment : Moment) : Moment :=
  { moment with wall := moment.wall - moment.wall % second }

/-- The date that the clock shows. -/
def date (moment : Moment) : Date := Date.ofDayNumber (moment.wall / day)

/-- The nanoseconds since midnight that the clock shows. -/
def sinceMidnight (moment : Moment) : Nat := (moment.wall % day).toNat

/-- The hour of the day. -/
def hour (moment : Moment) : Nat := moment.sinceMidnight / 3600000000000

/-- The minute of the hour. -/
def minute (moment : Moment) : Nat := moment.sinceMidnight / 60000000000 % 60

/-- The second of the minute. -/
def secondOfMinute (moment : Moment) : Nat := moment.sinceMidnight / 1000000000 % 60

/-- The nanosecond of the second. -/
def nanosecond (moment : Moment) : Nat := moment.sinceMidnight % 1000000000

/-- The moment at a date and a time of day, in nanoseconds since midnight. -/
def ofDate (date : Date) (sinceMidnight : Nat) (offset : Int) : Moment :=
  ⟨date.dayNumber * day + sinceMidnight, offset⟩

/-- The start of 1970 in UTC. -/
def epoch : Moment := ofDate ⟨1970, 1, 1⟩ 0 0

@[simp] theorem offset_advance (moment : Moment) (n : Int) :
    (moment.advance n).offset = moment.offset := rfl

@[simp] theorem offset_wholeSecond (moment : Moment) : moment.wholeSecond.offset = moment.offset := rfl

/-- The clock stays between its ends. -/
theorem advance_mem (moment : Moment) (n : Int) :
    earliest ≤ (moment.advance n).wall ∧ (moment.advance n).wall ≤ latest := by
  have h : earliest ≤ latest := by decide
  simp only [advance]
  omega

/-- Away from the ends the clock moves by exactly the gap. -/
theorem wall_advance {moment : Moment} {n : Int}
    (hlow : earliest ≤ moment.wall + n * millisecond)
    (hhigh : moment.wall + n * millisecond ≤ latest) :
    (moment.advance n).wall = moment.wall + n * millisecond := by
  simp only [advance]
  omega

theorem wholeSecond_le (moment : Moment) : moment.wholeSecond.wall ≤ moment.wall := by
  simp only [wholeSecond, second]
  omega

theorem wall_wholeSecond_emod (moment : Moment) : moment.wholeSecond.wall % second = 0 := by
  simp only [wholeSecond, second]
  omega

end Moment

end Colloquy.Time
