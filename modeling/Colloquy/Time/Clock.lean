import Colloquy.Time.Moment

/-!
# The conversation's clock

Activities are stamped by a clock of their own. It starts at a whole second and moves only when it
is read, by the default gap or by a gap given for that reading.
-/

namespace Colloquy.Time

/-- A clock that moves when it is read. -/
structure Clock where
  /-- The last reading, or the start. -/
  now : Moment
  /-- Milliseconds that a reading takes when no other gap is given. -/
  gap : Int
deriving DecidableEq, Repr

namespace Clock

/-- The gap between activities when none is configured. -/
def defaultGap : Int := 2000

/-- A clock that starts with the second of a moment. -/
def start (seed : Moment) (gap : Int) : Clock := ⟨seed.wholeSecond, gap⟩

/-- The clock after a reading with a gap of its own. -/
def tickBy (clock : Clock) (gap : Int) : Clock := { clock with now := clock.now.advance gap }

/-- The clock after a reading with the default gap. -/
def tick (clock : Clock) : Clock := clock.tickBy clock.gap

@[simp] theorem gap_tickBy (clock : Clock) (n : Int) : (clock.tickBy n).gap = clock.gap := rfl

@[simp] theorem now_tickBy (clock : Clock) (n : Int) : (clock.tickBy n).now = clock.now.advance n := rfl

@[simp] theorem gap_tick (clock : Clock) : clock.tick.gap = clock.gap := rfl

@[simp] theorem now_tick (clock : Clock) : clock.tick.now = clock.now.advance clock.gap := rfl

@[simp] theorem gap_start (seed : Moment) (gap : Int) : (start seed gap).gap = gap := rfl

end Clock

end Colloquy.Time
