import Mathlib.Algebra.Order.BigOperators.Group.List
import Mathlib.Algebra.Order.Ring.Int
import Mathlib.Data.List.Infix
import Colloquy.Time.Clock

/-!
# Sums of gaps

A clock adds one gap after another and stops at the ends of the years that it can show. Away from the
ends it has therefore moved by the sum of all gaps (`wall_through`). Gaps that are not negative can only
meet the later end, and a clock that has stopped there stays there, so it shows the sum or that end,
whichever is earlier (`wall_through_of_nonneg`); neither the order nor the grouping of such gaps matters.
`readings_accumulate` says so of a clock that is read with gaps of its own and with the default one.
-/

namespace Colloquy.Time

/-! ### Several gaps -/

namespace Moment

/-- The moment moved through some gaps, one after another. -/
def through (moment : Moment) (gaps : List Int) : Moment := gaps.foldl advance moment

theorem through_append (moment : Moment) (gaps more : List Int) :
    moment.through (gaps ++ more) = (moment.through gaps).through more :=
  List.foldl_append

theorem offset_through (moment : Moment) (gaps : List Int) :
    (moment.through gaps).offset = moment.offset := by
  induction gaps generalizing moment with
  | nil => rfl
  | cons gap rest ih =>
    have hrest : (moment.through (gap :: rest)).offset = (moment.advance gap).offset := ih _
    rw [hrest, offset_advance]

/-- The clock is not stopped at one of its ends by any of the gaps. -/
def Unsaturated (moment : Moment) (gaps : List Int) : Prop :=
  ∀ first, first <+: gaps → first ≠ [] →
    earliest ≤ moment.wall + first.sum * millisecond ∧
      moment.wall + first.sum * millisecond ≤ latest

instance (moment : Moment) (gaps : List Int) : Decidable (moment.Unsaturated gaps) :=
  decidable_of_iff (∀ first ∈ gaps.inits, first ≠ [] →
    earliest ≤ moment.wall + first.sum * millisecond ∧
      moment.wall + first.sum * millisecond ≤ latest) (by simp only [List.mem_inits, Unsaturated])

theorem Unsaturated.of_append {moment : Moment} {gaps more : List Int}
    (h : moment.Unsaturated (gaps ++ more)) : moment.Unsaturated gaps := by
  intro first hfirst hne
  exact h first (hfirst.trans (List.prefix_append gaps more)) hne

/-- Away from its ends the clock moves by the sum of the gaps. -/
theorem wall_through {moment : Moment} {gaps : List Int} (h : moment.Unsaturated gaps) :
    (moment.through gaps).wall = moment.wall + gaps.sum * millisecond := by
  induction gaps generalizing moment with
  | nil => simp [through]
  | cons gap rest ih =>
    have hgap := h [gap] (by simp) (by simp)
    rw [List.sum_singleton] at hgap
    have hfirst := wall_advance hgap.1 hgap.2
    have hrest : (moment.advance gap).Unsaturated rest := by
      intro first hprefix hne
      have hmore := h (gap :: first) (by simpa using hprefix) (by simp)
      rw [List.sum_cons, Int.add_mul] at hmore
      rw [hfirst]
      omega
    have hlast : (moment.through (gap :: rest)).wall =
        (moment.advance gap).wall + rest.sum * millisecond := ih hrest
    rw [hlast, hfirst, List.sum_cons, Int.add_mul]
    omega

/-! ### Moments that a clock can show -/

/-- The years of the local clock reach to the moment. -/
structure Shown (moment : Moment) : Prop where
  earliest_le : earliest ≤ moment.wall
  le_latest : moment.wall ≤ latest

instance (moment : Moment) : Decidable moment.Shown :=
  decidable_of_iff (earliest ≤ moment.wall ∧ moment.wall ≤ latest)
    ⟨fun h => ⟨h.1, h.2⟩, fun h => ⟨h.earliest_le, h.le_latest⟩⟩

theorem shown_advance (moment : Moment) (gap : Int) : (moment.advance gap).Shown :=
  ⟨(advance_mem moment gap).1, (advance_mem moment gap).2⟩

/-- The years of the clock start with a whole second, so no second is cut by their start. -/
theorem Shown.wholeSecond {moment : Moment} (h : moment.Shown) : moment.wholeSecond.Shown := by
  obtain ⟨hlow, hhigh⟩ := h
  have hwhole : earliest % second = 0 := by decide
  simp only [second] at hwhole
  constructor
  · simp only [Moment.wholeSecond, second]
    omega
  · simp only [Moment.wholeSecond, second]
    omega

/-- Dropping the fraction of a second changes nothing else that the clock shows. -/
theorem date_wholeSecond (moment : Moment) : moment.wholeSecond.date = moment.date := by
  have hday : moment.wholeSecond.wall / day = moment.wall / day := by
    simp only [wholeSecond, day, second]
    omega
  rw [date, date, hday]

theorem sinceMidnight_wholeSecond (moment : Moment) :
    moment.wholeSecond.sinceMidnight = moment.sinceMidnight / 1000000000 * 1000000000 := by
  simp only [sinceMidnight, wholeSecond, day, second]
  omega

theorem nanosecond_wholeSecond (moment : Moment) : moment.wholeSecond.nanosecond = 0 := by
  rw [nanosecond, sinceMidnight_wholeSecond]
  omega

theorem secondOfMinute_wholeSecond (moment : Moment) :
    moment.wholeSecond.secondOfMinute = moment.secondOfMinute := by
  rw [secondOfMinute, secondOfMinute, sinceMidnight_wholeSecond]
  omega

theorem minute_wholeSecond (moment : Moment) : moment.wholeSecond.minute = moment.minute := by
  rw [minute, minute, sinceMidnight_wholeSecond]
  omega

theorem hour_wholeSecond (moment : Moment) : moment.wholeSecond.hour = moment.hour := by
  rw [hour, hour, sinceMidnight_wholeSecond]
  omega

/-! ### Gaps that are not negative -/

theorem wall_advance_of_nonneg {moment : Moment} (h : moment.Shown) {gap : Int} (hgap : 0 ≤ gap) :
    (moment.advance gap).wall = min latest (moment.wall + gap * millisecond) := by
  have hlow := h.earliest_le
  have hstep : 0 ≤ gap * millisecond := Int.mul_nonneg hgap (by decide)
  have hends : earliest ≤ latest := by decide
  simp only [advance]
  omega

/-- A clock that stops at the later end stays there, so the cut sums are the cut sum. -/
theorem wall_through_of_nonneg {moment : Moment} (h : moment.Shown) {gaps : List Int}
    (hgaps : ∀ gap ∈ gaps, 0 ≤ gap) :
    (moment.through gaps).wall = min latest (moment.wall + gaps.sum * millisecond) := by
  induction gaps generalizing moment with
  | nil =>
    have hhigh := h.le_latest
    simp only [through, List.foldl_nil, List.sum_nil]
    omega
  | cons gap rest ih =>
    obtain ⟨hgap, hrest⟩ := List.forall_mem_cons.1 hgaps
    have hfirst := wall_advance_of_nonneg h hgap
    have hlast : (moment.through (gap :: rest)).wall =
        min latest ((moment.advance gap).wall + rest.sum * millisecond) :=
      ih (shown_advance moment gap) hrest
    have hmore : 0 ≤ rest.sum * millisecond := Int.mul_nonneg (List.sum_nonneg hrest) (by decide)
    rw [hlast, hfirst, List.sum_cons, Int.add_mul]
    omega

theorem through_eq (moment : Moment) (gaps : List Int) :
    moment.through gaps = ⟨(moment.through gaps).wall, moment.offset⟩ := by
  rw [← offset_through moment gaps]

theorem through_of_nonneg {moment : Moment} (h : moment.Shown) {gaps : List Int}
    (hgaps : ∀ gap ∈ gaps, 0 ≤ gap) :
    moment.through gaps =
      ⟨min latest (moment.wall + gaps.sum * millisecond), moment.offset⟩ := by
  rw [through_eq, wall_through_of_nonneg h hgaps]

theorem through_of_unsaturated {moment : Moment} {gaps : List Int} (h : moment.Unsaturated gaps) :
    moment.through gaps = ⟨moment.wall + gaps.sum * millisecond, moment.offset⟩ := by
  rw [through_eq, wall_through h]

/-- Away from a clock that stands beyond its end, a gap that is not negative does not turn it
back. -/
theorem instant_le_advance {moment : Moment} {gap : Int} (hwall : moment.wall ≤ latest)
    (hgap : 0 ≤ gap) : moment.instant ≤ (moment.advance gap).instant := by
  have hmove : 0 ≤ gap * millisecond := Int.mul_nonneg hgap (by decide)
  simp only [instant, advance]
  omega

end Moment

/-! ### Readings -/

namespace Clock

/-- The gap of a reading: its own or, if it has none, the default one. -/
def gapOf (clock : Clock) (reading : Option Int) : Int := reading.getD clock.gap

/-- The clock after a reading, which can have a gap of its own. -/
def read (clock : Clock) : Option Int → Clock
  | some gap => clock.tickBy gap
  | none => clock.tick

/-- The clock after some readings. -/
def after (clock : Clock) (readings : List (Option Int)) : Clock := readings.foldl read clock

/-- What some readings show. -/
def shows : Clock → List (Option Int) → List Moment
  | _, [] => []
  | clock, reading :: rest => (clock.read reading).now :: (clock.read reading).shows rest

variable {clock : Clock} {readings : List (Option Int)}

theorem now_read (clock : Clock) (reading : Option Int) :
    (clock.read reading).now = clock.now.advance (clock.gapOf reading) := by
  cases reading <;> rfl

theorem gapOf_read (clock : Clock) (reading : Option Int) :
    (clock.read reading).gapOf = clock.gapOf := by
  cases reading <;> rfl

theorem now_after (clock : Clock) (readings : List (Option Int)) :
    (clock.after readings).now = clock.now.through (readings.map clock.gapOf) := by
  induction readings generalizing clock with
  | nil => rfl
  | cons reading rest ih =>
    have hrest : (clock.after (reading :: rest)).now =
        (clock.read reading).now.through (rest.map (clock.read reading).gapOf) := ih _
    rw [hrest, now_read, gapOf_read]
    rfl

/-- Whatever the gaps are, every reading is within the years of the clock and keeps its offset. -/
theorem forall_mem_shows (clock : Clock) (readings : List (Option Int)) :
    ∀ moment ∈ clock.shows readings, moment.Shown ∧ moment.offset = clock.now.offset := by
  induction readings generalizing clock with
  | nil => simp [shows]
  | cons reading rest ih =>
    have hfirst := now_read clock reading
    intro moment hmoment
    rcases List.mem_cons.1 hmoment with rfl | hlater
    · rw [hfirst]
      exact ⟨Moment.shown_advance _ _, rfl⟩
    · obtain ⟨hshown, hoffset⟩ := ih (clock.read reading) moment hlater
      rw [hfirst] at hoffset
      exact ⟨hshown, hoffset⟩

/-- With gaps that are not negative no reading is before an earlier one, or before the start. -/
theorem pairwise_shows (h : clock.now.Shown) (hgaps : ∀ gap ∈ readings.map clock.gapOf, 0 ≤ gap) :
    (clock.now :: clock.shows readings).Pairwise fun a b => a.instant ≤ b.instant := by
  induction readings generalizing clock with
  | nil => simp [shows]
  | cons reading rest ih =>
    rw [List.map_cons, List.forall_mem_cons] at hgaps
    obtain ⟨hgap, hrest⟩ := hgaps
    have hfirst := now_read clock reading
    have hnext : clock.now.instant ≤ (clock.read reading).now.instant := by
      rw [hfirst]
      exact Moment.instant_le_advance h.le_latest hgap
    have hlater : ((clock.read reading).now :: (clock.read reading).shows rest).Pairwise
        fun a b => a.instant ≤ b.instant := by
      refine ih ?_ ?_
      · rw [hfirst]
        exact Moment.shown_advance _ _
      · rw [gapOf_read]
        exact hrest
    refine List.pairwise_cons.2 ⟨?_, hlater⟩
    intro moment hmoment
    rcases List.mem_cons.1 hmoment with rfl | hmem
    · exact hnext
    · exact Int.le_trans hnext ((List.pairwise_cons.1 hlater).1 moment hmem)

/-- One reading for each group of readings, with the sum of the gaps of the group. -/
def pooled (clock : Clock) (groups : List (List (Option Int))) : List (Option Int) :=
  groups.map fun group => some (group.map clock.gapOf).sum

theorem sum_pooled (clock : Clock) (groups : List (List (Option Int))) :
    ((clock.pooled groups).map clock.gapOf).sum = (groups.flatten.map clock.gapOf).sum := by
  induction groups with
  | nil => rfl
  | cons group rest ih =>
    rw [List.flatten_cons, List.map_append, List.sum_append, ← ih]
    rfl

theorem nonneg_pooled {groups : List (List (Option Int))}
    (h : ∀ gap ∈ groups.flatten.map clock.gapOf, 0 ≤ gap) :
    ∀ gap ∈ (clock.pooled groups).map clock.gapOf, 0 ≤ gap := by
  intro gap hgap
  rw [pooled, List.map_map, List.mem_map] at hgap
  obtain ⟨group, hgroup, rfl⟩ := hgap
  refine List.sum_nonneg fun gap hmem => h gap ?_
  obtain ⟨reading, hreading, rfl⟩ := List.mem_map.1 hmem
  exact List.mem_map.2 ⟨reading, List.mem_flatten.2 ⟨group, hgroup, hreading⟩, rfl⟩

/-- A clock starts at the second of its seed, and every reading is within the years that it can show.
With gaps that are not negative the readings come in order, and the last one is the end of these years
or the start and the sum of the gaps, whichever is earlier; so it is the same in any other order of the
readings, and when some of them are made as one. Gaps of both signs have moved the clock by exactly
their sum if they have not led it out of these years on the way. -/
theorem readings_accumulate {seed : Moment} (hseed : seed.Shown) (usual : Int) :
    ((start seed usual).now.Shown ∧ (start seed usual).now.offset = seed.offset ∧
        (start seed usual).now.date = seed.date ∧ (start seed usual).now.hour = seed.hour ∧
        (start seed usual).now.minute = seed.minute ∧
        (start seed usual).now.secondOfMinute = seed.secondOfMinute ∧
        (start seed usual).now.nanosecond = 0) ∧
      ∀ readings : List (Option Int),
        (∀ moment ∈ (start seed usual).shows readings, moment.Shown ∧ moment.offset = seed.offset) ∧
        ((∀ gap ∈ readings.map (start seed usual).gapOf, 0 ≤ gap) →
          ((start seed usual).now :: (start seed usual).shows readings).Pairwise
              (fun a b => a.instant ≤ b.instant) ∧
            ((start seed usual).after readings).now =
              ⟨min Moment.latest (seed.wholeSecond.wall +
                (readings.map (start seed usual).gapOf).sum * Moment.millisecond), seed.offset⟩ ∧
            (∀ others : List (Option Int), others.Perm readings →
              ((start seed usual).after others).now = ((start seed usual).after readings).now) ∧
            ∀ groups, groups.flatten = readings →
              ((start seed usual).after ((start seed usual).pooled groups)).now =
                ((start seed usual).after readings).now) ∧
        (seed.wholeSecond.Unsaturated (readings.map (start seed usual).gapOf) →
          ((start seed usual).after readings).now =
            ⟨seed.wholeSecond.wall +
              (readings.map (start seed usual).gapOf).sum * Moment.millisecond, seed.offset⟩) := by
  have hstart : (start seed usual).now.Shown := hseed.wholeSecond
  refine ⟨⟨hstart, rfl, Moment.date_wholeSecond seed, Moment.hour_wholeSecond seed,
    Moment.minute_wholeSecond seed, Moment.secondOfMinute_wholeSecond seed,
    Moment.nanosecond_wholeSecond seed⟩, ?_⟩
  intro readings
  refine ⟨forall_mem_shows _ readings, ?_, ?_⟩
  · intro hgaps
    have hlast := Moment.through_of_nonneg hstart hgaps
    refine ⟨pairwise_shows hstart hgaps, ?_, ?_, ?_⟩
    · rw [now_after, hlast]
      rfl
    · intro others hperm
      have hothers : ∀ gap ∈ others.map (start seed usual).gapOf, 0 ≤ gap := by
        intro gap hgap
        exact hgaps gap ((hperm.map _).mem_iff.1 hgap)
      rw [now_after, now_after, hlast, Moment.through_of_nonneg hstart hothers,
        (hperm.map (start seed usual).gapOf).sum_eq]
    · rintro groups rfl
      rw [now_after, now_after, hlast, Moment.through_of_nonneg hstart (nonneg_pooled hgaps),
        sum_pooled]
  · intro hgaps
    rw [now_after]
    exact Moment.through_of_unsaturated hgaps

/-- A moment in the last two seconds that a clock can show, five hours behind UTC. -/
def lastCall : Moment := ⟨Moment.latest - 1500000000, -18000⟩

/-- The first readings go beyond the end of the clock, the others turn it back and on. -/
theorem readings_accumulate_lastCall :
    lastCall.Shown ∧
      (∀ gap ∈ [some 0, none, some 9223372036854775807].map (start lastCall 2000).gapOf, 0 ≤ gap) ∧
      ((start lastCall 2000).after [some 0, none, some 9223372036854775807]).now =
        ⟨Moment.latest, -18000⟩ ∧
      lastCall.wholeSecond.Unsaturated ([some (-3000), none].map (start lastCall 2000).gapOf) ∧
      ((start lastCall 2000).after [some (-3000), none]).now =
        ⟨lastCall.wholeSecond.wall - 1000 * Moment.millisecond, -18000⟩ := by
  have hseed : lastCall.Shown := by decide
  have hgaps : ∀ gap ∈ [some 0, none, some 9223372036854775807].map (start lastCall 2000).gapOf,
      0 ≤ gap := by
    decide
  have hback : lastCall.wholeSecond.Unsaturated
      ([some (-3000), none].map (start lastCall 2000).gapOf) := by
    decide
  obtain ⟨-, hall⟩ := readings_accumulate hseed 2000
  have hlast := ((hall [some 0, none, some 9223372036854775807]).2.1 hgaps).2.1
  have hturned := (hall [some (-3000), none]).2.2 hback
  refine ⟨hseed, hgaps, hlast.trans ?_, hback, hturned.trans ?_⟩
  · decide
  · decide

end Clock

end Colloquy.Time
