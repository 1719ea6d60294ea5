/-!
# The calendar

Dates of the Gregorian calendar, carried back before its introduction and counted from the first
day of year 0. `Date.ofDayNumber` finds the date of a day number by locating its year between two
year starts and then walking the months; `Date.dayNumber` counts back. The section at the end says
that they are inverse to each other on every date of the calendar.
-/

namespace Colloquy.Time

/-- Whether February of the year has a day more. -/
def isLeapYear (year : Int) : Bool := year % 4 == 0 && (year % 100 != 0 || year % 400 == 0)

/-- The lengths of the months. -/
def monthLengths (leap : Bool) : List Nat :=
  [31, if leap then 29 else 28, 31, 30, 31, 30, 31, 31, 30, 31, 30, 31]

/-- The number of days in months of some lengths. -/
def daysIn : List Nat → Nat
  | [] => 0
  | length :: lengths => length + daysIn lengths

/-- The number of days before the first of January of a year. -/
def yearStart (year : Int) : Int := 365 * year + (year + 3) / 4 - (year + 99) / 100 + (year + 399) / 400

/-- A year, a month and a day, both counted from one. -/
structure Date where
  year : Int
  month : Nat
  day : Nat
deriving DecidableEq, Repr

namespace Date

/-- Whether the month and the day exist. -/
def IsValid (date : Date) : Prop :=
  1 ≤ date.month ∧ date.month ≤ 12 ∧ 1 ≤ date.day ∧
    date.day ≤ (monthLengths (isLeapYear date.year)).getD (date.month - 1) 0

instance (date : Date) : Decidable date.IsValid := by unfold IsValid; infer_instance

/-- The number of days since the first day of year 0. -/
def dayNumber (date : Date) : Int :=
  yearStart date.year +
    (daysIn ((monthLengths (isLeapYear date.year)).take (date.month - 1)) + (date.day - 1) : Nat)

/-- Whether the date is the last of its month. -/
def isMonthEnd (date : Date) : Bool :=
  date.day == (monthLengths (isLeapYear date.year)).getD (date.month - 1) 0

/-- The month, counted from `month` on, and the day in it, of a day counted from zero. -/
def walkMonths : Nat → List Nat → Nat → Nat × Nat
  | month, [], day => (month, day + 1)
  | month, length :: lengths, day =>
    if day < length then (month, day + 1) else walkMonths (month + 1) lengths (day - length)

/-- The year that a day falls in. -/
def yearOf (day : Int) : Int :=
  let near := 400 * day / 146097
  if day < yearStart near then near - 1
  else if yearStart (near + 1) ≤ day then near + 1
  else near

/-- The date of a day number. -/
def ofDayNumber (day : Int) : Date :=
  let year := yearOf day
  let place := walkMonths 1 (monthLengths (isLeapYear year)) (day - yearStart year).toNat
  ⟨year, place.1, place.2⟩

/-! ### Counting days forth and back -/

theorem daysIn_cons (length : Nat) (lengths : List Nat) :
    daysIn (length :: lengths) = length + daysIn lengths := rfl

theorem daysIn_append (a b : List Nat) : daysIn (a ++ b) = daysIn a + daysIn b := by
  induction a with
  | nil => simp [daysIn]
  | cons l ls ih => rw [List.cons_append, daysIn, daysIn, ih, Nat.add_assoc]

/-- A year has 365 days, and one more if it is a leap year. -/
theorem yearStart_succ (year : Int) :
    yearStart (year + 1) = yearStart year + if isLeapYear year then 366 else 365 := by
  simp only [yearStart, isLeapYear, Bool.and_eq_true, beq_iff_eq, Bool.or_eq_true, bne_iff_ne]
  split <;> omega

theorem daysIn_monthLengths (leap : Bool) : daysIn (monthLengths leap) = if leap then 366 else 365 := by
  cases leap <;> rfl

theorem yearStart_le_yearStart {a b : Int} (h : a ≤ b) : yearStart a ≤ yearStart b := by
  simp only [yearStart]
  omega

/-- The year of a day starts on it or before it, and the next one after it. -/
theorem yearStart_yearOf (day : Int) :
    yearStart (yearOf day) ≤ day ∧ day < yearStart (yearOf day + 1) := by
  have hlow : yearStart (400 * day / 146097 - 1) ≤ day := by simp only [yearStart]; omega
  have hhigh : day < yearStart (400 * day / 146097 + 1 + 1) := by simp only [yearStart]; omega
  simp only [yearOf]
  generalize 400 * day / 146097 = near at *
  split
  · next h => exact ⟨hlow, by rwa [Int.sub_add_cancel]⟩
  · next h =>
    split
    · next h' => exact ⟨h', hhigh⟩
    · next h' => exact ⟨by omega, by omega⟩

/-- Year starts determine the year of a day. -/
theorem yearOf_eq {day year : Int} (hlow : yearStart year ≤ day) (hhigh : day < yearStart (year + 1)) :
    yearOf day = year := by
  obtain ⟨hl, hh⟩ := yearStart_yearOf day
  rcases Int.lt_trichotomy (yearOf day) year with h | h | h
  · have := yearStart_le_yearStart (show yearOf day + 1 ≤ year by omega)
    omega
  · exact h
  · have := yearStart_le_yearStart (show year + 1 ≤ yearOf day by omega)
    omega

/-- Walking the months finds the one that a day count was taken from. -/
theorem walkMonths_eq (month : Nat) (lengths : List Nat) (k r : Nat) (hk : k < lengths.length)
    (hr : r < lengths[k]) :
    walkMonths month lengths (daysIn (lengths.take k) + r) = (month + k, r + 1) := by
  induction lengths generalizing month k with
  | nil => simp at hk
  | cons l ls ih =>
    cases k with
    | zero =>
      have hr' : r < l := hr
      simp [walkMonths, daysIn, hr']
    | succ k =>
      have hk' : k < ls.length := by simpa using hk
      have hr' : r < ls[k] := hr
      have hsum : daysIn ((l :: ls).take (k + 1)) + r = l + (daysIn (ls.take k) + r) := by
        simp only [List.take_succ_cons, daysIn_cons]; omega
      rw [hsum, walkMonths, if_neg (by omega), Nat.add_sub_cancel_left, ih (month + 1) k hk' hr']
      simp only [Prod.mk.injEq, and_true]
      omega

/-- The month and the day found make up the day count. -/
theorem walkMonths_spec (month : Nat) (lengths : List Nat) (day : Nat) (h : day < daysIn lengths) :
    ∃ k, ∃ hk : k < lengths.length, ∃ r, r < lengths[k] ∧ day = daysIn (lengths.take k) + r ∧
      walkMonths month lengths day = (month + k, r + 1) := by
  induction lengths generalizing month day with
  | nil => simp [daysIn] at h
  | cons l ls ih =>
    by_cases hl : day < l
    · exact ⟨0, by simp, day, hl, by simp [daysIn], by simp [walkMonths, hl]⟩
    · rw [daysIn_cons] at h
      obtain ⟨k, hk, r, hr, hday, hwalk⟩ := ih (month + 1) (day - l) (by omega)
      refine ⟨k + 1, by simpa using hk, r, by simpa using hr, ?_, ?_⟩
      · simp only [List.take_succ_cons, daysIn_cons]; omega
      · simp only [walkMonths, hl, if_false, hwalk, Prod.mk.injEq, and_true]; omega

theorem length_monthLengths (leap : Bool) : (monthLengths leap).length = 12 := rfl

/-- Every day number has a date that exists, and it is the number of that date. -/
theorem dayNumber_ofDayNumber (day : Int) :
    (ofDayNumber day).IsValid ∧ (ofDayNumber day).dayNumber = day := by
  obtain ⟨hlow, hhigh⟩ := yearStart_yearOf day
  rw [yearStart_succ] at hhigh
  have hsum := daysIn_monthLengths (isLeapYear (yearOf day))
  have hlt : (day - yearStart (yearOf day)).toNat < daysIn (monthLengths (isLeapYear (yearOf day))) := by
    rw [hsum]; split at hhigh <;> split <;> simp_all <;> omega
  obtain ⟨k, hk, r, hr, hday, hwalk⟩ := walkMonths_spec 1 _ _ hlt
  have hk12 : k < 12 := by rw [length_monthLengths] at hk; exact hk
  constructor
  · simp only [ofDayNumber, IsValid, hwalk, Nat.add_sub_cancel_left]
    rw [List.getD_eq_getElem?_getD, List.getElem?_eq_getElem hk]
    simp only [Option.getD_some]
    omega
  · simp only [ofDayNumber, dayNumber, hwalk, Nat.add_sub_cancel_left, Nat.add_sub_cancel]
    rw [← hday]
    omega

/-- The date of the day number of a date that exists is that date. -/
theorem ofDayNumber_dayNumber {date : Date} (h : date.IsValid) : ofDayNumber date.dayNumber = date := by
  obtain ⟨year, month, day⟩ := date
  obtain ⟨hm, hm', hd, hd'⟩ := h
  simp only at hm hm' hd hd'
  obtain ⟨k, rfl⟩ : ∃ k, month = k + 1 := ⟨month - 1, by omega⟩
  obtain ⟨r, rfl⟩ : ∃ r, day = r + 1 := ⟨day - 1, by omega⟩
  simp only [Nat.add_sub_cancel] at hd'
  have hk : k < (monthLengths (isLeapYear year)).length := by rw [length_monthLengths]; omega
  rw [List.getD_eq_getElem?_getD, List.getElem?_eq_getElem hk, Option.getD_some] at hd'
  have hr : r < (monthLengths (isLeapYear year))[k] := by omega
  have hbound : daysIn ((monthLengths (isLeapYear year)).take k) + r <
      daysIn (monthLengths (isLeapYear year)) := by
    have hsplit := congrArg daysIn (List.take_append_drop k (monthLengths (isLeapYear year)))
    rw [daysIn_append, List.drop_eq_getElem_cons hk, daysIn_cons] at hsplit
    omega
  rw [daysIn_monthLengths] at hbound
  have hyear : yearOf (dayNumber ⟨year, k + 1, r + 1⟩) = year := by
    apply yearOf_eq
    · simp only [dayNumber]; omega
    · rw [yearStart_succ]
      simp only [dayNumber, Nat.add_sub_cancel]
      generalize daysIn ((monthLengths (isLeapYear year)).take k) = before at hbound ⊢
      by_cases h : isLeapYear year = true
      · rw [if_pos h] at hbound ⊢; omega
      · rw [if_neg h] at hbound ⊢; omega
  simp only [ofDayNumber, hyear]
  have hcount : (dayNumber ⟨year, k + 1, r + 1⟩ - yearStart year).toNat =
      daysIn ((monthLengths (isLeapYear year)).take k) + r := by
    simp only [dayNumber, Nat.add_sub_cancel]; omega
  rw [hcount, walkMonths_eq 1 _ k r hk hr, Nat.add_comm 1 k]

example : ofDayNumber (dayNumber ⟨2024, 2, 29⟩) = ⟨2024, 2, 29⟩ := by decide
example : ofDayNumber (dayNumber ⟨-9999, 1, 1⟩) = ⟨-9999, 1, 1⟩ := by decide
example : dayNumber ⟨1970, 1, 1⟩ = 719528 := by decide

end Date

end Colloquy.Time
