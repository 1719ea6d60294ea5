import Mathlib.Data.List.TakeWhile
import Mathlib.Data.Option.Basic
import Colloquy.Proofs.Text.Digits
import Colloquy.Time.Rfc3339

/-!
# Moments read back

A moment that can be written is read back as it was, to the nanosecond and with its offset
(`read?_write`). Every field stands in as many places as it is read from; a fraction without its
trailing zeros has the value that it has with them. What can be written is `Writable`, and whatever
is read is (`writable_of_read?`).
-/

namespace Colloquy.Time

open Text (isDigit padded valueOf)

/-! ### Fields of a moment -/

theorem Date.day_le_of_isValid {date : Date} (h : date.IsValid) : date.day ≤ 31 := by
  obtain ⟨hfirst, hlast, -, hday⟩ := h
  have hlengths : ∀ (leap : Bool) (place : Fin 12), (monthLengths leap).getD place 0 ≤ 31 := by
    decide
  exact le_trans hday (hlengths (isLeapYear date.year) ⟨date.month - 1, by omega⟩)

namespace Moment

theorem sinceMidnight_lt (moment : Moment) : moment.sinceMidnight < 86400000000000 := by
  rw [sinceMidnight, day, second]
  omega

theorem hour_lt (moment : Moment) : moment.hour < 24 := by
  have h := moment.sinceMidnight_lt
  rw [hour]
  omega

theorem minute_lt (moment : Moment) : moment.minute < 60 := Nat.mod_lt _ (by decide)

theorem secondOfMinute_lt (moment : Moment) : moment.secondOfMinute < 60 := Nat.mod_lt _ (by decide)

theorem nanosecond_lt (moment : Moment) : moment.nanosecond < 1000000000 := Nat.mod_lt _ (by decide)

/-- The fields of the time of day make up the time since midnight. -/
theorem sinceMidnight_eq (moment : Moment) :
    ((moment.hour * 60 + moment.minute) * 60 + moment.secondOfMinute) * 1000000000 +
      moment.nanosecond = moment.sinceMidnight := by
  simp only [hour, minute, secondOfMinute, nanosecond]
  omega

/-- The date and the time since midnight make up the moment. -/
theorem ofDate_date (moment : Moment) :
    ofDate moment.date moment.sinceMidnight moment.offset = moment := by
  have hday := (Date.dayNumber_ofDayNumber (moment.wall / day)).2
  rw [ofDate, date, hday, sinceMidnight]
  cases moment with
  | mk wall offset =>
    rw [mk.injEq]
    refine ⟨?_, rfl⟩
    simp only [day, second]
    omega

end Moment

namespace Rfc3339

variable {rest : Text}

/-! ### Fields of a text -/

theorem field?_padded {count n : Nat} (hcount : 0 < count) (hn : n < Nat.pow 10 count)
    (rest : Text) : field? count (padded count n ++ rest) = some (n, rest) := by
  have htake : (padded count n ++ rest).take count = padded count n :=
    List.take_left' (Text.length_padded count n)
  have hdrop : (padded count n ++ rest).drop count = rest :=
    List.drop_left' (Text.length_padded count n)
  rw [field?, htake, hdrop, if_pos (Text.length_padded count n),
    Text.ofDigits?_padded hcount hn]
  rfl

theorem after?_append (lead rest : Text) : Text.after? lead (lead ++ rest) = some rest :=
  Text.after?_eq_some_iff.2 rfl

/-- The nine places of a fraction are what is written of it and zeros. -/
theorem padded_eq_fraction (n : Nat) :
    ∃ zeros, padded 9 n = fraction n ++ List.replicate zeros '0' := by
  have hsplit := List.takeWhile_append_dropWhile (p := fun c : Char => c == '0')
    (l := (padded 9 n).reverse)
  have hzeros : ∀ c ∈ ((padded 9 n).reverse.takeWhile (· == '0')).reverse, c = '0' := by
    intro c hc
    simpa using List.mem_takeWhile_imp (List.mem_reverse.1 hc)
  refine ⟨((padded 9 n).reverse.takeWhile (· == '0')).reverse.length, ?_⟩
  rw [← List.eq_replicate_of_mem hzeros, fraction, ← List.reverse_append, hsplit,
    List.reverse_reverse]

theorem isDigit_of_mem_fraction {n : Nat} {c : Char} (h : c ∈ fraction n) : isDigit c = true := by
  obtain ⟨zeros, hzeros⟩ := padded_eq_fraction n
  have hall := Text.all_isDigit_padded 9 n
  rw [List.all_eq_true, hzeros] at hall
  exact hall c (List.mem_append_left _ h)

theorem length_fraction_le (n : Nat) : (fraction n).length ≤ 9 := by
  obtain ⟨zeros, hzeros⟩ := padded_eq_fraction n
  have hlength := congrArg List.length hzeros
  rw [Text.length_padded, List.length_append] at hlength
  omega

/-- A fraction has the value that it has with its trailing zeros. -/
theorem valueOf_fraction {n : Nat} (h : n < 1000000000) :
    valueOf (fraction n) * Nat.pow 10 (9 - (fraction n).length) = n := by
  obtain ⟨zeros, hzeros⟩ := padded_eq_fraction n
  have hlength := congrArg List.length hzeros
  rw [Text.length_padded, List.length_append, List.length_replicate] at hlength
  have hcount : 9 - (fraction n).length = zeros := by omega
  have hvalue := Text.valueOf_padded 9 n
  rw [hzeros, Text.valueOf_append_zeros] at hvalue
  rw [hcount]
  exact hvalue.trans (Nat.mod_eq_of_lt h)

theorem fraction_ne_nil {n : Nat} (hn : n ≠ 0) (h : n < 1000000000) : fraction n ≠ [] := by
  intro hnil
  have hvalue := valueOf_fraction h
  rw [hnil] at hvalue
  exact hn (by simpa [valueOf] using hvalue.symm)

theorem fraction?_write {n : Nat} (h : n < 1000000000)
    (hrest : ∀ c, rest.head? = some c → isDigit c = false ∧ c ≠ '.') :
    fraction? ((if n = 0 then [] else '.' :: fraction n) ++ rest) = some (n, rest) := by
  split_ifs with hn
  · subst hn
    cases rest with
    | nil => rfl
    | cons c cs =>
      rw [List.nil_append, fraction?]
      exact fun _ heq => (hrest c rfl).2 (List.cons.inj heq).1
  · obtain ⟨htake, hdrop⟩ := Text.takeWhile_isDigit_append
      (fun c hc => isDigit_of_mem_fraction (n := n) hc) fun c hc => (hrest c hc).1
    rw [List.cons_append, fraction?, htake, hdrop, if_neg (fraction_ne_nil hn h),
      List.take_of_length_le (length_fraction_le n)]
    exact congrArg (fun value => some (value, rest)) (valueOf_fraction h)

/-! ### Offsets -/

/-- The hours and the minutes of an offset of a day at most. -/
theorem offset?_signed {sign : Char} (hsign : sign = '+' ∨ sign = '-') {minutes : Nat}
    (h : minutes < 1440) :
    offset? (sign :: (padded 2 (minutes / 60) ++ ((":" : Text) ++ padded 2 (minutes % 60)))) =
      some (if sign = '-' then -((minutes * 60 : Nat) : Int) else (minutes * 60 : Nat)) := by
  have hhours : minutes / 60 < Nat.pow 10 2 := by
    show minutes / 60 < 100
    omega
  have hrest : minutes % 60 < Nat.pow 10 2 := by
    show minutes % 60 < 100
    omega
  have hlast := field?_padded (by decide) hrest []
  rw [List.append_nil] at hlast
  have hseconds : minutes / 60 * 3600 + minutes % 60 * 60 = minutes * 60 := by omega
  have hfields : minutes / 60 ≤ 23 ∧ minutes % 60 ≤ 59 := ⟨by omega, by omega⟩
  rw [offset?]
  · simp only [Option.bind_eq_bind, Option.pure_def, Option.bind_some,
      (Option.guard_eq_some' ()).2 hsign, field?_padded (by decide) hhours, after?_append, hlast,
      true_and, (Option.guard_eq_some' ()).2 hfields, hseconds]
  all_goals
    rintro rfl
    exact absurd hsign (by decide)

/-- An offset that can be written is read back. -/
theorem offset?_writeOffset {offset : Int} (hminutes : offset % 60 = 0)
    (hday : offset.natAbs < 86400) : offset? (writeOffset offset) = some offset := by
  have hsign : (if offset < 0 then '-' else '+') = '+' ∨ (if offset < 0 then '-' else '+') = '-' := by
    split_ifs <;> simp
  have htext : writeOffset offset = (if offset < 0 then '-' else '+') ::
      (padded 2 (offset.natAbs / 60 / 60) ++ ((":" : Text) ++ padded 2 (offset.natAbs / 60 % 60))) := by
    simp only [writeOffset, Text.concat_cons, Text.concat_nil, List.append_nil]
    split_ifs <;> rfl
  rw [htext, offset?_signed hsign (by omega)]
  by_cases hneg : offset < 0
  · rw [if_pos hneg, if_pos rfl, Option.some.injEq]
    omega
  · rw [if_neg hneg, if_neg (by decide), Option.some.injEq]
    omega

/-- The text of an offset. -/
def offsetText (offset : Int) : Text := if offset = 0 then "Z" else writeOffset offset

theorem offset?_offsetText {offset : Int} (hminutes : offset % 60 = 0)
    (hday : offset.natAbs < 86400) : offset? (offsetText offset) = some offset := by
  rw [offsetText]
  split_ifs with hzero
  · rw [hzero]
    rfl
  · exact offset?_writeOffset hminutes hday

/-- The text of an offset does not go on with a fraction. -/
theorem head?_offsetText (offset : Int) :
    ∀ c, (offsetText offset).head? = some c → isDigit c = false ∧ c ≠ '.' := by
  rw [offsetText, writeOffset]
  split_ifs <;> rintro c ⟨⟩ <;> decide

/-! ### Moments -/

/-- The text of a moment with a year of four digits. -/
def textOf (moment : Moment) : Text :=
  padded 4 moment.date.year.toNat ++ ("-".toList ++ (padded 2 moment.date.month ++ ("-".toList ++
    (padded 2 moment.date.day ++ 'T' :: (padded 2 moment.hour ++ (":".toList ++
      (padded 2 moment.minute ++ (":".toList ++ (padded 2 moment.secondOfMinute ++
        ((if moment.nanosecond = 0 then [] else '.' :: fraction moment.nanosecond) ++
          offsetText moment.offset))))))))))

/-- What can be written, and how. -/
theorem write?_eq_some_iff {moment : Moment} {text : Text} :
    write? moment = some text ↔
      (0 ≤ moment.date.year ∧ moment.date.year ≤ 9999 ∧ moment.offset % 60 = 0 ∧
        moment.offset.natAbs < 86400) ∧ text = textOf moment := by
  have htext : Text.concat [padded 4 moment.date.year.toNat, "-", padded 2 moment.date.month, "-",
      padded 2 moment.date.day, "T", padded 2 moment.hour, ":", padded 2 moment.minute, ":",
      padded 2 moment.secondOfMinute,
      if moment.nanosecond = 0 then [] else '.' :: fraction moment.nanosecond,
      if moment.offset = 0 then "Z" else writeOffset moment.offset] = textOf moment := by
    simp only [Text.concat_cons, Text.concat_nil, List.append_nil]
    rfl
  rw [write?]
  split
  · rename_i hwritable
    simp only [htext, Option.some.injEq, eq_comm (a := text), hwritable, true_and]
  · rename_i hwritable
    constructor
    · intro h
      cases h
    · rintro ⟨h, -⟩
      exact absurd h hwritable

theorem read?_textOf {moment : Moment} (hyear : 0 ≤ moment.date.year)
    (hyear' : moment.date.year ≤ 9999) (hminutes : moment.offset % 60 = 0)
    (hday : moment.offset.natAbs < 86400) : read? (textOf moment) = some moment := by
  have hvalid : moment.date.IsValid := (Date.dayNumber_ofDayNumber (moment.wall / Moment.day)).1
  have hdate : (⟨(moment.date.year.toNat : Int), moment.date.month, moment.date.day⟩ : Date) =
      moment.date := by
    rw [Int.toNat_of_nonneg hyear]
  have hfour : moment.date.year.toNat < Nat.pow 10 4 := by
    show moment.date.year.toNat < 10000
    omega
  have htwo : ∀ n : Nat, n < 60 → n < Nat.pow 10 2 := fun n hn => Nat.lt_trans hn (by decide)
  have hmonth := htwo _ (Nat.lt_of_le_of_lt hvalid.2.1 (by decide))
  have hdayOfMonth := htwo _ (Nat.lt_of_le_of_lt (Date.day_le_of_isValid hvalid) (by decide))
  have hhour := htwo _ (Nat.lt_trans moment.hour_lt (by decide))
  have hminute := htwo _ moment.minute_lt
  have hsecond := htwo _ moment.secondOfMinute_lt
  have hseparator : 'T'.toNat < 128 := by decide
  have hranges : moment.date.IsValid ∧ moment.hour ≤ 23 ∧ moment.minute ≤ 59 :=
    ⟨hvalid, Nat.le_of_lt_succ moment.hour_lt, Nat.le_of_lt_succ moment.minute_lt⟩
  have hsixty : moment.secondOfMinute ≠ 60 := Nat.ne_of_lt moment.secondOfMinute_lt
  have hregular : moment.secondOfMinute ≤ 59 := Nat.le_of_lt_succ moment.secondOfMinute_lt
  refine Option.bind_eq_some_iff.2 ⟨_, field?_padded (by decide) hfour _, ?_⟩
  refine Option.bind_eq_some_iff.2 ⟨_, after?_append _ _, ?_⟩
  refine Option.bind_eq_some_iff.2 ⟨_, field?_padded (by decide) hmonth _, ?_⟩
  refine Option.bind_eq_some_iff.2 ⟨_, after?_append _ _, ?_⟩
  refine Option.bind_eq_some_iff.2 ⟨_, field?_padded (by decide) hdayOfMonth _, ?_⟩
  refine Option.bind_eq_some_iff.2 ⟨'T', rfl, ?_⟩
  refine Option.bind_eq_some_iff.2 ⟨(), (Option.guard_eq_some' ()).2 hseparator, ?_⟩
  refine Option.bind_eq_some_iff.2 ⟨_, field?_padded (by decide) hhour _, ?_⟩
  refine Option.bind_eq_some_iff.2 ⟨_, after?_append _ _, ?_⟩
  refine Option.bind_eq_some_iff.2 ⟨_, field?_padded (by decide) hminute _, ?_⟩
  refine Option.bind_eq_some_iff.2 ⟨_, after?_append _ _, ?_⟩
  refine Option.bind_eq_some_iff.2 ⟨_, field?_padded (by decide) hsecond _, ?_⟩
  refine Option.bind_eq_some_iff.2
    ⟨_, fraction?_write moment.nanosecond_lt (head?_offsetText moment.offset), ?_⟩
  refine Option.bind_eq_some_iff.2 ⟨_, offset?_offsetText hminutes hday, ?_⟩
  rw [hdate]
  refine Option.bind_eq_some_iff.2 ⟨(), (Option.guard_eq_some' ()).2 hranges, ?_⟩
  rw [if_neg hsixty]
  refine Option.bind_eq_some_iff.2 ⟨(), (Option.guard_eq_some' ()).2 hregular, ?_⟩
  rw [Moment.sinceMidnight_eq, Moment.ofDate_date]
  rfl

/-- A moment that can be written is read back. -/
theorem read?_write {moment : Moment} {text : Text} (h : write? moment = some text) :
    read? text = some moment := by
  obtain ⟨⟨hyear, hyear', hminutes, hday⟩, rfl⟩ := write?_eq_some_iff.1 h
  exact read?_textOf hyear hyear' hminutes hday

/-! ### Years -/

/-- The year of a day is the last one that has begun. -/
theorem le_yearOf_iff {day year : Int} : year ≤ Date.yearOf day ↔ yearStart year ≤ day := by
  obtain ⟨hlow, hhigh⟩ := Date.yearStart_yearOf day
  constructor
  · intro h
    exact le_trans (Date.yearStart_le_yearStart h) hlow
  · intro h
    by_contra hlt
    have hnext := Date.yearStart_le_yearStart (show Date.yearOf day + 1 ≤ year by omega)
    omega

/-- A clock shows a year that is not negative once it has come to the start of year 0. -/
theorem year_nonneg_iff {moment : Moment} : 0 ≤ moment.date.year ↔ 0 ≤ moment.wall := by
  have hyear : 0 ≤ moment.date.year ↔ yearStart 0 ≤ moment.wall / Moment.day := le_yearOf_iff
  have hstart : yearStart 0 = 0 := by decide
  rw [hyear, hstart, Moment.day, Moment.second]
  omega

/-- A clock that is not beyond its end shows a year of four digits or one before year 0. -/
theorem year_le_of_wall_le {moment : Moment} (h : moment.wall ≤ Moment.latest) :
    moment.date.year ≤ 9999 := by
  by_contra hlt
  have hyear : yearStart 10000 ≤ moment.wall / Moment.day := le_yearOf_iff.1 (by
    have : ¬Date.yearOf (moment.wall / Moment.day) ≤ 9999 := hlt
    omega)
  rw [Moment.latest] at h
  simp only [Moment.day, Moment.second] at h hyear
  omega

/-! ### Moments that are read -/

/-- The year has four digits, and the offset is a whole number of minutes within a day. -/
def Writable (moment : Moment) : Prop :=
  0 ≤ moment.date.year ∧ moment.date.year ≤ 9999 ∧ moment.offset % 60 = 0 ∧
    moment.offset.natAbs < 86400

instance (moment : Moment) : Decidable (Writable moment) := by unfold Writable; infer_instance

theorem exists_write?_iff {moment : Moment} :
    (∃ text, write? moment = some text) ↔ Writable moment := by
  constructor
  · rintro ⟨text, htext⟩
    exact (write?_eq_some_iff.1 htext).1
  · intro h
    exact ⟨_, write?_eq_some_iff.2 ⟨h, rfl⟩⟩

theorem field?_lt {count n : Nat} {text : Text} (h : field? count text = some (n, rest)) :
    n < Nat.pow 10 count := by
  rw [field?] at h
  split at h
  · rename_i hlength
    obtain ⟨m, hm, hpair⟩ := Option.map_eq_some_iff.1 h
    cases hpair
    rw [← hlength]
    exact Text.ofDigits?_lt hm
  · cases h

theorem fraction?_lt {n : Nat} {text : Text} (h : fraction? text = some (n, rest)) :
    n < 1000000000 := by
  rw [fraction?.eq_def] at h
  split at h
  · rename_i text
    simp only at h
    split at h
    · cases h
    · obtain ⟨rfl, -⟩ := Prod.mk.inj (Option.some.inj h)
      have hdigits : ∀ c ∈ (text.takeWhile isDigit).take 9, isDigit c = true := by
        intro c hc
        exact List.mem_takeWhile_imp (List.mem_of_mem_take hc)
      have hvalue := Text.valueOf_lt hdigits
      have hlength : ((text.takeWhile isDigit).take 9).length ≤ 9 := by
        rw [List.length_take]
        exact Nat.min_le_left _ _
      generalize (text.takeWhile isDigit).take 9 = digits at hvalue hlength ⊢
      calc valueOf digits * Nat.pow 10 (9 - digits.length)
          < Nat.pow 10 digits.length * Nat.pow 10 (9 - digits.length) :=
            Nat.mul_lt_mul_of_pos_right hvalue (Nat.pow_pos (by decide))
        _ = 10 ^ (digits.length + (9 - digits.length)) := (Nat.pow_add 10 _ _).symm
        _ = 10 ^ 9 := by rw [Nat.add_sub_cancel' hlength]
  · cases h
    decide

/-- The offset that is read is a whole number of minutes within a day. -/
theorem offset_of_offset? {text : Text} {offset : Int} (h : offset? text = some offset) :
    offset % 60 = 0 ∧ offset.natAbs < 86400 := by
  rw [offset?.eq_def] at h
  split at h
  · cases h
    decide
  · cases h
    decide
  · obtain ⟨_, -, h⟩ := Option.bind_eq_some_iff.1 h
    obtain ⟨⟨hours, text⟩, -, h⟩ := Option.bind_eq_some_iff.1 h
    obtain ⟨text, -, h⟩ := Option.bind_eq_some_iff.1 h
    obtain ⟨⟨minutes, text⟩, -, h⟩ := Option.bind_eq_some_iff.1 h
    obtain ⟨_, hguard, h⟩ := Option.bind_eq_some_iff.1 h
    obtain ⟨-, hhours, hminutes⟩ := (Option.guard_eq_some' ()).1 hguard
    have hseconds := Option.some.inj h
    split at hseconds <;> omega
  · cases h

/-- The date of a moment is the date that it was made from. -/
theorem date_ofDate {date : Date} {sinceMidnight : Nat} (hdate : date.IsValid)
    (hday : sinceMidnight < 86400000000000) (offset : Int) :
    (Moment.ofDate date sinceMidnight offset).date = date := by
  have hwall : (date.dayNumber * Moment.day + sinceMidnight) / Moment.day = date.dayNumber := by
    simp only [Moment.day, Moment.second]
    omega
  rw [Moment.date, Moment.ofDate, hwall, Date.ofDayNumber_dayNumber hdate]

theorem writable_ofDate {date : Date} {sinceMidnight : Nat} {offset : Int} (hdate : date.IsValid)
    (hyear : 0 ≤ date.year ∧ date.year ≤ 9999) (hday : sinceMidnight < 86400000000000)
    (hoffset : offset % 60 = 0 ∧ offset.natAbs < 86400) :
    Writable (Moment.ofDate date sinceMidnight offset) := by
  rw [Writable, date_ofDate hdate hday]
  exact ⟨hyear.1, hyear.2, hoffset⟩

/-- What is read can be written. -/
theorem writable_of_read? {text : Text} {moment : Moment} (h : read? text = some moment) :
    Writable moment := by
  obtain ⟨⟨year, text⟩, hyear, h⟩ := Option.bind_eq_some_iff.1 h
  obtain ⟨text, -, h⟩ := Option.bind_eq_some_iff.1 h
  obtain ⟨⟨month, text⟩, -, h⟩ := Option.bind_eq_some_iff.1 h
  obtain ⟨text, -, h⟩ := Option.bind_eq_some_iff.1 h
  obtain ⟨⟨day, text⟩, -, h⟩ := Option.bind_eq_some_iff.1 h
  obtain ⟨separator, -, h⟩ := Option.bind_eq_some_iff.1 h
  obtain ⟨_, -, h⟩ := Option.bind_eq_some_iff.1 h
  obtain ⟨⟨hour, text⟩, -, h⟩ := Option.bind_eq_some_iff.1 h
  obtain ⟨text, -, h⟩ := Option.bind_eq_some_iff.1 h
  obtain ⟨⟨minute, text⟩, -, h⟩ := Option.bind_eq_some_iff.1 h
  obtain ⟨text, -, h⟩ := Option.bind_eq_some_iff.1 h
  obtain ⟨⟨second, text⟩, -, h⟩ := Option.bind_eq_some_iff.1 h
  obtain ⟨⟨nanosecond, text⟩, hnanosecond, h⟩ := Option.bind_eq_some_iff.1 h
  obtain ⟨offset, hoffset, h⟩ := Option.bind_eq_some_iff.1 h
  obtain ⟨_, hranges, h⟩ := Option.bind_eq_some_iff.1 h
  obtain ⟨hdate, hhour, hminute⟩ := (Option.guard_eq_some' ()).1 hranges
  have hfour : year < 10000 := field?_lt hyear
  have hyears : (0 : Int) ≤ year ∧ (year : Int) ≤ 9999 := by omega
  have hoffsets := offset_of_offset? hoffset
  split at h
  · obtain ⟨_, -, h⟩ := Option.bind_eq_some_iff.1 h
    rw [← Option.some.inj h]
    exact writable_ofDate hdate hyears (by omega) hoffsets
  · obtain ⟨_, hsecond, h⟩ := Option.bind_eq_some_iff.1 h
    have hregular := (Option.guard_eq_some' ()).1 hsecond
    have hfraction := fraction?_lt hnanosecond
    rw [← Option.some.inj h]
    exact writable_ofDate hdate hyears (by omega) hoffsets

end Rfc3339

end Colloquy.Time
