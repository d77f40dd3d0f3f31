import CsvIntake.Clock
import Mathlib.Algebra.BigOperators.Group.List.Basic
import Mathlib.Algebra.Ring.Nat

/-! The step from one second of the calendar to the next. It adds one to the number of seconds since
the first day, across the ends of minutes, hours, days, months and years, and it is missing only in
the last second of the last year. -/
namespace CsvIntake

/-- The leap years of the Gregorian calendar. -/
theorem isLeapYear_iff {year : Nat} :
    isLeapYear year = true ↔ year % 4 = 0 ∧ (year % 100 ≠ 0 ∨ year % 400 = 0) :=
  decide_eq_true_iff

/-- A month has 28 to 31 days. -/
theorem daysInMonth_bounds (year month : Nat) :
    28 ≤ daysInMonth year month ∧ daysInMonth year month ≤ 31 := by
  rw [daysInMonth.eq_def]
  split
  · split <;> omega
  all_goals omega

namespace Date

theorem of?_eq_some_iff {year month day : Nat} {d : Date} :
    of? year month day = some d ↔ d.year = year ∧ d.month = month ∧ d.day = day := by
  rw [of?]
  constructor
  · intro h
    split at h
    · obtain rfl := Option.some.inj h
      exact ⟨rfl, rfl, rfl⟩
    · cases h
  · rintro ⟨rfl, rfl, rfl⟩
    rw [dif_pos ⟨⟨d.year_pos, d.year_le⟩, ⟨d.month_pos, d.month_le⟩, d.day_pos, d.day_le⟩]

/-- There is no date outside of the years 1 to 9999, or of the months and days of its year. -/
theorem of?_eq_none_iff {year month day : Nat} :
    of? year month day = none ↔ ¬ ((1 ≤ year ∧ year ≤ 9999) ∧ (1 ≤ month ∧ month ≤ 12) ∧
      (1 ≤ day ∧ day ≤ daysInMonth year month)) := by
  rw [of?]
  split <;> simp_all

/-- The days before a month are those of the months before it. -/
theorem daysBeforeMonth_eq_sum (year month : Nat) : daysBeforeMonth year month =
    ((List.range (month - 1)).map fun m => daysInMonth year (m + 1)).sum :=
  rfl

theorem daysBeforeMonth_succ (year : Nat) {month : Nat} (h : 1 ≤ month) :
    daysBeforeMonth year (month + 1) = daysBeforeMonth year month + daysInMonth year month := by
  obtain ⟨past, rfl⟩ := Nat.exists_eq_add_of_le' h
  simp only [daysBeforeMonth_eq_sum, Nat.add_sub_cancel]
  exact List.sum_range_succ _ past

/-- A year has 365 days, or 366. -/
theorem daysBeforeMonth_thirteen (year : Nat) :
    daysBeforeMonth year 13 = if isLeapYear year then 366 else 365 := by
  cases h : isLeapYear year <;> simp [daysBeforeMonth, List.range, List.range.loop, daysInMonth, h]

theorem daysBeforeYear_succ {year : Nat} (h : 1 ≤ year) :
    daysBeforeYear (year + 1) = daysBeforeYear year + daysBeforeMonth year 13 := by
  obtain ⟨past, rfl⟩ := Nat.exists_eq_add_of_le' h
  have hFewer : past / 100 ≤ past / 4 := Nat.div_le_div_left (by decide) (by decide)
  rw [daysBeforeMonth_thirteen]
  simp only [daysBeforeYear, Nat.add_sub_cancel, Nat.succ_div, isLeapYear_iff,
    ← Nat.dvd_iff_mod_eq_zero, ne_eq]
  split_ifs <;> omega

/-- The day after is the next one in number. -/
theorem dayNumber_of_next? {d next : Date} (h : d.next? = some next) :
    next.dayNumber = d.dayNumber + 1 := by
  have hDay := d.day_pos
  rw [next?, Option.or_eq_some_iff, Option.or_eq_some_iff] at h
  rcases h with hSame | ⟨hLastDay, hMonth | ⟨hLastMonth, hYear⟩⟩
  · obtain ⟨hy, hm, hd⟩ := of?_eq_some_iff.mp hSame
    simp only [dayNumber, hy, hm, hd]
    omega
  all_goals
    -- the day is the last one of its month
    have hEnd : d.day = daysInMonth d.year d.month := by
      have := of?_eq_none_iff.mp hLastDay
      have := d.year_pos
      have := d.year_le
      have := d.month_pos
      have := d.month_le
      have := d.day_le
      omega
    have hStart := daysBeforeMonth_succ d.year d.month_pos
  · obtain ⟨hy, hm, hd⟩ := of?_eq_some_iff.mp hMonth
    simp only [dayNumber, hy, hm, hd, hStart]
    omega
  · -- the month is the last one of its year
    have hTwelve : d.month = 12 := by
      have := of?_eq_none_iff.mp hLastMonth
      have := d.year_pos
      have := d.year_le
      have := d.month_le
      have := daysInMonth_bounds d.year (d.month + 1)
      omega
    obtain ⟨hy, hm, hd⟩ := of?_eq_some_iff.mp hYear
    rw [hTwelve] at hStart hEnd
    have hFirst : daysBeforeMonth (d.year + 1) 1 = 0 := rfl
    simp only [dayNumber, hy, hm, hd, hTwelve, daysBeforeYear_succ d.year_pos, hStart, hFirst]
    omega

/-- Only the last day of the last year has no day after it. -/
theorem next?_eq_none_iff {d : Date} :
    d.next? = none ↔ d.year = 9999 ∧ d.month = 12 ∧ d.day = 31 := by
  have hYear := d.year_pos
  have hYear' := d.year_le
  have hMonth := d.month_pos
  have hMonth' := d.month_le
  have hDay := d.day_pos
  have hDay' := d.day_le
  have hDecember : daysInMonth d.year 12 = 31 := rfl
  have hLater := daysInMonth_bounds d.year (d.month + 1)
  have hJanuary := daysInMonth_bounds (d.year + 1) 1
  simp only [next?, Option.or_eq_none_iff, of?_eq_none_iff]
  constructor
  · rintro ⟨hLastDay, hLastMonth, hLastYear⟩
    have hTwelve : d.month = 12 := by omega
    rw [hTwelve] at hLastDay hDay'
    omega
  · rintro ⟨hy, hm, hd⟩
    rw [hm]
    omega

end Date

namespace TimeOfDay

theorem of?_eq_some_iff {hour minute second microsecond : Nat} {t : TimeOfDay} :
    of? hour minute second microsecond = some t ↔
      t.hour = hour ∧ t.minute = minute ∧ t.second = second ∧ t.microsecond = microsecond := by
  rw [of?]
  constructor
  · intro h
    split at h
    · obtain rfl := Option.some.inj h
      exact ⟨rfl, rfl, rfl, rfl⟩
    · cases h
  · rintro ⟨rfl, rfl, rfl, rfl⟩
    rw [dif_pos ⟨⟨t.hour_lt, t.minute_lt⟩, t.second_lt, t.microsecond_lt⟩]

/-- There is no time of day beyond the hours, minutes, seconds and microseconds of a day. -/
theorem of?_eq_none_iff {hour minute second microsecond : Nat} :
    of? hour minute second microsecond = none ↔
      ¬ ((hour < 24 ∧ minute < 60) ∧ second < 60 ∧ microsecond < 1000000) := by
  rw [of?]
  split <;> simp_all

/-- The start of the second after is one second later in the day. -/
theorem secondOfDay_of_nextSecond? {t next : TimeOfDay} (h : t.nextSecond? = some next) :
    next.secondOfDay = t.secondOfDay + 1 ∧ next.microsecond = 0 := by
  have hHour := t.hour_lt
  have hMinute := t.minute_lt
  have hSecond := t.second_lt
  simp only [nextSecond?, Option.or_eq_some_iff, of?_eq_some_iff, of?_eq_none_iff] at h
  simp only [secondOfDay]
  omega

/-- Only the last second of a day has none after it. -/
theorem nextSecond?_eq_none_iff {t : TimeOfDay} :
    t.nextSecond? = none ↔ t.hour = 23 ∧ t.minute = 59 ∧ t.second = 59 := by
  have hHour := t.hour_lt
  have hMinute := t.minute_lt
  have hSecond := t.second_lt
  simp only [nextSecond?, Option.or_eq_none_iff, of?_eq_none_iff]
  omega

end TimeOfDay

namespace DateTime

/-- The time is in the last second of the calendar. -/
structure IsLastSecond (t : DateTime) : Prop where
  year : t.date.year = 9999
  month : t.date.month = 12
  day : t.date.day = 31
  hour : t.time.hour = 23
  minute : t.time.minute = 59
  second : t.time.second = 59

/-- Only the last second of the calendar has none after it. -/
theorem nextSecond?_eq_none_iff {t : DateTime} : t.nextSecond? = none ↔ t.IsLastSecond := by
  rw [nextSecond?]
  cases hTime : t.time.nextSecond? with
  | some time =>
      refine iff_of_false (by simp) fun h => ?_
      rw [TimeOfDay.nextSecond?_eq_none_iff.mpr ⟨h.hour, h.minute, h.second⟩] at hTime
      cases hTime
  | none =>
      obtain ⟨hHour, hMinute, hSecond⟩ := TimeOfDay.nextSecond?_eq_none_iff.mp hTime
      rw [Option.map_eq_none_iff, Date.next?_eq_none_iff]
      exact ⟨fun ⟨hYear, hMonth, hDay⟩ => ⟨hYear, hMonth, hDay, hHour, hMinute, hSecond⟩,
        fun h => ⟨h.year, h.month, h.day⟩⟩

/-- The second after is the next one in number, and its start has no part of a second. -/
theorem seconds_of_nextSecond? {t next : DateTime} (h : t.nextSecond? = some next) :
    next.seconds = t.seconds + 1 ∧ next.time.microsecond = 0 := by
  rw [nextSecond?] at h
  cases hTime : t.time.nextSecond? with
  | some time =>
      rw [hTime] at h
      obtain rfl := Option.some.inj h
      obtain ⟨hSecond, hStart⟩ := TimeOfDay.secondOfDay_of_nextSecond? hTime
      simp only [seconds, hSecond]
      exact ⟨by omega, hStart⟩
  | none =>
      rw [hTime] at h
      obtain ⟨date, hDate, rfl⟩ := Option.map_eq_some_iff.mp h
      obtain ⟨hHour, hMinute, hSecond⟩ := TimeOfDay.nextSecond?_eq_none_iff.mp hTime
      have hLast : t.time.secondOfDay = 86399 := by
        rw [TimeOfDay.secondOfDay, hHour, hMinute, hSecond]
      have hMidnight : TimeOfDay.midnight.secondOfDay = 0 := rfl
      simp only [seconds, Date.dayNumber_of_next? hDate, hMidnight, hLast]
      exact ⟨by omega, rfl⟩

/-- The later of two times is the one with more microseconds before it. -/
theorem microseconds_later (s t : DateTime) :
    (s.later t).microseconds = max s.microseconds t.microseconds := by
  rw [later]
  split <;> omega

/-- Times in order are in order when cut to whole seconds. -/
theorem seconds_le_of_microseconds_le {s t : DateTime} (h : s.microseconds ≤ t.microseconds) :
    s.seconds ≤ t.seconds := by
  have := t.time.microsecond_lt
  simp only [microseconds] at h
  omega

end DateTime

end CsvIntake
