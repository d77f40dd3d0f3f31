import CsvIntake.Naming
import CsvIntake.Proofs.ColumnNames
import CsvIntake.Proofs.NextSeconds

/-! Names with a time at their end. The ending is as long for every time of a year with four digits,
and it tells the seconds of any two times apart. -/
namespace CsvIntake

namespace Text

/-- Zeros in front do not change the number that digits spell. -/
theorem ofDigitChars_ofNatPadded (width n : Nat) :
    Nat.ofDigitChars 10 (ofNatPadded width n) 0 = n := by
  have hZeros : ∀ count : Nat,
      Nat.ofDigitChars 10 (List.replicate count '0' ++ ofNat n) 0 = Nat.ofDigitChars 10 (ofNat n) 0 := by
    intro count
    induction count with
    | zero => rfl
    | succ count ih => simpa [List.replicate_succ, Nat.ofDigitChars] using ih
  rw [ofNatPadded, hZeros]
  exact Nat.ofDigitChars_ten_toDigits

/-- Numbers padded to one width are different texts. -/
theorem ofNatPadded_injective (width : Nat) : Function.Injective (ofNatPadded width) := by
  intro m n h
  calc
    m = Nat.ofDigitChars 10 (ofNatPadded width m) 0 := (ofDigitChars_ofNatPadded width m).symm
    _ = Nat.ofDigitChars 10 (ofNatPadded width n) 0 := by rw [h]
    _ = n := ofDigitChars_ofNatPadded width n

/-- The numbers of at most some digits are those below the power of ten. -/
theorem length_ofNat_le_iff {width n : Nat} (hWidth : 0 < width) :
    (ofNat n).length ≤ width ↔ n < 10 ^ width :=
  Nat.length_toDigits_le_iff (by decide) hWidth

/-- A number that fits its width is padded to exactly that width. -/
theorem length_ofNatPadded {width n : Nat} (hWidth : 0 < width) (h : n < 10 ^ width) :
    (ofNatPadded width n).length = width := by
  have := (length_ofNat_le_iff hWidth).mpr h
  simp only [ofNatPadded, List.length_append, List.length_replicate]
  omega

theorem isDigit_of_mem_ofNatPadded {width n : Nat} {c : Char} (h : c ∈ ofNatPadded width n) :
    c.isDigit = true := by
  rcases List.mem_append.mp h with hZero | hDigit
  · obtain rfl := List.eq_of_mem_replicate hZero
    rfl
  · exact isDigit_of_mem_ofNat hDigit

end Text

/-- The parts of the ending that a time has, from the month on, are two digits wide each. -/
structure HasTwoDigits (t : DateTime) : Prop where
  month : (Text.ofNatPadded 2 t.date.month).length = 2
  day : (Text.ofNatPadded 2 t.date.day).length = 2
  hour : (Text.ofNatPadded 2 t.time.hour).length = 2
  minute : (Text.ofNatPadded 2 t.time.minute).length = 2
  second : (Text.ofNatPadded 2 t.time.second).length = 2

theorem hasTwoDigits (t : DateTime) : HasTwoDigits t := by
  have hMonth := t.date.month_le
  have hDay := t.date.day_le.trans (daysInMonth_bounds _ _).2
  have hHour := t.time.hour_lt
  have hMinute := t.time.minute_lt
  have hSecond := t.time.second_lt
  constructor <;> exact Text.length_ofNatPadded (by decide) (by omega)

/-- In years of four digits, the suffix of a time has always the same length. -/
theorem length_timeSuffix {t : DateTime} (h : 1000 ≤ t.date.year) :
    (timeSuffix t).length = timeSuffixLength := by
  have hYear : (Text.ofNat t.date.year).length = 4 := by
    have hLe := t.date.year_le
    have hFour : (Text.ofNat t.date.year).length ≤ 4 :=
      (Text.length_ofNat_le_iff (by decide)).mpr (by omega)
    have hNotThree : ¬ (Text.ofNat t.date.year).length ≤ 3 :=
      (Text.length_ofNat_le_iff (by decide)).not.mpr (by omega)
    omega
  have hOthers := hasTwoDigits t
  simp only [timeSuffix, timeSuffixLength, List.length_append, List.length_cons, hYear,
    hOthers.month, hOthers.day, hOthers.hour, hOthers.minute, hOthers.second]

/-- The ending tells the seconds apart: it shows all numbers of a time down to the second. -/
theorem seconds_eq_of_timeSuffix_eq {s t : DateTime} (h : timeSuffix s = timeSuffix t) :
    s.seconds = t.seconds := by
  have hs := hasTwoDigits s
  have ht := hasTwoDigits t
  obtain ⟨h, hSecond⟩ := List.append_inj' h (hs.second.trans ht.second.symm)
  obtain ⟨h, hMinute⟩ := List.append_inj' h (hs.minute.trans ht.minute.symm)
  obtain ⟨h, hHour⟩ := List.append_inj' h (hs.hour.trans ht.hour.symm)
  obtain ⟨h, hDay⟩ := List.append_inj' h (hs.day.trans ht.day.symm)
  obtain ⟨h, hMonth⟩ := List.append_inj' h (hs.month.trans ht.month.symm)
  have hYear := ofNat_injective (List.cons.inj h).2
  simp only [DateTime.seconds, Date.dayNumber, TimeOfDay.secondOfDay, hYear,
    Text.ofNatPadded_injective 2 hMonth, Text.ofNatPadded_injective 2 hDay,
    Text.ofNatPadded_injective 2 hHour, Text.ofNatPadded_injective 2 hMinute,
    Text.ofNatPadded_injective 2 hSecond]

theorem isSlugChar_of_mem_timeSuffix {t : DateTime} {c : Char} (h : c ∈ timeSuffix t) :
    isSlugChar c = true := by
  simp only [timeSuffix, List.cons_append, List.mem_cons, List.mem_append] at h
  rcases h with rfl | ((((h | h) | h) | h) | h) | h
  · rfl
  · exact isSlugChar_of_isDigit (isDigit_of_mem_ofNat h)
  all_goals exact isSlugChar_of_isDigit (Text.isDigit_of_mem_ofNatPadded h)

/-- A timed name is written in the characters of a slug. -/
theorem isSlugChar_of_mem_timedName {name : Text} {maxLength : Nat} {t : DateTime} {c : Char}
    (h : c ∈ timedName name maxLength t) : isSlugChar c = true := by
  rcases List.mem_append.mp h with hName | hSuffix
  · exact isSlugChar_of_mem_slug (List.mem_of_mem_take hName)
  · exact isSlugChar_of_mem_timeSuffix hSuffix

/-- A timed name is the start of the slug, as long as there is room, and the whole suffix. -/
theorem timedName_eq (name : Text) (maxLength : Nat) {t : DateTime} (h : 1000 ≤ t.date.year) :
    timedName name maxLength t =
      (slug name).take (maxLength - timeSuffixLength) ++ timeSuffix t := by
  rw [timedName, length_timeSuffix h]

/-- A name fits, as long as its ending does. -/
theorem length_timedName_le {name : Text} {maxLength : Nat} {t : DateTime}
    (hLength : timeSuffixLength ≤ maxLength) (h : 1000 ≤ t.date.year) :
    (timedName name maxLength t).length ≤ maxLength := by
  rw [timedName_eq name maxLength h, List.length_append, List.length_take, length_timeSuffix h]
  omega

/-- Equal names have been made in the same second. -/
theorem seconds_eq_of_timedName_eq {name other : Text} {maxLength otherLength : Nat}
    {s t : DateTime} (hs : 1000 ≤ s.date.year) (ht : 1000 ≤ t.date.year)
    (h : timedName name maxLength s = timedName other otherLength t) : s.seconds = t.seconds := by
  have hLengths := (length_timeSuffix hs).trans (length_timeSuffix ht).symm
  exact seconds_eq_of_timeSuffix_eq (List.append_inj' h hLengths).2

end CsvIntake
