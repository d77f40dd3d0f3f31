import CsvIntake.Proofs.DateTexts
import CsvIntake.Proofs.IsoTexts
import CsvIntake.Proofs.SpelledNumbers
import CsvIntake.Reading

/-! Written datetimes are read. Each reader of a part takes that part and leaves the rest, as long as the
rest does not go on with what the part could go on with. So a datetime is read in every way of writing it;
and an offset behind it is what tells the datetimes of the two kinds apart. -/
namespace CsvIntake.Iso

open Text (Spells)

/-- The seconds of a time as they are written behind its minutes, with their fraction in microseconds. What
a fraction says beyond these is cut off. -/
inductive IsSecondsText : (second microsecond : Nat) → Text → Prop where
  | none : IsSecondsText 0 0 []
  | whole {second : Nat} {digits : Text} (spells : Spells 2 2 second digits) :
      IsSecondsText second 0 (':' :: digits)
  | fraction {second value : Nat} {digits fraction : Text} (spells : Spells 2 2 second digits)
      (spells_fraction : Spells 1 9 value fraction) :
      IsSecondsText second (value * 10 ^ 6 / 10 ^ fraction.length)
        (':' :: (digits ++ '.' :: fraction))

/-- A datetime as it is written, piece by piece. -/
structure WrittenDatetime (t : DateTime) where
  year : Text
  month : Text
  day : Text
  separator : Char
  hour : Text
  minute : Text
  seconds : Text
  spells_year : Spells 4 4 t.date.year year
  spells_month : Spells 1 2 t.date.month month
  spells_day : Spells 1 2 t.date.day day
  separator_mem : separator ∈ ['T', 't', ' ']
  spells_hour : Spells 1 2 t.time.hour hour
  spells_minute : Spells 2 2 t.time.minute minute
  isSecondsText : IsSecondsText t.time.second t.time.microsecond seconds

/-- The pieces put together. -/
def WrittenDatetime.text {t : DateTime} (w : WrittenDatetime t) : Text :=
  w.year ++ '-' :: (w.month ++ '-' :: (w.day ++ w.separator :: (w.hour ++ ':' :: (w.minute ++ w.seconds))))

/-- The minutes of an offset as they are written behind its hours. -/
inductive IsMinutesText : Nat → Text → Prop where
  | none : IsMinutesText 0 []
  | plain {minutes : Nat} {digits : Text} (spells : Spells 2 2 minutes digits) :
      IsMinutesText minutes digits
  | colon {minutes : Nat} {digits : Text} (spells : Spells 2 2 minutes digits) :
      IsMinutesText minutes (':' :: digits)

/-- An offset of some minutes as it is written. Its sign is that of the hours and of the minutes. -/
inductive IsOffsetText : Int → Text → Prop where
  | universal {letter : Char} (letter_mem : letter ∈ ['Z', 'z']) : IsOffsetText 0 [letter]
  | ahead {hours minutes : Nat} {digits rest : Text} (spells : Spells 2 2 hours digits)
      (hours_le : hours ≤ 18) (isMinutesText : IsMinutesText minutes rest) (minutes_le : minutes ≤ 59) :
      IsOffsetText (hours * 60 + minutes) ('+' :: (digits ++ rest))
  | behind {hours minutes : Nat} {digits rest : Text} (spells : Spells 2 2 hours digits)
      (hours_le : hours ≤ 18) (isMinutesText : IsMinutesText minutes rest) (minutes_le : minutes ≤ 59) :
      IsOffsetText (-(hours * 60 + minutes)) ('-' :: (digits ++ rest))

/-! ### Digits -/

/-- A run of digits is taken whole if it is as long as it may be or ends where no digit follows. -/
theorem digits?_append {least most n : Nat} {run rest : Text} (h : Spells least most n run)
    (hEnd : run.length = most ∨ ∀ c ∈ rest.head?, Text.isDigit c = false) :
    digits? least most (run ++ rest) = some (run, rest) := by
  have hNone : (rest.take (most - run.length)).takeWhile Text.isDigit = [] := by
    rcases hEnd with hFull | hStop
    · rw [hFull, Nat.sub_self, List.take_zero, List.takeWhile_nil]
    · cases rest with
      | nil => simp
      | cons c rest =>
          cases most - run.length with
          | zero => rfl
          | succ k => rw [List.take_succ_cons, List.takeWhile_cons_of_neg (by simp [hStop c rfl])]
  have hRun : ((run ++ rest).take most).takeWhile Text.isDigit = run := by
    rw [List.take_append, List.take_of_length_le h.le_most, List.takeWhile_append_of_pos h.isDigit,
      hNone, List.append_nil]
  simp only [digits?, hRun]
  rw [if_pos h.least_le, List.drop_left]

theorem isDigit_of_mem_head? {c : Char} (hc : Text.isDigit c = false) (s : Text) :
    ∀ d ∈ (c :: s).head?, Text.isDigit d = false := by
  intro d hd
  obtain rfl := Option.some.inj hd
  exact hc

/-- The microseconds are the fraction of a million, cut off. -/
theorem microseconds_eq (fraction : Text) :
    microseconds fraction = Text.decimalValue fraction * 10 ^ 6 / 10 ^ fraction.length := by
  rcases Nat.le_total fraction.length 6 with hShort | hLong
  · have hPower : 10 ^ 6 = 10 ^ (6 - fraction.length) * 10 ^ fraction.length := by
      rw [← Nat.pow_add, Nat.sub_add_cancel hShort]
    rw [microseconds, List.take_of_length_le hShort, hPower, ← Nat.mul_assoc,
      Nat.mul_div_cancel _ (Nat.pow_pos (by decide))]
    rfl
  · -- the digits behind the sixth are less than one microsecond
    have hRest := Text.decimalValue_lt (fraction.drop 6)
    have hSplit := Text.decimalValue_append (fraction.take 6) (fraction.drop 6)
    rw [List.length_drop] at hRest hSplit
    rw [List.take_append_drop] at hSplit
    have hPower : 10 ^ fraction.length = 10 ^ (fraction.length - 6) * 10 ^ 6 := by
      rw [← Nat.pow_add, Nat.sub_add_cancel hLong]
    calc microseconds fraction
        = Text.decimalValue (fraction.take 6) := by
          rw [microseconds, Nat.sub_eq_zero_of_le hLong]
          exact Nat.mul_one _
      _ = Text.decimalValue fraction / 10 ^ (fraction.length - 6) := by
          rw [hSplit, Nat.add_comm, Nat.add_mul_div_right _ _ (Nat.pow_pos (by decide)),
            Nat.div_eq_of_lt hRest, Nat.zero_add]
      _ = Text.decimalValue fraction * 10 ^ 6 / 10 ^ fraction.length := by
          rw [hPower, Nat.mul_div_mul_right _ _ (Nat.pow_pos (by decide))]

/-! ### A datetime without an offset -/

/-- A text does not go on with anything that a time of day could go on with. -/
def EndsTime (rest : Text) : Prop :=
  ∀ c ∈ rest.head?, Text.isDigit c = false ∧ c ≠ ':' ∧ c ≠ '.'

/-- Where a time ends there is no fraction. -/
theorem fraction?_of_endsTime {rest : Text} (h : EndsTime rest) : fraction? rest = some (0, rest) := by
  rw [fraction?.eq_def]
  split
  · exact absurd rfl (h '.' rfl).2.2
  · rfl

/-- Seconds are read, with or without a fraction, up to the end of the time. -/
theorem seconds?_append {second microsecond : Nat} {s rest : Text}
    (h : IsSecondsText second microsecond s) (hRest : EndsTime rest) :
    seconds? (s ++ rest) = some (second, microsecond, rest) := by
  cases h with
  | none =>
      rw [List.nil_append, seconds?.eq_def]
      split
      · exact absurd rfl (hRest ':' rfl).2.1
      · rfl
  | whole spells =>
      have hFull := Nat.le_antisymm spells.le_most spells.least_le
      rw [List.cons_append, seconds?, digits?_append spells (.inl hFull)]
      dsimp only
      rw [fraction?_of_endsTime hRest, Option.map_some, spells.value]
  | @fraction _ value digits fraction spells spells_fraction =>
      have hFull := Nat.le_antisymm spells.le_most spells.least_le
      have hFraction : fraction? ('.' :: (fraction ++ rest)) =
          some (value * 10 ^ 6 / 10 ^ fraction.length, rest) := by
        rw [fraction?, digits?_append spells_fraction (.inr fun c hc => (hRest c hc).1), Option.map_some,
          microseconds_eq, spells_fraction.value]
      rw [List.cons_append, List.append_assoc, List.cons_append, seconds?,
        digits?_append spells (.inl hFull)]
      dsimp only
      rw [hFraction, Option.map_some, spells.value]

/-- The numbers of a datetime. -/
def fieldsOf (t : DateTime) : Fields :=
  ⟨t.date.year, t.date.month, t.date.day, t.time.hour, t.time.minute, t.time.second,
    t.time.microsecond⟩

theorem dateTime_fieldsOf (t : DateTime) : (fieldsOf t).dateTime = .ok t := by
  have hDate : Date.of? t.date.year t.date.month t.date.day = some t.date :=
    Date.of?_eq_some_iff.mpr ⟨rfl, rfl, rfl⟩
  have hTime : TimeOfDay.of? t.time.hour t.time.minute t.time.second t.time.microsecond = some t.time :=
    TimeOfDay.of?_eq_some_iff.mpr ⟨rfl, rfl, rfl, rfl⟩
  have hYear := t.date.year_pos
  have hMonth := t.date.month_pos
  have hMonthLe := t.date.month_le
  have hHour := t.time.hour_lt
  have hMinute := t.time.minute_lt
  rw [Fields.dateTime, if_neg (by simp only [fieldsOf]; omega), if_neg (by simp only [fieldsOf]; omega)]
  simp only [fieldsOf, hDate, hTime]
  rw [if_neg (by omega), if_neg (by omega)]

namespace WrittenDatetime

variable {t : DateTime}

theorem isDigit_separator (w : WrittenDatetime t) : Text.isDigit w.separator = false := by
  have hMem := w.separator_mem
  simp only [List.mem_cons, List.not_mem_nil, or_false] at hMem
  rcases hMem with h | h | h <;> rw [h] <;> decide

theorem isSeparator (w : WrittenDatetime t) :
    (w.separator == 'T' || w.separator == 't' || w.separator == ' ') = true := by
  simpa [or_assoc] using w.separator_mem

/-- The date of a datetime is read up to its separator. -/
theorem date?_append (w : WrittenDatetime t) (rest : Text) :
    date? (w.year ++ '-' :: (w.month ++ '-' :: (w.day ++ w.separator :: rest))) =
      some ((t.date.year, t.date.month, t.date.day), w.separator :: rest) := by
  have hYear := Nat.le_antisymm w.spells_year.le_most w.spells_year.least_le
  have hMinus := isDigit_of_mem_head? (show Text.isDigit '-' = false by decide)
  have hSeparator := isDigit_of_mem_head? w.isDigit_separator rest
  simp only [date?, Option.bind_eq_bind, Option.bind_some, digits?_append w.spells_year (.inl hYear),
    digits?_append w.spells_month (.inr (hMinus _)), digits?_append w.spells_day (.inr hSeparator),
    oneOf?, beq_self_eq_true, if_true, w.spells_year.value, w.spells_month.value, w.spells_day.value]
  rfl

/-- A datetime is taken from the front of a text, whichever way it is written. -/
theorem fields?_append (w : WrittenDatetime t) {rest : Text} (hRest : EndsTime rest) :
    fields? (w.text ++ rest) = some (fieldsOf t, rest) := by
  have hText : w.text ++ rest = w.year ++ '-' :: (w.month ++ '-' :: (w.day ++ w.separator ::
      (w.hour ++ ':' :: (w.minute ++ (w.seconds ++ rest))))) := by
    simp [text]
  have hMinute := Nat.le_antisymm w.spells_minute.le_most w.spells_minute.least_le
  have hColon := isDigit_of_mem_head? (show Text.isDigit ':' = false by decide)
  rw [hText]
  simp only [fields?, Option.bind_eq_bind, Option.bind_some, w.date?_append, oneOf?, w.isSeparator,
    if_true, digits?_append w.spells_hour (.inr (hColon _)), beq_self_eq_true,
    digits?_append w.spells_minute (.inl hMinute), seconds?_append w.isSecondsText hRest,
    w.spells_hour.value, w.spells_minute.value]
  rfl

/-- A written datetime is read as its fields. -/
theorem local?_text (w : WrittenDatetime t) : local? w.text = some (fieldsOf t) := by
  have hRead : fields? (w.text ++ []) = some (fieldsOf t, []) := w.fields?_append (by simp [EndsTime])
  rw [List.append_nil] at hRead
  rw [local?, hRead]

end WrittenDatetime

/-! ### An offset -/

/-- The minutes of an offset are read, with a colon or without, or are none. -/
theorem offsetMinutes?_of_isMinutesText {minutes : Nat} {s : Text} (h : IsMinutesText minutes s) :
    offsetMinutes? s = some minutes := by
  have hDigits : ∀ {digits : Text}, Spells 2 2 minutes digits →
      digits? 2 2 digits = some (digits, []) := by
    intro digits spells
    have hRun : digits? 2 2 (digits ++ []) = some (digits, []) := digits?_append spells (.inr (by simp))
    rwa [List.append_nil] at hRun
  cases h with
  | none => rfl
  | colon spells =>
      simp [offsetMinutes?, hDigits spells, spells.value]
  | plain spells =>
      obtain ⟨c, digits, rfl⟩ := List.exists_cons_of_length_pos
        (show 0 < s.length from Nat.lt_of_lt_of_le (by decide) spells.least_le)
      have hColon : c ≠ ':' := by
        rintro rfl
        exact absurd (spells.isDigit ':' (List.mem_cons_self ..)) (by decide)
      simp [offsetMinutes?, hColon, hDigits spells, spells.value]

/-- A signed offset is read as its hours and minutes. -/
theorem offset?_signed {sign : Char} (hSign : sign = '+' ∨ sign = '-') {hours minutes : Nat}
    {digits rest : Text} (spells : Spells 2 2 hours digits) (hRest : IsMinutesText minutes rest) :
    offset? (sign :: (digits ++ rest)) = some ⟨sign == '-', hours, minutes⟩ := by
  have hFull := Nat.le_antisymm spells.le_most spells.least_le
  have hLetter : ¬ (sign = 'Z' ∨ sign = 'z') := by
    rcases hSign with rfl | rfl <;> decide
  rw [offset?, if_neg hLetter, if_pos hSign, digits?_append spells (.inl hFull)]
  dsimp only
  rw [offsetMinutes?_of_isMinutesText hRest, Option.map_some, spells.value]

/-- An offset of at most 18 hours and 59 minutes is its signed minutes. -/
theorem signedMinutes_of_le (negative : Bool) {hours minutes : Nat} (hHours : hours ≤ 18)
    (hMinutes : minutes ≤ 59) : Offset.signedMinutes ⟨negative, hours, minutes⟩ =
      .ok (if negative then -(hours * 60 + minutes) else hours * 60 + minutes) :=
  if_neg (show ¬ (18 < hours ∨ 59 < minutes) by omega)

/-- A written offset is read as its minutes. -/
theorem offset?_of_isOffsetText {minutes : Int} {zone : Text} (h : IsOffsetText minutes zone) :
    ∃ offset, offset? zone = some offset ∧ offset.signedMinutes = .ok minutes := by
  cases h with
  | @universal letter letter_mem =>
      have hLetter : letter = 'Z' ∨ letter = 'z' := by simpa using letter_mem
      exact ⟨⟨false, 0, 0⟩, by simp [offset?, hLetter], rfl⟩
  | ahead spells hours_le isMinutesText minutes_le =>
      exact ⟨_, offset?_signed (.inl rfl) spells isMinutesText,
        signedMinutes_of_le false hours_le minutes_le⟩
  | behind spells hours_le isMinutesText minutes_le =>
      exact ⟨_, offset?_signed (.inr rfl) spells isMinutesText,
        signedMinutes_of_le true hours_le minutes_le⟩

/-! ### White space around it all -/

theorem IsSecondsText.isSpace_eq_false {second microsecond : Nat} {s : Text}
    (h : IsSecondsText second microsecond s) : ∀ c ∈ s, Text.isSpace c = false := by
  have hMarks : Text.isSpace ':' = false ∧ Text.isSpace '.' = false := by decide
  intro c hc
  cases h with
  | none => cases hc
  | whole spells =>
      rcases List.mem_cons.mp hc with rfl | hc
      · exact hMarks.1
      · exact (spells.isInk (by decide)).2 c hc
  | fraction spells spells_fraction =>
      simp only [List.mem_cons, List.mem_append] at hc
      rcases hc with rfl | hc | rfl | hc
      · exact hMarks.1
      · exact (spells.isInk (by decide)).2 c hc
      · exact hMarks.2
      · exact (spells_fraction.isInk (by decide)).2 c hc

theorem IsMinutesText.isSpace_eq_false {minutes : Nat} {s : Text} (h : IsMinutesText minutes s) :
    ∀ c ∈ s, Text.isSpace c = false := by
  intro c hc
  cases h with
  | none => cases hc
  | plain spells => exact (spells.isInk (by decide)).2 c hc
  | colon spells =>
      rcases List.mem_cons.mp hc with rfl | hc
      · decide
      · exact (spells.isInk (by decide)).2 c hc

/-- An offset starts with a letter or a sign. -/
theorem IsOffsetText.exists_cons {minutes : Int} {zone : Text} (h : IsOffsetText minutes zone) :
    ∃ c rest, zone = c :: rest ∧ c ∈ ['Z', 'z', '+', '-'] ∧ ∀ d ∈ rest, Text.isSpace d = false := by
  have hDigits : ∀ {hours minutes : Nat} {digits rest : Text}, Spells 2 2 hours digits →
      IsMinutesText minutes rest → ∀ d ∈ digits ++ rest, Text.isSpace d = false := by
    intro hours minutes digits rest spells isMinutesText d hd
    rcases List.mem_append.mp hd with hd | hd
    · exact (spells.isInk (by decide)).2 d hd
    · exact isMinutesText.isSpace_eq_false d hd
  cases h with
  | @universal letter letter_mem =>
      have hLetter : letter = 'Z' ∨ letter = 'z' := by simpa using letter_mem
      exact ⟨letter, [], rfl, by rcases hLetter with rfl | rfl <;> decide, by simp⟩
  | ahead spells _ isMinutesText _ => exact ⟨'+', _, rfl, by decide, hDigits spells isMinutesText⟩
  | behind spells _ isMinutesText _ => exact ⟨'-', _, rfl, by decide, hDigits spells isMinutesText⟩

theorem of_mem_offsetStart {c : Char} (h : c ∈ ['Z', 'z', '+', '-']) :
    Text.isSpace c = false ∧ Text.isDigit c = false ∧ c ≠ ':' ∧ c ≠ '.' := by
  simp only [List.mem_cons, List.not_mem_nil, or_false] at h
  rcases h with rfl | rfl | rfl | rfl <;> decide

theorem IsOffsetText.isInk {minutes : Int} {zone : Text} (h : IsOffsetText minutes zone) :
    Text.IsInk zone := by
  obtain ⟨c, rest, rfl, hStart, hRest⟩ := h.exists_cons
  refine ⟨by simp, fun d hd => ?_⟩
  rcases List.mem_cons.mp hd with rfl | hd
  · exact (of_mem_offsetStart hStart).1
  · exact hRest d hd

theorem endsTime_of_isSpace {c : Char} (h : Text.isSpace c = true) :
    Text.isDigit c = false ∧ c ≠ ':' ∧ c ≠ '.' := by
  refine ⟨Text.isDigit_eq_false_of_isSpace h, ?_, ?_⟩ <;>
    · rintro rfl
      revert h
      decide

/-- Neither white space nor an offset goes on with what a time of day could go on with. -/
theorem endsTime_of_isOffsetText {gap zone : Text} {minutes : Int}
    (hGap : ∀ c ∈ gap, Text.isSpace c = true) (h : IsOffsetText minutes zone) :
    EndsTime (gap ++ zone) := by
  intro c hc
  cases gap with
  | nil =>
      obtain ⟨d, rest, rfl, hStart, _⟩ := h.exists_cons
      obtain rfl : d = c := Option.some.inj hc
      exact (of_mem_offsetStart hStart).2
  | cons d gap =>
      obtain rfl : d = c := Option.some.inj hc
      exact endsTime_of_isSpace (hGap d (List.mem_cons_self ..))

namespace WrittenDatetime

variable {t : DateTime}

/-- What stands between the year and the minutes. -/
def middle (w : WrittenDatetime t) : Text :=
  '-' :: (w.month ++ '-' :: (w.day ++ w.separator :: (w.hour ++ [':'])))

theorem text_eq (w : WrittenDatetime t) : w.text = w.year ++ w.middle ++ (w.minute ++ w.seconds) := by
  simp [text, middle]

theorem isInk_year (w : WrittenDatetime t) : Text.IsInk w.year := w.spells_year.isInk (by decide)

theorem isInk_end (w : WrittenDatetime t) : Text.IsInk (w.minute ++ w.seconds) := by
  have hMinute := w.spells_minute.isInk (by decide)
  refine ⟨List.append_ne_nil_of_left_ne_nil hMinute.1 _, fun c hc => ?_⟩
  rcases List.mem_append.mp hc with hc | hc
  · exact hMinute.2 c hc
  · exact w.isSecondsText.isSpace_eq_false c hc

variable {before after : Text}

theorem trim_text (w : WrittenDatetime t) (hBefore : ∀ c ∈ before, Text.isSpace c = true)
    (hAfter : ∀ c ∈ after, Text.isSpace c = true) :
    Text.trim (before ++ w.text ++ after) = w.text := by
  rw [w.text_eq]
  exact Text.trim_surrounded w.middle hBefore w.isInk_year w.isInk_end hAfter

theorem trim_text_zone (w : WrittenDatetime t) (hBefore : ∀ c ∈ before, Text.isSpace c = true)
    (hAfter : ∀ c ∈ after, Text.isSpace c = true) (gap : Text) {zone : Text} (hZone : Text.IsInk zone) :
    Text.trim (before ++ (w.text ++ gap ++ zone) ++ after) = w.text ++ gap ++ zone := by
  have hText : w.text ++ gap ++ zone =
      w.year ++ (w.middle ++ (w.minute ++ w.seconds) ++ gap) ++ zone := by
    simp [w.text_eq]
  rw [hText]
  exact Text.trim_surrounded _ hBefore w.isInk_year hZone hAfter

theorem colon_mem_text (w : WrittenDatetime t) : ':' ∈ w.text := by
  simp [text]

end WrittenDatetime

end CsvIntake.Iso

namespace CsvIntake

open Iso

/-- No date has a colon in it. -/
theorem readDate_of_colon {s : Text} (h : ':' ∈ s) : readDate s = unreadable s (.type .date) := by
  rw [readDate]
  split
  · rename_i d hRead
    exact absurd h (DateFormat.looksLikeDate_of_readFirst? hRead).no_colon
  · rfl

/-- A text with a colon is no date, so it is a datetime only if it is a local one. -/
theorem readDatetime_of_colon {s : Text} {e : Error} (hLocal : readLocalDatetime s = .error e)
    (h : ':' ∈ s) : readDatetime s = unreadable s (.type .datetime) := by
  rw [readDatetime, hLocal, readDate_of_colon h]
  rfl

/-- The text is a datetime without an offset, and none with one. -/
structure ReadsLocal (s : Text) (t : DateTime) : Prop where
  readLocalDatetime_eq : readLocalDatetime s = .ok t
  readDatetime_eq : readDatetime s = .ok t
  readOffsetDatetime_eq : readOffsetDatetime s = unreadable s (.type .offsetDatetime)

/-- The text is a datetime with an offset, and none without one, nor a date. -/
structure ReadsWithOffset (s : Text) (t : OffsetDateTime) : Prop where
  readOffsetDatetime_eq : readOffsetDatetime s = .ok t
  readLocalDatetime_eq : readLocalDatetime s = unreadable s (.type .datetime)
  readDatetime_eq : readDatetime s = unreadable s (.type .datetime)

namespace Iso.WrittenDatetime

variable {t : DateTime} {before after : Text}

/-- A written datetime without an offset is read as a local one. -/
theorem readsLocal (w : WrittenDatetime t) (hBefore : ∀ c ∈ before, Text.isSpace c = true)
    (hAfter : ∀ c ∈ after, Text.isSpace c = true) : ReadsLocal (before ++ w.text ++ after) t := by
  have hTrim := w.trim_text hBefore hAfter
  have hLocal : readLocalDatetime (before ++ w.text ++ after) = .ok t := by
    rw [readLocalDatetime, hTrim, w.local?_text]
    dsimp only
    rw [dateTime_fieldsOf]
  refine ⟨hLocal, ?_, ?_⟩
  · rw [readDatetime, hLocal]
  · rw [readOffsetDatetime, hTrim, withOffset?_eq_none_of_local? w.local?_text]

/-- A written datetime with an offset is read as one with it. -/
theorem readsWithOffset (w : WrittenDatetime t) (hBefore : ∀ c ∈ before, Text.isSpace c = true)
    (hAfter : ∀ c ∈ after, Text.isSpace c = true) {gap zone : Text} {minutes : Int}
    (hGap : ∀ c ∈ gap, Text.isSpace c = true) (hZone : IsOffsetText minutes zone) :
    ReadsWithOffset (before ++ (w.text ++ gap ++ zone) ++ after) ⟨t, minutes⟩ := by
  have hTrim := w.trim_text_zone hBefore hAfter gap hZone.isInk
  have hFields : fields? (w.text ++ gap ++ zone) = some (fieldsOf t, gap ++ zone) := by
    rw [List.append_assoc]
    exact w.fields?_append (endsTime_of_isOffsetText hGap hZone)
  have hLocal : readLocalDatetime (before ++ (w.text ++ gap ++ zone) ++ after) =
      unreadable (before ++ (w.text ++ gap ++ zone) ++ after) (.type .datetime) := by
    obtain ⟨c, rest, hRest⟩ := List.exists_cons_of_ne_nil (l := gap ++ zone) (by simp [hZone.isInk.1])
    rw [readLocalDatetime, hTrim, local?, hFields, hRest]
  refine ⟨?_, hLocal, readDatetime_of_colon hLocal (by simp [w.colon_mem_text])⟩
  obtain ⟨offset, hOffset, hMinutes⟩ := offset?_of_isOffsetText hZone
  have hLeft : Text.trimLeft (gap ++ zone) = zone := by
    obtain ⟨c, rest, rfl, hStart, _⟩ := hZone.exists_cons
    rw [Text.trimLeft, List.dropWhile_append_of_pos hGap,
      List.dropWhile_cons_of_neg (by simp [(of_mem_offsetStart hStart).1])]
  have hRead : withOffset? (w.text ++ gap ++ zone) = some (fieldsOf t, offset) := by
    simp only [withOffset?, hFields, Option.bind_eq_bind, Option.bind_some, hLeft, hOffset]
    rfl
  rw [readOffsetDatetime, hTrim, hRead]
  dsimp only
  rw [dateTime_fieldsOf]
  dsimp only
  rw [hMinutes]

theorem spells_two_digits {n : Nat} (h : n < 100) : Text.Spells 1 2 n (Text.ofNatPadded 2 n) :=
  (Text.spells_ofNatPadded (by decide) h).of_bounds (by decide) (by decide)

/-- Seconds and six digits of a fraction, as they are printed, are a text of seconds. -/
theorem isSecondsText_ofNatPadded (t : TimeOfDay) : IsSecondsText t.second t.microsecond
    (':' :: (Text.ofNatPadded 2 t.second ++ '.' :: Text.ofNatPadded 6 t.microsecond)) := by
  have hSecond : Text.Spells 2 2 t.second (Text.ofNatPadded 2 t.second) :=
    Text.spells_ofNatPadded (by decide) (t.second_lt.trans (by decide))
  have hFraction : Text.Spells 6 6 t.microsecond (Text.ofNatPadded 6 t.microsecond) :=
    Text.spells_ofNatPadded (by decide) t.microsecond_lt
  have hSeconds := IsSecondsText.fraction hSecond (hFraction.of_bounds (by decide) (by decide))
  rwa [Nat.le_antisymm hFraction.le_most hFraction.least_le, Nat.mul_div_cancel _ (by decide)] at hSeconds

/-- A datetime as it is written out, with all digits down to the microsecond. -/
def printed (t : DateTime) : WrittenDatetime t where
  year := Text.ofNatPadded 4 t.date.year
  month := Text.ofNatPadded 2 t.date.month
  day := Text.ofNatPadded 2 t.date.day
  separator := 'T'
  hour := Text.ofNatPadded 2 t.time.hour
  minute := Text.ofNatPadded 2 t.time.minute
  seconds := ':' :: (Text.ofNatPadded 2 t.time.second ++ '.' :: Text.ofNatPadded 6 t.time.microsecond)
  spells_year := Text.spells_ofNatPadded (by decide) (Nat.lt_succ_of_le t.date.year_le)
  spells_month := spells_two_digits (t.date.month_le.trans_lt (by decide))
  spells_day := spells_two_digits
    ((t.date.day_le.trans (daysInMonth_bounds t.date.year t.date.month).2).trans_lt (by decide))
  separator_mem := by decide
  spells_hour := spells_two_digits (t.time.hour_lt.trans (by decide))
  spells_minute := Text.spells_ofNatPadded (by decide) (t.time.minute_lt.trans (by decide))
  isSecondsText := isSecondsText_ofNatPadded t.time

/-- The printed datetime is one of the written ones. -/
theorem text_printed (t : DateTime) : (printed t).text = t.text := by
  simp [text, printed, DateTime.text, Date.text, TimeOfDay.text]

end Iso.WrittenDatetime

/-- Every datetime is read back from its text. -/
theorem readsLocal_text (t : DateTime) : ReadsLocal t.text t := by
  have hPrinted : ReadsLocal ([] ++ (WrittenDatetime.printed t).text ++ []) t :=
    (WrittenDatetime.printed t).readsLocal (by simp) (by simp)
  rwa [List.nil_append, List.append_nil, WrittenDatetime.text_printed] at hPrinted

/-- A datetime is read as what it says, whichever way it is written and whatever white space is around it;
with an offset behind it, it is read as that datetime with that offset. No such text is read as one of the
other kind. -/
theorem readDatetimes_of_written (t : DateTime) (w : WrittenDatetime t) (before after : Text)
    (hBefore : ∀ c ∈ before, Text.isSpace c = true) (hAfter : ∀ c ∈ after, Text.isSpace c = true) :
    ReadsLocal (before ++ w.text ++ after) t ∧
    ∀ (gap zone : Text) (minutes : Int), (∀ c ∈ gap, Text.isSpace c = true) →
      IsOffsetText minutes zone →
      ReadsWithOffset (before ++ (w.text ++ gap ++ zone) ++ after) ⟨t, minutes⟩ :=
  ⟨w.readsLocal hBefore hAfter, fun _ _ _ hGap hZone => w.readsWithOffset hBefore hAfter hGap hZone⟩

/-- Five minutes and some seconds past nine on a leap day, with a fraction that is cut off, and with the
same behind which an offset of five hours and a half stands. -/
theorem readDatetimes_of_leap_day :
    ∃ t : DateTime, t.text = "2024-02-29T09:05:07.123456".toList ∧
      ReadsLocal "\t2024-2-29t9:05:07.1234567 \n".toList t ∧
      ReadsWithOffset "\t2024-2-29t9:05:07.1234567\u00a0-0530 \n".toList ⟨t, -330⟩ := by
  let t : DateTime :=
    ⟨⟨2024, 2, 29, by decide, by decide, by decide, by decide, by decide, by decide⟩,
      ⟨9, 5, 7, 123456, by decide, by decide, by decide, by decide⟩⟩
  have hSpells : ∀ {least most n : Nat} {digits : Text}, least ≤ digits.length → digits.length ≤ most →
      digits.all Text.isDigit = true → Text.decimalValue digits = n →
      Text.Spells least most n digits :=
    fun h₁ h₂ h₃ h₄ => ⟨h₁, h₂, List.all_eq_true.mp h₃, h₄⟩
  have hBlank : ∀ {gap : Text}, Text.isBlank gap = true → ∀ c ∈ gap, Text.isSpace c = true :=
    Text.isBlank_iff.mp
  have hSecond : Text.Spells 2 2 7 "07".toList := hSpells (by decide) (by decide) rfl (by decide)
  have hFraction : Text.Spells 1 9 1234567 "1234567".toList :=
    hSpells (by decide) (by decide) rfl (by decide)
  let w : Iso.WrittenDatetime t :=
    { year := "2024".toList
      month := "2".toList
      day := "29".toList
      separator := 't'
      hour := "9".toList
      minute := "05".toList
      seconds := ":07.1234567".toList
      spells_year := hSpells (by decide) (by decide) rfl (by decide)
      spells_month := hSpells (by decide) (by decide) rfl (by decide)
      spells_day := hSpells (by decide) (by decide) rfl (by decide)
      separator_mem := by decide
      spells_hour := hSpells (by decide) (by decide) rfl (by decide)
      spells_minute := hSpells (by decide) (by decide) rfl (by decide)
      isSecondsText := .fraction hSecond hFraction }
  obtain ⟨hLocal, hOffset⟩ := readDatetimes_of_written t w ['\t'] [' ', '\n'] (hBlank rfl) (hBlank rfl)
  have hHours : Text.Spells 2 2 5 "05".toList := hSpells (by decide) (by decide) rfl (by decide)
  have hMinutes : Text.Spells 2 2 30 "30".toList := hSpells (by decide) (by decide) rfl (by decide)
  have hZone : Iso.IsOffsetText (-330) "-0530".toList :=
    .behind hHours (by decide) (.plain hMinutes) (by decide)
  exact ⟨t, by decide, hLocal, hOffset ['\u00a0'] "-0530".toList (-330) (hBlank rfl) hZone⟩

end CsvIntake
