import CsvIntake.Proofs.AgreeingForms
import CsvIntake.Proofs.SpacedWords
import CsvIntake.Proofs.SpelledNumbers
import CsvIntake.Reading

/-! Written dates are read. In every form each field of a date can be written in several ways, and any white
space may stand between the words and around them; all of these texts are read as the date. -/
namespace CsvIntake

namespace Text

/-- A break after a piece splits it from the rest. -/
theorem pieces_append {isBreak : Char → Bool} {piece : Text} {b : Char} (hb : isBreak b = true)
    (h : ∀ c ∈ piece, isBreak c = false) (rest : Text) :
    pieces isBreak (piece ++ b :: rest) = piece :: pieces isBreak rest := by
  induction piece with
  | nil => simp [pieces, hb]
  | cons c piece ih =>
      have hOthers := ih fun d hd => h d (List.mem_cons_of_mem _ hd)
      simp [pieces, h c (List.mem_cons_self ..), hOthers]

theorem pieces_of_no_break {isBreak : Char → Bool} {piece : Text}
    (h : ∀ c ∈ piece, isBreak c = false) : pieces isBreak piece = [piece] := by
  induction piece with
  | nil => rfl
  | cons c piece ih =>
      have hOthers := ih fun d hd => h d (List.mem_cons_of_mem _ hd)
      simp [pieces, h c (List.mem_cons_self ..), hOthers]

end Text

namespace DateFormat

/-- A number of at most two digits, with or without a zero in front. -/
def IsShortNumber (n : Nat) (word : Text) : Prop := word = Text.ofNat n ∨ word = Text.ofNatPadded 2 n

/-- A text says a field of a date: a year with four digits, names with letters in any case. The weekday may
be any, whether or not it is the one of the date. -/
def Says (d : Date) (field : DateField) (core : Text) : Prop :=
  match field with
  | .weekday length => Text.lowerAscii core ∈ weekdayNames length
  | .month length => (monthNames length)[d.month - 1]? = some (Text.lowerAscii core)
  | .day => IsShortNumber d.day core
  | .year => core = Text.ofNatPadded 4 d.year

/-- A text says a field of a date, with a comma behind it where the form has one. -/
def IsWordOf (d : Date) (expected : DateWord) (word : Text) : Prop :=
  ∃ core, Says d expected.field core ∧ word = if expected.comma then core ++ [','] else core

/-- The words are those of a date written in a form. The ISO form is one word. -/
def AreWordsOf (d : Date) (form : DateFormat) (words : List Text) : Prop :=
  match form with
  | .iso => ∃ month day, IsShortNumber d.month month ∧ IsShortNumber d.day day ∧
      words = [Text.ofNatPadded 4 d.year ++ '-' :: (month ++ '-' :: day)]
  | .named expected => List.Forall₂ (IsWordOf d) expected words

/-- The text is a date in a form, with some white space between its words and perhaps around them. -/
def IsWritten (form : DateFormat) (d : Date) (s : Text) : Prop :=
  ∃ words text before after, AreWordsOf d form words ∧ Text.IsSpaced words text ∧
    (∀ c ∈ before, Text.isSpace c = true) ∧ (∀ c ∈ after, Text.isSpace c = true) ∧
    s = before ++ text ++ after

/-! ### Each field is read -/

/-- A name is read in any case, as its place among the names. -/
theorem readName?_of_getElem? {names : List Text} (hNodup : names.Nodup) {word : Text} {i : Nat}
    (h : names[i]? = some (Text.lowerAscii word)) : readName? names word = some (i + 1) := by
  obtain ⟨hLt, hName⟩ := List.getElem?_eq_some_iff.mp h
  have hIndex : names.findIdx? (fun name => name == Text.lowerAscii word) = some i := by
    rw [List.findIdx?_eq_some_iff_getElem]
    refine ⟨hLt, by simp [hName], fun j hj => ?_⟩
    rw [← hName, beq_iff_eq, hNodup.getElem_inj_iff]
    omega
  rw [readName?, hIndex]
  rfl

theorem nodup_weekdayNames (length : NameLength) : (weekdayNames length).Nodup := by
  cases length <;> decide

theorem nodup_monthNames (length : NameLength) : (monthNames length).Nodup := by
  cases length <;> decide

/-- A day is read from one or two digits. -/
theorem readDay?_of_isShortNumber {day : Nat} {word : Text} (hPos : 1 ≤ day) (hLe : day ≤ 31)
    (h : IsShortNumber day word) : readDay? word = some day := by
  have hAll : ∀ n < 32, 1 ≤ n →
      readDay? (Text.ofNat n) = some n ∧ readDay? (Text.ofNatPadded 2 n) = some n := by
    decide +kernel
  rcases h with rfl | rfl
  · exact (hAll day (by omega) hPos).1
  · exact (hAll day (by omega) hPos).2

theorem readMonth?_of_isShortNumber {month : Nat} {word : Text} (hPos : 1 ≤ month) (hLe : month ≤ 12)
    (h : IsShortNumber month word) : readMonth? word = some month := by
  have hAll : ∀ n < 13, 1 ≤ n →
      readMonth? (Text.ofNat n) = some n ∧ readMonth? (Text.ofNatPadded 2 n) = some n := by
    decide +kernel
  rcases h with rfl | rfl
  · exact (hAll month (by omega) hPos).1
  · exact (hAll month (by omega) hPos).2

/-- A year padded to four digits is read as it is. -/
theorem readYear?_ofNatPadded {year : Nat} (h : year ≤ 9999) :
    readYear? (Text.ofNatPadded 4 year) = some year := by
  have hSpells : Text.Spells 4 4 year (Text.ofNatPadded 4 year) :=
    Text.spells_ofNatPadded (by decide) (by omega)
  have hLength := Nat.le_antisymm hSpells.le_most hSpells.least_le
  rw [readYear?, if_pos ⟨hLength, List.all_eq_true.mpr hSpells.isDigit⟩, hSpells.value]

/-- The parts of a date once a field of it is known. -/
def entered (d : Date) (parts : DateParts) (field : DateField) : DateParts :=
  match field with
  | .weekday _ => parts
  | .month _ => { parts with month := d.month }
  | .day => { parts with day := d.day }
  | .year => { parts with year := d.year }

/-- A word that says a field of a date is read as that field. -/
theorem readField?_of_says {d : Date} {field : DateField} {core : Text} (h : Says d field core)
    (parts : DateParts) : readField? field core parts = some (entered d parts field) := by
  cases field with
  | weekday length =>
      obtain ⟨i, hi⟩ := List.mem_iff_getElem?.mp h
      rw [readField?, readName?_of_getElem? (nodup_weekdayNames length) hi]
      rfl
  | month length =>
      have hPos := d.month_pos
      rw [readField?, readName?_of_getElem? (nodup_monthNames length) h,
        show d.month - 1 + 1 = d.month by omega]
      rfl
  | day =>
      have hLe := d.day_le.trans (daysInMonth_bounds d.year d.month).2
      rw [readField?, readDay?_of_isShortNumber d.day_pos hLe h]
      rfl
  | year =>
      rw [readField?, show core = Text.ofNatPadded 4 d.year from h, readYear?_ofNatPadded d.year_le]
      rfl

/-! ### Each word is read -/

theorem dropComma?_append (comma : Bool) (core : Text) :
    dropComma? comma (if comma then core ++ [','] else core) = some core := by
  cases comma with
  | false => rfl
  | true => simp [dropComma?]

/-- The words of a date are read as its fields, one after the other. -/
theorem readWords?_of_areWordsOf {d : Date} {expected : List DateWord} {words : List Text}
    (h : List.Forall₂ (IsWordOf d) expected words) (parts : DateParts) :
    readWords? expected words parts =
      some (expected.foldl (fun parts e => entered d parts e.field) parts) := by
  induction h generalizing parts with
  | nil => rfl
  | cons hWord _ ih =>
      obtain ⟨core, hSays, rfl⟩ := hWord
      simp only [readWords?, dropComma?_append, readField?_of_says hSays]
      exact ih _

/-- Every named form enters the three numbers of a date. -/
theorem entered_named (d : Date) : ∀ expected ∈ withoutWeekday ++ withWeekday .short false ++
    withWeekday .short true ++ withWeekday .full false ++ withWeekday .full true,
    expected.foldl (fun parts e => entered d parts e.field) {} = ⟨d.year, d.month, d.day⟩ := by
  have hPlain : ∀ expected ∈ withoutWeekday,
      expected.foldl (fun parts e => entered d parts e.field) {} = ⟨d.year, d.month, d.day⟩ := by
    simp [withoutWeekday, monthDayYear, entered]
  have hWeekday : ∀ (length : NameLength) (comma : Bool), ∀ expected ∈ withWeekday length comma,
      expected.foldl (fun parts e => entered d parts e.field) {} = ⟨d.year, d.month, d.day⟩ := by
    intro length comma expected hExpected
    obtain ⟨others, hOthers, rfl⟩ := List.mem_map.mp hExpected
    exact hPlain others hOthers
  intro expected hExpected
  simp only [List.mem_append] at hExpected
  rcases hExpected with (((h | h) | h) | h) | h
  · exact hPlain expected h
  · exact hWeekday _ _ expected h
  · exact hWeekday _ _ expected h
  · exact hWeekday _ _ expected h
  · exact hWeekday _ _ expected h

theorem date?_eq (d : Date) : DateParts.date? ⟨d.year, d.month, d.day⟩ = some d :=
  Date.of?_eq_some_iff.mpr ⟨rfl, rfl, rfl⟩

theorem isDigit_of_isShortNumber {n : Nat} {word : Text} (h : IsShortNumber n word) :
    ∀ c ∈ word, Text.isDigit c = true := by
  intro c hc
  rcases h with rfl | rfl
  · exact Text.isDigit_of_ascii (isDigit_of_mem_ofNat hc)
  · exact Text.isDigit_of_ascii (Text.isDigit_of_mem_ofNatPadded hc)

/-- The ISO form is read, since its three numbers have no minus sign in them. -/
theorem readIso?_of_isShortNumber {d : Date} {month day : Text} (hMonth : IsShortNumber d.month month)
    (hDay : IsShortNumber d.day day) :
    readIso? (Text.ofNatPadded 4 d.year ++ '-' :: (month ++ '-' :: day)) =
      some ⟨d.year, d.month, d.day⟩ := by
  have hMinus : ∀ digits : Text, (∀ c ∈ digits, Text.isDigit c = true) →
      ∀ c ∈ digits, (c == '-') = false := by
    intro digits hDigits c hc
    rw [beq_eq_false_iff_ne]
    rintro rfl
    exact absurd (hDigits '-' hc) (by decide)
  have hYear := hMinus (Text.ofNatPadded 4 d.year)
    fun c hc => Text.isDigit_of_ascii (Text.isDigit_of_mem_ofNatPadded hc)
  have hPieces : Text.pieces (· == '-') (Text.ofNatPadded 4 d.year ++ '-' :: (month ++ '-' :: day)) =
      [Text.ofNatPadded 4 d.year, month, day] := by
    rw [Text.pieces_append rfl hYear, Text.pieces_append rfl (hMinus month (isDigit_of_isShortNumber hMonth)),
      Text.pieces_of_no_break (hMinus day (isDigit_of_isShortNumber hDay))]
  have hLe := d.day_le.trans (daysInMonth_bounds d.year d.month).2
  have hNoBlank : ∀ c, day ≠ [' ', c] := by
    rintro c rfl
    exact absurd (isDigit_of_isShortNumber hDay ' ' (by simp)) (by decide)
  simp only [readIso?, hPieces, readYear?_ofNatPadded d.year_le,
    readMonth?_of_isShortNumber d.month_pos d.month_le hMonth,
    readDay?_of_isShortNumber d.day_pos hLe hDay]

/-! ### The words are found -/

theorem not_isField_nil (field : DateField) : ¬ IsField field [] := by
  rintro ⟨before, after, h⟩
  cases field with
  | weekday length => cases length <;> cases h
  | month length => cases length <;> cases h
  | day => cases h
  | year => cases h

/-- The words of a date have no white space in them. -/
theorem isInk_of_isWordOf {d : Date} {expected : DateWord} {word : Text}
    (h : IsWordOf d expected word) : Text.IsInk word := by
  obtain ⟨core, hSays, rfl⟩ := h
  have hField : IsField expected.field core := ⟨{}, _, readField?_of_says hSays {}⟩
  have hNonempty : core ≠ [] := by
    rintro rfl
    exact not_isField_nil _ hField
  have hInk : ∀ c ∈ core, Text.isSpace c = false := by
    intro c hc
    rcases isAlpha_or_isDigit_of_isField hField hc with hAlpha | hDigit
    · exact Text.isSpace_eq_false_of_isAlpha hAlpha
    · exact Text.isSpace_eq_false_of_isDigit hDigit
  cases expected.comma with
  | false => exact ⟨hNonempty, hInk⟩
  | true =>
      refine ⟨by simp, fun c hc => ?_⟩
      rcases List.mem_append.mp hc with hc | hc
      · exact hInk c hc
      · obtain rfl := List.mem_singleton.mp hc
        decide

theorem isInk_of_areWordsOf {d : Date} {form : DateFormat} {words : List Text}
    (h : AreWordsOf d form words) : ∀ word ∈ words, Text.IsInk word := by
  intro word hWord
  cases form with
  | named expected =>
      obtain ⟨e, _, hIs⟩ := exists_rel_of_mem (R := flip (IsWordOf d)) h.flip hWord
      exact isInk_of_isWordOf hIs
  | iso =>
      obtain ⟨month, day, hMonth, hDay, rfl⟩ := h
      obtain rfl := List.mem_singleton.mp hWord
      refine ⟨by simp, fun c hc => ?_⟩
      have hClass : c = '-' ∨ Text.isDigit c = true := by
        simp only [List.mem_append, List.mem_cons] at hc
        rcases hc with hc | hc | hc | hc | hc
        · exact .inr (Text.isDigit_of_ascii (Text.isDigit_of_mem_ofNatPadded hc))
        · exact .inl hc
        · exact .inr (isDigit_of_isShortNumber hMonth c hc)
        · exact .inl hc
        · exact .inr (isDigit_of_isShortNumber hDay c hc)
      rcases hClass with rfl | hDigit
      · decide
      · exact Text.isSpace_eq_false_of_isDigit hDigit

/-- A date that is written in a form is read in it. -/
theorem read?_of_isWritten {form : DateFormat} {d : Date} {s : Text} (hForm : form ∈ all)
    (h : IsWritten form d s) : read? form s = some d := by
  obtain ⟨words, text, before, after, hWords, hSpaced, hBefore, hAfter, rfl⟩ := h
  have hFound : Text.words (before ++ text ++ after) = words := by
    rw [List.append_assoc, Text.words_append_of_isSpace hBefore]
    exact Text.words_of_isSpaced hSpaced (isInk_of_areWordsOf hWords) hAfter
  have hParts : parts? form (before ++ text ++ after) = some ⟨d.year, d.month, d.day⟩ := by
    cases form with
    | iso =>
        obtain ⟨month, day, hMonth, hDay, rfl⟩ := hWords
        simp only [parts?, hFound, Text.joined]
        exact readIso?_of_isShortNumber hMonth hDay
    | named expected =>
        rw [all, List.mem_cons, List.mem_map] at hForm
        obtain hIso | ⟨other, hOther, hSame⟩ := hForm
        · cases hIso
        · cases hSame
          simp only [parts?, hFound, readWords?_of_areWordsOf hWords, entered_named d _ hOther]
  rw [read?_eq, hParts]
  exact date?_eq d

/-- The text that a date is given is one of those in which it is written. -/
theorem isWritten_text (d : Date) : IsWritten .iso d d.text := by
  have hWord : AreWordsOf d .iso [d.text] :=
    ⟨_, _, .inr rfl, .inr rfl, by simp [Date.text]⟩
  exact ⟨[d.text], d.text, [], [], hWord, .last _, by simp, by simp, by simp⟩

end DateFormat

/-- Every date is read back from its text. -/
theorem readDate_text (d : Date) : readDate d.text = .ok d := by
  have hIso : DateFormat.iso ∈ DateFormat.all := List.mem_cons_self ..
  rw [readDate, DateFormat.readFirst?_of_mem hIso
    (DateFormat.read?_of_isWritten hIso (DateFormat.isWritten_text d))]

/-- A date written in any of the forms is read as that date, though other forms are tried before: a form
that reads the text too reads the same date in it. -/
theorem readDate_of_isWritten (d : Date) (form : DateFormat) (s : Text)
    (hForm : form ∈ DateFormat.all) (h : form.IsWritten d s) : readDate s = .ok d := by
  rw [readDate, DateFormat.readFirst?_of_mem hForm (DateFormat.read?_of_isWritten hForm h)]

/-- The 31st of May of the year 987, with a weekday that it was not, with uneven letters and with all kinds
of white space. -/
theorem readDate_of_may :
    ∃ d : Date, (d.year, d.month, d.day) = (987, 5, 31) ∧
      readDate "\u3000sUNDAY,\t mAY\n31,\u00a00987 ".toList = .ok d := by
  let d : Date := ⟨987, 5, 31, by decide, by decide, by decide, by decide, by decide, by decide⟩
  refine ⟨d, rfl, ?_⟩
  apply readDate_of_isWritten d
    (.named [⟨.weekday .full, true⟩, ⟨.month .short, false⟩, ⟨.day, true⟩, ⟨.year, false⟩])
  · decide
  · have hBlank : ∀ {gap : Text}, Text.isBlank gap = true → ∀ c ∈ gap, Text.isSpace c = true :=
      Text.isBlank_iff.mp
    refine ⟨["sUNDAY,".toList, "mAY".toList, "31,".toList, "0987".toList], _, ['\u3000'], [' '], ?_,
      .next _ ['\t', ' '] (by simp) (hBlank rfl) (.next _ ['\n'] (by simp) (hBlank rfl)
        (.next _ ['\u00a0'] (by simp) (hBlank rfl) (.last _))), hBlank rfl, hBlank rfl, rfl⟩
    refine .cons ⟨"sUNDAY".toList, ?_, rfl⟩ (.cons ⟨"mAY".toList, ?_, rfl⟩
      (.cons ⟨"31".toList, .inr ?_, rfl⟩ (.cons ⟨"0987".toList, ?_, rfl⟩ .nil)))
    · show Text.lowerAscii "sUNDAY".toList ∈ weekdayNames .full
      decide
    · show (monthNames .short)[4]? = some (Text.lowerAscii "mAY".toList)
      decide
    · decide
    · show "0987".toList = Text.ofNatPadded 4 987
      decide

end CsvIntake
