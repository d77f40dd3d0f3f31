import CsvIntake.Calendar.DateFormat
import CsvIntake.Proofs.Characters
import CsvIntake.Proofs.Trimming
import Mathlib.Data.List.Forall2

/-! What a written date looks like, in any of its forms. It has the four digits of a year, and either
a month by name or a minus sign behind the year. It has no colon, so no time of day is in it. -/
namespace CsvIntake

namespace Text

/-- The pieces of a text, put together again with the character that they were cut at. -/
theorem joined_pieces (b : Char) (s : Text) : joined [b] (pieces (· == b) s) = s := by
  have hNonempty : ∀ t : Text, pieces (· == b) t ≠ [] := by
    intro t
    cases t with
    | nil => simp [pieces]
    | cons c cs =>
        rw [pieces]
        split
        · simp
        · split <;> simp
  induction s with
  | nil => rfl
  | cons c cs ih =>
      obtain ⟨p, ps, hPieces⟩ := List.exists_cons_of_ne_nil (hNonempty cs)
      rw [hPieces] at ih
      rw [pieces, hPieces]
      split
      · rename_i hc
        obtain rfl : c = b := by simpa using hc
        simp [joined, ih]
      · cases ps with
        | nil => simpa [joined] using ih
        | cons q qs => simpa [joined] using ih

/-- Single blanks between the words do not move a minus sign across a digit. -/
theorem minusAfterDigit_joined_words {s : Text} :
    MinusAfterDigit (joined [' '] (words s)) ↔ MinusAfterDigit s := by
  -- only the digits and minus signs of a text matter, and these the words keep in order
  let kept (c : Char) : Bool := isDigit c || c == '-'
  have hKept : ∀ t : Text, MinusAfterDigit t ↔ MinusAfterDigit (t.filter kept) := by
    intro t
    rw [MinusAfterDigit, MinusAfterDigit, List.dropWhile_filter]
    have hSame : (fun c => !kept c || !isDigit c) = fun c => !isDigit c := by
      funext c
      cases hc : isDigit c <;> simp [kept, hc]
    rw [hSame, List.mem_filter]
    simp [kept]
  have hSpace : ∀ c, isSpace c = true → kept c = false := by
    intro c hc
    have hMinus : c ≠ '-' := by
      rintro rfl
      revert hc
      decide
    simp [kept, isDigit_eq_false_of_isSpace hc, hMinus]
  rw [hKept, filter_joined_words hSpace, ← hKept]

/-- Joining the words of a text by blanks keeps the number of digits. -/
theorem countP_isDigit_joined_words (s : Text) :
    (joined [' '] (words s)).countP isDigit = s.countP isDigit := by
  rw [List.countP_eq_length_filter, List.countP_eq_length_filter,
    filter_joined_words fun c => isDigit_eq_false_of_isSpace]

end Text

namespace DateFormat

/-- A text is what a field may say, whatever has been read before. -/
def IsField (field : DateField) (word : Text) : Prop :=
  ∃ before after, readField? field word before = some after

/-- A text is what a word of a date may be, with its comma. -/
def IsWord (expected : DateWord) (word : Text) : Prop :=
  ∃ core, dropComma? expected.comma word = some core ∧ IsField expected.field core

/-- Words are read one by one: each is what the form expects in its place. -/
theorem forall₂_of_readWords? {expected : List DateWord} {words : List Text}
    {before after : DateParts} (h : readWords? expected words before = some after) :
    List.Forall₂ IsWord expected words := by
  induction expected generalizing words before with
  | nil =>
      cases words with
      | nil => exact .nil
      | cons word rest => cases h
  | cons e others ih =>
      cases words with
      | nil => cases h
      | cons word rest =>
          rw [readWords?] at h
          split at h
          · cases h
          · rename_i core hCore
            split at h
            · cases h
            · rename_i next hField
              exact .cons ⟨core, hCore, before, next, hField⟩ (ih h)

/-- A word is read as a name only when it is one of them, up to case. -/
theorem lowerAscii_mem_of_readName? {names : List Text} {word : Text} {place : Nat}
    (h : readName? names word = some place) : Text.lowerAscii word ∈ names := by
  obtain ⟨i, hi, _⟩ := Option.map_eq_some_iff.mp h
  obtain ⟨hLt, hName, _⟩ := List.findIdx?_eq_some_iff_getElem.mp hi
  rw [← beq_iff_eq.mp hName]
  exact List.getElem_mem hLt

/-- A name is a word of letters. -/
theorem letters_of_readName? {names : List Text} {word : Text} {place : Nat}
    (hNames : ∀ name ∈ names, name ≠ [] ∧ ∀ c ∈ name, c.isAlpha = true)
    (h : readName? names word = some place) : word ≠ [] ∧ ∀ c ∈ word, c.isAlpha = true := by
  obtain ⟨hNonempty, hLetters⟩ := hNames _ (lowerAscii_mem_of_readName? h)
  refine ⟨fun hNil => hNonempty (by simp [hNil, Text.lowerAscii]), fun c hc => ?_⟩
  exact Text.isAlpha_of_isAlpha_toLower (hLetters _ (List.mem_map_of_mem hc))

/-- The names of the weekdays are made of ASCII letters. -/
theorem letters_weekdayNames : ∀ length : NameLength, ∀ name ∈ weekdayNames length,
    name ≠ [] ∧ ∀ c ∈ name, c.isAlpha = true := by
  have hAll : ∀ length, ∀ name ∈ weekdayNames length,
      name ≠ [] ∧ name.all Char.isAlpha = true := by
    rintro (_ | _) <;> decide
  simpa only [List.all_eq_true] using hAll

theorem letters_monthNames : ∀ length : NameLength, ∀ name ∈ monthNames length,
    name ≠ [] ∧ ∀ c ∈ name, c.isAlpha = true := by
  have hAll : ∀ length, ∀ name ∈ monthNames length,
      name ≠ [] ∧ name.all Char.isAlpha = true := by
    rintro (_ | _) <;> decide
  simpa only [List.all_eq_true] using hAll

theorem isDigit_of_isCountingDigit {c : Char} (h : isCountingDigit c = true) :
    Text.isDigit c = true := by
  have hRange : 48 ≤ c.toNat ∧ c.toNat < 48 + 10 := by
    simp only [isCountingDigit, decide_eq_true_eq, Char.le_def, UInt32.le_iff_toNat_le] at h
    have hLow : ('1' : Char).val.toNat = 49 := rfl
    have hHigh : ('9' : Char).val.toNat = 57 := rfl
    have hNat : c.toNat = c.val.toNat := rfl
    omega
  rw [Text.isDigit, Text.digitValue?, List.findSome?_isSome_iff]
  exact ⟨48, by decide, by simp [hRange]⟩

/-- A year is written with four digits. -/
theorem digits_of_readYear? {word : Text} {year : Nat} (h : readYear? word = some year) :
    word.length = 4 ∧ ∀ c ∈ word, Text.isDigit c = true := by
  rw [readYear?] at h
  split at h
  · rename_i hYear
    exact ⟨hYear.1, by simpa using hYear.2⟩
  · cases h

theorem isDigit_zero_to_three : Text.isDigit '0' = true ∧ Text.isDigit '1' = true ∧
    Text.isDigit '2' = true ∧ Text.isDigit '3' = true := by
  decide

theorem digits_of_readMonth? {word : Text} {month : Nat} (h : readMonth? word = some month) :
    ∀ c ∈ word, Text.isDigit c = true := by
  obtain ⟨hZero, hOne, hTwo, _⟩ := isDigit_zero_to_three
  have hDigit := @isDigit_of_isCountingDigit
  match word with
  | [] => simp
  | [c] => simp_all [readMonth?]
  | [c, d] =>
      simp only [readMonth?] at h
      grind
  | _ :: _ :: _ :: _ => simp [readMonth?] at h

theorem digits_of_readDay? {word : Text} {day : Nat} (h : readDay? word = some day) :
    ∀ c ∈ word, Text.isDigit c = true := by
  obtain ⟨hZero, hOne, hTwo, hThree⟩ := isDigit_zero_to_three
  have hDigit := @isDigit_of_isCountingDigit
  match word with
  | [] => simp
  | [c] => simp_all [readDay?]
  | [c, d] =>
      simp only [readDay?] at h
      grind
  | _ :: _ :: _ :: _ => simp [readDay?] at h

/-- The words of a date hold letters, digits and commas. -/
theorem isAlpha_or_isDigit_of_isField {field : DateField} {word : Text} (h : IsField field word)
    {c : Char} (hc : c ∈ word) : c.isAlpha = true ∨ Text.isDigit c = true := by
  obtain ⟨before, after, hRead⟩ := h
  cases field with
  | weekday length =>
      obtain ⟨place, hName, _⟩ := Option.map_eq_some_iff.mp hRead
      exact .inl ((letters_of_readName? (letters_weekdayNames length) hName).2 c hc)
  | month length =>
      obtain ⟨place, hName, _⟩ := Option.map_eq_some_iff.mp hRead
      exact .inl ((letters_of_readName? (letters_monthNames length) hName).2 c hc)
  | day =>
      obtain ⟨number, hDay, _⟩ := Option.map_eq_some_iff.mp hRead
      exact .inr (digits_of_readDay? hDay c hc)
  | year =>
      obtain ⟨number, hYear, _⟩ := Option.map_eq_some_iff.mp hRead
      exact .inr ((digits_of_readYear? hYear).2 c hc)

/-- Dropping the comma behind a word removes nothing else. -/
theorem sublist_of_dropComma? {comma : Bool} {word core : Text}
    (h : dropComma? comma word = some core) :
    core.Sublist word ∧ ∀ c ∈ word, c ∈ core ∨ c = ',' := by
  rw [dropComma?] at h
  split at h
  · split at h
    · rename_i hLast
      obtain rfl := Option.some.inj h
      refine ⟨List.dropLast_sublist word, fun c hc => ?_⟩
      have hSplit : word.dropLast ++ [','] = word :=
        List.dropLast_append_getLast? ',' (by simp [hLast])
      rw [← hSplit, List.mem_append] at hc
      exact hc.imp id List.mem_singleton.mp
    · cases h
  · obtain rfl := Option.some.inj h
    exact ⟨List.Sublist.refl _, fun c hc => .inl hc⟩

theorem not_mem_of_isField {field : DateField} {core : Text} (h : IsField field core) {c : Char}
    (hAlpha : c.isAlpha = false) (hDigit : Text.isDigit c = false) : c ∉ core := by
  intro hc
  rcases isAlpha_or_isDigit_of_isField h hc with h | h
  · simp [hAlpha] at h
  · simp [hDigit] at h

/-- A word of a date holds letters, digits and commas only. -/
theorem not_mem_of_isWord {expected : DateWord} {word : Text} (h : IsWord expected word) {c : Char}
    (hAlpha : c.isAlpha = false) (hDigit : Text.isDigit c = false) (hComma : c ≠ ',') : c ∉ word := by
  intro hc
  obtain ⟨core, hCore, hField⟩ := h
  rcases (sublist_of_dropComma? hCore).2 c hc with hc | hc
  · exact not_mem_of_isField hField hAlpha hDigit hc
  · exact hComma hc

/-- What tells a date from numbers, truth values and datetimes. -/
structure LooksLikeDate (s : Text) : Prop where
  four_digits : 4 ≤ s.countP Text.isDigit
  no_colon : ':' ∉ s
  letter_or_minus : (∃ c ∈ s, c.isAlpha = true) ∨ Text.MinusAfterDigit s

/-- Every member of a list has its partner in the list beside it. -/
theorem exists_rel_of_mem {α β : Type} {R : α → β → Prop} {as : List α} {bs : List β}
    (h : List.Forall₂ R as bs) {a : α} (ha : a ∈ as) : ∃ b ∈ bs, R a b := by
  induction h with
  | nil => cases ha
  | cons hHead _ ih =>
      rcases List.mem_cons.mp ha with rfl | ha
      · exact ⟨_, List.mem_cons_self .., hHead⟩
      · obtain ⟨b, hMem, hRel⟩ := ih ha
        exact ⟨b, List.mem_cons_of_mem _ hMem, hRel⟩

/-- What can neither stand in a word nor between words is not in the text. -/
theorem not_mem_of_areWords {s : Text} {expected : List DateWord}
    (h : List.Forall₂ IsWord expected (Text.words s)) {c : Char} (hSpace : Text.isSpace c = false)
    (hAlpha : c.isAlpha = false) (hDigit : Text.isDigit c = false) (hComma : c ≠ ',') : c ∉ s := by
  intro hc
  have hFlat : c ∈ (Text.words s).flatten := by
    rw [Text.flatten_words, List.mem_filter]
    exact ⟨hc, by simp [hSpace]⟩
  obtain ⟨word, hWord, hc⟩ := List.mem_flatten.mp hFlat
  obtain ⟨e, _, hIs⟩ := exists_rel_of_mem (R := flip IsWord) h.flip hWord
  exact not_mem_of_isWord hIs hAlpha hDigit hComma hc

/-- Words that spell a year and a named month make a text that looks like a date. -/
theorem looksLikeDate_of_words {s : Text} {expected : List DateWord}
    (hYear : ∃ e ∈ expected, e.field = .year)
    (hMonth : ∃ e ∈ expected, e.field = .month .short ∨ e.field = .month .full)
    (h : List.Forall₂ IsWord expected (Text.words s)) : LooksLikeDate s where
  four_digits := by
    obtain ⟨e, he, hField⟩ := hYear
    obtain ⟨word, hMem, core, hCore, before, after, hRead⟩ := exists_rel_of_mem h he
    rw [hField] at hRead
    obtain ⟨number, hRead, _⟩ := Option.map_eq_some_iff.mp hRead
    obtain ⟨hLength, hDigits⟩ := digits_of_readYear? hRead
    have hSublist : core.Sublist s :=
      (sublist_of_dropComma? hCore).1.trans (Text.word_sublist hMem)
    have hCount := hSublist.countP_le (p := Text.isDigit)
    rwa [List.countP_eq_length.mpr hDigits, hLength] at hCount
  no_colon := not_mem_of_areWords h (by decide) (by decide) (by decide) (by decide)
  letter_or_minus := by
    left
    obtain ⟨e, he, hField⟩ := hMonth
    obtain ⟨word, hMem, core, hCore, before, after, hRead⟩ := exists_rel_of_mem h he
    have hLetters : core ≠ [] ∧ ∀ c ∈ core, c.isAlpha = true := by
      rcases hField with hField | hField <;> rw [hField] at hRead <;>
        obtain ⟨place, hName, _⟩ := Option.map_eq_some_iff.mp hRead
      · exact letters_of_readName? (letters_monthNames .short) hName
      · exact letters_of_readName? (letters_monthNames .full) hName
    obtain ⟨c, hc⟩ := List.exists_mem_of_ne_nil core hLetters.1
    have hSublist := (sublist_of_dropComma? hCore).1.trans (Text.word_sublist hMem)
    exact ⟨c, hSublist.subset hc, hLetters.2 c hc⟩

/-- The ISO form is a year, a month and a day with minus signs between. -/
theorem exists_of_readIso? {s : Text} {parts : DateParts} (h : readIso? s = some parts) :
    ∃ year month day, s = year ++ '-' :: (month ++ '-' :: day) ∧
      (year.length = 4 ∧ ∀ c ∈ year, Text.isDigit c = true) ∧
      (∀ c ∈ month, Text.isDigit c = true) ∧
      ∀ c ∈ day, c = ' ' ∨ Text.isDigit c = true := by
  rw [readIso?] at h
  split at h
  · rename_i year month day hPieces
    have hJoined := Text.joined_pieces '-' s
    rw [hPieces] at hJoined
    dsimp only at h
    split at h
    · rename_i hYear hMonth hDay
      refine ⟨year, month, day, by simpa [Text.joined] using hJoined.symm,
        digits_of_readYear? hYear, digits_of_readMonth? hMonth, fun c hc => ?_⟩
      split at hDay
      · rename_i d
        have hDigit := digits_of_readDay? hDay d (by simp)
        rcases List.mem_cons.mp hc with rfl | hc
        · exact .inl rfl
        · obtain rfl := List.mem_singleton.mp hc
          exact .inr hDigit
      · exact .inr (digits_of_readDay? hDay c hc)
    · cases h
  · cases h

/-- A text that is read as an ISO date looks like a date. -/
theorem looksLikeDate_of_readIso? {s : Text} {parts : DateParts} (h : readIso? s = some parts) :
    LooksLikeDate s := by
  obtain ⟨year, month, day, rfl, ⟨hLength, hYear⟩, hMonth, hDay⟩ := exists_of_readIso? h
  have hColon : Text.isDigit ':' = false := by decide
  obtain ⟨a, rest, rfl⟩ := List.exists_cons_of_length_pos (show 0 < year.length by omega)
  refine ⟨?_, ?_, .inr ?_⟩
  · rw [List.countP_append, List.countP_eq_length.mpr hYear, hLength]
    omega
  · intro h
    simp only [List.mem_append, List.mem_cons] at h
    grind
  · rw [Text.MinusAfterDigit, List.cons_append,
      List.dropWhile_cons_of_neg (by simp [hYear a (by simp)])]
    simp

/-- Every named form says a year and a month. -/
theorem named_fields : ∀ expected ∈ withoutWeekday ++ withWeekday .short false ++
    withWeekday .short true ++ withWeekday .full false ++ withWeekday .full true,
    (∃ e ∈ expected, e.field = .year) ∧
      ∃ e ∈ expected, e.field = .month .short ∨ e.field = .month .full := by
  decide

/-- Whatever form a date is read in, it looks like one. -/
theorem looksLikeDate_of_readFirst? {s : Text} {d : Date} (h : readFirst? all s = some d) :
    LooksLikeDate s := by
  obtain ⟨format, hFormat, hRead⟩ := List.exists_of_findSome?_eq_some h
  rcases List.mem_cons.mp hFormat with rfl | hNamed
  · obtain ⟨parts, hParts, _⟩ := Option.bind_eq_some_iff.mp hRead
    obtain ⟨hDigits, hColon, hShape⟩ := looksLikeDate_of_readIso? hParts
    refine ⟨?_, ?_, ?_⟩
    · rwa [Text.countP_isDigit_joined_words] at hDigits
    · rwa [Text.mem_joined_words (by decide)] at hColon
    · refine hShape.imp ?_ Text.minusAfterDigit_joined_words.mp
      rintro ⟨c, hc, hAlpha⟩
      exact ⟨c, (Text.mem_joined_words (Text.isSpace_eq_false_of_isAlpha hAlpha)).mp hc, hAlpha⟩
  · obtain ⟨expected, hExpected, rfl⟩ := List.mem_map.mp hNamed
    obtain ⟨parts, hParts, _⟩ := Option.bind_eq_some_iff.mp hRead
    obtain ⟨hYear, hMonth⟩ := named_fields expected hExpected
    exact looksLikeDate_of_words hYear hMonth (forall₂_of_readWords? hParts)

end DateFormat

end CsvIntake
