import CsvIntake.Proofs.DateTexts
import CsvIntake.Reading

/-! The forms of dates never disagree. A word says the same in every place where it can stand: names are
told from numbers by their letters, the names of months from those of weekdays, and days from years by how
many digits they have. So whatever form a text is read in, the date is the same, and the order in which the
forms are tried does not matter. -/
namespace CsvIntake.DateFormat

/-- The place of a month's name, whether it is a short or a full one. -/
def monthOf? (word : Text) : Option Nat :=
  (readName? (monthNames .short) word).or (readName? (monthNames .full) word)

/-- The parts of a date with what a word says, whatever field is expected. -/
def said (parts : DateParts) (word : Text) : DateParts :=
  match readYear? word, readDay? word, monthOf? word with
  | some year, _, _ => { parts with year }
  | none, some day, _ => { parts with day }
  | none, none, some month => { parts with month }
  | none, none, none => parts

/-- A word without a comma at its end, if it has one. -/
def withoutComma (word : Text) : Text := if word.getLast? = some ',' then word.dropLast else word

/-- A word of one or two digits is no year. -/
theorem readYear?_of_readDay? {word : Text} {day : Nat} (h : readDay? word = some day) :
    readYear? word = none := by
  cases hYear : readYear? word with
  | none => rfl
  | some year =>
      have hLength := (digits_of_readYear? hYear).1
      match word, hLength with
      | [_, _, _, _], _ => simp [readDay?] at h

/-- No number is a word of letters. -/
theorem readNumbers_of_letters {word : Text} (hNonempty : word ≠ [])
    (hLetters : ∀ c ∈ word, c.isAlpha = true) : readYear? word = none ∧ readDay? word = none := by
  obtain ⟨c, hc⟩ := List.exists_mem_of_ne_nil word hNonempty
  have hNoDigit := Text.isDigit_eq_false_of_isAlpha (hLetters c hc)
  constructor
  · cases hYear : readYear? word with
    | none => rfl
    | some year => simp [(digits_of_readYear? hYear).2 c hc] at hNoDigit
  · cases hDay : readDay? word with
    | none => rfl
    | some day => simp [digits_of_readDay? hDay c hc] at hNoDigit

/-- The place of a name in a list is where its lower case stands. -/
theorem getElem?_of_readName? {names : List Text} {word : Text} {place : Nat}
    (h : readName? names word = some (place + 1)) : names[place]? = some (Text.lowerAscii word) := by
  obtain ⟨i, hi, hPlace⟩ := Option.map_eq_some_iff.mp h
  obtain rfl : i = place := by omega
  obtain ⟨hLt, hName, _⟩ := List.findIdx?_eq_some_iff_getElem.mp hi
  rw [List.getElem?_eq_getElem hLt, beq_iff_eq.mp hName]

/-- Only May has the same short and full name, and it is the same month in both. -/
theorem monthOf?_of_readName? {length : NameLength} {word : Text} {month : Nat}
    (h : readName? (monthNames length) word = some month) : monthOf? word = some month := by
  cases length with
  | short => rw [monthOf?, h, Option.some_or]
  | full =>
      cases hShort : readName? (monthNames .short) word with
      | none => rw [monthOf?, hShort, Option.none_or, h]
      | some other =>
          have hSame : ∀ i < 12, ∀ j < 12,
              (monthNames .short)[i]? = (monthNames .full)[j]? → i = j := by decide
          obtain ⟨i, hi, rfl⟩ := Option.map_eq_some_iff.mp hShort
          obtain ⟨j, hj, rfl⟩ := Option.map_eq_some_iff.mp h
          obtain ⟨hLeft, _, _⟩ := List.findIdx?_eq_some_iff_getElem.mp hi
          obtain ⟨hRight, _, _⟩ := List.findIdx?_eq_some_iff_getElem.mp hj
          obtain rfl := hSame i hLeft j hRight
            ((getElem?_of_readName? hShort).trans (getElem?_of_readName? h).symm)
          rw [monthOf?, hShort, Option.some_or]

/-- The name of a weekday names no month. -/
theorem monthOf?_eq_none_of_weekday {length : NameLength} {word : Text} {place : Nat}
    (h : readName? (weekdayNames length) word = some place) : monthOf? word = none := by
  have hApart : ∀ a b : NameLength, ∀ name ∈ weekdayNames a, name ∉ monthNames b := by
    rintro (_ | _) (_ | _) <;> decide
  have hNone : ∀ b, readName? (monthNames b) word = none := by
    intro b
    cases hMonth : readName? (monthNames b) word with
    | none => rfl
    | some month =>
        exact absurd (lowerAscii_mem_of_readName? hMonth)
          (hApart length b _ (lowerAscii_mem_of_readName? h))
  rw [monthOf?, hNone, hNone, Option.none_or]

/-- What a field reads in a word is what the word says. -/
theorem eq_said_of_readField? {field : DateField} {word : Text} {parts after : DateParts}
    (h : readField? field word parts = some after) : after = said parts word := by
  cases field with
  | year =>
      obtain ⟨year, hYear, rfl⟩ := Option.map_eq_some_iff.mp h
      simp only [said, hYear]
  | day =>
      obtain ⟨day, hDay, rfl⟩ := Option.map_eq_some_iff.mp h
      simp only [said, readYear?_of_readDay? hDay, hDay]
  | month length =>
      obtain ⟨month, hMonth, rfl⟩ := Option.map_eq_some_iff.mp h
      obtain ⟨hNonempty, hLetters⟩ := letters_of_readName? (letters_monthNames length) hMonth
      obtain ⟨hYear, hDay⟩ := readNumbers_of_letters hNonempty hLetters
      simp only [said, hYear, hDay, monthOf?_of_readName? hMonth]
  | weekday length =>
      obtain ⟨place, hName, rfl⟩ := Option.map_eq_some_iff.mp h
      obtain ⟨hNonempty, hLetters⟩ := letters_of_readName? (letters_weekdayNames length) hName
      obtain ⟨hYear, hDay⟩ := readNumbers_of_letters hNonempty hLetters
      simp only [said, hYear, hDay, monthOf?_eq_none_of_weekday hName]

/-- A comma at the end of a word is never part of what a field reads. -/
theorem eq_withoutComma_of_dropComma? {comma : Bool} {field : DateField} {word core : Text}
    (h : dropComma? comma word = some core) (hField : IsField field core) :
    core = withoutComma word := by
  cases comma with
  | true =>
      rw [dropComma?, if_pos rfl] at h
      split at h
      · rename_i hLast
        rw [withoutComma, if_pos hLast, Option.some.inj h]
      · cases h
  | false =>
      obtain rfl : word = core := Option.some.inj h
      rw [withoutComma, if_neg]
      intro hLast
      exact not_mem_of_isField hField (by decide) (by decide) (List.mem_of_getLast? hLast)

/-- The words of a named form are read as what they say one after the other. -/
theorem eq_foldl_said_of_readWords? {expected : List DateWord} {words : List Text}
    {parts after : DateParts} (h : readWords? expected words parts = some after) :
    after = words.foldl (fun parts word => said parts (withoutComma word)) parts := by
  induction expected generalizing words parts with
  | nil =>
      cases words with
      | nil => exact (Option.some.inj h).symm
      | cons word rest => cases h
  | cons e others ih =>
      cases words with
      | nil => cases h
      | cons word rest =>
          rw [readWords?] at h
          split at h
          · cases h
          · rename_i core hCore
            split at h
            · cases h
            · rename_i next hField
              rw [List.foldl_cons, ← eq_withoutComma_of_dropComma? hCore ⟨parts, next, hField⟩,
                ← eq_said_of_readField? hField]
              exact ih h

/-- The ISO form has minus signs, which no named form has. -/
theorem readIso?_eq_none_of_readWords? {expected : List DateWord} {s : Text}
    {parts after : DateParts} (h : readWords? expected (Text.words s) parts = some after) :
    readIso? (Text.joined [' '] (Text.words s)) = none := by
  cases hIso : readIso? (Text.joined [' '] (Text.words s)) with
  | none => rfl
  | some iso =>
      obtain ⟨year, month, day, hText, _⟩ := exists_of_readIso? hIso
      have hMinus : '-' ∈ Text.joined [' '] (Text.words s) := by simp [hText]
      rw [Text.mem_joined_words (by decide)] at hMinus
      exact absurd hMinus (not_mem_of_areWords (forall₂_of_readWords? h) (by decide) (by decide)
        (by decide) (by decide))

/-- The numbers that a form reads in a text, before they are known to make a date. -/
def parts? (form : DateFormat) (s : Text) : Option DateParts :=
  match form with
  | .iso => readIso? (Text.joined [' '] (Text.words s))
  | .named expected => readWords? expected (Text.words s) {}

theorem read?_eq (form : DateFormat) (s : Text) :
    read? form s = (parts? form s).bind DateParts.date? := by
  cases form <;> rfl

/-- Two formats that take a date from one text take the same year, month and day. -/
theorem eq_of_parts? {form other : DateFormat} {s : Text} {p q : DateParts}
    (hp : parts? form s = some p) (hq : parts? other s = some q) : p = q := by
  cases form with
  | iso =>
      cases other with
      | iso => exact Option.some.inj (hp.symm.trans hq)
      | named expected => cases (readIso?_eq_none_of_readWords? hq).symm.trans hp
  | named expected =>
      cases other with
      | iso => cases (readIso?_eq_none_of_readWords? hp).symm.trans hq
      | named others =>
          exact (eq_foldl_said_of_readWords? hp).trans (eq_foldl_said_of_readWords? hq).symm

/-- Two forms that read a text read the same date in it. -/
theorem eq_of_read? {form other : DateFormat} {s : Text} {d e : Date} (hd : read? form s = some d)
    (he : read? other s = some e) : d = e := by
  rw [read?_eq] at hd he
  obtain ⟨p, hp, hDate⟩ := Option.bind_eq_some_iff.mp hd
  obtain ⟨q, hq, hOther⟩ := Option.bind_eq_some_iff.mp he
  obtain rfl := eq_of_parts? hp hq
  exact Option.some.inj (hDate.symm.trans hOther)

/-- A date that some form reads is read, wherever the form stands among those that are tried. -/
theorem readFirst?_of_mem {forms : List DateFormat} {form : DateFormat} {s : Text} {d : Date}
    (hForm : form ∈ forms) (h : read? form s = some d) : readFirst? forms s = some d := by
  have hSome : (readFirst? forms s).isSome = true := by
    rw [readFirst?, List.findSome?_isSome_iff]
    exact ⟨form, hForm, by rw [h]; rfl⟩
  obtain ⟨e, he⟩ := Option.isSome_iff_exists.mp hSome
  obtain ⟨other, _, hOther⟩ := List.exists_of_findSome?_eq_some he
  rw [he, eq_of_read? h hOther]

/-- Only which forms are tried matters, not their order. -/
theorem readFirst?_congr {forms others : List DateFormat} (h : ∀ form, form ∈ forms ↔ form ∈ others)
    (s : Text) : readFirst? forms s = readFirst? others s := by
  have hFound : ∀ {tried : List DateFormat} {d : Date}, readFirst? tried s = some d →
      ∃ form ∈ tried, read? form s = some d := List.exists_of_findSome?_eq_some
  ext d
  constructor
  · intro hd
    obtain ⟨form, hForm, hRead⟩ := hFound hd
    exact readFirst?_of_mem ((h form).mp hForm) hRead
  · intro hd
    obtain ⟨form, hForm, hRead⟩ := hFound hd
    exact readFirst?_of_mem ((h form).mpr hForm) hRead

/-- Two forms that read a text read the same date in it. So a text is read as a date, and as which one, whatever
the order in which the forms are tried. -/
theorem readDate_in_any_order (s : Text) :
    (∀ form ∈ all, ∀ other ∈ all, ∀ d e, read? form s = some d → read? other s = some e → d = e) ∧
    ∀ forms, forms.Perm all →
      readDate s = (readFirst? forms s).elim (unreadable s (.type .date)) .ok := by
  refine ⟨fun form _ other _ d e hd he => eq_of_read? hd he, fun forms hForms => ?_⟩
  rw [readDate, readFirst?_congr (fun _ => hForms.mem_iff) s]
  cases readFirst? all s <;> rfl

/-- The name of May is both a short and a full one, so two forms read the 13th of May of 2022, and the one that
is tried last is tried first from the other end. -/
theorem readDate_in_any_order_of_may :
    ∃ d e : Date,
      read? (.named [⟨.weekday .full, true⟩, ⟨.month .short, false⟩, ⟨.day, false⟩, ⟨.year, false⟩])
        "fRIDAY, mAY 13\n2022".toList = some d ∧
      read? (.named [⟨.weekday .full, true⟩, ⟨.month .full, false⟩, ⟨.day, false⟩, ⟨.year, false⟩])
        "fRIDAY, mAY 13\n2022".toList = some e ∧
      (d.year, d.month, d.day) = (2022, 5, 13) ∧ d = e ∧
      readDate "fRIDAY, mAY 13\n2022".toList =
        (readFirst? all.reverse "fRIDAY, mAY 13\n2022".toList).elim
          (unreadable "fRIDAY, mAY 13\n2022".toList (.type .date)) .ok := by
  obtain ⟨hAgree, hOrder⟩ := readDate_in_any_order "fRIDAY, mAY 13\n2022".toList
  have hShort : read?
      (.named [⟨.weekday .full, true⟩, ⟨.month .short, false⟩, ⟨.day, false⟩, ⟨.year, false⟩])
      "fRIDAY, mAY 13\n2022".toList =
        some ⟨2022, 5, 13, by decide, by decide, by decide, by decide, by decide, by decide⟩ := by
    decide +kernel
  have hFull : read?
      (.named [⟨.weekday .full, true⟩, ⟨.month .full, false⟩, ⟨.day, false⟩, ⟨.year, false⟩])
      "fRIDAY, mAY 13\n2022".toList =
        some ⟨2022, 5, 13, by decide, by decide, by decide, by decide, by decide, by decide⟩ := by
    decide +kernel
  exact ⟨_, _, hShort, hFull, rfl, hAgree _ (by decide) _ (by decide) _ _ hShort hFull,
    hOrder _ (List.reverse_perm _)⟩

end CsvIntake.DateFormat
