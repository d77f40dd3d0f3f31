import CsvIntake.Inference
import CsvIntake.Proofs.DateTexts
import CsvIntake.Proofs.IsoTexts
import CsvIntake.Proofs.Numerals
import CsvIntake.Proofs.TypeOrder

/-! Which types accept a value. Numbers, truth values, datetimes and datetimes with an offset are told
apart by how they look, but for `0` and `1`, which are numbers and truth values. So the types that
accept a value are those at or above one type, as long as the value is not too long for a bounded
text; and that type is the one that inference finds for the value. -/
namespace CsvIntake

/-- The words that say a truth value, in lower case. -/
def truthWords : List Text :=
  (["true", "t", "yes", "y", "1"] ++ ["false", "f", "no", "n", "0"]).map String.toList

theorem caseless_of_isDigit {c : Char} (h : Text.isDigit c = true) : caseless c = c := by
  have hLongS : c ≠ 'ſ' := by
    rintro rfl
    revert h
    decide
  have hUpper : ¬ c.isUpper = true := by
    intro hUpper
    simp [Text.isDigit_eq_false_of_isAlpha (Text.isAlpha_of_isUpper hUpper)] at h
  rw [caseless, if_neg hLongS, Text.toLower_of_not_isUpper hUpper]

/-- A text is read as a boolean only when it is one of the truth words, up to case. -/
theorem mem_truthWords_of_boolean? {s : Text} (h : (boolean? s).isSome = true) :
    s.map caseless ∈ truthWords := by
  rw [boolean?] at h
  split at h
  · rename_i hTrue
    obtain ⟨word, hWord, hSame⟩ := List.any_eq_true.mp hTrue
    rw [← beq_iff_eq.mp hSame]
    exact List.mem_map_of_mem (List.mem_append_left _ hWord)
  · split at h
    · rename_i hFalse
      obtain ⟨word, hWord, hSame⟩ := List.any_eq_true.mp hFalse
      rw [← beq_iff_eq.mp hSame]
      exact List.mem_map_of_mem (List.mem_append_right _ hWord)
    · cases h

/-- A text that is read as a boolean holds at most one digit. -/
theorem countP_isDigit_of_boolean? {s : Text} (h : (boolean? s).isSome = true) :
    s.countP Text.isDigit ≤ 1 := by
  have hWords : ∀ word ∈ truthWords, word.countP Text.isDigit ≤ 1 := by decide
  calc
    s.countP Text.isDigit ≤ s.countP (Text.isDigit ∘ caseless) := by
      apply List.countP_mono_left
      intro c _ hc
      simp [caseless_of_isDigit hc, hc]
    _ = (s.map caseless).countP Text.isDigit := List.countP_map.symm
    _ ≤ 1 := hWords _ (mem_truthWords_of_boolean? h)

/-- The only truth values with a digit are `0` and `1`. -/
theorem eq_zero_or_one_of_boolean? {s : Text} (h : (boolean? s).isSome = true) {c : Char}
    (hc : c ∈ s) (hDigit : Text.isDigit c = true) : s = ['0'] ∨ s = ['1'] := by
  have hSame := caseless_of_isDigit hDigit
  have hMem : c ∈ s.map caseless := List.mem_map.mpr ⟨c, hc, hSame⟩
  have hWords : ∀ word ∈ truthWords, word.any Text.isDigit = true →
      word = ['0'] ∨ word = ['1'] := by decide
  have hWord := hWords _ (mem_truthWords_of_boolean? h) (List.any_eq_true.mpr ⟨c, hMem, hDigit⟩)
  have hLength : s.length = 1 := by
    rw [← List.length_map caseless]
    rcases hWord with hWord | hWord <;> simp [hWord]
  obtain ⟨d, rfl⟩ := List.length_eq_one_iff.mp hLength
  obtain rfl := List.mem_singleton.mp hc
  simpa [hSame] using hWord

/-- What dates and datetimes have in common: the four digits of a year, and a letter or a minus sign
behind a digit. -/
structure LooksTemporal (s : Text) : Prop where
  four_digits : 4 ≤ s.countP Text.isDigit
  letter_or_minus : (∃ c ∈ s, c.isAlpha = true) ∨ Text.MinusAfterDigit s

/-- What looks like a date or a time is no boolean: it holds more than one digit. -/
theorem LooksTemporal.boolean?_eq_none {s : Text} (h : LooksTemporal s) :
    (boolean? s).isSome = false := by
  rw [Bool.eq_false_iff]
  intro hBoolean
  have hFew := countP_isDigit_of_boolean? hBoolean
  have hMany := h.four_digits
  omega

/-- What looks like a date or a time is no number: it holds a letter, or a minus behind a digit. -/
theorem LooksTemporal.read?_eq_none {s : Text} (h : LooksTemporal s)
    (separators : NumberSeparators) : (Numeral.read? separators s).isSome = false := by
  rw [Bool.eq_false_iff]
  intro hNumeral
  obtain ⟨n, hn⟩ := Option.isSome_iff_exists.mp hNumeral
  rcases h.letter_or_minus with ⟨c, hc, hAlpha⟩ | hMinus
  · simp [Numeral.isAlpha_eq_false_of_mem hn hc] at hAlpha
  · exact Numeral.not_minusAfterDigit hn hMinus

namespace ColumnType

variable {separators : NumberSeparators} {s : Text}

theorem exists_of_accepts_date (h : accepts separators .date s = true) :
    ∃ d, DateFormat.readFirst? DateFormat.all s = some d := by
  rw [accepts, readDate] at h
  cases hRead : DateFormat.readFirst? DateFormat.all s with
  | none => simp [hRead, unreadable, Except.isOk, Except.toBool] at h
  | some d => exact ⟨d, rfl⟩

/-- The type of datetimes accepts the local ISO texts and the dates, and nothing else. -/
theorem exists_of_accepts_datetime (h : accepts separators .datetime s = true) :
    (∃ fields, Iso.local? (Text.trim s) = some fields) ∨ accepts separators .date s = true := by
  rw [accepts, readDatetime, readLocalDatetime] at h
  cases hLocal : Iso.local? (Text.trim s) with
  | some fields => exact .inl ⟨fields, rfl⟩
  | none =>
      right
      rw [accepts]
      cases hDate : readDate s with
      | ok d => rfl
      | error e => simp [hLocal, hDate, unreadable, Except.isOk, Except.toBool] at h

/-- The type of datetimes with an offset accepts the ISO texts that end with one. -/
theorem exists_of_accepts_offsetDatetime (h : accepts separators .offsetDatetime s = true) :
    ∃ fields offset, Iso.withOffset? (Text.trim s) = some (fields, offset) := by
  rw [accepts, readOffsetDatetime] at h
  cases hOffset : Iso.withOffset? (Text.trim s) with
  | none => simp [hOffset, unreadable, Except.isOk, Except.toBool] at h
  | some both => exact ⟨both.1, both.2, rfl⟩

theorem accepts_float_of_int (h : accepts separators .int s = true) :
    accepts separators .float s = true := by
  simp only [accepts] at h ⊢
  split at h
  · simp [*]
  · cases h

/-- Every date is accepted as a datetime too. -/
theorem accepts_datetime_of_date (h : accepts separators .date s = true) :
    accepts separators .datetime s = true := by
  simp only [accepts] at h ⊢
  rw [readDatetime]
  cases readLocalDatetime s with
  | ok t => rfl
  | error e =>
      cases hDate : readDate s with
      | ok d => rfl
      | error e => simp [hDate, Except.isOk, Except.toBool] at h

theorem looksTemporal_of_date (h : accepts separators .date s = true) : LooksTemporal s := by
  obtain ⟨d, hd⟩ := exists_of_accepts_date h
  have hDate := DateFormat.looksLikeDate_of_readFirst? hd
  exact ⟨hDate.four_digits, hDate.letter_or_minus⟩

theorem looksTemporal_of_datetime (hTrim : Text.trim s = s)
    (h : accepts separators .datetime s = true) : LooksTemporal s := by
  rcases exists_of_accepts_datetime h with ⟨fields, hFields⟩ | hDate
  · rw [hTrim] at hFields
    have hLooks := Iso.looksLikeDatetime_of_fields? (Iso.fields?_of_local? hFields)
    exact ⟨hLooks.four_digits, .inr hLooks.minus⟩
  · exact looksTemporal_of_date hDate

theorem looksLikeDatetime_of_offsetDatetime (hTrim : Text.trim s = s)
    (h : accepts separators .offsetDatetime s = true) : Iso.LooksLikeDatetime s := by
  obtain ⟨fields, offset, hOffset⟩ := exists_of_accepts_offsetDatetime h
  rw [hTrim] at hOffset
  obtain ⟨rest, _, hFields⟩ := Iso.exists_rest_of_withOffset? hOffset
  exact Iso.looksLikeDatetime_of_fields? hFields

/-- No text is a datetime, or a date, and a datetime with an offset. -/
theorem not_accepts_datetime_of_offsetDatetime (hTrim : Text.trim s = s)
    (h : accepts separators .offsetDatetime s = true) :
    accepts separators .datetime s = false := by
  rw [Bool.eq_false_iff]
  intro hDatetime
  rcases exists_of_accepts_datetime hDatetime with ⟨fields, hLocal⟩ | hDate
  · obtain ⟨_, _, hOffset⟩ := exists_of_accepts_offsetDatetime h
    rw [Iso.withOffset?_eq_none_of_local? hLocal] at hOffset
    cases hOffset
  · obtain ⟨d, hd⟩ := exists_of_accepts_date hDate
    exact (DateFormat.looksLikeDate_of_readFirst? hd).no_colon
      (looksLikeDatetime_of_offsetDatetime hTrim h).colon

/-- The shared subtype of booleans and integers accepts what both of them accept. -/
theorem accepts_of_booleanOrInt (h : accepts separators .booleanOrInt s = true) :
    accepts separators .boolean s = true ∧ accepts separators .int s = true := by
  have hText : s = ['0'] ∨ s = ['1'] := by simpa [accepts] using h
  rcases hText with rfl | rfl <;> cases separators <;> decide

/-- A number that is a truth value is `0` or `1`. -/
theorem accepts_booleanOrInt_of_float (hBoolean : accepts separators .boolean s = true)
    (hFloat : accepts separators .float s = true) :
    accepts separators .booleanOrInt s = true := by
  obtain ⟨n, hn⟩ := Option.isSome_iff_exists.mp hFloat
  obtain ⟨c, hc, hDigit⟩ := Numeral.exists_digit hn
  rcases eq_zero_or_one_of_boolean? hBoolean hc hDigit with rfl | rfl <;> rfl

theorem looksTemporal_of_offsetDatetime (hTrim : Text.trim s = s)
    (h : accepts separators .offsetDatetime s = true) : LooksTemporal s :=
  have hLooks := looksLikeDatetime_of_offsetDatetime hTrim h
  ⟨hLooks.four_digits, .inr hLooks.minus⟩

/-- The types found from values that accept a value of at most 255 characters, if it is known which of
the first seven do. -/
def acceptedBy (zeroOrOne boolean int float date datetime offset : Bool) : ColumnType → Bool
  | .booleanOrInt => zeroOrOne
  | .rowKey => false
  | .int => int
  | .date => date
  | .boolean => boolean
  | .offsetDatetime => offset
  | .datetime => datetime
  | .float => float
  | .varchar255 => true
  | .text => true

/-- Where numbers, truth values, datetimes and datetimes with an offset exclude each other but for zero
and one, the types that accept a value are those at or above one of them. -/
theorem exists_least_acceptedBy : ∀ zeroOrOne boolean int float date datetime offset : Bool,
    (zeroOrOne = true → boolean = true ∧ int = true) → (int = true → float = true) →
    (date = true → datetime = true) → (boolean = true → float = true → zeroOrOne = true) →
    (datetime = true ∨ offset = true → boolean = false ∧ float = false) →
    (offset = true → datetime = false) →
    ∃ k : ColumnType, ∀ t,
      acceptedBy zeroOrOne boolean int float date datetime offset t = decide (k ≤ t) := by
  decide +kernel

/-- The types that accept a value of at most 255 characters are those at or above one type. -/
theorem exists_least_accepting (hShort : s.length ≤ 255) (hTrim : Text.trim s = s) :
    ∃ k : ColumnType, ∀ t : ColumnType,
      (t.isInferable && accepts separators t s) = decide (k ≤ t) := by
  have hTemporal : accepts separators .datetime s = true ∨
      accepts separators .offsetDatetime s = true →
      accepts separators .boolean s = false ∧ accepts separators .float s = false := by
    intro h
    have hLooks : LooksTemporal s :=
      h.elim (looksTemporal_of_datetime hTrim) (looksTemporal_of_offsetDatetime hTrim)
    exact ⟨hLooks.boolean?_eq_none, hLooks.read?_eq_none separators⟩
  -- which types accept the value is one of finitely many tables, all checked at once
  obtain ⟨k, hk⟩ := exists_least_acceptedBy (accepts separators .booleanOrInt s)
    (accepts separators .boolean s) (accepts separators .int s) (accepts separators .float s)
    (accepts separators .date s) (accepts separators .datetime s)
    (accepts separators .offsetDatetime s) accepts_of_booleanOrInt accepts_float_of_int
    accepts_datetime_of_date accepts_booleanOrInt_of_float hTemporal
    (not_accepts_datetime_of_offsetDatetime hTrim)
  refine ⟨k, fun t => ?_⟩
  rw [← hk t]
  cases t with
  | varchar255 => simp [acceptedBy, isInferable, accepts, hShort]
  | text => rfl
  | _ => simp [acceptedBy, isInferable]

/-- Inference finds the least type that accepts a value. -/
theorem exists_ofValue?_eq (separators : NumberSeparators) (hShort : (Text.trim s).length ≤ 255)
    (hBlank : Text.isBlank s = false) :
    ∃ k, ofValue? separators (some s) = some k ∧ ∀ t : ColumnType,
      (t.isInferable && accepts separators t (Text.trim s)) = decide (k ≤ t) := by
  obtain ⟨k, hk⟩ := exists_least_accepting hShort (Text.trim_trim s)
  refine ⟨k, ?_, hk⟩
  rw [ofValue?, if_neg (by simp [hBlank]), ← find?_ordered k]
  congr 1
  funext t
  exact hk t

/-- A value without white space around it, not blank and of at most 255 characters, is accepted by the
type that inference finds for it, by the generalizations of that type, and by no other type. -/
theorem acceptingTypes_eq (separators : NumberSeparators) (s : Text) (hTrim : Text.trim s = s)
    (hBlank : Text.isBlank s = false) (hShort : s.length ≤ 255) :
    ∃ k, ofValue? separators (some s) = some k ∧
      {t : ColumnType | t.isInferable = true ∧ accepts separators t s = true} =
        {t | t = k ∨ t ∈ k.ancestors} := by
  obtain ⟨k, hk, hAccepts⟩ := exists_ofValue?_eq separators (by rwa [hTrim]) hBlank
  rw [hTrim] at hAccepts
  refine ⟨k, hk, Set.ext fun t => ?_⟩
  rw [Set.mem_ofPred_eq, Set.mem_ofPred_eq, ← Bool.and_eq_true, hAccepts, decide_eq_true_iff,
    le_iff_mem_upward, upward, List.mem_cons]

/-- The text `0` is accepted as zero or one, as anything above that on either side, and as nothing
else. -/
theorem acceptingTypes_of_zero :
    Text.trim ['0'] = ['0'] ∧ Text.isBlank ['0'] = false ∧ ['0'].length ≤ 255 ∧
    {t : ColumnType | t.isInferable = true ∧ accepts .commaSpace t ['0'] = true} =
      {t | t = .booleanOrInt ∨ t ∈ [.int, .boolean, .float, .varchar255, .text]} := by
  have hTrim : Text.trim ['0'] = ['0'] := by decide
  have hBlank : Text.isBlank ['0'] = false := by decide
  have hType : ofValue? .commaSpace (some ['0']) = some .booleanOrInt := by decide +kernel
  obtain ⟨k, hk, hTypes⟩ := acceptingTypes_eq .commaSpace ['0'] hTrim hBlank (by decide)
  obtain rfl : k = .booleanOrInt := Option.some.inj (hk.symm.trans hType)
  exact ⟨hTrim, hBlank, by decide, hTypes⟩

end ColumnType

end CsvIntake
