import CsvIntake.Calendar.Iso
import CsvIntake.Proofs.Characters
import Mathlib.Data.List.TakeWhile

/-! What a written datetime looks like. Each reader of its parts takes what it reads from the front of
the text and gives back the rest. A datetime has the four digits of a year with a minus sign behind
them, and a colon in its time of day. An offset, if there is one, is what the datetime leaves over. -/
namespace CsvIntake.Iso

/-- A run of digits is taken from the front of the text. -/
theorem eq_append_of_digits? {least most : Nat} {s run rest : Text}
    (h : digits? least most s = some (run, rest)) :
    s = run ++ rest ∧ least ≤ run.length ∧ ∀ c ∈ run, Text.isDigit c = true := by
  rw [digits?] at h
  split at h
  · rename_i hLeast
    obtain ⟨rfl, rfl⟩ := Prod.mk.inj (Option.some.inj h)
    have hPrefix : (s.take most).takeWhile Text.isDigit <+: s :=
      (List.takeWhile_prefix _).trans (List.take_prefix ..)
    exact ⟨(List.prefix_iff_eq_append.mp hPrefix).symm, hLeast, fun c hc => List.mem_takeWhile_imp hc⟩
  · cases h

theorem eq_cons_of_oneOf? {isAllowed : Char → Bool} {s rest : Text}
    (h : oneOf? isAllowed s = some rest) : ∃ c, isAllowed c = true ∧ s = c :: rest := by
  cases s with
  | nil => cases h
  | cons c cs =>
      rw [oneOf?] at h
      split at h
      · rename_i hAllowed
        obtain rfl := Option.some.inj h
        exact ⟨c, hAllowed, rfl⟩
      · cases h

/-- An ISO date is written as year, month and day with minuses between them. -/
theorem eq_append_of_date? {s rest : Text} {date : Nat × Nat × Nat}
    (h : date? s = some (date, rest)) :
    ∃ year month day, s = year ++ '-' :: (month ++ '-' :: (day ++ rest)) ∧
      4 ≤ year.length ∧ ∀ c ∈ year, Text.isDigit c = true := by
  simp only [date?, Option.bind_eq_bind, Option.bind_eq_some_iff, Prod.exists, Option.pure_def,
    Option.some.injEq, Prod.mk.injEq] at h
  obtain ⟨year, s₁, hYear, s₂, hFirst, month, s₃, hMonth, s₄, hSecond, day, s₅, hDay, _, rfl⟩ := h
  obtain ⟨rfl, hLength, hDigits⟩ := eq_append_of_digits? hYear
  obtain ⟨c, hc, rfl⟩ := eq_cons_of_oneOf? hFirst
  obtain ⟨rfl, _, _⟩ := eq_append_of_digits? hMonth
  obtain ⟨d, hd, rfl⟩ := eq_cons_of_oneOf? hSecond
  obtain ⟨rfl, _, _⟩ := eq_append_of_digits? hDay
  obtain rfl : c = '-' := by simpa using hc
  obtain rfl : d = '-' := by simpa using hd
  exact ⟨year, month, day, rfl, hLength, hDigits⟩

/-- What tells a datetime from numbers, truth values and dates. -/
structure LooksLikeDatetime (s : Text) : Prop where
  four_digits : 4 ≤ s.countP Text.isDigit
  colon : ':' ∈ s
  minus : Text.MinusAfterDigit s

/-- A text that starts with the fields of an ISO datetime looks like one. -/
theorem looksLikeDatetime_of_fields? {s rest : Text} {fields : Fields}
    (h : fields? s = some (fields, rest)) : LooksLikeDatetime s := by
  simp only [fields?, Option.bind_eq_bind, Option.bind_eq_some_iff, Prod.exists, Option.pure_def,
    Option.some.injEq, Prod.mk.injEq] at h
  obtain ⟨_, _, _, s₁, hDate, s₂, hBetween, hour, s₃, hHour, s₄, hColon, _⟩ := h
  obtain ⟨year, month, day, rfl, hLength, hDigits⟩ := eq_append_of_date? hDate
  obtain ⟨_, _, rfl⟩ := eq_cons_of_oneOf? hBetween
  obtain ⟨rfl, _, _⟩ := eq_append_of_digits? hHour
  obtain ⟨c, hc, rfl⟩ := eq_cons_of_oneOf? hColon
  obtain rfl : c = ':' := by simpa using hc
  obtain ⟨a, tail, rfl⟩ := List.exists_cons_of_length_pos (show 0 < year.length by omega)
  refine ⟨?_, by simp, ?_⟩
  · rw [List.countP_append, List.countP_eq_length.mpr hDigits]
    omega
  · rw [Text.MinusAfterDigit, List.cons_append,
      List.dropWhile_cons_of_neg (by simp [hDigits a (by simp)])]
    simp

theorem fields?_of_local? {s : Text} {fields : Fields} (h : local? s = some fields) :
    fields? s = some (fields, []) := by
  rw [local?] at h
  split at h
  · rename_i read hRead
    rwa [← Option.some.inj h]
  · cases h

/-- A datetime with an offset leaves something over that a datetime without one does not. -/
theorem exists_rest_of_withOffset? {s : Text} {fields : Fields} {offset : Offset}
    (h : withOffset? s = some (fields, offset)) :
    ∃ rest, rest ≠ [] ∧ fields? s = some (fields, rest) := by
  simp only [withOffset?, Option.bind_eq_bind, Option.bind_eq_some_iff, Prod.exists,
    Option.pure_def, Option.some.injEq, Prod.mk.injEq] at h
  obtain ⟨read, rest, hRead, given, hOffset, rfl, _⟩ := h
  refine ⟨rest, ?_, hRead⟩
  rintro rfl
  cases hOffset

/-- No text is both a datetime without an offset and one with an offset. -/
theorem withOffset?_eq_none_of_local? {s : Text} {fields : Fields} (h : local? s = some fields) :
    withOffset? s = none := by
  cases hOffset : withOffset? s with
  | none => rfl
  | some both =>
      obtain ⟨rest, hRest, hFields⟩ := exists_rest_of_withOffset? hOffset
      rw [fields?_of_local? h] at hFields
      exact absurd (Prod.mk.inj (Option.some.inj hFields)).2.symm hRest

end CsvIntake.Iso
