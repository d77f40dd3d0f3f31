import CsvIntake.Proofs.LoadingRows
import CsvIntake.Proofs.RoundedIntegers

/-! What acceptance of a value promises. The type detected for a column accepts every value of it, but
for those beyond the bound of a bounded text. A value that a type accepts is read as one, but for three
kinds of numbers: those in parentheses that go on over a line feed, those too long to be negated, and whole
numbers beyond the binary ones. Nothing else is read as a type that does not accept it, texts and the type
of `0` and `1` apart. -/
namespace CsvIntake

variable {separators : NumberSeparators} {s : Text}

/-- The number stands in parentheses and goes on over a line feed between them. -/
def IsBrokenNumber (separators : NumberSeparators) (s : Text) : Prop :=
  ∃ numeral, Numeral.read? separators s = some numeral ∧ numeral.enclosed = true ∧ '\n' ∈ s

/-- The whole number is so large that the nearest binary number is infinite. -/
def IsHugeNumber (separators : NumberSeparators) (s : Text) : Prop :=
  ∃ numeral n, Numeral.read? separators s = some numeral ∧
    Number.ofNumeral numeral = .integer n ∧ 2 ^ 1024 ≤ n.natAbs + 2 ^ 970

/-- The number is accepted as one of the type but cannot be read as one. -/
def IsUnreadableAs (separators : NumberSeparators) (t : ColumnType) (s : Text) : Prop :=
  match t with
  | .int => IsBrokenNumber separators s ∨ IsOverlongNumber separators s
  | .float =>
    (IsBrokenNumber separators s ∨ IsOverlongNumber separators s) ∨ IsHugeNumber separators s
  | _ => False

theorem Refused.not_ok {α : Type} {result : Except Error α} (h : Refused result) :
    ¬ ∃ v, result = .ok v := by
  obtain ⟨bad, rfl⟩ := h
  rintro ⟨v, ⟨⟩⟩

/-- A number is read as what its numeral denotes, unless it goes on over a line feed or is too long to be
negated. -/
theorem readNumber_of_trimmed (hTrim : Text.trim s = s) {numeral : Numeral}
    (h : Numeral.read? separators s = some numeral) :
    readNumber separators s = .ok (.ofNumeral numeral) ∧
        ¬ (IsBrokenNumber separators s ∨ IsOverlongNumber separators s) ∨
      (∃ e, readNumber separators s = .error e) ∧
        (IsBrokenNumber separators s ∨ IsOverlongNumber separators s) := by
  have hBroken : IsBrokenNumber separators s ↔ numeral.enclosed = true ∧ '\n' ∈ s := by
    rw [IsBrokenNumber, h]
    simp
  have hCases := readNumber_cases (hTrim.symm ▸ h)
  rw [hTrim, ← hBroken] at hCases
  rcases hCases with ⟨hFeed, hNumber⟩ | ⟨hWhole, ⟨hLong, hNumber⟩ | ⟨hShort, hNumber⟩⟩
  · exact .inr ⟨⟨_, hNumber⟩, .inl hFeed⟩
  · exact .inr ⟨⟨_, hNumber⟩, .inr hLong⟩
  · exact .inl ⟨hNumber, not_or.mpr ⟨hWhole, hShort⟩⟩

/-- An accepted whole number is read unless a line feed breaks it or its negation overflows. -/
theorem exists_readInteger_iff (hTrim : Text.trim s = s)
    (h : ColumnType.accepts separators .int s = true) :
    (∃ n, readInteger separators s = .ok n) ↔
      ¬ (IsBrokenNumber separators s ∨ IsOverlongNumber separators s) := by
  rw [ColumnType.accepts] at h
  split at h
  · rename_i numeral hRead
    obtain ⟨enclosed, minus, whole, fraction⟩ := numeral
    obtain rfl : fraction = none := by simpa using h
    simp only [readInteger, hTrim, hRead]
    rcases readNumber_of_trimmed hTrim hRead with ⟨hNumber, hReadable⟩ | ⟨⟨e, he⟩, hUnreadable⟩
    · rw [hNumber]
      exact iff_of_true ⟨_, rfl⟩ hReadable
    · rw [he]
      exact iff_of_false (by rintro ⟨n, ⟨⟩⟩) (not_not.mpr hUnreadable)
  · cases h

/-- Only whole numbers lie beyond the doubles: those that round to `2 ^ 1024` or more. -/
theorem toFloat?_eq_none_iff {number : Number} :
    number.toFloat? = none ↔ ∃ n, number = .integer n ∧ 2 ^ 1024 ≤ n.natAbs + 2 ^ 970 := by
  cases number with
  | float x => exact iff_of_false (by simp [Number.toFloat?]) (by rintro ⟨n, ⟨⟩, _⟩)
  | integer n =>
      have hFinite := Binary64.isFinite_ofInt_iff n
      constructor
      · intro hNone
        refine ⟨n, rfl, ?_⟩
        rw [← Nat.not_lt, ← hFinite]
        intro h
        simp [Number.toFloat?, h] at hNone
      · rintro ⟨m, hm, hLarge⟩
        obtain rfl := Number.integer.inj hm
        rw [← Nat.not_lt, ← hFinite] at hLarge
        simp [Number.toFloat?, hLarge]

/-- The huge numbers are those whose conversion to a double fails. -/
theorem isHugeNumber_iff {numeral : Numeral} (h : Numeral.read? separators s = some numeral) :
    IsHugeNumber separators s ↔ (Number.ofNumeral numeral).toFloat? = none := by
  rw [toFloat?_eq_none_iff]
  constructor
  · rintro ⟨other, n, hOther, hLarge⟩
    rw [h] at hOther
    obtain rfl := Option.some.inj hOther
    exact ⟨n, hLarge⟩
  · rintro ⟨n, hLarge⟩
    exact ⟨numeral, n, h, hLarge⟩

/-- An accepted decimal number is read unless it fails as a whole number does, or lies beyond the
doubles. -/
theorem exists_readFloat_iff (hTrim : Text.trim s = s) {numeral : Numeral}
    (h : Numeral.read? separators s = some numeral) :
    (∃ x, readFloat separators s = .ok x) ↔
      ¬ ((IsBrokenNumber separators s ∨ IsOverlongNumber separators s) ∨ IsHugeNumber separators s) := by
  rw [readFloat, isHugeNumber_iff h, not_or]
  rcases readNumber_of_trimmed hTrim h with ⟨hNumber, hReadable⟩ | ⟨⟨e, he⟩, hUnreadable⟩
  · rw [hNumber]
    dsimp only
    cases (Number.ofNumeral numeral).toFloat? with
    | none => exact iff_of_false (by rintro ⟨x, ⟨⟩⟩) (by simp)
    | some x => exact iff_of_true ⟨x, rfl⟩ ⟨hReadable, by simp⟩
  · rw [he]
    exact iff_of_false (by rintro ⟨x, ⟨⟩⟩) (fun hNone => hNone.1 hUnreadable)

theorem exists_map_ok_iff {α β : Type} {result : Except Error α} {f : α → β} :
    (∃ v, result.map f = .ok v) ↔ ∃ a, result = .ok a := by
  cases result <;> simp [Except.map]

namespace ColumnType

/-- An accepted value is read exactly if it is none of the three kinds of numbers. -/
theorem exists_read_iff_of_accepts {t : ColumnType} (hTrim : Text.trim s = s)
    (h : accepts separators t s = true) :
    (∃ v, t.read separators s = .ok v) ↔ ¬ IsUnreadableAs separators t s := by
  by_cases hInt : t = .int
  · subst hInt
    rw [read, exists_map_ok_iff]
    exact exists_readInteger_iff hTrim h
  by_cases hFloat : t = .float
  · subst hFloat
    obtain ⟨numeral, hRead⟩ := Option.isSome_iff_exists.mp h
    rw [read, exists_map_ok_iff]
    exact exists_readFloat_iff hTrim hRead
  have hRead := exists_read_of_accepts hInt hFloat (by rwa [hTrim])
  exact iff_of_true hRead (by cases t <;> simp_all [IsUnreadableAs])

/-- The types that are checked when a value is read: neither texts nor the type of `0` and `1`, which is
read as any truth value. -/
def checked : List ColumnType := [.boolean, .int, .float, .date, .datetime, .offsetDatetime]

/-- What a checked type reads from a trimmed text, it accepts. -/
theorem accepts_of_read {t : ColumnType} (hChecked : t ∈ checked) (hTrim : Text.trim s = s)
    (h : ∃ v, t.read separators s = .ok v) : accepts separators t s = true := by
  have hKinds : ∀ t ∈ checked, t ≠ .booleanOrInt ∧ t ≠ .rowKey ∧ t ≠ .varchar255 := by decide
  obtain ⟨hColumn, hKey, hBounded⟩ := hKinds t hChecked
  cases hHolds : holds separators t s with
  | true => simpa [holds, hBounded, hTrim] using hHolds
  | false => exact absurd h (refused_of_not_holds hColumn hKey hHolds).not_ok

/-- Acceptance and reading agree on a value without white space around it. A value that is accepted is
read, unless it is a number in parentheses with a line feed in it, a number too long to be negated, or a
whole number beyond the binary ones that is to be read as one of these; then it is not read. A value that
is read as a checked type is accepted. -/
theorem accepts_and_read_agree (separators : NumberSeparators) (t : ColumnType) (s : Text)
    (hTrim : Text.trim s = s) :
    (accepts separators t s = true →
      ((∃ v, t.read separators s = .ok v) ↔ ¬ IsUnreadableAs separators t s)) ∧
    (t ∈ checked → (∃ v, t.read separators s = .ok v) → accepts separators t s = true) :=
  ⟨exists_read_iff_of_accepts hTrim, fun hChecked => accepts_of_read hChecked hTrim⟩

/-- The text `(1)` is accepted and read, and the text `?` is neither. -/
theorem accepts_and_read_one_in_parentheses :
    Text.trim ['(', '1', ')'] = ['(', '1', ')'] ∧
    (∃ v, ColumnType.read .dotComma .int ['(', '1', ')'] = .ok v) ∧
    ¬ ∃ v, ColumnType.read .dotComma .int ['?'] = .ok v := by
  have hTrim : Text.trim ['(', '1', ')'] = ['(', '1', ')'] := by decide
  have hNumeral : Numeral.read? .dotComma ['(', '1', ')'] = some ⟨true, false, ['1'], none⟩ := by
    decide
  refine ⟨hTrim, ?_, ?_⟩
  · refine ((accepts_and_read_agree .dotComma .int _ hTrim).1 (by decide)).mpr ?_
    rintro (⟨_, _, _, hFeed⟩ | hLong)
    · revert hFeed
      decide
    · rw [isOverlongNumber_iff (hTrim.symm ▸ hNumeral)] at hLong
      revert hLong
      decide +kernel
  · intro hRead
    have hAccepts := (accepts_and_read_agree .dotComma .int ['?'] (by decide)).2 (by decide) hRead
    revert hAccepts
    decide

/-- The text `(1)` with a line feed behind the digit is accepted as a whole number and not read as
one. -/
theorem accepts_and_refuses_one_before_line_feed :
    Text.trim ['(', '1', '\n', ')'] = ['(', '1', '\n', ')'] ∧
    accepts .dotComma .int ['(', '1', '\n', ')'] = true ∧
    ¬ ∃ v, ColumnType.read .dotComma .int ['(', '1', '\n', ')'] = .ok v := by
  refine ⟨by decide, by decide, ?_⟩
  rintro ⟨v, hv⟩
  have hOk : (ColumnType.read .dotComma .int ['(', '1', '\n', ')']).isOk = false := by decide +kernel
  simp [hv, Except.isOk, Except.toBool] at hOk

/-- The types found in rows accept the values that they were found in, unless the type is the bounded
text and the value goes beyond its bound: the bound is checked only for the values that come after the
column has become one of texts. -/
theorem accepts_of_ofRows_iff (separators : NumberSeparators) (known : List (Option ColumnType))
    (rows : List Row) (i : Nat) (t : ColumnType) (row : Row) (s : Text)
    (ht : (ofRows separators known rows)[i]? = some t) (hRow : row ∈ rows)
    (hs : row[i]? = some (some s)) (hBlank : Text.isBlank s = false) :
    accepts separators t (Text.trim s) = true ↔ ¬ (t = .varchar255 ∧ 255 < (Text.trim s).length) := by
  have hHolds := holds_of_ofRows ht hRow hs hBlank
  by_cases hBounded : t = .varchar255
  · subst hBounded
    simp [accepts]
  · simpa [holds, hBounded] using hHolds

/-- The column of `1` and `2.5` is one of binary numbers, and accepts the `1`. -/
theorem accepts_of_one_and_two_and_a_half :
    ofRows .dotComma [none] [[some ['1']], [some [' ', '2', '.', '5']]] = [.float] ∧
    accepts .dotComma .float ['1'] = true := by
  have hTypes : ofRows .dotComma [none] [[some ['1']], [some [' ', '2', '.', '5']]] = [.float] := by
    decide +kernel
  refine ⟨hTypes, ?_⟩
  have hIff := accepts_of_ofRows_iff .dotComma [none] [[some ['1']], [some [' ', '2', '.', '5']]] 0 .float
    [some ['1']] ['1'] (by rw [hTypes]; rfl) (by simp) rfl (by decide)
  exact hIff.mpr (by simp)

/-- A column of 256 ones, seen as a number, and a letter is one of bounded texts, which does not accept
the ones. -/
theorem not_accepts_256_ones :
    ofRows .dotComma [none] [[some (List.replicate 256 '1')], [some ['x']]] = [.varchar255] ∧
    Text.isBlank (List.replicate 256 '1') = false ∧
    accepts .dotComma .varchar255 (Text.trim (List.replicate 256 '1')) = false := by
  refine ⟨?_, ?_, ?_⟩ <;> decide +kernel

end ColumnType

end CsvIntake
