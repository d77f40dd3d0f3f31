import CsvIntake.Proofs.SpelledNumbers
import CsvIntake.Proofs.WholeNumbers

/-! Numbers too long to be negated. A negated number is rounded to 28 significant digits, and may then have
a million digits before its point and no more. Whether it has more shows in the length of its whole part,
and in its first 29 digits if the whole part is just as long as is allowed. -/
namespace CsvIntake

namespace Text

/-- Zeros in front of a number do not count. -/
theorem decimalValue_dropZeros (digits rest : Text) :
    decimalValue ((digits.dropWhile fun c => digitValue c == 0) ++ rest) = decimalValue (digits ++ rest) := by
  induction digits with
  | nil => rfl
  | cons c digits ih =>
      cases hZero : digitValue c == 0 with
      | false => rw [List.dropWhile_cons_of_neg (by simp [hZero])]
      | true =>
          have hHead : decimalValue [c] = 0 := by simpa [decimalValue] using hZero
          rw [List.dropWhile_cons_of_pos (by exact hZero), ih, List.cons_append, ← List.singleton_append,
            decimalValue_append [c], hHead, Nat.zero_mul, Nat.zero_add]

/-- A number that does not start with a zero is as long as it looks. -/
theorem pow_le_decimalValue {c : Char} (hc : digitValue c ≠ 0) (digits : Text) :
    10 ^ digits.length ≤ decimalValue (c :: digits) := by
  have hHead : 1 ≤ decimalValue [c] := by
    rw [decimalValue, List.foldl_cons, List.foldl_nil]
    omega
  calc 10 ^ digits.length ≤ decimalValue [c] * 10 ^ digits.length := Nat.le_mul_of_pos_left _ hHead
    _ ≤ decimalValue [c] * 10 ^ digits.length + decimalValue digits := Nat.le_add_right ..
    _ = decimalValue (c :: digits) := (decimalValue_append [c] digits).symm

end Text

namespace Decimal

theorem hasSignificantDigits_pow {digits : Nat} (hDigits : 0 < digits) (k : Nat) :
    HasSignificantDigits digits (10 ^ k) :=
  ⟨1, k, Nat.one_lt_pow (by omega) (by decide), by simp⟩

/-- Rounding does not cross a number of few digits from above. -/
theorem le_roundNat {digits n g : Nat} (hDigits : 0 < digits) (hg : HasSignificantDigits digits g)
    (h : g ≤ n) : g ≤ roundNat digits n := by
  have hNearest := roundNat_nearest hDigits n hg
  rw [Int.abs_eq_natAbs, Int.abs_eq_natAbs] at hNearest
  omega

/-- Nor does it from below. -/
theorem roundNat_le {digits n g : Nat} (hDigits : 0 < digits) (hg : HasSignificantDigits digits g)
    (h : n ≤ g) : roundNat digits n ≤ g := by
  have hNearest := roundNat_nearest hDigits n hg
  rw [Int.abs_eq_natAbs, Int.abs_eq_natAbs] at hNearest
  omega

/-- A number with more digits than are kept is rounded up to the next power of ten as soon as it is half a
unit away from it: its last digit that is kept is then a nine, so a tie goes up. -/
theorem roundNat_lt_pow_iff {digits k n : Nat} (hDigits : 0 < digits) (hLow : 10 ^ (digits + k) ≤ n)
    (hHigh : n < 10 ^ (digits + k + 1)) :
    roundNat digits n < 10 ^ (digits + k + 1) ↔ n + 5 * 10 ^ k < 10 ^ (digits + k + 1) := by
  have hLength : (Nat.toDigits 10 n).length = digits + k + 1 := by
    have hFrom := (Nat.pow_lt_pow_iff_right (by decide)).mp (hLow.trans_lt (lt_pow_length n))
    have hTo := (Nat.length_toDigits_le_iff (by decide) (Nat.succ_pos _)).mpr hHigh
    omega
  have hUnit : lastUnit digits n = 2 * (5 * 10 ^ k) := by
    rw [lastUnit, hLength, show digits + k + 1 - digits = k + 1 by omega, Nat.pow_succ]
    omega
  obtain ⟨others, rfl⟩ := Nat.exists_eq_add_of_le' hDigits
  have hBound : 10 ^ (others + 1 + k + 1) = 2 * (5 * 10 ^ others) * (2 * (5 * 10 ^ k)) := by ring
  have hUnits : 0 < 2 * (5 * 10 ^ k) := by positivity
  rw [roundNat_eq, hUnit, hBound, Nat.mul_lt_mul_right hUnits]
  exact roundQuotient_lt_even_iff (by positivity)

/-- So only the digits up to the first dropped one decide: those that are kept must be nines. -/
theorem pow_le_roundNat_leading_iff {digits k leading dropped : Nat} (hDigits : 0 < digits)
    (hLow : 10 ^ digits ≤ leading) (hHigh : leading < 10 ^ (digits + 1)) (hDropped : dropped < 10 ^ k) :
    10 ^ (digits + 1 + k) ≤ roundNat digits (leading * 10 ^ k + dropped) ↔
      10 ^ (digits + 1) ≤ leading + 5 := by
  have hBelow : leading * 10 ^ k + dropped < (leading + 1) * 10 ^ k := by
    rw [Nat.add_mul, Nat.one_mul]
    omega
  have hRounded := roundNat_lt_pow_iff (n := leading * 10 ^ k + dropped) (k := k) hDigits
    (by
      rw [Nat.pow_add]
      exact (Nat.mul_le_mul_right _ hLow).trans (Nat.le_add_right ..))
    (by
      rw [Nat.add_right_comm, Nat.pow_add]
      exact hBelow.trans_le (Nat.mul_le_mul_right _ hHigh))
  rw [← Nat.not_lt, Nat.add_right_comm, hRounded, Nat.not_lt, Nat.add_right_comm, Nat.pow_add]
  constructor
  · intro h
    have hNext : 10 ^ (digits + 1) * 10 ^ k < (leading + 5 + 1) * 10 ^ k := by
      rw [Nat.add_right_comm, Nat.add_mul _ 5]
      omega
    exact Nat.lt_succ_iff.mp (Nat.lt_of_mul_lt_mul_right hNext)
  · intro h
    have hMul := Nat.mul_le_mul_right (10 ^ k) h
    rw [Nat.add_mul] at hMul
    omega

/-- Whether a rounded number has more digits before its point than are allowed: its whole part has, or it
has just as many and rounding adds one. -/
theorem pow_le_roundNat_iff {digits most : Nat} (hDigits : 0 < digits) (hMost : digits < most)
    {whole rest : Text} (hHead : ∀ c ∈ whole.head?, Text.digitValue c ≠ 0) :
    10 ^ (most + rest.length) ≤ roundNat digits (Text.decimalValue (whole ++ rest)) ↔
      most < whole.length ∨ most = whole.length ∧
        10 ^ (digits + 1) ≤ Text.decimalValue (whole.take (digits + 1)) + 5 := by
  rcases Nat.lt_trichotomy whole.length most with hShort | rfl | hLong
  · have hHigh := Text.decimalValue_lt (whole ++ rest)
    refine iff_of_false (Nat.not_le.mpr ?_) (by omega)
    calc roundNat digits (Text.decimalValue (whole ++ rest))
        ≤ 10 ^ (whole ++ rest).length := roundNat_le hDigits (hasSignificantDigits_pow hDigits _) hHigh.le
      _ < 10 ^ (most + rest.length) :=
          Nat.pow_lt_pow_right (by decide) (by rw [List.length_append]; omega)
  · obtain ⟨c, others, rfl⟩ := List.exists_cons_of_length_pos (by omega : 0 < whole.length)
    rw [List.length_cons] at hMost
    have hLength : (others.take digits).length = digits := List.length_take_of_le (by omega)
    have hLow := Text.pow_le_decimalValue (hHead c rfl) (others.take digits)
    have hHigh := Text.decimalValue_lt (c :: others.take digits)
    have hDropped := Text.decimalValue_lt (others.drop digits ++ rest)
    have hLeading := Text.decimalValue_append (c :: others.take digits) (others.drop digits ++ rest)
    have hPlaces : (c :: others).length + rest.length =
        digits + 1 + (others.drop digits ++ rest).length := by
      rw [List.length_cons, List.length_append, List.length_drop]
      omega
    rw [hLength] at hLow
    rw [List.length_cons, hLength] at hHigh
    rw [List.cons_append, ← List.append_assoc, List.take_append_drop, ← List.cons_append] at hLeading
    rw [hLeading, hPlaces, pow_le_roundNat_leading_iff hDigits hLow hHigh hDropped, List.take_succ_cons]
    simp
  · obtain ⟨c, others, rfl⟩ := List.exists_cons_of_length_pos (by omega : 0 < whole.length)
    refine iff_of_true ?_ (.inl hLong)
    rw [List.length_cons] at hLong
    calc 10 ^ (most + rest.length)
        ≤ 10 ^ (others ++ rest).length :=
          Nat.pow_le_pow_right (by decide) (by rw [List.length_append]; omega)
      _ ≤ roundNat digits (Text.decimalValue (c :: (others ++ rest))) :=
          le_roundNat hDigits (hasSignificantDigits_pow hDigits _)
            (Text.pow_le_decimalValue (hHead c rfl) (others ++ rest))

end Decimal

namespace Numeral

/-- The size of the number, to the last digit. -/
def size (n : Numeral) : Decimal := .ofDigits n.whole (n.fraction.getD [])

/-- A number is too long to be negated if it is negative and has, once rounded, more digits before its point
than are allowed. -/
theorem overflows_iff (n : Numeral) :
    n.overflows = true ↔ n.negative = true ∧
      10 ^ (negationRange + n.size.places) ≤ (n.size.round negationDigits).coefficient := by
  have hHead : ∀ c ∈ n.significantWhole.head?, Text.digitValue c ≠ 0 := by
    intro c hc
    have hNot := List.head?_dropWhile_not (fun c => Text.digitValue c == 0) n.whole
    rw [significantWhole] at hc
    rw [Option.mem_def.mp hc] at hNot
    simpa using hNot
  have hRounded := @Decimal.pow_le_roundNat_iff negationDigits negationRange (by decide) (by decide)
    n.significantWhole (n.fraction.getD []) hHead
  rw [significantWhole, Text.decimalValue_dropZeros, ← significantWhole] at hRounded
  rw [overflows, Bool.and_eq_true, Bool.or_eq_true, decide_eq_true_eq, decide_eq_true_eq, Nat.pow_eq, ← hRounded]
  rfl

end Numeral

/-- The text says a negative number that cannot be negated: rounded to 28 significant digits it has more than
a million digits before its point. -/
def IsOverlongNumber (separators : NumberSeparators) (s : Text) : Prop :=
  ∃ numeral, Numeral.read? separators (Text.trim s) = some numeral ∧ numeral.negative = true ∧
    10 ^ (1000000 + numeral.size.places) ≤ (numeral.size.round 28).coefficient

/-- A text is an overlong number exactly when the numeral that it is read as overflows. -/
theorem isOverlongNumber_iff {separators : NumberSeparators} {s : Text} {numeral : Numeral}
    (h : Numeral.read? separators (Text.trim s) = some numeral) :
    IsOverlongNumber separators s ↔ numeral.overflows = true := by
  rw [IsOverlongNumber, h]
  constructor
  · rintro ⟨other, hOther, hOverflows⟩
    obtain rfl := Option.some.inj hOther
    exact numeral.overflows_iff.mpr hOverflows
  · exact fun hOverflows => ⟨numeral, rfl, numeral.overflows_iff.mp hOverflows⟩

/-! ### The least such numbers -/

/-- A number of more ones than so many and a half, with a minus sign in front. -/
def minusOnes (count : Nat) : Text := '-' :: '1' :: (List.replicate count '1' ++ ['.', '5'])

theorem eq_of_mem_minusOnes {count : Nat} {c : Char} (h : c ∈ minusOnes count) :
    c = '-' ∨ c = '1' ∨ c = '.' ∨ c = '5' := by
  simp only [minusOnes, List.mem_cons, List.mem_append, List.mem_replicate, List.not_mem_nil,
    or_false] at h
  tauto

theorem isSpace_eq_false_of_mem_minusOnes {count : Nat} :
    ∀ c ∈ minusOnes count, Text.isSpace c = false := by
  intro c hc
  rcases eq_of_mem_minusOnes hc with rfl | rfl | rfl | rfl <;> decide

theorem trim_minusOnes (count : Nat) : Text.trim (minusOnes count) = minusOnes count :=
  Text.trim_eq_self isSpace_eq_false_of_mem_minusOnes

theorem lineFeed_not_mem_minusOnes (count : Nat) : '\n' ∉ minusOnes count := by
  intro hMem
  have hSpace : Text.isSpace '\n' = true := by decide
  simp [isSpace_eq_false_of_mem_minusOnes _ hMem] at hSpace

theorem isBlank_minusOnes (count : Nat) : Text.isBlank (minusOnes count) = false := by
  have hMinus : Text.isSpace '-' = false := by decide
  simp [Text.isBlank, minusOnes, hMinus]

/-- A minus, a run of ones and a half are read as such a numeral. -/
theorem read?_minusOnes (count : Nat) :
    Numeral.read? .dotComma (minusOnes count) =
      some ⟨false, true, '1' :: List.replicate count '1', some ['5']⟩ := by
  have hOne : Text.isDigit '1' = true := by decide
  have hFive : Text.isDigit '5' = true := by decide
  have hDigits : ∀ c ∈ List.replicate count '1', Text.isDigit c = true := fun c hc => by
    rw [List.eq_of_mem_replicate hc, hOne]
  let w : WrittenNumber .dotComma :=
    { firstEdge := none, firstGap := [], minus := true, secondEdge := none, firstDigit := '1',
      others := List.replicate count '1', fraction := some ['5'], lastGap := [], lastEdge := none,
      isEdge_firstEdge := by simp, isSpace_firstGap := by simp, isEdge_secondEdge := by simp,
      isDigit_firstDigit := hOne
      isBody_others := fun c hc => NumberSeparators.isBody_of_isDigit _ (hDigits c hc)
      isDigit_fraction := by simp [hFive]
      isSpace_lastGap := by simp, isEdge_lastEdge := by simp }
  refine Numeral.read?_eq_some_iff.mpr ⟨w, false, ?_, ?_⟩
  · simp [minusOnes, w, WrittenNumber.textIn, WrittenNumber.text, WrittenNumber.front,
      WrittenNumber.behind, signText, fractionText, NumberSeparators.decimal]
  · rw [WrittenNumber.numeral, List.filter_cons_of_pos hOne, List.filter_eq_self.mpr hDigits]

/-- A million and one ones, and more, overflow when they are negated. -/
theorem overflows_minusOnes {count : Nat} (h : 1000000 ≤ count) :
    (Numeral.mk false true ('1' :: List.replicate count '1') (some ['5'])).overflows = true := by
  have hOne : (Text.digitValue '1' == 0) = false := by decide
  have hLong : Numeral.negationRange < count + 1 := Nat.lt_succ_of_le h
  simp [Numeral.overflows, Numeral.significantWhole, Numeral.negative, hOne, hLong]

end CsvIntake
