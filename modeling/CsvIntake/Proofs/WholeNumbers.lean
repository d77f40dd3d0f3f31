import CsvIntake.Proofs.NearestDoubles
import CsvIntake.Proofs.PlainNumbers

/-! Whole numbers, to the last digit. A whole number that is not negated is the one that its digits spell.
Negating rounds to 28 significant digits, so a negated number is the nearest one that has so few, and it is
exact if they suffice to write it. They do for every number below `10 ^ 28`. -/
namespace CsvIntake

namespace Decimal

/-- So many significant digits, and zeros behind them, suffice to write the number. -/
def HasSignificantDigits (digits n : Nat) : Prop := ∃ m k, m < 10 ^ digits ∧ n = m * 10 ^ k

theorem hasSignificantDigits_of_lt {digits n : Nat} (h : n < 10 ^ digits) :
    HasSignificantDigits digits n :=
  ⟨n, 0, h, by simp⟩

/-- The value of the last digit that is kept when a number is rounded. -/
def lastUnit (digits n : Nat) : Nat := 10 ^ ((Nat.toDigits 10 n).length - digits)

/-- Rounding gives a multiple of the unit of the last digit that is kept. -/
theorem roundNat_eq (digits n : Nat) :
    roundNat digits n = roundQuotient n (lastUnit digits n) * lastUnit digits n := rfl

theorem lastUnit_pos (digits n : Nat) : 0 < lastUnit digits n := Nat.pow_pos (by decide)

theorem lt_pow_length (n : Nat) : n < 10 ^ (Nat.toDigits 10 n).length :=
  (Nat.length_toDigits_le_iff (by decide) Nat.length_toDigits_pos).mp (Nat.le_refl _)

/-- A number other than zero is no smaller than the power of ten that its first digit counts. -/
theorem pow_length_le {n : Nat} (h : n ≠ 0) : 10 ^ ((Nat.toDigits 10 n).length - 1) ≤ n := by
  rcases Nat.eq_zero_or_pos ((Nat.toDigits 10 n).length - 1) with hOne | hMore
  · rw [hOne]
    exact Nat.one_le_iff_ne_zero.mpr h
  · rw [← Nat.not_lt, ← Nat.length_toDigits_le_iff (by decide) hMore]
    omega

/-- A number with few digits that is no shorter than another one is a multiple of the unit to which the
other one is rounded. -/
theorem lastUnit_dvd {digits n g : Nat} (hg : HasSignificantDigits digits g)
    (hLength : 10 ^ ((Nat.toDigits 10 n).length - 1) ≤ g) : lastUnit digits n ∣ g := by
  obtain ⟨m, k, hm, rfl⟩ := hg
  have hZeros : (Nat.toDigits 10 n).length - digits ≤ k := by
    have hBelow : m * 10 ^ k < 10 ^ (digits + k) := by
      rw [Nat.pow_add]
      exact Nat.mul_lt_mul_of_pos_right hm (Nat.pow_pos (by decide))
    have hExponents := (Nat.pow_lt_pow_iff_right (by decide : 1 < 10)).mp (hLength.trans_lt hBelow)
    omega
  exact (Nat.pow_dvd_pow 10 hZeros).trans (Nat.dvd_mul_left ..)

/-- A rounded number has the digits that it was rounded to. -/
theorem hasSignificantDigits_roundNat {digits : Nat} (hDigits : 0 < digits) (n : Nat) :
    HasSignificantDigits digits (roundNat digits n) := by
  have hQuotient : n / lastUnit digits n < 10 ^ digits := by
    rw [Nat.div_lt_iff_lt_mul (lastUnit_pos digits n), lastUnit, ← Nat.pow_add]
    exact (lt_pow_length n).trans_le (Nat.pow_le_pow_right (by decide) (by omega))
  have hRounded := roundQuotient_le n (lastUnit digits n)
  rw [roundNat_eq]
  rcases Nat.lt_or_ge (roundQuotient n (lastUnit digits n)) (10 ^ digits) with hBelow | hPower
  · exact ⟨_, _, hBelow, rfl⟩
  · -- rounded up to the next power of ten, which one digit suffices to write
    have hExact : roundQuotient n (lastUnit digits n) = 10 ^ digits := by omega
    refine ⟨1, digits + ((Nat.toDigits 10 n).length - digits), Nat.one_lt_pow (by omega) (by decide), ?_⟩
    rw [hExact, lastUnit, ← Nat.pow_add, Nat.one_mul]

/-- Rounding to significant digits gives a nearest number that has so few. -/
theorem roundNat_nearest {digits g : Nat} (hDigits : 0 < digits) (n : Nat)
    (hg : HasSignificantDigits digits g) :
    |((roundNat digits n : Nat) : ℤ) - n| ≤ |(g : ℤ) - n| := by
  have hNearest : ∀ other, lastUnit digits n ∣ other →
      |((roundNat digits n : Nat) : ℤ) - n| ≤ |(other : ℤ) - n| := by
    rintro other ⟨j, rfl⟩
    rw [roundNat_eq, Nat.mul_comm _ j]
    exact roundQuotient_nearest n j (lastUnit_pos digits n)
  rcases Nat.lt_or_ge g (10 ^ ((Nat.toDigits 10 n).length - 1)) with hShort | hLong
  · rcases Nat.eq_zero_or_pos n with rfl | hPositive
    · obtain rfl : g = 0 := Nat.lt_one_iff.mp hShort
      exact hNearest 0 (Nat.dvd_zero _)
    · -- the least number as long as `n` lies between the two, and it is a multiple of the unit
      have hLow := pow_length_le (show n ≠ 0 by omega)
      calc |((roundNat digits n : Nat) : ℤ) - n|
          ≤ |((10 ^ ((Nat.toDigits 10 n).length - 1) : Nat) : ℤ) - n| :=
            hNearest _ (Nat.pow_dvd_pow 10 (by omega))
        _ ≤ |(g : ℤ) - n| := by
            rw [Int.abs_eq_natAbs, Int.abs_eq_natAbs]
            omega
  · exact hNearest g (lastUnit_dvd hg hLong)

/-- Rounding changes exactly the numbers of more significant digits. -/
theorem roundNat_eq_self_iff {digits n : Nat} (hDigits : 0 < digits) :
    roundNat digits n = n ↔ HasSignificantDigits digits n := by
  constructor
  · intro h
    have hRounded := hasSignificantDigits_roundNat hDigits n
    rwa [h] at hRounded
  · intro h
    have hSelf := roundNat_nearest hDigits n h
    rw [Int.sub_self, abs_zero] at hSelf
    have hZero := abs_eq_zero.mp (le_antisymm hSelf (abs_nonneg _))
    omega

end Decimal

/-- The number is written as a negative one: in parentheses, with a minus sign, or both. -/
def isNegated (s : Text) : Bool := isEnclosed (Text.trim s) || s.contains '-'

/-- The number that all digits of a text spell in order. -/
def spelledSize (s : Text) : Nat := Text.decimalValue (s.filter Text.isDigit)

/-- The whole number that a text spells. -/
def spelledInteger (s : Text) : Int := if isNegated s then -(spelledSize s : Int) else spelledSize s

/-- What is read as a whole number is read as a number without a fraction. -/
theorem readNumber_of_readInteger {separators : NumberSeparators} {s : Text} {n : Int}
    (h : readInteger separators s = .ok n) : readNumber separators s = .ok (.integer n) := by
  rw [readInteger] at h
  split at h
  · split at h
    · rename_i m hNumber
      rw [hNumber, Except.ok.inj h]
    · cases h
    · cases h
  · cases h

/-- Decoration around a text does not touch the characters that are no decoration. -/
theorem filter_decorated {p : Char → Bool} (hp : ∀ c, IsDecoration c → p c = false)
    {before after : Text} (hBefore : ∀ c ∈ before, IsDecoration c)
    (hAfter : ∀ c ∈ after, IsDecoration c) (t : Text) :
    (before ++ t ++ after).filter p = t.filter p := by
  have hNone : ∀ edge : Text, (∀ c ∈ edge, IsDecoration c) → edge.filter p = [] := by
    intro edge hEdge
    rw [List.filter_eq_nil_iff]
    intro c hc
    simp [hp c (hEdge c hc)]
  rw [List.filter_append, List.filter_append, hNone before hBefore, hNone after hAfter,
    List.nil_append, List.append_nil]

namespace WrittenNumber

variable {separators : NumberSeparators}

/-- The digits of a number without a fraction stand in its body. -/
theorem filter_isDigit_text (w : WrittenNumber separators) (hWhole : w.fraction = none) :
    w.text.filter Text.isDigit = (w.firstDigit :: w.others).filter Text.isDigit := by
  have hFront : w.front.filter Text.isDigit = [] :=
    List.filter_eq_nil_iff.mpr fun c hc => by simp [isDigit_eq_false_of_mem_front hc]
  have hBehind : w.behind.filter Text.isDigit = [] :=
    List.filter_eq_nil_iff.mpr fun c hc => by
      simp [isDigit_eq_false_of_isEdge (isEdge_of_mem_behind hc)]
  rw [text, hWhole, fractionText, List.filter_append, List.filter_append, List.filter_append, hFront,
    hBehind, List.filter_nil, List.nil_append, List.append_nil, List.append_nil]

end WrittenNumber

/-- What is read as a whole number is made of the digits and the sign that the text spells. -/
theorem eq_of_readInteger {separators : NumberSeparators} {s : Text} {n : Int}
    (h : readInteger separators s = .ok n) :
    n = if isNegated s then -(Decimal.roundNat Numeral.negationDigits (spelledSize s) : Int)
      else spelledSize s := by
  obtain ⟨w, before, after, hText, hBefore, hAfter, _, hNumber⟩ :=
    exists_written_of_readNumber (readNumber_of_readInteger h)
  have hWhole : w.fraction = none := Number.exists_integer_iff.mp ⟨n, hNumber.symm⟩
  have hDigits : spelledSize s =
      Text.decimalValue ((w.firstDigit :: w.others).filter Text.isDigit) := by
    rw [spelledSize, hText, filter_decorated (fun c hc => hc.not_digit) hBefore hAfter,
      w.filter_isDigit_text hWhole]
  have hMinus : s.contains '-' = w.minus := by
    have hKept := filter_decorated (p := (· == '-')) (fun c hc => by simp [hc.ne_minus])
      hBefore hAfter w.text
    rw [← hText] at hKept
    rw [Bool.eq_iff_iff, List.contains_iff_mem, ← w.minus_mem_text_iff]
    have hMem : ∀ t : Text, '-' ∈ t ↔ '-' ∈ t.filter (· == '-') := by simp
    rw [hMem s, hKept, ← hMem]
  have hNegative : (w.numeral (isEnclosed (Text.trim s))).negative = isNegated s := by
    rw [isNegated, hMinus]
    rfl
  have hValue : Number.ofNumeral (w.numeral (isEnclosed (Text.trim s))) = .integer
      (if isNegated s then -(Decimal.roundNat Numeral.negationDigits (spelledSize s) : Int)
        else spelledSize s) := by
    have hNone : (w.numeral (isEnclosed (Text.trim s))).fraction = none := hWhole
    rw [Number.ofNumeral, hNone, hNegative, hDigits]
    dsimp only
    cases isNegated s <;> simp [Number.signed, Decimal.round, Decimal.ofDigits, WrittenNumber.numeral]
  exact Number.integer.inj (hNumber.trans hValue)

/-- Whatever is read as a whole number has the sign that the text spells. Without a negation it is the
number that the digits spell; with one it is a nearest number of 28 significant digits, and so it is the
spelled number exactly if these suffice to write it. -/
theorem readInteger_exact_iff (separators : NumberSeparators) (s : Text) (n : Int)
    (h : readInteger separators s = .ok n) :
    (isNegated s = false → n = spelledInteger s) ∧
    (isNegated s = true → n = -(Decimal.roundNat 28 (spelledSize s) : Int) ∧
      ∀ g, Decimal.HasSignificantDigits 28 g → |n - spelledInteger s| ≤ |-(g : Int) - spelledInteger s|) ∧
    (n = spelledInteger s ↔
      (isNegated s = true → Decimal.HasSignificantDigits 28 (spelledSize s))) := by
  have hRead := eq_of_readInteger h
  cases hNegated : isNegated s with
  | false =>
      have hExact : n = spelledInteger s := by simpa [spelledInteger, hNegated] using hRead
      exact ⟨fun _ => hExact, by simp, by simp [hExact]⟩
  | true =>
      have hSpelled : spelledInteger s = -(spelledSize s : Int) := by simp [spelledInteger, hNegated]
      have hRounded : n = -(Decimal.roundNat 28 (spelledSize s) : Int) := by
        simpa [hNegated, Numeral.negationDigits] using hRead
      have hFlip : ∀ k : Int, |-k - spelledInteger s| = |k - spelledSize s| := by
        intro k
        rw [hSpelled, ← abs_neg]
        congr 1
        omega
      refine ⟨by simp, fun _ => ⟨hRounded, fun g hg => ?_⟩, ?_⟩
      · rw [hRounded, hFlip, hFlip]
        exact Decimal.roundNat_nearest (by decide) _ hg
      · rw [← Decimal.roundNat_eq_self_iff (by decide), hRounded, hSpelled]
        constructor
        · intro hEqual _
          omega
        · intro hEqual
          rw [hEqual rfl]

/-- In parentheses and with a minus sign at once, `1.234.567` euros are negated once. -/
theorem readInteger_exact_of_decorated :
    readInteger .commaDot " (€ -1.234.567 ) ".toList = .ok (-1234567) ∧
    spelledInteger " (€ -1.234.567 ) ".toList = -1234567 := by
  have hRead : readInteger .commaDot " (€ -1.234.567 ) ".toList = .ok (-1234567) := by decide +kernel
  have hSize : spelledSize " (€ -1.234.567 ) ".toList = 1234567 := by decide +kernel
  obtain ⟨_, _, hExact⟩ := readInteger_exact_iff .commaDot _ _ hRead
  refine ⟨hRead, (hExact.mpr fun _ => ?_).symm⟩
  rw [hSize]
  exact Decimal.hasSignificantDigits_of_lt (by decide)

/-- A negated number of 29 digits is read as one that ends in a zero. -/
theorem readInteger_of_29_digits :
    readInteger .dotComma "-12345678901234567890123456789".toList =
      .ok (-12345678901234567890123456790) ∧
    spelledInteger "-12345678901234567890123456789".toList = -12345678901234567890123456789 := by
  constructor <;> decide +kernel

end CsvIntake
