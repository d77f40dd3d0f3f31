import CsvIntake.Proofs.RoundedIntegers
import Mathlib.Algebra.Order.Field.Rat
import Mathlib.Algebra.Order.Group.Abs
import Mathlib.Tactic.Linarith
import Mathlib.Tactic.Ring

/-! The values of binary numbers, and whole numbers among them. The binary number made for a whole number is a
nearest one, and it is equal to it exactly if 53 binary digits and zeros behind them suffice to write the
whole number. -/
namespace CsvIntake

namespace Decimal

/-- A rounded quotient is a nearest multiple of the unit. -/
theorem roundQuotient_nearest (n j : Nat) {unit : Nat} (hUnit : 0 < unit) :
    |((roundQuotient n unit * unit : Nat) : ℤ) - n| ≤ |((j * unit : Nat) : ℤ) - n| := by
  have hSplit := Nat.div_add_mod n unit
  have hRest := Nat.mod_lt n hUnit
  rw [Nat.mul_comm] at hSplit
  have hOther : j * unit ≤ n / unit * unit ∨ n / unit * unit + unit ≤ j * unit := by
    rcases Nat.lt_or_ge (n / unit) j with hAbove | hBelow
    · right
      rw [← Nat.succ_mul]
      exact Nat.mul_le_mul_right _ hAbove
    · exact .inl (Nat.mul_le_mul_right _ hBelow)
  have hRounded : roundQuotient n unit * unit = n / unit * unit ∧ 2 * (n % unit) ≤ unit ∨
      roundQuotient n unit * unit = n / unit * unit + unit ∧ unit ≤ 2 * (n % unit) := by
    simp only [roundQuotient]
    split
    · left
      omega
    · split
      · right
        rw [Nat.succ_mul]
        omega
      · -- a tie goes to the even quotient, which is one of the two
        rcases Nat.mod_two_eq_zero_or_one (n / unit) with hEven | hOdd
        · left
          rw [hEven, Nat.add_zero]
          omega
        · right
          rw [hOdd, Nat.succ_mul]
          omega
  rw [Int.abs_eq_natAbs, Int.abs_eq_natAbs]
  omega

end Decimal

namespace Binary64

/-- The value of a magnitude of a finite number. -/
def size (magnitude : Nat) : ℚ := significand magnitude * 2 ^ exponent magnitude

/-- The value of a finite number. -/
def toRat (x : Binary64) : ℚ := if x.negative then -size x.magnitude else size x.magnitude

/-- A finite number is a nearest one to a value. -/
def IsNearest (x : Binary64) (value : ℚ) : Prop :=
  x.isFinite = true ∧
    ∀ y : Binary64, y.isFinite = true → |x.toRat - value| ≤ |y.toRat - value|

theorem significand_lt (magnitude : Nat) : significand magnitude < 2 ^ 53 := by
  have hRest := Nat.mod_lt magnitude (Nat.two_pow_pos 52)
  simp only [significand, Nat.pow_eq]
  split <;> omega

/-- The magnitude with a significand that may have been rounded up to the next power of two. -/
theorem size_rank (k : Nat) {q : Nat} (hLow : 2 ^ 52 ≤ q) (hHigh : q ≤ 2 ^ 53) :
    size (k * 2 ^ 52 + q) = q * 2 ^ ((k : ℤ) - 1074) := by
  have hNormal : ¬k * 2 ^ 52 + q < 2 ^ 52 := by omega
  simp only [size, significand, exponent, Nat.pow_eq, if_neg hNormal]
  rcases Nat.lt_or_ge q (2 ^ 53) with hBelow | hPower
  · rw [show (k * 2 ^ 52 + q) % 2 ^ 52 = q - 2 ^ 52 by omega,
      show (k * 2 ^ 52 + q) / 2 ^ 52 = k + 1 by omega, show 2 ^ 52 + (q - 2 ^ 52) = q by omega]
    congr 2
    push_cast
    omega
  · rw [show (k * 2 ^ 52 + q) % 2 ^ 52 = 0 by omega,
      show (k * 2 ^ 52 + q) / 2 ^ 52 = k + 2 by omega, show q = 2 ^ 52 * 2 by omega,
      show ((k + 2 : Nat) : ℤ) - 1075 = (k : ℤ) - 1074 + 1 by omega, zpow_add_one₀ two_ne_zero]
    push_cast
    ring

/-- A magnitude of at least `2 ^ (52 + k)` is a multiple of `2 ^ k`. -/
theorem exists_size_eq {magnitude k : Nat} (h : (2 : ℚ) ^ (52 + k) ≤ size magnitude) :
    ∃ j : Nat, size magnitude = ((j * 2 ^ k : Nat) : ℚ) := by
  have hBound : size magnitude < 2 ^ (53 + exponent magnitude) := by
    rw [size, zpow_add₀ two_ne_zero]
    refine mul_lt_mul_of_pos_right ?_ (zpow_pos two_pos _)
    exact_mod_cast significand_lt magnitude
  have hExponent : (k : ℤ) ≤ exponent magnitude := by
    rw [← zpow_natCast] at h
    have hPowers := (zpow_lt_zpow_iff_right₀ (one_lt_two (α := ℚ))).mp (h.trans_lt hBound)
    push_cast at hPowers
    omega
  obtain ⟨d, hd⟩ := Int.eq_ofNat_of_zero_le (Int.sub_nonneg.mpr hExponent)
  refine ⟨significand magnitude * 2 ^ d, ?_⟩
  rw [size, show exponent magnitude = ((d + k : Nat) : ℤ) by omega, zpow_natCast, pow_add]
  push_cast
  ring

/-- The value of the binary number of a positive whole number: the number itself if it has at most 53 binary
digits, else the nearest multiple of the last power of two that fits. -/
theorem size_magnitudeOfRatio_one {m : Nat} (hm : m ≠ 0) (hFinite : magnitudeOfRatio m 1 < infinity) :
    size (magnitudeOfRatio m 1) = m ∧ m < 2 ^ 53 ∨
    ∃ k, 2 ^ (52 + k) ≤ m ∧ m < 2 ^ (53 + k) ∧
      size (magnitudeOfRatio m 1) = ((Decimal.roundQuotient m (2 ^ k) * 2 ^ k : Nat) : ℚ) := by
  have hLow := Nat.log2_self_le hm
  have hHigh := Nat.lt_log2_self (n := m)
  simp only [magnitudeOfRatio, exponentOfRatio_one hm, Nat.pow_eq, Nat.one_mul] at hFinite ⊢
  rw [min_eq_right (by omega)]
  clear hFinite
  generalize Nat.log2 m = digits at hLow hHigh ⊢
  rcases Nat.lt_or_ge digits 52 with hSmall | hLarge
  · -- all digits fit, and nothing is rounded
    left
    have hWhole := Decimal.roundQuotient_mul (m * 2 ^ (52 - digits)) Nat.one_pos
    have hScale : 2 ^ digits * 2 ^ (52 - digits) = 2 ^ 52 := by
      rw [← Nat.pow_add]
      congr 1
      omega
    have hFrom : 2 ^ 52 ≤ m * 2 ^ (52 - digits) := hScale ▸ Nat.mul_le_mul_right _ hLow
    have hTo : m * 2 ^ (52 - digits) ≤ 2 ^ 53 := by
      calc m * 2 ^ (52 - digits) ≤ 2 ^ (digits + 1) * 2 ^ (52 - digits) :=
            Nat.mul_le_mul_right _ hHigh.le
        _ = 2 ^ 52 * 2 := by rw [pow_succ, Nat.mul_right_comm, hScale]
    rw [Nat.mul_one] at hWhole
    refine ⟨?_, hHigh.trans_le (Nat.pow_le_pow_right two_pos (by omega))⟩
    rw [if_neg (by omega), show (-((digits : Int) - 52)).toNat = 52 - digits by omega, hWhole,
      size_rank _ hFrom hTo, show (((digits : Int) - 52 + 1074).toNat : ℤ) - 1074 =
        -((52 - digits : Nat) : ℤ) by omega, zpow_neg, zpow_natCast]
    push_cast
    rw [mul_assoc, mul_inv_cancel₀ (pow_ne_zero _ two_ne_zero), mul_one]
  · right
    obtain ⟨k, rfl⟩ := Nat.exists_eq_add_of_le hLarge
    rw [Nat.add_right_comm] at hHigh
    obtain ⟨hFrom, hTo⟩ := roundQuotient_significand hLow hHigh
    refine ⟨k, hLow, hHigh, ?_⟩
    rw [if_pos (by omega), show (((52 + k : Nat) : Int) - 52).toNat = k by omega, size_rank _ hFrom hTo,
      show ((((52 + k : Nat) : Int) - 52 + 1074).toNat : ℤ) - 1074 = (k : ℤ) by omega, zpow_natCast]
    push_cast
    rfl

/-- The binary number of a positive whole number is as near to it as any magnitude. -/
theorem size_magnitudeOfRatio_one_nearest {m : Nat} (hm : m ≠ 0)
    (hFinite : magnitudeOfRatio m 1 < infinity) (magnitude : Nat) :
    |size (magnitudeOfRatio m 1) - m| ≤ |size magnitude - m| := by
  rcases size_magnitudeOfRatio_one hm hFinite with ⟨hExact, _⟩ | ⟨k, hLow, _, hSize⟩
  · rw [hExact, sub_self, abs_zero]
    exact abs_nonneg _
  · have hNearest : ∀ j : Nat, |size (magnitudeOfRatio m 1) - m| ≤ |((j * 2 ^ k : Nat) : ℚ) - m| := by
      intro j
      rw [hSize]
      exact_mod_cast Decimal.roundQuotient_nearest m j (Nat.two_pow_pos k)
    rcases le_or_gt ((2 : ℚ) ^ (52 + k)) (size magnitude) with hAbove | hBelow
    · obtain ⟨j, hj⟩ := exists_size_eq hAbove
      rw [hj]
      exact hNearest j
    · -- the last power of two is a multiple, and nearer than anything below it
      refine (hNearest (2 ^ 52)).trans ?_
      have hPower : ((2 ^ 52 * 2 ^ k : Nat) : ℚ) = 2 ^ (52 + k) := by
        rw [← pow_add]
        push_cast
        rfl
      have hLow : (2 : ℚ) ^ (52 + k) ≤ m := by exact_mod_cast hLow
      rw [hPower, abs_of_nonpos (by linarith), abs_of_nonpos (by linarith)]
      linarith

theorem size_nonneg (magnitude : Nat) : 0 ≤ size magnitude :=
  mul_nonneg (Nat.cast_nonneg _) (zpow_nonneg two_pos.le _)

/-- A number lies as far from zero as its magnitude says, whatever its sign. -/
theorem abs_toRat (x : Binary64) : |x.toRat| = size x.magnitude := by
  rw [toRat]
  split
  · rw [abs_neg, abs_of_nonneg (size_nonneg _)]
  · exact abs_of_nonneg (size_nonneg _)

/-- The distance of a whole number from its binary number is that of their sizes. -/
theorem abs_toRat_ofInt_sub (n : Int) :
    |(ofInt n).toRat - n| = |size (ofInt n).magnitude - n.natAbs| := by
  rw [toRat, ofInt, ofRatio]
  dsimp only
  by_cases hNegative : n < 0
  · have hSize : (n : ℚ) = -(n.natAbs : ℚ) := by
      rw [Nat.cast_natAbs, abs_of_neg hNegative, Int.cast_neg, neg_neg]
    rw [decide_eq_true hNegative, if_pos rfl, hSize, ← abs_neg]
    congr 1
    ring
  · have hSize : (n : ℚ) = (n.natAbs : ℚ) := by
      rw [Nat.cast_natAbs, abs_of_nonneg (not_lt.mp hNegative)]
    rw [decide_eq_false hNegative, if_neg Bool.false_ne_true, hSize]

theorem magnitude_ofInt (n : Int) :
    (ofInt n).magnitude = if n.natAbs = 0 then 0 else magnitudeOfRatio n.natAbs 1 := rfl

/-- The binary number of a whole number is a nearest one. -/
theorem isNearest_ofInt {n : Int} (hFinite : (ofInt n).isFinite = true) :
    (ofInt n).IsNearest n := by
  refine ⟨hFinite, fun y _ => ?_⟩
  have hSizes : |size (ofInt n).magnitude - n.natAbs| ≤ |size y.magnitude - n.natAbs| := by
    rw [isFinite, decide_eq_true_eq] at hFinite
    rw [magnitude_ofInt] at hFinite ⊢
    split
    · rename_i hZero
      have hNone : size 0 = 0 := by simp [size, significand]
      rw [hZero, hNone, Nat.cast_zero, sub_self, abs_zero]
      exact abs_nonneg _
    · rename_i hNonzero
      rw [if_neg hNonzero] at hFinite
      exact size_magnitudeOfRatio_one_nearest hNonzero hFinite y.magnitude
  calc |(ofInt n).toRat - n| = |size (ofInt n).magnitude - n.natAbs| := abs_toRat_ofInt_sub n
    _ ≤ |size y.magnitude - n.natAbs| := hSizes
    _ = |(|y.toRat| - |(n : ℚ)|)| := by rw [abs_toRat, Nat.cast_natAbs, Int.cast_abs]
    _ ≤ |y.toRat - n| := abs_abs_sub_abs_le _ _

/-- A whole number can be written with 53 binary digits and zeros behind them. -/
def IsExact (n : Int) : Prop := ∃ s k : Nat, s ≤ 2 ^ 53 ∧ n.natAbs = s * 2 ^ k

/-- A number of at least `52 + k` binary digits behind the first one that is exact ends in `k` zeros. -/
theorem dvd_of_exact {m s j k : Nat} (hs : s ≤ 2 ^ 53) (hm : m = s * 2 ^ j) (hLow : 2 ^ (52 + k) ≤ m) :
    2 ^ k ∣ m := by
  rcases Nat.lt_or_ge j k with hShort | hLong
  · have hTop : m ≤ 2 ^ (53 + j) := by
      rw [hm, pow_add]
      exact Nat.mul_le_mul_right _ hs
    have hBetween : 2 ^ (53 + j) ≤ 2 ^ (52 + k) := Nat.pow_le_pow_right two_pos (by omega)
    rw [show m = 2 ^ (52 + k) by omega]
    exact pow_dvd_pow 2 (by omega)
  · rw [hm]
    exact Dvd.dvd.mul_left (pow_dvd_pow 2 hLong) s

/-- The binary number of a whole number is equal to it exactly if 53 binary digits suffice. -/
theorem toRat_ofInt_eq_iff {n : Int} (hFinite : (ofInt n).isFinite = true) :
    (ofInt n).toRat = n ↔ IsExact n := by
  rw [isFinite, decide_eq_true_eq, magnitude_ofInt] at hFinite
  rw [← sub_eq_zero, ← abs_eq_zero, abs_toRat_ofInt_sub, abs_eq_zero, sub_eq_zero, magnitude_ofInt, IsExact]
  generalize n.natAbs = m at hFinite ⊢
  by_cases hm : m = 0
  · rw [if_pos hm, hm]
    exact iff_of_true (by simp [size, significand]) ⟨0, 0, by omega, by omega⟩
  · rw [if_neg hm] at hFinite ⊢
    rcases size_magnitudeOfRatio_one hm hFinite with ⟨hSize, hSmall⟩ | ⟨k, hLow, hHigh, hSize⟩
    · exact iff_of_true hSize ⟨m, 0, hSmall.le, by rw [pow_zero, mul_one]⟩
    · rw [hSize, Nat.cast_inj]
      constructor
      · intro hExact
        exact ⟨_, k, (roundQuotient_significand hLow hHigh).2, hExact.symm⟩
      · rintro ⟨s, j, hs, hExact⟩
        obtain ⟨q, rfl⟩ := dvd_of_exact hs hExact hLow
        rw [Nat.mul_comm (2 ^ k), Decimal.roundQuotient_mul _ (Nat.two_pow_pos k)]

end Binary64

end CsvIntake
