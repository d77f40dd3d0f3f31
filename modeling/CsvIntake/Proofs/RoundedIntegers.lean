import CsvIntake.Number.Binary64
import Mathlib.Algebra.Order.Ring.Nat

/-! Whole numbers as binary ones. The nearest binary number of a whole number is infinity exactly from
half a unit behind the largest finite number on, where rounding to even goes up. -/
namespace CsvIntake

namespace Decimal

theorem div_le_roundQuotient (n unit : Nat) : n / unit ≤ roundQuotient n unit := by
  simp only [roundQuotient]
  split
  · exact Nat.le_refl _
  · split <;> omega

theorem roundQuotient_le (n unit : Nat) : roundQuotient n unit ≤ n / unit + 1 := by
  simp only [roundQuotient]
  split
  · omega
  · split <;> omega

/-- A number is rounded up to an even bound as soon as it is half a unit away from it. -/
theorem roundQuotient_lt_even_iff {n half bound : Nat} (hHalf : 0 < half) :
    roundQuotient n (2 * half) < 2 * bound ↔ n + half < 2 * bound * (2 * half) := by
  have hSplit := Nat.div_add_mod n (2 * half)
  have hRest := Nat.mod_lt n (show 0 < 2 * half by omega)
  -- only the last quotient below the bound can be rounded up to it
  have hLast : ∀ q, q + 1 < 2 * bound → 2 * half * (q + 2) ≤ 2 * half * (2 * bound) := by
    intro q hq
    exact Nat.mul_le_mul_left _ (by omega)
  have hBeyond : ∀ q, 2 * bound ≤ q → 2 * half * (2 * bound) ≤ 2 * half * q := by
    intro q hq
    exact Nat.mul_le_mul_left _ hq
  rw [Nat.mul_comm (2 * bound)]
  simp only [roundQuotient]
  rcases Nat.lt_trichotomy (n / (2 * half) + 1) (2 * bound) with hBelow | hAt | hAbove
  · have := hLast _ hBelow
    rw [Nat.mul_add] at this
    split <;> [skip; split] <;> omega
  · rw [← hAt, Nat.mul_add]
    split <;> [skip; split] <;> omega
  · have := hBeyond _ (show 2 * bound ≤ n / (2 * half) by omega)
    split <;> [skip; split] <;> omega

end Decimal

namespace Binary64

/-- A whole number is scaled so that its first 53 binary digits are its significand. -/
theorem exponentOfRatio_one {m : Nat} (hm : m ≠ 0) :
    exponentOfRatio m 1 = (Nat.log2 m : Int) - 52 := by
  have hLow := Nat.log2_self_le hm
  have hLog : Nat.log2 1 = 0 := by decide
  have hFits : (if 0 ≤ (Nat.log2 m : Int) - 52
      then 1 * Nat.pow 2 (((Nat.log2 m : Int) - 52).toNat + 52) ≤ m
      else 1 * Nat.pow 2 52 ≤ m * Nat.pow 2 (-((Nat.log2 m : Int) - 52)).toNat) := by
    simp only [Nat.pow_eq, Nat.one_mul]
    split
    · rename_i hGuess
      rwa [show ((Nat.log2 m : Int) - 52).toNat + 52 = Nat.log2 m by omega]
    · rename_i hGuess
      calc 2 ^ 52 = 2 ^ Nat.log2 m * 2 ^ (-((Nat.log2 m : Int) - 52)).toNat := by
            rw [← Nat.pow_add]
            congr 1
            omega
        _ ≤ m * 2 ^ (-((Nat.log2 m : Int) - 52)).toNat := Nat.mul_le_mul_right _ hLow
  simp only [exponentOfRatio, hLog, Int.ofNat_zero, Int.sub_zero, hFits, decide_true, if_true]
  omega

/-- The first 53 binary digits of a number, rounded. -/
theorem roundQuotient_significand {m k : Nat} (hLow : 2 ^ (52 + k) ≤ m) (hHigh : m < 2 ^ (53 + k)) :
    2 ^ 52 ≤ Decimal.roundQuotient m (2 ^ k) ∧ Decimal.roundQuotient m (2 ^ k) ≤ 2 ^ 53 := by
  have hUnit : 0 < 2 ^ k := Nat.two_pow_pos k
  have hLower : 2 ^ 52 ≤ m / 2 ^ k := by
    rw [Nat.le_div_iff_mul_le hUnit, ← Nat.pow_add]
    exact hLow
  have hUpper : m / 2 ^ k < 2 ^ 53 := by
    rw [Nat.div_lt_iff_lt_mul hUnit, ← Nat.pow_add]
    exact hHigh
  have hFrom := Decimal.div_le_roundQuotient m (2 ^ k)
  have hTo := Decimal.roundQuotient_le m (2 ^ k)
  omega

/-- The rank of a number of at least 53 binary digits, rounded, stays below that of a power of two
unless the number is half a unit away from this power or closer. -/
theorem rank_lt_iff {m k t : Nat} (hLow : 2 ^ (52 + k) ≤ m) (hHigh : m < 2 ^ (53 + k)) :
    k * 2 ^ 52 + Decimal.roundQuotient m (2 ^ k) < (t + 3) * 2 ^ 52 ↔ m + 2 ^ t < 2 ^ (54 + t) := by
  obtain ⟨hFrom, hTo⟩ := roundQuotient_significand hLow hHigh
  have hHalf : 0 < 2 ^ t := Nat.two_pow_pos t
  rw [Nat.pow_add 2 54 t]
  rcases Nat.lt_trichotomy k (t + 1) with hBelow | rfl | hAbove
  · have hSize : m < 2 ^ 53 * 2 ^ t := by
      rw [← Nat.pow_add]
      exact Nat.lt_of_lt_of_le hHigh (Nat.pow_le_pow_right Nat.two_pos (by omega))
    omega
  · -- the last power of two: the significand may be rounded up to the next one
    rw [show 2 ^ (t + 1) = 2 * 2 ^ t from Nat.pow_succ'] at hFrom hTo ⊢
    have hEven : Decimal.roundQuotient m (2 * 2 ^ t) < 2 * 2 ^ 52 ↔
        m + 2 ^ t < 2 * 2 ^ 52 * (2 * 2 ^ t) := Decimal.roundQuotient_lt_even_iff hHalf
    omega
  · have hSize : 2 ^ 54 * 2 ^ t ≤ m := by
      rw [← Nat.pow_add]
      exact Nat.le_trans (Nat.pow_le_pow_right Nat.two_pos (by omega)) hLow
    omega

/-- A whole number is below infinity as a double when it rounds to less than `2 ^ 1024`. -/
theorem magnitudeOfRatio_one_lt_iff {m : Nat} (hm : m ≠ 0) :
    magnitudeOfRatio m 1 < infinity ↔ m + 2 ^ 970 < 2 ^ (54 + 970) := by
  have hLow := Nat.log2_self_le hm
  have hHigh := Nat.lt_log2_self (n := m)
  simp only [magnitudeOfRatio, exponentOfRatio_one hm, infinity, Nat.pow_eq, Nat.one_mul,
    min_lt_iff, lt_self_iff_false, false_or]
  generalize Nat.log2 m = digits at hLow hHigh ⊢
  rcases Nat.lt_or_ge digits 52 with hSmall | hLarge
  · -- all digits fit, and nothing is rounded
    have hWhole := Decimal.roundQuotient_mul (m * 2 ^ (52 - digits)) Nat.one_pos
    rw [Nat.mul_one] at hWhole
    have hScaled : m * 2 ^ (52 - digits) < 2 ^ 53 := by
      calc m * 2 ^ (52 - digits) < 2 ^ (digits + 1) * 2 ^ (52 - digits) :=
            Nat.mul_lt_mul_of_pos_right hHigh (Nat.two_pow_pos _)
        _ = 2 ^ 53 := by
            rw [← Nat.pow_add]
            congr 1
            omega
    have hSize : m < 2 ^ 53 := Nat.lt_of_lt_of_le hHigh (Nat.pow_le_pow_right Nat.two_pos (by omega))
    have hFar : ∀ half, 0 < half → m + half < 2 ^ 54 * half := by
      intro half hHalf
      omega
    rw [if_neg (by omega), show (-((digits : Int) - 52)).toNat = 52 - digits by omega, hWhole,
      pow_add 2 54 970]
    exact iff_of_true (by omega) (hFar _ (pow_pos Nat.two_pos 970))
  · obtain ⟨k, rfl⟩ := Nat.exists_eq_add_of_le hLarge
    rw [← rank_lt_iff hLow (by rwa [Nat.add_right_comm] at hHigh), if_pos (by omega),
      show (((52 + k : Nat) : Int) - 52).toNat = k by omega,
      show (((52 + k : Nat) : Int) - 52 + 1074).toNat = k + 1074 by omega]
    omega

/-- A whole number has a finite binary number next to it unless it is as large as half a unit behind
the largest one. -/
theorem isFinite_ofInt_iff (n : Int) :
    (ofInt n).isFinite = true ↔ n.natAbs + 2 ^ 970 < 2 ^ 1024 := by
  rw [show 1024 = 54 + 970 from rfl, isFinite, decide_eq_true_eq, ofInt, ofRatio]
  dsimp only
  split
  · rename_i hZero
    rw [hZero, Nat.zero_add]
    exact iff_of_true (by decide) (pow_lt_pow_right₀ Nat.one_lt_two (by decide))
  · rename_i hNonzero
    exact magnitudeOfRatio_one_lt_iff hNonzero

end Binary64

end CsvIntake
