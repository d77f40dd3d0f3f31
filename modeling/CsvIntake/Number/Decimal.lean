import CsvIntake.Text.Digit

/-! Exact decimals, and their rounding to a number of significant digits. -/
namespace CsvIntake

/-- The number `coefficient / 10 ^ places`. -/
structure Decimal where
  coefficient : Nat
  places : Nat
  deriving DecidableEq, Repr

namespace Decimal

/-- The number with the given digits before and after the decimal separator. -/
def ofDigits (whole fraction : Text) : Decimal :=
  ⟨Text.decimalValue (whole ++ fraction), fraction.length⟩

/-- Half-even rounding of `n / unit` to a whole number. -/
def roundQuotient (n unit : Nat) : Nat :=
  let quotient := n / unit
  let remainder := n % unit
  if 2 * remainder < unit then quotient
  else if unit < 2 * remainder then quotient + 1
  else quotient + quotient % 2

/-- A whole number of units is not rounded. -/
theorem roundQuotient_mul (n : Nat) {unit : Nat} (h : 0 < unit) :
    roundQuotient (n * unit) unit = n := by
  simp [roundQuotient, Nat.mul_mod_left, Nat.mul_div_cancel _ h, h]

/-- A number rounded, half to even, to its first `digits` significant digits. -/
def roundNat (digits n : Nat) : Nat :=
  let unit := Nat.pow 10 ((Nat.toDigits 10 n).length - digits)
  roundQuotient n unit * unit

/-- A decimal rounded, half to even, to its first `digits` significant digits. -/
def round (digits : Nat) (d : Decimal) : Decimal :=
  ⟨roundNat digits d.coefficient, d.places⟩

end Decimal

end CsvIntake
