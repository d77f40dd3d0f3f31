import CsvIntake.Number.Decimal

/-! Binary floating-point numbers of 64 bits. A number is a sign and the rank of its magnitude
among the non-negative ones, which is the word of its exponent and fraction fields; so rounding up
to the next number is adding one, also across powers of two and up to infinity. -/
namespace CsvIntake

/-- A sign and the exponent and fraction fields, read as one number below `2 ^ 63`. -/
structure Binary64 where
  negative : Bool
  magnitude : Nat
  deriving DecidableEq, Repr

namespace Binary64

/-- The magnitude of infinity: all exponent bits set and no fraction bit. -/
def infinity : Nat := 2047 * Nat.pow 2 52

/-- Infinities are the only numbers here that are not finite. -/
def isFinite (x : Binary64) : Bool := decide (x.magnitude < infinity)

/-- The 64-bit word of a number. -/
def bits (x : Binary64) : Nat := (if x.negative then Nat.pow 2 63 else 0) + x.magnitude

/-- The significand of a magnitude: the fraction field, with the hidden bit of normal numbers. -/
def significand (magnitude : Nat) : Nat :=
  if magnitude < Nat.pow 2 52 then magnitude else Nat.pow 2 52 + magnitude % Nat.pow 2 52

/-- The power of two by which the significand of a magnitude is scaled. -/
def exponent (magnitude : Nat) : Int :=
  if magnitude < Nat.pow 2 52 then -1074 else (magnitude / Nat.pow 2 52 : Nat) - 1075

/-- The exponent at which `numerator / denominator` has a significand of 53 bits, or the least
exponent if it is too small for that. -/
def exponentOfRatio (numerator denominator : Nat) : Int :=
  let guess : Int := (Nat.log2 numerator : Int) - (Nat.log2 denominator : Int) - 52
  let fits : Bool := decide <|
    if 0 ≤ guess then denominator * Nat.pow 2 (guess.toNat + 52) ≤ numerator
    else denominator * Nat.pow 2 52 ≤ numerator * Nat.pow 2 (-guess).toNat
  max (-1074) (if fits then guess else guess - 1)

/-- The magnitude nearest to `numerator / denominator`, a tie going to the even one; infinity if
the ratio lies beyond the largest finite number by half a unit or more. -/
def magnitudeOfRatio (numerator denominator : Nat) : Nat :=
  let e := exponentOfRatio numerator denominator
  let rounded :=
    if 0 ≤ e then Decimal.roundQuotient numerator (denominator * Nat.pow 2 e.toNat)
    else Decimal.roundQuotient (numerator * Nat.pow 2 (-e).toNat) denominator
  min infinity ((e + 1074).toNat * Nat.pow 2 52 + rounded)

/-- The number nearest to a ratio with a sign. -/
def ofRatio (negative : Bool) (numerator denominator : Nat) : Binary64 :=
  ⟨negative, if numerator = 0 then 0 else magnitudeOfRatio numerator denominator⟩

/-- The number nearest to an integer. -/
def ofInt (n : Int) : Binary64 := ofRatio (decide (n < 0)) n.natAbs 1

/-- The number nearest to a decimal with a sign. -/
def ofDecimal (negative : Bool) (d : Decimal) : Binary64 :=
  ofRatio negative d.coefficient (Nat.pow 10 d.places)

end Binary64

end CsvIntake
