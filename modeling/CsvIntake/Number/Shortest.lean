import CsvIntake.Number.Binary64
import CsvIntake.Text.Digit

/-! The shortest decimal that reads back as a binary number, and its text. For one digit, two digits
and so on up to seventeen, the two decimals beside the number are tested; the first that lies in the
interval of reals which round to the number is taken, of two the nearer one, and the even one if both
are equally near. -/
namespace CsvIntake

/-- The decimal `digits * 10 ^ exponent`. -/
structure ShortDecimal where
  digits : Nat
  exponent : Int
  deriving DecidableEq, Repr

namespace Binary64

/-- The reals around a magnitude that round to it, and the magnitude itself, as numerators over a
common denominator. The ends belong to the interval if `closed` is set. -/
structure RoundingInterval where
  lower : Nat
  value : Nat
  upper : Nat
  denominator : Nat
  closed : Bool

/-- The interval of reals that round to a magnitude. Below a power of two the numbers lie half as far
apart. -/
def roundingInterval (magnitude : Nat) : RoundingInterval :=
  let s := significand magnitude
  let e := exponent magnitude
  let below := if s = Nat.pow 2 52 ∧ -1074 < e then 1 else 2
  let scale := Nat.pow 2 e.toNat
  ⟨(4 * s - below) * scale, 4 * s * scale, (4 * s + 2) * scale, 4 * Nat.pow 2 (-e).toNat, s % 2 = 0⟩

/-- Whether `n * 10 ^ k` lies in an interval. -/
def RoundingInterval.holds (i : RoundingInterval) (k : Int) (n : Nat) : Bool :=
  let point := n * Nat.pow 10 k.toNat * i.denominator
  let unit := Nat.pow 10 (-k).toNat
  if i.closed then decide (i.lower * unit ≤ point ∧ point ≤ i.upper * unit)
  else decide (i.lower * unit < point ∧ point < i.upper * unit)

/-- The number of digits before the decimal point, or minus the number of zeros behind it. -/
def RoundingInterval.pointPosition (i : RoundingInterval) : Int :=
  ((Nat.toDigits 10 (i.value * Nat.pow 10 400 / i.denominator)).length : Int) - 400

/-- The decimal of at most `count` digits in the interval that is nearest to the value. -/
def RoundingInterval.nearest? (i : RoundingInterval) (count : Nat) : Option ShortDecimal :=
  let k := i.pointPosition - count
  let numerator := i.value * Nat.pow 10 (-k).toNat
  let denominator := i.denominator * Nat.pow 10 k.toNat
  let low := numerator / denominator
  let high := low + 1
  let twice := 2 * (numerator % denominator)
  let lowFirst := decide (twice < denominator ∨ (twice = denominator ∧ low % 2 = 0))
  let candidates := if lowFirst then [low, high] else [high, low]
  (candidates.find? (i.holds k)).map (⟨·, k⟩)

/-- The shortest decimal that reads back as a magnitude. -/
def shortest (magnitude : Nat) : ShortDecimal :=
  let i := roundingInterval magnitude
  ((List.range' 1 17).findSome? i.nearest?).getD ⟨0, 0⟩

/-- Writes a decimal with a point and at least one digit behind it, or, if its first digit stands
more than four places behind the point or more than sixteen before it, with an exponent of at least
two digits. -/
def decimalText (d : ShortDecimal) : Text :=
  let digits := Text.ofNat d.digits
  let point : Int := digits.length + d.exponent
  if point ≤ -4 ∨ 16 < point then
    let digits := (digits.reverse.dropWhile (· == '0')).reverse
    let mantissa := match digits with
      | [] => ['0']
      | [c] => [c]
      | c :: cs => c :: '.' :: cs
    let power := point - 1
    mantissa ++ 'e' :: (if power < 0 then '-' else '+') :: Text.ofNatPadded 2 power.natAbs
  else if point ≤ 0 then
    '0' :: '.' :: List.replicate (-point).toNat '0' ++ (digits.reverse.dropWhile (· == '0')).reverse
  else
    let padded := digits ++ List.replicate (point.toNat - digits.length) '0'
    let fraction := ((padded.drop point.toNat).reverse.dropWhile (· == '0')).reverse
    padded.take point.toNat ++ '.' :: (if fraction.isEmpty then ['0'] else fraction)

/-- The text of a number: the shortest decimal that reads back as it. -/
def text (x : Binary64) : Text :=
  let size :=
    if x.magnitude = 0 then "0.0".toList
    else if x.isFinite then decimalText (shortest x.magnitude)
    else "inf".toList
  if x.negative then '-' :: size else size

end Binary64

end CsvIntake
