import CsvIntake.Number.Binary64
import CsvIntake.Number.Separators

/-! Written numbers. A numeral is a whole part with an optional fraction, a minus sign in front, and
currency signs and white space around: `$1,234.50`, `-$2`, `$-2`, `2 €`. Parentheses around all of it
negate it, as accountants write. The grammar of what may stand around the digits is

* in front: `[edge] blank* [-] [edge]`,
* behind: `blank* [edge]`,

where an edge is a currency sign or a white space character. -/
namespace CsvIntake

/-- A sign of a currency that may stand beside a number. -/
def isCurrency (c : Char) : Bool := "$€£¥₹₪₩₿¢".toList.contains c

/-- What may stand directly beside the digits or the minus sign. -/
def isEdge (c : Char) : Bool := isCurrency c || Text.isSpace c

/-- The parts of a written number that its value depends on. -/
structure Numeral where
  enclosed : Bool
  minus : Bool
  whole : Text
  fraction : Option Text
  deriving DecidableEq, Repr

namespace Numeral

/-- A text without its first character if that is an edge. -/
def dropEdge : Text → Text
  | [] => []
  | c :: cs => if isEdge c then cs else c :: cs

/-- Reads what stands in front of the digits; the answer says whether there is a minus sign. -/
def readFront? (front : Text) : Option Bool :=
  match Text.trimLeft (dropEdge front) with
  | '-' :: rest => if (dropEdge rest).isEmpty then some true else none
  | rest => if (dropEdge rest).isEmpty then some false else none

/-- Whether a text may stand behind the digits. -/
def endsNumber (behind : Text) : Bool := (dropEdge (Text.trimLeft behind)).isEmpty

/-- Reads a fraction if the decimal separator and a digit come next, and gives back the rest. -/
def readFraction (separators : NumberSeparators) (s : Text) : Option Text × Text :=
  match s with
  | c :: d :: rest =>
    if c = separators.decimal ∧ Text.isDigit d then
      (some ((d :: rest).takeWhile Text.isDigit), (d :: rest).dropWhile Text.isDigit)
    else (none, s)
  | _ => (none, s)

/-- Reads a number without parentheses. -/
def readOpen? (separators : NumberSeparators) (enclosed : Bool) (s : Text) : Option Numeral :=
  let inBody (c : Char) : Bool := Text.isDigit c || separators.isGrouping c
  let front := s.takeWhile fun c => !Text.isDigit c
  let body := s.dropWhile fun c => !Text.isDigit c
  match readFront? front with
  | none => none
  | some minus =>
    if body.isEmpty then none
    else
      let tail := readFraction separators (body.dropWhile inBody)
      if endsNumber tail.2 then
        some ⟨enclosed, minus, (body.takeWhile inBody).filter Text.isDigit, tail.1⟩
      else none

/-- Reads a number, in parentheses or not. -/
def read? (separators : NumberSeparators) (s : Text) : Option Numeral :=
  match s with
  | '(' :: inner =>
    if inner.getLast? = some ')' then readOpen? separators true inner.dropLast else none
  | _ => readOpen? separators false s

/-- Whether the number is below zero. Parentheses around a minus sign negate only once. -/
def negative (n : Numeral) : Bool := n.enclosed || n.minus

/-- The precision to which a number is rounded when it is negated. -/
def negationDigits : Nat := 28

/-- The number of digits that a number may have before its point once it is negated and rounded. -/
def negationRange : Nat := 1000000

/-- The digits of the whole part without the zeros in front. -/
def significantWhole (n : Numeral) : Text := n.whole.dropWhile fun c => Text.digitValue c == 0

/-- Whether the number is too long to be negated. Of the numbers that have as many digits as are allowed,
those that are rounded up get one more: their first 28 digits are nines, and the next one is not below
five. -/
def overflows (n : Numeral) : Bool :=
  let digits := n.significantWhole
  let leading := Text.decimalValue (digits.take (negationDigits + 1))
  n.negative && (decide (negationRange < digits.length) ||
    decide (negationRange = digits.length ∧ Nat.pow 10 (negationDigits + 1) ≤ leading + 5))

end Numeral

/-- A number that was read: an integer if it has no fraction. -/
inductive Number where
  | integer (n : Int)
  | float (x : Binary64)
  deriving DecidableEq, Repr

namespace Number

/-- The size of a number once its sign is applied: a negated number is rounded to 28 significant
digits, half to even. It must not have become too long for that. -/
def signed (negative : Bool) (d : Decimal) : Decimal :=
  if negative then d.round Numeral.negationDigits else d

/-- The number that a numeral denotes, unless its negation overflows. A number with a fraction becomes
the nearest binary one, and a negative zero is zero. -/
def ofNumeral (n : Numeral) : Number :=
  match n.fraction with
  | none =>
    let size := (signed n.negative (.ofDigits n.whole [])).coefficient
    .integer (if n.negative then -(size : Int) else size)
  | some fraction =>
    let size := signed n.negative (.ofDigits n.whole fraction)
    .float (.ofDecimal (n.negative && size.coefficient != 0) size)

/-- A number as a binary one, unless it is an integer beyond the finite ones. -/
def toFloat? : Number → Option Binary64
  | .integer n => if (Binary64.ofInt n).isFinite then some (.ofInt n) else none
  | .float x => some x

end Number

end CsvIntake
