import CsvIntake.Text.Digit
import CsvIntake.Text.Printable

/-! Quoted literals. A text is shown between apostrophes, or between double quotes if it holds an
apostrophe and no double quote; characters that do not print are shown by their code. -/
namespace CsvIntake.Text

/-- One character inside a literal closed by `quote`. -/
def literalChar (quote c : Char) : Text :=
  if c = quote ∨ c = '\\' then ['\\', c]
  else if c = '\t' then ['\\', 't']
  else if c = '\n' then ['\\', 'n']
  else if c = '\r' then ['\\', 'r']
  else if isPrintable c then [c]
  else if c.toNat < 0x100 then '\\' :: 'x' :: hexPadded 2 c.toNat
  else if c.toNat < 0x10000 then '\\' :: 'u' :: hexPadded 4 c.toNat
  else '\\' :: 'U' :: hexPadded 8 c.toNat

/-- The quote that a literal is closed by. -/
def literalQuote (s : Text) : Char :=
  if s.contains '\x27' && !s.contains '"' then '"' else '\x27'

/-- A text as a quoted literal. -/
def quoted (s : Text) : Text :=
  let quote := literalQuote s
  quote :: s.flatMap (literalChar quote) ++ [quote]

end CsvIntake.Text
