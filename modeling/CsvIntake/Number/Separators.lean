import CsvIntake.Text.Digit

/-! The ways of writing numbers: which character separates the fraction, and which characters may
group the digits of the whole part. -/
namespace CsvIntake

/-- A decimal separator together with a grouping separator. -/
inductive NumberSeparators where
  | dotComma
  | commaDot
  | commaSpace
  | dotApostrophe
  deriving DecidableEq, Repr

namespace NumberSeparators

/-- Every way of writing numbers, the default first. -/
def all : List NumberSeparators := [.dotComma, .commaDot, .commaSpace, .dotApostrophe]

/-- The character between the whole part and the fraction. -/
def decimal : NumberSeparators → Char
  | .dotComma => '.'
  | .commaDot => ','
  | .commaSpace => ','
  | .dotApostrophe => '.'

/-- The character that groups digits. -/
def grouping : NumberSeparators → Char
  | .dotComma => ','
  | .commaDot => '.'
  | .commaSpace => ' '
  | .dotApostrophe => '’'

/-- The setting that names the separators: the decimal one, then the grouping one. -/
def setting (separators : NumberSeparators) : Text := [separators.decimal, separators.grouping]

/-- Whether a character may stand among the digits of a whole part. Where the space groups digits,
so does the no-break space. -/
def isGrouping (separators : NumberSeparators) (c : Char) : Bool :=
  c == separators.grouping || (separators == .commaSpace && c == '\u00a0')

/-- The separators that a setting names; a lone point stands for the default. -/
def ofSetting? (s : Text) : Option NumberSeparators :=
  if s = ['.'] then some .dotComma else all.find? fun separators => separators.setting == s

end NumberSeparators

end CsvIntake
