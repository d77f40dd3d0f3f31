import CsvIntake.Text.Basic

/-! Lines of comma-separated values. A field may stand in double quotes, with blanks around them, and a
double quote inside them is written twice; fields do not hold line breaks. Where lines may hold
comments, one starts with `#` outside of quotes and goes on to the end of the line. -/
namespace CsvIntake

/-- Why a file cannot be read. -/
inductive CsvFault where
  | invalidUtf8
  | lineBreakInQuotes
  | unclosedQuote
  | textAfterQuote
  | tooManyFields
  | compressed
  deriving DecidableEq, Repr

/-- What is wrong with the file. -/
def CsvFault.reason : CsvFault → String
  | .invalidUtf8 => "it is not valid UTF-8"
  | .lineBreakInQuotes => "a quoted field holds a line break"
  | .unclosedQuote => "a quoted field is not closed"
  | .textAfterQuote => "text follows a quoted field"
  | .tooManyFields => "a row has more fields than the header"
  | .compressed => "it is not compressed as its name says"

/-- Where a reader stands in a line: at the start of a field, behind some blanks; in a field without
quotes; between the quotes of a field; right behind them; or behind blanks that follow them.
Characters are collected in reverse. -/
inductive FieldState where
  | start (blanks : Nat)
  | bare (read : Text)
  | inQuotes (read : Text)
  | behindQuote (read : Text)
  | behindBlank (read : Text)

namespace FieldState

/-- The field that ends here. -/
def field : FieldState → Text
  | .start blanks => List.replicate blanks ' '
  | .bare read => read.reverse
  | .inQuotes read => read.reverse
  | .behindQuote read => read.reverse
  | .behindBlank read => read.reverse

/-- Whether the reader stands between quotes, where every character belongs to the field. -/
def isQuoting : FieldState → Bool
  | .inQuotes _ => true
  | _ => false

/-- The state behind a character that neither ends the field nor starts a comment. -/
def next : FieldState → Char → Except CsvFault FieldState
  | .start blanks, c =>
    if c = '"' then .ok (.inQuotes [])
    else if c = ' ' then .ok (.start (blanks + 1))
    else .ok (.bare (c :: List.replicate blanks ' '))
  | .bare read, c => .ok (.bare (c :: read))
  | .inQuotes read, c => .ok (if c = '"' then .behindQuote read else .inQuotes (c :: read))
  | .behindQuote read, c =>
    if c = '"' then .ok (.inQuotes ('"' :: read))
    else if c = ' ' then .ok (.behindBlank read)
    else .error .textAfterQuote
  | .behindBlank read, c => if c = ' ' then .ok (.behindBlank read) else .error .textAfterQuote

/-- The fields of a line, from a state on. -/
def fields (comments : Bool) (state : FieldState) : Text → Except CsvFault (List Text)
  | [] => if state.isQuoting then .error .unclosedQuote else .ok [state.field]
  | c :: cs =>
    if state.isQuoting = false ∧ comments ∧ c = '#' then .ok [state.field]
    else if state.isQuoting = false ∧ c = ',' then
      (fields comments (.start 0) cs).map (state.field :: ·)
    else
      match state.next c with
      | .error fault => .error fault
      | .ok state => fields comments state cs

end FieldState

/-- The fields of a line, whether the line ends with a comma, and whether a comment follows them. -/
structure CsvRecord where
  fields : List Text
  endsWithComma : Bool
  endsInComment : Bool
  deriving DecidableEq, Repr

/-- What a line holds. -/
inductive CsvLine where
  | blank
  | comment
  | record (r : CsvRecord)
  deriving DecidableEq, Repr

namespace CsvLine

/-- Whether no value stands behind the last comma of a line; a blank line does not say. -/
def endsEmpty : CsvLine → Bool
  | .blank => true
  | .comment => false
  | .record r => r.endsWithComma

/-- Reads a line. -/
def read (comments : Bool) (line : Text) : Except CsvFault CsvLine :=
  if line.isEmpty then .ok .blank
  else if comments && (line.dropWhile (· == ' ')).head? == some '#' then .ok .comment
  else
    match FieldState.fields comments (.start 0) line with
    | .error fault => .error fault
    | .ok fields =>
      let isCut := match FieldState.fields false (.start 0) line with
        | .ok whole => whole != fields
        | .error _ => true
      .ok (.record ⟨fields, !isCut && line.getLast? == some ',', isCut⟩)

/-- Reads lines. A quoted field that does not close in its line goes on over the line break, unless
there is none. -/
def readAll (comments : Bool) : List Text → Except CsvFault (List CsvLine)
  | [] => .ok []
  | line :: rest =>
    match read comments line with
    | .error .unclosedQuote => .error (if rest.isEmpty then .unclosedQuote else .lineBreakInQuotes)
    | .error fault => .error fault
    | .ok first => (readAll comments rest).map (first :: ·)

/-- The lines of a text, from what has been read of one in reverse. A carriage return and a line feed
together end one line, and what follows the last line break is a line only if it holds a character. -/
def cutFrom (read : Text) : Text → List Text
  | [] => if read.isEmpty then [] else [read.reverse]
  | '\r' :: '\n' :: cs => read.reverse :: cutFrom [] cs
  | '\r' :: cs => read.reverse :: cutFrom [] cs
  | '\n' :: cs => read.reverse :: cutFrom [] cs
  | c :: cs => cutFrom (c :: read) cs

/-- The lines of a text, without a byte-order mark at its start. -/
def cut (s : Text) : List Text :=
  match s with
  | '\ufeff' :: rest => cutFrom [] rest
  | _ => cutFrom [] s

end CsvLine

end CsvIntake
