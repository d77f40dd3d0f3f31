/-! Text as a list of code points. Lengths, positions and order are those of its characters, so
"longer than 255" and "sorted by code point" need no further convention. White space is the Unicode
set, everywhere: in trimming, in splitting into words, and around numbers and dates. -/
namespace CsvIntake

/-- A text: its code points in order. -/
abbrev Text := List Char

namespace Text

/-- White space of Unicode, including the four information separators. -/
def isSpace (c : Char) : Bool :=
  let n := c.toNat
  decide ((9 ≤ n ∧ n ≤ 13) ∨ (28 ≤ n ∧ n ≤ 32) ∨ n = 0x85 ∨ n = 0xA0 ∨ n = 0x1680 ∨
    (0x2000 ≤ n ∧ n ≤ 0x200A) ∨ n = 0x2028 ∨ n = 0x2029 ∨ n = 0x202F ∨ n = 0x205F ∨ n = 0x3000)

/-- Nothing but white space. -/
def isBlank (s : Text) : Bool := s.all isSpace

/-- A text without its leading white space. -/
def trimLeft (s : Text) : Text := s.dropWhile isSpace

/-- A text without its trailing white space. -/
def trimRight : Text → Text
  | [] => []
  | c :: cs =>
    match trimRight cs with
    | [] => if isSpace c then [] else [c]
    | d :: ds => c :: d :: ds

/-- A text without white space at either end. -/
def trim (s : Text) : Text := trimRight (trimLeft s)

/-- The maximal runs of characters that are not white space. -/
def words : Text → List Text
  | [] => []
  | c :: cs =>
    if isSpace c then words cs
    else
      match cs with
      | [] => [[c]]
      | d :: _ =>
        if isSpace d then [c] :: words cs
        else
          match words cs with
          | [] => [[c]]
          | w :: ws => (c :: w) :: ws

/-- The texts in order, with `separator` between neighbours. -/
def joined (separator : Text) : List Text → Text
  | [] => []
  | [w] => w
  | w :: ws => w ++ separator ++ joined separator ws

/-- The pieces of a text between the characters that `isBreak` accepts, empty pieces included. -/
def pieces (isBreak : Char → Bool) : Text → List Text
  | [] => [[]]
  | c :: cs =>
    if isBreak c then [] :: pieces isBreak cs
    else
      match pieces isBreak cs with
      | [] => [[c]]
      | p :: ps => (c :: p) :: ps

/-- Whether a character ends a line: line feed, vertical tab, form feed, carriage return, three of the
information separators, next line, and the separators of lines and paragraphs. -/
def endsLine (c : Char) : Bool :=
  let n := c.toNat
  decide ((10 ≤ n ∧ n ≤ 13) ∨ (28 ≤ n ∧ n ≤ 30) ∨ n = 0x85 ∨ n = 0x2028 ∨ n = 0x2029)

/-- The lines of a text, from what has been read of one in reverse. -/
def linesFrom (read : Text) : Text → List Text
  | [] => if read.isEmpty then [] else [read.reverse]
  | '\r' :: '\n' :: cs => read.reverse :: linesFrom [] cs
  | c :: cs => if endsLine c then read.reverse :: linesFrom [] cs else linesFrom (c :: read) cs

/-- The lines of a text. What follows the last line break is a line only if it holds a character. -/
def lines (s : Text) : List Text := linesFrom [] s

/-- Lower case for ASCII letters; every other character is kept. -/
def lowerAscii (s : Text) : Text := s.map Char.toLower

/-- Lower case for the letters of the first Latin block, and for the two signs whose lower case is
one of these letters: the Kelvin and the Angstrom sign. -/
def lowerLatinChar (c : Char) : Char :=
  if c = '\u212a' then 'k'
  else if c = '\u212b' then 'å'
  else if 'À' ≤ c ∧ c ≤ 'Þ' ∧ c ≠ '×' then Char.ofNat (c.toNat + 32)
  else c.toLower

/-- Lower case for Latin letters; every other character is kept. -/
def lowerLatin (s : Text) : Text := s.map lowerLatinChar

/-- Order by code point, the shorter text first where one begins the other. -/
def le (s t : Text) : Bool := !t.lex s fun c d => decide (c < d)

/-- The distinct texts of a list in code-point order. -/
def sorted (names : List Text) : List Text := names.eraseDups.mergeSort le

/-- What follows `start`, if the text begins with it. -/
def afterStart? (start s : Text) : Option Text :=
  match start, s with
  | [], rest => some rest
  | _ :: _, [] => none
  | c :: cs, d :: ds => if c = d then afterStart? cs ds else none

/-- Whether `part` stands somewhere in the text. -/
def holds (part : Text) : Text → Bool
  | [] => part.isEmpty
  | c :: s => (afterStart? part (c :: s)).isSome || holds part s

end Text

end CsvIntake
