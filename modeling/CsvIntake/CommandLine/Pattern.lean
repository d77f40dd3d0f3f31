import CsvIntake.Text.Basic

/-! Patterns of file names. `*` stands for any bytes, `?` for one byte, and brackets for one byte of
those in them, or after `!` for one that is not in them; a backslash takes from the byte behind it what
it means. Names are compared byte by byte, and a byte is written as the character of its number. -/
namespace CsvIntake.CommandLine

/-- A text as bytes. -/
def bytesOf (s : Text) : Text :=
  (String.ofList s).toUTF8.toList.map fun byte => Char.ofNat byte.toNat

/-- Whether a byte is not greater than another one, as numbers from -128 to 127. -/
def byteLe (a b : Char) : Bool :=
  let signed (c : Char) : Int := if c.toNat < 128 then c.toNat else (c.toNat : Int) - 256
  decide (signed a ≤ signed b)

/-- The bytes that brackets hold, as closed ranges, and whether these are the ones left out. -/
structure ByteSet where
  isNegated : Bool
  ranges : List (Char × Char) := []
  deriving DecidableEq, Repr

namespace ByteSet

/-- The set with one more range. -/
def withRange (set : ByteSet) (first last : Char) : ByteSet :=
  { set with ranges := set.ranges ++ [(first, last)] }

/-- Whether a byte belongs to the set. -/
def contains (set : ByteSet) (c : Char) : Bool :=
  (set.ranges.any fun range => byteLe range.1 c && byteLe c range.2) != set.isNegated

end ByteSet

/-- A part of a pattern. What is not complete, as brackets that do not close, stands for nothing. -/
inductive PatternPart where
  | run
  | one
  | oneOf (set : ByteSet)
  | literal (c : Char)
  | nothing
  deriving DecidableEq, Repr

namespace PatternPart

/-- Reads the parts of a pattern. `opened` is the set of the brackets that are being read. A closing
bracket right behind the opening one is a byte like any other. -/
def read (opened : Option ByteSet) : Text → List PatternPart
  | [] => if opened.isSome then [.nothing] else []
  | c :: rest =>
    match opened with
    | none =>
      if c = '*' then .run :: read none rest
      else if c = '?' then .one :: read none rest
      else if c = '[' then
        match rest with
        | '!' :: rest => read (some ⟨true, []⟩) rest
        | rest => read (some ⟨false, []⟩) rest
      else if c = '\\' then
        match rest with
        | d :: rest => .literal d :: read none rest
        | [] => [.nothing]
      else .literal c :: read none rest
    | some set =>
      if c = ']' ∧ set.ranges ≠ [] then .oneOf set :: read none rest
      else
        match rest with
        | '-' :: last :: rest => read (some (set.withRange c last)) rest
        | ['-'] => [.nothing]
        | rest => read (some (set.withRange c c)) rest

/-- Whether the bytes of a name match the parts of a pattern. -/
def matchesAll : List PatternPart → Text → Bool
  | [], name => name.isEmpty
  | .run :: parts, name =>
    (List.range (name.length + 1)).any fun n => matchesAll parts (name.drop n)
  | .nothing :: _, _ => false
  | _ :: _, [] => false
  | .one :: parts, _ :: name => matchesAll parts name
  | .oneOf set :: parts, c :: name => set.contains c && matchesAll parts name
  | .literal d :: parts, c :: name => c == d && matchesAll parts name

end PatternPart

/-- Whether a text is a pattern: it holds one of the special characters without a backslash before
it. -/
def isPattern : Text → Bool
  | [] => false
  | '\\' :: _ :: rest => isPattern rest
  | c :: rest => c == '*' || c == '?' || c == '[' || isPattern rest

/-- Whether a name matches a pattern. -/
def matchesPattern (pattern name : Text) : Bool :=
  PatternPart.matchesAll (PatternPart.read none (bytesOf pattern)) (bytesOf name)

end CsvIntake.CommandLine
