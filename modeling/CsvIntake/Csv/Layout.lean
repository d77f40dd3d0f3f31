import CsvIntake.Csv.Line

/-! The number of columns of a file, and whether its lines agree on it. The first line gives the number.
A line may have fewer fields, and one empty field more if no line from there on has a value behind its
last comma. Lines that start with `#` are comments only where the other lines agree better without
them; behind a comment, a line with more fields raises the number. -/
namespace CsvIntake

/-- What has been found of the columns: their number, how many records have as many fields and how many
have fewer, and how many stand before the number was raised; then all comments and all records. -/
structure CsvShape where
  width : Nat
  fitting : Nat := 0
  padded : Nat := 0
  before : Nat := 0
  comments : Nat := 0
  records : Nat := 0
  deriving DecidableEq, Repr

namespace CsvShape

/-- The shape before any line is counted. A comment counts as one field. -/
def start (lines : List CsvLine) : CsvShape :=
  match lines.find? (· != .blank) with
  | some (.record r) => { width := r.fields.length }
  | _ => { width := 1 }

/-- Counts a record. `endsEmpty` says that no line from it on has a value behind its last comma. -/
def withRecord (shape : CsvShape) (endsEmpty : Bool) (r : CsvRecord) : CsvShape :=
  let n := r.fields.length
  let shape := { shape with records := shape.records + 1 }
  if endsEmpty ∧ n = shape.width + 1 then { shape with fitting := shape.fitting + 1 }
  else if n = shape.width then { shape with fitting := shape.fitting + 1 }
  else if n < shape.width then { shape with padded := shape.padded + 1 }
  else if 0 < shape.comments then
    { shape with width := n, fitting := 1, padded := 0, before := shape.records - 1 }
  else shape

/-- Counts lines, from a shape on. Each line comes with whether no line from it on has a value behind
its last comma. -/
def countFrom (shape : CsvShape) : List (Bool × CsvLine) → CsvShape
  | [] => shape
  | (_, .blank) :: rest => countFrom shape rest
  | (_, .comment) :: rest => countFrom { shape with comments := shape.comments + 1 } rest
  | (endsEmpty, .record r) :: rest => countFrom (shape.withRecord endsEmpty r) rest

/-- Says of each line whether no line from it on has a value behind its last comma. -/
def withEnds : List CsvLine → List (Bool × CsvLine)
  | [] => []
  | line :: rest =>
    match withEnds rest with
    | [] => [(line.endsEmpty, line)]
    | (later, next) :: more => (line.endsEmpty && later, line) :: (later, next) :: more

/-- The shape of lines. -/
def ofLines (lines : List CsvLine) : CsvShape := countFrom (start lines) (withEnds lines)

/-- Whether no record has too many fields. -/
def agrees (shape : CsvShape) : Bool :=
  shape.before + shape.fitting + shape.padded == shape.records

/-- Whether what may be comments are comments: one of them is a whole line, which does not have as many
fields as there are columns, and at least three in five either are such lines or stand behind as many
fields as there are columns. -/
def takesComments (shape : CsvShape) (lines : List CsvLine) : Bool :=
  let behind := lines.filterMap fun line => match line with
    | .record r => if r.endsInComment then some r.fields.length else none
    | _ => none
  let kept := shape.comments + behind.count shape.width
  decide (0 < shape.comments) && shape.width != 1 &&
    decide (3 * (shape.comments + behind.length) ≤ 5 * kept)

end CsvShape

/-- Lines with their number of columns. -/
structure CsvLayout where
  width : Nat
  padded : Nat
  lines : List CsvLine
  deriving DecidableEq, Repr

namespace CsvLayout

/-- The layout of lines that hold no comments. -/
def plain (lines : List Text) : Except CsvFault CsvLayout :=
  match CsvLine.readAll false lines with
  | .error fault => .error fault
  | .ok read =>
    let shape := CsvShape.ofLines read
    if shape.agrees then .ok ⟨shape.width, shape.padded, read⟩ else .error .tooManyFields

/-- The layout of lines that hold comments. -/
def commented? (lines : List Text) : Option CsvLayout :=
  match CsvLine.readAll true lines with
  | .error _ => none
  | .ok read =>
    let shape := CsvShape.ofLines read
    if shape.agrees && shape.takesComments read then some ⟨shape.width, shape.padded, read⟩ else none

/-- The layout of lines. They hold comments if they do not agree otherwise, or if fewer records lack
fields so. -/
def ofLines (lines : List Text) : Except CsvFault CsvLayout :=
  match plain lines, commented? lines with
  | .error _, some commented => .ok commented
  | .ok plain, some commented => .ok (if commented.padded < plain.padded then commented else plain)
  | result, none => result

/-- The records of a layout. Blank lines are records only where there is one column. -/
def records (layout : CsvLayout) : List (List Text) :=
  layout.lines.filterMap fun line => match line with
    | .blank => if layout.width = 1 then some [[]] else none
    | .comment => none
    | .record r => some r.fields

end CsvLayout

end CsvIntake
