import CsvIntake.Inference
import CsvIntake.Text.AsciiFold

/-! Column names. The names of a file's header are made into lower-case names of ASCII letters,
digits and underscores, and repeated ones are told apart by a number. Columns that take the name of
the generated key are dropped, since the key is generated anew. -/
namespace CsvIntake

/-- The name of the generated key column. -/
def rowKeyName : Text := "_mb_row_id".toList

/-- The name of a column whose own name says nothing. -/
def unnamedColumn : Text := "unnamed_column".toList

/-- The characters that a name keeps. -/
def isSlugChar (c : Char) : Bool :=
  decide ('a' ≤ c ∧ c ≤ 'z') || decide ('0' ≤ c ∧ c ≤ '9') || c == '_'

/-- A text in lower-case ASCII, with an underscore for every character that a name does not keep. -/
def slug (s : Text) : Text :=
  (Text.lowerAscii (Text.asciiFold s)).map fun c => if isSlugChar c then c else '_'

/-- A slug holds only characters that names keep. -/
theorem isSlugChar_of_mem_slug {s : Text} {c : Char} (h : c ∈ slug s) : isSlugChar c := by
  obtain ⟨d, _, rfl⟩ := List.mem_map.1 h
  split
  · assumption
  · decide

/-- The name that a column has in the database. -/
def columnName (raw : Option Text) : Text :=
  match raw with
  | none => unnamedColumn
  | some s =>
    let name := slug (Text.trim s)
    if Text.isBlank s || name.isEmpty then unnamedColumn else name

/-- A name with a number after it. -/
def numbered (name : Text) (number : Nat) : Text := name ++ '_' :: Text.ofNat number

/-- The least number from two on with which a name is not taken. -/
def leastFreeNumber (taken : List Text) (name : Text) : Nat :=
  ((List.range' 2 (taken.length + 1)).find? fun k => !taken.contains (numbered name k)).getD 2

/-- Numbers the names that occur in `seen`; a numbered name counts as taken and as seen. -/
def uniquifyFrom (taken seen : List Text) : List Text → List Text
  | [] => []
  | name :: names =>
    if seen.contains name then
      let fresh := numbered name (leastFreeNumber taken name)
      fresh :: uniquifyFrom (fresh :: taken) (fresh :: seen) names
    else name :: uniquifyFrom taken (name :: seen) names

/-- Making names unique keeps their number. -/
theorem length_uniquifyFrom (taken seen names : List Text) :
    (uniquifyFrom taken seen names).length = names.length := by
  induction names generalizing taken seen with
  | nil => rfl
  | cons name names ih =>
    rw [uniquifyFrom]
    split <;> simp [ih]

/-- Makes names distinct. The first of equal names stays; each later one gets the least number with
which it is neither a given name nor one made before. -/
def uniquify (names : List Text) : List Text := uniquifyFrom names [] names

/-- Whether each column of a header would take the name of the generated key. -/
def keyColumns (header : Row) : List Bool := header.map fun raw => columnName raw == rowKeyName

/-- The places of the columns that would take the name of the generated key. -/
def keyPositions (header : Row) : List Nat :=
  ((keyColumns header).zipIdx.filter Prod.fst).map Prod.snd

/-- The entries of a list whose mark is not set; entries without a mark stay. -/
def dropMarked {α : Type} : List Bool → List α → List α
  | _, [] => []
  | [], xs => xs
  | marked :: marks, x :: xs => if marked then dropMarked marks xs else x :: dropMarked marks xs

/-- The header without the columns that would take the name of the generated key. -/
def headerWithoutKeys (header : Row) : Row := dropMarked (keyColumns header) header

/-- The rows without the columns that are dropped from the header. -/
def rowsWithoutKeys (header : Row) (rows : List Row) : List Row :=
  rows.map (dropMarked (keyColumns header))

end CsvIntake
