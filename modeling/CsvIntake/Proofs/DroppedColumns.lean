import CsvIntake.Proofs.CsvTexts
import CsvIntake.Proofs.TypedRows

/-! Columns that are dropped from a file. The columns that take the name of the key go out of the header and out of
every row by their places, and every other value stays under its own column: the types that are inferred from the
remaining columns are those inferred in the whole file, and the values that are read in them are the same. -/
namespace CsvIntake

/-- The entries of a list that do not stand in the given places, in order. -/
def withoutPlaces {α : Type} (places : List Nat) (entries : List α) : List α :=
  (entries.zipIdx.filter fun entry => !places.contains entry.2).map Prod.fst

variable {α β : Type}

/-! ### Marked columns -/

@[simp] theorem dropMarked_nil (marks : List Bool) : dropMarked marks ([] : List α) = [] := by
  rw [dropMarked]

@[simp] theorem dropMarked_unmarked (entries : List α) : dropMarked [] entries = entries := by
  cases entries <;> rfl

/-- A marked column goes out of a row whether or not the row reaches it. -/
@[simp] theorem dropMarked_true (marks : List Bool) (entries : List α) :
    dropMarked (true :: marks) entries = dropMarked marks entries.tail := by
  cases entries with
  | nil => simp
  | cons entry entries => simp [dropMarked]

@[simp] theorem dropMarked_false_cons (marks : List Bool) (entry : α) (entries : List α) :
    dropMarked (false :: marks) (entry :: entries) = entry :: dropMarked marks entries := by
  simp [dropMarked]

theorem map_dropMarked (f : α → β) (marks : List Bool) (entries : List α) :
    dropMarked marks (entries.map f) = (dropMarked marks entries).map f := by
  induction marks generalizing entries with
  | nil => simp
  | cons marked marks ih =>
      cases entries with
      | nil => simp
      | cons entry entries => cases marked <;> simp [ih]

/-- Marks drop the entries in the marked places and no others. -/
theorem dropMarked_eq_filter (marks : List Bool) (entries : List α) :
    dropMarked marks entries =
      (entries.zipIdx.filter fun entry => !(marks[entry.2]? == some true)).map Prod.fst := by
  induction entries generalizing marks with
  | nil => simp
  | cons entry entries ih =>
      -- behind the first entry the places are those in the rest, one further on
      rw [List.zipIdx_cons, List.zipIdx_succ, List.filter_cons, List.filter_map]
      cases marks with
      | nil => simp [Function.comp_def]
      | cons marked marks => cases marked <;> simpa [Function.comp_def] using ih marks

/-- The dropped places are those where the header names the key. -/
theorem mem_keyPositions_iff {header : Row} {i : Nat} :
    i ∈ keyPositions header ↔ ∃ raw, header[i]? = some raw ∧ columnName raw = rowKeyName := by
  simp [keyPositions, keyColumns, List.mk_mem_zipIdx_iff_getElem?]

/-- The places of the key columns say what is dropped. -/
theorem dropMarked_keyColumns (header : Row) (entries : List α) :
    dropMarked (keyColumns header) entries = withoutPlaces (keyPositions header) entries := by
  rw [dropMarked_eq_filter, withoutPlaces]
  congr 1
  apply List.filter_congr
  intro entry _
  rw [Bool.eq_iff_iff]
  simp [mem_keyPositions_iff, keyColumns]

/-! ### Inference without some columns -/

variable {separators : NumberSeparators}

namespace ColumnType

@[simp] theorem relaxRow_nil (types : List (Option ColumnType)) :
    relaxRow separators types [] = types := by
  cases types <;> rfl

/-- A row moves the remaining columns as it does beside the dropped ones. -/
theorem relaxRow_dropMarked (marks : List Bool) (types : List (Option ColumnType)) (row : Row) :
    relaxRow separators (dropMarked marks types) (dropMarked marks row) =
      dropMarked marks (relaxRow separators types row) := by
  induction marks generalizing types row with
  | nil => simp
  | cons marked marks ih =>
      cases row with
      | nil => simp
      | cons value row =>
          cases types with
          | nil => simp [relaxRow]
          | cons t types => cases marked <;> simp [relaxRow, ih]

/-- The remaining columns get the types that they get beside the dropped ones. -/
theorem ofRows_dropMarked (marks : List Bool) (types : List (Option ColumnType)) (rows : List Row) :
    ofRows separators (dropMarked marks types) (rows.map (dropMarked marks)) =
      dropMarked marks (ofRows separators types rows) := by
  rw [ofRows, ofRows, map_dropMarked, relaxRows, relaxRows, List.foldl_map]
  exact congrArg _ (List.foldl_hom (dropMarked marks) (relaxRow_dropMarked marks))

end ColumnType

/-! ### Reading without some columns -/

/-- Without some columns a row is read as the same values in the others. -/
theorem ReadAs.dropMarked (marks : List Bool) {types : List ColumnType} {row : Row} {values : List Value}
    (h : ReadAs separators types row values) :
    ReadAs separators (CsvIntake.dropMarked marks types) (CsvIntake.dropMarked marks row)
      (CsvIntake.dropMarked marks values) := by
  induction marks generalizing types row values with
  | nil => simpa using h
  | cons marked marks ih =>
      cases types with
      | nil =>
          obtain rfl : values = [] := List.length_eq_zero_iff.mp h.1
          simp [ReadAs]
      | cons t types =>
          obtain ⟨v, rest, rfl, hFirst, hRest⟩ := readAs_cons_iff.mp h
          cases marked with
          | true => simpa using ih hRest
          | false =>
              rw [dropMarked_false_cons, dropMarked_false_cons, readAs_cons_iff]
              refine ⟨v, _, rfl, ?_, ?_⟩
              · cases row <;> simpa using hFirst
              · cases row <;> simpa using ih hRest

/-- If rows are read, they are read without some columns too, as the same rows without these. -/
theorem readRows_dropMarked {marks : List Bool} {types : List ColumnType} {rows : List Row}
    {names : List Text} {values : List (List Value)}
    (h : (readRows separators types rows names).all = .ok values) (others : List Text) :
    (readRows separators (dropMarked marks types) (rows.map (dropMarked marks)) others).all =
      .ok (values.map (dropMarked marks)) := by
  obtain ⟨hReadable, hRows⟩ := readRows_all_eq_ok_iff.mp h
  rw [readRows_all_eq_ok_iff, List.forall₂_map_left_iff, List.forall₂_map_right_iff]
  constructor
  · intro t ht
    exact hReadable t (mem_of_mem_dropMarked ht)
  · exact hRows.imp fun _ _ hRow => hRow.dropMarked marks

/-- Of a file, the columns whose entries in the header take the name of the key are dropped, from the header and
from every row. The types inferred without them are the types inferred with them, but for those in the dropped
places; and rows that are read with them, as any types, are read without them as the same rows but for the values
in these places. -/
theorem keyless_columns_keep_values (separators : NumberSeparators) (header : Row) (rows : List Row) :
    let dropped := keyPositions header
    (∀ i, i ∈ dropped ↔ ∃ raw, header[i]? = some raw ∧ columnName raw = rowKeyName) ∧
    headerWithoutKeys header = withoutPlaces dropped header ∧
    rowsWithoutKeys header rows = rows.map (withoutPlaces dropped) ∧
    ColumnType.ofRows separators ((headerWithoutKeys header).map fun _ => none) (rowsWithoutKeys header rows) =
      withoutPlaces dropped (ColumnType.ofRows separators (header.map fun _ => none) rows) ∧
    ∀ (types : List ColumnType) (names others : List Text) (values : List (List Value)),
      (readRows separators types rows names).all = .ok values →
      (readRows separators (withoutPlaces dropped types) (rowsWithoutKeys header rows) others).all =
        .ok (values.map (withoutPlaces dropped)) := by
  intro dropped
  have hDropped : ∀ {γ : Type}, withoutPlaces (α := γ) dropped = dropMarked (keyColumns header) :=
    funext fun entries => (dropMarked_keyColumns header entries).symm
  refine ⟨fun _ => mem_keyPositions_iff, dropMarked_keyColumns header header, ?_, ?_, ?_⟩
  · rw [hDropped, rowsWithoutKeys]
  · rw [hDropped, headerWithoutKeys, rowsWithoutKeys, ← map_dropMarked, ColumnType.ofRows_dropMarked]
  · intro types names others values hRead
    rw [hDropped, hDropped, rowsWithoutKeys]
    exact readRows_dropMarked hRead others

/-- Two columns are dropped, in rows of which the first ends before the second one and the last goes on behind
the header. -/
theorem keyless_columns_keep_word_and_number :
    ∃ (header : Row) (rows : List Row),
      header = [some "_MB_ROW_ID".toList, some ['b'], some "_mb row id".toList, some ['n']] ∧
      rows = [[some ['7'], some "yes".toList], [none, some [' '], some ['x'], some ['4'], some ['?']]] ∧
      (readRows .dotComma [.text, .boolean, .text, .int] rows []).all =
        .ok [[.text ['7'], .boolean true, .null, .null], [.null, .null, .text ['x'], .integer 4]] ∧
      headerWithoutKeys header = [some ['b'], some ['n']] ∧
      ColumnType.ofRows .dotComma [none, none] (rowsWithoutKeys header rows) = [.boolean, .int] ∧
      (readRows .dotComma [.boolean, .int] (rowsWithoutKeys header rows) []).all =
        .ok [[.boolean true, .null], [.null, .integer 4]] := by
  let header : Row := [some "_MB_ROW_ID".toList, some ['b'], some "_mb row id".toList, some ['n']]
  let rows : List Row := [[some ['7'], some "yes".toList],
    [none, some [' '], some ['x'], some ['4'], some ['?']]]
  have hRead : (readRows .dotComma [.text, .boolean, .text, .int] rows []).all =
      .ok [[.text ['7'], .boolean true, .null, .null], [.null, .null, .text ['x'], .integer 4]] := by
    decide +kernel
  have hPlaces : keyPositions header = [0, 2] := by decide +kernel
  have hTypes : ColumnType.ofRows .dotComma (header.map fun _ => none) rows =
      [.int, .boolean, .varchar255, .int] := by
    decide +kernel
  obtain ⟨_, hHeader, _, hInferred, hValues⟩ := keyless_columns_keep_values .dotComma header rows
  rw [hPlaces] at hHeader hInferred hValues
  rw [hTypes, hHeader] at hInferred
  exact ⟨header, rows, rfl, rfl, hRead, hHeader, hInferred, hValues _ [] [] _ hRead⟩

end CsvIntake
