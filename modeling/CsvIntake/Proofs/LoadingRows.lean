import CsvIntake.Proofs.ReadingValues
import CsvIntake.RowReading

/-! Loading rows. Reading stops exactly if some cell cannot be read, and its failure is that of a cell,
with the place added. Rows whose columns were typed by inference hold no bad value: each column type holds
every value of its column. -/
namespace CsvIntake

/-- No value of the rows goes on over a line feed. -/
def SingleLineValues (rows : List Row) : Prop :=
  ∀ row ∈ rows, ∀ s, some s ∈ row → '\n' ∉ s

/-- Some value of the rows is a number too long to be negated. -/
def HasOverlongNumber (separators : NumberSeparators) (rows : List Row) : Prop :=
  ∃ row ∈ rows, ∃ s, some s ∈ row ∧ IsOverlongNumber separators s

/-- The failure of a cell as the failure of its row: only a bad value takes a place. -/
def placed (names : List Text) (row column : Nat) (t : ColumnType) : Error → Error
  | .badValue bad => located names row column t bad
  | e => e

/-- All rows are there exactly if nothing ended the reading. -/
theorem TypedRows.all_eq_ok_iff {read : TypedRows} {values : List (List Value)} :
    read.all = .ok values ↔ read.failure = none ∧ read.rows = values := by
  rw [all]
  split <;> simp [*]

/-- The failure of a cell in a named column tells the value, its type, and the row and the column. -/
theorem placed_badValue {names : List Text} {column : Nat} {name : Text} (h : names[column]? = some name)
    (row : Nat) (t : ColumnType) (bad : BadValue) :
    placed names row column t (.badValue bad) = .badValue
      { value := bad.value, expected := .type t, row := some row, column := some name } := by
  have hSome : names.isEmpty = false := by
    cases names with
    | nil => cases h
    | cons _ _ => rfl
  simp [placed, located, hSome, h]

variable {separators : NumberSeparators} {names : List Text}

/-- The cells of a row are read from the left, and the first that fails ends the row with its place. -/
theorem readCells_cons (row column : Nat) (t : ColumnType) (types : List ColumnType) (cells : Row) :
    readCells separators names row column (t :: types) cells =
      match readCell separators t cells.head?.join with
      | .error cause => .error (placed names row column t cause)
      | .ok value =>
        (readCells separators names row (column + 1) types cells.tail).map (value :: ·) := by
  rw [readCells]
  cases readCell separators t cells.head?.join with
  | error cause => cases cause <;> rfl
  | ok value =>
      cases hRest : readCells separators names row (column + 1) types cells.tail <;>
        simp [Except.map]

/-- A row fails by the first of its cells that cannot be read. -/
theorem exists_cell_of_readCells_error {row column : Nat} {types : List ColumnType} {cells : Row}
    {e : Error} (h : readCells separators names row column types cells = .error e) :
    ∃ i t cause, types[i]? = some t ∧
      readCell separators t (cells[i]?).join = .error cause ∧
      e = placed names row (column + i) t cause ∧
      ∀ j u, j < i → types[j]? = some u → (readCell separators u (cells[j]?).join).isOk = true := by
  induction types generalizing column cells e with
  | nil => cases h
  | cons t types ih =>
      rw [readCells_cons] at h
      cases hCell : readCell separators t cells.head?.join with
      | error cause =>
          rw [hCell] at h
          refine ⟨0, t, cause, rfl, ?_, (Except.error.inj h).symm, ?_⟩
          · rwa [← List.head?_eq_getElem?]
          · intro j u hj
            cases hj
      | ok value =>
          rw [hCell] at h
          cases hRest : readCells separators names row (column + 1) types cells.tail with
          | ok values => simp [hRest, Except.map] at h
          | error cause =>
              obtain ⟨i, u, cause, hType, hCause, hPlace, hBefore⟩ := ih hRest
              simp only [hRest, Except.map, Except.error.injEq] at h
              refine ⟨i + 1, u, cause, hType, ?_, ?_, ?_⟩
              · rwa [List.getElem?_tail] at hCause
              · rw [← h, hPlace]
                congr 1
                omega
              · intro j w hj hw
                cases j with
                | zero =>
                    obtain rfl := Option.some.inj hw
                    rw [← List.head?_eq_getElem?, hCell]
                    rfl
                | succ j =>
                    have hLater := hBefore j w (Nat.lt_of_succ_lt_succ hj) hw
                    rwa [List.getElem?_tail] at hLater

theorem isOk_readCell_of_readCells {row column : Nat} {types : List ColumnType} {cells : Row}
    {values : List Value} (h : readCells separators names row column types cells = .ok values)
    {i : Nat} {t : ColumnType} (ht : types[i]? = some t) :
    (readCell separators t (cells[i]?).join).isOk = true := by
  induction types generalizing column cells values i with
  | nil => cases ht
  | cons u types ih =>
      rw [readCells_cons] at h
      cases hCell : readCell separators u cells.head?.join with
      | error cause =>
          rw [hCell] at h
          cases h
      | ok value =>
          rw [hCell] at h
          cases hRest : readCells separators names row (column + 1) types cells.tail with
          | error cause => simp [hRest, Except.map] at h
          | ok others =>
              cases i with
              | zero =>
                  obtain rfl : u = t := Option.some.inj ht
                  rw [← List.head?_eq_getElem?, hCell]
                  rfl
              | succ i =>
                  have hLater := ih hRest ht
                  rwa [List.getElem?_tail] at hLater

/-- If reading does not fail, every cell was read. -/
theorem isOk_readCell_of_readRowsFrom {types : List ColumnType} {number : Nat} {rows : List Row}
    (h : (readRowsFrom separators names types number rows).failure = none) {row : Row}
    (hRow : row ∈ rows) {i : Nat} {t : ColumnType} (ht : types[i]? = some t) :
    (readCell separators t (row[i]?).join).isOk = true := by
  induction rows generalizing number with
  | nil => cases hRow
  | cons cells rest ih =>
      rw [readRowsFrom] at h
      cases hCells : readCells separators names number 0 types cells with
      | error e => simp [hCells] at h
      | ok values =>
          rw [hCells] at h
          rcases List.mem_cons.mp hRow with rfl | hRow
          · exact isOk_readCell_of_readCells hCells ht
          · exact ih h hRow

/-- When no row fails, every cell is read in the type of its column. -/
theorem isOk_readCell_of_readRows {types : List ColumnType} {rows : List Row}
    (h : (readRows separators types rows names).failure = none) {row : Row} (hRow : row ∈ rows)
    {i : Nat} {t : ColumnType} (ht : types[i]? = some t) :
    (readCell separators t (row[i]?).join).isOk = true := by
  rw [readRows] at h
  split at h
  · cases h
  · exact isOk_readCell_of_readRowsFrom h hRow ht

/-- If reading fails, it fails by the first row that cannot be read, and has read the rows before it. -/
theorem exists_row_of_readRowsFrom {types : List ColumnType} {number : Nat} {rows : List Row}
    {e : Error} (h : (readRowsFrom separators names types number rows).failure = some e) :
    ∃ front cells back, rows = front ++ cells :: back ∧
      (readRowsFrom separators names types number front).all =
        .ok (readRowsFrom separators names types number rows).rows ∧
      readCells separators names (number + front.length) 0 types cells = .error e := by
  induction rows generalizing number with
  | nil => cases h
  | cons cells rest ih =>
      rw [readRowsFrom] at h ⊢
      cases hCells : readCells separators names number 0 types cells with
      | error cause =>
          rw [hCells] at h
          obtain rfl := Option.some.inj h
          exact ⟨[], cells, rest, rfl, rfl, hCells⟩
      | ok values =>
          rw [hCells] at h
          obtain ⟨front, bad, back, rfl, hFront, hBad⟩ := ih h
          refine ⟨cells :: front, bad, back, rfl, ?_, ?_⟩
          · obtain ⟨hNone, hValues⟩ := TypedRows.all_eq_ok_iff.mp hFront
            rw [readRowsFrom, hCells, TypedRows.all_eq_ok_iff]
            exact ⟨hNone, congrArg (values :: ·) hValues⟩
          · rwa [List.length_cons, ← Nat.add_assoc, Nat.add_right_comm]

/-- If reading fails, it fails as some cell does. -/
theorem exists_cell_of_readRowsFrom {types : List ColumnType} {number : Nat} {rows : List Row}
    {e : Error} (h : (readRowsFrom separators names types number rows).failure = some e) :
    ∃ row ∈ rows, ∃ place i t cause, types[i]? = some t ∧
      readCell separators t (row[i]?).join = .error cause ∧ e = placed names place i t cause := by
  obtain ⟨front, cells, back, rfl, _, hCells⟩ := exists_row_of_readRowsFrom h
  obtain ⟨i, t, cause, ht, hCause, hPlace, _⟩ := exists_cell_of_readCells_error hCells
  rw [Nat.zero_add] at hPlace
  exact ⟨cells, by simp, _, i, t, cause, ht, hCause, hPlace⟩

/-- A cell that fails holds a value that is not blank. -/
theorem exists_value_of_readCell_error {t : ColumnType} {cell : Option Text} {cause : Error}
    (h : readCell separators t cell = .error cause) :
    ∃ s, cell = some s ∧ Text.isBlank s = false ∧ t.read separators s = .error cause := by
  cases cell with
  | none => cases h
  | some s =>
      rw [readCell] at h
      split at h
      · cases h
      · rename_i hBlank
        exact ⟨s, rfl, eq_false_of_ne_true hBlank, h⟩

theorem readCell_of_not_isBlank {t : ColumnType} {s : Text} (h : Text.isBlank s = false) :
    readCell separators t (some s) = t.read separators s := by
  rw [readCell, h]
  rfl

/-- Reading rows fails before the first row only if some type is not readable, and else by a cell. -/
theorem failure_cases {types : List ColumnType} {rows : List Row} {e : Error}
    (h : (readRows separators types rows names).failure = some e) :
    (∃ t ∈ types, t.isReadable = false ∧ e = .noReader t) ∨
    ∃ row ∈ rows, ∃ s, ∃ place i t cause, types[i]? = some t ∧ row[i]? = some (some s) ∧
      Text.isBlank s = false ∧ t.read separators s = .error cause ∧
      e = placed names place i t cause := by
  rw [readRows] at h
  split at h
  · rename_i t hFind
    left
    refine ⟨t, List.mem_of_find?_eq_some hFind, by simpa using List.find?_some hFind, ?_⟩
    exact (Option.some.inj h).symm
  · right
    obtain ⟨row, hRow, place, i, t, cause, ht, hCell, hPlace⟩ := exists_cell_of_readRowsFrom h
    obtain ⟨s, hs, hBlank, hRead⟩ := exists_value_of_readCell_error hCell
    exact ⟨row, hRow, s, place, i, t, cause, ht, Option.join_eq_some_iff.mp hs, hBlank, hRead, hPlace⟩

/-- Loading rows whose values stand in one line ends with the overflow of a negation only if some number is
too long for it, whatever the types are. -/
theorem hasOverlongNumber_of_failure {types : List ColumnType} {rows : List Row}
    (hLines : SingleLineValues rows)
    (h : (readRows separators types rows names).failure = some .negationOverflow) :
    HasOverlongNumber separators rows := by
  rcases failure_cases h with ⟨_, _, _, hReader⟩ | ⟨row, hRow, s, place, i, t, cause, _, hs, _, hRead, hPlace⟩
  · cases hReader
  have hMem := List.mem_of_getElem? hs
  have hCause : cause = .negationOverflow := by
    cases cause with
    | badValue bad =>
        simp only [placed, located] at hPlace
        split at hPlace
        · cases hPlace
        · split at hPlace <;> cases hPlace
    | _ => exact hPlace.symm
  have hKey : t ≠ .rowKey := by
    rintro rfl
    cases hRead
    cases hCause
  rcases ColumnType.read_error_cases (hLines row hRow s hMem) hKey hRead with
    ⟨bad, hBad⟩ | ⟨_, _, hLong⟩ | ⟨_, hLarge⟩
  · rw [hBad, hCause] at hRead
    cases hRead
  · exact ⟨row, hRow, s, hMem, hLong⟩
  · rw [hCause] at hLarge
    cases hLarge

namespace ColumnType

/-- Inferred types hold the values that they were inferred from. -/
theorem holds_of_ofRows {types : List (Option ColumnType)} {rows : List Row} {i : Nat}
    {t : ColumnType} (ht : (ofRows separators types rows)[i]? = some t) {row : Row}
    (hRow : row ∈ rows) {s : Text} (hs : row[i]? = some (some s))
    (hBlank : Text.isBlank s = false) : holds separators t s = true := by
  rw [ofRows_getElem?] at ht
  obtain ⟨seed, _, rfl⟩ := Option.map_eq_some_iff.mp ht
  have hMem : some s ∈ columnValues i rows := mem_columnValues.mpr ⟨row, hRow, hs⟩
  obtain ⟨u, hu, hHolds⟩ := exists_foldl_relax_holds separators hMem hBlank seed
  rw [hu]
  exact holds_mono (le_ofValues u) hHolds

/-- Every inferred type can read values. -/
theorem isReadable_of_mem_ofRows {types : List (Option ColumnType)} (hKey : some .rowKey ∉ types)
    {rows : List Row} {t : ColumnType} (ht : t ∈ ofRows separators types rows) :
    t.isReadable = true := by
  have hValues : ∀ k : Option ColumnType, k ≠ some .rowKey → (ofValues k).isReadable = true := by
    intro k hk
    cases k with
    | none => rfl
    | some k => cases k <;> first | rfl | exact absurd rfl hk
  obtain ⟨i, hi⟩ := List.mem_iff_getElem?.mp ht
  rw [ofRows_getElem?] at hi
  obtain ⟨seed, hSeed, rfl⟩ := Option.map_eq_some_iff.mp hi
  refine hValues _ (foldl_relax_ne_rowKey ?_ _)
  rintro rfl
  exact hKey (List.mem_of_getElem? hSeed)

/-- Rows that are read as what was inferred from them hold no bad value: only a whole number beyond the
binary ones can stop the reading, a number too long to be negated, or a type that has no reader at all. -/
theorem failure_of_ofRows {types : List (Option ColumnType)} {rows : List Row}
    (hLines : SingleLineValues rows) {e : Error}
    (h : (readRows separators (ofRows separators types rows) rows names).failure = some e) :
    e = .tooLargeForFloat ∨ (e = .negationOverflow ∧ HasOverlongNumber separators rows) ∨
      ∃ t ∈ ofRows separators types rows, t.isReadable = false ∧ e = .noReader t := by
  rcases failure_cases h with hReader | ⟨row, hRow, s, place, i, t, cause, ht, hs, hBlank, hRead, rfl⟩
  · exact .inr (.inr hReader)
  · have hMem := List.mem_of_getElem? hs
    rcases read_of_holds (hLines row hRow s hMem) (holds_of_ofRows ht hRow hs hBlank) with
      ⟨v, hv⟩ | ⟨e, he, hBeyond⟩
    · rw [hv] at hRead
      cases hRead
    · obtain rfl : e = cause := by
        rw [he] at hRead
        exact Except.error.inj hRead
      rcases hBeyond with ⟨_, rfl, hLong⟩ | ⟨_, rfl⟩
      · exact .inr (.inl ⟨rfl, row, hRow, s, hMem, hLong⟩)
      · exact .inl rfl

/-- The types detected in rows load these rows: whatever their number and width, no value of them is
bad for its column. What can still stop the loading is a whole number beyond the binary ones in a column
of such numbers, or a number too long to be negated. -/
theorem readRows_of_detected_types (separators : NumberSeparators) (width : Nat) (rows : List Row)
    (hLines : SingleLineValues rows) :
    (readRows separators (ofRows separators (List.replicate width none) rows) rows []).failure = none ∨
    (readRows separators (ofRows separators (List.replicate width none) rows) rows []).failure =
      some .tooLargeForFloat ∨
    (readRows separators (ofRows separators (List.replicate width none) rows) rows []).failure =
      some .negationOverflow ∧ HasOverlongNumber separators rows := by
  cases hFailure : (readRows separators
      (ofRows separators (List.replicate width none) rows) rows []).failure with
  | none => exact .inl rfl
  | some e =>
      right
      rcases failure_of_ofRows hLines hFailure with rfl | ⟨rfl, hLong⟩ | ⟨t, ht, hReadable, _⟩
      · exact .inl rfl
      · exact .inr ⟨rfl, hLong⟩
      · have hKey : some .rowKey ∉ List.replicate width (none : Option ColumnType) := by
          simp [List.mem_replicate]
        simp [isReadable_of_mem_ofRows hKey ht] at hReadable

/-- The column of `1`, `(2,5)` and no value, in rows of different widths, is one of binary numbers, and is
read to its end. -/
theorem readRows_of_one_and_minus_two_and_a_half :
    SingleLineValues [[some ['1'], some ['x']], [some ['(', '2', ',', '5', ')']], []] ∧
    ofRows .commaDot [none] [[some ['1'], some ['x']], [some ['(', '2', ',', '5', ')']], []] =
      [.float] ∧
    (readRows .commaDot [.float] [[some ['1'], some ['x']], [some ['(', '2', ',', '5', ')']], []]
      []).failure = none := by
  have hLines : SingleLineValues
      [[some ['1'], some ['x']], [some ['(', '2', ',', '5', ')']], []] := by
    simp [SingleLineValues]
  have hTypes : ofRows .commaDot (List.replicate 1 none)
      [[some ['1'], some ['x']], [some ['(', '2', ',', '5', ')']], []] = [.float] := by
    decide +kernel
  have hLoad := readRows_of_detected_types .commaDot 1 _ hLines
  rw [hTypes] at hLoad
  refine ⟨hLines, hTypes, ?_⟩
  rcases hLoad with hRead | hLarge | ⟨hOverflows, _⟩
  · exact hRead
  · revert hLarge
    decide +kernel
  · revert hOverflows
    decide +kernel

end ColumnType

end CsvIntake
