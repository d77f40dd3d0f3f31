import CsvIntake.Proofs.RaggedRows
import CsvIntake.Proofs.TypedRows

/-! The first value that cannot be read. Rows are read from top to bottom and their cells from left to right, and
the first cell that fails ends the reading: the rows above it are read in full, nothing of its own row is
given, and if its value is bad for its type, the failure tells this value and where it stands. -/
namespace CsvIntake

variable {separators : NumberSeparators} {names : List Text} {types : List ColumnType}

/-! ### The value that is blamed -/

/-- The result blames no other value than the given one. -/
def BlamesOnly {α : Type} (s : Text) (result : Except Error α) : Prop :=
  ∀ bad, result = .error (.badValue bad) → bad.value = s

section Blame

variable {α β : Type} {s : Text}

@[simp] theorem blamesOnly_ok (a : α) : BlamesOnly s (.ok a : Except Error α) := by
  intro bad h
  cases h

@[simp] theorem blamesOnly_unreadable (expected : Expected) :
    BlamesOnly s (unreadable s expected : Except Error α) := by
  rintro _ ⟨⟩
  rfl

@[simp] theorem blamesOnly_outOfRange (t : ColumnType) (fault : Iso.Fault) :
    BlamesOnly s (outOfRange s t fault : Except Error α) := by
  rintro _ ⟨⟩
  rfl

theorem BlamesOnly.map {result : Except Error α} (h : BlamesOnly s result) (f : α → β) :
    BlamesOnly s (result.map f) := by
  cases result with
  | ok a => exact blamesOnly_ok (f a)
  | error e =>
      rintro bad ⟨⟩
      exact h bad rfl

theorem blamesOnly_readBoolean (s : Text) : BlamesOnly s (readBoolean s) := by
  rw [readBoolean]
  split <;> simp

theorem blamesOnly_readDate (s : Text) : BlamesOnly s (readDate s) := by
  rw [readDate]
  split <;> simp

theorem blamesOnly_readOffsetDatetime (s : Text) : BlamesOnly s (readOffsetDatetime s) := by
  rw [readOffsetDatetime]
  split
  · simp
  · split
    · simp
    · split <;> simp

/-- A refused datetime is blamed with its own text, for whichever of its two readings. -/
theorem blamesOnly_readDatetime (s : Text) : BlamesOnly s (readDatetime s) := by
  rw [readDatetime]
  split
  · simp
  · split <;> simp

/-- A refused number is blamed with its own text; an overflow of its negation blames no text. -/
theorem blamesOnly_readNumber (s : Text) : BlamesOnly s (readNumber separators s) := by
  rw [readNumber]
  split
  · simp
  · split
    · simp
    · split
      · rintro bad ⟨⟩
      · simp

theorem blamesOnly_readInteger (s : Text) : BlamesOnly s (readInteger separators s) := by
  rw [readInteger]
  split
  · split
    · simp
    · simp
    · rename_i hNumber
      rintro bad ⟨⟩
      exact blamesOnly_readNumber s bad hNumber
  · simp

theorem blamesOnly_readFloat (s : Text) : BlamesOnly s (readFloat separators s) := by
  rw [readFloat]
  split
  · rename_i hNumber
    rintro bad ⟨⟩
    exact blamesOnly_readNumber s bad hNumber
  · split
    · simp
    · rintro bad ⟨⟩

/-- Whatever a value is read as, a failure as a bad value names this value. -/
theorem ColumnType.blamesOnly_read (t : ColumnType) (s : Text) : BlamesOnly s (t.read separators s) := by
  cases t with
  | booleanOrInt | boolean => exact (blamesOnly_readBoolean s).map _
  | int => exact (blamesOnly_readInteger s).map _
  | float => exact (blamesOnly_readFloat s).map _
  | date => exact (blamesOnly_readDate s).map _
  | datetime => exact (blamesOnly_readDatetime s).map _
  | offsetDatetime => exact (blamesOnly_readOffsetDatetime s).map _
  | varchar255 | text => exact blamesOnly_ok _
  | rowKey => rintro bad ⟨⟩

end Blame

/-! ### Cells that are read, and cells that are not -/

/-- What a cell is read as: a blank or missing value as null, another one as what its type reads in it. -/
def IsReadAs (separators : NumberSeparators) (t : ColumnType) (cell : Option Text) (v : Value) : Prop :=
  (IsBlankCell cell ∧ v = .null) ∨
    ∃ s, cell = some s ∧ Text.isBlank s = false ∧ t.read separators s = .ok v

/-- A cell is read to a value exactly when it says that value in its type: blank cells say none. -/
theorem readCell_eq_ok_iff {t : ColumnType} {cell : Option Text} {v : Value} :
    readCell separators t cell = .ok v ↔ IsReadAs separators t cell v := by
  constructor
  · intro h
    cases cell with
    | none =>
        refine .inl ⟨?_, (Except.ok.inj h).symm⟩
        rintro s ⟨⟩
    | some s =>
        cases hBlank : Text.isBlank s with
        | true =>
            have hCell : IsBlankCell (some s) := by
              rintro _ ⟨⟩
              exact hBlank
            rw [readCell_of_isBlankCell hCell] at h
            exact .inl ⟨hCell, (Except.ok.inj h).symm⟩
        | false =>
            rw [readCell_of_not_isBlank hBlank] at h
            exact .inr ⟨s, rfl, hBlank, h⟩
  · rintro (⟨hBlank, rfl⟩ | ⟨s, rfl, hBlank, hRead⟩)
    · exact readCell_of_isBlankCell hBlank t
    · rw [readCell_of_not_isBlank hBlank, hRead]

/-- A typed row: as wide as the types, and in each column what the cell of the row there is read as. -/
structure IsTypedRow (separators : NumberSeparators) (types : List ColumnType) (row : Row)
    (values : List Value) : Prop where
  width : values.length = types.length
  cells : ∀ (i : Nat) t v, types[i]? = some t → values[i]? = some v →
    IsReadAs separators t (row[i]?).join v

/-- A row is read to values exactly when it is a typed row of them, blanks in the places it lacks. -/
theorem readAs_iff {row : Row} {values : List Value} :
    ReadAs separators types row values ↔ IsTypedRow separators types row values := by
  simp only [ReadAs, readCell_eq_ok_iff]
  exact ⟨fun h => ⟨h.1, h.2⟩, fun h => ⟨h.width, h.cells⟩⟩

/-- The value in some row and column, both counted from zero, is not blank, and its type fails to read it. -/
structure IsBadCell (separators : NumberSeparators) (types : List ColumnType) (rows : List Row)
    (row column : Nat) (t : ColumnType) (s : Text) (cause : Error) : Prop where
  type_eq : types[column]? = some t
  cell_eq : ∃ cells, rows[row]? = some cells ∧ cells[column]? = some (some s)
  notBlank : Text.isBlank s = false
  read_eq : t.read separators s = .error cause

/-- No row above has a value that its type fails to read, and neither has the same row further left. -/
structure IsFirstBadCell (separators : NumberSeparators) (types : List ColumnType) (rows : List Row)
    (row column : Nat) (t : ColumnType) (s : Text) (cause : Error) : Prop
    extends IsBadCell separators types rows row column t s cause where
  first : ∀ r c u w other, IsBadCell separators types rows r c u w other →
    row < r ∨ row = r ∧ column ≤ c

/-- A bad cell is not read. -/
theorem IsBadCell.isOk_eq_false {rows : List Row} {row column : Nat} {t : ColumnType} {s : Text}
    {cause : Error} (h : IsBadCell separators types rows row column t s cause) {cells : Row}
    (hCells : rows[row]? = some cells) : (readCell separators t (cells[column]?).join).isOk = false := by
  obtain ⟨found, hFound, hCell⟩ := h.cell_eq
  obtain rfl := Option.some.inj (hFound.symm.trans hCells)
  rw [hCell, Option.join_some, readCell_of_not_isBlank h.notBlank, h.read_eq]
  rfl

/-- Rows that are read have no bad cell. -/
theorem IsBadCell.failure_ne_none {number : Nat} {rows : List Row} {row column : Nat} {t : ColumnType}
    {s : Text} {cause : Error} (h : IsBadCell separators types rows row column t s cause) :
    (readRowsFrom separators names types number rows).failure ≠ none := by
  intro hNone
  obtain ⟨cells, hCells, _⟩ := h.cell_eq
  have hOk := isOk_readCell_of_readRowsFrom hNone (List.mem_of_getElem? hCells) h.type_eq
  simp [h.isOk_eq_false hCells] at hOk

/-! ### The first bad cell -/

/-- A reading that fails has read the rows above the first bad cell and no others, and its failure is that of
this cell. -/
theorem exists_isFirstBadCell {number : Nat} {rows : List Row} {e : Error}
    (h : (readRowsFrom separators names types number rows).failure = some e) :
    ∃ row column t s cause, IsFirstBadCell separators types rows row column t s cause ∧
      List.Forall₂ (ReadAs separators types) (rows.take row)
        (readRowsFrom separators names types number rows).rows ∧
      e = placed names (number + row) column t cause := by
  obtain ⟨front, cells, back, hRows, hFront, hBad⟩ := exists_row_of_readRowsFrom h
  obtain ⟨column, t, cause, ht, hCause, hPlace, hBefore⟩ := exists_cell_of_readCells_error hBad
  obtain ⟨s, hCell, hBlank, hRead⟩ := exists_value_of_readCell_error hCause
  have hRow : rows[front.length]? = some cells := by simp [hRows]
  rw [Nat.zero_add] at hPlace
  refine ⟨front.length, column, t, s, cause, ⟨⟨ht, ?_, hBlank, hRead⟩, ?_⟩, ?_, hPlace⟩
  · exact ⟨cells, hRow, Option.join_eq_some_iff.mp hCell⟩
  · intro r c u w other hOther
    by_contra hEarlier
    rcases Nat.lt_trichotomy r front.length with hAbove | rfl | hBelow
    · -- the rows above were read, so they have no bad cell
      obtain ⟨found, hFound, hCell⟩ := hOther.cell_eq
      rw [hRows, List.getElem?_append_left hAbove] at hFound
      have hAmong : IsBadCell separators types front r c u w other :=
        { hOther with cell_eq := ⟨found, hFound, hCell⟩ }
      exact hAmong.failure_ne_none (TypedRows.all_eq_ok_iff.mp hFront).1
    · have hOk := hBefore c u (by omega) hOther.type_eq
      simp [hOther.isOk_eq_false hRow] at hOk
    · exact hEarlier (.inl hBelow)
  · rw [hRows, List.take_left]
    exact readRowsFrom_all_eq_ok_iff.mp (hRows ▸ hFront)

/-- Rows are read to the end, each as a typed row, if they have no bad cell. Else exactly the rows above the first
bad cell are read, and the failure is that of this cell: if its value is bad for its type, the failure tells the
value, the type, the row, counted from one, and the name of the column; any other failure is as it is. -/
theorem readRows_to_first_bad_cell (separators : NumberSeparators) (types : List ColumnType)
    (rows : List Row) (names : List Text) (hReadable : ∀ t ∈ types, t.isReadable = true)
    (hNames : types.length ≤ names.length) :
    ((∀ row column t s cause, ¬IsBadCell separators types rows row column t s cause) ∧
      (readRows separators types rows names).failure = none ∧
      List.Forall₂ (IsTypedRow separators types) rows (readRows separators types rows names).rows) ∨
    ∃ row column t s cause, IsFirstBadCell separators types rows row column t s cause ∧
      List.Forall₂ (IsTypedRow separators types) (rows.take row)
        (readRows separators types rows names).rows ∧
      (∀ bad, cause = .badValue bad → ∃ name, names[column]? = some name ∧
        (readRows separators types rows names).failure = some (.badValue
          { value := s, expected := .type t, row := some (row + 1), column := some name })) ∧
      ((∀ bad, cause ≠ .badValue bad) →
        (readRows separators types rows names).failure = some cause) := by
  have hRows : readRows separators types rows names = readRowsFrom separators names types 1 rows := by
    have hNone : types.find? (fun t => !t.isReadable) = none := by simpa using hReadable
    rw [readRows, hNone]
  have hTyped : ReadAs separators types = IsTypedRow separators types :=
    funext fun _ => funext fun _ => propext readAs_iff
  rw [hRows]
  cases hFailure : (readRowsFrom separators names types 1 rows).failure with
  | none =>
      left
      refine ⟨fun _ _ _ _ _ hBad => hBad.failure_ne_none hFailure, rfl, ?_⟩
      rw [← hTyped]
      exact readRowsFrom_all_eq_ok_iff.mp (TypedRows.all_eq_ok_iff.mpr ⟨hFailure, rfl⟩)
  | some e =>
      right
      obtain ⟨row, column, t, s, cause, hFirst, hAbove, rfl⟩ := exists_isFirstBadCell hFailure
      refine ⟨row, column, t, s, cause, hFirst, hTyped ▸ hAbove, ?_, ?_⟩
      · rintro bad rfl
        have hColumn : column < names.length :=
          ((List.getElem?_eq_some_iff.mp hFirst.type_eq).1).trans_le hNames
        refine ⟨names[column], List.getElem?_eq_getElem hColumn, ?_⟩
        rw [placed_badValue (List.getElem?_eq_getElem hColumn), t.blamesOnly_read s bad hFirst.read_eq,
          Nat.add_comm]
        rfl
      · intro hOther
        cases cause with
        | badValue bad => exact absurd rfl (hOther bad)
        | _ => rfl

/-- Behind a row that is too short, one with a blank in front of two bad values; the first of these is told. -/
theorem readRows_to_bad_date :
    (∃ row column t s cause,
      IsFirstBadCell .dotComma [.int, .date, .int]
        [[some ['1']], [some [' '], some ['?'], some ['x']], [some ['x']]] row column t s cause ∧
      List.Forall₂ (IsTypedRow .dotComma [.int, .date, .int])
        ([[some ['1']], [some [' '], some ['?'], some ['x']], [some ['x']]].take row)
        [[.integer 1, .null, .null]]) ∧
    (readRows .dotComma [.int, .date, .int]
        [[some ['1']], [some [' '], some ['?'], some ['x']], [some ['x']]] [['a'], ['b'], ['c']]).failure =
      some (.badValue { value := ['?'], expected := .type .date, row := some 2, column := some ['b'] }) := by
  have hRead : readRows .dotComma [.int, .date, .int]
      [[some ['1']], [some [' '], some ['?'], some ['x']], [some ['x']]] [['a'], ['b'], ['c']] =
        ⟨[[.integer 1, .null, .null]], some (.badValue
          { value := ['?'], expected := .type .date, row := some 2, column := some ['b'] })⟩ := by
    decide +kernel
  have hEnd := readRows_to_first_bad_cell .dotComma [.int, .date, .int]
    [[some ['1']], [some [' '], some ['?'], some ['x']], [some ['x']]] [['a'], ['b'], ['c']]
    (by decide) (by decide)
  rw [hRead] at hEnd ⊢
  rcases hEnd with ⟨_, hNone, _⟩ | ⟨row, column, t, s, cause, hFirst, hAbove, _⟩
  · cases hNone
  · exact ⟨⟨row, column, t, s, cause, hFirst, hAbove⟩, rfl⟩

end CsvIntake
