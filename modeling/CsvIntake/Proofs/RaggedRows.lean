import CsvIntake.Proofs.LoadingRows

/-! Rows of any width with blanks of any kind. Inference and reading see one cell of a row for each column and
nothing else of it: what stands behind the last column does not matter, a column that the row does not reach is
as good as one without a value, and one blank value is as good as another. -/
namespace CsvIntake

/-- A cell without a value, or with one of white space only. -/
def IsBlankCell (cell : Option Text) : Prop := ∀ s, cell = some s → Text.isBlank s = true

/-- Two cells hold the same value, or both are blank. -/
def SameButBlank (cell other : Option Text) : Prop :=
  cell = other ∨ IsBlankCell cell ∧ IsBlankCell other

/-- Two rows have the same cells in their first columns, but for blanks. A column that a row does not reach has
no value there. -/
def SameWithin (width : Nat) (row other : Row) : Prop :=
  ∀ i < width, SameButBlank (row[i]?).join (other[i]?).join

/-- The first values of a row, with no value in each further column. -/
def Row.fitted (width : Nat) (row : Row) : Row := (row.take width).rightpad width none

/-! ### Rows that have the same cells -/

/-- Within the width, a fitted row has the cells of the row, and blanks where it has none. -/
theorem join_getElem?_fitted {width i : Nat} (hi : i < width) (row : Row) :
    ((row.fitted width)[i]?).join = (row[i]?).join := by
  rw [Row.fitted, List.rightpad, List.getElem?_append, List.getElem?_take_of_lt hi]
  split
  · rfl
  · rename_i hShort
    have hEnd : row[i]? = none := by
      rw [List.length_take] at hShort
      exact List.getElem?_eq_none (by omega)
    rw [hEnd, List.getElem?_replicate]
    split <;> rfl

/-- A fitted row is the same as the row within the width. -/
theorem sameWithin_fitted (width : Nat) (row : Row) : SameWithin width (row.fitted width) row :=
  fun _ hi => .inl (join_getElem?_fitted hi row)

/-- Rows that are the same but for blanks are so in any columns. -/
theorem sameWithin_of_forall₂ {row other : Row} (h : List.Forall₂ SameButBlank row other)
    (width : Nat) : SameWithin width row other := by
  intro i hi
  induction h generalizing i with
  | nil => exact .inl rfl
  | cons hFirst _ ih =>
      cases i with
      | zero => exact hFirst
      | succ i => exact ih i (Nat.lt_of_succ_lt hi)

variable {separators : NumberSeparators} {cell other : Option Text}

/-! ### Inference -/

namespace ColumnType

/-- A blank cell says nothing of the type. -/
theorem relax_of_isBlankCell (h : IsBlankCell cell) (t : Option ColumnType) :
    relax separators t cell = t := by
  cases cell with
  | none => exact relax_none t
  | some s => exact relax_of_isBlank (h s rfl) t

/-- Cells that are the same but for blanks relax a type to the same one. -/
theorem relax_congr (h : SameButBlank cell other) (t : Option ColumnType) :
    relax separators t cell = relax separators t other := by
  rcases h with rfl | ⟨hCell, hOther⟩
  · rfl
  · rw [relax_of_isBlankCell hCell, relax_of_isBlankCell hOther]

/-- A column moves alike with values that are the same but for blanks. -/
theorem foldl_relax_congr {values others : List (Option Text)}
    (h : List.Forall₂ SameButBlank values others) (t : Option ColumnType) :
    values.foldl (relax separators) t = others.foldl (relax separators) t := by
  induction h generalizing t with
  | nil => rfl
  | cons hFirst _ ih => rw [List.foldl_cons, List.foldl_cons, relax_congr hFirst, ih]

/-- Rows that have the same cells in the columns give the same types. -/
theorem ofRows_congr {types : List (Option ColumnType)} {rows others : List Row}
    (h : List.Forall₂ (SameWithin types.length) rows others) :
    ofRows separators types rows = ofRows separators types others := by
  apply List.ext_getElem?
  intro i
  rw [ofRows_getElem?, ofRows_getElem?]
  by_cases hi : i < types.length
  · have hValues : List.Forall₂ SameButBlank (columnValues i rows) (columnValues i others) := by
      rw [columnValues, columnValues, List.forall₂_map_left_iff, List.forall₂_map_right_iff]
      exact h.imp fun _ _ hSame => hSame i hi
    simp only [foldl_relax_congr hValues]
  · rw [List.getElem?_eq_none (Nat.le_of_not_lt hi)]
    rfl

end ColumnType

/-! ### Reading -/

/-- A blank cell is read as null in every type. -/
theorem readCell_of_isBlankCell (h : IsBlankCell cell) (t : ColumnType) :
    readCell separators t cell = .ok .null := by
  cases cell with
  | none => rfl
  | some s => rw [readCell, h s rfl, if_pos rfl]

/-- Cells that are the same but for blanks are read alike. -/
theorem readCell_congr (h : SameButBlank cell other) (t : ColumnType) :
    readCell separators t cell = readCell separators t other := by
  rcases h with rfl | ⟨hCell, hOther⟩
  · rfl
  · rw [readCell_of_isBlankCell hCell, readCell_of_isBlankCell hOther]

variable {names : List Text} {types : List ColumnType}

/-- A row is read alike, and fails alike, by its cells in the columns. -/
theorem readCells_congr {number column : Nat} {row other : Row}
    (h : SameWithin types.length row other) :
    readCells separators names number column types row =
      readCells separators names number column types other := by
  induction types generalizing column row other with
  | nil => rw [readCells, readCells]
  | cons t types ih =>
      have hFirst : SameButBlank row.head?.join other.head?.join := by
        rw [List.head?_eq_getElem?, List.head?_eq_getElem?]
        exact h 0 (Nat.succ_pos _)
      have hRest : SameWithin types.length row.tail other.tail := by
        intro i hi
        rw [List.getElem?_tail, List.getElem?_tail]
        exact h (i + 1) (Nat.succ_lt_succ hi)
      rw [readCells_cons, readCells_cons, readCell_congr hFirst, ih hRest]

/-- Rows that are the same within the width are read alike, their failures included. -/
theorem readRowsFrom_congr {number : Nat} {rows others : List Row}
    (h : List.Forall₂ (SameWithin types.length) rows others) :
    readRowsFrom separators names types number rows =
      readRowsFrom separators names types number others := by
  induction h generalizing number with
  | nil => rfl
  | cons hFirst _ ih => rw [readRowsFrom, readRowsFrom, readCells_congr hFirst, ih]

/-- Rows that have the same cells in the columns are read as the same values, up to the same failure. -/
theorem readRows_congr {rows others : List Row}
    (h : List.Forall₂ (SameWithin types.length) rows others) :
    readRows separators types rows names = readRows separators types others names := by
  rw [readRows, readRows, readRowsFrom_congr h]

/-- The types that are inferred from rows, whatever is known of as many columns, and the values that are read in
them, with the failure that ends the reading, stay the same if each row is cut or filled up to the number of
columns, and if blank values are replaced by other blank values. -/
theorem types_and_values_of_rectangle (separators : NumberSeparators) (known : List (Option ColumnType))
    (types : List ColumnType) (names : List Text) (rows : List Row) (hWidth : known.length = types.length) :
    (ColumnType.ofRows separators known (rows.map (Row.fitted types.length)) =
        ColumnType.ofRows separators known rows ∧
      readRows separators types (rows.map (Row.fitted types.length)) names =
        readRows separators types rows names) ∧
    ∀ others, List.Forall₂ (List.Forall₂ SameButBlank) rows others →
      ColumnType.ofRows separators known others = ColumnType.ofRows separators known rows ∧
        readRows separators types others names = readRows separators types rows names := by
  constructor
  · have hFitted : List.Forall₂ (SameWithin types.length) (rows.map (Row.fitted types.length)) rows := by
      rw [List.forall₂_map_left_iff, List.forall₂_same]
      exact fun row _ => sameWithin_fitted types.length row
    exact ⟨ColumnType.ofRows_congr (hWidth ▸ hFitted), readRows_congr hFitted⟩
  · intro others hBlanks
    have hSame : List.Forall₂ (SameWithin types.length) rows others :=
      hBlanks.imp fun _ _ hRow => sameWithin_of_forall₂ hRow types.length
    exact ⟨(ColumnType.ofRows_congr (hWidth ▸ hSame)).symm, (readRows_congr hSame).symm⟩

/-- Three rows of which one is too long and one too short. With a blank instead of the value that is not there,
the mark in the last row is still the first value that cannot be read. -/
theorem types_and_values_of_three_rows :
    ColumnType.ofRows .dotComma [none, some .int]
        [[some ['7'], some [' '], some ['x']], [none], [some ['8'], some ['?']]] =
      ColumnType.ofRows .dotComma [none, some .int]
        [[some ['7'], none], [none, none], [some ['8'], some ['?']]] ∧
    readRows .dotComma [.int, .date]
        [[some ['7'], some [' '], some ['x']], [none], [some ['8'], some ['?']]] [] =
      readRows .dotComma [.int, .date]
        [[some ['7'], none], [none, none], [some ['8'], some ['?']]] [] ∧
    (readRows .dotComma [.int, .date]
        [[some ['7'], none], [none, none], [some ['8'], some ['?']]] []).failure =
      some (.badValue { value := ['?'], expected := .type .date, row := some 3 }) := by
  have hBlanks : List.Forall₂ (List.Forall₂ SameButBlank)
      [[some ['7'], none, some ['x']], [none], [some ['8'], some ['?']]]
      [[some ['7'], some [' '], some ['x']], [none], [some ['8'], some ['?']]] := by
    have hSpace : SameButBlank none (some [' ']) := by
      refine .inr ⟨fun s hs => ?_, fun s hs => ?_⟩
      · cases hs
      · obtain rfl := Option.some.inj hs
        decide
    exact .cons (.cons (.inl rfl) (.cons hSpace (.cons (.inl rfl) .nil)))
      (.cons (.cons (.inl rfl) .nil) (.cons (.cons (.inl rfl) (.cons (.inl rfl) .nil)) .nil))
  obtain ⟨hFitted, hOthers⟩ := types_and_values_of_rectangle .dotComma [none, some .int] [.int, .date] []
    [[some ['7'], none, some ['x']], [none], [some ['8'], some ['?']]] rfl
  obtain ⟨hTypes, hValues⟩ := hOthers _ hBlanks
  refine ⟨hTypes.trans hFitted.1.symm, hValues.trans hFitted.2.symm, ?_⟩
  decide +kernel

end CsvIntake
