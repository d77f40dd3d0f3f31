import CsvIntake.Proofs.LoadingRows
import CsvIntake.Proofs.UploadTables

/-! Rows that were read. They are read cell by cell, and a value that was read as some type is stored in a
column of that type as it is. -/
namespace CsvIntake

variable {separators : NumberSeparators} {names : List Text}

/-- The values of a row, read as some types. -/
def ReadAs (separators : NumberSeparators) (types : List ColumnType) (row : Row)
    (values : List Value) : Prop :=
  values.length = types.length ∧ ∀ (i : Nat) t v, types[i]? = some t → values[i]? = some v →
    readCell separators t (row[i]?).join = .ok v

/-- A row is read from the left, one cell for each type. -/
theorem readAs_cons_iff {t : ColumnType} {types : List ColumnType} {row : Row}
    {values : List Value} :
    ReadAs separators (t :: types) row values ↔
      ∃ v rest, values = v :: rest ∧ readCell separators t row.head?.join = .ok v ∧
        ReadAs separators types row.tail rest := by
  constructor
  · rintro ⟨hLength, hCells⟩
    cases values with
    | nil => cases hLength
    | cons v rest =>
        refine ⟨v, rest, rfl, ?_, Nat.succ.inj hLength, ?_⟩
        · rw [List.head?_eq_getElem?]
          exact hCells 0 t v rfl rfl
        · intro i u w hu hw
          rw [List.getElem?_tail]
          exact hCells (i + 1) u w hu hw
  · rintro ⟨v, rest, rfl, hFirst, hLength, hRest⟩
    refine ⟨congrArg Nat.succ hLength, ?_⟩
    intro i u w hu hw
    cases i with
    | zero =>
        obtain rfl := Option.some.inj hu
        obtain rfl := Option.some.inj hw
        rwa [← List.head?_eq_getElem?]
    | succ i =>
        rw [← List.getElem?_tail]
        exact hRest i u w hu hw

/-- The cells of a row are read without an error exactly when each is read in its type. -/
theorem readCells_eq_ok_iff {row column : Nat} {types : List ColumnType} {cells : Row}
    {values : List Value} :
    readCells separators names row column types cells = .ok values ↔
      ReadAs separators types cells values := by
  induction types generalizing column cells values with
  | nil =>
      rw [readCells]
      constructor
      · intro h
        cases h
        refine ⟨rfl, fun i t v ht => ?_⟩
        cases ht
      · rintro ⟨hLength, _⟩
        rw [List.length_eq_zero_iff.mp hLength]
  | cons t types ih =>
      rw [readCells_cons, readAs_cons_iff]
      simp only [← @ih (column + 1)]
      cases readCell separators t cells.head?.join with
      | error cause => simp
      | ok v =>
          cases readCells separators names row (column + 1) types cells.tail with
          | error cause => simp [Except.map]
          | ok rest => simp [Except.map, eq_comm]

/-- Rows are read without an error exactly when each of them is, wherever the numbering starts. -/
theorem readRowsFrom_all_eq_ok_iff {types : List ColumnType} {number : Nat} {rows : List Row}
    {values : List (List Value)} :
    (readRowsFrom separators names types number rows).all = .ok values ↔
      List.Forall₂ (ReadAs separators types) rows values := by
  induction rows generalizing number values with
  | nil => simp [readRowsFrom, TypedRows.all, eq_comm]
  | cons cells rest ih =>
      have hFirst : ∀ values, ReadAs separators types cells values ↔
          readCells separators names number 0 types cells = .ok values :=
        fun _ => readCells_eq_ok_iff.symm
      rw [readRowsFrom, List.forall₂_cons_left_iff]
      simp only [hFirst, ← @ih (number + 1)]
      cases readCells separators names number 0 types cells with
      | error e => simp [TypedRows.all]
      | ok first =>
          rcases readRowsFrom separators names types (number + 1) rest with ⟨others, _ | e⟩
          · simp [TypedRows.all, eq_comm]
          · simp [TypedRows.all]

/-- All rows are read if their types can be read and each row can. -/
theorem readRows_all_eq_ok_iff {types : List ColumnType} {rows : List Row}
    {values : List (List Value)} :
    (readRows separators types rows names).all = .ok values ↔
      (∀ t ∈ types, t.isReadable = true) ∧ List.Forall₂ (ReadAs separators types) rows values := by
  rw [readRows]
  split
  · rename_i t hFind
    constructor
    · intro h
      cases h
    · rintro ⟨hReadable, _⟩
      have hBad := List.find?_some hFind
      simp [hReadable t (List.mem_of_find?_eq_some hFind)] at hBad
  · rename_i hNone
    rw [readRowsFrom_all_eq_ok_iff, and_iff_right]
    simpa using hNone

/-- A value that was read as a type is stored in a column of this type as it is. -/
theorem convert?_cell_of_readCell {t : ColumnType} {cell : Option Text} {v : Value}
    (h : readCell separators t cell = .ok v) {type : NativeType} (hType : t.native = .ok type)
    {stored : Cell} (hStored : type.convert? v.cell = some stored) : stored = v.cell := by
  have hRead : v = .null ∨ ∃ s, t.read separators s = .ok v := by
    cases cell with
    | none => exact .inl (Except.ok.inj h).symm
    | some s =>
        rw [readCell] at h
        split at h
        · exact .inl (Except.ok.inj h).symm
        · exact .inr ⟨s, h⟩
  rcases hRead with rfl | ⟨s, hs⟩
  · cases type <;> exact (Option.some.inj hStored).symm
  have hShape : ∀ {α : Type} {result : Except Error α} {f : α → Value},
      result.map f = .ok v → ∃ a, v = f a := by
    intro α result f hMap
    cases result with
    | error e => cases hMap
    | ok a => exact ⟨a, (Except.ok.inj hMap).symm⟩
  cases t with
  | booleanOrInt => cases hType
  | rowKey => cases hs
  | int =>
      obtain ⟨n, rfl⟩ := hShape hs
      obtain rfl := Except.ok.inj hType
      change NativeType.bigintCell? n = some stored at hStored
      rw [NativeType.bigintCell?] at hStored
      split at hStored
      · exact (Option.some.inj hStored).symm
      · cases hStored
  | varchar255 | text =>
      obtain rfl := Except.ok.inj hs
      obtain rfl := Except.ok.inj hType
      exact (Option.some.inj hStored).symm
  | _ =>
      obtain ⟨a, rfl⟩ := hShape hs
      obtain rfl := Except.ok.inj hType
      exact (Option.some.inj hStored).symm

end CsvIntake
