import CsvIntake.Proofs.MigratedTables
import Mathlib.Order.Bounds.Basic

/-! Inserting the rows of a file into a table made from one. The size of the batches does not matter. Each
row gets the next key after the largest one, and below each other column the value that the file gives for
it, as the column's type takes it. -/
namespace CsvIntake

theorem mapM_congr_of_mem {α β : Type} {f g : α → Option β} {xs : List α}
    (h : ∀ x ∈ xs, f x = g x) : xs.mapM f = xs.mapM g := by
  induction xs with
  | nil => rfl
  | cons x xs ih =>
      rw [List.mapM_cons, List.mapM_cons, h x (List.mem_cons_self ..),
        ih fun y hy => h y (List.mem_cons_of_mem _ hy)]

namespace Table

/-- The table with rows inserted at its end. -/
def withRows (t : Table) (rows : List (List Cell)) : Table := { t with rows := t.rows ++ rows }

theorem withRows_withRows (t : Table) (rows more : List (List Cell)) :
    (t.withRows rows).withRows more = t.withRows (rows ++ more) := by
  simp [withRows]

theorem rowFor?_withRows (t : Table) (rows : List (List Cell)) :
    (t.withRows rows).rowFor? = t.rowFor? := rfl

/-- The cells beside the key that the values of named columns make in a table. -/
def cellsFor? (t : Table) (names : List Text) (values : List Value) : Option (List Cell) :=
  if names.length != values.length || hasRepeatedName (rowKeyName :: names) ||
      names.any fun name => (t.position? name).isNone then none
  else newRow? t.columns.tail (names.zip values)

/-- Cells with keys in front, numbered from `next` on. -/
def withKeyCells (next : Int) (rows : List (List Cell)) : List (List Cell) :=
  rows.zipIdx.map fun row => .integer (next + row.2) :: row.1

theorem withKeyCells_cons (next : Int) (row : List Cell) (rows : List (List Cell)) :
    withKeyCells next (row :: rows) = (.integer next :: row) :: withKeyCells (next + 1) rows := by
  simp only [withKeyCells, List.zipIdx_cons, List.map_cons, Nat.zero_add]
  rw [List.zipIdx_eq_map_add (i := 1), List.map_map]
  congr 2
  · simp
  · funext row
    simp [Int.add_assoc]

theorem length_withKeyCells (next : Int) (rows : List (List Cell)) :
    (withKeyCells next rows).length = rows.length := by
  simp [withKeyCells]

/-- The row in a place has the key of that place in front of its cells. -/
theorem getElem?_withKeyCells (next : Int) (rows : List (List Cell)) (k : Nat) :
    (withKeyCells next rows)[k]? = (rows[k]?).map (.integer (next + k) :: ·) := by
  simp [withKeyCells, Option.map_map, Function.comp_def]

/-- Numbering goes on behind the rows that have their keys. -/
theorem withKeyCells_append (next : Int) (rows more : List (List Cell)) :
    withKeyCells next (rows ++ more) =
      withKeyCells next rows ++ withKeyCells (next + rows.length) more := by
  induction rows generalizing next with
  | nil => simp [withKeyCells]
  | cons row rows ih =>
      have hNext : next + 1 + rows.length = next + (row :: rows).length := by
        rw [List.length_cons]
        omega
      rw [List.cons_append, withKeyCells_cons, withKeyCells_cons, ih, List.cons_append, hNext]

/-- Keys from `next` on, one after the other. -/
def keysFrom (next : Int) (count : Nat) : List Cell :=
  (List.range count).map fun k : Nat => .integer (next + k)

@[simp] theorem length_keysFrom (next : Int) (count : Nat) : (keysFrom next count).length = count := by
  simp [keysFrom]

@[simp] theorem keysFrom_zero (next : Int) : keysFrom next 0 = [] := rfl

theorem keysFrom_append (next : Int) (count more : Nat) :
    keysFrom next count ++ keysFrom (next + count) more = keysFrom next (count + more) := by
  simp [keysFrom, List.range_add, Function.comp_def, Int.add_assoc]

/-- The keys from a number on are the whole numbers of their range. -/
theorem mem_keysFrom_iff {next : Int} {count : Nat} {n : Int} :
    Cell.integer n ∈ keysFrom next count ↔ next ≤ n ∧ n < next + count := by
  simp only [keysFrom, List.mem_map, List.mem_range, Cell.integer.injEq]
  constructor
  · rintro ⟨k, hk, rfl⟩
    omega
  · rintro ⟨hLow, hHigh⟩
    exact ⟨(n - next).toNat, by omega, by omega⟩

/-- The keys in front of cells. -/
theorem map_head_withKeyCells (next : Int) (rows : List (List Cell)) :
    (withKeyCells next rows).map (fun row => row.getD 0 .null) = keysFrom next rows.length := by
  apply List.ext_getElem?
  intro k
  rw [List.getElem?_map, getElem?_withKeyCells, keysFrom, List.getElem?_map]
  rcases Nat.lt_or_ge k rows.length with hk | hk
  · simp [hk]
  · simp [hk]

theorem withKeys_cons (next : Int) (values : List Value) (given : List (List Value)) :
    Database.withKeys next (values :: given) =
      (.integer next :: values) :: Database.withKeys (next + 1) given := by
  have hSplit := Database.withKeys_append next [values] given
  simpa [Database.withKeys] using hSplit

namespace IsUpload

variable {t : Table} {names : List Text} {values : List Value}

/-- The columns of an upload are the key and, behind it, columns of other names. -/
theorem exists_columns (ht : t.IsUpload) :
    ∃ rest, t.columns = ⟨rowKeyName, .bigint⟩ :: rest ∧
      ∀ c ∈ rest, IsColumnName c.name ∧ c.name ≠ rowKeyName := by
  obtain ⟨rest, hColumns⟩ := List.head?_eq_some_iff.mp ht.key
  have hDistinct := ht.distinct
  rw [hColumns, List.map_cons, List.nodup_cons] at hDistinct
  refine ⟨rest, hColumns, fun c hc => ⟨ht.names _ ?_, ?_⟩⟩
  · rw [hColumns]
    exact List.mem_map_of_mem (List.mem_cons_of_mem _ hc)
  · intro hKey
    have hMem : c.name ∈ rest.map Column.name := List.mem_map_of_mem hc
    rw [hKey] at hMem
    exact hDistinct.1 hMem

theorem hasColumn_rowKeyName (ht : t.IsUpload) : t.hasColumn rowKeyName = true := by
  rw [hasColumn, List.any_eq_true]
  exact ⟨_, List.mem_of_mem_head? ht.key, beq_self_eq_true _⟩

/-- A row with its key in front is taken if the key fits and the other values are taken. -/
theorem rowFor?_eq_some_iff (ht : t.IsUpload) {m : Int} {row : List Cell} :
    t.rowFor? (rowKeyName :: names) (.integer m :: values) = some row ↔
      ∃ cells, t.cellsFor? names values = some cells ∧ fitsBigint m = true ∧
        row = .integer m :: cells := by
  obtain ⟨rest, hColumns, hRest⟩ := ht.exists_columns
  have hOthers : newRow? rest ((rowKeyName, .integer m) :: names.zip values) =
      newRow? rest (names.zip values) := by
    refine mapM_congr_of_mem fun c hc => ?_
    have hApart : sameIdentifier rowKeyName c.name = false := by
      rw [isColumnName_rowKeyName.sameIdentifier_eq (hRest c hc).1, beq_eq_false_iff_ne]
      exact Ne.symm (hRest c hc).2
    rw [List.find?_cons, hApart]
  have hKey : newRow? t.columns ((rowKeyName, .integer m) :: names.zip values) =
      (NativeType.bigintCell? m).bind fun key => (newRow? rest (names.zip values)).map (key :: ·) := by
    rw [hColumns, ← hOthers, newRow?, List.mapM_cons, List.find?_cons, sameIdentifier_self]
    simp only [Option.map_eq_bind]
    rfl
  have hLengths : ((rowKeyName :: names).length != (Value.integer m :: values).length) =
      (names.length != values.length) := by
    rw [Bool.eq_iff_iff]
    simp
  have hKnown : ((rowKeyName :: names).any fun name => (t.position? name).isNone) =
      names.any fun name => (t.position? name).isNone := by
    rw [List.any_cons, ht.position?_rowKeyName]
    rfl
  rw [rowFor?, cellsFor?, List.zip_cons_cons, hKey, hLengths, hKnown, hColumns, List.tail_cons]
  simp only [List.isEmpty_cons, Bool.false_or]
  split
  · simp
  · cases hRow : newRow? rest (names.zip values) with
    | none => simp [NativeType.bigintCell?]
    | some cells => cases hFits : fitsBigint m <;> simp [NativeType.bigintCell?, hFits, eq_comm]

theorem length_of_cellsFor? (ht : t.IsUpload) {cells : List Cell}
    (h : t.cellsFor? names values = some cells) {key : Cell} :
    (key :: cells).length = t.columns.length := by
  have hRow : t.rowFor? (rowKeyName :: names) (.integer 0 :: values) = some (.integer 0 :: cells) :=
    ht.rowFor?_eq_some_iff.mpr ⟨cells, h, by decide, rfl⟩
  simpa using length_of_rowFor? hRow

/-- A table with new rows has the shape of an upload. -/
theorem withRows_withKeyCells (ht : t.IsUpload) {given : List (List Value)} {rows : List (List Cell)}
    (h : given.mapM (t.cellsFor? names) = some rows) (next : Int) :
    (t.withRows (withKeyCells next rows)).IsUpload := by
  refine ⟨ht.key, ht.names, ht.distinct, ?_⟩
  intro row hMem
  rcases List.mem_append.mp hMem with hMem | hMem
  · exact ht.widths row hMem
  · obtain ⟨⟨cells, place⟩, hPlace, rfl⟩ := List.mem_map.mp hMem
    obtain ⟨i, hi⟩ := List.mem_iff_getElem?.mp (List.fst_mem_of_mem_zipIdx hPlace)
    obtain ⟨values, _, hCells⟩ := exists_left_of_forall₂ (mapM_eq_some_iff.mp h) hi
    exact ht.length_of_cellsFor? hCells

/-- Rows with their keys fit a table when the rows fit its other columns and the keys fit a
`BIGINT`. -/
theorem mapM_rowFor?_withKeys (ht : t.IsUpload) {next : Int} {given : List (List Value)}
    {rows : List (List Cell)} :
    (Database.withKeys next given).mapM (t.rowFor? (rowKeyName :: names)) = some rows ↔
      ∃ cells, given.mapM (t.cellsFor? names) = some cells ∧ rows = withKeyCells next cells ∧
        ∀ k < given.length, fitsBigint (next + k) = true := by
  simp only [mapM_eq_some_iff]
  induction given generalizing next rows with
  | nil => simp [Database.withKeys, withKeyCells]
  | cons values given ih =>
      simp only [withKeys_cons, List.forall₂_cons_left_iff, ht.rowFor?_eq_some_iff, ih,
        List.length_cons]
      constructor
      · rintro ⟨_, _, ⟨cells, hCells, hFits, rfl⟩, ⟨rest, hRest, rfl, hLater⟩, rfl⟩
        refine ⟨cells :: rest, ⟨cells, rest, hCells, hRest, rfl⟩, ?_, ?_⟩
        · rw [withKeyCells_cons]
        · intro k hk
          cases k with
          | zero => simpa using hFits
          | succ k =>
              have hNext := hLater k (by omega)
              rwa [show next + ((k + 1 : Nat) : Int) = next + 1 + k by omega]
      · rintro ⟨_, ⟨cells, rest, hCells, hRest, rfl⟩, rfl, hFits⟩
        refine ⟨_, _, ⟨cells, hCells, ?_, rfl⟩, ⟨rest, hRest, rfl, ?_⟩, withKeyCells_cons ..⟩
        · simpa using hFits 0 (by omega)
        · intro k hk
          have hNext := hFits (k + 1) (by omega)
          rwa [show next + ((k + 1 : Nat) : Int) = next + 1 + k by omega] at hNext

end IsUpload

/-! ### The largest key -/

/-- The largest key is the greatest whole number of the cells, and zero when they hold none. -/
theorem isGreatest_largest (cells : List Cell) :
    ({n | Cell.integer n ∈ cells} = ∅ ∧ largest cells = 0) ∨
      IsGreatest {n | Cell.integer n ∈ cells} (largest cells) := by
  rw [largest]
  generalize hFilter : cells.filterMap _ = numbers
  have hNumbers : ∀ n, Cell.integer n ∈ cells ↔ n ∈ numbers := by
    intro n
    rw [← hFilter, List.mem_filterMap]
    constructor
    · intro h
      exact ⟨_, h, rfl⟩
    · rintro ⟨cell, hMem, hCell⟩
      split at hCell
      · rwa [← Option.some.inj hCell]
      · cases hCell
  simp only [hNumbers]
  clear hNumbers hFilter
  cases numbers with
  | nil => simp
  | cons n ns =>
      right
      have hMax : (n :: ns).max? = some (ns.foldl max n) := List.max?_cons'
      exact List.max?_eq_some_iff.mp hMax

/-- The cell of a row below a column name. -/
def cell? (t : Table) (row : List Cell) (name : Text) : Option Cell :=
  ((t.columns.map Column.name).zip row).lookup name

/-- Distinct keys look up the entry in their own place. -/
theorem lookup_zip {α β : Type} [BEq α] [LawfulBEq α] {keys : List α} (h : keys.Nodup) {i : Nat}
    {k : α} (hk : keys[i]? = some k) (values : List β) : (keys.zip values).lookup k = values[i]? := by
  induction keys generalizing values i with
  | nil => cases hk
  | cons first keys ih =>
      obtain ⟨hFirst, hDistinct⟩ := List.nodup_cons.mp h
      cases values with
      | nil => rfl
      | cons v values =>
          rw [List.zip_cons_cons, List.lookup_cons]
          cases i with
          | zero =>
              obtain rfl : first = k := Option.some.inj hk
              simp
          | succ i =>
              have hMem : k ∈ keys := List.mem_of_getElem? hk
              have hApart : (k == first) = false := by
                rw [beq_eq_false_iff_ne]
                rintro rfl
                exact hFirst hMem
              rw [hApart]
              exact ih hDistinct hk values

/-- The key after which the keys of new rows go on. -/
def lastKey (t : Table) : Int := largest (t.cells 0)

/-- Keys from one on end with their number. -/
theorem largest_keysFrom (count : Nat) : largest (keysFrom 1 count) = count := by
  rcases isGreatest_largest (keysFrom 1 count) with ⟨hNone, hZero⟩ | hGreatest
  · have hEmpty : count = 0 := by
      by_contra hSome
      have hFirst : (1 : Int) ∈ {n | Cell.integer n ∈ keysFrom 1 count} :=
        mem_keysFrom_iff.mpr (by omega)
      rw [hNone] at hFirst
      exact hFirst
    rw [hZero, hEmpty]
    rfl
  · obtain ⟨hMem, hBound⟩ := hGreatest
    have hLast := mem_keysFrom_iff.mp hMem
    have hEnd := hBound (mem_keysFrom_iff (n := count).mpr (by omega))
    omega

/-- The last key of rows that were numbered from one is their number. -/
theorem lastKey_of_rows {t : Table} {rows : List (List Cell)} (h : t.rows = withKeyCells 1 rows) :
    t.lastKey = rows.length := by
  rw [lastKey, cells, h, map_head_withKeyCells, largest_keysFrom]

/-- The largest key of a table, or zero if it has none. -/
def IsLastKey (t : Table) (last : Int) : Prop :=
  let keys := {n | ∃ row ∈ t.rows, t.cell? row rowKeyName = some (.integer n)}
  (keys = ∅ ∧ last = 0) ∨ IsGreatest keys last

namespace IsUpload

variable {t : Table} {names : List Text} {values : List Value}

/-- The cell below the name of a column is the one in the place of the column. -/
theorem cell?_eq_getElem? (ht : t.IsUpload) (row : List Cell) {i : Nat} {c : Column}
    (hc : t.columns[i]? = some c) : t.cell? row c.name = row[i]? :=
  lookup_zip ht.distinct (by rw [List.getElem?_map, hc, Option.map_some]) row

/-- Keys are numbered on from the largest one. -/
theorem isLastKey_lastKey (ht : t.IsUpload) : t.IsLastKey t.lastKey := by
  have hKeys : {n | ∃ row ∈ t.rows, t.cell? row rowKeyName = some (.integer n)} =
      {n | Cell.integer n ∈ t.cells 0} := by
    ext n
    simp only [Set.mem_ofPred_eq, cells, List.mem_map]
    refine exists_congr fun row => and_congr_right fun _ => ?_
    rw [ht.cell?_eq_getElem? row ht.columns_zero, List.getD_eq_getElem?_getD]
    cases row[0]? <;> simp
  rw [IsLastKey, hKeys, lastKey]
  exact isGreatest_largest _

/-- The cells beside the key are the values given for their columns, as the types of these take them. -/
theorem cell?_of_cellsFor? (ht : t.IsUpload) (hNames : ∀ name ∈ names, IsColumnName name)
    (hDistinct : names.Nodup) {cells : List Cell} (h : t.cellsFor? names values = some cells)
    (key : Cell) {i : Nat} {c : Column} {v : Value} (hc : c ∈ t.columns) (hKey : c.name ≠ rowKeyName)
    (hName : names[i]? = some c.name) (hValue : values[i]? = some v) :
    ∃ cell, c.type.convert? v.cell = some cell ∧ t.cell? (key :: cells) c.name = some cell := by
  have hGiven : (names.zip values).find? (fun g => sameIdentifier g.1 c.name) = some (c.name, v) := by
    have hPlace : (names.zip values)[i]? = some (c.name, v) := by
      rw [List.getElem?_zip_eq_some]
      exact ⟨hName, hValue⟩
    obtain ⟨hBound, hGet⟩ := List.getElem?_eq_some_iff.mp hPlace
    rw [List.find?_eq_some_iff_getElem]
    refine ⟨sameIdentifier_self _, i, hBound, hGet, fun j hj => ?_⟩
    obtain ⟨hi, hSame⟩ := List.getElem?_eq_some_iff.mp hName
    have hj' : j < names.length := by omega
    rw [List.getElem_zip, (hNames _ (List.getElem_mem hj')).sameIdentifier_eq
      (ht.names _ (List.mem_map_of_mem hc)), Bool.not_eq_true', beq_eq_false_iff_ne, ← hSame]
    intro hEq
    have hIndex := (List.Nodup.getElem_inj_iff hDistinct).mp hEq
    omega
  rw [cellsFor?] at h
  split at h
  · cases h
  · rw [newRow?, mapM_eq_some_iff] at h
    obtain ⟨place, hPlace⟩ := List.mem_iff_getElem?.mp hc
    cases place with
    | zero =>
        rw [ht.columns_zero, Option.some.injEq] at hPlace
        exact absurd (congrArg Column.name hPlace).symm hKey
    | succ place =>
        have hTail : t.columns.tail[place]? = some c := by rwa [List.getElem?_tail]
        obtain ⟨cell, hCell, hTaken⟩ := exists_right_of_forall₂ h hTail
        rw [hGiven] at hTaken
        exact ⟨cell, hTaken, by rwa [ht.cell?_eq_getElem? _ hPlace]⟩

end IsUpload

end Table

namespace Database

variable {name : Text} {others : OtherTables name} {t : Table} {after : Database}

/-- Rows are inserted into the first table that answers to the name, all of them or with an error. -/
theorem insertEach_first {before behind : List Table}
    (hApart : ∀ u ∈ before, sameIdentifier u.name name = false)
    (hSame : sameIdentifier t.name name = true) {names : List Text} {given : List (List Value)} :
    insertEach name names ⟨before ++ t :: behind⟩ given = (.ok (), after) ↔
      ∃ rows, given.mapM (t.rowFor? names) = some rows ∧
        after = ⟨before ++ t.withRows rows :: behind⟩ := by
  simp only [mapM_eq_some_iff]
  induction given generalizing t with
  | nil => simp [insertEach, Table.withRows, eq_comm]
  | cons values given ih =>
      rw [insertEach, change_first hApart hSame, Table.insertRow_eq]
      simp only [List.forall₂_cons_left_iff]
      cases hRow : t.rowFor? names values with
      | none => simp [Except.map]
      | some row =>
          have hRest := ih (t := t.withRows [row]) hSame
          simp only [Table.withRows_withRows, Table.rowFor?_withRows] at hRest
          change insertEach name names ⟨before ++ t.withRows [row] :: behind⟩ given = (.ok (), after) ↔ _
          rw [hRest]
          constructor
          · rintro ⟨rows, hRows, hAfter⟩
            exact ⟨row :: rows, ⟨row, rows, rfl, hRows, rfl⟩, hAfter⟩
          · rintro ⟨_, ⟨_, rows, hFirst, hRows, rfl⟩, hAfter⟩
            obtain rfl := Option.some.inj hFirst
            exact ⟨rows, hRows, hAfter⟩

/-- Rows are inserted into the table of the name; the tables around it stay. -/
theorem insertEach_around (hName : t.name = name) {names : List Text} {given : List (List Value)} :
    insertEach name names (others.around t) given = (.ok (), after) ↔
      ∃ rows, given.mapM (t.rowFor? names) = some rows ∧ after = others.around (t.withRows rows) := by
  apply insertEach_first
  · exact fun u hu => others.apart u (List.mem_append_left _ hu)
  · rw [hName, sameIdentifier_self]

/-- The keys of new rows are generated, from the one after the largest on. -/
theorem generatesKeys_around (ht : t.IsUpload) (hName : t.name = name) {names : List Text}
    (hKey : rowKeyName ∉ names) : (others.around t).generatesKeys name names = true := by
  simp [generatesKeys, hKey, table?_around hName, ht.hasColumn_rowKeyName]

/-- The next key of an upload is one more than its last. -/
theorem nextKey_around (ht : t.IsUpload) (hName : t.name = name) :
    (others.around t).nextKey name = .ok (t.lastKey + 1) := by
  have hType : t.columns[0]?.map Column.type = some .bigint := by
    rw [ht.columns_zero]
    rfl
  rw [nextKey, denoted?_around hName]
  simp only [ht.position?_rowKeyName, hType, if_true]
  rfl

/-- Keyed rows are inserted exactly when the keys and the cells fit, under the next keys. -/
theorem insertKeyed_around (ht : t.IsUpload) (hName : t.name = name) {names : List Text}
    {given : List (List Value)} :
    insertEach name (rowKeyName :: names) (others.around t) (keyed (some (t.lastKey + 1)) given) =
        (.ok (), after) ↔
      (∀ k < given.length, fitsBigint (t.lastKey + 1 + k) = true) ∧
      ∃ cells, given.mapM (t.cellsFor? names) = some cells ∧ after = others.around
        (t.withRows (Table.withKeyCells (t.lastKey + 1) cells)) := by
  rw [insertEach_around hName, keyed]
  constructor
  · rintro ⟨rows, hRows, rfl⟩
    obtain ⟨cells, hCells, rfl, hFits⟩ := ht.mapM_rowFor?_withKeys.mp hRows
    exact ⟨hFits, cells, hCells, rfl⟩
  · rintro ⟨hFits, cells, hCells, rfl⟩
    exact ⟨_, ht.mapM_rowFor?_withKeys.mpr ⟨cells, hCells, rfl, hFits⟩, rfl⟩

/-- An insertion in batches stores every row under the next keys, whatever the size of a batch, and
counts them. -/
theorem insertRows_around (ht : t.IsUpload) (hName : t.name = name) {size : Int} (hSize : 1 ≤ size)
    {names : List Text} (hKey : rowKeyName ∉ names) {given : List (List Value)} {count : Nat} :
    (others.around t).insertRows size name names given = (.ok count, after) ↔
      size < Nat.pow 2 63 ∧ count = given.length ∧
        (∀ k < given.length, fitsBigint (t.lastKey + 1 + k) = true) ∧
        ∃ cells, given.mapM (t.cellsFor? names) = some cells ∧ after = others.around
          (t.withRows (Table.withKeyCells (t.lastKey + 1) cells)) := by
  rw [insertRows, generatesKeys_around ht hName hKey, if_pos rfl, nextKey_around ht hName]
  simp only [Except.map, Option.isSome_some, if_true]
  by_cases hRange : (Nat.pow 2 63 : Int) ≤ size
  · rw [if_pos (.inr hRange)]
    constructor
    · intro h
      cases h
    · rintro ⟨hSmall, _⟩
      omega
  · have hPieces : size.toNat ≠ 0 := by omega
    rw [if_neg (by omega), insertBatches_eq, flatten_batches hPieces, ← insertKeyed_around ht hName,
      and_iff_right (by omega)]
    rcases insertEach name (rowKeyName :: names) (others.around t)
      (keyed (some (t.lastKey + 1)) given) with ⟨e | _, last⟩
    · simp
    · simp [eq_comm]

end Database

end CsvIntake
