import CsvIntake.Proofs.InsertedRows

/-! The size of the batches in which rows are inserted. Main statement: an insertion in batches of any size but
zero that answers at all has put every row below those of its table, in order and with the next keys, and any
other such size gives the same; batches of size zero hold no row, so that an insertion in them answers at
once and inserts nothing. -/
namespace CsvIntake

namespace Database

variable {db after : Database} {name table : Text} {names : List Text}
  {rows given : List (List Value)}

/-- The key of the first row, if rows with the named columns get keys. -/
def firstKey (db : Database) (table : Text) (names : List Text) : Except Error (Option Int) :=
  if db.generatesKeys table names then (db.nextKey table).map some else .ok none

/-- The columns of rows that have their keys in front, if they get any. -/
def keyedColumns (next : Option Int) (names : List Text) : List Text :=
  if next.isSome then rowKeyName :: names else names

/-- Rows put below those of the table that a name denotes, in order, each as the table takes its values. Where there
are no rows there need not be a table. -/
inductive Stored (name : Text) (names : List Text) : List (List Value) → Database → Database → Prop where
  | nothing (db : Database) : Stored name names [] db db
  | below {before behind : List Table} {t : Table} {given : List (List Value)}
      {rows : List (List Cell)}
      (hApart : ∀ u ∈ before, sameIdentifier u.name name = false)
      (hSame : sameIdentifier t.name name = true)
      (hRows : List.Forall₂ (fun values row => t.rowFor? names values = some row) given rows) :
      Stored name names given ⟨before ++ t :: behind⟩ ⟨before ++ t.withRows rows :: behind⟩

/-- No table is changed when none answers to the name. -/
theorem changeIn_of_apart {f : Table → Except Error Table} {tables : List Table}
    (h : ∀ u ∈ tables, sameIdentifier u.name name = false) :
    changeIn name f tables = .error .refusedByStore := by
  have hRest := changeIn_append_of_apart (f := f) h []
  rw [List.append_nil] at hRest
  rw [hRest]
  rfl

/-- A statement finds the first table that its name denotes, or it fails. -/
theorem exists_first_of_change {f : Table → Except Error Table} (h : db.change name f = .ok after) :
    ∃ before t behind, db = ⟨before ++ t :: behind⟩ ∧
      (∀ u ∈ before, sameIdentifier u.name name = false) ∧ sameIdentifier t.name name = true := by
  cases hFind : db.tables.find? fun t => sameIdentifier t.name name with
  | none =>
      have hApart : ∀ u ∈ db.tables, sameIdentifier u.name name = false := by
        simpa using hFind
      rw [change, changeIn_of_apart hApart] at h
      cases h
  | some t =>
      obtain ⟨hSame, before, behind, hTables, hApart⟩ := List.find?_eq_some_iff_append.mp hFind
      refine ⟨before, t, behind, ?_, fun u hu => by simpa using hApart u hu, hSame⟩
      cases db
      exact congrArg Database.mk hTables

/-- The rows are inserted one by one without an error exactly when each of them is stored. -/
theorem insertEach_eq_ok_iff :
    insertEach name names db given = (.ok (), after) ↔ Stored name names given db after := by
  constructor
  · intro h
    cases given with
    | nil =>
        obtain rfl := (Prod.mk.inj h).2
        exact .nothing _
    | cons values given =>
        obtain ⟨between, hFirst⟩ : ∃ between,
            db.change name (Table.insertRow · names values) = .ok between := by
          rw [insertEach] at h
          split at h
          · cases h
          · exact ⟨_, ‹_›⟩
        obtain ⟨before, t, behind, rfl, hApart, hSame⟩ := exists_first_of_change hFirst
        obtain ⟨rows, hRows, rfl⟩ := (insertEach_first hApart hSame).mp h
        exact .below hApart hSame (mapM_eq_some_iff.mp hRows)
  · intro h
    cases h with
    | nothing => rfl
    | below hApart hSame hRows =>
        exact (insertEach_first hApart hSame).mpr ⟨_, mapM_eq_some_iff.mpr hRows, rfl⟩

/-- Within its range the size of the batches does not matter, whether or not the insertion succeeds. -/
theorem insertRows_of_size {size : Int} (hPositive : 1 ≤ size) (hRange : size < Nat.pow 2 63) :
    db.insertRows size table names rows =
      match db.firstKey table names with
      | .error e => (.error e, db)
      | .ok next =>
        let result := insertEach table (keyedColumns next names) db (keyed next rows)
        (result.1.map fun _ => rows.length, result.2) := by
  have hPieces : size.toNat ≠ 0 := by omega
  rw [insertRows, ← firstKey]
  cases db.firstKey table names with
  | error e => rfl
  | ok next =>
      dsimp only
      rw [if_neg (by omega), insertBatches_eq, flatten_batches hPieces, keyedColumns]
      rcases insertEach table _ db (keyed next rows) with ⟨e | _, after⟩ <;> rfl

/-- Batches of size zero insert nothing. -/
theorem insertRows_zero {next : Option Int} (h : db.firstKey table names = .ok next) :
    db.insertRows 0 table names rows = (.ok 0, db) := by
  rw [insertRows, ← firstKey, h]
  dsimp only
  rw [if_neg (by decide), Int.toNat_zero, batches_zero]
  rfl

/-- A size out of range is refused before anything is inserted. -/
theorem insertRows_of_outOfRange {next : Option Int} (h : db.firstKey table names = .ok next)
    {size : Int} (hRange : size < 0 ∨ Nat.pow 2 63 ≤ size) :
    db.insertRows size table names rows = (.error (.batchSizeOutOfRange size), db) := by
  rw [insertRows, ← firstKey, h]
  dsimp only
  rw [if_pos hRange]

/-- Where an insertion in batches of some size other than zero answers, it has inserted every row, in order, and
counts them all. Then it does the same in batches of any size from one on. Only batches of size zero answer without
having inserted anything, and sizes out of range are refused. -/
theorem insertRows_of_nonzero_size {size : Int} {count : Nat} (hSize : size ≠ 0)
    (h : db.insertRows size table names rows = (.ok count, after)) :
    count = rows.length ∧
    (∃ next, db.firstKey table names = .ok next ∧
      Stored table (keyedColumns next names) (keyed next rows) db after) ∧
    (∀ other : Int, 1 ≤ other → other < Nat.pow 2 63 →
      db.insertRows other table names rows = (.ok count, after)) ∧
    (∀ other : Int, other < 0 ∨ Nat.pow 2 63 ≤ other →
      db.insertRows other table names rows = (.error (.batchSizeOutOfRange other), db)) ∧
    db.insertRows 0 table names rows = (.ok 0, db) := by
  obtain ⟨next, hNext⟩ : ∃ next, db.firstKey table names = .ok next := by
    cases hNext : db.firstKey table names with
    | error e =>
        rw [insertRows, ← firstKey, hNext] at h
        cases h
    | ok next => exact ⟨next, rfl⟩
  have hRange : 1 ≤ size ∧ size < Nat.pow 2 63 := by
    by_contra hOut
    rw [insertRows_of_outOfRange hNext (by omega)] at h
    cases h
  have hOther : ∀ other : Int, 1 ≤ other → other < Nat.pow 2 63 →
      db.insertRows other table names rows = (.ok count, after) := by
    intro other hPositive hLimit
    rw [insertRows_of_size hRange.1 hRange.2] at h
    rw [insertRows_of_size hPositive hLimit, h]
  rw [insertRows_of_size hRange.1 hRange.2, hNext] at h
  dsimp only at h
  rcases hRun : insertEach table (keyedColumns next names) db (keyed next rows) with ⟨e | _, last⟩
  · rw [hRun] at h
    cases h
  · rw [hRun] at h
    obtain ⟨hCount, rfl⟩ := Prod.mk.inj h
    exact ⟨(Except.ok.inj hCount).symm, ⟨next, hNext, insertEach_eq_ok_iff.mp hRun⟩, hOther,
      fun _ hOut => insertRows_of_outOfRange hNext hOut, insertRows_zero hNext⟩

/-- Three rows behind one that has the key seven, in batches of two. -/
theorem insertRows_of_size_two :
    ∃ (db after : Database),
      db.tables = [⟨['t'], [⟨rowKeyName, .bigint⟩, ⟨['n'], .bigint⟩], [[.integer 7, .null]]⟩] ∧
      db.insertRows 2 ['t'] [['n']] [[.integer 4], [.null], [.integer 6]] = (.ok 3, after) ∧
      after.tables.map Table.rows = [[[.integer 7, .null], [.integer 8, .integer 4],
        [.integer 9, .null], [.integer 10, .integer 6]]] ∧
      db.insertRows 1000 ['t'] [['n']] [[.integer 4], [.null], [.integer 6]] = (.ok 3, after) := by
  let columns : List Column := [⟨rowKeyName, .bigint⟩, ⟨['n'], .bigint⟩]
  let db : Database := ⟨[⟨['t'], columns, [[.integer 7, .null]]⟩]⟩
  let after : Database := ⟨[⟨['t'], columns, [[.integer 7, .null], [.integer 8, .integer 4],
    [.integer 9, .null], [.integer 10, .integer 6]]⟩]⟩
  have hInsert : db.insertRows 2 ['t'] [['n']] [[.integer 4], [.null], [.integer 6]] =
      (.ok 3, after) := by
    decide +kernel
  obtain ⟨_, _, hOther, _⟩ := insertRows_of_nonzero_size (by decide) hInsert
  exact ⟨db, after, rfl, hInsert, rfl, hOther 1000 (by decide) (by decide)⟩

/-- A row that is inserted in batches of size one, and is not in batches of size zero, which answer all the same. -/
theorem insertRows_zero_ne_one :
    ∃ (db after : Database) (rows : List (List Value)),
      rows.length = 1 ∧
      db.insertRows 0 ['t'] [['n']] rows = (.ok 0, db) ∧
      db.insertRows 1 ['t'] [['n']] rows = (.ok 1, after) ∧ after ≠ db := by
  let db : Database := ⟨[⟨['t'], [⟨['n'], .bigint⟩], []⟩]⟩
  let after : Database := ⟨[⟨['t'], [⟨['n'], .bigint⟩], [[.integer 2]]⟩]⟩
  refine ⟨db, after, [[.integer 2]], rfl, ?_, ?_, ?_⟩ <;> decide +kernel

end Database

end CsvIntake
