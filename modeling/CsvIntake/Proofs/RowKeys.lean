import CsvIntake.Proofs.CreatedTables

/-! The keys of rows, over any course of loads. Whatever becomes of a load, the rows that it leaves behind in a
table got the next keys. Main statement: from an empty database on, every table has the key column, and its
keys are the numbers from one on, in the order of the rows. -/
namespace CsvIntake

namespace Table

/-- The table after any changes beside the key and with more rows, which got the next keys. -/
structure Grown (count : Nat) (t after : Table) : Prop where
  isUpload : after.IsUpload
  name : after.name = t.name
  keys : after.cells 0 = t.cells 0 ++ keysFrom (t.lastKey + 1) count

namespace Grown

variable {count : Nat} {t u after : Table}

theorem length_rows (h : Grown count t after) : after.rows.length = t.rows.length + count := by
  have hLength := congrArg List.length h.keys
  simpa [cells] using hLength

/-- Changes that leave the keys, and then more rows. -/
theorem of_unnumbered (left : Grown 0 t u) (right : Grown count u after) : Grown count t after := by
  have hKeys : u.cells 0 = t.cells 0 := by simpa using left.keys
  refine ⟨right.isUpload, right.name.trans left.name, ?_⟩
  rw [right.keys, lastKey, lastKey, hKeys]

theorem refl (ht : t.IsUpload) : Grown 0 t t := ⟨ht, rfl, by simp⟩

/-- Changes of other columns are a growth by no rows. -/
theorem of_retyped {added : List Column} {updated : Schema}
    (h : (t.extended added).Retyped updated u) (ht : t.IsUpload) (hu : u.IsUpload)
    (hKey : updated.lookup rowKeyName = none) : Grown 0 t u := by
  refine ⟨hu, h.name, ?_⟩
  rw [h.cells_zero ht hu hKey, keysFrom_zero, List.append_nil]

/-- Rows stored under the next keys are a growth by their number. -/
theorem withRows (ht : t.IsUpload) {names : List Text} {given : List (List Value)}
    {rows : List (List Cell)} (h : given.mapM (t.cellsFor? names) = some rows) :
    Grown rows.length t (t.withRows (withKeyCells (t.lastKey + 1) rows)) := by
  refine ⟨ht.withRows_withKeyCells h _, rfl, ?_⟩
  rw [cells, Table.withRows, List.map_append, map_head_withKeyCells, cells]

end Grown

/-- The keys are the numbers from one on. -/
def IsNumbered (t : Table) : Prop := t.cells 0 = keysFrom 1 t.rows.length

/-- Numbered keys go on being numbered as a table grows. -/
theorem IsNumbered.grown {t after : Table} (ht : t.IsNumbered) {count : Nat} (h : t.Grown count after) :
    after.IsNumbered := by
  have hLast : t.lastKey = t.rows.length := by rw [lastKey, ht, largest_keysFrom]
  rw [IsNumbered, h.keys, hLast, ht, h.length_rows, Int.add_comm, keysFrom_append]

/-- An upload whose keys are numbered. -/
structure IsNumberedUpload (t : Table) : Prop where
  isUpload : t.IsUpload
  numbered : t.IsNumbered

namespace IsNumberedUpload

theorem grown {t after : Table} (ht : t.IsNumberedUpload) {count : Nat} (h : t.Grown count after) :
    after.IsNumberedUpload :=
  ⟨h.isUpload, ht.numbered.grown h⟩

/-- A new table that has grown. -/
theorem new {name : Text} {columns : List Column} {count : Nat} {t : Table}
    (h : Grown count ⟨name, columns, []⟩ t) : t.IsNumberedUpload := by
  have hEmpty : IsNumbered ⟨name, columns, []⟩ := rfl
  exact ⟨h.isUpload, hEmpty.grown h⟩

/-- The keys, as they stand below their name. -/
theorem keys {t : Table} (ht : t.IsNumberedUpload) :
    t.hasColumn rowKeyName = true ∧ t.rows.map (fun row => t.cell? row rowKeyName) =
      (List.range t.rows.length).map fun k : Nat => some (.integer (k + 1)) := by
  refine ⟨ht.isUpload.hasColumn_rowKeyName, ?_⟩
  have hCells : t.rows.map (fun row => t.cell? row rowKeyName) = (t.cells 0).map some := by
    rw [cells, List.map_map]
    refine List.map_congr_left fun row hRow => ?_
    have hWidth := ht.isUpload.widths row hRow
    obtain ⟨rest, hColumns, _⟩ := ht.isUpload.exists_columns
    rw [ht.isUpload.cell?_eq_getElem? row ht.isUpload.columns_zero, Function.comp_apply,
      List.getD_eq_getElem?_getD, List.getElem?_eq_getElem (by simp [hWidth, hColumns]), Option.getD_some]
  rw [hCells, ht.numbered, keysFrom, List.map_map]
  refine List.map_congr_left fun k _ => ?_
  rw [Function.comp_apply, Int.add_comm]

end IsNumberedUpload

/-- The changes that a migration makes to an upload. -/
def Statement.IsMigrating : Statement → Prop
  | .addColumn column => IsColumnName column.name
  | .alterColumn name _ => IsColumnName name ∧ name ≠ rowKeyName
  | _ => False

/-- A migration leaves the keys. -/
theorem IsUpload.grown_of_run {t after : Table} (ht : t.IsUpload) {s : Statement} (hs : s.IsMigrating)
    (h : s.run t = .ok after) : Grown 0 t after := by
  cases s with
  | addColumn column =>
      have hu := ht.of_addColumn hs h
      obtain rfl := addColumn_eq_ok h
      exact .of_retyped (.refl _) ht hu rfl
  | alterColumn name type =>
      have hu := ht.of_alterColumn hs.1 hs.2 h
      have hTypes := Retyped.of_alterColumn ht hs.1 type.native_meaning h
      rw [← t.extended_nil] at hTypes
      refine .of_retyped hTypes ht hu ?_
      rw [lookup_singleton, if_neg (Ne.symm hs.2)]
  | insertRow names values => cases hs
  | addNumbers name => cases hs

end Table

namespace Database

variable {name : Text} (others : OtherTables name) {t : Table}

/-! ### Rows, up to a failing one -/

theorem take_withKeys (k : Nat) (next : Int) (given : List (List Value)) :
    (withKeys next given).take k = withKeys next (given.take k) := by
  induction given generalizing k next with
  | nil => simp [withKeys]
  | cons values given ih =>
      cases k with
      | zero => rfl
      | succ k =>
          rw [Table.withKeys_cons, List.take_succ_cons, List.take_succ_cons, ih, Table.withKeys_cons]

/-- Rows are inserted up to one that fails, or all of them. -/
theorem exists_insertEach_around (hName : t.name = name) (names : List Text)
    (given : List (List Value)) :
    ∃ k rows, (given.take k).mapM (t.rowFor? names) = some rows ∧
      (insertEach name names (others.around t) given).2 = others.around (t.withRows rows) ∧
      ((insertEach name names (others.around t) given).1 = .ok () → rows.length = given.length) := by
  induction given generalizing t with
  | nil => exact ⟨0, [], rfl, by simp [insertEach, Table.withRows], fun _ => rfl⟩
  | cons values given ih =>
      rw [insertEach, change_around hName, Table.insertRow_eq]
      cases hRow : t.rowFor? names values with
      | none =>
          refine ⟨0, [], rfl, by simp [Except.map, Table.withRows], fun hAll => ?_⟩
          cases hAll
      | some row =>
          obtain ⟨k, rows, hRows, hAfter, hAll⟩ := ih (t := t.withRows [row]) hName
          rw [Table.rowFor?_withRows] at hRows
          rw [Table.withRows_withRows] at hAfter
          refine ⟨k + 1, row :: rows, ?_, hAfter, fun h => congrArg Nat.succ (hAll h)⟩
          rw [List.take_succ_cons, List.mapM_cons, hRow, hRows]
          rfl

/-- Whatever becomes of an insertion, its table has grown; if it succeeds, by as many rows as it answers. -/
theorem exists_insertRows_around (ht : t.IsUpload) (hName : t.name = name) (size : Int)
    {names : List Text} (hKey : rowKeyName ∉ names) (given : List (List Value)) :
    ∃ (count : Nat) (after : Table), t.Grown count after ∧
      ((others.around t).insertRows size name names given).2 = others.around after ∧
      ∀ n, ((others.around t).insertRows size name names given).1 = .ok n → n = count := by
  rw [insertRows, generatesKeys_around ht hName hKey, if_pos rfl, nextKey_around ht hName]
  simp only [Except.map, Option.isSome_some, if_true]
  split
  · refine ⟨0, t, .refl ht, rfl, fun n hn => ?_⟩
    cases hn
  · rw [insertBatches_eq]
    obtain ⟨k, rows, hRows, hAfter, hAll⟩ := exists_insertEach_around others hName
      (rowKeyName :: names) (keyed (some (t.lastKey + 1)) (batches size.toNat given).flatten)
    rw [keyed, take_withKeys] at hRows
    obtain ⟨cells, hCells, rfl, _⟩ := ht.mapM_rowFor?_withKeys.mp hRows
    refine ⟨cells.length, _, .withRows ht hCells, ?_⟩
    rcases hRun : insertEach name (rowKeyName :: names) (others.around t)
      (keyed (some (t.lastKey + 1)) (batches size.toNat given).flatten) with ⟨e | _, after⟩
    · rw [hRun] at hAfter
      refine ⟨hAfter, fun n hn => ?_⟩
      cases hn
    · rw [hRun] at hAfter hAll
      refine ⟨hAfter, fun n hn => ?_⟩
      have hLength := hAll rfl
      rw [Table.length_withKeyCells, keyed, withKeys, List.length_map, List.length_zipIdx] at hLength
      rw [← Except.ok.inj hn, hLength]

/-! ### Whole loads -/

/-- A migration, however far it gets, leaves a growth of its table by no rows and the tables around
it. -/
theorem exists_migrate_around (ht : t.IsUpload) (hName : t.name = name) (plan : MigrationPlan)
    (hAdded : ∀ column ∈ plan.added, IsColumnName column.1)
    (hUpdated : ∀ column ∈ plan.updated, IsColumnName column.1 ∧ column.1 ≠ rowKeyName) :
    ∃ u, ((others.around t).migrate name plan).2 = others.around u ∧ t.Grown 0 u := by
  have hRun : Changed name Table.Statement.IsMigrating (others.around t)
      ((others.around t).migrate name plan).2 :=
    changed_migrate (fun column hMem _ => hAdded column hMem)
      (fun column hMem _ _ => hUpdated column hMem) _
  obtain ⟨u, hAfter, _, hGrown⟩ := hRun.exists_around
    (fun s u v hs hu hv => hu.of_unnumbered (hu.isUpload.grown_of_run hs hv)) hName (Table.Grown.refl ht)
  exact ⟨u, hAfter, hGrown⟩

/-- Whatever becomes of an append, its table has grown: if it succeeds by as many rows as it answers, and not at
all if it fails before the insertion. -/
theorem exists_appendTable_around (ht : t.IsUpload) (hName : t.name = name) (options : LoadOptions)
    {table : CsvTable} (hHeader : KeylessHeader table.header) :
    ∃ (count : Nat) (after : Table), t.Grown count after ∧
      ((others.around t).appendTable options name table).2 = others.around after ∧
      (∀ plan n, ((others.around t).appendTable options name table).1 = .ok (plan, n) → n = count) ∧
      ∀ e, ((others.around t).appendTable options name table).1 = .error e →
        (∀ reason status, e ≠ .insertFailed reason status) → count = 0 := by
  rw [appendTable, knownTypes_around ht hName]
  cases hMake : MigrationPlan.make options.separators (t.columns.map fun c => (c.name, some c.type.meaning))
      table.header table.rows options.createKeys with
  | error e =>
      refine ⟨0, t, .refl ht, rfl, fun plan n hn => ?_, fun _ _ _ => rfl⟩
      cases hn
  | ok plan =>
      have hFor := MigrationPlan.isFor_of_make ht hHeader hMake
      obtain ⟨u, hMigrated, hGrown⟩ := exists_migrate_around others ht hName plan
        (fun _ => hFor.isColumnName_of_mem_added) (fun _ => hFor.of_mem_updated)
      dsimp only
      rcases hRun : (others.around t).migrate name plan with ⟨e | _, between⟩
      · rw [hRun] at hMigrated
        refine ⟨0, u, hGrown, hMigrated, fun plan n hn => ?_, fun _ _ _ => rfl⟩
        cases hn
      rw [hRun] at hMigrated
      obtain rfl := hMigrated
      dsimp only
      split
      · refine ⟨0, u, hGrown, rfl, fun plan n hn => ?_, fun _ _ _ => rfl⟩
        cases hn
      · rename_i values _
        have hKeyless : rowKeyName ∉ plan.columnNames := fun hMem => (hFor.proper _ hMem).2 rfl
        obtain ⟨count, after, hInserted, hAfter, hCount⟩ := exists_insertRows_around others
          hGrown.isUpload (hGrown.name.trans hName) options.batchSize hKeyless values
        refine ⟨count, after, hGrown.of_unnumbered hInserted, ?_⟩
        rcases hInsert : (others.around u).insertRows options.batchSize name plan.columnNames values with
          ⟨e | n, last⟩
        · rw [hInsert] at hAfter
          refine ⟨hAfter, fun plan n hn => ?_, fun failure hFailure hOther => ?_⟩
          · cases hn
          · exact absurd (Except.error.inj hFailure).symm (hOther _ _)
        · rw [hInsert] at hAfter hCount
          -- the table has the key, so that the plan does not ask for it
          simp only [hFor.createKey, Bool.false_eq_true, if_false]
          refine ⟨hAfter, fun plan m hm => ?_, fun failure hFailure => ?_⟩
          · rw [← (Prod.mk.inj (Except.ok.inj hm)).2, hCount n rfl]
          · cases hFailure

/-- A creation leaves the database as it was, or puts a new table at its end that has grown from none. -/
theorem createFilled_detected (db : Database) (size : Int) (name : Text) (separators : NumberSeparators)
    {header : Row} (hHeader : KeylessHeader header) (rows : List Row) (values : List (List Value)) :
    (∃ e, db.createFilled size name (DetectedSchema.detect separators header rows) values =
      (.error e, db)) ∨
    ∃ (hFree : db.denoted? name = none) (declared : List Column) (count : Nat) (t : Table),
      Table.Grown count ⟨name, declared, []⟩ t ∧
      db.createFilled size name (DetectedSchema.detect separators header rows) values =
        (.ok count, (othersOfFree hFree).around t) := by
  rcases createFilled_cases db size name (DetectedSchema.detect separators header rows) values with
    hFailed | ⟨hFree, declared, n, filled, hColumns, hInsert, hFilled⟩
  · exact .inl hFailed
  · right
    obtain ⟨count, t, hGrown, hAfter, hCount⟩ := exists_insertRows_around (othersOfFree hFree)
      (isUpload_of_detect hHeader rows hColumns) rfl size
      (DetectedSchema.rowKeyName_not_mem_detect separators rows hHeader) values
    rw [hInsert] at hAfter hCount
    obtain rfl := hCount n rfl
    obtain rfl := hAfter
    exact ⟨hFree, declared, n, t, hGrown, hFilled⟩

/-! ### Databases of uploads -/

variable {others}

/-- No name denotes two tables, and all of them have a property. -/
structure HoldsOnly (keeps : Table → Prop) (db : Database) : Prop where
  apart : db.tables.Pairwise fun t u => sameIdentifier t.name u.name = false
  keeps : ∀ t ∈ db.tables, keeps t

theorem holdsOnly_empty {keeps : Table → Prop} : empty.HoldsOnly keeps :=
  ⟨.nil, fun _ ht => nomatch ht⟩

theorem holdsOnly_around_iff {keeps : Table → Prop} (hName : t.name = name) :
    (others.around t).HoldsOnly keeps ↔
      HoldsOnly keeps ⟨others.before ++ others.after⟩ ∧ keeps t := by
  have hMem : ∀ u, u ∈ (others.around t).tables ↔ u = t ∨ u ∈ others.before ++ others.after := by
    intro u
    simp only [OtherTables.around, List.mem_append, List.mem_cons]
    tauto
  have hApart : (others.around t).tables.Pairwise (fun t u => sameIdentifier t.name u.name = false) ↔
      (others.before ++ others.after).Pairwise fun t u => sameIdentifier t.name u.name = false := by
    rw [OtherTables.around, List.pairwise_middle (fun h => by rwa [sameIdentifier_comm]),
      List.pairwise_cons, and_iff_right]
    intro u hu
    rw [sameIdentifier_comm, hName, others.apart u hu]
  constructor
  · intro h
    exact ⟨⟨hApart.mp h.apart, fun u hu => h.keeps u ((hMem u).mpr (.inr hu))⟩,
      h.keeps t ((hMem t).mpr (.inl rfl))⟩
  · rintro ⟨hOthers, ht⟩
    refine ⟨hApart.mpr hOthers.apart, fun u hu => ?_⟩
    rcases (hMem u).mp hu with rfl | hu
    · exact ht
    · exact hOthers.keeps u hu

/-- A new table behind the others. -/
theorem HoldsOnly.add {keeps : Table → Prop} {db : Database} (h : db.HoldsOnly keeps)
    (hFree : db.denoted? name = none) (hName : t.name = name) (ht : keeps t) :
    ((othersOfFree hFree).around t).HoldsOnly keeps := by
  refine (holdsOnly_around_iff hName).mpr ⟨?_, ht⟩
  rw [othersOfFree, List.append_nil]
  exact h

/-- A table in the place of another one of its name. -/
theorem HoldsOnly.replace {keeps : Table → Prop} {u : Table} (h : (others.around t).HoldsOnly keeps)
    (hName : t.name = name) (hu : u.name = name) (hKeeps : keeps u) :
    (others.around u).HoldsOnly keeps :=
  (holdsOnly_around_iff hu).mpr ⟨((holdsOnly_around_iff hName).mp h).1, hKeeps⟩

/-- A table among the others. -/
theorem HoldsOnly.exists_around {keeps : Table → Prop} {db : Database} (h : db.HoldsOnly keeps)
    (hExists : (db.table? name).isSome) :
    ∃ (others : OtherTables name) (t : Table), db = others.around t ∧ t.name = name ∧ keeps t := by
  obtain ⟨t, hTable⟩ := Option.isSome_iff_exists.mp hExists
  obtain rfl : t.name = name := by simpa using List.find?_some hTable
  have hMem := List.mem_of_find?_eq_some hTable
  obtain ⟨before, after, hTables⟩ := List.append_of_mem hMem
  have hApart := h.apart
  rw [hTables, List.pairwise_middle (fun h => by rwa [sameIdentifier_comm]), List.pairwise_cons]
    at hApart
  refine ⟨⟨before, after, fun u hu => ?_⟩, t, ?_, rfl, h.keeps t hMem⟩
  · rw [sameIdentifier_comm, hApart.1 u hu]
  · cases db
    exact congrArg Database.mk hTables

/-- A new table behind the others, or no change. -/
theorem HoldsOnly.createFilled {db : Database} (h : db.HoldsOnly Table.IsNumberedUpload) (size : Int)
    (name : Text) (separators : NumberSeparators) {header : Row} (hHeader : KeylessHeader header)
    (rows : List Row) (values : List (List Value)) :
    (db.createFilled size name (DetectedSchema.detect separators header rows) values).2.HoldsOnly
      Table.IsNumberedUpload := by
  rcases createFilled_detected db size name separators hHeader rows values with
    ⟨e, hFailed⟩ | ⟨hFree, declared, count, t, hGrown, hFilled⟩
  · rwa [hFailed]
  · rw [hFilled]
    exact h.add hFree hGrown.name (.new hGrown)

/-- Appending, or failing to, keeps the keys of every table numbered. -/
theorem HoldsOnly.appendTable {db : Database} (h : db.HoldsOnly Table.IsNumberedUpload)
    (options : LoadOptions) (hExists : (db.table? name).isSome) {table : CsvTable}
    (hHeader : KeylessHeader table.header) :
    (db.appendTable options name table).2.HoldsOnly Table.IsNumberedUpload := by
  obtain ⟨others, t, rfl, hName, ht⟩ := h.exists_around hExists
  obtain ⟨count, after, hGrown, hAfter, _⟩ :=
    exists_appendTable_around others ht.isUpload hName options hHeader
  rw [hAfter]
  exact h.replace hName (hGrown.name.trans hName) (ht.grown hGrown)

end Database

namespace Workspace

/-- From an empty database on, all tables are numbered. -/
theorem Later.holdsOnly {clock : Clock} {w : Workspace} (run : Later ⟨.empty, [], clock⟩ w) :
    w.database.HoldsOnly Table.IsNumberedUpload :=
  @Later.database_induction (Database.HoldsOnly Table.IsNumberedUpload) _ w run
    Database.holdsOnly_empty
    (fun _ size name separators _ values hDb hHeader =>
      hDb.createFilled size name separators hHeader _ values)
    fun _ options _ _ hDb hExists hHeader => hDb.appendTable options hExists hHeader

/-- Starting with nothing, whatever becomes of the loads: every table has the key column, and its keys are the
numbers from one on, in the order of the rows. -/
theorem keys_of_later {clock : Clock} {w : Workspace} (run : Later ⟨.empty, [], clock⟩ w) :
    ∀ t ∈ w.database.tables, t.hasColumn rowKeyName = true ∧
      t.rows.map (fun row => t.cell? row rowKeyName) =
        (List.range t.rows.length).map fun k : Nat => some (.integer (k + 1)) :=
  fun t hMem => (run.holdsOnly.keeps t hMem).keys

/-- A table whose first append fails at its second row, so that one row stays, and whose second append goes on
behind it. -/
theorem keys_of_later_after_failure :
    ∃ (clock : Clock) (created failing file : UploadFile) (v u w : Workspace) (t : Table),
      created.content = "n\n2\n".toUTF8 ∧
      failing.content = "n\n3\n9223372036854775808\n".toUTF8 ∧ file.content = "n\n4\n".toUTF8 ∧
      v = (create ⟨.empty, [], clock⟩ {} true ['p'] created).2 ∧
      u = (v.append {} true failing t.name).2 ∧ w = (u.append {} true file t.name).2 ∧
      (v.append {} true failing t.name).1 =
        .error (.insertFailed Error.refusedByStore.message (some 422)) ∧
      w.database.tables = [t] ∧
      t.rows.map (fun row => t.cell? row rowKeyName) =
        [some (.integer 1), some (.integer 2), some (.integer 3)] := by
  let created : UploadFile := { name := ['f'], content := "n\n2\n".toUTF8 }
  let failing : UploadFile := { name := ['g'], content := "n\n3\n9223372036854775808\n".toUTF8 }
  let file : UploadFile := { name := ['h'], content := "n\n4\n".toUTF8 }
  let name : Text := "pf_10101000001".toList
  let v := (create ⟨.empty, [], .first⟩ {} true ['p'] created).2
  let u := (v.append {} true failing name).2
  let w := (u.append {} true file name).2
  have hFailure : (v.append {} true failing name).1 =
      .error (.insertFailed Error.refusedByStore.message (some 422)) := by
    decide +kernel
  have hTables : w.database.tables.map (fun t => (t.name, t.rows.length)) = [(name, 3)] := by
    decide +kernel
  obtain ⟨t, hTable, hRows⟩ := List.map_eq_singleton_iff.mp hTables
  obtain ⟨hName, hLength⟩ := Prod.mk.inj hRows
  have run : Later ⟨.empty, [], .first⟩ w :=
    .append (.append (.create .refl {} true ['p'] created) {} true failing name) {} true file name
  have hKeys := (keys_of_later run t (by simp [hTable])).2
  rw [hLength] at hKeys
  refine ⟨.first, created, failing, file, v, u, w, t, rfl, rfl, rfl, rfl, ?_, ?_, ?_, hTable, hKeys⟩
  · rw [hName]
  · rw [hName]
  · rw [hName, hFailure]

end Workspace

end CsvIntake
