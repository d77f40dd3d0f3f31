import CsvIntake.Proofs.KeptTypes
import CsvIntake.Proofs.RefusedAppend

/-! Appending the file from which a table was made. Main statement: nothing about the columns changes, and
the rows of the file stand in the table a second time, with keys that go on from the first ones. -/
namespace CsvIntake

namespace Registry

/-- An upload that was entered is found. -/
theorem isSome_upload?_of_mem {registry : Registry} {entry : RegistryEntry} (hMem : entry ∈ registry)
    (hUpload : entry.isUpload = true) : (registry.upload? entry.tableName).isSome = true := by
  rw [upload?, List.find?_isSome]
  refine ⟨entry, hMem, ?_⟩
  rw [beq_self_eq_true, hUpload]
  rfl

end Registry

/-- The table made from a file with distinct names, with the cells of its rows beside the key. -/
structure Table.MadeFrom (separators : NumberSeparators) (source : CsvTable)
    (cells : List (List Cell)) (t : Table) : Prop where
  isUpload : t.IsUpload
  names : t.columns.tail.map Column.name = source.header.map columnName
  types : List.Forall₂ (fun t type => t.native = .ok type)
    (ColumnType.ofRows separators (List.replicate source.header.length none) source.rows)
    (t.columns.tail.map Column.type)
  rows : t.rows = Table.withKeyCells 1 cells
  values : ∃ values, List.Forall₂ (ReadAs separators
      (ColumnType.ofRows separators (List.replicate source.header.length none) source.rows))
      source.rows values ∧
    values.mapM (t.cellsFor? (source.header.map columnName)) = some cells

namespace Database

/-- An append whose plan leaves the table as it is. -/
theorem appendTable_of_keeps {db after : Database} {options : LoadOptions} {name : Text}
    {table : CsvTable} {types : List ColumnType} {plan : MigrationPlan} {values : List (List Value)}
    {count : Nat}
    (hMake : MigrationPlan.make options.separators (db.knownTypes name) table.header table.rows
      options.createKeys = .ok plan)
    (hKeeps : plan.Keeps table.header types)
    (hRead : (readRows options.separators types table.rows plan.columnNames).all = .ok values)
    (hInsert : db.insertRows options.batchSize name plan.columnNames values = (.ok count, after)) :
    db.appendTable options name table = (.ok (plan, count), after) := by
  rw [appendTable, hMake]
  dsimp only
  rw [migrate_of_not_modifySchema db name hKeeps.modifySchema]
  dsimp only
  rw [hKeeps.loadTypes, hRead]
  dsimp only
  rw [hInsert]
  dsimp only
  rw [hKeeps.createKey]
  rfl

/-- The rows of a file are inserted a second time. -/
theorem insertRows_again {name : Text} {others : OtherTables name} {separators : NumberSeparators}
    {source : CsvTable} {cells : List (List Cell)} {t : Table} (hMade : t.MadeFrom separators source cells)
    (hName : t.name = name) (hHeader : KeylessHeader source.header) {size : Int} (hBatch : 1 ≤ size)
    (hSize : size < Nat.pow 2 63) {values : List (List Value)}
    (hCells : values.mapM (t.cellsFor? (source.header.map columnName)) = some cells)
    (hKeys : 2 * cells.length < 2 ^ 63) :
    (others.around t).insertRows size name (source.header.map columnName) values =
      (.ok cells.length, others.around (t.withRows (Table.withKeyCells (cells.length + 1) cells))) := by
  have hLength : values.length = cells.length := (mapM_eq_some_iff.mp hCells).length_eq
  rw [insertRows_around hMade.isUpload hName hBatch hHeader.rowKeyName_not_mem,
    Table.lastKey_of_rows hMade.rows]
  refine ⟨hSize, hLength.symm, ?_, cells, hCells, rfl⟩
  intro k hk
  have hRange : ((Nat.pow 2 63 : Nat) : Int) = 2 ^ 63 := by rfl
  rw [fitsBigint, decide_eq_true_iff, hRange]
  omega

/-- The file from which a table was made is appended to it. -/
theorem exists_appendTable {name : Text} {others : OtherTables name} {options : LoadOptions}
    {source : CsvTable} {cells : List (List Cell)} {t : Table}
    (hMade : t.MadeFrom options.separators source cells) (hName : t.name = name)
    (hHeader : KeylessHeader source.header) (hDistinct : (source.header.map columnName).Nodup)
    (hBatch : 1 ≤ options.batchSize) (hSize : options.batchSize < Nat.pow 2 63) :
    ∃ plan, MigrationPlan.make options.separators ((others.around t).knownTypes name) source.header
        source.rows options.createKeys = .ok plan ∧ plan.added = [] ∧ plan.updated = [] ∧
      (2 * cells.length < 2 ^ 63 → (others.around t).appendTable options name source =
        (.ok (plan, cells.length),
          others.around (t.withRows (Table.withKeyCells (cells.length + 1) cells)))) := by
  have hNoKey : some .rowKey ∉ List.replicate source.header.length (none : Option ColumnType) := by
    simp
  obtain ⟨plan, hPlan, hKeeps⟩ := MigrationPlan.exists_keeps hMade.isUpload hHeader hDistinct hNoKey
    hMade.names hMade.types options.createKeys
  have hKnown : (others.around t).knownTypes name =
      t.columns.map fun c => (c.name, some c.type.meaning) := knownTypes_around hMade.isUpload hName
  rw [← hKnown] at hPlan
  refine ⟨plan, hPlan, hKeeps.added, hKeeps.updated, fun hKeys => ?_⟩
  obtain ⟨values, hValues, hCells⟩ := hMade.values
  have hRead : (readRows options.separators ((t.columns.tail.map Column.type).map NativeType.meaning)
      source.rows plan.columnNames).all = .ok values := by
    refine readRows_all_eq_ok_iff.mpr ⟨?_, hValues.imp fun _ _ => ?_⟩
    · intro u hu
      obtain ⟨type, _, rfl⟩ := List.mem_map.mp hu
      exact (ColumnType.of_mem_reported (ColumnType.meaning_mem_reported type)).2.1
    · exact ColumnType.readAs_meaning hMade.types (ColumnType.rowKey_not_mem_ofRows hNoKey _)
  apply appendTable_of_keeps hPlan hKeeps hRead
  rw [hKeeps.columnNames]
  exact insertRows_again hMade hName hHeader hBatch hSize hCells hKeys

end Database

namespace Workspace

/-- A successful append of a file that can be read. -/
theorem append_of_appendTable {w : Workspace} {options : LoadOptions} {useRegistry : Bool}
    {file : UploadFile} {name : Text} {table : CsvTable} {plan : MigrationPlan} {count : Nat}
    {after : Database} (hExists : (w.database.table? name).isSome = true)
    (hUpload : useRegistry = true → (w.registry.upload? name).isSome = true)
    (hStore : useRegistry = true → options.registryFault = none) (hRead : readUpload file = .ok table)
    (h : w.database.appendTable options name table = (.ok (plan, count), after)) :
    ∃ stats, (w.append options useRegistry file name).1 = .ok stats ∧ stats.rowCount = count ∧
      (w.append options useRegistry file name).2.database = after := by
  have hKnown : ¬(useRegistry && (w.registry.upload? name).isNone) = true := by
    intro hUnknown
    obtain ⟨hUsed, hNone⟩ := Bool.and_eq_true_iff.mp hUnknown
    rw [Option.isNone_iff_eq_none] at hNone
    simpa [hNone] using hUpload hUsed
  have hPresent : ¬(w.database.table? name).isNone = true := by
    simpa using Option.isSome_iff_ne_none.mp hExists
  rw [append, if_neg hPresent, if_neg hKnown, hRead]
  dsimp only
  rw [h]
  cases useRegistry with
  | false => exact ⟨_, rfl, rfl, rfl⟩
  | true =>
      simp only [changeRegistry, if_true, hStore rfl]
      exact ⟨_, rfl, rfl, rfl⟩

/-- What the creation of a table from a file with distinct names has left. -/
theorem exists_around_of_create {w : Workspace} {options : LoadOptions} {useRegistry : Bool}
    {start : Text} {file : UploadFile} {source : CsvTable} {upload : CreatedUpload}
    (hRead : readUpload file = .ok source) (hDistinct : (source.header.map columnName).Nodup)
    (hBatch : 1 ≤ options.batchSize)
    (hCreate : (w.create options useRegistry start file).1 = .ok upload) :
    ∃ (others : OtherTables upload.tableName) (t : Table) (cells : List (List Cell)),
      t.name = upload.tableName ∧ t.MadeFrom options.separators source cells ∧
      cells.length = upload.stats.rowCount ∧ options.batchSize < Nat.pow 2 63 ∧
      (w.create options useRegistry start file).2.database = others.around t := by
  have hHeader := keylessHeader_of_readUpload hRead
  obtain ⟨schema, values, hPrepare, hFill, _⟩ := create_eq_ok hCreate
  obtain ⟨_, hAgain, rfl, hValues⟩ := prepareCreate_eq_ok hPrepare
  obtain rfl := Except.ok.inj (hRead.symm.trans hAgain)
  obtain ⟨others, t, hName, ht, hRows, hColumns, hInsert⟩ :=
    Database.createFilled_eq_ok hHeader _ hFill
  rw [DetectedSchema.names_detect, uniquify_of_nodup hDistinct] at hInsert
  obtain ⟨hSize, hCount, _, cells, hCells, hAfter⟩ :=
    (Database.insertRows_around ht hName hBatch hHeader.rowKeyName_not_mem).mp hInsert
  have hLast : t.lastKey = 0 := @Table.lastKey_of_rows t [] hRows
  rw [hLast, Int.zero_add] at hAfter
  refine ⟨others, t.withRows (Table.withKeyCells 1 cells), cells, hName, ?_, ?_, hSize, hAfter⟩
  · rw [DetectedSchema.all_detect _ _ hHeader] at hColumns
    obtain ⟨hNames, hNatives⟩ := Database.tail_of_columns hColumns
    rw [DetectedSchema.names_detect, uniquify_of_nodup hDistinct] at hNames
    rw [DetectedSchema.types_detect] at hNatives hValues
    refine ⟨ht.withRows_withKeyCells hCells 1, hNames, hNatives, ?_, values, ?_, hCells⟩
    · show t.rows ++ Table.withKeyCells 1 cells = _
      rw [hRows, List.nil_append]
    · exact (readRows_all_eq_ok_iff.mp hValues).2
  · rw [mapM_eq_some_iff] at hCells
    rw [hCount, hCells.length_eq]

/-- Appending the file again. The plan changes nothing; and since the last key is twice the number of rows, as
long as that is a `BIGINT` the append succeeds and the same cells follow under the next keys. -/
theorem append_created_file {w : Workspace} {options : LoadOptions} {useRegistry : Bool} {start : Text}
    {file : UploadFile} {source : CsvTable} {upload : CreatedUpload}
    (hRead : readUpload file = .ok source) (hDistinct : (source.header.map columnName).Nodup)
    (hBatch : 1 ≤ options.batchSize)
    (hCreate : (w.create options useRegistry start file).1 = .ok upload) :
    let created := (w.create options useRegistry start file).2
    let count := upload.stats.rowCount
    ∃ (others : OtherTables upload.tableName) (before : Table) (cells : List (List Cell))
      (plan : MigrationPlan),
      created.database = others.around before ∧ before.name = upload.tableName ∧ before.IsUpload ∧
      before.rows = Table.withKeyCells 1 cells ∧ cells.length = count ∧
      MigrationPlan.make options.separators (created.database.knownTypes upload.tableName)
        source.header source.rows options.createKeys = .ok plan ∧
      plan.added = [] ∧ plan.updated = [] ∧
      (2 * count < 2 ^ 63 → ∃ (stats : LoadStats) (after : Table),
        (created.append options useRegistry file upload.tableName).1 = .ok stats ∧
        stats.rowCount = count ∧
        (created.append options useRegistry file upload.tableName).2.database =
          others.around after ∧
        after.columns = before.columns ∧ after.rows = Table.withKeyCells 1 (cells ++ cells)) := by
  intro created count
  obtain ⟨others, t, cells, hName, hMade, hLength, hSize, hAround⟩ :=
    exists_around_of_create hRead hDistinct hBatch hCreate
  obtain ⟨plan, hPlan, hAdded, hUpdated, hAppend⟩ := Database.exists_appendTable hMade hName
    (keylessHeader_of_readUpload hRead) hDistinct hBatch hSize
  rw [← hAround] at hPlan hAppend
  refine ⟨others, t, cells, plan, hAround, hName, hMade.isUpload, hMade.rows, hLength, hPlan, hAdded,
    hUpdated, ?_⟩
  intro hKeys
  have hExists : (created.database.table? upload.tableName).isSome = true := by
    rw [hAround, Database.table?_around hName]
    rfl
  obtain ⟨_, _, _, _, hRegistered⟩ := create_eq_ok hCreate
  have hUpload : useRegistry = true → (created.registry.upload? upload.tableName).isSome = true := by
    intro hUsed
    obtain ⟨entry, hEntry, hFlag, hAdd⟩ := hRegistered hUsed
    obtain ⟨_, _, hAfter⟩ := Registry.add_eq_ok_iff.mp hAdd
    rw [← hEntry]
    exact Registry.isSome_upload?_of_mem (by simp [created, hAfter]) hFlag
  have hStore : useRegistry = true → options.registryFault = none := by
    intro hUsed
    obtain ⟨_, _, _, hAdd⟩ := hRegistered hUsed
    exact (Registry.add_eq_ok_iff.mp hAdd).1
  obtain ⟨stats, hOk, hStats, hAfter⟩ := append_of_appendTable hExists hUpload hStore hRead
    (hAppend (by rwa [hLength]))
  refine ⟨stats, _, hOk, hStats.trans hLength, hAfter, rfl, ?_⟩
  show t.rows ++ _ = _
  rw [hMade.rows, Table.withKeyCells_append, Int.add_comm]

/-- A number and a word, and below them the same again. -/
theorem append_number_and_word_again :
    ∃ (w : Workspace) (file : UploadFile) (upload : CreatedUpload) (stats : LoadStats)
      (others : OtherTables upload.tableName) (before after : Table) (cells : List (List Cell)),
      file.content = "n,Word\n2,x\n".toUTF8 ∧ (w.create {} true ['p'] file).1 = .ok upload ∧
      (w.create {} true ['p'] file).2.database = others.around before ∧
      before.rows = Table.withKeyCells 1 cells ∧ cells.length = 1 ∧
      ((w.create {} true ['p'] file).2.append {} true file upload.tableName).1 = .ok stats ∧
      stats.rowCount = 1 ∧
      ((w.create {} true ['p'] file).2.append {} true file upload.tableName).2.database =
        others.around after ∧
      after.columns = before.columns ∧ after.rows = Table.withKeyCells 1 (cells ++ cells) := by
  let day : Date := ⟨1, 1, 1, by decide, by decide, by decide, by decide, by decide, by decide⟩
  let w : Workspace := ⟨⟨[]⟩, [], ⟨⟨day, .midnight⟩, ⟨⟨day, .midnight⟩, []⟩⟩⟩
  let file : UploadFile := { name := ['f'], content := "n,Word\n2,x\n".toUTF8 }
  have hRead : readUpload file =
      .ok ⟨[some ['n'], some "Word".toList], [[some ['2'], some ['x']]]⟩ := by
    decide +kernel
  have hDistinct : ([some ['n'], some "Word".toList].map columnName).Nodup := by decide
  have hCount : (w.create {} true ['p'] file).1.map (fun upload => upload.stats.rowCount) = .ok 1 := by
    decide +kernel
  cases hCreate : (w.create {} true ['p'] file).1 with
  | error e => simp [hCreate, Except.map] at hCount
  | ok upload =>
      rw [hCreate, Except.map, Except.ok.injEq] at hCount
      obtain ⟨others, before, cells, plan, hBefore, _, _, hRows, hLength, _, _, _, hAgain⟩ :=
        append_created_file hRead hDistinct (by decide) hCreate
      obtain ⟨stats, after, hAppend, hStats, hAfter, hColumns, hTwice⟩ :=
        hAgain (by rw [hCount]; decide)
      exact ⟨w, file, upload, stats, others, before, after, cells, rfl, hCreate, hBefore, hRows,
        hLength.trans hCount, hAppend, hStats.trans hCount, hAfter, hColumns, hTwice⟩

end Workspace

end CsvIntake
