import CsvIntake.Proofs.LoadedTables

/-! A successful creation. Main statement: it puts one table behind the others, with the key and the columns
that were detected, and in it the rows of the file as they are read with the detected types, in their order
and with keys from one on; it adds one entry to a registry that is used, and changes nothing else. -/
namespace CsvIntake

/-- The table of a file with a schema: the key and the columns of the schema, and the rows of the file as
they are read with its types, with keys from one on. -/
structure Table.HoldsFile (separators : NumberSeparators) (rows : List Row) (schema : Schema)
    (t : Table) : Prop where
  columns : List.Forall₂ (fun column c => c.name = column.1 ∧ column.2.native = .ok c.type)
    ((rowKeyName, .rowKey) :: schema) t.columns
  rows : ∃ values,
    (readRows separators (schema.map Prod.snd) rows (NameMap.names schema)).all = .ok values ∧
    values.length = rows.length ∧
    t.rows = Table.withKeyCells 1 (values.map fun row => row.map Value.cell)

/-- Values that were read as the types of the columns beside the key are stored as they are. -/
theorem Table.IsUpload.cellsFor?_of_readAs {t : Table} (ht : t.IsUpload) {separators : NumberSeparators}
    {types : List ColumnType}
    (hTypes : List.Forall₂ (fun t type => t.native = .ok type) types (t.columns.tail.map Column.type))
    {row : Row} {values : List Value} (hRead : ReadAs separators types row values) {cells : List Cell}
    (h : t.cellsFor? (t.columns.tail.map Column.name) values = some cells) :
    cells = values.map Value.cell := by
  obtain ⟨rest, hColumns, hRest⟩ := ht.exists_columns
  have hWidth : (Cell.null :: cells).length = t.columns.length := ht.length_of_cellsFor? h
  have hDistinct := ht.distinct
  rw [hColumns, List.tail_cons] at hTypes h
  rw [hColumns, List.map_cons, List.nodup_cons] at hDistinct
  rw [hColumns, List.length_cons, List.length_cons, Nat.succ_inj] at hWidth
  have hLength : values.length = rest.length := by
    rw [hRead.1, hTypes.length_eq, List.length_map]
  refine List.ext_getElem? fun i => ?_
  rcases Nat.lt_or_ge i rest.length with hi | hi
  · obtain ⟨c, hc⟩ : ∃ c, rest[i]? = some c := ⟨_, List.getElem?_eq_getElem hi⟩
    obtain ⟨v, hv⟩ : ∃ v, values[i]? = some v := exists_getElem?_of_length_eq hLength hc
    have hMem : c ∈ rest := List.mem_of_getElem? hc
    have hPlace : t.columns[i + 1]? = some c := by rw [hColumns, List.getElem?_cons_succ, hc]
    obtain ⟨cell, hCell, hStored⟩ := ht.cell?_of_cellsFor?
      (fun name hName => by
        obtain ⟨d, hd, rfl⟩ := List.mem_map.mp hName
        exact (hRest d hd).1)
      hDistinct.2 h .null (List.mem_of_getElem? hPlace) (hRest c hMem).2
      (by rw [List.getElem?_map, hc, Option.map_some]) hv
    rw [ht.cell?_eq_getElem? _ hPlace, List.getElem?_cons_succ] at hStored
    have hType : (rest.map Column.type)[i]? = some c.type := by
      rw [List.getElem?_map, hc, Option.map_some]
    obtain ⟨u, hu, hNative⟩ := exists_left_of_forall₂ hTypes hType
    rw [hStored, List.getElem?_map, hv, Option.map_some,
      convert?_cell_of_readCell (hRead.2 i u v hu hv) hNative hCell]
  · rw [List.getElem?_eq_none (by omega), List.getElem?_eq_none (by simpa [hLength] using hi)]

namespace Database

variable {name : Text}

/-- Rows that were read are inserted into a new table. -/
theorem holdsFile_of_insertRows {separators : NumberSeparators} {header : Row}
    (hHeader : KeylessHeader header) {rows : List Row} {declared : List Column}
    (hColumns : columns (DetectedSchema.detect separators header rows).all = .ok declared)
    {values : List (List Value)}
    (hRead : (readRows separators ((DetectedSchema.detect separators header rows).extant.map Prod.snd)
      rows (NameMap.names (DetectedSchema.detect separators header rows).extant)).all = .ok values)
    {others : OtherTables name} {size : Int} (hBatch : 1 ≤ size) {count : Nat} {after : Database}
    (hInsert : (others.around ⟨name, declared, []⟩).insertRows size name
      (NameMap.names (DetectedSchema.detect separators header rows).extant) values =
        (.ok count, after)) :
    ∃ t : Table, after = others.around t ∧ t.name = name ∧ count = rows.length ∧
      t.HoldsFile separators rows (DetectedSchema.detect separators header rows).extant := by
  have ht : Table.IsUpload ⟨name, declared, []⟩ := isUpload_of_detect hHeader rows hColumns
  have hKeyless := DetectedSchema.rowKeyName_not_mem_detect separators rows hHeader
  rw [DetectedSchema.all_detect separators rows hHeader] at hColumns
  obtain ⟨hNames, hNatives⟩ := tail_of_columns hColumns
  have hValues := (readRows_all_eq_ok_iff.mp hRead).2
  obtain ⟨_, rfl, _, cells, hCells, rfl⟩ := (insertRows_around ht rfl hBatch hKeyless).mp hInsert
  have hStored : cells = values.map fun row => row.map Value.cell := by
    have hReadAs : ∀ given ∈ values, ∃ row, ReadAs separators
        ((DetectedSchema.detect separators header rows).extant.map Prod.snd) row given := by
      intro given hMem
      obtain ⟨i, hi⟩ := List.mem_iff_getElem?.mp hMem
      obtain ⟨row, _, hRow⟩ := exists_left_of_forall₂ hValues hi
      exact ⟨row, hRow⟩
    rw [← hNames, mapM_eq_some_iff] at hCells
    rw [← List.forall₂_eq_eq_eq, List.forall₂_map_right_iff]
    refine List.Forall₂.flip (((List.forall₂_and_left _ _).mpr ⟨hReadAs, hCells⟩).imp ?_)
    rintro given stored ⟨⟨row, hRow⟩, hTaken⟩
    exact ht.cellsFor?_of_readAs hNatives hRow hTaken
  have hLast : Table.lastKey ⟨name, declared, []⟩ = 0 := rfl
  refine ⟨_, rfl, rfl, hValues.length_eq.symm, ?_, values, hRead, hValues.length_eq.symm, ?_⟩
  · rw [columns, mapM_eq_ok_iff] at hColumns
    exact hColumns.imp fun _ _ hColumn => column_of_declared hColumn
  · rw [hLast, hStored]
    exact List.nil_append _

end Database

namespace Workspace

/-- A successful creation. The schema is the one that is detected in the file without the columns that would take
the name of the key; the table is new, and last; and a registry that is used did not know it and has it last. -/
theorem tables_of_create {w : Workspace} {options : LoadOptions} {useRegistry : Bool} {start : Text}
    {file : UploadFile} {upload : CreatedUpload} (hBatch : 1 ≤ options.batchSize)
    (hCreate : (w.create options useRegistry start file).1 = .ok upload) :
    let after := (w.create options useRegistry start file).2
    ∃ (source : CsvTable) (t : Table),
      CsvTable.read file = .ok source ∧
      upload.schema = DetectedSchema.detect options.separators (headerWithoutKeys source.header)
        (rowsWithoutKeys source.header source.rows) ∧
      NameMap.names upload.schema.extant = uniquify ((headerWithoutKeys source.header).map columnName) ∧
      w.database.denoted? upload.tableName = none ∧
      after.database.tables = w.database.tables ++ [t] ∧
      t.name = upload.tableName ∧
      t.HoldsFile options.separators (rowsWithoutKeys source.header source.rows)
        upload.schema.extant ∧
      upload.stats.rowCount = source.rows.length ∧
      (useRegistry = true → (∀ known ∈ w.registry, known.tableName ≠ upload.tableName) ∧
        after.registry = w.registry ++ [⟨upload.tableName, displayName (fileStem file.name),
          some file.name, true, upload.stats.rowCount⟩]) ∧
      (useRegistry = false → after.registry = w.registry) := by
  have hOutcome := w.create_outcome options useRegistry start file
  generalize w.create options useRegistry start file = result at hCreate hOutcome ⊢
  cases hOutcome with
  | failed e clock => cases hCreate
  | unregistered hPrepare hFill hRegistry hRefused => cases hCreate
  | @created name _ schema values count _ _ hName hPrepare hFill hUsed hUnused =>
      obtain rfl := Except.ok.inj hCreate
      obtain ⟨table, hTable, rfl, hValues⟩ := prepareCreate_eq_ok hPrepare
      have hHeader := keylessHeader_of_readUpload hTable
      obtain ⟨source, hSource, rfl⟩ := readUpload_eq_ok hTable
      rcases Database.createFilled_cases w.database options.batchSize (Text.lowerAscii name)
        (DetectedSchema.detect options.separators (headerWithoutKeys source.header)
          (rowsWithoutKeys source.header source.rows)) values with
        ⟨e, hFailed⟩ | ⟨hFree, declared, _, _, hColumns, hInsert, hFilled⟩
      · rw [hFailed] at hFill
        cases hFill
      · obtain ⟨hCount, rfl⟩ := Prod.mk.inj (hFilled.symm.trans hFill)
        obtain rfl := Except.ok.inj hCount
        obtain ⟨t, rfl, hTableName, hRows, hHolds⟩ := Database.holdsFile_of_insertRows hHeader hColumns
          hValues hBatch hInsert
        refine ⟨source, t, hSource, rfl, DetectedSchema.names_detect _ _, hFree, rfl, hTableName, hHolds,
          ?_, fun hRegistered => (Registry.add_eq_ok_iff.mp (hUsed hRegistered)).2, hUnused⟩
        rw [newUpload, hRows, rowsWithoutKeys, List.length_map]

/-- A file with a key column of its own and with a name twice, in batches of one row, beside another table. -/
theorem tables_of_create_with_repeated_names :
    ∃ (w : Workspace) (options : LoadOptions) (file : UploadFile) (upload : CreatedUpload) (t : Table),
      w.database.tables = [⟨['o'], [⟨['n'], .bigint⟩], [[.integer 5]]⟩] ∧ options.batchSize = 1 ∧
      file.content = "n,_mb_row_id,N\n2,7,x\n,8,y\n".toUTF8 ∧
      (w.create options true ['p'] file).1 = .ok upload ∧
      (w.create options true ['p'] file).2.database.tables = w.database.tables ++ [t] ∧
      t.rows = [[.integer 1, .integer 2, .varchar ['x']], [.integer 2, .null, .varchar ['y']]] ∧
      upload.stats.rowCount = 2 := by
  let w : Workspace := ⟨⟨[⟨['o'], [⟨['n'], .bigint⟩], [[.integer 5]]⟩]⟩, [], .first⟩
  let file : UploadFile := { name := ['f'], content := "n,_mb_row_id,N\n2,7,x\n,8,y\n".toUTF8 }
  have hCount : (w.create { batchSize := 1 } true ['p'] file).1.map
      (fun upload => upload.stats.rowCount) = .ok 2 := by
    decide +kernel
  have hRows : (w.create { batchSize := 1 } true ['p'] file).2.database.tables.map Table.rows =
      [[[.integer 5]],
        [[.integer 1, .integer 2, .varchar ['x']], [.integer 2, .null, .varchar ['y']]]] := by
    decide +kernel
  cases hCreate : (w.create { batchSize := 1 } true ['p'] file).1 with
  | error e => simp [hCreate, Except.map] at hCount
  | ok upload =>
      rw [hCreate, Except.map, Except.ok.injEq] at hCount
      obtain ⟨source, t, _, _, _, _, hTables, _⟩ := tables_of_create (by decide) hCreate
      rw [hTables, List.map_append] at hRows
      exact ⟨w, { batchSize := 1 }, file, upload, t, rfl, rfl, rfl, hCreate, hTables,
        List.singleton_inj.mp (List.cons.inj hRows).2, hCount⟩

end Workspace

end CsvIntake
