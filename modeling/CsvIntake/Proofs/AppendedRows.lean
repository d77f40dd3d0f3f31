import CsvIntake.Proofs.InsertedRows
import CsvIntake.Proofs.PlannedColumns
import CsvIntake.Proofs.TypedRows

/-! What a successful append makes of its table. Old columns stay in their order and new ones follow; old
rows stay, and below them stands one row for each row of the file, with the next key and, below each name of
the header, the value that was read there. -/
namespace CsvIntake

/-- What the append of typed rows by a plan makes of a table. -/
structure Appended (plan : MigrationPlan) (values : List (List Value)) (before after : Table) :
    Prop where
  name : after.name = before.name
  names : after.columns.map Column.name =
    before.columns.map Column.name ++ NameMap.names plan.added
  added : NameMap.names plan.added =
    plan.columnNames.filter fun name => !(before.columns.map Column.name).contains name
  updated : ∀ name ∈ NameMap.names plan.updated, name ∈ before.columns.map Column.name
  types : ∀ (i : Nat) c, after.columns[i]? = some c →
    match (plan.updated ++ plan.added).lookup c.name with
    | some type => type.native = .ok c.type
    | none => before.columns[i]? = some c
  rows : ∃ kept new, after.rows = kept ++ new ∧
    -- old rows are cast in updated columns and null in added ones
    List.Forall₂ (fun row cells => cells.length = after.columns.length ∧
      ∀ c ∈ after.columns, after.cell? cells c.name =
        match before.cell? row c.name with
        | some cell => Table.castCell? plan.updated c cell
        | none => some .null) before.rows kept ∧
    -- new rows have the next keys and the values of the file
    ∃ last, before.IsLastKey last ∧ new.length = values.length ∧
      ∀ (k : Nat) given cells, values[k]? = some given → new[k]? = some cells →
        cells.length = after.columns.length ∧
        after.cell? cells rowKeyName = some (.integer (last + k + 1)) ∧
        given.length = plan.columnNames.length ∧
        ∀ (i : Nat) name v, plan.columnNames[i]? = some name → given[i]? = some v →
          after.cell? cells name = some v.cell

namespace Table

variable {t u : Table} {added : List Column} {updated : Schema}

theorem castCell?_null (updated : Schema) (c : Column) : castCell? updated c .null = some .null := by
  rw [castCell?]
  split
  · cases c.type <;> rfl
  · rfl

theorem cell?_eq_none {row : List Cell} {name : Text} (h : name ∉ t.columns.map Column.name) :
    t.cell? row name = none := by
  rw [cell?, List.lookup_eq_none_iff]
  intro pair hMem
  rw [bne_iff_ne]
  rintro rfl
  exact h (List.of_mem_zip hMem).1

/-- Old rows in a table with added columns and new types. -/
theorem Retyped.cell?_eq (h : (t.extended added).Retyped updated u) (ht : t.IsUpload)
    (hu : u.IsUpload) {row cells : List Cell} (hRow : row ∈ t.rows)
    (hCells : ∀ (i : Nat) c, u.columns[i]? = some c → cells[i]? =
      ((row ++ List.replicate added.length .null)[i]?).bind (castCell? updated c))
    {c : Column} (hc : c ∈ u.columns) :
    u.cell? cells c.name =
      match t.cell? row c.name with
      | some cell => castCell? updated c cell
      | none => some .null := by
  obtain ⟨i, hi⟩ := List.mem_iff_getElem?.mp hc
  have hWidth := ht.widths row hRow
  have hNames : u.columns.map Column.name = t.columns.map Column.name ++ added.map Column.name := by
    rw [h.names, extended, List.map_append]
  have hName : (t.columns.map Column.name ++ added.map Column.name)[i]? = some c.name := by
    rw [← hNames, List.getElem?_map, hi]
    rfl
  rw [hu.cell?_eq_getElem? cells hi, hCells i c hi]
  rcases Nat.lt_or_ge i t.columns.length with hOld | hNew
  · obtain ⟨d, hd⟩ : ∃ d, t.columns[i]? = some d := ⟨_, List.getElem?_eq_getElem hOld⟩
    rw [List.getElem?_append_left (by simpa using hOld), List.getElem?_map, hd,
      Option.map_some, Option.some.injEq] at hName
    rw [← hName, ht.cell?_eq_getElem? row hd, List.getElem?_append_left (by omega),
      List.getElem?_eq_getElem (by omega)]
    rfl
  · -- an added column: the table did not have its name
    rw [List.getElem?_append_right (by simpa using hNew)] at hName
    have hAbsent : c.name ∉ t.columns.map Column.name := by
      have hDistinct := hu.distinct
      rw [hNames, List.nodup_append] at hDistinct
      exact fun hMem => hDistinct.2.2 _ hMem _ (List.mem_of_getElem? hName) rfl
    obtain ⟨hBound, _⟩ := List.getElem?_eq_some_iff.mp hName
    rw [List.length_map, List.length_map] at hBound
    rw [cell?_eq_none hAbsent, List.getElem?_append_right (by omega),
      List.getElem?_replicate_of_lt (by omega)]
    exact castCell?_null updated c

/-- Adding and retyping columns keeps the rows in their order: each cell is cast to its new type,
and the new columns are empty. -/
theorem Retyped.rows_kept (h : (t.extended added).Retyped updated u) (ht : t.IsUpload)
    (hu : u.IsUpload) :
    List.Forall₂ (fun row cells => cells.length = u.columns.length ∧
      ∀ c ∈ u.columns, u.cell? cells c.name =
        match t.cell? row c.name with
        | some cell => castCell? updated c cell
        | none => some .null) t.rows u.rows := by
  have hRows := h.rows
  rw [extended, List.forall₂_map_left_iff] at hRows
  refine ((List.forall₂_and_left _ _).mpr ⟨fun row hRow => hRow, hRows⟩).imp ?_
  rintro row cells ⟨hRow, hLength, hRowCells⟩
  refine ⟨?_, fun c hc => h.cell?_eq ht hu hRow hRowCells hc⟩
  have hColumns := h.length_columns
  rw [extended] at hColumns
  simp only [List.length_append, List.length_replicate] at hColumns hLength
  rw [hLength, ht.widths row hRow]
  exact hColumns.symm

/-- New types for other columns than the key leave the keys. -/
theorem Retyped.cells_zero (h : (t.extended added).Retyped updated u) (ht : t.IsUpload)
    (hu : u.IsUpload) (hKey : updated.lookup rowKeyName = none) : u.cells 0 = t.cells 0 := by
  have hPositive : 0 < t.columns.length := by
    obtain ⟨rest, hColumns, _⟩ := ht.exists_columns
    simp [hColumns]
  have hRows := h.rows
  rw [extended, List.forall₂_map_left_iff] at hRows
  symm
  rw [cells, cells, ← List.forall₂_eq_eq_eq, List.forall₂_map_left_iff, List.forall₂_map_right_iff]
  refine ((List.forall₂_and_left _ _).mpr ⟨ht.widths, hRows⟩).imp ?_
  rintro row cells ⟨hWidth, _, hCells⟩
  rw [List.getD_eq_getElem?_getD, List.getD_eq_getElem?_getD, hCells 0 _ hu.columns_zero,
    castCell?_of_not_updated hKey, Option.bind_fun_some, List.getElem?_append_left (by omega)]

/-- Retyping other columns leaves the last key as it is. -/
theorem Retyped.lastKey_eq (h : (t.extended added).Retyped updated u) (ht : t.IsUpload)
    (hu : u.IsUpload) (hKey : updated.lookup rowKeyName = none) : u.lastKey = t.lastKey := by
  rw [lastKey, lastKey, h.cells_zero ht hu hKey]

end Table

theorem column_of_declared {pair : Text × ColumnType} {c : Column}
    (h : pair.2.native.map (⟨pair.1, ·⟩) = .ok c) : c.name = pair.1 ∧ pair.2.native = .ok c.type := by
  cases hNative : pair.2.native with
  | error e => simp [hNative, Except.map] at h
  | ok native =>
      rw [hNative] at h
      obtain rfl := Except.ok.inj h
      exact ⟨rfl, rfl⟩

/-- The declared columns bear the names of the schema, in its order. -/
theorem names_of_columns {schema : Schema} {added : List Column}
    (h : Database.columns schema = .ok added) : added.map Column.name = NameMap.names schema := by
  rw [Database.columns, mapM_eq_ok_iff] at h
  rw [NameMap.names, ← List.forall₂_eq_eq_eq, List.forall₂_map_left_iff, List.forall₂_map_right_iff]
  exact (h.imp fun _ _ hColumn => (column_of_declared hColumn).1).flip

namespace MigrationPlan.IsFor

variable {plan : MigrationPlan} {t u : Table} {header : Row} {added : List Column}

/-- Each added column has the type that the plan gives it. -/
theorem lookup_of_mem_added (h : plan.IsFor t header)
    (hAdded : Database.columns plan.added = .ok added) {c : Column} (hc : c ∈ added) :
    ∃ type, plan.added.lookup c.name = some type ∧ type.native = .ok c.type := by
  rw [Database.columns, mapM_eq_ok_iff] at hAdded
  obtain ⟨i, hi⟩ := List.mem_iff_getElem?.mp hc
  obtain ⟨pair, hPair, hColumn⟩ := exists_left_of_forall₂ hAdded hi
  obtain ⟨hName, hNative⟩ := column_of_declared hColumn
  refine ⟨pair.2, (NameMap.lookup_eq_some_iff h.nodup_names_added).mpr ?_, hNative⟩
  rw [hName]
  exact List.mem_of_getElem? hPair

/-- Where the migration leaves a column, the plan has not named it. -/
theorem types_of_retyped (h : plan.IsFor t header)
    (hAdded : Database.columns plan.added = .ok added)
    (hTypes : (t.extended added).Retyped plan.updated u) {i : Nat} {c : Column}
    (hc : u.columns[i]? = some c) :
    match (plan.updated ++ plan.added).lookup c.name with
    | some type => type.native = .ok c.type
    | none => t.columns[i]? = some c := by
  rw [List.lookup_append]
  cases hUpdated : plan.updated.lookup c.name with
  | some type => exact hTypes.types c (List.mem_of_getElem? hc) type hUpdated
  | none =>
      have hKept : (t.columns ++ added)[i]? = some c := hTypes.kept i c hc hUpdated
      rw [Option.none_or]
      rcases Nat.lt_or_ge i t.columns.length with hOld | hNew
      · rw [List.getElem?_append_left hOld] at hKept
        have hKnown : t.knownType? c.name ≠ none := by
          rw [Ne, Table.knownType?_eq_none_iff, not_not]
          exact List.mem_map_of_mem (List.mem_of_getElem? hKept)
        obtain ⟨old, hOldType⟩ := Option.ne_none_iff_exists'.mp hKnown
        rw [h.lookup_added_of_known hOldType]
        exact hKept
      · rw [List.getElem?_append_right hNew] at hKept
        obtain ⟨type, hLookup, hNative⟩ :=
          h.lookup_of_mem_added hAdded (List.mem_of_getElem? hKept)
        rw [hLookup]
        exact hNative

/-- The column under a name of the header has the new type of the plan. -/
theorem native_of_column (h : plan.IsFor t header) (ht : t.IsUpload)
    (hAdded : Database.columns plan.added = .ok added)
    (hTypes : (t.extended added).Retyped plan.updated u) {c : Column} (hc : c ∈ u.columns) {i : Nat}
    {type : ColumnType} (hName : plan.columnNames[i]? = some c.name)
    (hNew : plan.newTypes[i]? = some type) : type.native = .ok c.type := by
  obtain ⟨place, hPlace⟩ := List.mem_iff_getElem?.mp hc
  have hType := h.types_of_retyped hAdded hTypes hPlace
  rw [List.lookup_append] at hType
  cases hKnown : t.knownType? c.name with
  | none =>
      rw [h.lookup_updated_of_not_known hKnown,
        h.lookup_added_iff.mpr ⟨hKnown, i, hName, hNew⟩] at hType
      exact hType
  | some old =>
      by_cases hSame : old = type
      · rw [hSame] at hKnown
        rw [h.lookup_updated_of_same hName hNew hKnown, h.lookup_added_of_known hKnown] at hType
        rw [ht.knownType?_of_mem (List.mem_of_getElem? hType), Option.some.injEq] at hKnown
        rw [← hKnown]
        exact c.type.native_meaning
      · rw [h.lookup_updated_iff.mpr ⟨⟨old, hSame, hKnown⟩, i, hName, hNew⟩] at hType
        exact hType

/-- After a migration the names are those from before, then those of the plan. -/
theorem names_of_retyped (hAdded : Database.columns plan.added = .ok added)
    (hTypes : (t.extended added).Retyped plan.updated u) :
    u.columns.map Column.name = t.columns.map Column.name ++ NameMap.names plan.added := by
  rw [hTypes.names, Table.extended, List.map_append, names_of_columns hAdded]

/-- The cells of a row that was read by the plan: each stands below its name of the header. -/
theorem cells_of_values (h : plan.IsFor t header) (ht : t.IsUpload) (hu : u.IsUpload)
    (hAdded : Database.columns plan.added = .ok added)
    (hTypes : (t.extended added).Retyped plan.updated u) {separators : NumberSeparators} {row : Row}
    {given : List Value} (hRead : ReadAs separators plan.newTypes row given) {cells : List Cell}
    (hCells : u.cellsFor? plan.columnNames given = some cells) (key : Cell) {i : Nat} {name : Text}
    {v : Value} (hName : plan.columnNames[i]? = some name) (hValue : given[i]? = some v) :
    u.cell? (key :: cells) name = some v.cell := by
  have hMem : name ∈ plan.columnNames := List.mem_of_getElem? hName
  have hColumn : name ∈ u.columns.map Column.name := by
    rw [names_of_retyped hAdded hTypes, List.mem_append, h.names_added, List.mem_filter]
    by_cases hOld : name ∈ t.columns.map Column.name
    · exact .inl hOld
    · exact .inr ⟨hMem, by simpa using hOld⟩
  obtain ⟨c, hc, rfl⟩ := List.mem_map.mp hColumn
  obtain ⟨type, hType⟩ := exists_getElem?_of_length_eq h.newTypes hName
  obtain ⟨cell, hCell, hPlaced⟩ := hu.cell?_of_cellsFor?
    (fun name hMem => (h.proper name hMem).1) h.distinct hCells key hc (h.proper _ hMem).2 hName hValue
  have hStored : cell = v.cell := convert?_cell_of_readCell (hRead.2 i type v hType hValue)
    (h.native_of_column ht hAdded hTypes hc hName hType) hCell
  rw [hPlaced, hStored]

/-- Rows read by the plan and inserted after its changes. -/
theorem appended (h : plan.IsFor t header) (ht : t.IsUpload) (hu : u.IsUpload)
    (hAdded : Database.columns plan.added = .ok added)
    (hTypes : (t.extended added).Retyped plan.updated u) {separators : NumberSeparators}
    {rows : List Row} {values : List (List Value)}
    (hRead : List.Forall₂ (ReadAs separators plan.newTypes) rows values)
    {cells : List (List Cell)} (hCells : values.mapM (u.cellsFor? plan.columnNames) = some cells) :
    Appended plan values t (u.withRows (Table.withKeyCells (t.lastKey + 1) cells)) := by
  have hNames := names_of_retyped hAdded hTypes
  rw [mapM_eq_some_iff] at hCells
  constructor
  · exact hTypes.name
  · exact hNames
  · exact h.names_added
  · intro name hMem
    obtain ⟨⟨_, type⟩, hPair, rfl⟩ := List.mem_map.mp hMem
    obtain ⟨⟨old, _, hKnown⟩, _⟩ := h.lookup_updated_iff.mp
      ((NameMap.lookup_eq_some_iff h.nodup_names_updated).mpr hPair)
    by_contra hAbsent
    rw [Table.knownType?_eq_none_iff.mpr hAbsent] at hKnown
    cases hKnown
  · exact fun i c hc => h.types_of_retyped hAdded hTypes hc
  · refine ⟨u.rows, _, rfl, hTypes.rows_kept ht hu, t.lastKey, ht.isLastKey_lastKey, ?_, ?_⟩
    · rw [Table.length_withKeyCells, hCells.length_eq]
    · intro k given row hGiven hRow
      rw [Table.getElem?_withKeyCells, Int.add_right_comm] at hRow
      obtain ⟨beside, hBeside, rfl⟩ := Option.map_eq_some_iff.mp hRow
      have hTaken := (forall₂_iff_getElem?.mp hCells).2 k given beside hGiven hBeside
      obtain ⟨source, _, hValues⟩ := exists_left_of_forall₂ hRead hGiven
      exact ⟨hu.length_of_cellsFor? hTaken, hu.cell?_eq_getElem? _ hu.columns_zero,
        by rw [hValues.1, h.newTypes],
        fun i name v => h.cells_of_values ht hu hAdded hTypes hValues hTaken _⟩

end MigrationPlan.IsFor

/-- A plan whose rows were read was not declined. They were read with its new types, which a table that stays
as it is has already. -/
theorem MigrationPlan.types_of_read {separators : NumberSeparators} {columns : List Column}
    {header : Row} {rows : List Row} {createKeys : Bool} {plan : MigrationPlan}
    (hMake : make separators (columns.map fun c => (c.name, some c.type.meaning)) header rows
      createKeys = .ok plan)
    {values : List (List Value)}
    (hRead : (readRows separators plan.loadTypes rows plan.columnNames).all = .ok values) :
    plan.loadTypes = plan.newTypes ∧
      (plan.modifySchema = false → plan.oldTypes = plan.newTypes.map some) := by
  have hFits := fits_of_make hMake
  have hReported : ∀ name type, (name, some type) ∈
      (columns.map fun c => (c.name, some c.type.meaning)) → type ∈ ColumnType.reported := by
    intro name type hMem
    obtain ⟨c, _, hPair⟩ := List.mem_map.mp hMem
    cases hPair
    exact ColumnType.mem_reported_iff.mpr ⟨_, c.type.ofNativeName?_name⟩
  have hDeclined := hFits.not_declined_of_read hReported (TypedRows.all_eq_ok_iff.mp hRead).1
  have hDetected : plan.detectedTypes = plan.newTypes := by
    simpa [declined] using hDeclined
  refine ⟨by rw [hFits.loadTypes_of_not_declined hDeclined, hDetected], ?_⟩
  intro hModify
  simpa [hFits.modifySchema, hDetected] using hModify

namespace Database

/-- What a successful append has done, step by step. -/
theorem appendTable_eq_ok {db after : Database} {options : LoadOptions} {name : Text}
    {table : CsvTable} {plan : MigrationPlan} {count : Nat}
    (h : db.appendTable options name table = (.ok (plan, count), after)) :
    MigrationPlan.make options.separators (db.knownTypes name) table.header table.rows
      options.createKeys = .ok plan ∧
    ∃ migrated values inserted, db.migrate name plan = (.ok (), migrated) ∧
      (readRows options.separators plan.loadTypes table.rows plan.columnNames).all = .ok values ∧
      migrated.insertRows options.batchSize name plan.columnNames values = (.ok count, inserted) ∧
      (plan.createKey = false → after = inserted) := by
  rw [appendTable] at h
  cases hMake : MigrationPlan.make options.separators (db.knownTypes name) table.header table.rows
      options.createKeys with
  | error e => simp [hMake] at h
  | ok made =>
      rw [hMake] at h
      dsimp only at h
      rcases hMigrate : db.migrate name made with ⟨e | _, migrated⟩
      · simp [hMigrate] at h
      rw [hMigrate] at h
      dsimp only at h
      cases hRead : (readRows options.separators made.loadTypes table.rows made.columnNames).all with
      | error e => simp [hRead] at h
      | ok values =>
          rw [hRead] at h
          dsimp only at h
          rcases hInsert : migrated.insertRows options.batchSize name made.columnNames values with
            ⟨e | inserted, last⟩
          · simp [hInsert] at h
          rw [hInsert] at h
          dsimp only at h
          split at h
          · rename_i hKey
            cases hNumbers : last.addRowKey name with
            | error e => simp [hNumbers] at h
            | ok numbered =>
                simp only [hNumbers, Prod.mk.injEq, Except.ok.injEq] at h
                obtain ⟨⟨rfl, rfl⟩, rfl⟩ := h
                exact ⟨rfl, _, _, _, hMigrate, hRead, hInsert, fun hNone => by simp [hNone] at hKey⟩
          · simp only [Prod.mk.injEq, Except.ok.injEq] at h
            obtain ⟨⟨rfl, rfl⟩, rfl⟩ := h
            exact ⟨rfl, _, _, _, hMigrate, hRead, hInsert, fun _ => rfl⟩

/-- A successful append to a table made from a file. -/
theorem appendTable_around {name : Text} {others : OtherTables name} {t : Table} (ht : t.IsUpload)
    (hName : t.name = name) {options : LoadOptions} (hBatch : 1 ≤ options.batchSize)
    {table : CsvTable} (hHeader : ∀ raw ∈ table.header, columnName raw ≠ rowKeyName)
    {plan : MigrationPlan} {count : Nat} {after : Database}
    (h : (others.around t).appendTable options name table = (.ok (plan, count), after)) :
    ∃ values u, (readRows options.separators plan.loadTypes table.rows plan.columnNames).all =
      .ok values ∧ values.length = table.rows.length ∧ count = table.rows.length ∧
        after = others.around u ∧ Appended plan values t u := by
  obtain ⟨hMake, migrated, values, inserted, hMigrate, hRead, hInsert, hAfter⟩ := appendTable_eq_ok h
  rw [knownTypes_around ht hName] at hMake
  have hFor := MigrationPlan.isFor_of_make ht hHeader hMake
  obtain ⟨hTypes, hUnchanged⟩ := MigrationPlan.types_of_read hMake hRead
  have hValues := hRead
  rw [hTypes, readRows_all_eq_ok_iff] at hValues
  have hKeyless : rowKeyName ∉ plan.columnNames := fun hMem => (hFor.proper _ hMem).2 rfl
  have hKey : plan.updated.lookup rowKeyName = none :=
    NameMap.lookup_eq_none_iff.mpr fun hMem =>
      hKeyless (hFor.names_updated_sublist.subset hMem)
  obtain ⟨added, u, hAdded, hRetyped, rfl, hu⟩ := migrate_around ht hName
    (fun _ => hFor.isColumnName_of_mem_added) (fun _ => hFor.of_mem_updated)
    hFor.nodup_names_updated (fun hModify => hFor.no_changes (hUnchanged hModify)) hMigrate
  obtain ⟨_, rfl, _, cells, hCells, rfl⟩ :=
    (insertRows_around hu (hRetyped.name.trans hName) hBatch hKeyless).mp hInsert
  refine ⟨values, _, hRead, hValues.2.length_eq.symm, hValues.2.length_eq.symm,
    hAfter hFor.createKey, ?_⟩
  rw [hRetyped.lastKey_eq ht hu hKey]
  exact hFor.appended ht hu hAdded hRetyped hValues.2 hCells

end Database

end CsvIntake
