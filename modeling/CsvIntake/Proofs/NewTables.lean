import CsvIntake.Proofs.AppendedRows

/-! New tables. The columns of a file are put behind the key, so that a new table has the shape of an upload.
Main statement: filling a new table either leaves the database as it was, whatever had been inserted before
the failure, or puts the table behind the others. -/
namespace CsvIntake

/-- A header without the columns that would take the name of the key. -/
def KeylessHeader (header : Row) : Prop := ∀ raw ∈ header, columnName raw ≠ rowKeyName

theorem KeylessHeader.rowKeyName_not_mem {header : Row} (h : KeylessHeader header) :
    rowKeyName ∉ header.map columnName := by
  intro hMem
  obtain ⟨raw, hRaw, hName⟩ := List.mem_map.mp hMem
  exact h raw hRaw hName

/-- A file is read without the columns that would take the name of the key. -/
theorem readUpload_eq_ok {file : UploadFile} {table : CsvTable} (h : readUpload file = .ok table) :
    ∃ source, CsvTable.read file = .ok source ∧
      table = ⟨headerWithoutKeys source.header, rowsWithoutKeys source.header source.rows⟩ := by
  rw [readUpload] at h
  cases hRead : CsvTable.read file with
  | error e => simp [hRead] at h
  | ok source =>
      rw [hRead] at h
      exact ⟨source, rfl, (Except.ok.inj h).symm⟩

/-- A header that was read has lost the fields that name the key. -/
theorem keylessHeader_of_readUpload {file : UploadFile} {table : CsvTable}
    (h : readUpload file = .ok table) : KeylessHeader table.header := by
  obtain ⟨source, _, rfl⟩ := readUpload_eq_ok h
  exact fun _ hMem => columnName_ne_rowKeyName hMem

namespace DetectedSchema

variable (separators : NumberSeparators) {header : Row} (rows : List Row)

/-- The detected columns bear the names of the header, made unique. -/
theorem names_detect : NameMap.names (detect separators header rows).extant =
    uniquify (header.map columnName) := by
  apply List.map_fst_zip
  simp

/-- The detected columns have the types that are inferred from the rows alone. -/
theorem types_detect : (detect separators header rows).extant.map Prod.snd =
    ColumnType.ofRows separators (List.replicate header.length none) rows := by
  have hLength : (uniquify (header.map columnName)).length = header.length := by
    rw [uniquify, length_uniquifyFrom, List.length_map]
  rw [← hLength, ← List.map_const']
  apply List.map_snd_zip
  simp

/-- The detected names are column names other than the key. -/
theorem isColumnName_of_mem_detect (h : KeylessHeader header) :
    ∀ name ∈ NameMap.names (detect separators header rows).extant,
      IsColumnName name ∧ name ≠ rowKeyName := by
  rw [names_detect]
  exact fun name hMem => of_mem_uniquify h hMem

theorem rowKeyName_not_mem_detect (h : KeylessHeader header) :
    rowKeyName ∉ NameMap.names (detect separators header rows).extant :=
  fun hMem => (isColumnName_of_mem_detect separators rows h _ hMem).2 rfl

/-- The key is the first column of a new table. -/
theorem all_detect (h : KeylessHeader header) :
    (detect separators header rows).all =
      (rowKeyName, .rowKey) :: (detect separators header rows).extant := by
  rw [all, NameMap.updated, NameMap.foldl_put]
  · rfl
  · rw [names_detect]
    exact nodup_uniquify _
  · intro name hMem hKey
    obtain rfl := List.mem_singleton.mp hKey
    exact rowKeyName_not_mem_detect separators rows h hMem

end DetectedSchema

namespace Database

variable {name : Text}

/-- A table is created only under a free name, and stands last, without rows. -/
theorem createTable_eq_ok {db created : Database} {schema : Schema}
    (h : db.createTable name schema (some rowKeyName) = .ok created) :
    ∃ declared, columns schema = .ok declared ∧ name ≠ [] ∧ db.denoted? name = none ∧
      created = ⟨db.tables ++ [⟨name, declared, []⟩]⟩ := by
  rw [createTable] at h
  split at h
  · cases h
  · split at h
    · cases h
    · rename_i declared hColumns
      dsimp only at h
      split at h
      · cases h
      · rename_i hAccepted
        simp only [Bool.or_eq_true, not_or, Option.not_isSome_iff_eq_none, List.isEmpty_iff] at hAccepted
        exact ⟨declared, hColumns, hAccepted.1.1.1.1, hAccepted.2, (Except.ok.inj h).symm⟩

/-- The shape of a new table. -/
theorem isUpload_new {schema : Schema} {declared : List Column}
    (hColumns : columns ((rowKeyName, .rowKey) :: schema) = .ok declared)
    (hNames : ∀ name ∈ NameMap.names schema, IsColumnName name ∧ name ≠ rowKeyName)
    (hDistinct : (NameMap.names schema).Nodup) :
    Table.IsUpload ⟨name, declared, []⟩ := by
  have hDeclared := names_of_columns hColumns
  rw [NameMap.names, List.map_cons] at hDeclared
  constructor
  · rw [columns, mapM_eq_ok_iff] at hColumns
    obtain ⟨c, rest, hKey, _, rfl⟩ := List.forall₂_cons_left_iff.mp hColumns
    exact congrArg some (Except.ok.inj hKey).symm
  · intro other hMem
    rw [hDeclared, List.mem_cons] at hMem
    rcases hMem with rfl | hMem
    · exact isColumnName_rowKeyName
    · exact (hNames other hMem).1
  · rw [hDeclared, List.nodup_cons]
    exact ⟨fun hMem => (hNames _ hMem).2 rfl, hDistinct⟩
  · intro row hMem
    cases hMem

/-- The columns of a new table beside the key. -/
theorem tail_of_columns {schema : Schema} {declared : List Column}
    (h : columns ((rowKeyName, .rowKey) :: schema) = .ok declared) :
    declared.tail.map Column.name = NameMap.names schema ∧
      List.Forall₂ (fun t type => t.native = .ok type) (schema.map Prod.snd)
        (declared.tail.map Column.type) := by
  have hNames := names_of_columns h
  rw [columns, mapM_eq_ok_iff] at h
  obtain ⟨key, rest, _, hRest, rfl⟩ := List.forall₂_cons_left_iff.mp h
  refine ⟨(List.cons.inj hNames).2, ?_⟩
  rw [List.tail_cons, List.forall₂_map_left_iff, List.forall₂_map_right_iff]
  exact hRest.imp fun _ _ hColumn => (column_of_declared hColumn).2

/-- All tables of a database, where the name denotes none of them. -/
def othersOfFree {db : Database} (h : db.denoted? name = none) : OtherTables name where
  before := db.tables
  after := []
  apart := by
    intro t ht
    rw [List.append_nil] at ht
    simpa using List.find?_eq_none.mp h t ht

/-- Dropping a table leaves the others. -/
theorem dropTable_around {others : OtherTables name} {t : Table} (hName : t.name = name)
    (hNonempty : name ≠ []) :
    (others.around t).dropTable name = .ok ⟨others.before ++ others.after⟩ := by
  have hKept : ∀ u ∈ others.before ++ others.after, (!sameIdentifier u.name name) = true := by
    intro u hu
    rw [others.apart u hu]
    rfl
  rw [dropTable, if_neg (by simpa using hNonempty), OtherTables.around, List.filter_append,
    List.filter_cons, hName, sameIdentifier_self, Bool.not_true, if_neg Bool.false_ne_true,
    ← List.filter_append, List.filter_eq_self.mpr hKept]

/-- Creating a filled table leaves the database as it was, or puts the new table at its end and inserts
all rows. -/
theorem createFilled_cases (db : Database) (size : Int) (name : Text) (schema : DetectedSchema)
    (rows : List (List Value)) :
    (∃ e, db.createFilled size name schema rows = (.error e, db)) ∨
    ∃ (hFree : db.denoted? name = none) (declared : List Column) (count : Nat) (filled : Database),
      columns schema.all = .ok declared ∧
      ((othersOfFree hFree).around ⟨name, declared, []⟩).insertRows size name
        (NameMap.names schema.extant) rows = (.ok count, filled) ∧
      db.createFilled size name schema rows = (.ok count, filled) := by
  rw [createFilled]
  cases hCreate : db.createTable name schema.all (some rowKeyName) with
  | error e => exact .inl ⟨e, rfl⟩
  | ok created =>
      obtain ⟨declared, hColumns, hNonempty, hFree, hCreated⟩ := createTable_eq_ok hCreate
      obtain rfl : created = (othersOfFree hFree).around ⟨name, declared, []⟩ := hCreated
      dsimp only
      have hRun : Changed name (fun _ => True) ((othersOfFree hFree).around ⟨name, declared, []⟩)
          (((othersOfFree hFree).around ⟨name, declared, []⟩).insertRows size name
            (NameMap.names schema.extant) rows).2 :=
        changed_insertRows (fun _ _ => trivial) _ size _ rows
      rcases hInsert : ((othersOfFree hFree).around ⟨name, declared, []⟩).insertRows size name
        (NameMap.names schema.extant) rows with ⟨e | count, filled⟩
      · -- what was inserted goes with the table
        rw [hInsert] at hRun
        obtain ⟨u, hPartly, hName, _⟩ : ∃ u, filled = (othersOfFree hFree).around u ∧ u.name = name ∧
            True := hRun.exists_around (fun _ _ _ _ _ _ => trivial) rfl trivial
        dsimp only
        have hOthers : (⟨(othersOfFree hFree).before ++ (othersOfFree hFree).after⟩ : Database) = db :=
          congrArg Database.mk (List.append_nil db.tables)
        rw [hPartly, dropTable_around hName hNonempty, hOthers]
        exact .inl ⟨_, rfl⟩
      · exact .inr ⟨hFree, declared, count, filled, hColumns, hInsert, rfl⟩

/-- The shape of a table made for a file. -/
theorem isUpload_of_detect {separators : NumberSeparators} {header : Row}
    (hHeader : KeylessHeader header) (rows : List Row) {declared : List Column}
    (hColumns : columns (DetectedSchema.detect separators header rows).all = .ok declared) :
    Table.IsUpload ⟨name, declared, []⟩ := by
  rw [DetectedSchema.all_detect separators rows hHeader] at hColumns
  refine isUpload_new hColumns (DetectedSchema.isColumnName_of_mem_detect separators rows hHeader) ?_
  rw [DetectedSchema.names_detect]
  exact nodup_uniquify _

end Database

end CsvIntake
