import CsvIntake.Proofs.LoadOutcomes

/-! Tables made from files, over any course of loads. Creating a table gives it the shape of an upload. No
load, whether it succeeds or fails, takes this shape from it, and only appends to the table itself change the
table at all. -/
namespace CsvIntake

namespace Database

variable {name : Text}

/-! ### What loads keep -/

/-- The name denotes one table, of this name, and the table has the shape of an upload. -/
def HoldsUpload (db : Database) (name : Text) : Prop :=
  ∃ t, db.denotedTables name = [t] ∧ t.name = name ∧ t.IsUpload

/-- An upload that a database holds has its place among the other tables. -/
theorem HoldsUpload.exists_around {db : Database} (h : db.HoldsUpload name) :
    ∃ (others : OtherTables name) (t : Table), db = others.around t ∧ t.name = name ∧
      t.IsUpload := by
  obtain ⟨t, hTables, hName, ht⟩ := h
  obtain ⟨others, hAround⟩ := Database.exists_around hTables
  exact ⟨others, t, hAround, hName, ht⟩

theorem holdsUpload_around {others : OtherTables name} {t : Table} (hName : t.name = name)
    (ht : t.IsUpload) : (others.around t).HoldsUpload name :=
  ⟨t, denotedTables_around hName, hName, ht⟩

/-- Creating another table, or failing to do so. -/
theorem denotedTables_createFilled (db : Database) {other : Text} (size : Int)
    (schema : DetectedSchema) (rows : List (List Value))
    (hApart : sameIdentifier other name = false) :
    (db.createFilled size other schema rows).2.denotedTables name = db.denotedTables name := by
  rcases createFilled_cases db size other schema rows with
    ⟨e, hFailed⟩ | ⟨hFree, declared, count, filled, _, hInsert, hFilled⟩
  · rw [hFailed]
  · have hRun : Changed other (fun _ => True) ((othersOfFree hFree).around ⟨other, declared, []⟩)
        (((othersOfFree hFree).around ⟨other, declared, []⟩).insertRows size other
          (NameMap.names schema.extant) rows).2 :=
      changed_insertRows (fun _ _ => trivial) _ size _ rows
    rw [hInsert] at hRun
    rw [hFilled, hRun.denotedTables_eq hApart]
    simp [denotedTables, OtherTables.around, othersOfFree, hApart]

/-- Creating any table, or failing to, keeps the uploads that are there. -/
theorem HoldsUpload.createFilled {db : Database} (h : db.HoldsUpload name) (size : Int)
    (other : Text) (schema : DetectedSchema) (rows : List (List Value)) :
    (db.createFilled size other schema rows).2.HoldsUpload name := by
  cases hApart : sameIdentifier other name with
  | false =>
      obtain ⟨t, hTables, ht⟩ := h
      exact ⟨t, by rw [denotedTables_createFilled db size schema rows hApart, hTables], ht⟩
  | true =>
      rcases createFilled_cases db size other schema rows with ⟨e, hFailed⟩ | ⟨hFree, _⟩
      · rw [hFailed]
        exact h
      · -- the name would denote the table that is there
        exfalso
        obtain ⟨t, hTables, hName, _⟩ := h
        have hMem : t ∈ db.denotedTables name := by simp [hTables]
        have hApart' := List.find?_eq_none.mp hFree t (List.mem_of_mem_filter hMem)
        rw [hName, sameIdentifier_comm, hApart] at hApart'
        exact hApart' rfl

/-- The changes that a plan for an upload asks for. -/
theorem isLoading_of_make {t : Table} (ht : t.IsUpload) {separators : NumberSeparators}
    {header : Row} (hHeader : KeylessHeader header) {rows : List Row} {createKeys : Bool}
    {plan : MigrationPlan}
    (h : MigrationPlan.make separators (t.columns.map fun c => (c.name, some c.type.meaning)) header
      rows createKeys = .ok plan) :
    (∀ column ∈ plan.added, ∀ type, Table.Statement.IsLoading (.addColumn ⟨column.1, type⟩)) ∧
    ∀ column ∈ plan.updated, ∀ type, column.2.native = .ok type →
      Table.Statement.IsLoading (.alterColumn column.1 type) := by
  have hFor := MigrationPlan.isFor_of_make ht hHeader h
  exact ⟨fun _ hMem _ => hFor.isColumnName_of_mem_added hMem,
    fun _ hMem _ _ => hFor.of_mem_updated hMem⟩

/-- An append to an upload, whether or not it succeeds, is a run of such statements on it. -/
theorem changed_appendTable_of_upload (others : OtherTables name) {t : Table} (ht : t.IsUpload)
    (hName : t.name = name) (options : LoadOptions) {table : CsvTable}
    (hHeader : KeylessHeader table.header) :
    Changed name Table.Statement.IsLoading (others.around t)
      ((others.around t).appendTable options name table).2 := by
  have hKey : Table.Statement.IsLoading (.addNumbers rowKeyName) := rfl
  refine changed_appendTable (fun _ _ => trivial) hKey _ fun plan hMake => ?_
  rw [knownTypes_around ht hName] at hMake
  exact isLoading_of_make ht hHeader hMake

/-- Appending to any table, or failing to, keeps the uploads that are there. -/
theorem HoldsUpload.appendTable {db : Database} (h : db.HoldsUpload name) (options : LoadOptions)
    {other : Text} (hExists : (db.table? other).isSome) {table : CsvTable}
    (hHeader : KeylessHeader table.header) :
    (db.appendTable options other table).2.HoldsUpload name := by
  obtain ⟨others, t, rfl, hName, ht⟩ := h.exists_around
  cases hApart : sameIdentifier other name with
  | false =>
      have hRun : Changed other (fun _ => True) (others.around t)
          ((others.around t).appendTable options other table).2 :=
        changed_appendTable (fun _ _ => trivial) trivial _ fun _ _ =>
          ⟨fun _ _ _ => trivial, fun _ _ _ _ => trivial⟩
      refine ⟨t, ?_, hName, ht⟩
      rw [hRun.denotedTables_eq hApart, denotedTables_around hName]
  | true =>
      obtain rfl := eq_of_table?_isSome hName hExists hApart
      obtain ⟨u, hAfter, hu, hShape⟩ :=
        (changed_appendTable_of_upload others ht hName options hHeader).exists_around
          (fun s u v hs hu hv => hu.of_run hs hv) hName ht
      rw [hAfter]
      exact holdsUpload_around hu hShape

/-- Creating a table from a file with a keyless header. -/
theorem createFilled_eq_ok {db after : Database} {size : Int} {separators : NumberSeparators}
    {header : Row} (hHeader : KeylessHeader header) (rows : List Row) {values : List (List Value)}
    {count : Nat} (h : db.createFilled size name (DetectedSchema.detect separators header rows) values =
      (.ok count, after)) :
    ∃ (others : OtherTables name) (t : Table), t.name = name ∧ t.IsUpload ∧ t.rows = [] ∧
      columns (DetectedSchema.detect separators header rows).all = .ok t.columns ∧
      (others.around t).insertRows size name
        (NameMap.names (DetectedSchema.detect separators header rows).extant) values =
          (.ok count, after) := by
  rcases createFilled_cases db size name (DetectedSchema.detect separators header rows) values with
    ⟨e, hFailed⟩ | ⟨hFree, declared, _, _, hColumns, hInsert, hFilled⟩
  · rw [hFailed] at h
    cases h
  · obtain ⟨hCount, rfl⟩ := Prod.mk.inj (hFilled.symm.trans h)
    obtain rfl := Except.ok.inj hCount
    exact ⟨othersOfFree hFree, ⟨name, declared, []⟩, rfl, isUpload_of_detect hHeader rows hColumns, rfl,
      hColumns, hInsert⟩

end Database

/-- A clock started in the first second of the calendar, by a wall clock that stands still. -/
def Clock.first : Clock :=
  let day : Date := ⟨1, 1, 1, Nat.le_refl 1, Nat.le_of_ble_eq_true rfl, Nat.le_refl 1,
    Nat.le_of_ble_eq_true rfl, Nat.le_refl 1, Nat.le_of_ble_eq_true rfl⟩
  .start ⟨⟨day, .midnight⟩, []⟩

namespace Workspace

/-- What a successful creation has done. -/
theorem create_eq_ok {w : Workspace} {options : LoadOptions} {useRegistry : Bool} {start : Text}
    {file : UploadFile} {upload : CreatedUpload}
    (h : (w.create options useRegistry start file).1 = .ok upload) :
    ∃ schema rows, prepareCreate options.separators file = .ok (schema, rows) ∧
      w.database.createFilled options.batchSize upload.tableName schema rows =
        (.ok upload.stats.rowCount, (w.create options useRegistry start file).2.database) ∧
      (useRegistry = true → ∃ entry : RegistryEntry, entry.tableName = upload.tableName ∧
        entry.isUpload = true ∧
        w.registry.add options.registryFault entry =
          .ok (w.create options useRegistry start file).2.registry) := by
  have hOutcome := w.create_outcome options useRegistry start file
  generalize w.create options useRegistry start file = result at h hOutcome ⊢
  cases hOutcome with
  | failed e clock => cases h
  | unregistered hPrepare hFill hRegistry hRefused => cases h
  | @created name _ schema values count _ _ hName hPrepare hFill hUsed hUnused =>
      obtain rfl := Except.ok.inj h
      exact ⟨schema, values, hPrepare, hFill, fun hRegistered =>
        ⟨newEntry file (Text.lowerAscii name) count, rfl, rfl, hUsed hRegistered⟩⟩

/-- A creation leaves the database or fills a new table in it. -/
theorem create_database_cases (w : Workspace) (options : LoadOptions) (useRegistry : Bool)
    (start : Text) (file : UploadFile) :
    (w.create options useRegistry start file).2.database = w.database ∨
    ∃ name table values, readUpload file = .ok table ∧
      (w.create options useRegistry start file).2.database =
        (w.database.createFilled options.batchSize name
          (DetectedSchema.detect options.separators table.header table.rows) values).2 := by
  have hOutcome := w.create_outcome options useRegistry start file
  generalize w.create options useRegistry start file = result at hOutcome ⊢
  cases hOutcome with
  | failed e clock => exact .inl rfl
  | unregistered hPrepare hFill hRegistry hRefused =>
      obtain ⟨table, hRead, rfl, _⟩ := prepareCreate_eq_ok hPrepare
      exact .inr ⟨_, table, _, hRead, by rw [hFill]⟩
  | created hName hPrepare hFill hUsed hUnused =>
      obtain ⟨table, hRead, rfl, _⟩ := prepareCreate_eq_ok hPrepare
      exact .inr ⟨_, table, _, hRead, by rw [hFill]⟩

/-- An append leaves the database or writes to a table that exists. -/
theorem append_database_cases (w : Workspace) (options : LoadOptions) (useRegistry : Bool)
    (file : UploadFile) (name : Text) :
    (w.append options useRegistry file name).2.database = w.database ∨
    ∃ table, readUpload file = .ok table ∧ (w.database.table? name).isSome ∧
      (w.append options useRegistry file name).2.database =
        (w.database.appendTable options name table).2 := by
  have hOutcome := w.append_outcome options useRegistry file name
  generalize w.append options useRegistry file name = result at hOutcome ⊢
  cases hOutcome with
  | refused e hRefusal => exact .inl rfl
  | failed hExists hRead hAppend => exact .inr ⟨_, hRead, hExists, by rw [hAppend]⟩
  | unrecorded hExists hRead hAppend hRegistry hFault =>
      exact .inr ⟨_, hRead, hExists, by rw [hAppend]⟩
  | appended hExists hUpload hRead hAppend hStore => exact .inr ⟨_, hRead, hExists, by rw [hAppend]⟩

/-- A created table has the shape of an upload. -/
theorem holdsUpload_create {w : Workspace} {options : LoadOptions} {useRegistry : Bool} {start : Text}
    {file : UploadFile} {upload : CreatedUpload}
    (h : (w.create options useRegistry start file).1 = .ok upload) :
    (w.create options useRegistry start file).2.database.HoldsUpload upload.tableName := by
  obtain ⟨schema, values, hPrepare, hFill, _⟩ := create_eq_ok h
  obtain ⟨table, hRead, rfl, _⟩ := prepareCreate_eq_ok hPrepare
  obtain ⟨others, t, hName, ht, _, _, hInsert⟩ :=
    Database.createFilled_eq_ok (keylessHeader_of_readUpload hRead) table.rows hFill
  have hRun : Database.Changed upload.tableName Table.Statement.IsLoading (others.around t)
      ((others.around t).insertRows options.batchSize upload.tableName (NameMap.names
        (DetectedSchema.detect options.separators table.header table.rows).extant) values).2 :=
    Database.changed_insertRows (fun _ _ => trivial) _ _ _ _
  rw [hInsert] at hRun
  dsimp only at hRun
  obtain ⟨u, hAfter, hu, hShape⟩ := Database.Changed.exists_around
    (fun _ _ _ hs hu hv => Table.IsUpload.of_run hu hs hv) hRun hName ht
  rw [hAfter]
  exact Database.holdsUpload_around hu hShape

/-- A workspace after any creations and appends, whether or not they succeeded. -/
inductive Later (w : Workspace) : Workspace → Prop where
  | refl : Later w w
  | create {v : Workspace} (prior : Later w v) (options : LoadOptions) (useRegistry : Bool)
      (start : Text) (file : UploadFile) : Later w (v.create options useRegistry start file).2
  | append {v : Workspace} (prior : Later w v) (options : LoadOptions) (useRegistry : Bool)
      (file : UploadFile) (name : Text) : Later w (v.append options useRegistry file name).2

/-- What the filling of a new table and the append to a table keep of a database, any course of loads keeps. -/
theorem Later.database_induction {keeps : Database → Prop} {w v : Workspace} (run : w.Later v)
    (hStart : keeps w.database)
    (hCreate : ∀ (db : Database) size name separators (table : CsvTable) values, keeps db →
      KeylessHeader table.header → keeps (db.createFilled size name
        (DetectedSchema.detect separators table.header table.rows) values).2)
    (hAppend : ∀ (db : Database) options name (table : CsvTable), keeps db →
      (db.table? name).isSome → KeylessHeader table.header →
      keeps (db.appendTable options name table).2) : keeps v.database := by
  induction run with
  | refl => exact hStart
  | create prior options useRegistry start file ih =>
      rcases create_database_cases _ options useRegistry start file with
        hSame | ⟨name, table, values, hRead, hAfter⟩
      · rwa [hSame]
      · rw [hAfter]
        exact hCreate _ _ name _ table values ih (keylessHeader_of_readUpload hRead)
  | append prior options useRegistry file name ih =>
      rcases append_database_cases _ options useRegistry file name with
        hSame | ⟨table, hRead, hExists, hAfter⟩
      · rwa [hSame]
      · rw [hAfter]
        exact hAppend _ options name table ih hExists (keylessHeader_of_readUpload hRead)

/-- A table keeps the shape of an upload in any course of loads. -/
theorem Later.holdsUpload {w v : Workspace} (run : w.Later v) {name : Text}
    (h : w.database.HoldsUpload name) : v.database.HoldsUpload name :=
  @Later.database_induction (fun db => db.HoldsUpload name) w v run h
    (fun _ size other _ _ values hDb _ => hDb.createFilled size other _ values)
    fun _ options _ _ hDb hExists hHeader => hDb.appendTable options hExists hHeader

end Workspace

end CsvIntake
