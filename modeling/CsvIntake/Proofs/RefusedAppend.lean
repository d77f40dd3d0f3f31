import CsvIntake.Proofs.CsvTexts
import CsvIntake.Proofs.Planning

/-! A refused append changes nothing. Nothing is written before the table, its registration, the file and
its header have been checked. What is written after that, the migration of the table, is made only by a
plan that is not declined, and the rows of such a plan hold no bad value. The statements themselves never
fail for a reason that lies in the file. -/
namespace CsvIntake

/-- The cause lies in the table that was asked for or in the file: the table is not there or takes no
files, or the file cannot be read or does not fit. -/
def Error.isRefusal : Error → Bool
  | .tableNotFound _ => true
  | .notAnUpload _ => true
  | .malformedCsv _ => true
  | .duplicateColumns _ => true
  | .schemaMismatch _ _ => true
  | .badValue _ => true
  | _ => false

/-- The result is no refusal. -/
def NeverRefuses {α : Type} (result : Except Error α) : Prop :=
  ∀ e, result = .error e → e.isRefusal = false

@[simp] theorem neverRefuses_ok {α : Type} (a : α) : NeverRefuses (.ok a : Except Error α) := by
  intro e h
  cases h

@[simp] theorem neverRefuses_error {α : Type} (e : Error) :
    NeverRefuses (.error e : Except Error α) ↔ e.isRefusal = false := by
  constructor
  · intro h
    exact h e rfl
  · rintro h _ ⟨⟩
    exact h

theorem NeverRefuses.map {α β : Type} {result : Except Error α} (h : NeverRefuses result)
    (f : α → β) : NeverRefuses (result.map f) := by
  cases result with
  | ok a => exact neverRefuses_ok (f a)
  | error e => exact (neverRefuses_error e).mpr (h e rfl)

/-! ### Statements -/

namespace Table

theorem neverRefuses_addColumn (t : Table) (column : Column) : NeverRefuses (t.addColumn column) := by
  rw [addColumn]
  split <;> simp [Error.isRefusal]

theorem neverRefuses_alterColumn (t : Table) (name : Text) (type : NativeType) :
    NeverRefuses (t.alterColumn name type) := by
  rw [alterColumn]
  split
  · simp [Error.isRefusal]
  · split <;> simp [Error.isRefusal]

theorem neverRefuses_addNumbers (t : Table) (name : Text) : NeverRefuses (t.addNumbers name) := by
  rw [addNumbers]
  split <;> simp [Error.isRefusal]

end Table

theorem ColumnType.neverRefuses_native (t : ColumnType) : NeverRefuses t.native := by
  rw [native]
  split <;> simp [Error.isRefusal]

namespace Database

/-- A statement on a table fails as it does on the table, or since no table has the name. -/
theorem neverRefuses_change (db : Database) (name : Text) {statement : Table → Except Error Table}
    (h : ∀ t, NeverRefuses (statement t)) : NeverRefuses (db.change name statement) := by
  have hTables : ∀ tables, NeverRefuses (changeIn name statement tables) := by
    intro tables
    induction tables with
    | nil => simp [changeIn, Error.isRefusal]
    | cons t tables ih =>
        rw [changeIn]
        split
        · exact (h t).map _
        · exact ih.map _
  exact (hTables db.tables).map _

/-- A run over columns whose steps never refuse never does. -/
theorem neverRefuses_forColumns {run : Database → Text → ColumnType → Except Error Database}
    (h : ∀ db name t, NeverRefuses (run db name t)) (db : Database) (schema : Schema) :
    NeverRefuses (forColumns run db schema).1 := by
  induction schema generalizing db with
  | nil => exact neverRefuses_ok ()
  | cons column rest ih =>
      obtain ⟨name, t⟩ := column
      have hRun := h db name t
      rw [forColumns]
      cases hStep : run db name t with
      | error e => exact (neverRefuses_error e).mpr (hRun e hStep)
      | ok after => exact ih after

theorem neverRefuses_addColumns (db : Database) (table : Text) (schema : Schema) :
    NeverRefuses (db.addColumns table schema).1 := by
  refine neverRefuses_forColumns (fun db name t => ?_) db schema
  split
  · rename_i e hError
    exact (neverRefuses_error e).mpr (t.neverRefuses_native e hError)
  · exact db.neverRefuses_change table fun table => table.neverRefuses_addColumn _

theorem neverRefuses_alterColumns (db : Database) (table : Text) (schema : Schema) :
    NeverRefuses (db.alterColumns table schema).1 := by
  refine neverRefuses_forColumns (fun db name t => ?_) db schema
  split
  · rename_i e hError
    exact (neverRefuses_error e).mpr (t.neverRefuses_native e hError)
  · exact db.neverRefuses_change table fun table => table.neverRefuses_alterColumn name _

theorem neverRefuses_addRowKey (db : Database) (table : Text) : NeverRefuses (db.addRowKey table) :=
  db.neverRefuses_change table fun table => table.neverRefuses_addNumbers rowKeyName

/-- A migration is never refused: its failures are those of the store. -/
theorem neverRefuses_migrate (db : Database) (table : Text) (plan : MigrationPlan) :
    NeverRefuses (db.migrate table plan).1 := by
  rw [migrate]
  split
  · have hAdded := db.neverRefuses_addColumns table plan.added
    cases hStep : db.addColumns table plan.added with
    | mk result after =>
        rw [hStep] at hAdded
        cases result with
        | error e => exact hAdded
        | ok _ => exact after.neverRefuses_alterColumns table plan.updated
  · exact neverRefuses_ok ()

/-- A plan that leaves the schema changes nothing. -/
theorem migrate_of_not_modifySchema (db : Database) (table : Text) {plan : MigrationPlan}
    (h : plan.modifySchema = false) : db.migrate table plan = (.ok (), db) := by
  simp [migrate, h]

end Database

/-- Where the plan changes the table, its rows are read without a refusal. -/
theorem MigrationPlan.Fits.neverRefuses_readRows {separators : NumberSeparators}
    {existing : NameMap (Option ColumnType)} {rows : List Row} {plan : MigrationPlan}
    (hFits : plan.Fits separators existing rows) (hLines : SingleLineValues rows)
    (hModify : plan.modifySchema = true) :
    NeverRefuses (readRows separators plan.loadTypes rows plan.columnNames).all := by
  rw [hFits.loadTypes_of_not_declined (hFits.not_declined hModify), hFits.detectedTypes,
    TypedRows.all]
  split
  · rename_i e hFailure
    rcases ColumnType.failure_of_ofRows hLines hFailure with rfl | ⟨rfl, _⟩ | ⟨t, _, _, rfl⟩ <;>
      simp [Error.isRefusal]
  · exact neverRefuses_ok _

namespace Database

/-- An append is refused by its plan, before anything is written, or by the reading of the rows, after the
migration. -/
theorem appendTable_cases_of_isRefusal (db : Database) (options : LoadOptions) (name : Text)
    (table : CsvTable) {e : Error} (h : (db.appendTable options name table).1 = .error e)
    (hRefusal : e.isRefusal = true) :
    (db.appendTable options name table).2 = db ∨
    ∃ plan, MigrationPlan.make options.separators (db.knownTypes name) table.header table.rows
        options.createKeys = .ok plan ∧
      (readRows options.separators plan.loadTypes table.rows plan.columnNames).all = .error e ∧
      db.migrate name plan = (.ok (), (db.appendTable options name table).2) := by
  rw [appendTable] at h ⊢
  cases hPlan : MigrationPlan.make options.separators (db.knownTypes name) table.header table.rows
      options.createKeys with
  | error cause => exact .inl rfl
  | ok plan =>
      right
      rw [hPlan] at h
      dsimp only at h ⊢
      have hMigrated := db.neverRefuses_migrate name plan
      rcases hStep : db.migrate name plan with ⟨cause | _, migrated⟩
      · rw [hStep] at h hMigrated
        obtain rfl := Except.error.inj h
        simp [hMigrated cause rfl] at hRefusal
      rw [hStep] at h
      dsimp only at h ⊢
      cases hRead : (readRows options.separators plan.loadTypes table.rows plan.columnNames).all with
      | error cause =>
          rw [hRead] at h
          obtain rfl := Except.error.inj h
          exact ⟨plan, rfl, hRead, hStep⟩
      | ok rows =>
          -- neither the insertion nor the key fails by a refusal
          exfalso
          rw [hRead] at h
          dsimp only at h
          rcases hInsert : migrated.insertRows options.batchSize name plan.columnNames rows with
            ⟨cause | count, inserted⟩
          · rw [hInsert] at h
            obtain rfl := Except.error.inj h
            cases hRefusal
          rw [hInsert] at h
          dsimp only at h
          split at h
          · cases hKey : inserted.addRowKey name with
            | error cause =>
                rw [hKey] at h
                obtain rfl := Except.error.inj h
                simp [inserted.neverRefuses_addRowKey name cause hKey] at hRefusal
            | ok numbered => simp [hKey] at h
          · cases h

/-- A refused append to a table leaves the database as it was. -/
theorem appendTable_of_isRefusal (db : Database) (options : LoadOptions) (name : Text)
    {table : CsvTable} (hLines : SingleLineValues table.rows) {e : Error}
    (h : (db.appendTable options name table).1 = .error e) (hRefusal : e.isRefusal = true) :
    (db.appendTable options name table).2 = db := by
  rcases db.appendTable_cases_of_isRefusal options name table h hRefusal with
    hSame | ⟨plan, hPlan, hRead, hStep⟩
  · exact hSame
  · have hFits := MigrationPlan.fits_of_make hPlan
    cases hModify : plan.modifySchema with
    | false =>
        rw [migrate_of_not_modifySchema db name hModify] at hStep
        exact (Prod.mk.inj hStep).2.symm
    | true =>
        -- the table was changed, but then no row can be refused
        have hNever := hFits.neverRefuses_readRows hLines hModify e hRead
        simp [hNever] at hRefusal

end Database

/-- A registry that cannot be written is no refusal of the file. -/
theorem Registry.neverRefuses_written (fault : Option Text) (changed : Registry) :
    NeverRefuses (written fault changed) := by
  cases fault with
  | none => exact neverRefuses_ok changed
  | some reason => exact (neverRefuses_error _).mpr rfl

namespace Workspace

/-- Changing the registry is never a refusal when the change itself is none. -/
theorem neverRefuses_changeRegistry (w : Workspace) (useRegistry : Bool)
    {change : Registry → Except Error Registry} (h : ∀ registry, NeverRefuses (change registry)) :
    NeverRefuses (w.changeRegistry useRegistry change) := by
  rw [changeRegistry]
  split
  · exact (h w.registry).map _
  · exact neverRefuses_ok w

/-- A refused append leaves the tables and the registry as they were. -/
theorem append_of_isRefusal (w : Workspace) (options : LoadOptions) (useRegistry : Bool)
    (file : UploadFile) (name : Text) (e : Error)
    (h : (w.append options useRegistry file name).1 = .error e) (hRefusal : e.isRefusal = true) :
    (w.append options useRegistry file name).2 = w := by
  rw [append] at h ⊢
  split
  · rfl
  · split
    · rfl
    · cases hFile : readUpload file with
      | error cause => rfl
      | ok table =>
          rename_i hTable hUpload
          rw [if_neg hTable, if_neg hUpload, hFile] at h
          dsimp only at h ⊢
          have hDatabase := w.database.appendTable_of_isRefusal options name
            (singleLineValues_readUpload hFile) (e := e)
          rcases hAppend : w.database.appendTable options name table with ⟨cause | _, database⟩
          · rw [hAppend] at h hDatabase
            obtain rfl := Except.error.inj h
            obtain rfl := hDatabase rfl hRefusal
            rfl
          · -- the rows are in the table, and a registry that cannot be written is no refusal
            rw [hAppend] at h
            dsimp only at h
            split at h
            · rename_i cause hChange
              obtain rfl := Except.error.inj h
              have hNever := neverRefuses_changeRegistry _ useRegistry
                (fun _ => Registry.neverRefuses_written _ _) cause hChange
              simp [hNever] at hRefusal
            · cases h

/-- A letter does not fit a column of whole numbers, and then the new column beside it is not added
either. -/
theorem append_of_letter_for_int :
    ∃ (w : Workspace) (file : UploadFile),
      w.database.tables = [⟨['p'], [⟨['n'], .bigint⟩], [[.integer 1]]⟩] ∧
      file.content = "n,m\n2,x\nx,3\n".toUTF8 ∧
      (w.append {} true file ['p']).1 =
        .error (.badValue ⟨['x'], .type .int, some 2, some ['n'], none⟩) ∧
      (w.append {} true file ['p']).2 = w := by
  let day : Date := ⟨1, 1, 1, by decide, by decide, by decide, by decide, by decide, by decide⟩
  let w : Workspace := ⟨⟨[⟨['p'], [⟨['n'], .bigint⟩], [[.integer 1]]⟩]⟩, [⟨['p'], ['P'], none, true, 1⟩],
    ⟨⟨day, .midnight⟩, ⟨⟨day, .midnight⟩, []⟩⟩⟩
  let file : UploadFile := { name := ['f'], content := "n,m\n2,x\nx,3\n".toUTF8 }
  have hError : (w.append {} true file ['p']).1 =
      .error (.badValue ⟨['x'], .type .int, some 2, some ['n'], none⟩) := by
    decide +kernel
  exact ⟨w, file, rfl, rfl, hError, append_of_isRefusal w {} true file ['p'] _ hError rfl⟩

end Workspace

end CsvIntake
