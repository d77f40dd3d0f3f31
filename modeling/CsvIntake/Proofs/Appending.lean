import CsvIntake.Proofs.LoadedTables

/-! A successful append. Main statement: where a table was made from a file and any loads followed, a
successful append of a file leaves the old rows, puts one row for each row of the file below them, counts
them, and changes no other table and no other entry of the registry. -/
namespace CsvIntake

namespace Registry

/-- The row count of a table has grown in its entry, and no other entry has changed. -/
structure Counted (table : Text) (count : Int) (before after : Registry) : Prop where
  entry : ∃ entry, before.upload? table = some entry ∧
    after.upload? table = some { entry with rowCount := entry.rowCount + count }
  others : (after.filter fun entry => !(entry.tableName == table && entry.isUpload)) =
    before.filter fun entry => !(entry.tableName == table && entry.isUpload)

/-- Recording an append raises the count of its own table, and of no other. -/
theorem upload?_recordAppend (registry : Registry) (table : Text) (count : Int) :
    (registry.recordAppend table count).upload? table =
      (registry.upload? table).map fun entry => { entry with rowCount := entry.rowCount + count } := by
  rw [upload?, recordAppend, List.find?_map]
  have hKept : ((fun entry : RegistryEntry => entry.tableName == table && entry.isUpload) ∘
      fun entry => if entry.tableName == table && entry.isUpload then
        { entry with rowCount := entry.rowCount + count } else entry) =
        fun entry => entry.tableName == table && entry.isUpload := by
    funext entry
    rw [Function.comp_apply]
    split <;> rfl
  rw [hKept, upload?]
  refine Option.map_congr fun entry hEntry => ?_
  rw [if_pos (List.find?_some hEntry)]

theorem counted_recordAppend {registry : Registry} {table : Text}
    (h : (registry.upload? table).isSome) (count : Int) :
    Counted table count registry (registry.recordAppend table count) := by
  constructor
  · obtain ⟨entry, hEntry⟩ := Option.isSome_iff_exists.mp h
    exact ⟨entry, hEntry, by rw [upload?_recordAppend, hEntry, Option.map_some]⟩
  · clear h
    rw [recordAppend]
    induction registry with
    | nil => rfl
    | cons entry registry ih =>
        rw [List.map_cons, List.filter_cons, List.filter_cons, ih]
        cases hEntry : entry.tableName == table && entry.isUpload with
        | true => simp only [hEntry, if_true, Bool.not_true, Bool.false_eq_true, if_false]
        | false => simp only [hEntry, Bool.false_eq_true, if_false, Bool.not_false, if_true]

end Registry

namespace Workspace

/-- What a successful append has done. -/
theorem append_eq_ok {w : Workspace} {options : LoadOptions} {useRegistry : Bool} {file : UploadFile}
    {name : Text} {stats : LoadStats} (h : (w.append options useRegistry file name).1 = .ok stats) :
    ∃ table plan, readUpload file = .ok table ∧
      w.database.appendTable options name table =
        (.ok (plan, stats.rowCount), (w.append options useRegistry file name).2.database) ∧
      (useRegistry = true → Registry.Counted name stats.rowCount w.registry
        (w.append options useRegistry file name).2.registry) ∧
      (useRegistry = false → (w.append options useRegistry file name).2.registry = w.registry) := by
  have hOutcome := w.append_outcome options useRegistry file name
  generalize w.append options useRegistry file name = result at h hOutcome ⊢
  cases hOutcome with
  | refused e hRefusal => cases h
  | failed hExists hRead hAppend => cases h
  | unrecorded hExists hRead hAppend hUsed hFault => cases h
  | appended hExists hUpload hRead hAppend hStore =>
      obtain rfl := Except.ok.inj h
      refine ⟨_, _, hRead, hAppend, fun hUsed => ?_, fun hUnused => ?_⟩
      · subst hUsed
        exact Registry.counted_recordAppend (hUpload rfl) _
      · subst hUnused
        rfl

/-- A file is appended to a table that was made from a file, after any course of loads. If the append
succeeds, its plan, the rows it read and the old table say what the table is now. -/
theorem append_to_created {origin w : Workspace} {createOptions options : LoadOptions}
    {createRegistered useRegistry : Bool} {start : Text} {created file : UploadFile}
    {upload : CreatedUpload} {stats : LoadStats}
    (hCreate : (origin.create createOptions createRegistered start created).1 = .ok upload)
    (hLater : (origin.create createOptions createRegistered start created).2.Later w)
    (hBatch : 1 ≤ options.batchSize)
    (hAppend : (w.append options useRegistry file upload.tableName).1 = .ok stats) :
    ∃ (others : OtherTables upload.tableName) (before after : Table) (table : CsvTable)
      (plan : MigrationPlan) (values : List (List Value)),
      before.name = upload.tableName ∧ w.database = others.around before ∧
      (w.append options useRegistry file upload.tableName).2.database = others.around after ∧
      readUpload file = .ok table ∧
      MigrationPlan.make options.separators (w.database.knownTypes upload.tableName) table.header
        table.rows options.createKeys = .ok plan ∧
      (readRows options.separators plan.loadTypes table.rows plan.columnNames).all = .ok values ∧
      plan.columnNames = table.header.map columnName ∧
      values.length = table.rows.length ∧ stats.rowCount = table.rows.length ∧
      Appended plan values before after ∧
      (useRegistry = true → Registry.Counted upload.tableName stats.rowCount w.registry
        (w.append options useRegistry file upload.tableName).2.registry) ∧
      (useRegistry = false →
        (w.append options useRegistry file upload.tableName).2.registry = w.registry) := by
  obtain ⟨others, before, hAround, hName, hShape⟩ :=
    (hLater.holdsUpload (holdsUpload_create hCreate)).exists_around
  obtain ⟨table, plan, hRead, hTable, hCounted, hUncounted⟩ := append_eq_ok hAppend
  have hMake := (Database.appendTable_eq_ok hTable).1
  rw [hAround] at hTable
  obtain ⟨values, after, hValues, hLength, hCount, hAfter, hAppended⟩ :=
    Database.appendTable_around hShape hName hBatch (keylessHeader_of_readUpload hRead) hTable
  have hFor := hMake
  rw [hAround, Database.knownTypes_around hShape hName] at hFor
  have hNames := (MigrationPlan.isFor_of_make hShape (keylessHeader_of_readUpload hRead) hFor).columnNames
  exact ⟨others, before, after, table, plan, values, hName, hAround, hAfter, hRead, hMake, hValues,
    hNames, hLength, hCount, hAppended, hCounted, hUncounted⟩

/-- A file whose columns stand in another order: its new column of words is added after the old one, which is
widened. -/
theorem append_to_one_column_of_ints :
    ∃ (origin : Workspace) (created file : UploadFile) (upload : CreatedUpload) (stats : LoadStats),
      created.content = "n\n2\n".toUTF8 ∧ file.content = "m,n\nx,2.5\n".toUTF8 ∧
      (origin.create {} true ['p'] created).1 = .ok upload ∧ stats.rowCount = 1 ∧
      ∃ (others : OtherTables upload.tableName) (before after : Table) (plan : MigrationPlan)
        (values : List (List Value)),
        (origin.create {} true ['p'] created).2.database = others.around before ∧
        ((origin.create {} true ['p'] created).2.append {} true file upload.tableName).2.database =
          others.around after ∧
        Appended plan values before after := by
  let day : Date := ⟨1, 1, 1, by decide, by decide, by decide, by decide, by decide, by decide⟩
  let origin : Workspace := ⟨⟨[]⟩, [], ⟨⟨day, .midnight⟩, ⟨⟨day, .midnight⟩, []⟩⟩⟩
  let created : UploadFile := { name := ['f'], content := "n\n2\n".toUTF8 }
  let file : UploadFile := { name := ['g'], content := "m,n\nx,2.5\n".toUTF8 }
  have hBoth : ((origin.create {} true ['p'] created).1.map fun upload =>
      ((origin.create {} true ['p'] created).2.append {} true file upload.tableName).1.map
        LoadStats.rowCount) = .ok (.ok 1) := by
    decide +kernel
  cases hCreate : (origin.create {} true ['p'] created).1 with
  | error e => simp [hCreate, Except.map] at hBoth
  | ok upload =>
      rw [hCreate, Except.map, Except.ok.injEq] at hBoth
      cases hAppend :
        ((origin.create {} true ['p'] created).2.append {} true file upload.tableName).1 with
      | error e => simp [hAppend, Except.map] at hBoth
      | ok stats =>
          rw [hAppend, Except.map, Except.ok.injEq] at hBoth
          obtain ⟨others, before, after, table, plan, values, _, hBefore, hAfter, _, _, _, _, _, _,
            hAppended, _⟩ := append_to_created hCreate .refl (by decide) hAppend
          exact ⟨origin, created, file, upload, stats, rfl, rfl, hCreate, hBoth, others, before, after,
            plan, values, hBefore, hAfter, hAppended⟩

end Workspace

end CsvIntake
