import CsvIntake.Proofs.LoadedTables

/-! Failed creations. Main statement: a creation that fails leaves every registry entry as it was, and every
table too unless it is the registry that fails. A table that the new name denotes already is not touched, and
a new table whose rows could not all be inserted is gone. The registry is told last, when the table is filled
and nothing takes it back: it may know the name of the new table, or the store that keeps it may not be
writable. -/
namespace CsvIntake

namespace Database

variable {name : Text} {schema : DetectedSchema} {rows : List (List Value)}

/-- A table that cannot be created leaves the database as it is. -/
theorem createFilled_of_not_created {db : Database} {e : Error} (size : Int)
    (h : db.createTable name schema.all (some rowKeyName) = .error e) :
    db.createFilled size name schema rows = (.error e, db) := by
  rw [createFilled, h]

/-- The name of a table that exists is not given again. -/
theorem createFilled_of_denoted {db : Database} {t : Table} (h : db.denoted? name = some t)
    (size : Int) (schema : DetectedSchema) (rows : List (List Value)) :
    ∃ e, db.createFilled size name schema rows = (.error e, db) := by
  cases hCreate : db.createTable name schema.all (some rowKeyName) with
  | error e => exact ⟨e, createFilled_of_not_created size hCreate⟩
  | ok created =>
      obtain ⟨_, _, _, hFree, _⟩ := createTable_eq_ok hCreate
      rw [h] at hFree
      cases hFree

/-- A new table that does not take all of its rows goes with those that it has taken. -/
theorem createFilled_of_failed_insertion {db created partly : Database} {size : Int} {e : Error}
    (hCreate : db.createTable name schema.all (some rowKeyName) = .ok created)
    (hInsert : created.insertRows size name (NameMap.names schema.extant) rows = (.error e, partly)) :
    db.createFilled size name schema rows = (.error (.insertFailed e.message none), db) := by
  obtain ⟨_, _, hNonempty, _, _⟩ := createTable_eq_ok hCreate
  have hDrop : partly.dropTable name =
      .ok ⟨partly.tables.filter fun t => !sameIdentifier t.name name⟩ := by
    rw [dropTable, if_neg (by simpa using hNonempty)]
  have hFilled : db.createFilled size name schema rows =
      (.error (.insertFailed e.message none),
        ⟨partly.tables.filter fun t => !sameIdentifier t.name name⟩) := by
    rw [createFilled, hCreate]
    dsimp only
    rw [hInsert]
    dsimp only
    rw [hDrop]
  -- what is left after the drop is the database of before
  rcases createFilled_cases db size name schema rows with
    ⟨cause, hFailed⟩ | ⟨_, _, count, filled, _, _, hOk⟩
  · rw [hFilled] at hFailed ⊢
    rw [(Prod.mk.inj hFailed).2]
  · rw [hFilled] at hOk
    cases (Prod.mk.inj hOk).1

end Database

namespace Workspace

variable {w : Workspace} {options : LoadOptions} {useRegistry : Bool} {start name : Text}
  {file : UploadFile} {clock : Clock}

/-- A file that cannot be prepared changes nothing but the clock. -/
theorem create_of_not_prepared {e : Error}
    (hName : uniqueTableName w.clock (start ++ fileStem file.name) options.nameLimit =
      .ok (name, clock))
    (h : prepareCreate options.separators file = .error e) :
    w.create options useRegistry start file = (.error e, { w with clock }) := by
  rw [create]
  dsimp only
  rw [hName]
  dsimp only
  rw [h]

/-- A table that cannot be filled leaves the registry as it is, and the database as the filling
does. -/
theorem create_of_not_filled {schema : DetectedSchema} {values : List (List Value)} {e : Error}
    {left : Database}
    (hName : uniqueTableName w.clock (start ++ fileStem file.name) options.nameLimit =
      .ok (name, clock))
    (hPrepare : prepareCreate options.separators file = .ok (schema, values))
    (h : w.database.createFilled options.batchSize (Text.lowerAscii name) schema values =
      (.error e, left)) :
    w.create options useRegistry start file = (.error e, { w with database := left, clock }) := by
  rw [create]
  dsimp only
  rw [hName]
  dsimp only
  rw [hPrepare]
  dsimp only
  rw [h]

/-- A creation under a name that denotes a table fails. -/
theorem create_of_denoted {t : Table}
    (hName : uniqueTableName w.clock (start ++ fileStem file.name) options.nameLimit =
      .ok (name, clock))
    (h : w.database.denoted? (Text.lowerAscii name) = some t) (useRegistry : Bool) :
    ∃ e, w.create options useRegistry start file = (.error e, { w with clock }) := by
  cases hPrepare : prepareCreate options.separators file with
  | error e => exact ⟨e, create_of_not_prepared hName hPrepare⟩
  | ok prepared =>
      obtain ⟨schema, values⟩ := prepared
      obtain ⟨e, hFill⟩ := Database.createFilled_of_denoted h options.batchSize schema values
      exact ⟨e, create_of_not_filled hName hPrepare hFill⟩

/-- A failed creation leaves the registry as it was, and unless the failure is one of the registry the
database too. If something is left behind then the registry was used, and it either knew the name of the new
table or failed for the fault of its store. If the name denotes a table already, the creation fails and the
table stays; if the new table does not take all rows, none of that name is left. -/
theorem unchanged_of_failed_create (w : Workspace) (options : LoadOptions) (useRegistry : Bool)
    (start : Text) (file : UploadFile) :
    let result := w.create options useRegistry start file
    (∀ e, result.1 = .error e → result.2.registry = w.registry ∧
      (e ≠ .alreadyRegistered → (∀ reason, e ≠ .registryFailed reason) →
        result.2.database = w.database) ∧
      (result.2.database ≠ w.database → useRegistry = true ∧ (e = .alreadyRegistered ∨
        ∃ reason, options.registryFault = some reason ∧ e = .registryFailed reason))) ∧
    ∀ name clock,
      uniqueTableName w.clock (start ++ fileStem file.name) options.nameLimit = .ok (name, clock) →
      (∀ t, w.database.denoted? (Text.lowerAscii name) = some t →
        (∃ e, result.1 = .error e) ∧ result.2.database = w.database ∧
          result.2.registry = w.registry) ∧
      ∀ schema values created e partly,
        prepareCreate options.separators file = .ok (schema, values) →
        w.database.createTable (Text.lowerAscii name) schema.all (some rowKeyName) = .ok created →
        created.insertRows options.batchSize (Text.lowerAscii name) (NameMap.names schema.extant)
          values = (.error e, partly) →
        result.1 = .error (.insertFailed e.message none) ∧ result.2.database = w.database ∧
          result.2.database.denoted? (Text.lowerAscii name) = none := by
  dsimp only
  refine ⟨fun e hFailed => ?_, fun name clock hName => ⟨fun t hTaken => ?_, ?_⟩⟩
  · have hOutcome := w.create_outcome options useRegistry start file
    generalize w.create options useRegistry start file = result at hFailed hOutcome ⊢
    cases hOutcome with
    | failed e clock => exact ⟨rfl, fun _ _ => rfl, fun hChanged => absurd rfl hChanged⟩
    | @unregistered _ _ _ _ _ _ cause hPrepare hFill hUsed hRefused =>
        obtain rfl : cause = e := Except.error.inj hFailed
        have hCause : cause = .alreadyRegistered ∨
            ∃ reason, options.registryFault = some reason ∧ cause = .registryFailed reason :=
          (Registry.add_eq_error_iff.mp hRefused).imp And.right And.right
        refine ⟨rfl, fun hNew hOther => ?_, fun _ => ⟨hUsed, hCause⟩⟩
        obtain ⟨reason, _, hReason⟩ := hCause.resolve_left hNew
        exact absurd hReason (hOther reason)
    | created hName hPrepare hFill hUsed hUnused => cases hFailed
  · obtain ⟨e, hCreate⟩ := create_of_denoted hName hTaken useRegistry
    rw [hCreate]
    exact ⟨⟨e, rfl⟩, rfl, rfl⟩
  · intro schema values created e partly hPrepare hTable hInsert
    obtain ⟨_, _, _, hFree, _⟩ := Database.createTable_eq_ok hTable
    rw [create_of_not_filled hName hPrepare
      (Database.createFilled_of_failed_insertion hTable hInsert)]
    exact ⟨rfl, rfl, hFree⟩

/-- Beside a table of one row: a file whose second row is too large for its column, in batches of one row, so that
the first is inserted before the failure; and a file whose table exists already. -/
theorem unchanged_of_create_after_one_batch :
    ∃ (w v : Workspace) (options : LoadOptions) (file : UploadFile) (name : Text) (clock : Clock)
      (schema : DetectedSchema) (values : List (List Value)) (created partly : Database) (e : Error),
      options.batchSize = 1 ∧ file.content = "n\n3\n9223372036854775808\n".toUTF8 ∧
      w.database.tables = [⟨['o'], [⟨['n'], .bigint⟩], [[.integer 5]]⟩] ∧
      uniqueTableName w.clock (['p'] ++ fileStem file.name) options.nameLimit = .ok (name, clock) ∧
      prepareCreate options.separators file = .ok (schema, values) ∧
      w.database.createTable (Text.lowerAscii name) schema.all (some rowKeyName) = .ok created ∧
      created.insertRows options.batchSize (Text.lowerAscii name) (NameMap.names schema.extant)
        values = (.error e, partly) ∧
      partly.tables.map Table.rows = [[[.integer 5]], [[.integer 1, .integer 3]]] ∧
      (w.create options true ['p'] file).1 = .error (.insertFailed e.message none) ∧
      (w.create options true ['p'] file).2.database = w.database ∧
      (w.create options true ['p'] file).2.registry = w.registry ∧
      v.database.tables.map Table.name = [name] ∧ v.clock = w.clock ∧
      (∃ e, (v.create options true ['p'] file).1 = .error e) ∧
      (v.create options true ['p'] file).2.database = v.database := by
  let w : Workspace := ⟨⟨[⟨['o'], [⟨['n'], .bigint⟩], [[.integer 5]]⟩]⟩, [], .first⟩
  let name : Text := "pf_10101000001".toList
  let v : Workspace := ⟨⟨[⟨name, [⟨['n'], .bigint⟩], [[.integer 7]]⟩]⟩, [], .first⟩
  let options : LoadOptions := { batchSize := 1 }
  let file : UploadFile := { name := ['f'], content := "n\n3\n9223372036854775808\n".toUTF8 }
  let schema : DetectedSchema := ⟨[(['n'], .int)], [(rowKeyName, .rowKey)]⟩
  let values : List (List Value) := [[.integer 3], [.integer 9223372036854775808]]
  let columns : List Column := [⟨rowKeyName, .bigint⟩, ⟨['n'], .bigint⟩]
  let created : Database := ⟨w.database.tables ++ [⟨name, columns, []⟩]⟩
  let partly : Database := ⟨w.database.tables ++ [⟨name, columns, [[.integer 1, .integer 3]]⟩]⟩
  let clock : Clock := (w.create options true ['p'] file).2.clock
  have hName : uniqueTableName w.clock (['p'] ++ fileStem file.name) options.nameLimit =
      .ok (name, clock) := by
    decide +kernel
  have hLower : Text.lowerAscii name = name := by decide +kernel
  have hPrepare : prepareCreate options.separators file = .ok (schema, values) := by decide +kernel
  have hTable : w.database.createTable (Text.lowerAscii name) schema.all (some rowKeyName) =
      .ok created := by
    decide +kernel
  have hInsert : created.insertRows options.batchSize (Text.lowerAscii name)
      (NameMap.names schema.extant) values = (.error .refusedByStore, partly) := by
    decide +kernel
  have hTaken : v.database.denoted? (Text.lowerAscii name) =
      some ⟨name, [⟨['n'], .bigint⟩], [[.integer 7]]⟩ := by
    decide +kernel
  obtain ⟨hUnchanged, hNamed⟩ := unchanged_of_failed_create w options true ['p'] file
  obtain ⟨hFailed, _⟩ := (hNamed name clock hName).2 _ _ _ _ _ hPrepare hTable hInsert
  obtain ⟨hRegistry, hStored, _⟩ := hUnchanged _ hFailed
  obtain ⟨_, hAgain⟩ := unchanged_of_failed_create v options true ['p'] file
  obtain ⟨hTakenFailed, hTakenDatabase, _⟩ := (hAgain name clock hName).1 _ hTaken
  exact ⟨w, v, options, file, name, clock, schema, values, created, partly, .refusedByStore, rfl, rfl, rfl,
    hName, hPrepare, hTable, hInsert, rfl, hFailed, hStored (by simp) (by simp), hRegistry, rfl, rfl,
    hTakenFailed, hTakenDatabase⟩

/-- A registry that cannot be written fails after the table is filled. The table is left behind, though the
failure is not that the registry knows its name. -/
theorem changed_of_create_with_locked_registry :
    ∃ (w : Workspace) (options : LoadOptions) (file : UploadFile) (e : Error),
      w = ⟨.empty, [], .first⟩ ∧ (w.create options true ['p'] file).1 = .error e ∧
      e ≠ .alreadyRegistered ∧ (w.create options true ['p'] file).2.database ≠ w.database ∧
      (w.create options true ['p'] file).2.database.tables.map Table.rows =
        [[[.integer 1, .integer 3]]] ∧
      (w.create options true ['p'] file).2.registry = [] := by
  let reason : Text := "database is locked".toList
  refine ⟨⟨.empty, [], .first⟩, { registryFault := some reason },
    { name := ['f'], content := "n\n3\n".toUTF8 }, .registryFailed reason, rfl, ?_, ?_, ?_, ?_, ?_⟩ <;>
  decide +kernel

end Workspace

end CsvIntake
