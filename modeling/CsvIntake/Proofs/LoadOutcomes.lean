import CsvIntake.Proofs.NewTables
import CsvIntake.Proofs.RefusedAppend

/-! What a load can do to a workspace, said once for all that follows. A creation reads the clock and then does
nothing, or fills a new table, and then registers it if the registry is used, can be written and does not
know the name. An append does nothing, or writes to a table that exists, and counts its rows only if it
succeeds. -/
namespace CsvIntake

/-- A file that can be prepared is read, its schema is detected, and its rows are read in the
detected types. -/
theorem prepareCreate_eq_ok {separators : NumberSeparators} {file : UploadFile}
    {schema : DetectedSchema} {values : List (List Value)}
    (h : prepareCreate separators file = .ok (schema, values)) :
    ∃ table, readUpload file = .ok table ∧
      schema = DetectedSchema.detect separators table.header table.rows ∧
      (readRows separators (schema.extant.map Prod.snd) table.rows
        (NameMap.names schema.extant)).all = .ok values := by
  rw [prepareCreate] at h
  cases hRead : readUpload file with
  | error e => simp [hRead] at h
  | ok table =>
      rw [hRead] at h
      dsimp only at h
      split at h
      · cases h
      · rename_i rows hRows
        obtain ⟨rfl, rfl⟩ := Prod.mk.inj (Except.ok.inj h)
        exact ⟨table, rfl, rfl, hRows⟩

namespace Registry

/-- A registry is written unless something is the matter with its store. -/
theorem written_eq_ok_iff {fault : Option Text} {changed after : Registry} :
    written fault changed = .ok after ↔ fault = none ∧ after = changed := by
  cases fault <;> simp [written, eq_comm]

/-- A registry that is not written fails for the reason that its store gives. -/
theorem written_eq_error_iff {fault : Option Text} {changed : Registry} {e : Error} :
    written fault changed = .error e ↔ ∃ reason, fault = some reason ∧ e = .registryFailed reason := by
  cases fault <;> simp [written, eq_comm]

/-- A new name gets an entry behind the others, where the registry can be written. -/
theorem add_eq_ok_iff {registry after : Registry} {fault : Option Text} {entry : RegistryEntry} :
    registry.add fault entry = .ok after ↔ fault = none ∧
      (∀ known ∈ registry, known.tableName ≠ entry.tableName) ∧ after = registry ++ [entry] := by
  rw [add]
  split
  · rename_i hKnown
    refine iff_of_false (by rintro ⟨⟩) (fun ⟨_, hNew, _⟩ => ?_)
    obtain ⟨known, hMem, hSame⟩ := List.any_eq_true.mp hKnown
    exact hNew known hMem (beq_iff_eq.mp hSame)
  · rename_i hNew
    rw [written_eq_ok_iff]
    have hApart : ∀ known ∈ registry, known.tableName ≠ entry.tableName := by simpa using hNew
    exact and_congr_right fun _ => (and_iff_right hApart).symm

/-- An entry is refused for a name that is known, or since the registry cannot be written. -/
theorem add_eq_error_iff {registry : Registry} {fault : Option Text} {entry : RegistryEntry} {e : Error} :
    registry.add fault entry = .error e ↔
      (∃ known ∈ registry, known.tableName = entry.tableName) ∧ e = .alreadyRegistered ∨
      (∀ known ∈ registry, known.tableName ≠ entry.tableName) ∧
        ∃ reason, fault = some reason ∧ e = .registryFailed reason := by
  rw [add]
  split
  · rename_i hKnown
    obtain ⟨known, hMem, hSame⟩ := List.any_eq_true.mp hKnown
    have hExists : ∃ known ∈ registry, known.tableName = entry.tableName :=
      ⟨known, hMem, beq_iff_eq.mp hSame⟩
    simp only [Except.error.injEq, hExists, true_and]
    exact ⟨fun h => .inl h.symm, fun h => h.elim Eq.symm fun hNew => absurd (beq_iff_eq.mp hSame) (hNew.1 known hMem)⟩
  · rename_i hNew
    have hApart : ∀ known ∈ registry, known.tableName ≠ entry.tableName := by simpa using hNew
    rw [written_eq_error_iff]
    refine ⟨fun h => .inr ⟨hApart, h⟩, ?_⟩
    rintro (⟨⟨known, hMem, hSame⟩, _⟩ | ⟨_, h⟩)
    · exact absurd hSame (hApart known hMem)
    · exact h

end Registry

namespace Workspace

/-- The entry that a new table gets in the registry. -/
def newEntry (file : UploadFile) (name : Text) (count : Nat) : RegistryEntry :=
  ⟨name, displayName (fileStem file.name), some file.name, true, count⟩

/-- What is told of a new table. -/
def newUpload (file : UploadFile) (name : Text) (schema : DetectedSchema) (count : Nat) :
    CreatedUpload :=
  ⟨name, displayName (fileStem file.name), schema,
    ⟨name, count, schema.extant.length, schema.generated.length, file.sizeInMegabytes⟩⟩

/-- What a creation answers and leaves. -/
inductive CreateOutcome (w : Workspace) (options : LoadOptions) (useRegistry : Bool) (start : Text)
    (file : UploadFile) : Except Error CreatedUpload × Workspace → Prop where
  | failed (e : Error) (clock : Clock) :
      CreateOutcome w options useRegistry start file (.error e, { w with clock })
  | unregistered {name : Text} {clock : Clock} {schema : DetectedSchema}
      {values : List (List Value)} {count : Nat} {filled : Database} {e : Error}
      (hPrepare : prepareCreate options.separators file = .ok (schema, values))
      (hFill : w.database.createFilled options.batchSize name schema values = (.ok count, filled))
      (hUsed : useRegistry = true)
      (hRefused : w.registry.add options.registryFault (newEntry file name count) = .error e) :
      CreateOutcome w options useRegistry start file (.error e, { w with database := filled, clock })
  | created {name : Text} {clock : Clock} {schema : DetectedSchema} {values : List (List Value)}
      {count : Nat} {filled : Database} {registry : Registry}
      (hName : uniqueTableName w.clock (start ++ fileStem file.name) options.nameLimit =
        .ok (name, clock))
      (hPrepare : prepareCreate options.separators file = .ok (schema, values))
      (hFill : w.database.createFilled options.batchSize (Text.lowerAscii name) schema values =
        (.ok count, filled))
      (hUsed : useRegistry = true →
        w.registry.add options.registryFault (newEntry file (Text.lowerAscii name) count) = .ok registry)
      (hUnused : useRegistry = false → registry = w.registry) :
      CreateOutcome w options useRegistry start file
        (.ok (newUpload file (Text.lowerAscii name) schema count), ⟨filled, registry, clock⟩)

/-- Every creation ends in one of its outcomes. -/
theorem create_outcome (w : Workspace) (options : LoadOptions) (useRegistry : Bool) (start : Text)
    (file : UploadFile) :
    CreateOutcome w options useRegistry start file (w.create options useRegistry start file) := by
  rw [create]
  dsimp only
  cases hName : uniqueTableName w.clock (start ++ fileStem file.name) options.nameLimit with
  | error e => exact .failed e w.clock
  | ok named =>
      obtain ⟨name, clock⟩ := named
      dsimp only
      cases hPrepare : prepareCreate options.separators file with
      | error e => exact .failed e clock
      | ok prepared =>
          obtain ⟨schema, values⟩ := prepared
          dsimp only
          rcases Database.createFilled_cases w.database options.batchSize (Text.lowerAscii name) schema
            values with ⟨e, hFailed⟩ | ⟨_, _, count, filled, _, _, hFill⟩
          · rw [hFailed]
            exact .failed e clock
          · rw [hFill]
            dsimp only
            cases useRegistry with
            | false =>
                refine .created hName hPrepare hFill (fun hUsed => ?_) fun _ => rfl
                cases hUsed
            | true =>
                rw [changeRegistry, if_pos rfl]
                cases hAdd : w.registry.add options.registryFault
                    (newEntry file (Text.lowerAscii name) count) with
                | error e =>
                    rw [newEntry] at hAdd
                    simp only [hAdd, Except.map]
                    exact .unregistered hPrepare hFill rfl hAdd
                | ok registry =>
                    rw [newEntry] at hAdd
                    simp only [hAdd, Except.map]
                    refine .created hName hPrepare hFill (fun _ => hAdd) fun hUnused => ?_
                    cases hUnused

/-- What an append answers and leaves. -/
inductive AppendOutcome (w : Workspace) (options : LoadOptions) (useRegistry : Bool)
    (file : UploadFile) (name : Text) : Except Error LoadStats × Workspace → Prop where
  | refused (e : Error) (hRefusal : e.isRefusal = true) :
      AppendOutcome w options useRegistry file name (.error e, w)
  | failed {source : CsvTable} {e : Error} {written : Database}
      (hExists : (w.database.table? name).isSome) (hRead : readUpload file = .ok source)
      (hAppend : w.database.appendTable options name source = (.error e, written)) :
      AppendOutcome w options useRegistry file name (.error e, { w with database := written })
  | unrecorded {source : CsvTable} {plan : MigrationPlan} {count : Nat} {written : Database}
      {reason : Text} (hExists : (w.database.table? name).isSome) (hRead : readUpload file = .ok source)
      (hAppend : w.database.appendTable options name source = (.ok (plan, count), written))
      (hUsed : useRegistry = true) (hFault : options.registryFault = some reason) :
      AppendOutcome w options useRegistry file name
        (.error (.registryFailed reason), { w with database := written })
  | appended {source : CsvTable} {plan : MigrationPlan} {count : Nat} {written : Database}
      (hExists : (w.database.table? name).isSome)
      (hUpload : useRegistry = true → (w.registry.upload? name).isSome)
      (hRead : readUpload file = .ok source)
      (hAppend : w.database.appendTable options name source = (.ok (plan, count), written))
      (hStore : useRegistry = true → options.registryFault = none) :
      AppendOutcome w options useRegistry file name
        (.ok ⟨name, count, plan.newTypes.length, if plan.createKey then 1 else 0,
          file.sizeInMegabytes⟩,
        { w with
          database := written
          registry := if useRegistry then w.registry.recordAppend name count else w.registry })

/-- A file that cannot be read is refused. -/
theorem isRefusal_of_readUpload {file : UploadFile} {e : Error} (h : readUpload file = .error e) :
    e.isRefusal = true := by
  rw [readUpload] at h
  split at h
  · rename_i cause hRead
    obtain rfl := Except.error.inj h
    rw [CsvTable.read] at hRead
    cases hFile : CsvTable.ofFile file with
    | error fault =>
        rw [hFile] at hRead
        obtain rfl := Except.error.inj hRead
        rfl
    | ok table =>
        rw [hFile] at hRead
        cases hRead
  · cases h

/-- Every append ends in one of its outcomes. -/
theorem append_outcome (w : Workspace) (options : LoadOptions) (useRegistry : Bool)
    (file : UploadFile) (name : Text) :
    AppendOutcome w options useRegistry file name (w.append options useRegistry file name) := by
  rw [append]
  split
  · exact .refused _ rfl
  · rename_i hTable
    have hExists : (w.database.table? name).isSome := by
      simpa [Option.isSome_iff_ne_none] using hTable
    split
    · exact .refused _ rfl
    · rename_i hUpload
      cases hRead : readUpload file with
      | error e => exact .refused e (isRefusal_of_readUpload hRead)
      | ok source =>
          dsimp only
          rcases hAppend : w.database.appendTable options name source with
            ⟨e | ⟨plan, count⟩, written⟩
          · exact .failed hExists hRead hAppend
          · cases useRegistry with
            | false => exact .appended hExists (by rintro ⟨⟩) hRead hAppend (by rintro ⟨⟩)
            | true =>
                have hKnown : (w.registry.upload? name).isSome := by
                  simpa [Option.isSome_iff_ne_none] using hUpload
                simp only [changeRegistry, if_true]
                cases hFault : options.registryFault with
                | none => exact .appended hExists (fun _ => hKnown) hRead hAppend fun _ => hFault
                | some reason => exact .unrecorded hExists hRead hAppend rfl hFault

end Workspace

end CsvIntake
