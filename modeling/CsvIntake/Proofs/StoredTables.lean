import CsvIntake.Workspace

/-! Tables in a database. A statement reaches the one table that its name denotes: the tables around it
stay as they are and where they are. So whatever an append does, and whether or not it succeeds, it is a run
of statements on one table, and what each of them keeps of that table the whole append keeps. -/
namespace CsvIntake

@[simp] theorem sameIdentifier_self (name : Text) : sameIdentifier name name = true := by
  simp [sameIdentifier]

theorem sameIdentifier_comm (a b : Text) : sameIdentifier a b = sameIdentifier b a := by
  rw [sameIdentifier, sameIdentifier, Bool.beq_comm]

theorem sameIdentifier_congr {a b : Text} (h : sameIdentifier a b = true) (c : Text) :
    sameIdentifier c a = sameIdentifier c b := by
  rw [sameIdentifier, beq_iff_eq] at h
  rw [sameIdentifier, sameIdentifier, h]

namespace Table

/-- A statement on one table. -/
inductive Statement where
  | insertRow (names : List Text) (values : List Value)
  | addColumn (column : Column)
  | alterColumn (name : Text) (type : NativeType)
  | addNumbers (name : Text)

def Statement.run : Statement → Table → Except Error Table
  | .insertRow names values, t => t.insertRow names values
  | .addColumn column, t => t.addColumn column
  | .alterColumn name type, t => t.alterColumn name type
  | .addNumbers name, t => t.addNumbers name

/-- No statement changes the name of its table. -/
theorem Statement.name_of_run {s : Statement} {t after : Table} (h : s.run t = .ok after) :
    after.name = t.name := by
  cases s with
  | insertRow names values =>
      rw [run, Table.insertRow] at h
      split at h
      · cases h
      · split at h
        · cases h
        · cases h
          rfl
  | addColumn column =>
      rw [run, Table.addColumn] at h
      split at h
      · cases h
      · cases h
        rfl
  | alterColumn name type =>
      rw [run, Table.alterColumn] at h
      split at h
      · cases h
      · split at h
        · cases h
        · cases h
          rfl
  | addNumbers name =>
      rw [run, Table.addNumbers] at h
      split at h
      · cases h
      · cases h
        rfl

end Table

/-- The tables of a database beside one of the given name. No statement on that one reaches them. -/
structure OtherTables (name : Text) where
  before : List Table
  after : List Table
  apart : ∀ t ∈ before ++ after, sameIdentifier t.name name = false

/-- The database with a table in its place among the others. -/
def OtherTables.around {name : Text} (others : OtherTables name) (t : Table) : Database :=
  ⟨others.before ++ t :: others.after⟩

namespace Database

/-- The tables that a name could denote. -/
def denotedTables (db : Database) (name : Text) : List Table :=
  db.tables.filter fun t => sameIdentifier t.name name

/-- Tables of other names in front of a table stay. -/
theorem changeIn_append_of_apart {name : Text} {f : Table → Except Error Table}
    {before : List Table} (h : ∀ t ∈ before, sameIdentifier t.name name = false)
    (tables : List Table) :
    changeIn name f (before ++ tables) = (changeIn name f tables).map (before ++ ·) := by
  induction before with
  | nil => cases hRest : changeIn name f tables <;> simp [hRest, Except.map]
  | cons t before ih =>
      have ih := ih fun u hu => h u (List.mem_cons_of_mem _ hu)
      rw [List.cons_append, changeIn, h t (List.mem_cons_self ..), if_neg Bool.false_ne_true, ih]
      cases changeIn name f tables <;> simp [Except.map]

/-- A statement on the table of a name leaves what another name denotes. -/
theorem denotedTables_change {db after : Database} {name other : Text} {s : Table.Statement}
    (h : db.change name s.run = .ok after) (hApart : sameIdentifier name other = false) :
    after.denotedTables other = db.denotedTables other := by
  have hTables : ∀ tables changed, changeIn name s.run tables = .ok changed →
      changed.filter (fun t => sameIdentifier t.name other) =
        tables.filter fun t => sameIdentifier t.name other := by
    intro tables
    induction tables with
    | nil =>
        intro changed h
        cases h
    | cons t tables ih =>
        intro changed h
        rw [changeIn] at h
        split at h
        · rename_i hSame
          cases hRun : s.run t with
          | error e => simp [hRun, Except.map] at h
          | ok u =>
              obtain rfl : u :: tables = changed := by simpa [hRun, Except.map] using h
              have hOther : sameIdentifier t.name other = false := by
                rw [sameIdentifier_comm, sameIdentifier_congr hSame, sameIdentifier_comm, hApart]
              simp [hOther, Table.Statement.name_of_run hRun]
        · cases hRest : changeIn name s.run tables with
          | error e => simp [hRest, Except.map] at h
          | ok rest =>
              obtain rfl : t :: rest = changed := by simpa [hRest, Except.map] using h
              simp only [List.filter_cons, ih rest hRest]
  rw [change] at h
  cases hChange : changeIn name s.run db.tables with
  | error e => simp [hChange, Except.map] at h
  | ok changed =>
      obtain rfl : Database.mk changed = after := by simpa [hChange, Except.map] using h
      exact hTables db.tables changed hChange

/-- The one table that a name denotes has its place among others. -/
theorem exists_around {db : Database} {name : Text} {t : Table} (h : db.denotedTables name = [t]) :
    ∃ others : OtherTables name, db = others.around t := by
  obtain ⟨before, after, hTables, hBefore, _, hAfter⟩ := List.filter_eq_cons_iff.mp h
  refine ⟨⟨before, after, ?_⟩, ?_⟩
  · intro u hu
    rcases List.mem_append.mp hu with hu | hu
    · exact eq_false_of_ne_true (hBefore u hu)
    · exact eq_false_of_ne_true (List.filter_eq_nil_iff.mp hAfter u hu)
  · cases db
    exact congrArg Database.mk hTables

/-! ### Rows in batches -/

/-- Rows with the next keys in front, if they get keys. -/
def keyed (next : Option Int) (rows : List (List Value)) : List (List Value) :=
  match next with
  | some key => withKeys key rows
  | none => rows

theorem withKeys_append (next : Int) (rows others : List (List Value)) :
    withKeys next (rows ++ others) = withKeys next rows ++ withKeys (next + rows.length) others := by
  rw [withKeys, withKeys, withKeys, List.zipIdx_append, List.map_append, Nat.zero_add,
    List.zipIdx_eq_map_add (l := others), List.map_map]
  congr 2
  funext row
  simp [Int.add_assoc]

theorem keyed_append (next : Option Int) (rows others : List (List Value)) :
    keyed next (rows ++ others) =
      keyed next rows ++ keyed (next.map (· + (rows.length : Int))) others := by
  cases next with
  | none => rfl
  | some key => exact withKeys_append key rows others

/-- Two runs of rows are inserted one after the other, the second only if the first one is. -/
theorem insertEach_append (table : Text) (names : List Text) (db : Database)
    (rows others : List (List Value)) :
    insertEach table names db (rows ++ others) =
      match insertEach table names db rows with
      | (.error e, after) => (.error e, after)
      | (.ok (), after) => insertEach table names after others := by
  induction rows generalizing db with
  | nil => rfl
  | cons values rest ih =>
      rw [List.cons_append, insertEach, insertEach]
      cases db.change table (Table.insertRow · names values) with
      | error e => rfl
      | ok after => exact ih after

/-- The first batch is inserted, then the others with the keys that follow. -/
theorem insertBatches_cons (table : Text) (names : List Text) (next : Option Int) (db : Database)
    (batch : List (List Value)) (rest : List (List (List Value))) :
    insertBatches table names next db (batch :: rest) =
      match insertEach table names db (keyed next batch) with
      | (.error e, after) => (.error e, after)
      | (.ok (), after) =>
        match insertBatches table names (next.map (· + (batch.length : Int))) after rest with
        | (.error e, after) => (.error e, after)
        | (.ok count, after) => (.ok (batch.length + count), after) := by
  cases next <;> rfl

/-- How rows are cut into batches does not matter: they are inserted one after the other, and their keys
go on from batch to batch. -/
theorem insertBatches_eq (table : Text) (names : List Text) (next : Option Int) (db : Database)
    (pieces : List (List (List Value))) :
    insertBatches table names next db pieces =
      match insertEach table names db (keyed next pieces.flatten) with
      | (.error e, after) => (.error e, after)
      | (.ok (), after) => (.ok pieces.flatten.length, after) := by
  induction pieces generalizing next db with
  | nil => cases next <;> rfl
  | cons batch rest ih =>
      rw [insertBatches_cons, List.flatten_cons, keyed_append, insertEach_append]
      rcases insertEach table names db (keyed next batch) with ⟨e | _, after⟩
      · rfl
      · dsimp only
        rw [ih]
        rcases insertEach table names after
          (keyed (next.map (· + (batch.length : Int))) rest.flatten) with ⟨e | _, last⟩
        · rfl
        · simp

/-! ### One table among others -/

variable {name : Text} {others : OtherTables name} {t : Table}

theorem denotedTables_around (hName : t.name = name) :
    (others.around t).denotedTables name = [t] := by
  have hApart : ∀ u ∈ others.before ++ others.after, ¬sameIdentifier u.name name = true := by
    intro u hu
    simp [others.apart u hu]
  rw [denotedTables, OtherTables.around, List.filter_append, List.filter_cons, hName,
    List.filter_eq_nil_iff.mpr fun u hu => hApart u (List.mem_append_left _ hu),
    List.filter_eq_nil_iff.mpr fun u hu => hApart u (List.mem_append_right _ hu)]
  simp

theorem denoted?_around (hName : t.name = name) : (others.around t).denoted? name = some t := by
  have h : (others.around t).denotedTables name = [t] := denotedTables_around hName
  rw [denotedTables] at h
  rw [denoted?, ← List.head?_filter, h]
  rfl

theorem table?_around (hName : t.name = name) : (others.around t).table? name = some t := by
  rw [table?, OtherTables.around, List.find?_append, List.find?_cons, hName, beq_self_eq_true]
  have hBefore : others.before.find? (fun u => u.name == name) = none := by
    rw [List.find?_eq_none]
    intro u hu hSame
    have hApart := others.apart u (List.mem_append_left _ hu)
    rw [beq_iff_eq.mp hSame, sameIdentifier_self] at hApart
    cases hApart
  rw [hBefore]
  rfl

/-- A statement changes the first table that its name denotes. -/
theorem change_first {before behind : List Table}
    (hApart : ∀ u ∈ before, sameIdentifier u.name name = false)
    (hSame : sameIdentifier t.name name = true) (f : Table → Except Error Table) :
    change ⟨before ++ t :: behind⟩ name f = (f t).map fun u => ⟨before ++ u :: behind⟩ := by
  rw [change, changeIn_append_of_apart hApart, changeIn, if_pos hSame]
  cases f t <;> rfl

/-- A change on a name is one of its table, in its place among the others. -/
theorem change_around (hName : t.name = name) (f : Table → Except Error Table) :
    (others.around t).change name f = (f t).map others.around := by
  apply change_first
  · exact fun u hu => others.apart u (List.mem_append_left _ hu)
  · rw [hName, sameIdentifier_self]

/-- Where a name denotes one table, no table exists by another name that denotes the same. -/
theorem eq_of_table?_isSome {other : Text} (hName : t.name = name)
    (hExists : ((others.around t).table? other).isSome) (hSame : sameIdentifier other name = true) :
    other = name := by
  obtain ⟨u, hu⟩ := Option.isSome_iff_exists.mp hExists
  obtain rfl : u.name = other := by simpa using List.find?_some hu
  have hMem : u ∈ (others.around t).denotedTables name :=
    List.mem_filter.mpr ⟨List.mem_of_find?_eq_some hu, hSame⟩
  rw [denotedTables_around hName, List.mem_singleton] at hMem
  rw [hMem, hName]

/-! ### Runs of statements -/

/-- The database after a run of allowed statements on the table of a name. -/
inductive Changed (name : Text) (allowed : Table.Statement → Prop) : Database → Database → Prop where
  | refl (db : Database) : Changed name allowed db db
  | step {db between after : Database} {s : Table.Statement}
      (prior : Changed name allowed db between) (hAllowed : allowed s)
      (last : between.change name s.run = .ok after) : Changed name allowed db after

variable {allowed : Table.Statement → Prop} {db between after : Database}

theorem Changed.trans (left : Changed name allowed db between)
    (right : Changed name allowed between after) : Changed name allowed db after := by
  induction right with
  | refl => exact left
  | step prior hAllowed last ih => exact .step ih hAllowed last

/-- A run on one name leaves what other names denote. -/
theorem Changed.denotedTables_eq (run : Changed name allowed db after) {other : Text}
    (hApart : sameIdentifier name other = false) :
    after.denotedTables other = db.denotedTables other := by
  induction run with
  | refl => rfl
  | step prior hAllowed last ih => rw [denotedTables_change last hApart, ih]

/-- What every allowed statement keeps of a table, a run keeps of it. -/
theorem Changed.exists_around {keeps : Table → Prop}
    (hStep : ∀ s u v, allowed s → keeps u → s.run u = .ok v → keeps v)
    (run : Changed name allowed (others.around t) after) (hName : t.name = name) (ht : keeps t) :
    ∃ u, after = others.around u ∧ u.name = name ∧ keeps u := by
  generalize hStart : others.around t = start at run
  induction run with
  | refl => exact ⟨t, hStart.symm, hName, ht⟩
  | @step between after s prior hAllowed last ih =>
      obtain ⟨u, rfl, hu, hKeeps⟩ := ih
      rw [change_around hu] at last
      cases hRun : s.run u with
      | error e => simp [hRun, Except.map] at last
      | ok v =>
          have hAfter : others.around v = after := by simpa [hRun, Except.map] using last
          refine ⟨v, hAfter.symm, ?_, hStep s u v hAllowed hKeeps hRun⟩
          rw [Table.Statement.name_of_run hRun, hu]

/-- A run over columns is one of statements when each of its steps is. -/
theorem changed_forColumns {run : Database → Text → ColumnType → Except Error Database}
    {schema : Schema}
    (h : ∀ column ∈ schema, ∀ db after, run db column.1 column.2 = .ok after →
      Changed name allowed db after) (db : Database) :
    Changed name allowed db (forColumns run db schema).2 := by
  induction schema generalizing db with
  | nil => exact .refl db
  | cons column rest ih =>
      rw [forColumns]
      cases hRun : run db column.1 column.2 with
      | error e => exact .refl db
      | ok after =>
          exact (h column (List.mem_cons_self ..) db after hRun).trans
            (ih (fun other hMem => h other (List.mem_cons_of_mem _ hMem)) after)

theorem changed_addColumns {schema : Schema}
    (h : ∀ column ∈ schema, ∀ type, allowed (.addColumn ⟨column.1, type⟩)) (db : Database) :
    Changed name allowed db (db.addColumns name schema).2 := by
  refine changed_forColumns (fun column hMem db after hRun => ?_) db
  split at hRun
  · cases hRun
  · exact .step (.refl db) (h column hMem _) hRun

theorem changed_alterColumns {schema : Schema}
    (h : ∀ column ∈ schema, ∀ type, column.2.native = .ok type → allowed (.alterColumn column.1 type))
    (db : Database) : Changed name allowed db (db.alterColumns name schema).2 := by
  refine changed_forColumns (fun column hMem db after hRun => ?_) db
  split at hRun
  · cases hRun
  · rename_i type hType
    exact .step (.refl db) (h column hMem type hType) hRun

theorem changed_insertEach (h : ∀ names values, allowed (.insertRow names values))
    (names : List Text) (db : Database) (rows : List (List Value)) :
    Changed name allowed db (insertEach name names db rows).2 := by
  induction rows generalizing db with
  | nil => exact .refl db
  | cons values rest ih =>
      rw [insertEach]
      cases hRun : db.change name (Table.insertRow · names values) with
      | error e => exact .refl db
      | ok after =>
          have hFirst : Changed name allowed db after :=
            .step (s := .insertRow names values) (.refl db) (h names values) hRun
          exact hFirst.trans (ih after)

theorem changed_insertBatches (h : ∀ names values, allowed (.insertRow names values))
    (names : List Text) (next : Option Int) (db : Database) (pieces : List (List (List Value))) :
    Changed name allowed db (insertBatches name names next db pieces).2 := by
  have hRows : Changed name allowed db
      (insertEach name names db (keyed next pieces.flatten)).2 := changed_insertEach h names db _
  rw [insertBatches_eq]
  rcases hRun : insertEach name names db (keyed next pieces.flatten) with ⟨e | _, after⟩
  all_goals
    rw [hRun] at hRows
    exact hRows

/-- An insertion in batches is a run of single insertions, however far it gets. -/
theorem changed_insertRows (h : ∀ names values, allowed (.insertRow names values))
    (names : List Text) (size : Int) (db : Database) (rows : List (List Value)) :
    Changed name allowed db (db.insertRows size name names rows).2 := by
  rw [insertRows]
  split
  · exact .refl db
  · split
    · exact .refl db
    · exact changed_insertBatches h _ _ db _

/-- A migration is a run of added and retyped columns, however far it gets. -/
theorem changed_migrate {plan : MigrationPlan}
    (hAdd : ∀ column ∈ plan.added, ∀ type, allowed (.addColumn ⟨column.1, type⟩))
    (hAlter : ∀ column ∈ plan.updated, ∀ type, column.2.native = .ok type →
      allowed (.alterColumn column.1 type))
    (db : Database) : Changed name allowed db (db.migrate name plan).2 := by
  rw [migrate]
  split
  · have hAdded : Changed name allowed db (db.addColumns name plan.added).2 :=
      changed_addColumns hAdd db
    rcases hRun : db.addColumns name plan.added with ⟨e | _, after⟩
    · rw [hRun] at hAdded
      exact hAdded
    · rw [hRun] at hAdded
      exact hAdded.trans (changed_alterColumns hAlter after)
  · exact .refl db

/-- An append, whether or not it succeeds, is a run of statements: the changes of its plan, rows to insert
and the key. -/
theorem changed_appendTable {options : LoadOptions} {table : CsvTable}
    (hInsert : ∀ names values, allowed (.insertRow names values))
    (hKey : allowed (.addNumbers rowKeyName)) (db : Database)
    (hPlan : ∀ plan, MigrationPlan.make options.separators (db.knownTypes name) table.header
      table.rows options.createKeys = .ok plan →
        (∀ column ∈ plan.added, ∀ type, allowed (.addColumn ⟨column.1, type⟩)) ∧
        ∀ column ∈ plan.updated, ∀ type, column.2.native = .ok type →
          allowed (.alterColumn column.1 type)) :
    Changed name allowed db (db.appendTable options name table).2 := by
  rw [appendTable]
  split
  · exact .refl db
  · rename_i plan hMake
    have hMigrated : Changed name allowed db (db.migrate name plan).2 :=
      changed_migrate (hPlan plan hMake).1 (hPlan plan hMake).2 db
    rcases hRun : db.migrate name plan with ⟨e | _, migrated⟩
    · rw [hRun] at hMigrated
      exact hMigrated
    rw [hRun] at hMigrated
    dsimp only
    split
    · exact hMigrated
    · rename_i rows hRead
      have hInserted := hMigrated.trans
        (changed_insertRows hInsert plan.columnNames options.batchSize migrated rows)
      rcases hRun : migrated.insertRows options.batchSize name plan.columnNames rows with
        ⟨e | count, inserted⟩
      · rw [hRun] at hInserted
        exact hInserted
      rw [hRun] at hInserted
      dsimp only
      split
      · cases hNumbers : inserted.addRowKey name with
        | error e => exact hInserted
        | ok numbered => exact .step (s := .addNumbers rowKeyName) hInserted hKey hNumbers
      · exact hInserted

end Database

end CsvIntake
