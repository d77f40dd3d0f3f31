import CsvIntake.Proofs.RowKeys

/-! The row counts of the registry. An append counts its rows only when it has succeeded, and what it inserted
before a row that the table does not take stays in the table, as do the rows that a registry could not be told
of. Main statement: for loads that use the registry, the count of a table and the rows that such appends left
behind in it add up to its rows. -/
namespace CsvIntake

namespace Database

/-- The number of rows of the table of this name, zero if there is none. -/
def rowCount (db : Database) (name : Text) : Nat := (db.table? name).elim 0 fun t => t.rows.length

variable {name other : Text} {others : OtherTables name} {t u : Table}

/-- The rows counted under a name are those of the one table that bears it. -/
theorem rowCount_around (hName : t.name = name) : (others.around t).rowCount name = t.rows.length := by
  rw [rowCount, table?_around hName, Option.elim_some]

/-- Other names have the same tables, whatever has become of this one. -/
theorem table?_around_of_ne (ht : t.name = name) (hu : u.name = name) (hOther : other ≠ name) :
    (others.around u).table? other = (others.around t).table? other := by
  have hApart : (name == other) = false := beq_eq_false_iff_ne.mpr (Ne.symm hOther)
  simp only [table?, OtherTables.around, List.find?_append, List.find?_cons, ht, hu, hApart]

/-- A name without a table is another one, and had none before. -/
theorem of_table?_around_eq_none (ht : t.name = name) (hu : u.name = name)
    (hNone : (others.around u).table? other = none) :
    other ≠ name ∧ (others.around t).table? other = none := by
  have hOther : other ≠ name := by
    rintro rfl
    rw [table?_around hu] at hNone
    cases hNone
  exact ⟨hOther, by rwa [← table?_around_of_ne ht hu hOther]⟩

theorem table?_eq_none_of_denoted? {db : Database} (hFree : db.denoted? name = none) :
    db.table? name = none := by
  rw [table?, List.find?_eq_none]
  intro t ht hName
  obtain rfl := beq_iff_eq.mp hName
  exact List.find?_eq_none.mp hFree t ht (sameIdentifier_self t.name)

/-- A table that no name denoted is behind the others. -/
theorem table?_around_othersOfFree {db : Database} (hFree : db.denoted? name = none)
    (ht : t.name = name) (other : Text) :
    ((othersOfFree hFree).around t).table? other =
      if other = name then some t else db.table? other := by
  by_cases hOther : other = name
  · rw [if_pos hOther, hOther, table?_around ht]
  · have hApart : (name == other) = false := beq_eq_false_iff_ne.mpr (Ne.symm hOther)
    rw [if_neg hOther, table?, table?, OtherTables.around, othersOfFree, List.find?_append,
      List.find?_cons, ht, hApart, List.find?_nil, Option.or_none]

end Database

namespace Workspace

/-- The rows that an append with some answer has left behind: if an insertion failed, those above the one that
could not be inserted, and if the registry could not be written after it, all of them. -/
def leftBehind {α : Type} (before : Database) (name : Text) (answer : Except Error α)
    (after : Database) : Nat :=
  match answer with
  | .error (.insertFailed _ _) => after.rowCount name - before.rowCount name
  | .error (.registryFailed _) => after.rowCount name - before.rowCount name
  | _ => 0

/-- The rows that an append leaves behind without counting them. -/
def uncountedRows (w : Workspace) (options : LoadOptions) (file : UploadFile) (name : Text) : Nat :=
  leftBehind w.database name (w.append options true file name).1
    (w.append options true file name).2.database

/-- A workspace after any loads that use the registry, whether or not they succeeded, and the number of
uncounted rows that they left behind in each table. -/
inductive LaterRegistered (w : Workspace) : Workspace → (Text → Nat) → Prop where
  | refl : LaterRegistered w w fun _ => 0
  | create {v : Workspace} {uncounted : Text → Nat} (prior : LaterRegistered w v uncounted)
      (options : LoadOptions) (start : Text) (file : UploadFile) :
      LaterRegistered w (v.create options true start file).2 uncounted
  | append {v : Workspace} {uncounted : Text → Nat} (prior : LaterRegistered w v uncounted)
      (options : LoadOptions) (file : UploadFile) (name : Text) :
      LaterRegistered w (v.append options true file name).2
        (Function.update uncounted name (uncounted name + v.uncountedRows options file name))

theorem LaterRegistered.later {w v : Workspace} {uncounted : Text → Nat}
    (run : LaterRegistered w v uncounted) : Later w v := by
  induction run with
  | refl => exact .refl
  | create prior options start file ih => exact ih.create options true start file
  | append prior options file name ih => exact ih.append options true file name

end Workspace

/-- An entry of an upload counts the rows of its table, up to those that are known to be uncounted. -/
def Database.IsCounted (db : Database) (uncounted : Text → Nat) (entry : RegistryEntry) : Prop :=
  entry.isUpload = true ∧ ∃ t, db.table? entry.tableName = some t ∧
    entry.rowCount + uncounted entry.tableName = t.rows.length

/-- All entries count rows, and a name without a table has no uncounted ones. -/
structure CountsRows (db : Database) (registry : Registry) (uncounted : Text → Nat) : Prop where
  entries : ∀ entry ∈ registry, db.IsCounted uncounted entry
  absent : ∀ name, db.table? name = none → uncounted name = 0

namespace CountsRows

variable {name : Text} {others : OtherTables name} {t u : Table} {registry : Registry}
  {uncounted : Text → Nat} {count : Nat}

/-- The rows that an append leaves behind. -/
theorem fail (h : CountsRows (others.around t) registry uncounted) (ht : t.name = name)
    (hGrown : t.Grown count u) :
    CountsRows (others.around u) registry
      (Function.update uncounted name (uncounted name + count)) := by
  have hu : u.name = name := hGrown.name.trans ht
  constructor
  · intro entry hEntry
    obtain ⟨hUpload, v, hTable, hCount⟩ := h.entries entry hEntry
    refine ⟨hUpload, ?_⟩
    by_cases hSame : entry.tableName = name
    · rw [hSame, Database.table?_around ht, Option.some.injEq] at hTable
      refine ⟨u, by rw [hSame, Database.table?_around hu], ?_⟩
      rw [hSame] at hCount ⊢
      rw [Function.update_self, hGrown.length_rows, hTable]
      omega
    · refine ⟨v, by rw [Database.table?_around_of_ne ht hu hSame, hTable], ?_⟩
      rw [Function.update_of_ne hSame, hCount]
  · intro other hNone
    obtain ⟨hOther, hBefore⟩ := Database.of_table?_around_eq_none ht hu hNone
    rw [Function.update_of_ne hOther, h.absent other hBefore]

/-- The rows of a successful append, which are counted. -/
theorem recordAppend (h : CountsRows (others.around t) registry uncounted) (ht : t.name = name)
    (hGrown : t.Grown count u) :
    CountsRows (others.around u) (registry.recordAppend name count) uncounted := by
  have hu : u.name = name := hGrown.name.trans ht
  constructor
  · intro entry hEntry
    rw [Registry.recordAppend, List.mem_map] at hEntry
    obtain ⟨known, hKnown, rfl⟩ := hEntry
    obtain ⟨hUpload, v, hTable, hCount⟩ := h.entries known hKnown
    by_cases hSame : known.tableName = name
    · rw [if_pos (by rw [hSame, hUpload, beq_self_eq_true]; rfl)]
      rw [hSame, Database.table?_around ht, Option.some.injEq] at hTable
      refine ⟨hUpload, u, ?_, ?_⟩
      · rw [hSame, Database.table?_around hu]
      · rw [hGrown.length_rows, hTable]
        dsimp only
        omega
    · rw [if_neg (by simp [hSame])]
      exact ⟨hUpload, v, by rw [Database.table?_around_of_ne ht hu hSame, hTable], hCount⟩
  · intro other hNone
    exact h.absent other (Database.of_table?_around_eq_none ht hu hNone).2

/-- A new table without an entry. -/
theorem addTable {db : Database} (h : CountsRows db registry uncounted)
    (hFree : db.denoted? name = none) (ht : t.name = name) :
    CountsRows ((Database.othersOfFree hFree).around t) registry uncounted := by
  have hNone := Database.table?_eq_none_of_denoted? hFree
  constructor
  · intro entry hEntry
    obtain ⟨hUpload, v, hTable, hRows⟩ := h.entries entry hEntry
    refine ⟨hUpload, v, ?_, hRows⟩
    rw [Database.table?_around_othersOfFree hFree ht, if_neg, hTable]
    intro hSame
    rw [hSame, hNone] at hTable
    cases hTable
  · intro other hOther
    rw [Database.table?_around_othersOfFree hFree ht] at hOther
    split at hOther
    · cases hOther
    · exact h.absent other hOther

/-- A new table with its entry. -/
theorem add {db : Database} (h : CountsRows db registry uncounted) (hFree : db.denoted? name = none)
    (ht : t.name = name) {entry : RegistryEntry} (hUpload : entry.isUpload = true)
    (hName : entry.tableName = name) (hCount : entry.rowCount = t.rows.length) :
    CountsRows ((Database.othersOfFree hFree).around t) (registry ++ [entry]) uncounted := by
  have hAdded := h.addTable hFree ht
  refine ⟨fun other hOther => ?_, hAdded.absent⟩
  rcases List.mem_append.mp hOther with hOther | hOther
  · exact hAdded.entries other hOther
  · obtain rfl := List.mem_singleton.mp hOther
    refine ⟨hUpload, t, ?_, ?_⟩
    · rw [Database.table?_around_othersOfFree hFree ht, if_pos hName]
    · rw [hName, h.absent name (Database.table?_eq_none_of_denoted? hFree), hCount]
      simp

end CountsRows

namespace Workspace

/-- A creation enters a new table with the number of its rows, or adds it without an entry, or does nothing to
tables and entries. -/
theorem countsRows_create {w : Workspace} {uncounted : Text → Nat}
    (h : CountsRows w.database w.registry uncounted) (options : LoadOptions) (start : Text)
    (file : UploadFile) :
    CountsRows (w.create options true start file).2.database
      (w.create options true start file).2.registry uncounted := by
  have hOutcome := w.create_outcome options true start file
  generalize w.create options true start file = result at hOutcome ⊢
  cases hOutcome with
  | failed e clock => exact h
  | @unregistered name _ schema values count _ _ hPrepare hFill hUsed hRefused =>
      obtain ⟨table, hRead, rfl, _⟩ := prepareCreate_eq_ok hPrepare
      rcases Database.createFilled_detected w.database options.batchSize name options.separators
        (keylessHeader_of_readUpload hRead) table.rows values with
        ⟨e, hFailed⟩ | ⟨hFree, declared, n, t, hGrown, hFilled⟩
      · rw [hFailed] at hFill
        cases hFill
      · obtain ⟨_, rfl⟩ := Prod.mk.inj (hFilled.symm.trans hFill)
        exact h.addTable hFree hGrown.name
  | @created name _ schema values count _ _ hName hPrepare hFill hUsed hUnused =>
      obtain ⟨_, _, rfl⟩ := Registry.add_eq_ok_iff.mp (hUsed rfl)
      obtain ⟨table, hRead, rfl, _⟩ := prepareCreate_eq_ok hPrepare
      rcases Database.createFilled_detected w.database options.batchSize (Text.lowerAscii name)
        options.separators (keylessHeader_of_readUpload hRead) table.rows values with
        ⟨e, hFailed⟩ | ⟨hFree, declared, n, t, hGrown, hFilled⟩
      · rw [hFailed] at hFill
        cases hFill
      · obtain ⟨hCount, rfl⟩ := Prod.mk.inj (hFilled.symm.trans hFill)
        obtain rfl := Except.ok.inj hCount
        refine h.add hFree hGrown.name rfl rfl ?_
        rw [hGrown.length_rows]
        simp [newEntry]

/-- A table of one name has grown by so many rows. -/
theorem rowCount_sub_of_grown {name : Text} {others : OtherTables name} {t u : Table} {count : Nat}
    (hName : t.name = name) (hGrown : t.Grown count u) :
    (others.around u).rowCount name - (others.around t).rowCount name = count := by
  rw [Database.rowCount_around hName, Database.rowCount_around (hGrown.name.trans hName),
    hGrown.length_rows, Nat.add_sub_cancel_left]

/-- An append counts the rows by which the table grows, or leaves them behind. -/
theorem countsRows_append {w : Workspace} {uncounted : Text → Nat}
    (hTables : w.database.HoldsOnly Table.IsNumberedUpload)
    (h : CountsRows w.database w.registry uncounted) (options : LoadOptions) (file : UploadFile)
    (name : Text) :
    CountsRows (w.append options true file name).2.database
      (w.append options true file name).2.registry
      (Function.update uncounted name (uncounted name + w.uncountedRows options file name)) := by
  rw [uncountedRows]
  have hOutcome := w.append_outcome options true file name
  generalize w.append options true file name = result at hOutcome ⊢
  cases hOutcome with
  | refused e hRefusal =>
      have hNone : leftBehind w.database name (.error e : Except Error LoadStats) w.database = 0 := by
        cases e with
        | insertFailed reason status => cases hRefusal
        | registryFailed reason => cases hRefusal
        | _ => rfl
      rwa [hNone, Nat.add_zero, Function.update_eq_self]
  | @failed source e written hExists hRead hAppend =>
      obtain ⟨others, t, hAround, hName, ht⟩ := hTables.exists_around hExists
      obtain ⟨count, u, hGrown, hAfter, _, hFailed⟩ := Database.exists_appendTable_around
        others ht.isUpload hName options (keylessHeader_of_readUpload hRead)
      rw [hAround] at h hAppend
      rw [hAppend] at hAfter hFailed
      obtain rfl := hAfter
      have hCount : leftBehind (others.around t) name (.error e : Except Error LoadStats)
          (others.around u) = count := by
        cases e with
        | insertFailed reason status => exact rowCount_sub_of_grown hName hGrown
        | registryFailed reason => exact rowCount_sub_of_grown hName hGrown
        | _ => exact (hFailed _ rfl (by simp)).symm
      rw [hAround, hCount]
      exact h.fail hName hGrown
  | @unrecorded source plan count written reason hExists hRead hAppend hUsed hFault =>
      obtain ⟨others, t, hAround, hName, ht⟩ := hTables.exists_around hExists
      obtain ⟨_, u, hGrown, hAfter, _⟩ := Database.exists_appendTable_around
        others ht.isUpload hName options (keylessHeader_of_readUpload hRead)
      rw [hAround] at h hAppend
      rw [hAppend] at hAfter
      obtain rfl := hAfter
      rw [hAround, leftBehind, rowCount_sub_of_grown hName hGrown]
      exact h.fail hName hGrown
  | @appended source plan count written hExists hUpload hRead hAppend hStore =>
      obtain ⟨others, t, hAround, hName, ht⟩ := hTables.exists_around hExists
      obtain ⟨_, u, hGrown, hAfter, hCount, _⟩ := Database.exists_appendTable_around
        others ht.isUpload hName options (keylessHeader_of_readUpload hRead)
      rw [hAround] at h hAppend
      rw [hAppend] at hAfter hCount
      obtain rfl := hAfter
      obtain rfl := hCount plan count rfl
      have hNone : uncounted name + 0 = uncounted name := Nat.add_zero _
      change CountsRows (others.around u) (w.registry.recordAppend name count)
        (Function.update uncounted name (uncounted name + 0))
      rw [hNone, Function.update_eq_self]
      exact h.recordAppend hName hGrown

/-- Starting with nothing, whatever becomes of the loads, if all use the registry: every entry is of an upload that
has a table, and its count and the rows that failed appends left behind in the table add up to the rows of
the table. -/
theorem rowCount_add_uncounted {clock : Clock} {w : Workspace} {uncounted : Text → Nat}
    (run : LaterRegistered ⟨.empty, [], clock⟩ w uncounted) :
    ∀ entry ∈ w.registry, entry.isUpload = true ∧ ∃ t, w.database.table? entry.tableName = some t ∧
      entry.rowCount + uncounted entry.tableName = t.rows.length := by
  have hCounts : CountsRows w.database w.registry uncounted := by
    induction run with
    | refl => exact ⟨fun _ hMem => (by cases hMem), fun _ _ => rfl⟩
    | create prior options start file ih => exact countsRows_create ih options start file
    | append prior options file name ih =>
        exact countsRows_append prior.later.holdsOnly ih options file name
  exact hCounts.entries

/-- A table with one row, an append that fails at its second row, and one that succeeds: two rows are counted, one
is not. -/
theorem rowCount_add_uncounted_after_failure :
    ∃ (clock : Clock) (created failing file : UploadFile) (v u w : Workspace)
      (uncounted : Text → Nat) (entry : RegistryEntry) (t : Table),
      created.content = "n\n2\n".toUTF8 ∧
      failing.content = "n\n3\n9223372036854775808\n".toUTF8 ∧ file.content = "n\n4\n".toUTF8 ∧
      v = (create ⟨.empty, [], clock⟩ {} true ['p'] created).2 ∧
      u = (v.append {} true failing entry.tableName).2 ∧
      w = (u.append {} true file entry.tableName).2 ∧
      LaterRegistered ⟨.empty, [], clock⟩ w uncounted ∧ w.registry = [entry] ∧ entry.rowCount = 2 ∧
      w.database.table? entry.tableName = some t ∧ t.rows.length = 3 ∧
      uncounted entry.tableName = 1 := by
  let created : UploadFile := { name := ['f'], content := "n\n2\n".toUTF8 }
  let failing : UploadFile := { name := ['g'], content := "n\n3\n9223372036854775808\n".toUTF8 }
  let file : UploadFile := { name := ['h'], content := "n\n4\n".toUTF8 }
  let name : Text := "pf_10101000001".toList
  let v := (create ⟨.empty, [], .first⟩ {} true ['p'] created).2
  let u := (v.append {} true failing name).2
  let w := (u.append {} true file name).2
  have hEntries : w.registry.map (fun entry => (entry.tableName, entry.rowCount)) = [(name, 2)] := by
    decide +kernel
  have hRows : (w.database.table? name).map (fun t => t.rows.length) = some 3 := by decide +kernel
  obtain ⟨entry, hRegistry, hEntry⟩ := List.map_eq_singleton_iff.mp hEntries
  obtain ⟨hName, hCount⟩ := Prod.mk.inj hEntry
  have run : LaterRegistered ⟨.empty, [], .first⟩ w _ :=
    .append (.append (.create .refl {} ['p'] created) {} failing name) {} file name
  obtain ⟨_, t, hTable, hSum⟩ := rowCount_add_uncounted run entry (by simp [hRegistry])
  have hThree : t.rows.length = 3 := by
    rw [hName] at hTable
    simpa [hTable] using hRows
  rw [hCount, hThree] at hSum
  refine ⟨.first, created, failing, file, v, u, w, _, entry, t, rfl, rfl, rfl, rfl, ?_, ?_, run, hRegistry,
    hCount, hTable, hThree, by omega⟩
  · rw [hName]
  · rw [hName]

/-- The count alone may fall short: after a failed append the table has two rows, of which one is counted. -/
theorem rowCount_ne_after_failed_insertion :
    ∃ (clock : Clock) (created failing : UploadFile) (v w : Workspace) (entry : RegistryEntry)
      (t : Table),
      created.content = "n\n2\n".toUTF8 ∧
      failing.content = "n\n3\n9223372036854775808\n".toUTF8 ∧
      v = (create ⟨.empty, [], clock⟩ {} true ['p'] created).2 ∧
      w = (v.append {} true failing entry.tableName).2 ∧
      entry ∈ w.registry ∧ entry.isUpload = true ∧ w.database.table? entry.tableName = some t ∧
      entry.rowCount = 1 ∧ t.rows.length = 2 := by
  let created : UploadFile := { name := ['f'], content := "n\n2\n".toUTF8 }
  let failing : UploadFile := { name := ['g'], content := "n\n3\n9223372036854775808\n".toUTF8 }
  let name : Text := "pf_10101000001".toList
  let v := (create ⟨.empty, [], .first⟩ {} true ['p'] created).2
  let w := (v.append {} true failing name).2
  have hEntries : w.registry.map
      (fun entry => (entry.tableName, entry.isUpload, entry.rowCount)) = [(name, true, 1)] := by
    decide +kernel
  have hRows : (w.database.table? name).map (fun t => t.rows.length) = some 2 := by decide +kernel
  obtain ⟨entry, hRegistry, hEntry⟩ := List.map_eq_singleton_iff.mp hEntries
  obtain ⟨hName, hUpload, hCount⟩ : entry.tableName = name ∧ entry.isUpload = true ∧
      entry.rowCount = 1 := by
    simpa using hEntry
  obtain ⟨t, hTable, hTwo⟩ := Option.map_eq_some_iff.mp hRows
  refine ⟨.first, created, failing, v, w, entry, t, rfl, rfl, rfl, ?_, ?_, hUpload, ?_, hCount, hTwo⟩
  · rw [hName]
  · simp [hRegistry]
  · rw [hName, hTable]

end Workspace

end CsvIntake
