import CsvIntake.Proofs.RowKeys

/-! Cells and the types of their columns. What a column has taken in once it takes in again as it is, so that a
cell has the type of a column if the column's conversion leaves it. Every statement of a load keeps this, and
so every table that loads have made holds cells of the types of its columns. -/
namespace CsvIntake

namespace NativeType

/-- A whole number has a cell in a `BIGINT` exactly when it fits. -/
theorem bigintCell?_eq_some_iff {n : Int} {cell : Cell} :
    bigintCell? n = some cell ↔ fitsBigint n = true ∧ cell = .integer n := by
  cases hFits : fitsBigint n <;> simp [bigintCell?, hFits, eq_comm]

/-- Converting a cell again does nothing. -/
theorem convert?_of_convert? {type : NativeType} {cell stored : Cell}
    (h : type.convert? cell = some stored) : type.convert? stored = some stored := by
  have hBigint : ∀ n, bigintCell? n = some stored → NativeType.bigint.convert? stored = some stored := by
    intro n hn
    obtain ⟨hFits, rfl⟩ := bigintCell?_eq_some_iff.mp hn
    exact bigintCell?_eq_some_iff.mpr ⟨hFits, rfl⟩
  cases type with
  | bigint =>
      cases cell with
      | integer n => exact hBigint n h
      | boolean b =>
          refine hBigint b.toNat ?_
          rw [← h]
          cases b <;> decide
      | double x =>
          obtain ⟨n, _, hn⟩ := Option.bind_eq_some_iff.mp h
          exact hBigint n hn
      | varchar s =>
          obtain ⟨n, _, hn⟩ := Option.bind_eq_some_iff.mp h
          exact hBigint n hn
      | null =>
          obtain rfl := Option.some.inj h
          rfl
      | _ => cases h
  | _ =>
      -- a cell of the kind of the type, which is stored as it is
      cases cell <;>
        simp only [convert?, Option.map_eq_some_iff, Option.some.injEq, reduceCtorEq] at h <;>
        first
        | (subst h; rfl)
        | (obtain ⟨_, _, rfl⟩ := h; rfl)

@[simp] theorem convert?_null (type : NativeType) : type.convert? .null = some .null := by
  cases type <;> rfl

end NativeType

namespace Table

/-- Every row has one cell for each column, of its type. -/
def IsTyped (t : Table) : Prop :=
  ∀ row ∈ t.rows, List.Forall₂ (fun c cell => c.type.convert? cell = some cell) t.columns row

namespace IsTyped

variable {t after : Table}

/-- A stored row has the types of the columns. -/
theorem of_insertRow (ht : t.IsTyped) {names : List Text} {values : List Value}
    (h : t.insertRow names values = .ok after) : after.IsTyped := by
  rw [insertRow_eq] at h
  split at h
  · cases h
  · rename_i row hRow
    obtain rfl := Except.ok.inj h
    intro other hMem
    rcases List.mem_append.mp hMem with hMem | hMem
    · exact ht other hMem
    · obtain rfl := List.mem_singleton.mp hMem
      rw [rowFor?] at hRow
      split at hRow
      · cases hRow
      · rw [newRow?, mapM_eq_some_iff] at hRow
        refine hRow.imp fun c cell hCell => ?_
        split at hCell
        · exact NativeType.convert?_of_convert? hCell
        · obtain rfl := Option.some.inj hCell
          exact c.type.convert?_null

theorem extended (ht : t.IsTyped) (added : List Column) : (t.extended added).IsTyped := by
  have hNew : List.Forall₂ (fun c cell => c.type.convert? cell = some cell) added
      (List.replicate added.length .null) := by
    induction added with
    | nil => exact .nil
    | cons c added ih => exact .cons c.type.convert?_null ih
  intro row hMem
  obtain ⟨old, hOld, rfl⟩ := List.mem_map.mp hMem
  exact List.rel_append (ht old hOld) hNew

/-- Cast cells have the types of the retyped columns. -/
theorem of_retyped (ht : t.IsTyped) {updated : Schema} (h : Retyped updated t after) : after.IsTyped := by
  intro cells hMem
  obtain ⟨k, hk⟩ := List.mem_iff_getElem?.mp hMem
  obtain ⟨row, hRow, hLength, hCells⟩ := exists_left_of_forall₂ h.rows hk
  have hTyped := ht row (List.mem_of_getElem? hRow)
  refine forall₂_iff_getElem?.mpr ⟨?_, fun i c cell hc hCell => ?_⟩
  · rw [h.length_columns, hTyped.length_eq, hLength]
  · rw [hCells i c hc] at hCell
    cases hUpdate : updated.lookup c.name with
    | none =>
        rw [castCell?_of_not_updated hUpdate, Option.bind_fun_some] at hCell
        exact (forall₂_iff_getElem?.mp hTyped).2 i c cell (h.kept i c hc hUpdate) hCell
    | some u =>
        obtain ⟨old, _, hCast⟩ := Option.bind_eq_some_iff.mp hCell
        rw [castCell?, hUpdate, if_pos Option.isSome_some] at hCast
        exact NativeType.convert?_of_convert? hCast

end IsTyped

/-- An upload whose cells have the types of their columns. -/
structure IsTypedUpload (t : Table) : Prop where
  isUpload : t.IsUpload
  typed : t.IsTyped

/-- Loading keeps the types. -/
theorem IsTypedUpload.of_run {t after : Table} (ht : t.IsTypedUpload) {s : Statement} (hs : s.IsLoading)
    (h : s.run t = .ok after) : after.IsTypedUpload := by
  refine ⟨ht.isUpload.of_run hs h, ?_⟩
  cases s with
  | insertRow names values => exact ht.typed.of_insertRow h
  | addColumn column =>
      obtain rfl := addColumn_eq_ok h
      exact ht.typed.extended _
  | alterColumn name type =>
      exact ht.typed.of_retyped (Retyped.of_alterColumn ht.isUpload hs.1 type.native_meaning h)
  | addNumbers name =>
      -- the table has the key already
      obtain rfl := hs
      rw [Statement.run, addNumbers, ht.isUpload.position?_rowKeyName] at h
      cases h

theorem IsTypedUpload.new {name : Text} {declared : List Column} (h : IsUpload ⟨name, declared, []⟩) :
    IsTypedUpload ⟨name, declared, []⟩ :=
  ⟨h, fun _ hMem => nomatch hMem⟩

end Table

namespace Database

variable {name : Text} {others : OtherTables name}

/-- Creating a table, or failing to, keeps the cells of every table typed. -/
theorem HoldsOnly.createFilled_of_typed {db : Database} (h : db.HoldsOnly Table.IsTypedUpload) (size : Int)
    (name : Text) (separators : NumberSeparators) {header : Row} (hHeader : KeylessHeader header)
    (rows : List Row) (values : List (List Value)) :
    (db.createFilled size name (DetectedSchema.detect separators header rows) values).2.HoldsOnly
      Table.IsTypedUpload := by
  rcases createFilled_cases db size name (DetectedSchema.detect separators header rows) values with
    ⟨e, hFailed⟩ | ⟨hFree, declared, count, filled, hColumns, hInsert, hFilled⟩
  · rwa [hFailed]
  · have hRun : Changed name Table.Statement.IsLoading ((othersOfFree hFree).around ⟨name, declared, []⟩)
        (((othersOfFree hFree).around ⟨name, declared, []⟩).insertRows size name
          (NameMap.names (DetectedSchema.detect separators header rows).extant) values).2 :=
      changed_insertRows (fun _ _ => trivial) _ size _ values
    rw [hInsert] at hRun
    obtain ⟨t, hAround, hName, ht⟩ := hRun.exists_around (fun s u v hs hu hv => hu.of_run hs hv) rfl
      (Table.IsTypedUpload.new (isUpload_of_detect hHeader rows hColumns))
    rw [hFilled]
    dsimp only at hAround ⊢
    rw [hAround]
    exact h.add hFree hName ht

/-- Appending, or failing to, keeps the cells of every table typed. -/
theorem HoldsOnly.appendTable_of_typed {db : Database} (h : db.HoldsOnly Table.IsTypedUpload)
    (options : LoadOptions) (hExists : (db.table? name).isSome) {table : CsvTable}
    (hHeader : KeylessHeader table.header) :
    (db.appendTable options name table).2.HoldsOnly Table.IsTypedUpload := by
  obtain ⟨others, t, rfl, hName, ht⟩ := h.exists_around hExists
  obtain ⟨u, hAfter, hu, hTyped⟩ :=
    (changed_appendTable_of_upload others ht.isUpload hName options hHeader).exists_around
      (fun s u v hs hu hv => hu.of_run hs hv) hName ht
  rw [hAfter]
  exact h.replace hName hu hTyped

end Database

/-- From an empty database on, every table has the shape of an upload and holds cells of the types of its columns. -/
theorem Workspace.Later.holdsOnly_typed {clock : Clock} {w : Workspace}
    (run : Later ⟨.empty, [], clock⟩ w) : w.database.HoldsOnly Table.IsTypedUpload :=
  @Later.database_induction (Database.HoldsOnly Table.IsTypedUpload) _ w run Database.holdsOnly_empty
    (fun _ size name separators _ values hDb hHeader =>
      hDb.createFilled_of_typed size name separators hHeader _ values)
    fun _ options _ _ hDb hExists hHeader => hDb.appendTable_of_typed options hExists hHeader

end CsvIntake
