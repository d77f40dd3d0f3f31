import CsvIntake.Proofs.UploadTables

/-! Changing the columns of a table. Columns are added with null in every row; columns that take another
type have their cells converted, and nothing else changes. So every statement of a load keeps the shape of
the tables made from files. -/
namespace CsvIntake

namespace Table

/-- The cell of a column that now has its type by an update, or as it was. -/
def castCell? (updated : Schema) (c : Column) (cell : Cell) : Option Cell :=
  if (updated.lookup c.name).isSome then c.type.convert? cell else some cell

theorem castCell?_of_not_updated {updated : Schema} {c : Column} (h : updated.lookup c.name = none) :
    castCell? updated c = some := by
  funext cell
  simp [castCell?, h]

theorem castCell?_append_left {first second : Schema} {c : Column}
    (h : second.lookup c.name = none) : castCell? (first ++ second) c = castCell? first c := by
  funext cell
  rw [castCell?, castCell?, List.lookup_append, h, Option.or_none]

theorem castCell?_append_right {first second : Schema} {c : Column}
    (h : first.lookup c.name = none) : castCell? (first ++ second) c = castCell? second c := by
  funext cell
  rw [castCell?, castCell?, List.lookup_append, h, Option.none_or]

/-- The columns of a schema have taken its types, with their cells; nothing else is different. -/
structure Retyped (updated : Schema) (t after : Table) : Prop where
  name : after.name = t.name
  names : after.columns.map Column.name = t.columns.map Column.name
  kept : ∀ (i : Nat) c, after.columns[i]? = some c → updated.lookup c.name = none →
    t.columns[i]? = some c
  types : ∀ c ∈ after.columns, ∀ u, updated.lookup c.name = some u → u.native = .ok c.type
  rows : List.Forall₂ (fun row cells => cells.length = row.length ∧
    ∀ (i : Nat) c, after.columns[i]? = some c → cells[i]? = (row[i]?).bind (castCell? updated c))
    t.rows after.rows

/-- A column that is retyped keeps its place and its name, and each of its cells is converted. -/
theorem alterColumn_eq_ok {t after : Table} {name : Text} {type : NativeType}
    (h : t.alterColumn name type = .ok after) :
    ∃ place rows, t.position? name = some place ∧
      List.Forall₂ (fun row cells => convertAt? type place row = some cells) t.rows rows ∧
      after = ⟨t.name, t.columns.modify place ({ · with type }), rows⟩ := by
  rw [alterColumn] at h
  split at h
  · cases h
  · rename_i place hPlace
    split at h
    · cases h
    · rename_i rows hRows
      exact ⟨place, rows, hPlace, mapM_eq_some_iff.mp hRows, (Except.ok.inj h).symm⟩

namespace Retyped

variable {t between after : Table}

theorem refl (t : Table) : Retyped [] t t := by
  refine ⟨rfl, rfl, fun _ _ hc _ => hc, fun _ _ _ hu => (by cases hu), ?_⟩
  refine List.forall₂_same.mpr fun row _ => ⟨rfl, fun i c _ => ?_⟩
  cases row[i]? <;> simp [castCell?]

/-- Updates of different columns add up. -/
theorem trans {first second : Schema} (left : Retyped first t between)
    (right : Retyped second between after)
    (hApart : ∀ name u, first.lookup name = some u → second.lookup name = none) :
    Retyped (first ++ second) t after := by
  have hLeft : ∀ (i : Nat) c u, after.columns[i]? = some c → first.lookup c.name = some u →
      between.columns[i]? = some c := fun i c u hc hu =>
    right.kept i c hc (hApart c.name u hu)
  constructor
  · rw [right.name, left.name]
  · rw [right.names, left.names]
  · intro i c hc hNone
    rw [List.lookup_append, Option.or_eq_none_iff] at hNone
    exact left.kept i c (right.kept i c hc hNone.2) hNone.1
  · intro c hc u hu
    rw [List.lookup_append, Option.or_eq_some_iff] at hu
    rcases hu with hu | ⟨_, hu⟩
    · obtain ⟨i, hi⟩ := List.mem_iff_getElem?.mp hc
      exact left.types c (List.mem_of_getElem? (hLeft i c u hi hu)) u hu
    · exact right.types c hc u hu
  · refine forall₂_comp left.rows right.rows fun row cells last hFirst hSecond => ?_
    refine ⟨hSecond.1.trans hFirst.1, fun i c hc => ?_⟩
    rw [hSecond.2 i c hc]
    cases hUpdate : first.lookup c.name with
    | some u =>
        have hLater := hApart c.name u hUpdate
        rw [hFirst.2 i c (hLeft i c u hc hUpdate), castCell?_append_left hLater,
          castCell?_of_not_updated hLater, Option.bind_fun_some]
    | none =>
        obtain ⟨d, hd, hName⟩ : ∃ d, between.columns[i]? = some d ∧ d.name = c.name := by
          have hNames := congrArg (·[i]?) right.names
          simp only [List.getElem?_map, hc, Option.map_some] at hNames
          obtain ⟨d, hd, hName⟩ := Option.map_eq_some_iff.mp hNames.symm
          exact ⟨d, hd, hName⟩
        rw [hFirst.2 i d hd, castCell?_of_not_updated (by rwa [hName]),
          castCell?_append_right hUpdate, Option.bind_fun_some]

theorem of_convertAt? {type : NativeType} {place : Nat} {row cells : List Cell}
    (h : convertAt? type place row = some cells) :
    cells.length = row.length ∧ ∀ i : Nat,
      cells[i]? = if i = place then (row[i]?).bind type.convert? else row[i]? := by
  obtain ⟨cell, hCell, rfl⟩ := Option.map_eq_some_iff.mp h
  refine ⟨List.length_set, fun i => ?_⟩
  by_cases hi : i = place
  · subst hi
    rw [if_pos rfl, List.getElem?_set_self']
    rw [List.getD_eq_getElem?_getD] at hCell
    cases hRow : row[i]? with
    | none => rfl
    | some old =>
        rw [hRow] at hCell
        exact hCell.symm
  · rw [if_neg hi, List.getElem?_set_ne (Ne.symm hi)]

/-- The columns after one of them took another type. -/
theorem of_modify_type (ht : t.IsUpload) {name : Text} (hName : IsColumnName name) {place : Nat}
    (hPlace : t.position? name = some place) {type : NativeType} {i : Nat} {c : Column}
    (hc : (t.columns.modify place ({ · with type }))[i]? = some c) :
    (c.name = name ↔ i = place) ∧
      ∃ d, t.columns[i]? = some d ∧ c = if i = place then { d with type } else d := by
  rw [List.getElem?_modify] at hc
  obtain ⟨d, hd, rfl⟩ := Option.map_eq_some_iff.mp hc
  have hPlaceName := ht.name_eq_iff hName hPlace hd
  by_cases hi : place = i
  · simp_all
  · simp_all [eq_comm]

/-- One retyped column is a schema of one column taken up. -/
theorem of_alterColumn (ht : t.IsUpload) {name : Text} (hName : IsColumnName name) {u : ColumnType}
    {type : NativeType} (hType : u.native = .ok type) (h : t.alterColumn name type = .ok after) :
    Retyped [(name, u)] t after := by
  obtain ⟨place, rows, hPlace, hRows, rfl⟩ := alterColumn_eq_ok h
  constructor
  · rfl
  · apply List.ext_getElem?
    intro i
    simp only [List.getElem?_map, List.getElem?_modify]
    cases t.columns[i]? with
    | none => rfl
    | some d => by_cases hi : place = i <;> simp [hi]
  · intro i c hc hNone
    obtain ⟨hPlaceName, d, hd, hValue⟩ := of_modify_type ht hName hPlace hc
    by_cases hi : i = place
    · simp [hPlaceName.mpr hi] at hNone
    · rwa [hValue, if_neg hi]
  · intro c hMem other hOther
    obtain ⟨i, hi⟩ := List.mem_iff_getElem?.mp hMem
    obtain ⟨hPlaceName, d, hd, hValue⟩ := of_modify_type ht hName hPlace hi
    rw [lookup_singleton] at hOther
    by_cases hSame : c.name = name
    · rw [if_pos hSame, Option.some.injEq] at hOther
      rw [← hOther, hType, hValue, if_pos (hPlaceName.mp hSame)]
    · simp [hSame] at hOther
  · refine hRows.imp fun row cells hCells => ?_
    obtain ⟨hLength, hCell⟩ := of_convertAt? hCells
    refine ⟨hLength, fun i c hc => ?_⟩
    obtain ⟨hPlaceName, d, _, hValue⟩ := of_modify_type ht hName hPlace hc
    rw [hCell]
    by_cases hi : i = place
    · have hCast : castCell? [(name, u)] c = type.convert? := by
        funext cell
        rw [castCell?, lookup_singleton, if_pos (hPlaceName.mpr hi), hValue, if_pos hi]
        rfl
      rw [if_pos hi, hCast]
    · rw [if_neg hi, castCell?_of_not_updated (by simp [lookup_singleton, hPlaceName, hi]),
        Option.bind_fun_some]

theorem length_columns {updated : Schema} (h : Retyped updated t after) :
    after.columns.length = t.columns.length := by
  have hLength := congrArg List.length h.names
  simpa using hLength

/-- New types for other columns than the key keep the shape of the table. -/
theorem isUpload {updated : Schema} (h : Retyped updated t after) (ht : t.IsUpload)
    (hKey : updated.lookup rowKeyName = none) : after.IsUpload := by
  constructor
  · have hHead := congrArg List.head? h.names
    rw [List.head?_map, List.head?_map, ht.key] at hHead
    obtain ⟨c, hc, hName⟩ := Option.map_eq_some_iff.mp hHead
    have hName : c.name = rowKeyName := hName
    rw [List.head?_eq_getElem?] at hc
    have hOld := h.kept 0 c hc (by rwa [hName])
    rw [List.head?_eq_getElem?, hc, ← hOld, ← List.head?_eq_getElem?, ht.key]
  · rw [h.names]
    exact ht.names
  · rw [h.names]
    exact ht.distinct
  · intro cells hMem
    obtain ⟨k, hk⟩ := List.mem_iff_getElem?.mp hMem
    obtain ⟨row, hRow, hLength, _⟩ := exists_left_of_forall₂ h.rows hk
    rw [hLength, ht.widths row (List.mem_of_getElem? hRow), h.length_columns]

end Retyped

/-- Retyping a column other than the key leaves an upload one. -/
theorem IsUpload.of_alterColumn {t after : Table} (ht : t.IsUpload) {name : Text}
    (hName : IsColumnName name) (hKey : name ≠ rowKeyName) {type : NativeType}
    (h : t.alterColumn name type = .ok after) : after.IsUpload := by
  refine (Retyped.of_alterColumn ht hName type.native_meaning h).isUpload ht ?_
  rw [lookup_singleton, if_neg (Ne.symm hKey)]

/-- Loading keeps the shape of a table. -/
theorem IsUpload.of_run {t after : Table} (ht : t.IsUpload) {s : Statement} (hs : s.IsLoading)
    (h : s.run t = .ok after) : after.IsUpload := by
  cases s with
  | insertRow names values => exact ht.of_insertRow h
  | addColumn column => exact ht.of_addColumn hs h
  | alterColumn name type => exact ht.of_alterColumn hs.1 hs.2 h
  | addNumbers name =>
      -- the table has the key already
      obtain rfl := hs
      rw [Statement.run, Table.addNumbers, ht.position?_rowKeyName] at h
      cases h

/-- The table with columns added at its end. -/
def extended (t : Table) (added : List Column) : Table :=
  { t with
    columns := t.columns ++ added
    rows := t.rows.map (· ++ List.replicate added.length .null) }

theorem extended_nil (t : Table) : t.extended [] = t := by
  simp [extended]

theorem extended_extended (t : Table) (added more : List Column) :
    (t.extended added).extended more = t.extended (added ++ more) := by
  simp [extended, Function.comp_def]

/-- An added column stands last, and the rows get an empty cell for it. -/
theorem addColumn_eq_ok {t after : Table} {column : Column} (h : t.addColumn column = .ok after) :
    after = t.extended [column] := by
  rw [addColumn] at h
  split at h
  · cases h
  · cases h
    rfl

end Table

namespace Database

variable {name : Text} {others : OtherTables name} {t : Table} {after : Database}

/-- A change on a name is a change of its table; the tables around it stay. -/
theorem change_around_eq_ok (hName : t.name = name) {f : Table → Except Error Table}
    (h : (others.around t).change name f = .ok after) :
    ∃ u, f t = .ok u ∧ after = others.around u := by
  rw [change_around hName] at h
  cases hRun : f t with
  | error e => simp [hRun, Except.map] at h
  | ok u => exact ⟨u, rfl, by simpa [hRun, Except.map] using h.symm⟩

/-- Adding columns to a table made from a file. -/
theorem addColumns_around (ht : t.IsUpload) (hName : t.name = name) {schema : Schema}
    (hSchema : ∀ column ∈ schema, IsColumnName column.1)
    (h : (others.around t).addColumns name schema = (.ok (), after)) :
    ∃ added, columns schema = .ok added ∧ after = others.around (t.extended added) ∧
      (t.extended added).IsUpload := by
  induction schema generalizing t with
  | nil =>
      obtain rfl := (Prod.mk.inj h).2
      exact ⟨[], rfl, by rw [t.extended_nil], by rwa [t.extended_nil]⟩
  | cons column rest ih =>
      obtain ⟨columnName, u⟩ := column
      obtain ⟨hColumn, hRest⟩ := List.forall_mem_cons.mp hSchema
      rw [addColumns, forColumns] at h
      cases hType : u.native with
      | error e => simp [hType] at h
      | ok type =>
          simp only [hType] at h
          cases hRun : (others.around t).change name (Table.addColumn · ⟨columnName, type⟩) with
          | error e => simp [hRun] at h
          | ok between =>
              rw [hRun] at h
              obtain ⟨v, hv, rfl⟩ := change_around_eq_ok hName hRun
              have hShape := ht.of_addColumn hColumn hv
              obtain rfl := Table.addColumn_eq_ok hv
              obtain ⟨added, hAdded, rfl, hUpload⟩ := ih hShape hName hRest h
              rw [Table.extended_extended] at hUpload ⊢
              refine ⟨_, ?_, rfl, hUpload⟩
              rw [columns, mapM_eq_ok_iff] at hAdded ⊢
              exact .cons (by rw [hType]; rfl) hAdded

/-- Changing types of columns of a table made from a file. -/
theorem alterColumns_around (ht : t.IsUpload) (hName : t.name = name) {schema : Schema}
    (hSchema : ∀ column ∈ schema, IsColumnName column.1 ∧ column.1 ≠ rowKeyName)
    (hDistinct : (NameMap.names schema).Nodup)
    (h : (others.around t).alterColumns name schema = (.ok (), after)) :
    ∃ u, after = others.around u ∧ t.Retyped schema u := by
  induction schema generalizing t with
  | nil =>
      obtain rfl := (Prod.mk.inj h).2
      exact ⟨t, rfl, .refl t⟩
  | cons column rest ih =>
      obtain ⟨columnName, u⟩ := column
      obtain ⟨⟨hColumn, hKey⟩, hRest⟩ := List.forall_mem_cons.mp hSchema
      obtain ⟨hNew, hDistinct⟩ := List.nodup_cons.mp hDistinct
      rw [alterColumns, forColumns] at h
      cases hType : u.native with
      | error e => simp [hType] at h
      | ok type =>
          simp only [hType] at h
          cases hRun : (others.around t).change name (Table.alterColumn · columnName type) with
          | error e => simp [hRun] at h
          | ok between =>
              rw [hRun] at h
              obtain ⟨v, hv, rfl⟩ := change_around_eq_ok hName hRun
              have hFirst := Table.Retyped.of_alterColumn ht hColumn hType hv
              obtain ⟨w, rfl, hLater⟩ := ih (ht.of_alterColumn hColumn hKey hv)
                (hFirst.name.trans hName) hRest hDistinct h
              refine ⟨w, rfl, hFirst.trans hLater ?_⟩
              intro other _ hOther
              rw [lookup_singleton] at hOther
              split at hOther
              · rename_i hSame
                exact NameMap.lookup_eq_none_iff.mpr (by rwa [hSame])
              · cases hOther

/-- What a migration makes of a table made from a file. Where it makes no change, its plan must name none. -/
theorem migrate_around (ht : t.IsUpload) (hName : t.name = name) {plan : MigrationPlan}
    (hAdded : ∀ column ∈ plan.added, IsColumnName column.1)
    (hUpdated : ∀ column ∈ plan.updated, IsColumnName column.1 ∧ column.1 ≠ rowKeyName)
    (hDistinct : (NameMap.names plan.updated).Nodup)
    (hSame : plan.modifySchema = false → plan.added = [] ∧ plan.updated = [])
    (h : (others.around t).migrate name plan = (.ok (), after)) :
    ∃ added u, columns plan.added = .ok added ∧ (t.extended added).Retyped plan.updated u ∧
      after = others.around u ∧ u.IsUpload := by
  rw [migrate] at h
  cases hModify : plan.modifySchema with
  | false =>
      obtain ⟨hNoneAdded, hNoneUpdated⟩ := hSame hModify
      rw [hModify] at h
      obtain rfl := (Prod.mk.inj h).2
      rw [hNoneAdded, hNoneUpdated]
      exact ⟨[], t, rfl, by rw [t.extended_nil]; exact .refl t, rfl, ht⟩
  | true =>
      rw [hModify, if_pos rfl] at h
      rcases hRun : (others.around t).addColumns name plan.added with ⟨e | _, between⟩
      · simp [hRun] at h
      · rw [hRun] at h
        obtain ⟨added, hColumns, rfl, hShape⟩ := addColumns_around ht hName hAdded hRun
        obtain ⟨u, rfl, hTypes⟩ := alterColumns_around hShape hName hUpdated hDistinct h
        refine ⟨added, u, hColumns, hTypes, rfl, hTypes.isUpload hShape ?_⟩
        refine NameMap.lookup_eq_none_iff.mpr fun hMem => ?_
        obtain ⟨column, hColumn, hKey⟩ := List.mem_map.mp hMem
        exact (hUpdated column hColumn).2 hKey

end Database

end CsvIntake
