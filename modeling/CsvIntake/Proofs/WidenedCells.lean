import CsvIntake.Proofs.NearestDoubles
import CsvIntake.Proofs.StoredTypes
import Mathlib.Data.List.Pairwise

/-! What an append makes of the cells that are there. Every cell keeps its place, and below a column that keeps
its type it stays as it is. Other columns become `DOUBLE`, and their cells are cast: an integer becomes a nearest
number, which is equal to it exactly if 53 binary digits suffice for the integer. -/
namespace CsvIntake

namespace Cell

/-- The number that a cell denotes. -/
def number? : Cell → Option ℚ
  | .integer n => some n
  | .double x => if x.isFinite then some x.toRat else none
  | _ => none

/-- Two cells denote the same value: they are the same, or equal as numbers. -/
def SameValue (a b : Cell) : Prop := a = b ∨ ∃ q, a.number? = some q ∧ b.number? = some q

end Cell

/-- A `BIGINT` that is cast to `DOUBLE` becomes a nearest number. -/
theorem isNearest_of_fitsBigint {n : Int} (h : fitsBigint n = true) :
    (Binary64.ofInt n).IsNearest n := by
  refine Binary64.isNearest_ofInt ((Binary64.isFinite_ofInt_iff n).mpr ?_)
  have hRange : ((Nat.pow 2 63 : Nat) : Int) = 2 ^ 63 := by rfl
  rw [fitsBigint, decide_eq_true_iff, hRange] at h
  have hFar : ∀ half, 2 ^ 63 ≤ half → n.natAbs + half < 2 ^ 54 * half := by
    intro half hHalf
    omega
  rw [show 1024 = 54 + 970 from rfl, pow_add]
  exact hFar _ (pow_le_pow_right₀ one_le_two (by decide))

/-- A `BIGINT` that is cast to `DOUBLE` denotes the same value exactly if 53 binary digits suffice for it. -/
theorem Cell.sameValue_ofInt_iff {n : Int} (h : fitsBigint n = true) :
    Cell.SameValue (.integer n) (.double (.ofInt n)) ↔ Binary64.IsExact n := by
  have hFinite := (isNearest_of_fitsBigint h).1
  rw [← Binary64.toRat_ofInt_eq_iff hFinite]
  simp [SameValue, number?, hFinite, eq_comm]

theorem getElem?_append_of_some {α : Type} {xs : List α} {i : Nat} {x : α} (h : xs[i]? = some x)
    (ys : List α) : (xs ++ ys)[i]? = some x := by
  obtain ⟨hBound, _⟩ := List.getElem?_eq_some_iff.mp h
  rw [List.getElem?_append_left hBound, h]

namespace Table

/-- At a place there is now a certain column, and each cell below has become one that is related to it. -/
structure ColumnBecame (place : Nat) (c : Column) (became : Cell → Cell → Prop) (t after : Table) :
    Prop where
  column : after.columns[place]? = some c
  cells : ∀ (k : Nat) row old, t.rows[k]? = some row → row[place]? = some old →
    ∃ cells new, after.rows[k]? = some cells ∧ cells[place]? = some new ∧ became old new

/-- A cell is what a cast to `DOUBLE` makes of another one. -/
def IsCast (old new : Cell) : Prop := NativeType.double.convert? old = some new

/-- A table after statements that may have made columns of some names `DOUBLE`. -/
structure Widened (named : Text → Prop) (t after : Table) : Prop where
  name : after.name = t.name
  columns : ∀ (i : Nat) c, t.columns[i]? = some c → ColumnBecame i c Eq t after ∨
    named c.name ∧ ColumnBecame i ⟨c.name, .double⟩ IsCast t after

namespace ColumnBecame

variable {place : Nat} {c d : Column} {first second both : Cell → Cell → Prop} {t between after : Table}

theorem trans (left : ColumnBecame place c first t between)
    (right : ColumnBecame place d second between after)
    (hBoth : ∀ a b e, first a b → second b e → both a e) : ColumnBecame place d both t after := by
  refine ⟨right.column, fun k row old hRow hOld => ?_⟩
  obtain ⟨cells, between, hCells, hBetween, hFirst⟩ := left.cells k row old hRow hOld
  obtain ⟨last, new, hLast, hNew, hSecond⟩ := right.cells k cells between hCells hBetween
  exact ⟨last, new, hLast, hNew, hBoth _ _ _ hFirst hSecond⟩

/-- What became of the cells of a column may be said of the cells that it had only. -/
theorem imp_of_mem (h : ColumnBecame place c first t after)
    (hImp : ∀ row ∈ t.rows, ∀ old new, row[place]? = some old → first old new → second old new) :
    ColumnBecame place c second t after := by
  refine ⟨h.column, fun k row old hRow hOld => ?_⟩
  obtain ⟨cells, new, hCells, hNew, hFirst⟩ := h.cells k row old hRow hOld
  exact ⟨cells, new, hCells, hNew, hImp row (List.mem_of_getElem? hRow) old new hOld hFirst⟩

end ColumnBecame

namespace Widened

variable {named : Text → Prop} {t between after : Table}

/-- A table whose columns and cells are still there, with others behind them, is a widened one. -/
theorem of_kept (hName : after.name = t.name)
    (hColumns : ∀ (i : Nat) c, t.columns[i]? = some c → after.columns[i]? = some c)
    (hRows : ∀ (k : Nat) row, t.rows[k]? = some row → ∃ cells, after.rows[k]? = some cells ∧
      ∀ (i : Nat) cell, row[i]? = some cell → cells[i]? = some cell) : Widened named t after := by
  refine ⟨hName, fun i c hc => .inl ⟨hColumns i c hc, fun k row cell hRow hCell => ?_⟩⟩
  obtain ⟨cells, hCells, hKept⟩ := hRows k row hRow
  exact ⟨cells, cell, hCells, hKept i cell hCell, rfl⟩

theorem refl (t : Table) : Widened named t t :=
  .of_kept rfl (fun _ _ hc => hc) fun _ row hRow => ⟨row, hRow, fun _ _ hCell => hCell⟩

theorem trans (left : Widened named t between) (right : Widened named between after) :
    Widened named t after := by
  refine ⟨right.name.trans left.name, fun i c hc => ?_⟩
  rcases left.columns i c hc with hKept | ⟨hNamed, hCast⟩
  · rcases right.columns i c hKept.column with hAgain | ⟨hNamed, hCast⟩
    · exact .inl (hKept.trans hAgain fun a b e ha hb => ha.trans hb)
    · exact .inr ⟨hNamed, hKept.trans hCast fun a b e ha hb => ha ▸ hb⟩
  · refine .inr ⟨hNamed, ?_⟩
    rcases right.columns i _ hCast.column with hAgain | ⟨_, hAgain⟩
    · exact hCast.trans hAgain fun a b e ha hb => hb ▸ ha
    · -- a DOUBLE stays as it is
      refine hCast.trans hAgain fun a b e ha hb => ?_
      rw [IsCast, NativeType.convert?_of_convert? ha] at hb
      rwa [← Option.some.inj hb]

end Widened

/-- Statements that change the types of columns of asked names only, and only to `DOUBLE`. -/
def Statement.IsWidening (asked : Text → Prop) : Statement → Prop
  | .alterColumn name type => asked name ∧ type = .double
  | _ => True

/-- A name denotes, in a statement, the same as one that was asked for. -/
def Denotes (asked : Text → Prop) (name : Text) : Prop :=
  ∃ other, asked other ∧ sameIdentifier name other = true

/-- What a conversion below one place makes of the cells below any place. -/
theorem exists_cell_of_convertAt? {type : NativeType} {place : Nat} {rows converted : List (List Cell)}
    (h : List.Forall₂ (fun row cells => convertAt? type place row = some cells) rows converted)
    {k i : Nat} {row : List Cell} {old : Cell} (hRow : rows[k]? = some row) (hOld : row[i]? = some old) :
    ∃ cells new, converted[k]? = some cells ∧ cells[i]? = some new ∧
      if i = place then type.convert? old = some new else old = new := by
  obtain ⟨cells, hCells, hConverted⟩ := exists_right_of_forall₂ h hRow
  obtain ⟨hLength, hAt⟩ := Retyped.of_convertAt? hConverted
  obtain ⟨new, hNew⟩ := exists_getElem?_of_length_eq hLength hOld
  have hMade := (hAt i).symm.trans hNew
  rw [hOld, Option.bind_some] at hMade
  refine ⟨cells, new, hCells, hNew, ?_⟩
  by_cases hSame : i = place
  · rwa [if_pos hSame] at hMade ⊢
  · rw [if_neg hSame] at hMade ⊢
    exact Option.some.inj hMade

/-- A column made `DOUBLE` widens its table. -/
theorem widened_alterColumn {asked : Text → Prop} {t after : Table} {name : Text} (hAsked : asked name)
    (h : t.alterColumn name .double = .ok after) : Widened (Denotes asked) t after := by
  obtain ⟨place, rows, hPlace, hRows, rfl⟩ := alterColumn_eq_ok h
  refine ⟨rfl, fun i c hc => ?_⟩
  have hColumn : (t.columns.modify place ({ · with type := .double }))[i]? =
      some (if i = place then ⟨c.name, .double⟩ else c) := by
    rw [List.getElem?_modify, hc]
    by_cases hSame : i = place <;> simp [hSame, Ne.symm]
  have hCells := fun (k : Nat) row old (hRow : t.rows[k]? = some row) (hOld : row[i]? = some old) =>
    exists_cell_of_convertAt? hRows hRow hOld
  by_cases hSame : i = place
  · right
    obtain ⟨hBound, hDenoted, _⟩ := List.findIdx?_eq_some_iff_getElem.mp hPlace
    rw [hSame, List.getElem?_eq_getElem hBound, Option.some.injEq] at hc
    rw [hc] at hDenoted
    simp only [if_pos hSame] at hColumn hCells
    exact ⟨⟨name, hAsked, hDenoted⟩, hColumn, hCells⟩
  · left
    simp only [if_neg hSame] at hColumn hCells
    exact ⟨hColumn, hCells⟩

/-- What statements make of the cells that are there. -/
theorem Statement.widened_of_run {asked : Text → Prop} {s : Statement} (hs : s.IsWidening asked)
    {t after : Table} (h : s.run t = .ok after) : Widened (Denotes asked) t after := by
  cases s with
  | insertRow names values =>
      rw [run, insertRow_eq] at h
      split at h
      · cases h
      · obtain rfl := Except.ok.inj h
        refine .of_kept rfl (fun _ _ hc => hc) fun k row hRow => ⟨row, ?_, fun _ _ hCell => hCell⟩
        exact getElem?_append_of_some hRow _
  | addColumn column =>
      obtain rfl := addColumn_eq_ok h
      refine .of_kept rfl (fun i c hc => getElem?_append_of_some hc _) fun k row hRow =>
        ⟨row ++ [.null], ?_, fun i cell hCell => getElem?_append_of_some hCell _⟩
      exact (List.getElem?_map ..).trans (congrArg _ hRow)
  | alterColumn name type =>
      obtain ⟨hAsked, rfl⟩ := hs
      exact widened_alterColumn hAsked h
  | addNumbers name =>
      rw [run, Table.addNumbers] at h
      split at h
      · cases h
      · obtain rfl := Except.ok.inj h
        refine .of_kept rfl (fun i c hc => getElem?_append_of_some hc _) fun k row hRow =>
          ⟨row ++ [.integer (k + 1 : Nat)], ?_, fun i cell hCell => getElem?_append_of_some hCell _⟩
        simp [hRow]

end Table

/-! ### Whole appends -/

/-- What statements on the table of a name make of a table: nothing, if the name does not denote it. -/
def Table.WidenedBy (name : Text) (asked : Text → Prop) (t after : Table) : Prop :=
  (sameIdentifier t.name name = false → after = t) ∧ Widened (Denotes asked) t after

namespace Database

variable {name : Text} {asked : Text → Prop} {db after : Database}

theorem widened_self (tables : List Table) :
    List.Forall₂ (Table.WidenedBy name asked) tables tables :=
  List.forall₂_same.mpr fun t _ => ⟨fun _ => rfl, .refl t⟩

/-- A widening statement widens the table that it reaches and leaves the others. -/
theorem widened_changeIn {s : Table.Statement} (hs : s.IsWidening asked) {tables changed : List Table}
    (h : changeIn name s.run tables = .ok changed) :
    List.Forall₂ (Table.WidenedBy name asked) tables changed := by
  induction tables generalizing changed with
  | nil => cases h
  | cons t tables ih =>
      rw [changeIn] at h
      split at h
      · -- the table that the name denotes, and behind it nothing changes
        rename_i hDenoted
        cases hRun : s.run t with
        | error e => simp [hRun, Except.map] at h
        | ok u =>
            obtain rfl : u :: tables = changed := by simpa [hRun, Except.map] using h
            refine .cons ⟨fun hApart => ?_, Table.Statement.widened_of_run hs hRun⟩ (widened_self tables)
            rw [hDenoted] at hApart
            cases hApart
      · cases hRest : changeIn name s.run tables with
        | error e => simp [hRest, Except.map] at h
        | ok rest =>
            obtain rfl : t :: rest = changed := by simpa [hRest, Except.map] using h
            exact .cons ⟨fun _ => rfl, .refl t⟩ (ih hRest)

theorem widened_change {s : Table.Statement} (hs : s.IsWidening asked)
    (h : db.change name s.run = .ok after) :
    List.Forall₂ (Table.WidenedBy name asked) db.tables after.tables := by
  rw [change] at h
  cases hChange : changeIn name s.run db.tables with
  | error e => simp [hChange, Except.map] at h
  | ok changed =>
      obtain rfl : Database.mk changed = after := by simpa [hChange, Except.map] using h
      exact widened_changeIn hs hChange

/-- A run of widening statements widens its table and leaves the others. -/
theorem Changed.widened (run : Changed name (Table.Statement.IsWidening asked) db after) :
    List.Forall₂ (Table.WidenedBy name asked) db.tables after.tables := by
  induction run with
  | refl => exact widened_self _
  | step prior hAllowed last ih =>
      refine forall₂_comp ih (widened_change hAllowed last) fun t u v hFirst hSecond => ⟨?_, ?_⟩
      · intro hApart
        obtain rfl := hFirst.1 hApart
        exact hSecond.1 hApart
      · exact hFirst.2.trans hSecond.2

/-- The name that a `BIGINT` of a table beside the key has in a plan. -/
def IsBigintName (db : Database) (table : Text) (name : Text) : Prop :=
  name ≠ rowKeyName ∧
    ∃ t, db.table? table = some t ∧ ∃ c ∈ t.columns, c.type = .bigint ∧ columnName (some c.name) = name

/-- A column that a plan knows as whole numbers is a `BIGINT`. -/
theorem isBigintName_of_mem_knownTypes {db : Database} {table name : Text} (hKey : name ≠ rowKeyName)
    (h : (name, some .int) ∈ db.knownTypes table) : db.IsBigintName table name := by
  obtain ⟨column, hColumn, hPair⟩ := List.mem_map.mp (NameMap.mem_of_mem_ofPairs h)
  rw [columnTypes] at hColumn
  cases hTable : db.table? table with
  | none => simp [hTable] at hColumn
  | some t =>
      rw [hTable] at hColumn
      obtain ⟨c, hc, rfl⟩ := List.mem_map.mp hColumn
      obtain ⟨hName, hMeaning⟩ := Prod.mk.inj hPair
      rw [NativeType.ofNativeName?_name, Option.some.injEq] at hMeaning
      refine ⟨hKey, t, hTable, c, hc, ?_, hName⟩
      cases hType : c.type <;> rw [hType] at hMeaning <;> cases hMeaning

/-- An append, however it ends, widens at most its own table, in columns that were `BIGINT`. -/
theorem widened_appendTable (db : Database) (options : LoadOptions) (name : Text) (table : CsvTable) :
    List.Forall₂ (Table.WidenedBy name (db.IsBigintName name)) db.tables
      (db.appendTable options name table).2.tables := by
  refine Changed.widened (changed_appendTable (fun _ _ => trivial) trivial db fun plan hMake => ?_)
  refine ⟨fun _ _ _ => trivial, fun column hColumn type hType => ?_⟩
  obtain ⟨hFloat, hKey, hKnown⟩ := MigrationPlan.of_mem_updated_of_make hMake hColumn
  rw [hFloat] at hType
  have hMem := NameMap.mem_of_lookup hKnown
  exact ⟨isBigintName_of_mem_knownTypes hKey hMem, (Except.ok.inj hType).symm⟩

/-- Tables that one name denotes are the same. -/
theorem eq_of_sameIdentifier {tables : List Table}
    (h : tables.Pairwise fun t u => sameIdentifier t.name u.name = false) {t u : Table} (ht : t ∈ tables)
    (hu : u ∈ tables) (hSame : sameIdentifier t.name u.name = true) : t = u := by
  by_contra hOther
  have : Std.Symm fun t u : Table => sameIdentifier t.name u.name = false :=
    ⟨fun t u hApart => by rwa [sameIdentifier_comm]⟩
  have hApart := h.forall ht hu hOther
  rw [hSame] at hApart
  cases hApart

end Database

/-! ### Tables of typed cells -/

/-- What becomes of the cell of a `BIGINT` in a `DOUBLE`: nothing stays nothing, and an integer becomes a nearest
number, which denotes the same value exactly if 53 binary digits suffice for the integer. -/
def Cell.RoundsTo (old new : Cell) : Prop :=
  old = .null ∧ new = .null ∨
  ∃ n x, old = .integer n ∧ new = .double x ∧ x.IsNearest n ∧ (SameValue old new ↔ Binary64.IsExact n)

/-- A `BIGINT` cell that was cast has become the nearest double. -/
theorem Cell.roundsTo_of_isCast {old new : Cell} (hTyped : NativeType.bigint.convert? old = some old)
    (h : Table.IsCast old new) : old.RoundsTo new := by
  have hInteger : ∀ n, NativeType.bigintCell? n = some old → old = .integer n :=
    fun n hn => (NativeType.bigintCell?_eq_some_iff.mp hn).2
  cases old with
  | null => exact .inl ⟨rfl, (Option.some.inj h).symm⟩
  | integer n =>
      obtain rfl := Option.some.inj h
      have hFits := (NativeType.bigintCell?_eq_some_iff.mp hTyped).1
      exact .inr ⟨n, _, rfl, rfl, isNearest_of_fitsBigint hFits, sameValue_ofInt_iff hFits⟩
  | double x =>
      obtain ⟨n, _, hn⟩ := Option.bind_eq_some_iff.mp hTyped
      cases hInteger n hn
  | varchar s =>
      obtain ⟨n, _, hn⟩ := Option.bind_eq_some_iff.mp hTyped
      cases hInteger n hn
  | _ => cases hTyped

namespace Table

/-- A table whose cells have the types of their columns, and whose columns have different names in a plan. -/
structure IsSound (t : Table) : Prop where
  distinct : (t.columns.map fun c => columnName (some c.name)).Nodup
  typed : t.IsTyped

/-- A table whose cells all stand below columns, after an append: each column is there with its cells as they were,
or it is a `BIGINT` other than the key, and has become a `DOUBLE` of the same name. -/
structure KeptOrRounded (t after : Table) : Prop where
  name : after.name = t.name
  widths : ∀ row ∈ t.rows, row.length = t.columns.length
  columns : ∀ (i : Nat) c, t.columns[i]? = some c → ColumnBecame i c Eq t after ∨
    c.type = .bigint ∧ c.name ≠ rowKeyName ∧ ColumnBecame i ⟨c.name, .double⟩ Cell.RoundsTo t after

/-- The tables that loads make are sound. -/
theorem IsTypedUpload.isSound {t : Table} (ht : t.IsTypedUpload) : t.IsSound := by
  refine ⟨?_, ht.typed⟩
  have hNames : t.columns.map (fun c => columnName (some c.name)) = t.columns.map Column.name :=
    List.map_congr_left fun c hc => (ht.isUpload.names _ (List.mem_map_of_mem hc)).columnName_eq
  rw [hNames]
  exact ht.isUpload.distinct

namespace IsSound

variable {t after : Table} {name : Text} {db : Database}

/-- A column that a `BIGINT` names is that `BIGINT`. -/
theorem type_of_denotes (ht : t.IsSound) (hTable : ∀ u, db.table? name = some u → u = t) {c : Column}
    (hc : c ∈ t.columns) (hDenotes : Denotes (db.IsBigintName name) c.name) :
    c.type = .bigint ∧ c.name ≠ rowKeyName := by
  obtain ⟨_, ⟨hKey, u, hFound, d, hd, hType, rfl⟩, hSame⟩ := hDenotes
  obtain rfl := hTable u hFound
  have hMade := (isColumnName_columnName (some d.name)).columnName_of_sameIdentifier hSame
  obtain rfl := List.inj_on_of_nodup_map ht.distinct hc hd hMade
  refine ⟨hType, fun hName => hKey ?_⟩
  rw [hName, isColumnName_rowKeyName.columnName_eq]

/-- In a sound table only `BIGINT` columns other than the key are widened, and their cells are
rounded to the nearest doubles. -/
theorem keptOrRounded (ht : t.IsSound) (hTable : ∀ u, db.table? name = some u → u = t)
    (h : Widened (Denotes (db.IsBigintName name)) t after) : t.KeptOrRounded after := by
  refine ⟨h.name, fun row hRow => (ht.typed row hRow).length_eq.symm, fun i c hc => ?_⟩
  refine (h.columns i c hc).imp_right fun ⟨hDenotes, hBecame⟩ => ?_
  obtain ⟨hType, hKey⟩ := ht.type_of_denotes hTable (List.mem_of_getElem? hc) hDenotes
  refine ⟨hType, hKey, hBecame.imp_of_mem fun row hRow old new hOld hCast => ?_⟩
  have hTyped := (forall₂_iff_getElem?.mp (ht.typed row hRow)).2 i c old hc hOld
  rw [hType] at hTyped
  exact Cell.roundsTo_of_isCast hTyped hCast

theorem keptOrRounded_self (ht : t.IsSound) : t.KeptOrRounded t :=
  ⟨rfl, fun row hRow => (ht.typed row hRow).length_eq.symm,
    fun _ _ hc => .inl ⟨hc, fun _ row old hRow hOld => ⟨row, old, hRow, hOld, rfl⟩⟩⟩

end IsSound

end Table

namespace Workspace

/-- What an append makes of tables, whether or not it succeeds. A table that the name does not denote stays as it
is. In the others all cells stay in their places, and as they are, unless they stand below a column that a
`BIGINT` of the table names, and that has become `DOUBLE`. In a sound table that column is the `BIGINT`, and its
integers have become nearest numbers; and tables made by loads are sound. -/
theorem cells_of_append (w : Workspace) (options : LoadOptions) (useRegistry : Bool) (file : UploadFile)
    (name : Text) :
    List.Forall₂ (Table.WidenedBy name (w.database.IsBigintName name)) w.database.tables
      (w.append options useRegistry file name).2.database.tables ∧
    (w.database.tables.Pairwise (fun t u => sameIdentifier t.name u.name = false) →
      List.Forall₂ (fun t after => t.IsSound → t.KeptOrRounded after) w.database.tables
        (w.append options useRegistry file name).2.database.tables) ∧
    ∀ clock, Later ⟨.empty, [], clock⟩ w → w.database.HoldsOnly Table.IsSound := by
  have hWidened : List.Forall₂ (Table.WidenedBy name (w.database.IsBigintName name)) w.database.tables
      (w.append options useRegistry file name).2.database.tables := by
    rcases w.append_database_cases options useRegistry file name with hSame | ⟨table, _, _, hAfter⟩
    · rw [hSame]
      exact Database.widened_self _
    · rw [hAfter]
      exact w.database.widened_appendTable options name table
  refine ⟨hWidened, fun hNames => ?_, fun clock run => ?_⟩
  · refine forall₂_iff_getElem?.mpr ⟨hWidened.length_eq, fun i t after ht hAfter hSound => ?_⟩
    obtain ⟨hApart, hTable⟩ := (forall₂_iff_getElem?.mp hWidened).2 i t after ht hAfter
    cases hDenoted : sameIdentifier t.name name with
    | false =>
        rw [hApart hDenoted]
        exact hSound.keptOrRounded_self
    | true =>
        refine hSound.keptOrRounded (fun u hFound => ?_) hTable
        obtain rfl : u.name = name := by simpa using List.find?_some hFound
        exact (Database.eq_of_sameIdentifier hNames (List.mem_of_getElem? ht)
          (List.mem_of_find?_eq_some hFound) hDenoted).symm
  · exact ⟨run.holdsOnly_typed.apart, fun t ht => (run.holdsOnly_typed.keeps t ht).isSound⟩

/-- A three, and an append of a number with a fraction: the three has become a `DOUBLE` and still denotes three. -/
theorem cells_of_append_fraction_to_three :
    ∃ (clock : Clock) (created file : UploadFile) (v w : Workspace) (t u : Table) (x : Binary64),
      created.content = "n\n3\n".toUTF8 ∧ file.content = "n\n2.5\n".toUTF8 ∧
      v = (create ⟨.empty, [], clock⟩ {} true ['p'] created).2 ∧
      w = (v.append {} true file t.name).2 ∧ Later ⟨.empty, [], clock⟩ v ∧
      v.database.tables = [t] ∧ w.database.tables = [u] ∧ t.KeptOrRounded u ∧
      t.rows = [[.integer 1, .integer 3]] ∧
      (∃ row, u.rows[0]? = some row ∧ row[1]? = some (.double x)) ∧ x.toRat = 3 := by
  let created : UploadFile := { name := ['f'], content := "n\n3\n".toUTF8 }
  let file : UploadFile := { name := ['g'], content := "n\n2.5\n".toUTF8 }
  let t : Table := ⟨"pf_10101000001".toList, [⟨rowKeyName, .bigint⟩, ⟨['n'], .bigint⟩],
    [[.integer 1, .integer 3]]⟩
  let v := (create ⟨.empty, [], .first⟩ {} true ['p'] created).2
  have hTable : v.database.tables = [t] := by decide +kernel
  have hAfter : (v.append {} true file t.name).2.database.tables.map Table.columns =
      [[⟨rowKeyName, .bigint⟩, ⟨['n'], .double⟩]] := by
    decide +kernel
  obtain ⟨u, hu, hColumns⟩ := List.map_eq_singleton_iff.mp hAfter
  have run : Later ⟨.empty, [], .first⟩ v := .create .refl {} true ['p'] created
  have hKept : t.KeptOrRounded u := by
    obtain ⟨_, hAppended, hLater⟩ := cells_of_append v {} true file t.name
    have hSound := hLater .first run
    have hTables := hAppended hSound.apart
    rw [hTable, hu] at hTables
    exact (List.forall₂_cons.mp hTables).1 (hSound.keeps t (by simp [hTable]))
  rcases hKept.columns 1 ⟨['n'], .bigint⟩ rfl with hSame | ⟨_, _, hDouble⟩
  · have hColumn := hSame.column
    rw [hColumns] at hColumn
    cases hColumn
  · obtain ⟨row, new, hRow, hNew, ⟨hNull, _⟩ | ⟨n, x, hOld, rfl, hNearest, hExact⟩⟩ :=
      hDouble.cells 0 _ (.integer 3) rfl rfl
    · cases hNull
    · cases hOld
      refine ⟨.first, created, file, v, _, t, u, x, rfl, rfl, rfl, rfl, run, hTable, hu, hKept, rfl,
        ⟨row, hRow, hNew⟩, ?_⟩
      simpa [Cell.SameValue, Cell.number?, hNearest.1] using
        hExact.mpr ⟨3, 0, by decide, rfl⟩

/-- An integer of 54 binary digits may change: an append that succeeds has made it another number. -/
theorem value_ne_of_append_fraction :
    ∃ (clock : Clock) (created file : UploadFile) (v w : Workspace) (t u : Table) (x y : Binary64),
      created.content = "n\n9007199254740993\n".toUTF8 ∧ file.content = "n\n2.5\n".toUTF8 ∧
      v = (create ⟨.empty, [], clock⟩ {} true ['p'] created).2 ∧
      w = (v.append {} true file t.name).2 ∧ (v.append {} true file t.name).1.isOk = true ∧
      v.database.tables = [t] ∧ w.database.tables = [u] ∧
      t.columns = [⟨rowKeyName, .bigint⟩, ⟨['n'], .bigint⟩] ∧
      u.columns = [⟨rowKeyName, .bigint⟩, ⟨['n'], .double⟩] ∧
      t.rows = [[.integer 1, .integer 9007199254740993]] ∧
      u.rows = [[.integer 1, .double x], [.integer 2, .double y]] ∧
      x.toRat = 9007199254740992 ∧ ¬Cell.SameValue (.integer 9007199254740993) (.double x) := by
  let created : UploadFile := { name := ['f'], content := "n\n9007199254740993\n".toUTF8 }
  let file : UploadFile := { name := ['g'], content := "n\n2.5\n".toUTF8 }
  let name : Text := "pf_10101000001".toList
  let x : Binary64 := .ofInt 9007199254740992
  let y : Binary64 := ⟨false, 0x4004000000000000⟩
  let t : Table := ⟨name, [⟨rowKeyName, .bigint⟩, ⟨['n'], .bigint⟩],
    [[.integer 1, .integer 9007199254740993]]⟩
  let u : Table := ⟨name, [⟨rowKeyName, .bigint⟩, ⟨['n'], .double⟩],
    [[.integer 1, .double x], [.integer 2, .double y]]⟩
  let v := (create ⟨.empty, [], .first⟩ {} true ['p'] created).2
  let w := (v.append {} true file name).2
  have hSuccess : (v.append {} true file name).1.isOk = true := by decide +kernel
  have hBefore : v.database.tables = [t] := by decide +kernel
  have hAfter : w.database.tables = [u] := by decide +kernel
  have hFinite := (isNearest_of_fitsBigint (n := 9007199254740992) (by decide)).1
  have hValue : x.toRat = 9007199254740992 := by
    exact_mod_cast (Binary64.toRat_ofInt_eq_iff hFinite).mpr ⟨1, 53, by decide, by decide⟩
  refine ⟨.first, created, file, v, w, t, u, x, y, rfl, rfl, rfl, rfl, hSuccess, hBefore, hAfter, rfl, rfl,
    rfl, rfl, hValue, ?_⟩
  rintro (hSame | ⟨q, hOld, hNew⟩)
  · cases hSame
  · rw [Cell.number?, if_pos hFinite, hValue] at hNew
    rw [Cell.number?, ← hNew] at hOld
    norm_num at hOld

end Workspace

end CsvIntake
