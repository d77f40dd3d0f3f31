import CsvIntake.Proofs.ColumnNames
import CsvIntake.Proofs.NameMaps
import CsvIntake.Proofs.StoredTables
import Mathlib.Data.List.Forall2

/-! The shape of tables made from files: the key is the first column, and the column names are distinct
and stand for themselves in statements. -/
namespace CsvIntake

/-! ### Lists in step -/

section Lists

variable {α β γ ε : Type}

theorem mapM_eq_some_iff {f : α → Option β} {xs : List α} {ys : List β} :
    xs.mapM f = some ys ↔ List.Forall₂ (fun x y => f x = some y) xs ys := by
  induction xs generalizing ys with
  | nil => simp [eq_comm]
  | cons x xs ih =>
      rw [List.mapM_cons, List.forall₂_cons_left_iff]
      cases hx : f x with
      | none => simp
      | some y =>
          cases hxs : xs.mapM f with
          | none => simp [← ih, hxs]
          | some zs => simp [← ih, hxs, eq_comm]

theorem mapM_eq_ok_iff {f : α → Except ε β} {xs : List α} {ys : List β} :
    xs.mapM f = .ok ys ↔ List.Forall₂ (fun x y => f x = .ok y) xs ys := by
  induction xs generalizing ys with
  | nil => simp [pure, Except.pure, eq_comm]
  | cons x xs ih =>
      rw [List.mapM_cons, List.forall₂_cons_left_iff]
      cases hx : f x with
      | error e => simp [bind, Except.bind]
      | ok y =>
          cases hxs : xs.mapM f with
          | error e => simp [← ih, hxs, bind, Except.bind]
          | ok zs => simp [← ih, hxs, bind, Except.bind, pure, Except.pure, eq_comm]

theorem forall₂_comp {R : α → β → Prop} {S : β → γ → Prop} {T : α → γ → Prop} {xs : List α}
    {ys : List β} {zs : List γ} (hxy : List.Forall₂ R xs ys) (hyz : List.Forall₂ S ys zs)
    (h : ∀ x y z, R x y → S y z → T x z) : List.Forall₂ T xs zs := by
  induction hxy generalizing zs with
  | nil =>
      obtain rfl := List.forall₂_nil_left_iff.mp hyz
      exact .nil
  | cons hHead _ ih =>
      obtain ⟨z, zs, hz, hzs, rfl⟩ := List.forall₂_cons_left_iff.mp hyz
      exact .cons (h _ _ _ hHead hz) (ih hzs)

/-- Lists are related place by place when they are as long as each other and related in every place. -/
theorem forall₂_iff_getElem? {R : α → β → Prop} {xs : List α} {ys : List β} :
    List.Forall₂ R xs ys ↔ xs.length = ys.length ∧
      ∀ (i : Nat) (x : α) (y : β), xs[i]? = some x → ys[i]? = some y → R x y := by
  rw [List.forall₂_iff_get]
  refine and_congr_right fun _ => ⟨?_, ?_⟩
  · intro h i x y hx hy
    obtain ⟨hi, rfl⟩ := List.getElem?_eq_some_iff.mp hx
    obtain ⟨hj, rfl⟩ := List.getElem?_eq_some_iff.mp hy
    exact h i hi hj
  · intro h i hi hj
    exact h i _ _ (List.getElem?_eq_getElem hi) (List.getElem?_eq_getElem hj)

theorem exists_getElem?_of_length_eq {xs : List α} {ys : List β} (h : xs.length = ys.length) {i : Nat}
    {y : β} (hy : ys[i]? = some y) : ∃ x, xs[i]? = some x := by
  obtain ⟨hBound, _⟩ := List.getElem?_eq_some_iff.mp hy
  rw [← h] at hBound
  exact ⟨_, List.getElem?_eq_getElem hBound⟩

theorem exists_left_of_forall₂ {R : α → β → Prop} {xs : List α} {ys : List β}
    (h : List.Forall₂ R xs ys) {i : Nat} {y : β} (hy : ys[i]? = some y) :
    ∃ x, xs[i]? = some x ∧ R x y := by
  obtain ⟨hLength, hRelated⟩ := forall₂_iff_getElem?.mp h
  obtain ⟨x, hx⟩ := exists_getElem?_of_length_eq hLength hy
  exact ⟨x, hx, hRelated i x y hx hy⟩

theorem exists_right_of_forall₂ {R : α → β → Prop} {xs : List α} {ys : List β}
    (h : List.Forall₂ R xs ys) {i : Nat} {x : α} (hx : xs[i]? = some x) :
    ∃ y, ys[i]? = some y ∧ R x y :=
  exists_left_of_forall₂ h.flip hx

end Lists

/-- The type that the name of a native type is known to mean. -/
def NativeType.meaning : NativeType → ColumnType
  | .varchar => .text
  | .bigint => .int
  | .double => .float
  | .boolean => .boolean
  | .date => .date
  | .timestamp => .datetime
  | .timestamptz => .offsetDatetime

/-- What a native type means is stored as that native type. -/
@[simp] theorem NativeType.native_meaning (type : NativeType) : type.meaning.native = .ok type := by
  cases type <;> rfl

/-- The name that a store reports for a native type is read as its meaning. -/
theorem NativeType.ofNativeName?_name (type : NativeType) :
    ColumnType.ofNativeName? (some type.name.toList) = some type.meaning := by
  cases type <;> decide +kernel

namespace Table

/-- A table as loads leave it: it begins with the key, and its names denote one column each. -/
structure IsUpload (t : Table) : Prop where
  key : t.columns.head? = some ⟨rowKeyName, .bigint⟩
  names : ∀ name ∈ t.columns.map Column.name, IsColumnName name
  distinct : (t.columns.map Column.name).Nodup
  widths : ∀ row ∈ t.rows, row.length = t.columns.length

/-- The statements that loads run on tables of this shape. -/
def Statement.IsLoading : Statement → Prop
  | .insertRow _ _ => True
  | .addColumn column => IsColumnName column.name
  | .alterColumn name _ => IsColumnName name ∧ name ≠ rowKeyName
  | .addNumbers name => name = rowKeyName

/-- The row that values of named columns make in a table. -/
def rowFor? (t : Table) (names : List Text) (values : List Value) : Option (List Cell) :=
  if names.isEmpty || names.length != values.length || hasRepeatedName names ||
      names.any fun name => (t.position? name).isNone then none
  else newRow? t.columns (names.zip values)

/-- A row is stored last, if its cells fit. -/
theorem insertRow_eq (t : Table) (names : List Text) (values : List Value) :
    t.insertRow names values =
      match t.rowFor? names values with
      | none => .error .refusedByStore
      | some row => .ok { t with rows := t.rows ++ [row] } := by
  rw [insertRow, rowFor?]
  split <;> rfl

theorem length_of_rowFor? {t : Table} {names : List Text} {values : List Value} {row : List Cell}
    (h : t.rowFor? names values = some row) : row.length = t.columns.length := by
  rw [rowFor?] at h
  split at h
  · cases h
  · rw [newRow?, mapM_eq_some_iff] at h
    exact h.length_eq.symm

namespace IsUpload

variable {t : Table} {name : Text}

theorem columns_zero (ht : t.IsUpload) : t.columns[0]? = some ⟨rowKeyName, .bigint⟩ := by
  rw [← List.head?_eq_getElem?, ht.key]

/-- A column name that has no place is not the name of a column. -/
theorem mem_of_position?_eq_none (hName : IsColumnName name) (h : t.position? name = none) :
    name ∉ t.columns.map Column.name := by
  intro hMem
  obtain ⟨c, hc, rfl⟩ := List.mem_map.mp hMem
  have hApart := List.findIdx?_eq_none_iff.mp h c hc
  simp at hApart

/-- The key of an upload stands first. -/
theorem position?_rowKeyName (ht : t.IsUpload) : t.position? rowKeyName = some 0 := by
  obtain ⟨rest, hColumns⟩ := List.head?_eq_some_iff.mp ht.key
  rw [position?, hColumns]
  simp [List.findIdx?_cons]

/-- A column name denotes the column at one place. -/
theorem name_eq_iff (ht : t.IsUpload) (hName : IsColumnName name) {place i : Nat} {c : Column}
    (hPlace : t.position? name = some place) (hc : t.columns[i]? = some c) :
    c.name = name ↔ i = place := by
  obtain ⟨hBound, hSame, _⟩ := List.findIdx?_eq_some_iff_getElem.mp hPlace
  have hColumn : t.columns[place]? = some t.columns[place] := List.getElem?_eq_getElem hBound
  have hPlaceName : t.columns[place].name = name := by
    have hMem : t.columns[place].name ∈ t.columns.map Column.name :=
      List.mem_map_of_mem (List.getElem_mem hBound)
    rwa [(ht.names _ hMem).sameIdentifier_eq hName, beq_iff_eq] at hSame
  constructor
  · intro hSame
    obtain ⟨hi, rfl⟩ := List.getElem?_eq_some_iff.mp hc
    have hEq : (t.columns.map Column.name)[i]? = (t.columns.map Column.name)[place]? := by
      rw [List.getElem?_map, List.getElem?_map, hc, hColumn, Option.map_some, Option.map_some, hSame,
        hPlaceName]
    exact (List.getElem?_inj (by simpa using hi) ht.distinct).mp hEq
  · rintro rfl
    rw [hColumn, Option.some.injEq] at hc
    rw [← hc, hPlaceName]

theorem of_insertRow (ht : t.IsUpload) {names : List Text} {values : List Value} {after : Table}
    (h : t.insertRow names values = .ok after) : after.IsUpload := by
  rw [insertRow_eq] at h
  split at h
  · cases h
  · rename_i row hRow
    cases h
    refine ⟨ht.key, ht.names, ht.distinct, ?_⟩
    intro other hMem
    rcases List.mem_append.mp hMem with hMem | hMem
    · exact ht.widths other hMem
    · rw [List.mem_singleton.mp hMem]
      exact length_of_rowFor? hRow

theorem of_addColumn (ht : t.IsUpload) {column : Column} (hName : IsColumnName column.name)
    {after : Table} (h : t.addColumn column = .ok after) : after.IsUpload := by
  rw [addColumn] at h
  split at h
  · cases h
  · rename_i hNew
    cases h
    have hFresh : column.name ∉ t.columns.map Column.name :=
      mem_of_position?_eq_none hName (by simp_all)
    constructor
    · dsimp only
      rw [List.head?_append, ht.key]
      rfl
    · intro name hMem
      rw [List.map_append, List.mem_append] at hMem
      rcases hMem with hMem | hMem
      · exact ht.names name hMem
      · rw [List.map_singleton, List.mem_singleton] at hMem
        rwa [hMem]
    · rw [List.map_append, List.map_singleton, ← List.concat_eq_append]
      exact List.Nodup.concat hFresh ht.distinct
    · intro row hMem
      obtain ⟨old, hOld, rfl⟩ := List.mem_map.mp hMem
      simp [ht.widths old hOld]

end IsUpload

end Table

end CsvIntake
