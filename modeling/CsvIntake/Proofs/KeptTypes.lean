import CsvIntake.Proofs.LoadedTables

/-! Planning a file for a table that was typed by it. The database reports a bounded text as a text and every
other type as it was declared, and inference that starts from these types stays at them. So the plan neither
adds nor updates a column, and the rows are read as before. -/
namespace CsvIntake

variable {separators : NumberSeparators}

namespace ColumnType

/-- The native type of a column means the type that it was made of, except that a short text becomes
a text. -/
theorem meaning_of_native {t : ColumnType} {type : NativeType} (h : t.native = .ok type)
    (hKey : t ≠ .rowKey) : type.meaning = t ∧ t ≠ .varchar255 ∨ t = .varchar255 ∧ type.meaning = .text := by
  cases t with
  | varchar255 =>
      obtain rfl := Except.ok.inj h
      exact .inr ⟨rfl, rfl⟩
  | rowKey => exact absurd rfl hKey
  | booleanOrInt => cases h
  | _ =>
      obtain rfl := Except.ok.inj h
      exact .inl ⟨rfl, by decide⟩

/-- The type that is reported accepts what the declared type holds. -/
theorem accepts_meaning {t : ColumnType} {type : NativeType} (h : t.native = .ok type)
    (hKey : t ≠ .rowKey) {s : Text} (hHolds : holds separators t s = true) :
    accepts separators type.meaning (Text.trim s) = true := by
  rcases meaning_of_native h hKey with ⟨hSame, hBounded⟩ | ⟨_, hText⟩
  · rw [hSame]
    simpa [holds, hBounded] using hHolds
  · rw [hText]
    rfl

/-- A cell is read in the same way for a type and for what its native type means. -/
theorem readCell_meaning {t : ColumnType} {type : NativeType} (h : t.native = .ok type)
    (hKey : t ≠ .rowKey) (cell : Option Text) :
    readCell separators type.meaning cell = readCell separators t cell := by
  rcases meaning_of_native h hKey with ⟨hSame, _⟩ | ⟨rfl, hText⟩
  · rw [hSame]
  · rw [hText]
    cases cell <;> rfl

/-- Rows read with the declared types are read with the reported ones. -/
theorem readAs_meaning {types : List ColumnType} {natives : List NativeType}
    (hNative : List.Forall₂ (fun t type => t.native = .ok type) types natives)
    (hKey : .rowKey ∉ types) {row : Row} {values : List Value} (h : ReadAs separators types row values) :
    ReadAs separators (natives.map NativeType.meaning) row values := by
  refine ⟨by rw [h.1, List.length_map, hNative.length_eq], ?_⟩
  intro i u v hu hv
  rw [List.getElem?_map] at hu
  obtain ⟨type, hType, rfl⟩ := Option.map_eq_some_iff.mp hu
  obtain ⟨t, ht, hDeclared⟩ := exists_left_of_forall₂ hNative hType
  have hNotKey : t ≠ .rowKey := fun hSame => hKey (hSame ▸ List.mem_of_getElem? ht)
  rw [readCell_meaning hDeclared hNotKey]
  exact h.2 i t v ht hv

theorem meaning_mem_reported (type : NativeType) : type.meaning ∈ reported :=
  mem_reported_iff.mpr ⟨_, type.ofNativeName?_name⟩

/-- No column is inferred to be the key. -/
theorem rowKey_not_mem_ofRows {types : List (Option ColumnType)} (hKey : some .rowKey ∉ types)
    (rows : List Row) : .rowKey ∉ ofRows separators types rows := by
  intro hMem
  have hReadable := isReadable_of_mem_ofRows hKey hMem
  cases hReadable

/-- Inference stays at the types that are reported for the types it found. -/
theorem ofRows_meaning {types : List (Option ColumnType)} (hKey : some .rowKey ∉ types) {rows : List Row}
    {natives : List NativeType}
    (hNative : List.Forall₂ (fun t type => t.native = .ok type) (ofRows separators types rows) natives) :
    ofRows separators (natives.map fun type => some type.meaning) rows =
      natives.map NativeType.meaning := by
  refine List.ext_getElem? fun i => ?_
  rw [ofRows_getElem?, List.getElem?_map, List.getElem?_map, Option.map_map]
  refine Option.map_congr fun type hType => ?_
  obtain ⟨t, ht, hDeclared⟩ := exists_left_of_forall₂ hNative hType
  have hNotKey : t ≠ .rowKey := fun hSame =>
    rowKey_not_mem_ofRows hKey rows (hSame ▸ List.mem_of_getElem? ht)
  obtain ⟨hInferable, _, _, _, hOfValues⟩ := of_mem_reported (meaning_mem_reported type)
  -- every value of the column is held by the type found, so none makes the reported type move
  have hAccepts : ∀ s, some s ∈ columnValues i rows → Text.isBlank s = false →
      accepts separators type.meaning (Text.trim s) = true := by
    intro s hs hBlank
    obtain ⟨row, hRow, hCell⟩ := mem_columnValues.mp hs
    exact accepts_meaning hDeclared hNotKey (holds_of_ofRows ht hRow hCell hBlank)
  rw [Function.comp_apply, foldl_relax_eq_self hInferable hAccepts, hOfValues]

end ColumnType

namespace MigrationPlan

open ColumnType

/-- A plan that leaves a table as it is and reads the file with the types that are reported. -/
structure Keeps (plan : MigrationPlan) (header : Row) (types : List ColumnType) : Prop where
  columnNames : plan.columnNames = header.map columnName
  added : plan.added = []
  updated : plan.updated = []
  modifySchema : plan.modifySchema = false
  createKey : plan.createKey = false
  loadTypes : plan.loadTypes = types

/-- There is a plan for a header whose names are distinct and among which are those of the table. -/
theorem exists_make {columns : List Column} {header : Row} (rows : List Row)
    (hDistinct : (header.map columnName).Nodup)
    (hCovers : ∀ c ∈ columns, c.name ≠ rowKeyName → c.name ∈ header.map columnName)
    (createKeys : Bool) :
    ∃ plan, make separators (columns.map fun c => (c.name, some c.type.meaning)) header rows
      createKeys = .ok plan := by
  refine ⟨_, make_eq_ok_iff.mpr ⟨hDistinct, ?_, rfl⟩⟩
  intro name hMem hKey
  rw [NameMap.names, List.map_map] at hMem
  obtain ⟨c, hc, rfl⟩ := List.mem_map.mp hMem
  exact hCovers c hc hKey

/-- The plan of a file for a table that has its columns, with the types found in it. -/
theorem exists_keeps {t : Table} (ht : t.IsUpload) {header : Row} {rows : List Row}
    (hHeader : KeylessHeader header) (hDistinct : (header.map columnName).Nodup)
    {types : List (Option ColumnType)} (hKey : some .rowKey ∉ types)
    (hNames : t.columns.tail.map Column.name = header.map columnName)
    (hNative : List.Forall₂ (fun t type => t.native = .ok type) (ofRows separators types rows)
      (t.columns.tail.map Column.type)) (createKeys : Bool) :
    ∃ plan, make separators (t.columns.map fun c => (c.name, some c.type.meaning)) header rows
        createKeys = .ok plan ∧
      plan.Keeps header ((t.columns.tail.map Column.type).map NativeType.meaning) := by
  obtain ⟨rest, hColumns, _⟩ := ht.exists_columns
  rw [hColumns, List.tail_cons] at hNames hNative
  have hCovers : ∀ c ∈ t.columns, c.name ≠ rowKeyName → c.name ∈ header.map columnName := by
    intro c hc hKey
    rw [hColumns, List.mem_cons] at hc
    rcases hc with rfl | hc
    · exact absurd rfl hKey
    · rw [← hNames]
      exact List.mem_map_of_mem hc
  obtain ⟨plan, hPlan⟩ := exists_make rows hDistinct hCovers createKeys
  refine ⟨plan, hPlan, ?_⟩
  have hFor := isFor_of_make ht hHeader hPlan
  have hFits := fits_of_make hPlan
  have hOld : plan.oldTypes = (rest.map Column.type).map fun type => some type.meaning := by
    rw [hFor.oldTypes, hFor.columnNames, ← hNames, List.map_map, List.map_map]
    refine List.map_congr_left fun c hc => ?_
    exact ht.knownType?_of_mem (by rw [hColumns]; exact List.mem_cons_of_mem _ hc)
  have hDetected : plan.detectedTypes = (rest.map Column.type).map NativeType.meaning := by
    rw [hFits.detectedTypes, hOld, ofRows_meaning hKey hNative]
  have hNew : plan.newTypes = (rest.map Column.type).map NativeType.meaning := by
    rw [hFits.newTypes, hOld, hDetected, List.zipWith_map, List.zipWith_self]
    refine List.map_congr_left fun type _ => ?_
    simp [newType, matchesOrUpgrades]
  have hSame : plan.oldTypes = plan.newTypes.map some := by
    simp only [hOld, hNew, List.map_map]
    rfl
  obtain ⟨hAdded, hUpdated⟩ := hFor.no_changes hSame
  have hDeclined : plan.declined = false := by simp [declined, hDetected, hNew]
  constructor
  · exact hFor.columnNames
  · exact hAdded
  · exact hUpdated
  · simp [hFits.modifySchema, hSame]
  · exact hFor.createKey
  · rw [hFits.loadTypes_of_not_declined hDeclined, hDetected, hColumns, List.tail_cons]

end MigrationPlan

end CsvIntake
