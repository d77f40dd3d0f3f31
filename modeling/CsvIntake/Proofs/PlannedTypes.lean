import CsvIntake.Proofs.PlannedColumns

/-! The types of a plan. A plan changes a table wholly or not at all, and in both cases the rows of the
file are read with the types that the table has when they are inserted. -/
namespace CsvIntake

namespace MigrationPlan

variable {existing : NameMap (Option ColumnType)} {plan : MigrationPlan}

/-- The columns of a table after the changes of a plan, by name. -/
def migrated (plan : MigrationPlan) (existing : NameMap (Option ColumnType)) :
    NameMap (Option ColumnType) :=
  NameMap.updated (NameMap.updated existing (plan.added.map fun column => (column.1, some column.2)))
    (plan.updated.map fun column => (column.1, some column.2))

/-- The changes of a plan give a column its new type, also if this is the type that it has. -/
theorem lookup_migrated {entries : List (Text × Option ColumnType × ColumnType)}
    (hAdded : plan.added = ColumnChanges.addedIn entries)
    (hUpdated : plan.updated = ColumnChanges.updatedIn entries)
    (hDistinct : (entries.map Prod.fst).Nodup) {name : Text} {new : ColumnType}
    (h : (name, typeIn existing name, new) ∈ entries) :
    (plan.migrated existing).lookup name = some (some new) := by
  have hNames : ∀ m : Schema, NameMap.names (m.map fun column => (column.1, some column.2)) =
      NameMap.names m := by
    intro m
    rw [NameMap.names, List.map_map]
    rfl
  rw [migrated, hAdded, hUpdated, NameMap.lookup_updated, NameMap.lookup_updated, NameMap.lookup_map,
    NameMap.lookup_map, ColumnChanges.lookup_addedIn hDistinct h,
    ColumnChanges.lookup_updatedIn hDistinct h]
  · cases hOld : typeIn existing name with
    | none => simp
    | some t =>
        -- a column that keeps its type is in neither list of changes
        by_cases hSame : t = new
        · simp [hSame, (typeIn_eq_some_iff.mp hOld).2]
        · simp [hSame]
  · rw [hNames]
    exact ColumnChanges.names_addedIn_sublist.nodup hDistinct
  · rw [hNames]
    exact ColumnChanges.names_updatedIn_sublist.nodup hDistinct

section Columns

variable {names : List Text} {old : List (Option ColumnType)} {detected : List ColumnType}
  {createKey : Bool}

/-- A table is changed if no change is refused and there is one. -/
theorem modifySchema_ofColumns_iff (hOld : old.length = names.length)
    (hDetected : detected.length = names.length) :
    (ofColumns names old detected createKey).modifySchema = true ↔
      (ofColumns names old detected createKey).declined = false ∧
      ((ofColumns names old detected createKey).added ≠ [] ∨
        (ofColumns names old detected createKey).updated ≠ []) := by
  have hNew : (old.zipWith newType detected).length = names.length := by simp [hOld, hDetected]
  have hChanges := ColumnChanges.changes_zip_eq_nil_iff hOld hNew
  rw [← not_and_or]
  simp only [ofColumns, declined, hChanges]
  simp [and_comm]

/-- If the schema stays, an existing column is loaded with the type it has. -/
theorem loadTypes_ofColumns_getElem? (h : (ofColumns names old detected createKey).modifySchema = false)
    {i : Nat} {t : ColumnType} (hOld : old[i]? = some (some t)) (hDetected : i < detected.length) :
    (ofColumns names old detected createKey).loadTypes[i]? = some t := by
  rw [loadTypes, h]
  simp [ofColumns, List.getElem?_zipWith, hOld, hDetected]

/-- After the changes of a plan the columns of the file have their new types. -/
theorem map_lookup_migrated (hDistinct : names.Nodup) (hDetected : detected.length = names.length)
    (hPlan : plan = ofColumns names (names.map (typeIn existing)) detected createKey) :
    names.map (fun name => (plan.migrated existing).lookup name) =
      plan.newTypes.map fun t => some (some t) := by
  subst hPlan
  apply List.ext_getElem
  · simp [ofColumns, hDetected]
  · intro i hName hNew
    rw [List.length_map] at hName hNew
    rw [List.getElem_map, List.getElem_map]
    apply lookup_migrated rfl rfl
    · rwa [List.map_fst_zip]
      simp [hDetected]
    · refine List.mem_iff_getElem?.mpr ⟨i, ?_⟩
      rw [List.getElem?_zip_eq_some, List.getElem?_zip_eq_some, List.getElem?_map,
        List.getElem?_eq_getElem hName]
      exact ⟨rfl, rfl, List.getElem?_eq_getElem hNew⟩

end Columns

/-- A plan is carried out wholly or not at all. It changes the table exactly if no change is refused and there is
one; types change from `int` to `float` only. The columns are distinct and cover the table but for its key. If the
table is changed, the rows are read with the types that it has afterwards, and otherwise columns whose types are
known are read with these, but for one that takes the name of the key. -/
theorem make_all_or_nothing (separators : NumberSeparators) (existing : NameMap (Option ColumnType))
    (header : Row) (rows : List Row) (createKeys : Bool) (plan : MigrationPlan)
    (h : make separators existing header rows createKeys = .ok plan) :
    (plan.modifySchema = true ↔
      plan.declined = false ∧ (plan.added ≠ [] ∨ plan.updated ≠ [])) ∧
    (∀ name new, (name, new) ∈ plan.updated →
      existing.lookup name = some (some .int) ∧ new = .float) ∧
    (plan.columnNames = header.map columnName ∧ plan.columnNames.Nodup ∧
      ∀ name ∈ NameMap.names existing, name ≠ rowKeyName → name ∈ plan.columnNames) ∧
    (plan.modifySchema = true →
      plan.columnNames.map (fun name => (plan.migrated existing).lookup name) =
        plan.loadTypes.map fun t => some (some t)) ∧
    (plan.modifySchema = false → ∀ (i : Nat) name t, plan.columnNames[i]? = some name →
      name ≠ rowKeyName → existing.lookup name = some (some t) → plan.loadTypes[i]? = some t) := by
  refine ⟨?_, ?_, ?_⟩
  · obtain ⟨_, _, rfl⟩ := make_eq_ok_iff.mp h
    apply modifySchema_ofColumns_iff
    · simp
    · simp
  · intro name new hColumn
    obtain ⟨hFloat, _, hKnown⟩ := of_mem_updated_of_make h hColumn
    exact ⟨hKnown, hFloat⟩
  obtain ⟨hDistinct, hCovers, rfl⟩ := make_eq_ok_iff.mp h
  refine ⟨⟨rfl, hDistinct, hCovers⟩, fun hModify => ?_, fun hModify i name t hName hKey hKnown => ?_⟩
  · rw [loadTypes, if_pos hModify]
    apply map_lookup_migrated hDistinct _ rfl
    simp
  · have hPlace : (header.map columnName)[i]? = some name := hName
    apply loadTypes_ofColumns_getElem? hModify
    · rw [List.getElem?_map, hPlace, Option.map_some, typeIn_eq_some_iff.mpr ⟨hKey, hKnown⟩]
    · rw [ColumnType.length_ofRows, List.length_map]
      exact (List.getElem?_eq_some_iff.mp hPlace).1

/-- A table with a key, a column of whole numbers and one of unknown type, and a file that has a word in a new
column, a truth value in the unknown one and a fraction among the whole numbers. -/
theorem make_of_new_and_widened_column :
    ∃ plan, make .dotComma [(rowKeyName, some .int), (['n'], some .int), (['u'], none)]
        [some ['w'], some ['U'], some ['n']] [[some ['x'], some ['t'], some ['2', '.', '5']]] false =
          .ok plan ∧
      plan.added = [(['w'], .varchar255), (['u'], .boolean)] ∧ plan.updated = [(['n'], .float)] ∧
      plan.modifySchema = true ∧
      plan.columnNames.map (fun name =>
        (plan.migrated [(rowKeyName, some .int), (['n'], some .int), (['u'], none)]).lookup name) =
          plan.loadTypes.map fun t => some (some t) := by
  have hPlan : make .dotComma [(rowKeyName, some .int), (['n'], some .int), (['u'], none)]
      [some ['w'], some ['U'], some ['n']] [[some ['x'], some ['t'], some ['2', '.', '5']]] false = .ok
        { added := [(['w'], .varchar255), (['u'], .boolean)], updated := [(['n'], .float)],
          modifySchema := true, createKey := false, columnNames := [['w'], ['u'], ['n']],
          oldTypes := [none, none, some .int], detectedTypes := [.varchar255, .boolean, .float],
          newTypes := [.varchar255, .boolean, .float] } := by
    decide +kernel
  obtain ⟨_, _, _, hLoad, _⟩ := make_all_or_nothing _ _ _ _ _ _ hPlan
  exact ⟨_, hPlan, rfl, rfl, rfl, hLoad rfl⟩

/-- A column that takes the name of the key is read as a new one, though the type of the key is known. -/
theorem loadTypes_of_key_column :
    ∃ plan, make .dotComma [(rowKeyName, some .int), (['n'], some .int)]
        [some rowKeyName, some ['n']] [[some ['x'], some ['y']]] false = .ok plan ∧
      plan.modifySchema = false ∧ plan.columnNames[0]? = some rowKeyName ∧
      List.lookup rowKeyName [(rowKeyName, some ColumnType.int), (['n'], some .int)] =
        some (some .int) ∧
      plan.loadTypes[0]? = some .varchar255 := by
  have hPlan : make .dotComma [(rowKeyName, some .int), (['n'], some .int)]
      [some rowKeyName, some ['n']] [[some ['x'], some ['y']]] false = .ok
        { added := [(rowKeyName, .varchar255)], updated := [], modifySchema := false,
          createKey := false, columnNames := [rowKeyName, ['n']], oldTypes := [none, some .int],
          detectedTypes := [.varchar255, .varchar255], newTypes := [.varchar255, .int] } := by
    decide +kernel
  exact ⟨_, hPlan, rfl, rfl, by simp, rfl⟩

end MigrationPlan

end CsvIntake
