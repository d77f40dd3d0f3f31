import CsvIntake.Proofs.PlannedColumns

/-! Which columns a plan adds and which it updates. A plan adds the columns of a file whose types it does not
know. Such a column may be new, but it may also be one of the table, with a native type that has no meaning
here; a column that is updated is always one of the table. -/
namespace CsvIntake.MigrationPlan

variable {existing : NameMap (Option ColumnType)} {header : Row} {plan : MigrationPlan}

/-- The added columns of a plan, in the order of the header. -/
theorem names_added_of_make {separators : NumberSeparators} {rows : List Row} {createKeys : Bool}
    (h : make separators existing header rows createKeys = .ok plan) :
    NameMap.names plan.added =
      (header.map columnName).filter fun name => (typeIn existing name).isNone := by
  obtain ⟨_, _, rfl⟩ := make_eq_ok_iff.mp h
  apply ColumnChanges.names_addedIn_zip
  simp [ColumnType.length_ofRows]

/-- A column of a table that is not the key has no type in a plan exactly if its native type is not known. -/
theorem typeIn_eq_none_iff {name : Text} (hName : name ≠ rowKeyName) (hMem : name ∈ NameMap.names existing) :
    typeIn existing name = none ↔ existing.lookup name = some none := by
  rw [typeIn, lookup_withoutKey existing hName]
  cases hLookup : existing.lookup name with
  | none =>
      -- a column that the table has is found
      obtain ⟨column, hColumn, rfl⟩ := List.mem_map.mp hMem
      have hOther := List.lookup_eq_none_iff.mp hLookup column hColumn
      simp at hOther
  | some type => cases type <;> simp

/-- A plan for a header without key columns adds the columns whose types it does not know. A column of the table
is among these exactly if its native type is not known, and what is updated is a column of the table that holds
integers. So if all native types are known, nothing that the table has is added. -/
theorem make_adds_untyped (separators : NumberSeparators) (existing : NameMap (Option ColumnType))
    (header : Row) (rows : List Row) (createKeys : Bool) (plan : MigrationPlan)
    (hHeader : ∀ raw ∈ header, columnName raw ≠ rowKeyName)
    (h : make separators existing header rows createKeys = .ok plan) :
    NameMap.names plan.added =
      (header.map columnName).filter (fun name => (existing.lookup name).join.isNone) ∧
    (∀ name ∈ NameMap.names existing, name ∈ NameMap.names plan.added ↔
      name ≠ rowKeyName ∧ existing.lookup name = some none) ∧
    ∀ name ∈ NameMap.names plan.updated,
      name ∈ NameMap.names existing ∧ existing.lookup name = some (some .int) := by
  obtain ⟨_, hCovers, _⟩ := make_eq_ok_iff.mp h
  have hAdded := names_added_of_make h
  refine ⟨?_, fun name hName => ?_, fun name hName => ?_⟩
  · rw [hAdded]
    refine List.filter_congr fun name hMem => ?_
    obtain ⟨raw, hRaw, rfl⟩ := List.mem_map.mp hMem
    rw [typeIn, lookup_withoutKey existing (hHeader raw hRaw)]
  · rw [hAdded, List.mem_filter, Option.isNone_iff_eq_none]
    constructor
    · rintro ⟨hMem, hNone⟩
      obtain ⟨raw, hRaw, rfl⟩ := List.mem_map.mp hMem
      exact ⟨hHeader raw hRaw, (typeIn_eq_none_iff (hHeader raw hRaw) hName).mp hNone⟩
    · rintro ⟨hKey, hUnknown⟩
      exact ⟨hCovers name hName hKey, (typeIn_eq_none_iff hKey hName).mpr hUnknown⟩
  · obtain ⟨column, hColumn, rfl⟩ := List.mem_map.mp hName
    obtain ⟨_, _, hKnown⟩ := of_mem_updated_of_make h hColumn
    exact ⟨List.mem_map_of_mem (NameMap.mem_of_lookup hKnown), hKnown⟩

/-- A table with a key, a column of integers and one whose native type is not known, and a file that has a column
more and a fraction among the integers. -/
theorem make_adds_untyped_and_new :
    ∃ plan, make .dotComma [(rowKeyName, some .int), (['n'], some .int), (['u'], none)]
        [some ['w'], some ['U'], some ['n']] [[some ['x'], some ['t'], some ['2', '.', '5']]] false =
          .ok plan ∧
      NameMap.names plan.added = [['w'], ['u']] ∧ NameMap.names plan.updated = [['n']] ∧
      ['n'] ∉ NameMap.names plan.added ∧
      ['n'] ∈ NameMap.names [(rowKeyName, some ColumnType.int), (['n'], some .int), (['u'], none)] := by
  have hPlan : make .dotComma [(rowKeyName, some .int), (['n'], some .int), (['u'], none)]
      [some ['w'], some ['U'], some ['n']] [[some ['x'], some ['t'], some ['2', '.', '5']]] false = .ok
        { added := [(['w'], .varchar255), (['u'], .boolean)], updated := [(['n'], .float)],
          modifySchema := true, createKey := false, columnNames := [['w'], ['u'], ['n']],
          oldTypes := [none, none, some .int], detectedTypes := [.varchar255, .boolean, .float],
          newTypes := [.varchar255, .boolean, .float] } := by
    decide +kernel
  have hHeader : ∀ raw ∈ [some ['w'], some ['U'], some ['n']], columnName raw ≠ rowKeyName := by
    decide +kernel
  obtain ⟨hAdded, hKnown, hUpdated⟩ := make_adds_untyped _ _ _ _ _ _ hHeader hPlan
  have hColumn := (hUpdated ['n'] (by decide)).1
  refine ⟨_, hPlan, rfl, rfl, fun hMem => ?_, hColumn⟩
  exact absurd ((hKnown _ hColumn).mp hMem).2 (by decide)

/-- The only column of a table is planned as an addition to it, and the plan is carried out, since its native
type is not known. -/
theorem make_adds_column_of_unknown_type :
    ∃ plan, make .dotComma [(['n'], none)] [some ['n']] [[some ['5']]] false = .ok plan ∧
      ['n'] ∈ NameMap.names [(['n'], (none : Option ColumnType))] ∧
      ['n'] ∈ NameMap.names plan.added ∧ plan.modifySchema = true := by
  have hPlan : make .dotComma [(['n'], none)] [some ['n']] [[some ['5']]] false = .ok
      { added := [(['n'], .int)], updated := [], modifySchema := true, createKey := false,
        columnNames := [['n']], oldTypes := [none], detectedTypes := [.int], newTypes := [.int] } := by
    decide +kernel
  exact ⟨_, hPlan, by decide, by decide, rfl⟩

end CsvIntake.MigrationPlan
