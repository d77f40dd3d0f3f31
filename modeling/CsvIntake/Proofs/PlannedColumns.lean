import CsvIntake.Proofs.CheckedHeaders
import CsvIntake.Proofs.Planning
import CsvIntake.Proofs.UploadTables

/-! The columns of a plan for a table made from a file. The plan adds the columns of the file that the table
lacks, in the order of the header, and updates those whose type changes. -/
namespace CsvIntake

/-! ### Added and updated columns -/

namespace ColumnChanges

/-- The columns among entries of name, old and new type that have no old type. -/
def addedIn (entries : List (Text × Option ColumnType × ColumnType)) : Schema :=
  entries.filterMap fun entry =>
    match entry.2.1 with
    | none => some (entry.1, entry.2.2)
    | some _ => none

/-- The columns among entries of name, old and new type that change their type. -/
def updatedIn (entries : List (Text × Option ColumnType × ColumnType)) : Schema :=
  entries.filterMap fun entry =>
    match entry.2.1 with
    | none => none
    | some t => if t = entry.2.2 then none else some (entry.1, entry.2.2)

/-- Columns of distinct names are entered in their order. -/
theorem enterAll_eq {changes : ColumnChanges} {names : List Text} {olds : List (Option ColumnType)}
    {news : List ColumnType} (hDistinct : names.Nodup)
    (hAdded : ∀ name ∈ names, name ∉ NameMap.names changes.added)
    (hUpdated : ∀ name ∈ names, name ∉ NameMap.names changes.updated) :
    enterAll changes names olds news =
      ⟨changes.added ++ addedIn (names.zip (olds.zip news)),
        changes.updated ++ updatedIn (names.zip (olds.zip news))⟩ := by
  induction names generalizing changes olds news with
  | nil => simp [enterAll, addedIn, updatedIn]
  | cons name names ih =>
      obtain ⟨hFirst, hRest⟩ := List.nodup_cons.mp hDistinct
      obtain ⟨hNew, hAdded⟩ := List.forall_mem_cons.mp hAdded
      obtain ⟨hSame, hUpdated⟩ := List.forall_mem_cons.mp hUpdated
      cases olds with
      | nil => simp [enterAll, addedIn, updatedIn]
      | cons old olds =>
          cases news with
          | nil => simp [enterAll, addedIn, updatedIn]
          | cons new news =>
              have hLater : ∀ (m : Schema), (∀ other ∈ names, other ∉ NameMap.names m) →
                  ∀ other ∈ names, other ∉ NameMap.names (m ++ [(name, new)]) := by
                intro m hm other hMem hAgain
                rw [NameMap.names, List.map_append, List.mem_append] at hAgain
                rcases hAgain with hAgain | hAgain
                · exact hm other hMem hAgain
                · rw [List.map_singleton, List.mem_singleton] at hAgain
                  rw [hAgain] at hMem
                  exact hFirst hMem
              rw [enterAll]
              cases old with
              | none =>
                  have hOthers := @ih ⟨changes.added ++ [(name, new)], changes.updated⟩ olds news
                    hRest (hLater _ hAdded) hUpdated
                  rw [enter, NameMap.put_of_not_mem hNew, hOthers]
                  simp [addedIn, updatedIn]
              | some t =>
                  by_cases hType : t = new
                  · rw [enter, if_pos hType, ih hRest hAdded hUpdated]
                    simp [addedIn, updatedIn, hType]
                  · have hOthers := @ih ⟨changes.added, changes.updated ++ [(name, new)]⟩ olds news
                      hRest hAdded (hLater _ hUpdated)
                    rw [enter, if_neg hType, NameMap.put_of_not_mem hSame, hOthers]
                    simp [addedIn, updatedIn, hType]

/-- From nothing on, all columns of unknown type are added and all of another type updated. -/
theorem enterAll_nil {names : List Text} (hDistinct : names.Nodup)
    (olds : List (Option ColumnType)) (news : List ColumnType) :
    enterAll ⟨[], []⟩ names olds news =
      ⟨addedIn (names.zip (olds.zip news)), updatedIn (names.zip (olds.zip news))⟩ := by
  rw [enterAll_eq hDistinct (fun _ _ => List.not_mem_nil) fun _ _ => List.not_mem_nil]
  rfl

variable {entries : List (Text × Option ColumnType × ColumnType)} {name : Text} {new : ColumnType}

/-- The added columns are those whose type was not known. -/
theorem mem_addedIn_iff : (name, new) ∈ addedIn entries ↔ (name, none, new) ∈ entries := by
  rw [addedIn, List.mem_filterMap]
  constructor
  · rintro ⟨⟨other, old, type⟩, hMem, hEntry⟩
    cases old with
    | none =>
        cases hEntry
        exact hMem
    | some t => cases hEntry
  · intro hMem
    exact ⟨_, hMem, rfl⟩

/-- The updated columns are those whose type was known to be another one. -/
theorem mem_updatedIn_iff :
    (name, new) ∈ updatedIn entries ↔ ∃ t, t ≠ new ∧ (name, some t, new) ∈ entries := by
  rw [updatedIn, List.mem_filterMap]
  constructor
  · rintro ⟨⟨other, old, type⟩, hMem, hEntry⟩
    cases old with
    | none => cases hEntry
    | some t =>
        dsimp only at hEntry
        split at hEntry
        · cases hEntry
        · rename_i hType
          cases hEntry
          exact ⟨t, hType, hMem⟩
  · rintro ⟨t, hType, hMem⟩
    exact ⟨_, hMem, by simp [hType]⟩

/-- The added columns keep the order of the file. -/
theorem names_addedIn {known : Text → Option ColumnType}
    (h : ∀ entry ∈ entries, entry.2.1 = known entry.1) :
    NameMap.names (addedIn entries) = (entries.map Prod.fst).filter fun name => (known name).isNone := by
  induction entries with
  | nil => rfl
  | cons entry entries ih =>
      obtain ⟨hFirst, hRest⟩ := List.forall_mem_cons.mp h
      have ih := ih hRest
      rw [List.map_cons, List.filter_cons, ← hFirst, ← ih]
      cases hOld : entry.2.1 <;> simp [addedIn, hOld, NameMap.names]

/-- Of columns whose old types are known by name those are added that have none. -/
theorem names_addedIn_zip {names : List Text} {known : Text → Option ColumnType} {news : List ColumnType}
    (hNews : news.length = names.length) :
    NameMap.names (addedIn (names.zip ((names.map known).zip news))) =
      names.filter fun name => (known name).isNone := by
  have hOld : ∀ entry ∈ names.zip ((names.map known).zip news), entry.2.1 = known entry.1 := by
    intro entry hMem
    obtain ⟨i, hi⟩ := List.mem_iff_getElem?.mp hMem
    obtain ⟨hName, hTypes⟩ := List.getElem?_zip_eq_some.mp hi
    have hType := (List.getElem?_zip_eq_some.mp hTypes).1
    rw [List.getElem?_map, hName] at hType
    exact (Option.some.inj hType).symm
  have hNames : (names.zip ((names.map known).zip news)).map Prod.fst = names := by
    apply List.map_fst_zip
    simp [hNews]
  rw [names_addedIn hOld, hNames]

/-- Columns that are found among entries have their names, in their order. -/
theorem names_filterMap_sublist {f : Text × Option ColumnType × ColumnType → Option (Text × ColumnType)}
    (h : ∀ entry column, f entry = some column → column.1 = entry.1) :
    (NameMap.names (entries.filterMap f)).Sublist (entries.map Prod.fst) := by
  induction entries with
  | nil => exact .slnil
  | cons entry entries ih =>
      rw [List.map_cons, List.filterMap_cons]
      cases hEntry : f entry with
      | none => exact ih.cons _
      | some column =>
          rw [NameMap.names, List.map_cons, h entry column hEntry]
          exact ih.cons_cons _

theorem names_addedIn_sublist :
    (NameMap.names (addedIn entries)).Sublist (entries.map Prod.fst) := by
  apply names_filterMap_sublist
  rintro ⟨other, old, type⟩ column hColumn
  cases old with
  | none => rw [← Option.some.inj hColumn]
  | some t => cases hColumn

theorem names_updatedIn_sublist :
    (NameMap.names (updatedIn entries)).Sublist (entries.map Prod.fst) := by
  apply names_filterMap_sublist
  rintro ⟨other, old, type⟩ column hColumn
  cases old with
  | none => cases hColumn
  | some t =>
      dsimp only at hColumn
      split at hColumn
      · cases hColumn
      · rw [← Option.some.inj hColumn]

/-- Nothing changes exactly if every entry has its new type already. -/
theorem changes_eq_nil_iff :
    addedIn entries = [] ∧ updatedIn entries = [] ↔
      ∀ name old new, (name, old, new) ∈ entries → old = some new := by
  simp only [List.eq_nil_iff_forall_not_mem, Prod.forall, mem_addedIn_iff, mem_updatedIn_iff]
  constructor
  · rintro ⟨hAdded, hUpdated⟩ name old new hMem
    cases old with
    | none => exact absurd hMem (hAdded name new)
    | some t =>
        by_contra hType
        exact hUpdated name new ⟨t, fun hSame => hType (congrArg some hSame), hMem⟩
  · intro h
    constructor
    · intro name new hMem
      cases h name none new hMem
    · rintro name new ⟨t, hType, hMem⟩
      exact hType (Option.some.inj (h name (some t) new hMem))

/-- Nothing changes exactly if the old types are the new ones. -/
theorem changes_zip_eq_nil_iff {names : List Text} {olds : List (Option ColumnType)}
    {news : List ColumnType} (hOlds : olds.length = names.length) (hNews : news.length = names.length) :
    addedIn (names.zip (olds.zip news)) = [] ∧ updatedIn (names.zip (olds.zip news)) = [] ↔
      olds = news.map some := by
  rw [changes_eq_nil_iff]
  constructor
  · intro h
    apply List.ext_getElem
    · rw [List.length_map, hOlds, hNews]
    · intro i hOld hNew
      rw [List.length_map] at hNew
      have hName : i < names.length := hOlds ▸ hOld
      rw [List.getElem_map]
      apply h names[i] olds[i] news[i]
      rw [List.mem_iff_getElem?]
      refine ⟨i, ?_⟩
      simp [List.getElem?_zip_eq_some]
  · rintro rfl name old new hMem
    obtain ⟨i, hi⟩ := List.mem_iff_getElem?.mp hMem
    rw [List.getElem?_zip_eq_some, List.getElem?_zip_eq_some, List.getElem?_map] at hi
    obtain ⟨_, hOld, hNew⟩ := hi
    rw [hNew] at hOld
    exact (Option.some.inj hOld).symm

/-- Entries of distinct names are found by their names. -/
theorem eq_of_mem_entries {old other : Option ColumnType} {type : ColumnType}
    (hDistinct : (entries.map Prod.fst).Nodup) (h : (name, old, new) ∈ entries)
    (hOther : (name, other, type) ∈ entries) :
    other = old ∧ type = new := by
  have hSame : (name, other, type) = (name, old, new) :=
    List.inj_on_of_nodup_map hDistinct hOther h rfl
  simpa using hSame

/-- A column is added with its new type if it has no old one. -/
theorem lookup_addedIn {old : Option ColumnType} (hDistinct : (entries.map Prod.fst).Nodup)
    (h : (name, old, new) ∈ entries) :
    (addedIn entries).lookup name = if old = none then some new else none := by
  have hNames : (NameMap.names (addedIn entries)).Nodup := names_addedIn_sublist.nodup hDistinct
  split
  · rename_i hOld
    rw [NameMap.lookup_eq_some_iff hNames, mem_addedIn_iff, ← hOld]
    exact h
  · rename_i hOld
    rw [Option.eq_none_iff_forall_ne_some]
    intro type hType
    rw [NameMap.lookup_eq_some_iff hNames, mem_addedIn_iff] at hType
    exact hOld (eq_of_mem_entries hDistinct h hType).1.symm

/-- A column is updated to its new type if it has another one. -/
theorem lookup_updatedIn {old : Option ColumnType} (hDistinct : (entries.map Prod.fst).Nodup)
    (h : (name, old, new) ∈ entries) :
    (updatedIn entries).lookup name = if old = none ∨ old = some new then none else some new := by
  have hNames : (NameMap.names (updatedIn entries)).Nodup := names_updatedIn_sublist.nodup hDistinct
  split
  · rename_i hOld
    rw [Option.eq_none_iff_forall_ne_some]
    intro type hType
    rw [NameMap.lookup_eq_some_iff hNames, mem_updatedIn_iff] at hType
    obtain ⟨t, hDifferent, hMem⟩ := hType
    obtain ⟨rfl, rfl⟩ := eq_of_mem_entries hDistinct h hMem
    rcases hOld with hOld | hOld
    · cases hOld
    · exact hDifferent (Option.some.inj hOld)
  · rename_i hOld
    rw [not_or] at hOld
    obtain ⟨t, rfl⟩ := Option.ne_none_iff_exists'.mp hOld.1
    rw [NameMap.lookup_eq_some_iff hNames, mem_updatedIn_iff]
    exact ⟨t, fun hSame => hOld.2 (congrArg some hSame), h⟩

end ColumnChanges

/-! ### The plan of some columns -/

namespace MigrationPlan

/-- The type that a plan takes a column to have. The key is left out, as if the table had none. -/
def typeIn (existing : NameMap (Option ColumnType)) (name : Text) : Option ColumnType :=
  ((existing.filter fun column => column.1 != rowKeyName).lookup name).join

theorem lookup_withoutKey (existing : NameMap (Option ColumnType)) {name : Text}
    (hName : name ≠ rowKeyName) :
    (existing.filter fun column => column.1 != rowKeyName).lookup name = existing.lookup name := by
  induction existing with
  | nil => rfl
  | cons column rest ih =>
      by_cases hKey : column.1 = rowKeyName
      · have hOther : (name == column.1) = false := beq_eq_false_iff_ne.mpr (hKey ▸ hName)
        rw [List.filter_cons_of_neg (by simp [hKey]), ih, List.lookup_cons, hOther]
      · rw [List.filter_cons_of_pos (by simp [hKey]), List.lookup_cons, List.lookup_cons, ih]

theorem typeIn_eq_some_iff {existing : NameMap (Option ColumnType)} {name : Text} {t : ColumnType} :
    typeIn existing name = some t ↔
      name ≠ rowKeyName ∧ existing.lookup name = some (some t) := by
  rw [typeIn, Option.join_eq_some_iff]
  constructor
  · intro h
    have hName : name ≠ rowKeyName :=
      bne_iff_ne.mp (List.mem_filter.mp (NameMap.mem_of_lookup h)).2
    rw [lookup_withoutKey existing hName] at h
    exact ⟨hName, h⟩
  · rintro ⟨hName, h⟩
    rw [lookup_withoutKey existing hName, h]

/-- The plan for columns that have the types `old`, if `detected` are the types found in the rows. -/
def ofColumns (names : List Text) (old : List (Option ColumnType)) (detected : List ColumnType)
    (createKey : Bool) : MigrationPlan :=
  let new := old.zipWith newType detected
  { added := ColumnChanges.addedIn (names.zip (old.zip new))
    updated := ColumnChanges.updatedIn (names.zip (old.zip new))
    modifySchema := old != new.map some && detected == new
    createKey
    columnNames := names
    oldTypes := old
    detectedTypes := detected
    newTypes := new }

/-- A plan is made of the columns of an accepted header alone. -/
theorem make_eq (separators : NumberSeparators) (existing : NameMap (Option ColumnType)) (header : Row)
    (rows : List Row) (createKeys : Bool) :
    make separators existing header rows createKeys =
      (checkHeader (NameMap.names (existing.filter fun column => column.1 != rowKeyName)) header).map
        fun _ => ofColumns (header.map columnName) ((header.map columnName).map (typeIn existing))
          (ColumnType.ofRows separators ((header.map columnName).map (typeIn existing)) rows)
          (createKeys && !(NameMap.names existing).contains rowKeyName) := by
  rw [make]
  dsimp only
  cases hCheck : checkHeader (NameMap.names (existing.filter fun column => column.1 != rowKeyName))
      header with
  | error e => rfl
  | ok accepted =>
      rw [ColumnChanges.enterAll_nil (checkHeader_eq_ok_iff.mp hCheck).1]
      rfl

theorem names_withoutKey_subset_iff {existing : NameMap (Option ColumnType)} {names : List Text} :
    NameMap.names (existing.filter fun column => column.1 != rowKeyName) ⊆ names ↔
      ∀ name ∈ NameMap.names existing, name ≠ rowKeyName → name ∈ names := by
  constructor
  · intro h name hMem hKey
    obtain ⟨column, hColumn, rfl⟩ := List.mem_map.mp hMem
    exact h (List.mem_map_of_mem (List.mem_filter.mpr ⟨hColumn, bne_iff_ne.mpr hKey⟩))
  · intro h name hMem
    obtain ⟨column, hColumn, rfl⟩ := List.mem_map.mp hMem
    obtain ⟨hColumn, hKey⟩ := List.mem_filter.mp hColumn
    exact h _ (List.mem_map_of_mem hColumn) (bne_iff_ne.mp hKey)

/-- A plan is made exactly when the names are distinct and cover the existing columns. -/
theorem make_eq_ok_iff {separators : NumberSeparators} {existing : NameMap (Option ColumnType)}
    {header : Row} {rows : List Row} {createKeys : Bool} {plan : MigrationPlan} :
    make separators existing header rows createKeys = .ok plan ↔
      (header.map columnName).Nodup ∧
      (∀ name ∈ NameMap.names existing, name ≠ rowKeyName → name ∈ header.map columnName) ∧
      plan = ofColumns (header.map columnName) ((header.map columnName).map (typeIn existing))
        (ColumnType.ofRows separators ((header.map columnName).map (typeIn existing)) rows)
        (createKeys && !(NameMap.names existing).contains rowKeyName) := by
  rw [← names_withoutKey_subset_iff, ← and_assoc, ← checkHeader_eq_ok_iff, make_eq]
  cases checkHeader (NameMap.names (existing.filter fun column => column.1 != rowKeyName)) header with
  | error e => simp [Except.map]
  | ok accepted => simp [Except.map, eq_comm]

end MigrationPlan

/-! ### Plans for a table -/

/-- The type that a column of a table is known to have. -/
def Table.knownType? (t : Table) (name : Text) : Option ColumnType :=
  (t.columns.find? fun c => c.name == name).map fun c => c.type.meaning

/-- The known type of a column is what its native type means. -/
theorem Table.IsUpload.knownType?_of_mem {t : Table} (ht : t.IsUpload) {c : Column}
    (hc : c ∈ t.columns) : t.knownType? c.name = some c.type.meaning := by
  rw [knownType?]
  cases hFind : t.columns.find? fun d => d.name == c.name with
  | none => simpa using List.find?_eq_none.mp hFind c hc
  | some d =>
      have hName : d.name = c.name := by simpa using List.find?_some hFind
      rw [List.inj_on_of_nodup_map ht.distinct (List.mem_of_find?_eq_some hFind) hc hName]
      rfl

/-- No type is known of the columns that a table does not have. -/
theorem Table.knownType?_eq_none_iff {t : Table} {name : Text} :
    t.knownType? name = none ↔ name ∉ t.columns.map Column.name := by
  rw [knownType?, Option.map_eq_none_iff, List.find?_eq_none]
  simp

/-- A plan takes the columns of a table to have the types that they are known to have. -/
theorem Table.typeIn_known (t : Table) {name : Text} (hName : name ≠ rowKeyName) :
    MigrationPlan.typeIn (t.columns.map fun c => (c.name, some c.type.meaning)) name =
      t.knownType? name := by
  rw [MigrationPlan.typeIn, MigrationPlan.lookup_withoutKey _ hName, knownType?]
  induction t.columns with
  | nil => rfl
  | cons c columns ih =>
      rw [List.map_cons, List.lookup_cons, List.find?_cons, Bool.beq_comm]
      cases c.name == name with
      | true => rfl
      | false => exact ih

namespace MigrationPlan

/-- What a plan says of a table and a header. -/
structure IsFor (plan : MigrationPlan) (t : Table) (header : Row) : Prop where
  columnNames : plan.columnNames = header.map columnName
  distinct : plan.columnNames.Nodup
  proper : ∀ name ∈ plan.columnNames, IsColumnName name ∧ name ≠ rowKeyName
  covers : ∀ name ∈ t.columns.map Column.name, name ≠ rowKeyName → name ∈ plan.columnNames
  oldTypes : plan.oldTypes = plan.columnNames.map t.knownType?
  newTypes : plan.newTypes.length = plan.columnNames.length
  added : plan.added =
    ColumnChanges.addedIn (plan.columnNames.zip (plan.oldTypes.zip plan.newTypes))
  updated : plan.updated =
    ColumnChanges.updatedIn (plan.columnNames.zip (plan.oldTypes.zip plan.newTypes))
  createKey : plan.createKey = false

/-- A plan that is made from a table and a header is one for them. -/
theorem isFor_of_make {separators : NumberSeparators} {t : Table} (ht : t.IsUpload) {header : Row}
    (hHeader : ∀ raw ∈ header, columnName raw ≠ rowKeyName) {rows : List Row} {createKeys : Bool}
    {plan : MigrationPlan}
    (h : make separators (t.columns.map fun c => (c.name, some c.type.meaning)) header rows
      createKeys = .ok plan) : plan.IsFor t header := by
  obtain ⟨hDistinct, hCovers, rfl⟩ := make_eq_ok_iff.mp h
  constructor
  · rfl
  · exact hDistinct
  · intro name hMem
    obtain ⟨raw, hRaw, rfl⟩ := List.mem_map.mp hMem
    exact ⟨isColumnName_columnName raw, hHeader raw hRaw⟩
  · intro name hMem hKey
    obtain ⟨c, hc, rfl⟩ := List.mem_map.mp hMem
    refine hCovers c.name ?_ hKey
    exact List.mem_map.mpr ⟨(c.name, some c.type.meaning), List.mem_map_of_mem hc, rfl⟩
  · refine List.map_congr_left fun name hName => ?_
    obtain ⟨raw, hRaw, rfl⟩ := List.mem_map.mp hName
    exact t.typeIn_known (hHeader raw hRaw)
  · simp [ofColumns, ColumnType.length_ofRows]
  · rfl
  · rfl
  · have hKey : rowKeyName ∈ NameMap.names (t.columns.map fun c => (c.name, some c.type.meaning)) := by
      rw [NameMap.names, List.map_map, List.mem_map]
      exact ⟨_, List.mem_of_mem_head? ht.key, rfl⟩
    simp [ofColumns, hKey]

namespace IsFor

variable {plan : MigrationPlan} {t : Table} {header : Row}

/-- The entries of a plan are its columns with the type that is known of each and the new one. -/
theorem mem_entries_iff (h : plan.IsFor t header) {name : Text} {old : Option ColumnType}
    {new : ColumnType} :
    (name, old, new) ∈ plan.columnNames.zip (plan.oldTypes.zip plan.newTypes) ↔
      old = t.knownType? name ∧
        ∃ i : Nat, plan.columnNames[i]? = some name ∧ plan.newTypes[i]? = some new := by
  simp only [List.mem_iff_getElem?, List.getElem?_zip_eq_some, h.oldTypes, List.getElem?_map]
  constructor
  · rintro ⟨i, hName, hOld, hNew⟩
    rw [hName] at hOld
    exact ⟨(Option.some.inj hOld).symm, i, hName, hNew⟩
  · rintro ⟨rfl, i, hName, hNew⟩
    exact ⟨i, hName, by rw [hName]; rfl, hNew⟩

theorem map_fst_entries (h : plan.IsFor t header) :
    (plan.columnNames.zip (plan.oldTypes.zip plan.newTypes)).map Prod.fst = plan.columnNames := by
  apply List.map_fst_zip
  simp [h.oldTypes, h.newTypes]

/-- The added columns are those that the table lacks, in the order of the header. -/
theorem names_added (h : plan.IsFor t header) :
    NameMap.names plan.added =
      plan.columnNames.filter fun name => !(t.columns.map Column.name).contains name := by
  rw [h.added, h.oldTypes, ColumnChanges.names_addedIn_zip h.newTypes]
  refine List.filter_congr fun name _ => ?_
  rw [Bool.eq_iff_iff, Option.isNone_iff_eq_none, Table.knownType?_eq_none_iff]
  simp

theorem names_updated_sublist (h : plan.IsFor t header) :
    (NameMap.names plan.updated).Sublist plan.columnNames := by
  rw [← h.map_fst_entries, h.updated]
  exact ColumnChanges.names_updatedIn_sublist

theorem nodup_names_added (h : plan.IsFor t header) : (NameMap.names plan.added).Nodup := by
  rw [h.names_added]
  exact h.distinct.filter _

theorem nodup_names_updated (h : plan.IsFor t header) : (NameMap.names plan.updated).Nodup :=
  h.names_updated_sublist.nodup h.distinct

theorem isColumnName_of_mem_added (h : plan.IsFor t header) {column : Text × ColumnType}
    (hMem : column ∈ plan.added) : IsColumnName column.1 := by
  have hName : column.1 ∈ NameMap.names plan.added := List.mem_map_of_mem hMem
  rw [h.names_added] at hName
  exact (h.proper _ (List.mem_of_mem_filter hName)).1

/-- The updated columns have column names other than the key. -/
theorem of_mem_updated (h : plan.IsFor t header) {column : Text × ColumnType}
    (hMem : column ∈ plan.updated) : IsColumnName column.1 ∧ column.1 ≠ rowKeyName :=
  h.proper _ (h.names_updated_sublist.subset (List.mem_map_of_mem hMem))

/-- A plan adds exactly the columns that the table does not have, with their new types. -/
theorem lookup_added_iff (h : plan.IsFor t header) {name : Text} {new : ColumnType} :
    plan.added.lookup name = some new ↔ t.knownType? name = none ∧
      ∃ i : Nat, plan.columnNames[i]? = some name ∧ plan.newTypes[i]? = some new := by
  rw [NameMap.lookup_eq_some_iff h.nodup_names_added, h.added, ColumnChanges.mem_addedIn_iff,
    h.mem_entries_iff]
  exact and_congr_left fun _ => eq_comm

/-- A plan updates exactly the columns whose known type is not the new one. -/
theorem lookup_updated_iff (h : plan.IsFor t header) {name : Text} {new : ColumnType} :
    plan.updated.lookup name = some new ↔ (∃ old, old ≠ new ∧ t.knownType? name = some old) ∧
      ∃ i : Nat, plan.columnNames[i]? = some name ∧ plan.newTypes[i]? = some new := by
  rw [NameMap.lookup_eq_some_iff h.nodup_names_updated, h.updated, ColumnChanges.mem_updatedIn_iff]
  constructor
  · rintro ⟨old, hOld, hMem⟩
    obtain ⟨hKnown, hPlace⟩ := h.mem_entries_iff.mp hMem
    exact ⟨⟨old, hOld, hKnown.symm⟩, hPlace⟩
  · rintro ⟨⟨old, hOld, hKnown⟩, hPlace⟩
    exact ⟨old, hOld, h.mem_entries_iff.mpr ⟨hKnown.symm, hPlace⟩⟩

/-- No existing column is added. -/
theorem lookup_added_of_known (h : plan.IsFor t header) {name : Text} {old : ColumnType}
    (hKnown : t.knownType? name = some old) : plan.added.lookup name = none := by
  rw [Option.eq_none_iff_forall_ne_some]
  intro new hNew
  rw [(h.lookup_added_iff.mp hNew).1] at hKnown
  cases hKnown

/-- No missing column is updated. -/
theorem lookup_updated_of_not_known (h : plan.IsFor t header) {name : Text}
    (hKnown : t.knownType? name = none) : plan.updated.lookup name = none := by
  rw [Option.eq_none_iff_forall_ne_some]
  intro new hNew
  obtain ⟨⟨old, _, hOld⟩, _⟩ := h.lookup_updated_iff.mp hNew
  rw [hKnown] at hOld
  cases hOld

/-- A column that has its new type already is not updated. -/
theorem lookup_updated_of_same (h : plan.IsFor t header) {i : Nat} {name : Text} {new : ColumnType}
    (hName : plan.columnNames[i]? = some name) (hNew : plan.newTypes[i]? = some new)
    (hKnown : t.knownType? name = some new) : plan.updated.lookup name = none := by
  have hMem := h.mem_entries_iff.mpr ⟨hKnown.symm, i, hName, hNew⟩
  rw [h.updated, ColumnChanges.lookup_updatedIn _ hMem, if_pos (.inr rfl)]
  rw [h.map_fst_entries]
  exact h.distinct

/-- A plan that finds the columns as they are changes nothing. -/
theorem no_changes (h : plan.IsFor t header) (hSame : plan.oldTypes = plan.newTypes.map some) :
    plan.added = [] ∧ plan.updated = [] := by
  rw [h.added, h.updated, ColumnChanges.changes_zip_eq_nil_iff _ h.newTypes]
  · exact hSame
  · rw [h.oldTypes, List.length_map]

end IsFor

end MigrationPlan

/-- What the database tells of the columns of a table. -/
theorem Database.knownTypes_around {name : Text} {others : OtherTables name} {t : Table}
    (ht : t.IsUpload) (hName : t.name = name) :
    (others.around t).knownTypes name = t.columns.map fun c => (c.name, some c.type.meaning) := by
  have hPairs : ((others.around t).columnTypes name).map (fun column =>
      (columnName (some column.1), ColumnType.ofNativeName? (some column.2.toList))) =
        t.columns.map fun c => (c.name, some c.type.meaning) := by
    rw [columnTypes, table?_around hName, List.map_map]
    refine List.map_congr_left fun c hc => ?_
    simp only [Function.comp_apply, (ht.names _ (List.mem_map_of_mem hc)).columnName_eq,
      NativeType.ofNativeName?_name]
  rw [knownTypes, hPairs, NameMap.ofPairs_of_nodup]
  rw [NameMap.names, List.map_map]
  exact ht.distinct

/-! ### Updated columns -/

namespace MigrationPlan

/-- The types of columns change from `int` to `float` only. -/
theorem newType_ne {t detected : ColumnType} (h : newType (some t) detected ≠ t) :
    t = .int ∧ newType (some t) detected = .float := by
  simp only [newType, matchesOrUpgrades, Bool.or_eq_true, beq_iff_eq, List.contains_iff_mem] at h ⊢
  split at h
  · rename_i hAllowed
    rw [if_pos hAllowed]
    have hUpgrade := hAllowed.resolve_left (Ne.symm h)
    cases t with
    | int => exact ⟨rfl, List.mem_singleton.mp hUpgrade⟩
    | _ => cases hUpgrade
  · exact absurd rfl h

/-- The only update of a plan makes a whole-number column one of decimal numbers. -/
theorem of_mem_updated_of_make {separators : NumberSeparators} {existing : NameMap (Option ColumnType)}
    {header : Row} {rows : List Row} {createKeys : Bool} {plan : MigrationPlan}
    (h : make separators existing header rows createKeys = .ok plan) {column : Text × ColumnType}
    (hColumn : column ∈ plan.updated) :
    column.2 = .float ∧ column.1 ≠ rowKeyName ∧ existing.lookup column.1 = some (some .int) := by
  obtain ⟨_, _, rfl⟩ := make_eq_ok_iff.mp h
  obtain ⟨old, hDifferent, hEntry⟩ := ColumnChanges.mem_updatedIn_iff.mp hColumn
  obtain ⟨i, hi⟩ := List.mem_iff_getElem?.mp hEntry
  obtain ⟨hName, hTypes⟩ := List.getElem?_zip_eq_some.mp hi
  obtain ⟨hOld, hNew⟩ := List.getElem?_zip_eq_some.mp hTypes
  obtain ⟨current, detected, hCurrent, _, hMade⟩ := List.getElem?_zipWith_eq_some.mp hNew
  obtain rfl : current = some old := Option.some.inj (hCurrent.symm.trans hOld)
  obtain ⟨rfl, hFloat⟩ := newType_ne (fun hSame => hDifferent (hSame.symm.trans hMade))
  rw [List.getElem?_map, hName, Option.map_some, Option.some.injEq] at hOld
  obtain ⟨hKey, hKnown⟩ := typeIn_eq_some_iff.mp hOld
  exact ⟨hMade.symm.trans hFloat, hKey, hKnown⟩

end MigrationPlan

end CsvIntake
