import CsvIntake.Proofs.NewTables

/-! The names of the columns that are detected in a file. There is one for each entry of the header, made of
that entry, and no two are equal. They are column names already, so a file that has them in its header can be
appended to the table that is made of them. -/
namespace CsvIntake

/-- A name is the one that is made of a raw name, with or without a number after it. -/
def IsNameOf (raw : Option Text) (name : Text) : Prop :=
  name = columnName raw ∨ ∃ k, name = numbered (columnName raw) k

/-- Each name is made of the entry at its place, whatever has been seen before. -/
theorem forall₂_uniquifyFrom (taken seen : List Text) (header : Row) :
    List.Forall₂ IsNameOf header (uniquifyFrom taken seen (header.map columnName)) := by
  induction header generalizing taken seen with
  | nil => exact .nil
  | cons raw header ih =>
      rw [List.map_cons, uniquifyFrom]
      split
      · exact .cons (.inr ⟨_, rfl⟩) (ih _ _)
      · exact .cons (.inl rfl) (ih _ _)

/-- Distinct column names are accepted as the header of a file for a table that has them. -/
theorem checkHeader_self {names : List Text} (hDistinct : names.Nodup)
    (hNames : ∀ name ∈ names, IsColumnName name) : checkHeader names (names.map some) = .ok () := by
  have hFixed : (names.map some).map columnName = names := by
    rw [List.map_map]
    exact (List.map_congr_left fun name hName => (hNames name hName).columnName_eq).trans (List.map_id names)
  rw [checkHeader_eq_ok_iff, hFixed]
  exact ⟨hDistinct, List.Subset.refl names⟩

/-- The columns that are detected in a file without its key columns are as many as the entries of the header and
in their order. Their names are distinct, have only the characters of column names and at least one, and none is
that of the key, which stands before them in the table. Making column names of them changes nothing, so they are
accepted as the header of a file that is appended to that table. -/
theorem DetectedSchema.detect_names_stable (separators : NumberSeparators) (header : Row) (rows : List Row) :
    let kept := headerWithoutKeys header
    let schema := detect separators kept rows
    let names := NameMap.names schema.extant
    (names.length = kept.length ∧ List.Forall₂ IsNameOf kept names) ∧
    names.Nodup ∧
    (∀ name ∈ names, name ≠ [] ∧ (∀ c ∈ name, isSlugChar c = true) ∧ name ≠ rowKeyName ∧
      columnName (some name) = name) ∧
    NameMap.names schema.all = rowKeyName :: names ∧
    checkHeader names (names.map some) = .ok () := by
  intro kept schema names
  have hHeader : KeylessHeader kept := fun _ hMem => columnName_ne_rowKeyName hMem
  have hMade : List.Forall₂ IsNameOf kept names := by
    rw [show names = uniquify (kept.map columnName) from names_detect separators rows]
    exact forall₂_uniquifyFrom _ _ kept
  have hDistinct : names.Nodup := by
    rw [show names = uniquify (kept.map columnName) from names_detect separators rows]
    exact nodup_uniquify _
  have hProper := isColumnName_of_mem_detect separators rows hHeader
  refine ⟨⟨hMade.length_eq.symm, hMade⟩, hDistinct, fun name hName => ?_, ?_, ?_⟩
  · obtain ⟨hName, hKey⟩ := hProper name hName
    exact ⟨hName.nonempty, hName.chars, hKey, hName.columnName_eq⟩
  · exact congrArg NameMap.names (all_detect separators rows hHeader)
  · exact checkHeader_self hDistinct fun name hName => (hProper name hName).1

/-- One name is that of the key in another spelling, and the second `e` may not take the name of a later column. -/
example : NameMap.names (DetectedSchema.detect .dotComma (headerWithoutKeys [some ['É'], some ['e'],
    some "_MB-Row Id".toList, some "e_2".toList, some ['?'], none]) []).extant =
      ["e", "e_3", "e_2", "_", "unnamed_column"].map String.toList := by
  decide +kernel

end CsvIntake
