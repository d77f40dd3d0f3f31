import CsvIntake.Migration
import Mathlib.Data.Char
import Mathlib.Data.List.Lex
import Mathlib.Data.List.NodupEquivFin

/-! What the check of a header finds. A header is refused if two of its entries are made into one name, and
else if a column of the table is not among its names. The failure lists names, each once and in code-point
order, so neither the order of the header nor that of the table's columns shows in what is found. -/
namespace CsvIntake

/-! ### Lists of names -/

/-- Texts are in the order of their characters. -/
theorem Text.le_iff {s t : Text} : le s t = true ↔ s ≤ t := by
  rw [le, Bool.not_eq_true', List.lex_eq_false_iff_not_lex, ← not_lt]
  simp only [decide_eq_true_eq]
  exact Iff.rfl

theorem Text.nodup_eraseDups (names : List Text) : names.eraseDups.Nodup := by
  induction h : names.length using Nat.strong_induction_on generalizing names with
  | _ n ih =>
      cases names with
      | nil => simp
      | cons name names =>
          rw [List.eraseDups_cons, List.nodup_cons]
          constructor
          · simp [List.mem_eraseDups]
          · exact ih _ (h ▸ Nat.lt_succ_of_le (List.length_filter_le ..)) _ rfl

/-- The names with a property, each once and in code-point order. -/
structure IsListing (names : List Text) (P : Text → Prop) : Prop where
  ordered : names.Pairwise (· < ·)
  mem_iff : ∀ name, name ∈ names ↔ P name

namespace IsListing

variable {names others : List Text} {P Q : Text → Prop}

/-- Sorting a list without repetitions lists the same names in their order. -/
theorem sorted (h : ∀ name, name ∈ names ↔ P name) : IsListing (Text.sorted names) P := by
  have hDistinct : (Text.sorted names).Nodup :=
    (List.mergeSort_perm _ _).nodup_iff.mpr (Text.nodup_eraseDups names)
  have hOrdered : (Text.sorted names).Pairwise (· ≤ ·) := by
    refine (List.pairwise_mergeSort ?_ ?_ _).imp Text.le_iff.mp
    · intro s t u hst htu
      rw [Text.le_iff] at hst htu ⊢
      exact hst.trans htu
    · intro s t
      rw [Bool.or_eq_true, Text.le_iff, Text.le_iff]
      exact le_total s t
  constructor
  · exact (hOrdered.and hDistinct).imp fun h => lt_of_le_of_ne h.1 h.2
  · intro name
    rw [Text.sorted, List.mem_mergeSort, List.mem_eraseDups, h]

/-- There is one way only to list the same names. -/
theorem unique (h : IsListing names P) (hOther : IsListing others Q) (hSame : ∀ name, P name ↔ Q name) :
    names = others := by
  have hPerm : names.Perm others := by
    rw [List.perm_ext_iff_of_nodup (h.ordered.imp ne_of_lt) (hOther.ordered.imp ne_of_lt)]
    intro name
    rw [h.mem_iff, hOther.mem_iff, hSame]
  refine hPerm.eq_of_pairwise ?_ h.ordered hOther.ordered
  exact fun _ _ _ _ hLess hGreater => absurd hGreater hLess.asymm

theorem eq_nil_iff (h : IsListing names P) : names = [] ↔ ∀ name, ¬P name := by
  rw [List.eq_nil_iff_forall_not_mem]
  exact forall_congr' fun name => not_congr (h.mem_iff name)

end IsListing

/-! ### What is wrong with a header -/

/-- Entries at two places of the header are made into this name. -/
def IsRepeated (header : Row) (name : Text) : Prop :=
  ∃ i j : Nat, i < j ∧ (header[i]?).map columnName = some name ∧ (header[j]?).map columnName = some name

/-- The table has a column of this name, and the file has none. -/
def IsMissing (existing : List Text) (header : Row) (name : Text) : Prop :=
  name ∈ existing ∧ name ∉ header.map columnName

/-- The file has a column of this name, and the table has none. -/
def IsExtra (existing : List Text) (header : Row) (name : Text) : Prop :=
  name ∈ header.map columnName ∧ name ∉ existing

/-- A name is repeated when more than one field of the header gives it. -/
theorem isRepeated_iff {header : Row} {name : Text} :
    IsRepeated header name ↔ 1 < (header.map columnName).count name := by
  have hTwice : 1 < (header.map columnName).count name ↔
      List.Duplicate name (header.map columnName) := by
    rw [List.duplicate_iff_sublist]
    exact List.replicate_sublist_iff.symm
  rw [hTwice, List.duplicate_iff_exists_distinct_get]
  simp only [IsRepeated, ← List.getElem?_map]
  constructor
  · rintro ⟨i, j, hBefore, hFirst, hSecond⟩
    obtain ⟨hi, hFirst⟩ := List.getElem?_eq_some_iff.mp hFirst
    obtain ⟨hj, hSecond⟩ := List.getElem?_eq_some_iff.mp hSecond
    exact ⟨⟨i, hi⟩, ⟨j, hj⟩, hBefore, hFirst.symm, hSecond.symm⟩
  · rintro ⟨i, j, hBefore, hFirst, hSecond⟩
    refine ⟨i, j, hBefore, ?_, ?_⟩
    · exact List.getElem?_eq_some_iff.mpr ⟨i.isLt, hFirst.symm⟩
    · exact List.getElem?_eq_some_iff.mpr ⟨j.isLt, hSecond.symm⟩

/-- The names of a header are distinct when none of them is repeated. -/
theorem nodup_iff_not_isRepeated {header : Row} :
    (header.map columnName).Nodup ↔ ∀ name, ¬IsRepeated header name := by
  rw [List.nodup_iff_count_le_one]
  exact forall_congr' fun name => by rw [isRepeated_iff, Nat.not_lt]

/-- The header covers the existing columns when none of them is missing. -/
theorem subset_iff_not_isMissing {existing : List Text} {header : Row} :
    existing ⊆ header.map columnName ↔ ∀ name, ¬IsMissing existing header name := by
  simp only [IsMissing, not_and_not_right]
  exact Iff.rfl

/-! ### What the check finds -/

/-- The check decides by the lists of the repeated names and of the missing ones. -/
theorem exists_checkHeader_eq (existing : List Text) (header : Row) :
    ∃ duplicates extra missing, IsListing duplicates (IsRepeated header) ∧
      IsListing extra (IsExtra existing header) ∧ IsListing missing (IsMissing existing header) ∧
      checkHeader existing header =
        if duplicates ≠ [] then .error (.duplicateColumns duplicates)
        else if missing ≠ [] then .error (.schemaMismatch extra missing) else .ok () := by
  refine ⟨_, _, _, .sorted fun name => ?_, .sorted fun name => ?_, .sorted fun name => ?_, rfl⟩
  · rw [List.mem_filter, isRepeated_iff, decide_eq_true_eq]
    exact and_iff_right_of_imp fun h => List.count_pos_iff.mp (Nat.zero_lt_of_lt h)
  · simp [IsExtra]
  · simp [IsMissing]

/-- The repeated names are found first, then the missing columns, and then nothing. -/
theorem checkHeader_cases (existing : List Text) (header : Row) :
    (∃ name, IsRepeated header name) ∧
        (∃ duplicates, IsListing duplicates (IsRepeated header) ∧
          checkHeader existing header = .error (.duplicateColumns duplicates)) ∨
      (∀ name, ¬IsRepeated header name) ∧ (∃ name, IsMissing existing header name) ∧
        (∃ extra missing, IsListing extra (IsExtra existing header) ∧
          IsListing missing (IsMissing existing header) ∧
          checkHeader existing header = .error (.schemaMismatch extra missing)) ∨
      (∀ name, ¬IsRepeated header name) ∧ (∀ name, ¬IsMissing existing header name) ∧
        checkHeader existing header = .ok () := by
  obtain ⟨duplicates, extra, missing, hDuplicates, hExtra, hMissing, hCheck⟩ :=
    exists_checkHeader_eq existing header
  by_cases hDistinct : duplicates = []
  · rw [if_neg (not_not.mpr hDistinct)] at hCheck
    rw [hDuplicates.eq_nil_iff] at hDistinct
    by_cases hAll : missing = []
    · rw [if_neg (not_not.mpr hAll)] at hCheck
      exact .inr (.inr ⟨hDistinct, hMissing.eq_nil_iff.mp hAll, hCheck⟩)
    · rw [if_pos hAll] at hCheck
      rw [hMissing.eq_nil_iff, not_forall_not] at hAll
      exact .inr (.inl ⟨hDistinct, hAll, extra, missing, hExtra, hMissing, hCheck⟩)
  · rw [if_pos hDistinct] at hCheck
    rw [hDuplicates.eq_nil_iff, not_forall_not] at hDistinct
    exact .inl ⟨hDistinct, duplicates, hDuplicates, hCheck⟩

/-- A header is accepted if its names are distinct and no column of the table is missing. -/
theorem checkHeader_eq_ok_iff {existing : List Text} {header : Row} :
    checkHeader existing header = .ok () ↔
      (header.map columnName).Nodup ∧ existing ⊆ header.map columnName := by
  rw [nodup_iff_not_isRepeated, subset_iff_not_isMissing]
  rcases checkHeader_cases existing header with
    ⟨⟨name, hName⟩, _, _, hCheck⟩ | ⟨_, ⟨name, hName⟩, _, _, _, _, hCheck⟩ | ⟨hDistinct, hAll, hCheck⟩
  · simp only [hCheck, reduceCtorEq, false_iff, not_and]
    exact fun hDistinct => absurd hName (hDistinct name)
  · simp only [hCheck, reduceCtorEq, false_iff, not_and]
    exact fun _ hAll => hAll name hName
  · exact iff_of_true hCheck ⟨hDistinct, hAll⟩

/-- The same is found for the same names of columns, in whatever order the header has its entries. -/
theorem checkHeader_congr {existing others : List Text} {header reordered : Row}
    (hExisting : ∀ name, name ∈ others ↔ name ∈ existing) (hHeader : reordered.Perm header) :
    checkHeader others reordered = checkHeader existing header := by
  have hNames := hHeader.map columnName
  obtain ⟨duplicates, extra, missing, hDuplicates, hExtra, hMissing, hCheck⟩ :=
    exists_checkHeader_eq existing header
  obtain ⟨repeated, new, gone, hRepeated, hNew, hGone, hReordered⟩ :=
    exists_checkHeader_eq others reordered
  have hSameRepeated : repeated = duplicates := by
    refine hRepeated.unique hDuplicates fun name => ?_
    rw [isRepeated_iff, isRepeated_iff, hNames.count_eq]
  have hSameNew : new = extra := by
    refine hNew.unique hExtra fun name => ?_
    rw [IsExtra, IsExtra, hNames.mem_iff, hExisting]
  have hSameGone : gone = missing := by
    refine hGone.unique hMissing fun name => ?_
    rw [IsMissing, IsMissing, hNames.mem_iff, hExisting]
  rw [hCheck, hReordered, hSameRepeated, hSameNew, hSameGone]

/-- A header is refused for its repeated names exactly if it has some, and else for missing columns exactly
if some column of the table is not among its names; in all other cases it is accepted. The first failure
lists the repeated names, the second one the missing and the extra ones, each once and in code-point order.
Neither the order of the header nor the order in which the columns of the table are given makes a
difference. -/
theorem checkHeader_outcome (existing : List Text) (header : Row) :
    ((∃ duplicates, checkHeader existing header = .error (.duplicateColumns duplicates)) ↔
      ∃ name, IsRepeated header name) ∧
    (∀ duplicates, checkHeader existing header = .error (.duplicateColumns duplicates) →
      IsListing duplicates (IsRepeated header)) ∧
    ((∃ extra missing, checkHeader existing header = .error (.schemaMismatch extra missing)) ↔
      (∀ name, ¬IsRepeated header name) ∧ ∃ name, IsMissing existing header name) ∧
    (∀ extra missing, checkHeader existing header = .error (.schemaMismatch extra missing) →
      IsListing extra (IsExtra existing header) ∧ IsListing missing (IsMissing existing header)) ∧
    (checkHeader existing header = .ok () ↔
      (∀ name, ¬IsRepeated header name) ∧ ∀ name, ¬IsMissing existing header name) ∧
    ∀ others reordered, (∀ name, name ∈ others ↔ name ∈ existing) → reordered.Perm header →
      checkHeader others reordered = checkHeader existing header := by
  have hOrder : ∀ others reordered, (∀ name, name ∈ others ↔ name ∈ existing) →
      reordered.Perm header → checkHeader others reordered = checkHeader existing header :=
    fun _ _ hExisting hHeader => checkHeader_congr hExisting hHeader
  rcases checkHeader_cases existing header with
    ⟨⟨name, hName⟩, duplicates, hDuplicates, hCheck⟩ |
    ⟨hDistinct, ⟨name, hName⟩, extra, missing, hExtra, hMissing, hCheck⟩ | ⟨hDistinct, hAll, hCheck⟩
  · have hNot : ¬∀ name, ¬IsRepeated header name := fun hDistinct => hDistinct name hName
    rw [hCheck] at hOrder ⊢
    refine ⟨iff_of_true ⟨duplicates, rfl⟩ ⟨name, hName⟩, ?_, ?_, ?_, ?_, hOrder⟩
    · rintro _ ⟨⟩
      exact hDuplicates
    · simp [hNot]
    · rintro _ _ ⟨⟩
    · simp [hNot]
  · have hNot : ¬∃ name, IsRepeated header name := not_exists.mpr hDistinct
    rw [hCheck] at hOrder ⊢
    refine ⟨?_, ?_, iff_of_true ⟨extra, missing, rfl⟩ ⟨hDistinct, name, hName⟩, ?_, ?_, hOrder⟩
    · simp [hNot]
    · rintro _ ⟨⟩
    · rintro _ _ ⟨⟩
      exact ⟨hExtra, hMissing⟩
    · refine iff_of_false ?_ fun h => h.2 name hName
      rintro ⟨⟩
  · rw [hCheck] at hOrder ⊢
    refine ⟨?_, ?_, ?_, ?_, iff_of_true rfl ⟨hDistinct, hAll⟩, hOrder⟩
    · simp [hDistinct]
    · rintro _ ⟨⟩
    · simp [hAll]
    · rintro _ _ ⟨⟩

/-- Three entries are made into `a` and two into `b`, so nothing is said of the missing `z`. -/
example : checkHeader [['z'], ['b']] [some ['b'], some ['A'], some ['B', ' '], some ['a'], some [' ', 'a']] =
    .error (.duplicateColumns [['a'], ['b']]) := by
  cbv

end CsvIntake
