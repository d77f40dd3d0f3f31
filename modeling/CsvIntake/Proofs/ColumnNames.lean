import CsvIntake.Header
import CsvIntake.Proofs.Trimming
import CsvIntake.Store.Table
import Mathlib.Data.List.Nodup
import Mathlib.Data.List.Perm.Subperm
import Mathlib.Order.Bounds.Basic

/-! Names of columns. A column name is made of small letters, digits and underscores, so making a name of
it again changes nothing, and two of them denote the same column only if they are equal. Numbering makes
the names of a header distinct, and none of them is that of the key. -/
namespace CsvIntake

/-- A name as `columnName` makes them. -/
structure IsColumnName (name : Text) : Prop where
  nonempty : name ≠ []
  chars : ∀ c ∈ name, isSlugChar c = true

theorem toNat_of_isSlugChar {c : Char} (h : isSlugChar c = true) :
    (97 ≤ c.toNat ∧ c.toNat ≤ 122) ∨ (48 ≤ c.toNat ∧ c.toNat ≤ 57) ∨ c.toNat = 95 := by
  simp only [isSlugChar, Bool.or_eq_true, decide_eq_true_eq, beq_iff_eq] at h
  rcases h with (h | h) | rfl
  · exact .inl h
  · exact .inr (.inl h)
  · exact .inr (.inr rfl)

theorem toLower_of_isSlugChar {c : Char} (h : isSlugChar c = true) : c.toLower = c := by
  have hRange := toNat_of_isSlugChar h
  apply dif_neg
  rintro ⟨hLow, hHigh⟩
  have hLow : 65 ≤ c.toNat := hLow
  have hHigh : c.toNat ≤ 90 := hHigh
  omega

/-- A character that a name keeps in lower case is a letter of either case, a digit or an underscore. -/
theorem toNat_of_isSlugChar_toLower {c : Char} (h : isSlugChar c.toLower = true) :
    (97 ≤ c.toNat ∧ c.toNat ≤ 122) ∨ (65 ≤ c.toNat ∧ c.toNat ≤ 90) ∨
      (48 ≤ c.toNat ∧ c.toNat ≤ 57) ∨ c.toNat = 95 := by
  by_cases hCapital : 65 ≤ c.toNat ∧ c.toNat ≤ 90
  · exact .inr (.inl hCapital)
  · have hLower : c.toLower = c := dif_neg fun hRange => hCapital hRange
    rw [hLower] at h
    rcases toNat_of_isSlugChar h with hLetter | hOther
    · exact .inl hLetter
    · exact .inr (.inr hOther)

theorem isSpace_eq_false_of_isSlugChar_toLower {c : Char} (h : isSlugChar c.toLower = true) :
    Text.isSpace c = false := by
  have := toNat_of_isSlugChar_toLower h
  simp only [Text.isSpace, decide_eq_false_iff_not]
  omega

theorem foldChar_of_isSlugChar_toLower {c : Char} (h : isSlugChar c.toLower = true) :
    Text.foldChar c = [c] := by
  have hRange := toNat_of_isSlugChar_toLower h
  rw [Text.foldChar, if_pos (by omega)]

theorem isSlugChar_of_isDigit {c : Char} (h : c.isDigit = true) : isSlugChar c = true := by
  simp only [Char.isDigit, Bool.and_eq_true, decide_eq_true_eq] at h
  have hDigit : '0' ≤ c ∧ c ≤ '9' := h
  simp [isSlugChar, hDigit]

/-- Whatever the field of a header holds, the name made of it is a column name. -/
theorem isColumnName_columnName (raw : Option Text) : IsColumnName (columnName raw) := by
  have hUnnamed : IsColumnName unnamedColumn := ⟨by decide, List.all_eq_true.mp (by decide)⟩
  cases raw with
  | none => exact hUnnamed
  | some s =>
      rw [columnName]
      split
      · exact hUnnamed
      · rename_i hName
        refine ⟨?_, fun c hc => isSlugChar_of_mem_slug hc⟩
        intro hEmpty
        simp [hEmpty] at hName

theorem isColumnName_rowKeyName : IsColumnName rowKeyName :=
  ⟨by decide, List.all_eq_true.mp (by decide)⟩

namespace IsColumnName

variable {name other : Text}

theorem lowerAscii_eq (h : IsColumnName name) : Text.lowerAscii name = name := by
  rw [Text.lowerAscii, List.map_congr_left fun c hc => toLower_of_isSlugChar (h.chars c hc)]
  exact List.map_id' name

theorem isSlugChar_toLower (h : IsColumnName (Text.lowerAscii name)) {c : Char} (hc : c ∈ name) :
    isSlugChar c.toLower = true :=
  h.chars _ (List.mem_map_of_mem hc)

/-- The slug of a column name written in any case is that name. -/
theorem slug_eq (h : IsColumnName (Text.lowerAscii name)) : slug name = Text.lowerAscii name := by
  have hFold : Text.asciiFold name = name := by
    rw [Text.asciiFold,
      List.flatMap_congr fun c hc => foldChar_of_isSlugChar_toLower (h.isSlugChar_toLower hc)]
    simp
  rw [slug, hFold]
  conv_rhs => rw [← List.map_id (Text.lowerAscii name)]
  apply List.map_congr_left
  intro c hc
  simp [h.chars c hc]

theorem trim_eq (h : IsColumnName (Text.lowerAscii name)) : Text.trim name = name :=
  Text.trim_eq_self fun _ hc =>
    isSpace_eq_false_of_isSlugChar_toLower (h.isSlugChar_toLower hc)

/-- A name that is a column name in lower case is made that column name. -/
theorem columnName_eq_lowerAscii (h : IsColumnName (Text.lowerAscii name)) :
    columnName (some name) = Text.lowerAscii name := by
  have hNonempty : name ≠ [] := by
    rintro rfl
    exact h.nonempty rfl
  have hBlank : Text.isBlank name = false := by
    rw [← Bool.not_eq_true, ← Text.trim_eq_nil_iff, h.trim_eq]
    exact hNonempty
  rw [columnName]
  simp [hBlank, h.trim_eq, h.slug_eq, h.nonempty]

/-- Making a column name of a column name changes nothing. -/
theorem columnName_eq (h : IsColumnName name) : columnName (some name) = name := by
  have hLower := h.lowerAscii_eq
  rw [columnName_eq_lowerAscii (hLower.symm ▸ h), hLower]

/-- A name that denotes the same as a column name is made that column name. -/
theorem columnName_of_sameIdentifier (h : IsColumnName other) (hSame : sameIdentifier name other = true) :
    columnName (some name) = other := by
  rw [sameIdentifier, beq_iff_eq, h.lowerAscii_eq] at hSame
  rw [columnName_eq_lowerAscii (hSame.symm ▸ h), hSame]

/-- In statements column names stand for themselves. -/
theorem sameIdentifier_eq (h : IsColumnName name) (hOther : IsColumnName other) :
    sameIdentifier name other = (name == other) := by
  rw [sameIdentifier, h.lowerAscii_eq, hOther.lowerAscii_eq]

end IsColumnName

/-! ### Numbered names -/

theorem ofNat_ne_nil (n : Nat) : Text.ofNat n ≠ [] :=
  Nat.toDigits_ne_nil

theorem ofNat_injective : Function.Injective Text.ofNat := by
  intro m n h
  have hValue := congrArg (fun digits => Nat.ofDigitChars 10 digits 0) h
  simpa [Text.ofNat, Nat.ofDigitChars_ten_toDigits] using hValue

theorem isDigit_of_mem_ofNat {n : Nat} {c : Char} (h : c ∈ Text.ofNat n) : c.isDigit = true :=
  Nat.isDigit_of_mem_toDigits (by decide) (by decide) h

/-- Different numbers make different names of one name. -/
theorem numbered_injective (name : Text) : Function.Injective (numbered name) := by
  intro m n h
  exact ofNat_injective (List.cons.inj (List.append_cancel_left h)).2

theorem isColumnName_numbered {name : Text} (h : IsColumnName name) (k : Nat) :
    IsColumnName (numbered name k) := by
  constructor
  · simp [numbered]
  · intro c hc
    rw [numbered, List.mem_append, List.mem_cons] at hc
    rcases hc with hc | rfl | hc
    · exact h.chars c hc
    · rfl
    · exact isSlugChar_of_isDigit (isDigit_of_mem_ofNat hc)

/-- A numbered name ends in a digit, and the name of the key does not. -/
theorem numbered_ne_rowKeyName (name : Text) (k : Nat) : numbered name k ≠ rowKeyName := by
  intro h
  have hLast := congrArg List.getLast? h
  have hSplit : numbered name k = (name ++ ['_']) ++ Text.ofNat k := by simp [numbered]
  rw [hSplit, List.getLast?_append_of_ne_nil _ (ofNat_ne_nil k)] at hLast
  have hMem : 'd' ∈ Text.ofNat k := List.mem_of_getLast? hLast
  exact absurd (isDigit_of_mem_ofNat hMem) (by decide)

/-- Among one number more than there are taken names, some number is free, so the least free one is found. -/
theorem isLeast_leastFreeNumber (taken : List Text) (name : Text) :
    IsLeast {k | 2 ≤ k ∧ numbered name k ∉ taken} (leastFreeNumber taken name) := by
  rw [leastFreeNumber]
  cases hFind : (List.range' 2 (taken.length + 1)).find? fun k => !taken.contains (numbered name k) with
  | some k =>
      obtain ⟨hFree, hRange, hBelow⟩ := List.find?_range'_eq_some.mp hFind
      refine ⟨⟨(List.mem_range'_1.mp hRange).1, by simpa using hFree⟩, ?_⟩
      rintro j ⟨hStart, hOther⟩
      by_contra hLess
      exact hOther (by simpa using hBelow j hStart (Nat.not_le.mp hLess))
  | none =>
      have hTaken : (List.range' 2 (taken.length + 1)).map (numbered name) ⊆ taken := by
        intro candidate hMem
        obtain ⟨k, hk, rfl⟩ := List.mem_map.mp hMem
        simpa using List.find?_eq_none.mp hFind k hk
      have hNodup : ((List.range' 2 (taken.length + 1)).map (numbered name)).Nodup :=
        List.Nodup.map (numbered_injective name) List.nodup_range'
      have hLength := (hNodup.subperm hTaken).length_le
      simp only [List.length_map, List.length_range'] at hLength
      omega

/-- The number that is found makes a name that is not taken. -/
theorem numbered_leastFreeNumber_not_mem (taken : List Text) (name : Text) :
    numbered name (leastFreeNumber taken name) ∉ taken :=
  (isLeast_leastFreeNumber taken name).1.2

/-- Each of the names made unique was given, or is a given one with a number. -/
theorem mem_uniquifyFrom {taken seen names : List Text} {name : Text}
    (h : name ∈ uniquifyFrom taken seen names) :
    name ∈ names ∨ ∃ given ∈ names, ∃ k, name = numbered given k := by
  induction names generalizing taken seen with
  | nil => cases h
  | cons given names ih =>
      rw [uniquifyFrom] at h
      split at h
      · rcases List.mem_cons.mp h with rfl | hLater
        · exact .inr ⟨given, List.mem_cons_self .., _, rfl⟩
        · rcases ih hLater with hMem | ⟨other, hMem, k, rfl⟩
          · exact .inl (List.mem_cons_of_mem _ hMem)
          · exact .inr ⟨other, List.mem_cons_of_mem _ hMem, k, rfl⟩
      · rcases List.mem_cons.mp h with rfl | hLater
        · exact .inl (List.mem_cons_self ..)
        · rcases ih hLater with hMem | ⟨other, hMem, k, rfl⟩
          · exact .inl (List.mem_cons_of_mem _ hMem)
          · exact .inr ⟨other, List.mem_cons_of_mem _ hMem, k, rfl⟩

/-- As long as all names, given and made, count as taken, no name is made twice. -/
theorem nodup_uniquifyFrom {taken seen names : List Text} (hSeen : seen ⊆ taken)
    (hNames : names ⊆ taken) :
    (uniquifyFrom taken seen names).Nodup ∧ ∀ name ∈ uniquifyFrom taken seen names, name ∉ seen := by
  induction names generalizing taken seen with
  | nil => simp [uniquifyFrom]
  | cons given names ih =>
      rw [uniquifyFrom]
      obtain ⟨hGiven, hLater⟩ := List.cons_subset.mp hNames
      split
      · have hFresh := numbered_leastFreeNumber_not_mem taken given
        obtain ⟨hNodup, hUnseen⟩ := ih (List.cons_subset_cons _ hSeen)
          (List.Subset.trans hLater (List.subset_cons_self _ _))
        constructor
        · exact List.nodup_cons.mpr ⟨fun hMem => hUnseen _ hMem (List.mem_cons_self ..), hNodup⟩
        · intro name hMem
          rcases List.mem_cons.mp hMem with rfl | hMem
          · exact fun hAgain => hFresh (hSeen hAgain)
          · exact fun hAgain => hUnseen name hMem (List.mem_cons_of_mem _ hAgain)
      · rename_i hNew
        obtain ⟨hNodup, hUnseen⟩ := ih (List.cons_subset.mpr ⟨hGiven, hSeen⟩) hLater
        constructor
        · exact List.nodup_cons.mpr ⟨fun hMem => hUnseen _ hMem (List.mem_cons_self ..), hNodup⟩
        · intro name hMem
          rcases List.mem_cons.mp hMem with rfl | hMem
          · simpa using hNew
          · exact fun hAgain => hUnseen name hMem (List.mem_cons_of_mem _ hAgain)

/-- The names made unique are distinct. -/
theorem nodup_uniquify (names : List Text) : (uniquify names).Nodup :=
  (nodup_uniquifyFrom (List.nil_subset names) (List.Subset.refl names)).1

/-- Distinct names that were not seen before stay as they are. -/
theorem uniquifyFrom_of_nodup {taken seen names : List Text} (hNodup : names.Nodup)
    (hSeen : ∀ name ∈ names, name ∉ seen) : uniquifyFrom taken seen names = names := by
  induction names generalizing seen with
  | nil => rfl
  | cons given names ih =>
      obtain ⟨hGiven, hLater⟩ := List.nodup_cons.mp hNodup
      rw [uniquifyFrom, if_neg (by simpa using hSeen given (List.mem_cons_self ..)), ih hLater]
      intro name hMem hAgain
      rcases List.mem_cons.mp hAgain with rfl | hAgain
      · exact hGiven hMem
      · exact hSeen name (List.mem_cons_of_mem _ hMem) hAgain

/-- Distinct names stay as they are. -/
theorem uniquify_of_nodup {names : List Text} (h : names.Nodup) : uniquify names = names :=
  uniquifyFrom_of_nodup h fun _ _ => List.not_mem_nil

/-! ### The header of a file -/

theorem dropMarked_map {α : Type} (mark : α → Bool) (xs : List α) :
    dropMarked (xs.map mark) xs = xs.filter fun x => !mark x := by
  induction xs with
  | nil => rfl
  | cons x xs ih =>
      rw [List.map_cons, dropMarked]
      cases hMark : mark x <;> simp [hMark, ih]

/-- No column behind the dropped keys bears the name of the key. -/
theorem columnName_ne_rowKeyName {header : Row} {raw : Option Text}
    (h : raw ∈ headerWithoutKeys header) : columnName raw ≠ rowKeyName := by
  rw [headerWithoutKeys, keyColumns, dropMarked_map, List.mem_filter] at h
  simpa using h.2

/-- The names of a header without key columns are made into column names other than that of the key. -/
theorem of_mem_uniquify {header : Row} (hHeader : ∀ raw ∈ header, columnName raw ≠ rowKeyName)
    {name : Text} (h : name ∈ uniquify (header.map columnName)) :
    IsColumnName name ∧ name ≠ rowKeyName := by
  rcases mem_uniquifyFrom h with hMem | ⟨given, hMem, k, rfl⟩
  · obtain ⟨raw, hRaw, rfl⟩ := List.mem_map.mp hMem
    exact ⟨isColumnName_columnName raw, hHeader raw hRaw⟩
  · obtain ⟨raw, _, rfl⟩ := List.mem_map.mp hMem
    exact ⟨isColumnName_numbered (isColumnName_columnName raw) k, numbered_ne_rowKeyName _ k⟩

end CsvIntake
