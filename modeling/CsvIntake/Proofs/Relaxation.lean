import CsvIntake.Proofs.Acceptance

/-! How the type of a column moves with its values. Each column moves by itself. One more value takes a
column to a type at or above the old one that accepts the value. As long as values are not too long for
a bounded text, this is the least common generalization of the old type and the type of the value, so
neither the order of the rows nor their repetition matters. -/
namespace CsvIntake

/-- The values of one column from top to bottom. A row that does not reach the column has none. -/
def columnValues (i : Nat) (rows : List Row) : List (Option Text) :=
  rows.map fun row => (row[i]?).join

/-- The values of a column are those in its place of some row. -/
theorem mem_columnValues {i : Nat} {rows : List Row} {s : Text} :
    some s ∈ columnValues i rows ↔ ∃ row ∈ rows, row[i]? = some (some s) := by
  simp [columnValues, Option.join_eq_some_iff]

namespace ColumnType

variable {separators : NumberSeparators}

@[simp] theorem relax_none (t : Option ColumnType) : relax separators t none = t := by
  cases t <;> rfl

@[simp] theorem relaxRow_getElem? (types : List (Option ColumnType)) (row : Row) (i : Nat) :
    (relaxRow separators types row)[i]? =
      (types[i]?).map fun t => relax separators t (row[i]?).join := by
  induction types generalizing row i with
  | nil => simp [relaxRow]
  | cons t types ih =>
      cases row with
      | nil => simp [relaxRow]
      | cons value row =>
          cases i with
          | zero => simp [relaxRow]
          | succ i => simpa [relaxRow] using ih row i

/-- A column sees its own values only. -/
theorem relaxRows_getElem? (types : List (Option ColumnType)) (rows : List Row) (i : Nat) :
    (relaxRows separators types rows)[i]? =
      (types[i]?).map fun t => (columnValues i rows).foldl (relax separators) t := by
  induction rows generalizing types with
  | nil => simp [relaxRows, columnValues]
  | cons row rows ih =>
      have hRest := ih (relaxRow separators types row)
      rw [relaxRow_getElem?, Option.map_map] at hRest
      exact hRest

/-- The type of a column depends on its own values only, from the first row to the last. -/
theorem ofRows_getElem? (types : List (Option ColumnType)) (rows : List Row) (i : Nat) :
    (ofRows separators types rows)[i]? =
      (types[i]?).map fun t => ofValues ((columnValues i rows).foldl (relax separators) t) := by
  rw [ofRows, List.getElem?_map, relaxRows_getElem?, Option.map_map]
  rfl

@[simp] theorem length_ofRows (types : List (Option ColumnType)) (rows : List Row) :
    (ofRows separators types rows).length = types.length := by
  have hReach : ∀ i : Nat, (ofRows separators types rows)[i]? = none ↔ types[i]? = none := by
    intro i
    rw [ofRows_getElem?, Option.map_eq_none_iff]
  simp only [List.getElem?_eq_none_iff] at hReach
  have hLow := (hReach types.length).mpr (Nat.le_refl _)
  have hHigh := (hReach (ofRows separators types rows).length).mp (Nat.le_refl _)
  omega

/-! ### One step -/

theorem relax_of_isBlank {s : Text} (h : Text.isBlank s = true) (t : Option ColumnType) :
    relax separators t (some s) = t := by
  cases t <;> simp [relax, ofValue?, h]

/-- A value that is not blank takes its column to a type that accepts it and is at or above the old
one. -/
theorem exists_relax_eq (separators : NumberSeparators) {s : Text}
    (hBlank : Text.isBlank s = false) (t : Option ColumnType) :
    ∃ u, relax separators t (some s) = some u ∧ known t ≤ known (some u) ∧
      u.isInferable = true ∧ accepts separators u (Text.trim s) = true := by
  have hText : ∀ types : List ColumnType, .text ∈ types →
      ∃ u, (types.find? fun t => t.isInferable && accepts separators t (Text.trim s)) = some u ∧
        u ∈ types ∧ u.isInferable = true ∧ accepts separators u (Text.trim s) = true := by
    intro types hMem
    have hSome : (types.find? fun t =>
        t.isInferable && accepts separators t (Text.trim s)).isSome = true :=
      List.find?_isSome.mpr ⟨.text, hMem, rfl⟩
    obtain ⟨u, hu⟩ := Option.isSome_iff_exists.mp hSome
    have hAccepts := List.find?_some hu
    rw [Bool.and_eq_true] at hAccepts
    exact ⟨u, hu, List.mem_of_find?_eq_some hu, hAccepts⟩
  cases t with
  | none =>
      obtain ⟨u, hu, _, hAccepts⟩ := hText hierarchy.ordered (by decide)
      refine ⟨u, ?_, bot_le, hAccepts⟩
      rw [relax, ofValue?, if_neg (by simp [hBlank])]
      exact hu
  | some t =>
      obtain ⟨u, hu, hMem, hAccepts⟩ := hText t.upward (le_iff_mem_upward.mp (le_text t))
      refine ⟨u, ?_, WithBot.coe_le_coe.mpr (le_iff_mem_upward.mpr hMem), hAccepts⟩
      rw [relax, if_neg (by simp [hBlank])]
      exact hu

/-- Relaxing never lowers a type. -/
theorem known_le_relax (separators : NumberSeparators) (t : Option ColumnType)
    (value : Option Text) :
    known t ≤ known (relax separators t value) := by
  cases value with
  | none => simp
  | some s =>
      cases hBlank : Text.isBlank s with
      | true => rw [relax_of_isBlank hBlank]
      | false =>
          obtain ⟨u, hu, hLe, _⟩ := exists_relax_eq separators hBlank t
          rwa [hu]

/-- A column stays at a type that accepts the value. -/
theorem relax_eq_self {t : ColumnType} {s : Text} (hInferable : t.isInferable = true)
    (h : accepts separators t (Text.trim s) = true) :
    relax separators (some t) (some s) = some t := by
  rw [relax]
  split
  · rfl
  · rw [List.find?_cons_of_pos (by simp [hInferable, h])]

/-- The value is short enough for a bounded text. -/
def IsShort (value : Option Text) : Prop := ∀ s, value = some s → (Text.trim s).length ≤ 255

/-- One more short value takes a column to the least common generalization of its type and the type of
the value. -/
theorem known_relax {value : Option Text} (h : IsShort value) (t : Option ColumnType) :
    known (relax separators t value) = known t ⊔ known (ofValue? separators value) := by
  cases value with
  | none => simp [ofValue?]
  | some s =>
      cases hBlank : Text.isBlank s with
      | true => simp [relax_of_isBlank hBlank, ofValue?, hBlank]
      | false =>
          obtain ⟨k, hk, hAccepts⟩ := exists_ofValue?_eq separators (h s rfl) hBlank
          rw [hk]
          cases t with
          | none => simp [relax, hk]
          | some t =>
              have hFind : relax separators (some t) (some s) = some (t ⊔ k) := by
                rw [relax, if_neg (by simp [hBlank]), ← find?_upward t k]
                simp only [hAccepts]
                rfl
              rw [hFind]
              rfl

/-! ### All values of a column -/

theorem known_le_foldl (separators : NumberSeparators) (t : Option ColumnType)
    (values : List (Option Text)) :
    known t ≤ known (values.foldl (relax separators) t) := by
  induction values generalizing t with
  | nil => exact le_refl _
  | cons value values ih => exact (known_le_relax separators t value).trans (ih _)

/-- A column that starts at a type which accepts all its values stays there. -/
theorem foldl_relax_eq_self {t : ColumnType} (hInferable : t.isInferable = true)
    {values : List (Option Text)}
    (h : ∀ s, some s ∈ values → Text.isBlank s = false →
      accepts separators t (Text.trim s) = true) :
    values.foldl (relax separators) (some t) = some t := by
  induction values with
  | nil => rfl
  | cons value values ih =>
      have hStay : relax separators (some t) value = some t := by
        cases value with
        | none => rfl
        | some s =>
            cases hBlank : Text.isBlank s with
            | true => exact relax_of_isBlank hBlank _
            | false => exact relax_eq_self hInferable (h s (List.mem_cons_self ..) hBlank)
      rw [List.foldl_cons, hStay]
      exact ih fun s hs => h s (List.mem_cons_of_mem _ hs)

/-- Keys are generated: no column comes to have their type by its values. -/
theorem foldl_relax_ne_rowKey {t : Option ColumnType} (ht : t ≠ some .rowKey)
    (values : List (Option Text)) : values.foldl (relax separators) t ≠ some .rowKey := by
  induction values generalizing t with
  | nil => exact ht
  | cons value values ih =>
      apply ih
      cases value with
      | none => simpa using ht
      | some s =>
          cases hBlank : Text.isBlank s with
          | true => rwa [relax_of_isBlank hBlank]
          | false =>
              obtain ⟨u, hu, _, hInferable, _⟩ := exists_relax_eq separators hBlank t
              rw [hu]
              rintro ⟨⟩
              cases hInferable

/-- The types above all values of a column and the type it starts at are those above the type it
reaches. -/
theorem known_foldl_le_iff {values : List (Option Text)} (h : ∀ value ∈ values, IsShort value)
    (t : Option ColumnType) (bound : WithBot ColumnType) :
    known (values.foldl (relax separators) t) ≤ bound ↔
      known t ≤ bound ∧ ∀ value ∈ values, known (ofValue? separators value) ≤ bound := by
  induction values generalizing t with
  | nil => simp
  | cons value values ih =>
      rw [List.foldl_cons, ih (fun v hv => h v (List.mem_cons_of_mem _ hv)),
        known_relax (h value (List.mem_cons_self ..)), sup_le_iff]
      simp [and_assoc]

end ColumnType

end CsvIntake
