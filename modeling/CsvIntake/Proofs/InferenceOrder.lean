import CsvIntake.Proofs.Relaxation

/-! Inference is a join. The type that a column reaches is the least one at or above the type it starts
at and the types of its values, so it is a matter of which rows there are, not of their order or
number. -/
namespace CsvIntake

/-- No value of the row says anything. -/
def IsBlankRow (row : Row) : Prop := ∀ s, some s ∈ row → Text.isBlank s = true

/-- Two lists have the same rows but for blank ones, in any order and any number of times each. -/
def SameRows (rows others : List Row) : Prop :=
  ∀ row, ¬IsBlankRow row → (row ∈ others ↔ row ∈ rows)

/-- The values of the rows are short enough for a bounded text. -/
def ShortValues (rows : List Row) : Prop :=
  ∀ row ∈ rows, ∀ s, some s ∈ row → (Text.trim s).length ≤ 255

theorem isShort_of_mem_columnValues {rows : List Row} (h : ShortValues rows) {i : Nat}
    {value : Option Text} (hv : value ∈ columnValues i rows) : ColumnType.IsShort value := by
  rintro s rfl
  obtain ⟨row, hRow, hCell⟩ := mem_columnValues.mp hv
  exact h row hRow s (List.mem_of_getElem? hCell)

theorem SameRows.shortValues {rows others : List Row} (h : SameRows rows others)
    (hShort : ShortValues rows) : ShortValues others := by
  intro row hRow s hs
  by_cases hBlankRow : IsBlankRow row
  · rw [Text.trim_eq_nil_iff.mpr (hBlankRow s hs)]
    simp
  · exact hShort row ((h row hBlankRow).mp hRow) s hs

namespace ColumnType

variable {separators : NumberSeparators}

/-- The types of the values of a column that are not blank. -/
def valueTypes (separators : NumberSeparators) (i : Nat) (rows : List Row) :
    Set (WithBot ColumnType) :=
  {k | ∃ row ∈ rows, ∃ s, row[i]? = some (some s) ∧ Text.isBlank s = false ∧
    k = known (ofValue? separators (some s))}

/-- Blank and missing values have no type, so only the others bound the type of a column. -/
theorem mem_upperBounds_valueTypes {i : Nat} {rows : List Row} {bound : WithBot ColumnType} :
    bound ∈ upperBounds (valueTypes separators i rows) ↔
      ∀ value ∈ columnValues i rows, known (ofValue? separators value) ≤ bound := by
  constructor
  · intro h value hv
    cases value with
    | none => exact bot_le
    | some s =>
        obtain ⟨row, hRow, hCell⟩ := mem_columnValues.mp hv
        cases hBlank : Text.isBlank s with
        | true => simp [ofValue?, hBlank]
        | false => exact h ⟨row, hRow, s, hCell, hBlank, rfl⟩
  · rintro h _ ⟨row, hRow, s, hCell, _, rfl⟩
    exact h (some s) (mem_columnValues.mpr ⟨row, hRow, hCell⟩)

/-- Relaxing over the rows gives the least upper bound of the type from before and the types of the
values. -/
theorem isLUB_known_foldl (separators : NumberSeparators) {rows : List Row}
    (h : ShortValues rows) (i : Nat) (t : Option ColumnType) :
    IsLUB (insert (known t) (valueTypes separators i rows))
      (known ((columnValues i rows).foldl (relax separators) t)) := by
  rw [isLUB_iff_le_iff]
  intro bound
  rw [known_foldl_le_iff (fun value hv => isShort_of_mem_columnValues h hv),
    upperBounds_insert, Set.mem_inter_iff, Set.mem_Ici, mem_upperBounds_valueTypes]

/-- Rows that are the same up to order, repetitions and blanks have the same types of values. -/
theorem valueTypes_eq_of_sameRows {rows others : List Row} (h : SameRows rows others) (i : Nat) :
    valueTypes separators i others = valueTypes separators i rows := by
  ext k
  refine exists_congr fun row => ?_
  constructor
  · rintro ⟨hRow, s, hCell, hBlank, rfl⟩
    have hNotBlank : ¬IsBlankRow row := fun hAll => by
      simp [hAll s (List.mem_of_getElem? hCell)] at hBlank
    exact ⟨(h row hNotBlank).mp hRow, s, hCell, hBlank, rfl⟩
  · rintro ⟨hRow, s, hCell, hBlank, rfl⟩
    have hNotBlank : ¬IsBlankRow row := fun hAll => by
      simp [hAll s (List.mem_of_getElem? hCell)] at hBlank
    exact ⟨(h row hNotBlank).mpr hRow, s, hCell, hBlank, rfl⟩

/-- Rows that are the same up to order, repetitions and blanks relax the types to the same ones. -/
theorem relaxRows_eq_of_sameRows {rows others : List Row} (h : SameRows rows others)
    (hShort : ShortValues rows) (types : List (Option ColumnType)) :
    relaxRows separators types others = relaxRows separators types rows := by
  apply List.ext_getElem?
  intro i
  rw [relaxRows_getElem?, relaxRows_getElem?]
  congr 1
  funext t
  have hOthers := isLUB_known_foldl separators (h.shortValues hShort) i t
  rw [valueTypes_eq_of_sameRows h] at hOthers
  exact known_injective (hOthers.unique (isLUB_known_foldl separators hShort i t))

/-- Where no value is too long for a bounded text, each column reaches the least upper bound of the type
it starts at and the types of its values, nothing known being below every type. So the column types are
the same for the same rows in any other order, repeated, or with blank rows among them. -/
theorem ofRows_isLUB_and_order_free (separators : NumberSeparators)
    (types : List (Option ColumnType)) (rows : List Row) (hShort : ShortValues rows) :
    (∀ i t, types[i]? = some t → ∃ reached,
      (relaxRows separators types rows)[i]? = some reached ∧
        IsLUB (insert (known t) (valueTypes separators i rows)) (known reached)) ∧
    ∀ others, SameRows rows others →
      ofRows separators types others = ofRows separators types rows := by
  constructor
  · intro i t hSeed
    refine ⟨_, ?_, isLUB_known_foldl separators hShort i t⟩
    rw [relaxRows_getElem?, hSeed, Option.map_some]
  · intro others hSame
    rw [ofRows, ofRows, relaxRows_eq_of_sameRows hSame hShort]

/-- A column of `0`, `2` and `t` that starts as zero or one is one of texts, also with its rows in
another order, one of them twice and a blank one among them. -/
theorem ofRows_zero_two_true :
    ShortValues [[some ['0']], [some ['2']], [some ['t']]] ∧
    IsLUB (insert (known (some .booleanOrInt))
      (valueTypes .dotComma 0 [[some ['0']], [some ['2']], [some ['t']]])) (known (some .varchar255)) ∧
    ofRows .dotComma [some .booleanOrInt]
      [[some ['t']], [some [' ']], [some ['2']], [some ['0']], [some ['2']]] = [.varchar255] := by
  have hShort : ShortValues [[some ['0']], [some ['2']], [some ['t']]] := by
    intro row hRow s hs
    simp only [List.mem_cons, List.not_mem_nil, or_false] at hRow
    rcases hRow with rfl | rfl | rfl <;> obtain rfl := Option.some.inj (List.mem_singleton.mp hs) <;>
      decide
  have hSame : SameRows [[some ['0']], [some ['2']], [some ['t']]]
      [[some ['t']], [some [' ']], [some ['2']], [some ['0']], [some ['2']]] := by
    intro row hRow
    have hBlank : row ≠ [some [' ']] := by
      rintro rfl
      exact hRow (by simp [IsBlankRow, Text.isBlank, Text.isSpace])
    simp only [List.mem_cons, List.not_mem_nil, or_false, hBlank]
    grind
  obtain ⟨hJoin, hOrder⟩ :=
    ofRows_isLUB_and_order_free .dotComma [some .booleanOrInt] _ hShort
  obtain ⟨reached, hReached, hLUB⟩ := hJoin 0 (some .booleanOrInt) rfl
  have hValue : reached = some .varchar255 := (Option.some.inj hReached).symm
  rw [hValue] at hLUB
  exact ⟨hShort, hLUB, hOrder _ hSame⟩

end ColumnType

end CsvIntake
