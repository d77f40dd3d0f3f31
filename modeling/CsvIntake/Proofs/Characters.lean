import CsvIntake.Number.Numeral

/-! The character classes of numbers keep apart from letters and from each other. A digit of any script
is no ASCII letter and no white space, no letter is used to write a number, and no edge of a number is a
digit, a minus sign or a decimal separator. -/
namespace CsvIntake

namespace Text

/-- Every digit stands in one of the ten-digit series. -/
theorem exists_zero_of_isDigit {c : Char} (h : isDigit c = true) :
    ∃ z ∈ zeroDigits, z ≤ c.toNat ∧ c.toNat < z + 10 := by
  obtain ⟨n, hn⟩ := Option.isSome_iff_exists.mp h
  obtain ⟨z, hz, hValue⟩ := List.exists_of_findSome?_eq_some hn
  split at hValue
  · exact ⟨z, hz, ‹_›⟩
  · cases hValue

/-- A minus sign follows some digit of the text. -/
def MinusAfterDigit (s : Text) : Prop := '-' ∈ s.dropWhile fun c => !isDigit c

/-- The letters are the code points of `A` to `Z` and of `a` to `z`. -/
theorem toNat_of_isAlpha {c : Char} (h : c.isAlpha = true) :
    (65 ≤ c.toNat ∧ c.toNat ≤ 90) ∨ (97 ≤ c.toNat ∧ c.toNat ≤ 122) := by
  rcases Bool.or_eq_true_iff.mp h with hUpper | hLower
  · exact .inl (of_decide_eq_true hUpper)
  · obtain ⟨hLow, hHigh⟩ := Bool.and_eq_true_iff.mp hLower
    exact .inr ⟨of_decide_eq_true hLow, of_decide_eq_true hHigh⟩

theorem isAlpha_of_isUpper {c : Char} (h : c.isUpper = true) : c.isAlpha = true :=
  Bool.or_eq_true_iff.mpr (.inl h)

/-- Lower case changes capital letters alone. -/
theorem toLower_of_not_isUpper {c : Char} (h : ¬ c.isUpper = true) : c.toLower = c :=
  dif_neg fun hRange => h (decide_eq_true hRange)

theorem isAlpha_of_isAlpha_toLower {c : Char} (h : c.toLower.isAlpha = true) : c.isAlpha = true := by
  by_cases hUpper : c.isUpper = true
  · exact isAlpha_of_isUpper hUpper
  · rwa [toLower_of_not_isUpper hUpper] at h

/-- No ASCII letter is a digit of any script. -/
theorem isDigit_eq_false_of_isAlpha {c : Char} (h : c.isAlpha = true) : isDigit c = false := by
  rw [Bool.eq_false_iff]
  intro hDigit
  obtain ⟨z, hz, hLow, hHigh⟩ := exists_zero_of_isDigit hDigit
  have hSeries : ∀ z ∈ zeroDigits, z + 10 ≤ 65 ∨ 123 ≤ z := by decide
  have := hSeries z hz
  have := toNat_of_isAlpha h
  omega

theorem isSpace_eq_false_of_isAlpha {c : Char} (h : c.isAlpha = true) : isSpace c = false := by
  have := toNat_of_isAlpha h
  simp only [isSpace, decide_eq_false_iff_not]
  omega

theorem isDigit_eq_false_of_isSpace {c : Char} (h : isSpace c = true) : isDigit c = false := by
  rw [Bool.eq_false_iff]
  intro hDigit
  obtain ⟨z, hz, hLow, hHigh⟩ := exists_zero_of_isDigit hDigit
  simp only [isSpace, decide_eq_true_eq] at h
  -- no series reaches into a range of white space
  have hSeries : ∀ z ∈ zeroDigits, (33 ≤ z ∧ z + 10 ≤ 0x85) ∨ (0xA1 ≤ z ∧ z + 10 ≤ 0x1680) ∨
      (0x1681 ≤ z ∧ z + 10 ≤ 0x2000) ∨ 0x3001 ≤ z := by decide
  have := hSeries z hz
  omega

theorem isSpace_eq_false_of_isDigit {c : Char} (h : isDigit c = true) : isSpace c = false := by
  rw [Bool.eq_false_iff]
  intro hSpace
  simp [isDigit_eq_false_of_isSpace hSpace] at h

end Text

/-- What holds of each currency sign. -/
theorem of_isCurrency {p : Char → Bool} (hSigns : "$€£¥₹₪₩₿¢".toList.all p = true) {c : Char}
    (h : isCurrency c = true) : p c = true :=
  List.all_eq_true.mp hSigns c (by simpa [isCurrency] using h)

theorem isEdge_eq_false_of_isAlpha {c : Char} (h : c.isAlpha = true) : isEdge c = false := by
  have hCurrency : isCurrency c = false := by
    rw [Bool.eq_false_iff]
    intro hc
    have hSign := of_isCurrency (p := fun d => !d.isAlpha) (by decide) hc
    simp [h] at hSign
  simp [isEdge, hCurrency, Text.isSpace_eq_false_of_isAlpha h]

theorem isDigit_eq_false_of_isEdge {c : Char} (h : isEdge c = true) : Text.isDigit c = false := by
  rcases Bool.or_eq_true_iff.mp h with hCurrency | hSpace
  · have hSign := of_isCurrency (p := fun d => !Text.isDigit d) (by decide) hCurrency
    simpa using hSign
  · exact Text.isDigit_eq_false_of_isSpace hSpace

theorem isEdge_of_isSpace {c : Char} (h : Text.isSpace c = true) : isEdge c = true := by
  simp [isEdge, h]

theorem isEdge_minus : isEdge '-' = false := by
  decide

namespace NumberSeparators

theorem isGrouping_eq_false_of_isAlpha (separators : NumberSeparators) {c : Char}
    (h : c.isAlpha = true) : separators.isGrouping c = false := by
  rw [Bool.eq_false_iff]
  intro hc
  have hCases : c = separators.grouping ∨ c = '\u00a0' := by
    rcases Bool.or_eq_true_iff.mp hc with h | h
    · exact .inl (by simpa using h)
    · exact .inr (by simpa using (Bool.and_eq_true_iff.mp h).2)
  rcases hCases with rfl | rfl
  · cases separators <;> simp [grouping] at h
  · simp at h

theorem isAlpha_decimal (separators : NumberSeparators) : separators.decimal.isAlpha = false := by
  cases separators <;> rfl

theorem isEdge_decimal (separators : NumberSeparators) : isEdge separators.decimal = false := by
  cases separators <;> decide

theorem isDigit_decimal (separators : NumberSeparators) :
    Text.isDigit separators.decimal = false := by
  cases separators <;> decide

end NumberSeparators

end CsvIntake
