import CsvIntake.Proofs.NumberGrammar

/-! What a written number looks like. Its digits stand behind everything that may come in front, so a
minus sign never follows a digit; and no letter occurs in it. -/
namespace CsvIntake

namespace Numeral

/-- A character that may stand before the digits of a number. -/
def isFront (c : Char) : Bool := isEdge c || c == '-' || c == '('

/-- A character that may stand among or behind the digits of a number. -/
def isTail (separators : NumberSeparators) (c : Char) : Bool :=
  Text.isDigit c || separators.isGrouping c || c == separators.decimal || isEdge c || c == ')'

theorem isFront_of_mem_front {separators : NumberSeparators} {w : WrittenNumber separators}
    {c : Char} (h : c ∈ w.front) : isFront c = true := by
  rcases WrittenNumber.isEdge_or_minus_of_mem_front h with hEdge | ⟨rfl, _⟩
  · simp [isFront, hEdge]
  · rfl

theorem isTail_of_mem_fractionText {separators : NumberSeparators}
    (w : WrittenNumber separators) {c : Char} (h : c ∈ fractionText separators w.fraction) :
    isTail separators c = true := by
  cases hFraction : w.fraction with
  | none => simp [hFraction, fractionText] at h
  | some digits =>
      rw [hFraction, fractionText, List.mem_cons] at h
      rcases h with rfl | hDigit
      · simp [isTail]
      · simp [isTail, (w.isDigit_fraction digits hFraction).2 c hDigit]

/-- A number without parentheses is a front without digits, and then a tail that starts with a digit
and goes on with what may follow one. -/
theorem exists_parts_of_text {separators : NumberSeparators} (w : WrittenNumber separators) :
    ∃ tail, w.text = w.front ++ w.firstDigit :: tail ∧
      ∀ c ∈ w.firstDigit :: tail, isTail separators c = true := by
  refine ⟨w.others ++ fractionText separators w.fraction ++ w.behind,
    by simp [WrittenNumber.text], ?_⟩
  intro c hc
  simp only [List.mem_cons, List.mem_append] at hc
  rcases hc with rfl | (hOther | hFraction) | hBehind
  · simp [isTail, w.isDigit_firstDigit]
  · have hBody := w.isBody_others c hOther
    rw [NumberSeparators.isBody] at hBody
    simp [isTail, hBody]
  · exact isTail_of_mem_fractionText w hFraction
  · simp [isTail, WrittenNumber.isEdge_of_mem_behind hBehind]

/-- The same of every number: parentheses belong to the front and to the tail. -/
theorem exists_parts {separators : NumberSeparators} {s : Text} {n : Numeral}
    (h : read? separators s = some n) :
    ∃ front d tail, s = front ++ d :: tail ∧ Text.isDigit d = true ∧
      (∀ c ∈ front, Text.isDigit c = false ∧ isFront c = true) ∧
      ∀ c ∈ d :: tail, isTail separators c = true := by
  obtain ⟨w, enclosed, rfl, _⟩ := read?_eq_some_iff.mp h
  obtain ⟨tail, hText, hTail⟩ := exists_parts_of_text w
  have hFront : ∀ c ∈ w.front, Text.isDigit c = false ∧ isFront c = true :=
    fun c hc => ⟨WrittenNumber.isDigit_eq_false_of_mem_front hc, isFront_of_mem_front hc⟩
  cases enclosed with
  | false => exact ⟨w.front, w.firstDigit, tail, hText, w.isDigit_firstDigit, hFront, hTail⟩
  | true =>
      refine ⟨'(' :: w.front, w.firstDigit, tail ++ [')'], ?_, w.isDigit_firstDigit, ?_, ?_⟩
      · simp [WrittenNumber.textIn, hText]
      · intro c hc
        rcases List.mem_cons.mp hc with rfl | hc
        · exact ⟨by decide, by decide⟩
        · exact hFront c hc
      · intro c hc
        rw [← List.cons_append, List.mem_append, List.mem_singleton] at hc
        rcases hc with hc | rfl
        · exact hTail c hc
        · simp [isTail]

/-- No letter stands before the digits of a number. -/
theorem isAlpha_eq_false_of_isFront {c : Char} (h : isFront c = true) : c.isAlpha = false := by
  rw [Bool.eq_false_iff]
  intro hAlpha
  have hEdge := isEdge_eq_false_of_isAlpha hAlpha
  simp only [isFront, hEdge, Bool.false_or, Bool.or_eq_true, beq_iff_eq] at h
  rcases h with rfl | rfl <;> simp at hAlpha

theorem isAlpha_eq_false_of_isTail {separators : NumberSeparators} {c : Char}
    (h : isTail separators c = true) : c.isAlpha = false := by
  rw [Bool.eq_false_iff]
  intro hAlpha
  have hEdge := isEdge_eq_false_of_isAlpha hAlpha
  have hDigit := Text.isDigit_eq_false_of_isAlpha hAlpha
  have hGrouping := separators.isGrouping_eq_false_of_isAlpha hAlpha
  simp only [isTail, hEdge, hDigit, hGrouping, Bool.false_or, Bool.or_false, Bool.or_eq_true,
    beq_iff_eq] at h
  rcases h with rfl | rfl
  · simp [separators.isAlpha_decimal] at hAlpha
  · simp at hAlpha

theorem not_isTail_minus (separators : NumberSeparators) : isTail separators '-' = false := by
  cases separators <;> decide

/-- No letter occurs in a number. -/
theorem isAlpha_eq_false_of_mem {separators : NumberSeparators} {s : Text} {n : Numeral}
    (h : read? separators s = some n) {c : Char} (hc : c ∈ s) : c.isAlpha = false := by
  obtain ⟨front, d, tail, rfl, _, hFront, hTail⟩ := exists_parts h
  rcases List.mem_append.mp hc with hc | hc
  · exact isAlpha_eq_false_of_isFront (hFront c hc).2
  · exact isAlpha_eq_false_of_isTail (hTail c hc)

/-- No minus sign follows a digit of a number. -/
theorem not_minusAfterDigit {separators : NumberSeparators} {s : Text} {n : Numeral}
    (h : read? separators s = some n) : ¬ Text.MinusAfterDigit s := by
  obtain ⟨front, d, tail, rfl, hDigit, hFront, hTail⟩ := exists_parts h
  rw [Text.MinusAfterDigit, List.dropWhile_append_of_pos (by simpa using fun c hc => (hFront c hc).1),
    List.dropWhile_cons_of_neg (by simp [hDigit])]
  intro hMinus
  simpa [not_isTail_minus] using hTail _ hMinus

/-- A number holds a digit. -/
theorem exists_digit {separators : NumberSeparators} {s : Text} {n : Numeral}
    (h : read? separators s = some n) : ∃ c ∈ s, Text.isDigit c = true := by
  obtain ⟨front, d, tail, rfl, hDigit, _, _⟩ := exists_parts h
  exact ⟨d, by simp, hDigit⟩

end Numeral

end CsvIntake
