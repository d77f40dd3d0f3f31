import CsvIntake.Proofs.NumberGrammar
import CsvIntake.Proofs.Trimming
import CsvIntake.Reading

/-! Numbers without their decoration. Currency signs, white space, the characters that group digits and
the kind of sign do not change what number is read: it is the one that the digits say with a point before
the fraction, and with a minus sign in front if the number is negative. -/
namespace CsvIntake

/-- The text stands in parentheses. -/
def isEnclosed (s : Text) : Bool := s.head? == some '(' && s.getLast? == some ')'

/-- What is kept of a number: its digits, and a point for the decimal separator. -/
def plainCharacter? (separators : NumberSeparators) (c : Char) : Option Char :=
  if Text.isDigit c then some c else if c = separators.decimal then some '.' else none

/-- A number without its decoration. A minus sign stands for a minus sign, for parentheses, or for
both. -/
def plainText (separators : NumberSeparators) (s : Text) : Text :=
  signText (isEnclosed (Text.trim s) || s.contains '-') ++ s.filterMap (plainCharacter? separators)

/-- What stands behind the body of a number, which starts at the first digit. -/
def afterBody (separators : NumberSeparators) (s : Text) : Text :=
  (s.dropWhile fun c => !Text.isDigit c).dropWhile separators.isBody

/-- A character that may stand around a number and says nothing. -/
structure IsDecoration (c : Char) : Prop where
  not_digit : Text.isDigit c = false
  ne_minus : c ≠ '-'
  ne_point : c ≠ '.'
  ne_comma : c ≠ ','

theorem isDecoration_of_isEdge {c : Char} (h : isEdge c = true) : IsDecoration c := by
  refine ⟨isDigit_eq_false_of_isEdge h, ?_, ?_, ?_⟩ <;>
    · rintro rfl
      revert h
      decide

namespace NumberSeparators

variable (separators : NumberSeparators)

theorem decimal_eq : separators.decimal = '.' ∨ separators.decimal = ',' := by
  cases separators <;> simp [decimal]

theorem isBody_minus : separators.isBody '-' = false := by
  cases separators <;> decide

end NumberSeparators

namespace IsDecoration

variable {c : Char} (h : IsDecoration c) (separators : NumberSeparators)

include h

theorem ne_decimal : c ≠ separators.decimal := by
  rcases separators.decimal_eq with hDecimal | hDecimal
  · rw [hDecimal]
    exact h.ne_point
  · rw [hDecimal]
    exact h.ne_comma

theorem plainCharacter?_eq_none : plainCharacter? separators c = none := by
  simp [plainCharacter?, h.not_digit, h.ne_decimal]

end IsDecoration

namespace WrittenNumber

variable {separators : NumberSeparators}

/-- Nothing of what stands before the first digit is plain. -/
theorem filterMap_front (w : WrittenNumber separators) :
    w.front.filterMap (plainCharacter? separators) = [] := by
  rw [List.filterMap_eq_nil_iff]
  intro c hc
  rcases isEdge_or_minus_of_mem_front hc with hEdge | ⟨rfl, _⟩
  · exact (isDecoration_of_isEdge hEdge).plainCharacter?_eq_none separators
  · cases separators <;> decide

/-- Of the whole part, the digits are plain. -/
theorem filterMap_body (w : WrittenNumber separators) :
    (w.firstDigit :: w.others).filterMap (plainCharacter? separators) =
      (w.firstDigit :: w.others).filter Text.isDigit := by
  rw [← List.filterMap_eq_filter]
  apply List.filterMap_congr
  intro c hc
  cases hDigit : Text.isDigit c with
  | true => simp [plainCharacter?, Option.guard, hDigit]
  | false =>
      -- it is no decimal separator, since that is in no body
      have hBody := isBody_of_mem hc
      have hDecimal : c ≠ separators.decimal := by
        rintro rfl
        simp [separators.isBody_decimal] at hBody
      simp [plainCharacter?, Option.guard, hDigit, hDecimal]

/-- The plain text of a fraction is the fraction behind a point. -/
theorem filterMap_fraction (w : WrittenNumber separators) :
    (fractionText separators w.fraction).filterMap (plainCharacter? separators) =
      fractionText .dotComma w.fraction := by
  cases hFraction : w.fraction with
  | none => rfl
  | some digits =>
      have hDigits : digits.filterMap (plainCharacter? separators) = digits := by
        conv_rhs => rw [← List.filterMap_some (l := digits)]
        apply List.filterMap_congr
        intro c hc
        simp [plainCharacter?, (w.isDigit_fraction digits hFraction).2 c hc]
      have hDecimal : plainCharacter? separators separators.decimal = some '.' := by
        simp [plainCharacter?, separators.isDigit_decimal]
      rw [fractionText, List.filterMap_cons_some hDecimal, hDigits]
      rfl

/-- Of a number its digits are kept, with a point before the fraction. -/
theorem filterMap_text (w : WrittenNumber separators) :
    w.text.filterMap (plainCharacter? separators) =
      (w.firstDigit :: w.others).filter Text.isDigit ++ fractionText .dotComma w.fraction := by
  have hBehind : w.behind.filterMap (plainCharacter? separators) = [] :=
    List.filterMap_eq_nil_iff.mpr fun c hc =>
      (isDecoration_of_isEdge (isEdge_of_mem_behind hc)).plainCharacter?_eq_none separators
  rw [text, List.filterMap_append, List.filterMap_append, List.filterMap_append, w.filterMap_front,
    w.filterMap_body, w.filterMap_fraction, hBehind, List.nil_append, List.append_nil]

/-- Nothing but a minus sign in front of the digits is one. -/
theorem minus_mem_text_iff (w : WrittenNumber separators) : '-' ∈ w.text ↔ w.minus = true := by
  constructor
  · intro h
    have hDigit : Text.isDigit '-' = false := by decide
    simp only [text, List.mem_append, List.mem_cons] at h
    rcases h with ((hFront | hFirst | hOther) | hFraction) | hBehind
    · rcases isEdge_or_minus_of_mem_front hFront with hEdge | ⟨_, hMinus⟩
      · simp [isEdge_minus] at hEdge
      · exact hMinus
    · rw [hFirst, w.isDigit_firstDigit] at hDigit
      cases hDigit
    · simpa [separators.isBody_minus] using w.isBody_others '-' hOther
    · cases hDigits : w.fraction with
      | none => simp [hDigits, fractionText] at hFraction
      | some digits =>
          rw [hDigits, fractionText, List.mem_cons] at hFraction
          rcases hFraction with hDecimal | hMem
          · rcases separators.decimal_eq with h | h <;> rw [h] at hDecimal <;> cases hDecimal
          · simp [(w.isDigit_fraction digits hDigits).2 '-' hMem] at hDigit
    · have hEdge := isEdge_of_mem_behind hBehind
      simp [isEdge_minus] at hEdge
  · intro h
    simp [text, front, signText, h]

theorem afterBody_text (w : WrittenNumber separators) {before : Text}
    (hBefore : ∀ c ∈ before, Text.isDigit c = false) (after : Text) :
    afterBody separators (before ++ w.text ++ after) =
      (fractionText separators w.fraction ++ (w.behind ++ after)).dropWhile separators.isBody := by
  have hText : before ++ w.text ++ after = (before ++ w.front) ++ (w.firstDigit ::
      (w.others ++ (fractionText separators w.fraction ++ (w.behind ++ after)))) := by
    simp [text]
  have hFront : ∀ c ∈ before ++ w.front, (!Text.isDigit c) = true := by
    intro c hc
    rcases List.mem_append.mp hc with hc | hc
    · simp [hBefore c hc]
    · simp [isDigit_eq_false_of_mem_front hc]
  rw [afterBody, hText, List.dropWhile_append_of_pos hFront,
    List.dropWhile_cons_of_neg (by simp [w.isDigit_firstDigit]),
    List.dropWhile_cons_of_pos (separators.isBody_of_isDigit w.isDigit_firstDigit),
    List.dropWhile_append_of_pos w.isBody_others]

/-- A number has a decimal separator behind its body if it has a fraction, whatever decorates it. -/
theorem decimal_mem_afterBody_iff (w : WrittenNumber separators) {before after : Text}
    (hBefore : ∀ c ∈ before, IsDecoration c) (hAfter : ∀ c ∈ after, IsDecoration c) :
    separators.decimal ∈ afterBody separators (before ++ w.text ++ after) ↔ w.fraction ≠ none := by
  rw [w.afterBody_text fun c hc => (hBefore c hc).not_digit]
  cases w.fraction with
  | none =>
      rw [fractionText, List.nil_append]
      refine iff_of_false (fun hMem => ?_) (by simp)
      rcases List.mem_append.mp (List.dropWhile_subset _ hMem) with hBehind | hOutside
      · have hEdge := isEdge_of_mem_behind hBehind
        simp [separators.isEdge_decimal] at hEdge
      · exact (hAfter _ hOutside).ne_decimal separators rfl
  | some digits =>
      refine iff_of_true ?_ (by simp)
      rw [fractionText, List.cons_append,
        List.dropWhile_cons_of_neg (by simp [separators.isBody_decimal])]
      exact List.mem_cons_self ..

/-- The same number with nothing around its digits but a minus sign. -/
def plain (w : WrittenNumber separators) (negative : Bool) : WrittenNumber .dotComma where
  firstEdge := none
  firstGap := []
  minus := negative
  secondEdge := none
  firstDigit := w.firstDigit
  others := w.others.filter Text.isDigit
  fraction := w.fraction
  lastGap := []
  lastEdge := none
  isEdge_firstEdge := by simp
  isSpace_firstGap := by simp
  isEdge_secondEdge := by simp
  isDigit_firstDigit := w.isDigit_firstDigit
  isBody_others := fun _ hc => NumberSeparators.isBody_of_isDigit _ (List.of_mem_filter hc)
  isDigit_fraction := w.isDigit_fraction
  isSpace_lastGap := by simp
  isEdge_lastEdge := by simp

/-- The plain number is written with its sign and the plain characters. -/
theorem text_plain (w : WrittenNumber separators) (negative : Bool) :
    (w.plain negative).text = signText negative ++ w.text.filterMap (plainCharacter? separators) := by
  rw [filterMap_text, List.filter_cons_of_pos w.isDigit_firstDigit]
  simp [text, front, behind, plain]

theorem isEnclosed_textIn (w : WrittenNumber separators) (enclosed : Bool) :
    isEnclosed (w.textIn enclosed) = enclosed := by
  cases enclosed with
  | true =>
      rw [textIn, if_pos rfl, isEnclosed, List.getLast?_concat]
      rfl
  | false =>
      rw [isEnclosed, Bool.and_eq_false_iff]
      left
      rw [textIn, if_neg (by decide), beq_eq_false_iff_ne]
      intro hHead
      obtain ⟨inner, hInner⟩ := List.head?_eq_some_iff.mp hHead
      exact Numeral.text_ne_cons_parenthesis w inner hInner

end WrittenNumber

/-- What was read as a number is one that is not too long for its sign, with white space and perhaps
parentheses around it. -/
theorem exists_written_of_readNumber {separators : NumberSeparators} {s : Text} {number : Number}
    (h : readNumber separators s = .ok number) :
    ∃ (w : WrittenNumber separators) (before after : Text), s = before ++ w.text ++ after ∧
      (∀ c ∈ before, IsDecoration c) ∧ (∀ c ∈ after, IsDecoration c) ∧
      (w.numeral (isEnclosed (Text.trim s))).overflows = false ∧
      number = .ofNumeral (w.numeral (isEnclosed (Text.trim s))) := by
  simp only [readNumber] at h
  split at h
  · cases h
  · rename_i numeral hRead
    split at h
    · cases h
    split at h
    · cases h
    · rename_i _ hFits
      obtain rfl := Except.ok.inj h
      rw [Bool.not_eq_true] at hFits
      obtain ⟨w, enclosed, hText, rfl⟩ := Numeral.read?_eq_some_iff.mp hRead
      obtain ⟨before, after, hSplit, hBefore, hAfter⟩ := Text.exists_trim s
      have hBefore' : ∀ c ∈ before, IsDecoration c :=
        fun c hc => isDecoration_of_isEdge (isEdge_of_isSpace (hBefore c hc))
      have hAfter' : ∀ c ∈ after, IsDecoration c :=
        fun c hc => isDecoration_of_isEdge (isEdge_of_isSpace (hAfter c hc))
      rw [hText, w.isEnclosed_textIn]
      rw [hText] at hSplit
      cases enclosed with
      | false => exact ⟨w, before, after, hSplit, hBefore', hAfter', hFits, rfl⟩
      | true =>
          refine ⟨w, before ++ ['('], ')' :: after, by simpa [WrittenNumber.textIn] using hSplit, ?_, ?_,
            hFits, rfl⟩
          · intro c hc
            rcases List.mem_append.mp hc with hc | hc
            · exact hBefore' c hc
            · obtain rfl := List.mem_singleton.mp hc
              constructor <;> decide
          · intro c hc
            rcases List.mem_cons.mp hc with rfl | hc
            · constructor <;> decide
            · exact hAfter' c hc

/-- A number without white space or parentheses is read as what its pieces say, if it is not too long for
its sign. -/
theorem readNumber_text {separators : NumberSeparators} (w : WrittenNumber separators)
    (hSpace : ∀ c ∈ w.text, Text.isSpace c = false) (hFits : (w.numeral false).overflows = false) :
    readNumber separators w.text = .ok (.ofNumeral (w.numeral false)) := by
  have hRead : Numeral.read? separators w.text = some (w.numeral false) :=
    Numeral.read?_eq_some_iff.mpr ⟨w, false, rfl, rfl⟩
  simp only [readNumber, Text.trim_eq_self hSpace, hRead, hFits]
  rfl

/-- A number depends on its digits and on whether it is negative, not on what makes it so. -/
theorem Number.ofNumeral_congr {n m : Numeral} (hNegative : n.negative = m.negative)
    (hWhole : n.whole = m.whole) (hFraction : n.fraction = m.fraction) :
    ofNumeral n = ofNumeral m := by
  rw [ofNumeral, ofNumeral, hNegative, hWhole, hFraction]

/-- So does whether the number is too long to be negated. -/
theorem Numeral.overflows_congr {n m : Numeral} (hNegative : n.negative = m.negative)
    (hWhole : n.whole = m.whole) : n.overflows = m.overflows := by
  rw [overflows, overflows, significantWhole, significantWhole, hNegative, hWhole]

/-- A number is whole exactly when its numeral has no fraction. -/
theorem Number.exists_integer_iff {n : Numeral} :
    (∃ k, ofNumeral n = .integer k) ↔ n.fraction = none := by
  cases h : n.fraction <;> simp [ofNumeral, h]

theorem isSpace_eq_false_of_plainCharacter? {separators : NumberSeparators} {c d : Char}
    (h : plainCharacter? separators c = some d) : Text.isSpace d = false := by
  rw [plainCharacter?] at h
  split at h
  · rename_i hDigit
    obtain rfl := Option.some.inj h
    exact Text.isSpace_eq_false_of_isDigit hDigit
  · split at h
    · obtain rfl := Option.some.inj h
      decide
    · cases h

/-- A plain number is written without white space. -/
theorem WrittenNumber.isSpace_eq_false_of_mem_plain {separators : NumberSeparators}
    (w : WrittenNumber separators) (negative : Bool) :
    ∀ c ∈ (w.plain negative).text, Text.isSpace c = false := by
  intro c hc
  rw [w.text_plain, List.mem_append, List.mem_filterMap] at hc
  rcases hc with hc | ⟨d, _, hd⟩
  · cases negative with
    | true =>
        obtain rfl := List.mem_singleton.mp hc
        decide
    | false => cases hc
  · exact isSpace_eq_false_of_plainCharacter? hd

/-- Whatever is read as a number is read as the same number without its decoration, with a point before
the fraction. It is an integer if no decimal separator stands behind its body. -/
theorem readNumber_plainText (separators : NumberSeparators) (s : Text) (number : Number)
    (h : readNumber separators s = .ok number) :
    readNumber .dotComma (plainText separators s) = .ok number ∧
    ((∃ n, number = .integer n) ↔ separators.decimal ∉ afterBody separators s) := by
  obtain ⟨w, before, after, hText, hBefore, hAfter, hFits, rfl⟩ := exists_written_of_readNumber h
  have hNone : ∀ {edge : Text}, (∀ c ∈ edge, IsDecoration c) →
      edge.filterMap (plainCharacter? separators) = [] :=
    fun h => List.filterMap_eq_nil_iff.mpr fun c hc => (h c hc).plainCharacter?_eq_none separators
  have hKept : s.filterMap (plainCharacter? separators) =
      w.text.filterMap (plainCharacter? separators) := by
    rw [hText, List.filterMap_append, List.filterMap_append, hNone hBefore, hNone hAfter,
      List.nil_append, List.append_nil]
  have hMinus : s.contains '-' = w.minus := by
    rw [Bool.eq_iff_iff, List.contains_iff_mem, ← w.minus_mem_text_iff, hText, List.mem_append,
      List.mem_append]
    constructor
    · rintro ((h | h) | h)
      · exact absurd rfl (hBefore _ h).ne_minus
      · exact h
      · exact absurd rfl (hAfter _ h).ne_minus
    · exact fun h => .inl (.inr h)
  have hPlain : plainText separators s =
      (w.plain (isEnclosed (Text.trim s) || w.minus)).text := by
    rw [plainText, hKept, hMinus, w.text_plain]
  constructor
  · have hNegative : ((w.plain (isEnclosed (Text.trim s) || w.minus)).numeral false).negative =
        (w.numeral (isEnclosed (Text.trim s))).negative := rfl
    have hWhole : ((w.plain (isEnclosed (Text.trim s) || w.minus)).numeral false).whole =
        (w.numeral (isEnclosed (Text.trim s))).whole := by
      simp [WrittenNumber.numeral, WrittenNumber.plain, w.isDigit_firstDigit]
    rw [hPlain, readNumber_text _ (w.isSpace_eq_false_of_mem_plain _)
      ((Numeral.overflows_congr hNegative hWhole).trans hFits)]
    exact congrArg Except.ok (Number.ofNumeral_congr hNegative hWhole rfl)
  · rw [Number.exists_integer_iff, hText, w.decimal_mem_afterBody_iff hBefore hAfter, not_not]
    rfl

/-- In parentheses, with a minus sign, a currency sign and white space, `1 234,50` is read as the plain
`-1234.50` is, which is no integer. -/
theorem readNumber_plainText_of_decorated :
    ∃ x, readNumber .commaSpace " (€ -1 234,50 ) ".toList = .ok (.float x) ∧
      plainText .commaSpace " (€ -1 234,50 ) ".toList = "-1234.50".toList ∧
      readNumber .dotComma "-1234.50".toList = .ok (.float x) ∧
      ',' ∈ afterBody .commaSpace " (€ -1 234,50 ) ".toList := by
  let x : Binary64 := ⟨true, 4653144203864309760⟩
  have hRead : readNumber .commaSpace " (€ -1 234,50 ) ".toList = .ok (.float x) := by
    decide +kernel
  have hPlain : plainText .commaSpace " (€ -1 234,50 ) ".toList = "-1234.50".toList := by
    decide +kernel
  obtain ⟨hSame, hInteger⟩ := readNumber_plainText .commaSpace _ _ hRead
  rw [hPlain] at hSame
  refine ⟨x, hRead, hPlain, hSame, by_contra fun hNone => ?_⟩
  obtain ⟨n, hn⟩ := hInteger.mpr hNone
  cases hn

end CsvIntake
