import CsvIntake.Inference
import CsvIntake.Proofs.Characters
import Mathlib.Data.List.Basic
import Mathlib.Data.List.TakeWhile

/-! The grammar of written numbers, and that the reader reads what the grammar allows and nothing else.
The grammar is ambiguous: white space is an edge too, and where it groups digits the body of a number can
take it over from what follows. But all ways to write a text agree on the sign, the digits and the
fraction, so it does not matter which one the reader finds. -/
namespace CsvIntake

namespace NumberSeparators

/-- A character of the body of a number: a digit, or what may group digits. -/
def isBody (separators : NumberSeparators) (c : Char) : Bool :=
  Text.isDigit c || separators.isGrouping c

theorem isBody_decimal (separators : NumberSeparators) :
    separators.isBody separators.decimal = false := by
  cases separators <;> decide

theorem isBody_of_isDigit (separators : NumberSeparators) {c : Char} (h : Text.isDigit c = true) :
    separators.isBody c = true := by
  simp [isBody, h]

end NumberSeparators

/-- A minus sign, if there is one. -/
def signText (minus : Bool) : Text := if minus then ['-'] else []

/-- A fraction behind its separator, if there is one. -/
def fractionText (separators : NumberSeparators) : Option Text → Text
  | none => []
  | some digits => separators.decimal :: digits

/-- A number as it is written without parentheses, piece by piece. An edge is a currency sign or a white
space character, a gap is a run of white space. Behind the first digit come digits and what may group
them, then perhaps a fraction of at least one digit. -/
structure WrittenNumber (separators : NumberSeparators) where
  firstEdge : Option Char
  firstGap : Text
  minus : Bool
  secondEdge : Option Char
  firstDigit : Char
  others : Text
  fraction : Option Text
  lastGap : Text
  lastEdge : Option Char
  isEdge_firstEdge : ∀ c ∈ firstEdge, isEdge c = true
  isSpace_firstGap : ∀ c ∈ firstGap, Text.isSpace c = true
  isEdge_secondEdge : ∀ c ∈ secondEdge, isEdge c = true
  isDigit_firstDigit : Text.isDigit firstDigit = true
  isBody_others : ∀ c ∈ others, separators.isBody c = true
  isDigit_fraction : ∀ digits ∈ fraction, digits ≠ [] ∧ ∀ c ∈ digits, Text.isDigit c = true
  isSpace_lastGap : ∀ c ∈ lastGap, Text.isSpace c = true
  isEdge_lastEdge : ∀ c ∈ lastEdge, isEdge c = true

namespace WrittenNumber

variable {separators : NumberSeparators}

/-- What stands in front of the digits. -/
def front (w : WrittenNumber separators) : Text :=
  w.firstEdge.toList ++ w.firstGap ++ signText w.minus ++ w.secondEdge.toList

/-- What stands behind the digits. -/
def behind (w : WrittenNumber separators) : Text := w.lastGap ++ w.lastEdge.toList

/-- The pieces put together. -/
def text (w : WrittenNumber separators) : Text :=
  w.front ++ w.firstDigit :: w.others ++ fractionText separators w.fraction ++ w.behind

/-- What the value of the number depends on. -/
def numeral (w : WrittenNumber separators) (enclosed : Bool) : Numeral :=
  ⟨enclosed, w.minus, (w.firstDigit :: w.others).filter Text.isDigit, w.fraction⟩

/-- Edges, gaps and the sign are all that stands before the first digit. -/
theorem isEdge_or_minus_of_mem_front {w : WrittenNumber separators} {c : Char} (h : c ∈ w.front) :
    isEdge c = true ∨ c = '-' ∧ w.minus = true := by
  simp only [front, List.mem_append, Option.mem_toList] at h
  rcases h with ((h | h) | h) | h
  · exact .inl (w.isEdge_firstEdge c h)
  · exact .inl (isEdge_of_isSpace (w.isSpace_firstGap c h))
  · cases hMinus : w.minus <;> simp_all [signText]
  · exact .inl (w.isEdge_secondEdge c h)

theorem isDigit_eq_false_of_mem_front {w : WrittenNumber separators} {c : Char}
    (h : c ∈ w.front) : Text.isDigit c = false := by
  rcases isEdge_or_minus_of_mem_front h with hEdge | ⟨rfl, _⟩
  · exact isDigit_eq_false_of_isEdge hEdge
  · decide

theorem isBody_of_mem {w : WrittenNumber separators} {c : Char} (h : c ∈ w.firstDigit :: w.others) :
    separators.isBody c = true := by
  rcases List.mem_cons.mp h with rfl | hOther
  · exact separators.isBody_of_isDigit w.isDigit_firstDigit
  · exact w.isBody_others c hOther

theorem isEdge_of_mem_behind {w : WrittenNumber separators} {c : Char} (h : c ∈ w.behind) :
    isEdge c = true := by
  simp only [behind, List.mem_append, Option.mem_toList] at h
  rcases h with h | h
  · exact isEdge_of_isSpace (w.isSpace_lastGap c h)
  · exact w.isEdge_lastEdge c h

end WrittenNumber

namespace Numeral

/-! ### In front of the digits and behind them -/

/-- A text starts with at most one edge character, and the rest is what is left of it. -/
theorem exists_edge (s : Text) :
    ∃ edge : Option Char, (∀ c ∈ edge, isEdge c = true) ∧ s = edge.toList ++ dropEdge s := by
  cases s with
  | nil => exact ⟨none, by simp, rfl⟩
  | cons c cs =>
      rw [dropEdge]
      split
      · rename_i hEdge
        exact ⟨some c, by simpa using hEdge, rfl⟩
      · exact ⟨none, by simp, rfl⟩

theorem exists_edge_of_dropEdge_isEmpty {s : Text} (h : (dropEdge s).isEmpty = true) :
    ∃ edge : Option Char, (∀ c ∈ edge, isEdge c = true) ∧ s = edge.toList := by
  obtain ⟨edge, hEdge, hText⟩ := exists_edge s
  rw [List.isEmpty_iff.mp h, List.append_nil] at hText
  exact ⟨edge, hEdge, hText⟩

theorem exists_gap (s : Text) :
    ∃ gap : Text, (∀ c ∈ gap, Text.isSpace c = true) ∧ s = gap ++ Text.trimLeft s :=
  ⟨s.takeWhile Text.isSpace, fun _ hc => List.mem_takeWhile_imp hc,
    List.takeWhile_append_dropWhile.symm⟩

theorem dropEdge_cons_of_isEdge {c : Char} (h : isEdge c = true) (s : Text) :
    dropEdge (c :: s) = s :=
  if_pos h

theorem dropEdge_toList {edge : Option Char} (h : ∀ c ∈ edge, isEdge c = true) :
    dropEdge edge.toList = [] := by
  cases edge with
  | none => rfl
  | some c => exact dropEdge_cons_of_isEdge (h c rfl) []

theorem trimLeft_append {gap : Text} (h : ∀ c ∈ gap, Text.isSpace c = true) (s : Text) :
    Text.trimLeft (gap ++ s) = Text.trimLeft s :=
  List.dropWhile_append_of_pos h

/-- White space may go before an edge does, since it is an edge too. -/
theorem exists_trimLeft_toList {edge : Option Char} (h : ∀ c ∈ edge, isEdge c = true) :
    ∃ kept : Option Char, (∀ c ∈ kept, isEdge c = true) ∧
      Text.trimLeft edge.toList = kept.toList := by
  cases edge with
  | none => exact ⟨none, by simp, rfl⟩
  | some c =>
      cases hSpace : Text.isSpace c with
      | true => exact ⟨none, by simp, by simp [Text.trimLeft, hSpace]⟩
      | false => exact ⟨some c, h, by simp [Text.trimLeft, hSpace]⟩

/-- The first edge that is dropped may be white space of the gap, or even the second edge. -/
theorem exists_dropEdge_front {first second : Option Char} {gap : Text} (minus : Bool)
    (hFirst : ∀ c ∈ first, isEdge c = true) (hGap : ∀ c ∈ gap, Text.isSpace c = true)
    (hSecond : ∀ c ∈ second, isEdge c = true) :
    ∃ (rest : Text) (last : Option Char), (∀ c ∈ rest, Text.isSpace c = true) ∧
      (∀ c ∈ last, isEdge c = true) ∧
      dropEdge (first.toList ++ gap ++ signText minus ++ second.toList) =
        rest ++ signText minus ++ last.toList := by
  cases first with
  | some c => exact ⟨gap, second, hGap, hSecond, dropEdge_cons_of_isEdge (hFirst c rfl) _⟩
  | none =>
      cases gap with
      | cons b bs =>
          have hBlank := isEdge_of_isSpace (hGap b (List.mem_cons_self ..))
          exact ⟨bs, second, fun c hc => hGap c (List.mem_cons_of_mem _ hc), hSecond,
            dropEdge_cons_of_isEdge hBlank _⟩
      | nil =>
          cases minus with
          | true => exact ⟨[], second, by simp, hSecond, by simp [signText, dropEdge, isEdge_minus]⟩
          | false => exact ⟨[], none, by simp, by simp, dropEdge_toList hSecond⟩

/-- What stands before the first digit is read as an edge, a gap, perhaps a minus, and another edge. -/
theorem readFront?_eq_some_iff {front : Text} {minus : Bool} :
    readFront? front = some minus ↔ ∃ (first : Option Char) (gap : Text) (second : Option Char),
      (∀ c ∈ first, isEdge c = true) ∧ (∀ c ∈ gap, Text.isSpace c = true) ∧
      (∀ c ∈ second, isEdge c = true) ∧
      front = first.toList ++ gap ++ signText minus ++ second.toList := by
  constructor
  · intro h
    obtain ⟨first, hFirst, hText⟩ := exists_edge front
    obtain ⟨gap, hGap, hRest⟩ := exists_gap (dropEdge front)
    rw [readFront?] at h
    split at h
    · rename_i rest hMinus
      split at h
      · rename_i hEmpty
        obtain rfl := Option.some.inj h
        obtain ⟨second, hSecond, rfl⟩ := exists_edge_of_dropEdge_isEmpty hEmpty
        refine ⟨first, gap, second, hFirst, hGap, hSecond, ?_⟩
        rw [hText, hRest, hMinus]
        simp [signText]
      · cases h
    · split at h
      · rename_i hEmpty
        obtain rfl := Option.some.inj h
        obtain ⟨second, hSecond, hLast⟩ := exists_edge_of_dropEdge_isEmpty hEmpty
        refine ⟨first, gap, second, hFirst, hGap, hSecond, ?_⟩
        rw [hText, hRest, hLast]
        simp [signText]
      · cases h
  · rintro ⟨first, gap, second, hFirst, hGap, hSecond, rfl⟩
    obtain ⟨rest, last, hRest, hLast, hDrop⟩ := exists_dropEdge_front minus hFirst hGap hSecond
    rw [readFront?, hDrop, List.append_assoc, trimLeft_append hRest]
    cases minus with
    | true =>
        have hMinus : Text.trimLeft (signText true ++ last.toList) = '-' :: last.toList :=
          List.dropWhile_cons_of_neg (by decide)
        rw [hMinus]
        simp [dropEdge_toList hLast]
    | false =>
        obtain ⟨kept, hKept, hTrim⟩ := exists_trimLeft_toList hLast
        have hPlain : Text.trimLeft (signText false ++ last.toList) = kept.toList := hTrim
        rw [hPlain]
        split
        · rename_i rest hMinus
          have hEdge : isEdge '-' = true := hKept '-' (by cases kept <;> simp_all)
          simp [isEdge_minus] at hEdge
        · simp [dropEdge_toList hKept]

/-- A number ends with a gap and perhaps an edge. -/
theorem endsNumber_iff {behind : Text} :
    endsNumber behind = true ↔ ∃ (gap : Text) (last : Option Char),
      (∀ c ∈ gap, Text.isSpace c = true) ∧ (∀ c ∈ last, isEdge c = true) ∧
      behind = gap ++ last.toList := by
  constructor
  · intro h
    obtain ⟨gap, hGap, hRest⟩ := exists_gap behind
    obtain ⟨last, hLast, hTrim⟩ := exists_edge_of_dropEdge_isEmpty h
    rw [hTrim] at hRest
    exact ⟨gap, last, hGap, hLast, hRest⟩
  · rintro ⟨gap, last, hGap, hLast, rfl⟩
    obtain ⟨kept, hKept, hTrim⟩ := exists_trimLeft_toList hLast
    rw [endsNumber, trimLeft_append hGap, hTrim, dropEdge_toList hKept]
    rfl

theorem endsNumber_behind {separators : NumberSeparators} (w : WrittenNumber separators) :
    endsNumber w.behind = true :=
  endsNumber_iff.mpr ⟨_, _, w.isSpace_lastGap, w.isEdge_lastEdge, rfl⟩

/-- What is left of the end of a number may stand at its end too. -/
theorem endsNumber_dropWhile {behind : Text} (h : endsNumber behind = true) (p : Char → Bool) :
    endsNumber (behind.dropWhile p) = true := by
  have hTail : ∀ (c : Char) (cs : Text), endsNumber (c :: cs) = true → endsNumber cs = true := by
    intro c cs h
    obtain ⟨gap, last, hGap, hLast, hText⟩ := endsNumber_iff.mp h
    cases gap with
    | cons b bs =>
        obtain ⟨rfl, rfl⟩ := List.cons.inj hText
        exact endsNumber_iff.mpr ⟨bs, last, fun d hd => hGap d (List.mem_cons_of_mem _ hd), hLast, rfl⟩
    | nil =>
        cases last with
        | none => cases hText
        | some d =>
            obtain ⟨rfl, rfl⟩ := List.cons.inj hText
            rfl
  induction behind with
  | nil => exact h
  | cons c cs ih =>
      rw [List.dropWhile_cons]
      split
      · exact ih (hTail c cs h)
      · exact h

/-! ### From the first digit on -/

/-- Edges alone make no fraction. -/
theorem readFraction_of_edges (separators : NumberSeparators) {s : Text}
    (h : ∀ c ∈ s, isEdge c = true) : readFraction separators s = (none, s) := by
  rw [readFraction.eq_def]
  split
  · rename_i c d rest
    rw [if_neg]
    rintro ⟨rfl, _⟩
    simp [separators.isEdge_decimal] at h
  · rfl

/-- Digits behind the decimal separator are the fraction, up to the first character that is none. -/
theorem readFraction_decimal (separators : NumberSeparators) {digits behind : Text}
    (hNonempty : digits ≠ []) (hDigits : ∀ c ∈ digits, Text.isDigit c = true)
    (hBehind : ∀ c ∈ behind, Text.isDigit c = false) :
    readFraction separators (separators.decimal :: (digits ++ behind)) = (some digits, behind) := by
  have hTake : (digits ++ behind).takeWhile Text.isDigit = digits := by
    rw [List.takeWhile_append_of_pos hDigits]
    cases behind with
    | nil => simp
    | cons c cs => simp [hBehind c]
  have hDrop : (digits ++ behind).dropWhile Text.isDigit = behind := by
    rw [List.dropWhile_append_of_pos hDigits]
    cases behind with
    | nil => rfl
    | cons c cs => simp [hBehind c]
  cases digits with
  | nil => exact absurd rfl hNonempty
  | cons d ds =>
      rw [List.cons_append] at hTake hDrop ⊢
      rw [readFraction, if_pos ⟨rfl, hDigits d (List.mem_cons_self ..)⟩, hTake, hDrop]

/-- What comes behind the first digits of a number is read as its fraction and its end. Where the end
begins with white space that may group digits, that counts among the digits. -/
theorem exists_readFraction {separators : NumberSeparators} (w : WrittenNumber separators) :
    ∃ rest, endsNumber rest = true ∧
      readFraction separators ((fractionText separators w.fraction ++ w.behind).dropWhile
        separators.isBody) = (w.fraction, rest) := by
  cases hFraction : w.fraction with
  | none =>
      refine ⟨_, endsNumber_dropWhile (endsNumber_behind w) _, readFraction_of_edges separators ?_⟩
      exact fun c hc => WrittenNumber.isEdge_of_mem_behind (List.dropWhile_subset _ hc)
  | some digits =>
      obtain ⟨hNonempty, hDigits⟩ := w.isDigit_fraction digits hFraction
      refine ⟨w.behind, endsNumber_behind w, ?_⟩
      rw [fractionText, List.cons_append,
        List.dropWhile_cons_of_neg (by simp [separators.isBody_decimal])]
      exact readFraction_decimal separators hNonempty hDigits
        fun c hc => isDigit_eq_false_of_isEdge (WrittenNumber.isEdge_of_mem_behind hc)

/-- No digit is taken over from behind the body of a number. -/
theorem filter_takeWhile_fractionText {separators : NumberSeparators}
    (w : WrittenNumber separators) :
    ((fractionText separators w.fraction ++ w.behind).takeWhile separators.isBody).filter
      Text.isDigit = [] := by
  cases w.fraction with
  | none =>
      rw [List.filter_eq_nil_iff]
      intro c hc
      have hBehind : c ∈ w.behind := (List.takeWhile_subset _) hc
      simp [isDigit_eq_false_of_isEdge (WrittenNumber.isEdge_of_mem_behind hBehind)]
  | some digits =>
      rw [fractionText, List.cons_append,
        List.takeWhile_cons_of_neg (by simp [separators.isBody_decimal])]
      rfl

/-! ### Whole numbers -/

/-- A number without parentheses is read from its front and from its first digit on. -/
theorem readOpen?_eq (separators : NumberSeparators) (enclosed : Bool) {front body : Text} {c : Char}
    (hFront : ∀ c ∈ front, Text.isDigit c = false) (hDigit : Text.isDigit c = true) :
    readOpen? separators enclosed (front ++ c :: body) =
      (readFront? front).bind fun minus =>
        let tail := readFraction separators ((c :: body).dropWhile separators.isBody)
        if endsNumber tail.2 then
          some ⟨enclosed, minus, ((c :: body).takeWhile separators.isBody).filter Text.isDigit, tail.1⟩
        else none := by
  have hTake : (front ++ c :: body).takeWhile (fun c => !Text.isDigit c) = front := by
    rw [List.takeWhile_append_of_pos (by simpa using hFront), List.takeWhile_cons_of_neg (by simp [hDigit]),
      List.append_nil]
  have hDrop : (front ++ c :: body).dropWhile (fun c => !Text.isDigit c) = c :: body := by
    rw [List.dropWhile_append_of_pos (by simpa using hFront), List.dropWhile_cons_of_neg (by simp [hDigit])]
  rw [readOpen?]
  dsimp only
  rw [hTake, hDrop]
  cases readFront? front <;> rfl

/-- What is read as a number has a first digit. -/
theorem exists_digit_of_readOpen? {separators : NumberSeparators} {enclosed : Bool} {s : Text}
    {n : Numeral} (h : readOpen? separators enclosed s = some n) :
    ∃ front c body, s = front ++ c :: body ∧ (∀ c ∈ front, Text.isDigit c = false) ∧
      Text.isDigit c = true := by
  cases hBody : s.dropWhile fun c => !Text.isDigit c with
  | nil =>
      rw [readOpen?] at h
      dsimp only at h
      rw [hBody] at h
      split at h <;> cases h
  | cons c body =>
      have hDigit := List.head?_dropWhile_not (fun c => !Text.isDigit c) s
      rw [hBody] at hDigit
      refine ⟨s.takeWhile fun c => !Text.isDigit c, c, body, ?_,
        fun c hc => by simpa using List.mem_takeWhile_imp hc, by simpa using hDigit⟩
      rw [← hBody, List.takeWhile_append_dropWhile]

/-- A number is read as what it says, in whichever way its text is divided into pieces. -/
theorem readOpen?_text {separators : NumberSeparators} (w : WrittenNumber separators)
    (enclosed : Bool) : readOpen? separators enclosed w.text = some (w.numeral enclosed) := by
  have hBody : ∀ c ∈ w.firstDigit :: w.others, separators.isBody c = true :=
    fun c hc => WrittenNumber.isBody_of_mem hc
  have hFront : readFront? w.front = some w.minus := readFront?_eq_some_iff.mpr
    ⟨_, _, _, w.isEdge_firstEdge, w.isSpace_firstGap, w.isEdge_secondEdge, rfl⟩
  have hText : w.text = w.front ++ w.firstDigit ::
      (w.others ++ (fractionText separators w.fraction ++ w.behind)) := by
    simp [WrittenNumber.text]
  obtain ⟨rest, hEnd, hFraction⟩ := exists_readFraction w
  rw [hText, readOpen?_eq separators enclosed
      (fun c hc => WrittenNumber.isDigit_eq_false_of_mem_front hc) w.isDigit_firstDigit,
    hFront, Option.bind_some, ← List.cons_append, List.dropWhile_append_of_pos hBody,
    List.takeWhile_append_of_pos hBody, hFraction, List.filter_append,
    filter_takeWhile_fractionText, List.append_nil]
  exact if_pos hEnd

/-- What is read as a fraction stands at the start of the text, behind the separator. -/
theorem eq_append_of_readFraction (separators : NumberSeparators) (s : Text) :
    s = fractionText separators (readFraction separators s).1 ++ (readFraction separators s).2 ∧
      ∀ digits ∈ (readFraction separators s).1,
        digits ≠ [] ∧ ∀ c ∈ digits, Text.isDigit c = true := by
  rw [readFraction.eq_def]
  split
  · rename_i c d rest
    split
    · rename_i hFraction
      obtain ⟨rfl, hDigit⟩ := hFraction
      have hSplit := (List.takeWhile_append_dropWhile (p := Text.isDigit) (l := d :: rest)).symm
      refine ⟨by rw [fractionText, List.cons_append, ← hSplit], ?_⟩
      rintro digits hDigits
      obtain rfl := Option.some.inj hDigits
      exact ⟨by simp [hDigit], fun c hc => List.mem_takeWhile_imp hc⟩
    · exact ⟨rfl, by simp⟩
  · exact ⟨rfl, by simp⟩

/-- What is read as a number without parentheses can be divided into the pieces of one. -/
theorem exists_written_of_readOpen? {separators : NumberSeparators} {enclosed : Bool} {s : Text}
    {n : Numeral} (h : readOpen? separators enclosed s = some n) :
    ∃ w : WrittenNumber separators, s = w.text ∧ n = w.numeral enclosed := by
  obtain ⟨front, c, tail, rfl, hFront, hDigit⟩ := exists_digit_of_readOpen? h
  have hBody := separators.isBody_of_isDigit hDigit
  rw [readOpen?_eq separators enclosed hFront hDigit,
    Option.bind_eq_some_iff, List.dropWhile_cons_of_pos hBody, List.takeWhile_cons_of_pos hBody] at h
  obtain ⟨minus, hMinus, h⟩ := h
  obtain ⟨first, firstGap, second, hFirst, hFirstGap, hSecond, rfl⟩ := readFront?_eq_some_iff.mp hMinus
  obtain ⟨hTail, hFraction⟩ := eq_append_of_readFraction separators (tail.dropWhile separators.isBody)
  dsimp only at h
  split at h
  · rename_i hEnd
    obtain ⟨lastGap, last, hLastGap, hLast, hBehind⟩ := endsNumber_iff.mp hEnd
    obtain rfl := Option.some.inj h
    refine ⟨⟨first, firstGap, minus, second, c, tail.takeWhile separators.isBody, _, lastGap, last,
      hFirst, hFirstGap, hSecond, hDigit, fun c hc => List.mem_takeWhile_imp hc, hFraction, hLastGap,
      hLast⟩, ?_, rfl⟩
    have hSplit : tail = tail.takeWhile separators.isBody ++ tail.dropWhile separators.isBody :=
      List.takeWhile_append_dropWhile.symm
    rw [hBehind] at hTail
    rw [hTail] at hSplit
    simp only [WrittenNumber.text, WrittenNumber.front, WrittenNumber.behind]
    conv_lhs => rw [hSplit]
    simp only [List.append_assoc, List.cons_append]
  · cases h

/-- The numbers without parentheses are the written ones. -/
theorem readOpen?_eq_some_iff {separators : NumberSeparators} {enclosed : Bool} {s : Text}
    {n : Numeral} : readOpen? separators enclosed s = some n ↔
      ∃ w : WrittenNumber separators, s = w.text ∧ n = w.numeral enclosed := by
  constructor
  · exact exists_written_of_readOpen?
  · rintro ⟨w, rfl, rfl⟩
    exact readOpen?_text w enclosed

end Numeral

/-- A number in parentheses, or without them. -/
def WrittenNumber.textIn {separators : NumberSeparators} (w : WrittenNumber separators)
    (enclosed : Bool) : Text :=
  if enclosed then '(' :: w.text ++ [')'] else w.text

namespace Numeral

/-- A number without parentheses does not begin with one. -/
theorem text_ne_cons_parenthesis {separators : NumberSeparators} (w : WrittenNumber separators)
    (inner : Text) : w.text ≠ '(' :: inner := by
  intro h
  rw [WrittenNumber.text] at h
  cases hFront : w.front with
  | nil =>
      rw [hFront] at h
      have hDigit := w.isDigit_firstDigit
      rw [(List.cons.inj h).1] at hDigit
      revert hDigit
      decide
  | cons c cs =>
      rw [hFront] at h
      have hMem : '(' ∈ w.front := by
        rw [hFront, ← (List.cons.inj h).1]
        exact List.mem_cons_self ..
      rcases WrittenNumber.isEdge_or_minus_of_mem_front hMem with hEdge | ⟨hMinus, _⟩
      · revert hEdge
        decide
      · cases hMinus

/-- The numbers are the written ones, with parentheses around them or not. -/
theorem read?_eq_some_iff {separators : NumberSeparators} {s : Text} {n : Numeral} :
    read? separators s = some n ↔
      ∃ (w : WrittenNumber separators) (enclosed : Bool),
        s = w.textIn enclosed ∧ n = w.numeral enclosed := by
  constructor
  · intro h
    rw [read?.eq_def] at h
    split at h
    · rename_i inner
      split at h
      · rename_i hLast
        obtain ⟨w, hText, hNumeral⟩ := readOpen?_eq_some_iff.mp h
        refine ⟨w, true, ?_, hNumeral⟩
        rw [WrittenNumber.textIn, if_pos rfl, ← hText, List.cons_append,
          List.dropLast_append_getLast? ')' hLast]
      · cases h
    · obtain ⟨w, hText, hNumeral⟩ := readOpen?_eq_some_iff.mp h
      exact ⟨w, false, hText, hNumeral⟩
  · rintro ⟨w, enclosed, rfl, rfl⟩
    cases enclosed with
    | true =>
        rw [WrittenNumber.textIn, if_pos rfl, List.cons_append, read?, if_pos (by simp),
          List.dropLast_concat]
        exact readOpen?_text w true
    | false =>
        rw [WrittenNumber.textIn, if_neg (by decide), read?.eq_def]
        split
        · rename_i inner hInner
          exact absurd hInner (text_ne_cons_parenthesis w inner)
        · exact readOpen?_text w false

end Numeral

namespace ColumnType

/-- The whole numbers are the numbers without a fraction. -/
theorem accepts_int_iff {separators : NumberSeparators} {s : Text} :
    accepts separators .int s = true ↔
      ∃ numeral, Numeral.read? separators s = some numeral ∧ numeral.fraction = none := by
  rw [accepts]
  cases Numeral.read? separators s <;> simp

/-- A text is accepted as a number of a column of binary numbers if it is written as one, in parentheses
or without them, and as one of a column of integers if it has no fraction. -/
theorem accepts_number_iff (separators : NumberSeparators) (s : Text) :
    (accepts separators .int s = true ↔ ∃ w : WrittenNumber separators, w.fraction = none ∧
      (s = w.text ∨ s = '(' :: w.text ++ [')'])) ∧
    (accepts separators .float s = true ↔ ∃ w : WrittenNumber separators,
      s = w.text ∨ s = '(' :: w.text ++ [')']) := by
  have hForms : ∀ w : WrittenNumber separators,
      (s = w.text ∨ s = '(' :: w.text ++ [')']) ↔ ∃ enclosed, s = w.textIn enclosed := by
    intro w
    rw [Bool.exists_bool]
    rfl
  constructor
  · rw [accepts_int_iff]
    constructor
    · rintro ⟨numeral, hRead, hWhole⟩
      obtain ⟨w, enclosed, hText, rfl⟩ := Numeral.read?_eq_some_iff.mp hRead
      exact ⟨w, hWhole, (hForms w).mpr ⟨enclosed, hText⟩⟩
    · rintro ⟨w, hWhole, hText⟩
      obtain ⟨enclosed, hText⟩ := (hForms w).mp hText
      exact ⟨w.numeral enclosed, Numeral.read?_eq_some_iff.mpr ⟨w, enclosed, hText, rfl⟩, hWhole⟩
  · rw [accepts, Option.isSome_iff_exists]
    constructor
    · rintro ⟨numeral, hRead⟩
      obtain ⟨w, enclosed, hText, _⟩ := Numeral.read?_eq_some_iff.mp hRead
      exact ⟨w, (hForms w).mpr ⟨enclosed, hText⟩⟩
    · rintro ⟨w, hText⟩
      obtain ⟨enclosed, hText⟩ := (hForms w).mp hText
      exact ⟨w.numeral enclosed, Numeral.read?_eq_some_iff.mpr ⟨w, enclosed, hText, rfl⟩⟩

end ColumnType

end CsvIntake
