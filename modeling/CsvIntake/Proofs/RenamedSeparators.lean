import CsvIntake.Proofs.PlainNumbers
import Mathlib.Logic.Equiv.Basic

/-! Ways of writing numbers that are renamings of each other. Where a permutation of the characters takes
one decimal separator to another and the characters that group digits to those that group them there, and
leaves alone whatever else a number is written with, it takes the written numbers of one kind to those of
the other. Nothing is said about the remaining characters, since no number holds them. -/
namespace CsvIntake

/-- A character that is written in the same way in all numbers. -/
def IsCommon (c : Char) : Prop := Text.isDigit c = true ∨ isEdge c = true ∨ c ∈ ['-', '(', ')']

/-- Exchanging characters turns the first way of writing numbers into the second one. -/
structure IsRenaming (first second : NumberSeparators) (rename : Equiv.Perm Char) : Prop where
  fixes : ∀ c, IsCommon c → rename c = c
  decimal : rename first.decimal = second.decimal
  isGrouping : ∀ c, second.isGrouping (rename c) = first.isGrouping c

namespace IsRenaming

variable {first second : NumberSeparators} {rename : Equiv.Perm Char}

theorem fixes_symm (h : IsRenaming first second rename) {c : Char} (hc : IsCommon c) :
    rename.symm c = c :=
  rename.symm_apply_eq.mpr (h.fixes c hc).symm

theorem symm (h : IsRenaming first second rename) : IsRenaming second first rename.symm where
  fixes _ hc := h.fixes_symm hc
  decimal := rename.symm_apply_eq.mpr h.decimal.symm
  isGrouping c := by rw [← h.isGrouping, rename.apply_symm_apply]

/-- A class of common characters is not left, and nothing comes into it. -/
theorem apply_eq {p : Char → Bool} (h : IsRenaming first second rename)
    (hp : ∀ c, p c = true → IsCommon c) (c : Char) : p (rename c) = p c := by
  rw [Bool.eq_iff_iff]
  constructor
  · intro hRenamed
    have hFixed := h.fixes_symm (hp _ hRenamed)
    rw [rename.symm_apply_apply] at hFixed
    rwa [← hFixed] at hRenamed
  · intro hc
    rwa [h.fixes c (hp c hc)]

theorem isDigit_apply (h : IsRenaming first second rename) (c : Char) :
    Text.isDigit (rename c) = Text.isDigit c :=
  h.apply_eq (fun _ hc => .inl hc) c

theorem isSpace_apply (h : IsRenaming first second rename) (c : Char) :
    Text.isSpace (rename c) = Text.isSpace c :=
  h.apply_eq (fun _ hc => .inr (.inl (isEdge_of_isSpace hc))) c

/-- What may stand among the digits does so after the exchange. -/
theorem isBody_apply (h : IsRenaming first second rename) (c : Char) :
    second.isBody (rename c) = first.isBody c := by
  rw [NumberSeparators.isBody, NumberSeparators.isBody, h.isDigit_apply, h.isGrouping]

theorem map_eq_self (h : IsRenaming first second rename) {s : Text} (hs : ∀ c ∈ s, IsCommon c) :
    s.map rename = s := by
  induction s with
  | nil => rfl
  | cons c cs ih =>
      rw [List.map_cons, h.fixes c (hs c (List.mem_cons_self ..)),
        ih fun d hd => hs d (List.mem_cons_of_mem _ hd)]

/-- White space is trimmed before or after renaming. -/
theorem trim_map (h : IsRenaming first second rename) (s : Text) :
    Text.trim (s.map rename) = (Text.trim s).map rename := by
  have hSpace : (Text.isSpace ∘ rename) = Text.isSpace := funext h.isSpace_apply
  rw [Text.trim_eq_rdropWhile, Text.trim_eq_rdropWhile, List.rdropWhile, List.rdropWhile,
    List.dropWhile_map, hSpace, ← List.map_reverse, List.dropWhile_map, hSpace, List.map_reverse]

/-- The exchange keeps the digits and their order. -/
theorem filter_isDigit_map (h : IsRenaming first second rename) (s : Text) :
    (s.map rename).filter Text.isDigit = s.filter Text.isDigit := by
  have hDigit : (Text.isDigit ∘ rename) = Text.isDigit := funext h.isDigit_apply
  rw [List.filter_map, hDigit]
  exact h.map_eq_self fun c hc => .inl (List.of_mem_filter hc)

theorem contains_lineFeed_map (h : IsRenaming first second rename) (s : Text) :
    (s.map rename).contains '\n' = s.contains '\n' := by
  have hFeed : rename '\n' = '\n' := h.fixes _ (.inr (.inl (by decide)))
  rw [Bool.eq_iff_iff, List.contains_iff_mem, List.contains_iff_mem]
  conv_lhs => rw [← hFeed]
  exact List.mem_map_of_injective rename.injective

end IsRenaming

namespace WrittenNumber

variable {first second : NumberSeparators} {rename : Equiv.Perm Char}

/-- The same number, with the other characters between the digits of its body. -/
def renamed (w : WrittenNumber first) (h : IsRenaming first second rename) : WrittenNumber second :=
  { w with
    others := w.others.map rename
    isBody_others := by
      intro c hc
      obtain ⟨d, hd, rfl⟩ := List.mem_map.mp hc
      rw [h.isBody_apply]
      exact w.isBody_others d hd }

/-- What stands before the first digit is shared by both ways. -/
theorem isCommon_of_mem_front {w : WrittenNumber first} {c : Char} (h : c ∈ w.front) : IsCommon c := by
  rcases isEdge_or_minus_of_mem_front h with hEdge | ⟨rfl, _⟩
  · exact .inr (.inl hEdge)
  · exact .inr (.inr (by decide))

theorem map_fractionText (w : WrittenNumber first) (h : IsRenaming first second rename) :
    (fractionText first w.fraction).map rename = fractionText second w.fraction := by
  cases hFraction : w.fraction with
  | none => rfl
  | some digits =>
      have hDigits := (w.isDigit_fraction digits hFraction).2
      rw [fractionText, fractionText, List.map_cons, h.decimal,
        h.map_eq_self fun c hc => .inl (hDigits c hc)]

/-- The renamed number is written as its text with the characters exchanged. -/
theorem text_renamed (w : WrittenNumber first) (h : IsRenaming first second rename) :
    (w.renamed h).text = w.text.map rename := by
  have hFront : w.front.map rename = w.front := h.map_eq_self fun c hc => isCommon_of_mem_front hc
  have hBehind : w.behind.map rename = w.behind :=
    h.map_eq_self fun c hc => .inr (.inl (isEdge_of_mem_behind hc))
  rw [text, text, List.map_append, List.map_append, List.map_append, List.map_cons,
    w.map_fractionText h, hFront, hBehind, h.fixes w.firstDigit (.inl w.isDigit_firstDigit)]
  rfl

theorem textIn_renamed (w : WrittenNumber first) (h : IsRenaming first second rename)
    (enclosed : Bool) : (w.renamed h).textIn enclosed = (w.textIn enclosed).map rename := by
  cases enclosed with
  | false => exact w.text_renamed h
  | true =>
      rw [textIn, textIn, if_pos rfl, if_pos rfl, w.text_renamed h, List.map_append, List.map_cons,
        h.fixes '(' (.inr (.inr (by decide))), h.map_eq_self (s := [')'])]
      intro c hc
      obtain rfl := List.mem_singleton.mp hc
      exact .inr (.inr (by decide))

/-- Renaming keeps the sign, the digits and the fraction of a number. -/
theorem numeral_renamed (w : WrittenNumber first) (h : IsRenaming first second rename)
    (enclosed : Bool) : (w.renamed h).numeral enclosed = w.numeral enclosed := by
  have hDigits : (w.firstDigit :: w.others.map rename).filter Text.isDigit =
      (w.firstDigit :: w.others).filter Text.isDigit := by
    rw [List.filter_cons, List.filter_cons, h.filter_isDigit_map]
  show Numeral.mk _ _ _ _ = Numeral.mk _ _ _ _
  rw [← hDigits]
  rfl

end WrittenNumber

namespace IsRenaming

variable {first second : NumberSeparators} {rename : Equiv.Perm Char}

/-- A number is the same numeral in the other way, with the characters exchanged. -/
theorem read?_map_of_read? (h : IsRenaming first second rename) {s : Text} {n : Numeral}
    (hRead : Numeral.read? first s = some n) : Numeral.read? second (s.map rename) = some n := by
  obtain ⟨w, enclosed, rfl, rfl⟩ := Numeral.read?_eq_some_iff.mp hRead
  exact Numeral.read?_eq_some_iff.mpr
    ⟨w.renamed h, enclosed, (w.textIn_renamed h enclosed).symm, (w.numeral_renamed h enclosed).symm⟩

/-- A renamed text is the same number, or it is none either. -/
theorem read?_map (h : IsRenaming first second rename) (s : Text) :
    Numeral.read? second (s.map rename) = Numeral.read? first s := by
  apply Option.ext
  intro n
  constructor
  · intro hRead
    have hBack := h.symm.read?_map_of_read? hRead
    rwa [List.map_map, show ⇑rename.symm ∘ ⇑rename = id from rename.symm_comp_self, List.map_id] at hBack
  · exact h.read?_map_of_read?

theorem accepts_int_map (h : IsRenaming first second rename) (s : Text) :
    ColumnType.accepts second .int (s.map rename) = ColumnType.accepts first .int s := by
  rw [ColumnType.accepts, ColumnType.accepts, h.read?_map]

theorem accepts_float_map (h : IsRenaming first second rename) (s : Text) :
    ColumnType.accepts second .float (s.map rename) = ColumnType.accepts first .float s := by
  rw [ColumnType.accepts, ColumnType.accepts, h.read?_map]

/-- Both texts are read as the same number, or each is refused for itself, or both are too long to be
negated. -/
theorem readNumber_map (h : IsRenaming first second rename) (s : Text) :
    (∃ number, readNumber first s = .ok number ∧ readNumber second (s.map rename) = .ok number) ∨
      (readNumber first s = unreadable s .number ∧
        readNumber second (s.map rename) = unreadable (s.map rename) .number) ∨
      readNumber first s = .error .negationOverflow ∧
        readNumber second (s.map rename) = .error .negationOverflow := by
  simp only [readNumber, h.trim_map, h.read?_map, h.contains_lineFeed_map]
  cases Numeral.read? first (Text.trim s) with
  | none => exact .inr (.inl ⟨rfl, rfl⟩)
  | some numeral =>
      dsimp only
      cases numeral.enclosed && (Text.trim s).contains '\n' with
      | true => exact .inr (.inl ⟨rfl, rfl⟩)
      | false =>
          cases numeral.overflows with
          | true => exact .inr (.inr ⟨rfl, rfl⟩)
          | false => exact .inl ⟨_, rfl, rfl⟩

end IsRenaming

/-- A text says under the first separators what its renamed copy says under the second ones: both are
accepted as numbers of a kind or neither is, and both are read as the same number, or each is refused, or
both are too long to be negated. -/
structure ReadsAlike (first second : NumberSeparators) (rename : Char → Char) : Prop where
  accepts_int : ∀ s : Text,
    ColumnType.accepts second .int (s.map rename) = ColumnType.accepts first .int s
  accepts_float : ∀ s : Text,
    ColumnType.accepts second .float (s.map rename) = ColumnType.accepts first .float s
  readNumber : ∀ s : Text,
    (∃ number, readNumber first s = .ok number ∧ readNumber second (s.map rename) = .ok number) ∨
      (readNumber first s = unreadable s .number ∧
        readNumber second (s.map rename) = unreadable (s.map rename) .number) ∨
      readNumber first s = .error .negationOverflow ∧
        readNumber second (s.map rename) = .error .negationOverflow

/-- An exchange of separators changes nothing of how numbers are accepted and read. -/
theorem IsRenaming.readsAlike {first second : NumberSeparators} {rename : Equiv.Perm Char}
    (h : IsRenaming first second rename) : ReadsAlike first second rename :=
  ⟨h.accepts_int_map, h.accepts_float_map, h.readNumber_map⟩

instance (c : Char) : Decidable (IsCommon c) := inferInstanceAs (Decidable (_ ∨ _ ∨ _))

/-- Where the space does not group digits, just one character does. -/
theorem NumberSeparators.isGrouping_eq {separators : NumberSeparators} (h : separators ≠ .commaSpace)
    (c : Char) : separators.isGrouping c = (c == separators.grouping) := by
  cases separators <;> simp_all [isGrouping]

/-- Two ways of writing numbers with one grouping character each are renamings of each other as soon as an
exchange of two separators takes the two characters of the one to those of the other. -/
theorem isRenaming_swap {first second : NumberSeparators} {a b : Char} (ha : ¬ IsCommon a)
    (hb : ¬ IsCommon b) (hFirst : first ≠ .commaSpace) (hSecond : second ≠ .commaSpace)
    (hDecimal : Equiv.swap a b first.decimal = second.decimal)
    (hGrouping : Equiv.swap a b first.grouping = second.grouping) :
    IsRenaming first second (Equiv.swap a b) where
  fixes c hc := by
    apply Equiv.swap_apply_of_ne_of_ne
    · rintro rfl
      exact ha hc
    · rintro rfl
      exact hb hc
  decimal := hDecimal
  isGrouping c := by
    rw [NumberSeparators.isGrouping_eq hFirst, NumberSeparators.isGrouping_eq hSecond, ← hGrouping,
      Bool.eq_iff_iff, beq_iff_eq, beq_iff_eq, (Equiv.swap a b).injective.eq_iff]

/-- Numbers with decimal points become those with decimal commas when points and commas are exchanged, and
those grouped by apostrophes when commas and apostrophes are. -/
theorem readsAlike_of_exchanged_separators :
    ReadsAlike .dotComma .commaDot (Equiv.swap '.' ',') ∧
      ReadsAlike .dotComma .dotApostrophe (Equiv.swap ',' '’') := by
  constructor
  · exact (isRenaming_swap (by decide) (by decide) (by decide) (by decide) (by decide)
      (by decide)).readsAlike
  · exact (isRenaming_swap (by decide) (by decide) (by decide) (by decide) (by decide)
      (by decide)).readsAlike

/-- With an apostrophe `1’234.5` is read as `1,234.5` is with a comma. -/
example : readNumber .dotApostrophe ("1,234.5".toList.map (Equiv.swap ',' '’')) =
    readNumber .dotComma "1,234.5".toList := by
  decide +kernel

end CsvIntake
