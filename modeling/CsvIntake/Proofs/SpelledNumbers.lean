import CsvIntake.Proofs.Characters
import CsvIntake.Proofs.SpacedWords
import CsvIntake.Proofs.TimedNames
import Mathlib.Tactic.Ring

/-! The numbers that digits spell. Each place counts ten times the one behind it, so digits can be read in
two parts, and a number that is written with zeros in front is still the same number. -/
namespace CsvIntake.Text

theorem digitValue_lt (c : Char) : digitValue c < 10 := by
  cases hValue : digitValue? c with
  | none => simp [digitValue, hValue]
  | some value =>
      obtain ⟨z, _, hz⟩ := List.exists_of_findSome?_eq_some hValue
      split at hz
      · obtain rfl := Option.some.inj hz
        simp only [digitValue, hValue, Option.getD_some]
        omega
      · cases hz

/-- The value of two runs of digits, one behind the other. -/
theorem decimalValue_append (front back : Text) :
    decimalValue (front ++ back) = decimalValue front * 10 ^ back.length + decimalValue back := by
  induction back using List.reverseRecOn with
  | nil => simp [decimalValue]
  | append_singleton back c ih =>
      rw [← List.append_assoc, decimalValue_append_singleton, decimalValue_append_singleton, ih,
        List.length_append, List.length_singleton, Nat.pow_succ]
      ring

/-- A run of digits stays below the power of ten of its length. -/
theorem decimalValue_lt (digits : Text) : decimalValue digits < 10 ^ digits.length := by
  induction digits using List.reverseRecOn with
  | nil => decide
  | append_singleton digits c ih =>
      have hLast := digitValue_lt c
      rw [decimalValue_append_singleton, List.length_append, List.length_singleton, Nat.pow_succ]
      omega

/-- The ASCII digits are the first series of digits. -/
theorem digitValue?_of_ascii {c : Char} (h : c.isDigit = true) :
    digitValue? c = some (c.toNat - '0'.toNat) := by
  have hRange : 48 ≤ c.toNat ∧ c.toNat ≤ 57 := by
    simpa [Char.isDigit, UInt32.le_iff_toNat_le] using h
  rw [digitValue?, zeroDigits, List.findSome?_cons]
  simp [hRange.1, Nat.lt_succ_of_le hRange.2]

theorem isDigit_of_ascii {c : Char} (h : c.isDigit = true) : isDigit c = true := by
  rw [isDigit, digitValue?_of_ascii h, Option.isSome_some]

/-- The value of ASCII digits is the number that they write. -/
theorem decimalValue_of_ascii {digits : Text} (h : ∀ c ∈ digits, c.isDigit = true) :
    decimalValue digits = Nat.ofDigitChars 10 digits 0 := by
  induction digits using List.reverseRecOn with
  | nil => rfl
  | append_singleton digits c ih =>
      have hc := digitValue?_of_ascii (h c (by simp))
      rw [decimalValue_append_singleton, ih fun d hd => h d (by simp [hd]), digitValue, hc]
      simp [Nat.ofDigitChars]

/-- Zeros in front of a number leave its value. -/
theorem decimalValue_ofNatPadded (width n : Nat) : decimalValue (ofNatPadded width n) = n := by
  rw [decimalValue_of_ascii fun c hc => isDigit_of_mem_ofNatPadded hc, ofDigitChars_ofNatPadded]

/-- The text is a number of so many digits, of any script. -/
structure Spells (least most n : Nat) (digits : Text) : Prop where
  least_le : least ≤ digits.length
  le_most : digits.length ≤ most
  isDigit : ∀ c ∈ digits, isDigit c = true
  value : decimalValue digits = n

theorem Spells.of_bounds {least most fewer more n : Nat} {digits : Text} (h : Spells least most n digits)
    (hFewer : fewer ≤ least) (hMore : most ≤ more) : Spells fewer more n digits :=
  ⟨hFewer.trans h.least_le, h.le_most.trans hMore, h.isDigit, h.value⟩

/-- Zeros in front of a number fill it up to a width, and the number stays the same. -/
theorem spells_ofNatPadded {width n : Nat} (hWidth : 0 < width) (h : n < 10 ^ width) :
    Spells width width n (ofNatPadded width n) where
  least_le := (length_ofNatPadded hWidth h).ge
  le_most := (length_ofNatPadded hWidth h).le
  isDigit _ hc := isDigit_of_ascii (isDigit_of_mem_ofNatPadded hc)
  value := decimalValue_ofNatPadded width n

theorem Spells.isInk {least most n : Nat} {digits : Text} (h : Spells least most n digits)
    (hLeast : 0 < least) : IsInk digits :=
  ⟨List.ne_nil_of_length_pos (hLeast.trans_le h.least_le),
    fun c hc => isSpace_eq_false_of_isDigit (h.isDigit c hc)⟩

end CsvIntake.Text
