import CsvIntake.Text.Digit
import Mathlib.Data.List.DropRight

/-! White space at the ends of a text and between its words. Trimming twice is trimming once, and
neither the words of a text nor the characters in them depend on the white space around it. -/
namespace CsvIntake.Text

theorem trimRight_eq_rdropWhile (s : Text) : trimRight s = s.rdropWhile isSpace := by
  induction s with
  | nil => rfl
  | cons c cs ih =>
      have hStep : (c :: cs).rdropWhile isSpace =
          if cs.rdropWhile isSpace = [] then (if isSpace c then [] else [c])
          else c :: cs.rdropWhile isSpace := by
        simp only [List.rdropWhile, List.reverse_cons, List.dropWhile_append,
          List.isEmpty_iff, List.reverse_eq_nil_iff, List.dropWhile_cons, List.dropWhile_nil]
        split <;> rename_i hBlank
        · split <;> simp
        · simp
      rw [hStep, trimRight, ih]
      cases cs.rdropWhile isSpace with
      | nil => simp
      | cons d ds => simp

theorem trim_eq_rdropWhile (s : Text) : trim s = (s.dropWhile isSpace).rdropWhile isSpace :=
  trimRight_eq_rdropWhile _

@[simp] theorem isBlank_iff {s : Text} : isBlank s = true ↔ ∀ c ∈ s, isSpace c := by
  simp [isBlank]

/-- Dropping white space at the end keeps the first character, unless nothing else is left. -/
theorem trimLeft_trim (s : Text) : trimLeft (trim s) = trim s := by
  rw [trim_eq_rdropWhile, trimLeft]
  cases hInner : (s.dropWhile isSpace).rdropWhile isSpace with
  | nil => rfl
  | cons c cs =>
      have hPrefix := List.rdropWhile_prefix isSpace (s.dropWhile isSpace)
      rw [hInner] at hPrefix
      have hHead := List.head?_dropWhile_not isSpace s
      obtain ⟨rest, hRest⟩ := hPrefix
      rw [← hRest] at hHead
      have hc : isSpace c = false := by simpa using hHead
      simp [hc]

@[simp] theorem trim_trim (s : Text) : trim (trim s) = trim s := by
  have hRight : trimRight (trim s) = trim s := by
    rw [trimRight_eq_rdropWhile, trim_eq_rdropWhile]
    exact List.rdropWhile_idempotent isSpace _
  rw [trim, trimLeft_trim, hRight]

theorem trim_sublist (s : Text) : (trim s).Sublist s := by
  rw [trim_eq_rdropWhile]
  exact (List.rdropWhile_prefix isSpace _).sublist.trans (List.dropWhile_sublist isSpace)

/-- What trimming takes away is white space. -/
theorem exists_trim (s : Text) : ∃ before after, s = before ++ trim s ++ after ∧
    (∀ c ∈ before, isSpace c = true) ∧ ∀ c ∈ after, isSpace c = true := by
  have hLeft : s = s.takeWhile isSpace ++ trimLeft s := List.takeWhile_append_dropWhile.symm
  have hRight : trimLeft s =
      trim s ++ ((trimLeft s).reverse.takeWhile isSpace).reverse := by
    rw [trim, trimRight_eq_rdropWhile, List.rdropWhile, ← List.reverse_append,
      List.takeWhile_append_dropWhile, List.reverse_reverse]
  refine ⟨s.takeWhile isSpace, ((trimLeft s).reverse.takeWhile isSpace).reverse, ?_,
    fun c hc => List.mem_takeWhile_imp hc,
    fun c hc => List.mem_takeWhile_imp (List.mem_reverse.mp hc)⟩
  rw [List.append_assoc, ← hRight]
  exact hLeft

theorem trim_eq_self {s : Text} (h : ∀ c ∈ s, isSpace c = false) : trim s = s := by
  rw [trim_eq_rdropWhile, List.dropWhile_eq_self_iff.mpr, List.rdropWhile_eq_self_iff]
  · intro hne
    simp [h _ (List.getLast_mem hne)]
  · intro hLength
    simp [h _ (List.getElem_mem hLength)]

theorem mem_of_mem_trim {s : Text} {c : Char} (h : c ∈ trim s) : c ∈ s :=
  (trim_sublist s).subset h

/-- Nothing is left of a trimmed text exactly when it is blank. -/
theorem trim_eq_nil_iff {s : Text} : trim s = [] ↔ isBlank s = true := by
  rw [trim_eq_rdropWhile, List.rdropWhile_eq_nil_iff, isBlank_iff]
  constructor
  · intro h c hc
    rw [← List.takeWhile_append_dropWhile (p := isSpace) (l := s), List.mem_append] at hc
    exact hc.elim List.mem_takeWhile_imp (h c)
  · intro h c hc
    exact h c (List.dropWhile_subset isSpace hc)

theorem words_space {c : Char} (hc : isSpace c = true) (s : Text) : words (c :: s) = words s := by
  simp [words, hc]

@[simp] theorem words_trimLeft (s : Text) : words (trimLeft s) = words s := by
  induction s with
  | nil => rfl
  | cons c cs ih =>
      cases hc : isSpace c with
      | true => simpa [trimLeft, hc, words_space hc] using ih
      | false => simp [trimLeft, hc]

/-- A character starts a word of its own, or goes in front of the word behind it, or is none. -/
theorem words_cons_cons (c d : Char) (s : Text) :
    words (c :: d :: s) =
      if isSpace c then words (d :: s)
      else if isSpace d then [c] :: words (d :: s)
      else match words (d :: s) with
        | [] => [[c]]
        | w :: ws => (c :: w) :: ws := rfl

/-- The words of a text depend on what follows its first character only through its words and its
own first character. -/
theorem words_cons_congr {c : Char} {s t : Text} (hHead : s.head? = t.head?)
    (hWords : words s = words t) : words (c :: s) = words (c :: t) := by
  cases s with
  | nil =>
      cases t with
      | nil => rfl
      | cons d t => simp at hHead
  | cons d s =>
      cases t with
      | nil => simp at hHead
      | cons e t =>
          obtain rfl : d = e := by simpa using hHead
          rw [words_cons_cons, words_cons_cons, hWords]

@[simp] theorem words_trimRight (s : Text) : words (trimRight s) = words s := by
  induction s with
  | nil => rfl
  | cons c cs ih =>
      -- either all that follows is white space, or its first character stays
      rw [trimRight]
      cases hRest : trimRight cs with
      | nil =>
          rw [hRest] at ih
          have hBlank : ∀ d ∈ cs, isSpace d := by
            rwa [trimRight_eq_rdropWhile, List.rdropWhile_eq_nil_iff] at hRest
          cases hc : isSpace c with
          | true => simpa [words_space hc] using ih
          | false =>
              cases cs with
              | nil => simp [words, hc]
              | cons d ds =>
                  rw [words_cons_cons, ← ih]
                  simp [words, hc, hBlank d (by simp)]
      | cons d ds =>
          rw [hRest] at ih
          have hPrefix := List.rdropWhile_prefix isSpace cs
          rw [← trimRight_eq_rdropWhile, hRest] at hPrefix
          obtain ⟨rest, hEq⟩ := hPrefix
          exact words_cons_congr (by rw [← hEq]; rfl) ih

@[simp] theorem words_trim (s : Text) : words (trim s) = words s := by
  rw [trim, words_trimRight, words_trimLeft]

/-- The words hold every character of a text but its white space, in order. -/
theorem flatten_words (s : Text) : (words s).flatten = s.filter fun c => !isSpace c := by
  induction s with
  | nil => rfl
  | cons c cs ih =>
      cases hc : isSpace c with
      | true => simpa [words_space hc, hc] using ih
      | false =>
          cases cs with
          | nil => simp [words, hc]
          | cons d ds =>
              cases hd : isSpace d with
              | true => simp_all [words]
              | false =>
                  rw [words]
                  simp only [hc, hd]
                  cases hWords : words (d :: ds) <;> simp_all

/-- Characters other than the blank are not affected by joining with blanks. -/
theorem filter_joined {p : Char → Bool} (hp : p ' ' = false) (ws : List Text) :
    (joined [' '] ws).filter p = ws.flatten.filter p := by
  induction ws with
  | nil => rfl
  | cons w ws ih =>
      cases ws with
      | nil => simp [joined]
      | cons v vs => simp_all [joined]

/-- Putting single blanks between the words of a text changes none of its other characters. -/
theorem filter_joined_words {p : Char → Bool} (hp : ∀ c, isSpace c = true → p c = false)
    (s : Text) : (joined [' '] (words s)).filter p = s.filter p := by
  rw [filter_joined (hp ' ' (by decide)), flatten_words, List.filter_filter]
  congr 1
  funext c
  cases hc : isSpace c with
  | true => simp [hp c hc]
  | false => simp

/-- The words of a text hold all its characters that are no white space. -/
theorem mem_joined_words {s : Text} {c : Char} (hc : isSpace c = false) :
    c ∈ joined [' '] (words s) ↔ c ∈ s := by
  have h := filter_joined_words (p := (· == c)) (fun d hd => by
    rw [beq_eq_false_iff_ne]
    rintro rfl
    simp [hd] at hc) s
  have hMem : ∀ t : Text, c ∈ t ↔ c ∈ t.filter (· == c) := by simp
  rw [hMem, h, ← hMem]

theorem word_sublist {s word : Text} (h : word ∈ words s) : word.Sublist s := by
  have hFlat := List.sublist_flatten_of_mem h
  rw [flatten_words] at hFlat
  exact hFlat.trans List.filter_sublist

end CsvIntake.Text
