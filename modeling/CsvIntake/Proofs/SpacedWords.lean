import CsvIntake.Proofs.Trimming

/-! Texts made of words with white space between and around them. The reader of words finds these words
again, and trimming finds the text again, whatever the white space is. -/
namespace CsvIntake.Text

/-- Nothing but white space stands between the words, and something does. -/
inductive IsSpaced : List Text → Text → Prop where
  | last (word : Text) : IsSpaced [word] word
  | next {words : List Text} {rest : Text} (word gap : Text) (nonempty : gap ≠ [])
      (isSpace_gap : ∀ c ∈ gap, isSpace c = true) (others : IsSpaced words rest) :
      IsSpaced (word :: words) (word ++ gap ++ rest)

/-- A word has characters, and none of them is white space. -/
def IsInk (word : Text) : Prop := word ≠ [] ∧ ∀ c ∈ word, isSpace c = false

/-- White space in front adds no words. -/
theorem words_append_of_isSpace {gap : Text} (h : ∀ c ∈ gap, isSpace c = true) (s : Text) :
    words (gap ++ s) = words s := by
  induction gap with
  | nil => rfl
  | cons c gap ih =>
      rw [List.cons_append, words_space (h c (List.mem_cons_self ..))]
      exact ih fun d hd => h d (List.mem_cons_of_mem _ hd)

theorem words_of_isSpace {s : Text} (h : ∀ c ∈ s, isSpace c = true) : words s = [] := by
  have hNone := words_append_of_isSpace h []
  rwa [List.append_nil] at hNone

/-- A word ends where white space begins. -/
theorem words_append {word rest : Text} (hWord : IsInk word)
    (hRest : ∀ c ∈ rest.head?, isSpace c = true) : words (word ++ rest) = word :: words rest := by
  obtain ⟨hNonempty, hInk⟩ := hWord
  induction word with
  | nil => exact absurd rfl hNonempty
  | cons c word ih =>
      have hc := hInk c (List.mem_cons_self ..)
      cases word with
      | nil =>
          cases rest with
          | nil => simp [words, hc]
          | cons d rest => simp [words, hc, hRest d rfl]
      | cons d word =>
          have hd := hInk d (by simp)
          have hOthers := ih (by simp) fun e he => hInk e (List.mem_cons_of_mem _ he)
          rw [List.cons_append] at hOthers
          simp [words_cons_cons, hc, hd, hOthers]

/-- The words of a spaced text are those that were spaced. -/
theorem words_of_isSpaced {ws : List Text} {s after : Text} (h : IsSpaced ws s)
    (hWords : ∀ word ∈ ws, IsInk word) (hAfter : ∀ c ∈ after, isSpace c = true) :
    words (s ++ after) = ws := by
  induction h with
  | last word =>
      rw [words_append (hWords word (List.mem_singleton_self _)), words_of_isSpace hAfter]
      exact fun c hc => hAfter c (List.mem_of_mem_head? hc)
  | @next words rest word gap nonempty isSpace_gap others ih =>
      obtain ⟨c, gap, rfl⟩ := List.exists_cons_of_ne_nil nonempty
      have hHead : ∀ d ∈ (c :: gap ++ (rest ++ after)).head?, isSpace d = true := by
        simpa using isSpace_gap c (List.mem_cons_self ..)
      rw [List.append_assoc, List.append_assoc, words_append (hWords word (List.mem_cons_self ..)) hHead,
        words_append_of_isSpace isSpace_gap, ih fun w hw => hWords w (List.mem_cons_of_mem _ hw)]

/-- Trimming the end stops at the last word. -/
theorem rdropWhile_append_of_isInk (s : Text) {last after : Text} (hLast : IsInk last)
    (hAfter : ∀ c ∈ after, isSpace c = true) : (s ++ last ++ after).rdropWhile isSpace = s ++ last := by
  obtain ⟨front, c, rfl⟩ := (List.eq_nil_or_concat' last).resolve_left hLast.1
  have hc := hLast.2 c (by simp)
  rw [List.rdropWhile, List.reverse_append, List.dropWhile_append_of_pos (by simpa using hAfter),
    ← List.append_assoc, List.reverse_append, List.reverse_singleton, List.singleton_append,
    List.dropWhile_cons_of_neg (by simp [hc]), List.reverse_cons, List.reverse_reverse]

/-- What starts and ends with a word is left when the white space around it is trimmed. -/
theorem trim_surrounded {before first last after : Text} (middle : Text)
    (hBefore : ∀ c ∈ before, isSpace c = true) (hFirst : IsInk first) (hLast : IsInk last)
    (hAfter : ∀ c ∈ after, isSpace c = true) :
    trim (before ++ (first ++ middle ++ last) ++ after) = first ++ middle ++ last := by
  obtain ⟨c, first, rfl⟩ := List.exists_cons_of_ne_nil hFirst.1
  have hc := hFirst.2 c (List.mem_cons_self ..)
  rw [trim_eq_rdropWhile, List.append_assoc, List.dropWhile_append_of_pos hBefore, List.cons_append,
    List.cons_append, List.cons_append, List.dropWhile_cons_of_neg (by simp [hc])]
  exact rdropWhile_append_of_isInk (c :: first ++ middle) hLast hAfter

end CsvIntake.Text
