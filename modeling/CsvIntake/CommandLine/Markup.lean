import CsvIntake.Text.Picture

/-! Text with markup. A tag stands in brackets and sets a style, so it is not shown; with an odd number
of backslashes before it, it is no tag but text. Names of pictures between colons are shown as the
pictures. The main statement says that reading markup loses nothing. -/
namespace CsvIntake.CommandLine

/-- A part of a text with markup: plain text, or brackets with what may be a tag in them, behind a
number of backslashes. -/
inductive MarkupPart where
  | plain (s : Text)
  | brackets (backslashes : Nat) (body : Text)
  deriving DecidableEq, Repr

namespace MarkupPart

/-- A part as it is written. -/
def written : MarkupPart → Text
  | .plain s => s
  | .brackets n body => List.replicate n '\\' ++ '[' :: body ++ [']']

/-- Parts as they are written, one after the other. -/
def writtenAll (parts : List MarkupPart) : Text := parts.flatMap written

/-- Whether a text that follows an opening bracket may be a tag. -/
def startsTag (s : Text) : Bool :=
  s.head?.any fun c => ('a' ≤ c && c ≤ 'z') || c == '#' || c == '/' || c == '@'

/-- The body of a tag, if a text that follows an opening bracket starts with one. -/
def body? (s : Text) : Option Text :=
  if startsTag s && s.contains ']' then some (s.takeWhile (· != ']')) else none

/-- The backslashes at the end of a text. -/
def backslashesAtEnd (s : Text) : Nat := (s.reverse.takeWhile (· == '\\')).length

/-- Reads the pieces of a text behind its opening brackets; `pending` is the plain text before them. -/
def ofPieces (pending : Text) : List Text → List MarkupPart
  | [] => [.plain pending]
  | piece :: rest =>
    match body? piece with
    | none => ofPieces (pending ++ '[' :: piece) rest
    | some body =>
      let n := backslashesAtEnd pending
      .plain (pending.take (pending.length - n)) :: .brackets n body ::
        ofPieces (piece.drop (body.length + 1)) rest

/-- The parts of a text. -/
def ofText (s : Text) : List MarkupPart :=
  match Text.pieces (· == '[') s with
  | [] => []
  | first :: rest => ofPieces first rest

/-- A part in which brackets are text: their backslashes are doubled, and there is one more. -/
def escaped : MarkupPart → MarkupPart
  | .plain s => .plain s
  | .brackets n body => .brackets (2 * n + 1) body

/-- A text in which every bracket that a backslash stands before is without it. -/
def withoutBracketEscapes : Text → Text
  | [] => []
  | '\\' :: '[' :: cs => '[' :: withoutBracketEscapes cs
  | c :: cs => c :: withoutBracketEscapes cs

/-- Control characters that are not shown: bell, backspace, vertical tab, form feed, and carriage
return. -/
def isDropped (c : Char) : Bool := [7, 8, 11, 12, 13].contains c.toNat

/-- How plain text is shown. -/
def shownPlain (s : Text) : Text :=
  (Text.fillPictures (withoutBracketEscapes s)).filter fun c => !isDropped c

/-- How a part is shown. Of two backslashes before brackets one is shown. -/
def shown : MarkupPart → Text
  | .plain s => shownPlain s
  | .brackets n body =>
    List.replicate (n / 2) '\\' ++ if n % 2 = 1 then shownPlain ('[' :: body ++ [']']) else []

/-- Backslashes at the end and what is before them make up a text. -/
theorem take_append_backslashes (s : Text) :
    s.take (s.length - backslashesAtEnd s) ++ List.replicate (backslashesAtEnd s) '\\' = s := by
  have hall : s.reverse.takeWhile (· == '\\') = List.replicate (backslashesAtEnd s) '\\' := by
    refine List.eq_replicate_iff.2 ⟨rfl, fun c hc => ?_⟩
    have := List.all_takeWhile (l := s.reverse) (p := (· == '\\'))
    simpa using List.all_eq_true.1 this c hc
  have hsplit : (s.reverse.dropWhile (· == '\\')).reverse ++
      List.replicate (backslashesAtEnd s) '\\' = s := by
    rw [← List.reverse_replicate, ← hall, ← List.reverse_append, List.takeWhile_append_dropWhile,
      List.reverse_reverse]
  have hlen := congrArg List.length hsplit
  rw [List.length_append, List.length_replicate] at hlen
  have htake := congrArg (List.take (s.length - backslashesAtEnd s)) hsplit
  rw [List.take_append_of_le_length (by omega), List.take_of_length_le (by omega)] at htake
  rw [← htake, hsplit]

theorem eq_append_of_contains {s : Text} (h : s.contains ']') :
    s = s.takeWhile (· != ']') ++ ']' :: s.drop ((s.takeWhile (· != ']')).length + 1) := by
  induction s with
  | nil => simp at h
  | cons c cs ih =>
    by_cases hc : c = ']'
    · simp [hc]
    · have hcs : cs.contains ']' = true := by simpa [Ne.symm hc] using h
      simpa [hc] using ih hcs

/-- The body of a tag is followed by its closing bracket. -/
theorem eq_append_of_body? {piece body : Text} (h : body? piece = some body) :
    piece = body ++ ']' :: piece.drop (body.length + 1) := by
  have hbody : piece.contains ']' = true ∧ piece.takeWhile (· != ']') = body := by
    unfold body? at h
    split at h <;> simp_all
  obtain ⟨hmem, rfl⟩ := hbody
  exact eq_append_of_contains hmem

/-- The written pieces are the text that was split, with its brackets. -/
theorem writtenAll_ofPieces (pending : Text) (rest : List Text) :
    writtenAll (ofPieces pending rest) = pending ++ rest.flatMap ('[' :: ·) := by
  induction rest generalizing pending with
  | nil => simp [ofPieces, writtenAll, written]
  | cons piece rest ih =>
    unfold ofPieces
    cases h : body? piece with
    | none => simp [ih]
    | some body =>
      have hpending := take_append_backslashes pending
      have hpiece := eq_append_of_body? h
      have hih := ih (piece.drop (body.length + 1))
      have hright : pending ++ '[' :: piece =
          pending.take (pending.length - backslashesAtEnd pending) ++
            (List.replicate (backslashesAtEnd pending) '\\' ++ '[' :: body ++
              ']' :: piece.drop (body.length + 1)) := by
        rw [List.append_assoc, List.cons_append, ← hpiece, ← List.append_assoc, hpending]
      have hleft : pending ++ (piece :: rest).flatMap ('[' :: ·) =
          (pending ++ '[' :: piece) ++ rest.flatMap ('[' :: ·) := by simp
      rw [hleft, hright]
      simp only [writtenAll, written, List.flatMap_cons] at hih ⊢
      rw [hih]
      simp

/-- Reading markup loses nothing: the parts of a text are written as the text. -/
theorem writtenAll_ofText (s : Text) : writtenAll (ofText s) = s := by
  have hpieces : ∀ s : Text, ∃ first rest, Text.pieces (· == '[') s = first :: rest ∧
      first ++ rest.flatMap ('[' :: ·) = s := by
    intro s
    induction s with
    | nil => exact ⟨[], [], rfl, rfl⟩
    | cons c cs ih =>
      obtain ⟨first, rest, hcut, hjoin⟩ := ih
      by_cases hc : c = '['
      · exact ⟨[], first :: rest, by simp [Text.pieces, hc, hcut], by simp [hc, hjoin]⟩
      · exact ⟨c :: first, rest, by simp [Text.pieces, hc, hcut], by simp [hjoin]⟩
  obtain ⟨first, rest, hcut, hjoin⟩ := hpieces s
  simp only [ofText, hcut]
  rw [writtenAll_ofPieces, hjoin]

end MarkupPart

/-- A text as markup that shows it as it is. -/
def escapedMarkup (s : Text) : Text :=
  let escaped := MarkupPart.writtenAll ((MarkupPart.ofText s).map MarkupPart.escaped)
  if MarkupPart.backslashesAtEnd escaped = 1 then escaped ++ ['\\'] else escaped

/-- What markup shows. -/
def shownMarkup (s : Text) : Text := (MarkupPart.ofText s).flatMap MarkupPart.shown

end CsvIntake.CommandLine
