import CsvIntake.Text.CellWidth

/-! Lines of text on a terminal: tab stops, breaking at words, and centring. Widths are counted in
cells. Breaking loses no character; white space at the end of a line may stand beyond the width. -/
namespace CsvIntake.CommandLine

/-- The distance of tab stops. -/
def tabWidth : Nat := 8

/-- A line with blanks up to the next tab stop in place of each tab, from a cell on. -/
def expandTabsFrom (cell : Nat) : Text → Text
  | [] => []
  | c :: cs =>
    if c = '\t' then
      let blanks := tabWidth - cell % tabWidth
      List.replicate blanks ' ' ++ expandTabsFrom (cell + blanks) cs
    else c :: expandTabsFrom (cell + Text.cellsOf c) cs

/-- A line with blanks in place of its tabs. -/
def expandTabs (line : Text) : Text := expandTabsFrom 0 line

/-- Cuts a text before each word but the first; the white space behind a word belongs to it. `word` is
what has been read of one, in reverse, and `ended` says that white space has followed it. -/
def wordsFrom (word : Text) (ended : Bool) : Text → List Text
  | [] => [word.reverse]
  | c :: cs =>
    if Text.isSpace c then wordsFrom (c :: word) (!word.all Text.isSpace) cs
    else if ended then word.reverse :: wordsFrom [c] false cs
    else wordsFrom (c :: word) false cs

/-- Cuts a word into pieces that are as wide as they may be. `piece` is what has been read of one, in
reverse, and `used` its cells. -/
def chopFrom (width : Nat) (piece : Text) (used : Nat) : Text → List Text
  | [] => [piece.reverse]
  | c :: cs =>
    if width < used + Text.cellsOf c then piece.reverse :: chopFrom width [c] (Text.cellsOf c) cs
    else chopFrom width (c :: piece) (used + Text.cellsOf c) cs

/-- Lays words on lines, from a line on. A word that fits on no line starts on a new one and is cut. -/
def wrapFrom (width : Nat) (line : Text) : List Text → List Text
  | [] => [line]
  | word :: rest =>
    let size := Text.cells (Text.trimRight word)
    if Text.cells line + size ≤ width then wrapFrom width (line ++ word) rest
    else if size ≤ width then line :: wrapFrom width word rest
    else
      let pieces := chopFrom width [] 0 word
      (if line.isEmpty then [] else [line]) ++ pieces.dropLast ++
        wrapFrom width (pieces.getLast?.getD []) rest

/-- Breaks a line at words. -/
def wrap (width : Nat) (line : Text) : List Text := wrapFrom width [] (wordsFrom [] false line)

/-- A line in the middle of a width, without the white space at its end. -/
def centred (width : Nat) (line : Text) : Text :=
  let line := Text.trimRight line
  List.replicate ((width - Text.cells line) / 2) ' ' ++ line

/-- Splitting a line into words loses no character. -/
theorem flatten_wordsFrom (word : Text) (ended : Bool) (s : Text) :
    (wordsFrom word ended s).flatten = word.reverse ++ s := by
  induction s generalizing word ended with
  | nil => simp [wordsFrom]
  | cons c cs ih =>
    unfold wordsFrom
    split
    · simp [ih]
    · split <;> simp [ih]

/-- Chopping a word loses no character. -/
theorem flatten_chopFrom (width : Nat) (piece : Text) (used : Nat) (s : Text) :
    (chopFrom width piece used s).flatten = piece.reverse ++ s := by
  induction s generalizing piece used with
  | nil => simp [chopFrom]
  | cons c cs ih =>
    unfold chopFrom
    split <;> simp [ih]

/-- Breaking a line loses no character. -/
theorem flatten_wrapFrom (width : Nat) (line : Text) (words : List Text) :
    (wrapFrom width line words).flatten = line ++ words.flatten := by
  induction words generalizing line with
  | nil => simp [wrapFrom]
  | cons word rest ih =>
    have hpieces : (chopFrom width [] 0 word).dropLast.flatten ++
        (chopFrom width [] 0 word).getLast?.getD [] = word := by
      have hcut := flatten_chopFrom width [] 0 word
      by_cases h : chopFrom width [] 0 word = []
      · simpa [h] using hcut
      · rw [← List.dropLast_concat_getLast h] at hcut
        simpa [List.getLast?_eq_some_getLast h] using hcut
    have hline : (if line.isEmpty then [] else [line]).flatten = line := by
      cases line <;> simp
    simp only [wrapFrom]
    by_cases hfits : Text.cells line + Text.cells (Text.trimRight word) ≤ width
    · simp [hfits, ih]
    · by_cases hword : Text.cells (Text.trimRight word) ≤ width
      · simp [hfits, hword, ih]
      · simp only [hfits, hword, ite_false, List.flatten_append, hline, ih, List.flatten_cons]
        rw [List.append_assoc, ← List.append_assoc _ _ rest.flatten, hpieces]

/-- The lines that a line is broken into make up the line. -/
theorem flatten_wrap (width : Nat) (line : Text) : (wrap width line).flatten = line := by
  simp [wrap, flatten_wrapFrom, flatten_wordsFrom]

end CsvIntake.CommandLine
