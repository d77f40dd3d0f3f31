import CsvIntake.Store.SqlStatement
import Mathlib.Logic.Function.Basic

/-! Names in statements. A reader of statements finds each name again where it was written, whatever quotes are
in it, and nothing else of the statement is read differently because of the name. -/
namespace CsvIntake

/-! ### Reading a name -/

/-- What stands behind the opening quote of a name: the name, and what follows its closing quote. Two quotes
stand for one, and the first quote that has no other one behind it closes the name. -/
def readNameRest? : Text → Option (Text × Text)
  | [] => none
  | '"' :: '"' :: rest => (readNameRest? rest).map fun read => ('"' :: read.1, read.2)
  | '"' :: rest => some ([], rest)
  | c :: rest => (readNameRest? rest).map fun read => (c :: read.1, read.2)

/-- The quoted name with which a text begins, and what follows it. -/
def readName? : Text → Option (Text × Text)
  | [] => none
  | c :: rest => if c = '"' then readNameRest? rest else none

/-- A quotation mark that no other follows ends the name. -/
theorem readNameRest?_close {rest : Text} (h : rest.head? ≠ some '"') :
    readNameRest? ('"' :: rest) = some ([], rest) := by
  cases rest with
  | nil => rfl
  | cons c rest =>
      have hOther : c ≠ '"' := fun hQuote => h (congrArg some hQuote)
      simp [readNameRest?, hOther]

theorem readNameRest?_other {c : Char} (h : c ≠ '"') (rest : Text) :
    readNameRest? (c :: rest) = (readNameRest? rest).map fun read => (c :: read.1, read.2) := by
  simp [readNameRest?, h]

/-- A name is read back with all its quotes, in front of everything but another quote. -/
theorem readName?_quotedIdentifier (name : Text) {rest : Text} (h : rest.head? ≠ some '"') :
    readName? (quotedIdentifier name ++ rest) = some (name, rest) := by
  rw [quotedIdentifier, List.cons_append, List.cons_append, readName?, if_pos rfl, List.append_assoc,
    List.singleton_append]
  induction name with
  | nil => exact readNameRest?_close h
  | cons c name ih =>
      rw [List.flatMap_cons]
      by_cases hQuote : c = '"'
      · subst hQuote
        rw [if_pos rfl, List.append_assoc, List.cons_append, List.singleton_append, readNameRest?, ih]
        rfl
      · rw [if_neg hQuote, List.append_assoc, List.singleton_append, readNameRest?_other hQuote, ih]
        rfl

/-- Different names are quoted differently. -/
theorem quotedIdentifier_injective : Function.Injective quotedIdentifier := by
  intro name other h
  have hEnd : ([] : Text).head? ≠ some '"' := by
    rintro ⟨⟩
  have hName := readName?_quotedIdentifier name hEnd
  rw [h, readName?_quotedIdentifier other hEnd] at hName
  exact (congrArg Prod.fst (Option.some.inj hName)).symm

/-- What follows a name is shorter than what it was read from. -/
theorem length_lt_of_readNameRest? (s : Text) :
    ∀ read, readNameRest? s = some read → read.2.length < s.length := by
  fun_induction readNameRest? s with
  | case1 =>
      rintro _ ⟨⟩
  | case2 s ih =>
      intro read h
      obtain ⟨inner, hInner, rfl⟩ := Option.map_eq_some_iff.mp h
      exact Nat.lt_of_lt_of_le (ih inner hInner) (Nat.le_add_right _ 2)
  | case3 s =>
      rintro _ ⟨⟩
      exact Nat.lt_succ_self _
  | case4 c s _ _ ih =>
      intro read h
      obtain ⟨inner, hInner, rfl⟩ := Option.map_eq_some_iff.mp h
      exact Nat.lt_succ_of_lt (ih inner hInner)

/-! ### Reading a statement -/

/-- The characters that stand for themselves in a statement. None of them opens a quote or a comment. -/
def isPlainSql (c : Char) : Bool := c.isAlphanum || " (),?_+=".toList.contains c

/-- The parts of a statement, read from left to right. -/
def readStatement? : Text → Option (List SqlToken)
  | [] => some []
  | c :: rest =>
    if c = '"' then
      match _hRead : readNameRest? rest with
      | none => none
      | some read => (readStatement? read.2).map (.identifier read.1 :: ·)
    else if isPlainSql c then (readStatement? rest).map (.character c :: ·)
    else none
termination_by s => s.length
decreasing_by
  · exact Nat.lt_succ_of_lt (length_lt_of_readNameRest? _ _ ‹_›)
  · exact Nat.lt_succ_self _

/-- Plain characters and names, with no two names next to each other. -/
inductive IsSql : List SqlToken → Prop where
  | nil : IsSql []
  | character {c : Char} {rest : List SqlToken} (hPlain : isPlainSql c = true) (hRest : IsSql rest) :
      IsSql (.character c :: rest)
  | lastIdentifier (name : Text) : IsSql [.identifier name]
  | identifier (name : Text) {c : Char} {rest : List SqlToken} (hPlain : isPlainSql c = true)
      (hRest : IsSql rest) : IsSql (.identifier name :: .character c :: rest)

theorem ne_quote_of_isPlainSql {c : Char} (h : isPlainSql c = true) : c ≠ '"' := by
  rintro rfl
  cases h

theorem readStatement?_character {c : Char} (h : isPlainSql c = true) (rest : Text) :
    readStatement? (c :: rest) = (readStatement? rest).map (.character c :: ·) := by
  rw [readStatement?, if_neg (ne_quote_of_isPlainSql h), if_pos h]

/-- A quoted name in a statement is read as the name, if no quotation mark follows it. -/
theorem readStatement?_identifier (name : Text) {rest : Text} (h : rest.head? ≠ some '"') :
    readStatement? (quotedIdentifier name ++ rest) =
      (readStatement? rest).map (.identifier name :: ·) := by
  have hName := readName?_quotedIdentifier name h
  rw [quotedIdentifier, List.cons_append, List.cons_append, readName?, if_pos rfl] at hName
  rw [quotedIdentifier, List.cons_append, List.cons_append, readStatement?, if_pos rfl]
  split
  · rename_i hNone
    rw [hName] at hNone
    cases hNone
  · rename_i read hRead
    rw [hName] at hRead
    obtain rfl := Option.some.inj hRead
    rfl

/-- A statement is read as the parts that it was written from. -/
theorem readStatement?_text {tokens : List SqlToken} (h : IsSql tokens) :
    readStatement? (tokens.flatMap SqlToken.text) = some tokens := by
  induction h with
  | nil => rw [List.flatMap_nil, readStatement?]
  | character hPlain _ ih =>
      rw [List.flatMap_cons, SqlToken.text, List.singleton_append, readStatement?_character hPlain, ih]
      rfl
  | lastIdentifier name =>
      rw [List.flatMap_cons, SqlToken.text, List.flatMap_nil, readStatement?_identifier name (by rintro ⟨⟩),
        readStatement?]
      rfl
  | identifier name hPlain _ ih =>
      rw [List.flatMap_cons, List.flatMap_cons, SqlToken.text, SqlToken.text, List.singleton_append,
        readStatement?_identifier name, readStatement?_character hPlain, ih]
      · rfl
      · simpa using ne_quote_of_isPlainSql hPlain

/-! ### The statements of the store -/

namespace SqlToken

variable {s : String} {rest part : List SqlToken} {parts : List (List SqlToken)}

/-- A text of plain characters. -/
def IsPlain (s : String) : Prop := s.toList.all isPlainSql = true

instance (s : String) : Decidable (IsPlain s) := inferInstanceAs (Decidable (_ = true))

/-- Plain words in front of a statement make a statement. -/
theorem isSql_words_append (h : IsPlain s) (hRest : IsSql rest) : IsSql (words s ++ rest) := by
  rw [IsPlain] at h
  rw [words]
  generalize s.toList = cs at h
  induction cs with
  | nil => exact hRest
  | cons c cs ih =>
      obtain ⟨hFirst, hOthers⟩ := Bool.and_eq_true_iff.mp h
      exact .character hFirst (ih hOthers)

theorem isSql_words (h : IsPlain s) : IsSql (words s) := by
  rw [← List.append_nil (words s)]
  exact isSql_words_append h .nil

/-- The words behind a name part it from the next one. -/
theorem isSql_identifier_words_append (name : Text) (h : IsPlain s) (hNonempty : s ≠ "")
    (hRest : IsSql rest) : IsSql (.identifier name :: (words s ++ rest)) := by
  have hWords := isSql_words_append h hRest
  rw [words] at hWords ⊢
  cases hChars : s.toList with
  | nil => exact absurd (String.toList_eq_nil_iff.mp hChars) hNonempty
  | cons c cs =>
      rw [hChars] at hWords
      cases hWords with
      | character hPlain hRest => exact .identifier name hPlain hRest

/-- Words in front of a table, between it and one of its columns, and behind the column. -/
theorem isSql_table_column (table column : Text) {front between behind : String} (hFront : IsPlain front)
    (hBetween : IsPlain between ∧ between ≠ "") (hBehind : IsPlain behind ∧ behind ≠ "")
    (hRest : IsSql rest) :
    IsSql (words front ++ .identifier table ::
      (words between ++ .identifier column :: (words behind ++ rest))) :=
  isSql_words_append hFront (isSql_identifier_words_append table hBetween.1 hBetween.2
    (isSql_identifier_words_append column hBehind.1 hBehind.2 hRest))

/-- A part that can stand in front of any plain character. -/
def Joins (part : List SqlToken) : Prop :=
  ∀ c rest, isPlainSql c = true → IsSql rest → IsSql (part ++ .character c :: rest)

/-- What can stand before any rest can be listed with commas and still can. -/
theorem joins_listed (h : ∀ part ∈ parts, Joins part) : Joins (listed parts) := by
  induction parts with
  | nil => exact fun c rest hPlain hRest => .character hPlain hRest
  | cons part parts ih =>
      obtain ⟨hPart, hParts⟩ := List.forall_mem_cons.mp h
      cases parts with
      | nil => exact hPart
      | cons next parts =>
          intro c rest hPlain hRest
          rw [listed, List.append_assoc, List.append_assoc]
          exact hPart ',' _ (by decide) (.character (by decide) (ih hParts c rest hPlain hRest))

end SqlToken

/-- The declared types are written without quotation marks. -/
theorem DeclaredType.isPlain_declaration (t : DeclaredType) : SqlToken.IsPlain t.declaration := by
  obtain ⟨type, hDeclared⟩ := t
  cases type with
  | booleanOrInt => cases hDeclared
  | _ => decide +revert

namespace SqlStatement

open SqlToken

/-- Every statement of the store is made of plain characters and of names that stand apart. -/
theorem isSql_tokens (statement : SqlStatement) : IsSql statement.tokens := by
  cases statement with
  | createTable table columns =>
      have hColumns : Joins (listed (columns.map fun column =>
          .identifier column.1 :: words " " ++ words column.2.declaration)) := by
        refine joins_listed (List.forall_mem_map.mpr fun column _ c rest hPlain hRest => ?_)
        rw [List.cons_append, List.cons_append, List.append_assoc]
        exact isSql_identifier_words_append column.1 (by decide) (by decide)
          (isSql_words_append column.2.isPlain_declaration (.character hPlain hRest))
      simp only [tokens, List.append_assoc, List.cons_append]
      refine isSql_words_append (by decide)
        (isSql_identifier_words_append table (by decide) (by decide) ?_)
      exact hColumns ')' [] (by decide) .nil
  | insertRow table columns =>
      have hColumns : Joins (listed (columns.map fun name => [.identifier name])) :=
        joins_listed (List.forall_mem_map.mpr fun name _ _ _ hPlain hRest => .identifier name hPlain hRest)
      have hPlaces : Joins (listed (columns.map fun _ => words "?")) :=
        joins_listed (List.forall_mem_map.mpr fun _ _ _ _ hPlain hRest =>
          isSql_words_append (by decide) (.character hPlain hRest))
      simp only [tokens, List.append_assoc, List.cons_append]
      refine isSql_words_append (by decide)
        (isSql_identifier_words_append table (by decide) (by decide) ?_)
      refine hColumns ')' _ (by decide) (isSql_words_append (s := " VALUES (") (by decide) ?_)
      exact hPlaces ')' [] (by decide) .nil
  | largestKey table =>
      simp only [tokens, List.append_assoc, List.cons_append]
      exact isSql_words_append (by decide)
        (isSql_identifier_words_append rowKeyName (by decide) (by decide) (.lastIdentifier table))
  | addColumn table column type =>
      simp only [tokens, List.append_assoc, List.cons_append]
      exact isSql_table_column table column (by decide) (by decide) (by decide)
        (isSql_words type.isPlain_declaration)
  | alterColumn table column type =>
      simp only [tokens, List.append_assoc, List.cons_append]
      exact isSql_table_column table column (by decide) (by decide) (by decide)
        (isSql_words type.isPlain_declaration)
  | numberRows table column =>
      simp only [tokens, List.append_assoc, List.cons_append]
      rw [← List.append_nil (words " = rowid + 1")]
      exact isSql_table_column table column (by decide) (by decide) (by decide) .nil
  | dropTable table => exact isSql_words_append (by decide) (.lastIdentifier table)

end SqlStatement

/-- In front of anything but another quote a quoted name is read back exactly, and what follows it is left as it
is. So no two names are quoted alike, and every statement of the store is read as the parts that it was made of:
whatever the names in it are, they stand in their places, and all other characters stand for themselves. -/
theorem quotedIdentifier_read_back :
    (∀ name rest : Text, rest.head? ≠ some '"' →
      readName? (quotedIdentifier name ++ rest) = some (name, rest)) ∧
    Function.Injective quotedIdentifier ∧
    ∀ statement : SqlStatement, readStatement? statement.text = some statement.tokens :=
  ⟨fun name _ h => readName?_quotedIdentifier name h, quotedIdentifier_injective,
    fun statement => readStatement?_text statement.isSql_tokens⟩

/-- A name that tries to end the statement and to go on with one of its own. -/
example : (SqlStatement.dropTable ['a', '"', '(', '"', '"']).text =
    "DROP TABLE IF EXISTS ".toList ++ ['"', 'a', '"', '"', '(', '"', '"', '"', '"', '"'] := by
  decide

end CsvIntake
