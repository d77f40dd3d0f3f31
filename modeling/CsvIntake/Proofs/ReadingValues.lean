import CsvIntake.Proofs.NegatedNumbers
import CsvIntake.Proofs.Relaxation

/-! Acceptance and reading agree. A column of some type can hold a value if the type accepts the value,
or if it is the bounded text, whose bound is not enforced. What a type can hold, its generalizations can
hold. A value that can be held is read, unless it is a whole number beyond the binary ones or a number too
long to be negated; a value that cannot be held is refused as a bad value of the type. -/
namespace CsvIntake

/-- The value was refused as one that is not of its type. -/
def Refused {α : Type} (result : Except Error α) : Prop := ∃ bad, result = .error (.badValue bad)

theorem Refused.map {α β : Type} {result : Except Error α} (h : Refused result) (f : α → β) :
    Refused (result.map f) := by
  obtain ⟨bad, rfl⟩ := h
  exact ⟨bad, rfl⟩

theorem exists_ok_map {α β : Type} {result : Except Error α} (h : result.isOk = true) (f : α → β) :
    ∃ v, result.map f = .ok v := by
  cases result with
  | ok a => exact ⟨f a, rfl⟩
  | error e => cases h

variable {separators : NumberSeparators} {s : Text}

/-! ### White space around a value -/

/-- White space around a date does not matter to any format. -/
theorem DateFormat.readFirst?_trim (formats : List DateFormat) (s : Text) :
    readFirst? formats (Text.trim s) = readFirst? formats s := by
  simp [readFirst?, read?]

theorem isOk_readDate_trim : (readDate (Text.trim s)).isOk = (readDate s).isOk := by
  rw [readDate, readDate, DateFormat.readFirst?_trim]
  split <;> rfl

theorem isOk_readLocalDatetime_trim :
    (readLocalDatetime (Text.trim s)).isOk = (readLocalDatetime s).isOk := by
  rw [readLocalDatetime, readLocalDatetime, Text.trim_trim]
  split
  · rfl
  · split <;> rfl

theorem isOk_readOffsetDatetime_trim :
    (readOffsetDatetime (Text.trim s)).isOk = (readOffsetDatetime s).isOk := by
  rw [readOffsetDatetime, readOffsetDatetime, Text.trim_trim]
  split
  · rfl
  · split
    · rfl
    · split <;> rfl

/-- A datetime is read when the text is a local one or a date. -/
theorem isOk_readDatetime : (readDatetime s).isOk =
    ((readLocalDatetime s).isOk || (readDate s).isOk) := by
  rw [readDatetime]
  cases readLocalDatetime s with
  | ok t => rfl
  | error e => cases readDate s <;> rfl

theorem isOk_readDatetime_trim : (readDatetime (Text.trim s)).isOk = (readDatetime s).isOk := by
  rw [isOk_readDatetime, isOk_readDatetime, isOk_readLocalDatetime_trim, isOk_readDate_trim]

/-! ### What is not read is refused -/

theorem refused_readBoolean (h : (boolean? (Text.trim s)).isSome = false) :
    Refused (readBoolean s) := by
  rw [readBoolean]
  split
  · simp_all
  · exact ⟨_, rfl⟩

theorem refused_readDate (h : (readDate s).isOk = false) : Refused (readDate s) := by
  rw [readDate] at h ⊢
  split
  · simp_all [Except.isOk, Except.toBool]
  · exact ⟨_, rfl⟩

theorem refused_readOffsetDatetime (h : (readOffsetDatetime s).isOk = false) :
    Refused (readOffsetDatetime s) := by
  rw [readOffsetDatetime] at h ⊢
  split
  · exact ⟨_, rfl⟩
  · split
    · exact ⟨_, rfl⟩
    · split
      · exact ⟨_, rfl⟩
      · simp_all [Except.isOk, Except.toBool]

theorem refused_readDatetime (h : (readDatetime s).isOk = false) : Refused (readDatetime s) := by
  rw [readDatetime] at h ⊢
  split
  · simp_all [Except.isOk, Except.toBool]
  · split
    · simp_all [Except.isOk, Except.toBool]
    · exact ⟨_, rfl⟩

/-- A text that is no number is refused as one, before anything is negated. -/
theorem refused_readNumber (h : Numeral.read? separators (Text.trim s) = none) :
    Refused (readNumber separators s) := by
  simp only [readNumber, h]
  exact ⟨_, rfl⟩

theorem refused_readFloat (h : Numeral.read? separators (Text.trim s) = none) :
    Refused (readFloat separators s) := by
  obtain ⟨bad, hBad⟩ := refused_readNumber h
  rw [readFloat, hBad]
  exact ⟨bad, rfl⟩

theorem refused_readInteger (h : ColumnType.accepts separators .int (Text.trim s) = false) :
    Refused (readInteger separators s) := by
  rw [readInteger]
  split
  · simp_all [ColumnType.accepts]
  · exact ⟨_, rfl⟩

/-! ### What can be held is read -/

/-- What is read where a numeral is: nothing if a line feed breaks the number, nothing if it is too long to be
negated, and else what the numeral denotes. -/
theorem readNumber_cases {numeral : Numeral}
    (h : Numeral.read? separators (Text.trim s) = some numeral) :
    ((numeral.enclosed = true ∧ '\n' ∈ Text.trim s) ∧ readNumber separators s = unreadable s .number) ∨
    ¬ (numeral.enclosed = true ∧ '\n' ∈ Text.trim s) ∧
      (IsOverlongNumber separators s ∧ readNumber separators s = .error .negationOverflow ∨
        ¬ IsOverlongNumber separators s ∧ readNumber separators s = .ok (.ofNumeral numeral)) := by
  have hBroken : (numeral.enclosed = true ∧ '\n' ∈ Text.trim s) ↔
      (numeral.enclosed && (Text.trim s).contains '\n') = true := by
    simp
  rw [hBroken, isOverlongNumber_iff h]
  simp only [readNumber, h]
  cases numeral.enclosed && (Text.trim s).contains '\n' with
  | true => exact .inl ⟨rfl, rfl⟩
  | false =>
      cases numeral.overflows with
      | true => exact .inr ⟨by decide, .inl ⟨rfl, rfl⟩⟩
      | false => exact .inr ⟨by decide, .inr ⟨by decide, rfl⟩⟩

/-- A number in one line is read as what its numeral denotes, unless it is too long to be negated. -/
theorem readNumber_of_read? (hLine : '\n' ∉ s) {numeral : Numeral}
    (h : Numeral.read? separators (Text.trim s) = some numeral) :
    readNumber separators s = .ok (.ofNumeral numeral) ∨
      readNumber separators s = .error .negationOverflow ∧ IsOverlongNumber separators s := by
  rcases readNumber_cases h with ⟨⟨_, hFeed⟩, _⟩ | ⟨_, ⟨hLong, hNumber⟩ | ⟨_, hNumber⟩⟩
  · exact absurd (Text.mem_of_mem_trim hFeed) hLine
  · exact .inr ⟨hNumber, hLong⟩
  · exact .inl hNumber

/-- On one line an accepted whole number is read, or its negation overflows. -/
theorem isOk_or_overflows_readInteger (hLine : '\n' ∉ s)
    (h : ColumnType.accepts separators .int (Text.trim s) = true) :
    (readInteger separators s).isOk = true ∨
      readInteger separators s = .error .negationOverflow ∧ IsOverlongNumber separators s := by
  rw [ColumnType.accepts] at h
  split at h
  · rename_i numeral hRead
    obtain ⟨enclosed, minus, whole, fraction⟩ := numeral
    obtain rfl : fraction = none := by simpa using h
    simp only [readInteger, hRead]
    rcases readNumber_of_read? hLine hRead with hNumber | ⟨hNumber, hLong⟩
    · rw [hNumber, Number.ofNumeral]
      exact .inl rfl
    · rw [hNumber]
      exact .inr ⟨rfl, hLong⟩
  · cases h

/-- On one line an accepted decimal number is read, or lies beyond the doubles, or its negation
overflows. -/
theorem isOk_or_tooLarge_readFloat (hLine : '\n' ∉ s)
    (h : ColumnType.accepts separators .float (Text.trim s) = true) :
    (readFloat separators s).isOk = true ∨ readFloat separators s = .error .tooLargeForFloat ∨
      readFloat separators s = .error .negationOverflow ∧ IsOverlongNumber separators s := by
  obtain ⟨numeral, hRead⟩ := Option.isSome_iff_exists.mp h
  rw [readFloat]
  rcases readNumber_of_read? hLine hRead with hNumber | ⟨hNumber, hLong⟩
  · rw [hNumber]
    dsimp only
    split
    · exact .inl rfl
    · exact .inr (.inl rfl)
  · rw [hNumber]
    exact .inr (.inr ⟨rfl, hLong⟩)

namespace ColumnType

/-- A column of the type can hold the value. A bounded text holds texts of any length. -/
def holds (separators : NumberSeparators) (t : ColumnType) (s : Text) : Bool :=
  accepts separators t (Text.trim s) || t == .varchar255

/-- What a type holds, its generalizations hold. -/
theorem holds_mono {t u : ColumnType} (hle : t ≤ u) (h : holds separators t s = true) :
    holds separators u s = true := by
  refine of_le (p := fun t => holds separators t s = true) hle h ?_
  intro t u hEdge ht
  have hAccepts : t = .varchar255 ∨ accepts separators t (Text.trim s) = true := by
    simpa [holds, or_comm] using ht
  simp only [generalizations, List.mem_cons, Prod.mk.injEq, List.not_mem_nil, or_false] at hEdge
  rcases hEdge with ⟨rfl, rfl⟩ | ⟨rfl, rfl⟩ | ⟨rfl, rfl⟩ | ⟨rfl, rfl⟩ | ⟨rfl, rfl⟩ | ⟨rfl, rfl⟩ |
    ⟨rfl, rfl⟩ | ⟨rfl, rfl⟩ | ⟨rfl, rfl⟩ | ⟨rfl, rfl⟩
  · simp [holds, (accepts_of_booleanOrInt (hAccepts.resolve_left (by decide))).1]
  · simp [holds, (accepts_of_booleanOrInt (hAccepts.resolve_left (by decide))).2]
  · cases hAccepts.resolve_left (by decide)
  · simp [holds, accepts_float_of_int (hAccepts.resolve_left (by decide))]
  · simp [holds, accepts_datetime_of_date (hAccepts.resolve_left (by decide))]
  all_goals simp [holds, accepts]

/-- A value that is accepted as anything but a number is read. -/
theorem exists_read_of_accepts {t : ColumnType} (hInt : t ≠ .int) (hFloat : t ≠ .float)
    (h : accepts separators t (Text.trim s) = true) : ∃ v, t.read separators s = .ok v := by
  have hBoolean : accepts separators .boolean (Text.trim s) = true →
      (readBoolean s).isOk = true := by
    intro hAccepts
    obtain ⟨b, hb⟩ := Option.isSome_iff_exists.mp hAccepts
    simp [readBoolean, hb, Except.isOk, Except.toBool]
  cases t with
  | booleanOrInt => exact exists_ok_map (hBoolean (accepts_of_booleanOrInt h).1) _
  | rowKey => cases h
  | int => exact absurd rfl hInt
  | date => exact exists_ok_map (by rwa [accepts, isOk_readDate_trim] at h) _
  | boolean => exact exists_ok_map (hBoolean h) _
  | offsetDatetime => exact exists_ok_map (by rwa [accepts, isOk_readOffsetDatetime_trim] at h) _
  | datetime => exact exists_ok_map (by rwa [accepts, isOk_readDatetime_trim] at h) _
  | float => exact absurd rfl hFloat
  | varchar255 => exact ⟨.text s, rfl⟩
  | text => exact ⟨.text s, rfl⟩

/-- The type cannot take the number, though it is one: it is too long to be negated, or it is a whole
number beyond the binary ones that are to be read. -/
def IsBeyond (separators : NumberSeparators) (t : ColumnType) (s : Text) (e : Error) : Prop :=
  (t = .int ∨ t = .float) ∧ e = .negationOverflow ∧ IsOverlongNumber separators s ∨
    t = .float ∧ e = .tooLargeForFloat

/-- A value that can be held is read, unless it is a number that the type cannot take. -/
theorem read_of_holds {t : ColumnType} (hLine : '\n' ∉ s) (h : holds separators t s = true) :
    (∃ v, t.read separators s = .ok v) ∨
      ∃ e, t.read separators s = .error e ∧ IsBeyond separators t s e := by
  rcases Bool.or_eq_true_iff.mp h with hAccepts | hBounded
  · by_cases hInt : t = .int
    · subst hInt
      rcases isOk_or_overflows_readInteger hLine hAccepts with hOk | ⟨hOverflows, hLong⟩
      · exact .inl (exists_ok_map hOk _)
      · right
        rw [read, hOverflows]
        exact ⟨_, rfl, .inl ⟨.inl rfl, rfl, hLong⟩⟩
    by_cases hFloat : t = .float
    · subst hFloat
      rcases isOk_or_tooLarge_readFloat hLine hAccepts with hOk | hLarge | ⟨hOverflows, hLong⟩
      · exact .inl (exists_ok_map hOk _)
      · right
        rw [read, hLarge]
        exact ⟨_, rfl, .inr ⟨rfl, rfl⟩⟩
      · right
        rw [read, hOverflows]
        exact ⟨_, rfl, .inl ⟨.inr rfl, rfl, hLong⟩⟩
    exact .inl (exists_read_of_accepts hInt hFloat hAccepts)
  · obtain rfl := beq_iff_eq.mp hBounded
    exact .inl ⟨.text s, rfl⟩

/-- A value that cannot be held by a column is refused. -/
theorem refused_of_not_holds {t : ColumnType} (hColumn : t ≠ .booleanOrInt) (hKey : t ≠ .rowKey)
    (h : holds separators t s = false) : Refused (t.read separators s) := by
  have hAccepts : accepts separators t (Text.trim s) = false := by
    simp only [holds, Bool.or_eq_false_iff] at h
    exact h.1
  cases t with
  | booleanOrInt => exact absurd rfl hColumn
  | rowKey => exact absurd rfl hKey
  | int => exact (refused_readInteger hAccepts).map _
  | date => exact (refused_readDate (by rwa [accepts, isOk_readDate_trim] at hAccepts)).map _
  | boolean => exact (refused_readBoolean hAccepts).map _
  | offsetDatetime =>
      exact (refused_readOffsetDatetime
        (by rwa [accepts, isOk_readOffsetDatetime_trim] at hAccepts)).map _
  | datetime =>
      exact (refused_readDatetime (by rwa [accepts, isOk_readDatetime_trim] at hAccepts)).map _
  | float => exact (refused_readFloat (by simpa [accepts] using hAccepts)).map _
  | varchar255 => simp [holds] at h
  | text => cases hAccepts

/-- Reading a value in one line as a type fails in no other way than these. -/
theorem read_error_cases {t : ColumnType} {e : Error} (hLine : '\n' ∉ s) (hKey : t ≠ .rowKey)
    (h : t.read separators s = .error e) :
    Refused (t.read separators s) ∨ IsBeyond separators t s e := by
  by_cases hColumn : t = .booleanOrInt
  · subst hColumn
    left
    cases hBoolean : boolean? (Text.trim s) with
    | none => exact (refused_readBoolean (by simp [hBoolean])).map _
    | some b => simp [read, readBoolean, hBoolean, Except.map] at h
  · cases hHolds : holds separators t s with
    | false => exact .inl (refused_of_not_holds hColumn hKey hHolds)
    | true =>
        rcases read_of_holds hLine hHolds with ⟨v, hv⟩ | ⟨cause, hCause, hBeyond⟩
        · rw [hv] at h
          cases h
        · rw [hCause] at h
          exact .inr (Except.error.inj h ▸ hBeyond)

/-- Every value that a column has had is held by the type that the column has reached. -/
theorem exists_foldl_relax_holds (separators : NumberSeparators) {values : List (Option Text)}
    (hMem : some s ∈ values)
    (hBlank : Text.isBlank s = false) (t : Option ColumnType) :
    ∃ u, values.foldl (relax separators) t = some u ∧ holds separators u s = true := by
  induction values generalizing t with
  | nil => cases hMem
  | cons value values ih =>
      rcases List.mem_cons.mp hMem with rfl | hLater
      · -- from the type that accepted the value the column only moves up
        obtain ⟨u, hu, _, _, hAccepts⟩ := exists_relax_eq separators hBlank t
        rw [List.foldl_cons, hu]
        have hLe := known_le_foldl separators (some u) values
        cases hReached : values.foldl (relax separators) (some u) with
        | none => simp [hReached] at hLe
        | some v =>
            rw [hReached] at hLe
            exact ⟨v, rfl, holds_mono (WithBot.coe_le_coe.mp hLe) (by simp [holds, hAccepts])⟩
      · exact ih hLater _

end ColumnType

end CsvIntake
