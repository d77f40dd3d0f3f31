import CsvIntake.Migration
import CsvIntake.NativeType
import CsvIntake.Proofs.LoadingRows

/-! Plans agree with loading. A plan types the columns of a file by inference, starting from what the
table has. It is declined exactly if some column had to leave a type that it may not leave, and then some
value of this column is refused when the rows are read, unless a number too long to be negated ends the
reading before. -/
namespace CsvIntake

namespace ColumnType

/-- The types that a native type is known to mean. -/
def reported : List ColumnType := nativeFamilies.map NativeFamily.meaning

/-- The reported types are those that some native name stands for. -/
theorem mem_reported_iff {t : ColumnType} :
    t ∈ reported ↔ ∃ name, ofNativeName? name = some t := by
  constructor
  · intro h
    have hNative : ∀ t ∈ reported, ∃ native ∈ [NativeType.varchar, .bigint, .double, .boolean, .date,
        .timestamp, .timestamptz], ofNativeName? (some native.name.toList) = some t := by
      decide +kernel
    obtain ⟨native, _, hName⟩ := hNative t h
    exact ⟨_, hName⟩
  · rintro ⟨_ | name, h⟩
    · cases h
    · obtain ⟨family, hFind, rfl⟩ := Option.map_eq_some_iff.mp h
      exact List.mem_map_of_mem (List.mem_of_find?_eq_some hFind)

/-- A column keeps a reported type as it is, and reads values of it. -/
theorem of_mem_reported {t : ColumnType} (h : t ∈ reported) :
    t.isInferable = true ∧ t.isReadable = true ∧ t ≠ .booleanOrInt ∧ t ≠ .varchar255 ∧
      ofValues (some t) = t := by
  revert t
  decide

end ColumnType

theorem NameMap.mem_of_lookup {α : Type} {m : NameMap α} {name : Text} {entry : α}
    (h : m.lookup name = some entry) : (name, entry) ∈ m := by
  obtain ⟨before, after, rfl, _⟩ := List.lookup_eq_some_iff.mp h
  exact List.mem_append_right _ (List.mem_cons_self ..)

/-- Every whole number of the rows has a nearest binary number. -/
def FiniteNumbers (separators : NumberSeparators) (rows : List Row) : Prop :=
  ∀ row ∈ rows, ∀ s, some s ∈ row → ∀ n, readNumber separators s = .ok (.integer n) →
    (Binary64.ofInt n).isFinite = true

/-- A number that is too large to be read as a binary one is a whole number. -/
theorem exists_integer_of_readFloat_tooLarge {separators : NumberSeparators} {s : Text}
    (h : readFloat separators s = .error .tooLargeForFloat) :
    ∃ n, readNumber separators s = .ok (.integer n) ∧ (Binary64.ofInt n).isFinite = false := by
  rw [readFloat] at h
  cases hNumber : readNumber separators s with
  | error e =>
      rw [hNumber] at h
      obtain rfl := Except.error.inj h
      rw [readNumber] at hNumber
      split at hNumber
      · cases hNumber
      · split at hNumber
        · cases hNumber
        · split at hNumber <;> cases hNumber
  | ok number =>
      rw [hNumber] at h
      cases number with
      | float x => cases h
      | integer n =>
          refine ⟨n, rfl, ?_⟩
          by_contra hFinite
          rw [Bool.not_eq_false] at hFinite
          simp [Number.toFloat?, hFinite] at h

namespace MigrationPlan

open ColumnType

variable {separators : NumberSeparators} {existing : NameMap (Option ColumnType)} {header : Row}
  {rows : List Row} {createKeys : Bool} {plan : MigrationPlan}

/-- The plan types the columns of the file as inference does, starting from the types that the table has
for them, and takes up what is allowed. -/
structure Fits (plan : MigrationPlan) (separators : NumberSeparators)
    (existing : NameMap (Option ColumnType)) (rows : List Row) : Prop where
  oldTypes : plan.oldTypes = plan.columnNames.map fun name =>
    ((existing.filter fun column => column.1 != rowKeyName).lookup name).join
  detectedTypes : plan.detectedTypes = ofRows separators plan.oldTypes rows
  newTypes : plan.newTypes = plan.oldTypes.zipWith newType plan.detectedTypes
  modifySchema : plan.modifySchema =
    (plan.oldTypes != plan.newTypes.map some && plan.detectedTypes == plan.newTypes)

/-- A plan that is made infers from the types that the table has. -/
theorem fits_of_make (h : make separators existing header rows createKeys = .ok plan) :
    plan.Fits separators existing rows := by
  rw [make] at h
  dsimp only at h
  split at h
  · cases h
  · obtain rfl := Except.ok.inj h
    exact ⟨rfl, rfl, rfl, rfl⟩

/-- A plan that is not declined loads the rows with the types detected in them. -/
theorem Fits.loadTypes_of_not_declined (hFits : plan.Fits separators existing rows)
    (h : plan.declined = false) : plan.loadTypes = plan.detectedTypes := by
  have hNew : plan.detectedTypes = plan.newTypes := by simpa [declined] using h
  rw [loadTypes, hNew]
  split
  · rfl
  · rename_i hModify
    have hOld : plan.oldTypes = plan.newTypes.map some := by
      simpa [hFits.modifySchema, hNew] using hModify
    rw [hOld, List.zipWith_map_left]
    simp

/-- A declined plan loads the rows with the types that the table has, as far as it has any. -/
theorem Fits.loadTypes_getElem?_of_declined (hFits : plan.Fits separators existing rows)
    (h : plan.declined = true) (i : Nat) :
    plan.loadTypes[i]? = (plan.oldTypes[i]?).bind fun old =>
      (plan.detectedTypes[i]?).map fun detected => old.getD detected := by
  have hModify : plan.modifySchema = false := by
    rw [declined, bne_iff_ne] at h
    simp [hFits.modifySchema, h]
  rw [loadTypes, hModify, hFits.newTypes]
  simp only [Bool.false_eq_true, if_false, List.getElem?_zipWith]
  cases plan.oldTypes[i]? with
  | none => rfl
  | some old => cases plan.detectedTypes[i]? <;> cases old <;> rfl

/-- In a declined plan some column of the table had to leave its type. -/
theorem Fits.exists_declined_column (hFits : plan.Fits separators existing rows)
    (h : plan.declined = true) :
    ∃ (i : Nat) (t u : ColumnType), plan.oldTypes[i]? = some (some t) ∧
      plan.detectedTypes[i]? = some u ∧ u ≠ t := by
  rw [declined, bne_iff_ne] at h
  obtain ⟨i, hi⟩ : ∃ i, plan.detectedTypes[i]? ≠ plan.newTypes[i]? := by
    by_contra hAll
    exact h (List.ext_getElem? fun i => not_not.mp fun hi => hAll ⟨i, hi⟩)
  have hPlace : plan.detectedTypes[i]? = (plan.oldTypes[i]?).map fun old =>
      ofValues ((columnValues i rows).foldl (relax separators) old) := by
    rw [hFits.detectedTypes, ofRows_getElem?]
  rw [hFits.newTypes, List.getElem?_zipWith] at hi
  cases hOld : plan.oldTypes[i]? with
  | none => simp [hPlace, hOld] at hi
  | some old =>
      rw [hOld, Option.map_some] at hPlace
      rw [hOld, hPlace] at hi
      cases old with
      | none => simp [newType] at hi
      | some t =>
          refine ⟨i, t, _, hOld, hPlace, ?_⟩
          intro hSame
          simp [newType, matchesOrUpgrades, hSame] at hi

/-- A plan that takes up its changes declines none. -/
theorem Fits.not_declined (hFits : plan.Fits separators existing rows)
    (h : plan.modifySchema = true) : plan.declined = false := by
  rw [hFits.modifySchema, Bool.and_eq_true, beq_iff_eq] at h
  simp [declined, h.2]

/-- Rows loaded by a plan that is not declined hold no bad value. -/
theorem Fits.failure_ne_badValue (hFits : plan.Fits separators existing rows)
    (hLines : SingleLineValues rows) (h : plan.declined = false) (bad : BadValue) :
    (readRows separators plan.loadTypes rows plan.columnNames).failure ≠ some (.badValue bad) := by
  intro hFailure
  rw [hFits.loadTypes_of_not_declined h, hFits.detectedTypes] at hFailure
  rcases failure_of_ofRows hLines hFailure with hLarge | ⟨hOverflows, _⟩ | ⟨t, _, _, hReader⟩
  · cases hLarge
  · cases hOverflows
  · cases hReader

/-- The value for which a column had to leave a reported type is refused by that type. -/
theorem exists_refused_of_foldl_ne {t : ColumnType} (hReported : t ∈ reported) {i : Nat}
    (h : ofValues ((columnValues i rows).foldl (relax separators) (some t)) ≠ t) :
    ∃ row ∈ rows, ∃ s, row[i]? = some (some s) ∧ Text.isBlank s = false ∧
      Refused (t.read separators s) := by
  obtain ⟨hInferable, hReadable, hColumn, hBounded, hOfValues⟩ := of_mem_reported hReported
  by_contra hNone
  refine h ?_
  have hAccepts : ∀ s, some s ∈ columnValues i rows → Text.isBlank s = false →
      accepts separators t (Text.trim s) = true := by
    intro s hs hBlank
    obtain ⟨row, hRow, hCell⟩ := mem_columnValues.mp hs
    have hKey : t ≠ .rowKey := by simpa [isReadable] using hReadable
    cases hHolds : holds separators t s with
    | true => simpa [holds, hBounded] using hHolds
    | false =>
        exact absurd ⟨row, hRow, s, hCell, hBlank, refused_of_not_holds hColumn hKey hHolds⟩ hNone
  rw [foldl_relax_eq_self hInferable hAccepts, hOfValues]

/-- The old types of a plan are types that a table reports. -/
theorem Fits.mem_reported (hFits : plan.Fits separators existing rows)
    (hReported : ∀ name t, (name, some t) ∈ existing → t ∈ reported) {t : ColumnType}
    (ht : some t ∈ plan.oldTypes) : t ∈ reported := by
  rw [hFits.oldTypes] at ht
  obtain ⟨name, _, hLookup⟩ := List.mem_map.mp ht
  have hMem := NameMap.mem_of_lookup (Option.join_eq_some_iff.mp hLookup)
  exact hReported name t (List.mem_of_mem_filter hMem)

/-- A plan that declines loads with types that can read values. -/
theorem Fits.isReadable_of_declined (hFits : plan.Fits separators existing rows)
    (hReported : ∀ name t, (name, some t) ∈ existing → t ∈ reported) (h : plan.declined = true)
    {t : ColumnType} (ht : t ∈ plan.loadTypes) : t.isReadable = true := by
  obtain ⟨i, hi⟩ := List.mem_iff_getElem?.mp ht
  rw [hFits.loadTypes_getElem?_of_declined h] at hi
  obtain ⟨old, hOld, hNew⟩ := Option.bind_eq_some_iff.mp hi
  obtain ⟨detected, hDetected, rfl⟩ := Option.map_eq_some_iff.mp hNew
  cases old with
  | none =>
      have hKey : some .rowKey ∉ plan.oldTypes := fun hMem =>
        absurd (of_mem_reported (hFits.mem_reported hReported hMem)).2.1 (by decide)
      rw [hFits.detectedTypes] at hDetected
      exact isReadable_of_mem_ofRows hKey (List.mem_of_getElem? hDetected)
  | some t => exact (of_mem_reported (hFits.mem_reported hReported (List.mem_of_getElem? hOld))).2.1

/-- Where all rows are read, the plan was not declined. -/
theorem Fits.not_declined_of_read (hFits : plan.Fits separators existing rows)
    (hReported : ∀ name t, (name, some t) ∈ existing → t ∈ reported)
    (h : (readRows separators plan.loadTypes rows plan.columnNames).failure = none) :
    plan.declined = false := by
  by_contra hDeclined
  rw [Bool.not_eq_false] at hDeclined
  -- the declined column keeps its type, so its refused value cannot have been read
  obtain ⟨i, t, u, hOld, hDetected, hLeft⟩ := hFits.exists_declined_column hDeclined
  have hLoad : plan.loadTypes[i]? = some t := by
    rw [hFits.loadTypes_getElem?_of_declined hDeclined, hOld, hDetected]
    rfl
  rw [hFits.detectedTypes, ofRows_getElem?, hOld, Option.map_some] at hDetected
  obtain ⟨row, hRow, s, hCell, hBlank, bad, hBad⟩ := exists_refused_of_foldl_ne
    (hFits.mem_reported hReported (List.mem_of_getElem? hOld))
    (by rwa [Option.some.inj hDetected])
  have hOk := isOk_readCell_of_readRows h hRow hLoad
  rw [hCell, Option.join_some, readCell_of_not_isBlank hBlank, hBad] at hOk
  cases hOk

/-- A declined plan cannot be loaded: the types that the table keeps refuse some value, unless the reading
ends before with a number too long to be negated. -/
theorem Fits.exists_badValue_of_declined (hFits : plan.Fits separators existing rows)
    (hReported : ∀ name t, (name, some t) ∈ existing → t ∈ reported)
    (hLines : SingleLineValues rows) (hFinite : FiniteNumbers separators rows)
    (h : plan.declined = true) :
    (∃ bad, (readRows separators plan.loadTypes rows plan.columnNames).failure =
      some (.badValue bad)) ∨
    (readRows separators plan.loadTypes rows plan.columnNames).failure = some .negationOverflow := by
  have hReadable := fun t => hFits.isReadable_of_declined hReported h (t := t)
  cases hFailure : (readRows separators plan.loadTypes rows plan.columnNames).failure with
  | none => simp [hFits.not_declined_of_read hReported hFailure] at h
  | some e =>
      -- every type has a reader and no whole number is too large, so only these two are left
      rcases failure_cases hFailure with ⟨t, ht, hUnreadable, _⟩ |
        ⟨row, hRow, s, place, i, t, cause, ht, hCell, _, hRead, rfl⟩
      · simp [hReadable t ht] at hUnreadable
      have hMem := List.mem_of_getElem? hCell
      have hKey : t ≠ .rowKey := by simpa [isReadable] using hReadable t (List.mem_of_getElem? ht)
      rcases read_error_cases (hLines row hRow s hMem) hKey hRead with
        ⟨bad, hBad⟩ | ⟨_, rfl, _⟩ | ⟨rfl, rfl⟩
      · obtain rfl : cause = .badValue bad := by
          rw [hRead] at hBad
          exact Except.error.inj hBad
        obtain ⟨name, hName⟩ : ∃ name, plan.columnNames[i]? = some name := by
          rw [hFits.loadTypes_getElem?_of_declined h, hFits.oldTypes, List.getElem?_map] at ht
          cases hName : plan.columnNames[i]? with
          | none => simp [hName] at ht
          | some name => exact ⟨name, rfl⟩
        exact .inl ⟨_, congrArg some (placed_badValue hName place t bad)⟩
      · exact .inr rfl
      · have hFloat : readFloat separators s = .error .tooLargeForFloat := by
          rw [ColumnType.read] at hRead
          cases hValue : readFloat separators s <;> simp_all [Except.map]
        obtain ⟨n, hNumber, hInfinite⟩ := exists_integer_of_readFloat_tooLarge hFloat
        simp [hFinite row hRow s hMem n hNumber] at hInfinite

/-- Planning and loading agree, but for numbers too long to be negated: reading the rows of a file with the
types of its plan meets a bad value exactly if the plan was declined and the reading does not end with the
overflow of a negation. It can end so only if some value is such a number. -/
theorem readRows_refused_iff_declined (separators : NumberSeparators)
    (existing : NameMap (Option ColumnType)) (header : Row) (rows : List Row) (createKeys : Bool)
    (plan : MigrationPlan) (hReported : ∀ name t, (name, some t) ∈ existing → t ∈ reported)
    (hLines : SingleLineValues rows) (hFinite : FiniteNumbers separators rows)
    (hPlan : make separators existing header rows createKeys = .ok plan) :
    ((∃ bad, (readRows separators plan.loadTypes rows plan.columnNames).failure =
        some (.badValue bad)) ↔
      plan.declined = true ∧
        (readRows separators plan.loadTypes rows plan.columnNames).failure ≠ some .negationOverflow) ∧
    ((readRows separators plan.loadTypes rows plan.columnNames).failure = some .negationOverflow →
      HasOverlongNumber separators rows) := by
  have hFits := fits_of_make hPlan
  refine ⟨⟨?_, ?_⟩, hasOverlongNumber_of_failure hLines⟩
  · rintro ⟨bad, hBad⟩
    refine ⟨?_, fun hOverflows => by simp [hBad] at hOverflows⟩
    by_contra hDeclined
    exact hFits.failure_ne_badValue hLines (eq_false_of_ne_true hDeclined) bad hBad
  · rintro ⟨hDeclined, hOther⟩
    exact (hFits.exists_badValue_of_declined hReported hLines hFinite hDeclined).resolve_right hOther

/-- A column of dates that gets a question mark has its plan declined, though the whole numbers beside it
could have been widened. -/
theorem readRows_refused_of_date_and_mark :
    ∃ plan, make .dotComma [(['n'], some .int), (['d'], some .date)] [some ['d'], some ['N']]
        [[none, some ['1']], [some ['?'], some ['2', '.', '5']]] false = .ok plan ∧
      plan.detectedTypes = [.varchar255, .float] ∧ plan.newTypes = [.date, .float] ∧
      ∃ bad, (readRows .dotComma plan.loadTypes
        [[none, some ['1']], [some ['?'], some ['2', '.', '5']]] plan.columnNames).failure =
          some (.badValue bad) := by
  have hPlan : make .dotComma [(['n'], some .int), (['d'], some .date)] [some ['d'], some ['N']]
      [[none, some ['1']], [some ['?'], some ['2', '.', '5']]] false = .ok
        { added := [], updated := [(['n'], .float)], modifySchema := false, createKey := false,
          columnNames := [['d'], ['n']], oldTypes := [some .date, some .int],
          detectedTypes := [.varchar255, .float], newTypes := [.date, .float] } := by
    decide +kernel
  have hReported : ∀ name t, (name, some t) ∈ [(['n'], some int), (['d'], some date)] →
      t ∈ reported := by
    intro name t hMem
    simp only [List.mem_cons, Prod.mk.injEq, Option.some.injEq, List.not_mem_nil, or_false] at hMem
    rcases hMem with ⟨_, rfl⟩ | ⟨_, rfl⟩ <;> decide
  have hLines : SingleLineValues [[none, some ['1']], [some ['?'], some ['2', '.', '5']]] := by
    simp [SingleLineValues]
  have hFinite : FiniteNumbers .dotComma
      [[none, some ['1']], [some ['?'], some ['2', '.', '5']]] := by
    have hOne : readNumber .dotComma ['1'] = .ok (.integer 1) := by decide +kernel
    have hMark : (readNumber .dotComma ['?']).isOk = false := by decide +kernel
    have hHalf : readNumber .dotComma ['2', '.', '5'] = .ok (.float ⟨false, 0x4004000000000000⟩) := by
      decide +kernel
    intro row hRow s hs n hn
    simp only [List.mem_cons, List.not_mem_nil, or_false] at hRow
    rcases hRow with rfl | rfl
    · obtain rfl : s = ['1'] := by simpa using hs
      obtain rfl : 1 = n := by simpa [hOne] using hn
      decide +kernel
    · rcases (by simpa using hs : s = ['?'] ∨ s = ['2', '.', '5']) with rfl | rfl
      · simp [hn, Except.isOk, Except.toBool] at hMark
      · simp [hHalf] at hn
  exact ⟨_, hPlan, rfl, rfl,
    (readRows_refused_iff_declined _ _ _ _ _ _ hReported hLines hFinite hPlan).1.mpr
      ⟨by decide, by decide +kernel⟩⟩

/-- A number too long to be negated, in a column that keeps its type, hides a value behind it that its
column cannot take: the plan is declined, and no bad value is met. -/
theorem exists_declined_of_overlong {s : Text} {numeral : Numeral}
    (hRead : Numeral.read? .dotComma (Text.trim s) = some numeral) (hLine : '\n' ∉ s)
    (hBlank : Text.isBlank s = false) (hOverflows : numeral.overflows = true) :
    SingleLineValues [[some s, some ['x']]] ∧ FiniteNumbers .dotComma [[some s, some ['x']]] ∧
    ∃ plan, make .dotComma [(['f'], some .float), (['n'], some .int)] [some ['f'], some ['n']]
        [[some s, some ['x']]] false = .ok plan ∧ plan.declined = true ∧
      (readRows .dotComma plan.loadTypes [[some s, some ['x']]] plan.columnNames).failure =
        some .negationOverflow := by
  have hAccepts : accepts .dotComma .float (Text.trim s) = true := by rw [accepts, hRead]; rfl
  have hNumber : readNumber .dotComma s = .error .negationOverflow := by
    rcases readNumber_cases hRead with ⟨⟨_, hFeed⟩, _⟩ | ⟨_, ⟨_, hNumber⟩ | ⟨hShort, _⟩⟩
    · exact absurd (Text.mem_of_mem_trim hFeed) hLine
    · exact hNumber
    · exact absurd ((isOverlongNumber_iff hRead).mpr hOverflows) hShort
  have hMark : (readNumber .dotComma ['x']).isOk = false := by decide +kernel
  refine ⟨by simp [SingleLineValues, hLine], ?_, ?_⟩
  · intro row hRow t ht n hn
    obtain rfl := List.mem_singleton.mp hRow
    rcases (by simpa using ht : t = s ∨ t = ['x']) with rfl | rfl
    · simp [hNumber] at hn
    · simp [hn, Except.isOk, Except.toBool] at hMark
  have hTypes : ofRows .dotComma [some .float, some .int] [[some s, some ['x']]] =
      [.float, .varchar255] := by
    have hRow : ofRows .dotComma [some .float, some .int] [[some s, some ['x']]] =
        [ofValues (relax .dotComma (some .float) (some s)),
          ofValues (relax .dotComma (some .int) (some ['x']))] := rfl
    have hLetter : relax .dotComma (some .int) (some ['x']) = some .varchar255 := by decide
    rw [hRow, relax_eq_self rfl hAccepts, hLetter]
    rfl
  have hPlan : make .dotComma [(['f'], some .float), (['n'], some .int)] [some ['f'], some ['n']]
      [[some s, some ['x']]] false = .ok
        { added := [], updated := [], modifySchema := false, createKey := false,
          columnNames := [['f'], ['n']], oldTypes := [some .float, some .int],
          detectedTypes := [.float, .varchar255], newTypes := [.float, .int] } := by
    have hNames : [some ['f'], some ['n']].map columnName = [['f'], ['n']] := by decide +kernel
    have hOld : [['f'], ['n']].map (fun name =>
        (([(['f'], some float), (['n'], some int)].filter fun column =>
          column.1 != rowKeyName).lookup name).join) = [some float, some int] := by
      decide +kernel
    simp only [make, hNames, hOld, hTypes]
    decide +kernel
  refine ⟨_, hPlan, by decide, ?_⟩
  have hCell : readCell .dotComma .float (some s) = .error .negationOverflow := by
    rw [readCell_of_not_isBlank hBlank, ColumnType.read, readFloat, hNumber]
    rfl
  simp [readRows, loadTypes, isReadable, readRowsFrom, readCells, hCell]

/-- A million and one ones and a half with a minus sign in front, beside a letter in a column of whole
numbers. -/
theorem not_refused_of_minus_ones_and_letter :
    SingleLineValues [[some (minusOnes 1000000), some ['x']]] ∧
    FiniteNumbers .dotComma [[some (minusOnes 1000000), some ['x']]] ∧
    ∃ plan, make .dotComma [(['f'], some .float), (['n'], some .int)] [some ['f'], some ['n']]
        [[some (minusOnes 1000000), some ['x']]] false = .ok plan ∧ plan.declined = true ∧
      ¬ ∃ bad, (readRows .dotComma plan.loadTypes [[some (minusOnes 1000000), some ['x']]]
        plan.columnNames).failure = some (.badValue bad) := by
  have hTrim := trim_minusOnes 1000000
  obtain ⟨hLines, hFinite, plan, hPlan, hDeclined, hFailure⟩ := exists_declined_of_overlong
    (s := minusOnes 1000000) (by rw [hTrim]; exact read?_minusOnes _) (lineFeed_not_mem_minusOnes _)
    (isBlank_minusOnes _) (overflows_minusOnes (Nat.le_refl _))
  refine ⟨hLines, hFinite, plan, hPlan, hDeclined, ?_⟩
  rintro ⟨bad, hBad⟩
  simp [hFailure] at hBad

end MigrationPlan

end CsvIntake
