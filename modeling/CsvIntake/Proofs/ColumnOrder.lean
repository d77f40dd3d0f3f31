import CsvIntake.Proofs.PlannedColumns
import CsvIntake.Proofs.TypedRows

/-! The order of columns. A file whose columns are put in another order, in its header and in every row alike,
gets the same plan but for the order of the columns, and its rows are read as the same rows, in that order. -/
namespace CsvIntake

/-- An order of `n` columns: the places that they are taken from, each of them once. -/
structure ColumnOrder (n : Nat) where
  places : List Nat
  perm : places.Perm (List.range n)

namespace ColumnOrder

variable {n : Nat} {α β γ : Type} (order : ColumnOrder n)

/-- Entries, one for each column, in the order of the columns. -/
def apply (entries : List α) : List α := order.places.filterMap fun place => entries[place]?

theorem mem_places_iff {place : Nat} : place ∈ order.places ↔ place < n := by
  rw [order.perm.mem_iff, List.mem_range]

theorem filterMap_range_getElem? (entries : List α) :
    ((List.range entries.length).filterMap fun place => entries[place]?) = entries := by
  induction entries with
  | nil => rfl
  | cons entry entries ih =>
      rw [List.length_cons, List.range_succ_eq_map, List.filterMap_cons, List.filterMap_map]
      exact congrArg (entry :: ·) ih

/-- The order only moves entries. -/
theorem apply_perm {entries : List α} (h : entries.length = n) :
    (order.apply entries).Perm entries := by
  subst h
  have hPlaces := order.perm.filterMap fun place => entries[place]?
  rw [filterMap_range_getElem?] at hPlaces
  exact hPlaces

theorem length_apply {entries : List α} (h : entries.length = n) :
    (order.apply entries).length = n :=
  (order.apply_perm h).length_eq.trans h

theorem apply_map (f : α → β) (entries : List α) :
    order.apply (entries.map f) = (order.apply entries).map f := by
  rw [apply, apply, List.map_filterMap]
  simp only [List.getElem?_map]

/-- Each place is filled from the place that the order tells. -/
theorem getElem?_apply {entries : List α} (h : entries.length = n) (i : Nat) :
    (order.apply entries)[i]? = order.places[i]?.bind fun place => entries[place]? := by
  have hFilled : ∀ place ∈ order.places, place < entries.length := by
    intro place hPlace
    rw [h]
    exact order.mem_places_iff.mp hPlace
  rw [apply]
  generalize order.places = places at hFilled
  induction places generalizing i with
  | nil => rfl
  | cons place places ih =>
      obtain ⟨hFirst, hRest⟩ := List.forall_mem_cons.mp hFilled
      rw [List.filterMap_cons, List.getElem?_eq_getElem hFirst]
      cases i with
      | zero => exact (List.getElem?_eq_getElem hFirst).symm
      | succ i => exact ih i hRest

/-- Reordering commutes with joining two lists place by place. -/
theorem apply_zipWith (f : α → β → γ) {xs : List α} {ys : List β} (hx : xs.length = n)
    (hy : ys.length = n) :
    order.apply (xs.zipWith f ys) = (order.apply xs).zipWith f (order.apply ys) := by
  apply List.ext_getElem?
  intro i
  rw [List.getElem?_zipWith, order.getElem?_apply hx, order.getElem?_apply hy,
    order.getElem?_apply (by simp [hx, hy])]
  cases order.places[i]? with
  | none => rfl
  | some place => simp [List.getElem?_zipWith]

theorem apply_zip {xs : List α} {ys : List β} (hx : xs.length = n) (hy : ys.length = n) :
    order.apply (xs.zip ys) = (order.apply xs).zip (order.apply ys) :=
  order.apply_zipWith Prod.mk hx hy

theorem apply_inj {xs ys : List α} (hx : xs.length = n) (hy : ys.length = n) :
    order.apply xs = order.apply ys ↔ xs = ys := by
  constructor
  · intro h
    apply List.ext_getElem?
    intro place
    by_cases hPlace : place < n
    · obtain ⟨i, hi⟩ := List.mem_iff_getElem?.mp (order.mem_places_iff.mpr hPlace)
      have hSame := congrArg (·[i]?) h
      simpa [order.getElem?_apply hx, order.getElem?_apply hy, hi] using hSame
    · rw [List.getElem?_eq_none (by omega), List.getElem?_eq_none (by omega)]
  · rintro rfl
    rfl

theorem beq_apply [BEq α] [LawfulBEq α] {xs ys : List α} (hx : xs.length = n) (hy : ys.length = n) :
    (order.apply xs == order.apply ys) = (xs == ys) := by
  rw [Bool.eq_iff_iff, beq_iff_eq, beq_iff_eq, order.apply_inj hx hy]

end ColumnOrder

/-! ### Rows in any order of columns -/

section Rows

variable {n : Nat} (order : ColumnOrder n) {separators : NumberSeparators} {rows : List Row}

/-- A column has the same values wherever it stands. -/
theorem columnValues_apply (hWidth : ∀ row ∈ rows, row.length = n) {i place : Nat}
    (hPlace : order.places[i]? = some place) :
    columnValues i (rows.map order.apply) = columnValues place rows := by
  rw [columnValues, columnValues, List.map_map]
  apply List.map_congr_left
  intro row hRow
  rw [Function.comp_apply, order.getElem?_apply (hWidth row hRow), hPlace]
  rfl

/-- The types detected in reordered rows are the detected types, reordered. -/
theorem ColumnType.ofRows_apply (separators : NumberSeparators) {types : List (Option ColumnType)}
    (hTypes : types.length = n) (hWidth : ∀ row ∈ rows, row.length = n) :
    ofRows separators (order.apply types) (rows.map order.apply) =
      order.apply (ofRows separators types rows) := by
  apply List.ext_getElem?
  intro i
  rw [ofRows_getElem?, order.getElem?_apply hTypes,
    order.getElem?_apply ((length_ofRows types rows).trans hTypes)]
  cases hPlace : order.places[i]? with
  | none => rfl
  | some place =>
      rw [Option.bind_some, Option.bind_some, ofRows_getElem?, columnValues_apply order hWidth hPlace]

variable {types : List ColumnType} {cells : Row}

/-- A reordered row is read as its values, reordered. -/
theorem ReadAs.apply {values : List Value} (h : ReadAs separators types cells values)
    (hTypes : types.length = n) (hCells : cells.length = n) :
    ReadAs separators (order.apply types) (order.apply cells) (order.apply values) := by
  obtain ⟨hLength, hRead⟩ := h
  have hValues := hLength.trans hTypes
  constructor
  · rw [order.length_apply hValues, order.length_apply hTypes]
  · intro i t v ht hv
    rw [order.getElem?_apply hTypes] at ht
    rw [order.getElem?_apply hValues] at hv
    obtain ⟨place, hPlace, ht⟩ := Option.bind_eq_some_iff.mp ht
    rw [hPlace, Option.bind_some] at hv
    rw [order.getElem?_apply hCells, hPlace, Option.bind_some]
    exact hRead place t v ht hv

/-- A row of which some cell fails does so in any order of its columns. -/
theorem exists_error_of_apply {names : List Text} {number : Nat} {e : Error}
    (h : readCells separators names number 0 types cells = .error e) (hTypes : types.length = n)
    (hCells : cells.length = n) (others : List Text) :
    ∃ cause, readCells separators others number 0 (order.apply types) (order.apply cells) =
      .error cause := by
  obtain ⟨place, t, cause, ht, hCause, _⟩ := exists_cell_of_readCells_error h
  -- the failing cell stands somewhere in the other order too, though another one may fail before it
  obtain ⟨i, hi⟩ : ∃ i : Nat, order.places[i]? = some place := by
    have hPlace := (List.getElem?_eq_some_iff.mp ht).1
    rw [hTypes] at hPlace
    exact List.mem_iff_getElem?.mp (order.mem_places_iff.mpr hPlace)
  cases hAgain : readCells separators others number 0 (order.apply types) (order.apply cells) with
  | error cause => exact ⟨cause, rfl⟩
  | ok values =>
      have hType : (order.apply types)[i]? = some t := by
        rw [order.getElem?_apply hTypes, hi, Option.bind_some, ht]
      have hOk := isOk_readCell_of_readCells hAgain hType
      rw [order.getElem?_apply hCells, hi, Option.bind_some, hCause] at hOk
      cases hOk

/-- Rows are read up to the same one. -/
theorem readRowsFrom_apply (names others : List Text) (hTypes : types.length = n)
    (hWidth : ∀ row ∈ rows, row.length = n) (number : Nat) :
    (readRowsFrom separators others (order.apply types) number (rows.map order.apply)).rows =
        (readRowsFrom separators names types number rows).rows.map order.apply ∧
      (readRowsFrom separators others (order.apply types) number
        (rows.map order.apply)).failure.isSome =
          (readRowsFrom separators names types number rows).failure.isSome := by
  induction rows generalizing number with
  | nil => exact ⟨rfl, rfl⟩
  | cons cells rows ih =>
      obtain ⟨hCells, hRest⟩ := List.forall_mem_cons.mp hWidth
      rw [List.map_cons, readRowsFrom, readRowsFrom]
      cases hRead : readCells separators names number 0 types cells with
      | error e =>
          obtain ⟨cause, hAgain⟩ := exists_error_of_apply order hRead hTypes hCells others
          rw [hAgain]
          exact ⟨rfl, rfl⟩
      | ok values =>
          have hAgain : readCells separators others number 0 (order.apply types)
              (order.apply cells) = .ok (order.apply values) :=
            readCells_eq_ok_iff.mpr ((readCells_eq_ok_iff.mp hRead).apply order hTypes hCells)
          obtain ⟨hRows, hFailure⟩ := ih hRest (number + 1)
          rw [hAgain]
          exact ⟨congrArg (order.apply values :: ·) hRows, hFailure⟩

/-- The rows that are read are the same, and reading fails for one order of the columns if it does for another. -/
theorem readRows_apply (names others : List Text) (hTypes : types.length = n)
    (hWidth : ∀ row ∈ rows, row.length = n) :
    (readRows separators (order.apply types) (rows.map order.apply) others).rows =
        (readRows separators types rows names).rows.map order.apply ∧
      (readRows separators (order.apply types) (rows.map order.apply) others).failure.isSome =
        (readRows separators types rows names).failure.isSome := by
  have hReaders : ((order.apply types).find? fun t => !t.isReadable).isSome =
      (types.find? fun t => !t.isReadable).isSome := by
    rw [Bool.eq_iff_iff, List.find?_isSome, List.find?_isSome]
    exact exists_congr fun t => and_congr_left fun _ => (order.apply_perm hTypes).mem_iff
  rw [readRows, readRows]
  cases hFind : types.find? fun t => !t.isReadable with
  | none =>
      rw [hFind, Option.isSome_none, Option.isSome_eq_false_iff, Option.isNone_iff_eq_none] at hReaders
      rw [hReaders]
      exact readRowsFrom_apply order names others hTypes hWidth 1
  | some t =>
      rw [hFind, Option.isSome_some, Option.isSome_iff_exists] at hReaders
      obtain ⟨u, hAgain⟩ := hReaders
      rw [hAgain]
      exact ⟨rfl, rfl⟩

end Rows

/-! ### Plans in any order of columns -/

/-- The same columns are added and updated whatever their order. -/
theorem ColumnChanges.lookup_apply {n : Nat} (order : ColumnOrder n) {names : List Text}
    {olds : List (Option ColumnType)} {news : List ColumnType} (hDistinct : names.Nodup)
    (hNames : names.length = n) (hOlds : olds.length = n) (hNews : news.length = n) (name : Text) :
    (addedIn ((order.apply names).zip ((order.apply olds).zip (order.apply news)))).lookup name =
        (addedIn (names.zip (olds.zip news))).lookup name ∧
      (updatedIn ((order.apply names).zip ((order.apply olds).zip (order.apply news)))).lookup name =
        (updatedIn (names.zip (olds.zip news))).lookup name := by
  have hTypes : (olds.zip news).length = n := by simp [hOlds, hNews]
  have hFirst : ((names.zip (olds.zip news)).map Prod.fst).Nodup := by
    rwa [List.map_fst_zip (by rw [hNames, hTypes])]
  have hPerm : (order.apply (names.zip (olds.zip news))).Perm (names.zip (olds.zip news)) := by
    apply order.apply_perm
    simp [hNames, hTypes]
  rw [← order.apply_zip hOlds hNews, ← order.apply_zip hNames hTypes]
  constructor
  · exact NameMap.lookup_eq_of_perm (hPerm.filterMap _) (names_addedIn_sublist.nodup hFirst) name
  · exact NameMap.lookup_eq_of_perm (hPerm.filterMap _) (names_updatedIn_sublist.nodup hFirst) name

namespace MigrationPlan

variable {n : Nat}

/-- Two plans are the same but for the order of the columns of the file. -/
structure Reordered (order : ColumnOrder n) (plan other : MigrationPlan) : Prop where
  added : ∀ name, other.added.lookup name = plan.added.lookup name
  updated : ∀ name, other.updated.lookup name = plan.updated.lookup name
  modifySchema : other.modifySchema = plan.modifySchema
  declined : other.declined = plan.declined
  createKey : other.createKey = plan.createKey
  columnNames : other.columnNames = order.apply plan.columnNames
  oldTypes : other.oldTypes = order.apply plan.oldTypes
  detectedTypes : other.detectedTypes = order.apply plan.detectedTypes
  newTypes : other.newTypes = order.apply plan.newTypes
  loadTypes : other.loadTypes = order.apply plan.loadTypes

/-- The plan of reordered columns is the plan, reordered. -/
theorem reordered_ofColumns (order : ColumnOrder n) {names : List Text}
    {old : List (Option ColumnType)} {detected : List ColumnType} (hDistinct : names.Nodup)
    (hNames : names.length = n) (hOld : old.length = n) (hDetected : detected.length = n)
    (createKey : Bool) :
    Reordered order (ofColumns names old detected createKey)
      (ofColumns (order.apply names) (order.apply old) (order.apply detected) createKey) := by
  have hNew : (old.zipWith newType detected).length = n := by simp [hOld, hDetected]
  have hNewTypes := order.apply_zipWith newType hOld hDetected
  have hChanges := ColumnChanges.lookup_apply order hDistinct hNames hOld hNew
  rw [hNewTypes] at hChanges
  have hDeclined := order.beq_apply hDetected hNew
  have hSame : (order.apply old == (order.apply (old.zipWith newType detected)).map some) =
      (old == (old.zipWith newType detected).map some) := by
    rw [← order.apply_map]
    apply order.beq_apply hOld
    rw [List.length_map, hNew]
  have hModify : (ofColumns (order.apply names) (order.apply old) (order.apply detected)
      createKey).modifySchema = (ofColumns names old detected createKey).modifySchema := by
    simp only [ofColumns, ← hNewTypes, bne, hSame, hDeclined]
  constructor
  · intro name
    exact (hChanges name).1
  · intro name
    exact (hChanges name).2
  · exact hModify
  · simp only [declined, ofColumns, ← hNewTypes, bne, hDeclined]
  · rfl
  · rfl
  · rfl
  · rfl
  · exact hNewTypes.symm
  · rw [loadTypes, loadTypes, hModify]
    split
    · exact hNewTypes.symm
    · exact (congrArg _ hNewTypes.symm).trans (order.apply_zipWith _ hOld hNew).symm

/-- A plan has a load type for each field of the header. -/
theorem length_loadTypes {separators : NumberSeparators} {existing : NameMap (Option ColumnType)}
    {header : Row} {rows : List Row} {createKeys : Bool} {plan : MigrationPlan}
    (h : make separators existing header rows createKeys = .ok plan) :
    plan.loadTypes.length = header.length := by
  obtain ⟨_, _, rfl⟩ := make_eq_ok_iff.mp h
  rw [loadTypes]
  split
  · simp [ofColumns]
  · simp [ofColumns]

/-- Planning goes with the order of the columns, also where it fails. -/
theorem make_eq_of_order (separators : NumberSeparators) (existing : NameMap (Option ColumnType))
    {header : Row} (order : ColumnOrder header.length) {rows : List Row}
    (hWidth : ∀ row ∈ rows, row.length = header.length) (createKeys : Bool) :
    make separators existing (order.apply header) (rows.map order.apply) createKeys =
      (make separators existing header rows createKeys).map fun plan =>
        ofColumns (order.apply plan.columnNames) (order.apply plan.oldTypes)
          (order.apply plan.detectedTypes) plan.createKey := by
  have hOld : ((header.map columnName).map (typeIn existing)).length = header.length := by simp
  have hDetected := ColumnType.ofRows_apply order separators hOld hWidth
  rw [make_eq, make_eq, checkHeader_congr (fun _ => .rfl) (order.apply_perm rfl),
    ← order.apply_map, ← order.apply_map, hDetected]
  cases checkHeader (NameMap.names (existing.filter fun column => column.1 != rowKeyName)) header with
  | error e => rfl
  | ok accepted => rfl

/-- The order of the columns of a file does not matter. If the columns of the header and of every row are put in
another order, planning fails with the same error, or gives the same plan in the other order. The rows are then read
as the same rows in the other order, and reading fails exactly if it did before. -/
theorem make_apply (separators : NumberSeparators) (existing : NameMap (Option ColumnType))
    (header : Row) (rows : List Row) (createKeys : Bool) (order : ColumnOrder header.length)
    (hWidth : ∀ row ∈ rows, row.length = header.length) :
    (∀ e, make separators existing header rows createKeys = .error e →
      make separators existing (order.apply header) (rows.map order.apply) createKeys = .error e) ∧
    ∀ plan, make separators existing header rows createKeys = .ok plan →
      ∃ other, make separators existing (order.apply header) (rows.map order.apply) createKeys =
          .ok other ∧
        Reordered order plan other ∧
        ∀ names otherNames,
          (readRows separators other.loadTypes (rows.map order.apply) otherNames).rows =
              (readRows separators plan.loadTypes rows names).rows.map order.apply ∧
            (readRows separators other.loadTypes (rows.map order.apply) otherNames).failure.isSome =
              (readRows separators plan.loadTypes rows names).failure.isSome := by
  have hAgain := make_eq_of_order separators existing order hWidth createKeys
  constructor
  · intro e h
    rw [hAgain, h]
    rfl
  · intro plan h
    rw [h] at hAgain
    have hReordered : Reordered order plan (ofColumns (order.apply plan.columnNames)
        (order.apply plan.oldTypes) (order.apply plan.detectedTypes) plan.createKey) := by
      obtain ⟨hDistinct, _, rfl⟩ := make_eq_ok_iff.mp h
      apply reordered_ofColumns order hDistinct
      · exact List.length_map ..
      · simp
      · simp
    refine ⟨_, hAgain, hReordered, fun names otherNames => ?_⟩
    rw [hReordered.loadTypes]
    exact readRows_apply order names otherNames (length_loadTypes h) hWidth

/-- A file with a question mark among dates, a fraction among whole numbers and a new column, and the same file with
its new column first: the plan is declined, and the question mark is not read. -/
theorem make_of_new_column_first :
    ∃ plan other,
      make .dotComma [(['n'], some .int), (['d'], some .date)] [some ['d'], some ['N'], some ['w']]
        [[some ['?'], some ['2', '.', '5'], some ['x']]] false = .ok plan ∧
      make .dotComma [(['n'], some .int), (['d'], some .date)] [some ['w'], some ['d'], some ['N']]
        [[some ['x'], some ['?'], some ['2', '.', '5']]] false = .ok other ∧
      plan.declined = true ∧ other.declined = true ∧ other.columnNames = [['w'], ['d'], ['n']] ∧
      (readRows .dotComma plan.loadTypes [[some ['?'], some ['2', '.', '5'], some ['x']]]
        []).failure.isSome = true ∧
      (readRows .dotComma other.loadTypes [[some ['x'], some ['?'], some ['2', '.', '5']]]
        []).failure.isSome = true := by
  have hPlan : make .dotComma [(['n'], some .int), (['d'], some .date)]
      [some ['d'], some ['N'], some ['w']] [[some ['?'], some ['2', '.', '5'], some ['x']]] false = .ok
        { added := [(['w'], .varchar255)], updated := [(['n'], .float)], modifySchema := false,
          createKey := false, columnNames := [['d'], ['n'], ['w']],
          oldTypes := [some .date, some .int, none],
          detectedTypes := [.varchar255, .float, .varchar255],
          newTypes := [.date, .float, .varchar255] } := by
    decide +kernel
  let order : ColumnOrder 3 := ⟨[2, 0, 1], by decide⟩
  obtain ⟨other, hOther, hReordered, hRead⟩ :=
    (make_apply .dotComma [(['n'], some .int), (['d'], some .date)] [some ['d'], some ['N'], some ['w']]
      [[some ['?'], some ['2', '.', '5'], some ['x']]] false order (by simp)).2 _ hPlan
  have hFailure : (readRows .dotComma [ColumnType.date, .int, .varchar255]
      [[some ['?'], some ['2', '.', '5'], some ['x']]] []).failure.isSome = true := by
    decide +kernel
  exact ⟨_, other, hPlan, hOther, rfl, hReordered.declined, hReordered.columnNames, hFailure,
    (hRead [] []).2.trans hFailure⟩

end MigrationPlan

end CsvIntake
