import CsvIntake.Proofs.LoadingRows
import CsvIntake.Workspace

/-! Where the characters of a value come from. A line never holds its own line break, and a field holds
only characters of its line, so no value of a table that was read from a file goes on over a line feed. -/
namespace CsvIntake

namespace FieldState

variable {comments : Bool} {state after : FieldState} {c d : Char}

/-- One character of a line adds at most itself to the field. -/
theorem mem_of_mem_field_next (h : state.next d = .ok after) (hc : c ∈ after.field) :
    c = d ∨ c ∈ state.field := by
  cases state with
  | start blanks =>
      rw [next] at h
      split at h
      · obtain rfl := Except.ok.inj h
        cases hc
      · split at h
        · rename_i hBlank
          obtain rfl := Except.ok.inj h
          left
          rw [hBlank]
          exact List.eq_of_mem_replicate hc
        · obtain rfl := Except.ok.inj h
          simpa [field, or_comm] using hc
  | bare read =>
      obtain rfl := Except.ok.inj h
      simpa [field, or_comm] using hc
  | inQuotes read =>
      rw [next] at h
      split at h <;> obtain rfl := Except.ok.inj h
      · exact .inr hc
      · simpa [field, or_comm] using hc
  | behindQuote read =>
      rw [next] at h
      split at h
      · rename_i hQuote
        obtain rfl := Except.ok.inj h
        simpa [field, hQuote, or_comm] using hc
      · split at h
        · obtain rfl := Except.ok.inj h
          exact .inr hc
        · cases h
  | behindBlank read =>
      rw [next] at h
      split at h
      · obtain rfl := Except.ok.inj h
        exact .inr hc
      · cases h

/-- A field holds only characters of its line, and of what was read of the field before. -/
theorem mem_of_mem_fields {line s : Text} {read : List Text}
    (h : fields comments state line = .ok read) (hs : s ∈ read) (hc : c ∈ s) :
    c ∈ line ∨ c ∈ state.field := by
  induction line generalizing state read with
  | nil =>
      rw [fields] at h
      split at h
      · cases h
      · obtain rfl := Except.ok.inj h
        obtain rfl := List.mem_singleton.mp hs
        exact .inr hc
  | cons d line ih =>
      rw [fields] at h
      split at h
      · obtain rfl := Except.ok.inj h
        obtain rfl := List.mem_singleton.mp hs
        exact .inr hc
      · split at h
        · -- a comma: the field ends, and the next one starts with nothing read
          cases hRest : fields comments (.start 0) line with
          | error fault => simp [hRest, Except.map] at h
          | ok others =>
              rw [hRest] at h
              obtain rfl := Except.ok.inj h
              rcases List.mem_cons.mp hs with rfl | hOther
              · exact .inr hc
              · rcases ih hRest hOther with hLine | hField
                · exact .inl (List.mem_cons_of_mem _ hLine)
                · cases hField
        · cases hNext : state.next d with
          | error fault => simp [hNext] at h
          | ok after =>
              rw [hNext] at h
              rcases ih h hs with hLine | hField
              · exact .inl (List.mem_cons_of_mem _ hLine)
              · rcases mem_of_mem_field_next hNext hField with rfl | hBefore
                · exact .inl (List.mem_cons_self ..)
                · exact .inr hBefore

end FieldState

namespace CsvLine

/-- The lines hold no line feed. -/
def AreSingle (lines : List Text) : Prop := ∀ line ∈ lines, '\n' ∉ line

theorem areSingle_cons {line : Text} {lines : List Text} :
    AreSingle (line :: lines) ↔ '\n' ∉ line ∧ AreSingle lines :=
  List.forall_mem_cons

/-- Lines are cut at every line feed. -/
theorem areSingle_cutFrom {read : Text} (hRead : '\n' ∉ read) (s : Text) :
    AreSingle (cutFrom read s) := by
  fun_induction cutFrom read s with
  | case1 read hEmpty => exact List.forall_mem_nil _
  | case2 read hEmpty => simpa [AreSingle] using hRead
  | case3 read cs ih => exact areSingle_cons.mpr ⟨by simpa using hRead, ih (List.not_mem_nil)⟩
  | case4 read cs hFeed ih => exact areSingle_cons.mpr ⟨by simpa using hRead, ih (List.not_mem_nil)⟩
  | case5 read cs ih => exact areSingle_cons.mpr ⟨by simpa using hRead, ih (List.not_mem_nil)⟩
  | case6 read c cs hReturn hBoth hFeed ih =>
      refine ih ?_
      intro hMem
      rcases List.mem_cons.mp hMem with hChar | hMem
      · exact hFeed hChar.symm
      · exact hRead hMem

theorem areSingle_cut (s : Text) : AreSingle (cut s) := by
  unfold cut
  split <;> exact areSingle_cutFrom List.not_mem_nil _

variable {comments : Bool} {c : Char}

/-- A line whose fields are read is not blank and no comment. -/
theorem fields_of_read {line : Text} {r : CsvRecord} (h : read comments line = .ok (.record r)) :
    FieldState.fields comments (.start 0) line = .ok r.fields := by
  rw [read] at h
  split at h
  · cases h
  · split at h
    · cases h
    · split at h
      · cases h
      · rename_i fields hFields
        obtain rfl := CsvLine.record.inj (Except.ok.inj h)
        exact hFields

/-- Every character of a record stands in some line. -/
theorem exists_line_of_readAll {lines : List Text} {all : List CsvLine}
    (h : readAll comments lines = .ok all) {r : CsvRecord} (hr : .record r ∈ all) {s : Text}
    (hs : s ∈ r.fields) (hc : c ∈ s) : ∃ line ∈ lines, c ∈ line := by
  induction lines generalizing all with
  | nil =>
      obtain rfl := Except.ok.inj h
      cases hr
  | cons line lines ih =>
      rw [readAll] at h
      split at h
      · cases h
      · cases h
      · rename_i first hFirst
        cases hRest : readAll comments lines with
        | error fault => simp [hRest, Except.map] at h
        | ok others =>
            rw [hRest] at h
            obtain rfl := Except.ok.inj h
            rcases List.mem_cons.mp hr with rfl | hOther
            · rcases FieldState.mem_of_mem_fields (fields_of_read hFirst) hs hc with hLine | hStart
              · exact ⟨line, List.mem_cons_self .., hLine⟩
              · cases hStart
            · obtain ⟨other, hMem, hChar⟩ := ih hRest hOther
              exact ⟨other, List.mem_cons_of_mem _ hMem, hChar⟩

end CsvLine

namespace CsvLayout

variable {lines : List Text} {layout : CsvLayout}

/-- A plain layout holds the lines as they are read with some choice of comments. -/
theorem exists_readAll_of_plain (h : plain lines = .ok layout) :
    ∃ comments, CsvLine.readAll comments lines = .ok layout.lines := by
  rw [plain] at h
  split at h
  · cases h
  · rename_i all hAll
    dsimp only at h
    split at h
    · obtain rfl := Except.ok.inj h
      exact ⟨false, hAll⟩
    · cases h

/-- A layout with comments holds the lines as they are read with some choice of comments. -/
theorem exists_readAll_of_commented? (h : commented? lines = some layout) :
    ∃ comments, CsvLine.readAll comments lines = .ok layout.lines := by
  rw [commented?] at h
  split at h
  · cases h
  · rename_i all hAll
    dsimp only at h
    split at h
    · obtain rfl := Option.some.inj h
      exact ⟨true, hAll⟩
    · cases h

/-- A layout holds its lines as they were read, with or without comments. -/
theorem exists_readAll_of_ofLines (h : ofLines lines = .ok layout) :
    ∃ comments, CsvLine.readAll comments lines = .ok layout.lines := by
  rw [ofLines] at h
  split at h
  · rename_i commented _ hCommented
    obtain rfl := Except.ok.inj h
    exact exists_readAll_of_commented? hCommented
  · rename_i read commented hPlain hCommented
    obtain rfl := Except.ok.inj h
    split
    · exact exists_readAll_of_commented? hCommented
    · exact exists_readAll_of_plain hPlain
  · exact exists_readAll_of_plain h

/-- Every character of a record stands in some line. -/
theorem exists_line_of_mem_records (h : ofLines lines = .ok layout) {fields : List Text}
    (hFields : fields ∈ layout.records) {s : Text} (hs : s ∈ fields) {c : Char} (hc : c ∈ s) :
    ∃ line ∈ lines, c ∈ line := by
  obtain ⟨comments, hAll⟩ := exists_readAll_of_ofLines h
  obtain ⟨line, hLine, hRecord⟩ := List.mem_filterMap.mp hFields
  cases line with
  | blank =>
      dsimp only at hRecord
      split at hRecord
      · obtain rfl := Option.some.inj hRecord
        obtain rfl := List.mem_singleton.mp hs
        cases hc
      · cases hRecord
  | comment => cases hRecord
  | record r =>
      obtain rfl := Option.some.inj hRecord
      exact CsvLine.exists_line_of_readAll hAll hLine hs hc

end CsvLayout

namespace CsvTable

theorem mem_of_mem_withoutEmptyExtra {width : Nat} {fields : List Text} {s : Text}
    (h : s ∈ withoutEmptyExtra width fields) : s ∈ fields := by
  rw [withoutEmptyExtra] at h
  split at h
  · exact List.mem_of_mem_take h
  · exact h

/-- The values of a row are the fields that are not empty. -/
theorem mem_of_mem_row {width : Nat} {fields : List Text} {s : Text}
    (h : some s ∈ row (widened width fields)) : s ∈ fields := by
  obtain ⟨t, ht, hValue⟩ := List.mem_map.mp h
  split at hValue
  · cases hValue
  · rename_i hEmpty
    obtain rfl := Option.some.inj hValue
    rcases List.mem_append.mp ht with hField | hPadding
    · exact hField
    · exact absurd (by rw [List.eq_of_mem_replicate hPadding]; rfl) hEmpty

/-- Every value of a table is a field of some record. -/
theorem exists_record_of_ofRecords {width : Nat} {records : List (List Text)} {table : CsvTable}
    (h : ofRecords width records = .ok table) {r : Row} (hr : r ∈ table.rows) {s : Text}
    (hs : some s ∈ r) : ∃ fields ∈ records, s ∈ fields := by
  rw [ofRecords] at h
  split at h
  · cases h
  · split at h
    · obtain rfl := Except.ok.inj h
      cases hr
    · rename_i header rows hKept
      obtain rfl := Except.ok.inj h
      obtain ⟨filled, hFilled, rfl⟩ := List.mem_map.mp hr
      have hMem : filled ∈ (records.map (withoutEmptyExtra width)).map (widened width) := by
        rw [hKept]
        exact List.mem_cons_of_mem _ hFilled
      obtain ⟨cut, hCut, rfl⟩ := List.mem_map.mp hMem
      obtain ⟨fields, hFields, rfl⟩ := List.mem_map.mp hCut
      exact ⟨fields, hFields, mem_of_mem_withoutEmptyExtra (mem_of_mem_row hs)⟩

/-- The lines of an uploaded file hold no line feed. -/
theorem areSingle_linesOf {parts : List ByteArray} {lines : List Text}
    (h : linesOf parts = .ok lines) : CsvLine.AreSingle lines := by
  induction parts generalizing lines with
  | nil =>
      obtain rfl := Except.ok.inj h
      exact List.forall_mem_nil _
  | cons part rest ih =>
      rw [linesOf] at h
      split at h
      · cases h
      · rename_i s _
        cases hRest : linesOf rest with
        | error fault => simp [hRest, Except.map] at h
        | ok others =>
            rw [hRest] at h
            obtain rfl := Except.ok.inj h
            exact List.forall_mem_append.mpr ⟨CsvLine.areSingle_cut _, ih hRest⟩

/-- The values read from single lines are single-line values. -/
theorem singleLineValues_ofLines {lines : List Text} {table : CsvTable}
    (hLines : CsvLine.AreSingle lines) (h : ofLines lines = .ok table) :
    SingleLineValues table.rows := by
  intro r hr s hs hFeed
  rw [ofLines] at h
  split at h
  · cases h
  · rename_i layout hLayout
    obtain ⟨fields, hFields, hField⟩ := exists_record_of_ofRecords h hr hs
    obtain ⟨line, hLine, hMem⟩ := CsvLayout.exists_line_of_mem_records hLayout hFields hField hFeed
    exact hLines line hLine hMem

/-- The values that are read from a file go on over no line feed. -/
theorem singleLineValues_read {file : UploadFile} {table : CsvTable} (h : read file = .ok table) :
    SingleLineValues table.rows := by
  rw [read] at h
  cases hFile : ofFile file with
  | error fault => simp [hFile, Except.mapError] at h
  | ok found =>
      rw [hFile] at h
      obtain rfl := Except.ok.inj h
      rw [ofFile] at hFile
      split at hFile
      · obtain rfl := Except.ok.inj hFile
        exact List.forall_mem_nil _
      · split at hFile
        · cases hFile
        · split at hFile
          · cases hFile
          · rename_i lines hLines
            exact singleLineValues_ofLines (areSingle_linesOf hLines) hFile

end CsvTable

theorem mem_of_mem_dropMarked {α : Type} {marks : List Bool} {xs : List α} {x : α}
    (h : x ∈ dropMarked marks xs) : x ∈ xs := by
  fun_induction dropMarked marks xs with
  | case1 marks => exact h
  | case2 xs => exact h
  | case3 marks y ys ih => exact List.mem_cons_of_mem _ (ih h)
  | case4 marked marks y ys _ ih =>
      rcases List.mem_cons.mp h with rfl | hRest
      · exact List.mem_cons_self ..
      · exact List.mem_cons_of_mem _ (ih hRest)

/-- No value of an uploaded file holds a line feed. -/
theorem singleLineValues_readUpload {file : UploadFile} {table : CsvTable}
    (h : readUpload file = .ok table) : SingleLineValues table.rows := by
  rw [readUpload] at h
  split at h
  · cases h
  · rename_i found hRead
    obtain rfl := Except.ok.inj h
    intro row hRow s hs
    obtain ⟨whole, hWhole, rfl⟩ := List.mem_map.mp hRow
    exact CsvTable.singleLineValues_read hRead whole hWhole s (mem_of_mem_dropMarked hs)

end CsvIntake
