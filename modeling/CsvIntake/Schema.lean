import CsvIntake.ColumnType
import CsvIntake.Text.Basic

/-! Ordered mappings from column names. A name that is entered again keeps its first place and takes
the later entry. -/
namespace CsvIntake

/-- Entries by column name, in column order. -/
abbrev NameMap (α : Type) := List (Text × α)

namespace NameMap

variable {α : Type}

/-- Enters a name: in its place if it is known, else at the end. -/
def put : NameMap α → Text → α → NameMap α
  | [], name, entry => [(name, entry)]
  | (n, e) :: rest, name, entry =>
    if n = name then (n, entry) :: rest else (n, e) :: put rest name entry

/-- The mapping made by entering pairs one after the other. -/
def ofPairs (pairs : List (Text × α)) : NameMap α :=
  pairs.foldl (fun m pair => put m pair.1 pair.2) []

/-- The mapping with the entries of another one entered after its own. -/
def updated (m other : NameMap α) : NameMap α :=
  other.foldl (fun m pair => put m pair.1 pair.2) m

theorem lookup_put_self (m : NameMap α) (name : Text) (entry : α) :
    (put m name entry).lookup name = some entry := by
  induction m with
  | nil => simp [put]
  | cons head rest ih =>
    obtain ⟨n, e⟩ := head
    by_cases h : n = name
    · simp [put, h]
    · have hne : (name == n) = false := beq_eq_false_iff_ne.2 (Ne.symm h)
      simp [put, h, List.lookup_cons, hne, ih]

theorem lookup_put_of_ne (m : NameMap α) {name other : Text} (entry : α) (h : other ≠ name) :
    (put m name entry).lookup other = m.lookup other := by
  induction m with
  | nil => simp [put, List.lookup_cons, beq_eq_false_iff_ne.2 h]
  | cons head rest ih =>
    obtain ⟨n, e⟩ := head
    by_cases hn : n = name
    · subst hn
      simp [put, List.lookup_cons, beq_eq_false_iff_ne.2 h]
    · simp [put, hn, List.lookup_cons, ih]

/-- The names in column order. -/
def names (m : NameMap α) : List Text := m.map Prod.fst

end NameMap

/-- Column types by column name, in column order. -/
abbrev Schema := NameMap ColumnType

end CsvIntake
