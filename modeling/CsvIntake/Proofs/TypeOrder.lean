import CsvIntake.ColumnType
import Mathlib.Data.Fintype.Basic
import Mathlib.Order.Bounds.Basic
import Mathlib.Order.WithBot

/-! The column types ordered by generality. One type is below another when a chain of direct
generalizations leads from it to the other. Any two types have a least common generalization, which
is the first one in the canonical order. What is known of a column may also be nothing at all, which
is below every type. -/
namespace CsvIntake

namespace Hierarchy

variable {α : Type} [DecidableEq α]

/-- One direct generalization. -/
def Edge (edges : List (α × α)) (s t : α) : Prop := (s, t) ∈ edges

/-- What is found above a type is above it: no type is reached without a chain of edges. -/
theorem transGen_of_mem_reachedFrom {edges : List (α × α)} {reached types : List α} {t : α}
    (h : t ∈ reachedFrom edges reached types) :
    ∃ s ∈ reached, Relation.TransGen (Edge edges) s t := by
  induction types generalizing reached with
  | nil => simp [reachedFrom] at h
  | cons u types ih =>
      rw [reachedFrom] at h
      split at h
      · rename_i hReached
        obtain ⟨s, hs, hEdge⟩ := List.any_eq_true.mp hReached
        have hStep : Edge edges s u := by simpa [Edge] using hEdge
        rcases List.mem_cons.mp h with rfl | hLater
        · exact ⟨s, hs, .single hStep⟩
        · obtain ⟨v, hv, hChain⟩ := ih hLater
          rcases List.mem_cons.mp hv with rfl | hv
          · exact ⟨s, hs, .head hStep hChain⟩
          · exact ⟨v, hv, hChain⟩
      · exact ih h

end Hierarchy

namespace ColumnType

instance : Fintype ColumnType where
  elems := ⟨all, by decide⟩
  complete t := by cases t <;> decide

/-- The ancestors of a type with the type itself in front. -/
def upward (t : ColumnType) : List ColumnType := t :: t.ancestors

theorem mem_upward_of_edge : ∀ s t u : ColumnType, t ∈ s.upward →
    (t, u) ∈ generalizations → u ∈ s.upward := by
  decide +kernel

/-- What stands above a type is what its edges lead to. -/
theorem mem_upward_iff {s t : ColumnType} :
    t ∈ s.upward ↔ Relation.ReflTransGen (Hierarchy.Edge generalizations) s t := by
  constructor
  · intro h
    rcases List.mem_cons.mp h with rfl | hAbove
    · exact .refl
    · obtain ⟨r, hr, hChain⟩ := Hierarchy.transGen_of_mem_reachedFrom hAbove
      obtain rfl := List.mem_singleton.mp hr
      exact hChain.to_reflTransGen
  · intro h
    induction h with
    | refl => exact List.mem_cons_self ..
    | tail _ hEdge ih => exact mem_upward_of_edge s _ _ ih hEdge

/-- No two types stand above each other. -/
theorem antisymm_upward : ∀ s t : ColumnType, t ∈ s.upward → s ∈ t.upward → s = t := by
  decide +kernel

/-- A type is below the types that generalize it, directly or in several steps. -/
instance : PartialOrder ColumnType where
  le := Relation.ReflTransGen (Hierarchy.Edge generalizations)
  le_refl _ := .refl
  le_trans _ _ _ := .trans
  le_antisymm s t hst hts := antisymm_upward s t (mem_upward_iff.mpr hst) (mem_upward_iff.mpr hts)

theorem le_iff_mem_upward {s t : ColumnType} : s ≤ t ↔ t ∈ s.upward := mem_upward_iff.symm

instance : DecidableLE ColumnType := fun _ _ => decidable_of_iff _ le_iff_mem_upward.symm

/-- What holds of a type and passes along every edge holds of everything above the type. -/
theorem of_le {p : ColumnType → Prop} {s t : ColumnType} (hle : s ≤ t) (hs : p s)
    (hEdge : ∀ u v, (u, v) ∈ generalizations → p u → p v) : p t := by
  replace hle : Relation.ReflTransGen (Hierarchy.Edge generalizations) s t := hle
  induction hle with
  | refl => exact hs
  | tail _ hStep ih => exact hEdge _ _ hStep ih

/-- The first type at or above `s`, in canonical order, that is at or above `t` too. -/
def join (s t : ColumnType) : ColumnType := (s.upward.find? fun u => decide (t ≤ u)).getD .text

/-- A common ancestor stands above the first type. -/
theorem le_join_left : ∀ s t : ColumnType, s ≤ s.join t := by decide +kernel

/-- A common ancestor stands above the second type. -/
theorem le_join_right : ∀ s t : ColumnType, t ≤ s.join t := by decide +kernel

/-- The lowest common ancestor stands below every other common one. -/
theorem join_le : ∀ s t u : ColumnType, s ≤ u → t ≤ u → s.join t ≤ u := by decide +kernel

instance : SemilatticeSup ColumnType where
  sup := join
  le_sup_left := le_join_left
  le_sup_right := le_join_right
  sup_le := join_le

/-- The first generalization in canonical order is the least one. -/
theorem find?_upward : ∀ s t : ColumnType,
    (s.upward.find? fun u => decide (t ≤ u)) = some (s ⊔ t) := by
  decide +kernel

/-- A type comes before everything else at or above it. -/
theorem find?_ordered : ∀ t : ColumnType,
    (hierarchy.ordered.find? fun u => decide (t ≤ u)) = some t := by
  decide +kernel

/-- Text stands above every type. -/
theorem le_text : ∀ t : ColumnType, t ≤ .text := by decide +kernel

/-- A column is typed as what its values are, or as something more general. -/
theorem le_ofValues : ∀ t : ColumnType, t ≤ ofValues (some t) := by decide +kernel

/-- What is known of the type of a column, as an element of the order with a least one: nothing
known is below every type. -/
def known : Option ColumnType → WithBot ColumnType
  | none => ⊥
  | some t => t

@[simp] theorem known_none : known none = ⊥ := rfl

@[simp] theorem known_some (t : ColumnType) : known (some t) = t := rfl

theorem known_injective : Function.Injective known := by
  intro s t h
  cases s <;> cases t <;> simp_all

end ColumnType

end CsvIntake
