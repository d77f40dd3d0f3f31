import CsvIntake.Error
import CsvIntake.Proofs.CanonicalOrder
import Mathlib.Data.Fintype.Card
import Mathlib.Data.Fintype.EquivFin
import Mathlib.Data.Fintype.Sets
import Mathlib.Order.WellFounded

/-! Hierarchies that are refused. Types can be ordered exactly if no chain of edges leads from one of them back to
itself: as long as there is no such chain, some remaining type has no edge from another one, wherever the edges
lie. So a hierarchy is refused for a cycle, or for having no type or several at the top, and for nothing else. -/
namespace CsvIntake.Hierarchy

variable {α : Type} [DecidableEq α] {edges : List (α × α)}

/-- Some chain of edges leads from a type back to it. -/
def HasCycle (edges : List (α × α)) : Prop := ∃ t, Relation.TransGen (Edge edges) t t

/-! ### Cycles -/

/-- Of finitely many types without a cycle some are below no other one, and these may come next. -/
theorem exists_isReady {remaining : List α} (hAcyclic : ¬HasCycle edges) (hSome : remaining ≠ []) :
    ∃ t ∈ remaining, isReady edges remaining t = true := by
  let below (s t : {t // t ∈ remaining}) : Prop := Relation.TransGen (Edge edges) s.val t.val
  have hWellFounded : WellFounded below := by
    have : IsTrans {t // t ∈ remaining} below := ⟨fun _ _ _ => .trans⟩
    have : Std.Irrefl below := ⟨fun t hChain => hAcyclic ⟨t, hChain⟩⟩
    exact Finite.wellFounded_of_trans_of_irrefl below
  obtain ⟨u, hu⟩ := List.exists_mem_of_ne_nil remaining hSome
  obtain ⟨⟨t, ht⟩, _, hLeast⟩ := hWellFounded.has_min Set.univ ⟨⟨u, hu⟩, trivial⟩
  refine ⟨t, ht, isReady_iff.mpr ?_⟩
  intro s hs hEdge
  exact hLeast ⟨s, hs⟩ trivial (.single hEdge)

/-- Without a cycle no step of ordering lacks a type. -/
theorem exists_orderSteps {steps : Nat} {remaining : List α} (hAcyclic : ¬HasCycle edges)
    (hSteps : remaining.length = steps) :
    ∃ order, orderSteps edges steps remaining = some order := by
  induction steps generalizing remaining with
  | zero => exact ⟨[], rfl⟩
  | succ steps ih =>
      have hSome : remaining ≠ [] := List.ne_nil_of_length_eq_add_one hSteps
      have hReady := List.find?_isSome.mpr (exists_isReady hAcyclic hSome)
      obtain ⟨t, hFind⟩ := Option.isSome_iff_exists.mp hReady
      have hLength : (remaining.erase t).length = steps := by
        rw [List.length_erase_of_mem (List.mem_of_find?_eq_some hFind), hSteps, Nat.add_sub_cancel]
      obtain ⟨rest, hRest⟩ := ih hLength
      refine ⟨t :: rest, ?_⟩
      simp only [orderSteps, hFind, hRest, Option.map_some]

section Listed

variable {types : List α} (hListed : ∀ s t, (s, t) ∈ edges → s ∈ types ∧ t ∈ types)
include hListed

/-- Along a chain of edges the places in an order grow. -/
theorem IsTopological.idxOf_lt_of_transGen {order : List α} (h : IsTopological edges types order) {s t : α}
    (hChain : Relation.TransGen (Edge edges) s t) : order.idxOf s < order.idxOf t := by
  have hEdge : ∀ {s t}, (s, t) ∈ edges → order.idxOf s < order.idxOf t := fun hEdge =>
    h.before _ (hListed _ _ hEdge).1 _ (hListed _ _ hEdge).2 hEdge
  induction hChain with
  | single hFirst => exact hEdge hFirst
  | tail _ hLast ih => exact ih.trans (hEdge hLast)

/-- There is no order exactly when there is a cycle. -/
theorem order?_eq_none_iff : order? edges types = none ↔ HasCycle edges := by
  constructor
  · intro hNone
    by_contra hAcyclic
    obtain ⟨order, hOrder⟩ : ∃ order, order? edges types = some order := exists_orderSteps hAcyclic rfl
    rw [hOrder] at hNone
    cases hNone
  · rintro ⟨t, hChain⟩
    cases hOrder : order? edges types with
    | none => rfl
    | some order =>
        have hTopological := isTopological_of_orderSteps rfl hOrder
        exact absurd (hTopological.idxOf_lt_of_transGen hListed hChain) (lt_irrefl _)

end Listed

/-! ### Types at the top -/

/-- Distinct types have one at the top exactly if the list of those at the top is that type. -/
theorem existsUnique_top_iff {types : List α} (hDistinct : types.Nodup) :
    (∃! t, t ∈ types ∧ ∀ u, (t, u) ∉ edges) ↔ ∃ root, tops edges types = [root] := by
  simp only [← mem_tops_iff]
  constructor
  · rintro ⟨root, hRoot, hOnly⟩
    have hTops : (tops edges types).Nodup := hDistinct.filter _
    refine ⟨root, List.perm_singleton.mp ?_⟩
    rw [List.perm_ext_iff_of_nodup hTops (List.nodup_singleton root)]
    intro t
    rw [List.mem_singleton]
    constructor
    · exact hOnly t
    · rintro rfl
      exact hRoot
  · rintro ⟨root, hTops⟩
    rw [hTops]
    exact ⟨root, List.mem_singleton_self root, fun t ht => List.mem_singleton.mp ht⟩

/-! ### Refusals -/

section Build

variable {types : List α} (concrete : List (α × α)) (hDistinct : types.Nodup)
  (hListed : ∀ s t, (s, t) ∈ edges → s ∈ types ∧ t ∈ types)
include hDistinct hListed

/-- A cycle is found wherever it lies, also if nothing leads from it to the top. -/
theorem build_of_hasCycle (hCycle : HasCycle edges) : build types edges concrete = .error .cycle := by
  rw [build_eq hDistinct hListed, (order?_eq_none_iff hListed).mpr hCycle]

/-- Without a cycle only the types at the top can be wrong. -/
theorem build_of_not_hasCycle (hAcyclic : ¬HasCycle edges) :
    build types edges concrete = .error (.roots (tops edges types)) ∨
      ∃ h, build types edges concrete = .ok h := by
  obtain ⟨order, hOrder⟩ := Option.ne_none_iff_exists'.mp (mt (order?_eq_none_iff hListed).mp hAcyclic)
  rw [build_eq hDistinct hListed, hOrder]
  dsimp only
  split
  · exact .inr ⟨_, rfl⟩
  · exact .inl rfl

/-- A hierarchy is built exactly when nothing is on a cycle and one type stands at the top. -/
theorem exists_build_eq_ok_iff :
    (∃ h, build types edges concrete = .ok h) ↔
      ¬HasCycle edges ∧ ∃! t, t ∈ types ∧ ∀ u, (t, u) ∉ edges := by
  rw [existsUnique_top_iff hDistinct, ← order?_eq_none_iff hListed, ← Ne, Option.ne_none_iff_exists']
  simp only [build_eq_ok_iff hDistinct hListed]
  constructor
  · rintro ⟨h, hOrder, hTops, _⟩
    exact ⟨⟨_, hOrder⟩, _, hTops⟩
  · rintro ⟨⟨order, hOrder⟩, root, hTops⟩
    exact ⟨⟨order, root, edges, concrete⟩, hOrder, hTops, rfl, rfl⟩

end Build

/-- A hierarchy of distinct types with edges between them is refused as inconsistent exactly if it has a cycle or
not exactly one type at the top. A cycle is what the refusal names then, whatever there is at the top; without
one it names the types at the top. All other hierarchies are built. -/
theorem build_refused_iff (types : List ColumnType) (edges concrete : List (ColumnType × ColumnType))
    (hDistinct : types.Nodup) (hListed : ∀ s t, (s, t) ∈ edges → s ∈ types ∧ t ∈ types) :
    ((∃ reason, (build types edges concrete).mapError Error.ofHierarchy = .error (.inconsistent reason)) ↔
      HasCycle edges ∨ ¬∃! t, t ∈ types ∧ ∀ u, (t, u) ∉ edges) ∧
    (HasCycle edges → build types edges concrete = .error .cycle) ∧
    (¬HasCycle edges → (¬∃! t, t ∈ types ∧ ∀ u, (t, u) ∉ edges) →
      build types edges concrete = .error (.roots (tops edges types))) ∧
    (¬HasCycle edges → (∃! t, t ∈ types ∧ ∀ u, (t, u) ∉ edges) →
      ∃ h, build types edges concrete = .ok h) := by
  have hBuilt := exists_build_eq_ok_iff concrete hDistinct hListed
  have hCycle := build_of_hasCycle concrete hDistinct hListed
  have hRoots : ¬HasCycle edges → (¬∃! t, t ∈ types ∧ ∀ u, (t, u) ∉ edges) →
      build types edges concrete = .error (.roots (tops edges types)) := by
    intro hAcyclic hTop
    refine (build_of_not_hasCycle concrete hDistinct hListed hAcyclic).resolve_right ?_
    intro hOk
    exact hTop (hBuilt.mp hOk).2
  refine ⟨⟨?_, ?_⟩, hCycle, hRoots, fun hAcyclic hTop => hBuilt.mpr ⟨hAcyclic, hTop⟩⟩
  · rintro ⟨reason, hReason⟩
    by_contra hFine
    obtain ⟨hAcyclic, hTop⟩ := not_or.mp hFine
    obtain ⟨h, hOk⟩ := hBuilt.mpr ⟨hAcyclic, not_not.mp hTop⟩
    rw [hOk] at hReason
    cases hReason
  · intro hWrong
    by_cases hHas : HasCycle edges
    · rw [hCycle hHas]
      exact ⟨_, rfl⟩
    · rw [hRoots hHas (hWrong.resolve_left hHas)]
      exact ⟨_, rfl⟩

/-- Two types that generalize each other, apart from the type at the top and the one below it. -/
theorem build_refused_of_cycle_apart :
    (∃ reason, (build [ColumnType.text, .date, .int, .float]
        [(.date, .text), (.int, .float), (.float, .int)] []).mapError Error.ofHierarchy =
          .error (.inconsistent reason)) ∧
      build [ColumnType.text, .date, .int, .float]
        [(.date, .text), (.int, .float), (.float, .int)] [] = .error .cycle := by
  have hCycle : HasCycle [(ColumnType.date, .text), (.int, .float), (.float, .int)] :=
    ⟨.int, .tail (.single (show (ColumnType.int, ColumnType.float) ∈ _ by decide))
      (show (ColumnType.float, ColumnType.int) ∈ _ by decide)⟩
  obtain ⟨hRefused, hNamed, _⟩ := build_refused_iff [ColumnType.text, .date, .int, .float]
    [(.date, .text), (.int, .float), (.float, .int)] [] (by decide) (by decide)
  exact ⟨hRefused.mpr (.inl hCycle), hNamed hCycle⟩

/-- Without an edge there is nothing below the one declared type, and two declared types are both at the top. -/
example : (build [ColumnType.int] [] []).isOk = true ∧
    build [ColumnType.int, .date] [] [] = .error (.roots [.int, .date]) := by
  decide

end CsvIntake.Hierarchy
