import CsvIntake.Proofs.TypeOrder

/-! The canonical order of a hierarchy. The order is made by taking, as long as types remain, the first
declared one to which no remaining type has an edge. So every type comes before its generalizations, and no
other such order is smaller by place of declaration. One pass over the types in this order finds all
generalizations of a type, and the last type generalizes all others. -/
namespace CsvIntake.Hierarchy

variable {α : Type} [DecidableEq α] {edges : List (α × α)}

/-- An order of some types in which every type comes before those that generalize it. -/
structure IsTopological (edges : List (α × α)) (types order : List α) : Prop where
  perm : order.Perm types
  before : ∀ s ∈ types, ∀ t ∈ types, (s, t) ∈ edges → order.idxOf s < order.idxOf t

theorem isReady_iff {remaining : List α} {t : α} :
    isReady edges remaining t = true ↔ ∀ s ∈ remaining, (s, t) ∉ edges := by
  simp [isReady]

/-! ### One step of ordering -/

namespace IsTopological

variable {remaining rest : List α} {t : α}

/-- A type that may come next stands in front of an order of the others. -/
theorem cons (ht : t ∈ remaining) (hReady : ∀ s ∈ remaining, (s, t) ∉ edges)
    (h : IsTopological edges (remaining.erase t) rest) : IsTopological edges remaining (t :: rest) where
  perm := (h.perm.cons t).trans (List.perm_cons_erase ht).symm
  before := by
    intro s hs u hu hEdge
    have hOther : u ≠ t := by
      rintro rfl
      exact hReady s hs hEdge
    rw [List.idxOf_cons_ne _ hOther.symm]
    by_cases hFirst : s = t
    · rw [hFirst, List.idxOf_cons_self]
      exact Nat.succ_pos _
    · rw [List.idxOf_cons_ne _ (Ne.symm hFirst)]
      exact Nat.succ_lt_succ (h.before s ((List.mem_erase_of_ne hFirst).mpr hs) u
        ((List.mem_erase_of_ne hOther).mpr hu) hEdge)

/-- The first type of an order may come next. -/
theorem not_mem_edges_head (h : IsTopological edges remaining (t :: rest)) :
    ∀ s ∈ remaining, (s, t) ∉ edges := by
  intro s hs hEdge
  have hBefore := h.before s hs t (h.perm.subset (List.mem_cons_self ..)) hEdge
  rw [List.idxOf_cons_self] at hBefore
  exact Nat.not_lt_zero _ hBefore

/-- The others are ordered among themselves. -/
theorem tail (hDistinct : remaining.Nodup) (h : IsTopological edges remaining (t :: rest)) :
    IsTopological edges (remaining.erase t) rest where
  perm := (List.cons_perm_iff_perm_erase.mp h.perm).2
  before := by
    intro s hs u hu hEdge
    -- as the types are distinct, none of the others is the first one, and their places move down by one
    obtain ⟨hNotFirst, hs⟩ := hDistinct.mem_erase_iff.mp hs
    obtain ⟨hOther, hu⟩ := hDistinct.mem_erase_iff.mp hu
    have hBefore := h.before s hs u hu hEdge
    rw [List.idxOf_cons_ne _ hNotFirst.symm, List.idxOf_cons_ne _ hOther.symm] at hBefore
    exact Nat.lt_of_succ_lt_succ hBefore

end IsTopological

/-- The first type that may come next is taken, and the others are ordered in the remaining steps. -/
theorem exists_of_orderSteps_succ {steps : Nat} {remaining order : List α}
    (hSteps : remaining.length = steps + 1) (h : orderSteps edges (steps + 1) remaining = some order) :
    ∃ t rest, remaining.find? (isReady edges remaining) = some t ∧ (remaining.erase t).length = steps ∧
      orderSteps edges steps (remaining.erase t) = some rest ∧ order = t :: rest := by
  rw [orderSteps] at h
  cases hFind : remaining.find? (isReady edges remaining) with
  | none => simp [hFind] at h
  | some t =>
      rw [hFind] at h
      obtain ⟨rest, hRest, rfl⟩ := Option.map_eq_some_iff.mp h
      refine ⟨t, rest, rfl, ?_, hRest, rfl⟩
      rw [List.length_erase_of_mem (List.mem_of_find?_eq_some hFind), hSteps, Nat.add_sub_cancel]

omit [DecidableEq α] in
/-- In a list that is ordered by `r`, what is found comes before everything else that could have been. -/
theorem eq_or_rel_of_find? {r : α → α → Prop} {p : α → Bool} {types : List α} {t u : α}
    (hOrdered : types.Pairwise r) (hFind : types.find? p = some t) (hu : u ∈ types) (hp : p u = true) :
    u = t ∨ r t u := by
  obtain ⟨_, front, back, rfl, hFront⟩ := List.find?_eq_some_iff_append.mp hFind
  obtain ⟨_, hBack, _⟩ := List.pairwise_append.mp hOrdered
  rcases List.mem_append.mp hu with hu | hu
  · have hNot := hFront u hu
    simp [hp] at hNot
  · exact (List.mem_cons.mp hu).imp_right (List.rel_of_pairwise_cons hBack)

/-! ### The whole order -/

/-- What is ordered in as many steps as there are types has every type before its generalizations. -/
theorem isTopological_of_orderSteps {steps : Nat} {remaining order : List α}
    (hSteps : remaining.length = steps) (h : orderSteps edges steps remaining = some order) :
    IsTopological edges remaining order := by
  induction steps generalizing remaining order with
  | zero =>
      obtain rfl := List.eq_nil_of_length_eq_zero hSteps
      obtain rfl := Option.some.inj h
      exact ⟨.nil, fun s hs => absurd hs List.not_mem_nil⟩
  | succ steps ih =>
      obtain ⟨t, rest, hFind, hLength, hRest, rfl⟩ := exists_of_orderSteps_succ hSteps h
      exact .cons (List.mem_of_find?_eq_some hFind) (isReady_iff.mp (List.find?_some hFind))
        (ih hLength hRest)

/-- If the types are declared in the order `r`, no other order of them comes lexicographically before the one
that is made, since the first type of the other one may come next too. -/
theorem eq_or_lex_of_orderSteps {r : α → α → Prop} {steps : Nat} {remaining order other : List α}
    (hDeclared : remaining.Pairwise r) (hDistinct : remaining.Nodup)
    (hSteps : remaining.length = steps) (h : orderSteps edges steps remaining = some order)
    (hOther : IsTopological edges remaining other) : order = other ∨ List.Lex r order other := by
  induction steps generalizing remaining order other with
  | zero =>
      obtain rfl := List.eq_nil_of_length_eq_zero hSteps
      obtain rfl := Option.some.inj h
      exact .inl hOther.perm.eq_nil.symm
  | succ steps ih =>
      obtain ⟨t, rest, hFind, hLength, hRest, rfl⟩ := exists_of_orderSteps_succ hSteps h
      cases other with
      | nil => exact absurd (hOther.perm.mem_iff.mpr (List.mem_of_find?_eq_some hFind)) List.not_mem_nil
      | cons u others =>
          have hu : u ∈ remaining := hOther.perm.subset (List.mem_cons_self ..)
          have hReady : isReady edges remaining u = true := isReady_iff.mpr hOther.not_mem_edges_head
          -- either both orders begin alike, or the one that is made begins with a type declared before
          rcases eq_or_rel_of_find? hDeclared hFind hu hReady with rfl | hLater
          · exact (ih (hDeclared.sublist List.erase_sublist) (hDistinct.erase u) hLength hRest
              (hOther.tail hDistinct)).imp (congrArg _) .cons
          · exact .inr (.rel hLater)

/-! ### Generalizations -/

theorem reachedFrom_sublist (edges : List (α × α)) (reached types : List α) :
    (reachedFrom edges reached types).Sublist types := by
  induction types generalizing reached with
  | nil => exact .slnil
  | cons t types ih =>
      rw [reachedFrom]
      split
      · exact (ih _).cons_cons t
      · exact (ih _).cons t

/-- A type to which an edge leads from a reached one is reached. -/
theorem mem_reachedFrom_of_edge {reached types : List α} {s t : α} (hs : s ∈ reached) (ht : t ∈ types)
    (hEdge : (s, t) ∈ edges) : t ∈ reachedFrom edges reached types := by
  induction types generalizing reached with
  | nil => cases ht
  | cons u types ih =>
      rw [reachedFrom]
      split
      · rcases List.mem_cons.mp ht with rfl | ht
        · exact List.mem_cons_self ..
        · exact List.mem_cons_of_mem _ (ih (List.mem_cons_of_mem _ hs) ht)
      · rename_i hNone
        rcases List.mem_cons.mp ht with rfl | ht
        · exact absurd (List.any_eq_true.mpr ⟨s, hs, by simpa using hEdge⟩) hNone
        · exact ih hs ht

/-- Where edges lead forwards only, the types that are reached are closed under them: when a type is met, all
types with edges to it have been met before. -/
theorem mem_reachedFrom_of_mem {reached types : List α} {s t : α}
    (hForward : types.Pairwise fun a b => (b, a) ∉ edges) (hLoop : ∀ a ∈ types, (a, a) ∉ edges)
    (hs : s ∈ reachedFrom edges reached types) (ht : t ∈ types) (hEdge : (s, t) ∈ edges) :
    t ∈ reachedFrom edges reached types := by
  induction types generalizing reached with
  | nil => cases ht
  | cons u types ih =>
      obtain ⟨hFirst, hForward⟩ := List.pairwise_cons.mp hForward
      obtain ⟨hNoLoop, hLoop⟩ := List.forall_mem_cons.mp hLoop
      -- the edge does not lead back to the type in front
      have hLater : t ∈ types := by
        refine (List.mem_cons.mp ht).resolve_left ?_
        rintro rfl
        rcases List.mem_cons.mp ((reachedFrom_sublist ..).subset hs) with rfl | hs
        · exact hNoLoop hEdge
        · exact hFirst s hs hEdge
      rw [reachedFrom] at hs ⊢
      split at hs
      · rename_i hReached
        rw [if_pos hReached]
        apply List.mem_cons_of_mem
        rcases List.mem_cons.mp hs with rfl | hs
        · exact mem_reachedFrom_of_edge (List.mem_cons_self ..) hLater hEdge
        · exact ih hForward hLoop hs hLater
      · rename_i hReached
        rw [if_neg hReached]
        exact ih hForward hLoop hs hLater

namespace IsTopological

variable {types order : List α} {s t : α}

theorem irrefl (h : IsTopological edges types order) (ht : t ∈ types) : (t, t) ∉ edges :=
  fun hEdge => lt_irrefl _ (h.before t ht t ht hEdge)

/-- In a topological order no edge leads from a later type to an earlier one. -/
theorem pairwise (hDistinct : types.Nodup) (h : IsTopological edges types order) :
    order.Pairwise fun a b => (b, a) ∉ edges := by
  have hOrder : order.Nodup := h.perm.nodup_iff.mpr hDistinct
  rw [List.pairwise_iff_getElem]
  intro i j hi hj hLt hEdge
  have hBefore := h.before _ (h.perm.subset (List.getElem_mem hj)) _ (h.perm.subset (List.getElem_mem hi)) hEdge
  rw [hOrder.idxOf_getElem, hOrder.idxOf_getElem] at hBefore
  omega

end IsTopological

/-- The types that nothing generalizes. -/
def tops (edges : List (α × α)) (types : List α) : List α :=
  types.filter fun t => !edges.any fun e => e.1 == t

theorem mem_tops_iff {types : List α} {t : α} :
    t ∈ tops edges types ↔ t ∈ types ∧ ∀ u, (t, u) ∉ edges := by
  rw [tops, List.mem_filter]
  refine and_congr_right fun _ => ?_
  simp only [Bool.not_eq_true', List.any_eq_false, beq_iff_eq, Prod.forall]
  constructor
  · intro h u hEdge
    exact h t u hEdge rfl
  · rintro h s u hEdge rfl
    exact h u hEdge

section Ordered

variable {types order : List α} (hListed : ∀ s t, (s, t) ∈ edges → s ∈ types ∧ t ∈ types)
  (hOrder : IsTopological edges types order)
include hListed hOrder

/-- In an order with generalizations last, one pass finds exactly the types to which a chain of edges leads. -/
theorem mem_reachedFrom_iff (hDistinct : types.Nodup) {s t : α} :
    t ∈ reachedFrom edges [s] order ↔ Relation.TransGen (Edge edges) s t := by
  have hMem : ∀ {u v}, (u, v) ∈ edges → v ∈ order := fun hEdge =>
    hOrder.perm.mem_iff.mpr (hListed _ _ hEdge).2
  constructor
  · intro ht
    obtain ⟨u, hu, hChain⟩ := transGen_of_mem_reachedFrom ht
    rwa [List.mem_singleton.mp hu] at hChain
  · intro hChain
    induction hChain with
    | single hEdge => exact mem_reachedFrom_of_edge (List.mem_singleton_self s) (hMem hEdge) hEdge
    | tail _ hEdge ih =>
        exact mem_reachedFrom_of_mem (hOrder.pairwise hDistinct)
          (fun a ha => hOrder.irrefl (hOrder.perm.subset ha)) ih (hMem hEdge) hEdge

variable {root : α} (hTop : tops edges types = [root])
include hTop

/-- Nothing generalizes the last type of an order. -/
theorem getLast?_eq_of_tops (hDistinct : types.Nodup) : order.getLast? = some root := by
  have hRoot : root ∈ order := hOrder.perm.mem_iff.mpr
    (mem_tops_iff.mp (hTop ▸ List.mem_singleton_self root)).1
  obtain ⟨front, last, rfl⟩ := (List.eq_nil_or_concat' order).resolve_left (List.ne_nil_of_mem hRoot)
  have hLast : last ∈ types := hOrder.perm.subset (by simp)
  have hBack := (List.pairwise_append.mp (hOrder.pairwise hDistinct)).2.2
  -- an edge from the last type would lead back to an earlier one or to itself
  have hNone : ∀ u, (last, u) ∉ edges := by
    intro u hEdge
    rcases List.mem_append.mp (hOrder.perm.mem_iff.mpr (hListed _ _ hEdge).2) with hu | hu
    · exact hBack u hu last (List.mem_singleton_self last) hEdge
    · rw [List.mem_singleton.mp hu] at hEdge
      exact hOrder.irrefl hLast hEdge
  have hOnly : last ∈ [root] := hTop ▸ mem_tops_iff.mpr ⟨hLast, hNone⟩
  rw [List.getLast?_concat, List.mem_singleton.mp hOnly]

/-- From every other type a chain of edges leads to the top, since each edge leads on in the order. -/
theorem transGen_of_tops {t : α} (ht : t ∈ types) (hOther : t ≠ root) :
    Relation.TransGen (Edge edges) t root := by
  -- the induction is on how far the type is from the end of the order
  induction hDistance : order.length - order.idxOf t using Nat.strong_induction_on generalizing t with
  | _ distance ih =>
      have hNotTop : t ∉ tops edges types := by simpa [hTop] using hOther
      obtain ⟨u, hEdge⟩ : ∃ u, (t, u) ∈ edges := by
        by_contra hNone
        exact hNotTop (mem_tops_iff.mpr ⟨ht, fun u hEdge => hNone ⟨u, hEdge⟩⟩)
      have hu := (hListed t u hEdge).2
      by_cases hRoot : u = root
      · exact .single (hRoot ▸ hEdge)
      · have hBefore := hOrder.before t ht u hu hEdge
        have hInside : order.idxOf u < order.length :=
          List.idxOf_lt_length_of_mem (hOrder.perm.mem_iff.mpr hu)
        exact .head hEdge (ih _ (by omega) hu hRoot rfl)

end Ordered

/-! ### Building a hierarchy -/

theorem eraseDups_of_nodup {types : List α} (h : types.Nodup) : types.eraseDups = types := by
  induction types with
  | nil => rfl
  | cons t types ih =>
      obtain ⟨ht, hTypes⟩ := List.nodup_cons.mp h
      have hOthers : types.filter (fun u => !u == t) = types := by
        rw [List.filter_eq_self]
        intro u hu
        simpa using ne_of_mem_of_not_mem hu ht
      rw [List.eraseDups_cons, hOthers, ih hTypes]

section Build

variable {types : List α} {concrete : List (α × α)} (hDistinct : types.Nodup)
  (hListed : ∀ s t, (s, t) ∈ edges → s ∈ types ∧ t ∈ types)
include hDistinct hListed

/-- Of distinct types and edges between them only the order and the types at the top matter. -/
theorem build_eq :
    build types edges concrete =
      match order? edges types with
      | none => .error .cycle
      | some ordered =>
        match tops edges types with
        | [root] => .ok ⟨ordered, root, edges, concrete⟩
        | found => .error (.roots found) := by
  have hDeclared : types.reverse.eraseDups.reverse = types := by
    rw [eraseDups_of_nodup (List.nodup_reverse.mpr hDistinct), List.reverse_reverse]
  have hUndeclared : (edges.flatMap fun e => [e.1, e.2]).eraseDups.filter
      (fun t => !types.contains t) = [] := by
    rw [List.filter_eq_nil_iff]
    intro t ht
    rw [List.mem_eraseDups, List.mem_flatMap] at ht
    obtain ⟨⟨u, v⟩, hEdge, ht⟩ := ht
    have hMem : t ∈ types := by
      rcases List.mem_pair.mp ht with rfl | rfl
      · exact (hListed _ _ hEdge).1
      · exact (hListed _ _ hEdge).2
    simpa using hMem
  rw [build]
  simp only [hDeclared, hUndeclared, List.append_nil]
  rfl

/-- A hierarchy is built from the order of its types and the one type at the top. -/
theorem build_eq_ok_iff {h : Hierarchy α} :
    build types edges concrete = .ok h ↔
      order? edges types = some h.ordered ∧ tops edges types = [h.root] ∧
        h.edges = edges ∧ h.concrete = concrete := by
  obtain ⟨ordered, root, built, made⟩ := h
  rw [build_eq hDistinct hListed]
  cases order? edges types with
  | none => simp
  | some order =>
      match tops edges types with
      | [] => simp
      | [top] => simp [eq_comm]
      | _ :: _ :: _ => simp

end Build

/-- A hierarchy that is built of distinct types and edges between them has every type before its
generalizations, and of all such orders the lexicographically least one by place of declaration. The ancestors
of a type are exactly the types that a chain of edges leads to, each once and in that order. The type at the
top is the last one and an ancestor of all others. -/
theorem build_canonical (types : List α) (edges concrete : List (α × α)) (h : Hierarchy α)
    (hDistinct : types.Nodup) (hListed : ∀ s t, (s, t) ∈ edges → s ∈ types ∧ t ∈ types)
    (hBuilt : build types edges concrete = .ok h) :
    IsTopological edges types h.ordered ∧
    (∀ other, IsTopological edges types other →
      h.ordered = other ∨ List.Lex (fun s t => types.idxOf s < types.idxOf t) h.ordered other) ∧
    (∀ t ∈ types, (h.ancestors t).Sublist h.ordered ∧ (h.ancestors t).Nodup ∧
      ∀ s, s ∈ h.ancestors t ↔ Relation.TransGen (Edge edges) t s) ∧
    h.ordered.getLast? = some h.root ∧ ∀ t ∈ types, t ≠ h.root → h.root ∈ h.ancestors t := by
  obtain ⟨hSteps, hTop, rfl, -⟩ := (build_eq_ok_iff hDistinct hListed).mp hBuilt
  have hOrder : IsTopological h.edges types h.ordered := isTopological_of_orderSteps rfl hSteps
  have hDeclared : types.Pairwise fun s t => types.idxOf s < types.idxOf t := by
    rw [List.pairwise_iff_getElem]
    intro i j hi hj hLt
    rwa [hDistinct.idxOf_getElem, hDistinct.idxOf_getElem]
  have hAncestors : ∀ s t, s ∈ h.ancestors t ↔ Relation.TransGen (Edge h.edges) t s := fun s t =>
    mem_reachedFrom_iff hListed hOrder hDistinct
  refine ⟨hOrder, fun other hOther => ?_, fun t _ => ?_, ?_, fun t ht hOther => ?_⟩
  · exact eq_or_lex_of_orderSteps hDeclared hDistinct rfl hSteps hOther
  · have hSublist : (h.ancestors t).Sublist h.ordered := reachedFrom_sublist ..
    exact ⟨hSublist, hSublist.nodup (hOrder.perm.nodup_iff.mpr hDistinct), fun s => hAncestors s t⟩
  · exact getLast?_eq_of_tops hListed hOrder hTop hDistinct
  · exact (hAncestors _ t).mpr (transGen_of_tops hListed hOrder hTop ht hOther)

/-- Five types, declared with the most general one first, and an edge that is given twice. With `boolean` in
the second place children would come first too, but that order is not the least one. -/
theorem build_canonical_of_five_types :
    ∃ h, build [ColumnType.text, .float, .int, .boolean, .booleanOrInt]
        [(.booleanOrInt, .int), (.booleanOrInt, .boolean), (.int, .float), (.float, .text),
          (.boolean, .text), (.int, .float)] [] = .ok h ∧
      h.ordered = [.booleanOrInt, .int, .float, .boolean, .text] ∧
      List.Lex (fun s t => [ColumnType.text, .float, .int, .boolean, .booleanOrInt].idxOf s <
          [ColumnType.text, .float, .int, .boolean, .booleanOrInt].idxOf t)
        h.ordered [.booleanOrInt, .boolean, .int, .float, .text] ∧
      ColumnType.text ∈ h.ancestors .booleanOrInt ∧ ColumnType.boolean ∉ h.ancestors .int ∧
      h.ordered.getLast? = some h.root := by
  have hBuilt : build [ColumnType.text, .float, .int, .boolean, .booleanOrInt]
      [(.booleanOrInt, .int), (.booleanOrInt, .boolean), (.int, .float), (.float, .text),
        (.boolean, .text), (.int, .float)] [] =
        .ok ⟨[.booleanOrInt, .int, .float, .boolean, .text], .text, _, []⟩ := rfl
  obtain ⟨_, hLeast, _, hLast, hRoot⟩ :=
    build_canonical _ _ _ _ (by decide) (by decide) hBuilt
  refine ⟨_, hBuilt, rfl, ?_, hRoot _ (by decide) (by decide), by decide, hLast⟩
  exact (hLeast _ ⟨by decide, by decide⟩).resolve_left (by decide)

end CsvIntake.Hierarchy
