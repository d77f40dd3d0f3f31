import CsvIntake.Schema
import Mathlib.Data.List.Nodup

/-! Mappings from names. A name that is entered again keeps its place, so the names of a mapping stay distinct,
and of the entries of a name the latest one is found. -/
namespace CsvIntake

theorem lookup_singleton {name other : Text} {α : Type} (a : α) :
    List.lookup other [(name, a)] = if other = name then some a else none := by
  by_cases h : other = name
  · simp [h]
  · rw [List.lookup_cons, beq_eq_false_iff_ne.mpr h, if_neg h]
    rfl

namespace NameMap

variable {α β : Type}

/-! ### Names and entries -/

theorem put_of_not_mem {m : NameMap α} {name : Text} (h : name ∉ names m) (entry : α) :
    put m name entry = m ++ [(name, entry)] := by
  induction m with
  | nil => rfl
  | cons pair rest ih =>
      rw [names, List.map_cons, List.mem_cons, not_or] at h
      rw [put, if_neg (Ne.symm h.1), ih h.2, List.cons_append]

/-- Entering pairs with new and distinct names puts them at the end. -/
theorem foldl_put {m other : NameMap α} (hDistinct : (names other).Nodup)
    (hNew : ∀ name ∈ names other, name ∉ names m) :
    other.foldl (fun m pair => put m pair.1 pair.2) m = m ++ other := by
  induction other generalizing m with
  | nil => simp
  | cons pair rest ih =>
      obtain ⟨hFirst, hRest⟩ := List.nodup_cons.mp hDistinct
      rw [List.foldl_cons, put_of_not_mem (hNew _ (List.mem_cons_self ..)), ih hRest]
      · simp
      · intro name hMem hAgain
        rw [names, List.map_append, List.mem_append] at hAgain
        rcases hAgain with hAgain | hAgain
        · exact hNew name (List.mem_cons_of_mem _ hMem) hAgain
        · rw [List.map_singleton, List.mem_singleton] at hAgain
          exact hFirst (hAgain ▸ hMem)

/-- Pairs of distinct names are a map as they stand. -/
theorem ofPairs_of_nodup {pairs : NameMap α} (h : (names pairs).Nodup) : ofPairs pairs = pairs := by
  rw [ofPairs, foldl_put h fun _ _ => List.not_mem_nil, List.nil_append]

theorem mem_put {m : NameMap α} {name : Text} {entry : α} {pair : Text × α}
    (h : pair ∈ put m name entry) : pair = (name, entry) ∨ pair ∈ m := by
  induction m with
  | nil => exact .inl (List.mem_singleton.mp h)
  | cons first rest ih =>
      rw [put] at h
      split at h
      · rename_i hSame
        rcases List.mem_cons.mp h with rfl | h
        · exact .inl (by rw [hSame])
        · exact .inr (List.mem_cons_of_mem _ h)
      · rcases List.mem_cons.mp h with rfl | h
        · exact .inr (List.mem_cons_self ..)
        · exact (ih h).imp_right (List.mem_cons_of_mem _)

theorem mem_foldl_put {m : NameMap α} {pairs : List (Text × α)} {pair : Text × α}
    (h : pair ∈ pairs.foldl (fun m pair => put m pair.1 pair.2) m) : pair ∈ m ∨ pair ∈ pairs := by
  induction pairs generalizing m with
  | nil => exact .inl h
  | cons first rest ih =>
      rcases ih h with hPut | hRest
      · rcases mem_put hPut with hFirst | hOld
        · exact .inr (hFirst ▸ List.mem_cons_self ..)
        · exact .inl hOld
      · exact .inr (List.mem_cons_of_mem _ hRest)

theorem mem_of_mem_ofPairs {pairs : List (Text × α)} {pair : Text × α} (h : pair ∈ ofPairs pairs) :
    pair ∈ pairs :=
  (mem_foldl_put h).resolve_left List.not_mem_nil

/-- In a map of distinct names a name looks up the entry that stands beside it. -/
theorem lookup_eq_some_iff {m : NameMap α} (h : (names m).Nodup) {name : Text} {entry : α} :
    m.lookup name = some entry ↔ (name, entry) ∈ m := by
  induction m with
  | nil => simp
  | cons pair rest ih =>
      obtain ⟨first, value⟩ := pair
      obtain ⟨hFirst, hRest⟩ := List.nodup_cons.mp h
      rw [List.lookup_cons, List.mem_cons]
      by_cases hSame : name = first
      · subst hSame
        have hAbsent : (name, entry) ∉ rest := by
          intro hMem
          have hName : (name, entry).1 ∈ rest.map Prod.fst := List.mem_map_of_mem hMem
          exact hFirst hName
        simp [hAbsent, eq_comm]
      · rw [beq_eq_false_iff_ne.mpr hSame]
        simp [hSame, ih hRest]

/-- Entries of distinct names are found whatever their order. -/
theorem lookup_eq_of_perm {m other : NameMap α} (h : other.Perm m) (hDistinct : (names m).Nodup)
    (name : Text) : other.lookup name = m.lookup name := by
  have hOther : (names other).Nodup := (h.map Prod.fst).nodup_iff.mpr hDistinct
  apply Option.ext
  intro entry
  rw [lookup_eq_some_iff hDistinct, lookup_eq_some_iff hOther, h.mem_iff]

theorem lookup_eq_none_iff {m : NameMap α} {name : Text} : m.lookup name = none ↔ name ∉ names m := by
  rw [List.lookup_eq_none_iff, names, List.mem_map]
  constructor
  · rintro h ⟨pair, hMem, rfl⟩
    exact absurd rfl (bne_iff_ne.mp (h pair hMem))
  · intro h pair hMem
    rw [bne_iff_ne]
    rintro rfl
    exact h ⟨pair, hMem, rfl⟩

theorem lookup_map (f : α → β) (m : NameMap α) (name : Text) :
    List.lookup name (m.map fun pair => (pair.1, f pair.2)) = (m.lookup name).map f := by
  induction m with
  | nil => rfl
  | cons pair rest ih =>
      rw [List.map_cons, List.lookup_cons, List.lookup_cons]
      cases name == pair.1 with
      | true => rfl
      | false => exact ih

/-! ### Mappings entered one after the other -/

theorem names_put_of_mem {m : NameMap α} {name : Text} (h : name ∈ names m) (entry : α) :
    names (put m name entry) = names m := by
  induction m with
  | nil => cases h
  | cons pair rest ih =>
      rw [put]
      split
      · rfl
      · rename_i hOther
        rw [names, List.map_cons, List.mem_cons] at h
        exact congrArg (pair.1 :: ·) (ih (h.resolve_left (Ne.symm hOther)))

/-- Entering a name keeps the names distinct. -/
theorem nodup_names_put {m : NameMap α} (h : (names m).Nodup) (name : Text) (entry : α) :
    (names (put m name entry)).Nodup := by
  by_cases hKnown : name ∈ names m
  · rw [names_put_of_mem hKnown]
    exact h
  · rw [put_of_not_mem hKnown, names, List.map_append]
    exact h.append (List.nodup_singleton name) (List.disjoint_singleton.mpr hKnown)

/-- Taking up another map keeps the names distinct. -/
theorem nodup_names_updated {m : NameMap α} (h : (names m).Nodup) (other : NameMap α) :
    (names (updated m other)).Nodup := by
  induction other generalizing m with
  | nil => exact h
  | cons pair rest ih => exact ih (nodup_names_put h pair.1 pair.2)

/-- An entry that is put is found under its name, and hides no other. -/
theorem lookup_put (m : NameMap α) (name other : Text) (entry : α) :
    (put m name entry).lookup other = if other = name then some entry else m.lookup other := by
  by_cases hSame : other = name
  · rw [hSame, lookup_put_self, if_pos rfl]
  · rw [lookup_put_of_ne m entry hSame, if_neg hSame]

/-- The entry of a name, the latest one if the name is entered several times. -/
def latest? (m : NameMap α) (name : Text) : Option α := m.reverse.lookup name

/-- Of the entries of two mappings the later ones are found. -/
theorem lookup_updated_eq_latest (m other : NameMap α) (name : Text) :
    (updated m other).lookup name = (latest? other name).or (m.lookup name) := by
  induction other generalizing m with
  | nil => rfl
  | cons pair rest ih =>
      obtain ⟨first, entry⟩ := pair
      have hLater : (updated m ((first, entry) :: rest)).lookup name =
          (latest? rest name).or ((put m first entry).lookup name) := ih _
      have hLatest : latest? ((first, entry) :: rest) name =
          (latest? rest name).or (if name = first then some entry else none) := by
        rw [latest?, List.reverse_cons, List.lookup_append, lookup_singleton]
        rfl
      rw [hLater, hLatest, lookup_put, Option.or_assoc]
      split <;> rfl

/-- After an update a name looks up the entry of the update, and without one the entry from before. -/
theorem lookup_updated (m : NameMap α) {other : NameMap α} (hDistinct : (names other).Nodup)
    (name : Text) : (updated m other).lookup name = (other.lookup name).or (m.lookup name) := by
  rw [lookup_updated_eq_latest, latest?, lookup_eq_of_perm other.reverse_perm hDistinct]

end NameMap

end CsvIntake
