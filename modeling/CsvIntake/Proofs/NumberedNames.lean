import CsvIntake.Proofs.ColumnNames

/-! The numbering of repeated names. Each name that came before gets a number, the least one with which it is
neither a given name nor one made before. The search for it tries one number after the other and has no bound
of its own: it ends since only so many names are taken. -/
namespace CsvIntake

/-! ### The search for a number -/

/-- The search that starts with one number stops at another: it goes on as long as the name with the number is
taken. -/
inductive SearchStops (taken : List Text) (name : Text) : Nat → Nat → Prop where
  | here {k : Nat} (free : numbered name k ∉ taken) : SearchStops taken name k k
  | later {k last : Nat} (used : numbered name k ∈ taken) (rest : SearchStops taken name (k + 1) last) :
      SearchStops taken name k last

/-- The search stops at the least number whose name is not taken. -/
theorem searchStops_of_isLeast {taken : List Text} {name : Text} {start last : Nat}
    (h : IsLeast {k | start ≤ k ∧ numbered name k ∉ taken} last) : SearchStops taken name start last := by
  obtain ⟨⟨hStart, hFree⟩, hLeast⟩ := h
  obtain ⟨count, rfl⟩ := Nat.exists_eq_add_of_le hStart
  induction count generalizing start with
  | zero => exact .here hFree
  | succ count ih =>
      have hShift : start + (count + 1) = start + 1 + count := by omega
      rw [hShift] at hFree hLeast ⊢
      have hUsed : numbered name start ∈ taken := by
        by_contra hFirst
        have := hLeast ⟨Nat.le_refl start, hFirst⟩
        omega
      refine .later hUsed (ih ?_ (Nat.le_add_right ..) hFree)
      rintro k ⟨hk, hOther⟩
      exact hLeast ⟨by omega, hOther⟩

/-! ### The number of each name -/

/-- The number that a repeated name gets is the least one from two on with which it is neither a taken name
nor one made before. -/
def IsLeastFree (taken made : List Text) (name : Text) (k : Nat) : Prop :=
  IsLeast {k | 2 ≤ k ∧ numbered name k ∉ taken ∧ numbered name k ∉ made} k

theorem isLeastFree_congr {taken others made before : List Text} {name : Text} {k : Nat}
    (h : ∀ candidate, candidate ∉ taken ∧ candidate ∉ made ↔ candidate ∉ others ∧ candidate ∉ before) :
    IsLeastFree taken made name k ↔ IsLeastFree others before name k := by
  simp only [IsLeastFree, h]

section Names

variable {taken seen names : List Text} {given name : Text} {i : Nat}

/-- A name that was seen gets the least free number, and the numbered name is taken from then on. -/
theorem uniquifyFrom_of_seen (h : given ∈ seen) :
    uniquifyFrom taken seen (given :: names) =
      numbered given (leastFreeNumber taken given) ::
        uniquifyFrom (numbered given (leastFreeNumber taken given) :: taken)
          (numbered given (leastFreeNumber taken given) :: seen) names := by
  rw [uniquifyFrom, if_pos (List.contains_iff_mem.mpr h)]

/-- A name that is new stays, and is seen from then on. -/
theorem uniquifyFrom_of_new (h : given ∉ seen) :
    uniquifyFrom taken seen (given :: names) = given :: uniquifyFrom taken (given :: seen) names := by
  rw [uniquifyFrom, if_neg (by simpa using h)]

/-- No name that is still to come is made: it is taken, and a made name was free. -/
theorem ne_numbered_leastFreeNumber (h : name ∈ taken) (given : Text) :
    name ≠ numbered given (leastFreeNumber taken given) := by
  rintro rfl
  exact numbered_leastFreeNumber_not_mem taken given h

/-- A name that has not been seen stays. -/
theorem getElem?_uniquifyFrom_of_new (hNames : names ⊆ taken) (hName : names[i]? = some name)
    (hSeen : name ∉ seen) (hBefore : name ∉ names.take i) :
    (uniquifyFrom taken seen names)[i]? = some name := by
  induction names generalizing taken seen i with
  | nil => cases hName
  | cons given names ih =>
      obtain ⟨_, hLater⟩ := List.cons_subset.mp hNames
      cases i with
      | zero =>
          obtain rfl := Option.some.inj hName
          rw [uniquifyFrom_of_new hSeen]
          rfl
      | succ i =>
          rw [List.take_succ_cons, List.mem_cons, not_or] at hBefore
          by_cases hGiven : given ∈ seen
          · have hMade := ne_numbered_leastFreeNumber (hLater (List.mem_of_getElem? hName)) given
            rw [uniquifyFrom_of_seen hGiven]
            exact ih (List.subset_cons_of_subset _ hLater) hName
              (List.not_mem_cons_of_ne_of_not_mem hMade hSeen) hBefore.2
          · rw [uniquifyFrom_of_new hGiven]
            exact ih hLater hName (List.not_mem_cons_of_ne_of_not_mem hBefore.1 hSeen) hBefore.2

/-- A name that has been seen gets its least free number. -/
theorem getElem?_uniquifyFrom_of_seen (hNames : names ⊆ taken) (hName : names[i]? = some name)
    (hSeen : name ∈ seen ∨ name ∈ names.take i) :
    ∃ k, IsLeastFree taken ((uniquifyFrom taken seen names).take i) name k ∧
      (uniquifyFrom taken seen names)[i]? = some (numbered name k) := by
  induction names generalizing taken seen i with
  | nil => cases hName
  | cons given names ih =>
      obtain ⟨hGivenTaken, hLater⟩ := List.cons_subset.mp hNames
      cases i with
      | zero =>
          obtain rfl := Option.some.inj hName
          have hGiven : given ∈ seen := by simpa using hSeen
          rw [uniquifyFrom_of_seen hGiven]
          refine ⟨leastFreeNumber taken given, ?_, rfl⟩
          simpa [IsLeastFree] using isLeast_leastFreeNumber taken given
      | succ i =>
          rw [List.take_succ_cons, List.mem_cons] at hSeen
          -- one step further the first name has been seen, and so have all names seen before
          have hAgain {after : List Text} (hGrows : seen ⊆ after) (hGiven : given ∈ after) :
              name ∈ after ∨ name ∈ names.take i := by
            rcases hSeen with hSeen | rfl | hBefore
            · exact .inl (hGrows hSeen)
            · exact .inl hGiven
            · exact .inr hBefore
          by_cases hGiven : given ∈ seen
          · obtain ⟨k, hLeast, hMade⟩ := ih (List.subset_cons_of_subset _ hLater) hName
              (hAgain (List.subset_cons_self ..) (List.mem_cons_of_mem _ hGiven))
            rw [uniquifyFrom_of_seen hGiven]
            refine ⟨k, (isLeastFree_congr fun candidate => ?_).mp hLeast, hMade⟩
            simp only [List.take_succ_cons, List.mem_cons, not_or]
            tauto
          · obtain ⟨k, hLeast, hMade⟩ := ih hLater hName
              (hAgain (List.subset_cons_self ..) (List.mem_cons_self ..))
            rw [uniquifyFrom_of_new hGiven]
            refine ⟨k, (isLeastFree_congr fun candidate => ?_).mp hLeast, hMade⟩
            -- a name that stays is taken, so it is excluded already
            have hStays : candidate ∉ taken → candidate ≠ given := by
              rintro hFree rfl
              exact hFree hGivenTaken
            simp only [List.take_succ_cons, List.mem_cons, not_or]
            tauto

/-- A later occurrence of a name is numbered with the least number that is free there. -/
theorem getElem?_uniquify_of_repeated (hName : names[i]? = some name) (hBefore : name ∈ names.take i) :
    ∃ k, IsLeastFree names ((uniquify names).take i) name k ∧
      (uniquify names)[i]? = some (numbered name k) :=
  getElem?_uniquifyFrom_of_seen (List.Subset.refl names) hName (.inr hBefore)

end Names

/-- Numbering gives as many names as there are, and no two of them are equal. The first of equal names stays. Each
later one gets the number at which the search from two on stops: the least one with which the name is neither a
given one, be it earlier or later, nor one made before. Distinct names stay as they are, so numbering the names
again changes nothing. -/
theorem uniquify_exact (names : List Text) :
    (uniquify names).length = names.length ∧
    (uniquify names).Nodup ∧
    (∀ i name, names[i]? = some name → name ∉ names.take i → (uniquify names)[i]? = some name) ∧
    (∀ i name, names[i]? = some name → name ∈ names.take i → ∃ k,
      SearchStops (names ++ (uniquify names).take i) name 2 k ∧
      IsLeastFree names ((uniquify names).take i) name k ∧
      (uniquify names)[i]? = some (numbered name k)) ∧
    (names.Nodup → uniquify names = names) ∧
    uniquify (uniquify names) = uniquify names := by
  have hDistinct := nodup_uniquify names
  refine ⟨length_uniquifyFrom names [] names, hDistinct, ?_, ?_, uniquify_of_nodup,
    uniquify_of_nodup hDistinct⟩
  · intro i name hName hFirst
    exact getElem?_uniquifyFrom_of_new (List.Subset.refl names) hName List.not_mem_nil hFirst
  · intro i name hName hRepeated
    obtain ⟨k, hLeast, hMade⟩ := getElem?_uniquify_of_repeated hName hRepeated
    refine ⟨k, searchStops_of_isLeast ?_, hLeast, hMade⟩
    simpa only [IsLeastFree, List.mem_append, not_or] using hLeast

/-- The second `a` may not take the name of a later column, nor the second `a_2` one that was made before. -/
example : uniquify (["a", "a", "a_2", "a_2", "a", "a_3"].map String.toList) =
    ["a", "a_4", "a_2", "a_2_2", "a_5", "a_3"].map String.toList := by
  decide +kernel

end CsvIntake
