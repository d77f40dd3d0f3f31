import CsvIntake.Proofs.TimedNames
import Mathlib.Data.List.Chain

/-! The names that one clock gives. Each reading of a clock is in a later second than the one before,
whatever the wall clock shows, and no reading is behind the wall clock. So the names that are made with
the readings of one clock are distinct. A clock fails only in the last second of the calendar. -/
namespace CsvIntake

/-- A name that is to be made unique, and how long it may become. -/
structure NameRequest where
  name : Text
  maxLength : Nat
  deriving DecidableEq, Repr

/-- The answer to a request: the name, the reading of the clock in it, and what the wall clock showed. -/
structure GivenName where
  request : NameRequest
  wall : DateTime
  reading : DateTime
  name : Text
  deriving DecidableEq, Repr

namespace Clock

/-- The names that a clock gives to requests in a row. A request that fails leaves the clock as it is. -/
def giveNames (clock : Clock) : List NameRequest → List GivenName
  | [] => []
  | request :: requests =>
    match uniqueTableName clock request.name request.maxLength with
    | .error _ => clock.giveNames requests
    | .ok (name, next) =>
      ⟨request, clock.wall.current, next.last, name⟩ :: next.giveNames requests

/-- One reading of a clock is in a later second than the last one and not behind the wall clock, and it
leaves the next wall reading to the reading after it. -/
structure Ticks (clock next : Clock) : Prop where
  later : clock.last.seconds < next.last.seconds
  not_behind : clock.wall.current.microseconds ≤ next.last.microseconds
  wall : next.wall = clock.wall.next

/-- A clock ticks on, unless it stands at the last second of the calendar. -/
theorem tick_cases (clock : Clock) :
    clock.last.IsLastSecond ∧ clock.tick = .error .clockExhausted ∨
      ∃ next, clock.tick = .ok (next.last, next) ∧ clock.Ticks next := by
  rw [tick]
  cases hFloor : clock.last.nextSecond? with
  | none => exact .inl ⟨DateTime.nextSecond?_eq_none_iff.mp hFloor, rfl⟩
  | some floor =>
      right
      refine ⟨⟨clock.wall.current.later floor, clock.wall.next⟩, rfl, ?_, ?_, rfl⟩
      · have hNext := (DateTime.seconds_of_nextSecond? hFloor).1
        have hLater : floor.microseconds ≤ (clock.wall.current.later floor).microseconds := by
          rw [DateTime.microseconds_later]
          exact le_max_right _ _
        have hSeconds := DateTime.seconds_le_of_microseconds_le hLater
        dsimp only
        omega
      · rw [DateTime.microseconds_later]
        exact le_max_left _ _

/-- A clock gives a name with its next reading, and fails only in the last second of the calendar. -/
theorem uniqueTableName_cases (clock : Clock) (name : Text) (maxLength : Nat) :
    clock.last.IsLastSecond ∧
        uniqueTableName clock name maxLength = .error .clockExhausted ∨
      ∃ next, uniqueTableName clock name maxLength =
          .ok (timedName name maxLength next.last, next) ∧ clock.Ticks next := by
  rw [uniqueTableName]
  rcases tick_cases clock with ⟨hLast, hTick⟩ | ⟨next, hTick, hTicks⟩
  · rw [hTick]
    exact .inl ⟨hLast, rfl⟩
  · rw [hTick]
    exact .inr ⟨next, rfl, hTicks⟩

/-- What holds of every name that was given, by itself. -/
structure IsGiven (requests : List NameRequest) (given : GivenName) : Prop where
  requested : given.request ∈ requests
  name : given.name = timedName given.request.name given.request.maxLength given.reading
  not_behind : given.wall.microseconds ≤ given.reading.microseconds

theorem isGiven_of_mem {clock : Clock} {requests : List NameRequest} {given : GivenName}
    (h : given ∈ clock.giveNames requests) : IsGiven requests given := by
  induction requests generalizing clock with
  | nil => cases h
  | cons request requests ih =>
      have hLift : ∀ {next : Clock}, given ∈ next.giveNames requests →
          IsGiven (request :: requests) given := by
        intro next hMem
        have hRest := ih hMem
        exact ⟨List.mem_cons_of_mem _ hRest.requested, hRest.name, hRest.not_behind⟩
      rw [giveNames] at h
      rcases uniqueTableName_cases clock request.name request.maxLength with
        ⟨_, hFailed⟩ | ⟨next, hName, hTicks⟩
      · rw [hFailed] at h
        exact hLift h
      · rw [hName] at h
        rcases List.mem_cons.mp h with rfl | hLater
        · exact ⟨List.mem_cons_self .., rfl, hTicks.not_behind⟩
        · exact hLift hLater

/-- The last reading of a clock and the readings that it takes are in ever later seconds. -/
theorem isChain_seconds (clock : Clock) (requests : List NameRequest) :
    ((clock.last :: (clock.giveNames requests).map (·.reading)).map DateTime.seconds).IsChain
      (· < ·) := by
  induction requests generalizing clock with
  | nil => exact .singleton _
  | cons request requests ih =>
      rw [giveNames]
      rcases uniqueTableName_cases clock request.name request.maxLength with
        ⟨_, hFailed⟩ | ⟨next, hName, hTicks⟩
      · rw [hFailed]
        exact ih clock
      · rw [hName]
        exact .cons_cons hTicks.later (ih next)

/-- A clock at the last second of the calendar gives no more names. -/
theorem giveNames_of_isLastSecond {clock : Clock} (h : clock.last.IsLastSecond)
    (requests : List NameRequest) : clock.giveNames requests = [] := by
  induction requests with
  | nil => rfl
  | cons request requests ih =>
      have hFailed : uniqueTableName clock request.name request.maxLength =
          .error .clockExhausted := by
        rw [uniqueTableName, tick, DateTime.nextSecond?_eq_none_iff.mpr h]
      rw [giveNames, hFailed]
      exact ih

/-- The requests are answered one after the other, all of them or up to the last second of the
calendar. -/
theorem requests_answered (clock : Clock) (requests : List NameRequest) :
    (clock.giveNames requests).map (·.request) <+: requests ∧
      ((clock.giveNames requests).map (·.request) = requests ∨
        (((clock.giveNames requests).map (·.reading)).getLastD clock.last).IsLastSecond) := by
  induction requests generalizing clock with
  | nil => exact ⟨List.prefix_rfl, .inl rfl⟩
  | cons request requests ih =>
      rcases uniqueTableName_cases clock request.name request.maxLength with
        ⟨hLast, _⟩ | ⟨next, hName, _⟩
      · rw [giveNames_of_isLastSecond hLast]
        exact ⟨List.nil_prefix, .inr hLast⟩
      · obtain ⟨hPrefix, hAll⟩ := ih next
        rw [giveNames, hName]
        refine ⟨(List.prefix_cons_inj request).mpr hPrefix, hAll.imp (fun hAll => ?_) fun hLast => ?_⟩
        · rw [List.map_cons, hAll]
        · rwa [List.map_cons, List.getLastD_cons]

/-- The names that one clock gives to requests in a row are distinct, whatever the wall clock shows, as
long as the clock reads years of four digits and each name may be as long as its ending. Each name has
at most the length asked for, is made of small letters, digits and underscores, and is the longest
beginning of the slug that fits in front of the ending. The readings are in ever later seconds, and none
is behind the wall clock. All requests are answered, unless the clock reaches the last second of the
calendar. -/
theorem giveNames_distinct (clock : Clock) (requests : List NameRequest)
    (hLengths : ∀ request ∈ requests, timeSuffixLength ≤ request.maxLength)
    (hYears : ∀ given ∈ clock.giveNames requests, 1000 ≤ given.reading.date.year) :
    ((clock.giveNames requests).map (·.request) <+: requests ∧
      ((clock.giveNames requests).map (·.request) = requests ∨
        (((clock.giveNames requests).map (·.reading)).getLastD clock.last).IsLastSecond)) ∧
    ((clock.giveNames requests).map (·.name)).Nodup ∧
    (∀ given ∈ clock.giveNames requests,
      given.name.length ≤ given.request.maxLength ∧
      (∀ c ∈ given.name, isSlugChar c = true) ∧
      (∃ ending, ending.length = timeSuffixLength ∧ given.name =
        (slug given.request.name).take (given.request.maxLength - timeSuffixLength) ++ ending) ∧
      given.wall.microseconds ≤ given.reading.microseconds) ∧
    ((clock.last :: (clock.giveNames requests).map (·.reading)).map DateTime.seconds).Pairwise
      (· < ·) := by
  have hLater := (isChain_seconds clock requests).pairwise
  refine ⟨requests_answered clock requests, ?_, ?_, hLater⟩
  · have hReadings := (List.pairwise_cons.mp (List.pairwise_map.mp hLater)).2
    refine List.pairwise_map.mpr ((List.pairwise_map.mp hReadings).imp_of_mem ?_)
    intro given other hGiven hOther hSeconds hSame
    rw [(isGiven_of_mem hGiven).name, (isGiven_of_mem hOther).name] at hSame
    have := seconds_eq_of_timedName_eq (hYears given hGiven) (hYears other hOther) hSame
    omega
  · intro given hMem
    have hGiven := isGiven_of_mem hMem
    have hYear := hYears given hMem
    refine ⟨?_, ?_, ⟨timeSuffix given.reading, length_timeSuffix hYear, ?_⟩, hGiven.not_behind⟩
    · rw [hGiven.name]
      exact length_timedName_le (hLengths _ hGiven.requested) hYear
    · rw [hGiven.name]
      exact fun c hc => isSlugChar_of_mem_timedName hc
    · rw [hGiven.name]
      exact timedName_eq _ _ hYear

/-- Just before a new year, while the wall clock stands still, goes back and jumps ahead to the end of a
February: names of the same and of other slugs, in full, cut, and with nothing in front of the ending. -/
theorem giveNames_at_the_turn_of_the_year :
    ∃ (clock : Clock) (requests : List NameRequest),
      clock.last.text = "2023-12-31T23:59:59.500000".toList ∧
      (clock.wall.current :: clock.wall.later).map DateTime.text =
        ["2023-12-31T23:59:59.500000", "2023-12-31T00:00:00.000000",
          "2024-02-28T23:59:59.250000"].map String.toList ∧
      (∀ request ∈ requests, timeSuffixLength ≤ request.maxLength) ∧
      (∀ given ∈ clock.giveNames requests, 1000 ≤ given.reading.date.year) ∧
      (clock.giveNames requests).map (·.name) =
        ["sales_1_20240101000000", "sales_20240101000001", "_20240228235959",
          "sales_1_20240229000000"].map String.toList ∧
      ((clock.giveNames requests).map (·.name)).Nodup ∧
      ((clock.last :: (clock.giveNames requests).map (·.reading)).map DateTime.seconds).Pairwise
        (· < ·) := by
  let day (year month day : Nat) (h : 1 ≤ year ∧ year ≤ 9999 ∧ 1 ≤ month ∧ month ≤ 12 ∧ 1 ≤ day ∧
      day ≤ daysInMonth year month) : Date :=
    ⟨year, month, day, h.1, h.2.1, h.2.2.1, h.2.2.2.1, h.2.2.2.2.1, h.2.2.2.2.2⟩
  let eve : DateTime := ⟨day 2023 12 31 (by decide),
    ⟨23, 59, 59, 500000, by decide, by decide, by decide, by decide⟩⟩
  let february : DateTime := ⟨day 2024 2 28 (by decide),
    ⟨23, 59, 59, 250000, by decide, by decide, by decide, by decide⟩⟩
  let clock : Clock := ⟨eve, ⟨eve, [⟨day 2023 12 31 (by decide), .midnight⟩, february]⟩⟩
  let requests : List NameRequest :=
    [⟨"Sales 1".toList, 63⟩, ⟨"Sales 1".toList, 20⟩, ⟨"Sales 1".toList, 15⟩, ⟨"sales-1".toList, 63⟩]
  have hLengths : ∀ request ∈ requests, timeSuffixLength ≤ request.maxLength := by decide
  have hYears : ∀ given ∈ clock.giveNames requests, 1000 ≤ given.reading.date.year := by
    decide +kernel
  obtain ⟨_, hDistinct, _, hLater⟩ := giveNames_distinct clock requests hLengths hYears
  exact ⟨clock, requests, by decide +kernel, by decide +kernel, hLengths, hYears, by decide +kernel,
    hDistinct, hLater⟩

end Clock

end CsvIntake
