import CsvIntake.Log
import CsvIntake.Proofs.NameMaps

/-! The scopes of the log. Scopes are entered and left one inside the other, and each holds all the fields of
those around it. An event that is logged takes from every name that it does not have itself the value of the
innermost open scope that gives one, and when a scope is left, the fields are again what they were before. -/
namespace CsvIntake

/-- What happens to scopes: one is entered with its own fields, the innermost one is left, or an event is logged
inside those that are open. -/
inductive LogStep where
  | enter (fields : LogFields)
  | leave
  | log (event : LogFields)

/-- Every scope that is entered is left, and what is entered inside of it is left before. -/
inductive IsNested : List LogStep → Prop where
  | nil : IsNested []
  | log (event : LogFields) {rest : List LogStep} (hRest : IsNested rest) : IsNested (.log event :: rest)
  | scope (fields : LogFields) {inner rest : List LogStep} (hInner : IsNested inner)
      (hRest : IsNested rest) : IsNested (.enter fields :: (inner ++ .leave :: rest))

namespace LogScopes

/-- The scopes after some steps. -/
def after (scopes : LogScopes) : List LogStep → LogScopes
  | [] => scopes
  | .enter fields :: steps => after (scopes.enter fields) steps
  | .leave :: steps => after scopes.leave steps
  | .log _ :: steps => after scopes steps

/-- The events that are logged in some steps, as they come out. -/
def logged (scopes : LogScopes) : List LogStep → List LogFields
  | [] => []
  | .enter fields :: steps => logged (scopes.enter fields) steps
  | .leave :: steps => logged scopes.leave steps
  | .log event :: steps => scopes.annotate event :: logged scopes steps

/-- The scopes that are entered with the given fields, of which those of the innermost stand first. -/
def opened (given : List LogFields) : LogScopes := given.foldr (fun fields scopes => scopes.enter fields) []

end LogScopes

/-- The events that are logged in some steps, each with the fields that are given to the scopes around it. -/
def logPlaces (given : List LogFields) : List LogStep → List (List LogFields × LogFields)
  | [] => []
  | .enter fields :: steps => logPlaces (fields :: given) steps
  | .leave :: steps => logPlaces given.tail steps
  | .log event :: steps => (given, event) :: logPlaces given steps

/-- The value of a name in the innermost scope that gives it one. -/
def innermost? (given : List LogFields) (name : Text) : Option Data :=
  given.findSome? fun fields => NameMap.latest? fields name

/-- An event comes out of scopes with its own fields, unchanged, and behind them exactly the names that it does
not have itself and that some scope gives, once each and with the value of the innermost of these scopes. -/
def IsAnnotated (given : List LogFields) (event shown : LogFields) : Prop :=
  ∃ added, shown = event ++ added ∧ (NameMap.names added).Nodup ∧
    ∀ name value, (name, value) ∈ added ↔
      name ∉ NameMap.names event ∧ innermost? given name = some value

namespace LogScopes

/-! ### Fields that hold in a scope -/

theorem nodup_names_current (given : List LogFields) : (NameMap.names (current (opened given))).Nodup := by
  induction given with
  | nil => exact List.nodup_nil
  | cons fields given ih => exact NameMap.nodup_names_updated ih fields

/-- In a scope a name has the value that the innermost scope gives to it. -/
theorem lookup_current (given : List LogFields) (name : Text) :
    (current (opened given)).lookup name = innermost? given name := by
  induction given with
  | nil => rfl
  | cons fields given ih =>
      have hOuter : (current (opened (fields :: given))).lookup name =
          (NameMap.latest? fields name).or ((current (opened given)).lookup name) :=
        NameMap.lookup_updated_eq_latest _ _ _
      rw [hOuter, ih, innermost?, innermost?, List.findSome?_cons]
      cases NameMap.latest? fields name <;> rfl

/-- One event gets the fields of the innermost scope that binds each name. -/
theorem isAnnotated_annotate (given : List LogFields) (event : LogFields) :
    IsAnnotated given event ((opened given).annotate event) := by
  have hDistinct := nodup_names_current given
  refine ⟨_, rfl, (List.filter_sublist.map Prod.fst).nodup hDistinct, fun name value => ?_⟩
  rw [List.mem_filter, Option.isNone_iff_eq_none, NameMap.lookup_eq_none_iff,
    ← NameMap.lookup_eq_some_iff hDistinct, lookup_current, and_comm]

/-! ### Steps -/

/-- Leaving the innermost scope leaves those around it open. -/
theorem leave_opened (given : List LogFields) : (opened given).leave = opened given.tail := by
  cases given <;> rfl

theorem after_append (scopes : LogScopes) (first second : List LogStep) :
    scopes.after (first ++ second) = (scopes.after first).after second := by
  induction first generalizing scopes with
  | nil => rfl
  | cons step first ih => cases step <;> exact ih _

/-- Steps that leave the scopes that they enter leave the scopes around them as they are. -/
theorem after_of_isNested {steps : List LogStep} (h : IsNested steps) (scopes : LogScopes) :
    scopes.after steps = scopes := by
  induction h generalizing scopes with
  | nil => rfl
  | log event _ ih => exact ih scopes
  | scope fields _ _ ihInner ihRest =>
      rw [after, after_append, ihInner, after]
      exact ihRest scopes

/-- Every event comes out as the scopes around it say, whatever was entered and left before. -/
theorem isAnnotated_logged (given : List LogFields) (steps : List LogStep) :
    List.Forall₂ (fun place shown => IsAnnotated place.1 place.2 shown) (logPlaces given steps)
      ((opened given).logged steps) := by
  induction steps generalizing given with
  | nil => exact .nil
  | cons step steps ih =>
      cases step with
      | enter fields => exact ih (fields :: given)
      | leave =>
          rw [logged, leave_opened]
          exact ih given.tail
      | log event => exact .cons (isAnnotated_annotate given event) (ih given)

/-- Inside any open scopes, every event that is logged comes out with its own fields unchanged, and with the value
of the innermost scope around it for each name that it does not have itself and that some scope gives, and with
nothing else. Steps that leave every scope that they enter end with the scopes that were open at the start. -/
theorem isAnnotated_and_restored (given : List LogFields) (steps : List LogStep) :
    List.Forall₂ (fun place shown => IsAnnotated place.1 place.2 shown) (logPlaces given steps)
      ((opened given).logged steps) ∧
    (IsNested steps → (opened given).after steps = opened given) :=
  ⟨isAnnotated_logged given steps, fun hNested => after_of_isNested hNested (opened given)⟩

/-- Inside a scope with `a` and `b`, an inner one gives `a` anew and an event has it itself; the empty scope behind
it hides nothing. Both are left, so that the last event comes out as it would have at first. -/
theorem isAnnotated_and_restored_of_hidden_name :
    ∃ (given : List LogFields) (steps : List LogStep),
      given = [[(['a'], .integer 1), (['b'], .none)]] ∧
      steps = [.enter [(['a'], .integer 2)], .log [], .log [(['a'], .none)], .leave,
        .enter [], .log [(['c'], .none)], .leave, .log []] ∧
      IsNested steps ∧
      (opened given).logged steps = [[(['a'], .integer 2), (['b'], .none)],
        [(['a'], .none), (['b'], .none)], [(['c'], .none), (['a'], .integer 1), (['b'], .none)],
        [(['a'], .integer 1), (['b'], .none)]] ∧
      List.Forall₂ (fun place shown => IsAnnotated place.1 place.2 shown) (logPlaces given steps)
        ((opened given).logged steps) ∧
      (opened given).after steps = opened given := by
  let given : List LogFields := [[(['a'], .integer 1), (['b'], .none)]]
  let first : List LogStep := [.log [], .log [(['a'], .none)]]
  let second : List LogStep := [.log [(['c'], .none)]]
  let last : List LogStep := [.log []]
  let rest : List LogStep := .enter [] :: (second ++ .leave :: last)
  have hRest : IsNested rest := .scope [] (.log _ .nil) (.log _ .nil)
  have hNested : IsNested (.enter [(['a'], .integer 2)] :: (first ++ .leave :: rest)) :=
    .scope _ (.log _ (.log _ .nil)) hRest
  obtain ⟨hAnnotated, hRestored⟩ := isAnnotated_and_restored given _
  exact ⟨given, _, rfl, rfl, hNested, rfl, hAnnotated, hRestored hNested⟩

end LogScopes

end CsvIntake
