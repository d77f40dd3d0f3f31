/-! Hierarchies of types by generality. An edge leads from a type to one that generalizes it. A
hierarchy is built only from edges without a cycle and with exactly one type at the top, and it
lists its types in one canonical order: children before their parents, and among the types that may
come next always the one that was declared first. -/
namespace CsvIntake

/-- Why a hierarchy cannot be built. -/
inductive HierarchyError (α : Type) where
  | cycle
  | roots (found : List α)
  | undeclared (types : List α)
  deriving DecidableEq, Repr

/-- Types by generality, in canonical order. `concrete` maps the types that only values can have
to the type of a column that holds them. -/
structure Hierarchy (α : Type) where
  ordered : List α
  root : α
  edges : List (α × α)
  concrete : List (α × α)
  deriving DecidableEq, Repr

namespace Hierarchy

variable {α : Type} [DecidableEq α]

/-- A type may come next when no remaining type has an edge to it. -/
def isReady (edges : List (α × α)) (remaining : List α) (t : α) : Bool :=
  remaining.all fun s => !edges.contains (s, t)

/-- Takes the first type that may come next, `steps` times. -/
def orderSteps (edges : List (α × α)) : (steps : Nat) → (remaining : List α) → Option (List α)
  | 0, _ => some []
  | steps + 1, remaining =>
    match remaining.find? (isReady edges remaining) with
    | none => none
    | some t => (orderSteps edges steps (remaining.erase t)).map (t :: ·)

/-- The canonical order of some types, or nothing if their edges have a cycle. -/
def order? (edges : List (α × α)) (types : List α) : Option (List α) :=
  orderSteps edges types.length types

/-- The types of a list that edges lead to, from the ones already reached or from types before
them in the list. -/
def reachedFrom (edges : List (α × α)) (reached : List α) : List α → List α
  | [] => []
  | t :: ts =>
    if reached.any fun s => edges.contains (s, t) then
      t :: reachedFrom edges (t :: reached) ts
    else reachedFrom edges reached ts

/-- Builds the hierarchy of the declared types. A type declared twice counts from its last place. -/
def build (types : List α) (edges concrete : List (α × α)) :
    Except (HierarchyError α) (Hierarchy α) :=
  let declared := types.reverse.eraseDups.reverse
  let undeclared :=
    (edges.flatMap fun e => [e.1, e.2]).eraseDups.filter fun t => !declared.contains t
  match order? edges (declared ++ undeclared) with
  | none => .error .cycle
  | some ordered =>
    match types.filter fun t => !edges.any fun e => e.1 == t with
    | [root] =>
      if undeclared.isEmpty then .ok ⟨ordered, root, edges, concrete⟩
      else .error (.undeclared undeclared)
    | found => .error (.roots found)

/-- All generalizations of a type, the closest first. -/
def ancestors (h : Hierarchy α) (t : α) : List α := reachedFrom h.edges [t] h.ordered

/-- The type of a column whose values have the given type. A column about which nothing is known
has the most general one. -/
def columnType (h : Hierarchy α) : Option α → α
  | none => h.root
  | some t => (h.concrete.lookup t).getD t

/-- The types that a column can have. -/
def columnTypes (h : Hierarchy α) : List α :=
  h.ordered.filter fun t => (h.concrete.lookup t).isNone

end Hierarchy

end CsvIntake
