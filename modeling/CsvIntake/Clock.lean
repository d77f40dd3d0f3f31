import CsvIntake.Calendar.DateTime
import CsvIntake.Error

/-! A clock whose readings never repeat a whole second. Each reading is the later of the wall clock
and the start of the second after the last reading, so that no two callers get the same second even
if the wall clock stands still or goes back. -/
namespace CsvIntake

/-- A wall clock: what it shows now and what it will show, one reading after the other. The last
reading is shown forever. -/
structure WallClock where
  current : DateTime
  later : List DateTime
  deriving DecidableEq, Repr

namespace WallClock

/-- The wall clock after one reading. -/
def next (wall : WallClock) : WallClock :=
  match wall.later with
  | [] => wall
  | t :: ts => ⟨t, ts⟩

end WallClock

/-- A clock: its last reading and the wall clock that it follows. -/
structure Clock where
  last : DateTime
  wall : WallClock
  deriving DecidableEq, Repr

namespace Clock

/-- A clock started at the reading that a wall clock shows. -/
def start (wall : WallClock) : Clock := ⟨wall.current, wall.next⟩

/-- The next reading, and the clock after it. There is none if the last reading was in the last
second of the calendar. -/
def tick (clock : Clock) : Except Error (DateTime × Clock) :=
  match clock.last.nextSecond? with
  | none => .error .clockExhausted
  | some floor =>
    let reading := clock.wall.current.later floor
    .ok (reading, ⟨reading, clock.wall.next⟩)

end Clock

end CsvIntake
