/-!
# Directions

The pointer travels in one of four directions. A machine's heading can also be set from outside to
a number that stands for none of them (`Heading.stray`).
-/

namespace Funge93

/-- A direction of travel. -/
inductive Direction
  | up | down | left | right
deriving DecidableEq, Repr

namespace Direction

/-- The change of the column in one step. -/
def colDelta : Direction → Int
  | left => -1
  | right => 1
  | _ => 0

/-- The change of the row in one step. -/
def rowDelta : Direction → Int
  | up => -1
  | down => 1
  | _ => 0

/-- The direction that leads back. -/
def opposite : Direction → Direction
  | up => down
  | down => up
  | left => right
  | right => left

/-- The number of a direction. -/
def code : Direction → Int
  | up => 0
  | down => 1
  | left => 2
  | right => 3

/-- The direction with a given number. -/
def ofCode? (n : Int) : Option Direction :=
  if n = 0 then some up
  else if n = 1 then some down
  else if n = 2 then some left
  else if n = 3 then some right
  else none

/-- The direction that a draw stands for. The draws -4 to -1 count from the last direction. -/
def ofDraw? (n : Int) : Option Direction :=
  if n < 0 then ofCode? (n + 4) else ofCode? n

theorem ofCode?_code (d : Direction) : ofCode? d.code = some d := by
  cases d <;> rfl

theorem ofCode?_eq_some {n : Int} {d : Direction} : ofCode? n = some d ↔ n = d.code := by
  constructor
  · intro found
    unfold ofCode? at found
    repeat' split at found
    all_goals simp_all [code, eq_comm]
  · rintro rfl
    exact ofCode?_code d

theorem opposite_colDelta (d : Direction) : d.opposite.colDelta = -d.colDelta := by
  cases d <;> rfl

theorem opposite_rowDelta (d : Direction) : d.opposite.rowDelta = -d.rowDelta := by
  cases d <;> rfl

end Direction

/-- Where a pointer is headed. -/
inductive Heading
  | toward (direction : Direction)
  | stray (code : Int)
deriving DecidableEq, Repr

namespace Heading

/-- The number of a heading. -/
def code : Heading → Int
  | toward d => d.code
  | stray n => n

/-- The heading with a given number. -/
def ofCode (n : Int) : Heading :=
  match Direction.ofCode? n with
  | some d => toward d
  | none => stray n

theorem code_ofCode (n : Int) : (ofCode n).code = n := by
  unfold ofCode
  split
  · next found => exact (Direction.ofCode?_eq_some.mp found).symm
  · rfl

end Heading

end Funge93
