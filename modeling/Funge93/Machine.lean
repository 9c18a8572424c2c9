import Funge93.Console
import Funge93.Draws
import Funge93.Grid
import Funge93.Instruction
import Funge93.Stack

/-!
# The machine

A machine has a grid, a stack, a console and a random source. A pointer travels over the grid. In
command mode the machine executes the cells it meets; in text mode it pushes them.

Pointer, heading, mode and step budget can be set from outside to any value. A mode that is neither
of the two acts as command mode.
-/

namespace Funge93

/-- What a machine does with the cells it meets. -/
inductive Mode
  | command
  | text
  | other (code : Int)
deriving DecidableEq, Repr

namespace Mode

/-- The number of a mode. -/
def code : Mode → Int
  | command => 0
  | text => 1
  | other n => n

/-- The mode with a given number. -/
def ofCode (n : Int) : Mode :=
  if n = 0 then command else if n = 1 then text else other n

theorem code_ofCode (n : Int) : (ofCode n).code = n := by
  unfold ofCode
  split
  · simp_all [code]
  · split <;> simp_all [code]

end Mode

/-- Whether a machine goes on. -/
inductive Status
  | running
  | halted
  | faulted (fault : Fault)
deriving DecidableEq, Repr

/-- The fault that stopped a machine. -/
def Status.fault? : Status → Option Fault
  | faulted f => some f
  | _ => none

/-- How often a machine did what. -/
structure Counters where
  steps : Nat
  /-- Cells stored in the grid. -/
  stores : Nat
  /-- Cells fetched from the grid. -/
  fetches : Nat
  /-- Numbers and characters read. -/
  reads : Nat
  /-- Numbers and characters written. -/
  writes : Nat
deriving DecidableEq, Repr

/-- Counters of a machine that did nothing yet. -/
def Counters.zero : Counters := ⟨0, 0, 0, 0, 0⟩

/-- A machine in the middle of its work. -/
structure Machine where
  grid : Grid
  console : Console
  draws : Draws
  /-- The step budget. -/
  maxSteps : Option Int
  stack : Stack
  col : Int
  row : Int
  heading : Heading
  mode : Mode
  status : Status
  counters : Counters

namespace Machine

/-- A machine at its start: top left, headed right, in command mode, with an empty stack. -/
def start (grid : Grid) (console : Console) (draws : Draws) (maxSteps : Option Int) : Machine where
  grid := grid
  console := console
  draws := draws
  maxSteps := maxSteps
  stack := Stack.empty
  col := 0
  row := 0
  heading := .toward .right
  mode := .command
  status := .running
  counters := Counters.zero

/-- The machine still runs. -/
def isRunning (m : Machine) : Bool := m.status == .running

/-- Pushes a cell. -/
def push (m : Machine) (v : Cell) : Machine := { m with stack := m.stack.push v }

/-- Adds text to the input. -/
def feed (m : Machine) (t : Text) : Machine := { m with console := m.console.feed t }

/-- The text written so far, and the machine without it. -/
def drain (m : Machine) : Text × Machine :=
  let (t, console) := m.console.drain
  (t, { m with console })

/-- Sets all counters to zero. The peak of the stack stays. -/
def resetCounters (m : Machine) : Machine := { m with counters := Counters.zero }

end Machine

end Funge93
