import Funge93.Machine

/-!
# Ticks

A tick counts a step, checks the step budget, reads the cell under the pointer, pushes or executes
it, and moves the pointer on.

An instruction that fails keeps the operands it popped and nothing else. A fault stops the machine
in the state it then has; a misuse leaves the machine running.
-/

namespace Funge93

/-- An instruction that failed: why, and the machine as it then stands. -/
structure Interruption where
  failure : Failure
  machine : Machine

namespace Machine

/-- Replaces the two topmost cells by a function of the left and the right one. -/
def combine (m : Machine) (f : Cell → Cell → Cell) : Machine :=
  let (right, stack) := m.stack.pop
  let (left, stack) := stack.pop
  { m with stack := stack.push (f left right) }

/-- Moves the pointer one cell on. -/
def advance (m : Machine) : Except Interruption Machine :=
  match m.heading with
  | .toward d =>
    let (col, row) := m.grid.step m.col m.row d
    .ok { m with col, row }
  | .stray code => .error ⟨.misuse (.strayHeading code), m⟩

/-- Turns to one of two directions: the first for zero, the second for any other top cell. -/
def branch (m : Machine) (zero other : Direction) : Machine :=
  let (v, stack) := m.stack.pop
  { m with stack, heading := .toward (if v = 0 then zero else other) }

/-- Turns to a direction drawn from the random source. -/
def turnRandomly (m : Machine) : Except Interruption Machine :=
  let (n, draws) := m.draws.next
  let m := { m with draws }
  match Direction.ofDraw? n with
  | some d => .ok { m with heading := .toward d }
  | none => .error ⟨.misuse (.drawOutOfRange n), m⟩

/-- Stores a cell at a position of the torus. -/
def store (m : Machine) : Except Interruption Machine :=
  let (y, stack) := m.stack.pop
  let (x, stack) := stack.pop
  let (v, stack) := stack.pop
  let m := { m with stack }
  let (col, row) := m.grid.wrap x.toInt y.toInt
  match m.grid.set col row v with
  | .ok grid => .ok { m with grid, counters := { m.counters with stores := m.counters.stores + 1 } }
  | .error f => .error ⟨.fault f, m⟩

/-- Pushes the cell at a position of the torus. A blank position gives zero. -/
def fetch (m : Machine) : Except Interruption Machine :=
  let (y, stack) := m.stack.pop
  let (x, stack) := stack.pop
  let m := { m with stack }
  let (col, row) := m.grid.wrap x.toInt y.toInt
  match m.grid.read col row with
  | .ok content =>
    let m := m.push (content.getD 0)
    .ok { m with counters := { m.counters with fetches := m.counters.fetches + 1 } }
  | .error f => .error ⟨.fault f, m⟩

/-- Counts a write that worked. -/
def countWrite (m : Machine) : Machine :=
  { m with counters := { m.counters with writes := m.counters.writes + 1 } }

/-- Counts a read that worked. -/
def countRead (m : Machine) : Machine :=
  { m with counters := { m.counters with reads := m.counters.reads + 1 } }

/-- Writes the top cell in some way. -/
def write (m : Machine) (how : Console → Int → Option Failure × Console) :
    Except Interruption Machine :=
  let (v, stack) := m.stack.pop
  let (failure?, console) := how m.console v.toInt
  let m := { m with stack, console }
  match failure? with
  | none => .ok m.countWrite
  | some failure => .error ⟨failure, m⟩

/-- Pushes what a read gives, or a cell that stands for the end of the input. -/
def read (m : Machine) (how : Console → Except Failure (Option Cell) × Console) (atEnd : Cell) :
    Except Interruption Machine :=
  let (result, console) := how m.console
  let m := { m with console }
  match result with
  | .ok v => .ok (m.push (v.getD atEnd)).countRead
  | .error failure => .error ⟨failure, m⟩

/-- Reads a character as a cell. -/
def readCharCell (c : Console) : Except Failure (Option Cell) × Console :=
  let (result, c) := c.readChar
  (result.map fun ch => ch.map fun ch => Cell.ofInt ch.val, c)

/-- Executes an instruction, the final move of the pointer apart. -/
def execute (m : Machine) : Instruction → Except Interruption Machine
  | .digit d => .ok (m.push (Cell.ofInt d.val))
  | .add => .ok (m.combine (· + ·))
  | .subtract => .ok (m.combine (· - ·))
  | .multiply => .ok (m.combine (· * ·))
  | .divide => .ok (m.combine Cell.quotient)
  | .remainder => .ok (m.combine Cell.remainder)
  | .negate =>
    let (v, stack) := m.stack.pop
    .ok { m with stack := stack.push (Cell.ofBool (v == 0)) }
  | .greater => .ok (m.combine fun left right => Cell.ofBool (decide (left > right)))
  | .turn d => .ok { m with heading := .toward d }
  | .turnRandomly => m.turnRandomly
  | .branchHorizontally => .ok (m.branch .right .left)
  | .branchVertically => .ok (m.branch .down .up)
  | .quote => .ok { m with mode := .text }
  | .duplicate => .ok { m with stack := m.stack.duplicate }
  | .swap => .ok { m with stack := m.stack.swap }
  | .discard => .ok { m with stack := m.stack.discard }
  | .writeNumber => m.write Console.writeNumber
  | .writeChar => m.write Console.writeChar
  | .skip => m.advance
  | .store => m.store
  | .fetch => m.fetch
  | .readNumber => m.read Console.readNumber 0
  | .readChar => m.read readCharCell (-1)
  | .halt => .ok { m with status := .halted }
  | .idle => .ok m

/-- The cell that a quotation mark is. -/
def quotationMark : Cell := 34

/-- The cell that text mode pushes for a blank position. -/
def spaceCell : Cell := 32

/-- Pushes what text mode meets, or ends text mode at a quotation mark. -/
def pushText (m : Machine) (content : Option Cell) : Machine :=
  if content = some quotationMark then { m with mode := .command }
  else m.push (content.getD spaceCell)

/-- Acts on what the pointer stands on. -/
def act (m : Machine) (content : Option Cell) : Except Interruption Machine :=
  match m.mode with
  | .text => .ok (m.pushText content)
  | _ => m.execute (Instruction.ofCell (content.getD Grid.blankValue))

/-- Counts a step. -/
def countStep (m : Machine) : Machine :=
  { m with counters := { m.counters with steps := m.counters.steps + 1 } }

/-- The budget that the steps exceed, if they do. -/
def exceeded? (m : Machine) : Option Int :=
  m.maxSteps.filter fun limit => limit < m.counters.steps

/-- One step: count it, check the budget, act on the cell under the pointer, and move on. -/
def step (m : Machine) : Except Interruption Machine :=
  let m := m.countStep
  match m.exceeded? with
  | some limit => .error ⟨.fault (.stepLimit limit), m⟩
  | none =>
    match m.grid.read m.col m.row with
    | .error f => .error ⟨.fault f, m⟩
    | .ok content =>
      match m.act content with
      | .error interruption => .error interruption
      | .ok m => if m.isRunning then m.advance else .ok m

/-- The next tick reads from the console. -/
def asksForInput (m : Machine) : Bool :=
  m.isRunning && m.mode != .text &&
    match m.grid.read m.col m.row with
    | .ok (some c) => [Instruction.readNumber, .readChar].contains (Instruction.ofCell c)
    | _ => false

/-- One step of a machine that runs; a stopped machine stays as it is. A fault is recorded, and a
misuse comes back with the machine. -/
def tick (m : Machine) : Machine × Option Misuse :=
  if m.isRunning then
    match m.step with
    | .ok m => (m, none)
    | .error ⟨.fault f, m⟩ => ({ m with status := .faulted f }, none)
    | .error ⟨.misuse e, m⟩ => (m, some e)
  else (m, none)

end Machine

end Funge93
