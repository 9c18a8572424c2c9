import Funge93.Cell
import Funge93.Direction

/-!
# Instructions

Each cell stands for an instruction. Cells that stand for none, the space included, do nothing.

This file proves that every instruction but the idle one is written as one cell only
(`ofCell_eq_iff`).
-/

namespace Funge93

/-- What a cell does in command mode. Operands are popped; the last one pushed is the right one. -/
inductive Instruction
  /-- Pushes a digit. -/
  | digit (d : Fin 10)
  | add
  | subtract
  | multiply
  | divide
  | remainder
  /-- Pushes 1 for zero and 0 for any other cell. -/
  | negate
  /-- Pushes 1 if the left operand is greater and 0 otherwise. -/
  | greater
  | turn (direction : Direction)
  /-- Turns to a direction drawn from the random source. -/
  | turnRandomly
  /-- Turns right for zero and left for any other cell. -/
  | branchHorizontally
  /-- Turns down for zero and up for any other cell. -/
  | branchVertically
  /-- Starts text mode. -/
  | quote
  | duplicate
  | swap
  | discard
  | writeNumber
  | writeChar
  /-- Skips the next cell. -/
  | skip
  /-- Stores a cell in the grid. -/
  | store
  /-- Fetches a cell from the grid. -/
  | fetch
  | readNumber
  | readChar
  | halt
  | idle
deriving DecidableEq, Repr

namespace Instruction

/-- The instruction that a cell stands for. -/
def ofCell (c : Cell) : Instruction :=
  match c.toInt with
  | 33 => negate               -- !
  | 34 => quote                -- "
  | 35 => skip                 -- #
  | 36 => discard              -- $
  | 37 => remainder            -- %
  | 38 => readNumber           -- &
  | 42 => multiply             -- *
  | 43 => add                  -- +
  | 44 => writeChar            -- ,
  | 45 => subtract             -- -
  | 46 => writeNumber          -- .
  | 47 => divide               -- /
  | 48 => digit 0
  | 49 => digit 1
  | 50 => digit 2
  | 51 => digit 3
  | 52 => digit 4
  | 53 => digit 5
  | 54 => digit 6
  | 55 => digit 7
  | 56 => digit 8
  | 57 => digit 9
  | 58 => duplicate            -- :
  | 60 => turn .left           -- <
  | 62 => turn .right          -- >
  | 63 => turnRandomly         -- ?
  | 64 => halt                 -- @
  | 92 => swap                 -- \
  | 94 => turn .up             -- ^
  | 95 => branchHorizontally   -- _
  | 96 => greater
  | 103 => fetch               -- g
  | 112 => store               -- p
  | 118 => turn .down          -- v
  | 124 => branchVertically    -- |
  | 126 => readChar            -- ~
  | _ => idle

/-- The cell that an instruction is written as. The idle one is written as a space. -/
def opcode : Instruction → Cell
  | negate => 33
  | quote => 34
  | skip => 35
  | discard => 36
  | remainder => 37
  | readNumber => 38
  | multiply => 42
  | add => 43
  | writeChar => 44
  | subtract => 45
  | writeNumber => 46
  | divide => 47
  | digit d => Cell.ofInt (48 + d.val)
  | duplicate => 58
  | turn .left => 60
  | turn .right => 62
  | turnRandomly => 63
  | halt => 64
  | swap => 92
  | turn .up => 94
  | branchHorizontally => 95
  | greater => 96
  | fetch => 103
  | store => 112
  | turn .down => 118
  | branchVertically => 124
  | readChar => 126
  | idle => 32

theorem ofCell_opcode (i : Instruction) : ofCell i.opcode = i := by
  cases i with
  | digit d => revert d; decide
  | turn d => cases d <;> rfl
  | _ => rfl

theorem eq_opcode_of_ofCell {c : Cell} {i : Instruction} (found : ofCell c = i) (acts : i ≠ idle) :
    c = i.opcode := by
  rw [← Int64.toInt_inj]
  subst found
  unfold ofCell at acts ⊢
  split at acts
  any_goals assumption
  -- The last case is left: the cells that stand for no instruction.
  exact absurd rfl acts

theorem ofCell_eq_iff {c : Cell} {i : Instruction} (acts : i ≠ idle) :
    ofCell c = i ↔ c = i.opcode :=
  ⟨fun found => eq_opcode_of_ofCell found acts, fun same => same ▸ ofCell_opcode i⟩

end Instruction

end Funge93
