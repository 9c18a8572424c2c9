import Funge93.Proofs.Console.Frame
import Funge93.Proofs.Machine.Evolution

/-!
# The upcoming instruction

A tick does not always execute an instruction. The machine may have stopped, its budget may be used
up, or it may be in text mode. This module says which instruction the next tick executes, if it
executes one, and what becomes of the console, the grid and the random source in each case.

Results:
1. `stepping_step`: the four ways in which a step of a running machine can go.
2. `effects_tick`: a tick changes the console only by the upcoming input or output instruction, the
   grid only by an upcoming store, and the random source only by an upcoming random turn.
3. `written_tick_of_ne`, `unread_tick_of_ne`: only writes add to the output, and only reads take
   from the input.
-/

namespace Funge93.Machine

/-- The instruction that the next tick executes, if it executes one. -/
def upcoming? (m : Machine) : Option Instruction :=
  if m.isRunning && m.countStep.exceeded?.isNone && m.mode != .text then
    match m.grid.read m.col m.row with
    | .ok content => some (.ofCell (content.getD Grid.blankValue))
    | .error _ => none
  else none

/-- Moves the pointer one cell on, unless the machine stopped. -/
def moveOn (m : Machine) : Except Interruption Machine :=
  if m.isRunning then m.advance else .ok m

/-- How a step of a running machine goes: the budget refuses it, the pointer is off the grid, text
mode pushes what the pointer stands on, or an instruction is executed. -/
inductive Stepping (m : Machine) : Except Interruption Machine → Prop
  | spent {limit : Int} : m.upcoming? = none → m.countStep.exceeded? = some limit →
      Stepping m (.error ⟨.fault (.stepLimit limit), m.countStep⟩)
  | lost {f : Fault} : m.upcoming? = none → m.grid.read m.col m.row = .error f →
      Stepping m (.error ⟨.fault f, m.countStep⟩)
  | text {content : Option Cell} : m.upcoming? = none → m.mode = .text →
      m.countStep.exceeded? = none → m.grid.read m.col m.row = .ok content →
      Stepping m (m.countStep.pushText content).moveOn
  | instruction {i : Instruction} : m.upcoming? = some i →
      Stepping m (m.countStep.execute i >>= moveOn)

variable {m : Machine}

/-! ## Which instruction comes -/

theorem isRunning_congr {m' : Machine} (h : m'.status = m.status) :
    m'.isRunning = m.isRunning := by
  unfold isRunning
  rw [h]

theorem upcoming?_of_stopped (h : m.isRunning = false) : m.upcoming? = none := by
  unfold upcoming?
  rw [h]
  rfl

theorem upcoming?_of_spent {limit : Int} (h : m.countStep.exceeded? = some limit) :
    m.upcoming? = none := by
  unfold upcoming?
  rw [h, Option.isNone_some, Bool.and_false]
  rfl

theorem upcoming?_of_text (h : m.mode = .text) : m.upcoming? = none := by
  unfold upcoming?
  rw [h, bne_self_eq_false, Bool.and_false]
  rfl

theorem upcoming?_of_lost {f : Fault} (h : m.grid.read m.col m.row = .error f) :
    m.upcoming? = none := by
  unfold upcoming?
  rw [h]
  split <;> rfl

theorem upcoming?_of_ok {content : Option Cell} (hr : m.isRunning = true)
    (hb : m.countStep.exceeded? = none) (hm : m.mode ≠ .text)
    (hread : m.grid.read m.col m.row = .ok content) :
    m.upcoming? = some (.ofCell (content.getD Grid.blankValue)) := by
  unfold upcoming?
  rw [hr, hb, bne_iff_ne.mpr hm, hread]
  rfl

theorem isRunning_of_upcoming {i : Instruction} (h : m.upcoming? = some i) :
    m.isRunning = true := by
  cases hr : m.isRunning with
  | true => rfl
  | false =>
    rw [upcoming?_of_stopped hr] at h
    cases h

/-- An instruction comes only in command mode, within the budget, and from the cell under the
pointer. -/
theorem read_of_upcoming {i : Instruction} (h : m.upcoming? = some i) :
    m.mode ≠ .text ∧ m.countStep.exceeded? = none ∧
      ∃ content, m.grid.read m.col m.row = .ok content ∧
        Instruction.ofCell (content.getD Grid.blankValue) = i := by
  unfold upcoming? at h
  split at h
  · next hcond =>
    rw [Bool.and_eq_true, Bool.and_eq_true, bne_iff_ne, Option.isNone_iff_eq_none] at hcond
    refine ⟨hcond.2, hcond.1.2, ?_⟩
    split at h
    · next content hread => exact ⟨content, hread, Option.some.inj h⟩
    · cases h
  · cases h

/-! ## How a step goes -/

/-- Within the budget and on the grid, a step acts on what the pointer stands on and moves on. -/
theorem step_of_ok {content : Option Cell} (hb : m.countStep.exceeded? = none)
    (hread : m.grid.read m.col m.row = .ok content) :
    m.step = m.countStep.act content >>= moveOn := by
  unfold step
  dsimp only
  rw [hb, show m.countStep.grid.read m.countStep.col m.countStep.row = .ok content from hread]
  dsimp only
  cases m.countStep.act content <;> rfl

theorem step_of_spent {limit : Int} (hb : m.countStep.exceeded? = some limit) :
    m.step = .error ⟨.fault (.stepLimit limit), m.countStep⟩ := by
  unfold step
  dsimp only
  rw [hb]

theorem stepping_step (hr : m.isRunning = true) : Stepping m m.step := by
  cases hb : m.countStep.exceeded? with
  | some limit =>
    rw [step_of_spent hb]
    exact .spent (upcoming?_of_spent hb) hb
  | none =>
    cases hread : m.grid.read m.col m.row with
    | error f =>
      unfold step
      dsimp only
      rw [hb, show m.countStep.grid.read m.countStep.col m.countStep.row = .error f from hread]
      exact .lost (upcoming?_of_lost hread) hread
    | ok content =>
      rw [step_of_ok hb hread]
      unfold act
      by_cases hm : m.mode = .text
      · rw [show m.countStep.mode = .text from hm]
        exact .text (upcoming?_of_text hm) hm hb hread
      · split
        · next ht => exact absurd ht hm
        · exact .instruction (upcoming?_of_ok hr hb hm hread)

theorem step_of_upcoming {i : Instruction} (h : m.upcoming? = some i) :
    m.step = m.countStep.execute i >>= moveOn := by
  have hs := stepping_step (isRunning_of_upcoming h)
  generalize m.step = r at hs ⊢
  cases hs with
  | spent hn | lost hn | text hn =>
    rw [h] at hn
    cases hn
  | instruction hi =>
    rw [h] at hi
    cases hi
    rfl

theorem stack_moveOn (m : Machine) :
    Leaves (fun m' => m'.stack = m.stack) (fun _ => True) m.moveOn := by
  unfold moveOn advance
  split
  · split
    · exact rfl
    · exact ⟨trivial, rfl⟩
  · exact rfl

/-- Moving on after an instruction does not touch the stack, even where it fails. -/
theorem stack_tick {m' : Machine} {i : Instruction} (hi : m.upcoming? = some i)
    (hx : m.countStep.execute i = .ok m') :
    m.tick.1.stack = m'.stack := by
  have hmove := stack_moveOn m'
  have hstep : m.step = m'.moveOn := by
    rw [step_of_upcoming hi, hx]
    rfl
  have hend := tickEnds_tick m
  rw [← hstep] at hmove
  generalize m.tick = r at hend ⊢
  cases hend with
  | stopped hr =>
    rw [isRunning_of_upcoming hi] at hr
    cases hr
  | stepped _ hs _ =>
    rw [hs] at hmove
    exact hmove
  | faulted _ hs _ _ | misused _ hs _ _ =>
    rw [hs] at hmove
    exact hmove.2

/-! ## What a tick does to the console, the grid and the random source -/

/-- The third cell of the stack: the value of a store. -/
def third (m : Machine) : Cell := m.stack.discard.discard.peek

/-- The console after an instruction. -/
def consoleAfter (m : Machine) : Option Instruction → Console
  | some .writeNumber => (m.console.writeNumber m.top).2
  | some .writeChar => (m.console.writeChar m.top).2
  | some .readNumber => m.console.readNumber.2
  | some .readChar => m.console.readChar.2
  | _ => m.console

/-- The grid after an instruction. -/
def gridAfter (m : Machine) : Option Instruction → Grid
  | some .store => m.grid.store m.second m.top m.third
  | _ => m.grid

theorem gridAfter_of_ne_store {i? : Option Instruction} (h : i? ≠ some .store) :
    m.gridAfter i? = m.grid := by
  unfold gridAfter
  split
  · exact absurd rfl h
  · rfl

/-- The random source after an instruction. A draw that stands for no direction is spent, too. -/
def drawsAfter (m : Machine) : Option Instruction → Draws
  | some .turnRandomly => m.draws.next.2
  | _ => m.draws

/-- The console, the grid and the random source of `m'` are those that the instruction leaves, if
there is one, or the old ones. -/
structure Effects (m : Machine) (i? : Option Instruction) (m' : Machine) : Prop where
  console : m'.console = m.consoleAfter i?
  grid : m'.grid = m.gridAfter i?
  draws : m'.draws = m.drawsAfter i?

/-- Every machine that a result leaves shows the effects of the instruction. -/
abbrev LeavesEffects (m : Machine) (i? : Option Instruction) (r : Except Interruption Machine) :
    Prop :=
  Leaves (Effects m i?) (fun _ => True) r

theorem Effects.advance {i? : Option Instruction} {m' : Machine} (h : Effects m i? m') :
    LeavesEffects m i? m'.advance := by
  unfold Machine.advance
  split
  · exact { h with }
  · exact ⟨trivial, h⟩

theorem Effects.moveOn {i? : Option Instruction} {m' : Machine} (h : Effects m i? m') :
    LeavesEffects m i? m'.moveOn := by
  unfold Machine.moveOn
  split
  · exact h.advance
  · exact h

theorem effects_turnRandomly (m : Machine) :
    LeavesEffects m (some .turnRandomly) m.turnRandomly := by
  unfold turnRandomly
  dsimp only
  split
  · exact ⟨rfl, rfl, rfl⟩
  · exact ⟨trivial, rfl, rfl, rfl⟩

theorem effects_store (m : Machine) : LeavesEffects m (some .store) m.store := by
  rw [store_eq]
  exact ⟨rfl, rfl, rfl⟩

theorem effects_fetch (m : Machine) : LeavesEffects m (some .fetch) m.fetch := by
  rw [fetch_eq]
  exact ⟨rfl, rfl, rfl⟩

theorem effects_write (m : Machine) {i : Instruction}
    {how : Console → Int → Option Failure × Console}
    (hc : m.consoleAfter (some i) = (how m.console m.top).2)
    (hg : m.gridAfter (some i) = m.grid) (hd : m.drawsAfter (some i) = m.draws) :
    LeavesEffects m (some i) (m.write how) := by
  unfold write
  dsimp only
  split
  · exact ⟨hc.symm, hg.symm, hd.symm⟩
  · exact ⟨trivial, hc.symm, hg.symm, hd.symm⟩

theorem effects_read (m : Machine) {i : Instruction}
    {how : Console → Except Failure (Option Cell) × Console} (atEnd : Cell)
    (hc : m.consoleAfter (some i) = (how m.console).2)
    (hg : m.gridAfter (some i) = m.grid) (hd : m.drawsAfter (some i) = m.draws) :
    LeavesEffects m (some i) (m.read how atEnd) := by
  unfold read
  dsimp only
  split
  · exact ⟨hc.symm, hg.symm, hd.symm⟩
  · exact ⟨trivial, hc.symm, hg.symm, hd.symm⟩

theorem effects_execute (m : Machine) (i : Instruction) :
    LeavesEffects m (some i) (m.execute i) := by
  cases i with
  | turnRandomly => exact effects_turnRandomly m
  | skip => exact Effects.advance ⟨rfl, rfl, rfl⟩
  | store => exact effects_store m
  | fetch => exact effects_fetch m
  | writeNumber => exact effects_write (i := .writeNumber) m rfl rfl rfl
  | writeChar => exact effects_write (i := .writeChar) m rfl rfl rfl
  | readNumber => exact effects_read (i := .readNumber) m 0 rfl rfl rfl
  | readChar =>
    have hc : m.consoleAfter (some .readChar) = (readCharCell m.console).2 := rfl
    exact effects_read m (-1) hc rfl rfl
  | _ => exact ⟨rfl, rfl, rfl⟩

theorem effects_pushText (m : Machine) (content : Option Cell) :
    Effects m none (m.pushText content) := by
  unfold pushText
  split <;> exact ⟨rfl, rfl, rfl⟩

/-- Counting a step changes nothing that an instruction has an effect on. -/
theorem leavesEffects_of_countStep {i? : Option Instruction} {r : Except Interruption Machine}
    (h : LeavesEffects m.countStep i? r) : LeavesEffects m i? r := by
  cases r with
  | ok m' => exact ⟨h.console, h.grid, h.draws⟩
  | error interruption => exact ⟨trivial, h.2.console, h.2.grid, h.2.draws⟩

theorem effects_step (hr : m.isRunning = true) : LeavesEffects m m.upcoming? m.step := by
  have hs := stepping_step hr
  generalize m.step = r at hs ⊢
  cases hs with
  | spent hn | lost hn =>
    rw [hn]
    exact ⟨trivial, rfl, rfl, rfl⟩
  | text hn =>
    rw [hn]
    exact leavesEffects_of_countStep (effects_pushText m.countStep _).moveOn
  | @instruction i hi =>
    rw [hi]
    refine leavesEffects_of_countStep ?_
    have hx := effects_execute m.countStep i
    cases he : m.countStep.execute i with
    | error interruption =>
      rw [he] at hx
      exact hx
    | ok m' =>
      rw [he] at hx
      exact Effects.moveOn hx

theorem effects_tick (m : Machine) : Effects m m.upcoming? m.tick.1 := by
  cases hr : m.isRunning with
  | false =>
    rw [upcoming?_of_stopped hr, tick_of_not_running hr]
    exact ⟨rfl, rfl, rfl⟩
  | true =>
    have hs := effects_step hr
    unfold tick
    rw [if_pos hr]
    split
    · next h =>
      rw [h] at hs
      exact hs
    · next h =>
      rw [h] at hs
      exact { hs.2 with }
    · next h =>
      rw [h] at hs
      exact hs.2

theorem kind_tick (m : Machine) : m.tick.1.console.kind = m.console.kind := by
  rw [(effects_tick m).console]
  unfold consoleAfter
  split
  · rfl
  · exact Console.kind_writeChar m.console m.top
  · exact (Console.readOn_readNumber m.console).kind
  · exact (Console.readOn_readChar m.console).kind
  · rfl

/-- A tick that does not write leaves the output alone. -/
theorem written_tick_of_ne (hn : m.upcoming? ≠ some .writeNumber)
    (hc : m.upcoming? ≠ some .writeChar) : m.tick.1.console.written = m.console.written := by
  rw [(effects_tick m).console]
  unfold consoleAfter
  split
  · next hi => exact absurd hi hn
  · next hi => exact absurd hi hc
  · exact congrArg Output.text (Console.readOn_readNumber m.console).output
  · exact congrArg Output.text (Console.readOn_readChar m.console).output
  · rfl

/-- A tick that does not read leaves the input alone. -/
theorem unread_tick_of_ne (hn : m.upcoming? ≠ some .readNumber)
    (hc : m.upcoming? ≠ some .readChar) : m.tick.1.console.unread = m.console.unread := by
  rw [(effects_tick m).console]
  unfold consoleAfter
  split
  · rfl
  · exact Console.unread_writeChar m.console m.top
  · next hi => exact absurd hi hn
  · next hi => exact absurd hi hc
  · rfl

end Funge93.Machine
