import Funge93.Proofs.Console.Frame
import Funge93.Proofs.Machine.Invariant
import Funge93.Proofs.Machine.Upcoming

/-!
# Failed ticks

A tick can fail because the budget is used up, because a number is no character, because a device
fails, because there is no device, or because a draw stands for no direction. Each of these strikes
at another point of the tick. This module proves that none of them leaves anything half-done.

Results:
1. `spared_execute`: an instruction that fails has changed nothing but what it took from the input
   and the random source, and the top of the stack if it is one that writes.
2. `moveOn_of_headed`: moving on does not fail, so an instruction that went through is completed.
3. `tick_failed`: what a failed tick leaves of a machine, in every state that callers can bring
   about.
-/

namespace Funge93

/-- The status of a machine after a failure: a fault is recorded, a misuse is not. -/
def Failure.status : Failure → Status
  | .fault f => .faulted f
  | .misuse _ => .running

/-- The misuse that a failure is. -/
def Failure.misuse? : Failure → Option Misuse
  | .fault _ => none
  | .misuse e => some e

/-- The instruction writes to the console. -/
def Instruction.isWrite : Instruction → Bool
  | .writeNumber => true
  | .writeChar => true
  | _ => false

namespace Machine

/-- `Spared m i? m'`: an instruction that failed has made nothing more of the machine `m` than `m'`,
where only the input, the random source and the top of the stack may differ. -/
structure Spared (m : Machine) (i? : Option Instruction) (m' : Machine) : Prop where
  grid : m'.grid = m.grid
  pointer : m'.col = m.col ∧ m'.row = m.row
  heading : m'.heading = m.heading
  mode : m'.mode = m.mode
  status : m'.status = m.status
  counters : m'.counters = m.counters
  stack : m'.stack = if i?.any Instruction.isWrite then m.stack.discard else m.stack
  written : m'.console.written = m.console.written

/-- What a tick whose step fails with `e` makes of the machine `m`. -/
structure Aborted (m : Machine) (e : Failure) (result : Machine × Option Misuse) : Prop where
  grid : result.1.grid = m.grid
  pointer : result.1.col = m.col ∧ result.1.row = m.row
  heading : result.1.heading = m.heading
  mode : result.1.mode = m.mode
  counters : result.1.counters = { m.counters with steps := m.counters.steps + 1 }
  /-- Only an instruction that writes has lost its operand. -/
  stack : result.1.stack.items =
    if m.upcoming?.any Instruction.isWrite then m.stack.items.tail else m.stack.items
  peak : result.1.stack.peak = m.stack.peak
  written : result.1.console.written = m.console.written
  status : result.1.status = e.status
  misuse : result.2 = e.misuse?

variable {m m' : Machine} {e : Failure}

/-! ## Instructions that fail -/

theorem Spared.refl (m : Machine) : Spared m none m :=
  ⟨rfl, ⟨rfl, rfl⟩, rfl, rfl, rfl, rfl, rfl, rfl⟩

theorem advance_of_headed (h : ∃ d, m.heading = .toward d) : ∃ m', m.advance = .ok m' := by
  obtain ⟨d, hd⟩ := h
  unfold advance
  rw [hd]
  exact ⟨_, rfl⟩

theorem moveOn_of_headed (h : ∃ d, m.heading = .toward d) : ∃ m', m.moveOn = .ok m' := by
  unfold moveOn
  split
  · exact advance_of_headed h
  · exact ⟨m, rfl⟩

theorem spared_turnRandomly (h : m.turnRandomly = .error ⟨e, m'⟩) :
    Spared m (some .turnRandomly) m' := by
  unfold turnRandomly at h
  dsimp only at h
  split at h
  · cases h
  · cases h
    exact ⟨rfl, ⟨rfl, rfl⟩, rfl, rfl, rfl, rfl, rfl, rfl⟩

theorem spared_read {i : Instruction} {how : Console → Except Failure (Option Cell) × Console}
    {atEnd : Cell} (hi : i.isWrite = false) (hread : Console.ReadOn m.console (how m.console).2)
    (h : m.read how atEnd = .error ⟨e, m'⟩) : Spared m (some i) m' := by
  have hstack :
      m.stack = if (some i).any Instruction.isWrite then m.stack.discard else m.stack := by
    rw [Option.any_some, hi]
    rfl
  unfold read at h
  dsimp only at h
  split at h
  · cases h
  · cases h
    exact ⟨rfl, ⟨rfl, rfl⟩, rfl, rfl, rfl, rfl, hstack, congrArg Output.text hread.output⟩

theorem spared_write {i : Instruction} {how : Console → Int → Option Failure × Console}
    (hi : i.isWrite = true)
    (hwrite : ∀ n e, (how m.console n).1 = some e → (how m.console n).2 = m.console)
    (h : m.write how = .error ⟨e, m'⟩) : Spared m (some i) m' := by
  have hstack : m.stack.discard =
      if (some i).any Instruction.isWrite then m.stack.discard else m.stack := by
    rw [Option.any_some, hi]
    rfl
  unfold write at h
  dsimp only at h
  split at h
  · cases h
  · next failed =>
    cases h
    have hsame := hwrite m.stack.peek.toInt e failed
    exact ⟨rfl, ⟨rfl, rfl⟩, rfl, rfl, rfl, rfl, hstack, congrArg Console.written hsame⟩

/-- Only random turns, reads and writes fail, and they fail before they do anything else. -/
theorem spared_execute {i : Instruction} (hh : ∃ d, m.heading = .toward d)
    (hc : m.console.DropsFailedWrites) (h : m.execute i = .error ⟨e, m'⟩) :
    Spared m (some i) m' := by
  cases i with
  | turnRandomly => exact spared_turnRandomly h
  | skip =>
    obtain ⟨m'', ha⟩ := advance_of_headed hh
    rw [show m.execute .skip = .ok m'' from ha] at h
    cases h
  | store =>
    rw [show m.execute .store = .ok _ from store_eq m] at h
    cases h
  | fetch =>
    rw [show m.execute .fetch = .ok _ from fetch_eq m] at h
    cases h
  | writeNumber =>
    replace h : m.write Console.writeNumber = .error ⟨e, m'⟩ := h
    exact spared_write rfl (fun _ _ failed => Console.writeText_of_failed hc failed) h
  | writeChar =>
    replace h : m.write Console.writeChar = .error ⟨e, m'⟩ := h
    exact spared_write rfl (fun _ _ failed => Console.writeChar_of_failed hc failed) h
  | readNumber =>
    replace h : m.read Console.readNumber 0 = .error ⟨e, m'⟩ := h
    exact spared_read rfl (Console.readOn_readNumber _) h
  | readChar =>
    replace h : m.read readCharCell (-1) = .error ⟨e, m'⟩ := h
    exact spared_read rfl (Console.readOn_readChar _) h
  | _ => cases h

/-! ## Steps and ticks that fail -/

/-- What acts on the cell under the pointer keeps the pointer headed for one of four directions. -/
theorem headed_of_evolves (h : Evolves m m') (hh : ∃ d, m.heading = .toward d) :
    ∃ d, m'.heading = .toward d := by
  rcases h.heading with hs | hd
  · rw [hs]
    exact hh
  · exact hd

theorem spared_step (hr : m.isRunning = true) (hh : ∃ d, m.heading = .toward d)
    (hc : m.console.DropsFailedWrites) (h : m.step = .error ⟨e, m'⟩) :
    Spared m.countStep m.upcoming? m' := by
  have hs := stepping_step hr
  rw [h] at hs
  generalize hresult : Except.error (Interruption.mk e m') = r at hs
  cases hs with
  | spent hn | lost hn =>
    cases hresult
    rw [hn]
    exact .refl _
  | text =>
    obtain ⟨m'', hm⟩ := moveOn_of_headed (headed_of_evolves (evolves_pushText m.countStep _) hh)
    rw [hm] at hresult
    cases hresult
  | @instruction i hi =>
    cases hx : m.countStep.execute i with
    | error interruption =>
      rw [hx] at hresult
      cases hresult
      rw [hi]
      exact spared_execute (m := m.countStep) hh hc hx
    | ok done =>
      -- The instruction went through, and so does the move after it.
      rw [hx] at hresult
      obtain ⟨m'', hm⟩ := moveOn_of_headed (headed_of_evolves (evolves_of_execute hx) hh)
      replace hresult : _ = done.moveOn := hresult
      rw [hm] at hresult
      cases hresult

theorem tick_of_error (hr : m.isRunning = true) (h : m.step = .error ⟨e, m'⟩)
    (hm : m'.status = .running) : m.tick = ({ m' with status := e.status }, e.misuse?) := by
  unfold tick
  rw [if_pos hr, h]
  cases e with
  | fault f => rfl
  | misuse e =>
    show (m', some e) = ({ m' with status := .running }, some e)
    rw [← hm]

theorem aborted_tick (hr : m.isRunning = true) (hh : ∃ d, m.heading = .toward d)
    (hc : m.console.DropsFailedWrites) (h : m.step = .error ⟨e, m'⟩) : Aborted m e m.tick := by
  have hs := spared_step hr hh hc h
  have hrunning : m.status = .running := eq_of_beq hr
  rw [tick_of_error hr h (hs.status.trans hrunning)]
  refine ⟨hs.grid, hs.pointer, hs.heading, hs.mode, hs.counters, ?_, ?_, hs.written, rfl, rfl⟩
  · show m'.stack.items = _
    rw [hs.stack]
    split <;> rfl
  · show m'.stack.peak = _
    rw [hs.stack]
    split <;> rfl

/-! ## Machines in use -/

theorem dropsFailedWrites_consoleAfter (hc : m.console.DropsFailedWrites)
    (i? : Option Instruction) : (m.consoleAfter i?).DropsFailedWrites := by
  unfold consoleAfter
  split
  · exact hc.writeText _
  · exact hc.writeChar _
  · exact hc.readOn (Console.readOn_readNumber _)
  · exact hc.readOn (Console.readOn_readChar _)
  · exact hc

theorem dropsFailedWrites_calls {cs : List Call} (hc : m.console.DropsFailedWrites)
    (hcs : ∀ console, .reconnect console ∈ cs → console.DropsFailedWrites) :
    (m.calls cs).console.DropsFailedWrites := by
  induction cs generalizing m with
  | nil => exact hc
  | cons c cs ih =>
    have hcalled : (m.called c).console.DropsFailedWrites := by
      cases c with
      | tick =>
        show m.tick.1.console.DropsFailedWrites
        rw [(effects_tick m).console]
        exact dropsFailedWrites_consoleAfter hc _
      | reconnect console => exact hcs console List.mem_cons_self
      | push | feed | drain | resetCounters => exact hc
    exact ih hcalled fun console hmem => hcs console (List.mem_cons_of_mem _ hmem)

/-- Take a machine in any state that callers can bring about, on consoles that keep nothing of a
failed write. If its step fails, the tick leaves everything as it was but the step counter, and the
operand of an instruction that writes. A fault is recorded, a misuse comes back, and the pointer
still stands on the cell that failed. -/
theorem tick_failed (grid : Grid) (console : Console) (draws : Draws) (maxSteps : Option Int)
    (cs : List Call) (hc : console.DropsFailedWrites)
    (hcs : ∀ console, .reconnect console ∈ cs → console.DropsFailedWrites) :
    let m := (start grid console draws maxSteps).calls cs
    m.isRunning = true → ∀ e m', m.step = .error ⟨e, m'⟩ → Aborted m e m.tick := by
  intro m hr e m' h
  have hinv := (Invariant.start grid console draws maxSteps).calls cs
  exact aborted_tick hr hinv.headed (dropsFailedWrites_calls hc hcs) h

/-- A device that takes no text at all costs a write its operand, and nothing else. -/
theorem tick_failed_writing :
    let full : Output := { Output.unlimited with breakdown := some ⟨0, .refused "full"⟩ }
    let m := (start (Grid.ofLines ["5."]) (.stream (Input.ofText []) full) (.ofSeed none) none).calls
      [.tick]
    Aborted m (.fault (.outputFailed "full")) m.tick :=
  tick_failed (Grid.ofLines ["5."]) _ _ none [.tick] (.inl rfl) (by simp) rfl _ _ rfl

end Machine

end Funge93
