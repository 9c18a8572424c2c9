import Funge93.Proofs.Machine.Outcome
import Funge93.Proofs.Machine.Simulation

/-!
# Which instruction leaves what

Each effect of a program has instructions that can cause it, and no others. This module says which
ones: for the counters, for the end of the program, and for output that fails.

Results:
1. `counters_execute`: an instruction that goes through is counted as one event or not at all.
2. `number_tick_of_ne`: a tick counts an event only if an upcoming instruction causes it.
3. `halted_tick`, `outputFault_tick`: only the halt instruction halts a program, and only a write of
   a character makes the output fail.
-/

namespace Funge93

/-- The event that an instruction is counted as. -/
def Instruction.event? : Instruction → Option Event
  | .store => some .store
  | .fetch => some .fetch
  | .readNumber => some .read
  | .readChar => some .read
  | .writeNumber => some .write
  | .writeChar => some .write
  | _ => none

/-- The instructions that are counted as the event. -/
def Event.instructions : Event → List Instruction
  | .step => []
  | .store => [.store]
  | .fetch => [.fetch]
  | .read => [.readNumber, .readChar]
  | .write => [.writeNumber, .writeChar]

/-- How often an event was counted. -/
def Counters.number (c : Counters) : Event → Nat
  | .step => c.steps
  | .store => c.stores
  | .fetch => c.fetches
  | .read => c.reads
  | .write => c.writes

/-- The fault is one of output. -/
def Fault.isOutput : Fault → Bool
  | .notACharacter _ => true
  | .outputFailed _ => true
  | _ => false

theorem Instruction.mem_instructions {i : Instruction} {e : Event} (h : i.event? = some e) :
    i ∈ e.instructions := by
  cases i <;> cases h <;> decide

theorem Counters.number_count_of_ne (c : Counters) {e e' : Event} (h : e ≠ e') :
    (c.count e).number e' = c.number e' := by
  cases e <;> cases e' <;> first | exact absurd rfl h | rfl

namespace Machine

variable {g : Grid} {m m' : Machine} {i : Instruction} {e : Event} {f : Fault}

/-! ## Instructions and moves -/

theorem counters_write {how : Console → Int → Option Failure × Console}
    (h : m.write how = .ok m') : m'.counters = m.counters.count .write := by
  unfold write at h
  dsimp only at h
  split at h <;> cases h
  rfl

theorem counters_read {how : Console → Except Failure (Option Cell) × Console} {atEnd : Cell}
    (h : m.read how atEnd = .ok m') : m'.counters = m.counters.count .read := by
  unfold read at h
  dsimp only at h
  split at h <;> cases h
  rfl

theorem counters_turnRandomly (h : m.turnRandomly = .ok m') : m'.counters = m.counters := by
  unfold turnRandomly at h
  dsimp only at h
  split at h <;> cases h
  rfl

theorem keeps_advance (h : m.advance = .ok m') :
    m'.counters = m.counters ∧ m'.status = m.status := by
  unfold advance at h
  split at h <;> cases h
  exact ⟨rfl, rfl⟩

theorem counters_execute (h : m.execute i = .ok m') :
    m'.counters = i.event?.elim m.counters m.counters.count := by
  cases i with
  | turnRandomly => exact counters_turnRandomly h
  | skip => exact (keeps_advance h).1
  | store =>
    rw [show m.execute .store = .ok _ from store_eq m] at h
    cases h
    rfl
  | fetch =>
    rw [show m.execute .fetch = .ok _ from fetch_eq m] at h
    cases h
    rfl
  | writeNumber => exact counters_write (show m.write Console.writeNumber = .ok m' from h)
  | writeChar => exact counters_write (show m.write Console.writeChar = .ok m' from h)
  | readNumber => exact counters_read (show m.read Console.readNumber 0 = .ok m' from h)
  | readChar => exact counters_read (show m.read readCharCell (-1) = .ok m' from h)
  | _ =>
    cases h
    rfl

theorem keeps_moveOn (h : m.moveOn = .ok m') :
    m'.counters = m.counters ∧ m'.status = m.status := by
  unfold moveOn at h
  split at h
  · exact keeps_advance h
  · cases h
    exact ⟨rfl, rfl⟩

theorem advance_ne_fault : m.advance ≠ .error ⟨.fault f, m'⟩ := by
  unfold advance
  split <;> nofun

theorem moveOn_ne_fault : m.moveOn ≠ .error ⟨.fault f, m'⟩ := by
  unfold moveOn
  split
  · exact advance_ne_fault
  · nofun

/-- On a console in memory, a fault of an instruction comes from a write of a character. -/
theorem eq_writeChar_of_fault (hc : m.console.InMemory)
    (h : m.execute i = .error ⟨.fault f, m'⟩) : i = .writeChar := by
  have hother : ¬ (i = .writeNumber ∨ i = .readNumber ∨ i = .readChar) := by
    intro hi
    obtain ⟨done, hok⟩ := execute_of_inMemory hc hi
    rw [hok] at h
    cases h
  cases i with
  | writeChar => rfl
  | writeNumber | readNumber | readChar => exact absurd (by decide) hother
  | turnRandomly =>
    replace h : m.turnRandomly = .error ⟨.fault f, m'⟩ := h
    unfold turnRandomly at h
    dsimp only at h
    split at h <;> cases h
  | skip => exact absurd h advance_ne_fault
  | store =>
    rw [show m.execute .store = .ok _ from store_eq m] at h
    cases h
  | fetch =>
    rw [show m.execute .fetch = .ok _ from fetch_eq m] at h
    cases h
  | _ => cases h

/-! ## Steps -/

/-- What a step that goes through leaves of the counters and the status. -/
theorem keeps_step (hr : m.isRunning = true) (h : m.step = .ok m') :
    m'.counters =
        (m.upcoming?.bind Instruction.event?).elim m.countStep.counters m.countStep.counters.count ∧
      (m.upcoming? ≠ some .halt → m'.status = m.status) := by
  have hs := stepping_step hr
  rw [h] at hs
  generalize hresult : Except.ok m' = r at hs
  cases hs with
  | spent | lost => cases hresult
  | @text content hn =>
    obtain ⟨hcounters, hstatus⟩ := keeps_moveOn hresult.symm
    rw [hn, hcounters, hstatus]
    unfold pushText
    split <;> exact ⟨rfl, fun _ => rfl⟩
  | @instruction i hi =>
    cases hx : m.countStep.execute i with
    | error interruption =>
      rw [hx] at hresult
      cases hresult
    | ok done =>
      rw [hx] at hresult
      obtain ⟨hcounters, hstatus⟩ := keeps_moveOn (m := done) hresult.symm
      rw [hi, hcounters, hstatus, counters_execute hx]
      exact ⟨rfl, fun hne => (completes_execute hx).status fun hhalt => hne (hhalt ▸ rfl)⟩

/-- On a console in memory, a step can only meet a fault of output by writing a character. -/
theorem outputFault_step (hr : m.isRunning = true) (hc : m.console.InMemory)
    (h : m.step = .error ⟨.fault f, m'⟩) (hf : f.isOutput = true) :
    m.upcoming? = some .writeChar := by
  have hs := stepping_step hr
  rw [h] at hs
  generalize hresult : Except.error (Interruption.mk (.fault f) m') = r at hs
  cases hs with
  | spent =>
    cases hresult
    cases hf
  | lost _ hread =>
    cases hresult
    unfold Grid.read at hread
    split at hread <;> cases hread
    cases hf
  | text => exact absurd hresult.symm moveOn_ne_fault
  | @instruction i hi =>
    cases hx : m.countStep.execute i with
    | error interruption =>
      rw [hx] at hresult
      cases hresult
      rw [hi, eq_writeChar_of_fault (m := m.countStep) hc hx]
    | ok done =>
      rw [hx] at hresult
      exact absurd hresult.symm (moveOn_ne_fault (m := done))

/-! ## Ticks -/

theorem dropsFailedWrites_of_inMemory {c : Console} (hc : c.InMemory) : c.DropsFailedWrites :=
  .inl hc.stage

/-- A tick counts no event but its step, and the one of the upcoming instruction. -/
theorem number_tick_of_ne (h : Invariant g m) (hc : m.console.InMemory) (hstep : e ≠ .step)
    (he : ∀ i ∈ e.instructions, m.upcoming? ≠ some i) :
    m.tick.1.counters.number e = m.counters.number e := by
  have hcount : m.countStep.counters.number e = m.counters.number e :=
    m.counters.number_count_of_ne hstep.symm
  have hend := tickEnds_tick m
  generalize m.tick = r at hend ⊢
  cases hend with
  | stopped => rfl
  | stepped hr hs =>
    rw [(keeps_step hr hs).1]
    cases hevent : m.upcoming?.bind Instruction.event? with
    | none => exact hcount
    | some e' =>
      obtain ⟨i, hi, hcause⟩ := Option.bind_eq_some_iff.mp hevent
      have hne : e' ≠ e := fun hsame => he i (Instruction.mem_instructions (hsame ▸ hcause)) hi
      exact (Counters.number_count_of_ne _ hne).trans hcount
  | faulted hr hs | misused hr hs =>
    have hspared := spared_step hr h.headed (dropsFailedWrites_of_inMemory hc) hs
    exact (congrArg (Counters.number · e) hspared.counters).trans hcount

/-- Only the halt instruction halts a program. -/
theorem halted_tick (h : Invariant g m) (hc : m.console.InMemory)
    (hi : m.upcoming? ≠ some .halt) (hs : m.status ≠ .halted) : m.tick.1.status ≠ .halted := by
  have hend := tickEnds_tick m
  generalize m.tick = r at hend ⊢
  cases hend with
  | stopped => exact hs
  | stepped hr hok =>
    rw [(keeps_step hr hok).2 hi]
    exact hs
  | faulted => nofun
  | misused hr herror =>
    have hspared := spared_step hr h.headed (dropsFailedWrites_of_inMemory hc) herror
    rw [hspared.status]
    exact hs

/-- On a console in memory, only a write of a character makes the output fail. -/
theorem outputFault_tick (hc : m.console.InMemory) (hi : m.upcoming? ≠ some .writeChar)
    (hs : ∀ f, m.status = .faulted f → f.isOutput = false) :
    ∀ f, m.tick.1.status = .faulted f → f.isOutput = false := by
  intro f hf
  have hend := tickEnds_tick m
  generalize m.tick = r at hend hf
  have hrunning {m' : Machine} (hr : m.isRunning = true) (he : Evolves m.countStep m') :
      m'.status ≠ .faulted f := by
    intro hfaulted
    rcases he.status with hkept | hhalted
    · rw [hkept, show m.countStep.status = .running from eq_of_beq hr] at hfaulted
      cases hfaulted
    · rw [hhalted] at hfaulted
      cases hfaulted
  cases hend with
  | stopped => exact hs f hf
  | stepped hr _ he | misused hr _ _ he => exact absurd hf (hrunning hr he)
  | faulted hr herror =>
    cases hf
    cases hout : f.isOutput with
    | false => rfl
    | true => exact absurd (outputFault_step hr hc herror hout) hi

end Machine

end Funge93
