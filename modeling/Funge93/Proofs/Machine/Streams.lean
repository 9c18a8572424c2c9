import Funge93.Proofs.Console.Streams
import Funge93.Proofs.Machine.Failure
import Funge93.Proofs.Machine.Simulation

/-!
# Machines over streams that break down

Run the same program twice: once on a console in memory, and once on streams that hold the same
input and refuse every call after a number of calls. This module proves that the two runs are the
same up to the tick that makes the first call too many, and that this tick ends in the fault of
that call and does nothing else.

Results:
1. `tick_onStreams`: a tick whose calls the streams allow for keeps the two machines alike.
2. `tick_readRefused`, `tick_writeRefused`: a tick with one read or write too many.
3. `streams_cut_run`: the whole run of a new machine.
-/

namespace Funge93

/-- One console is in memory and the other on streams with the same texts, and all else is equal. -/
def Likeness.streams (p : StreamPlan) : Likeness :=
  { equal with console := fun c c' => c.InMemory ∧ c' = c.onStreams p }

namespace Machine

/-- The calls that a machine has made so far are within the plan of two streams. -/
structure Within (p : StreamPlan) (m : Machine) : Prop where
  reads : m.console.input.reads ≤ p.reads
  writes : m.console.output.writes ≤ p.writes

variable {p : StreamPlan} {m m' : Machine}

/-! ## Counting calls -/

theorem writes_le_writeText (c : Console) (t : Text) :
    c.output.writes ≤ (c.writeText t).2.output.writes := by
  unfold Console.writeText Output.put
  cases c.output.refusal t with
  | some e => exact Nat.le_refl _
  | none => exact Nat.le_succ _

theorem writes_le_writeChar (c : Console) (n : Int) :
    c.output.writes ≤ (c.writeChar n).2.output.writes := by
  unfold Console.writeChar
  split
  · exact writes_le_writeText c _
  · exact Nat.le_refl _

theorem calls_le_tick (m : Machine) :
    m.console.input.reads ≤ m.tick.1.console.input.reads ∧
      m.console.output.writes ≤ m.tick.1.console.output.writes := by
  rw [(effects_tick m).console]
  unfold consoleAfter
  split
  · exact ⟨Nat.le_refl _, writes_le_writeText _ _⟩
  · have h := Console.input_writeChar m.console m.top
    exact ⟨Nat.le_of_eq (congrArg Input.reads h.symm), writes_le_writeChar _ _⟩
  · have h := Console.readOn_readNumber m.console
    exact ⟨h.reads, Nat.le_of_eq (congrArg Output.writes h.output.symm)⟩
  · have h := Console.readOn_readChar m.console
    exact ⟨h.reads, Nat.le_of_eq (congrArg Output.writes h.output.symm)⟩
  · exact ⟨Nat.le_refl _, Nat.le_refl _⟩

theorem Within.of_ticked {k : Nat} (h : Within p (m.ticked k)) : Within p m := by
  induction k generalizing m with
  | zero => exact h
  | succ k ih =>
    have ht : Within p m.tick.1 := ih h
    obtain ⟨hr, hw⟩ := calls_le_tick m
    exact ⟨Nat.le_trans hr ht.reads, Nat.le_trans hw ht.writes⟩

theorem Within.of_le {i k : Nat} (h : Within p (m.ticked k)) (hi : i ≤ k) :
    Within p (m.ticked i) := by
  rw [← Nat.add_sub_cancel' hi, ticked_add] at h
  exact h.of_ticked

/-! ## Ticks within the plan -/

theorem onStreams_of_alike (h : Alike (.streams p) m m') :
    m' = { m with console := m.console.onStreams p } :=
  eq_of_alike h h.place.symm h.stack.symm h.console.2 h.clock.symm

theorem sameAnswer_of_cutWrite {r r' : Option Failure × Console} {c : Console}
    (h : Console.CutWrite p c r r') (hw : r.2.output.writes ≤ p.writes) (hr : r.2.InMemory) :
    (Likeness.streams p).SameAnswer r r' := by
  rw [h.within hw]
  exact ⟨rfl, hr, rfl⟩

theorem sameAnswer_of_cutRead {α : Type} {r r' : Except Failure α × Console}
    (h : Console.CutRead p r r') (hr : r.2.input.reads ≤ p.reads) (hm : r.2.InMemory) :
    (Likeness.streams p).SameAnswer r r' := by
  rw [h.within hr]
  exact ⟨rfl, hm, rfl⟩

/-- The calls of an instruction are answered alike if the plan allows for them. -/
theorem usesAlike_onStreams (h : Alike (.streams p) m m') (hm : Within p m) {i : Instruction}
    (hreads : (m.consoleAfter (some i)).input.reads ≤ p.reads)
    (hwrites : (m.consoleAfter (some i)).output.writes ≤ p.writes) :
    UsesAlike (.streams p) m m' i := by
  have hmemory : m.console.InMemory := h.console.1
  refine usesAlike_onConsole h ?writeNumber ?writeChar ?readNumber ?readChar <;>
    rintro rfl <;> rw [h.console.2]
  case writeNumber =>
    exact sameAnswer_of_cutWrite (Console.cut_writeText hmemory _) hwrites (hmemory.writeText _)
  case writeChar =>
    exact sameAnswer_of_cutWrite (Console.cut_writeChar hmemory hm.writes _) hwrites
      (hmemory.writeChar _)
  case readNumber =>
    exact sameAnswer_of_cutRead (Console.cut_readNumber hmemory.input hm.reads) hreads
      hmemory.readNumber
  case readChar =>
    exact sameAnswer_of_cutRead (Console.cut_readChar hmemory.input hm.reads) hreads
      hmemory.readChar

theorem tick_onStreams (h : Alike (.streams p) m m') (ht : Within p m.tick.1) :
    Alike (.streams p) m.tick.1 m'.tick.1 := by
  have hm : Within p m := Within.of_ticked (k := 1) ht
  have heffects := (effects_tick m).console
  refine (tick_onConsole h fun i hi => ?_).1
  rw [hi] at heffects
  exact usesAlike_onStreams h hm (heffects ▸ ht.reads) (heffects ▸ ht.writes)

theorem ticked_onStreams (h : Alike (.streams p) m m') {k : Nat} (hk : Within p (m.ticked k)) :
    Alike (.streams p) (m.ticked k) (m'.ticked k) := by
  refine ticked_alike (C := fun m => Within p m.tick.1) tick_onStreams h fun i hi => ?_
  show Within p ((m.ticked i).ticked 1)
  rw [← ticked_add]
  exact hk.of_le hi

/-! ## The tick with a call too many -/

theorem tick_of_refusedRead {i : Instruction} (hi : m.upcoming? = some i)
    {how : Console → Except Failure (Option Cell) × Console} {atEnd : Cell}
    (hx : m.countStep.execute i = m.countStep.read how atEnd) {f : Fault}
    (he : (how m.console).1 = .error (.fault f)) :
    m.tick = ({ m.countStep with console := (how m.console).2, status := .faulted f }, none) := by
  have hread : m.countStep.read how atEnd =
      .error ⟨.fault f, { m.countStep with console := (how m.console).2 }⟩ := by
    unfold read
    rw [show m.countStep.console = m.console from rfl]
    dsimp only
    rw [he]
  have hstep : m.step = .error ⟨.fault f, { m.countStep with console := (how m.console).2 }⟩ := by
    rw [step_of_upcoming hi, hx, hread]
    rfl
  have hr := isRunning_of_upcoming hi
  exact tick_of_error hr hstep (eq_of_beq hr)

theorem tick_of_refusedWrite {i : Instruction} (hi : m.upcoming? = some i)
    {how : Console → Int → Option Failure × Console}
    (hx : m.countStep.execute i = m.countStep.write how) {f : Fault} {c : Console}
    (he : how m.console m.top = (some (.fault f), c)) :
    m.tick = ({ m.countStep with
      stack := m.stack.discard, console := c, status := .faulted f }, none) := by
  have hwrite : m.countStep.write how =
      .error ⟨.fault f, { m.countStep with stack := m.stack.discard, console := c }⟩ := by
    unfold write
    rw [show m.countStep.console = m.console from rfl]
    simp only [Stack.pop]
    rw [show how m.console m.countStep.stack.peek.toInt = (some (.fault f), c) from he]
    rfl
  have hstep : m.step =
      .error ⟨.fault f, { m.countStep with stack := m.stack.discard, console := c }⟩ := by
    rw [step_of_upcoming hi, hx, hwrite]
    rfl
  have hr := isRunning_of_upcoming hi
  exact tick_of_error hr hstep (eq_of_beq hr)

/-- If a tick reads more often than before, it executes one of the two instructions that read. -/
theorem upcoming?_of_reads_lt (h : m.console.input.reads < m.tick.1.console.input.reads) :
    m.upcoming? = some .readNumber ∨ m.upcoming? = some .readChar := by
  rw [(effects_tick m).console] at h
  unfold consoleAfter at h
  split at h
  · exact absurd h (Nat.lt_irrefl _)
  · rw [Console.input_writeChar] at h
    exact absurd h (Nat.lt_irrefl _)
  · next hi => exact .inl hi
  · next hi => exact .inr hi
  · exact absurd h (Nat.lt_irrefl _)

theorem upcoming?_of_writes_lt (h : m.console.output.writes < m.tick.1.console.output.writes) :
    m.upcoming? = some .writeNumber ∨ m.upcoming? = some .writeChar := by
  rw [(effects_tick m).console] at h
  unfold consoleAfter at h
  split at h
  · next hi => exact .inl hi
  · next hi => exact .inr hi
  · rw [(Console.readOn_readNumber m.console).output] at h
    exact absurd h (Nat.lt_irrefl _)
  · rw [(Console.readOn_readChar m.console).output] at h
    exact absurd h (Nat.lt_irrefl _)
  · exact absurd h (Nat.lt_irrefl _)

theorem tick_readRefused (h : Alike (.streams p) m m') (hm : Within p m)
    (hbeyond : p.reads < m.tick.1.console.input.reads) :
    ∃ c : Console, c.output = m'.console.output ∧ m'.tick = ({ m'.countStep with
      console := c, status := .faulted (.inputFailed p.readReason) }, none) := by
  have hinput := h.console.1.input
  have hconsole : m'.console = m.console.onStreams p := h.console.2
  have hup := upcoming?_of_reads_lt (Nat.lt_of_le_of_lt hm.reads hbeyond)
  rw [(effects_tick m).console] at hbeyond
  rcases hup with hi | hi
  · rw [hi] at hbeyond
    have hread : m'.console.readNumber.1 = .error p.readFailure := by
      rw [hconsole]
      exact (Console.cut_readNumber hinput hm.reads).beyond hbeyond
    exact ⟨m'.console.readNumber.2, (Console.readOn_readNumber _).output,
      tick_of_refusedRead ((upcoming?_onConsole h).trans hi) rfl hread⟩
  · rw [hi] at hbeyond
    have hread : (readCharCell m'.console).1 = .error p.readFailure := by
      rw [hconsole]
      exact congrArg (Except.map _) ((Console.cut_readChar hinput hm.reads).beyond hbeyond)
    exact ⟨m'.console.readChar.2, (Console.readOn_readChar _).output,
      tick_of_refusedRead ((upcoming?_onConsole h).trans hi) rfl hread⟩

theorem tick_writeRefused (h : Alike (.streams p) m m') (hm : Within p m)
    (hbeyond : p.writes < m.tick.1.console.output.writes) :
    m'.tick = ({ m'.countStep with
      stack := m'.stack.discard, status := .faulted (.outputFailed p.writeReason) }, none) := by
  have hmemory := h.console.1
  have hconsole : m'.console = m.console.onStreams p := h.console.2
  have htop : m'.top = m.top := top_eq (Likeness.kept_onConsole _) h
  have hup := upcoming?_of_writes_lt (Nat.lt_of_le_of_lt hm.writes hbeyond)
  rw [(effects_tick m).console] at hbeyond
  rcases hup with hi | hi
  · rw [hi] at hbeyond
    have hwrite : m'.console.writeNumber m'.top = (some p.writeFailure, m'.console) := by
      rw [hconsole, htop]
      exact (Console.cut_writeText hmemory _).beyond hbeyond
    exact tick_of_refusedWrite ((upcoming?_onConsole h).trans hi) rfl hwrite
  · rw [hi] at hbeyond
    have hwrite : m'.console.writeChar m'.top = (some p.writeFailure, m'.console) := by
      rw [hconsole, htop]
      exact (Console.cut_writeChar hmemory hm.writes _).beyond hbeyond
    exact tick_of_refusedWrite ((upcoming?_onConsole h).trans hi) rfl hwrite

/-! ## Runs of new machines -/

/-- The machine on streams agrees with the one in memory: it has the same look-ahead, the same input
ahead of it and the same output behind it, and all else is equal. -/
structure SameRun (m m' : Machine) : Prop where
  machine : m' = { m with console := m'.console }
  pending : m'.console.pending = m.console.pending
  unread : m'.console.unread = m.console.unread
  written : m'.console.written = m.console.written

theorem sameRun_of_alike (h : Alike (.streams p) m m') : SameRun m m' := by
  have hsame := onStreams_of_alike h
  rw [hsame]
  exact ⟨rfl, rfl, rfl, rfl⟩

/-- Take a new machine on a console in memory, and the same machine on streams with the same input
that refuse all calls beyond a number of reads and a number of writes. As long as the machine in
memory has not made more calls, the two agree. If its next tick makes a read too many, that tick of
the other ends in a fault of the input and changes nothing but the step counter and the input; if it
makes a write too many, in a fault of the output, with the operand lost. -/
theorem streams_cut_run (grid : Grid) (draws : Draws) (maxSteps : Option Int) (t : Text)
    (p : StreamPlan) :
    let input : Input := ⟨t, 0, some ⟨p.reads, .refused p.readReason⟩⟩
    let output : Output := ⟨#[], 0, some ⟨p.writes, .refused p.writeReason⟩, .write, false⟩
    let memory := start grid (.buffer t) draws maxSteps
    let streams := start grid (.stream input output) draws maxSteps
    ∀ k, Within p (memory.ticked k) →
      SameRun (memory.ticked k) (streams.ticked k) ∧
      (p.reads < (memory.ticked (k + 1)).console.input.reads →
        (streams.ticked (k + 1)).console.written = (memory.ticked k).console.written ∧
        streams.ticked (k + 1) = { (memory.ticked k).countStep with
          console := (streams.ticked (k + 1)).console
          status := .faulted (.inputFailed p.readReason) }) ∧
      (p.writes < (memory.ticked (k + 1)).console.output.writes →
        streams.ticked (k + 1) = { (memory.ticked k).countStep with
          stack := (memory.ticked k).stack.discard
          console := (streams.ticked k).console
          status := .faulted (.outputFailed p.writeReason) }) := by
  intro input output memory streams k hk
  have hstart : Alike (.streams p) memory streams :=
    ⟨rfl, rfl, ⟨⟨rfl, rfl, rfl, rfl⟩, rfl⟩, rfl, rfl, rfl, rfl, rfl⟩
  have hlike := ticked_onStreams hstart hk
  have hsame := sameRun_of_alike hlike
  have htick (m : Machine) : m.ticked (k + 1) = (m.ticked k).tick.1 := ticked_add m k 1
  refine ⟨hsame, fun hbeyond => ?_, fun hbeyond => ?_⟩
  · rw [htick] at hbeyond
    obtain ⟨c, houtput, hc⟩ := tick_readRefused hlike hk hbeyond
    rw [htick, hc]
    refine ⟨?_, ?_⟩
    · rw [← hsame.written]
      exact congrArg Output.text houtput
    · rw [hsame.machine]
      rfl
  · rw [htick] at hbeyond
    rw [htick, tick_writeRefused hlike hk hbeyond, hsame.machine]
    rfl

/-- The first of two reads is allowed and the second refused. -/
theorem streams_cut_second_read :
    let input : Input := ⟨"A", 0, some ⟨1, .refused "gone"⟩⟩
    let output : Output := ⟨#[], 0, some ⟨0, .refused "full"⟩, .write, false⟩
    let streams := start (Grid.ofLines ["~~@"]) (.stream input output) (.ofSeed none) none
    (streams.ticked 2).status = .faulted (.inputFailed "gone") :=
  congrArg Machine.status ((streams_cut_run (Grid.ofLines ["~~@"]) (.ofSeed none) none "A"
    ⟨1, "gone", 0, "full"⟩ 1 ⟨by decide +kernel, by decide +kernel⟩).2.1 (by decide +kernel)).2

end Machine

end Funge93
