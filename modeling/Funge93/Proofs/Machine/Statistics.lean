import Mathlib.Data.Nat.Count
import Funge93.Machine.Stats
import Funge93.Proofs.Console.Numerals
import Funge93.Proofs.Grid.Changes
import Funge93.Proofs.Machine.Counting
import Funge93.Proofs.Machine.StackDepth

/-!
# What the statistics tell

A machine counts its steps, stores, fetches, reads and writes, and keeps the peak of its stack. This
module proves that what it counts is what happened: for a machine on a console in memory each
counter is the number of ticks that did the thing, and an instruction that failed is not counted.

Results:
1. `number_ticked`: the counters count the ticks with an event.
2. `written_tick_piece`, `event?_eq_write_iff`: a tick is counted as a write if it adds a piece of
   text to the output.
3. `card_changes_ticked`: no more positions of the grid change than there are stores.
4. `statistics_ticked`: what the statistics of a program tell about its run.
-/

namespace Funge93

/-- The stores, fetches, reads and writes together. -/
def Counters.events (c : Counters) : Nat := c.stores + c.fetches + c.reads + c.writes

theorem Counters.number_count_self (c : Counters) (e : Event) :
    (c.count e).number e = c.number e + 1 := by
  cases e <;> rfl

theorem Counters.events_count_le {c : Counters} (h : c.events < c.steps) (e : Event) :
    (c.count e).events ≤ (c.count e).steps := by
  cases e <;> simp only [events, count] at h ⊢ <;> omega

namespace Machine

/-- The text that the next tick writes, if it writes any: a character, or a number and a space. -/
def piece? (m : Machine) : Option Text :=
  match m.upcoming? with
  | some .writeNumber => some (Text.ofInt m.top ++ " ")
  | some .writeChar => (CodePoint.ofInt? m.top).map fun ch => [ch]
  | _ => none

/-- What the next tick is counted as, apart from a step. A write of no character is not counted. -/
def event? (m : Machine) : Option Event :=
  if m.upcoming? = some .writeChar ∧ CodePoint.ofInt? m.top = none then none
  else m.upcoming?.bind Instruction.event?

variable {g : Grid} {m m' : Machine} {e : Event}

/-! ## Counting -/

theorem event?_of_step (h : m.step = .ok m') :
    m.event? = m.upcoming?.bind Instruction.event? := by
  unfold event?
  rw [if_neg]
  rintro ⟨hi, hn⟩
  rw [step_of_upcoming hi, execute_writeChar_of_none (m := m.countStep) hn] at h
  cases h

/-- An instruction that is counted goes through. -/
theorem execute_of_event (hc : m.console.InMemory) (he : m.event? = some e) :
    ∃ i m', m.upcoming? = some i ∧ m.countStep.execute i = .ok m' := by
  unfold event? at he
  split at he
  · cases he
  · next hwritable =>
    obtain ⟨i, hi, hcause⟩ := Option.bind_eq_some_iff.mp he
    refine ⟨i, ?_⟩
    suffices hx : ∃ m', m.countStep.execute i = .ok m' by
      obtain ⟨m', hx⟩ := hx
      exact ⟨m', hi, hx⟩
    cases i with
    | store => exact ⟨_, store_eq m.countStep⟩
    | fetch => exact ⟨_, fetch_eq m.countStep⟩
    | writeNumber | readNumber | readChar => exact execute_of_inMemory hc (by decide)
    | writeChar =>
      refine execute_writeChar_of_some hc (Option.ne_none_iff_isSome.mp fun hn => ?_)
      exact hwritable ⟨hi, hn⟩
    | _ => cases hcause

theorem step_of_event (h : Invariant g m) (hc : m.console.InMemory) (he : m.event? = some e) :
    ∃ m', m.step = .ok m' := by
  obtain ⟨i, done, hi, hx⟩ := execute_of_event hc he
  rw [step_of_upcoming hi, hx]
  exact moveOn_of_headed (headed_of_evolves (evolves_of_execute hx) h.headed)

/-- A tick of a running machine counts a step and the event that it is. -/
theorem counters_tick (h : Invariant g m) (hc : m.console.InMemory) (hr : m.isRunning = true) :
    m.tick.1.counters = m.event?.elim m.countStep.counters m.countStep.counters.count := by
  have hend := tickEnds_tick m
  generalize m.tick = r at hend ⊢
  cases hend with
  | stopped hs =>
    rw [hr] at hs
    cases hs
  | stepped _ hs => rw [(keeps_step hr hs).1, event?_of_step hs]
  | faulted _ hs | misused _ hs =>
    cases he : m.event? with
    | none => exact (spared_step hr h.headed (dropsFailedWrites_of_inMemory hc) hs).counters
    | some e =>
      obtain ⟨m', hok⟩ := step_of_event h hc he
      rw [hok] at hs
      cases hs

theorem event?_of_stopped (hr : m.isRunning = false) : m.event? = none := by
  simp [event?, upcoming?_of_stopped hr]

theorem number_tick (h : Invariant g m) (hc : m.console.InMemory) (hne : e ≠ .step) :
    m.tick.1.counters.number e = m.counters.number e + if m.event? = some e then 1 else 0 := by
  cases hr : m.isRunning with
  | false => simp [tick_of_not_running hr, event?_of_stopped hr]
  | true =>
    have hstep : m.countStep.counters.number e = m.counters.number e :=
      m.counters.number_count_of_ne hne.symm
    rw [counters_tick h hc hr]
    cases he : m.event? with
    | none => simp [hstep]
    | some e' =>
      by_cases hsame : e' = e
      · simp [hsame, Counters.number_count_self, hstep]
      · simp [hsame, Counters.number_count_of_ne _ hsame, hstep]

/-- There is at most one event to a step. -/
theorem events_tick_le (h : Invariant g m) (hc : m.console.InMemory)
    (hle : m.counters.events ≤ m.counters.steps) :
    m.tick.1.counters.events ≤ m.tick.1.counters.steps := by
  cases hr : m.isRunning with
  | false =>
    rw [tick_of_not_running hr]
    exact hle
  | true =>
    have hstep : m.countStep.counters.events < m.countStep.counters.steps := Nat.lt_succ_of_le hle
    rw [counters_tick h hc hr]
    cases m.event? with
    | none => exact Nat.le_of_lt hstep
    | some e => exact Counters.events_count_le hstep e

/-! ## Output -/

theorem written_tick_piece (hc : m.console.InMemory) :
    m.tick.1.console.written = m.console.written ++ m.piece?.getD [] := by
  unfold piece?
  split
  · next hi =>
    rw [(effects_tick m).console, hi]
    exact (Console.writeNumber_of_inMemory hc m.top).2.2
  · next hi =>
    rw [(effects_tick m).console, hi]
    show (m.console.writeChar m.top).2.written = _
    unfold Console.writeChar
    cases CodePoint.ofInt? m.top with
    | none => exact (List.append_nil _).symm
    | some ch =>
      dsimp only
      rw [Console.writeText_of_inMemory hc]
      exact Output.text_take _ _
  · next hnumber hchar => simp [written_tick_of_ne hnumber hchar]

theorem piece?_ne_nil (m : Machine) : m.piece? ≠ some [] := by
  have hspace : (" " : Text) ≠ [] := by decide
  unfold piece?
  split
  · simp [hspace]
  · simp
  · simp

theorem event?_eq_write_iff : m.event? = some .write ↔ m.piece?.isSome := by
  unfold event? piece?
  cases m.upcoming? with
  | none => simp
  | some i =>
    cases i with
    | writeChar => cases CodePoint.ofInt? m.top <;> simp [Instruction.event?]
    | _ => simp [Instruction.event?]

/-- A tick is counted as a write if the output changes. -/
theorem event?_eq_write_iff_written (hc : m.console.InMemory) :
    m.event? = some .write ↔ m.tick.1.console.written ≠ m.console.written := by
  rw [event?_eq_write_iff, written_tick_piece hc]
  cases hp : m.piece? with
  | none => simp
  | some piece =>
    have hne : piece ≠ [] := fun hnil => m.piece?_ne_nil (hnil ▸ hp)
    simp [hne]

/-- Each write adds one character at least. -/
theorem writes_tick_le (h : Invariant g m) (hc : m.console.InMemory)
    (hle : m.counters.writes ≤ m.console.written.length) :
    m.tick.1.counters.writes ≤ m.tick.1.console.written.length := by
  have hwrites : m.tick.1.counters.writes = _ := number_tick (e := .write) h hc nofun
  rw [hwrites, written_tick_piece hc, List.length_append]
  refine Nat.add_le_add hle ?_
  split
  · next hevent =>
    obtain ⟨piece, hp⟩ := Option.isSome_iff_exists.mp (event?_eq_write_iff.mp hevent)
    have hne : piece ≠ [] := fun hnil => m.piece?_ne_nil (hnil ▸ hp)
    rw [hp]
    exact List.length_pos_iff.mpr hne
  · exact Nat.zero_le _

/-! ## The grid -/

theorem card_changes_tick (h : Invariant g m) (hc : m.console.InMemory)
    (hle : (g.changes m.grid).card ≤ m.counters.stores) :
    (g.changes m.tick.1.grid).card ≤ m.tick.1.counters.stores := by
  have hstores : m.tick.1.counters.stores = _ := number_tick (e := .store) h hc nofun
  rw [hstores, (effects_tick m).grid]
  by_cases hi : m.upcoming? = some .store
  · have hevent : m.event? = some .store := by simp [event?, hi, Instruction.event?]
    rw [hi, if_pos hevent]
    exact (Grid.card_changes_store h.width _ _ _).trans (Nat.succ_le_succ hle)
  · rw [gridAfter_of_ne_store hi]
    exact Nat.le_add_right_of_le hle

/-! ## Runs -/

theorem number_ticked (h : Invariant g m) (hc : m.console.InMemory) (hne : e ≠ .step) (n : Nat) :
    (m.ticked n).counters.number e =
      m.counters.number e + Nat.count (fun k => (m.ticked k).event? = some e) n := by
  induction n with
  | zero => simp [ticked]
  | succ n ih =>
    rw [ticked_succ, number_tick (h.ticked n) (inMemory_ticked hc n) hne, ih, Nat.count_succ,
      Nat.add_assoc]

theorem steps_ticked_count (m : Machine) (n : Nat) : (m.ticked n).counters.steps =
    m.counters.steps + Nat.count (fun k => (m.ticked k).isRunning = true) n := by
  induction n with
  | zero => simp [ticked]
  | succ n ih =>
    rw [ticked_succ, Nat.count_succ, ← Nat.add_assoc, ← ih]
    cases hr : (m.ticked n).isRunning with
    | true => simp [steps_tick hr]
    | false => simp [tick_of_not_running hr]

theorem events_ticked_le (h : Invariant g m) (hc : m.console.InMemory)
    (hle : m.counters.events ≤ m.counters.steps) (n : Nat) :
    (m.ticked n).counters.events ≤ (m.ticked n).counters.steps := by
  induction n with
  | zero => exact hle
  | succ n ih =>
    rw [ticked_succ]
    exact events_tick_le (h.ticked n) (inMemory_ticked hc n) ih

theorem writes_ticked_le (h : Invariant g m) (hc : m.console.InMemory)
    (hle : m.counters.writes ≤ m.console.written.length) (n : Nat) :
    (m.ticked n).counters.writes ≤ (m.ticked n).console.written.length := by
  induction n with
  | zero => exact hle
  | succ n ih =>
    rw [ticked_succ]
    exact writes_tick_le (h.ticked n) (inMemory_ticked hc n) ih

theorem card_changes_ticked (h : Invariant g m) (hc : m.console.InMemory)
    (hle : (g.changes m.grid).card ≤ m.counters.stores) (n : Nat) :
    (g.changes (m.ticked n).grid).card ≤ (m.ticked n).counters.stores := by
  induction n with
  | zero => exact hle
  | succ n ih =>
    rw [ticked_succ]
    exact card_changes_tick (h.ticked n) (inMemory_ticked hc n) ih

/-- The statistics of a program on a console in memory tell what it did, for any grid, input, random
source and budget and after any number of ticks. The steps are the ticks of a running machine. The
peak is the greatest depth that the stack had at the beginning or after a tick, and it is at most
one above the steps. There is at most one store, fetch, read or write to a step. Stores have changed
no more positions of the grid than there are stores. Each tick adds a piece of text to the output or
leaves it alone, and the writes are the ticks that add something. -/
theorem statistics_ticked (grid : Grid) (t : Text) (draws : Draws) (maxSteps : Option Int)
    (n : Nat) :
    let m (k : Nat) : Machine := (start grid (.buffer t) draws maxSteps).ticked k
    let s := (m n).stats
    s.counters.steps = Nat.count (fun k => (m k).isRunning = true) n ∧
    (∀ k ≤ n, (m k).stack.depth ≤ s.peak) ∧ (∃ k ≤ n, (m k).stack.depth = s.peak) ∧
    s.peak ≤ s.counters.steps + 1 ∧
    s.counters.stores + s.counters.fetches + s.counters.reads + s.counters.writes
      ≤ s.counters.steps ∧
    (grid.changes (m n).grid).card ≤ s.counters.stores ∧
    (∀ k, (m (k + 1)).console.written = (m k).console.written ++ (m k).piece?.getD []) ∧
    s.counters.writes =
      Nat.count (fun k => (m (k + 1)).console.written ≠ (m k).console.written) n := by
  intro m s
  have hinv : Invariant grid (m 0) := .start grid _ draws maxSteps
  have hmemory : (m 0).console.InMemory := Console.inMemory_buffer t
  have hnext (k : Nat) : m (k + 1) = (m k).tick.1 := ticked_succ _ k
  obtain ⟨hdeepest, hreached⟩ := peak_ticked (m := m 0) rfl n
  refine ⟨?steps, hdeepest, hreached, peak_ticked_le (m := m 0) rfl (Nat.zero_le _) n,
    events_ticked_le hinv hmemory (Nat.le_refl 0) n, card_changes_ticked hinv hmemory ?loaded n,
    fun k => ?written, ?writes⟩
  case steps => exact (steps_ticked_count (m 0) n).trans (Nat.zero_add _)
  case loaded => exact (congrArg Finset.card grid.changes_self).le
  case written =>
    rw [hnext]
    exact written_tick_piece (inMemory_ticked hmemory k)
  case writes =>
    have hevent (k : Nat) : (m k).event? = some .write ↔
        (m (k + 1)).console.written ≠ (m k).console.written := by
      rw [hnext]
      exact event?_eq_write_iff_written (inMemory_ticked hmemory k)
    calc
      (m n).counters.number .write
        = 0 + Nat.count (fun k => (m k).event? = some .write) n :=
        number_ticked (e := .write) hinv hmemory nofun n
      _ = Nat.count (fun k => (m (k + 1)).console.written ≠ (m k).console.written) n := by
        simp only [Nat.zero_add, hevent]

end Machine

end Funge93
