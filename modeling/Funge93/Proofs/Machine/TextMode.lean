import Funge93.Proofs.Grid.Laps
import Funge93.Proofs.Grid.Shift
import Funge93.Proofs.Machine.Outcome
import Funge93.Proofs.Machine.SelfModification

/-!
# Text mode

In text mode the pointer travels along its row or column and pushes what it meets, up to a quotation
mark. This module says what the machine looks like after any number of cells, and when text mode
ends. What counts as a quotation mark is the value 34 and nothing else: blank positions are pushed
as spaces, and a stored -1, a stored number that is no character and the cells of instructions are
pushed as they are.

The row or the column need not hold a quotation mark, as the mode can be set from outside. Then text
mode goes on around the torus forever.

Results:
1. `met_mod`: what lies ahead comes again after one turn around the torus.
2. `tick_reading`, `ticked_reading`: one tick in text mode, and any number of them.
3. `quotation_copies`: where text mode ends, and what it has pushed by then.
-/

namespace Funge93

/-- Pushes cells in turn. -/
def Stack.pushAll (s : Stack) (vs : List Cell) : Stack := vs.foldl Stack.push s

theorem Stack.pushAll_concat (s : Stack) (vs : List Cell) (v : Cell) :
    s.pushAll (vs ++ [v]) = (s.pushAll vs).push v := by
  simp [pushAll]

theorem Stack.items_pushAll (s : Stack) (vs : List Cell) :
    (s.pushAll vs).items = vs.reverse ++ s.items := by
  induction vs generalizing s with
  | nil => simp [pushAll]
  | cons v vs ih =>
    calc
      ((s.push v).pushAll vs).items
        = vs.reverse ++ (s.push v).items := ih (s.push v)
      _ = (v :: vs).reverse ++ s.items := by simp

theorem Stack.contents_pushAll (s : Stack) (vs : List Cell) :
    (s.pushAll vs).contents = s.contents ++ vs := by
  simp [contents, items_pushAll]

namespace Machine

/-- `InText m d`: the machine runs in text mode without a budget, and its pointer is on the grid and
headed in the direction `d`. -/
structure InText (m : Machine) (d : Direction) : Prop where
  running : m.isRunning = true
  mode : m.mode = .text
  maxSteps : m.maxSteps = none
  heading : m.heading = .toward d
  inside : m.grid.inBounds m.col m.row = true

/-- What lies so many cells ahead of the pointer. The cell under the pointer is number zero. -/
def met (m : Machine) (d : Direction) (n : Nat) : Option Cell :=
  m.grid.fetch (m.col + n * d.colDelta) (m.row + n * d.rowDelta)

/-- What text mode pushes for the first so many cells ahead. -/
def quoted (m : Machine) (d : Direction) (n : Nat) : List Cell :=
  (List.range n).map fun k => (m.met d k).getD 32

/-- The machine after text mode has pushed so many cells. -/
def reading (m : Machine) (d : Direction) (n : Nat) : Machine :=
  { m with
    col := (m.ahead d n).1
    row := (m.ahead d n).2
    stack := m.stack.pushAll (m.quoted d n)
    counters := { m.counters with steps := m.counters.steps + n } }

/-- The machine after text mode has pushed so many cells and met a quotation mark behind them. -/
def unquoted (m : Machine) (d : Direction) (n : Nat) : Machine :=
  { m with
    mode := .command
    col := (m.ahead d (n + 1)).1
    row := (m.ahead d (n + 1)).2
    stack := m.stack.pushAll (m.quoted d n)
    counters := { m.counters with steps := m.counters.steps + (n + 1) } }

variable {m m' : Machine} {d : Direction} {n : Nat}

/-! ## What lies ahead -/

theorem quoted_succ (m : Machine) (d : Direction) (n : Nat) :
    m.quoted d (n + 1) = m.quoted d n ++ [(m.met d n).getD 32] := by
  simp [quoted, List.range_succ]

/-- What lies ahead comes again after one turn around the torus. -/
theorem met_mod (m : Machine) (d : Direction) (n : Nat) :
    m.met d (n % m.grid.lane d) = m.met d n :=
  m.grid.fetch_congr ((m.grid.wrap_ahead_eq_iff d m.col m.row _ n).mpr (Nat.mod_modEq n _))

/-! ## Ticks in text mode -/

/-- From so many cells ahead, the machine moves on to the next one. -/
theorem moveOn_of_ahead (hr : m'.isRunning = true) (hw : m'.grid.width = m.grid.width)
    (hh : m'.grid.height = m.grid.height) (hd : m'.heading = .toward d)
    (hp : (m'.col, m'.row) = m.ahead d n) :
    m'.moveOn = .ok { m' with col := (m.ahead d (n + 1)).1, row := (m.ahead d (n + 1)).2 } := by
  unfold moveOn
  rw [if_pos hr]
  exact advance_of_ahead hw hh hd hp

theorem tick_reading (h : m.InText d) (n : Nat) : (m.reading d n).tick =
    (if m.met d n = some 34 then m.unquoted d n else m.reading d (n + 1), none) := by
  have hbudget : (m.reading d n).countStep.exceeded? = none := by
    unfold exceeded?
    rw [show (m.reading d n).countStep.maxSteps = none from h.maxSteps]
    rfl
  have hstands : (m.reading d n).StandsOn (m.col + n * d.colDelta) (m.row + n * d.rowDelta) :=
    ⟨h.running, hbudget, rfl⟩
  refine tick_of_ok h.running ((hstands.step_of_text h.mode).trans ?_)
  rw [show (m.reading d n).grid.fetch _ _ = m.met d n from rfl]
  by_cases hquote : m.met d n = some 34
  · rw [if_pos hquote, if_pos hquote]
    exact moveOn_of_ahead h.running rfl rfl h.heading rfl
  · rw [if_neg hquote, if_neg hquote]
    let pushed := (m.reading d n).countStep.push ((m.met d n).getD 32)
    have hmove : pushed.moveOn =
        .ok { pushed with col := (m.ahead d (n + 1)).1, row := (m.ahead d (n + 1)).2 } :=
      moveOn_of_ahead h.running rfl rfl h.heading rfl
    refine hmove.trans ?_
    unfold reading
    rw [quoted_succ, Stack.pushAll_concat]
    rfl

theorem reading_zero (h : m.InText d) : m.reading d 0 = m := by
  have hpointer : m.ahead d (0 : Nat) = (m.col, m.row) := ahead_zero h.inside d
  unfold reading
  rw [hpointer]
  rfl

/-- Text mode goes on for as many cells as there are before the first quotation mark. -/
theorem ticked_reading (h : m.InText d) (hn : ∀ k < n, m.met d k ≠ some 34) :
    m.ticked n = m.reading d n := by
  induction n with
  | zero => exact (reading_zero h).symm
  | succ n ih =>
    rw [ticked_succ, ih fun k hk => hn k (Nat.lt_succ_of_lt hk), tick_reading h,
      if_neg (hn n (Nat.lt_succ_self n))]

/-- Text mode ends at the first quotation mark. -/
theorem ticked_unquoted (h : m.InText d) (hn : ∀ k < n, m.met d k ≠ some 34)
    (hquote : m.met d n = some 34) : m.ticked (n + 1) = m.unquoted d n := by
  rw [ticked_succ, ticked_reading h hn, tick_reading h, if_pos hquote]

/-- Without a quotation mark on the row or the column, there is none anywhere ahead. -/
theorem met_ne_of_lane {v : Cell} (h : ∀ k < m.grid.lane d, m.met d k ≠ some v) (n : Nat) :
    m.met d n ≠ some v := by
  rw [← met_mod]
  exact h _ (Nat.mod_lt n (m.grid.lane_pos d))

/-! ## Machines in use -/

theorem maxSteps_calls (m : Machine) (cs : List Call) : (m.calls cs).maxSteps = m.maxSteps := by
  induction cs generalizing m with
  | nil => rfl
  | cons c cs ih =>
    refine (ih (m.called c)).trans ?_
    cases c with
    | tick => exact maxSteps_tick m
    | push | feed | drain | resetCounters | reconnect => rfl

/-- Whatever callers do with a new machine without a budget, it is ready to go on in text mode as
soon as it is in text mode and runs. Take any machine that is, on any grid, with any stack and in
any of the four directions. If a quotation mark is ahead, text mode ends right behind it. Until then
it pushes, in order, all that lies before it, blank positions as spaces; it counts the ticks as
steps, moves the pointer, and changes nothing else. If there is no quotation mark on the row or the
column, it goes on like this forever, without a fault or a misuse. -/
theorem quotation_copies :
    (∀ (grid : Grid) (console : Console) (draws : Draws) (cs : List Call),
      let m := (start grid console draws none).calls cs
      m.isRunning = true → m.mode = .text → ∃ d, m.InText d) ∧
    ∀ (m : Machine) (d : Direction), m.InText d →
      (∀ n, (m.stack.pushAll (m.quoted d n)).contents = m.stack.contents ++ m.quoted d n) ∧
      (∀ n, (∀ k < n, m.met d k ≠ some 34) → m.met d n = some 34 →
        (∀ k ≤ n, m.ticked k = m.reading d k ∧ (m.ticked k).tick.2 = none) ∧
          m.ticked (n + 1) = m.unquoted d n) ∧
      ((∀ k < m.grid.lane d, m.met d k ≠ some 34) →
        ∀ n, m.ticked n = m.reading d n ∧ (m.ticked n).isRunning = true ∧
          (m.ticked n).tick.2 = none) := by
  constructor
  · intro grid console draws cs m hr hm
    have hinv := (Invariant.start grid console draws none).calls cs
    obtain ⟨d, hd⟩ := hinv.headed
    exact ⟨d, hr, hm, maxSteps_calls _ cs, hd, hinv.inside⟩
  · intro m d h
    have hgoes {n : Nat} (hn : ∀ k < n, m.met d k ≠ some 34) :
        m.ticked n = m.reading d n ∧ (m.ticked n).tick.2 = none := by
      rw [ticked_reading h hn, tick_reading h]
      exact ⟨rfl, rfl⟩
    refine ⟨fun n => Stack.contents_pushAll _ _, fun n hn hquote => ⟨fun k hk => ?_, ?_⟩,
      fun hnone n => ?_⟩
    · exact hgoes fun i hi => hn i (Nat.lt_of_lt_of_le hi hk)
    · exact ticked_unquoted h hn hquote
    · obtain ⟨hreading, hmisuse⟩ := hgoes fun k (_ : k < n) => met_ne_of_lane hnone k
      refine ⟨hreading, ?_, hmisuse⟩
      rw [hreading]
      exact h.running

/-- A quotation runs over the end of its line and across the edge. A machine put into text mode on a
row without a quotation mark goes round and round. -/
theorem quotation_copies_across_edge :
    let m := (start (.ofLines ["\"a", "xyz"]) (.buffer []) (.ofSeed none) none).calls
      [.push (-1), .tick]
    let round := { start (.ofLines ["ab"]) (.buffer []) (.ofSeed none) none with mode := .text }
    m.InText .right ∧ m.ticked 3 = m.unquoted .right 2 ∧
      (m.ticked 3).stack.contents = [-1, 97, 32] ∧
      round.ticked 5 = round.reading .right 5 ∧
      (round.ticked 5).stack.contents = [97, 98, 97, 98, 97] := by
  intro m round
  obtain ⟨d, hm⟩ := quotation_copies.1 (.ofLines ["\"a", "xyz"]) (.buffer []) (.ofSeed none)
    [.push (-1), .tick] (by decide +kernel) (by decide +kernel)
  obtain rfl : d = .right := by
    have hright : m.heading = .toward .right := by decide +kernel
    exact Heading.toward.inj (hm.heading.symm.trans hright)
  obtain ⟨hcopied, hended, -⟩ := quotation_copies.2 m .right hm
  obtain ⟨-, hthree⟩ := hended 2 (by decide +kernel) (by decide +kernel)
  have hround : round.InText .right := ⟨rfl, rfl, rfl, rfl, by decide +kernel⟩
  obtain ⟨hcopied', -, hforever⟩ := quotation_copies.2 round .right hround
  obtain ⟨hfive, -⟩ := hforever (by decide +kernel) 5
  refine ⟨hm, hthree, ?_, hfive, ?_⟩
  · rw [hthree]
    exact (hcopied 2).trans (by decide +kernel)
  · rw [hfive]
    exact (hcopied' 5).trans (by decide +kernel)

end Machine

end Funge93
