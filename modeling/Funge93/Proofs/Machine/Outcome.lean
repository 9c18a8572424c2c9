import Funge93.Proofs.Console.Streams
import Funge93.Proofs.Machine.Failure
import Funge93.Proofs.Machine.RandomTurns

/-!
# How a tick ends

On a console in memory, with draws that stand for directions, there are four ways for a tick to end:
the budget refuses the step, the program writes a number that is no character, it halts, or it goes
on. This module says exactly when each of them happens. Nothing else can stop a program: no division
by zero, no empty stack, no end of the input, no coordinate and no cell.

Results:
1. `completes_execute`: what an instruction that goes through makes of the pointer and the status.
2. `execute_of_reliable`: every instruction goes through, except for a write of no character.
3. `ending_tick`: the four ends of a tick, each with the condition under which it comes about.
4. `tick_outcome`: when a tick ends how, in every state that ticks bring about, and that a stopped
   machine stays as it is.
-/

namespace Funge93.Machine

/-! ## Conditions -/

/-- The budget does not allow a further step. -/
def OutOfSteps (m : Machine) : Prop :=
  ∃ limit, m.maxSteps = some limit ∧ limit < m.counters.steps + 1

/-- In command mode, the pointer stands on a cell. -/
def Meets (m : Machine) (v : Cell) : Prop :=
  m.mode = .command ∧ m.grid.get m.col m.row = .ok v

/-- The program is about to write a number as a character that is not the number of one. -/
def WritesNoCharacter (m : Machine) : Prop := m.Meets 44 ∧ (m.top < 0 ∨ 0x10FFFF < m.top)

/-- The position so many cells from the pointer in a direction of the torus. -/
def ahead (m : Machine) (d : Direction) (cells : Int) : Int × Int :=
  m.grid.wrap (m.col + cells * d.colDelta) (m.row + cells * d.rowDelta)

/-- When the tick of a running machine ends how. -/
structure Outcome (m : Machine) (result : Machine × Option Misuse) : Prop where
  misuse : result.2 = none
  spent : ∀ limit, result.1.status = .faulted (.stepLimit limit) ↔
    m.maxSteps = some limit ∧ limit < m.counters.steps + 1
  unwritable : ∀ number, result.1.status = .faulted (.notACharacter number) ↔
    ¬ m.OutOfSteps ∧ m.WritesNoCharacter ∧ number = m.top
  halted : result.1.status = .halted ↔ ¬ m.OutOfSteps ∧ m.Meets 64
  running : result.1.isRunning = true ↔
    ¬ m.OutOfSteps ∧ ¬ m.WritesNoCharacter ∧ ¬ m.Meets 64
  /-- Whatever stops the program leaves the pointer where it was. -/
  stays : result.1.isRunning = false → (result.1.col, result.1.row) = (m.col, m.row)
  /-- The pointer moves in the direction that the instruction leaves. -/
  moves : result.1.isRunning = true → ∃ d, result.1.heading = .toward d ∧
    (m.Meets 35 → (result.1.col, result.1.row) = m.ahead d 2) ∧
    (¬ m.Meets 35 → (result.1.col, result.1.row) = m.ahead d 1)

/-- The ends of the tick of a running machine. -/
inductive Ending (m : Machine) : Machine × Option Misuse → Prop
  | spent {limit : Int} : m.maxSteps = some limit → limit < m.counters.steps + 1 →
      Ending m ({ m.countStep with status := .faulted (.stepLimit limit) }, none)
  | unwritable : ¬ m.OutOfSteps → m.WritesNoCharacter →
      Ending m ({ m.countStep with
        stack := m.stack.discard, status := .faulted (.notACharacter m.top) }, none)
  | halted : ¬ m.OutOfSteps → m.Meets 64 →
      Ending m ({ m.countStep with status := .halted }, none)
  | running {m' : Machine} {d : Direction} : ¬ m.OutOfSteps → ¬ m.WritesNoCharacter →
      ¬ m.Meets 64 → m'.isRunning = true → m'.heading = .toward d →
      (m.Meets 35 → (m'.col, m'.row) = m.ahead d 2) →
      (¬ m.Meets 35 → (m'.col, m'.row) = m.ahead d 1) → Ending m (m', none)

/-- What an instruction that goes through makes of the pointer and the status. -/
structure Completes (m : Machine) (i : Instruction) (m' : Machine) : Prop where
  pointer : i ≠ .skip → m'.col = m.col ∧ m'.row = m.row
  skipped : i = .skip → ∃ d, m'.heading = .toward d ∧
    (m'.col, m'.row) = m.grid.step m.col m.row d
  status : i ≠ .halt → m'.status = m.status

/-- A machine that started on the grid `g`, with a console that never fails and draws that all stand
for directions. -/
structure Reliable (g : Grid) (m : Machine) : Prop extends Invariant g m where
  console : m.console.InMemory
  draws : m.draws.Proper
  halted : m.status = .halted → m.Meets 64

variable {g : Grid} {m m' : Machine} {i : Instruction}

/-! ## What is ahead -/

theorem exceeded?_eq_some_iff {limit : Int} : m.countStep.exceeded? = some limit ↔
    m.maxSteps = some limit ∧ limit < m.counters.steps + 1 := by
  unfold exceeded?
  rw [Option.filter_eq_some_iff, decide_eq_true_iff]
  exact Iff.rfl

theorem exceeded?_eq_none_iff : m.countStep.exceeded? = none ↔ ¬ m.OutOfSteps := by
  unfold OutOfSteps
  rw [Option.eq_none_iff_forall_ne_some, not_exists]
  exact forall_congr' fun limit => not_congr exceeded?_eq_some_iff

theorem Meets.unique {v w : Cell} (h : m.Meets v) (h' : m.Meets w) : v = w := by
  have hsame := h.2.symm.trans h'.2
  exact Except.ok.inj hsame

/-- Within the budget, the pointer stands on a cell in command mode exactly if the instruction of
that cell comes next. -/
theorem meets_opcode_iff (hm : m.mode = .command ∨ m.mode = .text) (hr : m.isRunning = true)
    (hb : ¬ m.OutOfSteps) (hi : i ≠ .idle) : m.Meets i.opcode ↔ m.upcoming? = some i := by
  constructor
  · rintro ⟨hc, hget⟩
    obtain ⟨content, hread, hv⟩ := Grid.get_eq_ok.mp hget
    rw [upcoming?_of_ok hr (exceeded?_eq_none_iff.mpr hb) (by rw [hc]; decide) hread, hv,
      Instruction.ofCell_opcode]
  · intro h
    obtain ⟨ht, -, content, hread, hcell⟩ := read_of_upcoming h
    exact ⟨hm.resolve_right ht,
      Grid.get_eq_ok.mpr ⟨content, hread, (Instruction.ofCell_eq_iff hi).mp hcell⟩⟩

/-! ## Instructions that go through -/

theorem completes_turnRandomly (h : m.turnRandomly = .ok m') : Completes m .turnRandomly m' := by
  unfold turnRandomly at h
  dsimp only at h
  split at h <;> cases h
  exact ⟨fun _ => ⟨rfl, rfl⟩, nofun, fun _ => rfl⟩

theorem completes_write (hi : i ≠ .skip) {how : Console → Int → Option Failure × Console}
    (h : m.write how = .ok m') : Completes m i m' := by
  unfold write at h
  dsimp only at h
  split at h <;> cases h
  exact ⟨fun _ => ⟨rfl, rfl⟩, fun hs => absurd hs hi, fun _ => rfl⟩

theorem completes_read (hi : i ≠ .skip) {how : Console → Except Failure (Option Cell) × Console}
    {atEnd : Cell} (h : m.read how atEnd = .ok m') : Completes m i m' := by
  unfold read at h
  dsimp only at h
  split at h <;> cases h
  exact ⟨fun _ => ⟨rfl, rfl⟩, fun hs => absurd hs hi, fun _ => rfl⟩

theorem completes_execute (h : m.execute i = .ok m') : Completes m i m' := by
  cases i with
  | turnRandomly => exact completes_turnRandomly h
  | skip =>
    replace h : m.advance = .ok m' := h
    unfold advance at h
    split at h <;> cases h
    next d hd => exact ⟨fun hs => absurd rfl hs, fun _ => ⟨d, hd, rfl⟩, fun _ => rfl⟩
  | store =>
    rw [show m.execute .store = .ok _ from store_eq m] at h
    cases h
    exact ⟨fun _ => ⟨rfl, rfl⟩, nofun, fun _ => rfl⟩
  | fetch =>
    rw [show m.execute .fetch = .ok _ from fetch_eq m] at h
    cases h
    exact ⟨fun _ => ⟨rfl, rfl⟩, nofun, fun _ => rfl⟩
  | writeNumber => exact completes_write nofun (show m.write Console.writeNumber = .ok m' from h)
  | writeChar => exact completes_write nofun (show m.write Console.writeChar = .ok m' from h)
  | readNumber => exact completes_read nofun (show m.read Console.readNumber 0 = .ok m' from h)
  | readChar => exact completes_read nofun (show m.read readCharCell (-1) = .ok m' from h)
  | halt => cases h; exact ⟨fun _ => ⟨rfl, rfl⟩, nofun, fun hh => absurd rfl hh⟩
  | _ => cases h; exact ⟨fun _ => ⟨rfl, rfl⟩, nofun, fun _ => rfl⟩

/-! ## Which instructions go through -/

theorem execute_turnRandomly (hd : m.draws.Proper) : ∃ m', m.turnRandomly = .ok m' := by
  obtain ⟨d, hdir⟩ := Option.isSome_iff_exists.mp (hd 0)
  replace hdir : Direction.ofDraw? m.draws.next.1 = some d := hdir
  unfold turnRandomly
  dsimp only
  rw [hdir]
  exact ⟨_, rfl⟩

theorem execute_write {how : Console → Int → Option Failure × Console}
    (hw : (how m.console m.top).1 = none) : ∃ m', m.write how = .ok m' := by
  replace hw : (how m.console m.stack.pop.1.toInt).1 = none := hw
  unfold write
  dsimp only
  rw [hw]
  exact ⟨_, rfl⟩

theorem execute_read {how : Console → Except Failure (Option Cell) × Console} {atEnd : Cell}
    {v : Option Cell} (hr : (how m.console).1 = .ok v) : ∃ m', m.read how atEnd = .ok m' := by
  unfold read
  dsimp only
  rw [hr]
  exact ⟨_, rfl⟩

/-- On a console in memory, every read and every write of a number goes through. -/
theorem execute_of_inMemory (hc : m.console.InMemory)
    (hi : i = .writeNumber ∨ i = .readNumber ∨ i = .readChar) : ∃ m', m.execute i = .ok m' := by
  rcases hi with rfl | rfl | rfl
  · show ∃ m', m.write Console.writeNumber = .ok m'
    exact execute_write (congrArg Prod.fst (Console.writeText_of_inMemory hc _))
  · obtain ⟨c, hread, -⟩ := Console.readNumber_of_unbroken hc.input
    exact execute_read (congrArg Prod.fst hread)
  · obtain ⟨c, hread, -⟩ := Console.readChar_of_unbroken hc.input
    have hcell : (readCharCell m.console).1 = .ok (m.console.unread.head?.map fun ch =>
        Cell.ofInt ch.val) := by
      unfold readCharCell
      rw [hread]
      rfl
    exact execute_read hcell

theorem execute_writeChar_of_some (hc : m.console.InMemory)
    (hi : (CodePoint.ofInt? m.top).isSome) : ∃ m', m.execute .writeChar = .ok m' := by
  obtain ⟨ch, hch⟩ := Option.isSome_iff_exists.mp hi
  show ∃ m', m.write Console.writeChar = .ok m'
  refine execute_write ?_
  unfold Console.writeChar
  rw [hch]
  exact congrArg Prod.fst (Console.writeText_of_inMemory hc [ch])

/-- Every instruction of a reliable machine goes through, except for a write of no character. -/
theorem execute_of_reliable (h : Reliable g m)
    (hi : i = .writeChar → (CodePoint.ofInt? m.top).isSome) : ∃ m', m.execute i = .ok m' := by
  cases i with
  | turnRandomly => exact execute_turnRandomly h.draws
  | skip => exact advance_of_headed h.headed
  | store => exact ⟨_, store_eq m⟩
  | fetch => exact ⟨_, fetch_eq m⟩
  | writeNumber | readNumber | readChar => exact execute_of_inMemory h.console (by decide)
  | writeChar => exact execute_writeChar_of_some h.console (hi rfl)
  | _ => exact ⟨_, rfl⟩

/-- A write of no character takes its operand and does nothing else. -/
theorem execute_writeChar_of_none (h : CodePoint.ofInt? m.top = none) :
    m.execute .writeChar =
      .error ⟨.fault (.notACharacter m.top), { m with stack := m.stack.discard }⟩ := by
  have hwrite : m.console.writeChar m.stack.pop.1.toInt =
      (some (.fault (.notACharacter m.top)), m.console) := by
    unfold Console.writeChar
    rw [show CodePoint.ofInt? m.stack.pop.1.toInt = none from h]
    rfl
  show m.write Console.writeChar = _
  unfold write
  dsimp only
  rw [hwrite]
  rfl

/-! ## Steps and ticks -/

theorem ahead_zero (hi : m.grid.inBounds m.col m.row = true) (d : Direction) :
    m.ahead d 0 = (m.col, m.row) := by
  unfold ahead
  rw [Int.zero_mul, Int.add_zero, Int.zero_mul, Int.add_zero, Grid.wrap_of_inBounds hi]

theorem step_ahead (m : Machine) (d : Direction) (cells : Int) :
    m.grid.step (m.ahead d cells).1 (m.ahead d cells).2 d = m.ahead d (cells + 1) := by
  unfold ahead
  rw [Grid.step_wrap, Int.add_mul, Int.add_mul, Int.one_mul, Int.one_mul, Int.add_assoc,
    Int.add_assoc]

/-- An instruction leaves the pointer where it is, or one cell ahead if it is the skip. -/
theorem Completes.pointer_eq {d : Direction} (h : Completes m i m')
    (hi : m.grid.inBounds m.col m.row = true) (hd : m'.heading = .toward d) :
    (m'.col, m'.row) = m.ahead d (if i = .skip then 1 else 0) := by
  split
  · next hs =>
    obtain ⟨d', hd', hp⟩ := h.skipped hs
    rw [hd] at hd'
    cases hd'
    rw [hp, ← Int.zero_add 1, ← step_ahead, ahead_zero hi]
  · next hs =>
    obtain ⟨hc, hr⟩ := h.pointer hs
    rw [hc, hr, ahead_zero hi]

/-- On a grid of the old size, a machine that stands so many cells ahead moves one cell on. -/
theorem advance_of_ahead {d : Direction} {cells : Int} (hw : m'.grid.width = m.grid.width)
    (hh : m'.grid.height = m.grid.height) (hd : m'.heading = .toward d)
    (hp : (m'.col, m'.row) = m.ahead d cells) :
    m'.advance = .ok { m' with
      col := (m.ahead d (cells + 1)).1, row := (m.ahead d (cells + 1)).2 } := by
  have hstep : m'.grid.step m'.col m'.row d = m.ahead d (cells + 1) := by
    rw [Grid.step_congr hw hh, ← step_ahead, ← hp]
  unfold advance
  rw [hd]
  dsimp only
  rw [hstep]

theorem tick_of_ok (hr : m.isRunning = true) (h : m.step = .ok m') : m.tick = (m', none) := by
  unfold tick
  rw [if_pos hr, h]

/-- A machine that runs on after its instruction, one cell ahead if it was the skip, moves on. -/
theorem Ending.of_moveOn {d : Direction} {cells : Int} (hr : m.isRunning = true)
    (hb : ¬ m.OutOfSteps) (hn : ¬ m.WritesNoCharacter) (hhalt : ¬ m.Meets 64)
    (hstep : m.step = m'.moveOn) (hr' : m'.isRunning = true)
    (hw : m'.grid.width = m.grid.width) (hh : m'.grid.height = m.grid.height)
    (hd : m'.heading = .toward d) (hp : (m'.col, m'.row) = m.ahead d cells)
    (hskip : m.Meets 35 → cells = 1) (hother : ¬ m.Meets 35 → cells = 0) : Ending m m.tick := by
  unfold moveOn at hstep
  rw [if_pos hr', advance_of_ahead hw hh hd hp] at hstep
  rw [tick_of_ok hr hstep]
  refine .running hb hn hhalt hr' hd (fun h => ?_) (fun h => ?_)
  · rw [hskip h]
    rfl
  · rw [hother h]
    rfl

theorem writesNoCharacter_iff : m.WritesNoCharacter ↔
    m.Meets 44 ∧ CodePoint.ofInt? m.top = none := by
  unfold WritesNoCharacter
  rw [CodePoint.ofInt?_eq_none]
  exact and_congr_right fun _ => or_congr_right Int.add_one_le_iff.symm

theorem pushText_keeps (m : Machine) (content : Option Cell) :
    (m.pushText content).grid = m.grid ∧
      ((m.pushText content).col, (m.pushText content).row) = (m.col, m.row) ∧
      (m.pushText content).heading = m.heading ∧ (m.pushText content).status = m.status := by
  unfold pushText
  split <;> exact ⟨rfl, rfl, rfl, rfl⟩

/-- In text mode nothing stops a program. -/
theorem ending_of_text (h : Reliable g m) (hr : m.isRunning = true) (hm : m.mode = .text)
    (hb : ¬ m.OutOfSteps) {content : Option Cell}
    (hstep : m.step = (m.countStep.pushText content).moveOn) : Ending m m.tick := by
  have hmeets (v : Cell) : ¬ m.Meets v := by
    rintro ⟨hc, -⟩
    rw [hm] at hc
    cases hc
  obtain ⟨d, hd⟩ := h.headed
  obtain ⟨hgrid, hpointer, hheading, hstatus⟩ := pushText_keeps m.countStep content
  have hr' := (isRunning_congr hstatus).trans hr
  have hp := hpointer.trans (ahead_zero h.inside d).symm
  exact .of_moveOn hr hb (fun hn => hmeets 44 hn.1) (hmeets 64) hstep hr'
    (congrArg Grid.width hgrid) (congrArg Grid.height hgrid) (hheading.trans hd) hp
    (fun hskip => absurd hskip (hmeets 35)) fun _ => rfl

/-- The cell under the pointer is that of the instruction that comes next. -/
theorem meets_iff_of_upcoming (h : Reliable g m) (hi : m.upcoming? = some i) (j : Instruction)
    (hj : j ≠ .idle) : m.Meets j.opcode ↔ i = j := by
  obtain ⟨-, hb, -⟩ := read_of_upcoming hi
  rw [meets_opcode_iff h.mode (isRunning_of_upcoming hi) (exceeded?_eq_none_iff.mp hb) hj, hi,
    Option.some_inj]

theorem ending_of_unwritable (hi : m.upcoming? = some .writeChar) (hn : m.WritesNoCharacter) :
    Ending m m.tick := by
  obtain ⟨-, hb, -⟩ := read_of_upcoming hi
  have hr := isRunning_of_upcoming hi
  have hstep := step_of_upcoming hi
  rw [execute_writeChar_of_none (m := m.countStep) (writesNoCharacter_iff.mp hn).2] at hstep
  rw [tick_of_error hr hstep (eq_of_beq hr)]
  exact .unwritable (exceeded?_eq_none_iff.mp hb) hn

/-- A tick whose instruction goes through halts or moves on. -/
theorem ending_of_completed (h : Reliable g m) (hi : m.upcoming? = some i)
    (hn : ¬ m.WritesNoCharacter) (hx : m.countStep.execute i = .ok m') : Ending m m.tick := by
  obtain ⟨-, hexceeded, -⟩ := read_of_upcoming hi
  have hb := exceeded?_eq_none_iff.mp hexceeded
  have hr := isRunning_of_upcoming hi
  have hhalt : m.Meets 64 ↔ i = .halt := meets_iff_of_upcoming h hi .halt nofun
  have hskip : m.Meets 35 ↔ i = .skip := meets_iff_of_upcoming h hi .skip nofun
  have hstep : m.step = m'.moveOn := by
    rw [step_of_upcoming hi, hx]
    rfl
  by_cases hh : i = .halt
  · -- The halt leaves a machine that has stopped, and so it does not move on.
    subst hh
    cases hx
    rw [tick_of_ok hr hstep]
    exact .halted hb (hhalt.mpr rfl)
  · have hdone := completes_execute hx
    have hevolves := evolves_of_execute hx
    obtain ⟨d, hd⟩ := headed_of_evolves hevolves h.headed
    have hr' : m'.isRunning = true := (isRunning_congr (hdone.status hh)).trans hr
    exact .of_moveOn hr hb hn (fun h64 => hh (hhalt.mp h64)) hstep hr' hevolves.width
      hevolves.height hd (hdone.pointer_eq h.inside hd) (fun h35 => if_pos (hskip.mp h35))
      fun h35 => if_neg fun hs => h35 (hskip.mpr hs)

theorem ending_of_instruction (h : Reliable g m) (hi : m.upcoming? = some i) :
    Ending m m.tick := by
  have hwrite : m.Meets 44 ↔ i = .writeChar :=
    meets_iff_of_upcoming h hi .writeChar nofun
  by_cases hn : m.WritesNoCharacter
  · rw [hwrite.mp hn.1] at hi
    exact ending_of_unwritable hi hn
  · have hreliable : Reliable g m.countStep := { h with }
    have hcharacter (hw : i = .writeChar) : (CodePoint.ofInt? m.countStep.top).isSome := by
      rw [Option.isSome_iff_ne_none]
      exact fun hnone => hn (writesNoCharacter_iff.mpr ⟨hwrite.mpr hw, hnone⟩)
    obtain ⟨m', hx⟩ := execute_of_reliable hreliable hcharacter
    exact ending_of_completed h hi hn hx

theorem ending_tick (h : Reliable g m) (hr : m.isRunning = true) : Ending m m.tick := by
  have hs := stepping_step hr
  generalize hresult : m.step = r at hs
  cases hs with
  | spent _ hb =>
    obtain ⟨hlimit, hlt⟩ := exceeded?_eq_some_iff.mp hb
    rw [tick_of_error hr hresult (eq_of_beq hr)]
    exact .spent hlimit hlt
  | lost _ hread =>
    rw [Grid.read_of_inBounds h.inside] at hread
    cases hread
  | text _ hm hb => exact ending_of_text h hr hm (exceeded?_eq_none_iff.mp hb) hresult
  | instruction hi => exact ending_of_instruction h hi

theorem not_writesNoCharacter_of_meets {v : Cell} (h : m.Meets v) (hv : v ≠ 44) :
    ¬ m.WritesNoCharacter := fun hn => hv (h.unique hn.1)

/-- The four ends exclude each other, so the condition of an end is equivalent to it. -/
theorem outcome_of_ending {result : Machine × Option Misuse} (h : Ending m result) :
    Outcome m result := by
  cases h with
  | @spent limit hlimit hlt =>
    have hb : m.OutOfSteps := ⟨limit, hlimit, hlt⟩
    have honly (limit' : Int) : Status.faulted (.stepLimit limit) = .faulted (.stepLimit limit') ↔
        m.maxSteps = some limit' ∧ limit' < m.counters.steps + 1 := by
      constructor
      · rintro ⟨⟩
        exact ⟨hlimit, hlt⟩
      · rintro ⟨hlimit', -⟩
        rw [hlimit] at hlimit'
        cases hlimit'
        rfl
    exact {
      misuse := rfl
      spent := honly
      unwritable := fun _ => ⟨nofun, fun hn => absurd hb hn.1⟩
      halted := ⟨nofun, fun hh => absurd hb hh.1⟩
      running := ⟨nofun, fun hr => absurd hb hr.1⟩
      stays := fun _ => rfl
      moves := nofun }
  | unwritable hb hn =>
    exact {
      misuse := rfl
      spent := fun limit => ⟨nofun, fun hl => absurd ⟨limit, hl⟩ hb⟩
      unwritable := fun number =>
        ⟨by rintro ⟨⟩; exact ⟨hb, hn, rfl⟩, fun hnumber => by rw [hnumber.2.2]⟩
      halted := ⟨nofun, fun hh => absurd hn (not_writesNoCharacter_of_meets hh.2 (by decide))⟩
      running := ⟨nofun, fun hr => absurd hn hr.2.1⟩
      stays := fun _ => rfl
      moves := nofun }
  | halted hb hh =>
    have hn := not_writesNoCharacter_of_meets hh (by decide)
    exact {
      misuse := rfl
      spent := fun limit => ⟨nofun, fun hl => absurd ⟨limit, hl⟩ hb⟩
      unwritable := fun _ => ⟨nofun, fun hnumber => absurd hnumber.2.1 hn⟩
      halted := ⟨fun _ => ⟨hb, hh⟩, fun _ => rfl⟩
      running := ⟨nofun, fun hr => absurd hh hr.2.2⟩
      stays := fun _ => rfl
      moves := nofun }
  | @running m' d hb hn hh hr hd htwo hone =>
    have hstatus : m'.status = .running := eq_of_beq hr
    exact {
      misuse := rfl
      spent := fun limit => ⟨fun hs => by simp [hstatus] at hs, fun hl => absurd ⟨limit, hl⟩ hb⟩
      unwritable := fun _ =>
        ⟨fun hs => by simp [hstatus] at hs, fun hnumber => absurd hnumber.2.1 hn⟩
      halted := ⟨fun hs => by simp [hstatus] at hs, fun hhalt => absurd hhalt.2 hh⟩
      running := ⟨fun _ => ⟨hb, hn, hh⟩, fun _ => hr⟩
      stays := fun hs => absurd hr (by rw [hs]; exact Bool.false_ne_true)
      moves := fun _ => ⟨d, hd, htwo, hone⟩ }

/-! ## Runs of new machines -/

theorem inMemory_consoleAfter (hc : m.console.InMemory) (i? : Option Instruction) :
    (m.consoleAfter i?).InMemory := by
  unfold consoleAfter
  split
  · exact hc.writeText _
  · exact hc.writeChar _
  · exact hc.readNumber
  · exact hc.readChar
  · exact hc

theorem inMemory_tick (hc : m.console.InMemory) : m.tick.1.console.InMemory :=
  (effects_tick m).console ▸ inMemory_consoleAfter hc _

theorem inMemory_ticked (hc : m.console.InMemory) (n : Nat) : (m.ticked n).console.InMemory :=
  ticked_keeps (P := fun m => m.console.InMemory) inMemory_tick hc n

namespace Reliable

theorem start (g : Grid) (t : Text) {draws : Draws} (hd : draws.Proper) (maxSteps : Option Int) :
    Reliable g (start g (.buffer t) draws maxSteps) where
  toInvariant := .start g _ draws maxSteps
  console := Console.inMemory_buffer t
  draws := hd
  halted := nofun

/-- Halting leaves the pointer on the cell that it halted at. -/
theorem meets_of_halted (h : Reliable g m) (hs : m.tick.1.status = .halted) :
    m.tick.1.Meets 64 := by
  cases hr : m.isRunning with
  | false =>
    rw [tick_of_not_running hr] at hs ⊢
    exact h.halted hs
  | true =>
    have hend := ending_tick h hr
    generalize m.tick = result at hs hend ⊢
    cases hend with
    | spent | unwritable => cases hs
    | halted _ hh => exact hh
    | running _ _ _ hr' =>
      rw [eq_of_beq hr'] at hs
      cases hs

theorem tick (h : Reliable g m) : Reliable g m.tick.1 where
  toInvariant := h.toInvariant.tick.1
  console := inMemory_tick h.console
  draws := draws_tick m ▸ h.draws.advance _
  halted := h.meets_of_halted

theorem ticked (h : Reliable g m) (n : Nat) : Reliable g (m.ticked n) :=
  ticked_keeps tick h n

theorem fault_tick (h : Reliable g m) (hr : m.isRunning = true) {f : Fault}
    (hf : m.tick.1.status = .faulted f) :
    (∃ limit, f = .stepLimit limit) ∨ ∃ number, f = .notACharacter number := by
  have hend := ending_tick h hr
  generalize m.tick = result at hf hend
  cases hend with
  | @spent limit =>
    cases hf
    exact .inl ⟨limit, rfl⟩
  | unwritable =>
    cases hf
    exact .inr ⟨m.top, rfl⟩
  | halted => cases hf
  | running _ _ _ hr' =>
    rw [eq_of_beq hr'] at hf
    cases hf

/-- A program in memory faults only for want of steps or of a character. -/
theorem fault_ticked (h : Reliable g m) (hr : m.isRunning = true) {n : Nat} {f : Fault}
    (hf : (m.ticked n).status = .faulted f) :
    (∃ limit, f = .stepLimit limit) ∨ ∃ number, f = .notACharacter number := by
  induction n generalizing m with
  | zero =>
    rw [show (m.ticked 0).status = .running from eq_of_beq hr] at hf
    cases hf
  | succ n ih =>
    replace hf : (m.tick.1.ticked n).status = .faulted f := hf
    cases hr' : m.tick.1.isRunning with
    | true => exact ih h.tick hr' hf
    | false =>
      rw [ticked_of_stopped hr'] at hf
      exact h.fault_tick hr hf

end Reliable

theorem run_of_not_running (h : m.isRunning = false) (bound : Nat) :
    m.run (bound + 1) = (m, .stopped) := by
  rw [run, tick_of_not_running h]
  dsimp only
  rw [h]
  rfl

/-- Take a new machine with some input in memory and a random source whose draws stand for
directions, after any number of ticks. If it runs, its next tick faults exactly if the budget is
used up, or else if it writes a number that is no character; it halts exactly if the cell under the
pointer is the halt; and otherwise it goes on, two cells ahead over a skip and one cell ahead
elsewhere. If it has halted, it stands on the halt. Once it has stopped, ticks and runs leave it as
it is. -/
theorem tick_outcome (grid : Grid) (t : Text) (draws : Draws) (hd : draws.Proper)
    (maxSteps : Option Int) (n : Nat) :
    let m := (start grid (.buffer t) draws maxSteps).ticked n
    (m.isRunning = true → Outcome m m.tick) ∧
    (m.status = .halted → m.Meets 64) ∧
    (m.isRunning = false → ∀ k, m.ticked k = m ∧ m.run (k + 1) = (m, .stopped)) := by
  intro m
  have h : Reliable grid m := (Reliable.start grid t hd maxSteps).ticked n
  exact ⟨fun hr => outcome_of_ending (ending_tick h hr), h.halted,
    fun hs k => ⟨ticked_of_stopped hs k, run_of_not_running hs k⟩⟩

/-- Writing minus one as a character stops a program before its halt. -/
theorem tick_outcome_unwritable :
    let m := (start (Grid.ofLines ["01-,@"]) (.buffer "") (.ofSeed none) none).ticked 3
    m.tick.1.status = .faulted (.notACharacter (-1)) ∧ (m.tick.1.col, m.tick.1.row) = (3, 0) := by
  intro m
  have h : Outcome m m.tick :=
    (tick_outcome (Grid.ofLines ["01-,@"]) "" _ (Draws.proper_ofSeed none) none 3).1
      (by decide +kernel)
  have hcomma : m.grid.get m.col m.row = .ok 44 :=
    Grid.get_eq_ok.mpr ⟨_, Grid.read_of_inBounds (by decide +kernel), by decide +kernel⟩
  have hfault := (h.unwritable (-1)).mpr
    ⟨nofun, ⟨⟨by decide +kernel, hcomma⟩, by decide +kernel⟩, by decide +kernel⟩
  have hstopped : m.tick.1.isRunning = false := by
    unfold isRunning
    rw [hfault]
    rfl
  have hpointer : (m.col, m.row) = (3, 0) := by decide +kernel
  exact ⟨hfault, (h.stays hstopped).trans hpointer⟩

end Funge93.Machine
