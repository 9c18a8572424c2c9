import Funge93.Grid.Layout
import Funge93.Proofs.Machine.Runs

/-!
# The invariant of a machine

This module states what holds of a machine in every state that callers can bring about, in whatever
order they make their calls and whatever the program, the console and the random source do.

Results:
1. `Invariant.tick`: a tick keeps the invariant, also when it ends in misuse, and the misuse is
   never a stray heading.
2. `calls_sound`: the invariant and its consequences after any sequence of calls on a new machine.
-/

namespace Funge93

/-- A failure that only a bug of the engine can cause: the pointer or a write left the grid, or the
heading is none of the four directions. -/
def Failure.isEngineBug : Failure → Bool
  | .fault (.readOutside ..) => true
  | .fault (.writeOutside ..) => true
  | .misuse (.strayHeading _) => true
  | _ => false

theorem Console.Fails.isEngineBug_eq_false {c : Console} {e : Failure} (h : c.Fails e) :
    e.isEngineBug = false := by
  cases h with
  | @read b _ => cases b.error <;> rfl
  | @write b _ => cases b.error <;> rfl
  | unencodable reason => rfl
  | notACharacter number => rfl

namespace Machine

/-- The invariant of a machine that started on the grid `g`. -/
structure Invariant (g : Grid) (m : Machine) : Prop where
  width : m.grid.width = g.width
  height : m.grid.height = g.height
  inside : m.grid.inBounds m.col m.row = true
  headed : ∃ d, m.heading = .toward d
  mode : m.mode = .command ∨ m.mode = .text
  depth_le_peak : m.stack.depth ≤ m.stack.peak
  fault : ∀ f, m.status = .faulted f → (Failure.fault f).isEngineBug = false

namespace Invariant

variable {g : Grid} {m : Machine}

theorem start (g : Grid) (console : Console) (draws : Draws) (maxSteps : Option Int) :
    Invariant g (start g console draws maxSteps) where
  width := rfl
  height := rfl
  inside := Grid.inBounds_iff.mpr
    ⟨Int.le_refl 0, Int.natCast_pos.mpr g.width_pos,
      Int.le_refl 0, Int.natCast_pos.mpr g.height_pos⟩
  headed := ⟨.right, rfl⟩
  mode := .inl rfl
  depth_le_peak := Nat.le_refl 0
  fault := nofun

/-- The invariant speaks of nothing that counting a step changes. -/
theorem countStep (h : Invariant g m) : Invariant g m.countStep := { h with }

theorem evolves {m' : Machine} (h : Invariant g m) (he : Evolves m m') : Invariant g m' where
  width := he.width.trans h.width
  height := he.height.trans h.height
  inside := by
    rw [he.inBounds]
    rcases he.pointer with ⟨hc, hr⟩ | hi
    · rw [hc, hr]
      exact h.inside
    · exact hi
  headed := by
    rcases he.heading with hh | hh
    · rw [hh]
      exact h.headed
    · exact hh
  mode := by
    rcases he.mode with hm | hm
    · rw [hm]
      exact h.mode
    · exact hm
  depth_le_peak := he.stack.depth_le_peak h.depth_le_peak
  fault := by
    rcases he.status with hs | hs
    · rw [hs]
      exact h.fault
    · rw [hs]
      exact nofun

theorem isEngineBug_eq_false (h : Invariant g m) {e : Failure} (he : Fails m e) :
    e.isEngineBug = false := by
  cases he with
  | console hc => exact hc.isEngineBug_eq_false
  | draw | budget => rfl
  | heading hh =>
    obtain ⟨d, hd⟩ := h.headed
    rw [hd] at hh
    cases hh
  | outside ho =>
    rw [h.inside] at ho
    cases ho

/-- A tick keeps the invariant, whether it goes through or fails, and a misuse that it ends in is
no bug of the engine. -/
theorem tick (h : Invariant g m) :
    Invariant g m.tick.1 ∧ ∀ e, m.tick.2 = some e → (Failure.misuse e).isEngineBug = false := by
  have hend := tickEnds_tick m
  generalize m.tick = r at hend ⊢
  cases hend with
  | stopped => exact ⟨h, nofun⟩
  | stepped _ _ he => exact ⟨h.countStep.evolves he, nofun⟩
  | faulted _ _ hf he =>
    -- Beyond what a step changes, only the recorded fault is new.
    refine ⟨{ h.countStep.evolves he with fault := ?_ }, nofun⟩
    rintro f ⟨⟩
    exact h.countStep.isEngineBug_eq_false hf
  | misused _ _ hf he =>
    refine ⟨h.countStep.evolves he, ?_⟩
    rintro e ⟨⟩
    exact h.countStep.isEngineBug_eq_false hf

theorem ticked (h : Invariant g m) (n : Nat) : Invariant g (m.ticked n) :=
  ticked_keeps (fun h => h.tick.1) h n

theorem called (h : Invariant g m) (c : Call) : Invariant g (m.called c) := by
  cases c with
  | tick => exact h.tick.1
  | push n => exact { h with depth_le_peak := Nat.le_max_right _ _ }
  | feed t => exact { h with }
  | drain => exact { h with }
  | resetCounters => exact { h with }
  | reconnect console => exact { h with }

theorem calls (h : Invariant g m) (cs : List Call) : Invariant g (m.calls cs) := by
  induction cs generalizing m with
  | nil => exact h
  | cons c cs ih => exact ih (h.called c)

end Invariant

/-! ## What the invariant gives -/

/-- The integers that fit into a cell: those of 64 bits in two's complement. -/
def IsCellValue (n : Int) : Prop := -9223372036854775808 ≤ n ∧ n < 9223372036854775808

/-- What holds of a machine in every state that callers can bring about, given the grid that it
started on.

The types carry some of it: a `Grid` has at least one column and one row, a `Cell` has 64 bits
(`stackCells`, `gridCells`), a blank position holds nothing and so reads as -1 (`blankCells`), and
only a `Status` that is faulted has a fault (`faulted`). The two instructions are defined so that
`division` holds on every stack. The `Invariant` carries the rest through every call: the size
stays the one at the start, and `pointer`, `heading`, `mode`, `depth`, `fault` and `misuse` hold. -/
structure Sound (g : Grid) (m : Machine) : Prop where
  size : 1 ≤ m.grid.width ∧ 1 ≤ m.grid.height ∧
    m.grid.width = g.width ∧ m.grid.height = g.height
  pointer : 0 ≤ m.col ∧ m.col < m.grid.width ∧ 0 ≤ m.row ∧ m.row < m.grid.height
  heading : ∃ d, m.heading = .toward d
  mode : m.mode = .command ∨ m.mode = .text
  stackCells : ∀ v ∈ m.stack.items, IsCellValue v.toInt
  gridCells : ∀ col row v, m.grid.get col row = .ok v → IsCellValue v.toInt
  blankCells : ∀ col row, m.grid.inBounds col row = true →
    m.grid.isBlank? col row = some true → m.grid.get col row = .ok (-1)
  depth : m.stack.items.length ≤ m.stack.peak
  faulted : m.status.fault? = none ↔ ∀ f, m.status ≠ .faulted f
  fault : ∀ f, m.status.fault? = some f → (Failure.fault f).isEngineBug = false
  misuse : ∀ e, m.tick.2 = some e → (Failure.misuse e).isEngineBug = false
  /-- Dividing asks for a quotient only if the divisor has one. -/
  division :
    (m.stack.peek = 0 ∧ m.execute .divide = .ok (m.combine fun _ _ => 0) ∧
      m.execute .remainder = .ok (m.combine fun _ _ => 0)) ∨
    ∃ q, truncDiv? m.stack.discard.peek.toInt m.stack.peek.toInt = some q ∧
      m.execute .divide = .ok (m.combine fun _ _ => Cell.ofInt q) ∧
      m.execute .remainder =
        .ok (m.combine fun left right => Cell.ofInt (left.toInt - right.toInt * q))

theorem isCellValue_toInt (v : Cell) : IsCellValue v.toInt :=
  ⟨v.minValue_le_toInt, Int.lt_of_le_of_lt v.toInt_le (by decide)⟩

theorem get_of_isBlank? {g : Grid} {col row : Int} (hi : g.inBounds col row = true)
    (hb : g.isBlank? col row = some true) : g.get col row = .ok (-1) := by
  obtain ⟨hc, hc', hr, hr'⟩ := Grid.inBounds_iff.mp hi
  have hempty : g.cell col.toNat row.toNat = none := by
    simpa [Grid.isBlank?, Grid.index?, hc, hc', hr, hr'] using hb
  rw [Grid.get, Grid.read_of_inBounds hi, hempty]
  rfl

theorem fault?_eq_some_iff {s : Status} {f : Fault} : s.fault? = some f ↔ s = .faulted f := by
  cases s <;> simp [Status.fault?]

theorem fault?_eq_none_iff (s : Status) : s.fault? = none ↔ ∀ f, s ≠ .faulted f := by
  simp only [Option.eq_none_iff_forall_ne_some, ne_eq, fault?_eq_some_iff]

theorem combine_congr {m : Machine} {f f' : Cell → Cell → Cell}
    (h : f m.stack.discard.peek m.stack.peek = f' m.stack.discard.peek m.stack.peek) :
    m.combine f = m.combine f' :=
  congrArg (fun v => { m with stack := m.stack.discard.discard.push v }) h

theorem ofInt_tdiv_toInt {b a : Cell} (h : a ≠ 0) :
    Cell.quotient b a = Cell.ofInt (b.toInt.tdiv a.toInt) := by
  rw [← Int64.toInt_inj, Cell.toInt_quotient b h, Cell.toInt_ofInt]

theorem ofInt_tmod_toInt {b a : Cell} (h : a ≠ 0) :
    Cell.remainder b a = Cell.ofInt (b.toInt.tmod a.toInt) := by
  rw [← Cell.toInt_remainder b h, Cell.ofInt_toInt]

theorem division (m : Machine) :
    (m.stack.peek = 0 ∧ m.execute .divide = .ok (m.combine fun _ _ => 0) ∧
      m.execute .remainder = .ok (m.combine fun _ _ => 0)) ∨
    ∃ q, truncDiv? m.stack.discard.peek.toInt m.stack.peek.toInt = some q ∧
      m.execute .divide = .ok (m.combine fun _ _ => Cell.ofInt q) ∧
      m.execute .remainder =
        .ok (m.combine fun left right => Cell.ofInt (left.toInt - right.toInt * q)) := by
  by_cases hz : m.stack.peek = 0
  · refine .inl ⟨hz, congrArg _ (combine_congr ?_), congrArg _ (combine_congr ?_)⟩
    · rw [hz, Cell.quotient_zero]
    · rw [hz, Cell.remainder_zero]
  · refine .inr ⟨_, if_neg (Cell.toInt_ne_zero hz), congrArg _ (combine_congr ?_),
      congrArg _ (combine_congr ?_)⟩
    · exact ofInt_tdiv_toInt hz
    · rw [ofInt_tmod_toInt hz, Int.tmod_def]

/-- Whatever callers do with a new machine, in any order and whatever fails on the way, it stays
sound: the engine leaves neither the grid nor the four directions, and its cells keep their range.
-/
theorem calls_sound (lines : List Text) (console : Console) (draws : Draws)
    (maxSteps : Option Int) (cs : List Call) :
    Sound (Grid.ofLines lines) ((start (Grid.ofLines lines) console draws maxSteps).calls cs) := by
  have h := (Invariant.start (Grid.ofLines lines) console draws maxSteps).calls cs
  generalize (start (Grid.ofLines lines) console draws maxSteps).calls cs = m at h ⊢
  exact {
    size := ⟨m.grid.width_pos, m.grid.height_pos, h.width, h.height⟩
    pointer := Grid.inBounds_iff.mp h.inside
    heading := h.headed
    mode := h.mode
    stackCells := fun v _ => isCellValue_toInt v
    gridCells := fun _ _ v _ => isCellValue_toInt v
    blankCells := fun _ _ => get_of_isBlank?
    depth := m.stack.depth_eq ▸ h.depth_le_peak
    faulted := fault?_eq_none_iff m.status
    fault := fun f hf => h.fault f (fault?_eq_some_iff.mp hf)
    misuse := h.tick.2
    division := division m }

end Machine

end Funge93
