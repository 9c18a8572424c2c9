import Funge93.Proofs.Grid.Padding
import Funge93.Proofs.Machine.Simulation

/-!
# Padding behaves as spaces

A blank position reads as -1, which stands for no instruction, and text mode pushes a space for it.
This module proves that a program cannot tell its padding from spaces, except by fetching it.

Results:
1. `sameCell_fillContent`: both modes do the same on a blank position and on a space.
2. `tick_filled`: a tick that fetches no blank position does the same on the filled grid.
3. `padding_runs_as_spaces`: the whole run of a new machine.
-/

namespace Funge93

/-- One grid is the other with its blank positions filled with spaces, and all else is equal. -/
def Likeness.filling : Likeness :=
  { equal with place := fun x y => y = (x.1.filled, x.2) }

theorem Likeness.kept_filling : filling.Kept :=
  { kept_equal with
    advance := by
      rintro g _ col row _ _ ⟨⟩ d
      rfl }

namespace Machine

variable {m m' : Machine}

/-- The next tick fetches a blank position. -/
def fetchesBlank (m : Machine) : Bool :=
  m.upcoming? == some .fetch && (m.grid.fetch m.second m.top).isNone

/-- A blank position and a space are two cells that do nothing, and the same text. -/
theorem sameCell_fillContent (content : Option Cell) :
    SameCell content (Grid.fillContent content) := by
  cases content with
  | none => exact ⟨rfl, ⟨fun h => absurd h (by decide), nofun⟩, rfl⟩
  | some v => exact ⟨rfl, Iff.rfl, rfl⟩

theorem sameContent_filled (g : Grid) (col row : Int) :
    SameContent (g.read col row) (g.filled.read col row) := by
  rw [Grid.read_filled]
  cases g.read col row with
  | error f => exact .error
  | ok content => exact .ok (sameCell_fillContent content)

theorem filled_of_alike (h : Alike .filling m m') : m' = { m with grid := m.grid.filled } :=
  eq_of_alike h h.place h.stack.symm h.console.symm h.clock.symm

theorem usesAlike_filled (h : Alike .filling m m') {i : Instruction}
    (hf : i = .fetch → (m.grid.fetch m.second m.top).isSome) : UsesAlike .filling m m' i := by
  rw [filled_of_alike h]
  cases i with
  | writeNumber | writeChar | readNumber | readChar => exact ⟨rfl, rfl⟩
  | store =>
    intro v
    show (m.grid.filled.store m.second m.top v, m.col, m.row) = _
    rw [← Grid.filled_store]
  | fetch =>
    obtain ⟨v, hv⟩ := Option.isSome_iff_exists.mp (hf rfl)
    show (m.grid.filled.fetch m.second m.top).getD 0 = (m.grid.fetch m.second m.top).getD 0
    rw [Grid.fetch_filled, hv]
    rfl
  | _ => trivial

theorem tick_filled (h : Alike .filling m m') (hb : m.fetchesBlank = false) :
    Alike .filling m.tick.1 m'.tick.1 ∧ m'.tick.2 = m.tick.2 := by
  refine tick_alike h fun hrun => ?_
  refine related_step Likeness.kept_filling h hrun ?_ ?_ ?_
  · rw [filled_of_alike h]
    rfl
  · rw [filled_of_alike h]
    exact sameContent_filled m.grid m.col m.row
  · intro i hi
    refine usesAlike_filled h fun hfetch => ?_
    unfold fetchesBlank at hb
    rw [hi, hfetch, beq_self_eq_true, Bool.true_and] at hb
    simpa using hb

theorem ticked_filled {n : Nat} (h : Alike .filling m m')
    (hb : ∀ i < n, (m.ticked i).fetchesBlank = false) :
    Alike .filling (m.ticked n) (m'.ticked n) :=
  ticked_alike (C := fun m => m.fetchesBlank = false) (fun h hb => (tick_filled h hb).1) h hb

/-- Pad all lines of a program with spaces to the same length. As long as the program as it was does
not fetch a blank position, both run the same: after every tick the machines agree on everything but
the grid, each tick ends in the same misuse or in none, and the grids render the same and differ
only where one is still blank and the other holds a space. -/
theorem padding_runs_as_spaces (lines : List Text) (console : Console) (draws : Draws)
    (maxSteps : Option Int) (n : Nat) :
    let m := start (Grid.ofLines lines) console draws maxSteps
    let m' := start (Grid.ofLines (Grid.paddedLines lines)) console draws maxSteps
    (∀ i < n, (m.ticked i).fetchesBlank = false) →
      m'.ticked n = { m.ticked n with grid := (m'.ticked n).grid } ∧
      (∀ i < n, (m'.ticked i).tick.2 = (m.ticked i).tick.2) ∧
      (m'.ticked n).grid.rows = (m.ticked n).grid.rows ∧
      (m'.ticked n).grid.width = (m.ticked n).grid.width ∧
      (m'.ticked n).grid.height = (m.ticked n).grid.height ∧
      ∀ col row, (m.ticked n).grid.inBounds col row = true →
        (∃ v, (m.ticked n).grid.read col row = .ok (some v) ∧
          (m'.ticked n).grid.read col row = .ok (some v)) ∨
        ((m.ticked n).grid.read col row = .ok none ∧
          (m'.ticked n).grid.read col row = .ok (some 32)) := by
  intro m m' hb
  have hstart : Alike .filling m m' :=
    ⟨congrArg (·, 0, 0) (Grid.filled_ofLines lines).symm, rfl, rfl, rfl, rfl, rfl, rfl, rfl⟩
  have hsame := filled_of_alike (ticked_filled hstart hb)
  have hgrid : (m'.ticked n).grid = (m.ticked n).grid.filled := by
    rw [hsame]
  refine ⟨?state, ?misuse, ?rows, ?width, ?height, ?cells⟩
  case state =>
    rw [hgrid]
    exact hsame
  case misuse =>
    intro i hi
    have hlike := ticked_filled hstart fun j hj => hb j (Nat.lt_trans hj hi)
    exact (tick_filled hlike (hb i hi)).2
  case rows => rw [hgrid, Grid.rows_filled]
  case width | height =>
    rw [hgrid]
    rfl
  case cells =>
    intro col row hinside
    rw [hgrid, Grid.read_filled, Grid.read_of_inBounds hinside]
    cases (m.ticked n).grid.cell col.toNat row.toNat with
    | some v => exact .inl ⟨v, rfl, rfl⟩
    | none => exact .inr ⟨rfl, rfl⟩

/-- A program that meets its padding in text mode pushes a space for it. -/
theorem padding_runs_as_spaces_quoted :
    let quoted := start (Grid.ofLines ["v", ">\"a", "  ,@"]) (.buffer []) (.ofSeed none) none
    let padded := start (Grid.ofLines ["v   ", ">\"a ", "  ,@"]) (.buffer []) (.ofSeed none) none
    padded.ticked 5 = { quoted.ticked 5 with grid := (padded.ticked 5).grid } :=
  (padding_runs_as_spaces ["v", ">\"a", "  ,@"] (.buffer []) (.ofSeed none) none 5
    (by decide +kernel)).1

end Machine

end Funge93
