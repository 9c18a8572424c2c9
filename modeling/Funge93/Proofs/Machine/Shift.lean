import Funge93.Grid.Layout
import Funge93.Machine.Run
import Funge93.Proofs.Grid.Shift
import Funge93.Proofs.Machine.Simulation

/-!
# The torus has no seam

A program that neither stores nor fetches knows positions only by moving from one to the next. This
module proves that it cannot tell where on the torus its grid begins: shift the grid around the
torus, let the pointer start at the shifted position, and everything is the same but the position of
the pointer. So no edge is different from the middle of the grid, for a step, for a skip, in text
mode and in all four directions.

Results:
1. `tick_shifted`: a tick that uses no coordinates does the same on the shifted grid.
2. `shifted_runs_alike`: any number of them, from any state of a machine.
-/

namespace Funge93

/-- One machine is on the grid `g`, and the other on the grid `g'` with its pointer shifted around
the torus. All else is equal. -/
def Likeness.shifted (g g' : Grid) (dc dr : Int) : Likeness :=
  { equal with place := fun x y =>
      x.1 = g ∧ g.inBounds x.2.1 x.2.2 = true ∧
        y = (g', g'.wrap (x.2.1 + dc) (x.2.2 + dr)) }

variable {g g' : Grid} {dc dr : Int}

theorem Likeness.kept_shifted (hg : g.ShiftedBy dc dr g') : (shifted g g' dc dr).Kept :=
  { kept_equal with
    advance := by
      rintro _ _ col row _ _ ⟨rfl, _, ⟨⟩⟩ d
      refine ⟨rfl, Grid.inBounds_step _ col row d, congrArg (Prod.mk g') ?_⟩
      rw [← Grid.step_congr hg.width hg.height]
      exact Grid.step_shifted g' col row dc dr d }

namespace Machine

variable {m m' : Machine}

/-- The next tick uses coordinates: it stores a cell or fetches one. -/
def usesCoordinates (m : Machine) : Bool :=
  m.upcoming? == some .store || m.upcoming? == some .fetch

/-- The machine on another grid, with its pointer shifted around the torus. -/
def shiftedOnto (g' : Grid) (dc dr : Int) (m : Machine) : Machine :=
  { m with
    grid := g'
    col := (g'.wrap (m.col + dc) (m.row + dr)).1
    row := (g'.wrap (m.col + dc) (m.row + dr)).2 }

theorem eq_shiftedOnto_of_alike (h : Alike (.shifted g g' dc dr) m m') :
    m' = m.shiftedOnto g' dc dr :=
  eq_of_alike h h.place.2.2 h.stack.symm h.console.symm h.clock.symm

theorem usesAlike_shifted (h : Alike (.shifted g g' dc dr) m m') {i : Instruction}
    (hstore : i ≠ .store) (hfetch : i ≠ .fetch) : UsesAlike (.shifted g g' dc dr) m m' i := by
  rw [eq_shiftedOnto_of_alike h]
  cases i with
  | writeNumber | writeChar | readNumber | readChar => exact ⟨rfl, rfl⟩
  | store => exact absurd rfl hstore
  | fetch => exact absurd rfl hfetch
  | _ => trivial

/-- Both pointers stand on the same content. -/
theorem read_shifted (hg : g.ShiftedBy dc dr g') (h : Alike (.shifted g g' dc dr) m m') :
    m'.grid.read m'.col m'.row = m.grid.read m.col m.row := by
  obtain ⟨hgrid, hinside, -⟩ := h.place
  rw [eq_shiftedOnto_of_alike h, show m.grid = g from hgrid]
  exact hg.read m.col m.row hinside

theorem tick_shifted (hg : g.ShiftedBy dc dr g') (h : Alike (.shifted g g' dc dr) m m')
    (hc : m.usesCoordinates = false) :
    Alike (.shifted g g' dc dr) m.tick.1 m'.tick.1 ∧ m'.tick.2 = m.tick.2 := by
  obtain ⟨hstore, hfetch⟩ := Bool.or_eq_false_iff.mp hc
  refine tick_alike h fun hrun => ?_
  refine related_step (Likeness.kept_shifted hg) h hrun ?_ (.of_eq (read_shifted hg h)) ?_
  · rw [eq_shiftedOnto_of_alike h]
    rfl
  · intro i hi
    rw [hi] at hstore hfetch
    exact usesAlike_shifted h (by simpa using hstore) (by simpa using hfetch)

theorem ticked_shifted (hg : g.ShiftedBy dc dr g') (h : Alike (.shifted g g' dc dr) m m') {n : Nat}
    (hn : ∀ i < n, (m.ticked i).usesCoordinates = false) :
    Alike (.shifted g g' dc dr) (m.ticked n) (m'.ticked n) :=
  ticked_alike (C := fun m => m.usesCoordinates = false)
    (fun h hc => (tick_shifted hg h hc).1) h hn

/-- Take a machine in any state with its pointer on the grid, and a second machine that differs from
it only in that its grid and its pointer are shifted by some columns and rows around the torus. As
long as no tick of the first machine stores or fetches a cell, the second machine differs from it in
nothing else: it keeps its grid, its pointer stays shifted by as much, and each tick ends in the
same misuse or in none. -/
theorem shifted_runs_alike (m : Machine) (inside : m.grid.inBounds m.col m.row = true) (g' : Grid)
    (dc dr : Int) (hg : m.grid.ShiftedBy dc dr g') (n : Nat)
    (hn : ∀ i < n, (m.ticked i).usesCoordinates = false) :
    let m' := m.shiftedOnto g' dc dr
    m'.ticked n = (m.ticked n).shiftedOnto g' dc dr ∧
      ∀ i < n, (m'.ticked i).tick.2 = (m.ticked i).tick.2 := by
  intro m'
  have hstart : Alike (.shifted m.grid g' dc dr) m m' :=
    ⟨⟨rfl, inside, rfl⟩, rfl, rfl, rfl, rfl, rfl, rfl, rfl⟩
  refine ⟨eq_shiftedOnto_of_alike (ticked_shifted hg hstart hn), fun i hi => ?_⟩
  have hbefore := ticked_shifted hg hstart fun j hj => hn j (Nat.lt_trans hj hi)
  exact (tick_shifted hg hbefore (hn i hi)).2

/-- A program that crosses the right edge in text mode and the upper edge before a skip, and the
same program with both in the middle of the grid. -/
theorem shifted_runs_alike_across_edges :
    let g := Grid.ofLines ["\"^\"A", " @", " ,", " @", " #"]
    let m : Machine := { start g (.buffer "") (.ofSeed none) none with col := 2 }
    let m' := m.shiftedOnto (g.shift (-5) 8) (-5) 8
    (m'.ticked 7).status = .halted ∧ (m'.ticked 7).console.written = "A" ∧
      ((m'.ticked 7).col, (m'.ticked 7).row) = (0, 4) := by
  intro g m m'
  have hsame : m'.ticked 7 = (m.ticked 7).shiftedOnto (g.shift (-5) 8) (-5) 8 :=
    (shifted_runs_alike m (by decide +kernel) (g.shift (-5) 8) (-5) 8
      (Grid.shiftedBy_shift g (-5) 8) 7 (by decide +kernel)).1
  rw [hsame]
  exact ⟨by decide +kernel, by decide +kernel, by decide +kernel⟩

end Machine

end Funge93
