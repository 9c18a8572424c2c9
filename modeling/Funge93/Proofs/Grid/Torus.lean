import Funge93.Machine.Tick

/-!
# Storing and fetching on the torus

Any column and row stand for a position of the torus, so storing and fetching cannot leave the
grid. This module gives both as total functions of the grid, and the two instructions that use them
in one equation each. It also says how steps go with wrapping (`step_wrap`) and what a store changes
(`read_store`).
-/

namespace Funge93

namespace Grid

/-- What the torus holds at any column and row. -/
def fetch (g : Grid) (x y : Int) : Option Cell :=
  g.cell (g.wrap x y).1.toNat (g.wrap x y).2.toNat

/-- The grid with a cell stored at any column and row of the torus. -/
def store (g : Grid) (x y : Int) (v : Cell) : Grid :=
  g.fill (g.wrap x y).1.toNat (g.wrap x y).2.toNat v

theorem read_wrap (g : Grid) (x y : Int) :
    g.read (g.wrap x y).1 (g.wrap x y).2 = .ok (g.fetch x y) :=
  if_pos (inBounds_wrap g x y)

theorem set_wrap (g : Grid) (x y : Int) (v : Cell) :
    g.set (g.wrap x y).1 (g.wrap x y).2 v = .ok (g.store x y v) :=
  if_pos (inBounds_wrap g x y)

/-- A step from a position of the torus goes one cell on from any of its coordinates. -/
theorem step_wrap (g : Grid) (x y : Int) (d : Direction) :
    g.step (g.wrap x y).1 (g.wrap x y).2 d = g.wrap (x + d.colDelta) (y + d.rowDelta) := by
  simp only [step, wrap, Int.emod_add_emod]

/-- A store is met by reads at its own position only. -/
theorem read_store (g : Grid) (x y : Int) (v : Cell) (col row : Int) :
    (g.store x y v).read col row =
      if (col, row) = g.wrap x y then .ok (some v) else g.read col row := by
  have hset := set_wrap g x y v
  split
  · next h =>
    obtain ⟨hc, hr⟩ := Prod.mk.inj h
    rw [hc, hr]
    exact read_set_same hset
  · next h => exact read_set_of_ne hset h

/-- Wrapping depends on the size of a grid only. -/
theorem wrap_congr {g g' : Grid} (hw : g'.width = g.width) (hh : g'.height = g.height) :
    g'.wrap = g.wrap := by
  unfold wrap
  rw [hw, hh]

theorem step_congr {g g' : Grid} (hw : g'.width = g.width) (hh : g'.height = g.height) :
    g'.step = g.step := by
  unfold step
  rw [wrap_congr hw hh]

end Grid

namespace Machine

/-- The cell below the top of the stack: the column of a store or a fetch. -/
def second (m : Machine) : Int := m.stack.discard.peek.toInt

/-- The cell on top of the stack: the row of a store or a fetch. -/
def top (m : Machine) : Int := m.stack.peek.toInt

theorem store_eq (m : Machine) :
    m.store = .ok { m with
      stack := m.stack.discard.discard.discard
      grid := m.grid.store m.second m.top m.stack.discard.discard.peek
      counters := { m.counters with stores := m.counters.stores + 1 } } := by
  unfold store
  simp only [Stack.pop]
  rw [Grid.set_wrap]
  rfl

theorem fetch_eq (m : Machine) :
    m.fetch = .ok { m with
      stack := m.stack.discard.discard.push ((m.grid.fetch m.second m.top).getD 0)
      counters := { m.counters with fetches := m.counters.fetches + 1 } } := by
  unfold fetch
  simp only [Stack.pop]
  rw [Grid.read_wrap]
  rfl

end Machine

end Funge93
