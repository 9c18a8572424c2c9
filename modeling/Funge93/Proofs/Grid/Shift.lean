import Funge93.Proofs.Grid.Torus

/-!
# Grids shifted around the torus

Shifting a grid by some columns and rows moves what it holds around the torus; what leaves at one
edge enters at the opposite one. This module says when a grid is another one shifted, and how
positions and steps go with it.

Results:
1. `step_shifted`: a step from a shifted position leads to the shifted end of the step.
2. `shiftedBy_shift`: every grid can be shifted by any number of columns and rows.
-/

namespace Funge93.Grid

/-- `ShiftedBy dc dr g g'`: the grid `g'` has the size of `g`, and what `g` holds at a position,
blank or not, `g'` holds `dc` columns and `dr` rows further around the torus. -/
structure ShiftedBy (dc dr : Int) (g g' : Grid) : Prop where
  width : g'.width = g.width
  height : g'.height = g.height
  read : ∀ col row, g.inBounds col row = true →
    g'.read (g'.wrap (col + dc) (row + dr)).1 (g'.wrap (col + dc) (row + dr)).2 = g.read col row

/-- The grid shifted by some columns and rows. -/
def shift (dc dr : Int) (g : Grid) : Grid where
  width := g.width
  height := g.height
  cells := Array.ofFn fun i : Fin (g.width * g.height) =>
    g.fetch ((i.val % g.width : Nat) - dc) ((i.val / g.width : Nat) - dr)
  width_pos := g.width_pos
  height_pos := g.height_pos
  size_eq := Array.size_ofFn

variable {g g' : Grid} {dc dr : Int}

/-- Moving on from a position of the torus is moving on from any of its coordinates. -/
theorem wrap_wrap_add (g : Grid) (x y dc dr : Int) :
    g.wrap ((g.wrap x y).1 + dc) ((g.wrap x y).2 + dr) = g.wrap (x + dc) (y + dr) := by
  simp only [wrap, Int.emod_add_emod]

/-- A step from a shifted position leads to the shifted end of the step. -/
theorem step_shifted (g : Grid) (col row dc dr : Int) (d : Direction) :
    g.step (g.wrap (col + dc) (row + dr)).1 (g.wrap (col + dc) (row + dr)).2 d =
      g.wrap ((g.step col row d).1 + dc) ((g.step col row d).2 + dr) := by
  rw [step_wrap, step, wrap_wrap_add, Int.add_right_comm col, Int.add_right_comm row]

theorem inBounds_step (g : Grid) (col row : Int) (d : Direction) :
    g.inBounds (g.step col row d).1 (g.step col row d).2 = true :=
  inBounds_wrap g _ _

/-! ## The shifted grid -/

theorem cell_shift (g : Grid) {col row : Nat} (inWidth : col < g.width)
    (inHeight : row < g.height) :
    (g.shift dc dr).cell col row = g.fetch (col - dc) (row - dr) := by
  have bound : g.slot col row < g.width * g.height := g.size_eq ▸ slot_lt inWidth inHeight
  have hcol : g.slot col row % g.width = col := by
    rw [slot, Nat.mul_add_mod_self_right, Nat.mod_eq_of_lt inWidth]
  have hrow : g.slot col row / g.width = row := by
    rw [slot, Nat.mul_comm, Nat.mul_add_div g.width_pos, Nat.div_eq_of_lt inWidth, Nat.add_zero]
  show (g.shift dc dr).cells.getD (g.slot col row) none = _
  unfold shift
  rw [Array.getD_eq_getD_getElem?, Array.getElem?_ofFn, dif_pos bound, Option.getD_some]
  dsimp only
  rw [hcol, hrow]

theorem fetch_congr (g : Grid) {x y x' y' : Int} (h : g.wrap x y = g.wrap x' y') :
    g.fetch x y = g.fetch x' y' := by
  unfold fetch
  rw [h]

/-- The shifted grid holds at any coordinates what lies as far back on the torus. -/
theorem fetch_shift (g : Grid) (x y : Int) :
    (g.shift dc dr).fetch x y = g.fetch (x - dc) (y - dr) := by
  obtain ⟨left, right, top, bottom⟩ := inBounds_iff.mp (inBounds_wrap g x y)
  have hcell : (g.shift dc dr).fetch x y =
      (g.shift dc dr).cell (g.wrap x y).1.toNat (g.wrap x y).2.toNat := rfl
  rw [hcell, cell_shift g (by omega) (by omega), Int.toNat_of_nonneg left, Int.toNat_of_nonneg top]
  exact fetch_congr g (wrap_wrap_add g x y (-dc) (-dr))

theorem read_eq_fetch {col row : Int} (inside : g.inBounds col row = true) :
    g.read col row = .ok (g.fetch col row) := by
  have h := read_wrap g col row
  rwa [wrap_of_inBounds inside] at h

theorem shiftedBy_shift (g : Grid) (dc dr : Int) : g.ShiftedBy dc dr (g.shift dc dr) where
  width := rfl
  height := rfl
  read col row inside := by
    rw [read_wrap, read_eq_fetch inside, fetch_shift, Int.add_sub_cancel, Int.add_sub_cancel]

end Funge93.Grid
