import Funge93.Cell
import Funge93.Direction
import Funge93.Fault

/-!
# The grid

A program is a grid of cells on a torus. Its width and its height are positive and never change.
A position that no source character and no write has filled is blank (`none`); it reads as -1, and
each instruction that meets it decides what it stands for.

This file proves what a write does to later reads (`read_set_same`, `read_set_of_ne`) and that
wrapping lands inside (`inBounds_wrap`) and moves nothing that is inside (`wrap_of_inBounds`).
-/

namespace Funge93

/-- A torus of cells, stored row by row. -/
structure Grid where
  width : Nat
  height : Nat
  cells : Array (Option Cell)
  width_pos : 0 < width
  height_pos : 0 < height
  size_eq : cells.size = width * height

namespace Grid

/-- The grid of one blank cell. -/
def blank : Grid := ⟨1, 1, #[none], by decide, by decide, rfl⟩

/-- The value that a blank cell reads as. -/
def blankValue : Cell := -1

/-- A column and a row lie inside the grid. -/
def inBounds (g : Grid) (col row : Int) : Bool :=
  0 ≤ col && col < g.width && 0 ≤ row && row < g.height

/-- The place of a position in the row-by-row order. -/
def slot (g : Grid) (col row : Nat) : Nat := row * g.width + col

/-- What a position holds; blank outside the grid. -/
def cell (g : Grid) (col row : Nat) : Option Cell := g.cells.getD (g.slot col row) none

/-- What a position holds. Positions outside the grid cannot be read. -/
def read (g : Grid) (col row : Int) : Except Fault (Option Cell) :=
  if g.inBounds col row then .ok (g.cell col.toNat row.toNat)
  else .error (.readOutside col row g.width g.height)

/-- The value of a position, -1 for a blank one. -/
def get (g : Grid) (col row : Int) : Except Fault Cell :=
  (g.read col row).map (·.getD blankValue)

/-- Fills a position inside the grid. -/
def fill (g : Grid) (col row : Nat) (v : Cell) : Grid where
  width := g.width
  height := g.height
  cells := g.cells.setIfInBounds (g.slot col row) (some v)
  width_pos := g.width_pos
  height_pos := g.height_pos
  size_eq := by rw [Array.size_setIfInBounds, g.size_eq]

/-- Fills a position. Positions outside the grid cannot be written. -/
def set (g : Grid) (col row : Int) (v : Cell) : Except Fault Grid :=
  if g.inBounds col row then .ok (g.fill col.toNat row.toNat v)
  else .error (.writeOutside col row g.width g.height)

/-- The index that a number stands for in a sequence. Numbers below zero count from the end. -/
def index? (size : Nat) (n : Int) : Option Nat :=
  if 0 ≤ n ∧ n < size then some n.toNat
  else if n < 0 ∧ -size ≤ n then some (n + size).toNat
  else none

/-- Whether a position is blank. Columns and rows below zero count from the far edge; beyond the
edges there is no answer. -/
def isBlank? (g : Grid) (col row : Int) : Option Bool :=
  match index? g.height row, index? g.width col with
  | some r, some c => some (g.cell c r).isNone
  | _, _ => none

/-- Reduces any column and row onto the torus. -/
def wrap (g : Grid) (col row : Int) : Int × Int := (col % g.width, row % g.height)

/-- One position further in a direction, across the edge if need be. -/
def step (g : Grid) (col row : Int) (d : Direction) : Int × Int :=
  g.wrap (col + d.colDelta) (row + d.rowDelta)

/-- What the grid holds, row by row. -/
def cellRows (g : Grid) : List (List (Option Cell)) :=
  (List.range g.height).map fun row => (List.range g.width).map fun col => g.cell col row

theorem inBounds_iff {g : Grid} {col row : Int} :
    g.inBounds col row = true ↔ 0 ≤ col ∧ col < g.width ∧ 0 ≤ row ∧ row < g.height := by
  simp [inBounds, and_assoc]

theorem inBounds_wrap (g : Grid) (col row : Int) :
    g.inBounds (g.wrap col row).1 (g.wrap col row).2 = true := by
  have := g.width_pos
  have := g.height_pos
  exact inBounds_iff.mpr ⟨Int.emod_nonneg _ (by omega), Int.emod_lt_of_pos _ (by omega),
    Int.emod_nonneg _ (by omega), Int.emod_lt_of_pos _ (by omega)⟩

theorem wrap_of_inBounds {g : Grid} {col row : Int} (inside : g.inBounds col row = true) :
    g.wrap col row = (col, row) := by
  obtain ⟨left, right, top, bottom⟩ := inBounds_iff.mp inside
  rw [wrap, Int.emod_eq_of_lt left right, Int.emod_eq_of_lt top bottom]

theorem slot_lt {g : Grid} {col row : Nat} (inWidth : col < g.width) (inHeight : row < g.height) :
    g.slot col row < g.cells.size := by
  rw [g.size_eq, slot, Nat.mul_comm]
  calc
    g.width * row + col < g.width * row + g.width := by omega
    _ = g.width * (row + 1) := (Nat.mul_succ _ _).symm
    _ ≤ g.width * g.height := Nat.mul_le_mul_left _ inHeight

theorem slot_inj {g : Grid} {col row col' row' : Nat} (inWidth : col < g.width)
    (inWidth' : col' < g.width) (same : g.slot col row = g.slot col' row') :
    col = col' ∧ row = row' := by
  unfold slot at same
  have sameCol := congrArg (· % g.width) same
  have sameRow := congrArg (· / g.width) same
  simp only [Nat.mul_add_mod_self_right, Nat.mod_eq_of_lt inWidth,
    Nat.mod_eq_of_lt inWidth'] at sameCol
  simp only [Nat.mul_comm _ g.width, Nat.mul_add_div g.width_pos, Nat.div_eq_of_lt inWidth,
    Nat.div_eq_of_lt inWidth', Nat.add_zero] at sameRow
  exact ⟨sameCol, sameRow⟩

theorem cell_fill_same {g : Grid} {col row : Nat} (v : Cell) (inWidth : col < g.width)
    (inHeight : row < g.height) : (g.fill col row v).cell col row = some v := by
  have bound := slot_lt inWidth inHeight
  simp only [cell, slot, fill, Array.getD_eq_getD_getElem?] at bound ⊢
  rw [Array.getElem?_setIfInBounds_self_of_lt bound, Option.getD_some]

theorem cell_fill_of_ne {g : Grid} {col row col' row' : Nat} (v : Cell) (inWidth : col < g.width)
    (inWidth' : col' < g.width) (other : ¬ (col = col' ∧ row = row')) :
    (g.fill col row v).cell col' row' = g.cell col' row' := by
  have apart : g.slot col row ≠ g.slot col' row' := fun same =>
    other (slot_inj inWidth inWidth' same)
  simp only [cell, slot, fill, Array.getD_eq_getD_getElem?] at apart ⊢
  rw [Array.getElem?_setIfInBounds_ne apart]

theorem inBounds_fill (g : Grid) (c r : Nat) (v : Cell) (col row : Int) :
    (g.fill c r v).inBounds col row = g.inBounds col row := rfl

theorem set_eq_ok {g g' : Grid} {col row : Int} {v : Cell} :
    g.set col row v = .ok g' ↔ g.inBounds col row = true ∧ g' = g.fill col.toNat row.toNat v := by
  unfold set
  split
  · next inside =>
    constructor
    · intro same
      exact ⟨inside, (Except.ok.inj same).symm⟩
    · rintro ⟨-, rfl⟩
      rfl
  · next outside => exact ⟨nofun, fun ⟨inside, _⟩ => absurd inside outside⟩

theorem read_of_inBounds {g : Grid} {col row : Int} (inside : g.inBounds col row = true) :
    g.read col row = .ok (g.cell col.toNat row.toNat) := if_pos inside

theorem get_eq_ok {g : Grid} {col row : Int} {v : Cell} :
    g.get col row = .ok v ↔
      ∃ content, g.read col row = .ok content ∧ content.getD blankValue = v := by
  unfold get
  cases g.read col row with
  | error f => exact ⟨nofun, nofun⟩
  | ok content => simp [Except.map]

theorem read_set_same {g g' : Grid} {col row : Int} {v : Cell}
    (written : g.set col row v = .ok g') : g'.read col row = .ok (some v) := by
  obtain ⟨inside, rfl⟩ := set_eq_ok.mp written
  obtain ⟨left, right, top, bottom⟩ := inBounds_iff.mp inside
  rw [read_of_inBounds ((inBounds_fill ..).trans inside), cell_fill_same v (by omega) (by omega)]

theorem read_set_of_ne {g g' : Grid} {col row col' row' : Int} {v : Cell}
    (written : g.set col row v = .ok g') (other : (col', row') ≠ (col, row)) :
    g'.read col' row' = g.read col' row' := by
  obtain ⟨inside, rfl⟩ := set_eq_ok.mp written
  obtain ⟨left, right, top, bottom⟩ := inBounds_iff.mp inside
  unfold read
  rw [inBounds_fill]
  split
  · next inside' =>
    obtain ⟨left', right', top', bottom'⟩ := inBounds_iff.mp inside'
    rw [cell_fill_of_ne v (by omega) (by omega)]
    rintro ⟨sameCol, sameRow⟩
    exact other (by rw [Prod.mk.injEq]; omega)
  · rfl

end Grid

end Funge93
