import Funge93.Grid.Layout
import Funge93.Machine.Tick
import Funge93.Proofs.Grid.Torus

/-!
# Padding as spaces

Positions past the end of a short line are blank. This module compares a grid with the grid that has
a space at each of its blank positions.

Results:
1. `read_filled`, `fetch_filled`, `filled_store`: what reads and writes do to the filled grid.
2. `rows_filled`: both grids render the same.
3. `filled_ofLines`: filling a grid is padding the lines that it is loaded from.
-/

namespace Funge93.Grid

/-- What a position holds when blank ones are filled with spaces. -/
def fillContent (content : Option Cell) : Option Cell := some (content.getD Machine.spaceCell)

/-- The grid with a space at each blank position. -/
def filled (g : Grid) : Grid where
  width := g.width
  height := g.height
  cells := g.cells.map fillContent
  width_pos := g.width_pos
  height_pos := g.height_pos
  size_eq := by rw [Array.size_map, g.size_eq]

/-- Lines padded with spaces to the length of the longest; a single space if there is no character
in them. -/
def paddedLines (lines : List Text) : List Text :=
  if 0 < longest lines then lines.map (List.rightpad (longest lines) CodePoint.space)
  else [[CodePoint.space]]

/-! ## Reads and writes -/

theorem cell_filled {g : Grid} {col row : Nat} (inWidth : col < g.width)
    (inHeight : row < g.height) : g.filled.cell col row = fillContent (g.cell col row) := by
  have bound := slot_lt inWidth inHeight
  show (g.cells.map fillContent).getD (g.slot col row) none = _
  unfold cell
  rw [Array.getD_eq_getD_getElem?, Array.getD_eq_getD_getElem?, Array.getElem?_map,
    Array.getElem?_eq_getElem bound]
  rfl

theorem read_filled (g : Grid) (col row : Int) :
    g.filled.read col row = (g.read col row).map fillContent := by
  unfold read
  rw [show g.filled.inBounds col row = g.inBounds col row from rfl]
  split
  · next inside =>
    obtain ⟨left, right, top, bottom⟩ := inBounds_iff.mp inside
    rw [cell_filled (by omega) (by omega)]
    rfl
  · rfl

theorem fetch_filled (g : Grid) (x y : Int) : g.filled.fetch x y = fillContent (g.fetch x y) := by
  have h := read_filled g (g.wrap x y).1 (g.wrap x y).2
  rw [read_wrap] at h
  have hf : g.filled.read (g.filled.wrap x y).1 (g.filled.wrap x y).2 = .ok (g.filled.fetch x y) :=
    read_wrap g.filled x y
  exact Except.ok.inj (hf.symm.trans h)

theorem filled_store (g : Grid) (x y : Int) (v : Cell) :
    (g.store x y v).filled = g.filled.store x y v := by
  unfold store fill filled
  simp only [Array.map_setIfInBounds]
  rfl

theorem shown_fillContent (content : Option Cell) :
    shown (fillContent content) = shown content := by
  cases content <;> rfl

theorem rows_filled (g : Grid) : g.filled.rows = g.rows := by
  have hrow (row : Nat) (hr : row < g.height) :
      ((List.range g.width).map fun col => g.filled.cell col row).map shown =
        ((List.range g.width).map fun col => g.cell col row).map shown := by
    rw [List.map_map, List.map_map]
    refine List.map_congr_left fun col hc => ?_
    show shown (g.filled.cell col row) = shown (g.cell col row)
    rw [cell_filled (List.mem_range.mp hc) hr, shown_fillContent]
  unfold rows cellRows
  rw [List.map_map, List.map_map]
  refine List.map_congr_left fun row hr => ?_
  exact congrArg Text.trimEnd (hrow row (List.mem_range.mp hr))

/-! ## Loading -/

theorem eq_of_cells_eq {g g' : Grid} (hw : g.width = g'.width) (hh : g.height = g'.height)
    (hc : g.cells = g'.cells) : g = g' := by
  cases g
  cases g'
  simp only at hw hh hc
  subst hw hh hc
  rfl

theorem longest_eq_of_length_eq {lines : List Text} {width : Nat} (nonempty : lines ≠ [])
    (h : ∀ line ∈ lines, line.length = width) : longest lines = width := by
  induction lines with
  | nil => exact absurd rfl nonempty
  | cons line more ih =>
    unfold longest
    rw [List.foldr_cons, h line List.mem_cons_self]
    by_cases hmore : more = []
    · rw [hmore]
      exact Nat.max_eq_left (Nat.zero_le width)
    · have := ih hmore fun line hmem => h line (List.mem_cons_of_mem _ hmem)
      unfold longest at this
      rw [this, Nat.max_self]

/-- A padded line has the same row of cells, with spaces in place of the blank ones. -/
theorem row_rightpad {width : Nat} {line : Text} (fits : line.length ≤ width) :
    row width (line.rightpad width CodePoint.space) = (row width line).map fillContent := by
  have full : width - (line.rightpad width CodePoint.space).length = 0 := by
    rw [List.length_rightpad]
    omega
  unfold row
  rw [full, List.map_append, List.map_map, List.map_replicate, List.rightpad, List.map_append,
    List.map_replicate, List.replicate_zero, List.append_nil]
  rfl

theorem flatMap_row_rightpad {lines : List Text} {width : Nat}
    (fit : ∀ line ∈ lines, line.length ≤ width) :
    (lines.map (List.rightpad width CodePoint.space)).flatMap (row width) =
      (lines.flatMap (row width)).map fillContent := by
  rw [List.flatMap_map, List.map_flatMap]
  unfold List.flatMap
  congr 1
  exact List.map_congr_left fun line hmem => row_rightpad (fit line hmem)

theorem filled_ofLines (lines : List Text) :
    (ofLines lines).filled = ofLines (paddedLines lines) := by
  unfold paddedLines
  by_cases h : 0 < longest lines
  · rw [if_pos h]
    have hfit : ∀ line ∈ lines, line.length ≤ longest lines := fun _ => length_le_longest
    have hlongest : longest (lines.map (List.rightpad (longest lines) CodePoint.space)) =
        longest lines := by
      refine longest_eq_of_length_eq (by simpa using ne_nil_of_longest_pos h) fun line hmem => ?_
      obtain ⟨short, hshort, rfl⟩ := List.mem_map.mp hmem
      rw [List.length_rightpad, Nat.max_eq_left (hfit short hshort)]
    have h' := hlongest.symm ▸ h
    refine eq_of_cells_eq ?_ ?_ ?_
    · rw [width_ofLines h', hlongest]
      exact width_ofLines h
    · rw [height_ofLines h', List.length_map]
      exact height_ofLines h
    · rw [cells_ofLines h', hlongest, flatMap_row_rightpad hfit]
      show (ofLines lines).cells.map fillContent = _
      rw [cells_ofLines h, List.map_toArray]
  · rw [if_neg h, ofLines_of_longest_eq_zero (Nat.eq_zero_of_not_pos h)]
    refine eq_of_cells_eq rfl rfl ?_
    show [none].toArray.map fillContent = [fillContent none].toArray
    rw [List.map_toArray, List.map_singleton]

end Funge93.Grid
