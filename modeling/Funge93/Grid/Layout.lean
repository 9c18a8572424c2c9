import Funge93.Grid
import Funge93.Text.Blank
import Funge93.Text.Lines

/-!
# Grids and text

A grid is as wide as its longest line and as high as it has lines; shorter lines are padded with
blank positions. Without any character the grid is a single blank cell, so that the pointer has a
place to stand on.

Rendering shows each position as one character and drops the white space at the end of a row.

This file proves what size a loaded grid has (`width_ofLines`, `height_ofLines`) and what its
positions hold (`cell_ofLines`).
-/

namespace Funge93.Grid

/-- The length of the longest line. -/
def longest (lines : List Text) : Nat := lines.foldr (fun line most => max line.length most) 0

/-- One line as cells, padded with blank ones. -/
def row (width : Nat) (line : Text) : List (Option Cell) :=
  line.map (fun c => some (Cell.ofInt c.val)) ++ List.replicate (width - line.length) none

theorem length_le_longest {lines : List Text} {line : Text} (member : line ∈ lines) :
    line.length ≤ longest lines := by
  induction lines with
  | nil => cases member
  | cons first more ih =>
    rw [longest, List.foldr_cons]
    cases member with
    | head => exact Nat.le_max_left _ _
    | tail _ member => exact Nat.le_trans (ih member) (Nat.le_max_right _ _)

theorem length_row {width : Nat} {line : Text} (fits : line.length ≤ width) :
    (row width line).length = width := by
  simp only [row, List.length_append, List.length_map, List.length_replicate]
  omega

theorem length_flatMap_row {width : Nat} {lines : List Text}
    (fit : ∀ line ∈ lines, line.length ≤ width) :
    (lines.flatMap (row width)).length = width * lines.length := by
  induction lines with
  | nil => rfl
  | cons line more ih =>
    rw [List.flatMap_cons, List.length_append, length_row (fit line List.mem_cons_self),
      ih fun line member => fit line (List.mem_cons_of_mem _ member), List.length_cons,
      Nat.mul_succ, Nat.add_comm]

/-- The grid that some lines describe. -/
def ofLines (lines : List Text) : Grid :=
  if nonempty : 0 < longest lines ∧ 0 < lines.length then
    { width := longest lines
      height := lines.length
      cells := (lines.flatMap (row (longest lines))).toArray
      width_pos := nonempty.1
      height_pos := nonempty.2
      size_eq := length_flatMap_row fun _ member => length_le_longest member }
  else blank

/-- The grid that the lines of a text describe. -/
def ofText (t : Text) : Grid := ofLines t.lines

/-- The character that shows what a position holds. Blank positions and values that are no code
points show as a space. -/
def shown (content : Option Cell) : CodePoint :=
  match content with
  | none => CodePoint.space
  | some v => (CodePoint.ofInt? v.toInt).getD CodePoint.space

/-- The rows of a grid as text. -/
def rows (g : Grid) : List Text := g.cellRows.map fun cells => Text.trimEnd (cells.map shown)

theorem getElem?_row {width : Nat} {line : Text} {col : Nat} (inside : col < width)
    (fits : line.length ≤ width) :
    (row width line)[col]? = some ((line)[col]?.map fun c => Cell.ofInt c.val) := by
  unfold row
  by_cases short : col < line.length
  · rw [List.getElem?_append_left (by simpa using short), List.getElem?_map,
      List.getElem?_eq_getElem short]
    rfl
  · have past : (line)[col]? = none := List.getElem?_eq_none (by omega)
    rw [List.getElem?_append_right (by simpa using short), past, List.length_map,
      List.getElem?_replicate, if_pos (by omega), Option.map_none]

theorem getElem?_flatMap_row {width : Nat} {lines : List Text} {line : Text} {col r : Nat}
    (fit : ∀ line ∈ lines, line.length ≤ width) (inside : col < width)
    (found : lines[r]? = some line) :
    (lines.flatMap (row width))[r * width + col]? =
      some ((line)[col]?.map fun c => Cell.ofInt c.val) := by
  induction lines generalizing r with
  | nil => simp at found
  | cons first more ih =>
    have fits := fit first List.mem_cons_self
    rw [List.flatMap_cons]
    cases r with
    | zero =>
      obtain rfl : first = line := by simpa using found
      rw [Nat.zero_mul, Nat.zero_add,
        List.getElem?_append_left (by rwa [length_row fits]), getElem?_row inside fits]
    | succ r =>
      rw [List.getElem?_append_right (by rw [length_row fits, Nat.succ_mul]; omega),
        length_row fits, Nat.succ_mul,
        show r * width + width + col - width = r * width + col by omega]
      exact ih (fun line member => fit line (List.mem_cons_of_mem _ member)) (by simpa using found)

theorem ne_nil_of_longest_pos {lines : List Text} (h : 0 < longest lines) : lines ≠ [] := by
  rintro rfl
  exact absurd h (Nat.lt_irrefl 0)

section

variable {lines : List Text} (h : 0 < longest lines)
include h

theorem width_ofLines : (ofLines lines).width = longest lines := by
  unfold ofLines
  rw [dif_pos ⟨h, List.length_pos_iff.mpr (ne_nil_of_longest_pos h)⟩]

theorem height_ofLines : (ofLines lines).height = lines.length := by
  unfold ofLines
  rw [dif_pos ⟨h, List.length_pos_iff.mpr (ne_nil_of_longest_pos h)⟩]

theorem cells_ofLines : (ofLines lines).cells = (lines.flatMap (row (longest lines))).toArray := by
  unfold ofLines
  rw [dif_pos ⟨h, List.length_pos_iff.mpr (ne_nil_of_longest_pos h)⟩]

end

theorem ofLines_of_longest_eq_zero {lines : List Text} (h : longest lines = 0) :
    ofLines lines = blank := by
  unfold ofLines
  rw [dif_neg (by omega)]

/-- A position holds the character of its line, and is blank past the end of that line. -/
theorem cell_ofLines {lines : List Text} {line : Text} {col r : Nat}
    (inside : col < longest lines) (found : lines[r]? = some line) :
    (ofLines lines).cell col r = (line)[col]?.map fun c => Cell.ofInt c.val := by
  have high : 0 < lines.length := by
    have := (List.getElem?_eq_some_iff.mp found).1
    omega
  unfold ofLines
  rw [dif_pos ⟨by omega, high⟩]
  simp only [cell, slot, Array.getD_eq_getD_getElem?, List.getElem?_toArray]
  rw [getElem?_flatMap_row (fun _ member => length_le_longest member) inside found,
    Option.getD_some]

end Funge93.Grid
