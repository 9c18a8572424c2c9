import Funge93.Grid.Layout

/-!
# The grid of some lines

A grid is described by lines: it is as wide as the longest one, as high as there are lines, and
blank past the end of each (`Describes`). This module proves that the grid loaded from lines is the
one that they describe, unless there is no character in them.

Results:
1. `longest_le_iff`, `isLongest_longest`, `longest_eq_zero_iff`: the length of the longest line.
2. `get_natCast`, `isBlank?_natCast`: what is read inside the grid.
3. `describes_ofLines`: lines describe the grid that is loaded from them.
-/

namespace Funge93

/-- Every code point fits into a cell. -/
theorem CodePoint.toInt_cell (ch : CodePoint) : (Cell.ofInt ch.val).toInt = ch.val :=
  Int64.toInt_ofInt_of_le (by have := ch.isLt; omega) (by have := ch.isLt; omega)

namespace Grid

/-- The number is the length of the longest of the lines. -/
def IsLongest (n : Nat) (lines : List Text) : Prop :=
  (∀ line ∈ lines, line.length ≤ n) ∧ ∃ line ∈ lines, line.length = n

/-- The grid is the one that the lines describe. -/
structure Describes (lines : List Text) (g : Grid) : Prop where
  width : IsLongest g.width lines
  height : g.height = lines.length
  /-- A position in a line holds the code of its character. -/
  character : ∀ (row col : Nat) (line : Text) (c : CodePoint), lines[row]? = some line →
    (line)[col]? = some c →
    ∃ v : Cell, v.toInt = c.val ∧ g.get col row = .ok v ∧ g.isBlank? col row = some false
  /-- A position past the end of its line is blank. -/
  padding : ∀ (row col : Nat) (line : Text), lines[row]? = some line → line.length ≤ col →
    col < g.width → g.get col row = .ok (-1) ∧ g.isBlank? col row = some true

variable {lines : List Text} {g : Grid} {col row n : Nat}

/-! ## The longest line -/

theorem longest_le_iff : longest lines ≤ n ↔ ∀ line ∈ lines, line.length ≤ n := by
  refine ⟨fun h line hmem => Nat.le_trans (length_le_longest hmem) h, fun h => ?_⟩
  induction lines with
  | nil => exact Nat.zero_le n
  | cons line more ih =>
    obtain ⟨hline, hmore⟩ := List.forall_mem_cons.mp h
    exact Nat.max_le.mpr ⟨hline, ih hmore⟩

theorem isLongest_longest (h : lines ≠ []) : IsLongest (longest lines) lines := by
  refine ⟨fun line => length_le_longest, ?_⟩
  induction lines with
  | nil => exact absurd rfl h
  | cons line more ih =>
    by_cases hmore : more = []
    · rw [hmore]
      exact ⟨line, List.mem_cons_self, (Nat.max_zero _).symm⟩
    · rcases Nat.le_total (longest more) line.length with hle | hle
      · exact ⟨line, List.mem_cons_self, (Nat.max_eq_left hle).symm⟩
      · obtain ⟨other, hother, hlength⟩ := ih hmore
        exact ⟨other, List.mem_cons_of_mem _ hother, hlength.trans (Nat.max_eq_right hle).symm⟩

theorem longest_eq_zero_iff : longest lines = 0 ↔ ∀ line ∈ lines, line = [] := by
  rw [← Nat.le_zero, longest_le_iff]
  simp only [Nat.le_zero, List.length_eq_zero_iff]

theorem longest_pos_iff : 0 < longest lines ↔ ∃ line ∈ lines, line ≠ [] := by
  rw [Nat.pos_iff_ne_zero, Ne, longest_eq_zero_iff]
  simp

/-! ## Reading inside the grid -/

theorem inBounds_natCast (hc : col < g.width) (hr : row < g.height) :
    g.inBounds col row = true :=
  inBounds_iff.mpr ⟨Int.natCast_nonneg _, Int.ofNat_lt.mpr hc, Int.natCast_nonneg _,
    Int.ofNat_lt.mpr hr⟩

theorem get_natCast (hc : col < g.width) (hr : row < g.height) :
    g.get col row = .ok ((g.cell col row).getD blankValue) := by
  unfold get
  rw [read_of_inBounds (inBounds_natCast hc hr)]
  rfl

theorem isBlank?_natCast (hc : col < g.width) (hr : row < g.height) :
    g.isBlank? col row = some (g.cell col row).isNone := by
  simp [isBlank?, index?, hc, hr]

/-! ## Loading -/

section

variable {line : Text} (hcol : col < longest lines) (hline : lines[row]? = some line)
include hcol hline

theorem inside_ofLines : col < (ofLines lines).width ∧ row < (ofLines lines).height := by
  have hpos : 0 < longest lines := Nat.zero_lt_of_lt hcol
  rw [width_ofLines hpos, height_ofLines hpos]
  exact ⟨hcol, (List.getElem?_eq_some_iff.mp hline).1⟩

theorem get_ofLines : (ofLines lines).get col row =
    .ok (((line)[col]?.map fun c => Cell.ofInt c.val).getD blankValue) := by
  obtain ⟨hwidth, hheight⟩ := inside_ofLines hcol hline
  rw [get_natCast hwidth hheight, cell_ofLines hcol hline]

theorem isBlank?_ofLines : (ofLines lines).isBlank? col row = some (line)[col]?.isNone := by
  obtain ⟨hwidth, hheight⟩ := inside_ofLines hcol hline
  rw [isBlank?_natCast hwidth hheight, cell_ofLines hcol hline, Option.isNone_map]

end

/-- Lines with a character in them describe the grid that is loaded from them. -/
theorem describes_ofLines (h : 0 < longest lines) : Describes lines (ofLines lines) where
  width := by
    rw [width_ofLines h]
    exact isLongest_longest (ne_nil_of_longest_pos h)
  height := height_ofLines h
  character row col line c hline hc := by
    have hcol : col < longest lines :=
      Nat.lt_of_lt_of_le (List.getElem?_eq_some_iff.mp hc).1
        (length_le_longest (List.mem_of_getElem? hline))
    rw [get_ofLines hcol hline, isBlank?_ofLines hcol hline, hc]
    exact ⟨Cell.ofInt c.val, c.toInt_cell, rfl, rfl⟩
  padding row col line hline hpast hwidth := by
    have hcol : col < longest lines := by rwa [width_ofLines h] at hwidth
    rw [get_ofLines hcol hline, isBlank?_ofLines hcol hline, List.getElem?_eq_none hpast]
    exact ⟨rfl, rfl⟩

end Grid

end Funge93
