import Mathlib.Data.List.DropRight
import Funge93.Proofs.Grid.Lines
import Funge93.Proofs.Grid.Stores
import Funge93.Proofs.Text.Terminators

/-!
# Rendering and loading again

A rendered grid is less than the grid: what is no character shows as a space, white space at the end
of a row is dropped, and with it which positions are blank. This module says what is left
(`Renders`) and proves that nothing more gets lost: the rows of a grid, loaded again, render as the
same rows. It takes that no position holds a line terminator, which would split its row in two.

Results:
1. `renders_rows`: the rows of a grid.
2. `rows_ofLines`: lines that are loaded render as they are, without the white space at their ends.
3. `showsUnbroken_of_rewritten`: writes that spare line terminators leave rows without any.
4. `rows_reload`: what the rows of a grid are loaded as.
-/

namespace Funge93

/-! ## White space at the end -/

namespace Text

/-- The characters that go from the end of a text are white space. -/
theorem isBlank_of_trimEnd_le {t : Text} {c : CodePoint} {k : Nat} (hk : t.trimEnd.length ≤ k)
    (hc : t[k]? = some c) : c.isBlank = true := by
  have hsplit : t.trimEnd ++ t.rtakeWhile CodePoint.isBlank = t :=
    List.rdropWhile_append_rtakeWhile
  rw [← hsplit, List.getElem?_append_right hk] at hc
  exact List.mem_rtakeWhile_imp (List.mem_of_getElem? hc)

theorem trimEnd_isPrefix (t : Text) : t.trimEnd <+: t := List.rdropWhile_prefix _ _

theorem isBlank_of_getLast?_trimEnd {t : Text} {c : CodePoint}
    (hc : t.trimEnd.getLast? = some c) : c.isBlank = false := by
  obtain ⟨hne, rfl⟩ := List.mem_getLast?_eq_getLast hc
  exact Bool.eq_false_iff.mpr (List.rdropWhile_last_not CodePoint.isBlank t hne)

theorem trimEnd_append_replicate_space (t : Text) (n : Nat) :
    trimEnd (t ++ List.replicate n CodePoint.space) = t.trimEnd := by
  induction n with
  | zero => rw [List.replicate_zero, List.append_nil]
  | succ n ih =>
    rw [List.replicate_succ', ← List.append_assoc, ← ih]
    exact List.rdropWhile_concat_pos _ _ _ rfl

end Text

namespace Grid

variable {g g' : Grid} {t : Text} {lines : List Text} {col row : Nat}

/-! ## The rows of a grid -/

/-- The code of the character that a cell shows as. -/
def glyph (v : Cell) : Int := if 0 ≤ v.toInt ∧ v.toInt ≤ 0x10FFFF then v.toInt else 0x20

/-- The rows show the grid: a character for each cell, without the white space at the end. -/
structure Renders (g : Grid) (rows : List Text) : Prop where
  height : rows.length = g.height
  width : ∀ entry ∈ rows, entry.length ≤ g.width
  trimmed : ∀ entry ∈ rows, ∀ c, entry.getLast? = some c → c.isBlank = false
  character : ∀ (row col : Nat) (entry : Text) (c : CodePoint), rows[row]? = some entry →
    entry[col]? = some c → ∃ v, g.get col row = .ok v ∧ c.val = glyph v
  /-- Past the end of a row there is white space only. -/
  dropped : ∀ (row col : Nat) (entry : Text), rows[row]? = some entry → entry.length ≤ col →
    col < g.width → ∃ (v : Cell) (c : CodePoint),
      g.get col row = .ok v ∧ c.val = glyph v ∧ c.isBlank = true

/-- A row of a grid with all its white space. -/
def shownRow (g : Grid) (row : Nat) : Text :=
  (List.range g.width).map fun col => shown (g.cell col row)

theorem val_shown (content : Option Cell) :
    ((shown content).val : Int) = glyph (content.getD blankValue) := by
  cases content with
  | none => rfl
  | some v =>
    show (((CodePoint.ofInt? v.toInt).getD CodePoint.space).val : Int) = glyph v
    unfold glyph
    cases hv : CodePoint.ofInt? v.toInt with
    | none =>
      have houtside := CodePoint.ofInt?_eq_none.mp hv
      rw [if_neg (by omega)]
      rfl
    | some c =>
      have hcode := CodePoint.ofInt?_eq_some.mp hv
      have hlt := c.isLt
      rw [if_pos (by omega), hcode]
      rfl

theorem length_rows (g : Grid) : g.rows.length = g.height := by
  simp [rows, cellRows]

theorem getElem?_rows (hr : row < g.height) : g.rows[row]? = some (g.shownRow row).trimEnd := by
  simp [rows, cellRows, shownRow, hr, Function.comp_def]

/-- Each entry of the rows is a row of the grid. -/
theorem rows_eq_some_iff {entry : Text} :
    g.rows[row]? = some entry ↔ row < g.height ∧ entry = (g.shownRow row).trimEnd := by
  refine ⟨fun hrow => ?_, fun ⟨hr, hentry⟩ => hentry ▸ getElem?_rows hr⟩
  have hr : row < g.height := g.length_rows ▸ (List.getElem?_eq_some_iff.mp hrow).1
  rw [getElem?_rows hr] at hrow
  exact ⟨hr, (Option.some.inj hrow).symm⟩

theorem exists_of_mem_rows {entry : Text} (h : entry ∈ g.rows) :
    ∃ row < g.height, entry = (g.shownRow row).trimEnd := by
  obtain ⟨row, hrow⟩ := List.mem_iff_getElem?.mp h
  exact ⟨row, rows_eq_some_iff.mp hrow⟩

theorem length_shownRow (g : Grid) (row : Nat) : (g.shownRow row).length = g.width := by
  simp [shownRow]

theorem getElem?_shownRow (hc : col < g.width) :
    (g.shownRow row)[col]? = some (shown (g.cell col row)) := by
  simp [shownRow, hc]

/-- What a position shows as, by the value that is read there. -/
theorem exists_get_eq (hc : col < g.width) (hr : row < g.height) :
    ∃ v, g.get col row = .ok v ∧ ((shown (g.cell col row)).val : Int) = glyph v :=
  ⟨_, get_natCast hc hr, val_shown _⟩

theorem renders_rows (g : Grid) : Renders g g.rows where
  height := g.length_rows
  width entry hmem := by
    obtain ⟨row, -, rfl⟩ := exists_of_mem_rows hmem
    exact g.length_shownRow row ▸ (Text.trimEnd_isPrefix _).length_le
  trimmed entry hmem c hc := by
    obtain ⟨row, -, rfl⟩ := exists_of_mem_rows hmem
    exact Text.isBlank_of_getLast?_trimEnd hc
  character row col entry c hrow hc := by
    obtain ⟨hr, rfl⟩ := rows_eq_some_iff.mp hrow
    obtain ⟨hlt, rfl⟩ := List.getElem?_eq_some_iff.mp hc
    have hshown := List.prefix_iff_getElem?.mp (Text.trimEnd_isPrefix (g.shownRow row)) col hlt
    have hcol : col < g.width := g.length_shownRow row ▸ (List.getElem?_eq_some_iff.mp hshown).1
    rw [getElem?_shownRow hcol] at hshown
    exact Option.some.inj hshown ▸ exists_get_eq hcol hr
  dropped row col entry hrow hpast hcol := by
    obtain ⟨hr, rfl⟩ := rows_eq_some_iff.mp hrow
    obtain ⟨v, hv, hshown⟩ := exists_get_eq hcol hr
    exact ⟨v, _, hv, hshown, Text.isBlank_of_trimEnd_le hpast (getElem?_shownRow hcol)⟩

/-! ## Lines that are loaded -/

theorem shown_character (c : CodePoint) : shown (some (Cell.ofInt c.val)) = c := by
  show (CodePoint.ofInt? (Cell.ofInt c.val).toInt).getD CodePoint.space = c
  rw [CodePoint.ofInt?_eq_some.mpr c.toInt_cell, Option.getD_some]

/-- A line that is loaded shows as it is, filled up with spaces. -/
theorem shownRow_ofLines {line : Text} (h : 0 < longest lines) (hline : lines[row]? = some line) :
    (ofLines lines).shownRow row =
      line ++ List.replicate (longest lines - line.length) CodePoint.space := by
  have hlength := length_le_longest (List.mem_of_getElem? hline)
  have hwidth := width_ofLines h
  refine List.ext_getElem? fun col => ?_
  by_cases hcol : col < longest lines
  · rw [getElem?_shownRow (by rwa [hwidth]), cell_ofLines hcol hline]
    by_cases hc : col < line.length
    · rw [List.getElem?_append_left hc, List.getElem?_eq_getElem hc]
      exact congrArg some (shown_character _)
    · -- Past the end of the line the position is blank, and shows as a space.
      have hrest : col - line.length < longest lines - line.length := by omega
      rw [List.getElem?_append_right (Nat.not_lt.mp hc), List.getElem?_replicate_of_lt hrest,
        List.getElem?_eq_none (Nat.not_lt.mp hc)]
      rfl
  · rw [List.getElem?_eq_none, List.getElem?_eq_none]
    · rw [List.length_append, List.length_replicate]
      omega
    · rw [length_shownRow, hwidth]
      omega

theorem rows_ofLines (h : 0 < longest lines) : (ofLines lines).rows = lines.map Text.trimEnd := by
  refine List.ext_getElem? fun row => ?_
  rw [List.getElem?_map]
  cases hline : lines[row]? with
  | some line =>
    have hr : row < (ofLines lines).height := by
      rw [height_ofLines h]
      exact (List.getElem?_eq_some_iff.mp hline).1
    rw [getElem?_rows hr, shownRow_ofLines h hline, Text.trimEnd_append_replicate_space]
    rfl
  | none =>
    refine List.getElem?_eq_none ?_
    rw [length_rows, height_ofLines h]
    exact List.getElem?_eq_none_iff.mp hline

/-! ## Writes -/

/-- `Rewritten t g`: the grid of the text `t` becomes `g` by writes inside the grid, none of which
writes the code of a line terminator. -/
inductive Rewritten (t : Text) : Grid → Prop
  | loaded : Rewritten t (ofText t)
  | set {g g' : Grid} {col row n : Int} : Rewritten t g →
      (∀ c : CodePoint, (Cell.ofInt n).toInt = c.val → c.endsLine = false) →
      g.set col row (Cell.ofInt n) = .ok g' → Rewritten t g'

/-- A value is not the code of a line terminator if it does not show as one. -/
theorem endsLine_shown_iff {v : Cell} : (shown (some v)).endsLine = false ↔
    ∀ c : CodePoint, v.toInt = c.val → c.endsLine = false := by
  show ((CodePoint.ofInt? v.toInt).getD CodePoint.space).endsLine = false ↔ _
  refine ⟨fun h c hc => ?_, fun h => ?_⟩
  · rwa [CodePoint.ofInt?_eq_some.mpr hc] at h
  · cases hcode : CodePoint.ofInt? v.toInt with
    | none => rfl
    | some c => exact h c (CodePoint.ofInt?_eq_some.mp hcode)

/-- No position shows as a line terminator. -/
def ShowsUnbroken (g : Grid) : Prop :=
  ∀ col row, col < g.width → row < g.height → (shown (g.cell col row)).endsLine = false

theorem showsUnbroken_ofText (t : Text) : (ofText t).ShowsUnbroken := by
  intro col row hc hr
  rw [cell_ofText t hc hr]
  unfold character?
  cases hchar : t.lines[row]?.bind fun line => (line)[col]? with
  | none => rfl
  | some c =>
    obtain ⟨line, hline, hc⟩ := Option.bind_eq_some_iff.mp hchar
    rw [Option.map_some, shown_character]
    exact Text.unbroken_of_mem_lines (List.mem_of_getElem? hline) c (List.mem_of_getElem? hc)

theorem ShowsUnbroken.set {x y : Int} {v : Cell} (h : g.ShowsUnbroken)
    (hv : ∀ c : CodePoint, v.toInt = c.val → c.endsLine = false) (hset : g.set x y v = .ok g') :
    g'.ShowsUnbroken := by
  obtain ⟨hinside, rfl⟩ := set_eq_ok.mp hset
  obtain ⟨hleft, hright, htop, hbottom⟩ := inBounds_iff.mp hinside
  intro col row hc hr
  by_cases hhit : x.toNat = col ∧ y.toNat = row
  · obtain ⟨rfl, rfl⟩ := hhit
    rw [cell_fill_same v (by omega) (by omega)]
    exact endsLine_shown_iff.mpr hv
  · rw [cell_fill_of_ne (g := g) v (by omega) hc hhit]
    exact h col row hc hr

theorem showsUnbroken_of_rewritten (h : Rewritten t g) : g.ShowsUnbroken := by
  induction h with
  | loaded => exact showsUnbroken_ofText t
  | set _ hv hset ih => exact ih.set hv hset

theorem ShowsUnbroken.rows (h : g.ShowsUnbroken) : ∀ entry ∈ g.rows, entry.Unbroken := by
  intro entry hmem c hc
  obtain ⟨row, hr, rfl⟩ := exists_of_mem_rows hmem
  obtain ⟨col, hcol, rfl⟩ := List.mem_map.mp ((Text.trimEnd_isPrefix _).subset hc)
  exact h col row (List.mem_range.mp hcol) hr

/-! ## Loading the rows -/

/-- The text of some rows, with a line feed after each. -/
def textOf (rows : List Text) : Text := rows.flatMap (· ++ [CodePoint.lineFeed])

/-- The grid has this height and is as wide as the longest of the rows, it renders as the rows, and
blank is what is past the end of a row and nothing else. -/
structure Reloads (height : Nat) (rows : List Text) (g : Grid) : Prop where
  height : g.height = height
  width : IsLongest g.width rows
  blank : ∀ (row col : Nat) (entry : Text), rows[row]? = some entry → col < g.width →
    g.isBlank? col row = some (decide (entry.length ≤ col))
  rows : g.rows = rows

theorem ofText_textOf {rows : List Text} (h : ∀ entry ∈ rows, entry.Unbroken) :
    ofText (textOf rows) = ofLines rows :=
  congrArg ofLines (Text.lines_flatMap_lineFeed h)

theorem map_trimEnd_rows (g : Grid) : g.rows.map Text.trimEnd = g.rows := by
  have hfixed : ∀ entry ∈ g.rows, entry.trimEnd = entry := by
    intro entry hmem
    obtain ⟨row, -, rfl⟩ := exists_of_mem_rows hmem
    exact List.rdropWhile_idempotent CodePoint.isBlank _
  exact (List.map_congr_left hfixed).trans (List.map_id _)

theorem reloads_rows (h : 0 < longest g.rows) : Reloads g.height g.rows (ofLines g.rows) where
  height := (height_ofLines h).trans g.length_rows
  width := (describes_ofLines h).width
  blank row col entry hrow hcol := by
    rw [width_ofLines h] at hcol
    rw [isBlank?_ofLines hcol hrow, Option.some.injEq, Bool.eq_iff_iff, Option.isNone_iff_eq_none,
      List.getElem?_eq_none_iff, decide_eq_true_eq]
  rows := (rows_ofLines h).trans g.map_trimEnd_rows

/-- Let writes that spare line terminators change the grid of a text. Its rows are as many as it is
high, none longer than it is wide or with white space at the end, and they show each position as its
character or, if its value is the code of none, as a space. Where there is a character in them, the
text of the rows loads as a grid of the same height that renders as the same rows; otherwise, as the
single blank cell. -/
theorem rows_reload (t : Text) (g : Grid) (h : Rewritten t g) :
    Renders g g.rows ∧
      ((∃ entry ∈ g.rows, entry ≠ []) → Reloads g.height g.rows (ofText (textOf g.rows))) ∧
      ((∀ entry ∈ g.rows, entry = []) → ofText (textOf g.rows) = Grid.blank) := by
  have hload : ofText (textOf g.rows) = ofLines g.rows :=
    ofText_textOf (showsUnbroken_of_rewritten h).rows
  rw [hload]
  refine ⟨renders_rows g, fun hsome => ?_, fun hnone => ?_⟩
  · exact reloads_rows (longest_pos_iff.mpr hsome)
  · exact ofLines_of_longest_eq_zero (longest_eq_zero_iff.mpr hnone)

/-- Written are a surrogate, a space, a number that is no code point and an ideographic space, which
leaves one character and the surrogate of the first row and nothing of the second. -/
theorem rows_reload_after_writes :
    Reloads 2 [[0x61, 0xD800], []] (ofText (textOf [[0x61, 0xD800], []])) := by
  have h₀ : Rewritten "abc\nd" _ := .loaded
  have h₁ := h₀.set (endsLine_shown_iff.mp (by decide))
    (show Grid.set _ 1 0 (Cell.ofInt 0xD800) = .ok _ from rfl)
  have h₂ := h₁.set (endsLine_shown_iff.mp (by decide))
    (show Grid.set _ 2 0 (Cell.ofInt 0x20) = .ok _ from rfl)
  have h₃ := h₂.set (endsLine_shown_iff.mp (by decide))
    (show Grid.set _ 0 1 (Cell.ofInt (-1)) = .ok _ from rfl)
  have h₄ := h₃.set (endsLine_shown_iff.mp (by decide))
    (show Grid.set _ 2 1 (Cell.ofInt 0x3000) = .ok _ from rfl)
  obtain ⟨-, hreloads, -⟩ := rows_reload _ _ h₄
  exact hreloads ⟨_, List.mem_cons_self, by decide⟩

end Grid

end Funge93
