import Mathlib.Data.Int.ModEq
import Mathlib.Data.Set.Function
import Mathlib.Logic.Function.Iterate
import Mathlib.Order.Bounds.Defs
import Mathlib.Order.Interval.Set.Defs
import Funge93.Grid.Layout
import Funge93.Proofs.Grid.Torus

/-!
# Laps of the torus

Steps in one direction go round the torus, along a row or along a column. A lap is as many steps as
there are positions on it. This module says where any number of steps leads, from any coordinates,
and that a lap is the shortest way back to its start.

That a lap leads back is not enough for that. On a row of four positions, four steps of two cells
lead back as well, but two of them do already, and they miss half of the row. So it is proved when
two numbers of steps lead to the same position (`wrap_ahead_eq_iff`), and the rest follows from it.
A row or a column of one position is no exception; there each step is a lap.

Results:
1. `iterate_onward`: where so many steps lead.
2. `wrap_ahead_eq_iff`: two numbers of steps lead to the same position if and only if they differ by
   laps.
3. `isLeast_lane`, `bijOn_lane`: a lap is the shortest way back, and meets each position once.
4. `steps_go_around`: the arithmetic of the torus in one statement.
-/

namespace Funge93

namespace Direction

/-- The coordinate that a step in a direction changes. -/
def along : Direction → Int × Int → Int
  | up, p => p.2
  | down, p => p.2
  | left, p => p.1
  | right, p => p.1

/-- The coordinate that a step in a direction keeps. -/
def across : Direction → Int × Int → Int
  | up, p => p.1
  | down, p => p.1
  | left, p => p.2
  | right, p => p.2

/-- By how much a step changes the coordinate that it changes. -/
def delta (d : Direction) : Int := d.colDelta + d.rowDelta

theorem delta_mul_delta (d : Direction) : d.delta * d.delta = 1 := by
  cases d <;> rfl

theorem along_ahead (d : Direction) (col row n : Int) :
    d.along (col + n * d.colDelta, row + n * d.rowDelta) = d.along (col, row) + n * d.delta := by
  cases d <;> simp [along, delta, colDelta, rowDelta]

theorem across_ahead (d : Direction) (col row n : Int) :
    d.across (col + n * d.colDelta, row + n * d.rowDelta) = d.across (col, row) := by
  cases d <;> simp [across, colDelta, rowDelta]

end Direction

namespace Grid

/-- One step from a position. -/
def onward (g : Grid) (d : Direction) (p : Int × Int) : Int × Int := g.step p.1 p.2 d

/-- The number of positions on a row or on a column, whichever a direction leads along. -/
def lane (g : Grid) : Direction → Nat
  | .up => g.height
  | .down => g.height
  | .left => g.width
  | .right => g.width

/-- The positions of the grid on the row or on the column of a position, whichever a direction leads
along. -/
def line (g : Grid) (d : Direction) (p : Int × Int) : Set (Int × Int) :=
  {q | g.inBounds q.1 q.2 = true ∧ d.across q = d.across p}

variable {g : Grid} {d : Direction} {col row : Int}

theorem lane_pos (g : Grid) (d : Direction) : 0 < g.lane d := by
  cases d
  case up | down => exact g.height_pos
  case left | right => exact g.width_pos

theorem wrap_eq_self_iff : g.wrap col row = (col, row) ↔ g.inBounds col row = true := by
  refine ⟨fun h => ?_, wrap_of_inBounds⟩
  have hinside := inBounds_wrap g col row
  rwa [h] at hinside

/-! ## Where steps lead -/

theorem onward_wrap (g : Grid) (d : Direction) (col row : Int) :
    g.onward d (g.wrap col row) = g.wrap (col + d.colDelta) (row + d.rowDelta) :=
  step_wrap g col row d

/-- One step or more lead to the wrapped position as many cells ahead, also from coordinates that
are off the grid. -/
theorem iterate_onward (g : Grid) (d : Direction) (col row : Int) (n : Nat) :
    (g.onward d)^[n + 1] (col, row) =
      g.wrap (col + (n + 1 : Nat) * d.colDelta) (row + (n + 1 : Nat) * d.rowDelta) := by
  induction n with
  | zero => simp [onward, step]
  | succ n ih =>
    have hnext (x delta : Int) : x + (n + 1 : Nat) * delta + delta = x + (n + 2 : Nat) * delta := by
      rw [Int.natCast_succ (n + 1), Int.add_mul, Int.one_mul, Int.add_assoc]
    rw [Function.iterate_succ_apply', ih, onward_wrap, hnext, hnext]

theorem iterate_onward_of_inBounds (h : g.inBounds col row = true) (d : Direction) (n : Nat) :
    (g.onward d)^[n] (col, row) = g.wrap (col + n * d.colDelta) (row + n * d.rowDelta) := by
  cases n with
  | zero => simp [wrap_of_inBounds h]
  | succ n => exact iterate_onward g d col row n

/-- A step back takes back a step, up to wrapping. -/
theorem onward_opposite_onward (g : Grid) (d : Direction) (col row : Int) :
    g.onward d.opposite (g.onward d (col, row)) = g.wrap col row := by
  have hstep : g.onward d (col, row) = g.wrap (col + d.colDelta) (row + d.rowDelta) := rfl
  rw [hstep, onward_wrap, Direction.opposite_colDelta, Direction.opposite_rowDelta,
    Int.add_neg_cancel_right, Int.add_neg_cancel_right]

/-! ## Positions on one line -/

/-- Coordinates on one line stand for the same position if and only if they differ by laps. -/
theorem wrap_eq_wrap_iff {p q : Int × Int} (h : d.across p = d.across q) :
    g.wrap p.1 p.2 = g.wrap q.1 q.2 ↔ d.along p ≡ d.along q [ZMOD g.lane d] := by
  cases d with
  | up | down =>
    have hcol : p.1 = q.1 := h
    simp [wrap, lane, Direction.along, Int.ModEq, hcol]
  | left | right =>
    have hrow : p.2 = q.2 := h
    simp [wrap, lane, Direction.along, Int.ModEq, hrow]

theorem across_wrap_congr {p q : Int × Int} (h : d.across p = d.across q) :
    d.across (g.wrap p.1 p.2) = d.across (g.wrap q.1 q.2) := by
  cases d with
  | up | down => exact congrArg (· % (g.width : Int)) h
  | left | right => exact congrArg (· % (g.height : Int)) h

/-- Two numbers of steps lead to the same position if and only if they differ by laps. -/
theorem wrap_ahead_eq_iff (g : Grid) (d : Direction) (col row : Int) (n k : Nat) :
    g.wrap (col + n * d.colDelta) (row + n * d.rowDelta) =
      g.wrap (col + k * d.colDelta) (row + k * d.rowDelta) ↔ n ≡ k [MOD g.lane d] := by
  have hline := (d.across_ahead col row n).trans (d.across_ahead col row k).symm
  refine (wrap_eq_wrap_iff hline).trans ?_
  rw [d.along_ahead, d.along_ahead, ← Int.natCast_modEq_iff]
  constructor
  · intro h
    -- A delta is its own inverse, so multiplying by it takes it away again.
    have hsteps := (Int.ModEq.add_left_cancel' _ h).mul_right d.delta
    rwa [Int.mul_assoc, Int.mul_assoc, d.delta_mul_delta, Int.mul_one, Int.mul_one] at hsteps
  · exact fun h => (h.mul_right d.delta).add_left _

/-! ## Laps -/

/-- Steps lead back if and only if they are laps. -/
theorem iterate_onward_eq_self_iff (h : g.inBounds col row = true) (d : Direction) (n : Nat) :
    (g.onward d)^[n] (col, row) = (col, row) ↔ g.lane d ∣ n := by
  have hstart : g.wrap (col + (0 : Nat) * d.colDelta) (row + (0 : Nat) * d.rowDelta) = (col, row) :=
    (iterate_onward_of_inBounds h d 0).symm
  rw [iterate_onward_of_inBounds h, ← hstart, wrap_ahead_eq_iff, Nat.modEq_zero_iff_dvd]

theorem isLeast_lane (h : g.inBounds col row = true) (d : Direction) :
    IsLeast {n | 1 ≤ n ∧ (g.onward d)^[n] (col, row) = (col, row)} (g.lane d) := by
  constructor
  · exact ⟨g.lane_pos d, (iterate_onward_eq_self_iff h d _).mpr (Nat.dvd_refl _)⟩
  · rintro n ⟨hpos, hback⟩
    exact Nat.le_of_dvd hpos ((iterate_onward_eq_self_iff h d n).mp hback)

theorem mapsTo_line (h : g.inBounds col row = true) (d : Direction) (s : Set Nat) :
    Set.MapsTo (fun n => (g.onward d)^[n] (col, row)) s (g.line d (col, row)) := by
  intro n _
  have hline := across_wrap_congr (g := g) (d.across_ahead col row n)
  dsimp only at hline ⊢
  rw [wrap_of_inBounds h] at hline
  rw [iterate_onward_of_inBounds h]
  exact ⟨inBounds_wrap g _ _, hline⟩

theorem injOn_lane (h : g.inBounds col row = true) (d : Direction) :
    Set.InjOn (fun n => (g.onward d)^[n] (col, row)) (Set.Iio (g.lane d)) := by
  intro n hn k hk hsame
  dsimp only at hsame
  rw [iterate_onward_of_inBounds h, iterate_onward_of_inBounds h, wrap_ahead_eq_iff] at hsame
  exact hsame.eq_of_lt_of_lt hn hk

/-- Less than a lap leads from any coordinate to any other one, up to laps. -/
theorem exists_lt_lane_modEq (g : Grid) (d : Direction) (x y : Int) :
    ∃ n : Nat, n < g.lane d ∧ x + n * d.delta ≡ y [ZMOD g.lane d] := by
  let distance := (y - x) * d.delta % g.lane d
  have hlane : (0 : Int) < g.lane d := Int.natCast_pos.mpr (g.lane_pos d)
  have hn : (distance.toNat : Int) = distance :=
    Int.toNat_of_nonneg (Int.emod_nonneg _ (Int.ne_of_gt hlane))
  refine ⟨distance.toNat, ?_, ?_⟩
  · rw [← Int.ofNat_lt, hn]
    exact Int.emod_lt_of_pos _ hlane
  · have hsteps : distance * d.delta ≡ y - x [ZMOD g.lane d] := by
      have h := (Int.mod_modEq ((y - x) * d.delta) (g.lane d)).mul_right d.delta
      rwa [Int.mul_assoc, d.delta_mul_delta, Int.mul_one] at h
    have hsum := hsteps.add_left x
    rwa [Int.add_comm x (y - x), Int.sub_add_cancel, ← hn] at hsum

theorem surjOn_line (h : g.inBounds col row = true) (d : Direction) :
    Set.SurjOn (fun n => (g.onward d)^[n] (col, row)) (Set.Iio (g.lane d))
      (g.line d (col, row)) := by
  rintro q ⟨hinside, hline⟩
  obtain ⟨n, hn, halong⟩ := g.exists_lt_lane_modEq d (d.along (col, row)) (d.along q)
  refine ⟨n, hn, ?_⟩
  rw [← d.along_ahead] at halong
  dsimp only
  rw [iterate_onward_of_inBounds h]
  calc
    g.wrap (col + n * d.colDelta) (row + n * d.rowDelta)
      = g.wrap q.1 q.2 :=
      (wrap_eq_wrap_iff ((d.across_ahead col row n).trans hline.symm)).mpr halong
    _ = q := wrap_of_inBounds hinside

theorem bijOn_lane (h : g.inBounds col row = true) (d : Direction) :
    Set.BijOn (fun n => (g.onward d)^[n] (col, row)) (Set.Iio (g.lane d)) (g.line d (col, row)) :=
  ⟨mapsTo_line h d _, injOn_lane h d, surjOn_line h d⟩

/-- On any grid, wrapping leads to the grid from any coordinates, and it changes coordinates if and
only if they are off the grid. One step or more lead to the wrapped position as many cells ahead. A
step and one back amount to wrapping. From a position on the grid, the least number of steps that
lead back is the width for a horizontal direction and the height for a vertical one, and until then
the steps meet each position of the row or of the column once, and no other. -/
theorem steps_go_around (g : Grid) (col row : Int) (d : Direction) :
    g.inBounds (g.wrap col row).1 (g.wrap col row).2 = true ∧
    (g.wrap col row = (col, row) ↔ g.inBounds col row = true) ∧
    (∀ n : Nat, 1 ≤ n → (g.onward d)^[n] (col, row) =
      g.wrap (col + n * d.colDelta) (row + n * d.rowDelta)) ∧
    g.onward d.opposite (g.onward d (col, row)) = g.wrap col row ∧
    (g.inBounds col row = true →
      IsLeast {n | 1 ≤ n ∧ (g.onward d)^[n] (col, row) = (col, row)} (g.lane d) ∧
      Set.BijOn (fun n => (g.onward d)^[n] (col, row)) (Set.Iio (g.lane d))
        (g.line d (col, row))) := by
  refine ⟨inBounds_wrap g col row, wrap_eq_self_iff, fun n hn => ?_,
    onward_opposite_onward g d col row, fun h => ⟨isLeast_lane h d, bijOn_lane h d⟩⟩
  obtain ⟨k, rfl⟩ := Nat.exists_eq_add_of_le' hn
  exact iterate_onward g d col row k

/-- A grid of one column: upwards three steps lead back, and to the left each step does. -/
theorem steps_go_around_narrow :
    let g := Grid.ofLines ["x", "y", "z"]
    g.inBounds 0 2 = true ∧ (g.onward .up)^[5] (7, -4) = (0, 0) ∧
    IsLeast {n | 1 ≤ n ∧ (g.onward .up)^[n] (0, 2) = (0, 2)} 3 ∧
    IsLeast {n | 1 ≤ n ∧ (g.onward .left)^[n] (0, 2) = (0, 2)} 1 := by
  intro g
  have hinside : g.inBounds 0 2 = true := by decide
  have hfar := (steps_go_around g 7 (-4) .up).2.2.1 5 (by decide)
  have hup := ((steps_go_around g 0 2 .up).2.2.2.2 hinside).1
  have hleft := ((steps_go_around g 0 2 .left).2.2.2.2 hinside).1
  exact ⟨hinside, hfar.trans (by decide), hup, hleft⟩

end Grid

end Funge93
