import Funge93.Grid.Layout
import Funge93.Proofs.Grid.Torus

/-!
# Stores on the torus

Coordinates that differ by multiples of the width and the height stand for one position. This module
says what a position holds after any number of stores: the value of the last one that hit it, and
otherwise the character of the text that the grid was loaded from.

Results:
1. `fetch_store`: one store changes one position and nothing else.
2. `fetch_storeAll`: after several stores, the last one that hit a position decides.
3. `fetch_ofText`: what the positions of a new grid hold.
-/

namespace Funge93

/-- A value stored at a column and a row of the torus. -/
structure Store where
  value : Cell
  x : Int
  y : Int
deriving DecidableEq, Repr

namespace Grid

/-- Two pairs of coordinates stand for the same position. -/
def SamePlace (g : Grid) (x y x' y' : Int) : Prop :=
  x % g.width = x' % g.width ∧ y % g.height = y' % g.height

instance (g : Grid) (x y x' y' : Int) : Decidable (g.SamePlace x y x' y') :=
  inferInstanceAs (Decidable (_ ∧ _))

/-- The grid after some stores in turn. -/
def storeAll (g : Grid) (stores : List Store) : Grid :=
  stores.foldl (fun g s => g.store s.x s.y s.value) g

/-- The value of the last store that hit a position. -/
def latest? (g : Grid) (stores : List Store) (x y : Int) : Option Cell :=
  (stores.filter fun s => decide (g.SamePlace s.x s.y x y)).getLast?.map Store.value

/-- The character that a text has at a position. -/
def character? (t : Text) (col row : Nat) : Option Cell :=
  (t.lines[row]?.bind fun line => (line)[col]?).map fun c => Cell.ofInt c.val

/-- What a position holds when the grid of a text has seen some stores. -/
def history (t : Text) (stores : List Store) (x y : Int) : Option Cell :=
  ((ofText t).latest? stores x y).or
    (character? t (x % (ofText t).width).toNat (y % (ofText t).height).toNat)

/-! ## One store -/

theorem wrap_lt (g : Grid) (x y : Int) :
    (x % g.width).toNat < g.width ∧ (y % g.height).toNat < g.height := by
  obtain ⟨left, right, top, bottom⟩ := inBounds_iff.mp (inBounds_wrap g x y)
  simp only [wrap] at left right top bottom
  exact ⟨by omega, by omega⟩

theorem cell_store (g : Grid) (x y : Int) (v : Cell) {col row : Nat} (inWidth : col < g.width) :
    (g.store x y v).cell col row =
      if (x % g.width).toNat = col ∧ (y % g.height).toNat = row then some v
      else g.cell col row := by
  obtain ⟨hx, hy⟩ := wrap_lt g x y
  unfold store
  split
  · next same =>
    obtain ⟨rfl, rfl⟩ := same
    exact cell_fill_same v hx hy
  · next other => exact cell_fill_of_ne v hx inWidth other

/-- A store changes what the torus holds at one position, under all its coordinates. -/
theorem fetch_store (g : Grid) (x y : Int) (v : Cell) (x' y' : Int) :
    (g.store x y v).fetch x' y' = if g.SamePlace x y x' y' then some v else g.fetch x' y' := by
  obtain ⟨left, _, top, _⟩ := inBounds_iff.mp (inBounds_wrap g x y)
  obtain ⟨left', _, top', _⟩ := inBounds_iff.mp (inBounds_wrap g x' y')
  simp only [wrap] at left top left' top'
  have hplace : ((x % g.width).toNat = (x' % g.width).toNat ∧
      (y % g.height).toNat = (y' % g.height).toNat) ↔ g.SamePlace x y x' y' := by
    unfold SamePlace
    omega
  calc
    (g.store x y v).fetch x' y'
      = (g.store x y v).cell (x' % g.width).toNat (y' % g.height).toNat := rfl
    _ = if (x % g.width).toNat = (x' % g.width).toNat ∧
          (y % g.height).toNat = (y' % g.height).toNat then some v
        else g.cell (x' % g.width).toNat (y' % g.height).toNat :=
      cell_store g x y v (wrap_lt g x' y').1
    _ = if g.SamePlace x y x' y' then some v else g.fetch x' y' := by
      simp only [hplace]
      rfl

/-! ## Several stores -/

theorem storeAll_append (g : Grid) (stores more : List Store) :
    g.storeAll (stores ++ more) = (g.storeAll stores).storeAll more := List.foldl_append

theorem size_storeAll (g : Grid) (stores : List Store) :
    (g.storeAll stores).width = g.width ∧ (g.storeAll stores).height = g.height := by
  induction stores generalizing g with
  | nil => exact ⟨rfl, rfl⟩
  | cons s stores ih => exact ih (g.store s.x s.y s.value)

theorem latest?_cons (g : Grid) (s : Store) (stores : List Store) (x y : Int) :
    g.latest? (s :: stores) x y = (g.latest? stores x y).or
      (if g.SamePlace s.x s.y x y then some s.value else none) := by
  unfold latest?
  by_cases h : g.SamePlace s.x s.y x y
  · rw [List.filter_cons, if_pos (decide_eq_true h), List.getLast?_cons, if_pos h]
    cases (stores.filter fun s => decide (g.SamePlace s.x s.y x y)).getLast? <;> rfl
  · rw [List.filter_cons, if_neg (by rwa [decide_eq_true_iff]), if_neg h, Option.or_none]

theorem fetch_storeAll (g : Grid) (stores : List Store) (x y : Int) :
    (g.storeAll stores).fetch x y = (g.latest? stores x y).or (g.fetch x y) := by
  induction stores generalizing g with
  | nil => rfl
  | cons s stores ih =>
    -- Later stores are on a grid of the same size, so they hit the same positions.
    have hsize (x y : Int) :
        (g.store s.x s.y s.value).latest? stores x y = g.latest? stores x y := rfl
    calc
      (g.storeAll (s :: stores)).fetch x y
        = (g.latest? stores x y).or ((g.store s.x s.y s.value).fetch x y) := by
        rw [← hsize]
        exact ih (g.store s.x s.y s.value)
      _ = (g.latest? (s :: stores) x y).or (g.fetch x y) := by
        rw [fetch_store, latest?_cons, Option.or_assoc]
        split <;> rfl

/-! ## New grids -/

theorem character?_of_longest_eq_zero {t : Text} (h : longest t.lines = 0) (col row : Nat) :
    character? t col row = none := by
  unfold character?
  cases hline : t.lines[row]? with
  | none => rfl
  | some line =>
    have hlength := length_le_longest (List.mem_of_getElem? hline)
    have hshort : (line)[col]? = none := List.getElem?_eq_none (by omega)
    rw [Option.bind_some, hshort]
    rfl

theorem cell_ofText (t : Text) {col row : Nat} (hc : col < (ofText t).width)
    (hr : row < (ofText t).height) : (ofText t).cell col row = character? t col row := by
  unfold ofText at hc hr ⊢
  by_cases h : 0 < longest t.lines
  · rw [width_ofLines h] at hc
    rw [height_ofLines h] at hr
    have hline := List.getElem?_eq_getElem hr
    rw [cell_ofLines hc hline]
    unfold character?
    rw [hline]
    rfl
  · have hzero := Nat.eq_zero_of_not_pos h
    rw [ofLines_of_longest_eq_zero hzero] at hc hr ⊢
    obtain rfl : col = 0 := Nat.lt_one_iff.mp hc
    obtain rfl : row = 0 := Nat.lt_one_iff.mp hr
    rw [character?_of_longest_eq_zero hzero]
    rfl

theorem fetch_ofText (t : Text) (x y : Int) : (ofText t).fetch x y =
    character? t (x % (ofText t).width).toNat (y % (ofText t).height).toNat := by
  obtain ⟨hx, hy⟩ := wrap_lt (ofText t) x y
  exact cell_ofText t hx hy

theorem fetch_storeAll_ofText (t : Text) (stores : List Store) (x y : Int) :
    ((ofText t).storeAll stores).fetch x y = history t stores x y := by
  rw [fetch_storeAll, fetch_ofText]
  rfl

end Grid

end Funge93
