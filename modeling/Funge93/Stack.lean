import Funge93.Cell

/-!
# The operand stack

Below its contents the stack holds an endless supply of zeros: an empty stack pops zero. The
greatest depth it ever had is kept as its peak.

This file states what each operation does to the contents and to the peak.
-/

namespace Funge93

/-- A stack of cells, the top first. -/
structure Stack where
  items : List Cell
  depth : Nat
  peak : Nat
  depth_eq : depth = items.length

namespace Stack

/-- Stacks with equal contents and peaks are equal. -/
theorem ext {s t : Stack} (items : s.items = t.items) (peak : s.peak = t.peak) : s = t := by
  cases s with
  | mk _ _ _ depth =>
    cases t with
    | mk _ _ _ otherDepth =>
      simp only at items peak
      subst items peak depth otherDepth
      rfl

/-- The stack before anything is pushed. -/
def empty : Stack := ⟨[], 0, 0, rfl⟩

/-- Puts a cell on top. -/
def push (s : Stack) (v : Cell) : Stack where
  items := v :: s.items
  depth := s.depth + 1
  peak := max s.peak (s.depth + 1)
  depth_eq := by rw [s.depth_eq, List.length_cons]

/-- The top, or zero. -/
def peek (s : Stack) : Cell := s.items.headD 0

/-- Takes the top off, if there is one. -/
def discard (s : Stack) : Stack where
  items := s.items.tail
  depth := s.depth - 1
  peak := s.peak
  depth_eq := by rw [s.depth_eq, List.length_tail]

/-- The top, or zero, and the stack without it. -/
def pop (s : Stack) : Cell × Stack := (s.peek, s.discard)

/-- Doubles the top. An empty stack gets two zeros. -/
def duplicate (s : Stack) : Stack :=
  let (a, s) := s.pop
  (s.push a).push a

/-- Exchanges the two topmost cells. -/
def swap (s : Stack) : Stack :=
  let (a, s) := s.pop
  let (b, s) := s.pop
  (s.push a).push b

/-- The contents, bottom first. -/
def contents (s : Stack) : List Cell := s.items.reverse

@[simp] theorem items_empty : empty.items = [] := rfl
@[simp] theorem items_push (s : Stack) (v : Cell) : (s.push v).items = v :: s.items := rfl
@[simp] theorem items_discard (s : Stack) : s.discard.items = s.items.tail := rfl
@[simp] theorem peak_discard (s : Stack) : s.discard.peak = s.peak := rfl

theorem peak_push (s : Stack) (v : Cell) :
    (s.push v).peak = max s.peak (s.items.length + 1) := by
  rw [← s.depth_eq]
  rfl

theorem pop_push (s : Stack) (v : Cell) :
    (s.push v).pop.1 = v ∧ (s.push v).pop.2.items = s.items :=
  ⟨rfl, rfl⟩

theorem items_duplicate (s : Stack) :
    s.duplicate.items = s.peek :: s.peek :: s.items.tail := rfl

theorem items_swap (s : Stack) :
    s.swap.items = s.items.tail.headD 0 :: s.peek :: s.items.tail.tail := rfl

end Stack

end Funge93
