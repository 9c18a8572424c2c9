import Funge93.Proofs.Machine.Upcoming

/-!
# Draws of a run

Only a random turn draws from the random source, and it draws once, whether the draw stands for a
direction or not. So the random turns that a run executes say where it leaves its source.

Results:
1. `draws_tick`: a tick draws once if it executes a random turn, and otherwise not at all.
2. `draws_run`: a run leaves its source as many draws further as it executes random turns.
-/

namespace Funge93.Machine

/-- The random turns that the next tick executes: one or none. -/
def randomTurnsAhead (m : Machine) : Nat := if m.upcoming? = some .turnRandomly then 1 else 0

/-- The random turns that a run within a bound executes. One whose draw stands for no direction
counts as well, and is the last. -/
def randomTurns : Nat → Machine → Nat
  | 0, _ => 0
  | bound + 1, m =>
    m.randomTurnsAhead +
      match m.tick with
      | (_, some _) => 0
      | (m', none) => if m'.isRunning then randomTurns bound m' else 0

theorem drawsAfter_eq_advance (m : Machine) (i? : Option Instruction) :
    m.drawsAfter i? = m.draws.advance (if i? = some .turnRandomly then 1 else 0) := by
  unfold drawsAfter
  split
  · rfl
  · next other => rw [if_neg other]; rfl

theorem draws_tick (m : Machine) : m.tick.1.draws = m.draws.advance m.randomTurnsAhead :=
  (effects_tick m).draws.trans (drawsAfter_eq_advance m m.upcoming?)

theorem draws_run (bound : Nat) (m : Machine) :
    (m.run bound).1.draws = m.draws.advance (m.randomTurns bound) := by
  induction bound generalizing m with
  | zero => rfl
  | succ bound ih =>
    have hd := draws_tick m
    unfold run randomTurns
    rcases ht : m.tick with ⟨m', misuse⟩
    rw [ht] at hd
    cases misuse with
    | some e => exact hd
    | none =>
      dsimp only
      split
      · rw [ih, Draws.advance_add, ← hd]
      · exact hd

end Funge93.Machine
