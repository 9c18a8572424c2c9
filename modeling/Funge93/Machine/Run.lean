import Funge93.Machine.Tick

/-!
# Runs

A run ticks until the machine stops or is misused. A program may go on forever, so a run gets a
bound on its ticks and says when it met it.

This file proves that a bound that suffices gives the same run as any greater one
(`run_add_of_ne_unfinished`).
-/

namespace Funge93

/-- How a run ends. -/
inductive RunEnd
  /-- The machine halted or faulted. -/
  | stopped
  /-- The machine was misused and still runs. -/
  | misused (misuse : Misuse)
  /-- The bound was met. -/
  | unfinished
deriving DecidableEq, Repr

namespace Machine

/-- The machine after so many ticks, whether they end in misuse or not. -/
def ticked : Nat → Machine → Machine
  | 0, m => m
  | n + 1, m => ticked n m.tick.1

/-- Ticks until the machine stops or is misused, or the bound is met. -/
def run : Nat → Machine → Machine × RunEnd
  | 0, m => (m, .unfinished)
  | bound + 1, m =>
    match m.tick with
    | (m, some e) => (m, .misused e)
    | (m, none) => if m.isRunning then run bound m else (m, .stopped)

/-- Ticks so many times, stopping after the first tick that leaves the machine stopped or misused:
the machine after each tick that was no misuse, the last machine, and the misuse. -/
def trace : Nat → Machine → List Machine × Machine × Option Misuse
  | 0, m => ([], m, none)
  | n + 1, m =>
    match m.tick with
    | (m, some e) => ([], m, some e)
    | (m, none) =>
      if m.isRunning then
        let (later, last, e) := trace n m
        (m :: later, last, e)
      else ([m], m, none)

theorem run_add_of_ne_unfinished {n : Nat} {m m' : Machine} {e : RunEnd}
    (ran : run n m = (m', e)) (finished : e ≠ .unfinished) (more : Nat) :
    run (n + more) m = (m', e) := by
  induction n generalizing m with
  | zero =>
    rw [run, Prod.mk.injEq] at ran
    exact absurd ran.2.symm finished
  | succ n ih =>
    rw [Nat.succ_add, run]
    rw [run] at ran
    split
    · next ticked => simpa [ticked] using ran
    · next ticked =>
      rw [ticked] at ran
      simp only at ran
      split
      · next running => exact ih (by rwa [if_pos running] at ran)
      · next stopped => rwa [if_neg stopped] at ran

theorem tick_of_not_running {m : Machine} (stopped : m.isRunning = false) :
    m.tick = (m, none) := by
  rw [tick, stopped, if_neg Bool.false_ne_true]

end Machine

end Funge93
