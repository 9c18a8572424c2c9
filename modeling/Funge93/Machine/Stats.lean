import Funge93.Machine

/-!
# Statistics

The counters of a machine with the depth and the peak of its stack, and their summary as text.
-/

namespace Funge93

/-- The counters of a machine with its stack's depth and peak. -/
structure Stats where
  counters : Counters
  depth : Nat
  peak : Nat
deriving DecidableEq, Repr

/-- The statistics of a machine. -/
def Machine.stats (m : Machine) : Stats := ⟨m.counters, m.stack.depth, m.stack.peak⟩

/-- Statistics in four lines. -/
def Stats.summary (s : Stats) : Text :=
  "Steps: " ++ Text.ofNat s.counters.steps ++
  "\nPlayfield: " ++ Text.ofNat s.counters.fetches ++ " gets/" ++ Text.ofNat s.counters.stores ++
  " puts\nIO: " ++ Text.ofNat s.counters.reads ++ " reads/" ++ Text.ofNat s.counters.writes ++
  " writes\nStack: depth " ++ Text.ofNat s.depth ++ ", peak " ++ Text.ofNat s.peak

end Funge93
