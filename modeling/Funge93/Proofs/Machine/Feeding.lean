import Funge93.Grid.Layout
import Funge93.Proofs.Console.Feeding
import Funge93.Proofs.Machine.Runs
import Funge93.Proofs.Machine.Simulation

/-!
# Feeding in pieces and draining early

Callers can feed the input of a machine and drain its output at any time between ticks. This module
proves that it does not matter when they do, as long as the machine never meets the end of its input
before the last piece is fed: it runs as if it had all pieces from the start and were never drained.

Results:
1. `tick_lagging`: a tick of a machine that is still to be fed, against one that has it all.
2. `visits_lagging`: any ticks, feeds and drains against as many ticks.
3. `visits_as_ticks`: the same for new machines.
-/

namespace Funge93

/-- One console is still to be fed and has been drained, and all else is equal. -/
def Likeness.lagging (out rest : Text) : Likeness :=
  { equal with console := Console.Lags out rest }

namespace Machine

/-- What callers do with a machine in the course of its run. -/
inductive Visit
  | tick
  | feed (t : Text)
  | drain
deriving DecidableEq, Repr

/-- The call that a visit makes. -/
def Visit.call : Visit → Call
  | tick => .tick
  | feed t => .feed t
  | drain => .drain

/-- The text that a visit feeds. -/
def Visit.fed : Visit → Text
  | feed t => t
  | _ => []

/-- The text that some visits feed. -/
def fed (vs : List Visit) : Text := vs.flatMap Visit.fed

/-- The ticks among some visits. -/
def ticks (vs : List Visit) : Nat := vs.count .tick

/-- The machine after some visits. -/
def visits (m : Machine) (vs : List Visit) : Machine := m.calls (vs.map Visit.call)

/-- The output that some visits drain. -/
def drained (m : Machine) : List Visit → Text
  | [] => []
  | .drain :: vs => m.drain.1 ++ m.drain.2.drained vs
  | v :: vs => (m.called v.call).drained vs

/-- The next tick reads at the end of the input. -/
def ReadsAtEnd (m : Machine) : Prop := m.console.reach < m.tick.1.console.reach

/-- No tick before the last feed reads at the end of the input. -/
def Supplied (m : Machine) : List Visit → Prop
  | [] => True
  | .tick :: vs => ((∃ t, .feed t ∈ vs) → ¬ m.ReadsAtEnd) ∧ m.tick.1.Supplied vs
  | v :: vs => (m.called v.call).Supplied vs

variable {m m' : Machine} {out rest : Text}

theorem fed_of_notFeed {vs : List Visit} (h : ¬ ∃ t, .feed t ∈ vs) : fed vs = [] := by
  unfold fed
  rw [List.flatMap_eq_nil_iff]
  intro v hv
  cases v with
  | feed t => exact absurd ⟨t, hv⟩ h
  | tick | drain => rfl

/-! ## Ticks -/

theorem eq_of_lagging (h : Alike (.lagging out rest) m m') :
    m' = { m with console := m'.console } :=
  eq_of_onConsole h

/-- The calls of an instruction are answered alike unless one reads at the end of the input. -/
theorem usesAlike_lagging (h : Alike (.lagging out rest) m m') {i : Instruction}
    (hr : rest = [] ∨ (m.consoleAfter (some i)).reach ≤ m.console.reach) :
    UsesAlike (.lagging out rest) m m' i := by
  have hlags : Console.Lags out rest m.console m'.console := h.console
  refine usesAlike_onConsole h (fun _ => hlags.writeText _) (fun _ => hlags.writeChar _) ?_ ?_
  · rintro rfl
    exact hlags.readNumber hr
  · rintro rfl
    exact hlags.readChar hr

/-- A tick that does not read at the end of the input does the same with more input ahead. -/
theorem tick_lagging (h : Alike (.lagging out rest) m m') (hr : rest = [] ∨ ¬ m.ReadsAtEnd) :
    Alike (.lagging out rest) m.tick.1 m'.tick.1 := by
  have heffects := (effects_tick m).console
  refine (tick_onConsole h fun i hi => ?_).1
  rw [hi] at heffects
  refine usesAlike_lagging h (hr.imp_right fun hend => ?_)
  rw [← heffects]
  exact Nat.not_lt.mp hend

/-- With nothing left to feed, no tick can tell the two machines apart. -/
theorem blind_lagging (out : Text) : (Likeness.lagging out []).Blind :=
  Likeness.blind_onConsole fun h _ => usesAlike_lagging h (.inl rfl)

/-! ## Visits -/

theorem lagging_feed {t : Text} (h : Alike (.lagging out (t ++ rest)) m m') :
    Alike (.lagging out rest) (m.feed t) m' :=
  { h with console := Console.Lags.feed h.console }

theorem lagging_drain (h : Alike (.lagging out rest) m m') :
    Alike (.lagging (out ++ m.drain.1) rest) m.drain.2 m' :=
  { h with console := Console.Lags.drain h.console }

/-- Visits on a machine that is still to be fed, against as many ticks on one that has it all. -/
theorem visits_lagging {done : List Visit} {todo : List Visit} {out : Text}
    (h : Alike (.lagging out (fed (done ++ todo))) m m') (hs : m.Supplied (done ++ todo)) :
    Alike (.lagging (out ++ m.drained done) (fed todo)) (m.visits done)
      (m'.ticked (ticks done)) := by
  induction done generalizing m m' out with
  | nil =>
    rw [drained, List.append_nil]
    exact h
  | cons v done ih =>
    cases v with
    | tick =>
      obtain ⟨hfirst, hlater⟩ := hs
      -- Where no feed is to come, both machines already have the same input.
      have hrest : fed (done ++ todo) = [] ∨ ¬ m.ReadsAtEnd := by
        by_cases hfeed : ∃ t, .feed t ∈ done ++ todo
        · exact .inr (hfirst hfeed)
        · exact .inl (fed_of_notFeed hfeed)
      rw [ticks, List.count_cons_self]
      exact ih (tick_lagging h hrest) hlater
    | feed t => exact ih (lagging_feed h) hs
    | drain =>
      rw [drained, ← List.append_assoc]
      exact ih (lagging_drain h) hs

/-- Feed a new machine its input in pieces, and drain it, at any points between its ticks, so that
no tick before the last feed reads at the end of the input. At every point it agrees in everything
but the console with a machine that has all pieces from the start and is never drained, after as
many ticks. The other machine's unread text is the unread text here followed by the pieces not yet
fed, and its output is all that has been drained here followed by the output still held. -/
theorem visits_as_ticks (grid : Grid) (draws : Draws) (maxSteps : Option Int) (t : Text)
    (done todo : List Visit) :
    let pieces := start grid (.buffer t) draws maxSteps
    let whole := start grid (.buffer (t ++ fed (done ++ todo))) draws maxSteps
    let here := pieces.visits done
    let there := whole.ticked (ticks done)
    pieces.Supplied (done ++ todo) →
      there = { here with console := there.console } ∧
      there.console.unread = here.console.unread ++ fed todo ∧
      there.console.written = pieces.drained done ++ here.console.written := by
  intro pieces whole here there hs
  have hstart : Alike (.lagging [] (fed (done ++ todo))) pieces whole :=
    ⟨rfl, rfl, ⟨⟨rfl, rfl, rfl, rfl⟩, ⟨rfl, rfl, rfl, rfl⟩, rfl, rfl⟩, rfl, rfl, rfl, rfl, rfl⟩
  have hlike := visits_lagging hstart hs
  exact ⟨eq_of_lagging hlike, hlike.console.unread, hlike.console.written⟩

/-- Two numbers, the first in two pieces, with a character looked ahead at while the end of the
second is fed and the output drained. -/
theorem visits_as_ticks_split_numbers :
    let visits : List Visit :=
      [.feed "2 3", .tick, .tick, .drain, .feed "4 ", .tick, .drain, .tick]
    let pieces := start (Grid.ofLines ["&.&.@"]) (.buffer "1") (.ofSeed none) none
    let whole := start (Grid.ofLines ["&.&.@"]) (.buffer "12 34 ") (.ofSeed none) none
    pieces.drained visits = "12 " ∧ (pieces.visits visits).console.written = "34 " ∧
      (whole.ticked 4).console.written = "12 34 " := by
  intro visits pieces whole
  have h := (visits_as_ticks (Grid.ofLines ["&.&.@"]) (.ofSeed none) none "1" visits []
    ⟨fun _ => by unfold ReadsAtEnd; decide +kernel, fun _ => by unfold ReadsAtEnd; decide +kernel,
      nofun, nofun, trivial⟩).2.2
  have hdrained : pieces.drained visits = "12 " := by decide +kernel
  have hwritten : (pieces.visits visits).console.written = "34 " := by decide +kernel
  exact ⟨hdrained, hwritten, h.trans (by rw [hdrained, hwritten]; decide)⟩

end Machine

end Funge93
