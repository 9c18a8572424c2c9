import Funge93.Proofs.Machine.Evolution

/-!
# Ticks, calls and runs

A run stops at the first tick that leaves the machine stopped or misused, while ticks can be counted
on past either, and callers can do other things between ticks. This module relates ticks to runs,
and says which machines are never misused.

Results:
1. `run_of_running`, `run_of_stopped`: a run within a bound is as many ticks, as long as no tick
   ends in misuse.
2. `FaultsOnly.tick`: a console that only refuses calls and a random source that stays in range lead
   to faults but never to misuse.
3. `steps_ticked`: a machine that still runs has counted every tick.
-/

namespace Funge93

/-! ## Random sources -/

/-- Every number that the source ever gives stands for a direction. -/
def Draws.Proper (d : Draws) : Prop := ∀ n, (Direction.ofDraw? (d.advance n).next.1).isSome

theorem Draws.Proper.advance {d : Draws} (h : d.Proper) (n : Nat) : (d.advance n).Proper := by
  intro k
  rw [← Draws.advance_add]
  exact h (n + k)

theorem Twister.draw_lt (t : Twister) : t.draw.1 < 4 := by
  unfold draw
  -- When the words run out the answer is zero, so no fact about the generator is needed.
  generalize 19938 = words
  induction words generalizing t with
  | zero => exact Nat.zero_lt_succ 3
  | succ words ih =>
    rw [drawWithin]
    dsimp only
    split
    · next h => exact h
    · exact ih _

theorem Draws.proper_ofSeed (seed : Option Int) : (Draws.ofSeed seed).Proper := by
  have inRange (t : Twister) : (Direction.ofDraw? (Draws.seeded t).next.1).isSome := by
    have h := t.draw_lt
    show (Direction.ofDraw? (t.draw.1 : Int)).isSome
    generalize t.draw.1 = n at h
    match n, h with
    | 0, _ | 1, _ | 2, _ | 3, _ => rfl
  have seeded (n : Nat) (t : Twister) : ∃ t', (Draws.seeded t).advance n = .seeded t' := by
    induction n generalizing t with
    | zero => exact ⟨t, rfl⟩
    | succ n ih => exact ih t.draw.2
  intro n
  obtain ⟨t, ht⟩ := seeded n (Twister.ofSeed (seed.getD 0))
  rw [Draws.ofSeed, ht]
  exact inRange t

namespace Machine

/-! ## Calls -/

/-- What callers do with a machine. -/
inductive Call
  | tick
  | push (n : Int)
  | feed (t : Text)
  | drain
  | resetCounters
  /-- Another console takes the place of the old one, so devices can fail and recover. -/
  | reconnect (console : Console)

/-- The machine after a call, whether it ends in misuse or not. -/
def called (m : Machine) : Call → Machine
  | .tick => m.tick.1
  | .push n => m.push (Cell.ofInt n)
  | .feed t => m.feed t
  | .drain => m.drain.2
  | .resetCounters => m.resetCounters
  | .reconnect console => { m with console }

/-- The machine after some calls. -/
def calls (m : Machine) (cs : List Call) : Machine := cs.foldl called m

variable {m : Machine}

/-- What every tick keeps, any number of ticks keeps. -/
theorem ticked_keeps {P : Machine → Prop} (tick : ∀ {m}, P m → P m.tick.1) (h : P m) (n : Nat) :
    P (m.ticked n) := by
  induction n generalizing m with
  | zero => exact h
  | succ n ih => exact ih (tick h)

/-! ## Machines that are never misused -/

/-- Nothing that a machine uses can end a tick in misuse. -/
structure FaultsOnly (m : Machine) : Prop where
  headed : ∃ d, m.heading = .toward d
  console : m.console.FaultsOnly
  draws : m.draws.Proper

namespace FaultsOnly

theorem start {grid : Grid} {console : Console} {draws : Draws} (hc : console.FaultsOnly)
    (hd : draws.Proper) (maxSteps : Option Int) :
    FaultsOnly (start grid console draws maxSteps) :=
  ⟨⟨.right, rfl⟩, hc, hd⟩

theorem evolves {m' : Machine} (h : FaultsOnly m) (he : Evolves m m') : FaultsOnly m' where
  headed := by
    rcases he.heading with hh | hh
    · rw [hh]
      exact h.headed
    · exact hh
  console := h.console.congr he.console
  draws := by
    obtain ⟨n, hn⟩ := he.draws
    rw [hn]
    exact h.draws.advance n

theorem isFault (h : FaultsOnly m) {e : Failure} (he : Fails m e) : ∃ f, e = .fault f := by
  cases he with
  | console hc => exact hc.isFault h.console
  | @draw n hn hd =>
    have := h.draws 0
    rw [show (m.draws.advance 0).next.1 = n from hn, hd] at this
    cases this
  | heading hh =>
    obtain ⟨d, hd⟩ := h.headed
    rw [hd] at hh
    cases hh
  | outside | budget => exact ⟨_, rfl⟩

theorem tick (h : FaultsOnly m) : FaultsOnly m.tick.1 ∧ m.tick.2 = none := by
  have hc : FaultsOnly m.countStep := { h with }
  have hend := tickEnds_tick m
  generalize m.tick = r at hend ⊢
  cases hend with
  | stopped => exact ⟨h, rfl⟩
  | stepped _ _ he => exact ⟨hc.evolves he, rfl⟩
  | faulted _ _ _ he => exact ⟨{ hc.evolves he with }, rfl⟩
  | misused _ _ hf _ =>
    obtain ⟨f, hf⟩ := hc.isFault hf
    cases hf

end FaultsOnly

/-! ## What ticks keep -/

theorem maxSteps_tick (m : Machine) : m.tick.1.maxSteps = m.maxSteps := by
  have hend := tickEnds_tick m
  generalize m.tick = r at hend ⊢
  cases hend with
  | stopped => rfl
  | stepped _ _ he | faulted _ _ _ he | misused _ _ _ he => exact he.maxSteps

theorem steps_tick (hr : m.isRunning = true) :
    m.tick.1.counters.steps = m.counters.steps + 1 := by
  have hend := tickEnds_tick m
  generalize m.tick = r at hend ⊢
  cases hend with
  | stopped hs =>
    rw [hr] at hs
    cases hs
  | stepped _ _ he | faulted _ _ _ he | misused _ _ _ he => exact he.steps

theorem ticked_of_stopped (h : m.isRunning = false) (n : Nat) : m.ticked n = m := by
  induction n with
  | zero => rfl
  | succ n ih =>
    rw [ticked, tick_of_not_running h]
    exact ih

theorem ticked_add (m : Machine) (n k : Nat) : m.ticked (n + k) = (m.ticked n).ticked k := by
  induction n generalizing m with
  | zero => rw [Nat.zero_add]; rfl
  | succ n ih =>
    rw [Nat.succ_add]
    exact ih m.tick.1

theorem ticked_of_stopped_of_le {k n : Nat} (h : (m.ticked k).isRunning = false) (hk : k ≤ n) :
    m.ticked n = m.ticked k := by
  rw [← Nat.add_sub_cancel' hk, ticked_add, ticked_of_stopped h]

theorem ticked_succ (m : Machine) (n : Nat) : m.ticked (n + 1) = (m.ticked n).tick.1 :=
  ticked_add m n 1

/-- What the next tick shows is the last of what so many ticks and this one show. -/
theorem filterMap_ticked_succ {α : Type} (show? : Machine → Option α) (m : Machine) (n : Nat) :
    (List.range (n + 1)).filterMap (fun i => show? (m.ticked i)) =
      (List.range n).filterMap (fun i => show? (m.ticked i)) ++ (show? (m.ticked n)).toList := by
  rw [List.range_succ, List.filterMap_append]
  rfl

/-- A machine that runs after some ticks ran before each of them. -/
theorem isRunning_of_ticked {n : Nat} (h : (m.ticked n).isRunning = true) :
    m.isRunning = true := by
  cases hr : m.isRunning with
  | true => rfl
  | false => rw [← hr, ← ticked_of_stopped hr n, h]

theorem steps_ticked {n : Nat} (h : (m.ticked n).isRunning = true) :
    (m.ticked n).counters.steps = m.counters.steps + n := by
  induction n generalizing m with
  | zero => rfl
  | succ n ih =>
    rw [ticked, ih h, steps_tick (isRunning_of_ticked h)]
    omega

/-! ## Runs -/

/-- What every tick keeps, a run keeps. -/
theorem run_keeps {P : Machine → Prop} (tick : ∀ {m}, P m → P m.tick.1) (h : P m) (n : Nat) :
    P (m.run n).1 := by
  induction n generalizing m with
  | zero => exact h
  | succ n ih =>
    have hfirst := tick h
    unfold run
    rcases ht : m.tick with ⟨m', misuse⟩
    rw [ht] at hfirst
    cases misuse with
    | some e => exact hfirst
    | none =>
      dsimp only
      split
      · exact ih hfirst
      · exact hfirst

theorem run_of_running {n : Nat} (hm : FaultsOnly m) (h : (m.ticked n).isRunning = true) :
    m.run n = (m.ticked n, .unfinished) := by
  induction n generalizing m with
  | zero => rfl
  | succ n ih =>
    obtain ⟨ht, hnone⟩ := hm.tick
    rw [run, show m.tick = (m.tick.1, none) from Prod.ext rfl hnone]
    dsimp only
    rw [if_pos (isRunning_of_ticked (m := m.tick.1) h)]
    exact ih ht h

theorem run_of_stopped {n : Nat} (hm : FaultsOnly m) (hr : m.isRunning = true)
    (h : (m.ticked n).isRunning = false) : m.run n = (m.ticked n, .stopped) := by
  induction n generalizing m with
  | zero =>
    rw [show m.isRunning = false from h] at hr
    cases hr
  | succ n ih =>
    obtain ⟨ht, hnone⟩ := hm.tick
    rw [run, show m.tick = (m.tick.1, none) from Prod.ext rfl hnone]
    dsimp only
    split
    · next hr' => exact ih ht hr' h
    · next hs => rw [ticked, ticked_of_stopped (Bool.eq_false_iff.mpr hs)]

/-- A run within a bound is as many ticks, and tells whether the machine has stopped. -/
theorem run_eq_ticked (hm : FaultsOnly m) (hr : m.isRunning = true) (n : Nat) :
    m.run n = (m.ticked n, if (m.ticked n).isRunning then .unfinished else .stopped) := by
  split
  · next h => exact run_of_running hm h
  · next h => exact run_of_stopped hm hr (Bool.eq_false_iff.mpr h)

theorem run_of_stopped_of_le {k n : Nat} (hm : FaultsOnly m) (hr : m.isRunning = true)
    (h : (m.ticked k).isRunning = false) (hk : k ≤ n) : m.run n = (m.ticked k, .stopped) := by
  have hn := ticked_of_stopped_of_le h hk
  have hs : (m.ticked n).isRunning = false := by rw [hn, h]
  rw [run_of_stopped hm hr hs, hn]

end Machine

end Funge93
