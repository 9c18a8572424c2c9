import Mathlib.Algebra.BigOperators.Group.List.Basic
import Mathlib.Algebra.GroupWithZero.Nat
import Funge93.Grid.Layout
import Funge93.Proofs.Machine.Budget

/-!
# Resetting the counters

A reset takes the counters back to zero between two ticks and touches nothing else. The step counter
is also what the step budget is compared with, so a reset grants a new budget; apart from that, no
tick looks at the counters. So resets cut a run into segments, and a machine that is reset after
each segment does what a machine that is never reset does, as long as it can afford each segment.

Results:
1. `tick_behind`, `ticked_behind`: ticks keep a machine behind another one by the same counts.
2. `segments_behind`: a reset puts a machine behind by what it has counted in the segment.
3. `segments_agree`: what a new machine with resets has in common with one without.
-/

namespace Funge93

namespace Counters

attribute [ext] Counters

/-- Counters add up, number by number. -/
instance : Add Counters :=
  ⟨fun c d => ⟨c.steps + d.steps, c.stores + d.stores, c.fetches + d.fetches, c.reads + d.reads,
    c.writes + d.writes⟩⟩

instance : Zero Counters := ⟨zero⟩

instance : AddMonoid Counters where
  add_assoc _ _ _ := Counters.ext (Nat.add_assoc ..) (Nat.add_assoc ..) (Nat.add_assoc ..)
    (Nat.add_assoc ..) (Nat.add_assoc ..)
  zero_add _ := Counters.ext (Nat.zero_add _) (Nat.zero_add _) (Nat.zero_add _) (Nat.zero_add _)
    (Nat.zero_add _)
  add_zero _ := rfl
  nsmul := nsmulRec

/-- An event of the later counts is one of all counts. -/
theorem count_add (past c : Counters) (e : Event) : (past + c).count e = past + c.count e := by
  cases e <;> rfl

end Counters

/-- The second machine has counted more by `past`. The step budgets may differ, and all else is
equal. -/
def Likeness.behind (past : Counters) : Likeness :=
  { equal with clock := fun x y => y.2 = past + x.2 }

theorem Likeness.kept_behind (past : Counters) : (behind past).Kept :=
  { kept_equal with
    count := fun {_ _ c _} h e =>
      (congrArg (Counters.count · e) h).trans (Counters.count_add past c e) }

/-- No device answers like a step budget. -/
theorem Console.not_fails_stepLimit (c : Console) (limit : Int) :
    ¬ c.Fails (.fault (.stepLimit limit)) := by
  intro h
  generalize he : Failure.fault (.stepLimit limit) = e at h
  cases h with
  | @read b | @write b => cases hb : b.error <;> rw [hb] at he <;> cases he
  | unencodable | notACharacter => cases he

namespace Machine

/-- The machine after segments of so many ticks, with its counters reset at the end of each. -/
def segments : List Nat → Machine → Machine
  | [], m => m
  | n :: ns, m => segments ns (m.ticked n).resetCounters

/-- What the machine has counted at the end of each segment. -/
def segmentEnds : List Nat → Machine → List Counters
  | [], _ => []
  | n :: ns, m => (m.ticked n).counters :: segmentEnds ns (m.ticked n).resetCounters

/-- The budget, if there is one, suffices for so many ticks more. -/
def Affords (n : Nat) (m : Machine) : Prop :=
  ∀ limit, m.maxSteps = some limit → ((m.counters.steps + n : Nat) : Int) ≤ limit

variable {m m' : Machine} {past : Counters} {n : Nat} {ns : List Nat}

/-! ## The budget -/

theorem affords_of_none (h : m.maxSteps = none) : m.Affords n := by
  intro limit hlimit
  rw [h] at hlimit
  cases hlimit

theorem exceeded?_of_affords (h : m.Affords (n + 1)) : m.countStep.exceeded? = none := by
  cases hbudget : m.maxSteps with
  | none => exact exceeded?_of_none hbudget
  | some limit =>
    have hle := h limit hbudget
    have hsame : m.withBudget (some limit) = m := by
      rw [← hbudget]
      rfl
    rw [← hsame]
    exact exceeded?_of_le (by omega)

theorem Affords.of_le {k : Nat} (h : m.Affords n) (hk : k ≤ n) : m.Affords k := by
  intro limit hlimit
  have hle := h limit hlimit
  omega

theorem Affords.tick (h : m.Affords (n + 1)) : m.tick.1.Affords n := by
  intro limit hlimit
  have hle := h limit (maxSteps_tick m ▸ hlimit)
  have := steps_tick_le m
  omega

/-- A machine that has counted nothing since its last reset has its whole budget. -/
theorem affords_of_zero (hzero : m.counters = 0)
    (h : ∀ limit, m.maxSteps = some limit → (n : Int) ≤ limit) : m.Affords n := by
  intro limit hlimit
  rw [hzero, show (0 : Counters).steps + n = n from Nat.zero_add n]
  exact h limit hlimit

theorem maxSteps_ticked (m : Machine) (n : Nat) : (m.ticked n).maxSteps = m.maxSteps :=
  ticked_keeps (P := fun m' => m'.maxSteps = m.maxSteps) (fun h => (maxSteps_tick _).trans h) rfl n

/-- Without a budget no machine faults for want of one. -/
theorem status_ticked_ne_stepLimit {limit : Int} (hm : m.maxSteps = none)
    (h : m.status ≠ .faulted (.stepLimit limit)) (n : Nat) :
    (m.ticked n).status ≠ .faulted (.stepLimit limit) := by
  refine (ticked_keeps (P := fun m => m.maxSteps = none ∧ m.status ≠ .faulted (.stepLimit limit))
    (fun {m} ⟨hm, h⟩ => ⟨(maxSteps_tick m).trans hm, ?_⟩) ⟨hm, h⟩ n).2
  have hend := tickEnds_tick m
  generalize m.tick = r at hend
  cases hend with
  | stopped => exact h
  | stepped hr _ he | misused hr _ _ he =>
    rcases he.status with hs | hs
    · exact hs ▸ h
    · exact hs ▸ nofun
  | faulted _ _ hf _ =>
    rintro ⟨⟩
    cases hf with
    | console hc => exact m.countStep.console.not_fails_stepLimit limit hc
    | budget hlimit _ =>
      rw [show m.countStep.maxSteps = none from hm] at hlimit
      cases hlimit

/-! ## Segments -/

theorem eq_of_behind (h : Alike (.behind past) m m') :
    m' = { m with maxSteps := m'.maxSteps, counters := past + m.counters } :=
  eq_of_alike h h.place.symm h.stack.symm h.console.symm (congrArg (m'.maxSteps, ·) h.clock)

theorem tick_behind (h : Alike (.behind past) m m') (hm : m.Affords 1) (hm' : m'.Affords 1) :
    Alike (.behind past) m.tick.1 m'.tick.1 := by
  refine (tick_alike h fun hrun => ?_).1
  refine related_step (Likeness.kept_behind past) h hrun ?_ (.of_eq ?_)
    fun i _ => usesAlike_of_eq rfl rfl h i
  · -- Only here the counters are looked at, and both machines can afford the step.
    rw [exceeded?_of_affords hm, exceeded?_of_affords hm']
  · rw [eq_of_behind h]

theorem ticked_behind (h : Alike (.behind past) m m') (hm : m.Affords n) (hm' : m'.Affords n) :
    Alike (.behind past) (m.ticked n) (m'.ticked n) := by
  induction n generalizing m m' with
  | zero => exact h
  | succ n ih =>
    have hfirst := tick_behind h (hm.of_le (Nat.succ_pos n)) (hm'.of_le (Nat.succ_pos n))
    exact ih hfirst hm.tick hm'.tick

/-- A reset puts a machine behind by what it has counted. -/
theorem resetCounters_behind (h : Alike (.behind past) m m') :
    Alike (.behind (past + m.counters)) m.resetCounters m' :=
  { h with clock := h.clock }

/-- The machine with resets falls behind by all that it has counted. -/
theorem segments_behind (h : Alike (.behind past) m m') (hzero : m.counters = 0)
    (hm : ∀ limit, m.maxSteps = some limit → ∀ n ∈ ns, (n : Int) ≤ limit)
    (hm' : m'.maxSteps = none) :
    Alike (.behind (past + (m.segmentEnds ns).sum)) (m.segments ns) (m'.ticked ns.sum) := by
  induction ns generalizing m m' past with
  | nil =>
    rw [segmentEnds, List.sum_nil, List.sum_nil, add_zero]
    exact h
  | cons n ns ih =>
    -- The reset moves what was counted in the first segment over to the past.
    have hfirst : m.Affords n := affords_of_zero hzero fun limit hlimit =>
      hm limit hlimit n List.mem_cons_self
    have hreset := resetCounters_behind (ticked_behind h hfirst (affords_of_none hm'))
    have hbudget : (m.ticked n).resetCounters.maxSteps = m.maxSteps := maxSteps_ticked m n
    rw [segmentEnds, List.sum_cons, List.sum_cons, ticked_add, ← add_assoc]
    exact ih hreset rfl
      (fun limit hlimit n hn => hm limit (hbudget ▸ hlimit) n (List.mem_cons_of_mem _ hn))
      ((maxSteps_ticked m' n).trans hm')

theorem counters_segments (hzero : m.counters = 0) : (m.segments ns).counters = 0 := by
  induction ns generalizing m with
  | nil => exact hzero
  | cons n ns ih => exact ih rfl

theorem maxSteps_segments (m : Machine) (ns : List Nat) :
    (m.segments ns).maxSteps = m.maxSteps := by
  induction ns generalizing m with
  | nil => rfl
  | cons n ns ih => exact (ih _).trans (maxSteps_ticked m n)

/-- Reset the counters of a new machine after segments of so many ticks, and tick on. If the machine
has a budget, let no segment have more ticks than that, the one that is not over included. Then the
machine has done what the same machine without budget and resets does in as many ticks: they agree
in all but the budget and the counters, and what the other one has counted is the sum of what this
one had counted at the end of each segment and has counted since. It has not faulted for want of
steps. -/
theorem segments_agree (grid : Grid) (console : Console) (draws : Draws) (maxSteps : Option Int)
    (ns : List Nat) (k : Nat)
    (hbudget : ∀ limit, maxSteps = some limit → ∀ n ∈ k :: ns, (n : Int) ≤ limit) :
    let m := start grid console draws maxSteps
    let cut := (m.segments ns).ticked k
    let whole := (start grid console draws none).ticked (ns.sum + k)
    whole = { cut with maxSteps := none, counters := whole.counters } ∧
      whole.counters = (m.segmentEnds ns).sum + cut.counters ∧
      ∀ limit, cut.status ≠ .faulted (.stepLimit limit) := by
  intro m cut whole
  have hstart : Alike (.behind 0) m (start grid console draws none) :=
    ⟨rfl, rfl, rfl, rfl, rfl, rfl, rfl, rfl⟩
  have hsegments := segments_behind hstart rfl
    (fun limit hlimit n hn => hbudget limit hlimit n (List.mem_cons_of_mem _ hn)) rfl
  have hlast : (m.segments ns).Affords k :=
    affords_of_zero (counters_segments rfl) fun limit hlimit =>
      hbudget limit ((maxSteps_segments m ns).symm.trans hlimit) k List.mem_cons_self
  have halike : Alike (.behind (m.segmentEnds ns).sum) cut whole := by
    have hticked := ticked_behind hsegments hlast (affords_of_none (maxSteps_ticked _ _))
    rwa [zero_add, ← ticked_add] at hticked
  have hnone : whole.maxSteps = none := maxSteps_ticked _ _
  refine ⟨?_, halike.clock, fun limit => ?_⟩
  · rw [← hnone]
    exact eq_of_alike halike halike.place.symm halike.stack.symm halike.console.symm rfl
  · rw [← halike.status]
    exact status_ticked_ne_stepLimit (m := start grid console draws none) rfl nofun _

/-- A program that counts without end, on a budget of six steps that is granted anew again and
again. -/
theorem segments_agree_counting :
    let m := start (Grid.ofLines ["1+:."]) (Console.buffer []) (Draws.ofSeed none) (some 6)
    let cut := (m.segments [6, 0, 5]).ticked 6
    cut.counters.steps = 6 ∧ cut.isRunning = true ∧
      ((start (Grid.ofLines ["1+:."]) (Console.buffer []) (Draws.ofSeed none) none).ticked
        17).counters = ⟨6 + 0 + 5 + 6, 0, 0, 0, 4⟩ := by
  intro m cut
  obtain ⟨-, hsum, -⟩ := segments_agree (Grid.ofLines ["1+:."]) (Console.buffer [])
    (Draws.ofSeed none) (some 6) [6, 0, 5] 6 (by rintro _ ⟨⟩; decide)
  exact ⟨by decide +kernel, by decide +kernel, hsum.trans (by decide +kernel)⟩

end Machine

end Funge93
