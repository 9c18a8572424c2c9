import Funge93.Grid.Layout
import Funge93.Proofs.Machine.Runs
import Funge93.Proofs.Machine.Simulation

/-!
# The step budget

A machine with a step budget does what the same machine without one does, until its budget is used
up. The step after that is refused: it is counted, the machine faults, and nothing else happens. So
a budget truncates a run and does not change it.

Results:
1. `tick_withBudget`, `ticked_withBudget`: within its budget a machine ticks as if it had none.
2. `tick_spent`: beyond its budget a machine faults and keeps all but the step counter.
3. `run_truncated`: where the run of a new machine with a budget ends.
-/

namespace Funge93

/-- The step budgets may differ, and all else is equal. -/
def Likeness.budgets : Likeness := { equal with clock := fun x y => y.2 = x.2 }

theorem Likeness.kept_budgets : budgets.Kept :=
  { kept_equal with
    count := fun h e => congrArg (Counters.count · e) h }

namespace Machine

variable {m : Machine} {N : Int}

/-- The machine with another step budget. -/
def withBudget (budget : Option Int) (m : Machine) : Machine := { m with maxSteps := budget }

/-- The machine after its budget refused a step. -/
def refused (limit : Int) (m : Machine) : Machine :=
  { m.countStep with maxSteps := some limit, status := .faulted (.stepLimit limit) }

theorem alike_withBudget (m : Machine) (budget : Option Int) :
    Alike .budgets m (m.withBudget budget) :=
  ⟨rfl, rfl, rfl, rfl, rfl, rfl, rfl, rfl⟩

theorem eq_withBudget_of_alike {m' : Machine} (h : Alike .budgets m m') :
    m' = m.withBudget m'.maxSteps :=
  eq_of_alike h h.place.symm h.stack.symm h.console.symm (congrArg (m'.maxSteps, ·) h.clock)

/-! ## Within the budget -/

theorem exceeded?_of_none (h : m.maxSteps = none) : m.countStep.exceeded? = none := by
  unfold exceeded?
  rw [show m.countStep.maxSteps = none from h]
  rfl

theorem exceeded?_of_le (h : m.counters.steps + 1 ≤ N) :
    (m.withBudget (some N)).countStep.exceeded? = none := by
  refine Option.filter_eq_none_iff.mpr ?_
  rintro limit ⟨⟩ hlt
  have hlt : N < ((m.counters.steps + 1 : Nat) : Int) := of_decide_eq_true hlt
  omega

theorem tick_withBudget (hm : m.maxSteps = none) (hN : m.counters.steps + 1 ≤ N) :
    (m.withBudget (some N)).tick = (m.tick.1.withBudget (some N), m.tick.2) := by
  have hlike := alike_withBudget m (some N)
  have hstep (hrun : m.isRunning = true) := related_step Likeness.kept_budgets hlike hrun
    ((exceeded?_of_le hN).trans (exceeded?_of_none hm).symm) (.of_eq rfl)
    fun _ _ => usesAlike_of_eq rfl rfl hlike _
  obtain ⟨ht, he⟩ := tick_alike hlike hstep
  have heq := eq_withBudget_of_alike ht
  rw [maxSteps_tick] at heq
  exact Prod.ext heq he

/-- A tick counts at most one step. -/
theorem steps_tick_le (m : Machine) : m.tick.1.counters.steps ≤ m.counters.steps + 1 := by
  cases hr : m.isRunning with
  | true => exact Nat.le_of_eq (steps_tick hr)
  | false =>
    rw [tick_of_not_running hr]
    exact Nat.le_succ _

theorem ticked_withBudget {k : Nat} (hm : m.maxSteps = none)
    (hk : k ≤ (N - m.counters.steps).toNat) :
    (m.withBudget (some N)).ticked k = (m.ticked k).withBudget (some N) := by
  induction k generalizing m with
  | zero => rfl
  | succ k ih =>
    have hle := steps_tick_le m
    rw [ticked, ticked, tick_withBudget hm (by omega)]
    exact ih ((maxSteps_tick m).trans hm) (by omega)

/-! ## Beyond the budget -/

theorem tick_spent (hr : m.isRunning = true) (hN : N < m.counters.steps + 1) :
    (m.withBudget (some N)).tick = (m.refused N, none) := by
  have hexceeded : (m.withBudget (some N)).countStep.exceeded? = some N := by
    refine Option.filter_eq_some_iff.mpr ⟨rfl, decide_eq_true ?_⟩
    show N < ((m.counters.steps + 1 : Nat) : Int)
    omega
  have hstep : (m.withBudget (some N)).step =
      .error ⟨.fault (.stepLimit N), (m.withBudget (some N)).countStep⟩ := by
    unfold step
    dsimp only
    rw [hexceeded]
  unfold tick
  rw [show (m.withBudget (some N)).isRunning = true from hr, if_pos rfl, hstep]
  rfl

/-! ## Runs of new machines -/

/-- Take a new machine with a budget of `N` steps and the same machine without one. They agree after
every tick within the budget. If the machine without a budget stops within it, the run of the other
ends there too; otherwise it ends right after the budget, with the next step refused. -/
theorem run_truncated (grid : Grid) (console : Console) (draws : Draws)
    (hc : console.FaultsOnly) (hd : draws.Proper) (N : Int) :
    let bounded := start grid console draws (some N)
    let unbounded := start grid console draws none
    (∀ k ≤ N.toNat, bounded.ticked k = (unbounded.ticked k).withBudget (some N)) ∧
    (∀ k ≤ N.toNat, (unbounded.ticked k).isRunning = false → ∀ bound ≥ k,
      bounded.run bound = ((unbounded.ticked k).withBudget (some N), .stopped)) ∧
    ((unbounded.ticked N.toNat).isRunning = true →
      (bounded.run N.toNat).2 = .unfinished ∧
      (∀ bound > N.toNat, bounded.run bound = ((unbounded.ticked N.toNat).refused N, .stopped)) ∧
      ((unbounded.ticked N.toNat).refused N).counters.steps = N.toNat + 1) ∧
    (bounded.run (N.toNat + 1)).2 = .stopped := by
  intro bounded unbounded
  have hfaults : FaultsOnly bounded := .start hc hd (some N)
  have hlockstep : ∀ k ≤ N.toNat, bounded.ticked k = (unbounded.ticked k).withBudget (some N) := by
    intro k hk
    refine ticked_withBudget (m := unbounded) rfl ?_
    show k ≤ (N - 0).toNat
    rwa [Int.sub_zero]
  have hstopped : ∀ k ≤ N.toNat, (unbounded.ticked k).isRunning = false → ∀ bound ≥ k,
      bounded.run bound = ((unbounded.ticked k).withBudget (some N), .stopped) := by
    intro k hk hs bound hle
    have hb : (bounded.ticked k).isRunning = false := by
      rw [hlockstep k hk]
      exact hs
    rw [run_of_stopped_of_le hfaults rfl hb hle, hlockstep k hk]
  have hrefused (hr : (unbounded.ticked N.toNat).isRunning = true) : ∀ bound > N.toNat,
      bounded.run bound = ((unbounded.ticked N.toNat).refused N, .stopped) := by
    intro bound hlt
    -- A machine that still runs has counted all its ticks, so the next step exceeds the budget.
    have hsteps : (unbounded.ticked N.toNat).counters.steps = 0 + N.toNat := steps_ticked hr
    have ht : bounded.ticked (N.toNat + 1) = (unbounded.ticked N.toNat).refused N := by
      rw [ticked_add, hlockstep _ (Nat.le_refl _), ticked, ticked, tick_spent hr (by omega)]
    have hb : (bounded.ticked (N.toNat + 1)).isRunning = false := by
      rw [ht]
      rfl
    rw [run_of_stopped_of_le hfaults rfl hb hlt, ht]
  refine ⟨hlockstep, hstopped, fun hr => ⟨?_, hrefused hr, ?_⟩, ?_⟩
  · rw [run_of_running hfaults]
    rw [hlockstep _ (Nat.le_refl _)]
    exact hr
  · have hsteps : (unbounded.ticked N.toNat).counters.steps = 0 + N.toNat := steps_ticked hr
    show (unbounded.ticked N.toNat).counters.steps + 1 = _
    omega
  · cases hr : (unbounded.ticked N.toNat).isRunning with
    | true => rw [hrefused hr _ (Nat.lt_succ_self _)]
    | false => rw [hstopped _ (Nat.le_refl _) hr _ (Nat.le_succ _)]

/-- A program that counts without end is stopped at its seventh step by a budget of six. -/
theorem run_counting_truncated :
    let counting := start (Grid.ofLines ["1+:."]) (Console.buffer []) (Draws.ofSeed none)
    (counting (some 6)).run 7 = (((counting none).ticked 6).refused 6, .stopped) :=
  ((run_truncated (Grid.ofLines ["1+:."]) (Console.buffer []) (Draws.ofSeed none) ⟨nofun, nofun⟩
    (Draws.proper_ofSeed none) 6).2.2.1 (by decide +kernel)).2.1 7 (by decide)

end Machine

end Funge93
