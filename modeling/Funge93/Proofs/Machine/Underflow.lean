import Funge93.Proofs.Machine.Runs
import Funge93.Proofs.Machine.Simulation

/-!
# Zeros below the stack

An empty stack pops zero. This module proves that no program can tell this from a stack with zeros
lying below its contents: put any number of zeros at the bottom, and every tick does the same.

Results:
1. `Stack.Deeper.discard`, `Stack.Deeper.push`: the stack operations keep two stacks apart by
   nothing but zeros at the bottom.
2. `calls_deepened`: a machine with zeros put below its stack stays in lockstep with the machine
   without them, through ticks and all other calls.
-/

namespace Funge93

/-! ## Stacks -/

namespace Stack

/-- `Deeper k a b s t`: the stack `t` is `s` with at most `k` zeros below, and its peak is at most
`a` below and at most `b` above the peak of `s`. -/
structure Deeper (k a b : Nat) (s t : Stack) : Prop where
  items : ∃ j ≤ k, t.items = s.items ++ List.replicate j 0
  peak_le : s.peak ≤ t.peak + a
  le_peak : t.peak ≤ s.peak + b

/-- The stack with some zeros put at its bottom, and another peak. -/
def deepened (s : Stack) (k peak : Nat) : Stack where
  items := s.items ++ List.replicate k 0
  depth := s.depth + k
  peak := peak
  depth_eq := by rw [s.depth_eq, List.length_append, List.length_replicate]

namespace Deeper

variable {k a b : Nat} {s t : Stack}

theorem peek (h : Deeper k a b s t) : t.peek = s.peek := by
  obtain ⟨j, _, hj⟩ := h.items
  unfold Stack.peek
  rw [hj]
  cases s.items with
  | nil => cases j <;> rfl
  | cons v rest => rfl

theorem discard (h : Deeper k a b s t) : Deeper k a b s.discard t.discard := by
  obtain ⟨⟨j, hjk, hj⟩, hle, hge⟩ := h
  refine ⟨?_, hle, hge⟩
  show ∃ j ≤ k, t.items.tail = s.items.tail ++ List.replicate j 0
  rw [hj]
  cases s.items with
  | nil =>
    -- One stack is empty and stays so; the other gives up one of its zeros.
    exact ⟨j - 1, by omega, by simp⟩
  | cons v rest => exact ⟨j, hjk, rfl⟩

/-- A push raises the peaks no further apart than the zeros below and the peaks before allow. -/
theorem push (hb : k ≤ b) (h : Deeper k a b s t) (v : Cell) :
    Deeper k a b (s.push v) (t.push v) := by
  obtain ⟨⟨j, hjk, hj⟩, hle, hge⟩ := h
  have hlength : t.items.length = s.items.length + j := by
    rw [hj, List.length_append, List.length_replicate]
  refine ⟨⟨j, hjk, congrArg (v :: ·) hj⟩, ?_, ?_⟩
  · rw [peak_push, peak_push]
    omega
  · rw [peak_push, peak_push]
    omega

end Deeper

end Stack

/-! ## Machines -/

/-- The stacks are in a relation, and all else is equal. -/
def Likeness.onStack (R : Stack → Stack → Prop) : Likeness := { equal with stack := R }

/-- Peeking, discarding and pushing are all that a machine does to its stack. -/
theorem Likeness.blind_onStack {R : Stack → Stack → Prop} (peek : ∀ {s t}, R s t → t.peek = s.peek)
    (discard : ∀ {s t}, R s t → R s.discard t.discard)
    (push : ∀ {s t}, R s t → ∀ v, R (s.push v) (t.push v)) : (onStack R).Blind where
  toKept := { kept_equal with peek, discard, push }
  budget := by
    intro m m' h
    obtain ⟨hb, hc⟩ := Prod.mk.inj h.clock
    unfold Machine.exceeded? Machine.countStep
    rw [hb, hc]
  content := by
    intro m m' h
    obtain ⟨hg, hp⟩ := Prod.mk.inj h.place
    obtain ⟨hc, hr⟩ := Prod.mk.inj hp
    rw [hg, hc, hr]
  uses h := Machine.usesAlike_of_eq rfl rfl h

namespace Machine

/-- The machine with some zeros put at the bottom of its stack, and another peak. -/
def deepened (m : Machine) (k peak : Nat) : Machine := { m with stack := m.stack.deepened k peak }

theorem eq_withStack_of_alike {R : Stack → Stack → Prop} {m m' : Machine}
    (h : Alike (.onStack R) m m') : m' = { m with stack := m'.stack } :=
  eq_of_alike h h.place.symm rfl h.console.symm h.clock.symm

theorem alike_deepened (m : Machine) (peak : Nat) {k a b : Nat} (hle : m.stack.peak ≤ peak + a)
    (hge : peak ≤ m.stack.peak + b) :
    Alike (.onStack (Stack.Deeper k a b)) m (m.deepened k peak) :=
  ⟨rfl, ⟨⟨k, Nat.le_refl k, rfl⟩, hle, hge⟩, rfl, rfl, rfl, rfl, rfl, rfl⟩

theorem calls_alike_onStack {R : Stack → Stack → Prop} (hR : (Likeness.onStack R).Blind)
    {m m' : Machine} (h : Alike (.onStack R) m m') (cs : List Call) :
    Alike (.onStack R) (m.calls cs) (m'.calls cs) := by
  induction cs generalizing m m' with
  | nil => exact h
  | cons c cs ih =>
    have hconsole : m.console = m'.console := h.console
    obtain ⟨hbudget, _⟩ := Prod.mk.inj h.clock
    show Alike (.onStack R) ((m.called c).calls cs) ((m'.called c).calls cs)
    refine ih ?_
    -- Ticks and pushes are all that reaches the stack.
    cases c with
    | tick => exact (tick_alike_of_blind hR h).1
    | push n => exact alike_push hR.toKept h _
    | feed t => exact { h with console := congrArg (Console.feed · t) hconsole }
    | drain => exact { h with console := congrArg (fun c : Console => c.drain.2) hconsole }
    | resetCounters =>
      exact { h with clock := congrArg (fun b : Option Int => (b, Counters.zero)) hbudget }
    | reconnect console => exact { h with console := rfl }

theorem blind_deeper {k a b : Nat} (hb : k ≤ b) :
    (Likeness.onStack (Stack.Deeper k a b)).Blind :=
  Likeness.blind_onStack Stack.Deeper.peek Stack.Deeper.discard (Stack.Deeper.push hb)

/-- Put `k` zeros at the bottom of the stack of any machine. Whatever peak it then has, after any
number of ticks, and of other calls between them, it differs from the machine without them in
nothing but the peak and at most `k` zeros at the bottom of the stack, and the next tick ends in the
same misuse or in none. Peaks that start `k` apart stay at most `k` apart. -/
theorem calls_deepened (m : Machine) (k : Nat) (cs : List Call) :
    (∀ peak, ∃ t j, j ≤ k ∧
      t.contents = List.replicate j 0 ++ (m.calls cs).stack.contents ∧
      (m.deepened k peak).calls cs = { m.calls cs with stack := t } ∧
      ((m.deepened k peak).calls cs).tick.2 = (m.calls cs).tick.2) ∧
    (m.calls cs).stack.peak ≤ ((m.deepened k (m.stack.peak + k)).calls cs).stack.peak ∧
    ((m.deepened k (m.stack.peak + k)).calls cs).stack.peak ≤ (m.calls cs).stack.peak + k := by
  refine ⟨?_, ?_⟩
  · intro peak
    have hblind := blind_deeper (a := m.stack.peak) (Nat.le_add_right k peak)
    have hlike := calls_alike_onStack hblind (alike_deepened m peak (by omega) (by omega)) cs
    obtain ⟨j, hjk, hj⟩ := hlike.stack.items
    refine ⟨_, j, hjk, ?_, eq_withStack_of_alike hlike, (tick_alike_of_blind hblind hlike).2⟩
    unfold Stack.contents
    rw [hj, List.reverse_append, List.reverse_replicate]
  · have hblind := blind_deeper (a := 0) (Nat.le_refl k)
    have hlike := calls_alike_onStack hblind
      (alike_deepened m _ (Nat.le_add_right _ k) (Nat.le_refl _)) cs
    exact ⟨hlike.stack.peak_le, hlike.stack.le_peak⟩

end Machine

end Funge93
