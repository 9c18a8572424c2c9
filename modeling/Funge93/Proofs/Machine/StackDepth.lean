import Funge93.Proofs.Machine.Runs
import Funge93.Proofs.Machine.Upcoming

/-!
# How deep the stack gets

The peak of a stack is raised at each push, so in the middle of an instruction. This module proves
that it is nevertheless the greatest depth that the stack has between ticks, because no instruction
makes the stack deeper on its way than it is in the end. It also bounds the peak: a tick makes the
stack deeper by one cell at most, but for doubling or exchanging cells that are missing, which
starts from an empty stack and leaves two.

Results:
1. `settles_execute`, `settles_tick`: what one instruction and one tick do to depth and peak.
2. `peak_ticked`: the peak is the greatest depth so far.
3. `peak_ticked_le`: the peak is at most one above the number of steps.
-/

namespace Funge93

/-- `Settles s t`: an instruction can lead from the stack `s` to the stack `t`. It raises the peak
to nothing above the depth that it leaves. -/
structure Stack.Settles (s t : Stack) : Prop where
  peak : t.peak = max s.peak t.depth
  depth : t.depth ≤ max 1 s.depth + 1

namespace Stack

variable {s t : Stack}

theorem depth_push (s : Stack) (v : Cell) : (s.push v).depth = s.depth + 1 := rfl

theorem depth_discard (s : Stack) : s.discard.depth = s.depth - 1 := rfl

theorem peak_push_eq_max (s : Stack) (v : Cell) : (s.push v).peak = max s.peak (s.depth + 1) := rfl

namespace Settles

/-- Discarding cells leaves the peak as it is. -/
theorem of_le (h : s.depth ≤ s.peak) (hdepth : t.depth ≤ s.depth) (hpeak : t.peak = s.peak) :
    Settles s t where
  peak := by rw [hpeak, Nat.max_eq_left (Nat.le_trans hdepth h)]
  depth := by omega

theorem refl (h : s.depth ≤ s.peak) : Settles s s := .of_le h (Nat.le_refl _) rfl

theorem discard (h : s.depth ≤ s.peak) : Settles s s.discard := .of_le h (Nat.sub_le _ _) rfl

/-- One cell goes on top of what is left of the stack. -/
theorem push (hdepth : t.depth ≤ s.depth) (hpeak : t.peak = s.peak) (v : Cell) :
    Settles s (t.push v) where
  peak := by rw [peak_push_eq_max, depth_push, hpeak]
  depth := by
    rw [depth_push]
    omega

/-- Two cells go on top of a stack that lost one or was empty. -/
theorem push_push (hdepth : t.depth + 1 ≤ max 1 s.depth) (hpeak : t.peak = s.peak) (v w : Cell) :
    Settles s ((t.push v).push w) where
  peak := by
    simp only [peak_push_eq_max, depth_push, hpeak]
    omega
  depth := by
    simp only [depth_push]
    omega

theorem duplicate (s : Stack) : Settles s s.duplicate := by
  have hdepth : s.discard.depth + 1 ≤ max 1 s.depth := by
    rw [depth_discard]
    omega
  exact push_push hdepth rfl s.peek s.peek

theorem swap (s : Stack) : Settles s s.swap := by
  have hdepth : s.discard.discard.depth + 1 ≤ max 1 s.depth := by
    simp only [depth_discard]
    omega
  exact push_push hdepth rfl s.peek s.discard.peek

theorem discard_push (s : Stack) (v : Cell) : Settles s (s.discard.push v) :=
  push (t := s.discard) (Nat.sub_le _ _) rfl v

theorem discard_discard_push (s : Stack) (v : Cell) : Settles s (s.discard.discard.push v) :=
  push (t := s.discard.discard) (Nat.le_trans (Nat.sub_le _ _) (Nat.sub_le _ _)) rfl v

end Settles

end Stack

namespace Machine

variable {m : Machine} {i : Instruction}

/-- Every machine that a result leaves has a stack that an instruction can lead to. -/
abbrev LeavesSettled (m : Machine) (r : Except Interruption Machine) : Prop :=
  Leaves (fun m' => m.stack.Settles m'.stack) (fun _ => True) r

/-! ## Instructions -/

theorem settles_turnRandomly (h : m.stack.depth ≤ m.stack.peak) :
    LeavesSettled m m.turnRandomly := by
  unfold turnRandomly
  dsimp only
  split
  · exact .refl h
  · exact ⟨trivial, .refl h⟩

theorem settles_write (h : m.stack.depth ≤ m.stack.peak)
    (how : Console → Int → Option Failure × Console) : LeavesSettled m (m.write how) := by
  unfold write
  dsimp only
  split
  · exact .discard h
  · exact ⟨trivial, .discard h⟩

theorem settles_read (h : m.stack.depth ≤ m.stack.peak)
    (how : Console → Except Failure (Option Cell) × Console) (atEnd : Cell) :
    LeavesSettled m (m.read how atEnd) := by
  unfold read
  dsimp only
  split
  · exact .push (Nat.le_refl _) rfl _
  · exact ⟨trivial, .refl h⟩

theorem settles_moveOn {m' : Machine} (h : m.stack.Settles m'.stack) :
    LeavesSettled m m'.moveOn := by
  have hstack := stack_moveOn m'
  cases hmove : m'.moveOn with
  | ok m'' =>
    rw [hmove] at hstack
    rw [← show m''.stack = m'.stack from hstack] at h
    exact h
  | error interruption =>
    rw [hmove] at hstack
    rw [← show interruption.machine.stack = m'.stack from hstack.2] at h
    exact ⟨trivial, h⟩

theorem settles_advance (h : m.stack.depth ≤ m.stack.peak) : LeavesSettled m m.advance := by
  unfold advance
  split
  · exact .refl h
  · exact ⟨trivial, .refl h⟩

theorem settles_execute (h : m.stack.depth ≤ m.stack.peak) (i : Instruction) :
    LeavesSettled m (m.execute i) := by
  cases i with
  | digit d => exact .push (Nat.le_refl _) rfl _
  | add | subtract | multiply | divide | remainder | greater => exact .discard_discard_push _ _
  | negate => exact .discard_push _ _
  | turnRandomly => exact settles_turnRandomly h
  | branchHorizontally | branchVertically | discard => exact .discard h
  | duplicate => exact .duplicate m.stack
  | swap => exact .swap m.stack
  | writeNumber => exact settles_write h Console.writeNumber
  | writeChar => exact settles_write h Console.writeChar
  | skip => exact settles_advance h
  | store =>
    rw [show m.execute .store = .ok _ from store_eq m]
    have hdepth : m.stack.discard.discard.discard.depth ≤ m.stack.depth := by
      simp only [Stack.depth_discard]
      omega
    exact .of_le h hdepth rfl
  | fetch =>
    rw [show m.execute .fetch = .ok _ from fetch_eq m]
    exact .discard_discard_push _ _
  | readNumber => exact settles_read h Console.readNumber 0
  | readChar => exact settles_read h readCharCell (-1)
  | turn | quote | halt | idle => exact .refl h

/-! ## Ticks -/

theorem settles_pushText (h : m.stack.depth ≤ m.stack.peak) (content : Option Cell) :
    m.stack.Settles (m.pushText content).stack := by
  unfold pushText
  split
  · exact .refl h
  · exact .push (Nat.le_refl _) rfl _

theorem settles_step (h : m.stack.depth ≤ m.stack.peak) (hr : m.isRunning = true) :
    LeavesSettled m m.step := by
  have hs := stepping_step hr
  generalize m.step = r at hs ⊢
  cases hs with
  | spent | lost => exact ⟨trivial, .refl h⟩
  | @text content => exact settles_moveOn (settles_pushText (m := m.countStep) h content)
  | @instruction i =>
    have hx := settles_execute (m := m.countStep) h i
    cases he : m.countStep.execute i with
    | error interruption =>
      rw [he] at hx
      exact hx
    | ok m' =>
      rw [he] at hx
      exact settles_moveOn (m := m) hx

theorem settles_tick (h : m.stack.depth ≤ m.stack.peak) : m.stack.Settles m.tick.1.stack := by
  cases hr : m.isRunning with
  | false =>
    rw [tick_of_not_running hr]
    exact .refl h
  | true =>
    have hs := settles_step h hr
    unfold tick
    rw [if_pos hr]
    split
    · next hstep =>
      rw [hstep] at hs
      exact hs
    · next hstep =>
      rw [hstep] at hs
      exact hs.2
    · next hstep =>
      rw [hstep] at hs
      exact hs.2

/-! ## Runs -/

/-- The peak is the greatest depth at the beginning and after each tick. -/
theorem peak_ticked (h : m.stack.peak = m.stack.depth) (n : Nat) :
    (∀ k ≤ n, (m.ticked k).stack.depth ≤ (m.ticked n).stack.peak) ∧
      ∃ k ≤ n, (m.ticked k).stack.depth = (m.ticked n).stack.peak := by
  induction n with
  | zero =>
    refine ⟨fun k hk => ?_, 0, Nat.le_refl 0, h.symm⟩
    rw [Nat.le_zero.mp hk]
    exact Nat.le_of_eq h.symm
  | succ n ih =>
    obtain ⟨hle, k, hk, hreached⟩ := ih
    have hpeak := (settles_tick (hle n (Nat.le_refl n))).peak
    rw [← ticked_succ] at hpeak
    constructor
    · intro i hi
      rw [hpeak]
      rcases Nat.le_succ_iff.mp hi with hi | rfl
      · exact Nat.le_trans (hle i hi) (Nat.le_max_left ..)
      · exact Nat.le_max_right ..
    · let depth := (m.ticked (n + 1)).stack.depth
      rcases Nat.le_total depth (m.ticked n).stack.peak with hlower | hhigher
      · refine ⟨k, Nat.le_succ_of_le hk, ?_⟩
        rw [hpeak, Nat.max_eq_left hlower, hreached]
      · refine ⟨n + 1, Nat.le_refl _, ?_⟩
        rw [hpeak, Nat.max_eq_right hhigher]

theorem peak_tick_le (h : m.stack.depth ≤ m.stack.peak)
    (hsteps : m.stack.peak ≤ m.counters.steps + 1) :
    m.tick.1.stack.peak ≤ m.tick.1.counters.steps + 1 := by
  cases hr : m.isRunning with
  | false =>
    rw [tick_of_not_running hr]
    exact hsteps
  | true =>
    obtain ⟨hpeak, hdepth⟩ := settles_tick h
    have hfloor : max 1 m.stack.depth ≤ m.counters.steps + 1 :=
      Nat.max_le.mpr ⟨Nat.le_add_left .., Nat.le_trans h hsteps⟩
    rw [hpeak, steps_tick hr]
    exact Nat.max_le.mpr
      ⟨Nat.le_succ_of_le hsteps, Nat.le_trans hdepth (Nat.succ_le_succ hfloor)⟩

theorem peak_ticked_le (h : m.stack.peak = m.stack.depth)
    (hsteps : m.stack.peak ≤ m.counters.steps + 1) (n : Nat) :
    (m.ticked n).stack.peak ≤ (m.ticked n).counters.steps + 1 := by
  induction n with
  | zero => exact hsteps
  | succ n ih =>
    rw [ticked_succ]
    exact peak_tick_le ((peak_ticked h n).1 n (Nat.le_refl n)) ih

end Machine

end Funge93
