import Funge93.Proofs.Grid.Stores
import Funge93.Proofs.Machine.Runs
import Funge93.Proofs.Machine.Upcoming

/-!
# Self-modification

A program rewrites itself by storing cells in its own grid. Three readers meet what it stored: the
fetch instruction, the dispatch of command mode, and text mode. This module shows that all three see
the value of the last store that hit a position, under any of its coordinates, and otherwise the
character that the grid was loaded with.

Results:
1. `grid_actions`: the grid after any calls and instructions is the old one with their stores.
2. `reads_last_store`: what the three readers see after any calls and instructions.
-/

namespace Funge93.Machine

/-- What happens to a machine: a call, or an instruction wherever the pointer stands. -/
inductive Action
  | call (c : Call)
  | execute (i : Instruction)

/-- The machine that an instruction leaves, whether it fails or not. -/
def executed (m : Machine) (i : Instruction) : Machine :=
  match m.execute i with
  | .ok m' => m'
  | .error interruption => interruption.machine

/-- The machine after an action. -/
def acted (m : Machine) : Action → Machine
  | .call c => m.called c
  | .execute i => m.executed i

/-- The machine after some actions. -/
def actions (m : Machine) (as : List Action) : Machine := as.foldl acted m

/-- What a store instruction takes from the stack: the row on top, then the column, then the value.
Each one that is missing is zero. -/
def operands (m : Machine) : Store where
  value := m.stack.items.getD 2 0
  x := (m.stack.items.getD 1 0).toInt
  y := (m.stack.items.getD 0 0).toInt

/-- What an action stores, if it executes a store instruction. -/
def storeOf (m : Machine) : Action → Option Store
  | .call .tick => if m.upcoming? = some .store then some m.operands else none
  | .execute .store => some m.operands
  | _ => none

/-- The stores of some actions in turn. -/
def stored (m : Machine) : List Action → List Store
  | [] => []
  | a :: as => (m.storeOf a).toList ++ (m.acted a).stored as

/-- The machine runs, its budget allows a step, and its pointer stands on a position of the
torus. -/
structure StandsOn (m : Machine) (x y : Int) : Prop where
  running : m.isRunning = true
  budget : m.countStep.exceeded? = none
  pointer : (m.col, m.row) = m.grid.wrap x y

variable {m : Machine}

/-! ## The stores of a run -/

theorem operands_eq (m : Machine) : m.operands = ⟨m.third, m.second, m.top⟩ := by
  unfold operands third second top Stack.peek
  simp only [Stack.items_discard]
  match m.stack.items with
  | [] | [_] | [_, _] | _ :: _ :: _ :: _ => rfl

theorem gridAfter_eq_storeAll (m : Machine) (i? : Option Instruction) :
    m.gridAfter i? =
      m.grid.storeAll (if i? = some .store then some m.operands else none).toList := by
  by_cases h : i? = some .store
  · rw [h, if_pos rfl, operands_eq]
    rfl
  · rw [if_neg h, gridAfter_of_ne_store h]
    rfl

theorem grid_executed (m : Machine) (i : Instruction) :
    (m.executed i).grid = m.gridAfter (some i) := by
  have h := effects_execute m i
  unfold executed
  cases he : m.execute i with
  | ok m' =>
    rw [he] at h
    exact h.grid
  | error interruption =>
    rw [he] at h
    exact h.2.grid

theorem grid_acted (m : Machine) (a : Action) :
    (m.acted a).grid = m.grid.storeAll (m.storeOf a).toList := by
  cases a with
  | call c =>
    cases c with
    | tick => exact (effects_tick m).grid.trans (gridAfter_eq_storeAll m m.upcoming?)
    | push | feed | drain | resetCounters | reconnect => rfl
  | execute i =>
    rw [acted, grid_executed, gridAfter_eq_storeAll]
    cases i <;> rfl

theorem grid_actions (m : Machine) (as : List Action) :
    (m.actions as).grid = m.grid.storeAll (m.stored as) := by
  induction as generalizing m with
  | nil => rfl
  | cons a as ih =>
    calc
      ((m.acted a).actions as).grid
        = (m.acted a).grid.storeAll ((m.acted a).stored as) := ih (m.acted a)
      _ = (m.grid.storeAll (m.storeOf a).toList).storeAll ((m.acted a).stored as) := by
        rw [grid_acted]
      _ = m.grid.storeAll (m.stored (a :: as)) := (Grid.storeAll_append ..).symm

/-! ## The readers -/

theorem execute_fetch_pushed (m : Machine) (x y : Cell) :
    ∃ m', ((m.push x).push y).execute .fetch = .ok m' ∧
      m'.stack.items = (m.grid.fetch x.toInt y.toInt).getD 0 :: m.stack.items :=
  ⟨_, fetch_eq _, rfl⟩

/-- A machine acts on what the torus holds where its pointer stands. -/
theorem StandsOn.step {x y : Int} (h : m.StandsOn x y) :
    m.step = m.countStep.act (m.grid.fetch x y) >>= moveOn := by
  obtain ⟨hcol, hrow⟩ := Prod.mk.inj h.pointer
  refine step_of_ok h.budget ?_
  rw [hcol, hrow]
  exact Grid.read_wrap m.grid x y

theorem StandsOn.step_of_ne_text {x y : Int} (h : m.StandsOn x y) (hm : m.mode ≠ .text) :
    m.step = m.countStep.execute (.ofCell ((m.grid.fetch x y).getD (-1))) >>= moveOn := by
  rw [h.step]
  unfold act
  split
  · next ht => exact absurd ht hm
  · rfl

theorem StandsOn.step_of_text {x y : Int} (h : m.StandsOn x y) (hm : m.mode = .text) :
    m.step = (if m.grid.fetch x y = some 34 then { m.countStep with mode := .command }
      else m.countStep.push ((m.grid.fetch x y).getD 32)).moveOn := by
  rw [h.step]
  unfold act
  rw [show m.countStep.mode = .text from hm]
  rfl

/-- A store changes what the torus holds at one position and not the size of the torus. -/
theorem execute_store (m : Machine) : ∃ m', m.execute .store = .ok m' ∧
    m'.grid.width = m.grid.width ∧ m'.grid.height = m.grid.height ∧
    ∀ x y, m'.grid.fetch x y =
      if m.grid.SamePlace m.operands.x m.operands.y x y then some m.operands.value
      else m.grid.fetch x y := by
  refine ⟨_, store_eq m, rfl, rfl, fun x y => ?_⟩
  rw [operands_eq]
  exact Grid.fetch_store ..

/-- After any actions on a new machine, a fetch at any coordinates pushes the value of the last
store that hit the position, or the character that was loaded there, or zero for a blank position.
Command mode executes that value and text mode pushes it or ends at it, with their own answers for
a blank position. The grid keeps its size, and every further store changes one position only. -/
theorem reads_last_store (t : Text) (console : Console) (draws : Draws) (maxSteps : Option Int)
    (as : List Action) :
    let new := start (.ofText t) console draws maxSteps
    let m := new.actions as
    let held := Grid.history t (new.stored as)
    (m.grid.width = new.grid.width ∧ m.grid.height = new.grid.height) ∧
    (∀ x y : Cell, ∃ m', ((m.push x).push y).execute .fetch = .ok m' ∧
      m'.stack.items = (held x.toInt y.toInt).getD 0 :: m.stack.items) ∧
    (∀ (here : Machine) (x y : Int), here.grid = m.grid → here.StandsOn x y →
      (here.mode ≠ .text →
        here.step = here.countStep.execute (.ofCell ((held x y).getD (-1))) >>= moveOn) ∧
      (here.mode = .text →
        here.step = (if held x y = some 34 then { here.countStep with mode := .command }
          else here.countStep.push ((held x y).getD 32)).moveOn)) ∧
    ∃ m', m.execute .store = .ok m' ∧
      m'.grid.width = m.grid.width ∧ m'.grid.height = m.grid.height ∧
      ∀ x y, m'.grid.fetch x y =
        if m.grid.SamePlace m.operands.x m.operands.y x y then some m.operands.value
        else m.grid.fetch x y := by
  intro new m held
  have hheld (x y : Int) : m.grid.fetch x y = held x y := by
    rw [grid_actions]
    exact Grid.fetch_storeAll_ofText t _ x y
  have hsize : m.grid.width = new.grid.width ∧ m.grid.height = new.grid.height := by
    rw [grid_actions]
    exact Grid.size_storeAll _ _
  refine ⟨hsize, fun x y => ?fetched, fun here x y hgrid hstands => ?stoodOn, execute_store m⟩
  case fetched =>
    rw [← hheld]
    exact execute_fetch_pushed m x y
  case stoodOn =>
    rw [← hheld, ← hgrid]
    exact ⟨hstands.step_of_ne_text, hstands.step_of_text⟩

/-- A digit is overwritten, under coordinates beyond the edges, with a quotation mark, which then
starts and ends text mode. -/
theorem reads_last_store_quotation :
    let m := (start (.ofText "1") (.buffer "") (.ofSeed none) none).actions
      [.call (.push 34), .call (.push 7), .call (.push (-5)), .execute .store]
    m.step = m.countStep.execute .quote >>= moveOn ∧
      ({ m with mode := .text } : Machine).step =
        ({ m.countStep with mode := .command } : Machine).moveOn := by
  intro m
  obtain ⟨-, -, hstood, -⟩ := reads_last_store "1" (.buffer "") (.ofSeed none) none
    [.call (.push 34), .call (.push 7), .call (.push (-5)), .execute .store]
  have hcommand : m.mode ≠ .text := by decide +kernel
  have hstands : m.StandsOn 0 0 := ⟨by decide +kernel, by decide +kernel, by decide +kernel⟩
  have hstands' : ({ m with mode := .text } : Machine).StandsOn 0 0 := { hstands with }
  exact ⟨(hstood m 0 0 rfl hstands).1 hcommand,
    (hstood { m with mode := .text } 0 0 rfl hstands').2 rfl⟩

end Funge93.Machine
