import Funge93.Grid.Layout
import Funge93.Proofs.Machine.Runs
import Funge93.Proofs.Machine.Simulation

/-!
# Cells that are never read

A program can only tell what its grid holds where a tick looks: at the position under the pointer,
and at the position of a fetch. This module proves that two grids which differ elsewhere lead to the
same run. A position that is overwritten before any tick looks at it may differ as well, and does
not differ any more afterwards.

Results:
1. `tick_apart`: a tick that looks at no position where two grids differ.
2. `ticked_apart`: any number of them, where stores shrink the set of positions that differ.
3. `unread_cells`: runs of new machines, and the skip, which does not look at the cell it skips.
-/

namespace Funge93

namespace Grid

/-- Two grids of the same size hold the same, blank positions included, at all positions that are
not in a set. -/
structure AgreeOff (D : Int × Int → Prop) (g g' : Grid) : Prop where
  width : g'.width = g.width
  height : g'.height = g.height
  read : ∀ col row, ¬ D (col, row) → g'.read col row = g.read col row

namespace AgreeOff

variable {D D' : Int × Int → Prop} {g g' : Grid}

theorem mono (h : AgreeOff D g g') (hD : ∀ p, D p → D' p) : AgreeOff D' g g' :=
  ⟨h.width, h.height, fun col row hp => h.read col row fun hd => hp (hD _ hd)⟩

/-- After the same store, two grids agree at its position as well. -/
theorem store (h : AgreeOff D g g') (x y : Int) (v : Cell) :
    AgreeOff (fun p => D p ∧ p ≠ g.wrap x y) (g.store x y v) (g'.store x y v) where
  width := h.width
  height := h.height
  read col row hp := by
    rw [read_store, read_store, wrap_congr h.width h.height]
    split
    · rfl
    · next other => exact h.read col row fun hd => hp ⟨hd, other⟩

theorem fetch (h : AgreeOff D g g') {x y : Int} (hp : ¬ D (g.wrap x y)) :
    g'.fetch x y = g.fetch x y := by
  have hread := h.read (g.wrap x y).1 (g.wrap x y).2 hp
  rw [read_wrap, ← wrap_congr h.width h.height, read_wrap] at hread
  exact Except.ok.inj hread

end AgreeOff

end Grid

/-- The grids agree off a set of positions, and all else is equal. -/
def Likeness.apart (D : Int × Int → Prop) : Likeness :=
  { equal with place := fun x y => x.1.AgreeOff D y.1 ∧ y.2 = x.2 }

theorem Likeness.kept_apart (D : Int × Int → Prop) : (apart D).Kept :=
  { kept_equal with
    advance := by
      rintro g g' col row _ _ ⟨hg, ⟨⟩⟩ d
      exact ⟨hg, by rw [Grid.step_congr hg.width hg.height]⟩ }

namespace Machine

/-- The positions that the next tick looks at. -/
def looksAt (m : Machine) : List (Int × Int) :=
  (if m.isRunning && m.countStep.exceeded?.isNone then [(m.col, m.row)] else []) ++
    if m.upcoming? = some .fetch then [m.grid.wrap m.second m.top] else []

/-- The position that the next tick overwrites, if it stores a cell. -/
def overwrites? (m : Machine) : Option (Int × Int) :=
  if m.upcoming? = some .store then some (m.grid.wrap m.second m.top) else none

/-- The positions that the next so many ticks overwrite. -/
def overwritten (m : Machine) (n : Nat) : List (Int × Int) :=
  (List.range n).filterMap fun i => (m.ticked i).overwrites?

variable {D : Int × Int → Prop} {m m' : Machine}

/-! ## Ticks -/

theorem eq_of_apart (h : Alike (.apart D) m m') : m' = { m with grid := m'.grid } := by
  have hplace : (m'.grid, m'.col, m'.row) = (m'.grid, m.col, m.row) :=
    congrArg (Prod.mk m'.grid) h.place.2
  exact eq_of_alike h hplace h.stack.symm h.console.symm h.clock.symm

theorem Alike.mono_apart {D' : Int × Int → Prop} (h : Alike (.apart D) m m')
    (hD : ∀ p, D p → D' p) : Alike (.apart D') m m' :=
  { h with place := ⟨h.place.1.mono hD, h.place.2⟩ }

theorem exceeded?_eq_of_apart (h : Alike (.apart D) m m') :
    m'.countStep.exceeded? = m.countStep.exceeded? := by
  rw [eq_of_apart h]
  rfl

/-- Within the budget, a running machine looks at the position under its pointer. -/
theorem pointer_mem_looksAt (hr : m.isRunning = true) (hb : m.countStep.exceeded? = none) :
    (m.col, m.row) ∈ m.looksAt := by
  unfold looksAt
  rw [hr, hb]
  exact List.mem_cons_self

theorem fetch_mem_looksAt (hi : m.upcoming? = some .fetch) :
    m.grid.wrap m.second m.top ∈ m.looksAt := by
  unfold looksAt
  rw [if_pos hi]
  exact List.mem_append_right _ List.mem_cons_self

/-- Where no tick looks at a difference, both machines stand on the same content. -/
theorem read_eq_of_apart (h : Alike (.apart D) m m') (hr : m.isRunning = true)
    (hb : m.countStep.exceeded? = none) (hp : ∀ p ∈ m.looksAt, ¬ D p) :
    m'.grid.read m'.col m'.row = m.grid.read m.col m.row := by
  obtain ⟨hc, hrow⟩ := Prod.mk.inj h.place.2
  rw [hc, hrow]
  exact h.place.1.read _ _ (hp _ (pointer_mem_looksAt hr hb))

theorem usesAlike_apart (h : Alike (.apart D) m m') {i : Instruction}
    (hi : i = .fetch → ¬ D (m.grid.wrap m.second m.top)) : UsesAlike (.apart D) m m' i := by
  have hconsole : m'.console = m.console := h.console.symm
  cases i with
  | writeNumber | writeChar | readNumber | readChar =>
    unfold UsesAlike
    rw [hconsole]
    exact ⟨rfl, rfl⟩
  | store => exact fun v => ⟨(h.place.1.store _ _ v).mono fun p hp => hp.1, h.place.2⟩
  | fetch => exact congrArg (Option.getD · 0) (h.place.1.fetch (hi rfl))
  | _ => trivial

theorem related_step_apart (h : Alike (.apart D) m m') (hr : m.isRunning = true)
    (hp : ∀ p ∈ m.looksAt, ¬ D p) : Related (Alike (.apart D)) m.step m'.step := by
  have hsame := exceeded?_eq_of_apart h
  cases hb : m.countStep.exceeded? with
  | some limit => exact related_step_of_spent (Likeness.kept_apart D) h hb (hsame.trans hb)
  | none =>
    refine related_step (Likeness.kept_apart D) h hr hsame
      (.of_eq (read_eq_of_apart h hr hb hp)) fun i hi => usesAlike_apart h ?_
    rintro rfl
    exact hp _ (fetch_mem_looksAt hi)

/-- The next tick of both machines executes the same instruction. -/
theorem upcoming?_eq_of_apart (h : Alike (.apart D) m m') (hp : ∀ p ∈ m.looksAt, ¬ D p) :
    m'.upcoming? = m.upcoming? := by
  cases hr : m.isRunning with
  | false => rw [upcoming?_of_stopped hr, upcoming?_of_stopped ((isRunning_eq h).trans hr)]
  | true =>
    have hsame := exceeded?_eq_of_apart h
    cases hb : m.countStep.exceeded? with
    | some limit => rw [upcoming?_of_spent hb, upcoming?_of_spent (hsame.trans hb)]
    | none => exact upcoming?_eq_of_alike h hsame (read_eq_of_apart h hr hb hp)

/-- What both machines overwrite does not differ any more. -/
theorem agreeOff_tick (h : Alike (.apart D) m m') (hp : ∀ p ∈ m.looksAt, ¬ D p) :
    Grid.AgreeOff (fun p => D p ∧ m.overwrites? ≠ some p) m.tick.1.grid m'.tick.1.grid := by
  rw [(effects_tick m).grid, (effects_tick m').grid, upcoming?_eq_of_apart h hp]
  by_cases hi : m.upcoming? = some .store
  · have hthird : m'.third = m.third := by
      rw [eq_of_apart h]
      rfl
    rw [hi]
    unfold gridAfter overwrites?
    rw [second_eq (Likeness.kept_apart D) h, top_eq (Likeness.kept_apart D) h, hthird, if_pos hi]
    refine (h.place.1.store m.second m.top m.third).mono fun p hd => ⟨hd.1, fun hsome => ?_⟩
    exact hd.2 (Option.some.inj hsome).symm
  · rw [gridAfter_of_ne_store hi, gridAfter_of_ne_store hi]
    refine h.place.1.mono fun p hd => ⟨hd, ?_⟩
    unfold overwrites?
    rw [if_neg hi]
    exact nofun

theorem tick_apart (h : Alike (.apart D) m m') (hp : ∀ p ∈ m.looksAt, ¬ D p) :
    Alike (.apart fun p => D p ∧ m.overwrites? ≠ some p) m.tick.1 m'.tick.1 ∧
      m'.tick.2 = m.tick.2 := by
  obtain ⟨hlike, hmisuse⟩ := tick_alike h fun hr => related_step_apart h hr hp
  exact ⟨{ hlike with place := ⟨agreeOff_tick h hp, hlike.place.2⟩ }, hmisuse⟩

/-! ## Runs -/

theorem overwritten_succ (m : Machine) (n : Nat) :
    m.overwritten (n + 1) = m.overwritten n ++ (m.ticked n).overwrites?.toList :=
  filterMap_ticked_succ overwrites? m n

/-- Ticks that look at a difference only where it has been overwritten. -/
theorem ticked_apart (h : Alike (.apart D) m m') {n : Nat}
    (hn : ∀ i < n, ∀ p ∈ (m.ticked i).looksAt, D p → p ∈ m.overwritten i) :
    Alike (.apart fun p => D p ∧ p ∉ m.overwritten n) (m.ticked n) (m'.ticked n) := by
  induction n with
  | zero => exact h.mono_apart fun p hd => ⟨hd, List.not_mem_nil⟩
  | succ n ih =>
    -- What has been overwritten so far does not differ any more, so the next tick may look at it.
    have hlike := ih fun i hi => hn i (Nat.lt_succ_of_lt hi)
    have hp : ∀ p ∈ (m.ticked n).looksAt, ¬ (D p ∧ p ∉ m.overwritten n) :=
      fun p hlook hd => hd.2 (hn n (Nat.lt_succ_self n) p hlook hd.1)
    rw [ticked_succ, ticked_succ]
    refine (tick_apart hlike hp).1.mono_apart fun p hd => ⟨hd.1.1, ?_⟩
    rw [overwritten_succ, List.mem_append, Option.mem_toList]
    exact not_or.mpr ⟨hd.1.2, hd.2⟩

theorem looksAt_of_skip (hi : m.upcoming? = some .skip) : m.looksAt = [(m.col, m.row)] := by
  obtain ⟨-, hb, -⟩ := read_of_upcoming hi
  unfold looksAt
  rw [isRunning_of_upcoming hi, hb, hi]
  rfl

/-- A skip depends on the cell under the pointer and on no other cell, so not on the one that it
skips. -/
theorem tick_skip (hi : m.upcoming? = some .skip) {g : Grid} (hw : g.width = m.grid.width)
    (hh : g.height = m.grid.height) (hread : g.read m.col m.row = m.grid.read m.col m.row) :
    ({ m with grid := g } : Machine).tick = ({ m.tick.1 with grid := g }, m.tick.2) := by
  have hagree : m.grid.AgreeOff (· ≠ (m.col, m.row)) g := by
    refine ⟨hw, hh, fun col row hp => ?_⟩
    obtain ⟨rfl, rfl⟩ := Prod.mk.inj (Classical.not_not.mp hp)
    exact hread
  have hlike : Alike (.apart (· ≠ (m.col, m.row))) m { m with grid := g } :=
    ⟨⟨hagree, rfl⟩, rfl, rfl, rfl, rfl, rfl, rfl, rfl⟩
  have hlook : ∀ p ∈ m.looksAt, ¬ p ≠ (m.col, m.row) := by
    rw [looksAt_of_skip hi]
    exact fun p hp => not_not_intro (List.mem_singleton.mp hp)
  obtain ⟨hafter, hmisuse⟩ := tick_apart hlike hlook
  have hgrid : ({ m with grid := g } : Machine).tick.1.grid = g := by
    rw [(effects_tick _).grid, upcoming?_eq_of_apart hlike hlook, hi]
    rfl
  refine Prod.ext ?_ hmisuse
  rw [eq_of_apart hafter, hgrid]

/-- Take two grids of the same size that differ only at some positions, and two new machines that
differ only in these grids. Suppose that on the first grid no tick looks at one of the positions,
unless an earlier tick overwrote it. Then the two machines agree after every tick in everything but
the grid, each tick ends in the same misuse or in none, and the grids agree at all other positions
and at those that were overwritten. A skip does not look at the cell that it skips: its tick is the
same on every grid of the same size that holds the same under the pointer. -/
theorem unread_cells (g g' : Grid) (D : Int × Int → Prop) (hg : g.AgreeOff D g')
    (console : Console) (draws : Draws) (maxSteps : Option Int) (n : Nat) :
    let m := start g console draws maxSteps
    let m' := start g' console draws maxSteps
    (∀ i < n, ∀ p ∈ (m.ticked i).looksAt, D p → p ∈ m.overwritten i) →
      m'.ticked n = { m.ticked n with grid := (m'.ticked n).grid } ∧
      (∀ i < n, (m'.ticked i).tick.2 = (m.ticked i).tick.2) ∧
      (m'.ticked n).grid.width = (m.ticked n).grid.width ∧
      (m'.ticked n).grid.height = (m.ticked n).grid.height ∧
      (∀ col row, ¬ D (col, row) ∨ (col, row) ∈ m.overwritten n →
        (m'.ticked n).grid.read col row = (m.ticked n).grid.read col row) ∧
      ∀ here : Machine, here.upcoming? = some .skip →
        here.looksAt = [(here.col, here.row)] ∧
        ∀ other : Grid, other.width = here.grid.width → other.height = here.grid.height →
          other.read here.col here.row = here.grid.read here.col here.row →
          ({ here with grid := other } : Machine).tick =
            ({ here.tick.1 with grid := other }, here.tick.2) := by
  intro m m' hn
  have hstart : Alike (.apart D) m m' := ⟨⟨hg, rfl⟩, rfl, rfl, rfl, rfl, rfl, rfl, rfl⟩
  have hlike := ticked_apart hstart hn
  refine ⟨eq_of_apart hlike, fun i hi => ?_, hlike.place.1.width, hlike.place.1.height,
    fun col row hp => ?_,
    fun here hi => ⟨looksAt_of_skip hi, fun other hw hh hread => tick_skip hi hw hh hread⟩⟩
  · have hbefore := ticked_apart hstart fun j hj => hn j (Nat.lt_trans hj hi)
    exact (tick_apart hbefore fun p hlook hd => hd.2 (hn i hi p hlook hd.1)).2
  · exact hlike.place.1.read col row fun hd => hp.elim (· hd.1) hd.2

/-- A skip passes over one difference, and a store overwrites the other with the halt before the
program reaches it. -/
theorem unread_cells_skipped_and_overwritten :
    let g := Grid.ofLines ["\"@\"80p#", "         "]
    let g' := (g.store 7 0 122).store 8 0 44
    let m' := start g' (.buffer "") (.ofSeed none) none
    (m'.ticked 8).status = .halted ∧ (m'.ticked 8).grid.read 8 0 = .ok (some 64) := by
  intro g g' m'
  have hg : g.AgreeOff (fun p => p = (7, 0) ∨ p = (8, 0)) g' := by
    refine ⟨rfl, rfl, fun col row hp => ?_⟩
    obtain ⟨hskipped, hstored⟩ := not_or.mp hp
    have hfirst : g.wrap 7 0 = (7, 0) := by decide +kernel
    have hsecond : (g.store 7 0 122).wrap 8 0 = (8, 0) := by decide +kernel
    rw [Grid.read_store, Grid.read_store, hfirst, hsecond, if_neg hstored, if_neg hskipped]
  obtain ⟨hsame, -, -, -, hread, -⟩ := unread_cells g g' _ hg (.buffer "") (.ofSeed none) none 8
    (by decide +kernel)
  refine ⟨?_, (hread 8 0 (.inr (by decide +kernel))).trans ?_⟩
  · rw [hsame]
    decide +kernel
  · rw [Grid.read_of_inBounds (by decide +kernel)]
    exact congrArg _ (by decide +kernel)

end Machine

end Funge93
