import Funge93.Proofs.Grid.Shift
import Funge93.Proofs.Machine.Counting
import Funge93.Proofs.Machine.SelfModification

/-!
# Instructions that a program lacks

A program can only execute what its grid holds. Since it can rewrite its grid, this means what the
grid was loaded with and what the program stored in it. This module proves that an instruction that
is in neither is never executed, and that its effects never occur.

Results:
1. `grid_ticked`: the grid is the loaded one with the stores that the program executed.
2. `upcoming?_ticked_ne`: an instruction that was neither loaded nor stored does not come up.
3. `absent_instructions`: what does not happen without the instructions that cause it.
-/

namespace Funge93

/-- Some position of the grid holds the value. -/
def Grid.Holds (g : Grid) (v : Cell) : Prop :=
  ∃ col, col < g.width ∧ ∃ row, row < g.height ∧ g.cell col row = some v

instance (g : Grid) (v : Cell) : Decidable (g.Holds v) :=
  inferInstanceAs (Decidable (∃ col, col < g.width ∧ ∃ row, row < g.height ∧ _))

theorem Grid.holds_of_fetch {g : Grid} {x y : Int} {v : Cell} (h : g.fetch x y = some v) :
    g.Holds v :=
  ⟨_, (g.wrap_lt x y).1, _, (g.wrap_lt x y).2, h⟩

/-- What stores put on the grid is one of their values. -/
theorem Grid.mem_of_latest? {g : Grid} {stores : List Store} {x y : Int} {v : Cell}
    (h : g.latest? stores x y = some v) : ∃ s ∈ stores, s.value = v := by
  obtain ⟨s, hlast, hv⟩ := Option.map_eq_some_iff.mp h
  exact ⟨s, (List.mem_filter.mp (List.mem_of_getLast? hlast)).1, hv⟩

namespace Machine

/-- The stores that so many ticks execute. -/
def storesIn (m : Machine) (n : Nat) : List Store :=
  (List.range n).filterMap fun k => (m.ticked k).storeOf (.call .tick)

/-- The instruction is neither on the grid nor among the values that so many ticks store there. -/
def Lacks (m : Machine) (n : Nat) (i : Instruction) : Prop :=
  ¬ m.grid.Holds i.opcode ∧ ∀ s ∈ m.storesIn n, s.value ≠ i.opcode

variable {m : Machine} {i : Instruction} {n k : Nat}

/-- What holds at the start and is kept by each of so many ticks holds after them. -/
theorem ticked_induction {P : Machine → Prop} (h : P m)
    (htick : ∀ k < n, P (m.ticked k) → P (m.ticked k).tick.1) : P (m.ticked n) := by
  induction n with
  | zero => exact h
  | succ n ih =>
    rw [ticked_succ]
    exact htick n (Nat.lt_succ_self n) (ih fun k hk => htick k (Nat.lt_succ_of_lt hk))

/-! ## The grid -/

theorem storesIn_succ (m : Machine) (n : Nat) :
    m.storesIn (n + 1) = m.storesIn n ++ ((m.ticked n).storeOf (.call .tick)).toList :=
  filterMap_ticked_succ (storeOf · (.call .tick)) m n

theorem storesIn_subset (m : Machine) (h : k ≤ n) : m.storesIn k ⊆ m.storesIn n :=
  (List.Sublist.filterMap _ (List.range_sublist.mpr h)).subset

theorem grid_ticked (m : Machine) (n : Nat) :
    (m.ticked n).grid = m.grid.storeAll (m.storesIn n) := by
  induction n with
  | zero => rfl
  | succ n ih =>
    rw [ticked_succ, storesIn_succ, Grid.storeAll_append, ← ih]
    exact grid_acted (m.ticked n) (.call .tick)

/-! ## What comes up -/

/-- An instruction that comes up is on the grid. -/
theorem fetch_of_upcoming (hi : m.upcoming? = some i) (hne : i ≠ .idle) :
    m.grid.fetch m.col m.row = some i.opcode := by
  obtain ⟨-, -, content, hread, hcell⟩ := read_of_upcoming hi
  have hinside : m.grid.inBounds m.col m.row = true := by
    cases hb : m.grid.inBounds m.col m.row with
    | true => rfl
    | false =>
      unfold Grid.read at hread
      rw [hb, if_neg Bool.false_ne_true] at hread
      cases hread
  rw [Grid.read_eq_fetch hinside] at hread
  cases hread
  cases hcontent : m.grid.fetch m.col m.row with
  | none =>
    -- A blank position stands for the idle instruction.
    rw [hcontent] at hcell
    exact absurd hcell.symm hne
  | some v =>
    rw [hcontent] at hcell
    exact congrArg some ((Instruction.ofCell_eq_iff hne).mp hcell)

theorem upcoming?_ticked_ne (hne : i ≠ .idle) (h : m.Lacks n i) (hk : k ≤ n) :
    (m.ticked k).upcoming? ≠ some i := by
  intro hi
  have hfetch := fetch_of_upcoming hi hne
  rw [grid_ticked, Grid.fetch_storeAll, Option.or_eq_some_iff] at hfetch
  rcases hfetch with hstored | ⟨-, hloaded⟩
  · obtain ⟨s, hs, hv⟩ := Grid.mem_of_latest? hstored
    exact h.2 s (storesIn_subset m hk hs) hv
  · exact h.1 (Grid.holds_of_fetch hloaded)

/-- Without a store instruction on the grid, none ever gets there. -/
theorem storesIn_eq_nil (h : ¬ m.grid.Holds Instruction.store.opcode) (n : Nat) :
    m.storesIn n = [] := by
  induction n with
  | zero => rfl
  | succ n ih =>
    have hlacks : m.Lacks n .store := ⟨h, by rw [ih]; nofun⟩
    have hnone : (m.ticked n).storeOf (.call .tick) = none :=
      if_neg (upcoming?_ticked_ne (by decide) hlacks (Nat.le_refl n))
    rw [storesIn_succ, ih, hnone]
    rfl

/-! ## What does not happen -/

/-- An event whose instructions are all lacking is not counted. -/
theorem number_ticked_of_lacks {g : Grid} (hm : Invariant g m) (hc : m.console.InMemory) {e : Event}
    (hstep : e ≠ .step) (h : ∀ i ∈ e.instructions, m.Lacks n i) :
    (m.ticked n).counters.number e = m.counters.number e := by
  refine ticked_induction (P := fun m' => m'.counters.number e = m.counters.number e) rfl
    fun k hk hsame => ?_
  have hinv : Invariant g (m.ticked k) := ticked_keeps (fun h => h.tick.1) hm k
  refine (number_tick_of_ne hinv (inMemory_ticked hc k) hstep fun i hi => ?_).trans hsame
  have hne : i ≠ .idle := by
    rintro rfl
    cases e <;> exact absurd hi (by decide)
  exact upcoming?_ticked_ne hne (h i hi) (Nat.le_of_lt hk)

/-- Take any program on a new machine with any input in memory and any random source, and let it
tick as often as you like. Without a store instruction on the grid, the grid stays as it was loaded.
An instruction that is neither on the grid nor among the values stored so far was not executed, and
so nothing happened that only it can cause. -/
theorem absent_instructions (grid : Grid) (t : Text) (draws : Draws) (maxSteps : Option Int)
    (n : Nat) :
    let m := start grid (.buffer t) draws maxSteps
    let now := m.ticked n
    (¬ grid.Holds Instruction.store.opcode → now.grid = grid ∧ now.counters.stores = 0) ∧
      (∀ i ≠ .idle, m.Lacks n i → ∀ k ≤ n, (m.ticked k).upcoming? ≠ some i) ∧
      (m.Lacks n .halt → now.status ≠ .halted) ∧
      (m.Lacks n .writeChar → ∀ f, now.status = .faulted f → f.isOutput = false) ∧
      (m.Lacks n .writeNumber → m.Lacks n .writeChar →
        now.counters.writes = 0 ∧ now.console.written = []) ∧
      (m.Lacks n .readNumber → m.Lacks n .readChar →
        now.counters.reads = 0 ∧ now.console.unread = t) ∧
      (m.Lacks n .turnRandomly → now.draws = draws) ∧
      (m.Lacks n .fetch → now.counters.fetches = 0) := by
  intro m now
  have hm : Invariant grid m := .start grid (.buffer t) draws maxSteps
  have hc : m.console.InMemory := Console.inMemory_buffer t
  have hother {i : Instruction} (hne : i ≠ .idle) (h : m.Lacks n i) {k : Nat} (hk : k < n) :
      (m.ticked k).upcoming? ≠ some i := upcoming?_ticked_ne hne h (Nat.le_of_lt hk)
  have hboth {a b : Instruction} (ha : m.Lacks n a) (hb : m.Lacks n b) :
      ∀ i ∈ [a, b], m.Lacks n i :=
    List.forall_mem_cons.mpr ⟨ha, List.forall_mem_singleton.mpr hb⟩
  refine ⟨fun h => ?stores, fun i hne h k hk => upcoming?_ticked_ne hne h hk,
    fun h => ?halting, fun h => ?outputFaults, fun hn hch => ?writes, fun hn hch => ?reads,
    fun h => ?turns, fun h => ?fetches⟩
  case stores =>
    have hstores : m.storesIn n = [] := storesIn_eq_nil h n
    have hlacks : m.Lacks n .store := ⟨h, by rw [hstores]; nofun⟩
    have hgrid : now.grid = grid := (grid_ticked m n).trans (congrArg grid.storeAll hstores)
    exact ⟨hgrid, number_ticked_of_lacks hm hc (e := .store) nofun
      (List.forall_mem_singleton.mpr hlacks)⟩
  case halting =>
    exact ticked_induction (P := fun m' => m'.status ≠ .halted) nofun fun k hk =>
      halted_tick (ticked_keeps (fun h => h.tick.1) hm k) (inMemory_ticked hc k)
        (hother (by decide) h hk)
  case outputFaults =>
    exact ticked_induction (P := fun m' => ∀ f, m'.status = .faulted f → f.isOutput = false) nofun
      fun k hk => outputFault_tick (inMemory_ticked hc k) (hother (by decide) h hk)
  case writes =>
    refine ⟨number_ticked_of_lacks hm hc (e := .write) nofun (hboth hn hch), ?_⟩
    exact ticked_induction (P := fun m' => m'.console.written = []) rfl fun k hk hsame =>
      (written_tick_of_ne (hother (by decide) hn hk) (hother (by decide) hch hk)).trans hsame
  case reads =>
    refine ⟨number_ticked_of_lacks hm hc (e := .read) nofun (hboth hn hch), ?_⟩
    exact ticked_induction (P := fun m' => m'.console.unread = t) rfl fun k hk hsame =>
      (unread_tick_of_ne (hother (by decide) hn hk) (hother (by decide) hch hk)).trans hsame
  case turns =>
    refine ticked_induction (P := fun m' => m'.draws = draws) rfl fun k hk hsame => ?_
    rw [draws_tick, randomTurnsAhead, if_neg (hother (by decide) h hk)]
    exact hsame
  case fetches =>
    exact number_ticked_of_lacks hm hc (e := .fetch) nofun (List.forall_mem_singleton.mpr h)

/-- A program that stores the number ten over its first digit, and a program that stores nothing. -/
theorem absent_instructions_overwritten_digit :
    let m := start (.ofText "25*00p") (.buffer "7") (.cycle [0]) none
    let printing := start (.ofText "1.") (.buffer "") (.cycle [0]) none
    (m.storesIn 9 = [⟨10, 0, 0⟩] ∧ (∀ k ≤ 9, (m.ticked k).upcoming? ≠ some .halt) ∧
      (m.ticked 9).status ≠ .halted ∧ (∀ f, (m.ticked 9).status = .faulted f → f.isOutput = false) ∧
      (m.ticked 9).counters.writes = 0 ∧ (m.ticked 9).console.unread = "7" ∧
      (m.ticked 9).counters.fetches = 0 ∧ (m.ticked 9).draws = .cycle [0]) ∧
    (printing.ticked 5).grid = .ofText "1." := by
  intro m printing
  have hstores : m.storesIn 9 = [⟨10, 0, 0⟩] := by decide +kernel
  have hlacks (i : Instruction)
      (hi : i ∈ [.halt, .writeNumber, .writeChar, .readNumber, .readChar, .turnRandomly, .fetch]) :
      m.Lacks 9 i := by
    have habsent : ¬ m.grid.Holds i.opcode ∧ (10 : Cell) ≠ i.opcode := by
      revert i
      decide +kernel
    refine ⟨habsent.1, ?_⟩
    rw [hstores]
    exact List.forall_mem_singleton.mpr habsent.2
  have hrun := absent_instructions (.ofText "25*00p") "7" (.cycle [0]) none 9
  have hm : start (.ofText "25*00p") (.buffer "7") (.cycle [0]) none = m := rfl
  rw [hm] at hrun
  obtain ⟨-, hnever, hhalted, hfault, hwritten, hread, hdrawn, hfetched⟩ := hrun
  have hkept := (absent_instructions (.ofText "1.") "" (.cycle [0]) none 5).1 (by decide +kernel)
  have hhalt := hlacks .halt (by decide)
  have hchar := hlacks .writeChar (by decide)
  have hwrites := (hwritten (hlacks .writeNumber (by decide)) hchar).1
  have hunread := (hread (hlacks .readNumber (by decide)) (hlacks .readChar (by decide))).2
  exact ⟨⟨hstores, hnever .halt (by decide) hhalt, hhalted hhalt, hfault hchar, hwrites, hunread,
    hfetched (hlacks .fetch (by decide)), hdrawn (hlacks .turnRandomly (by decide))⟩, hkept.1⟩

end Machine

end Funge93
