import Funge93.Proofs.Machine.Upcoming

/-!
# Two machines in lockstep

Two machines that differ in some of their parts often do the same. This module proves that once for
all such cases. A `Likeness` says when the parts of two machines are alike, and two machines are
`Alike` if their parts are and they agree in the rest. An instruction only looks at a stack by
peeking, at a clock by counting, and so on, so a likeness that these few operations keep
(`Likeness.Kept`) is kept by instructions, steps, ticks and runs.

Results:
1. `related_execute`: an instruction keeps the likeness, if the devices or the grid positions that
   it uses are alike.
2. `tick_alike`, `ticked_alike`: so do ticks and any number of them, and both machines end each
   tick in the same misuse or in none.
3. `run_alike_of_blind`: where a likeness needs no condition, whole runs keep it.
4. `tick_onConsole`: for machines that differ in their consoles, only the calls on them matter.
-/

namespace Funge93

/-- What a machine counts. -/
inductive Event
  | step | store | fetch | read | write
deriving DecidableEq, Repr

/-- The counters after one event. -/
def Counters.count (c : Counters) : Event → Counters
  | .step => { c with steps := c.steps + 1 }
  | .store => { c with stores := c.stores + 1 }
  | .fetch => { c with fetches := c.fetches + 1 }
  | .read => { c with reads := c.reads + 1 }
  | .write => { c with writes := c.writes + 1 }

/-- When the parts of two machines are alike: the grids with the pointers on them, the stacks, the
consoles, and the step budgets with the counters. -/
structure Likeness where
  place : Grid × Int × Int → Grid × Int × Int → Prop
  stack : Stack → Stack → Prop
  console : Console → Console → Prop
  clock : Option Int × Counters → Option Int × Counters → Prop

namespace Likeness

/-- Parts are alike only if they are equal. -/
def equal : Likeness := ⟨Eq, Eq, Eq, Eq⟩

/-- The operations that every machine goes through keep a likeness. -/
structure Kept (L : Likeness) : Prop where
  advance : ∀ {g g' col row col' row'}, L.place (g, col, row) (g', col', row') → ∀ d,
    L.place (g, g.step col row d) (g', g'.step col' row' d)
  peek : ∀ {s s'}, L.stack s s' → s'.peek = s.peek
  discard : ∀ {s s'}, L.stack s s' → L.stack s.discard s'.discard
  push : ∀ {s s'}, L.stack s s' → ∀ v, L.stack (s.push v) (s'.push v)
  count : ∀ {b b' c c'}, L.clock (b, c) (b', c') → ∀ e,
    L.clock (b, c.count e) (b', c'.count e)

theorem Kept.duplicate {L : Likeness} (hL : L.Kept) {s s' : Stack} (h : L.stack s s') :
    L.stack s.duplicate s'.duplicate := by
  show L.stack ((s.discard.push s.peek).push s.peek) ((s'.discard.push s'.peek).push s'.peek)
  rw [hL.peek h]
  exact hL.push (hL.push (hL.discard h) _) _

theorem Kept.swap {L : Likeness} (hL : L.Kept) {s s' : Stack} (h : L.stack s s') :
    L.stack s.swap s'.swap := by
  show L.stack ((s.discard.discard.push s.peek).push s.discard.peek)
    ((s'.discard.discard.push s'.peek).push s'.discard.peek)
  rw [hL.peek h, hL.peek (hL.discard h)]
  exact hL.push (hL.push (hL.discard (hL.discard h)) _) _

theorem kept_equal : equal.Kept where
  advance := by
    rintro _ _ _ _ _ _ ⟨⟩ d
    rfl
  peek := by
    rintro _ _ ⟨⟩
    rfl
  discard h := congrArg Stack.discard h
  push h v := congrArg (Stack.push · v) h
  count := by
    rintro _ _ _ _ ⟨⟩ e
    rfl

/-- Two calls on consoles give the same answer and leave consoles that are alike. -/
def SameAnswer {α : Type} (L : Likeness) (r r' : α × Console) : Prop :=
  r'.1 = r.1 ∧ L.console r.2 r'.2

end Likeness

namespace Machine

/-- The parts of two machines are alike, and the machines agree in the rest. -/
structure Alike (L : Likeness) (m m' : Machine) : Prop where
  place : L.place (m.grid, m.col, m.row) (m'.grid, m'.col, m'.row)
  stack : L.stack m.stack m'.stack
  console : L.console m.console m'.console
  clock : L.clock (m.maxSteps, m.counters) (m'.maxSteps, m'.counters)
  draws : m'.draws = m.draws
  heading : m'.heading = m.heading
  mode : m'.mode = m.mode
  status : m'.status = m.status

/-- The devices or grid positions that an instruction uses are alike for two machines. -/
def UsesAlike (L : Likeness) (m m' : Machine) : Instruction → Prop
  | .writeNumber =>
    L.SameAnswer (m.console.writeNumber m.top) (m'.console.writeNumber m.top)
  | .writeChar =>
    L.SameAnswer (m.console.writeChar m.top) (m'.console.writeChar m.top)
  | .readNumber => L.SameAnswer m.console.readNumber m'.console.readNumber
  | .readChar => L.SameAnswer m.console.readChar m'.console.readChar
  | .store => ∀ v,
    L.place (m.grid.store m.second m.top v, m.col, m.row)
      (m'.grid.store m.second m.top v, m'.col, m'.row)
  | .fetch =>
    (m'.grid.fetch m.second m.top).getD 0 =
      (m.grid.fetch m.second m.top).getD 0
  | _ => True

/-- Two results of the same kind, with the same failure, that leave machines in a relation. -/
inductive Related (R : Machine → Machine → Prop) :
    Except Interruption Machine → Except Interruption Machine → Prop
  | ok {m m' : Machine} : R m m' → Related R (.ok m) (.ok m')
  | error {e : Failure} {m m' : Machine} : R m m' →
      Related R (.error ⟨e, m⟩) (.error ⟨e, m'⟩)

/-- Two contents do the same in both modes when the pointer stands on them. -/
structure SameCell (content content' : Option Cell) : Prop where
  instruction : Instruction.ofCell (content'.getD Grid.blankValue) =
    Instruction.ofCell (content.getD Grid.blankValue)
  quote : content' = some quotationMark ↔ content = some quotationMark
  text : content'.getD spaceCell = content.getD spaceCell

/-- Two reads fail in the same way or give contents that do the same. -/
inductive SameContent : Except Fault (Option Cell) → Except Fault (Option Cell) → Prop
  | ok {content content' : Option Cell} : SameCell content content' →
      SameContent (.ok content) (.ok content')
  | error {f : Fault} : SameContent (.error f) (.error f)

theorem SameContent.of_eq {r r' : Except Fault (Option Cell)} (h : r' = r) : SameContent r r' := by
  subst h
  cases r' with
  | error f => exact .error
  | ok content => exact .ok ⟨rfl, Iff.rfl, rfl⟩

variable {L : Likeness} {m m' : Machine}

/-! ## Instructions -/

theorem top_eq (hL : L.Kept) (h : Alike L m m') : m'.top = m.top :=
  congrArg Int64.toInt (hL.peek h.stack)

theorem second_eq (hL : L.Kept) (h : Alike L m m') : m'.second = m.second :=
  congrArg Int64.toInt (hL.peek (hL.discard h.stack))

theorem alike_combine (hL : L.Kept) (h : Alike L m m') (f : Cell → Cell → Cell) :
    Alike L (m.combine f) (m'.combine f) :=
  { h with
    stack := by
      show L.stack (m.stack.discard.discard.push (f m.stack.discard.peek m.stack.peek))
        (m'.stack.discard.discard.push (f m'.stack.discard.peek m'.stack.peek))
      rw [hL.peek h.stack, hL.peek (hL.discard h.stack)]
      exact hL.push (hL.discard (hL.discard h.stack)) _ }

theorem alike_branch (hL : L.Kept) (h : Alike L m m') (zero other : Direction) :
    Alike L (m.branch zero other) (m'.branch zero other) :=
  { h with
    stack := hL.discard h.stack
    heading := by
      show Heading.toward (if m'.stack.peek = 0 then zero else other) =
        .toward (if m.stack.peek = 0 then zero else other)
      rw [hL.peek h.stack] }

theorem alike_push (hL : L.Kept) (h : Alike L m m') (v : Cell) :
    Alike L (m.push v) (m'.push v) :=
  { h with stack := hL.push h.stack v }

theorem related_advance (hL : L.Kept) (h : Alike L m m') :
    Related (Alike L) m.advance m'.advance := by
  unfold advance
  rw [h.heading]
  cases hh : m.heading with
  | toward d => exact .ok { h with place := hL.advance h.place d, heading := rfl }
  | stray code => exact .error h

theorem related_turnRandomly (h : Alike L m m') :
    Related (Alike L) m.turnRandomly m'.turnRandomly := by
  have drawn : Alike L { m with draws := m.draws.next.2 } { m' with draws := m.draws.next.2 } :=
    { h with draws := rfl }
  unfold turnRandomly
  rw [h.draws]
  dsimp only
  cases Direction.ofDraw? m.draws.next.1 with
  | some d => exact .ok { drawn with heading := rfl }
  | none => exact .error drawn

theorem related_store (hL : L.Kept) (h : Alike L m m') (hu : UsesAlike L m m' .store) :
    Related (Alike L) m.store m'.store := by
  have hv : m'.stack.discard.discard.peek = m.stack.discard.discard.peek :=
    hL.peek (hL.discard (hL.discard h.stack))
  rw [store_eq, store_eq, second_eq hL h, top_eq hL h, hv]
  exact .ok { h with
    stack := hL.discard (hL.discard (hL.discard h.stack))
    place := hu _
    clock := hL.count h.clock .store }

theorem related_fetch (hL : L.Kept) (h : Alike L m m') (hu : UsesAlike L m m' .fetch) :
    Related (Alike L) m.fetch m'.fetch := by
  rw [fetch_eq, fetch_eq, second_eq hL h, top_eq hL h,
    show (m'.grid.fetch m.second m.top).getD 0 = _ from hu]
  exact .ok { h with
    stack := hL.push (hL.discard (hL.discard h.stack)) _
    clock := hL.count h.clock .fetch }

theorem related_write (hL : L.Kept) (h : Alike L m m')
    {how : Console → Int → Option Failure × Console}
    (hu : L.SameAnswer (how m.console m.top) (how m'.console m.top)) :
    Related (Alike L) (m.write how) (m'.write how) := by
  have hy : m'.stack.peek.toInt = m.top := top_eq hL h
  obtain ⟨he, hc⟩ := hu
  have written : Alike L { m with stack := m.stack.discard, console := (how m.console m.top).2 }
      { m' with stack := m'.stack.discard, console := (how m'.console m.top).2 } :=
    { h with stack := hL.discard h.stack, console := hc }
  unfold write
  simp only [Stack.pop]
  rw [hy, he]
  cases hr : (how m.console m.top).1 with
  | none =>
    rw [show (how m.console m.stack.peek.toInt).1 = none from hr]
    exact .ok { written with clock := hL.count h.clock .write }
  | some e =>
    rw [show (how m.console m.stack.peek.toInt).1 = some e from hr]
    exact .error written

theorem related_read (hL : L.Kept) (h : Alike L m m')
    {how : Console → Except Failure (Option Cell) × Console} (atEnd : Cell)
    (hu : L.SameAnswer (how m.console) (how m'.console)) :
    Related (Alike L) (m.read how atEnd) (m'.read how atEnd) := by
  obtain ⟨he, hc⟩ := hu
  have asked : Alike L { m with console := (how m.console).2 }
      { m' with console := (how m'.console).2 } := { h with console := hc }
  unfold read
  dsimp only
  rw [he]
  cases (how m.console).1 with
  | ok v =>
    exact .ok { asked with stack := hL.push h.stack _, clock := hL.count h.clock .read }
  | error e => exact .error asked

theorem sameAnswer_readCharCell {c c' : Console} (h : L.SameAnswer c.readChar c'.readChar) :
    L.SameAnswer (readCharCell c) (readCharCell c') :=
  ⟨congrArg (Except.map _) h.1, h.2⟩

/-- An instruction keeps a likeness. -/
theorem related_execute (hL : L.Kept) (h : Alike L m m') {i : Instruction}
    (hu : UsesAlike L m m' i) : Related (Alike L) (m.execute i) (m'.execute i) := by
  cases i with
  | digit d => exact .ok (alike_push hL h _)
  | add | subtract | multiply | divide | remainder | greater => exact .ok (alike_combine hL h _)
  | negate =>
    refine .ok { h with stack := ?_ }
    show L.stack (m.stack.discard.push (Cell.ofBool (m.stack.peek == 0)))
      (m'.stack.discard.push (Cell.ofBool (m'.stack.peek == 0)))
    rw [hL.peek h.stack]
    exact hL.push (hL.discard h.stack) _
  | turn d => exact .ok { h with heading := rfl }
  | turnRandomly => exact related_turnRandomly h
  | branchHorizontally | branchVertically => exact .ok (alike_branch hL h _ _)
  | quote => exact .ok { h with mode := rfl }
  | duplicate => exact .ok { h with stack := hL.duplicate h.stack }
  | swap => exact .ok { h with stack := hL.swap h.stack }
  | discard => exact .ok { h with stack := hL.discard h.stack }
  | writeNumber => exact related_write hL h hu
  | writeChar => exact related_write hL h hu
  | skip => exact related_advance hL h
  | store => exact related_store hL h hu
  | fetch => exact related_fetch hL h hu
  | readNumber => exact related_read hL h 0 hu
  | readChar => exact related_read hL h (-1) (sameAnswer_readCharCell hu)
  | halt => exact .ok { h with status := rfl }
  | idle => exact .ok h

/-- Where the parts of two machines that are alike are known, so is the whole machine. -/
theorem eq_of_alike (h : Alike L m m') {place : Grid × Int × Int} {stack : Stack}
    {console : Console} {clock : Option Int × Counters} (hp : (m'.grid, m'.col, m'.row) = place)
    (hs : m'.stack = stack) (hc : m'.console = console)
    (ht : (m'.maxSteps, m'.counters) = clock) :
    m' = { m with
      grid := place.1, col := place.2.1, row := place.2.2, stack, console,
      maxSteps := clock.1, counters := clock.2 } := by
  subst hp hs hc ht
  rw [← h.draws, ← h.heading, ← h.mode, ← h.status]

/-- Where a likeness lets neither grids nor consoles differ, all that instructions use is alike. -/
theorem usesAlike_of_eq (hp : L.place = Eq) (hc : L.console = Eq) (h : Alike L m m')
    (i : Instruction) : UsesAlike L m m' i := by
  have hplace : (m.grid, m.col, m.row) = (m'.grid, m'.col, m'.row) := hp ▸ h.place
  have hconsole : m.console = m'.console := hc ▸ h.console
  rw [eq_of_alike h hplace.symm rfl hconsole.symm rfl]
  cases i with
  | writeNumber | writeChar | readNumber | readChar => exact ⟨rfl, hc ▸ rfl⟩
  | store => exact fun v => hp ▸ rfl
  | fetch => exact rfl
  | _ => trivial

/-! ## Steps and ticks -/

theorem alike_countStep (hL : L.Kept) (h : Alike L m m') :
    Alike L m.countStep m'.countStep :=
  { h with clock := hL.count h.clock .step }

/-- Counting a step touches nothing that an instruction uses. -/
theorem usesAlike_countStep {i : Instruction} (hu : UsesAlike L m m' i) :
    UsesAlike L m.countStep m'.countStep i := by
  cases i <;> exact hu

/-- Two machines push the same, or both end text mode. -/
theorem alike_pushText (hL : L.Kept) (h : Alike L m m') {content content' : Option Cell}
    (hc : SameCell content content') : Alike L (m.pushText content) (m'.pushText content') := by
  unfold pushText
  by_cases hq : content = some quotationMark
  · rw [if_pos hq, if_pos (hc.quote.mpr hq)]
    exact { h with mode := rfl }
  · rw [if_neg hq, if_neg fun hq' => hq (hc.quote.mp hq'), hc.text]
    exact alike_push hL h _

theorem related_act (hL : L.Kept) (h : Alike L m m') {content content' : Option Cell}
    (hc : SameCell content content')
    (hu : m.mode ≠ .text → UsesAlike L m m' (.ofCell (content.getD Grid.blankValue))) :
    Related (Alike L) (m.act content) (m'.act content') := by
  unfold act
  rw [h.mode, hc.instruction]
  split
  · exact .ok (alike_pushText hL h hc)
  · next hm => exact related_execute hL h (hu hm)

theorem isRunning_eq (h : Alike L m m') : m'.isRunning = m.isRunning := isRunning_congr h.status

theorem upcoming?_eq_of_alike (h : Alike L m m')
    (hb : m'.countStep.exceeded? = m.countStep.exceeded?)
    (hr : m'.grid.read m'.col m'.row = m.grid.read m.col m.row) :
    m'.upcoming? = m.upcoming? := by
  unfold upcoming?
  rw [isRunning_eq h, hb, h.mode, hr]

/-- A step that the budget refuses does not look at the grid. -/
theorem related_step_of_spent (hL : L.Kept) (h : Alike L m m') {limit : Int}
    (hb : m.countStep.exceeded? = some limit) (hb' : m'.countStep.exceeded? = some limit) :
    Related (Alike L) m.step m'.step := by
  rw [step_of_spent hb, step_of_spent hb']
  exact .error (alike_countStep hL h)

/-- The step of a running machine keeps a likeness if the two machines agree on whether the budget
is exceeded, stand on contents that do the same, and use devices and positions that are alike. -/
theorem related_step (hL : L.Kept) (h : Alike L m m') (hrun : m.isRunning = true)
    (hb : m'.countStep.exceeded? = m.countStep.exceeded?)
    (hr : SameContent (m.grid.read m.col m.row) (m'.grid.read m'.col m'.row))
    (hu : ∀ i, m.upcoming? = some i → UsesAlike L m m' i) :
    Related (Alike L) m.step m'.step := by
  have hc := alike_countStep hL h
  cases hlimit : m.countStep.exceeded? with
  | some limit => exact related_step_of_spent hL h hlimit (hb.trans hlimit)
  | none =>
    rw [hlimit] at hb
    cases hread : m.grid.read m.col m.row with
    | error f =>
      rw [hread] at hr
      generalize hread' : m'.grid.read m'.col m'.row = r' at hr
      cases hr
      unfold step
      dsimp only
      rw [hlimit, hb,
        show m.countStep.grid.read m.countStep.col m.countStep.row = .error f from hread,
        show m'.countStep.grid.read m'.countStep.col m'.countStep.row = .error f from hread']
      exact .error hc
    | ok content =>
      rw [hread] at hr
      generalize hread' : m'.grid.read m'.col m'.row = r' at hr
      cases hr with
      | @ok _ content' hcell =>
      rw [step_of_ok hlimit hread, step_of_ok hb hread']
      have hact := related_act hL hc hcell fun hm =>
        usesAlike_countStep (hu _ (upcoming?_of_ok hrun hlimit hm hread))
      generalize m.countStep.act content = r, m'.countStep.act content' = r' at hact ⊢
      cases hact with
      | error hi => exact .error hi
      | @ok m m' hm =>
        show Related (Alike L) m.moveOn m'.moveOn
        unfold moveOn
        rw [isRunning_eq hm]
        split
        · exact related_advance hL hm
        · exact .ok hm

/-- A tick keeps a likeness if its step does, and ends in the same misuse or in none. -/
theorem tick_alike (h : Alike L m m')
    (hs : m.isRunning = true → Related (Alike L) m.step m'.step) :
    Alike L m.tick.1 m'.tick.1 ∧ m'.tick.2 = m.tick.2 := by
  unfold tick
  rw [isRunning_eq h]
  split
  · next hrun =>
    replace hs := hs hrun
    generalize m.step = r, m'.step = r' at hs ⊢
    cases hs with
    | ok hm => exact ⟨hm, rfl⟩
    | @error e _ _ hm =>
      cases e with
      | fault f => exact ⟨{ hm with status := rfl }, rfl⟩
      | misuse e => exact ⟨hm, rfl⟩
  · exact ⟨h, rfl⟩

end Machine

/-- A likeness that no tick can tell from equality: the budgets, the contents under the pointers and
all that instructions use are alike in all machines that are. -/
structure Likeness.Blind (L : Likeness) : Prop extends L.Kept where
  budget : ∀ {m m'}, Machine.Alike L m m' → m'.countStep.exceeded? = m.countStep.exceeded?
  content : ∀ {m m'}, Machine.Alike L m m' →
    m'.grid.read m'.col m'.row = m.grid.read m.col m.row
  uses : ∀ {m m'}, Machine.Alike L m m' → ∀ i, Machine.UsesAlike L m m' i

namespace Machine

variable {L : Likeness} {m m' : Machine}

theorem tick_alike_of_blind (hL : L.Blind) (h : Alike L m m') :
    Alike L m.tick.1 m'.tick.1 ∧ m'.tick.2 = m.tick.2 :=
  tick_alike h fun hrun => related_step hL.toKept h hrun (hL.budget h) (.of_eq (hL.content h))
    fun _ _ => hL.uses h _

/-- Runs keep a likeness that no tick can tell from equality, and end in the same way. -/
theorem run_alike_of_blind (hL : L.Blind) (h : Alike L m m') (n : Nat) :
    Alike L (m.run n).1 (m'.run n).1 ∧ (m'.run n).2 = (m.run n).2 := by
  induction n generalizing m m' with
  | zero => exact ⟨h, rfl⟩
  | succ n ih =>
    have hfirst := tick_alike_of_blind hL h
    unfold run
    rcases ht : m.tick with ⟨m₁, misuse⟩
    rcases ht' : m'.tick with ⟨m₁', misuse'⟩
    rw [ht, ht'] at hfirst
    obtain ⟨halike, hsame⟩ := hfirst
    replace hsame : misuse' = misuse := hsame
    subst hsame
    cases misuse' with
    | some e => exact ⟨halike, rfl⟩
    | none =>
      dsimp only
      rw [isRunning_eq halike]
      split
      · exact ih halike
      · exact ⟨halike, rfl⟩

/-- Where ticks keep a likeness under a condition, they keep it as long as the condition holds. -/
theorem ticked_alike {C : Machine → Prop}
    (tick : ∀ {m m'}, Alike L m m' → C m → Alike L m.tick.1 m'.tick.1) (h : Alike L m m') {n : Nat}
    (hn : ∀ i < n, C (m.ticked i)) : Alike L (m.ticked n) (m'.ticked n) := by
  induction n generalizing m m' with
  | zero => exact h
  | succ n ih =>
    have hfirst := tick h (hn 0 (Nat.succ_pos n))
    exact ih hfirst fun i hi => hn (i + 1) (Nat.succ_lt_succ hi)

end Machine

/-! ## Machines that differ in their consoles -/

/-- The consoles are related, and all else is equal. -/
def Likeness.onConsole (R : Console → Console → Prop) : Likeness := { equal with console := R }

theorem Likeness.kept_onConsole (R : Console → Console → Prop) : (onConsole R).Kept :=
  { kept_equal with }

namespace Machine

variable {R : Console → Console → Prop} {m m' : Machine}

theorem eq_of_onConsole (h : Alike (.onConsole R) m m') : m' = { m with console := m'.console } :=
  eq_of_alike h h.place.symm h.stack.symm rfl h.clock.symm

/-- All that instructions use is alike if the calls on the consoles are. -/
theorem usesAlike_onConsole (h : Alike (.onConsole R) m m') {i : Instruction}
    (writeNumber : i = .writeNumber → (Likeness.onConsole R).SameAnswer
      (m.console.writeNumber m.top) (m'.console.writeNumber m.top))
    (writeChar : i = .writeChar → (Likeness.onConsole R).SameAnswer
      (m.console.writeChar m.top) (m'.console.writeChar m.top))
    (readNumber : i = .readNumber → (Likeness.onConsole R).SameAnswer
      m.console.readNumber m'.console.readNumber)
    (readChar : i = .readChar → (Likeness.onConsole R).SameAnswer
      m.console.readChar m'.console.readChar) : UsesAlike (.onConsole R) m m' i := by
  cases i with
  | writeNumber => exact writeNumber rfl
  | writeChar => exact writeChar rfl
  | readNumber => exact readNumber rfl
  | readChar => exact readChar rfl
  | store =>
    rw [eq_of_onConsole h]
    exact fun v => rfl
  | fetch =>
    rw [eq_of_onConsole h]
    exact rfl
  | _ => trivial

theorem upcoming?_onConsole (h : Alike (.onConsole R) m m') : m'.upcoming? = m.upcoming? := by
  rw [eq_of_onConsole h]
  rfl

/-- A tick keeps two consoles related if the calls of its instruction do. -/
theorem tick_onConsole (h : Alike (.onConsole R) m m')
    (hu : ∀ i, m.upcoming? = some i → UsesAlike (.onConsole R) m m' i) :
    Alike (.onConsole R) m.tick.1 m'.tick.1 ∧ m'.tick.2 = m.tick.2 := by
  refine tick_alike h fun hrun => ?_
  refine related_step (Likeness.kept_onConsole R) h hrun ?_ (.of_eq ?_) hu
  · rw [eq_of_onConsole h]
    rfl
  · rw [eq_of_onConsole h]

end Machine

/-- No tick can tell two consoles apart on which all calls are alike. -/
theorem Likeness.blind_onConsole {R : Console → Console → Prop}
    (uses : ∀ {m m'}, Machine.Alike (.onConsole R) m m' → ∀ i,
      Machine.UsesAlike (.onConsole R) m m' i) : (onConsole R).Blind where
  toKept := kept_onConsole R
  budget h := by
    rw [Machine.eq_of_onConsole h]
    rfl
  content h := by rw [Machine.eq_of_onConsole h]
  uses := uses

end Funge93
