import Funge93.Machine.Run
import Funge93.Proofs.Console.Devices
import Funge93.Proofs.Grid.Torus

/-!
# What a step can do

An instruction makes a new machine out of an old one. This module says once, field by field, what
it can change (`Evolves`) and why it can fail (`Fails`). Properties of runs are then read off these
two relations, and no later proof goes through the instructions for them again.

Results:
1. `leaves_execute`, `leaves_step`: every machine that an instruction or a step leaves evolves from
   the one before, and every failure has a reason.
2. `tickEnds_tick`: the four ways a tick can end.
-/

namespace Funge93

/-- `Worked s t`: pushes and discards lead from the stack `s` to the stack `t`. -/
inductive Stack.Worked (s : Stack) : Stack → Prop
  | refl : Worked s s
  | push {t : Stack} (v : Cell) : Worked s t → Worked s (t.push v)
  | discard {t : Stack} : Worked s t → Worked s t.discard

namespace Stack.Worked

theorem trans {s t u : Stack} (h : Worked s t) (h' : Worked t u) : Worked s u := by
  induction h' with
  | refl => exact h
  | push v _ ih => exact ih.push v
  | discard _ ih => exact ih.discard

theorem depth_le_peak {s t : Stack} (h : Worked s t) (hs : s.depth ≤ s.peak) :
    t.depth ≤ t.peak := by
  induction h with
  | refl => exact hs
  | push v _ _ => exact Nat.le_max_right _ _
  | discard _ ih => exact Nat.le_trans (Nat.sub_le _ _) ih

end Stack.Worked

theorem Draws.advance_add (d : Draws) (m n : Nat) :
    advance (m + n) d = advance n (advance m d) := by
  induction m generalizing d with
  | zero => rw [Nat.zero_add]; rfl
  | succ m ih =>
    rw [Nat.succ_add]
    exact ih d.next.2

namespace Machine

/-- `Evolves m m'`: each field of `m'` is what an instruction can make of that field of `m`. -/
structure Evolves (m m' : Machine) : Prop where
  maxSteps : m'.maxSteps = m.maxSteps
  steps : m'.counters.steps = m.counters.steps
  width : m'.grid.width = m.grid.width
  height : m'.grid.height = m.grid.height
  pointer : (m'.col = m.col ∧ m'.row = m.row) ∨ m.grid.inBounds m'.col m'.row = true
  heading : m'.heading = m.heading ∨ ∃ d, m'.heading = .toward d
  mode : m'.mode = m.mode ∨ m'.mode = .command ∨ m'.mode = .text
  stack : Stack.Worked m.stack m'.stack
  console : m'.console.breakdowns = m.console.breakdowns
  draws : ∃ n, m'.draws = m.draws.advance n
  status : m'.status = m.status ∨ m'.status = .halted

/-- The reasons for which a step can fail. -/
inductive Fails (m : Machine) : Failure → Prop
  | console {e : Failure} : m.console.Fails e → Fails m e
  | draw {n : Int} : m.draws.next.1 = n → Direction.ofDraw? n = none →
      Fails m (.misuse (.drawOutOfRange n))
  | heading {code : Int} : m.heading = .stray code → Fails m (.misuse (.strayHeading code))
  | outside : m.grid.inBounds m.col m.row = false →
      Fails m (.fault (.readOutside m.col m.row m.grid.width m.grid.height))
  | budget {limit : Int} : m.maxSteps = some limit → limit < m.counters.steps →
      Fails m (.fault (.stepLimit limit))

/-- Every machine that a result leaves satisfies `I`, and every failure in it satisfies `F`. -/
def Leaves (I : Machine → Prop) (F : Failure → Prop) : Except Interruption Machine → Prop
  | .ok m => I m
  | .error i => F i.failure ∧ I i.machine

/-! ## Evolution, one change at a time -/

namespace Evolves

theorem refl (m : Machine) : Evolves m m where
  maxSteps := rfl
  steps := rfl
  width := rfl
  height := rfl
  pointer := .inl ⟨rfl, rfl⟩
  heading := .inl rfl
  mode := .inl rfl
  stack := .refl
  console := rfl
  draws := ⟨0, rfl⟩
  status := .inl rfl

theorem inBounds {m m' : Machine} (h : Evolves m m') (col row : Int) :
    m'.grid.inBounds col row = m.grid.inBounds col row := by
  unfold Grid.inBounds
  rw [h.width, h.height]

theorem trans {m m' m'' : Machine} (h : Evolves m m') (h' : Evolves m' m'') :
    Evolves m m'' where
  maxSteps := h'.maxSteps.trans h.maxSteps
  steps := h'.steps.trans h.steps
  width := h'.width.trans h.width
  height := h'.height.trans h.height
  pointer := by
    rcases h'.pointer with ⟨hc, hr⟩ | hi
    · rw [hc, hr]
      exact h.pointer
    · exact .inr (h.inBounds _ _ ▸ hi)
  heading := by
    rcases h'.heading with hh | hh
    · rw [hh]
      exact h.heading
    · exact .inr hh
  mode := by
    rcases h'.mode with hm | hm
    · rw [hm]
      exact h.mode
    · exact .inr hm
  stack := h.stack.trans h'.stack
  console := h'.console.trans h.console
  draws := by
    obtain ⟨n, hn⟩ := h.draws
    obtain ⟨n', hn'⟩ := h'.draws
    exact ⟨n + n', by rw [hn', hn, Draws.advance_add]⟩
  status := by
    rcases h'.status with hs | hs
    · rw [hs]
      exact h.status
    · exact .inr hs

theorem withStack (m : Machine) {s : Stack} (h : Stack.Worked m.stack s) :
    Evolves m { m with stack := s } :=
  { refl m with stack := h }

theorem turned (m : Machine) (d : Direction) : Evolves m { m with heading := .toward d } :=
  { refl m with heading := .inr ⟨d, rfl⟩ }

end Evolves

/-! ## The instructions -/

theorem evolves_combine (m : Machine) (f : Cell → Cell → Cell) : Evolves m (m.combine f) :=
  .withStack m (.push _ (.discard (.discard .refl)))

theorem evolves_branch (m : Machine) (zero other : Direction) :
    Evolves m (m.branch zero other) :=
  { Evolves.withStack m (.discard .refl) with heading := .inr ⟨_, rfl⟩ }

/-- A heading that is stray was stray before, so a move after other changes has the same reason to
fail as a move before them. -/
theorem leaves_advance_of_evolves {m m' : Machine} (h : Evolves m m') :
    Leaves (Evolves m) (Fails m) m'.advance := by
  unfold advance
  split
  · exact h.trans { Evolves.refl m' with pointer := .inr (Grid.inBounds_wrap _ _ _) }
  · next code hh =>
    refine ⟨.heading ?_, h⟩
    rcases h.heading with hs | ⟨d, hd⟩
    · exact hs ▸ hh
    · rw [hd] at hh
      cases hh

theorem leaves_advance (m : Machine) : Leaves (Evolves m) (Fails m) m.advance :=
  leaves_advance_of_evolves (.refl m)

theorem leaves_turnRandomly (m : Machine) : Leaves (Evolves m) (Fails m) m.turnRandomly := by
  have drawn : Evolves m { m with draws := m.draws.next.2 } :=
    { Evolves.refl m with draws := ⟨1, rfl⟩ }
  unfold turnRandomly
  dsimp only
  split
  · exact drawn.trans (.turned _ _)
  · next hd => exact ⟨.draw rfl hd, drawn⟩

theorem leaves_store (m : Machine) : Leaves (Evolves m) (Fails m) m.store := by
  rw [store_eq]
  exact { Evolves.withStack m (.discard (.discard (.discard .refl))) with
    width := rfl, height := rfl }

theorem leaves_fetch (m : Machine) : Leaves (Evolves m) (Fails m) m.fetch := by
  rw [fetch_eq]
  exact { Evolves.withStack m (.push _ (.discard (.discard .refl))) with steps := rfl }

theorem leaves_write (m : Machine) {how : Console → Int → Option Failure × Console}
    (hs : ∀ c n, Console.Served c (how c n).2 (how c n).1) :
    Leaves (Evolves m) (Fails m) (m.write how) := by
  obtain ⟨hb, hf⟩ := hs m.console m.stack.peek.toInt
  have written : Evolves m { m with
      stack := m.stack.discard, console := (how m.console m.stack.peek.toInt).2 } :=
    { Evolves.withStack m (.discard .refl) with console := hb }
  unfold write
  dsimp only
  split
  · exact { written with steps := rfl }
  · next e he => exact ⟨.console (hf e he), written⟩

theorem leaves_read (m : Machine) {how : Console → Except Failure (Option Cell) × Console}
    (atEnd : Cell) (hs : ∀ c, Console.Served c (how c).2 (Console.failure? (how c).1)) :
    Leaves (Evolves m) (Fails m) (m.read how atEnd) := by
  obtain ⟨hb, hf⟩ := hs m.console
  have asked : Evolves m { m with console := (how m.console).2 } :=
    { Evolves.refl m with console := hb }
  unfold read
  dsimp only
  split
  · exact { asked with stack := .push _ .refl }
  · next e he =>
    replace he : (how m.console).1 = .error e := he
    exact ⟨.console (hf e (by rw [he]; rfl)), asked⟩

theorem served_readCharCell (c : Console) :
    Console.Served c (readCharCell c).2 (Console.failure? (readCharCell c).1) := by
  have h := Console.served_readChar c
  unfold readCharCell
  cases hr : c.readChar with
  | mk result c' =>
    rw [hr] at h
    cases result <;> exact h

theorem leaves_execute (m : Machine) (i : Instruction) :
    Leaves (Evolves m) (Fails m) (m.execute i) := by
  cases i with
  | digit d => exact .withStack m (.push _ .refl)
  | add | subtract | multiply | divide | remainder | greater => exact evolves_combine m _
  | negate => exact .withStack m (.push _ (.discard .refl))
  | turn d => exact .turned m d
  | turnRandomly => exact leaves_turnRandomly m
  | branchHorizontally | branchVertically => exact evolves_branch m _ _
  | quote => exact { Evolves.refl m with mode := .inr (.inr rfl) }
  | duplicate => exact .withStack m (.push _ (.push _ (.discard .refl)))
  | swap => exact .withStack m (.push _ (.push _ (.discard (.discard .refl))))
  | discard => exact .withStack m (.discard .refl)
  | writeNumber => exact leaves_write m Console.served_writeNumber
  | writeChar => exact leaves_write m Console.served_writeChar
  | skip => exact leaves_advance m
  | store => exact leaves_store m
  | fetch => exact leaves_fetch m
  | readNumber => exact leaves_read m 0 Console.served_readNumber
  | readChar => exact leaves_read m (-1) served_readCharCell
  | halt => exact { Evolves.refl m with status := .inr rfl }
  | idle => exact .refl m

theorem evolves_of_execute {m m' : Machine} {i : Instruction} (h : m.execute i = .ok m') :
    Evolves m m' := by
  have hleaves := leaves_execute m i
  rwa [h] at hleaves

/-! ## Steps and ticks -/

theorem evolves_pushText (m : Machine) (content : Option Cell) :
    Evolves m (m.pushText content) := by
  unfold pushText
  split
  · exact { Evolves.refl m with mode := .inr (.inl rfl) }
  · exact .withStack m (.push _ .refl)

theorem leaves_act (m : Machine) (content : Option Cell) :
    Leaves (Evolves m) (Fails m) (m.act content) := by
  unfold act
  split
  · exact evolves_pushText m content
  · exact leaves_execute m _

theorem leaves_step (m : Machine) :
    Leaves (Evolves m.countStep) (Fails m.countStep) m.step := by
  unfold step
  dsimp only
  split
  · next limit hl =>
    obtain ⟨hs, hlt⟩ := Option.filter_eq_some_iff.mp hl
    exact ⟨.budget hs (of_decide_eq_true hlt), .refl _⟩
  · split
    · next f hf =>
      unfold Grid.read at hf
      split at hf <;> cases hf
      next ho => exact ⟨.outside (Bool.eq_false_iff.mpr ho), .refl _⟩
    · next content _ =>
      have hact := leaves_act m.countStep content
      split
      · next hi => rwa [hi] at hact
      · next m' hm =>
        rw [hm] at hact
        -- Only a machine that still runs moves on; a halted one stays where it is.
        split
        · exact leaves_advance_of_evolves hact
        · exact hact

/-- How a tick ends: the machine had stopped before, or its step went through, or it met a fault,
which is recorded, or a misuse, which is not. -/
inductive TickEnds (m : Machine) : Machine × Option Misuse → Prop
  | stopped : m.isRunning = false → TickEnds m (m, none)
  | stepped {m' : Machine} : m.isRunning = true → m.step = .ok m' → Evolves m.countStep m' →
      TickEnds m (m', none)
  | faulted {f : Fault} {m' : Machine} : m.isRunning = true → m.step = .error ⟨.fault f, m'⟩ →
      Fails m.countStep (.fault f) → Evolves m.countStep m' →
      TickEnds m ({ m' with status := .faulted f }, none)
  | misused {e : Misuse} {m' : Machine} : m.isRunning = true →
      m.step = .error ⟨.misuse e, m'⟩ → Fails m.countStep (.misuse e) → Evolves m.countStep m' →
      TickEnds m (m', some e)

theorem tickEnds_tick (m : Machine) : TickEnds m m.tick := by
  have hstep := leaves_step m
  unfold tick
  split
  · next hr =>
    split
    · next hs =>
      rw [hs] at hstep
      exact .stepped hr hs hstep
    · next hs =>
      rw [hs] at hstep
      exact .faulted hr hs hstep.1 hstep.2
    · next hs =>
      rw [hs] at hstep
      exact .misused hr hs hstep.1 hstep.2
  · next hr => exact .stopped (Bool.eq_false_iff.mpr hr)

end Machine

end Funge93
