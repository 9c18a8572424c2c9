import Funge93.Proofs.Host.Sessions
import Funge93.Proofs.Machine.OneRow
import Funge93.Proofs.Machine.Statistics
import Funge93.Proofs.Machine.TextMode

/-!
# The print loop

The usual way to print a text is to quote it back to front, which leaves it on the stack with its
first character on top, and to write and pop in a loop until the stack is empty: `>:#,_@`. The
pointer runs through the loop to the right and back to the left. Rightward it doubles the top and
jumps over the comma to the branch, which tells a character from the zero below the stack; leftward
it writes the character and jumps over the doubling. This module proves that the loop prints every
text that fits between quotation marks on one row and has no zero in it.

Results:
1. `Leads.quotation`: a quotation in a row pushes its characters.
2. `Loops.round`, `Loops.run`: one round of the loop, and all of them.
3. `runText_printer`: what the program prints, and in how many steps.
-/

namespace Funge93

/-- The characters of a text as cells. -/
def Text.cells (t : Text) : List Cell := t.map fun ch => Cell.ofInt ch.val

/-- The program that prints a text. -/
def printer (s : Text) : Text := "\"" ++ s.reverse ++ "\">:#,_@"

namespace Machine

variable {code q s u out out' : Text} {d d' : Direction} {j k j' : Nat} {items items' : List Cell}
  {w w' : Work} {m m' : Machine} {ch : CodePoint} {i : Instruction}

/-! ## Quotations -/

theorem ahead_row (hg : m.grid = Grid.ofLines [code]) (hcol : m.col = k) (hrow : m.row = 0)
    (hk : k + j < code.length) : m.ahead .right j = (((k + j : Nat) : Int), 0) := by
  unfold ahead
  rw [hg, hcol, hrow]
  have hinside := Grid.wrap_of_inBounds (Grid.inBounds_row hk)
  rw [← hinside]
  simp [Direction.colDelta, Direction.rowDelta]

theorem met_row (hg : m.grid = Grid.ofLines [code]) (hcol : m.col = k) (hrow : m.row = 0)
    (hk : code[k + j]? = some ch) : m.met .right j = some (Cell.ofInt ch.val) := by
  have hlt := (List.getElem?_eq_some_iff.mp hk).1
  have hread := Grid.read_row hk
  rw [Grid.read_eq_fetch (Grid.inBounds_row hlt)] at hread
  rw [← Except.ok.inj hread]
  unfold met
  rw [hg, hcol, hrow]
  simp [Direction.colDelta, Direction.rowDelta]

theorem quoted_row (hg : m.grid = Grid.ofLines [code]) (hcol : m.col = k) (hrow : m.row = 0)
    (hk : ∀ n < q.length, code[k + n]? = q[n]?) : m.quoted .right q.length = Text.cells q := by
  refine List.ext_getElem (by simp [quoted, Text.cells]) fun n hn _ => ?_
  have hn : n < q.length := by simpa [quoted] using hn
  have hmet := met_row hg hcol hrow ((hk n hn).trans (List.getElem?_eq_getElem hn))
  simp [quoted, Text.cells, hmet]

/-- Text mode ends behind the quotation mark that comes first in the row. -/
theorem ticked_row (h : m.InText .right) (hg : m.grid = Grid.ofLines [code]) (hcol : m.col = k)
    (hrow : m.row = 0) (hk : ∀ n < q.length, code[k + n]? = q[n]?)
    (hclose : code[k + q.length]? = some 0x22) (hq : ∀ ch ∈ q, ch ≠ 0x22) :
    m.ticked (q.length + 1) = m.unquoted .right q.length := by
  refine ticked_unquoted h (fun n hn hquote => ?_) (met_row hg hcol hrow hclose)
  rw [met_row hg hcol hrow ((hk n hn).trans (List.getElem?_eq_getElem hn))] at hquote
  exact hq _ (List.getElem_mem hn) (CodePoint.cell_inj.mp (Option.some.inj hquote))

/-- The machine that has read the opening quotation mark on the character number `k`. -/
def opened (m : Machine) (k : Nat) : Machine :=
  { m.countStep with mode := .text, col := (k + 1 : Nat), row := 0 }

theorem Along.tick_quote (h : Along code .right k w m) (hk : code[k]? = some 0x22)
    (hlt : k + 1 < code.length) : m.tick.1 = m.opened k := by
  have hnext : ((k : Int) + 1) % code.length = (k + 1 : Nat) :=
    Int.emod_eq_of_lt (by omega) (by omega)
  let quoting : Machine := { m.countStep with mode := .text }
  have hadvance : quoting.advance = .ok (m.opened k) :=
    advance_row h.grid h.col h.row h.heading (Nat.zero_lt_of_lt hlt) hnext
  have hstep : m.step = .ok (m.opened k) := by
    rw [step_of_upcoming (h.upcoming? hk (i := .quote) rfl)]
    exact (if_pos h.isRunning).trans hadvance
  rw [tick_of_ok h.isRunning hstep]

theorem Along.inText_opened (h : Along code .right k w m) (hlt : k + 1 < code.length) :
    (m.opened k).InText .right where
  running := h.isRunning
  mode := rfl
  maxSteps := h.maxSteps
  heading := h.heading
  inside := by
    show m.grid.inBounds (k + 1 : Nat) 0 = true
    rw [h.grid]
    exact Grid.inBounds_row hlt

/-- A quotation pushes its characters, whatever instructions they would be outside. -/
theorem Leads.quotation (hq : ∀ ch ∈ q, ch ≠ 0x22) (items : List Cell) (u out : Text) :
    Leads (0x22 :: q ++ [0x22]) ⟨items, u, out⟩ ⟨(Text.cells q).reverse ++ items, u, out⟩ := by
  intro code before after m hcode hafter hm
  have hlength : before.length + 1 + (q.length + 1) < code.length := by
    have hpos := List.length_pos_iff.mpr hafter
    simp only [hcode, List.length_append, List.length_cons, List.length_nil]
    omega
  have hlt : before.length + 1 < code.length := Nat.lt_of_le_of_lt (Nat.le_add_right _ _) hlength
  have hopen : code[before.length]? = some 0x22 := by simp [hcode]
  -- Behind the opening quotation mark, the row goes on with the text and the closing one.
  have hbehind (n : Nat) : code[before.length + 1 + n]? = (q ++ ([0x22] ++ after))[n]? := by
    have hcode' : code = (before ++ [0x22]) ++ (q ++ ([0x22] ++ after)) := by simp [hcode]
    rw [hcode', List.getElem?_append_right (by simp)]
    simp
  have hk : ∀ n < q.length, code[before.length + 1 + n]? = q[n]? := fun n hn =>
    (hbehind n).trans (List.getElem?_append_left hn)
  have hclose : code[before.length + 1 + q.length]? = some 0x22 := by
    rw [hbehind, List.getElem?_append_right (Nat.le_refl _)]
    simp
  let reading := m.opened before.length
  have hquoted : reading.quoted .right q.length = Text.cells q := quoted_row hm.grid rfl rfl hk
  have hended : m.tick.1.ticked (q.length + 1) = reading.unquoted .right q.length := by
    rw [hm.tick_quote hopen hlt]
    exact ticked_row (hm.inText_opened hlt) hm.grid rfl rfl hk hclose hq
  have hahead : reading.ahead .right (q.length + 1 : Nat) =
      (((before.length + 1 + (q.length + 1) : Nat) : Int), 0) :=
    ahead_row hm.grid rfl rfl hlength
  have hpiece : (0x22 :: q ++ [0x22]).length = 1 + (q.length + 1) := by simp [Nat.add_comm]
  rw [hpiece, ← Nat.add_assoc, Nat.add_comm 1, ticked, hended]
  refine { hm with col := ?_, row := ?_, mode := rfl, items := ?_ }
  · exact congrArg Prod.fst hahead
  · exact congrArg Prod.snd hahead
  · show (Stack.pushAll m.stack _).items = _
    rw [hquoted, Stack.items_pushAll, hm.items]

/-! ## The loop -/

/-- `Loops s u d j items out m`: in the program that prints `s`, the machine `m` stands on character
number `j` of what follows the quoted text and is headed in the direction `d`. Its stack holds
`items`, `u` is left unread, and it has written `out`, each character by a write of its own. -/
structure Loops (s u : Text) (d : Direction) (j : Nat) (items : List Cell) (out : Text)
    (m : Machine) : Prop extends Along (printer s) d (s.length + 1 + j) ⟨items, u, out⟩ m where
  writes : m.counters.writes = out.length

theorem length_printer (s : Text) : (printer s).length = s.length + 8 := by
  show ((("\"" : Text) ++ s.reverse) ++ ("\">:#,_@" : Text)).length = _
  rw [List.length_append, List.length_append, List.length_reverse]
  show 1 + s.length + 7 = _
  omega

theorem getElem?_printer (s : Text) (hj : ("\">:#,_@" : Text)[j]? = some ch) :
    (printer s)[s.length + 1 + j]? = some ch := by
  have hlength : (("\"" : Text) ++ s.reverse).length = s.length + 1 := by
    rw [List.length_append, List.length_reverse]
    exact Nat.add_comm 1 _
  show ((("\"" : Text) ++ s.reverse) ++ ("\">:#,_@" : Text))[s.length + 1 + j]? = _
  rw [List.getElem?_append_right (by rw [hlength]; exact Nat.le_add_right _ _), hlength,
    Nat.add_sub_cancel_left]
  exact hj

namespace Loops

/-- A move to another character of the loop. -/
theorem next_eq {j₁ : Nat} (hnext : (j₁ : Int) + d.colDelta = j') (hj' : j' < 7) :
    (((s.length + 1 + j₁ : Nat) : Int) + d.colDelta) % (printer s).length =
      (s.length + 1 + j' : Nat) := by
  rw [length_printer]
  exact (Int.emod_eq_of_lt (by omega) (by omega)).trans (by omega)

theorem tick {j₁ : Nat} (h : Loops s u d j items out m) (hj : ("\">:#,_@" : Text)[j]? = some ch)
    (hi : Instruction.ofCell (Cell.ofInt ch.val) = i) (hx : m.countStep.execute i = .ok m')
    (h' : Along (printer s) d' (s.length + 1 + j₁) ⟨items', u, out'⟩ m')
    (hnext : (j₁ : Int) + d'.colDelta = j') (hj' : j' < 7)
    (hwrites : (i.event?.elim m.countStep.counters m.countStep.counters.count).writes =
      out'.length) : Loops s u d' j' items' out' m.tick.1 := by
  have hk := getElem?_printer s hj
  obtain ⟨done, hstep, hdone⟩ := h.toAlong.step hk hi hx h' (next_eq hnext hj')
  have hcounters := (keeps_step h.isRunning hstep).1
  rw [h.upcoming? hk hi] at hcounters
  rw [tick_of_ok h.isRunning hstep]
  exact { hdone with writes := (congrArg Counters.writes hcounters).trans hwrites }

/-- The bridge leads over one character, in either direction. -/
theorem tick_skip {j₁ : Nat} (h : Loops s u d j items out m)
    (hj : ("\">:#,_@" : Text)[j]? = some 0x23) (hlanding : (j : Int) + d.colDelta = j₁)
    (hj₁ : j₁ < 7) (hnext : (j₁ : Int) + d.colDelta = j') (hj' : j' < 7) :
    Loops s u d j' items out m.tick.1 := by
  have hpos : 0 < (printer s).length := by
    rw [length_printer]
    exact Nat.succ_pos _
  obtain ⟨crossed, hx, hcrossed⟩ := h.toAlong.countStep.advance hpos (next_eq hlanding hj₁)
  exact h.tick (i := .skip) hj rfl hx hcrossed hnext hj' h.writes

/-- Rightward, the loop doubles the top and comes over the comma to the branch. -/
theorem cross (h : Loops s u .right 2 items out m) :
    Loops s u .right 5 (items.headD 0 :: items.headD 0 :: items.tail) out (m.ticked 2) := by
  have hdoubled : Loops s u .right 3 (items.headD 0 :: items.headD 0 :: items.tail) out
      (m.ticked 1) :=
    h.tick (i := .duplicate) rfl rfl rfl h.countStep.duplicate rfl (by decide) h.writes
  exact hdoubled.tick_skip rfl rfl (by decide) rfl (by decide)

/-- One round: rightward to the branch, and leftward over the comma and past the doubling. -/
theorem round (hch : ch ≠ 0) (h : Loops s u .right 2 (Cell.ofInt ch.val :: items) out m) :
    Loops s u .right 2 items (out ++ [ch]) (m.ticked 6) := by
  let c := Cell.ofInt ch.val
  have hc : c ≠ 0 := fun hzero => hch (CodePoint.cell_inj.mp hzero)
  have hcrossed : Loops s u .right 5 (c :: c :: items) out (m.ticked 2) := h.cross
  have hbranch := hcrossed.countStep.branchHorizontally
  rw [if_neg hc] at hbranch
  have hback : Loops s u .left 4 (c :: items) out (m.ticked 3) :=
    hcrossed.tick (i := .branchHorizontally) rfl rfl rfl hbranch rfl (by decide) hcrossed.writes
  obtain ⟨done, hx, hwrite⟩ := hback.countStep.writeChar
  have hwrites : (m.ticked 3).counters.writes + 1 = (out ++ [ch]).length := by
    rw [hback.writes, List.length_append, List.length_singleton]
  have hwritten : Loops s u .left 3 items (out ++ [ch]) (m.ticked 4) :=
    hback.tick (i := .writeChar) rfl rfl hx hwrite rfl (by decide) hwrites
  have hskipped : Loops s u .left 1 items (out ++ [ch]) (m.ticked 5) :=
    hwritten.tick_skip rfl rfl (by decide) rfl (by decide)
  have hturn := hskipped.countStep.turn .right
  exact hskipped.tick (i := .turn .right) rfl rfl rfl hturn rfl (by decide) hskipped.writes

/-- The loop writes the text on the stack. -/
theorem run {rest : Text} (hrest : ∀ ch ∈ rest, ch ≠ 0)
    (h : Loops s u .right 2 (Text.cells rest) out m) :
    Loops s u .right 2 [] (out ++ rest) (m.ticked (6 * rest.length)) := by
  induction rest generalizing out m with
  | nil =>
    rw [List.append_nil]
    exact h
  | cons ch rest ih =>
    obtain ⟨hch, hrest⟩ := List.forall_mem_cons.mp hrest
    have hafter := ih hrest (h.round hch)
    rw [← ticked_add, List.append_assoc] at hafter
    rw [List.length_cons, Nat.mul_succ, Nat.add_comm]
    exact hafter

/-- On an empty stack the doubling leaves two zeros, and the branch leads out of the loop. -/
theorem leave (h : Loops s u .right 2 [] out m) : Loops s u .right 6 [0] out (m.ticked 3) := by
  have hcrossed : Loops s u .right 5 [0, 0] out (m.ticked 2) := h.cross
  have hbranch := hcrossed.countStep.branchHorizontally
  rw [if_pos rfl] at hbranch
  exact hcrossed.tick (i := .branchHorizontally) rfl rfl rfl hbranch rfl (by decide) hcrossed.writes

end Loops

/-! ## The program -/

theorem endsLine_of_mem_printer (hs : ∀ ch ∈ s, ch.endsLine = false) :
    ∀ ch ∈ printer s, ch.endsLine = false := by
  have hfixed {t : Text} (ht : t.all (!·.endsLine) = true) : ∀ ch ∈ t, ch.endsLine = false := by
    simpa using ht
  intro ch hch
  rcases List.mem_append.mp hch with hch | hch
  · rcases List.mem_append.mp hch with hch | hch
    · exact hfixed (by decide) ch hch
    · exact hs ch (List.mem_reverse.mp hch)
  · exact hfixed (by decide) ch hch

/-- The program comes to its loop with the text on the stack, the first character on top. -/
theorem loops_start (hquote : ∀ ch ∈ s, ch ≠ 0x22) (hs : ∀ ch ∈ s, ch.endsLine = false) (u : Text)
    (draws : Draws) : Loops s u .right 2 (Text.cells s) []
      ((start (Grid.ofText (printer s)) (.buffer u) draws none).ticked (s.length + 3)) := by
  let m := start (Grid.ofText (printer s)) (.buffer u) draws none
  have hquotation : Leads (0x22 :: s.reverse ++ [0x22]) ⟨[], u, []⟩ ⟨Text.cells s, u, []⟩ := by
    have hreversed : (Text.cells s.reverse).reverse ++ [] = Text.cells s := by simp [Text.cells]
    rw [← hreversed]
    exact .quotation (fun ch hch => hquote ch (List.mem_reverse.mp hch)) [] u []
  have hturn : Leads [0x3E] ⟨Text.cells s, u, []⟩ ⟨Text.cells s, u, []⟩ :=
    .single (i := .turn .right) rfl fun h => ⟨_, rfl, h.turn .right⟩
  have hne : printer s ≠ [] := List.append_ne_nil_of_right_ne_nil _ (by decide)
  have hcode : printer s = [] ++ (0x22 :: s.reverse ++ [0x22] ++ [0x3E]) ++ (":#,_@" : Text) := by
    show 0x22 :: s.reverse ++ (0x22 :: 0x3E :: (":#,_@" : Text)) = _
    simp
  have hpiece : (0x22 :: s.reverse ++ [0x22] ++ [0x3E]).length = s.length + 3 := by simp
  have hloop := (hquotation.append hturn) (printer s) [] ":#,_@" m hcode (by decide)
    (.start hne (endsLine_of_mem_printer hs) u draws)
  rw [hpiece, List.length_nil, Nat.zero_add] at hloop
  have hwrites := writes_ticked_le (m := m) (.start _ _ draws none) (Console.inMemory_buffer u)
    (Nat.le_refl 0) (s.length + 3)
  rw [hloop.written] at hwrites
  exact { hloop with writes := Nat.le_zero.mp hwrites }

end Machine

/-- A program of one row that comes to its halt gives a result with all that it did. -/
theorem runText_of_halt {code input : Text} {seed : Option Int} {draws : Option Draws}
    {d : Direction} {k n bound : Nat} {w : Machine.Work} (hdraws : ∀ d ∈ draws, d.Proper)
    (h : Machine.Along code d k w ((Machine.start (Grid.ofText code) (.buffer input)
      (draws.getD (.ofSeed seed)) none).ticked n))
    (hk : code[k]? = some 0x40) (hbound : n < bound) :
    ∃ r, runText code input seed draws none false bound = .ok r ∧ r.status = .halted ∧
      r.output = some w.written ∧ r.stack = w.items.reverse ∧ r.stats.counters.steps = n + 1 ∧
      r.stats.counters.writes = ((Machine.start (Grid.ofText code) (.buffer input)
        (draws.getD (.ofSeed seed)) none).ticked n).counters.writes := by
  let m := Machine.start (Grid.ofText code) (.buffer input) (draws.getD (.ofSeed seed)) none
  have hend : m.ticked (n + 1) = { (m.ticked n).countStep with status := .halted } := by
    rw [Machine.ticked_succ]
    exact h.halt hk rfl
  have hsteps : (m.ticked n).counters.steps = n :=
    (Machine.steps_ticked h.isRunning).trans (Nat.zero_add _)
  have hkind : (m.ticked n).console.kind = .buffer :=
    Machine.ticked_keeps (P := fun m => m.console.kind = .buffer)
      (fun h => (Machine.kind_tick _).trans h) rfl n
  have hproper : (draws.getD (.ofSeed seed)).Proper := by
    cases draws with
    | none => exact Draws.proper_ofSeed seed
    | some d => exact hdraws d rfl
  have hconsole : (Console.buffer input).FaultsOnly := ⟨nofun, nofun⟩
  have hm : m.FaultsOnly := .start hconsole hproper none
  have hrun : m.run bound = (m.ticked (n + 1), .stopped) :=
    Machine.run_of_stopped_of_le hm rfl (by rw [hend]; rfl) hbound
  refine ⟨_, (Host.runText_eq_report code input seed draws none bound).trans
    (congrArg Host.report hrun), ?_⟩
  rw [hend]
  exact ⟨rfl, (if_pos hkind).trans (congrArg some h.written), congrArg List.reverse h.items,
    congrArg (· + 1) hsteps, rfl⟩

/-- The print loop prints every text without quotation marks, line terminators and zeros. On any
input and without a budget, the program halts after seven steps for each character and seven more,
with a zero on its stack and a write counted for each character. What the characters would be as
instructions does not matter. -/
theorem runText_printer (s input : Text) (seed : Option Int) (draws : Option Draws) (bound : Nat)
    (hs : ∀ ch ∈ s, ch ≠ 0x22 ∧ ch ≠ 0 ∧ ch.endsLine = false)
    (hdraws : ∀ d ∈ draws, d.Proper) (hbound : 7 * s.length + 7 ≤ bound) :
    ∃ r, runText ("\"" ++ s.reverse ++ "\">:#,_@") input seed draws none false bound = .ok r ∧
      r.status = .halted ∧ r.output = some s ∧ r.stack = [0] ∧
      r.stats.counters.writes = s.length ∧ r.stats.counters.steps = 7 * s.length + 7 := by
  have hloop := Machine.loops_start (fun ch hch => (hs ch hch).1) (fun ch hch => (hs ch hch).2.2)
    input (draws.getD (.ofSeed seed))
  have hlast := (hloop.run fun ch hch => (hs ch hch).2.1).leave
  rw [← Machine.ticked_add, ← Machine.ticked_add, List.nil_append] at hlast
  have hticks : s.length + 3 + (6 * s.length + 3) = 7 * s.length + 6 := by omega
  rw [hticks] at hlast
  obtain ⟨r, hr, hstatus, houtput, hstack, hsteps, hwrites⟩ :=
    runText_of_halt hdraws hlast.toAlong (Machine.getElem?_printer s rfl) hbound
  exact ⟨r, hr, hstatus, houtput, hstack, hwrites.trans hlast.writes, hsteps⟩

/-- A halt, a surrogate and a full stop are printed like any other characters. -/
theorem runText_printer_opcodes :
    let s : Text := [0x40, 0xD800, 0x2E]
    let code : Text := [0x22, 0x2E, 0xD800, 0x40] ++ ("\">:#,_@" : Text)
    (∀ ch ∈ s, ch ≠ 0x22 ∧ ch ≠ 0 ∧ ch.endsLine = false) ∧
    ∃ r, runText code "7" none (some (.ofSeed (some 5))) none false 28 = .ok r ∧
      r.status = .halted ∧ r.output = some s ∧ r.stack = [0] ∧ r.stats.counters.writes = 3 ∧
      r.stats.counters.steps = 28 := by
  intro s code
  have hs : ∀ ch ∈ s, ch ≠ 0x22 ∧ ch ≠ 0 ∧ ch.endsLine = false :=
    List.forall_mem_cons.mpr ⟨by decide, List.forall_mem_cons.mpr ⟨by decide,
      List.forall_mem_singleton.mpr (by decide)⟩⟩
  have hdraws : ∀ d ∈ some (Draws.ofSeed (some 5)), d.Proper := by
    intro d hd
    rw [← Option.mem_some.mp hd]
    exact Draws.proper_ofSeed (some 5)
  have h := runText_printer s "7" none (some (.ofSeed (some 5))) 28 hs hdraws (by decide)
  have hcode : ("\"" : Text) ++ s.reverse ++ ("\">:#,_@" : Text) = code := by decide
  rw [hcode] at h
  exact ⟨hs, h⟩

end Funge93
