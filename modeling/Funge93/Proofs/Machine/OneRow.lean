import Funge93.Proofs.Grid.Lines
import Funge93.Proofs.Machine.Numerals
import Funge93.Proofs.Text.Terminators

/-!
# Programs of one row

On a program of one row, the pointer travels along a line of text. This module says what a tick does
there (`Along.tick`), and puts pieces of text together: what a piece makes of the stack and of the
console (`Leads`) does not depend on the text around it, and pieces in a row work one after another.

Results:
1. `Along.step`, `Along.tick`: an instruction that goes through, and the move after it.
2. `Leads.append`, `Leads.single`: pieces of text and single characters.
3. `Along.halt`: the halt instruction.
-/

namespace Funge93

theorem CodePoint.cell_inj {ch ch' : CodePoint} :
    Cell.ofInt ch.val = Cell.ofInt ch'.val ↔ ch = ch' := by
  rw [← Int64.toInt_inj, toInt_cell, toInt_cell, Int.natCast_inj, Fin.val_inj]

namespace Grid

variable {code : Text} {ch : CodePoint} {k : Nat}

theorem longest_singleton (code : Text) : longest [code] = code.length := Nat.max_zero _

theorem length_pos_of_getElem? (hk : code[k]? = some ch) : 0 < code.length :=
  Nat.zero_lt_of_lt (List.getElem?_eq_some_iff.mp hk).1

theorem width_row (h : 0 < code.length) : (ofLines [code]).width = code.length :=
  have hlongest : 0 < longest [code] := longest_singleton code ▸ h
  (width_ofLines hlongest).trans (longest_singleton code)

theorem height_row (h : 0 < code.length) : (ofLines [code]).height = 1 :=
  have hlongest : 0 < longest [code] := longest_singleton code ▸ h
  height_ofLines hlongest

theorem inBounds_row (hk : k < code.length) : (ofLines [code]).inBounds k 0 = true := by
  have hpos : 0 < code.length := Nat.zero_lt_of_lt hk
  rw [inBounds_iff, width_row hpos, height_row hpos]
  omega

theorem read_row (hk : code[k]? = some ch) :
    (ofLines [code]).read k 0 = .ok (some (Cell.ofInt ch.val)) := by
  have hlt := (List.getElem?_eq_some_iff.mp hk).1
  rw [read_of_inBounds (inBounds_row hlt)]
  have hlongest : k < longest [code] := (longest_singleton code).symm ▸ hlt
  have hrow : [code][0]? = some code := rfl
  have hcell := cell_ofLines hlongest hrow
  rw [hk] at hcell
  exact congrArg Except.ok hcell

/-- A text without line terminators is one row. -/
theorem ofText_row (h : code ≠ []) (hrow : ∀ ch ∈ code, ch.endsLine = false) :
    ofText code = ofLines [code] := congrArg ofLines (Text.lines_of_unbroken hrow h)

/-- Every step stays on the row. -/
theorem step_row (h : 0 < code.length) (k : Int) (d : Direction) :
    (ofLines [code]).step k 0 d = ((k + d.colDelta) % code.length, 0) := by
  unfold step wrap
  rw [width_row h, height_row h]
  exact congrArg _ (Int.emod_one _)

end Grid

namespace Machine

/-- What the pieces of a program work on: the stack, the text left unread, and the output. -/
structure Work where
  items : List Cell
  unread : Text
  written : Text
deriving DecidableEq, Repr

/-- `Along code d k w m`: the machine `m` runs without a budget on a program of one row, stands on
the character number `k`, is headed in the direction `d`, and works on `w`. -/
structure Along (code : Text) (d : Direction) (k : Nat) (w : Work) (m : Machine) : Prop where
  grid : m.grid = Grid.ofLines [code]
  col : m.col = k
  row : m.row = 0
  heading : m.heading = .toward d
  mode : m.mode = .command
  status : m.status = .running
  maxSteps : m.maxSteps = none
  console : m.console.InMemory
  items : m.stack.items = w.items
  unread : m.console.unread = w.unread
  written : m.console.written = w.written

/-- `Leads piece w w'`: wherever the piece stands in a row with something behind it, a machine that
comes to it from the left and works on `w` passes it in as many ticks as it has characters, and then
works on `w'`. -/
def Leads (piece : Text) (w w' : Work) : Prop :=
  ∀ (code before after : Text) (m : Machine), code = before ++ piece ++ after → after ≠ [] →
    Along code .right before.length w m →
    Along code .right (before.length + piece.length) w' (m.ticked piece.length)

variable {code : Text} {d d' : Direction} {j k k' : Nat} {w w' w'' : Work} {m m' : Machine}
  {ch : CodePoint} {i : Instruction}

/-! ## One tick -/

/-- A move along the row. -/
theorem advance_row (hg : m.grid = Grid.ofLines [code]) (hcol : m.col = k) (hrow : m.row = 0)
    (hh : m.heading = .toward d) (hpos : 0 < code.length)
    (hnext : ((k : Int) + d.colDelta) % code.length = k') :
    m.advance = .ok { m with col := k', row := 0 } := by
  unfold advance
  rw [hh]
  dsimp only
  rw [hg, hcol, hrow, Grid.step_row hpos, hnext]

namespace Along

theorem countStep (h : Along code d k w m) : Along code d k w m.countStep := { h with }

theorem isRunning (h : Along code d k w m) : m.isRunning = true := beq_of_eq h.status

theorem upcoming? (h : Along code d k w m) (hk : code[k]? = some ch)
    (hi : Instruction.ofCell (Cell.ofInt ch.val) = i) : m.upcoming? = some i := by
  have hbudget : m.countStep.exceeded? = none := by
    unfold exceeded?
    rw [show m.countStep.maxSteps = none from h.maxSteps]
    rfl
  have hread : m.grid.read m.col m.row = .ok (some (Cell.ofInt ch.val)) := by
    rw [h.grid, h.col, h.row]
    exact Grid.read_row hk
  rw [upcoming?_of_ok h.isRunning hbudget (by rw [h.mode]; decide) hread]
  exact congrArg some hi

theorem advance (h : Along code d k w m) (hpos : 0 < code.length)
    (hnext : ((k : Int) + d.colDelta) % code.length = k') :
    ∃ m', m.advance = .ok m' ∧ Along code d k' w m' :=
  ⟨_, advance_row h.grid h.col h.row h.heading hpos hnext, { h with col := rfl, row := rfl }⟩

/-- An instruction that goes through, on its character or on the next one, is followed by a move
along the row. -/
theorem step (h : Along code d k w m) (hk : code[k]? = some ch)
    (hi : Instruction.ofCell (Cell.ofInt ch.val) = i) (hx : m.countStep.execute i = .ok m')
    (h' : Along code d' j w' m') (hnext : ((j : Int) + d'.colDelta) % code.length = k') :
    ∃ done, m.step = .ok done ∧ Along code d' k' w' done := by
  obtain ⟨done, hadvance, hdone⟩ := h'.advance (Grid.length_pos_of_getElem? hk) hnext
  refine ⟨done, ?_, hdone⟩
  rw [step_of_upcoming (h.upcoming? hk hi), hx]
  show m'.moveOn = .ok done
  unfold moveOn
  rw [if_pos h'.isRunning, hadvance]

theorem tick (h : Along code d k w m) (hk : code[k]? = some ch)
    (hi : Instruction.ofCell (Cell.ofInt ch.val) = i) (hx : m.countStep.execute i = .ok m')
    (h' : Along code d' j w' m') (hnext : ((j : Int) + d'.colDelta) % code.length = k') :
    Along code d' k' w' m.tick.1 := by
  obtain ⟨done, hstep, hdone⟩ := h.step hk hi hx h' hnext
  rw [tick_of_ok h.isRunning hstep]
  exact hdone

/-- The halt instruction stops the machine where it is. -/
theorem halt (h : Along code d k w m) (hk : code[k]? = some ch)
    (hi : Instruction.ofCell (Cell.ofInt ch.val) = .halt) :
    m.tick.1 = { m.countStep with status := .halted } := by
  have hstep : m.step = .ok { m.countStep with status := .halted } := by
    rw [step_of_upcoming (h.upcoming? hk hi)]
    rfl
  rw [tick_of_ok h.isRunning hstep]

end Along

/-! ## Pieces of text -/

theorem Leads.append {piece more : Text} (h : Leads piece w w') (h' : Leads more w' w'') :
    Leads (piece ++ more) w w'' := by
  intro code before after m hcode hafter hm
  have hfirst := h code before (more ++ after) m (by rw [hcode]; simp only [List.append_assoc])
    (List.append_ne_nil_of_right_ne_nil more hafter) hm
  rw [← List.length_append] at hfirst
  have hsecond := h' code (before ++ piece) after _ (by rw [hcode]; simp only [List.append_assoc])
    hafter hfirst
  rw [List.length_append, ← ticked_add] at hsecond
  rwa [List.length_append, ← Nat.add_assoc]

/-- A single character leads on if its instruction goes through and keeps the machine headed right
along the row. -/
theorem Leads.single (hi : Instruction.ofCell (Cell.ofInt ch.val) = i)
    (hx : ∀ {code k m}, Along code .right k w m →
      ∃ m', m.execute i = .ok m' ∧ Along code .right k w' m') : Leads [ch] w w' := by
  intro code before after m hcode hafter hm
  obtain ⟨m', hexecute, hm'⟩ := hx hm.countStep
  have hk : code[before.length]? = some ch := by
    rw [hcode, List.append_assoc, List.getElem?_append_right (Nat.le_refl _), Nat.sub_self]
    rfl
  have hlength : before.length + 1 < code.length := by
    have hpos := List.length_pos_iff.mpr hafter
    rw [hcode, List.length_append, List.length_append, List.length_singleton]
    omega
  refine hm.tick hk hi hexecute hm' ?_
  show ((before.length : Int) + 1) % (code.length : Int) = _
  exact Int.emod_eq_of_lt (by omega) (by omega)

/-- A machine at its start stands on the first character. -/
theorem Along.start (h : code ≠ []) (hrow : ∀ ch ∈ code, ch.endsLine = false) (t : Text)
    (draws : Draws) :
    Along code .right 0 ⟨[], t, []⟩ (start (Grid.ofText code) (.buffer t) draws none) where
  grid := Grid.ofText_row h hrow
  col := rfl
  row := rfl
  heading := rfl
  mode := rfl
  status := rfl
  maxSteps := rfl
  console := Console.inMemory_buffer t
  items := rfl
  unread := rfl
  written := rfl

/-! ## What pieces work on -/

namespace Along

variable {u out : Text} {items : List Cell} {left right v : Cell}

theorem push (h : Along code d k ⟨items, u, out⟩ m) (v : Cell) :
    Along code d k ⟨v :: items, u, out⟩ (m.push v) :=
  { h with items := congrArg (List.cons v) h.items }

/-- The two topmost cells make way for a function of them. -/
theorem combine (h : Along code d k ⟨right :: left :: items, u, out⟩ m) (f : Cell → Cell → Cell) :
    Along code d k ⟨f left right :: items, u, out⟩ (m.combine f) := by
  refine { h with items := ?_ }
  show f (m.stack.items.tail.headD 0) (m.stack.items.headD 0) :: m.stack.items.tail.tail = _
  rw [h.items]
  rfl

/-- The top makes way for one if it is zero, and for zero otherwise. -/
theorem negate (h : Along code d k ⟨v :: items, u, out⟩ m) :
    ∃ m', m.execute .negate = .ok m' ∧
      Along code d k ⟨Cell.ofBool (v == 0) :: items, u, out⟩ m' := by
  refine ⟨_, rfl, { h with items := ?_ }⟩
  show Cell.ofBool (m.stack.items.headD 0 == 0) :: m.stack.items.tail = _
  rw [h.items]
  rfl

theorem execute_readChar {ch? : Option CodePoint} {c : Console}
    (hr : m.console.readChar = (.ok ch?, c)) :
    m.execute .readChar = .ok (({ m with console := c } : Machine).push
      ((ch?.map fun ch => Cell.ofInt ch.val).getD (-1))).countRead := by
  show m.read readCharCell (-1) = _
  unfold read readCharCell
  rw [hr]
  rfl

/-- The number ahead is pushed, or zero if there is none. -/
theorem readNumber (h : Along code d k ⟨items, u, out⟩ m) :
    ∃ m', m.execute .readNumber = .ok m' ∧
      Along code d k ⟨Cell.ofInt (u.numberAhead.1.getD 0) :: items, u.numberAhead.2, out⟩ m' := by
  obtain ⟨c, hread, hunread, -⟩ := Console.readNumber_of_unbroken h.console.input
  have hmemory := h.console.readNumber
  have houtput := (Console.readOn_readNumber m.console).output
  rw [hread] at hmemory houtput
  rw [show m.console.unread = u from h.unread] at hread hunread
  have hvalue : (u.numberAhead.1.map Cell.ofInt).getD 0 = Cell.ofInt (u.numberAhead.1.getD 0) := by
    cases u.numberAhead.1 <;> rfl
  refine ⟨_, execute_readNumber hread, { h with
    console := hmemory
    items := ?_
    unread := hunread
    written := (congrArg Output.text houtput).trans h.written }⟩
  rw [← hvalue]
  exact congrArg (List.cons _) h.items

/-- The next character is pushed, or -1 at the end of the input. -/
theorem readChar (h : Along code d k ⟨items, u, out⟩ m) :
    ∃ m', m.execute .readChar = .ok m' ∧ Along code d k
      ⟨Cell.ofInt (u.head?.elim (-1) fun ch => ch.val) :: items, u.tail, out⟩ m' := by
  obtain ⟨c, hread, hunread, -⟩ := Console.readChar_of_unbroken h.console.input
  have hmemory := h.console.readChar
  have houtput := (Console.readOn_readChar m.console).output
  rw [hread] at hmemory houtput
  rw [show m.console.unread = u from h.unread] at hread hunread
  have hvalue : (u.head?.map fun ch => Cell.ofInt ch.val).getD (-1) =
      Cell.ofInt (u.head?.elim (-1) fun ch => ch.val) := by
    cases u.head? <;> rfl
  refine ⟨_, execute_readChar hread, { h with
    console := hmemory
    items := ?_
    unread := hunread
    written := (congrArg Output.text houtput).trans h.written }⟩
  rw [← hvalue]
  exact congrArg (List.cons _) h.items

/-- The top is printed, with a space behind it. -/
theorem writeNumber (h : Along code d k ⟨v :: items, u, out⟩ m) :
    ∃ m', m.execute .writeNumber = .ok m' ∧
      Along code d k ⟨items, u, out ++ (Text.ofInt v.toInt ++ " ")⟩ m' := by
  have htop : m.stack.peek.toInt = v.toInt := by
    unfold Stack.peek
    rw [h.items]
    rfl
  obtain ⟨hnone, hmemory, hwritten⟩ := Console.writeNumber_of_inMemory h.console v.toInt
  let done : Machine :=
    { m with stack := m.stack.discard, console := (m.console.writeNumber v.toInt).2 }
  have hexecute : m.execute .writeNumber = .ok done.countWrite := by
    show m.write Console.writeNumber = _
    unfold write
    simp only [Stack.pop]
    rw [htop, hnone]
  refine ⟨_, hexecute, { h with
    console := hmemory
    items := ?_
    unread := h.unread
    written := hwritten.trans (congrArg (· ++ _) h.written) }⟩
  show m.stack.items.tail = _
  rw [h.items]
  rfl

theorem turn (h : Along code d k w m) (d' : Direction) :
    Along code d' k w { m with heading := .toward d' } := { h with heading := rfl }

/-- The top makes way for the direction that it chooses. -/
theorem branchHorizontally (h : Along code d k ⟨v :: items, u, out⟩ m) :
    Along code (if v = 0 then .right else .left) k ⟨items, u, out⟩ (m.branch .right .left) := by
  refine { h with heading := ?_, items := ?_ }
  · show Heading.toward (if m.stack.items.headD 0 = 0 then .right else .left) = _
    rw [h.items]
    rfl
  · show m.stack.items.tail = _
    rw [h.items]
    rfl

/-- The top is doubled, and an empty stack gets two zeros. -/
theorem duplicate (h : Along code d k ⟨items, u, out⟩ m) :
    Along code d k ⟨items.headD 0 :: items.headD 0 :: items.tail, u, out⟩
      { m with stack := m.stack.duplicate } := by
  refine { h with items := ?_ }
  show m.stack.items.headD 0 :: m.stack.items.headD 0 :: m.stack.items.tail = _
  rw [h.items]

/-- The character on top is written. -/
theorem writeChar (h : Along code d k ⟨Cell.ofInt ch.val :: items, u, out⟩ m) :
    ∃ m', m.execute .writeChar = .ok m' ∧ Along code d k ⟨items, u, out ++ [ch]⟩ m' := by
  have htop : CodePoint.ofInt? m.stack.peek.toInt = some ch := by
    unfold Stack.peek
    rw [h.items]
    exact CodePoint.ofInt?_eq_some.mpr ch.toInt_cell
  have hwrite : m.console.writeChar m.stack.peek.toInt =
      (none, { m.console with output := m.console.output.take [ch] }) := by
    unfold Console.writeChar
    rw [htop]
    exact Console.writeText_of_inMemory h.console [ch]
  have hmemory := h.console.writeChar m.stack.peek.toInt
  rw [hwrite] at hmemory
  let done : Machine :=
    { m with
      stack := m.stack.discard
      console := { m.console with output := m.console.output.take [ch] } }
  have hexecute : m.execute .writeChar = .ok done.countWrite := by
    show m.write Console.writeChar = _
    unfold write
    simp only [Stack.pop]
    rw [hwrite]
  refine ⟨_, hexecute, { h with
    console := hmemory
    items := ?_
    unread := h.unread
    written := (Output.text_take _ _).trans (congrArg (· ++ _) h.written) }⟩
  show m.stack.items.tail = _
  rw [h.items]
  rfl

end Along

end Machine

end Funge93
