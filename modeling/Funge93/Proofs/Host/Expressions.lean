import Funge93.Proofs.Host.Sessions
import Funge93.Proofs.Machine.OneRow
import Funge93.Proofs.Machine.Wrapping

/-!
# Compiled expressions

An expression of digits, reads from the input and arithmetic is compiled to a program of one row:
the operands first, then the operator. This module proves that the program prints the value of the
expression, whatever the input, and that it does so in as many steps as it has characters.

A value is defined over the integers, for any way to wrap them (`Expression.value`). Programs wrap
to 64 bits after each operation. For sums, differences and products it is enough to wrap once.

Results:
1. `Expression.leads_code`: what a compiled expression does, in any row and on any stack.
2. `Expression.value_of_isPolynomial`: where it does not matter when the values are wrapped.
3. `runText_expression`: the run of a compiled expression.
-/

namespace Funge93

/-- An expression over digits and the input. -/
inductive Expression
  | digit (d : Fin 10)
  /-- The next number of the input, or zero. -/
  | readNumber
  /-- The code of the next character of the input, or -1. -/
  | readChar
  | binary (o : Operator) (left right : Expression)
  /-- One for zero, and zero for any other number. -/
  | negate (e : Expression)
deriving DecidableEq, Repr

namespace Expression

/-- The characters of an expression: operands from left to right, and operators behind them. -/
def code : Expression → Text
  | digit d => [Text.digit d]
  | readNumber => [0x26]
  | readChar => [0x7E]
  | binary o left right => left.code ++ right.code ++ [o.symbol]
  | negate e => e.code ++ [0x21]

/-- The value of an expression on an input, and the input that is left. Numbers that are read and
results of operators are wrapped. -/
def value (wrap : Int → Int) : Expression → Text → Int × Text
  | digit d, u => (d.val, u)
  | readNumber, u => (wrap (u.numberAhead.1.getD 0), u.numberAhead.2)
  | readChar, u => (u.head?.elim (-1) fun ch => ch.val, u.tail)
  | binary o left right, u =>
    let a := left.value wrap u
    let b := right.value wrap a.2
    (wrap (o.onIntegers a.1 b.1), b.2)
  | negate e, u =>
    let a := e.value wrap u
    (if a.1 = 0 then 1 else 0, a.2)

/-- The expression consists of digits, numbers that are read, sums, differences and products. -/
def isPolynomial : Expression → Bool
  | digit _ => true
  | readNumber => true
  | readChar => false
  | binary o left right => o.isPolynomial && left.isPolynomial && right.isPolynomial
  | negate _ => false

end Expression

variable {E : Expression}

/-! ## Values -/

theorem wrapped_of_lt {n : Int} (hlow : -1 ≤ n) (hhigh : n < 0x110000) : wrapped n = n :=
  Int64.toInt_ofInt_of_le (by omega) (by omega)

namespace Expression

/-- The values of a program are numbers of 64 bits. -/
theorem wrapped_value (E : Expression) (u : Text) :
    wrapped (E.value wrapped u).1 = (E.value wrapped u).1 := by
  cases E with
  | digit d =>
    show wrapped (d.val : Int) = d.val
    exact wrapped_of_lt (by omega) (by omega)
  | readNumber => exact wrapped_wrapped _
  | readChar =>
    show wrapped (u.head?.elim (-1) fun ch => (ch.val : Int)) =
      u.head?.elim (-1) fun ch => (ch.val : Int)
    cases u.head? with
    | none => rfl
    | some ch =>
      show wrapped (ch.val : Int) = ch.val
      exact wrapped_of_lt (by omega) (by omega)
  | binary o left right => exact wrapped_wrapped _
  | negate e =>
    have hbit (P : Prop) [Decidable P] : wrapped (if P then 1 else 0) = if P then 1 else 0 := by
      split <;> rfl
    exact hbit _

/-- Sums, differences and products of digits and of numbers that are read can be computed exactly
and wrapped in the end. -/
theorem value_of_isPolynomial (hE : E.isPolynomial = true) (u : Text) :
    E.value wrapped u = (wrapped (E.value id u).1, (E.value id u).2) := by
  induction E generalizing u with
  | digit d =>
    have hdigit : wrapped d.val = d.val := wrapped_of_lt (by omega) (by omega)
    exact Prod.ext hdigit.symm rfl
  | readNumber => rfl
  | readChar | negate => cases hE
  | binary o left right ihleft ihright =>
    unfold isPolynomial at hE
    rw [Bool.and_eq_true, Bool.and_eq_true] at hE
    obtain ⟨⟨ho, hleft⟩, hright⟩ := hE
    unfold value
    dsimp only
    rw [ihleft hleft, ihright hright]
    exact Prod.ext (Operator.wrapped_onIntegers ho _ _) rfl

end Expression

/-! ## Compiled expressions -/

namespace Expression

open Machine in
/-- A compiled expression pushes its value and takes what it reads from the input. -/
theorem leads_code (E : Expression) (items : List Cell) (u out : Text) :
    Leads E.code ⟨items, u, out⟩
      ⟨Cell.ofInt (E.value wrapped u).1 :: items, (E.value wrapped u).2, out⟩ := by
  -- The right operand is computed with the left one on the stack, so the stack is generalised.
  induction E generalizing items u with
  | digit d =>
    have hd : Instruction.ofCell (Cell.ofInt (Text.digit d).val) = .digit d := by
      revert d
      decide
    exact .single hd fun h => ⟨_, rfl, h.push _⟩
  | readNumber =>
    show Leads _ _ ⟨Cell.ofInt (wrapped (u.numberAhead.1.getD 0)) :: items, _, out⟩
    rw [ofInt_wrapped]
    exact .single (i := .readNumber) rfl fun h => h.readNumber
  | readChar => exact .single (i := .readChar) rfl fun h => h.readChar
  | binary o left right ihleft ihright =>
    have hoperator (a b : Cell) (u : Text) :
        Leads [o.symbol] ⟨b :: a :: items, u, out⟩ ⟨o.onCells a b :: items, u, out⟩ :=
      .single o.ofCell_symbol fun h => ⟨_, o.execute_instruction _, h.combine o.onCells⟩
    let a := left.value wrapped u
    let b := right.value wrapped a.2
    have hresult : o.onCells (Cell.ofInt a.1) (Cell.ofInt b.1) =
        Cell.ofInt (wrapped (o.onIntegers a.1 b.1)) := by
      calc
        o.onCells (Cell.ofInt a.1) (Cell.ofInt b.1)
          = Cell.ofInt (o.onIntegers (wrapped a.1) (wrapped b.1)) := o.onCells_eq _ _
        _ = Cell.ofInt (o.onIntegers a.1 b.1) := by rw [wrapped_value left, wrapped_value right]
        _ = Cell.ofInt (wrapped (o.onIntegers a.1 b.1)) := (ofInt_wrapped _).symm
    have hafter := hoperator (Cell.ofInt a.1) (Cell.ofInt b.1) b.2
    rw [hresult] at hafter
    exact ((ihleft items u).append (ihright (Cell.ofInt a.1 :: items) a.2)).append hafter
  | negate e ih =>
    let a := e.value wrapped u
    have hresult : Cell.ofBool (Cell.ofInt a.1 == 0) = Cell.ofInt (if a.1 = 0 then 1 else 0) := by
      have hzero : Cell.ofInt a.1 = 0 ↔ a.1 = 0 := by
        rw [← Int64.toInt_inj]
        show wrapped a.1 = 0 ↔ _
        rw [wrapped_value e]
      by_cases h : a.1 = 0
      · rw [if_pos h, beq_iff_eq.mpr (hzero.mpr h)]
        rfl
      · rw [if_neg h, beq_eq_false_iff_ne.mpr (mt hzero.mp h)]
        rfl
    have hafter : Leads [0x21] ⟨Cell.ofInt a.1 :: items, a.2, out⟩
        ⟨Cell.ofBool (Cell.ofInt a.1 == 0) :: items, a.2, out⟩ :=
      .single (i := .negate) rfl fun h => h.negate
    rw [hresult] at hafter
    exact (ih items u).append hafter

theorem endsLine_of_mem_code {ch : CodePoint} (hch : ch ∈ E.code) : ch.endsLine = false := by
  induction E with
  | digit d =>
    rw [code, List.mem_singleton] at hch
    subst hch
    revert d
    decide
  | readNumber | readChar =>
    rw [code, List.mem_singleton] at hch
    subst hch
    rfl
  | binary o left right ihleft ihright =>
    rw [code, List.mem_append, List.mem_append, List.mem_singleton] at hch
    rcases hch with (hleft | hright) | rfl
    · exact ihleft hleft
    · exact ihright hright
    · cases o <;> rfl
  | negate e ih =>
    rw [code, List.mem_append, List.mem_singleton] at hch
    rcases hch with hch | rfl
    · exact ih hch
    · rfl

/-- The expression, then an instruction to print the value, then one to halt. -/
def program (E : Expression) : Text := E.code ++ ".@"

theorem program_ne_nil (E : Expression) : E.program ≠ [] :=
  List.append_ne_nil_of_right_ne_nil E.code (by decide)

theorem endsLine_of_mem_program {ch : CodePoint} (hch : ch ∈ E.program) : ch.endsLine = false := by
  have hlast : ∀ ch ∈ (".@" : Text), ch.endsLine = false :=
    List.forall_mem_cons.mpr ⟨rfl, List.forall_mem_singleton.mpr rfl⟩
  rcases List.mem_append.mp hch with hcode | hch
  · exact endsLine_of_mem_code hcode
  · exact hlast ch hch

open Machine in
/-- The program of an expression prints the value and comes to its last character. -/
theorem along_program (E : Expression) (input : Text) (draws : Draws) :
    ∃ u, Along E.program .right (E.code.length + 1)
      ⟨[], u, Text.ofInt (E.value wrapped input).1 ++ " "⟩
      ((start (Grid.ofText E.program) (.buffer input) draws none).ticked (E.code.length + 1)) := by
  let v := E.value wrapped input
  have hprint : Leads [0x2E] ⟨[Cell.ofInt v.1], v.2, []⟩
      ⟨[], v.2, Text.ofInt (Cell.ofInt v.1).toInt ++ " "⟩ :=
    .single (i := .writeNumber) rfl fun h => h.writeNumber
  have hstart := Along.start E.program_ne_nil (fun _ => endsLine_of_mem_program) input draws
  have hprogram : E.program = [] ++ (E.code ++ [0x2E]) ++ [0x40] :=
    (List.append_assoc E.code [0x2E] [0x40]).symm
  have hlast := ((E.leads_code [] input []).append hprint) E.program [] [0x40] _ hprogram
    (List.cons_ne_nil _ _) hstart
  rw [List.length_append, List.length_nil, Nat.zero_add] at hlast
  rw [show (Cell.ofInt v.1).toInt = v.1 from E.wrapped_value input] at hlast
  exact ⟨_, hlast⟩

end Expression

/-- Take any expression, and let its program run on any input without a budget. It halts after as
many steps as it has characters, with an empty stack, and its output is the value of the expression.
If the expression consists of digits, numbers that are read, sums, differences and products, the
value is the exact one, wrapped in the end. -/
theorem runText_expression (E : Expression) (input : Text) (seed : Option Int) (bound : Nat)
    (hbound : E.code.length + 2 ≤ bound) :
    (∃ r, runText (E.code ++ ".@") input seed none none false bound = .ok r ∧
      r.status = .halted ∧ r.stats.counters.steps = E.code.length + 2 ∧ r.stack = [] ∧
      r.output = some (Text.ofInt (E.value wrapped input).1 ++ " ")) ∧
    (E.isPolynomial = true → (E.value wrapped input).1 = wrapped (E.value id input).1) := by
  refine ⟨?_, fun hE => congrArg Prod.fst (E.value_of_isPolynomial hE input)⟩
  let m := Machine.start (Grid.ofText E.program) (.buffer input) (Draws.ofSeed seed) none
  obtain ⟨u, hlast⟩ := E.along_program input (Draws.ofSeed seed)
  have hhalt : E.program[E.code.length + 1]? = some 0x40 := by
    unfold Expression.program
    rw [List.getElem?_append_right (Nat.le_add_right _ _), Nat.add_sub_cancel_left]
    rfl
  have hend : m.ticked (E.code.length + 2) =
      { (m.ticked (E.code.length + 1)).countStep with status := .halted } := by
    rw [Machine.ticked_succ]
    exact hlast.halt hhalt rfl
  have hsteps : (m.ticked (E.code.length + 1)).counters.steps = E.code.length + 1 :=
    (Machine.steps_ticked hlast.isRunning).trans (Nat.zero_add _)
  have hkind : (m.ticked (E.code.length + 1)).console.kind = .buffer :=
    Machine.ticked_keeps (P := fun m => m.console.kind = .buffer)
      (fun h => (Machine.kind_tick _).trans h) rfl _
  have hconsole : (Console.buffer input).FaultsOnly := ⟨nofun, nofun⟩
  have hm : m.FaultsOnly := .start hconsole (Draws.proper_ofSeed seed) none
  have hrun : m.run bound = (m.ticked (E.code.length + 2), .stopped) :=
    Machine.run_of_stopped_of_le hm rfl (by rw [hend]; rfl) hbound
  refine ⟨_, (Host.runText_eq_report _ input seed none none bound).trans
    (congrArg Host.report hrun), ?_⟩
  rw [hend]
  exact ⟨rfl, congrArg (· + 1) hsteps, congrArg List.reverse hlast.items,
    (if_pos hkind).trans (congrArg some hlast.written)⟩

/-- The successor of the greatest number of 64 bits is the least one. -/
theorem runText_expression_overflow :
    let E : Expression := .binary .add .readNumber (.digit 1)
    E.code.length + 2 ≤ 5 ∧
    (∃ r, runText "&1+.@" "9223372036854775807" none none none false 5 = .ok r ∧
      r.status = .halted ∧ r.stats.counters.steps = 5 ∧ r.stack = [] ∧
      r.output = some ("-9223372036854775808 " : Text)) ∧
    (E.value wrapped "9223372036854775807").1 = wrapped 9223372036854775808 := by
  intro E
  have h := runText_expression E "9223372036854775807" none 5 (by decide)
  have hvalue : (E.value wrapped "9223372036854775807").1 = -9223372036854775808 := by decide
  have hcode : E.code ++ ".@" = ("&1+.@" : Text) := by decide
  have hprinted : Text.ofInt (-9223372036854775808) ++ " " = ("-9223372036854775808 " : Text) := by
    decide +kernel
  rw [hvalue, hcode, hprinted] at h
  exact ⟨by decide, h.1, by decide⟩

end Funge93
