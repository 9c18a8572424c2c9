import Mathlib.Data.Int.Bitwise
import Mathlib.Data.Int.ModEq
import Funge93.Proofs.Machine.Division
import Funge93.Proofs.Machine.Upcoming

/-!
# Wrapped arithmetic

Every integer, of any size and sign, has one cell: the only one that is congruent to it modulo 2^64.
In terms of bits, the cell keeps the lowest 64 of them and takes the highest of these for the sign.
Below zero these are the bits of an infinite two's complement, of which no cell keeps more than the
residue. This module proves that the two descriptions agree.

Sums, differences and products keep congruence. So they may be computed on integers and wrapped in
the end, or on cells that were wrapped before. Quotients, remainders and comparisons may not: they
depend on which of the congruent integers is meant, and it is the one that the cell stands for.

Results:
1. `eq_wrapped_iff`, `signedBits_eq_wrapped`: wrapping by congruence, and by bits.
2. `Operator.ofInt_onIntegers`, `Operator.onCells_eq`: wrapping before an operator or after it.
3. `wrapped_arithmetic`: sums, differences and products of pushed integers on any stack.
-/

namespace Funge93

/-- The signed number of 64 bits that is congruent to an integer. -/
def wrapped (n : Int) : Int := (Cell.ofInt n).toInt

/-- The lowest 64 bits of an integer in two's complement, read as a signed number: the highest of
them counts below zero. -/
def signedBits (n : Int) : Int :=
  let low := n.land (Int64.size - 1)
  if low >>> (63 : Nat) ≠ 0 then low - Int64.size else low

/-- An operator with two operands. -/
inductive Operator
  | add | subtract | multiply | divide | remainder | greater
deriving DecidableEq, Repr

namespace Operator

/-- The character of an operator. -/
def symbol : Operator → CodePoint
  | add => 0x2B
  | subtract => 0x2D
  | multiply => 0x2A
  | divide => 0x2F
  | remainder => 0x25
  | greater => 0x60

/-- The operator on integers. Quotients are rounded toward zero, and dividing by zero gives zero. -/
def onIntegers : Operator → Int → Int → Int
  | add, left, right => left + right
  | subtract, left, right => left - right
  | multiply, left, right => left * right
  | divide, left, right => if right = 0 then 0 else left.tdiv right
  | remainder, left, right => if right = 0 then 0 else left.tmod right
  | greater, left, right => if left > right then 1 else 0

/-- Sums, differences and products. -/
def isPolynomial : Operator → Bool
  | add => true
  | subtract => true
  | multiply => true
  | _ => false

/-- The instruction of an operator. -/
def instruction : Operator → Instruction
  | add => .add
  | subtract => .subtract
  | multiply => .multiply
  | divide => .divide
  | remainder => .remainder
  | greater => .greater

/-- The operator on cells. -/
def onCells : Operator → Cell → Cell → Cell
  | add, left, right => left + right
  | subtract, left, right => left - right
  | multiply, left, right => left * right
  | divide, left, right => Cell.quotient left right
  | remainder, left, right => Cell.remainder left right
  | greater, left, right => Cell.ofBool (decide (left > right))

end Operator

variable {o : Operator}

/-! ## The cell of an integer -/

theorem ofInt_wrapped (n : Int) : Cell.ofInt (wrapped n) = Cell.ofInt n :=
  Cell.ofInt_toInt (Cell.ofInt n)

theorem wrapped_wrapped (n : Int) : wrapped (wrapped n) = wrapped n :=
  congrArg Int64.toInt (ofInt_wrapped n)

theorem wrapped_of_isCellValue {n : Int} (h : Machine.IsCellValue n) : wrapped n = n :=
  Int64.toInt_ofInt_of_le h.1 h.2

theorem wrapped_modEq (n : Int) : wrapped n ≡ n [ZMOD Int64.size] := by
  unfold wrapped
  rw [Cell.toInt_ofInt]
  exact Int.bmod_emod

theorem wrapped_congr {n n' : Int} (h : n ≡ n' [ZMOD Int64.size]) : wrapped n = wrapped n' := by
  unfold wrapped
  rw [Cell.toInt_ofInt, Cell.toInt_ofInt, ← Int.emod_bmod n, h, Int.emod_bmod]

/-- Among the integers that fit into a cell, an integer is congruent to one and only one. -/
theorem eq_wrapped_iff {n c : Int} :
    c = wrapped n ↔ Machine.IsCellValue c ∧ c ≡ n [ZMOD Int64.size] := by
  constructor
  · rintro rfl
    exact ⟨Machine.isCellValue_toInt _, wrapped_modEq n⟩
  · rintro ⟨hfits, hsame⟩
    rw [← wrapped_congr hsame, wrapped_of_isCellValue hfits]

/-! ## The bits of an integer -/

/-- The bits of a mask that a number does not have. -/
theorem ldiff_mask (k m : Nat) : Nat.ldiff (2 ^ k - 1) m = 2 ^ k - 1 - m % 2 ^ k := by
  refine Nat.eq_of_testBit_eq fun i => ?_
  have hlt : m % 2 ^ k < 2 ^ k := Nat.mod_lt m (Nat.two_pow_pos k)
  rw [Nat.testBit_ldiff, Nat.testBit_two_pow_sub_one, Nat.sub_sub, Nat.add_comm 1,
    Nat.testBit_two_pow_sub_succ hlt, Nat.testBit_mod_two_pow]
  cases decide (i < k) <;> simp

/-- The lowest 64 bits are the residue, below zero as well. -/
theorem land_mask (n : Int) : n.land (Int64.size - 1) = n % Int64.size := by
  have hmask : (Int64.size : Int) - 1 = ((2 ^ 64 - 1 : Nat) : Int) := rfl
  rw [hmask]
  cases n with
  | ofNat m =>
    show ((m &&& (2 ^ 64 - 1) : Nat) : Int) = ((m % Int64.size : Nat) : Int)
    rw [Nat.and_two_pow_sub_one_eq_mod]
  | negSucc m =>
    show ((Nat.ldiff (2 ^ 64 - 1) m : Nat) : Int) = _
    rw [ldiff_mask, Int.negSucc_emod m (by decide)]
    show ((18446744073709551615 - m % 18446744073709551616 : Nat) : Int) =
      18446744073709551615 - m % 18446744073709551616
    omega

theorem signedBits_eq_wrapped (n : Int) : signedBits n = wrapped n := by
  have hsize : (Int64.size : Int) = 18446744073709551616 := rfl
  have hlow : 0 ≤ n % Int64.size := Int.emod_nonneg n (by decide)
  have hhigh : n % Int64.size < Int64.size := Int.emod_lt_of_pos n (by decide)
  have hsame : n % Int64.size ≡ n [ZMOD Int64.size] := Int.mod_modEq n Int64.size
  have hsign : (n % Int64.size) >>> (63 : Nat) = n % Int64.size / 9223372036854775808 :=
    Int.shiftRight_eq_div_pow _ _
  rw [eq_wrapped_iff]
  unfold signedBits Machine.IsCellValue
  dsimp only
  rw [land_mask, hsign]
  split
  · exact ⟨by omega, (Int.sub_emod_right _ _).trans hsame⟩
  · exact ⟨by omega, hsame⟩

/-! ## Operators -/

/-- Sums, differences and products may be wrapped before or after. -/
theorem Operator.ofInt_onIntegers (ho : o.isPolynomial = true) (left right : Int) :
    Cell.ofInt (o.onIntegers left right) = o.onCells (Cell.ofInt left) (Cell.ofInt right) := by
  cases o with
  | add => exact Int64.ofInt_add left right
  | subtract => exact Int64.ofInt_sub left right
  | multiply => exact Int64.ofInt_mul left right
  | divide | remainder | greater => cases ho

example : Cell.ofInt (Operator.divide.onIntegers 18446744073709551618 2) ≠
    Operator.divide.onCells (Cell.ofInt 18446744073709551618) (Cell.ofInt 2) := by decide

theorem Operator.wrapped_onIntegers (ho : o.isPolynomial = true) (left right : Int) :
    wrapped (o.onIntegers (wrapped left) (wrapped right)) = wrapped (o.onIntegers left right) := by
  unfold wrapped
  rw [ofInt_onIntegers ho, ofInt_onIntegers ho, Cell.ofInt_toInt, Cell.ofInt_toInt]

/-- The operators on cells are those on integers, wrapped. -/
theorem Operator.onCells_eq (o : Operator) (left right : Cell) :
    o.onCells left right = Cell.ofInt (o.onIntegers left.toInt right.toInt) := by
  have hzero : right.toInt = 0 ↔ right = 0 := Int64.toInt_inj (y := 0)
  cases o with
  | add | subtract | multiply =>
    rw [ofInt_onIntegers rfl, Cell.ofInt_toInt, Cell.ofInt_toInt]
  | divide =>
    show Cell.quotient left right =
      Cell.ofInt (if right.toInt = 0 then 0 else left.toInt.tdiv right.toInt)
    by_cases h : right = 0
    · rw [if_pos (hzero.mpr h), h, Cell.quotient_zero]
      rfl
    · rw [if_neg (mt hzero.mp h), Machine.ofInt_tdiv_toInt h]
  | remainder =>
    show Cell.remainder left right =
      Cell.ofInt (if right.toInt = 0 then 0 else left.toInt.tmod right.toInt)
    by_cases h : right = 0
    · rw [if_pos (hzero.mpr h), h, Cell.remainder_zero]
      rfl
    · rw [if_neg (mt hzero.mp h), Machine.ofInt_tmod_toInt h]
  | greater =>
    show Cell.ofBool (decide (right < left)) =
      Cell.ofInt (if right.toInt < left.toInt then 1 else 0)
    by_cases h : right < left
    · rw [decide_eq_true h, if_pos (Int64.lt_iff_toInt_lt.mp h)]
      rfl
    · rw [decide_eq_false h, if_neg (mt Int64.lt_iff_toInt_lt.mpr h)]
      rfl

theorem Operator.ofCell_symbol (o : Operator) :
    Instruction.ofCell (Cell.ofInt o.symbol.val) = o.instruction := by
  cases o <;> rfl

theorem Operator.execute_instruction (o : Operator) (m : Machine) :
    m.execute o.instruction = .ok (m.combine o.onCells) := by
  cases o <;> rfl

namespace Machine

/-! ## The instructions -/

theorem execute_pushed (ho : o.isPolynomial = true) (m : Machine) (a b : Int) :
    ((m.push (Cell.ofInt a)).push (Cell.ofInt b)).execute o.instruction =
      .ok (((m.push (Cell.ofInt a)).push (Cell.ofInt b)).replacePair
        (Cell.ofInt (o.onIntegers a b))) := by
  rw [o.execute_instruction, combine_eq, Operator.ofInt_onIntegers ho]
  rfl

/-- The integer that a cell stands for is the only one of 64 bits that is congruent to the integer
that the cell was made of, and it is what the lowest 64 bits of that integer spell. Push any two
integers on the stack of any machine. The instruction of a sum, a difference or a product takes the
two away and leaves the cell of the exact result on top of the old stack. So does a tick that
executes the instruction. -/
theorem wrapped_arithmetic :
    (∀ n, wrapped n = signedBits n) ∧
    (∀ n c : Int, c = wrapped n ↔ IsCellValue c ∧ c ≡ n [ZMOD Int64.size]) ∧
    ∀ (o : Operator), o.isPolynomial = true → ∀ (m : Machine) (a b : Int),
      let pushed := (m.push (Cell.ofInt a)).push (Cell.ofInt b)
      let result := pushed.replacePair (Cell.ofInt (o.onIntegers a b))
      pushed.execute (Instruction.ofCell (Cell.ofInt o.symbol.val)) = .ok result ∧
      result.stack.peek.toInt = wrapped (o.onIntegers a b) ∧
      result.stack.discard.items = m.stack.items ∧
      (pushed.upcoming? = some o.instruction → pushed.tick.1.stack = result.stack) := by
  refine ⟨fun n => (signedBits_eq_wrapped n).symm, fun n c => eq_wrapped_iff, ?_⟩
  intro o ho m a b pushed result
  refine ⟨?_, rfl, rfl, fun hi => ?_⟩
  · rw [o.ofCell_symbol]
    exact execute_pushed ho m a b
  · -- A step counts itself first, which the stack does not depend on.
    have hstep : pushed.countStep.execute o.instruction =
        .ok (pushed.countStep.replacePair (Cell.ofInt (o.onIntegers a b))) :=
      execute_pushed ho m.countStep a b
    exact (stack_tick hi hstep).trans rfl

/-- Two integers that are no cell values and whose sum wraps again. -/
theorem wrapped_arithmetic_overflow :
    let m := (start (.ofText "+") (.buffer "") (.ofSeed none) none).push 7
    let pushed := (m.push (Cell.ofInt 27670116110564327423)).push
      (Cell.ofInt (-18446744073709551615))
    pushed.upcoming? = some .add ∧
      pushed.tick.1.stack.contents.map Int64.toInt = [7, -9223372036854775808] := by
  intro m pushed
  have hupcoming : pushed.upcoming? = some .add := by decide +kernel
  have htick := (wrapped_arithmetic.2.2 .add rfl m 27670116110564327423
    (-18446744073709551615)).2.2.2 hupcoming
  refine ⟨hupcoming, ?_⟩
  rw [htick]
  decide +kernel

end Machine

end Funge93
