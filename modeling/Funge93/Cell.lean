/-!
# Cells

The stack and the grid hold signed 64-bit integers. Every unbounded integer has one cell
(`Cell.ofInt`), and sums, differences and products of cells wrap.

Division comes in two forms:
* `truncDiv?` divides unbounded integers toward zero and refuses the divisor zero;
* `Cell.quotient` and `Cell.remainder` divide cells and give zero for the divisor zero.

This file proves that the two agree (`toInt_quotient`, `toInt_remainder`).
-/

namespace Funge93

/-- A value of the stack or the grid. -/
abbrev Cell := Int64

/-- The quotient of two integers rounded toward zero. The divisor zero has no quotient. -/
def truncDiv? (b a : Int) : Option Int :=
  if a = 0 then none else some (b.tdiv a)

namespace Cell

/-- The cell that is congruent to an integer modulo 2^64. -/
abbrev ofInt (n : Int) : Cell := Int64.ofInt n

/-- The quotient rounded toward zero. The divisor zero gives zero, and -2^63 by -1 wraps. -/
def quotient (b a : Cell) : Cell := if a = 0 then 0 else b / a

/-- What `quotient` leaves over. The divisor zero leaves zero. -/
def remainder (b a : Cell) : Cell := if a = 0 then 0 else b % a

/-- The cell 1 for a true statement and 0 for a false one. -/
def ofBool (b : Bool) : Cell := if b then 1 else 0

theorem toInt_ofInt (n : Int) : (ofInt n).toInt = n.bmod Int64.size := Int64.toInt_ofInt

theorem ofInt_toInt (c : Cell) : ofInt c.toInt = c := Int64.ofInt_toInt c

theorem toInt_ne_zero {a : Cell} (nonzero : a ≠ 0) : a.toInt ≠ 0 := fun zero =>
  nonzero (Int64.toInt_inj.mp zero)

theorem toInt_quotient {a : Cell} (b : Cell) (nonzero : a ≠ 0) :
    (quotient b a).toInt = (b.toInt.tdiv a.toInt).bmod Int64.size := by
  rw [quotient, if_neg nonzero, Int64.toInt_div]

theorem toInt_remainder {a : Cell} (b : Cell) (nonzero : a ≠ 0) :
    (remainder b a).toInt = b.toInt.tmod a.toInt := by
  rw [remainder, if_neg nonzero, Int64.toInt_mod]

theorem quotient_zero (b : Cell) : quotient b 0 = 0 := if_pos rfl

theorem remainder_zero (b : Cell) : remainder b 0 = 0 := if_pos rfl

example : quotient (-7) 2 = -3 ∧ remainder (-7) 2 = -1 := by decide
example : quotient (-9223372036854775808) (-1) = -9223372036854775808 := by decide

end Cell

end Funge93
