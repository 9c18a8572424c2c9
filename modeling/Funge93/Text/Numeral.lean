import Funge93.Text.Blank
import Funge93.Text.DecimalDigit

/-!
# Reading integers

An integer may have white space around it, a sign, digits of any script, and single underscores
between its digits. It may have at most 4300 digits, leading zeros included. Every other text is
refused.
-/

namespace Funge93.Text

/-- The white space that may stand around an integer: all but the information separators. -/
def isMargin (c : CodePoint) : Bool := c.isBlank && !c.inRanges [(0x1C, 0x1F)]

/-- Text without the white space around it. -/
def trimMargins (t : Text) : Text :=
  ((t.dropWhile isMargin).reverse.dropWhile isMargin).reverse

/-- The underscore, which may stand between two digits. -/
def underscore : CodePoint := 0x5F

/-- The plus sign. -/
def plus : CodePoint := 0x2B

/-- Reads digits onto a number, given whether a digit stands right before them. -/
def readDigits? (value : Nat) (afterDigit : Bool) : Text → Option Nat
  | [] => if afterDigit then some value else none
  | c :: rest =>
    if c = underscore then if afterDigit then readDigits? value false rest else none
    else
      match c.decimalValue? with
      | some d => readDigits? (value * 10 + d) true rest
      | none => none

/-- The most digits that an integer may have. -/
def maxDigits : Nat := 4300

/-- The number of decimal digits in a text. -/
def countDigits (t : Text) : Nat := t.countP fun c => c.decimalValue?.isSome

/-- Reads an integer. -/
def readInt? (t : Text) : Option Int :=
  match trimMargins t with
  | [] => none
  | c :: rest =>
    if maxDigits < countDigits (c :: rest) then none
    else if c = CodePoint.minus then (readDigits? 0 false rest).map fun n => -(n : Int)
    else if c = plus then (readDigits? 0 false rest).map Int.ofNat
    else (readDigits? 0 false (c :: rest)).map Int.ofNat

example : readInt? " -1_0\n" = some (-10) := by decide
example : readInt? "1__0" = none ∧ readInt? "_1" = none ∧ readInt? "" = none := by decide

end Funge93.Text
