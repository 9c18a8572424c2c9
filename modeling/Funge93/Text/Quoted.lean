import Funge93.Text.Hex
import Funge93.Text.Printable

/-!
# Quoted text

Text in quotation marks as error messages show it. Single marks are used unless the text holds
single marks and no double ones. The mark in use and the backslash are escaped, and so is whatever
is not printable.
-/

namespace Funge93.Text

/-- The backslash. -/
def backslash : CodePoint := 0x5C

/-- The single quotation mark. -/
def singleMark : CodePoint := 0x27

/-- The double quotation mark. -/
def doubleMark : CodePoint := 0x22

/-- The mark that surrounds a text. -/
def markOf (t : Text) : CodePoint :=
  if singleMark ∈ t ∧ doubleMark ∉ t then doubleMark else singleMark

/-- A code point between two marks. -/
def escaped (mark c : CodePoint) : Text :=
  if c = mark ∨ c = backslash then [backslash, c]
  else if c.val = 0x09 then "\\t"
  else if c.val = 0x0A then "\\n"
  else if c.val = 0x0D then "\\r"
  else if c.isPrintable then [c]
  else if c.val ≤ 0xFF then "\\x" ++ hex 2 c.val
  else if c.val ≤ 0xFFFF then "\\u" ++ hex 4 c.val
  else "\\U" ++ hex 8 c.val

/-- A text between two marks. -/
def quoted (t : Text) : Text :=
  let mark := markOf t
  mark :: t.flatMap (escaped mark) ++ [mark]

end Funge93.Text
