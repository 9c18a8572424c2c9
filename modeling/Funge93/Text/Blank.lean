import Funge93.Text.Basic

/-!
# White space

The code points that count as white space at the end of a rendered row.
-/

namespace Funge93

/-- The white space of Unicode, the four information separators included. -/
def CodePoint.isBlank (c : CodePoint) : Bool :=
  c.inRanges [(0x09, 0x0D), (0x1C, 0x20), (0x85, 0x85), (0xA0, 0xA0), (0x1680, 0x1680),
    (0x2000, 0x200A), (0x2028, 0x2029), (0x202F, 0x202F), (0x205F, 0x205F), (0x3000, 0x3000)]

/-- Text without the white space at its end. -/
def Text.trimEnd (t : Text) : Text := (t.reverse.dropWhile CodePoint.isBlank).reverse

example : [' ', '\t', '\n', '\r'].all (fun c => (CodePoint.ofChar c).isBlank) = true := by decide

end Funge93
