import Funge93.Text.Basic

/-!
# Hexadecimal numerals

Numbers in lower-case hexadecimal with a fixed number of digits.
-/

namespace Funge93.Text

/-- The code point of a hexadecimal digit. -/
def hexDigit (d : Fin 16) : CodePoint :=
  if d.val < 10 then ⟨0x30 + d.val, by omega⟩ else ⟨0x57 + d.val, by omega⟩

/-- The last digits of a number in hexadecimal, as many as asked for. -/
def hex : Nat → Nat → Text
  | 0, _ => []
  | count + 1, n => hex count (n / 16) ++ [hexDigit ⟨n % 16, Nat.mod_lt _ (by decide)⟩]

theorem length_hex (count n : Nat) : (hex count n).length = count := by
  induction count generalizing n with
  | zero => rfl
  | succ count ih => rw [hex, List.length_append, ih, List.length_singleton]

example : hex 4 0xD80F = ("d80f" : Text) := by decide

end Funge93.Text
