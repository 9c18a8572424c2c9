import Funge93.Cell
import Funge93.Console.Device

/-!
# Consoles

A console reads characters and numbers and writes text. It looks at most one character ahead: the
character that ends a number stays pending for the next read. Pending character and text not yet
read together are the `unread` text.

Reading a number skips to the first digit, takes the digits, and negates the number if a minus
sign stands right before them. The value wraps like a cell.

This file proves that taking a character is taking the first unread one (`unread_of_take`), which
is why reading a number ends.
-/

namespace Funge93

/-- The kinds of console. -/
inductive ConsoleKind
  /-- Keeps its text in memory, where it can be fed and drained. -/
  | buffer
  /-- Reads and writes streams. -/
  | stream
  /-- Has no devices. -/
  | bare
deriving DecidableEq, Repr

/-- A console over two devices, with the character it looked ahead at. -/
structure Console where
  kind : ConsoleKind
  pending : Option CodePoint
  input : Input
  output : Output

namespace Console

/-- A console in memory with some input. -/
def buffer (t : Text) : Console := ⟨.buffer, none, Input.ofText t, Output.unlimited⟩

/-- A console over two streams. -/
def stream (input : Input) (output : Output) : Console := ⟨.stream, none, input, output⟩

/-- A console in which every call fails for want of a device. -/
def bare : Console :=
  ⟨.bare, none, ⟨[], 0, some ⟨0, .absent⟩⟩,
    { Output.unlimited with breakdown := some ⟨0, .absent⟩ }⟩

/-- The text that the next reads meet. -/
def unread (c : Console) : Text := c.pending.toList ++ c.input.text

/-- The text written and not drained. -/
def written (c : Console) : Text := c.output.text

/-- Adds text at the end of the input. -/
def feed (c : Console) (t : Text) : Console :=
  { c with input := { c.input with text := c.input.text ++ t } }

/-- The text written so far, and the console without it. -/
def drain (c : Console) : Text × Console :=
  (c.written, { c with output := { c.output with held := #[] } })

/-- Takes the pending character or reads one; none at the end of the input. -/
def take (c : Console) : Except Failure (Option CodePoint × Console) :=
  match c.pending with
  | some ch => .ok (some ch, { c with pending := none })
  | none =>
    match c.input.next with
    | .error e => .error e.ofRead
    | .ok (ch, input) => .ok (ch, { c with input })

theorem unread_of_take {c c' : Console} {ch : Option CodePoint}
    (taken : c.take = .ok (ch, c')) : c.unread = ch.toList ++ c'.unread := by
  unfold take at taken
  split at taken
  · next first pending =>
    cases taken
    simp [unread, pending]
  · next pending =>
    split at taken <;> cases taken
    next read =>
    simp [unread, pending, Input.next_text read]

theorem length_unread_of_take {c c' : Console} {ch : CodePoint}
    (taken : c.take = .ok (some ch, c')) : c'.unread.length < c.unread.length := by
  rw [unread_of_take taken]
  simp

/-- Reads a character; none at the end of the input. -/
def readChar (c : Console) : Except Failure (Option CodePoint) × Console :=
  match c.take with
  | .error e => (.error e, c)
  | .ok (ch, c') => (.ok ch, c')

/-- The first digit of a number, and whether the number is negated. -/
structure Lead where
  negated : Bool
  digit : Fin 10
deriving DecidableEq, Repr

/-- Skips to the first digit, given whether a minus sign was the last character. A failed read
loses what was skipped. -/
def seekDigit (c : Console) (afterMinus : Bool) : Except Failure (Option Lead) × Console :=
  match _taken : c.take with
  | .error e => (.error e, c)
  | .ok (none, c') => (.ok none, c')
  | .ok (some ch, c') =>
    match Text.digit? ch with
    | some d => (.ok (some ⟨afterMinus, d⟩), c')
    | none => seekDigit c' (ch == CodePoint.minus)
termination_by c.unread.length
decreasing_by exact length_unread_of_take _taken

/-- Appends a digit to a number that wraps like a cell. -/
def appendDigit (value : Cell) (d : Fin 10) : Cell := value * 10 + Cell.ofInt d.val

/-- Takes the digits that continue a number. The character that ends them stays pending. -/
def takeDigits (c : Console) (value : Cell) : Except Failure Cell × Console :=
  match _taken : c.take with
  | .error e => (.error e, c)
  | .ok (none, c') => (.ok value, c')
  | .ok (some ch, c') =>
    match Text.digit? ch with
    | some d => takeDigits c' (appendDigit value d)
    | none => (.ok value, { c' with pending := some ch })
termination_by c.unread.length
decreasing_by exact length_unread_of_take _taken

/-- Reads a number; none if no digit is left. -/
def readNumber (c : Console) : Except Failure (Option Cell) × Console :=
  match c.seekDigit false with
  | (.error e, c') => (.error e, c')
  | (.ok none, c') => (.ok none, c')
  | (.ok (some lead), c') =>
    match c'.takeDigits (appendDigit 0 lead.digit) with
    | (.error e, c'') => (.error e, c'')
    | (.ok value, c'') => (.ok (some (if lead.negated then -value else value)), c'')

/-- Writes a text: the failure, if there is one, and the console as it then stands. -/
def writeText (c : Console) (t : Text) : Option Failure × Console :=
  match c.output.put t with
  | (e, output) => (e.map DeviceError.ofWrite, { c with output })

/-- Writes a number in decimal and a space. -/
def writeNumber (c : Console) (n : Int) : Option Failure × Console :=
  c.writeText (Text.ofInt n ++ " ")

/-- Writes the character with a given code. Other numbers write nothing. -/
def writeChar (c : Console) (n : Int) : Option Failure × Console :=
  match CodePoint.ofInt? n with
  | some ch => c.writeText [ch]
  | none => (some (.fault (.notACharacter n)), c)

theorem unread_feed (c : Console) (t : Text) : (c.feed t).unread = c.unread ++ t := by
  simp [unread, feed]

theorem unread_buffer (t : Text) : (buffer t).unread = t := rfl

theorem written_drain (c : Console) : c.drain.2.written = [] := rfl

end Console

end Funge93
