import Funge93.Fault
import Funge93.Text.Utf8

/-!
# Devices

A console reads from an input device and writes to an output device. Either can be set to break
down: it works for a number of calls and fails in every later one. Each device counts the calls
that worked, a read at the end of the input included.
-/

namespace Funge93

/-- Why a device fails. -/
inductive DeviceError
  /-- The device refuses the call. -/
  | refused (reason : Text)
  /-- The device breaks down in another way. -/
  | broken (message : Text)
  /-- There is no device. -/
  | absent
deriving DecidableEq, Repr

namespace DeviceError

/-- A failed read as a failure of the machine. -/
def ofRead : DeviceError → Failure
  | refused reason => .fault (.inputFailed reason)
  | broken message => .misuse (.deviceBroken message)
  | absent => .misuse .noDevice

/-- A failed write as a failure of the machine. -/
def ofWrite : DeviceError → Failure
  | refused reason => .fault (.outputFailed reason)
  | broken message => .misuse (.deviceBroken message)
  | absent => .misuse .noDevice

end DeviceError

/-- A device works for some calls and fails in every later one. -/
structure Breakdown where
  after : Nat
  error : DeviceError
deriving DecidableEq, Repr

/-- The failure of the next call, given how many calls worked so far. -/
def Breakdown.due (planned : Option Breakdown) (calls : Nat) : Option DeviceError :=
  planned.bind fun b => if b.after ≤ calls then some b.error else none

/-- An input device: the text not yet read, and the number of reads that worked. -/
structure Input where
  text : Text
  reads : Nat
  breakdown : Option Breakdown
deriving DecidableEq, Repr

namespace Input

/-- A device that reads a text and never fails. -/
def ofText (t : Text) : Input := ⟨t, 0, none⟩

/-- Reads one character; none at the end of the input. -/
def next (i : Input) : Except DeviceError (Option CodePoint × Input) :=
  match Breakdown.due i.breakdown i.reads with
  | some e => .error e
  | none => .ok (i.text.head?, { i with text := i.text.tail, reads := i.reads + 1 })

theorem next_text {i i' : Input} {c : Option CodePoint} (read : i.next = .ok (c, i')) :
    i.text = c.toList ++ i'.text := by
  unfold next at read
  split at read <;> cases read
  cases i.text <;> rfl

end Input

/-- Which part of a write fails. -/
inductive WriteStage
  /-- The text is refused, and nothing of it is kept. -/
  | write
  /-- The text is taken, and the failure comes after. -/
  | flush
deriving DecidableEq, Repr

/-- An output device: the text it holds, and the number of texts it took. A device that writes
UTF-8 refuses surrogates. -/
structure Output where
  held : Array CodePoint
  writes : Nat
  breakdown : Option Breakdown
  stage : WriteStage
  utf8 : Bool
deriving DecidableEq, Repr

namespace Output

/-- A device that takes every text. -/
def unlimited : Output := ⟨#[], 0, none, .write, false⟩

/-- The text that a device holds. -/
def text (o : Output) : Text := o.held.toList

/-- The device after it took a text. -/
def take (o : Output) (t : Text) : Output := { o with held := o.held ++ t, writes := o.writes + 1 }

/-- The failure that a text meets before it is taken. -/
def refusal (o : Output) (t : Text) : Option DeviceError :=
  match o.stage, Breakdown.due o.breakdown o.writes with
  | .write, some e => some e
  | _, _ => if o.utf8 then (Utf8.encodeRefusal? t).map .refused else none

/-- The failure that comes after a text is taken. -/
def aftermath (o : Output) : Option DeviceError :=
  match o.stage with
  | .write => none
  | .flush => Breakdown.due o.breakdown o.writes

/-- Writes a text: the failure, if there is one, and the device as it then stands. -/
def put (o : Output) (t : Text) : Option DeviceError × Output :=
  match o.refusal t with
  | some e => (some e, o)
  | none => (o.aftermath, o.take t)

@[simp] theorem text_unlimited : unlimited.text = [] := rfl

@[simp] theorem text_take (o : Output) (t : Text) : (o.take t).text = o.text ++ t := by
  simp [text, take]

/-- A device that never fails refuses only what it cannot encode. -/
theorem refusal_of_unbroken {o : Output} (unbroken : o.breakdown = none) (t : Text) :
    o.refusal t = if o.utf8 then (Utf8.encodeRefusal? t).map .refused else none := by
  have due : Breakdown.due o.breakdown o.writes = none := by rw [unbroken]; rfl
  unfold refusal
  rw [due]
  cases o.stage <;> rfl

theorem aftermath_of_unbroken {o : Output} (unbroken : o.breakdown = none) :
    o.aftermath = none := by
  have due : Breakdown.due o.breakdown o.writes = none := by rw [unbroken]; rfl
  unfold aftermath
  rw [due]
  cases o.stage <;> rfl

theorem put_of_unlimited {o : Output} (unbroken : o.breakdown = none) (lax : o.utf8 = false)
    (t : Text) : o.put t = (none, o.take t) := by
  have accepted : o.refusal t = none := by rw [refusal_of_unbroken unbroken, lax]; rfl
  rw [put, accepted, aftermath_of_unbroken unbroken]

end Output

end Funge93
