import Funge93.Text.Decimal

/-!
# Faults and misuse

Two kinds of failure end an instruction.
* A `Fault` stops the run. The machine records it and stays faulted.
* A `Misuse` is a mistake of whoever set the machine up. It leaves the tick, and the machine stays
  as it is.
-/

namespace Funge93

/-- A failure that stops a run. -/
inductive Fault
  /-- A read outside the grid. -/
  | readOutside (col row : Int) (width height : Nat)
  /-- A write outside the grid. -/
  | writeOutside (col row : Int) (width height : Nat)
  /-- A number that is not a code point was to be written as a character. -/
  | notACharacter (number : Int)
  /-- The input device refused a read. -/
  | inputFailed (reason : Text)
  /-- The output device refused a write. -/
  | outputFailed (reason : Text)
  /-- A step beyond the budget. -/
  | stepLimit (limit : Int)
deriving DecidableEq, Repr

/-- A mistake in how a machine was set up. -/
inductive Misuse
  /-- The console has no devices. -/
  | noDevice
  /-- A device broke down in a way that is no refusal. -/
  | deviceBroken (message : Text)
  /-- The random source drew a number that stands for no direction. -/
  | drawOutOfRange (draw : Int)
  /-- The heading was set to a number that stands for no direction. -/
  | strayHeading (code : Int)
deriving DecidableEq, Repr

/-- What ends an instruction before its time. -/
inductive Failure
  | fault (fault : Fault)
  | misuse (misuse : Misuse)
deriving DecidableEq, Repr

namespace Fault

/-- The tail of the messages about positions outside a grid. -/
def outside (col row : Int) (width height : Nat) : Text :=
  "(" ++ Text.ofInt col ++ ", " ++ Text.ofInt row ++ ") outside " ++ Text.ofNat width ++ "x" ++
    Text.ofNat height ++ " playfield"

/-- The message of a fault. -/
def message : Fault → Text
  | readOutside col row width height => "read at " ++ outside col row width height
  | writeOutside col row width height => "write at " ++ outside col row width height
  | notACharacter number => "cannot write " ++ Text.ofInt number ++ " as a character"
  | inputFailed reason => "input read failed: " ++ reason
  | outputFailed reason => "output write failed: " ++ reason
  | stepLimit limit => "step limit of " ++ Text.ofInt limit ++ " exceeded"

end Fault

end Funge93
