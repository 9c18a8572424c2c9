import Funge93.CommandLine.Options
import Funge93.Text.DecimalDigit

/-!
# Arguments

Before anything is done, each argument is classified: it is a value, the separator `--`, a mention
of an option, or something that looks like an option but is none. After the separator every
argument is a value.

An option can be mentioned by its full name, by the start of a long name that no other long name
shares, and with a value attached: after an equals sign, or right after a letter.
-/

namespace Funge93.CommandLine

/-- The dash that options start with. -/
def dash : CodePoint := 0x2D

/-- The sign between an option and the value attached to it. -/
def equals : CodePoint := 0x3D

/-- A mention of an option: by a letter or by a long name, with or without attached text. -/
structure Mention where
  flag : Flag
  letter : Bool
  attached : Option Text
deriving DecidableEq, Repr

/-- What an argument is. -/
inductive Role
  | value
  | separator
  | mention (mention : Mention)
  /-- Looks like an option. -/
  | unknown
deriving DecidableEq, Repr

/-- An argument with its role. -/
structure Argument where
  text : Text
  role : Role
deriving DecidableEq, Repr

/-- The text starts with two dashes. -/
def isLong (arg : Text) : Bool := arg.startsWith [dash, dash]

/-- The digits after the point of a negative number. -/
def isFraction (t : Text) : Bool := t ≠ [] && t.all fun c => c.decimalValue?.isSome

/-- A negative number, whole or with a decimal point, perhaps before a line feed. -/
def isNegativeNumber (arg : Text) : Bool :=
  let arg := if arg.getLast? = some CodePoint.lineFeed then arg.dropLast else arg
  match arg with
  | [] => false
  | c :: number =>
    let digits := number.takeWhile fun c => c.decimalValue?.isSome
    c = dash &&
      match number.dropWhile fun c => c.decimalValue?.isSome with
      | [] => digits ≠ []
      | point :: fraction => point = 0x2E && isFraction fraction

/-- A mention by the full name, with a value after an equals sign if there is one. -/
def exactMention? (arg : Text) : Option Mention :=
  match Flag.named? arg with
  | some flag => some ⟨flag, !isLong arg, none⟩
  | none => do
    let (name, value) ← Text.splitFirst equals arg
    let flag ← Flag.named? name
    return ⟨flag, !isLong arg, some value⟩

/-- The long names that start like an argument, each with the mention it would be. -/
def abbreviated (arg : Text) : List (Text × Mention) :=
  let (start, attached) := match Text.splitFirst equals arg with
    | some (start, value) => (start, some value)
    | none => (arg, none)
  (Flag.names.filter fun entry => entry.1.startsWith start).map fun (name, flag) =>
    (name, ⟨flag, false, attached⟩)

/-- The letter that an argument starts with, with the text right after it. -/
def lettered (arg : Text) : List (Text × Mention) :=
  (Flag.names.filter fun entry => entry.1 = arg.take 2).map fun (name, flag) =>
    (name, ⟨flag, true, some (arg.drop 2)⟩)

/-- The role of an argument before the separator. -/
def classify (arg : Text) : Except UsageError Role :=
  if arg.head? ≠ some dash then .ok .value
  else
    match exactMention? arg with
    | some mention => .ok (.mention mention)
    | none =>
      if arg = [dash] then .ok .value
      else
        match if isLong arg then abbreviated arg else lettered arg with
        | [(_, mention)] => .ok (.mention mention)
        | [] =>
          .ok (if isNegativeNumber arg || arg.contains CodePoint.space then .value else .unknown)
        | candidates => .error (.ambiguous arg (candidates.map Prod.fst))

/-- The arguments with their roles. -/
def classifyAll : List Text → Except UsageError (List Argument)
  | [] => .ok []
  | arg :: rest =>
    if arg = [dash, dash] then .ok (⟨arg, .separator⟩ :: rest.map fun arg => ⟨arg, .value⟩)
    else do
      let role ← classify arg
      let more ← classifyAll rest
      return ⟨arg, role⟩ :: more

end Funge93.CommandLine
