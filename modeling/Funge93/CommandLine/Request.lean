import Funge93.CommandLine.Argument
import Funge93.Text.Numeral

/-!
# Requests

A command line is read from left to right. The first value is the source file, unless an option
takes it; what nothing takes is left over and refused at the end. Options act in the order in which
they stand, so help and version end the reading at once.

Letters can be joined in one argument: a letter that takes no value is followed by the next letter,
also after an equals sign.

The version of the option parser modelled here drops a separator (two dashes) that is attached to an
option as its value, as in `--expr=--`. The option then counts as given, but it is set to nothing
(`Setting.hollow`). Newer versions of the parser pass the two dashes through as the value.
-/

namespace Funge93.CommandLine

/-- What an option is set to. -/
inductive Setting (α : Type)
  | unset
  /-- Set to nothing: the value was two dashes, which were dropped. -/
  | hollow
  | value (a : α)
deriving DecidableEq, Repr

/-- The value of an option that has one. -/
def Setting.value? {α : Type} : Setting α → Option α
  | value a => some a
  | _ => none

/-- The program that a command line names. -/
inductive Program
  | file (name : Text)
  | expr (text : Text)
  /-- The expression is set to nothing. -/
  | hollow
deriving DecidableEq, Repr

/-- What a command line asks for. -/
structure Request where
  program : Program
  seed : Setting Int
  maxSteps : Setting Int
  strict : Bool
  stats : Bool
deriving DecidableEq, Repr

/-- Why no program is run. -/
inductive Stop
  | help
  | version
  | misuse (error : UsageError)
deriving DecidableEq, Repr

/-- What was read so far. -/
structure Reading where
  file : Option Text
  expr : Setting Text
  seed : Setting Int
  maxSteps : Setting Int
  strict : Bool
  stats : Bool
  leftOver : List Text
deriving DecidableEq, Repr

namespace Reading

/-- Nothing was read yet. -/
def start : Reading := ⟨none, .unset, .unset, .unset, false, false, []⟩

/-- Leaves arguments over. -/
def leave (r : Reading) (args : List Text) : Reading := { r with leftOver := r.leftOver ++ args }

/-- Sets an option to what a text reads as. Two dashes set it to nothing: the version of the option
parser modelled here drops them, while newer versions pass them through as the value. -/
def setting {α : Type} (read : Text → Except Stop α) (value : Text) : Except Stop (Setting α) :=
  if value = [dash, dash] then .ok .hollow else (read value).map .value

/-- Reads the value of an option as an integer. -/
def integer (flag : Flag) (value : Text) : Except Stop Int :=
  match value.readInt? with
  | some n => .ok n
  | none => .error (.misuse (.notAnInteger flag value))

/-- Performs an option with its value. Options that take none get the empty text. -/
def perform (r : Reading) (flag : Flag) (value : Text) : Except Stop Reading :=
  match flag with
  | .help => .error .help
  | .version => .error .version
  | .expr => do return { r with expr := ← setting .ok value }
  | .seed => do return { r with seed := ← setting (integer flag) value }
  | .maxSteps => do return { r with maxSteps := ← setting (integer flag) value }
  | .strict => .ok { r with strict := true }
  | .stats => .ok { r with stats := true }

/-- Performs options in order. -/
def performAll (r : Reading) (actions : List (Flag × Text)) : Except Stop Reading :=
  actions.foldlM (fun r action => r.perform action.1 action.2) r

end Reading

/-- What one argument asks for: the options to perform, and an option that still needs the next
argument as its value. -/
structure Expansion where
  actions : List (Flag × Text)
  awaiting : Option Flag
deriving DecidableEq, Repr

/-- An expansion with an option performed before it. -/
def Expansion.after (flag : Flag) (e : Expansion) : Expansion :=
  { e with actions := (flag, []) :: e.actions }

/-- The expansion of an option without attached text. -/
def Expansion.plain (flag : Flag) : Expansion :=
  if flag.takesValue then ⟨[], some flag⟩ else ⟨[(flag, [])], none⟩

/-- The expansion of an option with attached text that is no value for it. -/
def refuseAttached (flag : Flag) (text : Text) : Except UsageError Expansion :=
  .error (.unwantedValue flag text)

/-- Follows the text joined after a letter: the value of the option, or further letters. -/
def expandLetters (flag : Flag) : Text → Except UsageError Expansion
  | [] => if flag.takesValue then .ok ⟨[(flag, [])], none⟩ else refuseAttached flag []
  | c :: rest =>
    if flag.takesValue then .ok ⟨[(flag, c :: rest)], none⟩
    else
      match Flag.named? [dash, c], rest with
      | none, rest => refuseAttached flag (c :: rest)
      | some next, [] => .ok (.after flag (.plain next))
      | some next, d :: more => (expandLetters next (d :: more)).map (.after flag)

/-- What a mention of an option asks for. -/
def expand (m : Mention) : Except UsageError Expansion :=
  match m.attached with
  | none => .ok (.plain m.flag)
  | some text =>
    if m.letter then expandLetters m.flag text
    else if m.flag.takesValue then .ok ⟨[(m.flag, text)], none⟩
    else refuseAttached m.flag text

/-- Reads the values after the separator: the first one is the file if there was none before. -/
def Reading.afterSeparator (r : Reading) (separator : Text) (values : List Text) : Reading :=
  match r.file, values with
  | some _, values => r.leave (separator :: values)
  | none, [] => r
  | none, file :: values => { r with file := some file }.leave values

/-- Reads arguments from left to right. A separator right after the file is dropped. -/
def Reading.readAll (r : Reading) : List Argument → Except Stop Reading
  | [] => .ok r
  | ⟨text, .value⟩ :: rest =>
    match r.file, rest with
    | some _, rest => (r.leave [text]).readAll rest
    | none, ⟨_, .separator⟩ :: values =>
      .ok ({ r with file := some text }.leave (values.map Argument.text))
    | none, rest => { r with file := some text }.readAll rest
  | ⟨text, .separator⟩ :: values => .ok (r.afterSeparator text (values.map Argument.text))
  | ⟨text, .unknown⟩ :: rest => (r.leave [text]).readAll rest
  | ⟨_, .mention m⟩ :: rest =>
    match expand m with
    | .error e => .error (.misuse e)
    | .ok ⟨actions, none⟩ => do (← r.performAll actions).readAll rest
    | .ok ⟨actions, some flag⟩ =>
      match rest with
      | ⟨value, .value⟩ :: rest => do
        (← r.performAll (actions ++ [(flag, value)])).readAll rest
      | _ => .error (.misuse (.missingValue flag))

/-- What was read as a request: nothing may be left over, and a program must be named. An empty
file name counts as none. -/
def Reading.request (r : Reading) : Except UsageError Request :=
  if r.leftOver ≠ [] then .error (.unrecognized r.leftOver)
  else
    match r.file, r.expr with
    | some (c :: name), _ => .ok ⟨.file (c :: name), r.seed, r.maxSteps, r.strict, r.stats⟩
    | _, .value text => .ok ⟨.expr text, r.seed, r.maxSteps, r.strict, r.stats⟩
    | _, .hollow => .ok ⟨.hollow, r.seed, r.maxSteps, r.strict, r.stats⟩
    | _, .unset => .error .noProgram

/-- Reads a command line. -/
def parse (argv : List Text) : Except Stop Request := do
  let args ← (classifyAll argv).mapError Stop.misuse
  let reading ← Reading.start.readAll args
  reading.request.mapError Stop.misuse

end Funge93.CommandLine
