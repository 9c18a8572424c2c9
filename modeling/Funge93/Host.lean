import Funge93.Files.Tree
import Funge93.Grid.Layout
import Funge93.Machine.Run
import Funge93.Machine.Stats

/-!
# Hosts

A host keeps the text of a program and runs it, each time on a fresh grid. With input text a run
uses a console of its own; without, it uses the host's console, which goes on where it was. A
random source given to a host goes on from run to run; a seed starts anew with each run.

A strict host refuses programs beyond 80 columns or 25 rows. A refused program leaves the earlier
one in place.
-/

namespace Funge93

/-- Why a host does not load or run a program. -/
inductive Refusal
  | tooLarge (width height : Nat)
  | unreadable (path : Path) (error : FileError)
  | notUtf8 (path : Path) (flaw : Utf8.Flaw)
  | noProgram
deriving DecidableEq, Repr

/-- The message of a refusal. -/
def Refusal.message : Refusal → Text
  | tooLarge width height =>
    "program is " ++ Text.ofNat width ++ "x" ++ Text.ofNat height ++
      ", Befunge-93 programs must fit in 80x25"
  | unreadable _ .nullInPath => FileError.message .nullInPath
  | unreadable path .unencodable => (Utf8.encodeRefusal? path.text).getD []
  | unreadable path error => "cannot read " ++ path.text ++ ": " ++ error.message
  | notUtf8 path flaw => path.text ++ " is not UTF-8 text: " ++ flaw.message
  | noProgram => "no program loaded"

/-- Why a run gives no result. -/
inductive RunError
  | refused (refusal : Refusal)
  | misused (misuse : Misuse)
  /-- The run met its bound. -/
  | unfinished
deriving DecidableEq, Repr

/-- The outcome of a run. Only a console in memory gives its text. -/
structure RunResult where
  status : Status
  output : Option Text
  stack : List Cell
  stats : Stats
deriving DecidableEq, Repr

namespace RunResult

/-- The outcome that a stopped machine stands for. -/
def ofMachine (m : Machine) : RunResult where
  status := m.status
  output := if m.console.kind = .buffer then some m.console.written else none
  stack := m.stack.contents
  stats := m.stats

/-- The program halted. -/
def ok (r : RunResult) : Bool := r.status == .halted

/-- The exit code that tells success from failure. -/
def exitCode (r : RunResult) : Nat := if r.ok then 0 else 1

/-- The message of the fault that stopped the program. -/
def fault? (r : RunResult) : Option Text := r.status.fault?.map Fault.message

end RunResult

/-- A host for programs. -/
structure Host where
  console : Console
  /-- The character looked ahead at survives from one run to the next. -/
  keepsPending : Bool
  seed : Option Int
  draws : Option Draws
  maxSteps : Option Int
  strict : Bool
  source : Option Text
  /-- The machine of the last run. -/
  machine : Option Machine

namespace Host

/-- The columns that a strict host accepts. -/
def strictWidth : Nat := 80

/-- The rows that a strict host accepts. -/
def strictHeight : Nat := 25

/-- A host without a program. -/
def new (console : Console) (keepsPending : Bool) (seed : Option Int) (draws : Option Draws)
    (maxSteps : Option Int) (strict : Bool) : Host :=
  ⟨console, keepsPending, seed, draws, maxSteps, strict, none, none⟩

/-- Whether the host refuses a text for its size. -/
def oversize? (h : Host) (t : Text) : Option Refusal :=
  let width := Grid.longest t.lines
  let height := t.lines.length
  if h.strict ∧ (strictWidth < width ∨ strictHeight < height) then some (.tooLarge width height)
  else none

/-- Checks and keeps the text of a program. The grid is what each run starts from. -/
def load (h : Host) (t : Text) : Except Refusal Grid × Host :=
  match h.oversize? t with
  | some refusal => (.error refusal, h)
  | none => (.ok (Grid.ofText t), { h with source := some t })

/-- The text in a file: strict UTF-8, each newline read as a line feed. -/
def readSource (files : Files) (path : Path) : Except Refusal Text :=
  match files path with
  | .error e => .error (.unreadable path e)
  | .ok bytes =>
    match Utf8.decode? bytes with
    | .error e => .error (.notUtf8 path e.flaw)
    | .ok t => .ok t.foldNewlines

/-- Loads the text in a file. -/
def loadFile (h : Host) (files : Files) (path : Path) : Except Refusal Grid × Host :=
  match readSource files path with
  | .error refusal => (.error refusal, h)
  | .ok t => h.load t

/-- The console of a run on some input, or on the host's console. -/
def runConsole (h : Host) (input : Option Text) : Console :=
  match input with
  | some t => Console.buffer t
  | none => if h.keepsPending then h.console else { h.console with pending := none }

/-- The machine that a run starts with. -/
def machineFor (h : Host) (input : Option Text) (source : Text) : Machine :=
  Machine.start (Grid.ofText source) (h.runConsole input)
    (h.draws.getD (Draws.ofSeed h.seed)) h.maxSteps

/-- The host after a run on some input, or on its own console. -/
def afterRun (h : Host) (input : Option Text) (m : Machine) : Host :=
  { h with
    console := if input.isNone then m.console else h.console
    draws := h.draws.map fun _ => m.draws
    machine := some m }

/-- Runs the program within a bound on its ticks. -/
def run (h : Host) (input : Option Text) (bound : Nat) : Except RunError RunResult × Host :=
  match h.source with
  | none => (.error (.refused .noProgram), h)
  | some source =>
    match (h.machineFor input source).run bound with
    | (m, .stopped) => (.ok (RunResult.ofMachine m), h.afterRun input m)
    | (m, .misused e) => (.error (.misused e), h.afterRun input m)
    | (m, .unfinished) => (.error .unfinished, h.afterRun input m)

end Host

/-- Loads a text into a new host and runs it on some input. -/
def runText (source input : Text) (seed : Option Int) (draws : Option Draws)
    (maxSteps : Option Int) (strict : Bool) (bound : Nat) : Except RunError RunResult :=
  let host := Host.new (Console.buffer []) true seed draws maxSteps strict
  match host.load source with
  | (.error refusal, _) => .error (.refused refusal)
  | (.ok _, host) => (host.run (some input) bound).1

end Funge93
