import Funge93.Text.Quoted

/-!
# Options

The options of the command line with their names, and what can be wrong with a command line.
-/

namespace Funge93.CommandLine

/-- An option. -/
inductive Flag
  | help
  | expr
  | seed
  | maxSteps
  | strict
  | stats
  | version
deriving DecidableEq, Repr

namespace Flag

/-- The option needs a value. -/
def takesValue : Flag → Bool
  | expr | seed | maxSteps => true
  | _ => false

/-- All names, in the order in which they are listed. -/
def names : List (Text × Flag) :=
  [("-h", help), ("--help", help), ("-e", expr), ("--expr", expr), ("--seed", seed),
    ("--max-steps", maxSteps), ("--strict", strict), ("--stats", stats), ("-V", version),
    ("--version", version)]

/-- The option with a given name. -/
def named? (name : Text) : Option Flag := names.lookup name

/-- An option as messages name it: all its names with slashes between them. -/
def display (f : Flag) : Text :=
  Text.join "/" ((names.filter fun entry => entry.2 = f).map Prod.fst)

end Flag

/-- What is wrong with a command line. -/
inductive UsageError
  | ambiguous (arg : Text) (candidates : List Text)
  | missingValue (flag : Flag)
  | unwantedValue (flag : Flag) (value : Text)
  | notAnInteger (flag : Flag) (value : Text)
  | unrecognized (args : List Text)
  | noProgram
deriving DecidableEq, Repr

namespace UsageError

/-- A complaint about an option. -/
def about (flag : Flag) (complaint : Text) : Text :=
  "argument " ++ flag.display ++ ": " ++ complaint

/-- The message of a usage error. -/
def message : UsageError → Text
  | ambiguous arg candidates =>
    "ambiguous option: " ++ arg ++ " could match " ++ Text.join ", " candidates
  | missingValue flag => about flag "expected one argument"
  | unwantedValue flag value => about flag ("ignored explicit argument " ++ Text.quoted value)
  | notAnInteger flag value => about flag ("invalid int value: " ++ Text.quoted value)
  | unrecognized args => "unrecognized arguments: " ++ Text.join " " args
  | noProgram => "Provide a source file or -e program text"

end UsageError

/-- The name under which the program is invoked. -/
def programName : Text := "python -m befunge.run"

/-- How the program is invoked. -/
def usage : Text :=
  "usage: " ++ programName ++ " [-h] [-e EXPR] [--seed SEED]\n" ++
  "                             [--max-steps MAX_STEPS] [--strict] [--stats] [-V]\n" ++
  "                             [file]\n"

/-- What the program does and what its options mean. -/
def help : Text :=
  usage ++
  "\n" ++
  "A Befunge-93 interpreter\n" ++
  "\n" ++
  "positional arguments:\n" ++
  "  file                  Path to a Befunge-93 source file\n" ++
  "\n" ++
  "options:\n" ++
  "  -h, --help            show this help message and exit\n" ++
  "  -e EXPR, --expr EXPR  Program text to run instead of a file (\\n separates\n" ++
  "                        rows)\n" ++
  "  --seed SEED           Seed for the random-direction instruction\n" ++
  "  --max-steps MAX_STEPS\n" ++
  "                        Fault the run after this many steps\n" ++
  "  --strict              Reject programs larger than 80x25\n" ++
  "  --stats               Print machine counters to stderr after the run\n" ++
  "  -V, --version         show program's version number and exit\n"

/-- The version of the program. -/
def version : Text := programName ++ " 0.1.0\n"

end Funge93.CommandLine
