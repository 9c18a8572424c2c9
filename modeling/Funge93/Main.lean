import Funge93.CommandLine

/-!
The command line on the real standard streams and files. Standard input is read when the program
first asks for it, and output is printed as it comes.
-/

namespace Funge93.Terminal

/-- The bytes of a text without surrogates. -/
def encode (t : Text) : ByteArray := ⟨((Utf8.encode? t).getD []).toArray⟩

/-- Prints a text. -/
def print (stream : IO.FS.Stream) (t : Text) : IO Unit := do
  unless t.isEmpty do
    stream.write (encode t)
    stream.flush

/-- Reads the file of a request. -/
def readFile (program : CommandLine.Program) : IO Files := do
  match program with
  | .expr _ | .hollow => return fun _ => .error .notFound
  | .file name =>
    let path := Path.ofText name
    try
      let bytes ← IO.FS.readBinFile (String.ofList (path.text.map fun c => Char.ofNat c.val))
      return fun _ => .ok bytes.toList
    catch _ => return fun _ => .error .notFound

/-- All bytes of the standard input. -/
partial def readRest (stream : IO.FS.Stream) (bytes : ByteArray) : IO ByteArray := do
  let more ← stream.read 65536
  if more.isEmpty then return bytes else readRest stream (bytes ++ more)

/-- Ticks a machine until it stops, printing what it writes. -/
partial def serve (m : Machine) (supplied : Bool) : IO Machine := do
  if m.asksForInput && !supplied then
    let input := CommandLine.stdin (← readRest (← IO.getStdin) ByteArray.empty).toList
    serve { m with console := { m.console with input } } true
  else
    let (m, _) := m.tick
    let (written, m) := m.drain
    print (← IO.getStdout) written
    if m.isRunning then serve m supplied else return m

/-- Carries out an invocation. -/
def invoke (args : List String) : IO UInt32 := do
  let report (o : CommandLine.Outcome) : IO UInt32 := do
    print (← IO.getStdout) o.stdout
    print (← IO.getStderr) o.stderr
    return UInt32.ofNat o.exitCode
  match CommandLine.parse (args.map Text.ofString) with
  | .error stop => report stop.outcome
  | .ok request =>
    match request.machine (← readFile request.program) (Input.ofText []) with
    | .error (.refused message) => report ⟨1, [], CommandLine.complaint message⟩
    | .error (.hollow flag) =>
      report ⟨1, [], CommandLine.complaint (flag.display ++ " is set to nothing")⟩
    | .error (.nameTooLong path) =>
      report ⟨1, [], CommandLine.complaint (path.text ++ ": " ++ FileError.nameTooLong.message)⟩
    | .ok machine => report (request.outcome (← serve machine false))

end Funge93.Terminal

/-- The program: carries out the invocation that the arguments ask for. -/
def main (args : List String) : IO UInt32 := Funge93.Terminal.invoke args
