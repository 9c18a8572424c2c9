import Funge93.CommandLine.Request
import Funge93.Host

/-!
# The command line

The program loads a source file or the text of an expression, runs it on the standard streams, and
reports on the error stream. Its exit code is 0 for a program that halts and 1 for every failure.

The standard input is read as UTF-8 with each newline as a line feed. It is decoded in pieces: bytes
that are wrong fail the first read of their piece, and their position counts from its start. A
character that the end of a piece cuts short, be it a surrogate, belongs to the next piece; if there
is none, it fails the read that reaches it.
The standard output refuses surrogates; the error stream shows them as escapes.

An option that is set to nothing makes the invocation fail where the option is used: the expression
before anything is loaded, the seed and the step budget when the program starts.
-/

namespace Funge93.CommandLine

/-- What an invocation leaves behind. -/
structure Outcome where
  exitCode : Nat
  stdout : Text
  stderr : Text
deriving DecidableEq, Repr

/-- The suffixes of source files. -/
def sourceSuffixes : List Text := [".bf", ".b93", ".befunge"]

/-- A code point with ASCII capitals made small. -/
def lowerAscii (c : CodePoint) : CodePoint :=
  if h : 0x41 ≤ c.val ∧ c.val ≤ 0x5A then ⟨c.val + 0x20, by omega⟩ else c

/-- The name of a path is that of a source file. -/
def hasSourceSuffix (p : Path) : Bool := sourceSuffixes.contains (p.suffix.map lowerAscii)

/-- Writes each backslash that an `n` follows, together with it, as a line feed. -/
def expandRows : Text → Text
  | [] => []
  | [c] => [c]
  | c :: d :: rest =>
    if c = Text.backslash ∧ d = 0x6E then CodePoint.lineFeed :: expandRows rest
    else c :: expandRows (d :: rest)

/-- Text as the error stream shows it. -/
def onErrorStream (t : Text) : Text :=
  t.flatMap fun c => if c.isSurrogate then "\\u" ++ Text.hex 4 c.val else [c]

/-- A complaint on the error stream. -/
def complaint (message : Text) : Text := onErrorStream ("Error: " ++ message ++ "\n")

/-- The outcome of an invocation that runs no program. -/
def Stop.outcome : Stop → Outcome
  | help => ⟨0, CommandLine.help, []⟩
  | version => ⟨0, CommandLine.version, []⟩
  | misuse error =>
    ⟨1, [], onErrorStream (usage ++ programName ++ ": error: " ++ error.message ++ "\n")⟩

/-- The bytes from an error on may be the start of a character or of a surrogate. -/
def isCutShort (bytes : Bytes) (e : Utf8.DecodeError) : Bool :=
  match e.flaw, bytes.drop e.position with
  | .unfinished, _ => true
  | .continuation, [0xED, b] => 0xA0 ≤ b && b ≤ 0xBF
  | _, _ => false

/-- The size of the pieces in which the standard input is decoded. -/
def pieceSize : Nat := 8192

/-- Cuts bytes into pieces. -/
def pieces (bytes : Bytes) : List Bytes :=
  if bytes.length ≤ pieceSize then [bytes]
  else bytes.take pieceSize :: pieces (bytes.drop pieceSize)
termination_by bytes.length
decreasing_by
  rw [List.length_drop]
  unfold pieceSize at *
  omega

/-- Decodes pieces, given the bytes left over from the piece before: the text of the pieces that are
right, and the error in the one after them. -/
def decodePieces (leftOver : Bytes) : List Bytes → Text × Option Utf8.DecodeError
  | [] => ([], (Utf8.decode leftOver).2)
  | piece :: more =>
    let bytes := leftOver ++ piece
    match Utf8.decode bytes with
    | (t, none) =>
      let (rest, e) := decodePieces [] more
      (t ++ rest, e)
    | (t, some e) =>
      if isCutShort bytes e then
        let (rest, e) := decodePieces (bytes.drop e.position) more
        (t ++ rest, e)
      else ([], some e)

/-- The standard input with some bytes in it. Before an error, a carriage return at the end of the
text is held back. -/
def stdin (bytes : Bytes) : Input :=
  match Utf8.decode bytes with
  | (t, none) => Input.ofText t.foldNewlines
  | (_, some _) =>
    let (t, e) := decodePieces [] (pieces bytes)
    let whole := if t.getLast? = some CodePoint.carriageReturn then t.dropLast else t
    let read := Text.foldNewlines whole
    { Input.ofText read with breakdown := e.map fun e => ⟨read.length, .refused e.message⟩ }

/-- The standard output. -/
def stdout : Output := { Output.unlimited with utf8 := true }

/-- Why a request starts no machine. -/
inductive StartError
  | refused (message : Text)
  /-- An option that the start needs is set to nothing. -/
  | hollow (flag : Flag)
  /-- The name of the file is too long to be looked up. -/
  | nameTooLong (path : Path)
deriving DecidableEq, Repr

/-- Reads the text of a program, or says why there is none. -/
def source (files : Files) : Program → Except StartError Text
  | .expr text => .ok (expandRows text)
  | .hollow => .error (.hollow .expr)
  | .file name =>
    let path := Path.ofText name
    match files path with
    | .error .nameTooLong => .error (.nameTooLong path)
    | .error _ => .error (.refused ("File not found: " ++ path.text))
    | .ok _ =>
      if hasSourceSuffix path then
        (Host.readSource files path).mapError fun refusal => .refused refusal.message
      else .error <| .refused <|
        path.name ++ " is not a Befunge source file (expected " ++
          Text.join ", " sourceSuffixes ++ ")"

/-- A host for a request, on the standard streams. -/
def Request.host (r : Request) (input : Input) : Host :=
  Host.new (Console.stream input stdout) true r.seed.value? none r.maxSteps.value? r.strict

/-- The first option that a machine needs and that is set to nothing. -/
def Request.hollowOption? (r : Request) : Option Flag :=
  if r.seed = .hollow then some .seed
  else if r.maxSteps = .hollow then some .maxSteps
  else none

/-- The machine that a request starts, or why there is none. -/
def Request.machine (r : Request) (files : Files) (input : Input) : Except StartError Machine := do
  let text ← source files r.program
  match (r.host input).load text with
  | (.error refusal, _) => .error (.refused refusal.message)
  | (.ok _, host) =>
    match r.hollowOption? with
    | some flag => .error (.hollow flag)
    | none => .ok (host.machineFor none text)

/-- What a request reports about a stopped machine on the error stream. -/
def Request.report (r : Request) (m : Machine) : Text :=
  (if r.stats then m.stats.summary ++ "\n" else []) ++
    match m.status.fault? with
    | some fault => complaint fault.message
    | none => []

/-- The outcome of a request whose machine stopped. -/
def Request.outcome (r : Request) (m : Machine) : Outcome :=
  ⟨(RunResult.ofMachine m).exitCode, m.console.written, r.report m⟩

/-- Why an invocation has no outcome. -/
inductive Abort
  /-- An option that the invocation needs is set to nothing. -/
  | hollow (flag : Flag)
  /-- The name of the file is too long to be looked up. -/
  | nameTooLong (path : Path)
  /-- The program met the bound on its ticks. -/
  | unfinished
deriving DecidableEq, Repr

/-- The outcome of an invocation within a bound on its ticks. -/
def run (argv : List Text) (files : Files) (input : Bytes) (bound : Nat) : Except Abort Outcome :=
  match parse argv with
  | .error stop => .ok stop.outcome
  | .ok request =>
    match request.machine files (stdin input) with
    | .error (.refused message) => .ok ⟨1, [], complaint message⟩
    | .error (.hollow flag) => .error (.hollow flag)
    | .error (.nameTooLong path) => .error (.nameTooLong path)
    | .ok machine =>
      match machine.run bound with
      | (m, .stopped) => .ok (request.outcome m)
      | _ => .error .unfinished

end Funge93.CommandLine
