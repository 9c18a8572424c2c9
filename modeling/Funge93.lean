import Funge93.Cell
import Funge93.Text.Basic
import Funge93.Text.Decimal
import Funge93.Text.Hex
import Funge93.Text.Blank
import Funge93.Text.Lines
import Funge93.Text.Utf8
import Funge93.Text.DecimalDigit
import Funge93.Text.Numeral
import Funge93.Text.Printable
import Funge93.Text.Quoted
import Funge93.Fault
import Funge93.Direction
import Funge93.Instruction
import Funge93.Stack
import Funge93.Grid
import Funge93.Grid.Layout
import Funge93.Console.Device
import Funge93.Console
import Funge93.Draws.Twister
import Funge93.Draws
import Funge93.Machine
import Funge93.Machine.Tick
import Funge93.Machine.Run
import Funge93.Machine.Stats
import Funge93.Files.Path
import Funge93.Files.Tree
import Funge93.Host
import Funge93.CommandLine.Options
import Funge93.CommandLine.Argument
import Funge93.CommandLine.Request
import Funge93.CommandLine
import Funge93.Main
import Funge93.Proofs.Text.Utf8
import Funge93.Proofs.Text.Lines
import Funge93.Proofs.Text.Terminators
import Funge93.Proofs.Grid.Lines
import Funge93.Proofs.Grid.Torus
import Funge93.Proofs.Grid.Padding
import Funge93.Proofs.Grid.Stores
import Funge93.Proofs.Grid.Rendering
import Funge93.Proofs.Grid.Changes
import Funge93.Proofs.Grid.Shift
import Funge93.Proofs.Grid.Laps
import Funge93.Proofs.Console.Devices
import Funge93.Proofs.Console.Frame
import Funge93.Proofs.Console.Cursor
import Funge93.Proofs.Console.Streams
import Funge93.Proofs.Console.Numerals
import Funge93.Proofs.Console.Encoding
import Funge93.Proofs.Console.Feeding
import Funge93.Proofs.Machine.Evolution
import Funge93.Proofs.Machine.Runs
import Funge93.Proofs.Machine.Invariant
import Funge93.Proofs.Machine.Division
import Funge93.Proofs.Machine.Upcoming
import Funge93.Proofs.Machine.Wrapping
import Funge93.Proofs.Machine.StackDepth
import Funge93.Proofs.Machine.RandomTurns
import Funge93.Proofs.Machine.Failure
import Funge93.Proofs.Machine.Outcome
import Funge93.Proofs.Machine.Numerals
import Funge93.Proofs.Machine.OneRow
import Funge93.Proofs.Machine.SelfModification
import Funge93.Proofs.Machine.TextMode
import Funge93.Proofs.Machine.Simulation
import Funge93.Proofs.Machine.Budget
import Funge93.Proofs.Machine.Resets
import Funge93.Proofs.Machine.Padding
import Funge93.Proofs.Machine.Streams
import Funge93.Proofs.Machine.Feeding
import Funge93.Proofs.Machine.UnreadCells
import Funge93.Proofs.Machine.Shift
import Funge93.Proofs.Machine.Underflow
import Funge93.Proofs.Machine.Encoding
import Funge93.Proofs.Machine.Counting
import Funge93.Proofs.Machine.Statistics
import Funge93.Proofs.Machine.AbsentInstructions
import Funge93.Proofs.Host.Sessions
import Funge93.Proofs.Host.SharedConsole
import Funge93.Proofs.Host.Files
import Funge93.Proofs.Host.Loading
import Funge93.Proofs.Host.OwnStreams
import Funge93.Proofs.Host.Expressions
import Funge93.Proofs.Host.PrintLoop
import Funge93.Proofs.CommandLine.Agreement
import Funge93.Proofs.CommandLine.Rows
