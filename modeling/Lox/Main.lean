import Lox.CommandLine
import Lox.Routine.Moment
import Std.Time.DateTime.Timestamp

/-!
# The program

The command line on the files, the streams and the clock of the system. Programs are run in slices
of moves; what they wrote is passed on after each slice, so that it appears while they run.
-/

namespace Lox.Terminal

/-- The moves between two looks at the clock and at what was written. -/
def slice : Nat :=
  20000

/-- The time in seconds, unless the clock of the system is set to one before the epoch. -/
def now : IO (Except String Float) := do
  let time := (← Std.Time.Timestamp.now).toNanosecondsSinceUnixEpoch.val
  if time < 0 then
    return .error "second time provided was later than self"
  return .ok (Float.ofInt time / 1e9)

/-- Write what an interpreter has in its sink, and set its clock. -/
def refresh (i : Interpreter) (time : Except String Float) : ByteArray × Interpreter :=
  let (bytes, sink) := i.sink.drain
  (bytes, { i with sink := sink, clock := fun _ => time })

/-- Write bytes at once. -/
def emit (bytes : ByteArray) : IO Unit := do
  let output ← IO.getStdout
  output.write bytes
  output.flush

/-- Go on with a computation to its end. -/
partial def drive {α : Type}
    (moment : Job.Moment Interpreter Fault Evaluation.Request Evaluation.Phase.Result α) :
    IO (Except Fault α × Interpreter) := do
  let time ← now
  let (bytes, moment) := moment.exchange fun i => refresh i time
  emit bytes
  match Job.proceed Evaluation.step slice moment with
  | .error moment => drive moment
  | .ok (outcome, i) =>
    let (bytes, i) := refresh i time
    emit bytes
    return (outcome, i)

/-- Show errors, and give the exit code that goes with them. -/
def report (errors : List Diagnostic) : IO UInt32 := do
  IO.eprint (unlines (errors.map Diagnostic.text))
  return (greatestExitCode errors).toUInt32

/-- Read and run a program, and give its errors. -/
def run (i : Interpreter) (source : String) : IO (List Diagnostic × Interpreter) := do
  match i.load source with
  | (.error errors, i) => return (errors, i)
  | (.ok program, i) =>
    match ← drive (Job.start (Evaluation.interpret program) i) with
    | (.ok (), i) => return ([], i)
    | (.error fault, i) => return ([.fault fault], i)

/-- Read and evaluate an expression, and print its value. -/
def evaluate (i : Interpreter) (source : String) : IO UInt32 := do
  match i.loadExpr source with
  | (.error errors, _) => report errors
  | (.ok e, i) =>
    match ← drive (Job.start (Evaluation.evaluate e) i) with
    | (.ok value, _) =>
      IO.println value.text
      return 0
    | (.error fault, _) => report [.fault fault]

/-- Run the lines of the standard input in one session. -/
partial def repl (i : Interpreter) : IO UInt32 := do
  let line ← (← IO.getStdin).getLine
  if line.isEmpty then
    return 0
  let (errors, i) ← run i (String.intercalate "\n" (Typed.lines line))
  let _ ← report errors
  if errors.any Diagnostic.isFatal then return 70 else repl i

/-- The words of the system for a failure to open or to read a file. -/
def fileError : IO.Error → FileError
  | .noFileOrDirectory .. => .cannotOpen "No such file or directory (os error 2)"
  | .permissionDenied .. => .cannotOpen "Permission denied (os error 13)"
  | .invalidArgument (some _) .. => .cannotOpen "File name too long (os error 36)"
  | .inappropriateType (some _) .. => .cannotOpen "Not a directory (os error 20)"
  | .inappropriateType .. => .cannotRead "Is a directory (os error 21)"
  | e => .cannotRead (toString e)

/-- Use the source in an optional file. -/
def withSource (file : Option String) (use : String → IO UInt32) : IO UInt32 := do
  match file with
  | none =>
    IO.print Report.noFile.output
    return Report.noFile.exitCode.toUInt32
  | some file =>
    let contents ←
      try
        Except.ok <$> IO.FS.readBinFile file
      catch e =>
        pure (.error (fileError e))
    match readSource file contents with
    | .ok source => use source
    | .error message =>
      IO.eprint (Report.ofMessage message).errors
      return (Report.ofMessage message).exitCode.toUInt32

/-- Print a report, and give its exit code. -/
def print (r : Report) : IO UInt32 := do
  IO.print r.output
  IO.eprint r.errors
  return r.exitCode.toUInt32

/-- Do what a command says. -/
def perform (command : Command) : IO UInt32 := do
  let i := Interpreter.start .unlimited fun _ => .ok 0
  match command with
  | .run file => withSource file fun source => do report (← run i source).1
  | .tokenize file => withSource file fun source => print (listTokens source)
  | .parse file asJson => withSource file fun source => print (showTree asJson source)
  | .evaluate file => withSource file (evaluate i)
  | .repl => repl i

end Lox.Terminal

/-- The program. -/
def main (args : List String) : IO UInt32 :=
  match Lox.Command.ofArguments? args with
  | some command => Lox.Terminal.perform command
  | none => Lox.Terminal.print Lox.Report.usage
