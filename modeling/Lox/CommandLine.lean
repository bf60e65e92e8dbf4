import Lox.Session
import Lox.Text.Quoted
import Lox.Text.Typed
import Lox.Text.Utf8
import Lox.Tree.Document
import Lox.Tree.Printer

/-!
# The command line

A command reads a source from a file and runs it, lists its tokens, shows its tree or evaluates it
as one expression; or it runs a session line by line from the standard input. Files are given as a
function, and what a command does is a *report*: an exit code and two texts.

## Main definitions

* `Arguments`, `Command`, `Command.ofArguments?`: the commands, and how they are spelt.
* `FileError`, `readSource`: sources from files.
* `Report`, `Command.perform`: what a command does.
-/

namespace Lox

/-- What the program can be told to do; commands on a file may be given none. -/
inductive Command where
  | run (file : Option String)
  | tokenize (file : Option String)
  | parse (file : Option String) (asJson : Bool)
  | evaluate (file : Option String)
  | repl
  deriving DecidableEq, Repr

/-- Some arguments, told apart. -/
structure Arguments where
  options : List String
  files : List String
  deriving DecidableEq, Repr

/-- Tell arguments apart: an option begins with a hyphen and has more than that. All that comes
after a double hyphen is files. -/
def Arguments.ofList : List String → Arguments
  | [] => ⟨[], []⟩
  | "--" :: rest => ⟨[], rest⟩
  | argument :: rest =>
    let ⟨options, files⟩ := ofList rest
    if argument.startsWith "-" && argument != "-" then ⟨argument :: options, files⟩
    else ⟨options, argument :: files⟩

/-- The file that is given, if any: at most one, whose name is not empty. -/
def Arguments.file? (arguments : Arguments) : Option (Option String) :=
  match arguments.files with
  | [] => some none
  | [file] => if file.isEmpty then none else some (some file)
  | _ => none

/-- The command of a name with arguments. -/
def Command.ofName? (name : String) (arguments : Arguments) : Option Command :=
  match name, arguments.options with
  | "run", [] => arguments.file?.map .run
  | "tokenize", [] => arguments.file?.map .tokenize
  | "parse", [] => arguments.file?.map (.parse · false)
  | "parse", ["--json"] => arguments.file?.map (.parse · true)
  | "evaluate", [] => arguments.file?.map .evaluate
  | "repl", [] => if arguments.files.isEmpty then some .repl else none
  | _, _ => none

/-- The command that arguments spell. -/
def Command.ofArguments? : List String → Option Command
  | [] => none
  | name :: rest => ofName? name (.ofList rest)

/-! ### Sources from files -/

/-- Why a file cannot be used. The reasons of a failure to open or to read come from the system. -/
inductive FileError where
  | cannotOpen (reason : String)
  | cannotRead (reason : String)
  deriving DecidableEq, Repr

/-- The message about a file that cannot be used. -/
def FileError.message (file : String) : FileError → String
  | cannotOpen reason => "Failed to open file " ++ Quoted.name file ++ ": " ++ reason
  | cannotRead reason => "Failed to read file " ++ Quoted.name file ++ ": " ++ reason

/-- The source text in a file, or the message about why there is none. -/
def readSource (file : String) (contents : Except FileError ByteArray) : Except String String :=
  match contents with
  | .error e => .error (e.message file)
  | .ok bytes =>
    match Utf8.decode bytes.toList with
    | .ok source => .ok source
    | .error fault =>
      .error ("File " ++ Quoted.name file ++ " is not valid UTF-8: " ++ fault.message)

/-! ### Reports -/

/-- What a command leaves behind. -/
structure Report where
  exitCode : Nat
  output : String
  errors : String
  deriving DecidableEq, Repr

/-- The given texts, each on a line of its own. -/
def unlines (texts : List String) : String :=
  String.join (texts.map (· ++ "\n"))

/-- The exit code for a list of errors: the greatest that goes with one of them, or zero. -/
def greatestExitCode (errors : List Diagnostic) : Nat :=
  errors.foldl (fun code d => max code d.exitCode) 0

/-- The report of some output and some errors. -/
def Report.ofErrors (output : String) (errors : List Diagnostic) : Report :=
  ⟨greatestExitCode errors, output, unlines (errors.map Diagnostic.text)⟩

/-- The report of a command that was given no file. -/
def Report.noFile : Report :=
  ⟨0, "No input filepath was provided. Exiting...\n", ""⟩

/-- The report of a file that cannot be used. -/
def Report.ofMessage (message : String) : Report :=
  ⟨74, "", "Error: " ++ message ++ "\n"⟩

/-- The report of arguments that spell no command. -/
def Report.usage : Report :=
  ⟨2, "", "Usage: lox (run | tokenize | parse [--json] | evaluate) [FILE]\n       lox repl\n"⟩

/-- List the tokens of a source; errors do not stop the listing. -/
def listTokens (source : String) : Report :=
  let items := scan source
  let errors := items.filterMap fun item =>
    match item with
    | .error e => some (Diagnostic.lexical e)
    | .ok _ => none
  .ofErrors (unlines ((items.filterMap Except.toOption).map Token.text)) errors

/-- Show a program; nothing at all if it is empty and not shown as a document. -/
def showProgram (asJson : Bool) (program : List Stmt) : String :=
  if asJson then Json.pretty (programDocument program) ++ "\n"
  else if program.isEmpty then ""
  else printedProgram program ++ "\n"

/-- Show an expression. -/
def showExpr (asJson : Bool) (e : Expr) : String :=
  (if asJson then Json.pretty e.document else e.printed) ++ "\n"

/-- Show the tree of a source. What is no program is tried as an expression, whose occurrences are
numbered after those of the failed program; if it is none either, the errors are the program's. -/
def showTree (asJson : Bool) (source : String) : Report :=
  match tokenize source with
  | .error errors => .ofErrors "" (errors.map .lexical)
  | .ok tokens =>
    match parseProgram tokens 0 with
    | (.ok program, _) => .ofErrors (showProgram asJson program) []
    | (.error errors, nextId) =>
      match parseExpression tokens nextId with
      | (.ok e, _) => .ofErrors (showExpr asJson e) []
      | (.error _, _) => .ofErrors "" (errors.map .grammatical)

/-- The text that a program wrote. -/
def Interpreter.output (i : Interpreter) : String :=
  Utf8.decodePrefix i.sink.written.toList

/-- Evaluate a source as an expression, and print its value. -/
def evaluateSource (moves : Nat) (clock : Clock) (source : String) : Option Report :=
  ((Interpreter.start .unlimited clock).evaluate moves source).map fun (outcome, i) =>
    match outcome with
    | .ok value => .ofErrors (i.output ++ value.text ++ "\n") []
    | .error errors => .ofErrors i.output errors

/-- Run a source as a program. -/
def runSource (moves : Nat) (clock : Clock) (source : String) : Option Report :=
  ((Interpreter.start .unlimited clock).run moves source).map fun (errors, i) =>
    .ofErrors i.output errors

/-- Run each line of a session in turn, with the text of the errors so far. A fatal error ends the
session. -/
def runLines (moves : Nat) : List String → String → Interpreter → Option Report
  | [], shown, i => some ⟨0, i.output, shown⟩
  | line :: lines, shown, i =>
    match i.run moves line with
    | none => none
    | some (errors, i) =>
      let shown := shown ++ unlines (errors.map Diagnostic.text)
      if errors.any Diagnostic.isFatal then some ⟨70, i.output, shown⟩
      else runLines moves lines shown i

namespace Command

/-- Use the source in an optional file. -/
def withSource (files : String → Except FileError ByteArray) (file : Option String)
    (use : String → Option Report) : Option Report :=
  match file with
  | none => some .noFile
  | some file =>
    match readSource file (files file) with
    | .error message => some (.ofMessage message)
    | .ok source => use source

/-- What a command does with the given files, input and clock. Programs may make the given number of
moves each. -/
def perform (moves : Nat) (files : String → Except FileError ByteArray) (input : String)
    (clock : Clock) : Command → Option Report
  | run file => withSource files file (runSource moves clock)
  | tokenize file => withSource files file fun source => some (listTokens source)
  | parse file asJson => withSource files file fun source => some (showTree asJson source)
  | evaluate file => withSource files file (evaluateSource moves clock)
  | repl => runLines moves (Typed.lines input) "" (.start .unlimited clock)

end Command

end Lox
