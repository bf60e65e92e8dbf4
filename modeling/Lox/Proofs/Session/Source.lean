import Lox.Proofs.Session.Loading
import Lox.Proofs.Token.Joined

/-!
# Sources that begin on some line

A source may be the rest of a longer text. It is read as any other source, but its lines are counted
in that text.

## Main definitions

* `Interpreter.readTokens`: read tokens as a program that is ready to run.
* `Interpreter.readFrom`, `Interpreter.runFrom`: read and run a source that begins on some line.

## Main results

* `Interpreter.load_eq_readFrom`, `Interpreter.run_eq_runFrom`: sources begin on the first line.
* `Interpreter.readTokens_of_error`, `Interpreter.readTokens_of_ok`: how the reading of tokens ends,
  and what it leaves behind.
-/

namespace Lox.Interpreter

open Scope

/-- Read tokens as a program that is ready to run. -/
def readTokens (i : Interpreter) (tokens : List Token) :
    Except (List Diagnostic) (List Stmt) × Interpreter :=
  match i.parseTokens tokens with
  | (.error errors, i) => (.error errors, i)
  | (.ok program, i) =>
    match i.bindProgram program with
    | ([], i) => (.ok program, i)
    | (errors, i) => (.error errors, i)

/-- Read a source that begins on the given line as a program that is ready to run. -/
def readFrom (i : Interpreter) (line : Nat) (source : String) :
    Except (List Diagnostic) (List Stmt) × Interpreter :=
  match tokenizeFrom line source with
  | .ok tokens => i.readTokens tokens
  | .error errors => (.error (errors.map .lexical), i)

/-- Read and run a source that begins on the given line. -/
def runFrom (moves line : Nat) (source : String) (i : Interpreter) :
    Option (List Diagnostic × Interpreter) :=
  match i.readFrom line source with
  | (.error errors, i) => some (errors, i)
  | (.ok program, i) => i.execute moves program

theorem load_eq_readFrom (i : Interpreter) (source : String) :
    i.load source = i.readFrom 1 source := by
  unfold load parse readFrom
  rw [tokenizeFrom_one]
  cases tokenize source <;> rfl

theorem run_eq_runFrom (moves : Nat) (source : String) (i : Interpreter) :
    i.run moves source = i.runFrom moves 1 source := by
  rw [run, load_eq_readFrom]
  rfl

/-- The state that reading a program leaves behind. -/
def adopted (i : Interpreter) (nextId : NodeId) (program : List Stmt) : Interpreter :=
  i.retabled nextId (i.recordDistances (analyse (programEvents program)).distances).distances

variable {i : Interpreter} {tokens : List Token} {p : List Stmt} {errors : List SyntaxError}

/-- Tokens that are no program. -/
theorem readTokens_of_error (isError : (parseProgram tokens i.nextId).1 = .error errors) :
    i.readTokens tokens = (.error (errors.map .grammatical),
      i.retabled (parseProgram tokens i.nextId).2 i.distances) := by
  unfold readTokens parseTokens
  rcases isParsed : parseProgram tokens i.nextId with ⟨result, n⟩
  rw [isParsed] at isError
  cases isError
  rfl

/-- Tokens that are a program, which is then bound to scopes. -/
theorem readTokens_of_ok (isProgram : (parseProgram tokens i.nextId).1 = .ok p) :
    i.readTokens tokens =
      (match (analyse (programEvents p)).errors with
        | [] => .ok p
        | errors => .error (errors.map .scoping),
      i.adopted (parseProgram tokens i.nextId).2 p) := by
  unfold readTokens parseTokens
  rcases isParsed : parseProgram tokens i.nextId with ⟨result, n⟩
  rw [isParsed] at isProgram
  cases isProgram
  dsimp only [Except.mapError, bindProgram, adopt]
  cases (analyse (programEvents p)).errors <;> rfl

/-- What reading a source leaves behind when none of its phases finds an error. -/
theorem readFrom_eq {line : Nat} {source : String} {n : NodeId} {distances : List (NodeId × Nat)}
    (isTokens : tokenizeFrom line source = .ok tokens)
    (isProgram : parseProgram tokens i.nextId = (.ok p, n))
    (isVerdict : analyse (programEvents p) = ⟨[], distances⟩) :
    i.readFrom line source = (.ok p, (i.retabled n i.distances).recordDistances distances) := by
  rw [readFrom, isTokens]
  dsimp only
  rw [readTokens_of_ok (congrArg Prod.fst isProgram), isProgram, adopted, isVerdict]
  rfl

end Lox.Interpreter
