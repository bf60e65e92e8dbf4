import Lox.Fault
import Lox.Token.Lexer
import Lox.Tree.Parser.Error
import Lox.Scope.Analysis

/-!
# Diagnostics

What a user is told when a source text is refused or a program ends early. Refusals name a line and
mostly the place in it; faults name the line after the message.

## Main definitions

* `Diagnostic`: an error of any phase.
* `Diagnostic.text`, `Diagnostic.exitCode`: how it is shown, and the exit code that goes with it.
-/

namespace Lox

/-- An error of any phase. -/
inductive Diagnostic where
  | lexical (e : LexError)
  | grammatical (e : SyntaxError)
  | scoping (e : ScopeError)
  | fault (f : Fault)

/-- The words for the place of a token in its line. -/
def Token.location (t : Token) : String :=
  if t.kind.isEnd then " at end" else " at '" ++ t.lexeme ++ "'"

namespace Diagnostic

/-- The line of an error. -/
def line : Diagnostic → Nat
  | lexical e => e.line
  | grammatical e => e.token.line
  | scoping e => e.token.line
  | fault f => f.line

/-- The place of an error in its line, for errors that are found at tokens. -/
def location? : Diagnostic → Option String
  | lexical _ => none
  | grammatical e => some e.token.location
  | scoping e => some e.token.location
  | fault _ => none

/-- The message of an error. -/
def message : Diagnostic → String
  | lexical e => e.message
  | grammatical e => e.message
  | scoping e => e.message
  | fault f => f.message

/-- How an error is shown. -/
def text (d : Diagnostic) : String :=
  match d with
  | fault f => f.message ++ "\n[line " ++ toString f.line ++ "]"
  | _ => "[line " ++ toString d.line ++ "] Error" ++ d.location?.getD "" ++ ": " ++ d.message

/-- The exit code that goes with an error. -/
def exitCode : Diagnostic → Nat
  | fault _ => 70
  | _ => 65

/-- Whether an error ends a whole session. -/
def isFatal : Diagnostic → Bool
  | fault f => f.isFatal
  | _ => false

end Diagnostic

end Lox
