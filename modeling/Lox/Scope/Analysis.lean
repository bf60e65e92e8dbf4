import Lox.Scope.Event
import Std.Data.TreeMap

/-!
# Scopes and distances

The static reading of a program keeps the scopes that are open. An occurrence of a name is bound to
the innermost open scope that holds the name, and its *distance* is the number of scopes inside that
one. Names that no open scope holds are global and get no distance. The rules of the language on
names, `return`, `this` and `super` are checked on the way; an error does not stop the reading.

## Main definitions

* `ScopeError`: the violations of the rules.
* `Scope.Analysis`: the state of the reading; `Scope.Analysis.step` takes one event.
* `Scope.analyse`: the reading of a list of events.
-/

namespace Lox

/-- The rules on names and on where some keywords may stand. -/
inductive ScopeError.Cause where
  | alreadyDeclared
  | readInOwnInitializer
  | returnOutsideFunction
  | valueFromInitializer
  | thisOutsideClass
  | superOutsideClass
  | superWithoutSuperclass
  | selfInheritance
  deriving DecidableEq, Repr

/-- A violation of a rule and the token where it was found. -/
structure ScopeError where
  token : Token
  cause : ScopeError.Cause

/-- The message of a violation. -/
def ScopeError.message (e : ScopeError) : String :=
  match e.cause with
  | .alreadyDeclared => "Already a variable with this name in this scope."
  | .readInOwnInitializer => "Can't read local variable in its own initializer."
  | .returnOutsideFunction => "Can't return from top-level code."
  | .valueFromInitializer => "Can't return a value from an initializer."
  | .thisOutsideClass => "Can't use 'this' outside of a class."
  | .superOutsideClass => "Can't use 'super' outside of a class."
  | .superWithoutSuperclass => "Can't use 'super' in a class with no superclass."
  | .selfInheritance => "A class can't inherit from itself."

namespace Scope

/-- The names that a scope holds, each with the answer to whether it is ready for use. -/
abbrev Names : Type :=
  Std.TreeMap String Bool

/-- The number of scopes inside the innermost one that holds a name. -/
def distance? (name : String) : List Names → Option Nat
  | [] => none
  | scope :: scopes =>
    if scope.contains name then some 0 else (distance? name scopes).map (· + 1)

/-- The state of the static reading. Lists that grow and shrink have their innermost or most recent
element first. -/
structure Analysis where
  scopes : List Names
  functions : List FunctionRole
  /-- For each class around, whether it has a superclass. -/
  classes : List Bool
  errors : List ScopeError
  distances : List (NodeId × Nat)

namespace Analysis

/-- The state before the first event, at the top level. -/
def start : Analysis :=
  ⟨[], [], [], [], []⟩

/-- Note a violation. -/
def report (a : Analysis) (token : Token) (cause : ScopeError.Cause) : Analysis :=
  { a with errors := ⟨token, cause⟩ :: a.errors }

/-- Enter a name into the innermost scope, if there is one; the top level is none. -/
def enter (a : Analysis) (name : String) (ready : Bool) : Analysis :=
  match a.scopes with
  | [] => a
  | scope :: scopes => { a with scopes := scope.insert name ready :: scopes }

/-- What the innermost scope says about a name. -/
def local? (a : Analysis) (name : String) : Option Bool :=
  a.scopes.head?.bind fun scope => scope[name]?

/-- Declare a name. A name that the scope already holds is an error, and stays as it is. -/
def declare (a : Analysis) (name : Token) : Analysis :=
  if (a.local? name.lexeme).isSome then a.report name .alreadyDeclared
  else a.enter name.lexeme false

/-- Record the distance of an occurrence, if a scope holds its name. -/
def record (a : Analysis) (occurrence : Occurrence) : Analysis :=
  match distance? occurrence.name.lexeme a.scopes with
  | some distance => { a with distances := (occurrence.id, distance) :: a.distances }
  | none => a

/-- Treat an occurrence of a name. -/
def occurs (a : Analysis) (site : Site) : Analysis :=
  let occurrence := site.occurrence
  let name := occurrence.name
  match site.kind with
  | .assignment => a.record occurrence
  | .reference =>
    let a := if a.local? name.lexeme == some false then a.report name .readInOwnInitializer else a
    a.record occurrence
  | .this =>
    if a.classes.isEmpty then a.report name .thisOutsideClass else a.record occurrence
  | .super =>
    let a :=
      match a.classes with
      | [] => a.report name .superOutsideClass
      | false :: _ => a.report name .superWithoutSuperclass
      | true :: _ => a
    a.record occurrence

/-- Treat a `return` statement. -/
def returns (a : Analysis) (keyword : Token) (hasValue : Bool) : Analysis :=
  match a.functions with
  | [] => a.report keyword .returnOutsideFunction
  | .initializer :: _ => if hasValue then a.report keyword .valueFromInitializer else a
  | _ => a

/-- Take one event. -/
def step (a : Analysis) : Event → Analysis
  | .opening => { a with scopes := ∅ :: a.scopes }
  | .closing => { a with scopes := a.scopes.tail }
  | .declare name => a.declare name
  | .define name => a.enter name.lexeme true
  | .implicit name => a.enter name true
  | .enterFunction role => { a with functions := role :: a.functions }
  | .leaveFunction => { a with functions := a.functions.tail }
  | .enterClass hasSuperclass => { a with classes := hasSuperclass :: a.classes }
  | .leaveClass => { a with classes := a.classes.tail }
  | .selfInheritance superclass => a.report superclass .selfInheritance
  | .occurs site => a.occurs site
  | .returns keyword hasValue => a.returns keyword hasValue

end Analysis

/-- What the static reading of a tree finds. -/
structure Verdict where
  /-- The violations, in the order of the source. -/
  errors : List ScopeError
  /-- The distances of the occurrences that are bound to a scope. -/
  distances : List (NodeId × Nat)

/-- The static reading of a list of events. -/
def analyse (events : List Event) : Verdict :=
  let a := events.foldl Analysis.step .start
  ⟨a.errors.reverse, a.distances.reverse⟩

end Scope

end Lox
