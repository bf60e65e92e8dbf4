/-!
# Routines: computations that ask for goals

A recursive computation over deep data is split into *routines*. A routine is either done, or it
asks for the answer to a *goal* and goes on with that answer. What a goal means is given by a
*body*, a function from goals to routines; the recursion is in the body's requests and not in any
function of the library, so a goal may nest as deeply as memory allows.

Two readings of the same routine are defined here.

* `Routine.run` keeps the routines that wait for an answer on an explicit stack and makes a given
  number of moves. It is a loop, and it is what a program executes.
* `Routine.solve` answers nested goals by recursion on a bound for their nesting. It is what proofs
  are about.

## Main definitions

* `Routine`: the computations, a monad; `Routine.ask`: the routine that asks for one goal.
* `Reply`: how a body ends, with an answer or by turning into another goal.
* `Routine.denote`, `Routine.solve`: the recursive reading.
* `Routine.Config`, `Routine.advance`, `Routine.run`: the loop.
-/

namespace Lox

/-- A computation of an `α` that may ask for the answers to goals. Goals come in kinds `κ`, and a
goal of kind `k` is answered by a value of type `Answer k`. -/
inductive Routine {κ : Type} (Goal Answer : κ → Type) (α : Type) : Type where
  /-- The computation is over. -/
  | done (result : α)
  /-- The computation needs the answer to a goal and goes on with it. -/
  | call {k : κ} (goal : Goal k) (next : Answer k → Routine Goal Answer α)

/-- The end of a body: an answer, or another goal of the same kind whose answer is the answer. The
second form leaves nothing to come back to, so a loop written with it runs in constant space. -/
inductive Reply {κ : Type} (Goal Answer : κ → Type) (k : κ) : Type where
  | answer (result : Answer k)
  | become (goal : Goal k)

namespace Routine

variable {κ : Type} {Goal Answer : κ → Type} {α β : Type} {k : κ}

/-- Run the first routine, then the second on its result. -/
def bind : Routine Goal Answer α → (α → Routine Goal Answer β) → Routine Goal Answer β
  | done a, f => f a
  | call goal next, f => call goal fun answer => (next answer).bind f

instance : Monad (Routine Goal Answer) where
  pure := done
  bind := bind

/-- The routine that asks for one goal and returns its answer. -/
def ask (goal : Goal k) : Routine Goal Answer (Answer k) :=
  call goal done

/-! ### The recursive reading -/

/-- The result of a routine whose goals are answered by `answer?`. -/
def denote (answer? : (k : κ) → Goal k → Option (Answer k)) : Routine Goal Answer α → Option α
  | done a => some a
  | call (k := k) goal next => (answer? k goal).bind fun answer => (next answer).denote answer?

variable (body : (k : κ) → Goal k → Routine Goal Answer (Reply Goal Answer k))

/-- The answer to a goal whose requests, and the goals it turns into, nest at most `n` deep. -/
def solve : Nat → (k : κ) → Goal k → Option (Answer k)
  | 0, _, _ => none
  | n + 1, k, goal =>
    ((body k goal).denote (solve n)).bind fun
      | .answer result => some result
      | .become goal => solve n k goal

/-! ### The loop -/

/-- The routines that wait for an answer of kind `k`, innermost first; the outermost one computes
the result `α` of the whole run. -/
inductive Stack {κ : Type} (Goal Answer : κ → Type) (α : Type) : κ → Type where
  | last {k : κ} (next : Answer k → Routine Goal Answer α) : Stack Goal Answer α k
  | push {k k' : κ} (next : Answer k → Routine Goal Answer (Reply Goal Answer k'))
      (rest : Stack Goal Answer α k') : Stack Goal Answer α k

/-- A moment of a run: the outermost routine is active, or a goal's routine is active and others
wait for it. -/
inductive Config {κ : Type} (Goal Answer : κ → Type) (α : Type) : Type where
  | outer (active : Routine Goal Answer α)
  | inner {k : κ} (active : Routine Goal Answer (Reply Goal Answer k))
      (waiting : Stack Goal Answer α k)

/-- Make at most the given number of moves. The result is the value of the outermost routine, or
the moment at which the moves were used up. -/
def advance : Nat → Config Goal Answer α → Except (Config Goal Answer α) α
  | 0, moment => .error moment
  | _ + 1, .outer (done a) => .ok a
  | n + 1, .outer (call goal next) => advance n (.inner (body _ goal) (.last next))
  | n + 1, .inner (call goal next) waiting => advance n (.inner (body _ goal) (.push next waiting))
  | n + 1, .inner (done (.become goal)) waiting => advance n (.inner (body _ goal) waiting)
  | n + 1, .inner (done (.answer a)) (.push next waiting) => advance n (.inner (next a) waiting)
  | n + 1, .inner (done (.answer a)) (.last next) => advance n (.outer (next a))

/-- The result of a routine, if `moves` moves are enough. -/
def run (moves : Nat) (routine : Routine Goal Answer α) : Option α :=
  (advance body moves (.outer routine)).toOption

end Routine

end Lox
