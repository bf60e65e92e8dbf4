import Lox.Proofs.Grammar.Construction
import Lox.Proofs.Grammar.Progress
import Lox.Proofs.Routine.Contract

/-!
# What the parser builds

Numbers are given by a counter, one at each construction of a node. A computation that goes well
*builds* its result if the tokens that it passes and the occurrences that it numbers, in this order
and without gaps, make up a construction of the result. What is built in sequence is taken together:
the tokens and the occurrences of the second part come behind those of the first.

## Main definitions

* `Parser.Made`: what is built at each request.
* `Parser.building`: the contract by which every answer is built.
* `Parser.Builds`: a computation from a cursor keeps to the contract.

## Main results

* `Parser.Builds.bind`: what is built in sequence.
-/

namespace Lox

namespace Parser

open Grammar (Constructs)

/-- What is built at a request: the tree is constructed out of the tokens that are passed, and the
nodes of the log in this order. -/
def Made {p : Phrase} (request : Request p) (ts : List Token) (tree : p.Tree)
    (log : List Occurrence) : Prop :=
  match p, request, tree with
  | _, .program, ss => Constructs .statements ts ss log
  | _, .declaration, s | _, .statement, s => Constructs .statement ts s log
  | _, .block, ss => ∃ us closing, ts = us ++ [closing] ∧ closing.isSymbol .rightBrace ∧
      Constructs .statements us ss log
  | _, .methods, ds => Constructs .functions ts ds log
  | _, .function _, d => Constructs .function ts d log
  | _, .parameters _, names => log = [] ∧ Constructs .names ts names []
  | _, .arguments _, es => Constructs .values ts es log
  | _, .expression, e | _, .level _, e | _, .unary, e | _, .operand, e =>
    Constructs .expression ts e log
  -- What is to the left is constructed already.
  | _, .operators _ left, e | _, .suffixes left, e =>
    ∀ us log', Constructs .expression us left log' →
      Constructs .expression (us ++ ts) e (log' ++ log)

/-- The end of a computation from the cursor `c`: some tokens were passed, and a result for which no
error was noted is built out of them. -/
def Built {α : Type} (c : Cursor) (good : List Token → α → List Occurrence → Prop)
    (left : Except SyntaxError α × Cursor) : Prop :=
  ∃ ts, c.Passes ts left.2 ∧ ∀ a, left.1 = .ok a → left.2.errors.length = c.errors.length →
    ∃ log, Numbered c.nextId log left.2.nextId ∧ good ts a log

/-- Every answer is built. -/
def building : Contract (Job.Goal Cursor Request) (Job.Answer Cursor SyntaxError Phrase.Tree) where
  Pre goal := goal.2.last.kind.isEnd = true
  Post goal answer := Built goal.2 (Made goal.1) answer
  Next _ _ := True

/-- A computation from a cursor builds what is good, provided that the answers it gets are built. -/
abbrev Builds {α : Type} (c : Cursor) (good : List Token → α → List Occurrence → Prop)
    (job : Parse α) : Prop :=
  Routine.Keeps building (fun _ => True) (Built c good) (job c)

section

variable {α β : Type} {p : Phrase} {c t : Cursor} {ts : List Token}
  {good : List Token → α → List Occurrence → Prop}
  {before : List Token → β → List Occurrence → Prop}

/-- What was built before is taken together with what is built now. -/
theorem Built.shift {b : β} {left : Except SyntaxError α × Cursor} (passes : c.Passes ts t)
    (isBefore : t.errors.length = c.errors.length →
      ∃ log, Numbered c.nextId log t.nextId ∧ before ts b log)
    (h : Built t (fun us a log' => ∀ log, before ts b log → good (ts ++ us) a (log ++ log')) left) :
    Built c good left := by
  obtain ⟨us, passes', isGood⟩ := h
  refine ⟨ts ++ us, passes.trans passes', fun a isResult clean => ?_⟩
  have le := passes.noted_le
  have le' := passes'.noted_le
  obtain ⟨log, numbers, first⟩ := isBefore (by omega)
  obtain ⟨log', numbers', second⟩ := isGood a isResult (by omega)
  exact ⟨log ++ log', numbers.append numbers', second log first⟩

theorem Built.error {e : SyntaxError} {t : Cursor} (passes : c.Passes ts t) :
    Built c good (.error e, t) :=
  ⟨ts, passes, nofun⟩

theorem Built.mono {good' : List Token → α → List Occurrence → Prop}
    {left : Except SyntaxError α × Cursor} (h : Built c good left)
    (h' : ∀ ts a log, good ts a log → good' ts a log) : Built c good' left := by
  obtain ⟨ts, passes, isGood⟩ := h
  refine ⟨ts, passes, fun a isResult clean => ?_⟩
  obtain ⟨log, numbers, isGood⟩ := isGood a isResult clean
  exact ⟨log, numbers, h' ts a log isGood⟩

namespace Builds

/-- Build one thing, then another. -/
theorem bind {job : Parse β} {next : β → Parse α} (first : Builds c before job)
    (rest : ∀ ts b t, c.Passes ts t →
      Builds t (fun us a log' => ∀ log, before ts b log → good (ts ++ us) a (log ++ log'))
        (next b)) :
    Builds c good (job >>= next) := by
  refine Routine.Keeps.bind first ?_
  rintro ⟨outcome, t⟩ ⟨ts, passes, isBefore⟩
  cases outcome with
  | ok b => exact (rest ts b t passes).mono fun _ built => built.shift passes (isBefore b rfl)
  | error e => exact .done (.error passes)

theorem pure {a : α} (closed : c.last.kind.isEnd = true) (isGood : good [] a []) :
    Builds c good (Pure.pure a) :=
  .done ⟨[], .refl closed, fun _ isResult _ => ⟨[], .nil, by cases isResult; exact isGood⟩⟩

theorem throw {e : SyntaxError} (closed : c.last.kind.isEnd = true) :
    Builds c good (MonadExcept.throw e : Parse α) :=
  .done (.error (.refl closed))

theorem map {job : Parse β} {f : β → α} (h : Builds c (fun ts b log => good ts (f b) log) job) :
    Builds c good (f <$> job) := by
  refine Routine.Keeps.bind h ?_
  rintro ⟨outcome, t⟩ ⟨ts, passes, isGood⟩
  cases outcome with
  | ok b => exact .done ⟨ts, passes, fun _ isResult clean => by
      cases isResult; exact isGood b rfl clean⟩
  | error e => exact .done (.error passes)

theorem mono {good' : List Token → α → List Occurrence → Prop} {job : Parse α}
    (h : Builds c good job) (h' : ∀ ts a log, good ts a log → good' ts a log) :
    Builds c good' job :=
  Routine.Keeps.mono h fun _ built => built.mono h'

theorem ask (request : Request p) (closed : c.last.kind.isEnd = true) :
    Builds c (Made request) (Parse.ask request) :=
  .call closed trivial fun _ built => .done built

/-! ### Looking ahead -/

theorem get {next : Cursor → Parse α} (h : Builds c good (next c)) :
    Builds c good (MonadState.get >>= next) := h

theorem peek {next : Token → Parse α} (h : Builds c good (next c.peek)) :
    Builds c good (Parse.peek >>= next) := h

theorem sees {s : Symbol} {next : Bool → Parse α} (h : Builds c good (next (c.peek.isSymbol s))) :
    Builds c good (Parse.sees s >>= next) := h

theorem atEnd {next : Bool → Parse α} (h : Builds c good (next c.atEnd)) :
    Builds c good (Parse.atEnd >>= next) := h

/-! ### Single tokens -/

theorem advance (closed : c.last.kind.isEnd = true) (inside : c.peek.kind.isEnd = false) :
    Builds c (fun ts _ log => ts = [c.peek] ∧ log = []) Parse.advance :=
  .done ⟨_, c.passes_advance closed inside, fun _ _ _ => ⟨[], .nil, rfl, rfl⟩⟩

theorem missing {expected : Expectation} (closed : c.last.kind.isEnd = true) :
    Builds c good (Parse.missing expected : Parse α) :=
  .done (.error (.refl closed))

theorem expectSymbol {s : Symbol} {place : Place} (closed : c.last.kind.isEnd = true) :
    Builds c (fun ts t log => ts = [t] ∧ t.isSymbol s ∧ log = []) (Parse.expectSymbol s place) := by
  refine peek ?_
  split
  · next isSymbol =>
    refine bind (advance closed (Cursor.isEnd_of_isSymbol isSymbol)) fun _ _ t passes => ?_
    refine pure passes.closed ?_
    rintro log ⟨rfl, rfl⟩
    exact ⟨rfl, isSymbol, rfl⟩
  · exact missing closed

theorem expectName {role : NameRole} (closed : c.last.kind.isEnd = true) :
    Builds c (fun ts t log => ts = [t] ∧ log = []) (Parse.expectName role) := by
  refine peek ?_
  split
  · next isName =>
    refine bind (advance closed (by rw [isName]; rfl)) fun _ _ t passes => ?_
    refine pure passes.closed ?_
    rintro log ⟨rfl, rfl⟩
    exact ⟨rfl, rfl⟩
  · exact missing closed

/-- A node is constructed and gets the next number. -/
theorem occurrence {name : Token} (closed : c.last.kind.isEnd = true) :
    Builds c (fun ts o log => ts = [] ∧ o.name = name ∧ log = [o]) (Parse.occurrence name) :=
  .done ⟨[], ⟨rfl, rfl, closed, Nat.le_succ _, Nat.le_refl _⟩, fun _ isResult _ => by
    cases isResult
    exact ⟨[⟨c.nextId, name⟩], ⟨rfl, rfl⟩, rfl, rfl, rfl⟩⟩

/-- Once an error is noted, nothing is built. -/
theorem record {token : Token} {cause : SyntaxError.Cause} (closed : c.last.kind.isEnd = true) :
    Builds c (fun _ _ _ => False) (Parse.record token cause) :=
  .done ⟨[], ⟨rfl, rfl, closed, Nat.le_refl _, Nat.le_succ _⟩,
    fun _ _ clean => (Nat.succ_ne_self _ clean).elim⟩

/-- What follows a choice follows both of its sides. -/
theorem either {b : Bool} {job job' : Parse β} {next : β → Parse α}
    (h : Builds c good ((if b = true then job else job') >>= next)) :
    Builds c good (if b = true then job >>= next else job' >>= next) := by
  cases b <;> exact h

/-- A symbol that is accepted is passed. -/
theorem accept {s : Symbol} {next : Bool → Parse α}
    (yes : c.peek.isSymbol s = true → Builds c good (Parse.advance >>= fun _ => next true))
    (no : Builds c good (next false)) : Builds c good (Parse.accept s >>= next) := by
  have isAccept : Parse.accept s >>= next = Parse.sees s >>= fun seen =>
      if seen = true then Parse.advance >>= fun _ => next true else next false := by
    simp only [Parse.accept, bind_assoc]
    congr 1
    funext seen
    cases seen <;> simp
  rw [isAccept]
  refine sees ?_
  by_cases isSymbol : c.peek.isSymbol s = true
  · rw [if_pos isSymbol]
    exact yes isSymbol
  · rw [if_neg isSymbol]
    exact no

end Builds

end

end Parser

end Lox
