import Lox.Proofs.Grammar.Progress

/-!
# What the parser promises

Every request has a rank, which says how many requests it may make before a token is passed. The
credit for its treatment is a multiple of the rank. What is promised of its result is that the
tokens passed derive the tree, and that the tree numbers its occurrences apart.

## Main definitions

* `Parser.Request.rank`, `Parser.Request.surplus`: how a request is paid for.
* `Parser.Promise`: what holds of a result without errors.
* `Parser.Ready`, `Parser.Free`: all requests of a smaller measure, or all that are made from some
  cursor on, are settled as promised.
-/

namespace Lox.Parser

open Grammar (Derives longest)

/-- The number of requests that a level may make before a token is passed. -/
def Level.rank : Level → Nat
  | .factor => 2
  | .term => 3
  | .comparison => 4
  | .equality => 5
  | .conjunction => 6
  | .disjunction => 7

namespace Request

variable {p : Phrase}

/-- The number of requests that the treatment of a request may make before a token is passed. -/
def rank : Request p → Nat
  | .function _ | .parameters _ | .operators _ _ | .operand | .suffixes _ => 0
  | .unary | .methods => 1
  | .level l => l.rank
  | .expression => 8
  | .arguments _ | .statement => 9
  | .declaration => 10
  | .block => 11
  | .program => 14

/-- What is left over of a phrase that has at least one token. -/
def surplus : Request p → Nat
  | .operators _ _ | .suffixes _ | .methods | .program => 0
  | _ => 60

/-- A number that decreases from each request to those that its treatment makes. -/
def measure (request : Request p) (c : Cursor) : Nat :=
  16 * c.rest.length + request.rank

end Request

/-- What is promised of a tree that has been read without any error. -/
def Promise {p : Phrase} (request : Request p) (c : Cursor) (ts : List Token) (tree : p.Tree)
    (t : Cursor) : Prop :=
  match p, request, tree with
  | _, .program, ss =>
    t.rest = [] ∧ Derives .declarations ts ss ∧ Apart c.nextId t.nextId (ss.flatMap Stmt.ids)
  | _, .declaration, s => Derives .declaration ts s ∧ Apart c.nextId t.nextId s.ids
  -- A statement that ends in an `if` without `else` is not followed by `else`.
  | _, .statement, s =>
    (∀ short, (short = false → t.peek.isKeyword .else_ = true) →
      Derives (.statement short) ts s) ∧ Apart c.nextId t.nextId s.ids
  | _, .block, ss =>
    (∃ us closing, ts = us ++ [closing] ∧ closing.isSymbol .rightBrace ∧
      Derives .declarations us ss) ∧ Apart c.nextId t.nextId (ss.flatMap Stmt.ids)
  | _, .methods, ds =>
    Derives .functions ts ds ∧ Apart c.nextId t.nextId (ds.flatMap FunctionDecl.ids)
  | _, .function _, d => Derives .function ts d ∧ Apart c.nextId t.nextId d.ids
  | _, .parameters before, names => Derives .names ts names ∧ before + names.length ≤ longest
  | _, .arguments before, es =>
    (Derives .values ts es ∧ before + es.length ≤ longest) ∧
      Apart c.nextId t.nextId (es.flatMap Expr.ids)
  | _, .expression, e => Derives (.expression .whole) ts e ∧ Apart c.nextId t.nextId e.ids
  | _, .level l, e => Derives (.expression (.level l)) ts e ∧ Apart c.nextId t.nextId e.ids
  | _, .operators l left, e =>
    (∀ us, Derives (.expression (.level l)) us left →
      Derives (.expression (.level l)) (us ++ ts) e) ∧
    ∀ lo, lo ≤ c.nextId → Apart lo c.nextId left.ids → Apart lo t.nextId e.ids
  | _, .unary, e => Derives (.expression .unary) ts e ∧ Apart c.nextId t.nextId e.ids
  | _, .operand, e => Derives (.expression .call) ts e ∧ Apart c.nextId t.nextId e.ids
  | _, .suffixes callee, e =>
    (∀ us, Derives (.expression .call) us callee → Derives (.expression .call) (us ++ ts) e) ∧
    ∀ lo, lo ≤ c.nextId → Apart lo c.nextId callee.ids → Apart lo t.nextId e.ids

/-- A request is settled as promised. -/
def Kept {p : Phrase} (request : Request p) (c : Cursor) : Prop :=
  Job.Settled step request c
    (Reads (3 * request.rank) request.surplus c (Promise request c))

/-- Every request that decreases the measure of the given one is settled as promised. -/
def Ready {p : Phrase} (request : Request p) (c : Cursor) : Prop :=
  ∀ (p' : Phrase) (request' : Request p') (c' : Cursor), c'.last.kind.isEnd = true →
    request'.measure c' < request.measure c → Kept request' c'

/-- Every request is settled as promised once the cursor has come this far. -/
def Free (c : Cursor) : Prop :=
  ∀ (p : Phrase) (request : Request p) (c' : Cursor), c'.last.kind.isEnd = true →
    c'.rest.length ≤ c.rest.length → Kept request c'

section

variable {p p' : Phrase} {request : Request p} {request' : Request p'} {c t : Cursor}
  {ts : List Token}

theorem Request.rank_lt (request : Request p) : request.rank < 16 := by
  cases request with
  | level l => cases l <;> decide
  | _ => simp [rank]

/-- Once a token is passed, every request may be made. -/
theorem Ready.free (ready : Ready request c) (passes : c.Passes ts t) (some : 0 < ts.length) :
    Free t := by
  intro p' request' c' closed le
  refine ready p' request' c' closed ?_
  have isLength := passes.length_eq
  have lt := request'.rank_lt
  unfold Request.measure
  omega

theorem Free.passes (free : Free c) (passes : c.Passes ts t) : Free t := by
  intro p request c' closed le
  have isLength := passes.length_eq
  exact free p request c' closed (by omega)

theorem Ready.kept (ready : Ready request c) (passes : c.Passes ts t) (request' : Request p')
    (lt : request'.rank < request.rank) : Kept request' t := by
  refine ready p' request' t passes.closed ?_
  have isLength := passes.length_eq
  unfold Request.measure
  omega

/-- Asking for a phrase of a smaller rank. -/
theorem Ready.ask (ready : Ready request c) (passes : c.Passes ts t) (request' : Request p')
    (lt : request'.rank < request.rank) :
    Job.Delivers step (Parse.ask request') t
      (Reads (3 * request'.rank + 2) request'.surplus t (Promise request' t)) :=
  Reads.ask (ready.kept passes request' lt)

theorem Free.kept (free : Free c) (request : Request p) (closed : c.last.kind.isEnd = true) :
    Kept request c :=
  free p request c closed (Nat.le_refl _)

theorem Free.ask (free : Free c) (request : Request p) (closed : c.last.kind.isEnd = true) :
    Job.Delivers step (Parse.ask request) c
      (Reads (3 * request.rank + 2) request.surplus c (Promise request c)) :=
  Reads.ask (free.kept request closed)

end

end Lox.Parser
