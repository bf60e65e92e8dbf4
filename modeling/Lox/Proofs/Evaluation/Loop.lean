import Lox.Proofs.Evaluation.Graph
import Lox.Proofs.Evaluation.Sequence
import Lox.Proofs.Grammar.Derivation
import Lox.Proofs.Heap
import Lox.Proofs.Tree.Formed

/-!
# Loops

A loop hands over to itself after each round, so what it does is what a number of rounds do. A `for`
statement stands for a loop in blocks that hold the initializer and the increment. What the clauses
of a `for` statement mean can be said without these blocks: there is one scope for all of them, in
which the initializer is executed once, and then in each round the condition, the body and the
increment.

## Main definitions

* `Evaluation.round`, `Evaluation.rounds`: a round of a loop, and rounds in sequence.
* `Interpreter.inScope`, `Evaluation.inNewScope`: states and computations in new scopes.
* `ForClauses`: the clauses of a `for` statement and its body.
* `ForClauses.lowered`: the statement that the clauses stand for.
* `ForClauses.direct`: what the clauses mean, up to a number of rounds.

## Main results

* `Evaluation.ends_loop_iff`: a loop ends as some number of rounds do.
* `ForClauses.ends_lowered_iff`: so does the statement for the clauses of a `for` statement.
* `ForClauses.shared_of_ends`: all rounds share the variable that the initializer declares.
-/

namespace Lox

/-- A state in a new scope. -/
def Interpreter.inScope (i : Interpreter) : Interpreter :=
  { i with heap := (i.heap.newFrame (some i.frame) ∅).2, frame := i.heap.frames.size }

theorem Interpreter.Rooted.inScope {i : Interpreter} (h : i.Rooted) : i.inScope.Rooted := by
  refine ⟨h.heap.newFrame h.frame fun x v found => ?_, ?_⟩
  · rw [Std.TreeMap.getElem?_emptyc] at found
    cases found
  · exact Nat.lt_of_lt_of_eq (Nat.lt_succ_self _) Heap.size_newFrame.symm

namespace Evaluation

variable {α : Type} {i j : Interpreter}

/-- A round of a loop: a test, and a pass if the test is truthy. There is a result if the loop ends
with this round. -/
def round (test : Eval Value) (pass : Eval Flow) : Eval (Option Flow) := do
  if (← test).isTruthy then
    match ← pass with
    | .normal => pure none
    | .returned value => pure (some (.returned value))
  else
    pure (some .normal)

/-- Rounds of a loop up to its end, and at most the given number of them. -/
def rounds (test : Eval Value) (pass : Eval Flow) : Nat → Eval (Option Flow)
  | 0 => pure none
  | n + 1 => do
    match ← round test pass with
    | none => rounds test pass n
    | some flow => pure (some flow)

/-- Do something in a new scope. -/
def inNewScope (job : Eval α) : Eval α := do
  let f ← modifyGet fun i => i.newFrame i.frame ∅
  within f job

/-! ### Treatments in sequence -/

/-- Go on to the end of a request behind its treatment. -/
def complete {p : Phase} : Step p → Eval p.Result
  | .finished result => pure result
  | .handOver r => Job.ask r

/-- A request ends as its treatment does, and what it hands over to. -/
theorem ends_ask_iff_complete {p : Phase} {r : Request p} {outcome : Except Fault p.Result} :
    Ends (Job.ask r) i outcome j ↔ Ends (step p r >>= complete) i outcome j := by
  rw [ends_ask_iff, ends_bind_iff]
  constructor
  · rintro (failed | ⟨result, rfl, ended⟩ | ⟨r', k, ended, rest⟩)
    · exact .inl failed
    · exact .inr ⟨_, _, ended, ends_pure_iff.2 ⟨rfl, rfl⟩⟩
    · exact .inr ⟨_, _, ended, rest⟩
  · rintro (failed | ⟨result | r', k, ended, rest⟩)
    · exact .inl failed
    · obtain ⟨rfl, rfl⟩ := ends_pure_iff.1 rest
      exact .inr (.inl ⟨result, rfl, ended⟩)
    · exact .inr (.inr ⟨r', k, ended, rest⟩)

theorem ends_within_iff {f : FrameId} {job : Eval α} {outcome : Except Fault α} :
    Ends (within f job) i outcome j ↔
      ∃ k, Ends job { i with frame := f } outcome k ∧ j = { k with frame := i.frame } := by
  have isMeaning (n : Nat) : Job.meaning step n (within f job) i =
      (Job.meaning step n job { i with frame := f }).map
        fun ended => (ended.1, { ended.2 with frame := i.frame }) := by
    rw [within, Job.meaning_bind, Job.meaning_modifyGet]
    exact Job.meaning_always step n _ job _
  simp only [ends_iff, isMeaning, Option.map_eq_some_iff, Prod.mk.injEq, Prod.exists]
  constructor
  · rintro ⟨n, _, k, ended, rfl, rfl⟩
    exact ⟨k, ⟨n, ended⟩, rfl⟩
  · rintro ⟨k, ⟨n, ended⟩, rfl⟩
    exact ⟨n, _, k, ended, rfl, rfl⟩

theorem ends_inNewScope_iff {job : Eval α} {outcome : Except Fault α} :
    Ends (inNewScope job) i outcome j ↔
      ∃ k, Ends job i.inScope outcome k ∧ j = { k with frame := i.frame } := by
  have isStart : (Ends (inNewScope job) i outcome j ↔
      Ends (within i.heap.frames.size job) (i.newFrame i.frame ∅).2 outcome j) := by
    simp only [inNewScope, ends_iff, Job.meaning_bind, Job.meaning_modifyGet, Option.bind_some]
    rfl
  exact isStart.trans ends_within_iff

theorem ends_literal_iff {value : Literal} {line : Nat} {outcome : Except Fault Value} :
    Ends (evaluate (.literal value line)) i outcome j ↔ outcome = .ok (.ofLiteral value) ∧ j = i :=
  ends_ask_iff_complete.trans ends_pure_iff

theorem ends_block_iff {ss : List Stmt} {outcome : Except Fault Flow} :
    Ends (execute (.block ss)) i outcome j ↔
      Ends (inNewScope (executeAll ss)) i outcome j := by
  have isStep : executeStep (.block ss) >>= complete = inNewScope (executeAll ss) := by
    simp only [executeStep, inNewScope, bind_assoc]
    refine congrArg (_ >>= ·) (funext fun f => ?_)
    exact bind_pure _
  rw [← isStep]
  exact ends_ask_iff_complete

theorem ends_expression_iff {e : Expr} {outcome : Except Fault Flow} :
    Ends (execute (.expression e)) i outcome j ↔
      Ends (do
        let _ ← evaluate e
        pure .normal) i outcome j := by
  have isStep : executeStep (.expression e) >>= complete = (do
      let _ ← evaluate e
      pure .normal) := by
    rw [executeStep, bind_assoc]
    rfl
  rw [← isStep]
  exact ends_ask_iff_complete

/-- The value that a variable is declared with. -/
def initialValue : Option Expr → Eval Value
  | some e => evaluate e
  | none => pure .nil

theorem ends_varDecl_iff {name : Token} {value : Option Expr} {outcome : Except Fault Flow} :
    Ends (execute (.varDecl name value)) i outcome j ↔
      Ends (do
        let v ← initialValue value
        define name v
        pure .normal) i outcome j := by
  have isStep : executeStep (.varDecl name value) >>= complete = (do
      let v ← initialValue value
      define name v
      pure .normal) := by
    cases value with
    | none => rfl
    | some e =>
      simp only [executeStep, bind_assoc]
      rfl
  rw [← isStep]
  exact ends_ask_iff_complete

/-- A round of a loop, and then the loop again or its end. -/
theorem executeStep_loop (condition : Expr) (body : Stmt) :
    executeStep (.loop condition body) = round (evaluate condition) (execute body) >>= fun result =>
      match result with
      | none => handOver (.execute (.loop condition body))
      | some flow => finish flow := by
  rw [executeStep, round, bind_assoc]
  refine congrArg (evaluate condition >>= ·) (funext fun v => ?_)
  split
  · rw [bind_assoc]
    refine congrArg (execute body >>= ·) (funext fun flow => ?_)
    cases flow <;> rfl
  · rfl

section

variable {condition : Expr} {body : Stmt} {outcome : Except Fault Flow}

/-- A loop that ends has made some number of rounds. The induction is on the fuel of the answer: the
loop is handed over to with less of it each time. -/
theorem exists_ends_rounds (ended : Ends (execute (.loop condition body)) i outcome j) :
    ∃ n, Ends (rounds (evaluate condition) (execute body) n) i (outcome.map some) j := by
  obtain ⟨n, answered⟩ := ends_iff.1 ended
  clear ended
  rw [execute, Job.meaning_ask] at answered
  induction n generalizing i with
  | zero => cases answered
  | succ n ih =>
    obtain ⟨treated, k, isTreated, completes⟩ := answer_succ_iff.1 answered
    have treatment : Ends (executeStep (.loop condition body)) i treated k :=
      ends_iff.2 ⟨n, isTreated⟩
    rw [executeStep_loop] at treatment
    rcases ends_bind_iff.1 treatment with ⟨e, rfl, failed⟩ | ⟨flow, k', first, rest⟩
    · cases completes
      exact ⟨1, ends_bind_iff.2 (.inl ⟨e, rfl, failed⟩)⟩
    · cases flow with
      | none =>
        obtain ⟨rfl, rfl⟩ := ends_pure_iff.1 rest
        cases completes with
        | handedOver answered =>
          obtain ⟨m, ended⟩ := ih answered
          exact ⟨m + 1, ends_bind_iff.2 (.inr ⟨none, _, first, ended⟩)⟩
      | some flow =>
        obtain ⟨rfl, rfl⟩ := ends_pure_iff.1 rest
        cases completes
        exact ⟨1, ends_bind_iff.2 (.inr ⟨some flow, _, first, ends_pure_iff.2 ⟨rfl, rfl⟩⟩)⟩

/-- Rounds that end, and not for want of rounds, end the loop. -/
theorem ends_loop_of_rounds {n : Nat}
    (ended : Ends (rounds (evaluate condition) (execute body) n) i (outcome.map some) j) :
    Ends (execute (.loop condition body)) i outcome j := by
  induction n generalizing i with
  | zero =>
    obtain ⟨isNone, -⟩ := ends_pure_iff.1 ended
    cases outcome <;> cases isNone
  | succ n ih =>
    refine ends_ask_iff_complete.2 ?_
    change Ends (executeStep (.loop condition body) >>= complete) i outcome j
    rw [executeStep_loop, bind_assoc]
    rcases ends_bind_iff.1 ended with ⟨e, isError, failed⟩ | ⟨flow, k, first, rest⟩
    · cases outcome <;> cases isError
      exact ends_bind_iff.2 (.inl ⟨e, rfl, failed⟩)
    · refine ends_bind_iff.2 (.inr ⟨flow, k, first, ?_⟩)
      cases flow with
      | none => exact ih rest
      | some flow =>
        obtain ⟨isSome, rfl⟩ := ends_pure_iff.1 rest
        cases outcome <;> cases isSome
        exact ends_pure_iff.2 ⟨rfl, rfl⟩

/-- A loop ends as some number of its rounds do. -/
theorem ends_loop_iff :
    Ends (execute (.loop condition body)) i outcome j ↔
      ∃ n, Ends (rounds (evaluate condition) (execute body) n) i (outcome.map some) j :=
  ⟨exists_ends_rounds, fun ⟨_, ended⟩ => ends_loop_of_rounds ended⟩

end

end Evaluation

/-! ### Clauses of `for` statements -/

/-- A statement that a `for` statement can begin with. -/
inductive Stmt.Starts : Stmt → Prop
  | varDecl (name : Token) (value : Option Expr) : Starts (.varDecl name value)
  | expression (e : Expr) : Starts (.expression e)

/-- The clauses of a `for` statement and its body, which is no declaration. -/
structure ForClauses where
  keyword : Token
  initializer : Option Stmt
  condition : Option Expr
  increment : Option Expr
  body : Stmt
  starts : ∀ s, initializer = some s → s.Starts
  plain : body.declared? = none

namespace Evaluation

variable {s : Stmt} {i j : Interpreter} {flow : Flow}

/-- What a `for` statement begins with does not return. -/
theorem eq_normal_of_starts (starts : s.Starts) (ended : Ends (execute s) i (.ok flow) j) :
    flow = .normal := by
  cases starts with
  | varDecl name value =>
    obtain ⟨_, isError, -⟩ | ⟨v, k, -, rest⟩ := ends_bind_iff.1 (ends_varDecl_iff.1 ended)
    · cases isError
    obtain ⟨_, isError, -⟩ | ⟨_, k', -, rest⟩ := ends_bind_iff.1 rest
    · cases isError
    exact Except.ok.inj (ends_pure_iff.1 rest).1
  | expression e =>
    obtain ⟨_, isError, -⟩ | ⟨v, k, -, rest⟩ := ends_bind_iff.1 (ends_expression_iff.1 ended)
    · cases isError
    exact Except.ok.inj (ends_pure_iff.1 rest).1

/-- A name that it declares is bound behind it. -/
theorem bound_of_starts (starts : s.Starts) (ended : Ends (execute s) i (.ok flow) j) {x : String}
    (declares : s.declared? = some x) (exists_ : j.frame < j.heap.frames.size) :
    (j.heap.binding? j.frame x).isSome = true := by
  cases starts with
  | expression e => cases declares
  | varDecl name value =>
    obtain rfl : name.lexeme = x := Option.some.inj declares
    obtain ⟨_, isError, -⟩ | ⟨v, k, -, rest⟩ := ends_bind_iff.1 (ends_varDecl_iff.1 ended)
    · cases isError
    obtain ⟨_, isError, -⟩ | ⟨_, k', defined, rest⟩ := ends_bind_iff.1 rest
    · cases isError
    obtain ⟨-, rfl⟩ := ends_pure_iff.1 rest
    obtain ⟨n, isDefined⟩ := ends_iff.1 defined
    obtain rfl : k.define k.frame name.lexeme v = j := congrArg Prod.snd (Option.some.inj isDefined)
    have older : k.frame < k.heap.frames.size := Nat.lt_of_lt_of_eq exists_ Heap.size_define
    change ((k.heap.define k.frame name.lexeme v).binding? k.frame name.lexeme).isSome = true
    rw [Heap.binding?_define older, if_pos ⟨rfl, rfl⟩]
    rfl

end Evaluation

namespace ForClauses

open Evaluation

variable (c : ForClauses)

/-! ### Clauses in blocks -/

/-- The condition of the loop. -/
def tested : Expr :=
  c.condition.getD (.literal (.boolean true) c.keyword.line)

/-- The body of the loop. -/
def passed : Stmt :=
  c.increment.elim c.body fun e => .block [c.body, .expression e]

/-- The statement that the clauses stand for. -/
def lowered : Stmt :=
  Grammar.forLoop c.keyword c.initializer c.condition c.increment c.body

theorem lowered_eq : c.lowered = c.initializer.elim (.loop c.tested c.passed) fun s =>
    .block [s, .loop c.tested c.passed] :=
  rfl

/-- The statement for the clauses, up to a number of rounds of its loop. -/
def loweredRounds (n : Nat) : Eval (Option Flow) :=
  match c.initializer with
  | none => rounds (evaluate c.tested) (execute c.passed) n
  | some s =>
    inNewScope do
      let _ ← execute s
      rounds (evaluate c.tested) (execute c.passed) n

/-! ### Clauses in one scope -/

/-- The clauses in one block, each once. -/
def inOneScope : Stmt :=
  .block (c.initializer.toList ++ (c.condition.map Stmt.expression).toList ++
    c.body :: (c.increment.map Stmt.expression).toList)

/-- The value of the condition, which is true if there is none. -/
def test : Eval Value :=
  match c.condition with
  | some e => evaluate e
  | none => pure (.boolean true)

/-- Execute the body, and evaluate the increment if the body does not return. -/
def pass : Eval Flow := do
  match ← execute c.body with
  | .normal =>
    if let some e := c.increment then
      let _ ← evaluate e
    pure .normal
  | .returned value => pure (.returned value)

/-- What the clauses do in their scope, up to a number of rounds: the initializer is executed
once. -/
def inside (n : Nat) : Eval (Option Flow) := do
  if let some s := c.initializer then
    let _ ← execute s
  rounds c.test c.pass n

/-- What the clauses mean, up to a number of rounds: all that they do is done in one new scope. -/
def direct (n : Nat) : Eval (Option Flow) :=
  inNewScope (c.inside n)

/-! ### Ends -/

variable {c} {i j : Interpreter} {outcome : Except Fault Flow}

/-- The statement for the clauses ends as some number of rounds do. -/
theorem ends_lowered_iff : Ends (execute c.lowered) i outcome j ↔
    ∃ n, Ends (c.loweredRounds n) i (outcome.map some) j := by
  rw [lowered_eq]
  unfold loweredRounds
  cases isInitializer : c.initializer with
  | none => exact ends_loop_iff
  | some s =>
    have starts := c.starts s isInitializer
    rw [Option.elim_some, ends_block_iff]
    simp only [ends_inNewScope_iff]
    rw [exists_comm]
    refine exists_congr fun k => ?_
    rw [exists_and_right, executeAll, executeAll_singleton, ends_bind_iff]
    refine and_congr_left fun _ => ?_
    constructor
    · rintro (⟨e, rfl, failed⟩ | ⟨flow, k', first, rest⟩)
      · exact ⟨0, ends_bind_iff.2 (.inl ⟨e, rfl, failed⟩)⟩
      · obtain rfl := eq_normal_of_starts starts first
        obtain ⟨n, ended⟩ := ends_loop_iff.1 rest
        exact ⟨n, ends_bind_iff.2 (.inr ⟨_, _, first, ended⟩)⟩
    · rintro ⟨n, ended⟩
      rcases ends_bind_iff.1 ended with ⟨e, isError, failed⟩ | ⟨flow, k', first, rest⟩
      · cases outcome <;> cases isError
        exact .inl ⟨e, rfl, failed⟩
      · obtain rfl := eq_normal_of_starts starts first
        exact .inr ⟨_, _, first, ends_loop_iff.2 ⟨n, rest⟩⟩

/-! ### One scope for all rounds -/

variable {n : Nat}

theorem leads_test (state : i.Rooted) : Leads i (fun _ _ => True) c.test := by
  unfold test
  cases c.condition with
  | none => exact .pure state.refl trivial
  | some e => exact (leads_evaluate state e).mono fun _ _ _ => trivial

theorem leads_pass (state : i.Rooted) : Leads i (fun _ _ => True) c.pass := by
  refine .bind (leads_execute state c.body) fun flow j ahead _ => ?_
  cases flow with
  | returned value => exact .pure ahead.rooted.refl trivial
  | normal =>
    cases c.increment with
    | none => exact .pure ahead.rooted.refl trivial
    | some e =>
      exact .bind (leads_evaluate ahead.rooted e) fun _ k ahead' _ =>
        .pure ahead'.rooted.refl trivial

theorem leads_rounds (state : i.Rooted) :
    Leads i (fun _ _ => True) (rounds c.test c.pass n) := by
  induction n generalizing i with
  | zero => exact .pure state.refl trivial
  | succ n ih =>
    have once : Leads i (fun _ _ => True) (round c.test c.pass) := by
      refine .bind (leads_test state) fun v j ahead _ => ?_
      split
      · refine .bind (leads_pass ahead.rooted) fun flow k ahead' _ => ?_
        cases flow <;> exact .pure ahead'.rooted.refl trivial
      · exact .pure ahead.rooted.refl trivial
    refine .bind once fun flow j ahead _ => ?_
    cases flow with
    | none => exact ih ahead.rooted
    | some flow => exact .pure ahead.rooted.refl trivial

/-- All rounds begin in the scope of the clauses, where the variable that the initializer declares
is bound from then on. -/
theorem shared_of_ends (state : i.Rooted) {x : String}
    (declares : c.initializer.bind Stmt.declared? = some x) {flow : Option Flow}
    (ended : Ends (c.inside n) i (.ok flow) j) :
    j.frame = i.frame ∧ (j.heap.binding? i.frame x).isSome = true := by
  obtain ⟨s, isInitializer, declares⟩ := Option.bind_eq_some_iff.1 declares
  have starts := c.starts s isInitializer
  unfold inside at ended
  rw [isInitializer] at ended
  obtain ⟨_, isError, -⟩ | ⟨flow', k, first, rest⟩ := ends_bind_iff.1 ended
  · cases isError
  obtain ⟨ahead, -⟩ := arrived_of_leads (leads_execute state s) first
  obtain ⟨ahead', -⟩ := arrived_of_leads (leads_rounds ahead.rooted) rest
  have bound := bound_of_starts starts first declares ahead.rooted.frame
  rw [ahead.frame] at bound
  exact ⟨ahead'.frame.trans ahead.frame, ahead'.grown.bound _ _ bound⟩

end ForClauses

end Lox
