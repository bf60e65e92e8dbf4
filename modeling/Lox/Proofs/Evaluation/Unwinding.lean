import Lox.Proofs.Evaluation.Registers

/-!
# Returning

A statement that ends by returning a value does so because of a `return` statement in it, outside
the functions and classes that are declared there. That statement gives the value. The statements
around it are over with it, one after the other: no statement behind it is executed, no round of a
loop is begun, and the frame of each statement is put back.

The proof is by induction on the bound for the nesting of requests, since a loop is handed over to
itself.

## Main definitions

* `Evaluation.Gives`: what a `return` statement gives.
* `Evaluation.Unwinds`: the execution of a statement is over with that of another one inside it.
* `Evaluation.Closes`: how the treatment of a statement ends.

## Main results

* `Evaluation.closes_of_meaning`: the treatment of each sort of statements.
* `Evaluation.exists_return`: the `return` statement because of which a statement returns.
-/

namespace Lox.Evaluation

open Routine (Answers Final Last Rest)

variable {α β : Type} {n : Nat} {s s' : Stmt} {i j k : Interpreter} {v : Value} {task : Task}

/-- A `return` statement gives the value of its expression, or nil. -/
def Gives (value : Option Expr) (v : Value) (i j : Interpreter) : Prop :=
  match value with
  | none => v = .nil ∧ j = i
  | some e => Ends (evaluate e) i (.ok v) j

/-- The execution of a statement is over with that of a statement that stands directly inside it, or
with that of the same loop again. -/
inductive Unwinds : Task → Task → Prop
  | intro {s s' : Stmt} {i j : Interpreter} (inside : s.Holds s' ∨ s' = s)
      (final : Final body (executing s i) (executing s' j)) :
      Unwinds (executing s i) (executing s' j)

/-- How the treatment of a statement ends, unless with a fault: normally, with the value of the
`return` statement that it is, with the value that a statement directly inside it returns, or by
being handed over to such a statement or to the same loop. -/
inductive Closes (n : Nat) (s : Stmt) (i : Interpreter) : Step .flow → Interpreter → Prop
  | normal {j : Interpreter} : Closes n s i (.finished .normal) j
  | returned {keyword : Token} {value : Option Expr} {v : Value} {j : Interpreter}
      (isReturn : s = .ret keyword value) (gives : Gives value v i j) :
      Closes n s i (.finished (.returned v)) j
  | passed {s' : Stmt} {t u j : Interpreter} {v : Value} (inside : s.Holds s')
      (last : Last body (executeStep s i) (.ok (.finished (.returned v)), j) (executing s' t))
      (answered : Job.answer step n (.execute s') t = some (.ok (.returned v), u))
      (left : j = { u with frame := i.frame }) : Closes n s i (.finished (.returned v)) j
  | handedOver {s' : Stmt} {j : Interpreter} (inside : s.Holds s' ∨ s' = s)
      (frame : j.frame = i.frame) : Closes n s i (.handOver (.execute s')) j

/-! ### Computations in sequence -/

/-- A computation that has a meaning, in sequence with another one, has come to its end before. -/
theorem meaning_bind_eq_ok {job : Eval α} {next : α → Eval β} {b : β}
    (h : Job.meaning step n (job >>= next) i = some (.ok b, j)) :
    ∃ a k, Job.meaning step n job i = some (.ok a, k) ∧
      Job.meaning step n (next a) k = some (.ok b, j) := by
  rw [Job.meaning_bind] at h
  obtain ⟨⟨outcome, k⟩, first, rest⟩ := Option.bind_eq_some_iff.1 h
  cases outcome with
  | error e => cases rest
  | ok a => exact ⟨a, k, first, rest⟩

/-- A computation of which only the state has still to be restored is over. -/
theorem last_bind {job : Eval α} {next : α → Eval β} {a : α}
    {b : Except Fault β × Interpreter} (h : Last body (job i) (.ok a, k) task)
    (ends : next a k = .done b) : Last body ((job >>= next) i) b task :=
  h.bind ends

theorem last_behind {job : Eval α} {next : α → Eval β} {a : α}
    {b : Except Fault β × Interpreter} (first : Job.meaning step n job i = some (.ok a, k))
    (h : Last body (next a k) b task) : Last body ((job >>= next) i) b task :=
  Last.behind (Rest.of_denote first) h

/-- A computation in another frame ends as it does, back in the frame before. -/
theorem meaning_within (f : FrameId) (job : Eval α) :
    Job.meaning step n (within f job) i = (Job.meaning step n job { i with frame := f }).map
      fun (outcome, u) => (outcome, { u with frame := i.frame }) := by
  rw [within, Job.meaning_bind, Job.meaning_modifyGet]
  exact Job.meaning_always step n _ job _

theorem last_within {f : FrameId} {job : Eval α} {outcome : Except Fault α} {u : Interpreter}
    (h : Last body (job { i with frame := f }) (outcome, u) task) :
    Last body (within f job i) (outcome, { u with frame := i.frame }) task :=
  h.bind rfl

/-- Statements in sequence return a value because one of them does, and are over with it. -/
theorem executeAll_returned {ss : List Stmt}
    (h : Job.meaning step n (executeAll ss) i = some (.ok (.returned v), j)) :
    ∃ s ∈ ss, ∃ t, Last body (executeAll ss i) (.ok (.returned v), j) (executing s t) ∧
      Job.answer step n (.execute s) t = some (.ok (.returned v), j) := by
  induction ss generalizing i with
  | nil => cases h
  | cons s ss ih =>
    obtain ⟨flow, k, first, rest⟩ := meaning_bind_eq_ok h
    rw [execute, Job.meaning_ask] at first
    cases flow with
    | normal =>
      obtain ⟨s', mem, t, last, answered⟩ := ih rest
      refine ⟨s', List.mem_cons_of_mem s mem, t, ?_, answered⟩
      exact last_behind ((Job.meaning_ask step n i _).trans first) last
    | returned value =>
      cases rest
      exact ⟨s, List.mem_cons_self, i, ⟨_, _, .refl, ⟨n, first⟩, rfl⟩, first⟩

/-! ### Statements that end normally -/

/-- If a treatment ends without a fault, it ends normally. -/
def EndsNormally (job : Eval (Step .flow)) : Prop :=
  ∀ n i e j, Job.meaning step n job i = some (.ok e, j) → e = .finished .normal

theorem endsNormally_finish : EndsNormally (finish .normal) := by
  rintro n i e j ⟨⟩
  rfl

theorem endsNormally_bind {job : Eval α} {next : α → Eval (Step .flow)}
    (h : ∀ a, EndsNormally (next a)) : EndsNormally (job >>= next) := by
  intro n i e j ended
  obtain ⟨a, k, -, rest⟩ := meaning_bind_eq_ok ended
  exact h a n k e j rest

theorem closes_of_endsNormally {e : Step .flow} (normal : EndsNormally (executeStep s))
    (ended : Job.meaning step n (executeStep s) i = some (.ok e, j)) : Closes n s i e j := by
  obtain rfl := normal n i e j ended
  exact .normal

/-! ### The treatment of statements -/

theorem sameRegisters_of_answer {p : Phase} {r : Request p} {outcome : Except Fault p.Result}
    (answered : Job.answer step n r i = some (outcome, j)) : i.SameRegisters j :=
  Ends.sameRegisters (ends_ask_iff_answers.2 ⟨n, answered⟩)

/-- Evaluating an expression keeps the frame. -/
theorem frame_of_meaning_evaluate {e : Expr}
    (evaluated : Job.meaning step n (evaluate e) i = some (.ok v, j)) : j.frame = i.frame := by
  rw [evaluate, Job.meaning_ask] at evaluated
  exact (sameRegisters_of_answer evaluated).frame

theorem closes_block {ss : List Stmt} {e : Step .flow}
    (ended : Job.meaning step n (executeStep (.block ss)) i = some (.ok e, j)) :
    Closes n (.block ss) i e j := by
  obtain ⟨f, k, made, rest⟩ := meaning_bind_eq_ok ended
  have frame : k.frame = i.frame := by
    cases made
    rfl
  obtain ⟨flow, l, inner, isEnd⟩ := meaning_bind_eq_ok rest
  cases isEnd
  rw [meaning_within] at inner
  obtain ⟨⟨outcome, u⟩, executed, isInner⟩ := Option.map_eq_some_iff.1 inner
  cases isInner
  cases flow with
  | normal => exact .normal
  | returned v =>
    obtain ⟨s', mem, t, last, answered⟩ := executeAll_returned executed
    refine .passed (.block mem) (last_behind made (last_bind (last_within last) rfl)) answered ?_
    rw [frame]

theorem closes_conditional {condition : Expr} {thenBranch : Stmt} {elseBranch : Option Stmt}
    {e : Step .flow} (ended : Job.meaning step n
      (executeStep (.conditional condition thenBranch elseBranch)) i = some (.ok e, j)) :
    Closes n (.conditional condition thenBranch elseBranch) i e j := by
  obtain ⟨c, k, evaluated, rest⟩ := meaning_bind_eq_ok ended
  have frame := frame_of_meaning_evaluate evaluated
  split at rest
  · cases rest
    exact .handedOver (.inl (.branch .thenBranch)) frame
  · cases elseBranch with
    | none =>
      cases rest
      exact .normal
    | some s =>
      cases rest
      exact .handedOver (.inl (.branch .elseBranch)) frame

theorem closes_ret {keyword : Token} {value : Option Expr} {e : Step .flow}
    (ended : Job.meaning step n (executeStep (.ret keyword value)) i = some (.ok e, j)) :
    Closes n (.ret keyword value) i e j := by
  cases value with
  | none =>
    cases ended
    exact .returned rfl ⟨rfl, rfl⟩
  | some value =>
    obtain ⟨v, k, evaluated, isEnd⟩ := meaning_bind_eq_ok ended
    cases isEnd
    exact .returned rfl (ends_iff.2 ⟨n, evaluated⟩)

theorem closes_loop {condition : Expr} {stmt : Stmt} {e : Step .flow}
    (ended : Job.meaning step n (executeStep (.loop condition stmt)) i = some (.ok e, j)) :
    Closes n (.loop condition stmt) i e j := by
  obtain ⟨c, k, evaluated, rest⟩ := meaning_bind_eq_ok ended
  have frame := frame_of_meaning_evaluate evaluated
  split at rest
  · next truthy =>
    obtain ⟨flow, l, executed, isEnd⟩ := meaning_bind_eq_ok rest
    rw [execute, Job.meaning_ask] at executed
    cases flow with
    | normal =>
      cases isEnd
      exact .handedOver (.inr rfl) ((sameRegisters_of_answer executed).frame.trans frame)
    | returned v =>
      cases isEnd
      have last : Last body (execute stmt k) (.ok (.returned v), j) (executing stmt k) :=
        ⟨_, _, .refl, ⟨n, executed⟩, rfl⟩
      refine .passed (.branch .loop) (last_behind evaluated ?_) executed ?_
      · rw [if_pos truthy]
        exact last_bind last rfl
      · rw [← (sameRegisters_of_answer executed).frame.trans frame]
  · cases rest
    exact .normal

/-- How the treatment of each sort of statements ends. -/
theorem closes_of_meaning {e : Step .flow}
    (ended : Job.meaning step n (executeStep s) i = some (.ok e, j)) : Closes n s i e j := by
  cases s with
  | block ss => exact closes_block ended
  | classDecl => exact closes_of_endsNormally (endsNormally_bind fun _ => endsNormally_finish) ended
  | expression =>
    exact closes_of_endsNormally (endsNormally_bind fun _ => endsNormally_finish) ended
  | functionDecl =>
    refine closes_of_endsNormally (endsNormally_bind fun _ => ?_) ended
    exact endsNormally_bind fun _ => endsNormally_bind fun _ => endsNormally_finish
  | conditional => exact closes_conditional ended
  | print =>
    refine closes_of_endsNormally (endsNormally_bind fun _ => ?_) ended
    exact endsNormally_bind fun _ => endsNormally_finish
  | ret => exact closes_ret ended
  | varDecl name initializer =>
    refine closes_of_endsNormally ?_ ended
    cases initializer <;>
      exact endsNormally_bind fun _ => endsNormally_bind fun _ => endsNormally_finish
  | loop => exact closes_loop ended

/-! ### The execution of statements -/

/-- A statement that returns a value is a `return` statement, or its execution is over with that of
another statement that returns the value. -/
theorem unwinds_of_answer
    (answered : Job.answer step (n + 1) (.execute s) i = some (.ok (.returned v), j)) :
    (∃ keyword value, s = .ret keyword value ∧ Gives value v i j) ∨
      ∃ s' t u, Unwinds (executing s i) (executing s' t) ∧
        Job.answer step n (.execute s') t = some (.ok (.returned v), u) ∧
        j = { u with frame := i.frame } := by
  obtain ⟨ended, k, isEnded, completes⟩ := answer_succ_iff.1 answered
  cases completes with
  | finished =>
    cases closes_of_meaning isEnded with
    | returned isReturn gives => exact .inl ⟨_, _, isReturn, gives⟩
    | passed inside last answered left =>
      exact .inr ⟨_, _, _, .intro (.inl inside) (.inl ⟨_, last.bind rfl⟩), answered, left⟩
  | handedOver answered' =>
    cases closes_of_meaning isEnded with
    | handedOver inside frame =>
      have rest : Rest body (body .flow (.execute s, i)) (.done (.become (_, k))) :=
        (Rest.of_denote isEnded).bind
      refine .inr ⟨_, k, j, .intro inside (.inr ⟨_, rest, rfl⟩), answered', ?_⟩
      rw [← frame, ← (sameRegisters_of_answer answered').frame]

/-- A statement that returns a value is over with a `return` statement in it, which gives the
value; only the frame is put back then. -/
theorem exists_return (answered : Job.answer step n (.execute s) i = some (.ok (.returned v), j)) :
    ∃ keyword value t u,
      Relation.ReflTransGen Unwinds (executing s i) (executing (.ret keyword value) t) ∧
        Gives value v t u ∧ j = { u with frame := i.frame } := by
  induction n generalizing s i j with
  | zero => cases answered
  | succ n ih =>
    rcases unwinds_of_answer answered with ⟨keyword, value, rfl, gives⟩ |
      ⟨s', t, u, first, answered', rfl⟩
    · refine ⟨keyword, value, i, j, .refl, gives, ?_⟩
      rw [← (sameRegisters_of_answer answered).frame]
    · obtain ⟨keyword, value, t', u', later, gives, rfl⟩ := ih answered'
      exact ⟨keyword, value, t', u', .head first later, gives, rfl⟩

/-- The statements whose executions are over with that of another one hold it. -/
theorem holds_of_unwinds {s' : Stmt} {t : Interpreter}
    (unwinds : Relation.ReflTransGen Unwinds (executing s i) (executing s' t)) :
    Relation.ReflTransGen Stmt.Holds s s' := by
  generalize isFirst : executing s i = task at unwinds
  induction unwinds using Relation.ReflTransGen.head_induction_on generalizing s i with
  | refl =>
    cases isFirst
    exact .refl
  | head first _ ih =>
    cases first with
    | intro inside final =>
      cases isFirst
      rcases inside with inside | rfl
      · exact .head inside (ih rfl)
      · exact ih rfl

end Lox.Evaluation
