import Lox.Proofs.Evaluation.Confined
import Lox.Proofs.Routine.Conclusion
import Lox.Proofs.Routine.Nesting

/-!
# Where a returned value goes

Only statements and calls ask for the execution of statements. If a statement returns a value, the
statement around it is over and returns it too, and so on up to the innermost call in progress. That
call ends with the value; the call of an initializer ends with its instance. Nothing around the call
hears of the return.

## Main definitions

* `Evaluation.Relays`: a routine is over when a statement that it asks for returns.
* `Evaluation.Consumes`: how a call ends in whose body a value is returned.
* `Evaluation.Delivered`: a value is passed on by the statements around up to the innermost call.

## Main results

* `Evaluation.relays_executeStep`, `Evaluation.quiet_evaluateStep`, `Evaluation.relays_callValue`:
  what statements, expressions and calls do with a returned value.
* `Evaluation.delivered_of_nested`: the innermost call in progress gets a returned value.
-/

namespace Lox.Evaluation

open Routine (Final Last Nested Requests Rest)

variable {α β : Type} {i j k : Interpreter} {v : Value} {s : Stmt} {callee : Value}
  {arguments : List Value} {line : Nat} {outer : List Task} {task : Task}

/-! ### Routines -/

/-- Whenever a statement that a routine asks for returns a value, the routine is over, and ends as
given. -/
def Relays (r : Routine Goal Answer α) (ends : Value → α → Prop) : Prop :=
  ∀ s t next v u, Rest body r (.call (k := .flow) (.execute s, t) next) →
    ∃ a, next (.ok (.returned v), u) = .done a ∧ ends v a

/-- A computation asks for no statements. -/
abbrev Quiet (job : Eval α) : Prop :=
  ∀ i, Relays (job i) fun _ _ => False

section

variable {r : Routine Goal Answer α} {ends ends' : Value → α → Prop}

theorem Relays.mono (h : Relays r ends) (le : ∀ v a, ends v a → ends' v a) : Relays r ends' := by
  intro s t next v u rest
  obtain ⟨a, isDone, isEnd⟩ := h s t next v u rest
  exact ⟨a, isDone, le v a isEnd⟩

theorem relays_done (a : α) : Relays (.done a) ends :=
  fun _ _ _ _ _ rest => nomatch rest.of_done

/-- A routine that is over with the first of two is over, if the second one has nothing left to do
then. -/
theorem Relays.bind {f : α → Routine Goal Answer β} {ends' : Value → β → Prop} (h : Relays r ends)
    (last : ∀ v a, ends v a → ∃ b, f a = .done b ∧ ends' v b) (h' : ∀ a, Relays (f a) ends') :
    Relays (r.bind f) ends' := by
  intro s t next v u rest
  rcases rest.of_bind with ⟨r', left, isBind⟩ | ⟨a, -, left⟩
  · cases r' with
    | done a => exact h' a s t next v u (isBind ▸ .refl)
    | call goal next' =>
      cases isBind
      obtain ⟨a, isDone, isEnd⟩ := h s t next' v u left
      obtain ⟨b, isDone', isEnd'⟩ := last v a isEnd
      refine ⟨b, ?_, isEnd'⟩
      change (next' (.ok (.returned v), u)).bind f = .done b
      rw [isDone]
      exact isDone'
  · exact h' a s t next v u left

end

/-! ### Computations -/

section

variable {job : Eval α} {next : α → Eval β} {ends : Value → Except Fault β × Interpreter → Prop}

/-- A computation that asks for no statements, before another one. -/
theorem Quiet.relays_bind (h : Quiet job) (h' : ∀ a k, Relays (next a k) ends) :
    Relays ((job >>= next) i) ends := by
  refine (h i).bind (fun _ _ => False.elim) fun (outcome, k) => ?_
  cases outcome with
  | error e => exact relays_done _
  | ok a => exact h' a k

theorem Quiet.bind (h : Quiet job) (h' : ∀ a, Quiet (next a)) : Quiet (job >>= next) :=
  fun _ => h.relays_bind fun a k => h' a k

theorem Quiet.relays {ends : Value → Except Fault α × Interpreter → Prop} (h : Quiet job) :
    Relays (job i) ends :=
  (h i).mono fun _ _ => False.elim

theorem quiet_pure (a : α) : Quiet (pure a : Eval α) :=
  fun _ => relays_done _

theorem quiet_throw (e : Fault) : Quiet (throw e : Eval α) :=
  fun _ => relays_done _

theorem quiet_get : Quiet (get : Eval Interpreter) :=
  fun _ => relays_done _

theorem quiet_modifyGet (f : Interpreter → α × Interpreter) : Quiet (modifyGet f : Eval α) :=
  fun _ => relays_done _

theorem quiet_modify (f : Interpreter → Interpreter) : Quiet (modify f : Eval PUnit) :=
  fun _ => relays_done _

theorem quiet_ask (r : Request .value) : Quiet (Job.ask r) := by
  intro i s t next v u rest
  rcases rest.of_call with isCall | ⟨answer, -, rest⟩
  · cases isCall
  · exact nomatch rest.of_done

theorem quiet_mapM {γ : Type} {job : γ → Eval α} (h : ∀ x, Quiet (job x)) (xs : List γ) :
    Quiet (xs.mapM job) := by
  induction xs with
  | nil => exact quiet_pure _
  | cons x xs ih =>
    rw [List.mapM_cons]
    exact (h x).bind fun _ => ih.bind fun _ => quiet_pure _

theorem quiet_check (r : Except Fault α) : Quiet (check r) := by
  cases r with
  | error e => exact quiet_throw e
  | ok a => exact quiet_pure a

end

/-! ### Expressions -/

theorem quiet_evaluate (e : Expr) : Quiet (evaluate e) :=
  quiet_ask _

theorem quiet_lookUp (o : Occurrence) : Quiet (lookUp o) :=
  quiet_get.bind fun _ => quiet_check _

theorem quiet_define (name : Token) (v : Value) : Quiet (define name v) :=
  quiet_modify _

theorem quiet_readProperty (object : Value) (property : Token) :
    Quiet (readProperty object property) := by
  unfold readProperty
  split
  · exact (quiet_modifyGet _).bind fun _ => quiet_check _
  · exact quiet_throw _

theorem quiet_readSuper (keyword : Occurrence) (method : Token) :
    Quiet (readSuper keyword method) := by
  refine quiet_get.bind fun s => ?_
  split
  · exact quiet_throw _
  · refine (quiet_check _).bind fun superclass => ?_
    split
    · refine (quiet_check _).bind fun receiver => ?_
      split
      · split
        · exact quiet_modifyGet _
        · exact quiet_throw _
      · exact quiet_throw _
    · exact quiet_throw _

/-- Expressions do not ask for the execution of statements. -/
theorem quiet_evaluateStep (e : Expr) : Quiet (evaluateStep e) := by
  cases e with
  | literal => exact quiet_pure _
  | grouping => exact quiet_pure _
  | unary =>
    exact (quiet_evaluate _).bind fun _ => (quiet_check _).bind fun _ => quiet_pure _
  | binary =>
    refine (quiet_evaluate _).bind fun _ => (quiet_evaluate _).bind fun _ => ?_
    exact (quiet_check _).bind fun _ => quiet_pure _
  | logical =>
    refine (quiet_evaluate _).bind fun _ => ?_
    split <;> exact quiet_pure _
  | reference => exact (quiet_lookUp _).bind fun _ => quiet_pure _
  | assign =>
    refine (quiet_evaluate _).bind fun _ => Quiet.bind ?_ fun _ => quiet_pure _
    exact quiet_get.bind fun _ => (quiet_check _).bind fun _ => quiet_modify _
  | call =>
    exact (quiet_evaluate _).bind fun _ => (quiet_mapM quiet_evaluate _).bind fun _ => quiet_pure _
  | get =>
    exact (quiet_evaluate _).bind fun _ => (quiet_readProperty _ _).bind fun _ => quiet_pure _
  | set =>
    refine (quiet_evaluate _).bind fun object => ?_
    split
    · exact (quiet_evaluate _).bind fun _ => (quiet_modify _).bind fun _ => quiet_pure _
    · exact quiet_throw _
  | this => exact (quiet_lookUp _).bind fun _ => quiet_pure _
  | super => exact (quiet_readSuper _ _).bind fun _ => quiet_pure _

/-! ### Statements -/

/-- A computation returns what a statement in it returns. -/
def Returns (v : Value) (ended : Except Fault Flow × Interpreter) : Prop :=
  ended.1 = .ok (.returned v)

theorem relays_execute (s : Stmt) : Relays (execute s i) Returns := by
  intro s t next v u rest
  rcases rest.of_call with isCall | ⟨answer, -, rest⟩
  · cases isCall
    exact ⟨_, rfl, rfl⟩
  · exact nomatch rest.of_done

theorem relays_executeAll (ss : List Stmt) : Relays (executeAll ss i) Returns := by
  induction ss generalizing i with
  | nil => exact relays_done _
  | cons s ss ih =>
    refine (relays_execute s).bind ?_ fun (outcome, k) => ?_
    · rintro v ⟨_, k⟩ ⟨⟩
      exact ⟨_, rfl, rfl⟩
    · rcases outcome with e | _ | v
      · exact relays_done _
      · exact ih
      · exact relays_done _

theorem relays_within {f : FrameId} {job : Eval Flow} (h : ∀ i, Relays (job i) Returns) :
    Relays (within f job i) Returns := by
  refine (h _).bind ?_ fun _ => relays_done _
  rintro v ⟨outcome, k⟩ isEnd
  exact ⟨_, rfl, isEnd⟩

theorem quiet_checkOutput (failure : Option String) (line : Nat) :
    Quiet (checkOutput failure line) := by
  cases failure with
  | none => exact quiet_pure _
  | some reason => exact quiet_throw _

theorem quiet_print (v : Value) (line : Nat) : Quiet (print v line) :=
  (quiet_modifyGet _).bind fun failure => quiet_checkOutput failure line

theorem quiet_superclassOf (superclass : Occurrence) : Quiet (superclassOf superclass) := by
  refine (quiet_evaluate _).bind fun value => ?_
  split
  · exact quiet_pure _
  · exact quiet_throw _

theorem quiet_defineClass (name : Token) (superclass : Option Occurrence)
    (methods : List FunctionDecl) : Quiet (defineClass name superclass methods) := by
  refine Quiet.bind ?_ fun c => (quiet_define _ _).bind fun _ => ?_
  · cases superclass with
    | none => exact quiet_pure _
    | some o => exact (quiet_superclassOf o).bind fun _ => quiet_pure _
  · cases c with
    | none =>
      refine (quiet_get.bind fun _ => quiet_pure _).bind fun _ => ?_
      exact (quiet_modifyGet _).bind fun _ => quiet_define _ _
    | some c =>
      refine (quiet_modifyGet _).bind fun _ => ?_
      exact (quiet_modifyGet _).bind fun _ => quiet_define _ _

/-- The treatment of a statement is over when a statement that it asks for returns a value, and
returns the value too. -/
theorem relays_executeStep (s : Stmt) :
    Relays (executeStep s i) fun v ended => ended.1 = .ok (.finished (.returned v)) := by
  cases s with
  | block ss =>
    refine (quiet_modifyGet _).relays_bind fun f k => ?_
    refine (relays_within fun _ => relays_executeAll ss).bind ?_ fun (outcome, k) => ?_
    · rintro v ⟨_, k⟩ ⟨⟩
      exact ⟨_, rfl, rfl⟩
    · cases outcome <;> exact relays_done _
  | classDecl => exact ((quiet_defineClass _ _ _).bind fun _ => quiet_pure _).relays
  | expression => exact ((quiet_evaluate _).bind fun _ => quiet_pure _).relays
  | functionDecl =>
    refine Quiet.relays (quiet_get.bind fun _ => ?_)
    exact (quiet_modifyGet _).bind fun _ => (quiet_define _ _).bind fun _ => quiet_pure _
  | conditional condition thenBranch elseBranch =>
    refine Quiet.relays ((quiet_evaluate _).bind fun _ => ?_)
    split
    · exact quiet_pure _
    · cases elseBranch <;> exact quiet_pure _
  | print =>
    exact ((quiet_evaluate _).bind fun _ => (quiet_print _ _).bind fun _ => quiet_pure _).relays
  | ret keyword value =>
    cases value with
    | none => exact (quiet_pure _).relays
    | some e => exact ((quiet_evaluate _).bind fun _ => quiet_pure _).relays
  | varDecl name initializer =>
    cases initializer with
    | none =>
      exact ((quiet_pure _).bind fun _ => (quiet_define _ _).bind fun _ => quiet_pure _).relays
    | some e =>
      exact ((quiet_evaluate _).bind fun _ => (quiet_define _ _).bind fun _ => quiet_pure _).relays
  | loop condition stmt =>
    refine (quiet_evaluate _).relays_bind fun c k => ?_
    split
    · refine (relays_execute stmt).bind ?_ fun (outcome, k) => ?_
      · rintro v ⟨_, k⟩ ⟨⟩
        exact ⟨_, rfl, rfl⟩
      · rcases outcome with e | _ | v <;> exact relays_done _
    · exact relays_done _

/-! ### Calls -/

/-- How a call ends in whose body a value is returned: a function gives the value, an initializer
the instance that it is bound to, and a class its new instance. -/
def Consumes (v callee : Value) (outcome : Except Fault Value) (j : Interpreter) : Prop :=
  match callee with
  | .function _ c =>
    outcome =
      if c.isInitializer then j.heap.getAt c.frame 0 "this" c.declaration.name.line else .ok v
  | .classObject c => ∀ w, outcome = .ok w → ∃ address, w = .instance_ address c
  | _ => False

theorem check_eq (r : Except Fault α) (i : Interpreter) : check r i = .done (r, i) := by
  cases r <;> rfl

theorem relays_callClosure (c : Closure) (arguments : List Value) :
    Relays (callClosure c arguments i) fun v ended =>
      ended.1 = if c.isInitializer then
        ended.2.heap.getAt c.frame 0 "this" c.declaration.name.line else .ok v := by
  refine (quiet_modifyGet _).relays_bind fun f k => ?_
  refine (relays_within fun _ => relays_executeAll _).bind ?_ fun (outcome, k) => ?_
  · rintro v ⟨_, k⟩ ⟨⟩
    cases c.isInitializer with
    | true => exact ⟨_, check_eq _ k, rfl⟩
    | false => exact ⟨_, rfl, rfl⟩
  · cases outcome with
    | error e => exact relays_done _
    | ok flow =>
      cases c.isInitializer with
      | true => exact Quiet.relays (quiet_get.bind fun _ => quiet_check _)
      | false => cases flow <;> exact relays_done _

theorem relays_instantiate (c : Class) (arguments : List Value) :
    Relays (instantiate c arguments i) fun _ ended =>
      ∀ w, ended.1 = .ok w → ∃ address, w = .instance_ address c := by
  unfold instantiate
  change Relays ((_ : Eval Value) (i.newInstance c).2) _
  cases c.findMethod? "init" with
  | none => exact relays_done _
  | some initializer =>
    refine (quiet_modifyGet _).relays_bind fun bound k => ?_
    refine (relays_callClosure bound arguments).bind ?_ fun (outcome, k) => ?_
    · rintro v ⟨outcome, k⟩ -
      cases outcome with
      | error e => exact ⟨_, rfl, nofun⟩
      | ok w => exact ⟨_, rfl, fun w isValue => ⟨_, (Except.ok.inj isValue).symm⟩⟩
    · cases outcome <;> exact relays_done _

theorem relays_perform (callee : Value) (arguments : List Value) (line : Nat) :
    Relays (perform callee arguments line i) fun v ended => Consumes v callee ended.1 ended.2 := by
  cases callee with
  | function identity c => exact relays_callClosure c arguments
  | classObject c => exact relays_instantiate c arguments
  | clock => exact ((quiet_modifyGet _).bind fun r => quiet_check r).relays
  | _ => exact (quiet_throw _).relays

/-- A call is over when a statement of the body returns a value, and ends with it. -/
theorem relays_callValue (callee : Value) (arguments : List Value) (line : Nat) :
    Relays (callValue callee arguments line i) fun v ended =>
      Consumes v callee ended.1 ended.2 := by
  unfold callValue
  cases callee.arity? with
  | none => exact (quiet_throw _).relays
  | some arity =>
    dsimp only
    split
    · exact (quiet_throw _).relays
    · refine quiet_get.relays_bind fun s k => ?_
      split
      · exact (quiet_throw _).relays
      · refine (quiet_modify _).relays_bind fun _ k => ?_
        refine (relays_perform callee arguments line).bind ?_ fun _ => relays_done _
        rintro v ⟨outcome, l⟩ consumes
        refine ⟨_, rfl, ?_⟩
        cases callee <;> exact consumes

/-! ### Goals in progress -/

/-- The value of a statement is passed on: the statements whose treatments wait for the statement
are over with it and return the value, one after the other, up to the innermost call, which is over
with them and consumes the value. A statement may also have been handed over to the one in
question. -/
inductive Delivered (v : Value) : List Task → Task → Prop
  | outermost {task : Task} : Delivered v [] task
  | turned {s s' : Stmt} {i i' : Interpreter} {outer : List Task}
      (final : Final body (executing s i) (executing s' i'))
      (further : Delivered v outer (executing s i)) : Delivered v outer (executing s' i')
  | passed {s s' : Stmt} {i i' j : Interpreter} {outer : List Task}
      (final : Final body (executing s i) (executing s' i'))
      (ended : Ends (execute s) i (.ok (.returned v)) j)
      (further : Delivered v outer (executing s i)) :
      Delivered v (executing s i :: outer) (executing s' i')
  | consumed {callee : Value} {arguments : List Value} {line : Nat} {s' : Stmt}
      {i i' j : Interpreter} {outcome : Except Fault Value} {outer : List Task}
      (final : Final body (calling callee arguments line i) (executing s' i'))
      (ended : Ends (call callee arguments line) i outcome j)
      (consumes : Consumes v callee outcome j) :
      Delivered v (calling callee arguments line i :: outer) (executing s' i')

theorem not_relays_false {r : Routine Goal Answer α} (relays : Relays r fun _ _ => False) :
    ¬ Requests body r (executing s i) := by
  rintro ⟨next, rest⟩
  obtain ⟨-, -, impossible⟩ := relays s i next .nil i rest
  exact impossible

/-- The treatment of a goal is over when a statement that it asks for returns a value. -/
theorem Relays.exists_reply {p : Phase} {goal : Goal p} {ends : Value → Reply Goal Answer p → Prop}
    (relays : Relays (body p goal) ends) (requested : Requests body (body p goal) (executing s j))
    (ended : Ends (execute s) j (.ok (.returned v)) k) :
    ∃ reply, Last body (body p goal) reply (executing s j) ∧ ends v reply := by
  obtain ⟨next, rest⟩ := requested
  obtain ⟨reply, isDone, isEnd⟩ := relays s j next v k rest
  exact ⟨reply, ⟨next, _, rest, ends_ask_iff_answers.1 ended, isDone⟩, isEnd⟩

/-- Expressions do not ask for statements. -/
theorem not_requests_of_evaluate {e : Expr} :
    ¬ Requests body (body .value (.evaluate e, i)) (executing s j) := by
  refine not_relays_false ((quiet_evaluateStep e i).bind (fun _ _ => False.elim) fun ended => ?_)
  obtain ⟨outcome, k⟩ := ended
  rcases outcome with e | result | request <;> exact relays_done _

/-- A statement around one that returns a value is over with it, and returns the value. -/
theorem ends_execute_of_requests {s' : Stmt}
    (requested : Requests body (body .flow (.execute s', i)) (executing s j))
    (ended : Ends (execute s) j (.ok (.returned v)) k) :
    Final body (executing s' i) (executing s j) ∧
      ∃ l, Ends (execute s') i (.ok (.returned v)) l := by
  have relays : Relays (body .flow (.execute s', i)) fun v reply =>
      ∃ l, reply = .answer (.ok (.returned v), l) := by
    refine (relays_executeStep s').bind ?_ fun (outcome, l) => ?_
    · rintro v ⟨_, l⟩ ⟨⟩
      exact ⟨_, rfl, l, rfl⟩
    · rcases outcome with e | result | request <;> exact relays_done _
  obtain ⟨_, last, l, rfl⟩ := relays.exists_reply requested ended
  have answered := Routine.answers_of_rest_answer last.rest
  exact ⟨.inl ⟨_, last⟩, l, ends_ask_iff_answers.2 answered⟩

/-- A call in whose body a value is returned is over then, and consumes the value. -/
theorem ends_call_of_requests
    (requested : Requests body (body .value (.call callee arguments line, i)) (executing s j))
    (ended : Ends (execute s) j (.ok (.returned v)) k) :
    Final body (calling callee arguments line i) (executing s j) ∧
      ∃ outcome l, Ends (call callee arguments line) i outcome l ∧ Consumes v callee outcome l := by
  have finishes : Relays (step .value (.call callee arguments line) i) fun v ended =>
      ∃ outcome, ended.1 = outcome.map .finished ∧ Consumes v callee outcome ended.2 := by
    refine (relays_callValue callee arguments line).bind ?_ fun (outcome, l) => ?_
    · rintro v ⟨outcome, l⟩ consumes
      cases outcome <;> exact ⟨_, rfl, _, rfl, consumes⟩
    · cases outcome <;> exact relays_done _
  have relays : Relays (body .value (.call callee arguments line, i)) fun v reply =>
      ∃ outcome l, reply = .answer (outcome, l) ∧ Consumes v callee outcome l := by
    refine finishes.bind ?_ fun (outcome, l) => ?_
    · rintro v ⟨_, l⟩ ⟨outcome, rfl, consumes⟩
      cases outcome <;> exact ⟨_, rfl, _, l, rfl, consumes⟩
    · rcases outcome with e | result | request <;> exact relays_done _
  obtain ⟨_, last, outcome, l, rfl, consumes⟩ := relays.exists_reply requested ended
  have answered := Routine.answers_of_rest_answer last.rest
  exact ⟨.inl ⟨_, last⟩, outcome, l, ends_ask_iff_answers.2 answered, consumes⟩

/-- In whatever run a statement returns a value, that is passed on by the statements around up to
the innermost call in progress, which consumes it. -/
theorem delivered_of_nested {r : Routine Goal Answer α}
    (nested : Nested body r outer (executing s i))
    (ended : Ends (execute s) i (.ok (.returned v)) j) : Delivered v outer (executing s i) := by
  generalize isTask : executing s i = task at nested
  induction nested generalizing s i j with
  | first => exact .outermost
  | @request outer task task' before requested ih =>
    subst isTask
    obtain ⟨p, request, t⟩ := task
    cases request with
    | evaluate e => exact (not_requests_of_evaluate requested).elim
    | execute s' =>
      obtain ⟨final, l, ended'⟩ := ends_execute_of_requests requested ended
      exact .passed final ended' (ih ended' rfl)
    | call callee arguments line =>
      obtain ⟨final, outcome, l, ended', consumes⟩ := ends_call_of_requests requested ended
      exact .consumed final ended' consumes
  | @become outer k goal goal' before rest ih =>
    cases isTask
    obtain ⟨request, t⟩ := goal
    cases request with
    | execute s' =>
      have answered := (ends_ask_iff_answers.1 ended).of_become rest
      exact .turned (.inr ⟨_, rest, rfl⟩) (ih (ends_ask_iff_answers.2 answered) rfl)

end Lox.Evaluation
