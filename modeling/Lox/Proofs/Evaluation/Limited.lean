import Lox.Proofs.Evaluation.Maker
import Lox.Proofs.Evaluation.Output
import Lox.Proofs.Evaluation.Sequence
import Lox.Proofs.Routine.Conclusion

/-!
# Running with a sink that overflows

A computation is run twice, with a sink that has no limit and with one that holds so many bytes at
most. While all output fits, both runs go through the same states. The print statement whose output
does not fit ends the second run: every computation around it passes its fault on, and asks for
nothing more.

The two runs are compared by the meaning of computations, with one and the same bound for the
nesting of requests: a computation of which this is known at a bound may be part of another one, and
a request at the next bound is treated by computations at this one.

## Main definitions

* `Evaluation.Crosses`: the evaluation of an expression after whose value the output is too long.
* `Evaluation.Follows`: how a run ends that follows another one with a limited sink.
* `Evaluation.Tracks`: runs with a limited sink follow those without a limit.
* `Evaluation.Cuts`, `Evaluation.Treated`, `Evaluation.Answered`: those of a computation, those of
  the treatment of a request, and those of a request.

## Main results

* `Evaluation.answered`: the run of every request is cut off by a limited sink.
* `Evaluation.cuts_interpret`: so is the run of every program.
-/

namespace Lox.Evaluation

open Routine (Arises Begets Concludes Final Last Rest)

variable {b n : Nat} {reason : String} {α β : Type} {p : Phase} {s t t' : Interpreter}

/-! ### Two runs -/

/-- An expression has a value at the end of whose line the output is longer than `b` bytes, while it
was not before. -/
structure Crosses (b : Nat) (e : Expr) (v : Value) (s k : Interpreter) : Prop where
  evaluated : Ends (evaluate e) s (.ok v) k
  fits : k.sink.written.size ≤ b
  exceeds : b < (k.appended (v.text ++ "\n")).sink.written.size

/-- How a run with a limited sink ends if the run without a limit ends with an outcome in a state:
in the same way, if all output fits; else at a print statement, which comes up in both runs and
after which there is nothing else in the limited one. -/
inductive Follows (b : Nat) (reason : String) (comesUp : Task → Prop)
    (concludes : Fault → Interpreter → Task → Prop) (outcome : Except Fault α) (t : Interpreter) :
    Except Fault α → Interpreter → Prop
  | same (fits : t.sink.written.size ≤ b) :
      Follows b reason comesUp concludes outcome t outcome (t.limited b reason)
  | cut {e : Expr} {v : Value} {s k t' : Interpreter} (crosses : Crosses b e v s k)
      (first : comesUp (executing (.print e) s))
      (last : concludes ⟨.outputFailed reason, e.line⟩ t'
        (executing (.print e) (s.limited b reason)))
      (left : t' = { (k.appended (v.text ++ "\n")).filled b reason with
        frame := t'.frame, depth := t'.depth })
      (goesOn : (k.appended (v.text ++ "\n")).sink.Precedes t.sink) :
      Follows b reason comesUp concludes outcome t (.error ⟨.outputFailed reason, e.line⟩) t'

/-- The run of a computation with a sink that holds `b` bytes follows that without a limit, which
only adds to what was written. -/
structure Tracks (b : Nat) (reason : String)
    (result : Interpreter → Option (Except Fault α × Interpreter))
    (comesUp : Interpreter → Task → Prop)
    (concludes : Interpreter → Fault → Interpreter → Task → Prop) : Prop where
  grows {s t : Interpreter} {outcome : Except Fault α} :
    result s = some (outcome, t) → s.sink.Precedes t.sink
  follows {s t : Interpreter} {outcome : Except Fault α} :
    result s = some (outcome, t) → s.sink.Limitless → s.sink.written.size ≤ b →
      ∃ outcome' t', result (s.limited b reason) = some (outcome', t') ∧
        Follows b reason (comesUp s) (concludes (s.limited b reason)) outcome t outcome' t'

/-- The run of a computation is cut off by a sink that holds `b` bytes, if requests nest at most `n`
deep. -/
abbrev Cuts (b : Nat) (reason : String) (n : Nat) (job : Eval α) : Prop :=
  Tracks b reason (Job.meaning step n job) (fun s => Arises body (job s))
    fun s fault t => Concludes body (job s) (.error fault, t)

/-- The treatment of a request is cut off by a sink that holds `b` bytes. -/
abbrev Treated (b : Nat) (reason : String) (n : Nat) (r : Request p) : Prop :=
  Tracks b reason (Job.meaning step n (step p r))
    (fun s => Relation.ReflTransGen (Begets body) ⟨p, r, s⟩)
    fun s _ _ => Relation.ReflTransGen (Final body) ⟨p, r, s⟩

/-- The run of a request is cut off by a sink that holds `b` bytes, if requests nest at most `n`
deep. -/
abbrev Answered (b : Nat) (reason : String) (n : Nat) (r : Request p) : Prop :=
  Tracks b reason (Job.answer step n r) (fun s => Relation.ReflTransGen (Begets body) ⟨p, r, s⟩)
    fun s _ _ => Relation.ReflTransGen (Final body) ⟨p, r, s⟩

/-- What is known of one run is known of a run of which it is part. -/
theorem Follows.mono {comesUp comesUp' : Task → Prop}
    {concludes concludes' : Fault → Interpreter → Task → Prop} {outcome outcome' : Except Fault α}
    (h : Follows b reason comesUp concludes outcome t outcome' t')
    (hFirst : ∀ task, comesUp task → comesUp' task)
    (hLast : ∀ fault task, outcome' = .error fault → concludes fault t' task →
      concludes' fault t' task) :
    Follows b reason comesUp' concludes' outcome t outcome' t' := by
  cases h with
  | same fits => exact .same fits
  | cut crosses first last left goesOn =>
    exact .cut crosses (hFirst _ first) (hLast _ _ rfl last) left goesOn

/-- Runs that follow others do so as parts of larger runs. -/
theorem Tracks.mono {result : Interpreter → Option (Except Fault α × Interpreter)}
    {comesUp comesUp' : Interpreter → Task → Prop}
    {concludes concludes' : Interpreter → Fault → Interpreter → Task → Prop}
    (h : Tracks b reason result comesUp concludes)
    (hFirst : ∀ s task, comesUp s task → comesUp' s task)
    (hLast : ∀ s fault t task, result s = some (.error fault, t) → concludes s fault t task →
      concludes' s fault t task) : Tracks b reason result comesUp' concludes' where
  grows := h.grows
  follows {s t outcome} isResult limitless fits := by
    obtain ⟨outcome', t', isResult', follows⟩ := h.follows isResult limitless fits
    refine ⟨outcome', t', isResult', follows.mono (hFirst s) ?_⟩
    rintro fault task rfl last
    exact hLast _ _ _ _ isResult' last

/-! ### Computations in sequence -/

/-- What is left of a computation that has a meaning is its end. -/
theorem rest_of_meaning {job : Eval α} {outcome : Except Fault α}
    (result : Job.meaning step n job s = some (outcome, t)) :
    Rest body (job s) (.done (outcome, t)) :=
  Rest.of_denote result

namespace Cuts

variable {job : Eval α} {Q : α → Prop}

/-- A computation that neither writes nor looks at the sink. -/
theorem modifyGet {f : Interpreter → α × Interpreter}
    (isLimited : ∀ s, f (s.limited b reason) = ((f s).1, (f s).2.limited b reason))
    (isSink : ∀ s, (f s).2.sink = s.sink) : Cuts b reason n (MonadState.modifyGet f : Eval α) where
  grows {s t outcome} result := by
    rw [Job.meaning_modifyGet] at result
    cases result
    rw [isSink]
    exact .refl _
  follows {s t outcome} result _ fits := by
    rw [Job.meaning_modifyGet] at result
    cases result
    refine ⟨_, _, ?_, .same (isSink s ▸ fits)⟩
    rw [Job.meaning_modifyGet, isLimited]

theorem modify {f : Interpreter → Interpreter}
    (isLimited : ∀ s, f (s.limited b reason) = (f s).limited b reason)
    (isSink : ∀ s, (f s).sink = s.sink) :
    Cuts b reason n (modify f : Eval PUnit) :=
  modifyGet (fun s => congrArg (PUnit.unit, ·) (isLimited s)) isSink

theorem pure (a : α) : Cuts b reason n (Pure.pure a : Eval α) where
  grows {s t outcome} result := by
    rw [Job.meaning_pure] at result
    cases result
    exact .refl _
  follows {s t outcome} result _ fits := by
    rw [Job.meaning_pure] at result
    cases result
    exact ⟨_, _, Job.meaning_pure .., .same fits⟩

theorem throw (e : Fault) : Cuts b reason n (MonadExcept.throw e : Eval α) where
  grows {s t outcome} result := by
    rw [Job.meaning_throw] at result
    cases result
    exact .refl _
  follows {s t outcome} result _ fits := by
    rw [Job.meaning_throw] at result
    cases result
    exact ⟨_, _, Job.meaning_throw .., .same fits⟩

/-- A computation that looks at the state, but not at the limit of the sink. -/
theorem get {f : Interpreter → Eval α} (same : ∀ s, f (s.limited b reason) = f s)
    (h : ∀ s, Cuts b reason n (f s)) : Cuts b reason n (MonadState.get >>= f) where
  grows {s t outcome} result := by
    rw [Job.meaning_bind, Job.meaning_get] at result
    exact (h s).grows result
  follows {s t outcome} result limitless fits := by
    rw [Job.meaning_bind, Job.meaning_get] at result
    obtain ⟨outcome', t', result', follows⟩ := (h s).follows result limitless fits
    refine ⟨outcome', t', ?_, follows.mono (fun _ => id) fun _ _ _ last => ?_⟩
    · rw [Job.meaning_bind, Job.meaning_get, Option.bind_some]
      dsimp only
      rw [same]
      exact result'
    · change Concludes body (f (s.limited b reason) (s.limited b reason)) _ _
      rw [same]
      exact last

theorem bind {next : α → Eval β} (h : Cuts b reason n job) (h' : ∀ a, Cuts b reason n (next a)) :
    Cuts b reason n (job >>= next) where
  grows {s t outcome} result := by
    rw [Job.meaning_bind] at result
    obtain ⟨⟨first, k⟩, isFirst, isRest⟩ := Option.bind_eq_some_iff.1 result
    cases first with
    | error e =>
      cases isRest
      exact h.grows isFirst
    | ok a => exact (h.grows isFirst).trans ((h' a).grows isRest)
  follows {s t outcome} result limitless fits := by
    rw [Job.meaning_bind] at result
    obtain ⟨⟨first, k⟩, isFirst, isRest⟩ := Option.bind_eq_some_iff.1 result
    obtain ⟨first', k', isFirst', follows⟩ := h.follows isFirst limitless fits
    cases follows with
    | cut crosses comesUp last left goesOn =>
      have later : k.sink.Precedes t.sink := by
        cases first with
        | error e =>
          cases isRest
          exact .refl _
        | ok a => exact (h' a).grows isRest
      refine ⟨_, k', ?_, .cut crosses (Arises.bind comesUp) (Concludes.bind last rfl) left
        (goesOn.trans later)⟩
      rw [Job.meaning_bind, isFirst']
      rfl
    | same fits' =>
      cases first with
      | error e =>
        cases isRest
        refine ⟨_, _, ?_, .same fits'⟩
        rw [Job.meaning_bind, isFirst']
        rfl
      | ok a =>
        have limitless' := (h.grows isFirst).limitless limitless
        obtain ⟨outcome', t', isRest', follows⟩ := (h' a).follows isRest limitless' fits'
        refine ⟨outcome', t', ?_, follows.mono (fun _ first => ?_) fun _ _ _ last => ?_⟩
        · rw [Job.meaning_bind, isFirst']
          exact isRest'
        · exact Arises.behind (rest_of_meaning isFirst) first
        · exact Concludes.behind (rest_of_meaning isFirst') last

/-- A computation after which the frame or the number of calls in progress is restored. -/
theorem always {restore : Interpreter → Interpreter} (h : Cuts b reason n job)
    (restores : ∀ s, restore s =
      { s with frame := (restore s).frame, depth := (restore s).depth })
    (isLimited : ∀ s, restore (s.limited b reason) = (restore s).limited b reason) :
    Cuts b reason n (job.always restore) := by
  have isSink (s : Interpreter) : (restore s).sink = s.sink := by rw [restores]
  constructor
  case grows =>
    intro s t outcome result
    rw [Job.meaning_always] at result
    obtain ⟨⟨outcome', k⟩, isFirst, isRest⟩ := Option.map_eq_some_iff.1 result
    cases isRest
    rw [isSink]
    exact h.grows isFirst
  case follows =>
    intro s t outcome result limitless fits
    rw [Job.meaning_always] at result
    obtain ⟨⟨outcome', k⟩, isFirst, isRest⟩ := Option.map_eq_some_iff.1 result
    cases isRest
    obtain ⟨first', k', isFirst', follows⟩ := h.follows isFirst limitless fits
    refine ⟨first', restore k', ?_, ?_⟩
    · rw [Job.meaning_always, isFirst']
      rfl
    · cases follows with
      | same fits' =>
        rw [isLimited]
        exact .same (isSink k ▸ fits')
      | cut crosses comesUp last left goesOn =>
        refine .cut crosses (Arises.bind comesUp) (Concludes.bind last rfl) ?_ (isSink k ▸ goesOn)
        rw [restores, left]

theorem mapM {γ : Type} {job : γ → Eval α} (h : ∀ x, Cuts b reason n (job x)) (xs : List γ) :
    Cuts b reason n (xs.mapM job) := by
  induction xs with
  | nil => exact .pure []
  | cons x xs ih =>
    rw [List.mapM_cons]
    exact .bind (h x) fun a => .bind ih fun as => .pure (a :: as)

end Cuts

/-! ### The evaluator -/

theorem cuts_check (r : Except Fault α) : Cuts b reason n (check r) := by
  cases r with
  | error e => exact .throw e
  | ok a => exact .pure a

theorem cuts_fail (cause : Fault.Cause) (line : Nat) : Cuts b reason n (fail cause line : Eval α) :=
  .throw _

theorem cuts_finish (result : p.Result) : Cuts b reason n (finish (p := p) result) :=
  .pure _

theorem cuts_handOver (r : Request p) : Cuts b reason n (handOver r) :=
  .pure _

theorem cuts_lookUp (o : Occurrence) : Cuts b reason n (lookUp o) :=
  .get (fun _ => rfl) fun s => cuts_check (s.lookUp o)

theorem cuts_define (name : Token) (v : Value) : Cuts b reason n (define name v) :=
  .modify (fun _ => rfl) fun _ => rfl

theorem cuts_assign (o : Occurrence) (v : Value) : Cuts b reason n (assign o v) :=
  .get (fun _ => rfl) fun s => .bind (cuts_check (s.target o)) fun _ =>
    .modify (fun _ => rfl) fun _ => rfl

theorem cuts_currentFrame : Cuts b reason n currentFrame :=
  .get (fun _ => rfl) fun s => .pure s.frame

theorem cuts_newFunction (c : Closure) :
    Cuts b reason n (modifyGet fun i => i.newFunction c : Eval Value) :=
  .modifyGet (fun _ => rfl) fun _ => rfl

theorem cuts_within {f : FrameId} {job : Eval α} (h : Cuts b reason n job) :
    Cuts b reason n (within f job) :=
  .bind (.modifyGet (fun _ => rfl) fun _ => rfl) fun _ => h.always (fun _ => rfl) fun _ => rfl

/-- What is read from an instance does not depend on the limit of the sink, and does not write. -/
theorem property_limited (s : Interpreter) (address : Nat) (c : Class) (name : Token) :
    (s.limited b reason).property address c name =
      ((s.property address c name).1, (s.property address c name).2.limited b reason) := by
  rw [Interpreter.property, Interpreter.property, Interpreter.heap_limited]
  cases s.heap.field? address name.lexeme with
  | some v => rfl
  | none => cases c.findMethod? name.lexeme <;> rfl

theorem sink_property (s : Interpreter) (address : Nat) (c : Class) (name : Token) :
    (s.property address c name).2.sink = s.sink := by
  unfold Interpreter.property
  split
  · rfl
  · split <;> rfl

theorem cuts_readProperty (object : Value) (property : Token) :
    Cuts b reason n (readProperty object property) := by
  cases object with
  | instance_ address c =>
    exact .bind (.modifyGet (fun s => property_limited s address c property)
      fun s => sink_property s address c property) fun r => cuts_check r
  | _ => exact cuts_fail _ _

theorem cuts_readSuper (keyword : Occurrence) (method : Token) :
    Cuts b reason n (readSuper keyword method) := by
  refine .get (fun _ => rfl) fun s => ?_
  split
  · exact cuts_fail _ _
  · refine .bind (cuts_check _) fun v => ?_
    split
    · refine .bind (cuts_check _) fun w => ?_
      split
      · split
        · exact .modifyGet (fun _ => rfl) fun _ => rfl
        · exact cuts_fail _ _
      · exact cuts_fail _ _
    · exact cuts_fail _ _

section

variable (asked : ∀ (p : Phase) (r : Request p), Cuts b reason n (Job.ask r))

include asked

theorem cuts_evaluate (e : Expr) : Cuts b reason n (evaluate e) :=
  asked .value (.evaluate e)

theorem cuts_execute (stmt : Stmt) : Cuts b reason n (execute stmt) :=
  asked .flow (.execute stmt)

theorem cuts_executeAll (program : List Stmt) : Cuts b reason n (executeAll program) := by
  induction program with
  | nil => exact .pure Flow.normal
  | cons stmt program ih =>
    refine .bind (cuts_execute asked stmt) fun flow => ?_
    cases flow with
    | normal => exact ih
    | returned value => exact .pure (Flow.returned value)

/-! ### Calls -/

theorem cuts_callClosure (c : Closure) (arguments : List Value) :
    Cuts b reason n (callClosure c arguments) := by
  refine .bind (.modifyGet (fun _ => rfl) fun _ => rfl) fun f => ?_
  refine .bind (cuts_within (cuts_executeAll asked _)) fun flow => ?_
  split
  · exact .get (fun _ => rfl) fun s => cuts_check _
  · cases flow with
    | normal => exact .pure Value.nil
    | returned value => exact .pure value

theorem cuts_instantiate (c : Class) (arguments : List Value) :
    Cuts b reason n (instantiate c arguments) := by
  refine .bind (.modifyGet (fun _ => rfl) fun _ => rfl) fun v => ?_
  split
  · refine .bind (.modifyGet (fun _ => rfl) fun _ => rfl) fun bound => ?_
    exact .bind (cuts_callClosure asked bound arguments) fun _ => .pure v
  · exact .pure v

theorem cuts_perform (callee : Value) (arguments : List Value) (line : Nat) :
    Cuts b reason n (perform callee arguments line) := by
  cases callee with
  | clock => exact .bind (.modifyGet (fun _ => rfl) fun _ => rfl) cuts_check
  | function _ c => exact cuts_callClosure asked c arguments
  | classObject c => exact cuts_instantiate asked c arguments
  | _ => exact cuts_fail _ _

theorem cuts_callValue (callee : Value) (arguments : List Value) (line : Nat) :
    Cuts b reason n (callValue callee arguments line) := by
  unfold callValue
  split
  · exact cuts_fail _ _
  · split
    · exact cuts_fail _ _
    · refine .get (fun _ => rfl) fun s => ?_
      split
      · exact cuts_fail _ _
      · refine .bind (.modify (fun _ => rfl) fun _ => rfl) fun _ => ?_
        exact (cuts_perform asked callee arguments line).always (fun _ => rfl) fun _ => rfl

/-! ### Expressions and statements -/

theorem cuts_evaluateStep (e : Expr) : Cuts b reason n (evaluateStep e) := by
  cases e with
  | literal value => exact cuts_finish _
  | grouping inner => exact cuts_handOver _
  | unary operator right =>
    exact .bind (cuts_evaluate asked right) fun v => .bind (cuts_check _) fun _ => cuts_finish _
  | binary left operator right =>
    refine .bind (cuts_evaluate asked left) fun v => .bind (cuts_evaluate asked right) fun w => ?_
    exact .bind (cuts_check _) fun _ => cuts_finish _
  | logical left operator right =>
    refine .bind (cuts_evaluate asked left) fun v => ?_
    split
    · exact cuts_finish _
    · exact cuts_handOver _
  | reference name => exact .bind (cuts_lookUp name) fun _ => cuts_finish _
  | assign name value =>
    refine .bind (cuts_evaluate asked value) fun v => ?_
    exact .bind (cuts_assign name v) fun _ => cuts_finish _
  | call callee paren arguments =>
    refine .bind (cuts_evaluate asked callee) fun v => ?_
    exact .bind (.mapM (cuts_evaluate asked) arguments) fun vs => cuts_handOver _
  | get object property =>
    refine .bind (cuts_evaluate asked object) fun v => ?_
    exact .bind (cuts_readProperty v property) fun _ => cuts_finish _
  | set object property value =>
    refine .bind (cuts_evaluate asked object) fun v => ?_
    split
    · refine .bind (cuts_evaluate asked value) fun w => ?_
      exact .bind (.modify (fun _ => rfl) fun _ => rfl) fun _ => cuts_finish _
    · exact cuts_fail _ _
  | this keyword => exact .bind (cuts_lookUp keyword) fun _ => cuts_finish _
  | super keyword method => exact .bind (cuts_readSuper keyword method) fun _ => cuts_finish _

theorem cuts_superclassOf (superclass : Occurrence) :
    Cuts b reason n (superclassOf superclass) := by
  refine .bind (cuts_evaluate asked _) fun v => ?_
  split
  · exact .pure _
  · exact cuts_fail _ _

theorem cuts_defineClass (name : Token) (superclass : Option Occurrence)
    (methods : List FunctionDecl) : Cuts b reason n (defineClass name superclass methods) := by
  have rest (c? : Option Class) (frame : FrameId) : Cuts b reason n
      (do
        let identity ← modifyGet Interpreter.newIdentity
        define name (.classObject ⟨identity, name.lexeme, c?, methodTable methods frame⟩)) :=
    .bind (.modifyGet (fun _ => rfl) fun _ => rfl) fun _ => cuts_define name _
  have inherited : Cuts b reason n (superclass.mapM superclassOf) := by
    cases superclass with
    | none => exact .pure none
    | some o => exact .bind (cuts_superclassOf asked o) fun c => .pure (some c)
  refine .bind inherited fun c? => .bind (cuts_define name .nil) fun _ => ?_
  cases c? with
  | none => exact .bind cuts_currentFrame (rest none)
  | some c => exact .bind (.modifyGet (fun _ => rfl) fun _ => rfl) (rest (some c))

/-- The treatment of a statement that prints nothing itself. -/
theorem cuts_executeStep (stmt : Stmt) (silent : ∀ e, stmt ≠ .print e) :
    Cuts b reason n (executeStep stmt) := by
  cases stmt with
  | block body =>
    refine .bind (.modifyGet (fun _ => rfl) fun _ => rfl) fun f => ?_
    exact .bind (cuts_within (cuts_executeAll asked body)) fun flow => cuts_finish _
  | classDecl name superclass methods =>
    exact .bind (cuts_defineClass asked name superclass methods) fun _ => cuts_finish _
  | expression e => exact .bind (cuts_evaluate asked e) fun _ => cuts_finish _
  | functionDecl declaration =>
    refine .bind cuts_currentFrame fun f => .bind (cuts_newFunction _) fun v => ?_
    exact .bind (cuts_define _ v) fun _ => cuts_finish _
  | conditional condition thenBranch elseBranch =>
    refine .bind (cuts_evaluate asked condition) fun v => ?_
    split
    · exact cuts_handOver _
    · split
      · exact cuts_handOver _
      · exact cuts_finish _
  | print e => exact (silent e rfl).elim
  | ret _ e? =>
    cases e? with
    | none => exact cuts_finish _
    | some e => exact .bind (cuts_evaluate asked e) fun _ => cuts_finish _
  | varDecl name initializer =>
    cases initializer with
    | none =>
      refine .bind (.pure Value.nil) fun v => ?_
      exact .bind (cuts_define name v) fun _ => cuts_finish _
    | some e =>
      refine .bind (cuts_evaluate asked e) fun v => ?_
      exact .bind (cuts_define name v) fun _ => cuts_finish _
  | loop condition body =>
    refine .bind (cuts_evaluate asked condition) fun v => ?_
    split
    · refine .bind (cuts_execute asked body) fun flow => ?_
      cases flow with
      | normal => exact cuts_handOver _
      | returned value => exact cuts_finish _
    · exact cuts_finish _

end

/-! ### Requests -/

section

variable {r r' : Request p} {k : Interpreter} {task : Task} {outcome : Except Fault p.Result}

/-- A request whose run is cut off is asked for in a computation that is. -/
theorem Answered.cuts (h : Answered b reason n r) : Cuts b reason n (Job.ask r) := by
  have same : Job.meaning step n (Job.ask r) = Job.answer step n r :=
    funext fun s => Job.meaning_ask step n s r
  rw [Cuts, same]
  refine h.mono (fun s task => Routine.arises_ask) fun s fault t task answered course => ?_
  exact Routine.concludes_ask ⟨n, answered⟩ course

/-- What comes up in the treatment of a request comes up behind it. -/
theorem course_of_arises (h : Arises body (step p r s) task) :
    Relation.ReflTransGen (Begets body) ⟨p, r, s⟩ task := by
  obtain ⟨first, requested, course⟩ := h
  exact .head (.inl requested.bind) course

/-- If the treatment of a request is over, with a fault, so is the request. -/
theorem final_of_concludes {e : Fault} (h : Concludes body (step p r s) (.error e, t) task) :
    Relation.ReflTransGen (Final body) ⟨p, r, s⟩ task := by
  obtain ⟨first, last, course⟩ := h
  exact .head (.inl ⟨(.error e, t), last.bind rfl⟩) course

theorem Cuts.treated (h : Cuts b reason n (step p r)) : Treated b reason n r :=
  h.mono (fun _ _ => course_of_arises) fun _ _ _ _ _ => final_of_concludes

/-- The treatment of a request goes on with the request to which it is handed over. -/
theorem rest_of_handOver (ended : Job.meaning step n (step p r) s = some (.ok (.handOver r'), k)) :
    Rest body (body p (r, s)) (.done (.become (r', k))) :=
  (rest_of_meaning ended).bind

theorem Completes.precedes {ended : Except Fault (Step p)} (h : Completes n k ended outcome t)
    (ih : ∀ r' : Request p, Answered b reason n r') : k.sink.Precedes t.sink := by
  cases h with
  | failed => exact .refl _
  | finished => exact .refl _
  | handedOver answered => exact (ih _).grows answered

/-- The run of a request is cut off, at the next bound, if its treatment is, and if so are the runs
of all requests to which it may be handed over. -/
theorem answered_succ (treated : Treated b reason n r)
    (ih : ∀ r' : Request p, Answered b reason n r') : Answered b reason (n + 1) r where
  grows {s t outcome} answered := by
    obtain ⟨ended, k, isEnded, completes⟩ := answer_succ_iff.1 answered
    exact (treated.grows isEnded).trans (completes.precedes ih)
  follows {s t outcome} answered limitless fits := by
    obtain ⟨ended, k, isEnded, completes⟩ := answer_succ_iff.1 answered
    obtain ⟨ended', k', isEnded', follows⟩ := treated.follows isEnded limitless fits
    cases follows with
    | cut crosses first last left goesOn =>
      refine ⟨_, k', answer_succ_iff.2 ⟨_, _, isEnded', .failed _⟩, ?_⟩
      exact .cut crosses first last left (goesOn.trans (completes.precedes ih))
    | same fits' =>
      cases completes with
      | failed e => exact ⟨_, _, answer_succ_iff.2 ⟨_, _, isEnded', .failed e⟩, .same fits'⟩
      | finished a => exact ⟨_, _, answer_succ_iff.2 ⟨_, _, isEnded', .finished a⟩, .same fits'⟩
      | handedOver answered =>
        have limitless' := (treated.grows isEnded).limitless limitless
        obtain ⟨outcome', t', answered', follows⟩ := (ih _).follows answered limitless' fits'
        refine ⟨outcome', t', answer_succ_iff.2 ⟨_, _, isEnded', .handedOver answered'⟩, ?_⟩
        refine follows.mono (fun _ first => ?_) fun _ _ _ last => ?_
        · exact .head (.inr ⟨_, rest_of_handOver isEnded, rfl⟩) first
        · exact .head (.inr ⟨_, rest_of_handOver isEnded', rfl⟩) last

end

/-! ### Printing -/

/-- What a print statement does behind the evaluation of its expression: the value is written, and
the line of the expression is that of a failure to do so. -/
def writeOut (line : Nat) :
    Except Fault Value × Interpreter → Except Fault (Step .flow) × Interpreter
  | (.error fault, k) => (.error fault, k)
  | (.ok v, k) =>
    let written := k.write (v.text ++ "\n")
    (match written.1 with
      | none => .ok (.finished .normal)
      | some reason => .error ⟨.outputFailed reason, line⟩,
      written.2)

theorem precedes_writeOut (line : Nat) (first : Except Fault Value) (k : Interpreter) :
    k.sink.Precedes (writeOut line (first, k)).2.sink := by
  cases first with
  | error fault => exact .refl _
  | ok v => exact k.precedes_write _

section

variable {k : Interpreter} {v : Value} (line : Nat)

theorem writeOut_of_takesAll (takesAll : k.sink.device.TakesAll) : writeOut line (.ok v, k) =
    (.ok (.finished .normal), k.appended (v.text ++ "\n")) := by
  simp only [writeOut, Interpreter.write_of_takesAll takesAll]

theorem writeOut_of_fits (fits : (k.appended (v.text ++ "\n")).sink.written.size ≤ b) :
    writeOut line (.ok v, k.limited b reason) =
      (.ok (.finished .normal), (k.appended (v.text ++ "\n")).limited b reason) := by
  simp only [writeOut, Interpreter.write_limited_of_le fits]

theorem writeOut_of_exceeds (fits : k.sink.written.size ≤ b)
    (exceeds : b < (k.appended (v.text ++ "\n")).sink.written.size) :
    writeOut line (.ok v, k.limited b reason) =
      (.error ⟨.outputFailed reason, line⟩, (k.appended (v.text ++ "\n")).filled b reason) := by
  simp only [writeOut, Interpreter.write_limited_of_lt fits exceeds]

end

theorem meaning_step_print (e : Expr) (s : Interpreter) :
    Job.meaning step n (step .flow (.execute (.print e))) s =
      (Job.meaning step n (evaluate e) s).map (writeOut e.line) := by
  change Job.meaning step n
    (evaluate e >>= fun v => print v e.line >>= fun _ => finish (p := .flow) Flow.normal) s = _
  rw [Job.meaning_bind, Option.map_eq_bind]
  congr 1
  funext (outcome, k)
  cases outcome with
  | error fault => rfl
  | ok v =>
    simp only [print, Job.meaning_bind, Job.meaning_modifyGet, Option.bind_some, writeOut,
      Function.comp_apply]
    cases (k.write (v.text ++ "\n")).1 <;> rfl

/-- The treatment of a print statement is cut off as well: it may be its own output that does not
fit. -/
theorem treated_print (asked : ∀ (p : Phase) (r : Request p), Cuts b reason n (Job.ask r))
    (e : Expr) : Treated b reason n (.execute (.print e)) where
  grows {s t outcome} result := by
    rw [meaning_step_print] at result
    obtain ⟨⟨first, k⟩, isFirst, isRest⟩ := Option.map_eq_some_iff.1 result
    have later := precedes_writeOut e.line first k
    rw [isRest] at later
    exact ((cuts_evaluate asked e).grows isFirst).trans later
  follows {s t outcome} result limitless fits := by
    rw [meaning_step_print] at result ⊢
    obtain ⟨⟨first, k⟩, isFirst, isRest⟩ := Option.map_eq_some_iff.1 result
    obtain ⟨first', k', isFirst', follows⟩ := (cuts_evaluate asked e).follows isFirst limitless fits
    rw [isFirst', Option.map_some]
    cases follows with
    | cut crosses comesUp last left goesOn =>
      have later := precedes_writeOut e.line first k
      rw [isRest] at later
      exact ⟨_, _, rfl, .cut crosses (course_of_arises comesUp.bind)
        (final_of_concludes (last.bind rfl)) left (goesOn.trans later)⟩
    | same fits' =>
      cases first with
      | error fault =>
        cases isRest
        exact ⟨_, _, rfl, .same fits'⟩
      | ok v =>
        have limitless' := ((cuts_evaluate asked e).grows isFirst).limitless limitless
        rw [writeOut_of_takesAll e.line limitless'.takesAll] at isRest
        cases isRest
        by_cases fitsToo : (k.appended (v.text ++ "\n")).sink.written.size ≤ b
        · rw [writeOut_of_fits e.line fitsToo]
          exact ⟨_, _, rfl, .same fitsToo⟩
        · have exceeds := Nat.lt_of_not_le fitsToo
          rw [writeOut_of_exceeds e.line fits' exceeds]
          have crosses : Crosses b e v s k := ⟨ends_iff.2 ⟨n, isFirst⟩, fits', exceeds⟩
          exact ⟨_, _, rfl, .cut crosses .refl .refl rfl (.refl _)⟩

/-- The run of every request is cut off by a limited sink. -/
theorem answered (b : Nat) (reason : String) (n : Nat) (p : Phase) (r : Request p) :
    Answered b reason n r := by
  induction n generalizing p with
  | zero => exact ⟨nofun, nofun⟩
  | succ n ih =>
    have asked (p : Phase) (r : Request p) : Cuts b reason n (Job.ask r) := (ih p r).cuts
    refine answered_succ ?_ (ih p)
    cases r with
    | evaluate e => exact (cuts_evaluateStep asked e).treated
    | call callee arguments line =>
      refine Cuts.treated ?_
      exact .bind (cuts_callValue asked callee arguments line) fun v => cuts_finish (p := .value) v
    | execute stmt =>
      by_cases prints : ∃ e, stmt = .print e
      · obtain ⟨e, rfl⟩ := prints
        exact treated_print asked e
      · exact (cuts_executeStep asked stmt fun e isPrint => prints ⟨e, isPrint⟩).treated

/-! ### Programs -/

/-- A limit does not matter to flushing. -/
theorem cuts_flush : Cuts b reason n (modifyGet Interpreter.flush : Eval (Option String)) where
  grows {s t outcome} result := by
    rw [Job.meaning_modifyGet] at result
    cases result
    exact s.precedes_flush
  follows {s t outcome} result limitless fits := by
    rw [Job.meaning_modifyGet] at result
    cases result
    refine ⟨_, _, ?_, .same ?_⟩
    · rw [Job.meaning_modifyGet, Interpreter.flush_limited limitless]
    · rwa [Interpreter.written_flush]

theorem cuts_checkOutput (failure : Option String) (line : Nat) :
    Cuts b reason n (checkOutput failure line) := by
  cases failure with
  | none => exact .pure ()
  | some reason => exact cuts_fail _ _

theorem cuts_close (flow : Flow) : Cuts b reason n (close flow) := by
  cases flow with
  | returned value => exact cuts_fail _ _
  | normal => exact .bind cuts_flush fun failure => cuts_checkOutput failure 0

/-- The run of every program is cut off by a limited sink. -/
theorem cuts_interpret (b : Nat) (reason : String) (n : Nat) (program : List Stmt) :
    Cuts b reason n (interpret program) := by
  rw [interpret_eq]
  exact .bind (cuts_executeAll (fun p r => (answered b reason n p r).cuts) program) cuts_close

end Lox.Evaluation
