import Lox.Routine.Meaning
import Mathlib.Data.Option.Basic

/-!
# Similar routines

Two routines are similar if they go through the same motions: they ask for related goals, go on
alike with related answers, and end with related results. If the treatments of related goals are
similar, the loop makes the same moves for both routines, so that both are over within a number of
moves or neither is.

In contrast to lockstep with a coupling, the relation on states is fixed for a whole run and the
number of moves is the same; jobs that differ in names only are compared in this way.

## Main definitions

* `Routine.Similar`: routines that go through the same motions.
* `Job.Likeness`: what related states, failures, requests and results are.
* `Job.Similar`: jobs that are similar from all related states.

## Main results

* `Routine.Similar.run`: similar routines have related results after the same moves.
* `Job.Similar.run`: similar jobs have related outcomes after the same moves.
-/

namespace Lox.Routine

variable {κ : Type} {Goal Answer : κ → Type} {α α' β β' : Type} {k : κ}

variable (G : (k : κ) → Goal k → Goal k → Prop) (A : (k : κ) → Answer k → Answer k → Prop)

/-- Two routines ask for related goals, go on alike with related answers, and end with results that
are related by `Q`. -/
inductive Similar (Q : α → β → Prop) :
    Routine Goal Answer α → Routine Goal Answer β → Prop
  | done {a : α} {b : β} (related : Q a b) : Similar Q (done a) (done b)
  | call {k : κ} {goal goal' : Goal k} {next : Answer k → Routine Goal Answer α}
      {next' : Answer k → Routine Goal Answer β} (goals : G k goal goal')
      (go : ∀ a a', A k a a' → Similar Q (next a) (next' a')) :
      Similar Q (call goal next) (call goal' next')

/-- Two treatments end alike: with related answers, or by turning into related goals. -/
inductive SimilarReply : Reply Goal Answer k → Reply Goal Answer k → Prop
  | answer {a a' : Answer k} (related : A k a a') : SimilarReply (.answer a) (.answer a')
  | become {goal goal' : Goal k} (goals : G k goal goal') :
      SimilarReply (.become goal) (.become goal')

/-- Two stacks of routines that go on alike with related answers. -/
inductive SimilarStack (Q : α → β → Prop) :
    {k : κ} → Stack Goal Answer α k → Stack Goal Answer β k → Prop
  | last {k : κ} {next : Answer k → Routine Goal Answer α}
      {next' : Answer k → Routine Goal Answer β}
      (go : ∀ a a', A k a a' → Similar G A Q (next a) (next' a')) :
      SimilarStack Q (.last next) (.last next')
  | push {k k' : κ} {next next' : Answer k → Routine Goal Answer (Reply Goal Answer k')}
      {rest : Stack Goal Answer α k'} {rest' : Stack Goal Answer β k'}
      (go : ∀ a a', A k a a' → Similar G A (SimilarReply G A) (next a) (next' a'))
      (waiting : SimilarStack Q rest rest') :
      SimilarStack Q (.push next rest) (.push next' rest')

/-- Two moments of runs that go through the same motions. -/
inductive SimilarConfig (Q : α → β → Prop) : Config Goal Answer α → Config Goal Answer β → Prop
  | outer {r : Routine Goal Answer α} {r' : Routine Goal Answer β} (active : Similar G A Q r r') :
      SimilarConfig Q (.outer r) (.outer r')
  | inner {k : κ} {r r' : Routine Goal Answer (Reply Goal Answer k)}
      {waiting : Stack Goal Answer α k} {waiting' : Stack Goal Answer β k}
      (active : Similar G A (SimilarReply G A) r r')
      (stack : SimilarStack G A Q waiting waiting') :
      SimilarConfig Q (.inner r waiting) (.inner r' waiting')

/-- The treatments of related goals are similar. -/
def Respects (body : (k : κ) → Goal k → Routine Goal Answer (Reply Goal Answer k)) : Prop :=
  ∀ k goal goal', G k goal goal' → Similar G A (SimilarReply G A) (body k goal) (body k goal')

variable {G A} {body : (k : κ) → Goal k → Routine Goal Answer (Reply Goal Answer k)}

theorem Similar.bind {Q : α → β → Prop} {Q' : α' → β' → Prop} {r : Routine Goal Answer α}
    {r' : Routine Goal Answer β} {f : α → Routine Goal Answer α'}
    {f' : β → Routine Goal Answer β'} (h : Similar G A Q r r')
    (h' : ∀ a b, Q a b → Similar G A Q' (f a) (f' b)) :
    Similar G A Q' (r.bind f) (r'.bind f') := by
  induction h with
  | done related => exact h' _ _ related
  | call goals _ ih => exact .call goals ih

/-- From similar moments, the same moves lead to related results, or to no result yet. -/
theorem SimilarConfig.advance (respects : Respects G A body) {Q : α → β → Prop} {moves : Nat}
    {moment : Config Goal Answer α} {moment' : Config Goal Answer β}
    (h : SimilarConfig G A Q moment moment') :
    Option.Rel Q (Routine.advance body moves moment).toOption
      (Routine.advance body moves moment').toOption := by
  induction moves generalizing moment moment' with
  | zero => exact .none
  | succ moves ih =>
    cases h with
    | outer active =>
      cases active with
      | done related => exact .some related
      | call goals go => exact ih (.inner (respects _ _ _ goals) (.last go))
    | inner active stack =>
      cases active with
      | call goals go => exact ih (.inner (respects _ _ _ goals) (.push go stack))
      | done reply =>
        cases reply with
        | become goals => exact ih (.inner (respects _ _ _ goals) stack)
        | answer related =>
          cases stack with
          | last go => exact ih (.outer (go _ _ related))
          | push go rest => exact ih (.inner (go _ _ related) rest)

/-- Similar routines have related results after the same moves. -/
theorem Similar.run (respects : Respects G A body) {Q : α → β → Prop} {r : Routine Goal Answer α}
    {r' : Routine Goal Answer β} (h : Similar G A Q r r') (moves : Nat) :
    Option.Rel Q (Routine.run body moves r) (Routine.run body moves r') :=
  SimilarConfig.advance respects (.outer h)

end Lox.Routine

/-! ### Jobs -/

namespace Lox.Job

variable {κ : Type} {σ ε : Type} {Request Result : κ → Type} {α α' β β' : Type} {k : κ}

/-- What related states, failures, requests and results of jobs are. -/
structure Likeness (σ ε : Type) (Request Result : κ → Type) where
  state : σ → σ → Prop
  failure : ε → ε → Prop
  request : (k : κ) → Request k → Request k → Prop
  result : (k : κ) → Result k → Result k → Prop

namespace Likeness

variable (L : Likeness σ ε Request Result)

/-- Related requests in related states. -/
def goal (k : κ) (goal goal' : Goal σ Request k) : Prop :=
  L.request k goal.1 goal'.1 ∧ L.state goal.2 goal'.2

/-- Results that are related by `Q`, or related failures, in related states. -/
inductive Outcome (Q : α → β → Prop) : Except ε α × σ → Except ε β × σ → Prop
  | ok {a : α} {b : β} {s s' : σ} (related : Q a b) (state : L.state s s') :
      Outcome Q (.ok a, s) (.ok b, s')
  | error {e e' : ε} {s s' : σ} (failure : L.failure e e') (state : L.state s s') :
      Outcome Q (.error e, s) (.error e', s')

/-- Related answers to a request. -/
def answer (k : κ) : Answer σ ε Result k → Answer σ ε Result k → Prop :=
  L.Outcome (L.result k)

/-- Treatments that end with related results, or hand over to related requests. -/
inductive Ends (k : κ) : Step Request Result k → Step Request Result k → Prop
  | finished {a a' : Result k} (related : L.result k a a') : Ends k (.finished a) (.finished a')
  | handOver {r r' : Request k} (requests : L.request k r r') : Ends k (.handOver r) (.handOver r')

end Likeness

variable (L : Likeness σ ε Request Result)

/-- Two jobs go through the same motions from all related states, and their results are related by
`Q`. -/
def Similar (Q : α → β → Prop) (job : Job σ ε Request Result α) (job' : Job σ ε Request Result β) :
    Prop :=
  ∀ s s', L.state s s' → Routine.Similar L.goal L.answer (L.Outcome Q) (job s) (job' s')

namespace Similar

variable {L} {Q : α → β → Prop} {Q' : α' → β' → Prop}

theorem pure {a : α} {b : β} (related : Q a b) :
    Similar L Q (Pure.pure a : Job σ ε Request Result α) (Pure.pure b) :=
  fun _ _ state => .done (.ok related state)

theorem throw {e e' : ε} (failure : L.failure e e') :
    Similar L Q (MonadExcept.throw e : Job σ ε Request Result α) (MonadExcept.throw e') :=
  fun _ _ state => .done (.error failure state)

theorem get : Similar L L.state (MonadState.get : Job σ ε Request Result σ) MonadState.get :=
  fun _ _ state => .done (.ok state state)

theorem modifyGet {f : σ → α × σ} {f' : σ → β × σ}
    (h : ∀ s s', L.state s s' → Q (f s).1 (f' s').1 ∧ L.state (f s).2 (f' s').2) :
    Similar L Q (MonadState.modifyGet f : Job σ ε Request Result α) (MonadState.modifyGet f') :=
  fun s s' state => .done (.ok (h s s' state).1 (h s s' state).2)

theorem modify {f f' : σ → σ} (h : ∀ s s', L.state s s' → L.state (f s) (f' s')) :
    Similar L (fun _ _ => True) (modify f : Job σ ε Request Result PUnit) (modify f') :=
  modifyGet fun s s' state => ⟨trivial, h s s' state⟩

theorem ask {r r' : Request k} (requests : L.request k r r') :
    Similar L (L.result k) (ask r : Job σ ε Request Result (Result k)) (ask r') :=
  fun _ _ state => .call ⟨requests, state⟩ fun _ _ answer => .done answer

theorem bind {job : Job σ ε Request Result α} {job' : Job σ ε Request Result β}
    {next : α → Job σ ε Request Result α'} {next' : β → Job σ ε Request Result β'}
    (h : Similar L Q job job') (h' : ∀ a b, Q a b → Similar L Q' (next a) (next' b)) :
    Similar L Q' (job >>= next) (job' >>= next') := by
  intro s s' state
  refine Routine.Similar.bind (h s s' state) fun outcome outcome' related => ?_
  cases related with
  | ok related state => exact h' _ _ related _ _ state
  | error failure state => exact .done (.error failure state)

/-- Two jobs in sequence of which the first yields nothing. -/
theorem seq {job job' : Job σ ε Request Result PUnit} {next : PUnit → Job σ ε Request Result α'}
    {next' : PUnit → Job σ ε Request Result β'} (h : Similar L (fun _ _ => True) job job')
    (h' : Similar L Q' (next ⟨⟩) (next' ⟨⟩)) : Similar L Q' (job >>= next) (job' >>= next') :=
  h.bind fun _ _ _ => h'

theorem map {f : α → α'} {f' : β → β'} {job : Job σ ε Request Result α}
    {job' : Job σ ε Request Result β} (h : Similar L Q job job')
    (h' : ∀ a b, Q a b → Q' (f a) (f' b)) : Similar L Q' (f <$> job) (f' <$> job') :=
  h.bind fun a b related => .pure (h' a b related)

theorem always {job : Job σ ε Request Result α} {job' : Job σ ε Request Result β}
    {restore restore' : σ → σ} (h : Similar L Q job job')
    (h' : ∀ s s', L.state s s' → L.state (restore s) (restore' s')) :
    Similar L Q (job.always restore) (job'.always restore') := by
  intro s s' state
  refine Routine.Similar.bind (h s s' state) fun _ _ related => ?_
  cases related with
  | ok related state => exact .done (.ok related (h' _ _ state))
  | error failure state => exact .done (.error failure (h' _ _ state))

theorem tryCatch {job : Job σ ε Request Result α} {job' : Job σ ε Request Result β}
    {handler : ε → Job σ ε Request Result α} {handler' : ε → Job σ ε Request Result β}
    (h : Similar L Q job job')
    (h' : ∀ e e', L.failure e e' → Similar L Q (handler e) (handler' e')) :
    Similar L Q (MonadExcept.tryCatch job handler) (MonadExcept.tryCatch job' handler') := by
  intro s s' state
  refine Routine.Similar.bind (h s s' state) fun _ _ related => ?_
  cases related with
  | ok related state => exact .done (.ok related state)
  | error failure state => exact h' _ _ failure _ _ state

/-- If the treatments of related requests are similar as jobs, they are so as bodies. -/
theorem respects {step : (k : κ) → Request k → Job σ ε Request Result (Step Request Result k)}
    (h : ∀ k r r', L.request k r r' → Similar L (L.Ends k) (step k r) (step k r')) :
    Routine.Respects L.goal L.answer (body step) := by
  rintro k ⟨r, s⟩ ⟨r', s'⟩ ⟨requests, state⟩
  refine Routine.Similar.bind (h k r r' requests s s' state) fun _ _ related => ?_
  cases related with
  | error failure state => exact .done (.answer (.error failure state))
  | ok ends state =>
    cases ends with
    | finished related => exact .done (.answer (.ok related state))
    | handOver requests => exact .done (.become ⟨requests, state⟩)

/-- Similar jobs have related outcomes after the same moves. -/
theorem run {step : (k : κ) → Request k → Job σ ε Request Result (Step Request Result k)}
    (respects : Routine.Respects L.goal L.answer (body step)) {job : Job σ ε Request Result α}
    {job' : Job σ ε Request Result β} (h : Similar L Q job job') {s s' : σ} (state : L.state s s')
    (moves : Nat) :
    Option.Rel (L.Outcome Q) (Job.run step moves job s) (Job.run step moves job' s') :=
  Routine.Similar.run respects (h s s' state) moves

end Similar

end Lox.Job
