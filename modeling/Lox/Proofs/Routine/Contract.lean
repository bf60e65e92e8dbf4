import Lox.Proofs.Routine.Course
import Lox.Routine.Job

/-!
# Contracts

A contract says which goals may be asked, what an answer to such a goal is like, and which goals may
come up in its treatment. A body honours the contract if the treatment of every goal that may be
asked asks only for such goals and ends as promised, provided that the answers it gets are as
promised. Then every answer is as promised, and if goals cannot come up in each other's treatment
for ever, every goal that may be asked has an answer.

## Main definitions

* `Contract`: what is required of goals and promised of answers.
* `Routine.Keeps`: a routine asks only for goals that may be asked, and its result has a property.
* `Contract.Honoured`: the treatments of goals keep to the contract.
* `Job.Keeps`: a job keeps to a contract, and keeps a property of the state.

## Main results

* `Contract.Honoured.post`: answers are as promised.
* `Contract.Honoured.exists_answers`: a goal has an answer if only well-founded descents begin at
  it.
* `Job.honoured_of_keeps`: treatments that keep to a contract as jobs do so as bodies.
-/

namespace Lox

/-- What is required of goals, what is promised of their answers, and which goals may come up in the
treatment of a goal. -/
structure Contract {κ : Type} (Goal Answer : κ → Type) where
  Pre : {k : κ} → Goal k → Prop
  Post : {k : κ} → Goal k → Answer k → Prop
  Next : Routine.Task Goal → Routine.Task Goal → Prop

namespace Routine

variable {κ : Type} {Goal Answer : κ → Type} {α β : Type} {k : κ}

/-- A routine asks only for goals that may be asked and that have a further property, and its result
has a property, provided that the answers to the goals are as promised. -/
inductive Keeps (C : Contract Goal Answer) (asks : Task Goal → Prop) (Q : α → Prop) :
    Routine Goal Answer α → Prop
  | done {a : α} (result : Q a) : Keeps C asks Q (done a)
  | call {k : κ} {goal : Goal k} {next : Answer k → Routine Goal Answer α} (pre : C.Pre goal)
      (asked : asks ⟨k, goal⟩) (go : ∀ a, C.Post goal a → Keeps C asks Q (next a)) :
      Keeps C asks Q (call goal next)

theorem Keeps.mono {C : Contract Goal Answer} {asks : Task Goal → Prop} {Q Q' : α → Prop}
    {r : Routine Goal Answer α} (h : Keeps C asks Q r) (h' : ∀ a, Q a → Q' a) :
    Keeps C asks Q' r := by
  induction h with
  | done result => exact .done (h' _ result)
  | call pre asked _ ih => exact .call pre asked ih

theorem Keeps.bind {C : Contract Goal Answer} {asks : Task Goal → Prop} {Q : α → Prop}
    {Q' : β → Prop} {r : Routine Goal Answer α} {f : α → Routine Goal Answer β}
    (h : Keeps C asks Q r) (h' : ∀ a, Q a → Keeps C asks Q' (f a)) :
    Keeps C asks Q' (r.bind f) := by
  induction h with
  | done result => exact h' _ result
  | call pre asked _ ih => exact .call pre asked ih

end Routine

namespace Contract

open Routine

variable {κ : Type} {Goal Answer : κ → Type} {α : Type} {k : κ}
  (C : Contract Goal Answer)
  {body : (k : κ) → Goal k → Routine Goal Answer (Reply Goal Answer k)}
  {asks : Task Goal → Prop} {Q : α → Prop} {r r' : Routine Goal Answer α}

/-- The treatment of a goal ends as promised: with such an answer, or with a goal that may be asked
and whose answer will do. -/
inductive Ends (goal : Goal k) : Reply Goal Answer k → Prop
  | answer {a : Answer k} (post : C.Post goal a) : Ends goal (.answer a)
  | become {goal' : Goal k} (pre : C.Pre goal') (next : C.Next ⟨k, goal⟩ ⟨k, goal'⟩)
      (posts : ∀ a, C.Post goal' a → C.Post goal a) : Ends goal (.become goal')

variable (body) in
/-- The treatments of the goals that may be asked keep to the contract. -/
def Honoured : Prop :=
  ∀ (k : κ) (goal : Goal k), C.Pre goal → Keeps C (C.Next ⟨k, goal⟩) (C.Ends goal) (body k goal)

variable {C}

theorem result_of_keeps {n : Nat}
    (posts : ∀ (k : κ) (goal : Goal k) (a : Answer k), C.Pre goal → solve body n k goal = some a →
      C.Post goal a)
    (h : Keeps C asks Q r) {a : α} (result : r.denote (solve body n) = some a) : Q a := by
  induction h with
  | done isResult =>
    cases result
    exact isResult
  | call pre _ _ ih =>
    obtain ⟨answer, answered, result⟩ := Option.bind_eq_some_iff.1 result
    exact ih answer (posts _ _ answer pre answered) result

theorem Honoured.solve (h : C.Honoured body) {n : Nat} {goal : Goal k} {a : Answer k}
    (pre : C.Pre goal) (answered : Routine.solve body n k goal = some a) : C.Post goal a := by
  induction n generalizing k with
  | zero => simp [Routine.solve] at answered
  | succ n ih =>
    rw [solve_succ] at answered
    obtain ⟨reply, result, settled⟩ := Option.bind_eq_some_iff.1 answered
    cases result_of_keeps (fun k goal a pre answered => ih pre answered) (h k goal pre) result with
    | answer post =>
      cases settled
      exact post
    | become pre' _ posts => exact posts a (ih pre' settled)

/-- The answers to goals that may be asked are as promised. -/
theorem Honoured.post (h : C.Honoured body) {goal : Goal k} {a : Answer k} (pre : C.Pre goal)
    (answered : Answers body goal a) : C.Post goal a := by
  obtain ⟨n, answered⟩ := answered
  exact h.solve pre answered

/-- What is left of a routine keeps to the contract. -/
theorem Honoured.rest (h : C.Honoured body) (keeps : Keeps C asks Q r) (left : Rest body r r') :
    Keeps C asks Q r' := by
  induction left with
  | refl => exact keeps
  | step _ answered ih =>
    cases ih with
    | call pre _ go => exact go _ (h.post pre answered)

/-- The result of a routine has the property. -/
theorem Honoured.result (h : C.Honoured body) (keeps : Keeps C asks Q r) {a : α}
    (left : Rest body r (done a)) : Q a := by
  cases h.rest keeps left with
  | done result => exact result

/-- A routine asks only for goals that may be asked. -/
theorem Honoured.requests (h : C.Honoured body) (keeps : Keeps C asks Q r) {task : Task Goal}
    (requested : Requests body r task) : C.Pre task.2 ∧ asks task := by
  obtain ⟨next, left⟩ := requested
  cases h.rest keeps left with
  | call pre asked _ => exact ⟨pre, asked⟩

/-- Only goals that may be asked, and that may come up there, come up in a treatment. -/
theorem Honoured.begets (h : C.Honoured body) {task task' : Task Goal} (pre : C.Pre task.2)
    (begets : Begets body task task') : C.Pre task'.2 ∧ C.Next task task' := by
  rcases begets with requested | ⟨goal, left, rfl⟩
  · exact h.requests (h _ task.2 pre) requested
  · cases h.result (h _ task.2 pre) left with
    | become pre' next _ => exact ⟨pre', next⟩

/-- A routine comes to its end if all that it asks for is answered. -/
theorem Honoured.exists_result (h : C.Honoured body) (keeps : Keeps C asks Q r)
    (answers : ∀ task : Task Goal, C.Pre task.2 → asks task → ∃ a, Answers body task.2 a) :
    ∃ a, Rest body r (done a) := by
  induction keeps with
  | done => exact ⟨_, .refl⟩
  | @call k goal next pre asked go ih =>
    obtain ⟨a, answered⟩ := answers ⟨k, goal⟩ pre asked
    obtain ⟨b, left⟩ := ih a (h.post pre answered)
    exact ⟨b, (Rest.step .refl answered).trans left⟩

/-- A goal that may be asked has an answer, if goals come up in each other's treatment below it only
in well-founded descents. -/
theorem Honoured.exists_answers (h : C.Honoured body) {task : Task Goal}
    (descent : Acc (fun task' task => C.Pre task'.2 ∧ C.Next task task') task)
    (pre : C.Pre task.2) : ∃ a, Answers body task.2 a := by
  induction descent with
  | intro task _ ih =>
    obtain ⟨reply, left⟩ := h.exists_result (h _ task.2 pre) fun task' pre' next =>
      ih task' ⟨pre', next⟩ pre'
    cases reply with
    | answer a => exact ⟨a, answers_of_rest_answer left⟩
    | become goal =>
      cases h.result (h _ task.2 pre) left with
      | become pre' next _ =>
        obtain ⟨a, answered⟩ := ih ⟨task.1, goal⟩ ⟨pre', next⟩ pre'
        exact ⟨a, answered.of_become left⟩

end Contract

/-! ### Jobs -/

namespace Job

variable {κ : Type} {σ ε : Type} {Request Result : κ → Type} {α β : Type} {k : κ}
  (C : Contract (Goal σ Request) (Answer σ ε Result))
  (asks : Routine.Task (Goal σ Request) → Prop)

/-- The state left has a property, and so has the result, unless it is a failure. -/
def Meets (I : σ → Prop) (Q : α → Prop) (left : Except ε α × σ) : Prop :=
  I left.2 ∧ ∀ a, left.1 = .ok a → Q a

/-- A job keeps to a contract, keeps a property of the state, and ends with results that have a
property. -/
def Keeps (I : σ → Prop) (Q : α → Prop) (job : Job σ ε Request Result α) : Prop :=
  ∀ s, I s → Routine.Keeps C asks (Meets I Q) (job s)

variable {C asks} {I : σ → Prop} {Q : α → Prop} {Q' : β → Prop}

theorem Meets.ok {a : α} {s : σ} (state : I s) (result : Q a) :
    Meets I Q ((.ok a, s) : Except ε α × σ) :=
  ⟨state, fun _ isResult => by cases isResult; exact result⟩

theorem Meets.error {e : ε} {s : σ} (state : I s) :
    Meets I Q ((.error e, s) : Except ε α × σ) :=
  ⟨state, nofun⟩

namespace Keeps

theorem pure {a : α} (result : Q a) :
    Keeps C asks I Q (Pure.pure a : Job σ ε Request Result α) :=
  fun _ state => .done (.ok state result)

theorem throw {e : ε} : Keeps C asks I Q (MonadExcept.throw e : Job σ ε Request Result α) :=
  fun _ state => .done (.error state)

theorem get : Keeps C asks I I (MonadState.get : Job σ ε Request Result σ) :=
  fun _ state => .done (.ok state state)

theorem modifyGet {f : σ → α × σ} (h : ∀ s, I s → Q (f s).1 ∧ I (f s).2) :
    Keeps C asks I Q (MonadState.modifyGet f : Job σ ε Request Result α) :=
  fun s state => .done (.ok (h s state).2 (h s state).1)

theorem modify {f : σ → σ} (h : ∀ s, I s → I (f s)) :
    Keeps C asks I (fun _ => True) (modify f : Job σ ε Request Result PUnit) :=
  modifyGet fun s state => ⟨trivial, h s state⟩

/-- Make a request that is allowed, and whose answers keep the property of the state. -/
theorem ask {r : Request k} {Q : Result k → Prop}
    (pre : ∀ s, I s → C.Pre (r, s) ∧ asks ⟨k, r, s⟩)
    (post : ∀ s, I s → ∀ answer, C.Post (r, s) answer → Meets I Q answer) :
    Keeps C asks I Q (Job.ask r : Job σ ε Request Result (Result k)) :=
  fun s state => .call (pre s state).1 (pre s state).2 fun answer promised =>
    .done (post s state answer promised)

theorem bind {job : Job σ ε Request Result α} {next : α → Job σ ε Request Result β}
    (h : Keeps C asks I Q job) (h' : ∀ a, Q a → Keeps C asks I Q' (next a)) :
    Keeps C asks I Q' (job >>= next) := by
  intro s state
  refine Routine.Keeps.bind (h s state) ?_
  rintro ⟨outcome, t⟩ ⟨state', result⟩
  cases outcome with
  | ok a => exact h' a (result a rfl) t state'
  | error e => exact .done (.error state')

/-- Two jobs in sequence of which the first yields nothing of interest. -/
theorem seq {job : Job σ ε Request Result α} {next : α → Job σ ε Request Result β}
    (h : Keeps C asks I (fun _ => True) job) (h' : ∀ a, Keeps C asks I Q' (next a)) :
    Keeps C asks I Q' (job >>= next) :=
  h.bind fun a _ => h' a

theorem map {f : α → β} {job : Job σ ε Request Result α} (h : Keeps C asks I Q job)
    (h' : ∀ a, Q a → Q' (f a)) : Keeps C asks I Q' (f <$> job) :=
  h.bind fun a result => .pure (h' a result)

/-- A job in changed states, after which the change is undone. -/
theorem always {I' : σ → Prop} {job : Job σ ε Request Result α} {restore : σ → σ} {s : σ}
    (h : Keeps C asks I' Q job) (state : I' s) (h' : ∀ t, I' t → I (restore t)) :
    Routine.Keeps C asks (Meets I Q) (job.always restore s) := by
  refine Routine.Keeps.bind (h s state) ?_
  rintro ⟨outcome, t⟩ ⟨state', result⟩
  exact .done ⟨h' t state', result⟩

theorem mapM {γ : Type} {job : γ → Job σ ε Request Result α} {xs : List γ}
    (h : ∀ x ∈ xs, Keeps C asks I Q (job x)) :
    Keeps C asks I (fun as => ∀ a ∈ as, Q a) (xs.mapM job) := by
  induction xs with
  | nil => exact .pure nofun
  | cons x xs ih =>
    rw [List.mapM_cons]
    refine .bind (h x List.mem_cons_self) fun a isResult => ?_
    refine .bind (ih fun x mem => h x (List.mem_cons_of_mem _ mem)) fun as results => ?_
    exact .pure (List.forall_mem_cons.2 ⟨isResult, results⟩)

end Keeps

variable (C) in
/-- The treatment of a request is over as promised. -/
def Closes (goal : Goal σ Request k) : Except ε (Step Request Result k) × σ → Prop
  | (.ok (.finished result), t) => C.Post goal (.ok result, t)
  | (.ok (.handOver request), t) =>
    C.Pre (request, t) ∧ C.Next ⟨k, goal⟩ ⟨k, request, t⟩ ∧
      ∀ a, C.Post (request, t) a → C.Post goal a
  | (.error e, t) => C.Post goal (.error e, t)

/-- If the treatments of requests keep to a contract as jobs, they do so as bodies. -/
theorem honoured_of_keeps
    {step : (k : κ) → Request k → Job σ ε Request Result (Step Request Result k)}
    (h : ∀ (k : κ) (request : Request k) (s : σ), C.Pre (request, s) →
      Routine.Keeps C (C.Next ⟨k, request, s⟩) (Closes C (request, s)) (step k request s)) :
    C.Honoured (body step) := by
  rintro k ⟨request, s⟩ pre
  refine Routine.Keeps.bind (h k request s pre) ?_
  rintro ⟨outcome, t⟩ closed
  rcases outcome with e | result | next
  · exact .done (.answer closed)
  · exact .done (.answer closed)
  · exact .done (.become closed.1 closed.2.1 closed.2.2)

end Job

end Lox
