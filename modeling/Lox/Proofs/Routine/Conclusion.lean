import Lox.Proofs.Routine.Course

/-!
# The end of a run

A routine may be over as soon as some goal is answered: the routine that asked for it ends with that
answer, and so do all that wait for it. Nothing is asked for behind such a goal.

## Main definitions

* `Routine.Last`: a routine is over when a goal that it asks for is answered.
* `Routine.Final`: the treatment of a goal is over when another goal is answered.
* `Routine.Concludes`: a run is over when some goal, perhaps deep inside it, is answered.

## Main results

* `Routine.Rest.bind`, `Routine.Arises.bind`, `Routine.Arises.behind`: routines in sequence.
* `Routine.Rest.of_call`, `Routine.Rest.of_bind`: what is left of a routine.
* `Routine.Concludes.bind`, `Routine.Concludes.behind`: the end of routines in sequence.
-/

namespace Lox.Routine

variable {κ : Type} {Goal Answer : κ → Type} {α β : Type} {k : κ}
  (body : (k : κ) → Goal k → Routine Goal Answer (Reply Goal Answer k))

/-- A routine is over, with a result, when a goal that it asks for is answered. -/
def Last (r : Routine Goal Answer α) (a : α) (task : Task Goal) : Prop :=
  ∃ next answer, Rest body r (call task.2 next) ∧ Answers body task.2 answer ∧
    next answer = done a

/-- The treatment of the first goal is over when the second one is answered, which it asks for or is
handed over to. -/
def Final (task task' : Task Goal) : Prop :=
  (∃ answer, Last body (body _ task.2) (.answer answer) task') ∨
    ∃ goal, Rest body (body _ task.2) (done (.become goal)) ∧ task' = ⟨task.1, goal⟩

/-- The run of a routine is over, with a result, when a goal is answered. -/
def Concludes (r : Routine Goal Answer α) (a : α) (task : Task Goal) : Prop :=
  ∃ first, Last body r a first ∧ Relation.ReflTransGen (Final body) first task

variable {body} {r r' : Routine Goal Answer α} {f : α → Routine Goal Answer β} {a : α} {b : β}
  {task task' : Task Goal}

/-! ### Routines in sequence -/

theorem Rest.bind (h : Rest body r r') : Rest body (r.bind f) (r'.bind f) := by
  induction h with
  | refl => exact .refl
  | step _ answered ih => exact .step ih answered

theorem Requests.bind (h : Requests body r task) : Requests body (r.bind f) task := by
  obtain ⟨next, rest⟩ := h
  exact ⟨_, rest.bind⟩

/-- What comes up in the first of two routines comes up in both. -/
theorem Arises.bind (h : Arises body r task) : Arises body (r.bind f) task := by
  obtain ⟨first, requested, course⟩ := h
  exact ⟨first, requested.bind, course⟩

/-- What comes up behind the first of two routines comes up in both. -/
theorem Arises.behind (ended : Rest body r (done a)) (h : Arises body (f a) task) :
    Arises body (r.bind f) task := by
  obtain ⟨first, ⟨next, rest⟩, course⟩ := h
  exact ⟨first, ⟨next, ended.bind.trans rest⟩, course⟩

theorem Last.bind (h : Last body r a task) (ends : f a = done b) :
    Last body (r.bind f) b task := by
  obtain ⟨next, answer, rest, answered, isDone⟩ := h
  refine ⟨_, answer, rest.bind, answered, ?_⟩
  rw [isDone]
  exact ends

theorem Last.behind (ended : Rest body r (done a)) (h : Last body (f a) b task) :
    Last body (r.bind f) b task := by
  obtain ⟨next, answer, rest, answered, isDone⟩ := h
  exact ⟨next, answer, ended.bind.trans rest, answered, isDone⟩

theorem Last.rest (h : Last body r a task) : Rest body r (done a) := by
  obtain ⟨next, answer, rest, answered, isDone⟩ := h
  exact isDone ▸ .step rest answered

/-- Two routines are over with the first one, if nothing is left to do then. -/
theorem Concludes.bind (h : Concludes body r a task) (ends : f a = done b) :
    Concludes body (r.bind f) b task := by
  obtain ⟨first, last, course⟩ := h
  exact ⟨first, last.bind ends, course⟩

theorem Concludes.behind (ended : Rest body r (done a)) (h : Concludes body (f a) b task) :
    Concludes body (r.bind f) b task := by
  obtain ⟨first, last, course⟩ := h
  exact ⟨first, last.behind ended, course⟩

/-! ### What is left of a routine -/

theorem Rest.of_done {q : Routine Goal Answer α} (h : Rest body (done a) q) : q = done a := by
  induction h with
  | refl => rfl
  | step _ _ ih => cases ih

/-- What is left of a routine that asks for a goal is all of it, or is left once that is
answered. -/
theorem Rest.of_call {goal : Goal k} {next : Answer k → Routine Goal Answer α}
    {q : Routine Goal Answer α} (h : Rest body (call goal next) q) :
    q = call goal next ∨ ∃ answer, Answers body goal answer ∧ Rest body (next answer) q := by
  induction h with
  | refl => exact .inl rfl
  | @step k' goal' next' answer' before answered ih =>
    rcases ih with isAll | ⟨answer, first, rest⟩
    · cases isAll
      exact .inr ⟨answer', answered, .refl⟩
    · exact .inr ⟨answer, first, .step rest answered⟩

/-- What is left of two routines is left of the first one, or of the second one behind it. -/
theorem Rest.of_bind {q : Routine Goal Answer β} (h : Rest body (r.bind f) q) :
    (∃ r', Rest body r r' ∧ q = r'.bind f) ∨ ∃ a, Rest body r (done a) ∧ Rest body (f a) q := by
  induction h with
  | refl => exact .inl ⟨r, .refl, rfl⟩
  | @step k goal next answer before answered ih =>
    rcases ih with ⟨r', rest, isBind⟩ | ⟨a, ended, rest⟩
    · cases r' with
      | done a =>
        have begun : Rest body (f a) (call goal next) := isBind ▸ .refl
        exact .inr ⟨a, rest, .step begun answered⟩
      | call goal' next' =>
        cases isBind
        exact .inl ⟨next' answer, .step rest answered, rfl⟩
    · exact .inr ⟨a, ended, .step rest answered⟩

theorem not_requests_done : ¬ Requests body (done a : Routine Goal Answer α) task :=
  fun ⟨_, rest⟩ => nomatch rest.of_done

/-- A routine asks for its first goal, or for others once that is answered. -/
theorem Requests.of_call {goal : Goal k} {next : Answer k → Routine Goal Answer α}
    (h : Requests body (call goal next) task) :
    task = ⟨k, goal⟩ ∨ ∃ answer, Answers body goal answer ∧ Requests body (next answer) task := by
  obtain ⟨next', rest⟩ := h
  rcases rest.of_call with isAll | ⟨answer, answered, rest⟩
  · cases isAll
    exact .inl rfl
  · exact .inr ⟨answer, answered, next', rest⟩

/-! ### One goal -/

/-- A routine that asks for one goal is over when the treatment of that goal is. -/
theorem concludes_ask {goal : Goal k} {answer : Answer k} (answered : Answers body goal answer)
    (course : Relation.ReflTransGen (Final body) ⟨k, goal⟩ task) :
    Concludes body (ask goal) answer task :=
  ⟨⟨k, goal⟩, ⟨_, answer, .refl, answered, rfl⟩, course⟩

theorem arises_ask {goal : Goal k} (course : Relation.ReflTransGen (Begets body) ⟨k, goal⟩ task) :
    Arises body (ask goal) task :=
  ⟨⟨k, goal⟩, ⟨_, .refl⟩, course⟩

end Lox.Routine
