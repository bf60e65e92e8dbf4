import Lox.Routine.Meaning

/-!
# How many moves a run takes

The loop makes one move to take up a goal, one to come back with its answer, and one to hand a goal
over. Whether a run comes to its end within a number of moves is therefore a sum over the goals that
it asks for, and is computed here along the structure of a routine or a job.

What a job delivers is said by a condition on the moves, the outcome and the state left; the rules
for the ways to build jobs transform such conditions backwards.

## Main definitions

* `Routine.Settles`: the treatment of a goal ends with an answer after exactly so many moves.
* `Routine.Takes`: a routine ends with a result after exactly so many moves.
* `Job.Delivers`, `Job.Settled`: a job, or a request, ends with moves, outcome and state that meet a
  condition.

## Main results

* `Job.Delivers.run_eq`: a job that takes fewer moves than are granted has its outcome.
-/

namespace Lox.Routine

variable {κ : Type} {Goal Answer : κ → Type} {α β : Type} {k : κ}

variable (body : (k : κ) → Goal k → Routine Goal Answer (Reply Goal Answer k))

/-- Once taken up, a goal is answered after `m` moves, whatever waits for its answer. -/
def Settles (goal : Goal k) (m : Nat) (answer : Answer k) : Prop :=
  ∀ (α : Type) (waiting : Stack Goal Answer α k) (moves : Nat),
    advance body (m + moves) (.inner (body k goal) waiting) =
      advance body moves (.inner (done (.answer answer)) waiting)

/-- A routine ends with a result after `n` moves: two for each goal that it asks for, and those that
settle the goal. -/
def Takes : Routine Goal Answer α → Nat → α → Prop
  | done a, n, b => n = 0 ∧ a = b
  | call goal next, n, b =>
    ∃ m answer n', Settles body goal m answer ∧ Takes (next answer) n' b ∧ n = m + n' + 2

variable {body}

theorem takes_done (a : α) : Takes body (done a) 0 a := ⟨rfl, rfl⟩

theorem Takes.bind {r : Routine Goal Answer α} {f : α → Routine Goal Answer β} {n m : Nat} {a : α}
    {b : β} (first : Takes body r n a) (second : Takes body (f a) m b) :
    Takes body (r.bind f) (n + m) b := by
  induction r generalizing n with
  | done a' =>
    obtain ⟨rfl, rfl⟩ := first
    rw [Nat.zero_add]
    exact second
  | call goal next ih =>
    obtain ⟨l, answer, n', settled, rest, rfl⟩ := first
    exact ⟨l, answer, n' + m, settled, ih answer rest, by omega⟩

/-- The loop makes exactly these moves inside other routines. -/
theorem Takes.advance_inner {r : Routine Goal Answer (Reply Goal Answer k)} {n : Nat}
    {reply : Reply Goal Answer k} (taken : Takes body r n reply)
    (waiting : Stack Goal Answer α k) (moves : Nat) :
    advance body (n + moves) (.inner r waiting) =
      advance body moves (.inner (done reply) waiting) := by
  induction r generalizing n with
  | done =>
    obtain ⟨rfl, rfl⟩ := taken
    rw [Nat.zero_add]
  | call goal next ih =>
    obtain ⟨m, answer, n', settled, rest, rfl⟩ := taken
    rw [show m + n' + 2 + moves = (m + ((n' + moves) + 1)) + 1 by omega, advance,
      settled _ (.push next waiting), advance, ih answer rest]

theorem Takes.advance_outer {r : Routine Goal Answer α} {n : Nat} {a : α}
    (taken : Takes body r n a) (moves : Nat) :
    advance body (n + moves) (.outer r) = advance body moves (.outer (done a)) := by
  induction r generalizing n with
  | done =>
    obtain ⟨rfl, rfl⟩ := taken
    rw [Nat.zero_add]
  | call goal next ih =>
    obtain ⟨m, answer, n', settled, rest, rfl⟩ := taken
    rw [show m + n' + 2 + moves = (m + ((n' + moves) + 1)) + 1 by omega, advance,
      settled _ (.last next), advance, ih answer rest]

theorem Settles.of_answer {goal : Goal k} {n : Nat} {answer : Answer k}
    (taken : Takes body (body k goal) n (.answer answer)) : Settles body goal n answer :=
  fun _ waiting moves => taken.advance_inner waiting moves

/-- Handing a goal over takes one more move. -/
theorem Settles.of_become {goal goal' : Goal k} {n m : Nat} {answer : Answer k}
    (taken : Takes body (body k goal) n (.become goal')) (settled : Settles body goal' m answer) :
    Settles body goal (n + m + 1) answer := by
  intro α waiting moves
  rw [show n + m + 1 + moves = n + ((m + moves) + 1) by omega, taken.advance_inner, advance,
    settled]

/-- A routine has its result within a greater number of moves. -/
theorem Takes.run_eq {r : Routine Goal Answer α} {n moves : Nat} {a : α}
    (taken : Takes body r n a) (enough : n < moves) : run body moves r = some a := by
  obtain ⟨rest, rfl⟩ : ∃ rest, moves = n + (rest + 1) := ⟨moves - n - 1, by omega⟩
  rw [run_eq_some_iff, taken.advance_outer, advance]

end Lox.Routine

namespace Lox.Job

variable {κ : Type} {σ ε : Type} {Request Result : κ → Type} {α β : Type} {k : κ}

variable (step : (k : κ) → Request k → Job σ ε Request Result (Step Request Result k))

/-- A job comes to an end, and the moves it takes, its outcome and the state it leaves meet a
condition. -/
def Delivers (job : Job σ ε Request Result α) (state : σ) (post : Nat → Except ε α → σ → Prop) :
    Prop :=
  ∃ n outcome left, Routine.Takes (body step) (job state) n (outcome, left) ∧ post n outcome left

/-- A request comes to an end, and the moves it takes once taken up, its outcome and the state it
leaves meet a condition. -/
def Settled (request : Request k) (state : σ)
    (post : Nat → Except ε (Result k) → σ → Prop) : Prop :=
  ∃ n outcome left, Routine.Settles (body step) (request, state) n (outcome, left) ∧
    post n outcome left

variable {step}

theorem Delivers.mono {job : Job σ ε Request Result α} {state : σ}
    {post post' : Nat → Except ε α → σ → Prop} (h : Delivers step job state post)
    (le : ∀ n outcome left, post n outcome left → post' n outcome left) :
    Delivers step job state post' := by
  obtain ⟨n, outcome, left, taken, met⟩ := h
  exact ⟨n, outcome, left, taken, le n outcome left met⟩

theorem Settled.mono {request : Request k} {state : σ}
    {post post' : Nat → Except ε (Result k) → σ → Prop} (h : Settled step request state post)
    (le : ∀ n outcome left, post n outcome left → post' n outcome left) :
    Settled step request state post' := by
  obtain ⟨n, outcome, left, settled, met⟩ := h
  exact ⟨n, outcome, left, settled, le n outcome left met⟩

/-! ### Rules for jobs -/

section Rules

variable {state : σ} {post : Nat → Except ε α → σ → Prop}

theorem Delivers.pure {a : α} (h : post 0 (.ok a) state) :
    Delivers step (pure a : Job σ ε Request Result α) state post :=
  ⟨0, _, _, Routine.takes_done _, h⟩

theorem Delivers.throw {e : ε} (h : post 0 (.error e) state) :
    Delivers step (throw e : Job σ ε Request Result α) state post :=
  ⟨0, _, _, Routine.takes_done _, h⟩

theorem Delivers.get {post : Nat → Except ε σ → σ → Prop} (h : post 0 (.ok state) state) :
    Delivers step (get : Job σ ε Request Result σ) state post :=
  ⟨0, _, _, Routine.takes_done _, h⟩

theorem Delivers.modify {f : σ → σ} {post : Nat → Except ε PUnit → σ → Prop}
    (h : post 0 (.ok ⟨⟩) (f state)) :
    Delivers step (modify f : Job σ ε Request Result PUnit) state post :=
  ⟨0, _, _, Routine.takes_done _, h⟩

theorem Delivers.modifyGet {f : σ → α × σ} (h : post 0 (.ok (f state).1) (f state).2) :
    Delivers step (modifyGet f : Job σ ε Request Result α) state post :=
  ⟨0, _, _, Routine.takes_done _, h⟩

/-- What is left to do after the first of two jobs. -/
theorem Delivers.bind {job : Job σ ε Request Result β} {next : β → Job σ ε Request Result α}
    (h : Delivers step job state fun n outcome left =>
      match outcome with
      | .ok b => Delivers step (next b) left fun m => post (n + m)
      | .error e => post n (.error e) left) :
    Delivers step (job >>= next) state post := by
  obtain ⟨n, outcome, left, taken, rest⟩ := h
  cases outcome with
  | ok b =>
    obtain ⟨m, outcome, left', taken', met⟩ := rest
    exact ⟨n + m, outcome, left', taken.bind taken', met⟩
  | error e => exact ⟨n + 0, .error e, left, taken.bind (Routine.takes_done _), rest⟩

theorem Delivers.map {job : Job σ ε Request Result β} {f : β → α}
    (h : Delivers step job state fun n outcome left => post n (outcome.map f) left) :
    Delivers step (f <$> job) state post := by
  rw [show f <$> job = job >>= fun b => Pure.pure (f b) from rfl]
  refine .bind (h.mono ?_)
  rintro n (e | b) left met
  · exact met
  · exact .pure met

theorem Delivers.tryCatch {job : Job σ ε Request Result α}
    {handler : ε → Job σ ε Request Result α}
    (h : Delivers step job state fun n outcome left =>
      match outcome with
      | .ok a => post n (.ok a) left
      | .error e => Delivers step (handler e) left fun m => post (n + m)) :
    Delivers step (tryCatch job handler) state post := by
  obtain ⟨n, outcome, left, taken, rest⟩ := h
  cases outcome with
  | ok a => exact ⟨n + 0, .ok a, left, taken.bind (Routine.takes_done _), rest⟩
  | error e =>
    obtain ⟨m, outcome, left', taken', met⟩ := rest
    exact ⟨n + m, outcome, left', taken.bind taken', met⟩

/-- Making a request takes two moves besides those that settle it. -/
theorem Delivers.ask {request : Request k} {post : Nat → Except ε (Result k) → σ → Prop}
    (h : Settled step request state fun n => post (n + 2)) :
    Delivers step (ask request : Job σ ε Request Result (Result k)) state post := by
  obtain ⟨n, outcome, left, settled, met⟩ := h
  exact ⟨n + 2, outcome, left, ⟨n, _, 0, settled, Routine.takes_done _, rfl⟩, met⟩

end Rules

/-- A request is settled as its treatment says. -/
theorem Settled.intro {request : Request k} {state : σ}
    {post : Nat → Except ε (Result k) → σ → Prop}
    (h : Delivers step (step k request) state fun n outcome left =>
      match outcome with
      | .ok (.finished result) => post n (.ok result) left
      | .ok (.handOver request) => Settled step request left fun m => post (n + m + 1)
      | .error e => post n (.error e) left) : Settled step request state post := by
  obtain ⟨n, outcome, left, taken, rest⟩ := h
  cases outcome with
  | error e =>
    exact ⟨n + 0, .error e, left, .of_answer (taken.bind (Routine.takes_done _)), rest⟩
  | ok ending =>
    cases ending with
    | finished result =>
      exact ⟨n + 0, .ok result, left, .of_answer (taken.bind (Routine.takes_done _)), rest⟩
    | handOver request' =>
      obtain ⟨m, outcome, left', settled, met⟩ := rest
      exact ⟨n + 0 + m + 1, outcome, left',
        .of_become (taken.bind (Routine.takes_done _)) settled, met⟩

/-- A job has its outcome within a greater number of moves. -/
theorem Delivers.run_eq {job : Job σ ε Request Result α} {state : σ} {moves : Nat}
    {post : Nat → Except ε α → σ → Prop} (h : Delivers step job state post)
    (enough : ∀ n outcome left, post n outcome left → n < moves) :
    ∃ n outcome left, run step moves job state = some (outcome, left) ∧ post n outcome left := by
  obtain ⟨n, outcome, left, taken, met⟩ := h
  exact ⟨n, outcome, left, taken.run_eq (enough n outcome left met), met⟩

/-- A job has its outcome within some number of moves. -/
theorem Delivers.exists_run {job : Job σ ε Request Result α} {state : σ}
    {post : Nat → Except ε α → σ → Prop} (h : Delivers step job state post) :
    ∃ moves n outcome left, run step moves job state = some (outcome, left) ∧
      post n outcome left := by
  obtain ⟨n, outcome, left, taken, met⟩ := h
  exact ⟨n + 1, n, outcome, left, taken.run_eq (Nat.lt_succ_self n), met⟩

/-- The outcome of a job does not depend on the moves that are granted. -/
theorem run_unique {job : Job σ ε Request Result α} {state : σ} {moves moves' : Nat}
    {found found' : Except ε α × σ} (h : run step moves job state = some found)
    (h' : run step moves' job state = some found') : found = found' := by
  have more := run_mono step (Nat.le_max_left moves moves') h
  have more' := run_mono step (Nat.le_max_right moves moves') h'
  exact Option.some.inj (more.symm.trans more')

end Lox.Job
