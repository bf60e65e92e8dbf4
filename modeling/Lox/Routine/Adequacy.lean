import Lox.Routine.Basic

/-!
# The loop computes what the recursion says

The two readings of a routine agree. A run of the loop ends with a result exactly if, for some bound
on the nesting of goals, the recursive reading has that result; and neither a greater bound nor more
moves change a result.

## Main results

* `Routine.denote_bind`: the recursive reading of routines in sequence.
* `Routine.solve_mono`, `Routine.run_mono`: greater bounds keep results.
* `Routine.exists_run_iff`: the loop and the recursion have the same results.
-/

namespace Lox.Routine

variable {κ : Type} {Goal Answer : κ → Type} {α β : Type} {k : κ}

/-! ### Routines form a monad -/

@[simp] theorem bind_eq (r : Routine Goal Answer α) (f : α → Routine Goal Answer β) :
    r >>= f = r.bind f := rfl

@[simp] theorem pure_eq (a : α) : (pure a : Routine Goal Answer α) = done a := rfl

@[simp] theorem done_bind (a : α) (f : α → Routine Goal Answer β) : (done a).bind f = f a := rfl

@[simp] theorem bind_done (r : Routine Goal Answer α) : r.bind done = r := by
  induction r with
  | done => rfl
  | call goal next ih => simp only [bind, ih]

theorem bind_bind {γ : Type} (r : Routine Goal Answer α) (f : α → Routine Goal Answer β)
    (g : β → Routine Goal Answer γ) : (r.bind f).bind g = r.bind fun a => (f a).bind g := by
  induction r with
  | done => rfl
  | call goal next ih => simp only [bind, ih]

instance : LawfulMonad (Routine Goal Answer) :=
  LawfulMonad.mk' _ (fun r => bind_done r) (fun _ _ => rfl) bind_bind

/-! ### The recursive reading -/

section Denote

variable (answer? : (k : κ) → Goal k → Option (Answer k))

@[simp] theorem denote_done (a : α) :
    (done a : Routine Goal Answer α).denote answer? = some a := rfl

@[simp] theorem denote_call (goal : Goal k) (next : Answer k → Routine Goal Answer α) :
    (call goal next).denote answer? =
      (answer? k goal).bind fun answer => (next answer).denote answer? := rfl

@[simp] theorem denote_ask (goal : Goal k) :
    (ask goal : Routine Goal Answer (Answer k)).denote answer? = answer? k goal := by
  simp [ask]

@[simp] theorem denote_bind (r : Routine Goal Answer α) (f : α → Routine Goal Answer β) :
    (r.bind f).denote answer? = (r.denote answer?).bind fun a => (f a).denote answer? := by
  induction r with
  | done => rfl
  | call goal next ih =>
    simp only [bind, denote_call, ih, Option.bind_assoc]

end Denote

/-- More answers keep the result of a routine. -/
theorem denote_mono {answer? answer?' : (k : κ) → Goal k → Option (Answer k)}
    (h : ∀ k goal a, answer? k goal = some a → answer?' k goal = some a)
    {r : Routine Goal Answer α} {a : α} (result : r.denote answer? = some a) :
    r.denote answer?' = some a := by
  induction r with
  | done => exact result
  | call goal next ih =>
    obtain ⟨b, answered, rest⟩ := Option.bind_eq_some_iff.1 result
    exact Option.bind_eq_some_iff.2 ⟨b, h _ _ _ answered, ih b rest⟩

variable (body : (k : κ) → Goal k → Routine Goal Answer (Reply Goal Answer k))

/-- The answer that a reply stands for, if goals nest at most `n` deep. -/
def settle (n : Nat) : Reply Goal Answer k → Option (Answer k)
  | .answer result => some result
  | .become goal => Routine.solve body n k goal

theorem solve_succ (n : Nat) (goal : Goal k) :
    solve body (n + 1) k goal =
      ((body k goal).denote (solve body n)).bind (settle body n) := by
  rw [solve]
  congr 1

/-- A greater bound keeps the answer to a goal. -/
theorem solve_mono {n m : Nat} (h : n ≤ m) {k : κ} {goal : Goal k} {a : Answer k}
    (answered : solve body n k goal = some a) : solve body m k goal = some a := by
  induction n generalizing m k with
  | zero => simp [solve] at answered
  | succ n ih =>
    obtain ⟨m, rfl⟩ : ∃ m', m = m' + 1 := ⟨m - 1, by omega⟩
    have h : n ≤ m := by omega
    rw [solve_succ] at answered ⊢
    obtain ⟨reply, isReply, result⟩ := Option.bind_eq_some_iff.1 answered
    have keeps (k : κ) (goal : Goal k) (a : Answer k) (answered : solve body n k goal = some a) :
        solve body m k goal = some a := ih h answered
    refine Option.bind_eq_some_iff.2 ⟨reply, denote_mono keeps isReply, ?_⟩
    cases reply with
    | answer => exact result
    | become goal => exact ih h result

theorem denote_solve_mono {n m : Nat} (h : n ≤ m) {r : Routine Goal Answer α} {a : α}
    (result : r.denote (solve body n) = some a) : r.denote (solve body m) = some a := by
  have keeps (k : κ) (goal : Goal k) (a : Answer k) (answered : solve body n k goal = some a) :
      solve body m k goal = some a := solve_mono body h answered
  exact denote_mono keeps result

/-! ### From the recursion to the loop -/

/-- A routine inside others is carried to its end by some number of moves. -/
theorem exists_advance_inner {n : Nat}
    (ih : ∀ (k : κ) (goal : Goal k) (a : Answer k), solve body n k goal = some a →
      ∀ waiting : Stack Goal Answer α k, ∃ m, ∀ moves,
        advance body (m + moves) (.inner (body k goal) waiting) =
          advance body moves (.inner (done (.answer a)) waiting))
    {r : Routine Goal Answer (Reply Goal Answer k)} {reply : Reply Goal Answer k}
    (result : r.denote (solve body n) = some reply) (waiting : Stack Goal Answer α k) :
    ∃ m, ∀ moves, advance body (m + moves) (.inner r waiting) =
      advance body moves (.inner (done reply) waiting) := by
  induction r with
  | done a =>
    cases result
    exact ⟨0, fun moves => by rw [Nat.zero_add]⟩
  | call goal next ihNext =>
    obtain ⟨b, answered, rest⟩ := Option.bind_eq_some_iff.1 result
    obtain ⟨m₁, h₁⟩ := ih _ goal b answered (.push next waiting)
    obtain ⟨m₂, h₂⟩ := ihNext b rest
    refine ⟨1 + m₁ + 1 + m₂, fun moves => ?_⟩
    rw [show 1 + m₁ + 1 + m₂ + moves = (m₁ + ((m₂ + moves) + 1)) + 1 by omega, advance, h₁,
      advance, h₂]

/-- The body of a goal with an answer is carried to this answer by some number of moves. -/
theorem exists_advance_body {n : Nat} {k : κ} {goal : Goal k} {a : Answer k}
    (answered : solve body n k goal = some a) (waiting : Stack Goal Answer α k) :
    ∃ m, ∀ moves, advance body (m + moves) (.inner (body k goal) waiting) =
      advance body moves (.inner (done (.answer a)) waiting) := by
  induction n generalizing k with
  | zero => simp [solve] at answered
  | succ n ih =>
    rw [solve_succ] at answered
    obtain ⟨reply, isReply, result⟩ := Option.bind_eq_some_iff.1 answered
    obtain ⟨m₁, h₁⟩ := exists_advance_inner body (fun _ _ _ answered => ih answered) isReply waiting
    cases reply with
    | answer b =>
      cases result
      exact ⟨m₁, h₁⟩
    | become goal =>
      obtain ⟨m₂, h₂⟩ := ih result waiting
      refine ⟨m₁ + 1 + m₂, fun moves => ?_⟩
      rw [show m₁ + 1 + m₂ + moves = m₁ + ((m₂ + moves) + 1) by omega, h₁, advance, h₂]

theorem exists_advance_outer {n : Nat} {r : Routine Goal Answer α} {a : α}
    (result : r.denote (solve body n) = some a) :
    ∃ m, advance body m (.outer r) = .ok a := by
  suffices ∃ m, ∀ moves, advance body (m + (moves + 1)) (.outer r) = .ok a by
    obtain ⟨m, h⟩ := this
    exact ⟨m + 1, h 0⟩
  induction r with
  | done b =>
    cases result
    exact ⟨0, fun moves => by rw [Nat.zero_add, advance]⟩
  | call goal next ih =>
    obtain ⟨b, answered, rest⟩ := Option.bind_eq_some_iff.1 result
    obtain ⟨m₁, h₁⟩ := exists_advance_body body answered (.last next)
    obtain ⟨m₂, h₂⟩ := ih b rest
    refine ⟨1 + m₁ + 1 + m₂, fun moves => ?_⟩
    rw [show 1 + m₁ + 1 + m₂ + (moves + 1) = (m₁ + ((m₂ + (moves + 1)) + 1)) + 1 by omega,
      advance, h₁, advance, h₂]

/-! ### From the loop to the recursion -/

/-- The result that the waiting routines make of an answer. -/
def Stack.denote (n : Nat) : {k : κ} → Stack Goal Answer α k → Answer k → Option α
  | _, .last next, a => (next a).denote (Routine.solve body n)
  | _, .push next rest, a =>
    (((next a).denote (Routine.solve body n)).bind (settle body n)).bind (rest.denote n)

/-- The result of a run from a moment on, if goals nest at most `n` deep. -/
def Config.denote (n : Nat) : Config Goal Answer α → Option α
  | .outer active => active.denote (Routine.solve body n)
  | .inner active waiting =>
    ((active.denote (Routine.solve body n)).bind (settle body n)).bind
      (waiting.denote body n)

theorem settle_mono {n m : Nat} (h : n ≤ m) {reply : Reply Goal Answer k} {a : Answer k}
    (result : settle body n reply = some a) : settle body m reply = some a := by
  cases reply with
  | answer => exact result
  | become goal => exact Routine.solve_mono body h result

theorem Stack.denote_mono {n m : Nat} (h : n ≤ m) {k : κ} {waiting : Stack Goal Answer α k}
    {a : Answer k} {result : α} (found : waiting.denote body n a = some result) :
    waiting.denote body m a = some result := by
  induction waiting with
  | last next => exact denote_solve_mono body h found
  | push next rest ih =>
    obtain ⟨b, middle, last⟩ := Option.bind_eq_some_iff.1 found
    obtain ⟨reply, first, second⟩ := Option.bind_eq_some_iff.1 middle
    exact Option.bind_eq_some_iff.2 ⟨b, Option.bind_eq_some_iff.2
      ⟨reply, denote_solve_mono body h first, settle_mono body h second⟩, ih last⟩

/-- What the loop finds, the recursion finds with a bound on the nesting. -/
theorem exists_denote_of_advance {moves : Nat} {moment : Config Goal Answer α} {a : α}
    (found : advance body moves moment = .ok a) : ∃ n, moment.denote body n = some a := by
  induction moves generalizing moment with
  | zero => simp [advance] at found
  | succ moves ih =>
    match moment with
    | .outer (done b) =>
      cases found
      exact ⟨0, rfl⟩
    | .outer (call goal next) =>
      obtain ⟨n, h⟩ := ih found
      obtain ⟨b, answered, rest⟩ := Option.bind_eq_some_iff.1 h
      refine ⟨n + 1, Option.bind_eq_some_iff.2 ⟨b, ?_, ?_⟩⟩
      · rw [solve_succ]
        exact answered
      · exact denote_solve_mono body (Nat.le_succ n) rest
    | .inner (call goal next) waiting =>
      obtain ⟨n, h⟩ := ih found
      obtain ⟨b, answered, rest⟩ := Option.bind_eq_some_iff.1 h
      have solved : solve body (n + 1) _ goal = some b := by
        rw [solve_succ]
        exact answered
      refine ⟨n + 1, ?_⟩
      have rest := Stack.denote_mono body (Nat.le_succ n) rest
      simp only [Config.denote, denote_call, solved, Option.bind_some]
      exact rest
    | .inner (done (.become goal)) waiting =>
      obtain ⟨n, h⟩ := ih found
      obtain ⟨b, answered, rest⟩ := Option.bind_eq_some_iff.1 h
      refine ⟨n + 1, Option.bind_eq_some_iff.2 ⟨b, ?_, ?_⟩⟩
      · change solve body (n + 1) _ goal = some b
        rw [solve_succ]
        exact answered
      · exact Stack.denote_mono body (Nat.le_succ n) rest
    | .inner (done (.answer b)) (.push next rest) =>
      obtain ⟨n, h⟩ : ∃ n, (Config.inner (next b) rest).denote body n = some a := ih found
      exact ⟨n, h⟩
    | .inner (done (.answer b)) (.last next) =>
      obtain ⟨n, h⟩ : ∃ n, (Config.outer (next b)).denote body n = some a := ih found
      exact ⟨n, h⟩

/-! ### Both -/

theorem run_eq_some_iff {moves : Nat} {r : Routine Goal Answer α} {a : α} :
    run body moves r = some a ↔ advance body moves (.outer r) = .ok a := by
  unfold run
  cases advance body moves (.outer r) <;> simp [Except.toOption]

/-- The loop ends with a result, after enough moves, exactly if the recursion has this result for a
large enough bound. -/
theorem exists_run_iff {r : Routine Goal Answer α} {a : α} :
    (∃ moves, run body moves r = some a) ↔ ∃ n, r.denote (solve body n) = some a := by
  constructor
  · rintro ⟨moves, h⟩
    exact exists_denote_of_advance body ((run_eq_some_iff body).1 h)
  · rintro ⟨n, h⟩
    obtain ⟨m, found⟩ := exists_advance_outer body h
    exact ⟨m, (run_eq_some_iff body).2 found⟩

/-- More moves keep a result. -/
theorem advance_mono {moves moves' : Nat} (h : moves ≤ moves') {moment : Config Goal Answer α}
    {a : α} (found : advance body moves moment = .ok a) : advance body moves' moment = .ok a := by
  induction moves generalizing moves' moment with
  | zero => simp [advance] at found
  | succ moves ih =>
    obtain ⟨moves', rfl⟩ : ∃ m, moves' = m + 1 := ⟨moves' - 1, by omega⟩
    have h : moves ≤ moves' := by omega
    match moment with
    | .outer (done b) => exact found
    | .outer (call goal next) => exact ih h found
    | .inner (call goal next) waiting => exact ih h found
    | .inner (done (.become goal)) waiting => exact ih h found
    | .inner (done (.answer b)) (.push next rest) => exact ih h found
    | .inner (done (.answer b)) (.last next) => exact ih h found

theorem run_mono {moves moves' : Nat} (h : moves ≤ moves') {r : Routine Goal Answer α} {a : α}
    (found : run body moves r = some a) : run body moves' r = some a :=
  (run_eq_some_iff body).2 (advance_mono body h ((run_eq_some_iff body).1 found))

end Lox.Routine
