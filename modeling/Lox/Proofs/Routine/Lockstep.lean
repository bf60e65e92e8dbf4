import Lox.Proofs.Routine.Course
import Lox.Routine.Meaning

/-!
# Two readings of goals in lockstep

The same goals can be treated in two ways. If the two treatments of related goals ask for related
goals at the same places, and make related results of related answers, then related goals have
related answers. The relations may depend on a *world*, which says how the two states fit together
and which changes as both go on. The first treatment may also come to a *halt*: a failure that has
no counterpart, and that every routine passes on.

## Main definitions

* `Coupling`: the relations between goals and between answers, and what counts as a halt.
* `Routine.Agree`: two routines in lockstep; `Job.Agree`: two jobs in lockstep.
* `Coupling.Agrees`: the treatments of related goals are in lockstep.

## Main results

* `Coupling.Agrees.answers`: related goals have related answers, unless the first halts.
* `Coupling.Agrees.arises`: every goal that comes up has a related counterpart, and a halt of its
  treatment is one of the whole run.
* `Job.agrees_of_agree`: treatments in lockstep as jobs are so as bodies.
-/

namespace Lox

/-- Relations between the goals of two treatments, and between the answers to related goals. -/
structure Coupling {κ : Type} (ω : Type) (Goal Answer : κ → Type) where
  Pre : {k : κ} → ω → Goal k → Goal k → Prop
  Post : {k : κ} → ω → Goal k → Goal k → Answer k → Answer k → Prop
  /-- The answers of the first treatment that have no counterpart. -/
  Halt : {k : κ} → ω → Goal k → Goal k → Answer k → Prop

namespace Routine

variable {κ ω : Type} {Goal Answer : κ → Type} {α β α' β' : Type} {k : κ}

section Agree

variable (body : (k : κ) → Goal k → Routine Goal Answer (Reply Goal Answer k))
  (C : Coupling ω Goal Answer) (R : Task Goal → Prop)

/-- Two routines in lockstep. The first asks for goals of which `R` holds; it ends with results of
which `E` holds, if it really comes to them. A halt has the property `H`, and the results of both
are related by `Q`. -/
inductive Agree (E H : α → Prop) (Q : α → β → Prop) :
    Routine Goal Answer α → Routine Goal Answer β → Prop
  | halt {a : α} {r : Routine Goal Answer β} (halted : H a) : Agree E H Q (done a) r
  | done {a : α} {b : β} (related : E a → Q a b) : Agree E H Q (done a) (done b)
  | call {k : κ} {goal goal' : Goal k} {next : Answer k → Routine Goal Answer α}
      {next' : Answer k → Routine Goal Answer β} (w : ω)
      (related : R ⟨k, goal⟩ → C.Pre w goal goal')
      (halts : R ⟨k, goal⟩ → ∀ a, C.Halt w goal goal' a → ∃ x, next a = .done x ∧ H x)
      (rest : ∀ a a', Answers body goal a → C.Post w goal goal' a a' →
        Agree E H Q (next a) (next' a')) :
      Agree E H Q (.call goal next) (.call goal' next')

end Agree

variable {body body' : (k : κ) → Goal k → Routine Goal Answer (Reply Goal Answer k)}
  {C : Coupling ω Goal Answer} {R : Task Goal → Prop}

theorem Agree.mono {E H E' H' : α → Prop} {Q Q' : α → β → Prop} {r : Routine Goal Answer α}
    {r' : Routine Goal Answer β} (h : Agree body C R E H Q r r') (hE : ∀ a, E' a → E a)
    (hH : ∀ a, H a → H' a) (hQ : ∀ a b, E' a → Q a b → Q' a b) :
    Agree body C R E' H' Q' r r' := by
  induction h with
  | halt halted => exact .halt (hH _ halted)
  | done related => exact .done fun real => hQ _ _ real (related (hE _ real))
  | call w related halts rest ih =>
    refine .call w related (fun real a halted => ?_) ih
    obtain ⟨x, ended, hx⟩ := halts real a halted
    exact ⟨x, ended, hH x hx⟩

/-- Routines in sequence are in lockstep if the first ones are, and the second ones for all related
results. -/
theorem Agree.bind {H : α → Prop} {Q : α → β → Prop} {E' H' : α' → Prop} {Q' : α' → β' → Prop}
    {r : Routine Goal Answer α} {r' : Routine Goal Answer β}
    {f : α → Routine Goal Answer α'} {f' : β → Routine Goal Answer β'}
    (h : Agree body C R (fun _ => True) H Q r r')
    (hH : ∀ a, H a → ∃ x, f a = Routine.done x ∧ H' x)
    (hQ : ∀ a b, Q a b → Agree body C R E' H' Q' (f a) (f' b)) :
    Agree body C R E' H' Q' (r.bind f) (r'.bind f') := by
  induction h with
  | halt halted =>
    obtain ⟨x, ended, hx⟩ := hH _ halted
    rw [done_bind, ended]
    exact .halt hx
  | done related => exact hQ _ _ (related trivial)
  | call w related halts rest ih =>
    refine .call w related (fun real a halted => ?_) ih
    obtain ⟨x, ended, hx⟩ := halts real a halted
    obtain ⟨y, ended', hy⟩ := hH x hx
    exact ⟨y, by rw [ended, done_bind, ended'], hy⟩

end Routine

namespace Coupling

variable {κ ω : Type} {Goal Answer : κ → Type} {k : κ}
  (body body' : (k : κ) → Goal k → Routine Goal Answer (Reply Goal Answer k))
  (C : Coupling ω Goal Answer)

/-- Related ends of the treatments of two goals: answers, or other goals whose answers will do. -/
inductive Replies (w : ω) (goal goal' : Goal k) :
    Reply Goal Answer k → Reply Goal Answer k → Prop
  | answer {a a' : Answer k} (related : C.Post w goal goal' a a') :
      Replies w goal goal' (.answer a) (.answer a')
  | become {next next' : Goal k} (w' : ω) (related : C.Pre w' next next')
      (answers : ∀ a a', C.Post w' next next' a a' → C.Post w goal goal' a a')
      (halts : ∀ a, C.Halt w' next next' a → C.Halt w goal goal' a) :
      Replies w goal goal' (.become next) (.become next')

/-- The treatment of a goal ends with a halt. -/
def HaltsWith (w : ω) (goal goal' : Goal k) : Reply Goal Answer k → Prop
  | .answer a => C.Halt w goal goal' a
  | .become _ => False

/-- The treatments of related goals are in lockstep. -/
def Agrees : Prop :=
  ∀ (k : κ) (w : ω) (goal goal' : Goal k), C.Pre w goal goal' →
    Routine.Agree body C (Routine.Requests body (body k goal))
      (fun reply => Routine.Rest body (body k goal) (.done reply))
      (C.HaltsWith w goal goal') (C.Replies w goal goal') (body k goal) (body' k goal')

variable {body body' C}

open Routine in
/-- Routines in lockstep end with related results, unless the first halts. -/
theorem result_of_agree {α β : Type} {E H : α → Prop} {Q : α → β → Prop}
    {whole r : Routine Goal Answer α} {r' : Routine Goal Answer β} {n : Nat}
    (ih : ∀ (k : κ) (w : ω) (goal goal' : Goal k) (a : Answer k), C.Pre w goal goal' →
      solve body n k goal = some a →
        C.Halt w goal goal' a ∨ ∃ a', Answers body' goal' a' ∧ C.Post w goal goal' a a')
    (hE : ∀ a, Rest body whole (done a) → E a)
    (h : Agree body C (Requests body whole) E H Q r r') (rest : Rest body whole r) {a : α}
    (result : r.denote (solve body n) = some a) :
    H a ∨ ∃ b, (∃ m, r'.denote (solve body' m) = some b) ∧ Q a b := by
  induction h with
  | halt halted =>
    cases result
    exact .inl halted
  | @done a b related =>
    cases result
    exact .inr ⟨b, ⟨0, rfl⟩, related (hE _ rest)⟩
  | @call k goal goal' next next' w related halts go ihGo =>
    obtain ⟨answer, answered, result⟩ := Option.bind_eq_some_iff.1 result
    have hPre := related ⟨next, rest⟩
    rcases ih k w goal goal' answer hPre answered with halted | ⟨answer', answered', hPost⟩
    · obtain ⟨x, ended, hx⟩ := halts ⟨next, rest⟩ answer halted
      rw [ended] at result
      cases result
      exact .inl hx
    · have real : Answers body goal answer := ⟨n, answered⟩
      rcases ihGo answer answer' real hPost (.step rest real) result with
        hH | ⟨b, ⟨m, result'⟩, hQ⟩
      · exact .inl hH
      · obtain ⟨l, answered'⟩ := answered'
        refine .inr ⟨b, ⟨max l m, Option.bind_eq_some_iff.2 ⟨answer', ?_, ?_⟩⟩, hQ⟩
        · exact solve_mono body' (Nat.le_max_left l m) answered'
        · exact denote_solve_mono body' (Nat.le_max_right l m) result'

open Routine in
/-- Related goals have related answers, unless the first treatment halts. -/
theorem Agrees.solve (h : C.Agrees body body') {n : Nat} {k : κ} {w : ω} {goal goal' : Goal k}
    {a : Answer k} (related : C.Pre w goal goal') (answered : solve body n k goal = some a) :
    C.Halt w goal goal' a ∨ ∃ a', Answers body' goal' a' ∧ C.Post w goal goal' a a' := by
  induction n generalizing k w with
  | zero => simp [Routine.solve] at answered
  | succ n ih =>
    rw [solve_succ] at answered
    obtain ⟨reply, result, settled⟩ := Option.bind_eq_some_iff.1 answered
    rcases result_of_agree (fun k w goal goal' a => ih) (fun reply real => real)
      (h k w goal goal' related) .refl result with halted | ⟨reply', ⟨m, result'⟩, hReplies⟩
    · cases reply with
      | answer b =>
        cases settled
        exact .inl halted
      | become next => exact halted.elim
    · have rest' := Rest.of_denote result'
      cases hReplies with
      | answer hPost =>
        cases settled
        exact .inr ⟨_, answers_of_rest_answer rest', hPost⟩
      | become w' hPre answers halts =>
        rcases ih hPre settled with halted | ⟨a', answered', hPost⟩
        · exact .inl (halts _ halted)
        · exact .inr ⟨a', answered'.of_become rest', answers _ _ hPost⟩

theorem Agrees.answers (h : C.Agrees body body') {w : ω} {goal goal' : Goal k} {a : Answer k}
    (related : C.Pre w goal goal') (answered : Routine.Answers body goal a) :
    C.Halt w goal goal' a ∨
      ∃ a', Routine.Answers body' goal' a' ∧ C.Post w goal goal' a a' := by
  obtain ⟨n, answered⟩ := answered
  exact h.solve related answered

open Routine in
/-- What is left of a routine is in lockstep with what is left of the other one. -/
theorem Agrees.rest (h : C.Agrees body body') {α β : Type} {R : Task Goal → Prop} {E H : α → Prop}
    {Q : α → β → Prop} {r s : Routine Goal Answer α} {r' : Routine Goal Answer β}
    (hR : ∀ task, Requests body r task → R task) (agree : Agree body C R E H Q r r')
    (left : Rest body r s) :
    (∃ a, s = done a ∧ H a) ∨ ∃ s', Rest body' r' s' ∧ Agree body C R E H Q s s' := by
  induction left with
  | refl => exact .inr ⟨r', .refl, agree⟩
  | @step k goal next answer before answered ih =>
    rcases ih with ⟨a, ended, -⟩ | ⟨s', rest', hs⟩
    · cases ended
    · cases hs with
      | call w related halts go =>
        have hPre := related (hR _ ⟨next, before⟩)
        rcases h.answers hPre answered with halted | ⟨answer', answered', hPost⟩
        · exact .inl (halts (hR _ ⟨next, before⟩) _ halted)
        · exact .inr ⟨_, .step rest' answered', go _ _ answered hPost⟩

open Routine in
/-- A goal that a routine asks for has a counterpart, and a halt of its treatment is one of the
routine. -/
theorem Agrees.requests (h : C.Agrees body body') {α β : Type} {R : Task Goal → Prop}
    {E H : α → Prop} {Q : α → β → Prop} {r : Routine Goal Answer α} {r' : Routine Goal Answer β}
    (hR : ∀ task, Requests body r task → R task) (agree : Agree body C R E H Q r r')
    {task : Task Goal} (requested : Requests body r task) :
    ∃ w goal', C.Pre w task.2 goal' ∧
      ∀ a, Answers body task.2 a → C.Halt w task.2 goal' a →
        ∃ x, Rest body r (done x) ∧ H x := by
  obtain ⟨next, left⟩ := requested
  rcases h.rest hR agree left with ⟨a, ended, -⟩ | ⟨s', -, hs⟩
  · cases ended
  · cases hs with
    | @call _ _ goal' _ _ w related halts go =>
      have real := hR _ ⟨next, left⟩
      refine ⟨w, goal', related real, fun a answered halted => ?_⟩
      obtain ⟨x, ended, hx⟩ := halts real a halted
      exact ⟨x, ended ▸ Rest.step left answered, hx⟩

open Routine in
/-- A goal that comes up in the treatment of one with a counterpart has a counterpart, and a halt of
its treatment is one of the other goal's. -/
theorem Agrees.begets (h : C.Agrees body body') {task task' : Task Goal} {w : ω}
    {goal' : Goal task.1} (related : C.Pre w task.2 goal')
    (begets : Begets body task task') :
    ∃ w' goal'', C.Pre w' task'.2 goal'' ∧
      ∀ a, Answers body task'.2 a → C.Halt w' task'.2 goal'' a →
        ∃ a', Answers body task.2 a' ∧ C.Halt w task.2 goal' a' := by
  have agree := h task.1 w task.2 goal' related
  rcases begets with requested | ⟨next, rest, rfl⟩
  · obtain ⟨w', goal'', related', halts⟩ :=
      h.requests (fun _ requested => requested) agree requested
    refine ⟨w', goal'', related', fun a answered halted => ?_⟩
    obtain ⟨reply, rest, hReply⟩ := halts a answered halted
    cases reply with
    | answer a' => exact ⟨a', answers_of_rest_answer rest, hReply⟩
    | become next => exact hReply.elim
  · rcases h.rest (fun _ requested => requested) agree rest with
      ⟨reply, ended, hReply⟩ | ⟨s', -, hs⟩
    · cases ended
      exact hReply.elim
    · cases hs with
      | halt halted => exact halted.elim
      | done hReplies =>
        cases hReplies rest with
        | become w' related' answers halts =>
          exact ⟨w', _, related', fun a answered halted =>
            ⟨a, answered.of_become rest, halts a halted⟩⟩

open Routine in
/-- Every goal that comes up in a run has a counterpart, and a halt of its treatment is one of the
whole run. -/
theorem Agrees.arises (h : C.Agrees body body') {α β : Type} {R : Task Goal → Prop}
    {E H : α → Prop} {Q : α → β → Prop} {r : Routine Goal Answer α} {r' : Routine Goal Answer β}
    (hR : ∀ task, Requests body r task → R task) (agree : Agree body C R E H Q r r')
    {task : Task Goal} (arises : Arises body r task) :
    ∃ w goal', C.Pre w task.2 goal' ∧
      ∀ a, Answers body task.2 a → C.Halt w task.2 goal' a →
        ∃ x, Rest body r (done x) ∧ H x := by
  obtain ⟨first, requested, course⟩ := arises
  induction course with
  | refl => exact h.requests hR agree requested
  | tail _ begets ih =>
    obtain ⟨w, goal', related, halts⟩ := ih
    obtain ⟨w', goal'', related', passed⟩ := h.begets related begets
    refine ⟨w', goal'', related', fun a answered halted => ?_⟩
    obtain ⟨a', answered', halted'⟩ := passed a answered halted
    exact halts a' answered' halted'

end Coupling

/-! ### Jobs -/

namespace Job

variable {κ ω σ ε : Type} {Request Result : κ → Type} {α β α' β' : Type} {k : κ}

/-- Outcomes with related results, or with one and the same failure. -/
def Related (F : ε → σ → σ → Prop) (Q : α → β → σ → σ → Prop) :
    Except ε α × σ → Except ε β × σ → Prop
  | (.ok a, t), (.ok b, t') => Q a b t t'
  | (.error e, t), (.error e', t') => e = e' ∧ F e t t'
  | _, _ => False

/-- The outcome is a failure with a property. -/
def FailsWith (H : ε → σ → Prop) : Except ε α × σ → Prop
  | (.error e, t) => H e t
  | (.ok _, _) => False

variable (step : (k : κ) → Request k → Job σ ε Request Result (Step Request Result k))
  (C : Coupling ω (Goal σ Request) (Answer σ ε Result)) (R : Routine.Task (Goal σ Request) → Prop)

/-- Two jobs are in lockstep from two states: their results are related by `Q` and their failures by
`F`, unless the first halts with a failure that has the property `H`. -/
def Agree (H : ε → σ → Prop) (F : ε → σ → σ → Prop) (Q : α → β → σ → σ → Prop)
    (job : Job σ ε Request Result α) (job' : Job σ ε Request Result β) (s s' : σ) : Prop :=
  Routine.Agree (body step) C R (fun _ => True) (FailsWith H) (Related F Q) (job s) (job' s')

variable {step C R} {H : ε → σ → Prop} {F : ε → σ → σ → Prop} {s s' : σ}

theorem Agree.pure {Q : α → β → σ → σ → Prop} {a : α} {b : β} (related : Q a b s s') :
    Agree step C R H F Q (Pure.pure a) (Pure.pure b) s s' :=
  Routine.Agree.done fun _ => related

theorem Agree.throw {Q : α → β → σ → σ → Prop} {e : ε} (related : F e s s') :
    Agree step C R H F Q (MonadExcept.throw e) (MonadExcept.throw e) s s' :=
  Routine.Agree.done fun _ => ⟨rfl, related⟩

theorem Agree.modifyGet {Q : α → β → σ → σ → Prop} {f : σ → α × σ} {f' : σ → β × σ}
    (related : Q (f s).1 (f' s').1 (f s).2 (f' s').2) :
    Agree step C R H F Q (MonadState.modifyGet f) (MonadState.modifyGet f') s s' :=
  Routine.Agree.done fun _ => related

theorem Agree.modify {Q : PUnit → PUnit → σ → σ → Prop} {f f' : σ → σ}
    (related : Q ⟨⟩ ⟨⟩ (f s) (f' s')) :
    Agree step C R H F Q (modify f) (modify f') s s' :=
  Routine.Agree.done fun _ => related

theorem Agree.get {Q : σ → σ → σ → σ → Prop} (related : Q s s' s s') :
    Agree step C R H F Q MonadState.get MonadState.get s s' :=
  Routine.Agree.done fun _ => related

/-- One request with related answers. -/
theorem Agree.ask {Q : Result k → Result k → σ → σ → Prop} {request request' : Request k} (w : ω)
    (related : R ⟨k, request, s⟩ → C.Pre w (request, s) (request', s'))
    (halts : R ⟨k, request, s⟩ → ∀ answer, C.Halt w (request, s) (request', s') answer →
      ∃ e t, answer = (.error e, t) ∧ H e t)
    (answers : ∀ answer answer', Routine.Answers (body step) (request, s) answer →
      C.Post w (request, s) (request', s') answer answer' → Related F Q answer answer') :
    Agree step C R H F Q (Job.ask request) (Job.ask request') s s' := by
  refine .call w related (fun real answer halted => ?_) fun answer answer' answered hPost => ?_
  · obtain ⟨e, t, rfl, h⟩ := halts real answer halted
    exact ⟨_, rfl, h⟩
  · exact .done fun _ => answers answer answer' answered hPost

theorem Agree.bind {Q : α → β → σ → σ → Prop} {Q' : α' → β' → σ → σ → Prop}
    {job : Job σ ε Request Result α} {job' : Job σ ε Request Result β}
    {next : α → Job σ ε Request Result α'} {next' : β → Job σ ε Request Result β'}
    (h : Agree step C R H F Q job job' s s')
    (h' : ∀ a b t t', Q a b t t' → Agree step C R H F Q' (next a) (next' b) t t') :
    Agree step C R H F Q' (job >>= next) (job' >>= next') s s' := by
  refine Routine.Agree.bind h ?_ ?_
  · rintro ⟨outcome, t⟩ halted
    cases outcome with
    | ok a => exact halted.elim
    | error e => exact ⟨(.error e, t), rfl, halted⟩
  · rintro ⟨outcome, t⟩ ⟨outcome', t'⟩ related
    cases outcome with
    | ok a =>
      cases outcome' with
      | ok b => exact h' a b t t' related
      | error e' => exact related.elim
    | error e =>
      cases outcome' with
      | ok b => exact related.elim
      | error e' =>
        obtain ⟨rfl, failed⟩ := related
        exact .done fun _ => ⟨rfl, failed⟩

theorem Agree.mono {H' : ε → σ → Prop} {F' : ε → σ → σ → Prop} {Q Q' : α → β → σ → σ → Prop}
    {job : Job σ ε Request Result α} {job' : Job σ ε Request Result β}
    (h : Agree step C R H F Q job job' s s') (hH : ∀ e t, H e t → H' e t)
    (hF : ∀ e t t', F e t t' → F' e t t') (hQ : ∀ a b t t', Q a b t t' → Q' a b t t') :
    Agree step C R H' F' Q' job job' s s' := by
  refine Routine.Agree.mono h (fun _ real => real) ?_ ?_
  · rintro ⟨outcome, t⟩ halted
    cases outcome with
    | ok a => exact halted.elim
    | error e => exact hH e t halted
  · rintro ⟨outcome, t⟩ ⟨outcome', t'⟩ - related
    cases outcome with
    | ok a =>
      cases outcome' with
      | ok b => exact hQ a b t t' related
      | error e' => exact related.elim
    | error e =>
      cases outcome' with
      | ok b => exact related.elim
      | error e' => exact ⟨related.1, hF e t t' related.2⟩

/-- Jobs after which a part of the state is restored. -/
theorem Agree.always {H' : ε → σ → Prop} {F' : ε → σ → σ → Prop} {Q Q' : α → β → σ → σ → Prop}
    {job : Job σ ε Request Result α} {job' : Job σ ε Request Result β} {restore restore' : σ → σ}
    (h : Agree step C R H' F' Q' job job' s s') (hH : ∀ e t, H' e t → H e (restore t))
    (hF : ∀ e t t', F' e t t' → F e (restore t) (restore' t'))
    (hQ : ∀ a b t t', Q' a b t t' → Q a b (restore t) (restore' t')) :
    Agree step C R H F Q (job.always restore) (job'.always restore') s s' := by
  refine Routine.Agree.bind h ?_ ?_
  · rintro ⟨outcome, t⟩ halted
    cases outcome with
    | ok a => exact halted.elim
    | error e => exact ⟨(.error e, restore t), rfl, hH e t halted⟩
  · rintro ⟨outcome, t⟩ ⟨outcome', t'⟩ related
    refine .done fun _ => ?_
    cases outcome with
    | ok a =>
      cases outcome' with
      | ok b => exact hQ a b t t' related
      | error e' => exact related.elim
    | error e =>
      cases outcome' with
      | ok b => exact related.elim
      | error e' => exact ⟨related.1, hF e t t' related.2⟩

/-- The treatments of two requests are over in related ways: with related results, or with requests
to which they are handed over and whose answers will do. -/
def Ends (step : (k : κ) → Request k → Job σ ε Request Result (Step Request Result k))
    (C : Coupling ω (Goal σ Request) (Answer σ ε Result)) (w : ω)
    (goal goal' : Goal σ Request k) :
    Step Request Result k → Step Request Result k → σ → σ → Prop
  | .finished result, .finished result', t, t' =>
    C.Post w goal goal' (.ok result, t) (.ok result', t')
  | .handOver request, .handOver request', t, t' =>
    Routine.Begets (body step) ⟨k, goal⟩ ⟨k, request, t⟩ →
      ∃ w', C.Pre w' (request, t) (request', t') ∧
        (∀ answer answer', C.Post w' (request, t) (request', t') answer answer' →
          C.Post w goal goal' answer answer') ∧
        ∀ answer, C.Halt w' (request, t) (request', t') answer → C.Halt w goal goal' answer
  | _, _, _, _ => False

/-- If the treatments of related requests are in lockstep as jobs, they are so as bodies. -/
theorem agrees_of_agree
    {step step' : (k : κ) → Request k → Job σ ε Request Result (Step Request Result k)}
    {C : Coupling ω (Goal σ Request) (Answer σ ε Result)}
    (h : ∀ (k : κ) (w : ω) (request request' : Request k) (s s' : σ),
      C.Pre w (request, s) (request', s') →
        Agree step C (Routine.Requests (body step) (body step k (request, s)))
          (fun e t => C.Halt w (request, s) (request', s') (.error e, t))
          (fun e t t' => C.Post w (request, s) (request', s') (.error e, t) (.error e, t'))
          (Ends step C w (request, s) (request', s')) (step k request) (step' k request') s s') :
    C.Agrees (body step) (body step') := by
  rintro k w ⟨request, s⟩ ⟨request', s'⟩ hPre
  refine Routine.Agree.bind (h k w request request' s s' hPre) ?_ ?_
  · rintro ⟨outcome, t⟩ halted
    cases outcome with
    | ok a => exact halted.elim
    | error e => exact ⟨.answer (.error e, t), rfl, halted⟩
  · rintro ⟨outcome, t⟩ ⟨outcome', t'⟩ related
    rcases outcome with e | result | next <;> rcases outcome' with e' | result' | next'
    case error.error =>
      obtain ⟨rfl, failed⟩ := related
      exact .done fun _ => .answer failed
    case ok.finished.ok.finished => exact .done fun _ => .answer related
    case ok.handOver.ok.handOver =>
      refine .done fun real => ?_
      obtain ⟨w', hPre', answers, halts⟩ := related (.inr ⟨(next, t), real, rfl⟩)
      exact .become w' hPre' answers halts
    all_goals exact related.elim

end Job

end Lox
