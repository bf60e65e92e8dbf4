import Lox.Proofs.Evaluation.Loop
import Lox.Proofs.Pair.Evaluation
import Lox.Proofs.Pair.Hollow
import Lox.Proofs.Scope.Clauses

/-!
# Loops in blocks and in one scope

One run executes the statement that the clauses of a `for` statement stand for, and another one does
what alike clauses mean. Where the statement has a block around the increment, and where the meaning
has a scope around clauses without an initializer, only one of the runs enters a scope, which then
stays empty. Either both end or neither does, with the same number of rounds, in states that belong
together.

## Main definitions

* `Evaluation.Alongside`: two computations that end in the same way.

## Main results

* `Evaluation.Alongside.inLeft`, `Evaluation.Alongside.inRight`, `Evaluation.Alongside.inBoth`:
  computations in new scopes.
* `ForClauses.alongside_rounds`: the rounds of both loops.
* `ForClauses.alongside_direct`: the statement for the clauses, and what they mean.
-/

namespace Lox

open Scope

namespace Evaluation

variable {c : Pairing} {j j₀ : Pair c} {α β γ δ : Type} {Q : Pair c → α → β → Prop}
  {job job₁ : Eval α} {job' job₁' : Eval β}

/-! ### Ends in the same way -/

/-- Whenever one of two computations ends, so does the other one, with a related outcome. -/
structure Alongside (j : Pair c) (Q : Pair c → α → β → Prop) (job : Eval α) (job' : Eval β) :
    Prop where
  right : Accompanies j Q job job'
  left : ∀ outcome' i', Ends job' j.right outcome' i' → ∃ outcome i, Ends job j.left outcome i

theorem Abreast.alongside (h : Abreast j Q job job') : Alongside j Q job job' where
  right := h.accompanies
  left _ _ ended' := by
    obtain ⟨outcome, i, ended, -⟩ := h.ends_left ended'
    exact ⟨outcome, i, ended⟩

namespace Alongside

theorem pure {a : α} {b : β} (related : Q j a b) :
    Alongside j Q (Pure.pure a) (Pure.pure b) :=
  Abreast.alongside (.pure related)

/-- The outcome with which the first computation ends is related to the one of the second. -/
theorem ends_left (h : Alongside j Q job job') {outcome' : Except Fault β} {i' : Interpreter}
    (ended' : Ends job' j.right outcome' i') : ∃ outcome i, Ends job j.left outcome i ∧
      (company c).Outcome j Q (outcome, i) (outcome', i') := by
  obtain ⟨outcome, i, ended⟩ := h.left _ _ ended'
  obtain ⟨_, _, ended'', outcomes⟩ := h.right _ _ ended
  obtain ⟨rfl, rfl⟩ := ended'.unique ended''
  exact ⟨outcome, i, ended, outcomes⟩

theorem bind {P : Pair c → γ → δ → Prop} {next : α → Eval γ} {next' : β → Eval δ}
    (h : Alongside j Q job job')
    (h' : ∀ j' a b, j.Ahead j' → Q j' a b → Ends job j.left (.ok a) j'.left →
      Alongside j' P (next a) (next' b)) : Alongside j P (job >>= next) (job' >>= next') where
  right := h.right.bind fun j' a b ahead related ended => (h' j' a b ahead related ended).right
  left outcome' i' ended' := by
    rcases ends_bind_iff.1 ended' with ⟨e, rfl, failed⟩ | ⟨b, k', first', rest'⟩
    · obtain ⟨_, i, ended, outcomes⟩ := h.ends_left failed
      cases outcomes with
      | error => exact ⟨_, _, ends_bind_iff.2 (.inl ⟨e, rfl, ended⟩)⟩
    · obtain ⟨_, k, first, outcomes⟩ := h.ends_left first'
      cases outcomes with
      | @ok a _ j' ahead related =>
        obtain ⟨outcome, i, rest⟩ := (h' j' a b ahead related first).left _ _ rest'
        exact ⟨outcome, i, ends_bind_iff.2 (.inr ⟨a, _, first, rest⟩)⟩

/-- Computations that end as two others do. -/
theorem congr (h : Alongside j Q job₁ job₁')
    (same : ∀ outcome i, Ends job j.left outcome i ↔ Ends job₁ j.left outcome i)
    (same' : ∀ outcome i, Ends job' j.right outcome i ↔ Ends job₁' j.right outcome i) :
    Alongside j Q job job' where
  right outcome i ended := by
    obtain ⟨outcome', i', ended', outcomes⟩ := h.right _ _ ((same _ _).1 ended)
    exact ⟨outcome', i', (same' _ _).2 ended', outcomes⟩
  left outcome' i' ended' := by
    obtain ⟨outcome, i, ended⟩ := h.left _ _ ((same' _ _).1 ended')
    exact ⟨outcome, i, (same _ _).2 ended⟩

end Alongside

/-! ### Computations in new scopes -/

section

variable {P : Scene → α → β → Prop} {outcome : Except Fault α} {outcome' : Except Fault β}
  {i i' : Interpreter}

/-- Outcomes in inner scopes belong together when the scopes have been left. -/
theorem outcome_outside (le : j.scene.LE j₀.scene)
    (h : (company c).Outcome j₀ (fun j' => P j'.scene) (outcome, i) (outcome', i')) :
    (company c).Outcome j (fun j' => P j'.scene) (outcome, { i with frame := j.left.frame })
      (outcome', { i' with frame := j.right.frame }) := by
  cases h with
  | ok j' ahead related =>
    exact .ok (C := company c) (j'.inFrames j.left.frame j.right.frame)
      ⟨le.trans ahead.scene, rfl, rfl⟩ related
  | error e j' ahead =>
    exact .error (C := company c) e (j'.inFrames j.left.frame j.right.frame)
      ⟨le.trans ahead.scene, rfl, rfl⟩

/-- The frames of outcomes are those of the beginning. -/
theorem frames_of_outcome (h : (company c).Outcome j Q (outcome, i) (outcome', i')) :
    i.frame = j.left.frame ∧ i'.frame = j.right.frame := by
  cases h with
  | ok j' ahead => exact ⟨ahead.frame, ahead.frame'⟩
  | error e j' ahead => exact ⟨ahead.frame, ahead.frame'⟩

/-- Only the first computation is in a new scope. -/
theorem Alongside.inLeft (h : Alongside j.inLeft (fun j' => P j'.scene) job job') :
    Alongside j (fun j' => P j'.scene) (inNewScope job) job' where
  right outcome i ended := by
    obtain ⟨k, inside, rfl⟩ := ends_inNewScope_iff.1 ended
    obtain ⟨outcome', i', ended', outcomes⟩ := h.right _ _ inside
    have outside := outcome_outside j.le_inLeft outcomes
    have isFrame : i'.frame = j.right.frame := (frames_of_outcome outcomes).2
    rw [← isFrame] at outside
    exact ⟨outcome', i', ended', outside⟩
  left outcome' i' ended' := by
    obtain ⟨outcome, k, inside⟩ := h.left _ _ ended'
    exact ⟨outcome, _, ends_inNewScope_iff.2 ⟨k, inside, rfl⟩⟩

/-- Only the second one is. -/
theorem Alongside.inRight (h : Alongside j.inRight (fun j' => P j'.scene) job job') :
    Alongside j (fun j' => P j'.scene) job (inNewScope job') where
  right outcome i ended := by
    obtain ⟨outcome', k', inside', outcomes⟩ := h.right _ _ ended
    have outside := outcome_outside j.le_inRight outcomes
    have isFrame : i.frame = j.left.frame := (frames_of_outcome outcomes).1
    rw [← isFrame] at outside
    exact ⟨outcome', _, ends_inNewScope_iff.2 ⟨k', inside', rfl⟩, outside⟩
  left outcome' i' ended' := by
    obtain ⟨k', inside', rfl⟩ := ends_inNewScope_iff.1 ended'
    exact h.left _ _ inside'

/-- Both are. -/
theorem Alongside.inBoth (h : Alongside j.inBoth (fun j' => P j'.scene) job job') :
    Alongside j (fun j' => P j'.scene) (inNewScope job) (inNewScope job') where
  right outcome i ended := by
    obtain ⟨k, inside, rfl⟩ := ends_inNewScope_iff.1 ended
    obtain ⟨outcome', k', inside', outcomes⟩ := h.right _ _ inside
    exact ⟨outcome', _, ends_inNewScope_iff.2 ⟨k', inside', rfl⟩,
      outcome_outside j.le_inBoth outcomes⟩
  left outcome' i' ended' := by
    obtain ⟨k', inside', rfl⟩ := ends_inNewScope_iff.1 ended'
    obtain ⟨outcome, k, inside⟩ := h.left _ _ inside'
    exact ⟨outcome, _, ends_inNewScope_iff.2 ⟨k, inside, rfl⟩⟩

end

end Evaluation

namespace ForClauses

open Evaluation

variable {c : Pairing} {j : Pair c} {p p' : Position} {l l' : ForClauses}

/-! ### One round -/

/-- The conditions of both loops. -/
theorem alongside_test (at_ : j.At p p') (alike : l.Alike l')
    (fits : l.tested.WellScoped (Recorded c.table) p) (fits' : l'.LoopFits (Recorded c.table') p') :
    Alongside j (fun j' v v' => v.Paired c j'.scene v') (evaluate l.tested) l'.test := by
  have conditions := alike.condition
  have fitsCondition := fits'.condition
  unfold tested at fits ⊢
  unfold test
  generalize l.condition = o at conditions fits
  generalize l'.condition = o' at conditions fitsCondition
  cases conditions with
  | none =>
    have same (outcome : Except Fault Value) (i : Interpreter) :
        Ends (evaluate (.literal (.boolean true) l.keyword.line)) j.left outcome i ↔
          Ends (pure (.boolean true) : Eval Value) j.left outcome i :=
      ends_literal_iff.trans ends_pure_iff.symm
    exact .congr (.pure (.boolean true)) same fun _ _ => .rfl
  | some condition =>
    exact (abreast_evaluate at_ ⟨condition, fits, fitsCondition _ rfl⟩).alongside

/-- The bodies of both loops, with the increments behind them. -/
theorem alongside_pass (standing : j.Standing p p')
    (located : j.left.heap.Located p j.left.frame) (alike : l.Alike l')
    (fits : l.passed.WellScoped (Recorded c.table) p) (fits' : l'.LoopFits (Recorded c.table') p') :
    Alongside j (fun j' flow flow' => flow.Paired c j'.scene flow') (execute l.passed) l'.pass := by
  have increments := alike.increment
  have fitsIncrement := fits'.increment
  unfold passed at fits ⊢
  unfold pass
  generalize l.increment = o at increments fits
  generalize l'.increment = o' at increments fitsIncrement
  cases increments with
  | none =>
    rw [Option.elim_none, ← bind_pure (execute l.body)]
    refine .bind (abreast_execute standing (.inl l.plain) ⟨alike.body, fits, fits'.body⟩).alongside
      fun j₁ flow flow' _ flows _ => ?_
    cases flows with
    | normal => exact .pure .normal
    | returned value => exact .pure (.returned value)
  | @some e e' increment =>
    rw [Option.elim_some] at fits ⊢
    obtain ⟨bodyFits, incrementFits⟩ := fits.parts
    rw [Position.after_of_plain l.plain] at incrementFits
    cases incrementFits with
    | expression incrementFits =>
    refine .congr (Alongside.inLeft (P := Flow.Paired c) ?_) (fun _ _ => ends_block_iff)
      fun _ _ => .rfl
    have inner := standing.inLeft located (.statement (.block [l.body, .expression e]))
    rw [executeAll, executeAll_singleton]
    refine .bind (abreast_execute inner (.inl l.plain) ⟨alike.body, bodyFits, fits'.body⟩).alongside
      fun j₁ flow flow' ahead flows _ => ?_
    cases flows with
    | returned value => exact .pure (.returned value)
    | normal =>
      refine .congr ?_ (fun _ _ => ends_expression_iff) fun _ _ => .rfl
      refine .bind (abreast_evaluate (inner.later ahead).around
        ⟨increment, incrementFits, fitsIncrement _ rfl⟩).alongside fun _ _ _ _ _ _ => ?_
      exact .pure .normal

/-- A round of both loops. -/
theorem alongside_round (standing : j.Standing p p')
    (located : j.left.heap.Located p j.left.frame) (alike : l.Alike l')
    (fits : Stmt.WellScoped (Recorded c.table) p (.loop l.tested l.passed))
    (fits' : l'.LoopFits (Recorded c.table') p') :
    Alongside j (fun j' => Option.Rel (Flow.Paired c j'.scene))
      (round (evaluate l.tested) (execute l.passed)) (round l'.test l'.pass) := by
  cases fits with
  | loop testFits _ passFits =>
  refine .bind (alongside_test standing.around alike testFits fits')
    fun j₁ v v' ahead value _ => ?_
  rw [value.isTruthy]
  split
  · have located₁ : j₁.left.heap.Located p j₁.left.frame :=
      ahead.frame ▸ located.later ahead.scene.left
    refine .bind (alongside_pass (standing.later ahead) located₁ alike passFits fits')
      fun j₂ flow flow' _ flows _ => ?_
    cases flows with
    | normal => exact .pure .none
    | returned value => exact .pure (.some (.returned value))
  · exact .pure (.some .normal)

/-! ### All rounds -/

/-- Rounds of both loops, as many as one likes. -/
theorem alongside_rounds (n : Nat) (standing : j.Standing p p')
    (located : j.left.heap.Located p j.left.frame) (alike : l.Alike l')
    (fits : Stmt.WellScoped (Recorded c.table) p (.loop l.tested l.passed))
    (fits' : l'.LoopFits (Recorded c.table') p') :
    Alongside j (fun j' => Option.Rel (Flow.Paired c j'.scene))
      (rounds (evaluate l.tested) (execute l.passed) n) (rounds l'.test l'.pass n) := by
  induction n generalizing j with
  | zero => exact .pure .none
  | succ n ih =>
    refine .bind (alongside_round standing located alike fits fits')
      fun j₁ flow flow' ahead flows _ => ?_
    cases flows with
    | none => exact ih (standing.later ahead) (ahead.frame ▸ located.later ahead.scene.left)
    | some flows => exact .pure (.some flows)

/-- The statement that the clauses stand for ends as the meaning of alike clauses says, after the
same number of rounds. -/
theorem alongside_direct (n : Nat) (standing : j.Standing p p')
    (located : j.left.heap.Located p j.left.frame) (alike : l.Alike l')
    (fits : l.lowered.WellScoped (Recorded c.table) p)
    (fits' : l'.inOneScope.WellScoped (Recorded c.table') p') :
    Alongside j (fun j' => Option.Rel (Flow.Paired c j'.scene)) (l.loweredRounds n)
      (l'.direct n) := by
  obtain ⟨initializerFits', loopFits'⟩ := wellScoped_inOneScope_iff.1 fits'
  have initializers := alike.initializer
  have starts := l.starts
  rw [lowered_eq] at fits
  unfold loweredRounds direct inside
  unfold inLoop at loopFits'
  generalize Node.statement l'.inOneScope = opener' at initializerFits' loopFits'
  generalize l.initializer = o at initializers fits starts
  generalize l'.initializer = o' at initializers initializerFits' loopFits'
  cases initializers with
  | none =>
    exact .inRight (P := fun σ => Option.Rel (Flow.Paired c σ))
      (alongside_rounds n (standing.inRight located opener')
        (located.later j.le_inRight.left) alike fits loopFits')
  | @some s s' initializer =>
    obtain ⟨initializerFits, loopFits⟩ := fits.parts
    refine .inBoth (P := fun σ => Option.Rel (Flow.Paired c σ)) ?_
    have level := standing.inBoth (.statement (.block [s, .loop l.tested l.passed])) opener'
    refine .bind (abreast_execute level.toStanding (.inr level)
      ⟨initializer, initializerFits, initializerFits' _ rfl⟩).alongside
      fun j₁ flow flow' ahead _ ended => ?_
    have level₁ := (level.later ahead).after initializer.declared?_eq
    refine alongside_rounds n level₁.toStanding ?_ alike loopFits loopFits'
    have located₁ := (Pair.located_inBoth located standing.settled
      (.statement (.block [s, .loop l.tested l.passed]))).later ahead.scene.left
    rw [← ahead.frame] at located₁
    exact located₁.after fun x declares =>
      bound_of_starts (starts s rfl) ended declares level₁.around.exists_

end ForClauses

end Lox
