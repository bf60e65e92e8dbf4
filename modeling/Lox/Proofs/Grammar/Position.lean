import Lox.Proofs.Grammar.Move
import Lox.Proofs.Grammar.Soundness
import Lox.Proofs.Routine.Conclusion
import Mathlib.Data.List.TakeWhile

/-!
# Positions among tokens

The cursor keeps the tokens that are left. Here the same reading is done by index: the tokens stand
on a tape, with one that ends the input behind them, and every look at the tape may fail, because
there is no token at the index. A cursor stands at an index of the tape, at most that of the first
token that ends the input. From there each move of the cursor is one of the tape, in which every
look succeeds, and which does not go back. So the whole reading stays on the tape.

Reading comes to an end from every cursor, and a declaration has at least one token. After one that
fails, recovery passes the token at which it failed. So every round of reading a program goes on
strictly, up to the token that ends the input.

## Main definitions

* `terminated`, `firstEnd`: the tokens on the tape, and where the first of them ends the input.
* `Tape.peek?`, `Tape.advance?`, `Tape.synchronize?`: the moves by index.
* `Cursor.StandsAt`: a cursor and an index say the same.
* `Parser.Contained`: a run ends, and stays on the tape.

## Main results

* `Cursor.StandsAt.exists_move`: a move of the cursor is one of the tape, where it succeeds.
* `Parser.exists_answers`: every request is answered from every cursor.
* `reading_is_contained`: programs and expressions are read on the tape, to its end.
-/

namespace Lox

/-! ### The tape -/

/-- The tokens, with one that ends the input behind them unless the last of them does. -/
def terminated (tokens : List Token) : List Token :=
  if tokens.getLast?.any fun t => t.kind.isEnd then tokens
  else tokens ++ [⟨.endOfInput, "", (tokens.getLast?.map Token.line).getD 1⟩]

/-- The index of the first token that ends the input. -/
def firstEnd (tokens : List Token) : Nat :=
  (terminated tokens).findIdx fun t => t.kind.isEnd

/-- Tokens that are read by index. -/
structure Tape where
  tokens : List Token
  current : Nat

namespace Tape

/-- The token at the current index, if there is one. -/
def peek? (tape : Tape) : Option Token :=
  tape.tokens[tape.current]?

/-- Pass the current token, unless it ends the input; yields the token before the index reached. -/
def advance? (tape : Tape) : Option (Token × Tape) := do
  let next ← tape.peek?
  let reached := if next.kind.isEnd then tape.current else tape.current + 1
  let passed ← tape.tokens[reached - 1]?
  return (passed, ⟨tape.tokens, reached⟩)

/-- Whether a statement may begin with a token. -/
def startsStatement (t : Token) : Bool :=
  match t.kind with
  | .keyword k => k.startsStatement
  | _ => false

/-- Pass tokens until a statement may begin, in at most the given number of rounds. The token
before the current one is `previous`. -/
def recover? : Nat → Token → Tape → Option Tape
  | 0, _, _ => none
  | rounds + 1, previous, tape => do
    let next ← tape.peek?
    if next.kind.isEnd || previous.isSymbol .semicolon || startsStatement next then
      return tape
    let (passed, tape) ← tape.advance?
    recover? rounds passed tape

/-- Pass the token at which a statement failed, and go to where the next one may begin. -/
def synchronize? (tape : Tape) : Option Tape := do
  let (failed, tape) ← tape.advance?
  recover? tape.tokens.length failed tape

/-- A change of the index, all looks at the tape having succeeded. -/
inductive Move (tape : Tape) : Tape → Prop
  | stay : Move tape tape
  | advance {passed : Token} {further : Tape} (h : tape.advance? = some (passed, further)) :
      Move tape further
  | synchronize {further : Tape} (h : tape.synchronize? = some further) : Move tape further

/-- On the tape of some tokens, moves in which every look succeeds lead from one index to another,
which is not before it. -/
def Leads (tokens : List Token) (k k' : Nat) : Prop :=
  k ≤ k' ∧ Relation.ReflTransGen Move ⟨terminated tokens, k⟩ ⟨terminated tokens, k'⟩

end Tape

/-! ### Cursors at an index -/

/-- The cursor stands at an index of the tape: its tokens are those from there on, up to the first
one on the tape that ends the input. -/
def Cursor.StandsAt (tokens : List Token) (k : Nat) (c : Cursor) : Prop :=
  ∃ before behind, before.length = k ∧ terminated tokens = before ++ (c.rest ++ c.last :: behind) ∧
    (∀ t ∈ before ++ c.rest, t.kind.isEnd = false) ∧ c.last.kind.isEnd = true

/-- Reading begins at the front of the tape. -/
theorem Cursor.standsAt_ofTokens (tokens : List Token) (nextId : NodeId) :
    (Cursor.ofTokens tokens nextId).StandsAt tokens 0 := by
  obtain ⟨behind, isTape⟩ : ∃ behind, terminated tokens = tokens ++ behind := by
    unfold terminated
    split
    · exact ⟨[], (List.append_nil _).symm⟩
    · exact ⟨_, rfl⟩
  cases found : tokens.find? fun t => t.kind.isEnd with
  | some t =>
    obtain ⟨isEnd, before, rest, rfl, inside⟩ := List.find?_eq_some_iff_append.1 found
    have isRest : (before ++ t :: rest).takeWhile (fun t => !t.kind.isEnd) = before := by
      rw [List.takeWhile_append_of_pos inside, List.takeWhile_cons_of_neg (by simp [isEnd]),
        List.append_nil]
    refine ⟨[], rest ++ behind, rfl, ?_, ?_, ?_⟩
    · simp [Cursor.ofTokens, isTape, isRest, found]
    · simpa [Cursor.ofTokens, isRest] using inside
    · exact Parser.isEnd_ofTokens _ nextId
  | none =>
    have inside : ∀ t ∈ tokens, t.kind.isEnd = false := by simpa using found
    have isRest : tokens.takeWhile (fun t => !t.kind.isEnd) = tokens :=
      List.takeWhile_eq_self_iff.2 fun t mem => by simp [inside t mem]
    have isOpen : (tokens.getLast?.any fun t => t.kind.isEnd) = false := by
      cases isLast : tokens.getLast? with
      | none => rfl
      | some t => exact inside t (List.mem_of_getLast? isLast)
    refine ⟨[], [], rfl, ?_, ?_, ?_⟩
    · simp [Cursor.ofTokens, terminated, isOpen, isRest, found]
    · simpa [Cursor.ofTokens, isRest] using inside
    · exact Parser.isEnd_ofTokens tokens nextId

namespace Cursor.StandsAt

variable {tokens : List Token} {k : Nat} {c t : Cursor}

theorem firstEnd_eq (h : c.StandsAt tokens k) : firstEnd tokens = k + c.rest.length := by
  obtain ⟨before, behind, rfl, isTape, inside, isEnd⟩ := h
  have none : (before ++ c.rest).findIdx (fun t => t.kind.isEnd) = (before ++ c.rest).length :=
    List.findIdx_eq_length.2 inside
  rw [firstEnd, isTape, ← List.append_assoc, List.findIdx_append, none, if_neg (Nat.lt_irrefl _),
    List.findIdx_cons, isEnd, cond_true, Nat.zero_add, List.length_append]

theorem le (h : c.StandsAt tokens k) : k ≤ firstEnd tokens := by
  rw [h.firstEnd_eq]
  exact Nat.le_add_right _ _

/-- The cursor is at its end on the first token that ends the input, and not before. -/
theorem atEnd_iff (h : c.StandsAt tokens k) : c.atEnd = true ↔ k = firstEnd tokens := by
  rw [h.firstEnd_eq, Cursor.atEnd, List.isEmpty_iff_length_eq_zero]
  omega

/-- There is a token at the index, the one at the cursor. -/
theorem peek?_eq (h : c.StandsAt tokens k) :
    (Tape.mk (terminated tokens) k).peek? = some c.peek := by
  obtain ⟨before, behind, rfl, isTape, -⟩ := h
  rw [Tape.peek?, isTape, List.getElem?_append_right (Nat.le_refl _), Nat.sub_self, Cursor.peek]
  cases c.rest <;> rfl

/-- One of the tokens on the tape ends the input. -/
theorem firstEnd_lt (h : c.StandsAt tokens k) : firstEnd tokens < (terminated tokens).length := by
  rw [h.firstEnd_eq]
  obtain ⟨before, behind, rfl, isTape, -⟩ := h
  rw [isTape]
  simp

/-- There are more tokens on the tape than those before its end. -/
theorem length_lt (h : c.StandsAt tokens k) : c.rest.length < (terminated tokens).length := by
  have isEnd := h.firstEnd_lt
  rw [h.firstEnd_eq] at isEnd
  omega

theorem inside {t : Token} {rest : List Token} (h : c.StandsAt tokens k)
    (isRest : c.rest = t :: rest) : t.kind.isEnd = false := by
  obtain ⟨before, behind, rfl, isTape, inside, isEnd⟩ := h
  exact inside t (by simp [isRest])

theorem isEnd (h : c.StandsAt tokens k) : c.last.kind.isEnd = true := by
  obtain ⟨before, behind, rfl, isTape, inside, isEnd⟩ := h
  exact isEnd

/-- Passing the next token is a move of the tape. -/
theorem advance?_cons {t : Token} {rest : List Token} (h : c.StandsAt tokens k)
    (isRest : c.rest = t :: rest) :
    (Tape.mk (terminated tokens) k).advance? = some (t, ⟨terminated tokens, k + 1⟩) ∧
      ({ c with rest := rest } : Cursor).StandsAt tokens (k + 1) := by
  have isNext : (Tape.mk (terminated tokens) k).peek? = some t := by
    rw [h.peek?_eq, Cursor.peek, isRest]
    rfl
  obtain ⟨before, behind, rfl, isTape, inside, isEnd⟩ := h
  rw [isRest] at isTape inside
  have isInside : t.kind.isEnd = false := inside t (by simp)
  constructor
  · unfold Tape.advance?
    rw [isNext]
    have isPassed : (terminated tokens)[before.length]? = some t := isNext
    simp [isInside, isPassed]
  · refine ⟨before ++ [t], behind, by simp, ?_, ?_, isEnd⟩
    · rw [isTape]
      simp
    · simpa using inside

/-- At the end of the input the tape is not moved. -/
theorem advance?_nil (h : c.StandsAt tokens k) (isRest : c.rest = []) :
    ∃ passed, (Tape.mk (terminated tokens) k).advance? =
      some (passed, ⟨terminated tokens, k⟩) := by
  have isNext : (Tape.mk (terminated tokens) k).peek? = some c.last := by
    rw [h.peek?_eq, Cursor.peek, isRest]
    rfl
  obtain ⟨before, behind, rfl, isTape, inside, isEnd⟩ := h
  have inRange : before.length - 1 < (terminated tokens).length := by
    rw [isTape, isRest]
    simp
    omega
  refine ⟨(terminated tokens)[before.length - 1], ?_⟩
  unfold Tape.advance?
  rw [isNext]
  simp [isEnd, List.getElem?_eq_getElem inRange]

/-- Where the next statement may begin is found on the tape, in rounds enough for the tokens that
are left. -/
theorem exists_recover? {rounds : Nat} (previous : Token) (h : c.StandsAt tokens k)
    (enough : c.rest.length < rounds) :
    ∃ k', k ≤ k' ∧ Tape.recover? rounds previous ⟨terminated tokens, k⟩ =
        some ⟨terminated tokens, k'⟩ ∧
      ({ c with rest := Cursor.nextStart previous c.rest } : Cursor).StandsAt tokens k' := by
  obtain ⟨rest, last, nextId, errors⟩ := c
  induction rest generalizing rounds previous k with
  | nil =>
    obtain ⟨rounds, rfl⟩ := Nat.exists_eq_succ_of_ne_zero (Nat.ne_of_gt enough)
    refine ⟨k, Nat.le_refl k, ?_, h⟩
    have isEnd : last.kind.isEnd = true := h.isEnd
    simp [Tape.recover?, h.peek?_eq, Cursor.peek, isEnd]
  | cons t rest ih =>
    obtain ⟨rounds, rfl⟩ := Nat.exists_eq_succ_of_ne_zero (Nat.ne_of_gt (Nat.zero_lt_of_lt enough))
    obtain ⟨passed, further⟩ := h.advance?_cons rfl
    have inside : t.kind.isEnd = false := h.inside rfl
    by_cases isStart : previous.isSymbol .semicolon || Tape.startsStatement t
    · refine ⟨k, Nat.le_refl k, ?_, ?_⟩
      · rw [Tape.recover?, h.peek?_eq]
        exact if_pos (by rw [Bool.or_assoc]; exact Bool.or_eq_true_iff.2 (.inr isStart))
      · rw [show Cursor.nextStart previous (t :: rest) = t :: rest from if_pos isStart]
        exact h
    · obtain ⟨k', le, found, stands⟩ := ih t further (Nat.lt_of_succ_lt_succ enough)
      refine ⟨k', Nat.le_of_succ_le le, ?_, ?_⟩
      · simp only [Bool.or_eq_true] at isStart
        simp [Tape.recover?, h.peek?_eq, Cursor.peek, inside, isStart, passed, found]
      · rw [show Cursor.nextStart previous (t :: rest) = Cursor.nextStart t rest from
          if_neg isStart]
        exact stands

/-- A move of the cursor is one of the tape, in which every look succeeds, and does not go back. -/
theorem exists_move (h : c.StandsAt tokens k) (move : c.Move t) :
    ∃ k', k ≤ k' ∧ t.StandsAt tokens k' ∧
      (Tape.mk (terminated tokens) k).Move ⟨terminated tokens, k'⟩ := by
  cases move with
  | number => exact ⟨k, Nat.le_refl k, h, .stay⟩
  | note e => exact ⟨k, Nat.le_refl k, h, .stay⟩
  | advance =>
    obtain ⟨_ | ⟨t, rest⟩, last, nextId, errors⟩ := c
    · obtain ⟨passed, isPassed⟩ := h.advance?_nil rfl
      exact ⟨k, Nat.le_refl k, h, .advance isPassed⟩
    · obtain ⟨isPassed, further⟩ := h.advance?_cons rfl
      exact ⟨k + 1, Nat.le_succ k, further, .advance isPassed⟩
  | synchronize =>
    obtain ⟨_ | ⟨t, rest⟩, last, nextId, errors⟩ := c
    · obtain ⟨passed, isPassed⟩ := h.advance?_nil rfl
      obtain ⟨k', le, found, stands⟩ := h.exists_recover? passed h.length_lt
      exact ⟨k', le, stands, .synchronize (by simp [Tape.synchronize?, isPassed, found])⟩
    · obtain ⟨isPassed, further⟩ := h.advance?_cons rfl
      obtain ⟨k', le, found, stands⟩ := further.exists_recover? t further.length_lt
      exact ⟨k', Nat.le_of_succ_le le, stands,
        .synchronize (by simp [Tape.synchronize?, isPassed, found])⟩

/-- So do several moves. -/
theorem exists_moves (h : c.StandsAt tokens k) (moves : c.Moves t) :
    ∃ k', Tape.Leads tokens k k' ∧ t.StandsAt tokens k' := by
  induction moves with
  | refl => exact ⟨k, ⟨Nat.le_refl k, .refl⟩, h⟩
  | tail _ move ih =>
    obtain ⟨k', ⟨le, before⟩, stands⟩ := ih
    obtain ⟨k'', le', stands', last⟩ := stands.exists_move move
    exact ⟨k'', ⟨Nat.le_trans le le', before.tail last⟩, stands'⟩

end Cursor.StandsAt

namespace Parser

/-! ### Answers -/

/-- Every request is answered from every cursor, and leaves a cursor that is further on; with at
least one token passed if a declaration was read. -/
theorem exists_answers {p : Phrase} (request : Request p) {c : Cursor}
    (closed : c.last.kind.isEnd = true) :
    ∃ outcome t ts, Routine.Answers (Job.body step) (request, c) (outcome, t) ∧ c.Passes ts t ∧
      (request.surplus = 60 → outcome.isOk = true → 0 < ts.length) := by
  have asked : Job.Delivers step (Parse.ask request) c
      (Reads (3 * request.rank + 2) request.surplus c (Promise request c)) :=
    Reads.ask (kept request closed)
  obtain ⟨moves, n, outcome, t, isRun, ts, passes, paid⟩ := asked.exists_run
  obtain ⟨m, answered⟩ := (Job.exists_run_iff step).1 ⟨moves, isRun⟩
  rw [Parse.ask, Job.meaning_ask] at answered
  refine ⟨outcome, t, ts, ⟨m, answered⟩, passes, fun isPositive isOk => ?_⟩
  cases outcome with
  | error e => cases isOk
  | ok tree =>
    have enough := paid.1
    have isRank := request.rank_lt
    omega

/-! ### Rounds -/

/-- The cursor at which the next round of reading a program begins: where the declaration ended, or,
if it failed, where recovery from its error leads to. -/
def afterRound : Except SyntaxError Stmt × Cursor → Cursor
  | (.ok _, t) => t
  | (.error e, t) => ({ t with errors := ⟨e.token, e.cause⟩ :: t.errors } : Cursor).synchronize

/-- A round asks for a declaration, and for the rest of the program from the cursor behind it. -/
theorem body_program {c : Cursor} (inside : c.atEnd = false) :
    Job.body step .statements (.program, c) =
      .call ((.declaration : Request .statement), c) fun first =>
        .call ((.program : Request .statements), afterRound first) fun rest =>
          .done (.answer (rest.1.map fun ss => first.1.toOption.toList ++ ss, rest.2)) := by
  obtain ⟨_ | ⟨t, rest⟩, last, nextId, errors⟩ := c
  · cases inside
  · refine congrArg (Routine.call _) (funext ?_)
    rintro ⟨e | s, t⟩
    · refine congrArg (Routine.call _) (funext ?_)
      rintro ⟨e' | ss, u⟩ <;> rfl
    · refine congrArg (Routine.call _) (funext ?_)
      rintro ⟨e' | ss, u⟩ <;> rfl

/-- The rest of a program that is asked for in a round begins behind the declaration of that
round. -/
theorem begets_program_iff {c c' : Cursor} (inside : c.atEnd = false)
    {first : Job.Answer Cursor SyntaxError Phrase.Tree .statement}
    (answered : Routine.Answers (Job.body step) ((.declaration : Request .statement), c) first) :
    Routine.Begets (Job.body step) ⟨.statements, .program, c⟩ ⟨.statements, .program, c'⟩ ↔
      c' = afterRound first := by
  have isBody := body_program inside
  constructor
  · rintro (requested | ⟨goal, rest, -⟩)
    · change Routine.Requests _ (Job.body step .statements (.program, c)) _ at requested
      rw [isBody] at requested
      rcases requested.of_call with isFirst | ⟨first', answered', requested⟩
      · cases isFirst
      · cases answered.unique _ answered'
        rcases requested.of_call with isSecond | ⟨_, -, requested⟩
        · cases isSecond
          rfl
        · exact (Routine.not_requests_done requested).elim
    · change Routine.Rest _ (Job.body step .statements (.program, c)) _ at rest
      rw [isBody] at rest
      rcases rest.of_call with isCall | ⟨first', -, rest⟩
      · cases isCall
      · rcases rest.of_call with isCall | ⟨_, -, rest⟩
        · cases isCall
        · cases rest.of_done
  · rintro rfl
    refine .inl ?_
    change Routine.Requests _ (Job.body step .statements (.program, c)) _
    rw [isBody]
    exact ⟨_, .step .refl answered⟩

/-- After a round the cursor is strictly further on, whether the declaration was read or failed. -/
theorem exists_afterRound {tokens : List Token} {k : Nat} {c : Cursor} (h : c.StandsAt tokens k)
    (inside : c.atEnd = false) :
    ∃ first k', Routine.Answers (Job.body step) ((.declaration : Request .statement), c) first ∧
      k < k' ∧ (afterRound first).StandsAt tokens k' := by
  obtain ⟨outcome, t, ts, answered, passes, some⟩ := exists_answers .declaration h.isEnd
  -- Indices and lengths add up to the index of the end, so it is enough that tokens were passed.
  suffices (afterRound (outcome, t)).rest.length < c.rest.length ∧
      c.Moves (afterRound (outcome, t)) by
    obtain ⟨shorter, further⟩ := this
    obtain ⟨k', -, stands⟩ := h.exists_moves further
    have isEnd := h.firstEnd_eq
    have isEnd' := stands.firstEnd_eq
    exact ⟨(outcome, t), k', answered, by omega, stands⟩
  have further := moves_of_answers answered
  have isLength := passes.length_eq
  cases outcome with
  | ok d =>
    have nonempty := some rfl rfl
    exact ⟨by change t.rest.length < _; omega, further⟩
  | error e =>
    refine ⟨?_, (further.tail (.note ⟨e.token, e.cause⟩)).tail .synchronize⟩
    obtain ⟨us, recovers, forward⟩ := Cursor.exists_passes_synchronize
      (c := { t with errors := ⟨e.token, e.cause⟩ :: t.errors }) passes.closed
    have isRest := recovers.length_eq
    change t.rest.length = us.length + (afterRound (.error e, t)).rest.length at isRest
    by_cases atEnd : t.rest = []
    · rw [atEnd, List.length_nil] at isRest
      have nonempty : c.rest ≠ [] := fun isNil => by
        rw [Cursor.atEnd, isNil] at inside
        cases inside
      have := List.length_pos_iff.2 nonempty
      omega
    · have nonempty := forward atEnd
      omega

/-! ### Runs -/

/-- The run of a computation on some tokens comes to its end within the moves that are granted, and
stays on the tape: from its front moves of the tape lead to where the run ends and to where each
question comes up, and from there to where its answer is left. -/
structure Contained {α : Type} (tokens : List Token) (nextId : NodeId) (job : Parse α) : Prop where
  ends : ∃ outcome t k, Job.run step (moves tokens) job (.ofTokens tokens nextId) =
      some (outcome, t) ∧ Tape.Leads tokens 0 k ∧ t.StandsAt tokens k
  answered : ∀ task, Routine.Arises (Job.body step) (job (.ofTokens tokens nextId)) task →
    ∃ k answer k', Tape.Leads tokens 0 k ∧ task.2.2.StandsAt tokens k ∧
      Routine.Answers (Job.body step) task.2 answer ∧ Tape.Leads tokens k k' ∧
      answer.2.StandsAt tokens k'

variable {α : Type} {tokens : List Token} {nextId : NodeId} {job : Parse α}

theorem contained_of_steers
    (steers : Steers (.ofTokens tokens nextId) (.ofTokens tokens nextId) job)
    (ends : ∃ outcome t, Job.run step (moves tokens) job (.ofTokens tokens nextId) =
      some (outcome, t)) : Contained tokens nextId job where
  ends := by
    obtain ⟨outcome, t, isRun⟩ := ends
    obtain ⟨k, leads, stands⟩ :=
      (Cursor.standsAt_ofTokens tokens nextId).exists_moves (moves_of_run steers isRun)
    exact ⟨outcome, t, k, isRun, leads, stands⟩
  answered := by
    rintro ⟨p, request, c⟩ arises
    obtain ⟨k, leads, stands⟩ :=
      (Cursor.standsAt_ofTokens tokens nextId).exists_moves (moves_of_arises steers arises)
    obtain ⟨outcome, t, -, answered, -⟩ := exists_answers request stands.isEnd
    obtain ⟨k', leads', stands'⟩ := stands.exists_moves (moves_of_answers answered)
    exact ⟨k, (outcome, t), k', leads, stands, answered, leads', stands'⟩

/-- A tree is the result only of a run without errors. -/
theorem exists_run_of_ok {a : α} (h : (run job tokens nextId).1 = .ok a) :
    ∃ t, Job.run step (moves tokens) job (.ofTokens tokens nextId) = some (.ok a, t) ∧
      t.errors = [] := by
  unfold run at h
  split at h
  · cases h
  · cases h
  · rename_i tree t isRun
    split at h
    · rename_i isClean
      cases h
      exact ⟨t, isRun, isClean⟩
    · cases h

/-- A tree is the result of a run that noted no errors and ended at the end of the tape. -/
def Completes (tokens : List Token) (nextId : NodeId) (job : Parse α) (a : α) : Prop :=
  ∃ t, Job.run step (moves tokens) job (.ofTokens tokens nextId) = some (.ok a, t) ∧
    t.errors = [] ∧ t.StandsAt tokens (firstEnd tokens)

theorem completes_of_rest {a : α}
    (steers : Steers (.ofTokens tokens nextId) (.ofTokens tokens nextId) job)
    (h : (run job tokens nextId).1 = .ok a)
    (atEnd : ∀ t, Job.run step (moves tokens) job (.ofTokens tokens nextId) = some (.ok a, t) →
      t.errors = [] → t.rest = []) : Completes tokens nextId job a := by
  obtain ⟨t, isRun, isClean⟩ := exists_run_of_ok h
  obtain ⟨k, -, stands⟩ :=
    (Cursor.standsAt_ofTokens tokens nextId).exists_moves (moves_of_run steers isRun)
  have isEnd : k = firstEnd tokens := by
    rw [← stands.atEnd_iff, Cursor.atEnd, atEnd t isRun isClean]
    rfl
  exact ⟨t, isRun, isClean, isEnd ▸ stands⟩

/-- A round of reading a program that begins at an index: its declaration is answered, and the next
round, the only one that it leads to, begins at a greater index. -/
def GoesOn (tokens : List Token) (k : Nat) (c : Cursor) : Prop :=
  ∃ first k', Routine.Answers (Job.body step) ((.declaration : Request .statement), c) first ∧
    (∀ c', Routine.Begets (Job.body step) ⟨.statements, .program, c⟩ ⟨.statements, .program, c'⟩ ↔
      c' = afterRound first) ∧
    k < k' ∧ (afterRound first).StandsAt tokens k'

end Parser

/-- For every list of tokens the reading of a program and that of an expression come to their ends
and stay on the tape. A cursor on the tape stands at most on the first token that ends the input,
and looks at the token that is there. Each round of reading a program goes on strictly, unless it
begins at the end; and there is a result only if no error was noted and the reading ended there. -/
theorem reading_is_contained (tokens : List Token) (nextId : NodeId) :
    Parser.Contained tokens nextId (Parse.ask .program) ∧
    Parser.Contained tokens nextId Parser.wholeExpression ∧
    (∀ k (c : Cursor), c.StandsAt tokens k →
      k ≤ firstEnd tokens ∧ firstEnd tokens < (terminated tokens).length ∧
      (terminated tokens)[k]? = some c.peek ∧ (c.atEnd = true ↔ k = firstEnd tokens) ∧
      (k < firstEnd tokens → Parser.GoesOn tokens k c)) ∧
    (∀ p, (parseProgram tokens nextId).1 = .ok p →
      Parser.Completes tokens nextId (Parse.ask .program) p) ∧
    (∀ e, (parseExpression tokens nextId).1 = .ok e →
      Parser.Completes tokens nextId Parser.wholeExpression e) := by
  have steersProgram : Parser.Steers (.ofTokens tokens nextId) (.ofTokens tokens nextId)
      (Parse.ask .program) := Parser.steers_ask .refl .program
  have steersExpression : Parser.Steers (.ofTokens tokens nextId) (.ofTokens tokens nextId)
      Parser.wholeExpression := Parser.steers_wholeExpression .refl
  obtain ⟨outcome, t, n, isRun, ts, passes, isProgram⟩ := Parser.exists_run_program tokens nextId
  obtain ⟨outcome', t', n', isRun', ts', passes', isExpression⟩ :=
    Parser.exists_run_expression tokens nextId
  refine ⟨Parser.contained_of_steers steersProgram ⟨outcome, t, isRun⟩,
    Parser.contained_of_steers steersExpression ⟨outcome', t', isRun'⟩,
    fun k c stands => ⟨stands.le, stands.firstEnd_lt, stands.peek?_eq, stands.atEnd_iff, ?_⟩,
    fun p isOk => Parser.completes_of_rest steersProgram isOk ?_,
    fun e isOk => Parser.completes_of_rest steersExpression isOk ?_⟩
  · intro before
    have inside : c.atEnd = false := by
      rw [Bool.eq_false_iff, ne_eq, stands.atEnd_iff]
      exact Nat.ne_of_lt before
    obtain ⟨first, k', answered, lt, stands'⟩ := Parser.exists_afterRound stands inside
    exact ⟨first, k', answered, fun _ => Parser.begets_program_iff inside answered, lt, stands'⟩
  · intro u isRun'' isClean
    cases isRun.symm.trans isRun''
    exact (isProgram.2 (by rw [isClean]; rfl)).1
  · intro u isRun'' isClean
    cases isRun'.symm.trans isRun''
    exact (isExpression.2 (by rw [isClean]; rfl)).1

end Lox
