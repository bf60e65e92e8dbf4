import Lox.Proofs.Grammar.Sound.Statement
import Lox.Tree.Parser.Basic

/-!
# The parser keeps its promises

Reading a program goes on behind errors, at places where a statement may begin. Every place is
behind the error, so the reading comes to the end of the input, within the moves that are granted
for the tokens. If no error was noted, all tokens were passed and derive the program.

## Main results

* `Parser.kept`: every request is settled as promised.
* `derives_of_parseProgram`, `derives_of_parseExpression`: trees without errors are derived.
* `nextId_le_parseProgram`, `nextId_le_parseExpression`: numbers of occurrences are only used up.
-/

namespace Lox

/-! ### Recovery -/

theorem Cursor.exists_nextStart (previous : Token) (rest : List Token) :
    ∃ passed, rest = passed ++ Cursor.nextStart previous rest := by
  induction rest generalizing previous with
  | nil => exact ⟨[], rfl⟩
  | cons t rest ih =>
    have either : nextStart previous (t :: rest) = t :: rest ∨
        nextStart previous (t :: rest) = nextStart t rest := ite_eq_or_eq _ _ _
    rcases either with isStart | isLater
    · exact ⟨[], isStart.symm⟩
    · obtain ⟨passed, isRest⟩ := ih t
      rw [isLater]
      exact ⟨t :: passed, congrArg (t :: ·) isRest⟩

/-- Recovery passes the token at which a statement failed, if there is one. -/
theorem Cursor.exists_passes_synchronize {c : Cursor} (closed : c.last.kind.isEnd = true) :
    ∃ ts, c.Passes ts c.synchronize ∧ (c.rest ≠ [] → 0 < ts.length) := by
  obtain ⟨rest, last, nextId, errors⟩ := c
  cases rest with
  | nil => exact ⟨[], .refl closed, fun inside => (inside rfl).elim⟩
  | cons failed rest =>
    obtain ⟨passed, isRest⟩ := exists_nextStart failed rest
    refine ⟨failed :: passed, ⟨?_, rfl, closed, Nat.le_refl _, Nat.le_refl _⟩,
      fun _ => Nat.succ_pos _⟩
    exact congrArg (failed :: ·) isRest

namespace Parser

open Grammar (Derives)

variable {c : Cursor}

/-- At the end of the input nothing is left to do. -/
theorem kept_program_nil (closed : c.last.kind.isEnd = true) (isEnd : c.rest = []) :
    Job.Settled step .program c (Reads 0 0 c (Promise .program c)) := by
  refine Treats.settled (delivers_atEnd ?_)
  rw [show c.atEnd = true by rw [Cursor.atEnd, isEnd]; rfl]
  exact Treats.finish closed (Nat.le_refl 0) ⟨isEnd, .noDeclarations, .nil⟩

/-- A declaration has been read as promised. -/
def Found (c : Cursor) (ts : List Token) (s : Option Stmt) (t : Cursor) : Prop :=
  ∃ d, s = some d ∧ Promise .declaration c ts d t

/-- What has been read of a program after one declaration, or after recovery from one. Unless this
is the end of the input, some of the credit is left. -/
def Advances (c : Cursor) (n : Nat) (outcome : Except SyntaxError (Option Stmt)) (t : Cursor) :
    Prop :=
  ∃ s ts, outcome = .ok s ∧ c.Passes ts t ∧ 0 < ts.length ∧
    (t.rest = [] ∧ n ≤ 100 * ts.length + 32 ∨ n + 60 ≤ 100 * ts.length + 32) ∧
    (t.errors.length = c.errors.length → Found c ts s t)

theorem advances_declaration (ready : Ready .program c) (closed : c.last.kind.isEnd = true)
    (inside : c.rest ≠ []) :
    Job.Delivers step (tryCatch (some <$> Parse.ask .declaration) fun e => do
      Parse.record e.token e.cause
      modify Cursor.synchronize
      return none) c (Advances c) := by
  have asked := ready.ask (.refl closed) .declaration (by decide)
  refine .tryCatch (.map (asked.mono ?_))
  rintro n (e | d) t ⟨ts, passes, rest⟩
  · change n ≤ 100 * ts.length + 32 at rest
    refine .bind (.modify (.bind (.modify (.pure ?_))))
    -- The error that is noted here stays noted.
    have noted : t.Passes [] { t with errors := ⟨e.token, e.cause⟩ :: t.errors } :=
      ⟨rfl, rfl, passes.closed, Nat.le_refl _, Nat.le_succ _⟩
    obtain ⟨us, recovers, forward⟩ := Cursor.exists_passes_synchronize noted.closed
    have whole := (passes.trans noted).trans recovers
    have isLength : (ts ++ [] ++ us).length = ts.length + us.length := by simp
    refine ⟨none, ts ++ [] ++ us, rfl, whole, ?_, ?_, fun clean => ?_⟩
    · have isWhole := passes.length_eq
      have some := List.length_pos_iff.2 inside
      by_cases isEnd : t.rest = []
      · rw [isEnd, List.length_nil] at isWhole
        omega
      · have further := forward isEnd
        omega
    · by_cases isEnd : t.rest = []
      · have isRest := recovers.length_eq
        have isZero := List.length_eq_zero_iff.2 isEnd
        change t.rest.length = _ at isRest
        exact .inl ⟨List.length_eq_zero_iff.1 (by omega), by omega⟩
      · have further := forward isEnd
        exact .inr (by omega)
    · have le := passes.noted_le
      have le' := recovers.noted_le
      change t.errors.length + 1 ≤ _ at le'
      omega
  · obtain ⟨paid, kept⟩ := rest
    change n + 60 ≤ 100 * ts.length + 32 at paid
    exact ⟨some d, ts, rfl, passes, by omega, .inr paid, fun clean => ⟨d, rfl, kept clean⟩⟩

theorem treats_program (ready : Ready .program c) (closed : c.last.kind.isEnd = true) :
    Job.Delivers step (step _ .program) c (Treats 42 0 c (Promise .program c)) := by
  refine delivers_atEnd ?_
  cases isEnd : c.atEnd with
  | true =>
    exact Treats.finish closed (Nat.zero_le _) ⟨List.isEmpty_iff.1 isEnd, .noDeclarations, .nil⟩
  | false =>
    have inside : c.rest ≠ [] := fun isNil => by
      rw [Cursor.atEnd, isNil] at isEnd
      cases isEnd
    refine .bind ((advances_declaration ready closed inside).mono ?_)
    rintro n _ t ⟨s, ts, rfl, passes, nonempty, paid, isFirst⟩
    have free := ready.free passes nonempty
    have rest (gain : Nat) (paid : n + gain ≤ 100 * ts.length + 32) (cost : Nat)
        (h : Job.Settled step .program t (Reads cost 0 t (Promise .program t)))
        (enough : cost + 2 ≤ 10 + gain) :
        Job.Delivers step (do
          let ss ← Parse.ask .program
          finish (s.toList ++ ss)) t fun m => Treats 42 0 c (Promise .program c) (n + m) := by
      have later : Job.Delivers step (do
          let ss ← Parse.ask .program
          finish (s.toList ++ ss)) t (Treats (42 + gain - 32) 0 t fun us ss u =>
            Found c ts s t → Promise .program c (ts ++ us) ss u) := by
        refine Treats.bind (Reads.ask h) (by omega) fun us ss u passes' _ => ?_
        refine Treats.finish passes'.closed (Nat.zero_le _) ?_
        rintro ⟨isEnd, derives, apart⟩ ⟨d, rfl, isFirst, apart'⟩
        rw [List.append_nil]
        refine ⟨isEnd, .declarations isFirst derives, ?_⟩
        exact apart'.append apart passes.nextId_le (Nat.le_refl _) passes'.nextId_le
      exact later.mono fun m outcome u h' =>
        Treats.shift (b := s) passes (by decide) paid isFirst h'
    rcases paid with ⟨isEnd, paid⟩ | paid
    · exact rest 0 paid 0 (kept_program_nil passes.closed isEnd) (by decide)
    · exact rest 60 paid 42 (free.kept .program passes.closed) (by decide)

/-- Every request is settled as promised. -/
theorem kept {p : Phrase} (request : Request p) (closed : c.last.kind.isEnd = true) :
    Kept request c := by
  suffices ∀ n p (request : Request p) c, request.measure c < n → c.last.kind.isEnd = true →
      Kept request c from this _ p request c (Nat.lt_succ_self _) closed
  intro n
  induction n with
  | zero => exact fun _ _ _ lt => absurd lt (Nat.not_lt_zero _)
  | succ n ih =>
    intro p request c lt closed
    have ready : Ready request c := fun p' request' c' closed' lt' =>
      ih p' request' c' (by omega) closed'
    refine Treats.settled ?_
    cases request with
    | program => exact treats_program ready closed
    | declaration => exact treats_declaration ready closed
    | statement => exact treats_statement ready closed
    | block => exact treats_block ready closed
    | methods => exact treats_methods ready closed
    | function sort => exact treats_function ready closed
    | parameters before => exact treats_parameters ready closed
    | arguments before => exact treats_arguments ready closed
    | expression => exact treats_expression ready closed
    | level l => exact treats_level ready closed
    | operators l left => exact treats_operators ready closed
    | unary => exact treats_unary ready closed
    | operand => exact treats_operand ready closed
    | suffixes callee => exact treats_suffixes ready closed

/-! ### Outcomes -/

theorem isEnd_ofTokens (tokens : List Token) (nextId : NodeId) :
    (Cursor.ofTokens tokens nextId).last.kind.isEnd = true := by
  unfold Cursor.ofTokens
  cases found : tokens.find? fun t => t.kind.isEnd with
  | none => rfl
  | some t =>
    have isEnd := List.find?_some found
    exact isEnd

theorem length_ofTokens_le (tokens : List Token) (nextId : NodeId) :
    (Cursor.ofTokens tokens nextId).rest.length ≤ tokens.length :=
  (List.takeWhile_sublist _).length_le

/-- What is read for a credit is read within the moves that are granted. -/
theorem exists_run {α : Type} {parse : Parse α} {credit surplus : Nat} {tokens : List Token}
    {nextId : NodeId} {good : List Token → α → Cursor → Prop}
    (h : Job.Delivers step parse (.ofTokens tokens nextId)
      (Reads credit surplus (.ofTokens tokens nextId) good)) (enough : credit < 200) :
    ∃ outcome t n, Job.run step (moves tokens) parse (.ofTokens tokens nextId) = some (outcome, t) ∧
      Reads credit surplus (.ofTokens tokens nextId) good n outcome t := by
  obtain ⟨n, outcome, t, isRun, reads⟩ := h.run_eq fun n outcome t ⟨ts, passes, rest⟩ => by
    have le := length_ofTokens_le tokens nextId
    have isLength := passes.length_eq
    change n < 100 * (tokens.length + 2)
    cases outcome with
    | ok a =>
      have paid := rest.1
      omega
    | error e =>
      change n ≤ _ at rest
      omega
  exact ⟨outcome, t, n, isRun, reads⟩

theorem exists_run_program (tokens : List Token) (nextId : NodeId) :
    ∃ outcome t n, Job.run step (moves tokens) (Parse.ask .program) (.ofTokens tokens nextId) =
        some (outcome, t) ∧
      Reads 44 0 (.ofTokens tokens nextId) (Promise .program (.ofTokens tokens nextId)) n outcome
        t :=
  exists_run (Reads.ask (kept .program (isEnd_ofTokens tokens nextId))) (by decide)

/-- What is promised of a whole expression. -/
theorem reads_wholeExpression (closed : c.last.kind.isEnd = true) :
    Job.Delivers step wholeExpression c (Reads 26 0 c fun ts e t =>
      t.rest = [] ∧ Derives (.expression .whole) ts e ∧ Apart c.nextId t.nextId e.ids) := by
  refine Reads.bind (Reads.ask (kept .expression closed)) (by decide) fun ts e t passes _ => ?_
  refine .bind (.get ?_)
  dsimp only
  simp only [Nat.zero_add]
  split
  · exact .throw ⟨[], .refl passes.closed, Nat.zero_le _⟩
  · refine delivers_atEnd ?_
    cases isEnd : t.atEnd with
    | true =>
      refine Reads.pure passes.closed (by decide) ?_
      rintro ⟨derives, apart⟩
      rw [List.append_nil]
      exact ⟨List.isEmpty_iff.1 isEnd, derives, apart⟩
    | false => exact Reads.missing passes.closed

theorem exists_run_expression (tokens : List Token) (nextId : NodeId) :
    ∃ outcome t n, Job.run step (moves tokens) wholeExpression (.ofTokens tokens nextId) =
        some (outcome, t) ∧
      Reads 26 0 (.ofTokens tokens nextId) (fun ts e t => t.rest = [] ∧
        Derives (.expression .whole) ts e ∧ Apart nextId t.nextId e.ids) n outcome t :=
  exists_run (reads_wholeExpression (isEnd_ofTokens tokens nextId)) (by decide)

end Parser

/-! ### Programs and expressions -/

/-- The tokens that are read: those before the first one that ends the input. -/
def readable (tokens : List Token) : List Token :=
  tokens.takeWhile fun t => !t.kind.isEnd

/-- Numbers are only used up, whatever the outcome. -/
theorem nextId_le_parseProgram (tokens : List Token) (nextId : NodeId) :
    nextId ≤ (parseProgram tokens nextId).2 := by
  obtain ⟨outcome, t, n, isRun, ts, passes, -⟩ := Parser.exists_run_program tokens nextId
  have le : nextId ≤ t.nextId := passes.nextId_le
  unfold parseProgram Parser.run
  rw [isRun]
  cases outcome with
  | error e => exact le
  | ok p =>
    dsimp only
    split <;> exact le

/-- A program is derived from its tokens, and its occurrences are numbered apart. -/
theorem derives_of_parseProgram {tokens : List Token} {nextId : NodeId} {p : List Stmt}
    (h : (parseProgram tokens nextId).1 = .ok p) :
    Grammar.Derives .declarations (readable tokens) p ∧
      Apart nextId (parseProgram tokens nextId).2 (Scope.siteIds p) := by
  obtain ⟨outcome, t, n, isRun, ts, passes, rest⟩ := Parser.exists_run_program tokens nextId
  unfold parseProgram Parser.run at h ⊢
  rw [isRun] at h ⊢
  cases outcome with
  | error e => cases h
  | ok p' =>
    cases isErrors : t.errors with
    | cons e es =>
      simp only [isErrors] at h
      cases h
    | nil =>
      simp only [isErrors] at h ⊢
      cases h
      obtain ⟨isEnd, derives, apart⟩ := rest.2 (by rw [isErrors]; rfl)
      have isRest := passes.rest_eq
      rw [isEnd, List.append_nil] at isRest
      rw [Scope.siteIds_eq]
      refine ⟨?_, apart⟩
      rw [show readable tokens = ts from isRest]
      exact derives

/-- An expression is derived from its tokens, and its occurrences are numbered apart. -/
theorem numbered_of_parseExpression {tokens : List Token} {nextId : NodeId} {e : Expr}
    (h : (parseExpression tokens nextId).1 = .ok e) :
    Grammar.Derives (.expression .whole) (readable tokens) e ∧
      Apart nextId (parseExpression tokens nextId).2 e.ids := by
  obtain ⟨outcome, t, n, isRun, ts, passes, rest⟩ :=
    Parser.exists_run_expression tokens nextId
  unfold parseExpression Parser.run at h ⊢
  rw [isRun] at h ⊢
  cases outcome with
  | error e => cases h
  | ok e' =>
    cases isErrors : t.errors with
    | cons e es =>
      simp only [isErrors] at h
      cases h
    | nil =>
      simp only [isErrors] at h ⊢
      cases h
      obtain ⟨isEnd, derives, apart⟩ := rest.2 (by rw [isErrors]; rfl)
      have isRest := passes.rest_eq
      rw [isEnd, List.append_nil] at isRest
      refine ⟨?_, apart⟩
      rw [show readable tokens = ts from isRest]
      exact derives

theorem derives_of_parseExpression {tokens : List Token} {nextId : NodeId} {e : Expr}
    (h : (parseExpression tokens nextId).1 = .ok e) :
    Grammar.Derives (.expression .whole) (readable tokens) e :=
  (numbered_of_parseExpression h).1

/-- Numbers are only used up when an expression is read, too. -/
theorem nextId_le_parseExpression (tokens : List Token) (nextId : NodeId) :
    nextId ≤ (parseExpression tokens nextId).2 := by
  obtain ⟨outcome, t, n, isRun, ts, passes, -⟩ := Parser.exists_run_expression tokens nextId
  have le : nextId ≤ t.nextId := passes.nextId_le
  unfold parseExpression Parser.run
  rw [isRun]
  cases outcome with
  | error e => exact le
  | ok e =>
    dsimp only
    split <;> exact le

end Lox
