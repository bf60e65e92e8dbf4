import Lox.Proofs.Session.Matched

/-!
# Steps that are rejected leave no trace

A step of a session that is rejected before it runs may use up numbers of occurrences and leave
distances behind. The steps after it number their occurrences differently from then on, but they are
read as programs that are the same up to labels, and run alike: what they report is what they report
without the rejected step.

## Main definitions

* `Turn`, `Interpreter.take`: a step of a session, in which a source is run.
* `Interpreter.play`: run sources one after the other.

## Main results

* `Interpreter.Matched.play`: matched sessions report the same.
* `Interpreter.play_rejected`: the other steps of a session report the same without a rejected step.
-/

namespace Lox

open Scope

/-- An error that is found before anything is executed. -/
def Diagnostic.IsStatic (e : Diagnostic) : Prop :=
  ∀ fault, e ≠ .fault fault

/-- A step of a session: numbers of occurrences are left out, and then a source is run within a
number of moves. -/
structure Turn where
  skipped : Nat
  moves : Nat
  source : String

namespace Interpreter

/-- A step of a session. -/
def take (i : Interpreter) (turn : Turn) : Option (List Diagnostic × Interpreter) :=
  (i.skip turn.skipped).run turn.moves turn.source

/-- Take steps one after the other. The result is what each of them shows, and the state at the
end. -/
def play (i : Interpreter) : List Turn → Option (List StepReport × Interpreter)
  | [] => some ([], i)
  | turn :: turns =>
    (i.take turn).bind fun (errors, j) =>
      (j.play turns).map fun (reports, k) => (.of (errors, j) :: reports, k)

variable {i i' j : Interpreter} {turn : Turn} {moves : Nat} {source : String}
  {errors : List Diagnostic} {turns : List Turn} {reports : List StepReport}

theorem play_append (i : Interpreter) (before after : List Turn) :
    i.play (before ++ after) =
      (i.play before).bind fun (reports, j) =>
        (j.play after).map fun (reports', k) => (reports ++ reports', k) := by
  induction before generalizing i with
  | nil => exact Option.map_id'.symm
  | cons turn before ih =>
    rw [List.cons_append, play, play, Option.bind_assoc]
    refine congrArg (Option.bind _) (funext fun (errors, j) => ?_)
    dsimp only
    rw [ih]
    cases j.play before with
    | none => rfl
    | some r => exact Option.map_map ..

theorem length_of_play (ended : i.play turns = some (reports, j)) :
    reports.length = turns.length := by
  induction turns generalizing i reports with
  | nil =>
    cases ended
    rfl
  | cons turn turns ih =>
    obtain ⟨⟨errors, k⟩, -, ended⟩ := Option.bind_eq_some_iff.1 ended
    obtain ⟨⟨rest, k'⟩, isRest, isReports⟩ := Option.map_eq_some_iff.1 ended
    cases isReports
    exact congrArg (· + 1) (ih isRest)

/-- Matched sessions report the same. -/
theorem Matched.play (h : Matched Eq i i') (turns : List Turn) :
    Option.Rel (fun r r' => r'.1 = r.1 ∧ Matched Eq r.2 r'.2) (i.play turns) (i'.play turns) := by
  induction turns generalizing i i' with
  | nil => exact .some ⟨rfl, h⟩
  | cons turn turns ih =>
    have runs := (h.skip turn.skipped turn.skipped).run turn.moves turn.source
    unfold Interpreter.play take
    generalize (i.skip turn.skipped).run turn.moves turn.source = o at runs
    generalize (i'.skip turn.skipped).run turn.moves turn.source = o' at runs
    cases runs with
    | none => exact .none
    | @some r r' runs =>
      obtain ⟨errors, j⟩ := r
      obtain ⟨errors', j'⟩ := r'
      obtain ⟨isError, matched⟩ := runs
      obtain rfl : errors' = errors :=
        (List.forall₂_eq_eq_eq ▸ isError.imp fun _ _ h => h.eq_of_lines.symm :
          errors = errors').symm
      have rest := ih matched
      dsimp only [Option.bind_some]
      generalize j.play turns = o at rest
      generalize j'.play turns = o' at rest
      cases rest with
      | none => exact .none
      | some rest =>
        refine .some ⟨?_, rest.2⟩
        dsimp only [StepReport.of]
        rw [matched.sink, matched.view, rest.1]

/-- A step with a static error is rejected: nothing is executed, and the state is the same but for
the table and the number of the next occurrence. -/
theorem rejected_of_isStatic (ended : i.run moves source = some (errors, j))
    (rejected : ∃ e ∈ errors, e.IsStatic) :
    i.executions source = [] ∧ ∃ n table, i.nextId ≤ n ∧ j = i.retabled n table ∧
      ∀ id, id < i.nextId ∨ n ≤ id → table[id]? = i.distances[id]? := by
  rcases run_cases ended with ⟨isLoaded, noExecution⟩ | ⟨_, _, outcome, -, -, -, isErrors⟩
  · obtain ⟨n, table, le, isState, stays⟩ := i.exists_load source
    rw [isLoaded] at isState
    exact ⟨noExecution, n, table, le, isState, stays⟩
  · obtain ⟨e, mem, isStatic⟩ := rejected
    rw [isErrors] at mem
    cases outcome with
    | ok _ => cases mem
    | error fault => exact (isStatic fault (List.mem_singleton.1 mem)).elim

/-- A step of a session that returns a lexical, a syntax or a scope error leaves no trace. Nothing
is executed, and nothing changes but the table and the number of the next occurrence. The other
steps of the session report the same as in the session without that step, and end within the same
numbers of moves, if they do: their errors, all output up to each of them, and the global names with
the sorts and the printed texts of their values. -/
theorem play_rejected (sink : Sink) (clock : Clock) {i j : Interpreter} {turn : Turn}
    {errors : List Diagnostic} {before : List Turn} {reports : List StepReport}
    (begun : (start sink clock).play before = some (reports, i))
    (ended : i.take turn = some (errors, j)) (rejected : ∃ e ∈ errors, e.IsStatic)
    (after : List Turn) :
    (i.skip turn.skipped).executions turn.source = [] ∧ j.sink = i.sink ∧ j.view = i.view ∧
      (∃ n table, j = i.retabled n table) ∧
      ((start sink clock).play (before ++ after)).map Prod.fst =
        ((start sink clock).play (before ++ turn :: after)).map fun r =>
          r.1.eraseIdx before.length := by
  obtain ⟨noExecution, n, table, le, isState, stays⟩ := rejected_of_isStatic ended rejected
  have since : i.nextId ≤ i.nextId + turn.skipped := Nat.le_add_right _ _
  have isView : j.view = i.view := by
    rw [isState]
    rfl
  have isSink : j.sink = i.sink := by
    rw [isState]
    rfl
  refine ⟨noExecution, isSink, isView, ⟨n, table, isState⟩, ?_⟩
  have begins := (matched_start sink clock).play before
  rw [begun] at begins
  cases begins with
  | @some _ _ begins =>
  obtain ⟨c, isEq, matching⟩ := begins.2
  have matched : Matched Eq i j := by
    have later := matching.retable (Nat.le_refl _) (since.trans le) (fun _ _ => rfl)
      fun id outside => stays id (outside.imp_left fun lt => Nat.lt_of_lt_of_le lt since)
    rw [isState]
    exact ⟨c, isEq, later⟩
  have rest := matched.play after
  rw [play_append, play_append, begun]
  dsimp only [Option.bind_some, play]
  rw [ended]
  dsimp only [Option.bind_some]
  generalize i.play after = o at rest
  generalize j.play after = o' at rest
  cases rest with
  | none => rfl
  | @some r r' rest =>
    obtain ⟨reports', k⟩ := r
    obtain ⟨reports'', k'⟩ := r'
    cases rest.1
    rw [← length_of_play begun]
    dsimp only [Option.map_some]
    rw [List.eraseIdx_append_of_length_le (Nat.le_refl _), Nat.sub_self, List.eraseIdx_cons_zero]

/-- A block that is rejected although a distance was found in it. -/
theorem play_rejected_return :
    let i := start .unlimited fun _ => .ok 0
    let source := "\x7b var a; a; return; \x7d"
    let error : ScopeError := ⟨⟨.keyword .return_, "return", 1⟩, .returnOutsideFunction⟩
    ∃ j, i.run 0 source = some ([.scoping error], j) ∧ j.distances[0]? = some 0 ∧
      (i.play [⟨0, 100, "\x7b var a; a; \x7d"⟩]).map Prod.fst =
        (i.play [⟨0, 0, source⟩, ⟨0, 100, "\x7b var a; a; \x7d"⟩]).map fun r =>
          r.1.eraseIdx 0 := by
  intro i source error
  have proper : ∀ fault, Diagnostic.scoping error ≠ .fault fault := nofun
  have isTokens : tokenize source = .ok [⟨.symbol .leftBrace, "\x7b", 1⟩,
      ⟨.keyword .var_, "var", 1⟩, ⟨.identifier, "a", 1⟩, ⟨.symbol .semicolon, ";", 1⟩,
      ⟨.identifier, "a", 1⟩, ⟨.symbol .semicolon, ";", 1⟩, ⟨.keyword .return_, "return", 1⟩,
      ⟨.symbol .semicolon, ";", 1⟩, ⟨.symbol .rightBrace, "\x7d", 1⟩, ⟨.endOfInput, "", 1⟩] := by
    cbv
  have isParsed : i.parse source = (.ok [.block [.varDecl ⟨.identifier, "a", 1⟩ none,
      .expression (.reference ⟨0, ⟨.identifier, "a", 1⟩⟩),
      .ret ⟨.keyword .return_, "return", 1⟩ none]], i.retabled 1 ∅) := by
    rw [parse, isTokens]
    rfl
  have isVerdict : analyse (programEvents [.block [.varDecl ⟨.identifier, "a", 1⟩ none,
      .expression (.reference ⟨0, ⟨.identifier, "a", 1⟩⟩),
      .ret ⟨.keyword .return_, "return", 1⟩ none]]) = ⟨[error], [(0, 0)]⟩ := by
    cbv
  have ended : i.run 0 source =
      some ([.scoping error], (i.retabled 1 ∅).recordDistances [(0, 0)]) := by
    rw [run, load, isParsed]
    dsimp only
    rw [bindProgram, isVerdict]
    rfl
  have taken : i.take ⟨0, 0, source⟩ = some ([.scoping error],
      (i.retabled 1 ∅).recordDistances [(0, 0)]) := ended
  obtain ⟨-, -, -, -, same⟩ := play_rejected .unlimited (fun _ => .ok 0)
    (show i.play [] = some ([], i) from rfl) taken ⟨_, List.mem_singleton_self _, proper⟩
    [⟨0, 100, "\x7b var a; a; \x7d"⟩]
  exact ⟨_, ended, rfl, same⟩

end Interpreter

end Lox
