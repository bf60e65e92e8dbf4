import Lox.Proofs.Lexical.Call

/-!
# The two evaluators agree

Related goals are treated in lockstep by both evaluators. What follows for runs of programs is said
here: from related states a program that fits the top level ends in the same way, unless the
evaluator with distances halts at a variable that is assigned in its own initializer.

## Main definitions

* `World.Ready`: related states between two programs.

## Main results

* `World.agrees`: all related goals are in lockstep.
* `World.lockstep_interpret`: so are runs of programs.
-/

namespace Lox.World

open Scope Evaluation

variable {w : World} {s s' : Interpreter} {program : List Stmt}

/-- The two evaluators treat related goals in lockstep. -/
theorem agrees (w₀ : World) : w₀.coupling.Agrees body (Job.body Lexical.step) := by
  refine Job.agrees_of_agree ?_
  rintro k ⟨w, p⟩ request request' s s' ⟨known, visited, related⟩
  have isSame : w₀.coupling = w.coupling := by
    unfold coupling
    rw [known, visited]
  rw [isSame]
  have halted {k : Phase} {goal goal' : Goal k} {fault : Fault} {t : Interpreter}
      (h : Halted w (Relation.ReflTransGen (Routine.Begets body) ⟨k, goal⟩)
        (fun f f' => f = goal.2.frame ∧ f' = goal'.2.frame) fault t) :
      w.coupling.Halt (w, p) goal goal' (.error fault, t) :=
    ⟨fault, t, rfl, h⟩
  have failed {k : Phase} {goal goal' : Goal k} {fault : Fault} {t t' : Interpreter}
      (h : Failed w (fun f f' => f = goal.2.frame ∧ f' = goal'.2.frame) fault t t') :
      w.coupling.Post (w, p) goal goal' (.error fault, t) (.error fault, t') := by
    obtain ⟨proper, w', grown, coherent, frame, frame'⟩ := h
    exact .failed proper grown coherent frame frame'
  cases related with
  | evaluate situation course visited wellScoped awaiting =>
    exact (lockstep_expression situation course visited wellScoped awaiting).mono
      (fun _ _ h => halted h) (fun _ _ _ h => failed h) fun _ _ _ _ h => h
  | execute situation course visited wellScoped settled =>
    exact (lockstep_statement situation course visited wellScoped settled).mono
      (fun _ _ h => halted h) (fun _ _ _ h => failed h) fun _ _ _ _ h => h
  | call coherent visited same sameArguments =>
    exact (lockstep_call coherent visited same sameArguments).mono
      (fun _ _ h => halted h) (fun _ _ _ h => failed h) fun _ _ _ _ h => h

/-! ### Runs -/

/-- Related states between two programs. -/
structure Ready (w : World) (s s' : Interpreter) : Prop where
  coherent : Coherent w s s'
  frame : s.frame = globalFrame
  frame' : s'.frame = globalFrame

/-- The context of the run of a program. -/
def Context.run (w : World) (program : List Stmt) (s : Interpreter)
    (visited : ∀ task, Routine.Arises body (interpret program s) task → w.visited task) :
    Context where
  base := w
  asks := Routine.Requests body (interpret program s)
  comes := Routine.Arises body (interpret program s)
  frames f f' := f = globalFrame ∧ f' = globalFrame
  visited task asked := visited task ⟨task, asked, .refl⟩
  reaches task _ asked course := ⟨task, asked, course⟩

/-- A run begins outside every scope. -/
theorem Ready.moment (ready : Ready w s s')
    (visited : ∀ task, Routine.Arises body (interpret program s) task → w.visited task) :
    Moment (.run w program s visited) w .top s s' where
  grown := .refl w
  situation :=
    { coherent := ready.coherent
      around := by
        rw [ready.frame, ready.frame']
        exact .root
      complete := nofun }
  course task _ parent maker given found := by
    rw [ready.frame, ready.coherent.sound.root] at found
    cases found
  keeps := ⟨ready.frame, ready.frame'⟩

/-- Programs run in lockstep. -/
theorem Ready.lockstep_interpret (ready : Ready w s s')
    (visited : ∀ task, Routine.Arises body (interpret program s) task → w.visited task)
    (wellScoped : Stmt.AllWellScoped w.known .top program) :
    Lockstep (.run w program s visited)
      (fun _ _ t t' => ∃ w', Extends anywhere w w' ∧ Ready w' t t')
      (interpret program) (interpret program) s s' := by
  refine ((ready.moment visited).executeAll (.inr rfl) wellScoped rfl).bind ?_
  rintro flow flow' t t' ⟨w', -, grown, coherent, ⟨frame, frame'⟩, sameFlow⟩
  cases sameFlow with
  | returned inFunction => cases inFunction
  | normal =>
    have isSame : t'.sink.flush = t.sink.flush := by rw [coherent.sink]
    have flushed : Coherent w' t.flush.2 t'.flush.2 :=
      { coherent with sink := congrArg Prod.snd isSame }
    refine Job.Agree.bind (Q := fun failure failure' u u' => failure' = failure ∧
      Coherent w' u u' ∧ u.frame = globalFrame ∧ u'.frame = globalFrame)
      (.modifyGet ⟨congrArg (·.1) isSame, flushed, frame, frame'⟩) ?_
    rintro failure failure' u u' ⟨isFailure, coherent, frame, frame'⟩
    subst isFailure
    cases failure' with
    | none => exact .pure ⟨w', grown.anywhere, coherent, frame, frame'⟩
    | some reason => exact .throw ⟨nofun, w', grown.anywhere, coherent, frame, frame'⟩

/-- A run of the evaluator with distances ends as the lexical one does, or else at a variable that
is assigned in its own initializer. -/
theorem Ready.interpret (ready : Ready w s s')
    (visited : ∀ task, Routine.Arises body (interpret program s) task → w.visited task)
    (wellScoped : Stmt.AllWellScoped w.known .top program) {moves : Nat}
    {outcome : Except Fault Unit} {t : Interpreter}
    (ended : Job.run step moves (Evaluation.interpret program) s = some (outcome, t)) :
    (∃ fault, outcome = .error fault ∧
        Culprit w (Routine.Arises body (Evaluation.interpret program s)) fault ∧
        ∃ w' t', Extends anywhere w w' ∧ Ready w' t t') ∨
      (∀ fault, outcome = .error fault → fault.kind ≠ .internal) ∧
        ∃ moves' w' t', Extends anywhere w w' ∧ Ready w' t t' ∧
          Job.run Lexical.step moves' (Evaluation.interpret program) s' = some (outcome, t') := by
  obtain ⟨n, meaning⟩ := (Job.exists_run_iff step).1 ⟨moves, ended⟩
  have agree := ready.lockstep_interpret visited wellScoped
  rcases Coupling.result_of_agree (fun k wp goal goal' a => (agrees w).solve) (fun _ _ => trivial)
    agree .refl meaning with halted | ⟨⟨outcome', t'⟩, ⟨m, meaning'⟩, related⟩
  · cases outcome with
    | ok _ => exact halted.elim
    | error fault =>
      obtain ⟨culprit, w', t', grown, coherent, frame, frame'⟩ := halted
      exact .inl ⟨fault, rfl, culprit, w', t', grown, coherent, frame, frame'⟩
  · obtain ⟨moves', ended'⟩ := (Job.exists_run_iff Lexical.step).2 ⟨m, meaning'⟩
    refine .inr ?_
    cases outcome with
    | ok result =>
      cases outcome' with
      | ok result' =>
        obtain ⟨w', grown, ready'⟩ := related
        exact ⟨nofun, moves', w', t', grown, ready', ended'⟩
      | error fault' => exact related.elim
    | error fault =>
      cases outcome' with
      | ok result' => exact related.elim
      | error fault' =>
        obtain ⟨rfl, proper, w', grown, coherent, frame, frame'⟩ := related
        refine ⟨?_, moves', w', t', grown, ⟨coherent, frame, frame'⟩, ended'⟩
        rintro _ ⟨⟩
        exact proper

/-- Every goal that comes up in a run comes up in related states at its place. -/
theorem Ready.arises (ready : Ready w s s')
    (visited : ∀ task, Routine.Arises body (Evaluation.interpret program s) task → w.visited task)
    (wellScoped : Stmt.AllWellScoped w.known .top program) {task : Task}
    (arises : Routine.Arises body (Evaluation.interpret program s) task) :
    ∃ (w' : World) (p : Position) (goal' : Goal task.1), w'.known = w.known ∧
      w'.visited = w.visited ∧ Related w' p task.2 goal' ∧
        ∀ answer, Routine.Answers body task.2 answer →
          w.coupling.Halt (w', p) task.2 goal' answer →
            ∃ fault t, Routine.Rest body (Evaluation.interpret program s)
              (.done (.error fault, t)) ∧
              Culprit w (Routine.Arises body (Evaluation.interpret program s)) fault := by
  obtain ⟨⟨w', p⟩, goal', ⟨known, isVisited, related⟩, halts⟩ :=
    (agrees w).arises (fun _ asked => asked) (ready.lockstep_interpret visited wellScoped) arises
  refine ⟨w', p, goal', known, isVisited, related, fun answer answered halted => ?_⟩
  obtain ⟨⟨outcome, t⟩, rest, ends⟩ := halts answer answered halted
  cases outcome with
  | ok _ => exact ends.elim
  | error fault => exact ⟨fault, t, rest, ends.1⟩

/-- A part of an expression that is evaluated first has related values. -/
theorem Related.part_answers {w' : World} {p : Position} {e part : Expr} {r : Interpreter}
    {goal' : Goal .value} (related : Related w' p ((.evaluate e, r) : Goal .value) goal')
    (begets : Routine.Begets body (evaluating e r) (evaluating part r))
    (wellScoped : part.WellScoped w'.known p) {v : Value} {t : Interpreter}
    (answered : Routine.Answers body ((.evaluate part, r) : Goal .value) (.ok v, t)) :
    ∃ (r' : Interpreter) (w'' : World) (t' : Interpreter) (v' : Value), Situation w' p r r' ∧
      goal' = (.evaluate e, r') ∧ p.Awaiting ∧ Extends nowhere w' w'' ∧ Coherent w'' t t' ∧
      t.frame = r.frame ∧ t'.frame = r'.frame ∧ Same w'' v v' := by
  cases related with
  | @evaluate _ _ r' situation course visited _ awaiting =>
    have course' : w'.Course r.frame (evaluating part r) :=
      fun parent maker given found => .tail (course parent maker given found) begets
    have visited' := situation.coherent.sound.closed _ _ visited begets
    rcases (agrees w').answers (w := (w', p))
        ⟨rfl, rfl, .evaluate situation course' visited' wellScoped awaiting⟩ answered with
      ⟨fault, t', isFault, -⟩ | ⟨answer', -, settled⟩
    · cases isFault
    · cases settled with
      | value grown coherent frame frame' same =>
        exact ⟨r', _, _, _, situation, rfl, awaiting, grown, coherent, frame, frame', same⟩

/-- An assignment of a variable in its own initializer, once the assigned value is there, is
answered with a failure. -/
theorem Related.assign_answers {w' : World} {p : Position} {o : Occurrence} {value : Expr}
    {r : Interpreter} {goal' : Goal .value}
    (related : Related w' p ((.evaluate (.assign o value), r) : Goal .value) goal')
    (pending : w'.known p .assignment o → p.pending = some o.name.lexeme) {v : Value}
    {t : Interpreter}
    (answered : Routine.Answers body ((.evaluate value, r) : Goal .value) (.ok v, t)) :
    ∃ answer, Routine.Answers body ((.evaluate (.assign o value), r) : Goal .value) answer ∧
      w'.coupling.Halt (w', p) (.evaluate (.assign o value), r) goal' answer := by
  obtain ⟨isKnown, wellScoped⟩ :
      w'.known p .assignment o ∧ value.WellScoped w'.known p := by
    cases related with
    | evaluate _ _ _ wellScoped =>
      cases wellScoped with
      | assign isKnown _ h => exact ⟨isKnown, h⟩
  have isPending := pending isKnown
  obtain ⟨r', w'', t', v', situation, rfl, awaiting, grown, coherent, frame, frame', -⟩ :=
    related.part_answers (.inl ⟨_, .refl⟩) wellScoped answered
  have later := situation.later grown coherent frame frame'
  have isTarget := later.target_of_pending (grown.known ▸ isKnown) isPending awaiting
  refine ⟨(.error (Heap.misplaced o.name.lexeme 0 o.name.line), t), ?_, ?_⟩
  · refine Routine.answers_of_rest_answer ?_
    have rest :=
      Routine.Rest.step (r := body .value (.evaluate (.assign o value), r)) .refl answered
    change Routine.Rest body _
      (Routine.bind (Routine.bind (Evaluation.assign o v t) _) _) at rest
    rw [assign_of_target isTarget] at rest
    exact rest
  · exact ⟨_, t, rfl, ⟨o, value, r, .refl, ⟨p, isKnown, isPending⟩, rfl, v, t, answered⟩,
      _, _, grown.anywhere, coherent, frame, frame'⟩

/-- A variable is assigned in its own initializer in the course of a run, and the assigned value is
there. -/
def Misassigned (w : World) (comes : Task → Prop) : Prop :=
  ∃ (o : Occurrence) (value : Expr) (r : Interpreter),
    comes (evaluating (.assign o value) r) ∧
      (∃ p, w.known p .assignment o ∧ p.pending = some o.name.lexeme) ∧
      ∃ v t, Routine.Answers body ((.evaluate value, r) : Goal .value) (.ok v, t)

/-- A run ends with a defect of the evaluator exactly if a variable is assigned in its own
initializer. -/
theorem Ready.internal_iff (ready : Ready w s s')
    (visited : ∀ task, Routine.Arises body (Evaluation.interpret program s) task → w.visited task)
    (wellScoped : Stmt.AllWellScoped w.known .top program)
    (unique : ∀ p p' o, w.known p .assignment o → w.known p' .assignment o →
      p.pending = some o.name.lexeme → p'.pending = some o.name.lexeme) {moves : Nat}
    {outcome : Except Fault Unit} {t : Interpreter}
    (ended : Job.run step moves (Evaluation.interpret program) s = some (outcome, t)) :
    (∃ fault, outcome = .error fault ∧ fault.kind = .internal) ↔
      Misassigned w (Routine.Arises body (Evaluation.interpret program s)) := by
  constructor
  · rintro ⟨fault, rfl, isInternal⟩
    rcases ready.interpret visited wellScoped ended with
      ⟨_, -, ⟨o, value, r, comes, pending, -, answered⟩, -⟩ | ⟨proper, -⟩
    · exact ⟨o, value, r, comes, pending, answered⟩
    · exact absurd isInternal (proper fault rfl)
  · rintro ⟨o, value, r, comes, ⟨p, isKnown, isPending⟩, v, t', answered⟩
    obtain ⟨w', p', goal', known, isVisited, related, halts⟩ :=
      ready.arises visited wellScoped comes
    have pending (isKnown' : w'.known p' .assignment o) : p'.pending = some o.name.lexeme :=
      unique p p' o isKnown (known ▸ isKnown') isPending
    obtain ⟨answer, answered', halted⟩ := related.assign_answers pending answered
    obtain ⟨fault, u, rest, o', _, _, _, _, rfl, _⟩ := halts answer answered' halted
    obtain ⟨m, meaning⟩ := rest.denote_eq (n := 0) rfl
    obtain ⟨moves', ended'⟩ := (Job.exists_run_iff step).2 ⟨m, meaning⟩
    have same := Job.run_mono step (Nat.le_max_left moves moves') ended
    rw [Job.run_mono step (Nat.le_max_right moves moves') ended'] at same
    cases same
    exact ⟨_, rfl, rfl⟩

end Lox.World
