import Lox.Proofs.Lexical.Lookup
import Mathlib.Data.List.Forall2
import Lox.Proofs.Routine.Lockstep

/-!
# The two evaluators in lockstep

Both evaluators are asked for the same goals in related states, at a place in a program whose layers
their frames follow. They end in related ways, except that the first comes to a halt where a
variable is assigned in its own initializer: it takes the variable for bound, and it is not.

## Main definitions

* `World.Situation`: related states at a place.
* `World.Related`, `World.Settled`, `World.Halted`: related goals, related outcomes, and failures
  that only the first evaluator has.
* `World.coupling`: these three together.
* `World.Context`, `World.Lockstep`: jobs in lockstep in the course of a treatment.

## Main results

* `World.Moment.evaluate`, `World.Moment.execute`, `World.Moment.call`: requests in lockstep.
* `World.lockstep_within`: jobs in another frame.
-/

namespace Lox

open Scope Evaluation

namespace World

/-! ### States at a place -/

/-- Related states at a place. The innermost layer has all the names of the current frame. -/
structure Situation (w : World) (p : Position) (s s' : Interpreter) : Prop where
  coherent : Coherent w s s'
  around : Around w s.frame s'.frame p.layers
  complete : ∀ layer, p.layers.head? = some layer → ∀ (g : FrameId) (cell : Cell) (x : String),
    w.cells[g]? = some cell → cell.owner = s.frame → cell.name = some x → x ∈ layer.names

/-- A goal comes up in the course of the goal that made a frame. -/
def Course (w : World) (f : FrameId) (task : Task) : Prop :=
  ∀ parent maker given, w.frames[f]? = some ⟨parent, some maker, given⟩ →
    Relation.ReflTransGen (Routine.Begets body) maker task

/-! ### Goals and outcomes -/

/-- Related goals. -/
inductive Related (w : World) (p : Position) : {k : Phase} → Goal k → Goal k → Prop
  | evaluate {e : Expr} {s s' : Interpreter} (situation : Situation w p s s')
      (course : w.Course s.frame (evaluating e s)) (visited : w.visited (evaluating e s))
      (wellScoped : e.WellScoped w.known p) (awaiting : p.Awaiting) :
      Related w p ((.evaluate e, s) : Goal .value) (.evaluate e, s')
  | execute {stmt : Stmt} {s s' : Interpreter} (situation : Situation w p s s')
      (course : w.Course s.frame (executing stmt s)) (visited : w.visited (executing stmt s))
      (wellScoped : stmt.WellScoped w.known p) (settled : p.pending = none) :
      Related w p ((.execute stmt, s) : Goal .flow) (.execute stmt, s')
  | call {callee callee' : Value} {arguments arguments' : List Value} {line : Nat}
      {s s' : Interpreter} (coherent : Coherent w s s')
      (visited : w.visited (calling callee arguments line s)) (same : Same w callee callee')
      (sameArguments : List.Forall₂ (Same w) arguments arguments') :
      Related w p ((.call callee arguments line, s) : Goal .value)
        (.call callee' arguments' line, s')

/-- The name that a statement may add to a frame. -/
def Declares (declared : Option String) (f : FrameId) : FrameId → String → Prop :=
  fun f' x => f' = f ∧ declared = some x

/-- Related outcomes of related goals. -/
inductive Settled (w : World) (p : Position) :
    {k : Phase} → Goal k → Goal k → Answer k → Answer k → Prop
  | value {request request' : Request .value} {s s' t t' : Interpreter} {v v' : Value} {w' : World}
      (grown : Extends nowhere w w') (coherent : Coherent w' t t') (frame : t.frame = s.frame)
      (frame' : t'.frame = s'.frame) (same : Same w' v v') :
      Settled w p ((request, s) : Goal .value) (request', s') (.ok v, t) (.ok v', t')
  | normal {stmt : Stmt} {s s' t t' : Interpreter} {w' : World}
      (grown : Extends (Declares stmt.declared? s.frame) w w') (coherent : Coherent w' t t')
      (frame : t.frame = s.frame) (frame' : stmt.declared? = none → t'.frame = s'.frame)
      (around : Around w' t.frame t'.frame (p.after stmt).layers) :
      Settled w p ((.execute stmt, s) : Goal .flow) (.execute stmt, s') (.ok .normal, t)
        (.ok .normal, t')
  | returned {stmt : Stmt} {s s' t t' : Interpreter} {v v' : Value} {w' : World}
      (inFunction : p.inFunction = true) (grown : Extends nowhere w w')
      (coherent : Coherent w' t t') (frame : t.frame = s.frame) (frame' : t'.frame = s'.frame)
      (same : Same w' v v') :
      Settled w p ((.execute stmt, s) : Goal .flow) (.execute stmt, s') (.ok (.returned v), t)
        (.ok (.returned v'), t')
  | failed {k : Phase} {request request' : Request k} {s s' t t' : Interpreter} {fault : Fault}
      {w' : World} (proper : fault.kind ≠ .internal) (grown : Extends anywhere w w')
      (coherent : Coherent w' t t') (frame : t.frame = s.frame) (frame' : t'.frame = s'.frame) :
      Settled w p (request, s) (request', s') (.error fault, t) (.error fault, t')

/-- A variable is assigned in its own initializer, and the assigned value is there. -/
def Culprit (w : World) (comes : Task → Prop) (fault : Fault) : Prop :=
  ∃ (o : Occurrence) (value : Expr) (s : Interpreter),
    comes (evaluating (.assign o value) s) ∧
      (∃ p, w.known p .assignment o ∧ p.pending = some o.name.lexeme) ∧
      fault = Heap.misplaced o.name.lexeme 0 o.name.line ∧
      ∃ v t, Routine.Answers body ((.evaluate value, s) : Goal .value) (.ok v, t)

/-- The first evaluator fails for such an assignment. Its state is still related to some state of
the other one. -/
def Halted (w : World) (comes : Task → Prop) (frames : FrameId → FrameId → Prop) (fault : Fault)
    (t : Interpreter) : Prop :=
  Culprit w comes fault ∧
    ∃ (w' : World) (t' : Interpreter), Extends anywhere w w' ∧ Coherent w' t t' ∧
      frames t.frame t'.frame

/-- Both evaluators fail, with a fault that the program has brought about. -/
def Failed (w : World) (frames : FrameId → FrameId → Prop) (fault : Fault)
    (t t' : Interpreter) : Prop :=
  fault.kind ≠ .internal ∧ ∃ w', Extends anywhere w w' ∧ Coherent w' t t' ∧ frames t.frame t'.frame

/-- How goals and outcomes of the two evaluators belong together, with what a world knows. -/
def coupling (w₀ : World) : Coupling (World × Position) Goal Answer where
  Pre wp goal goal' :=
    wp.1.known = w₀.known ∧ wp.1.visited = w₀.visited ∧ Related wp.1 wp.2 goal goal'
  Post wp goal goal' answer answer' := Settled wp.1 wp.2 goal goal' answer answer'
  Halt {k} wp goal goal' answer := ∃ fault t, answer = (.error fault, t) ∧
    Halted wp.1 (Relation.ReflTransGen (Routine.Begets body) ⟨k, goal⟩)
      (fun f f' => f = goal.2.frame ∧ f' = goal'.2.frame) fault t

/-! ### Jobs -/

/-- Where jobs are done: the world in the beginning, the goals that are asked for and those that
come up, and the frames in which failures end. -/
structure Context where
  base : World
  asks : Task → Prop
  comes : Task → Prop
  frames : FrameId → FrameId → Prop
  visited : ∀ task, asks task → base.visited task
  reaches : ∀ task later, asks task → Relation.ReflTransGen (Routine.Begets body) task later →
    comes later

/-- Two jobs in lockstep. -/
abbrev Lockstep {α β : Type} (c : Context)
    (Q : α → β → Interpreter → Interpreter → Prop) (job : Eval α) (job' : Eval β)
    (s s' : Interpreter) : Prop :=
  Job.Agree step c.base.coupling c.asks (Halted c.base c.comes c.frames) (Failed c.base c.frames) Q
    job job' s s'

/-- States at a place in the course of a treatment. -/
structure Moment (c : Context) (w : World) (p : Position) (s s' : Interpreter) : Prop where
  grown : Extends nowhere c.base w
  situation : Situation w p s s'
  course : ∀ task, c.asks task → w.Course s.frame task
  keeps : c.frames s.frame s'.frame

/-- A job has left the current frames as they were and added no names to old frames. -/
def Then {α β : Type} (c : Context) (w : World) (p : Position) (s s' : Interpreter)
    (related : World → α → β → Prop) (a : α) (b : β) (t t' : Interpreter) : Prop :=
  ∃ w', Extends nowhere w w' ∧ Moment c w' p t t' ∧ t.frame = s.frame ∧ t'.frame = s'.frame ∧
    related w' a b

variable {w w' : World} {p : Position} {s s' t t' : Interpreter} {c : Context}

/-- An old frame stays as it was. -/
theorem Extends.frame_eq {own : FrameId → String → Prop} (grown : Extends own w w') {f : FrameId}
    (old : f < w.frames.length) : w'.frames[f]? = w.frames[f]? := by
  obtain ⟨rest, isRest⟩ := grown.frames
  rw [← isRest, List.getElem?_append_left old]

/-- An old frame of the lexical evaluator stays as it was. -/
theorem Extends.cell_eq {own : FrameId → String → Prop} (grown : Extends own w w') {g : FrameId}
    (old : g < w.cells.length) : w'.cells[g]? = w.cells[g]? := by
  obtain ⟨rest, isRest⟩ := grown.cells
  rw [← isRest, List.getElem?_append_left old]

/-- The place stays the same while no names are added to its frame. -/
theorem Situation.later (situation : Situation w p s s') (grown : Extends nowhere w w')
    (coherent : Coherent w' t t') (frame : t.frame = s.frame) (frame' : t'.frame = s'.frame) :
    Situation w' p t t' := by
  have inside := (situation.around.inside situation.coherent.sound).1
  refine ⟨coherent, frame ▸ frame' ▸ situation.around.mono grown.le, ?_⟩
  intro layer isLayer g cell x found owner named
  rw [frame] at owner
  rcases Nat.lt_or_ge g w.cells.length with old | new
  · rw [grown.cell_eq old] at found
    exact situation.complete layer isLayer g cell x found owner named
  · rcases grown.names g cell x found new named with fresh | isOwn
    · exact absurd (owner ▸ fresh) (Nat.not_le_of_lt inside)
    · exact isOwn.elim

theorem Course.later {own : FrameId → String → Prop} (grown : Extends own w w') {f : FrameId}
    (inside : f < w.frames.length) {task : Task} (course : w.Course f task) :
    w'.Course f task := by
  intro parent maker given found
  rw [grown.frame_eq inside] at found
  exact course parent maker given found

/-- The course of a treatment goes on in later states. -/
theorem Moment.later (m : Moment c w p s s') (grown : Extends nowhere w w')
    (coherent : Coherent w' t t') (frame : t.frame = s.frame) (frame' : t'.frame = s'.frame) :
    Moment c w' p t t' := by
  have inside := (m.situation.around.inside m.situation.coherent.sound).1
  refine ⟨m.grown.trans grown, m.situation.later grown coherent frame frame', ?_, ?_⟩
  · exact fun task asked => frame ▸ (m.course task asked).later grown inside
  · rw [frame, frame']
    exact m.keeps

theorem Moment.known (m : Moment c w p s s') : w.known = c.base.known :=
  m.grown.known

/-! ### Requests -/

/-- A halt of a goal that is asked for is one of the whole. -/
theorem Halted.of_request (grown : Extends nowhere c.base w) {task : Task} (asked : c.asks task)
    {frames : FrameId → FrameId → Prop} (keeps : ∀ f f', frames f f' → c.frames f f')
    {fault : Fault}
    (h : Halted w (Relation.ReflTransGen (Routine.Begets body) task) frames fault t) :
    Halted c.base c.comes c.frames fault t := by
  obtain ⟨⟨o, value, u, comes, ⟨p, isKnown, pending⟩, rest⟩, w', t', grown', coherent, hFrames⟩ := h
  rw [grown.known] at isKnown
  exact ⟨⟨o, value, u, c.reaches task _ asked comes, ⟨p, isKnown, pending⟩, rest⟩, w', t',
    grown.anywhere.trans grown', coherent, keeps _ _ hFrames⟩

/-- Expressions are evaluated in lockstep. -/
theorem Moment.evaluate (m : Moment c w p s s') {e : Expr}
    (wellScoped : e.WellScoped c.base.known p) (awaiting : p.Awaiting) :
    Lockstep c (fun v v' t t' => Then c w p s s' Same v v' t t' ∧
      Routine.Answers body ((.evaluate e, s) : Goal .value) (.ok v, t))
      (evaluate e) (evaluate e) s s' := by
  have keeps (f f' : FrameId) (h : f = s.frame ∧ f' = s'.frame) : c.frames f f' := by
    obtain ⟨rfl, rfl⟩ := h
    exact m.keeps
  refine Job.Agree.ask (k := Phase.value) (w, p) (fun asked => ?_) (fun asked answer halted => ?_)
    fun answer answer' answered settled => ?_
  · have visited := m.grown.visited ▸ c.visited _ asked
    exact ⟨m.known, m.grown.visited,
      .evaluate m.situation (m.course _ asked) visited (m.known ▸ wellScoped) awaiting⟩
  · obtain ⟨fault, t, rfl, halted⟩ := halted
    exact ⟨fault, t, rfl, halted.of_request m.grown asked keeps⟩
  · cases settled with
    | value grown coherent frame frame' same =>
      exact ⟨⟨_, grown, m.later grown coherent frame frame', frame, frame', same⟩, answered⟩
    | failed proper grown coherent frame frame' =>
      exact ⟨rfl, proper, _, m.grown.anywhere.trans grown, coherent, keeps _ _ ⟨frame, frame'⟩⟩

/-- Statements are executed in lockstep. -/
theorem Moment.execute (m : Moment c w p s s') {stmt : Stmt}
    (wellScoped : stmt.WellScoped c.base.known p) (settled : p.pending = none) :
    Lockstep c (fun flow flow' t t' => Settled w p ((.execute stmt, s) : Goal .flow)
      (.execute stmt, s') (.ok flow, t) (.ok flow', t')) (execute stmt) (execute stmt) s s' := by
  have keeps (f f' : FrameId) (h : f = s.frame ∧ f' = s'.frame) : c.frames f f' := by
    obtain ⟨rfl, rfl⟩ := h
    exact m.keeps
  refine Job.Agree.ask (k := Phase.flow) (w, p) (fun asked => ?_) (fun asked answer halted => ?_)
    fun answer answer' _ settled => ?_
  · have visited := m.grown.visited ▸ c.visited _ asked
    exact ⟨m.known, m.grown.visited,
      .execute m.situation (m.course _ asked) visited (m.known ▸ wellScoped) settled⟩
  · obtain ⟨fault, t, rfl, halted⟩ := halted
    exact ⟨fault, t, rfl, halted.of_request m.grown asked keeps⟩
  · cases settled with
    | normal grown coherent frame frame' around =>
      exact .normal grown coherent frame frame' around
    | returned inFunction grown coherent frame frame' same =>
      exact .returned inFunction grown coherent frame frame' same
    | failed proper grown coherent frame frame' =>
      exact ⟨rfl, proper, _, m.grown.anywhere.trans grown, coherent, keeps _ _ ⟨frame, frame'⟩⟩

/-! ### Outcomes -/

/-- Both jobs fail alike. -/
theorem Moment.fail (m : Moment c w p s s') {α β : Type}
    {Q : α → β → Interpreter → Interpreter → Prop} {cause : Fault.Cause} {line : Nat}
    (proper : cause.kind ≠ .internal) :
    Lockstep c Q (fail cause line) (fail cause line) s s' :=
  .throw ⟨proper, w, m.grown.anywhere, m.situation.coherent, m.keeps⟩

/-- Related outcomes. -/
theorem Moment.check (m : Moment c w p s s') {r r' : Except Fault Value}
    (same : SameResult w r r') : Lockstep c (Then c w p s s' Same) (check r) (check r') s s' := by
  cases same with
  | ok same => exact .pure ⟨w, .refl w, m, rfl, rfl, same⟩
  | error proper => exact .throw ⟨proper, w, m.grown.anywhere, m.situation.coherent, m.keeps⟩

theorem Then.of_moment {α β : Type} {related : World → α → β → Prop} {a : α} {b : β}
    (m : Moment c w p s s') (isRelated : related w a b) : Then c w p s s' related a b s s' :=
  ⟨w, .refl w, m, rfl, rfl, isRelated⟩

/-- Jobs after other ones. -/
theorem Then.agree {α β γ δ : Type} {related : World → α → β → Prop}
    {related' : World → γ → δ → Prop} {a : α} {b : β} {job : Eval γ} {job' : Eval δ}
    (h : Then c w p s s' related a b t t') (h' : ∀ w', Extends nowhere w w' → Moment c w' p t t' →
      related w' a b → Lockstep c (Then c w' p t t' related') job job' t t') :
    Lockstep c (Then c w p s s' related') job job' t t' := by
  obtain ⟨w', grown, m, frame, frame', isRelated⟩ := h
  refine (h' w' grown m isRelated).mono (fun _ _ h => h) (fun _ _ _ h => h) fun a b u u' later => ?_
  obtain ⟨w'', grown', m', newFrame, newFrame', isRelated'⟩ := later
  exact ⟨w'', grown.trans grown', m', newFrame.trans frame, newFrame'.trans frame', isRelated'⟩

/-! ### Treatments -/

section Treatment

variable {k : Phase} {goal goal' : Goal k}

/-- The context of the treatment of a goal. -/
def Context.of (w : World) (goal goal' : Goal k) (sound : w.Sound)
    (visited : w.visited ⟨k, goal⟩) : Context where
  base := w
  asks := Routine.Requests body (body k goal)
  comes := Relation.ReflTransGen (Routine.Begets body) ⟨k, goal⟩
  frames f f' := f = goal.2.frame ∧ f' = goal'.2.frame
  visited task asked := sound.closed _ task visited (.inl asked)
  reaches _ _ asked course := .head (.inl asked) course

variable {sound : w.Sound} {visited : w.visited ⟨k, goal⟩}

/-- The beginning of a treatment at a place. -/
theorem Moment.start (situation : Situation w p goal.2 goal'.2)
    (course : w.Course goal.2.frame ⟨k, goal⟩) :
    Moment (.of w goal goal' sound visited) w p goal.2 goal'.2 where
  grown := .refl w
  situation := situation
  course _ asked parent maker given found := .tail (course parent maker given found) (.inl asked)
  keeps := ⟨rfl, rfl⟩

end Treatment

/-- A halt of a goal to which another one is handed over is one of the other. -/
theorem halt_of_begets {w₀ : World} {k : Phase} {goal goal' next next' : Goal k} {w₁ : World}
    {p₁ : Position}
    (grown : Extends nowhere w w₁) (frame : next.2.frame = goal.2.frame)
    (frame' : next'.2.frame = goal'.2.frame) (begets : Routine.Begets body ⟨k, goal⟩ ⟨k, next⟩)
    {answer : Answer k} (halted : w₀.coupling.Halt (w₁, p₁) next next' answer) :
    w₀.coupling.Halt (w, p) goal goal' answer := by
  obtain ⟨fault, u, rfl, ⟨o, value, r, comes, ⟨q, isKnown, pending⟩, rest⟩, w', u', grown',
    coherent, newFrame, newFrame'⟩ := halted
  rw [grown.known] at isKnown
  exact ⟨fault, u, rfl, ⟨o, value, r, .head begets comes, ⟨q, isKnown, pending⟩, rest⟩, w', u',
    grown.anywhere.trans grown', coherent, newFrame.trans frame, newFrame'.trans frame'⟩

section Value

variable {request request' : Request .value} {sound : w.Sound}
  {visited : w.visited ⟨.value, request, s⟩} {w₁ : World} {p₁ : Position} {u u' : Interpreter}
  {α β : Type}

/-- Treatments end with related values. -/
theorem Then.finish {v v' : Value}
    (h : Then (.of w ((request, s) : Goal .value) (request', s') sound visited) w₁ p₁ u u' Same
      v v' t t') :
    Lockstep (.of w ((request, s) : Goal .value) (request', s') sound visited)
      (Job.Ends step w.coupling (w, p) ((request, s) : Goal .value) (request', s'))
      (finish v) (finish v') t t' := by
  obtain ⟨w', -, m, -, -, same⟩ := h
  exact .pure (.value m.grown m.situation.coherent m.keeps.1 m.keeps.2 same)

end Value

/-! ### Other frames -/

/-- A context in which failures may end in any frame. -/
def Context.inside (c : Context) : Context :=
  { c with frames := fun _ _ => True }

/-- Jobs in other frames. -/
theorem lockstep_within {α β : Type} {Q : α → β → Interpreter → Interpreter → Prop}
    {job : Eval α} {job' : Eval β} {f f' : FrameId} (keeps : c.frames s.frame s'.frame)
    (h : Lockstep c.inside Q job job' { s with frame := f } { s' with frame := f' }) :
    Lockstep c (fun a b t t' => ∃ u u', Q a b u u' ∧ t = { u with frame := s.frame } ∧
      t' = { u' with frame := s'.frame }) (within f job) (within f' job') s s' := by
  refine Job.Agree.bind (Q := fun outer outer' t t' => outer = s.frame ∧ outer' = s'.frame ∧
    t = { s with frame := f } ∧ t' = { s' with frame := f' }) (.modifyGet ⟨rfl, rfl, rfl, rfl⟩) ?_
  rintro _ _ _ _ ⟨rfl, rfl, rfl, rfl⟩
  refine Job.Agree.always h ?_ ?_ ?_
  · rintro fault t ⟨culprit, w', t', grown, coherent, -⟩
    exact ⟨culprit, w', { t' with frame := s'.frame }, grown, { coherent with }, keeps⟩
  · rintro fault t t' ⟨proper, w', grown, coherent, -⟩
    exact ⟨proper, w', grown, { coherent with }, keeps⟩
  · exact fun a b u u' related => ⟨u, u', related, rfl, rfl⟩

end World

end Lox
