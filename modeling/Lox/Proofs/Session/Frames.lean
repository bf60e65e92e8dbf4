import Lox.Proofs.Session.History
import Lox.Routine.Moment

/-!
# Frames of running code

The static reading opens and closes scopes, and running code moves from frame to frame. Wherever a
name is read, the two agree: from the current frame outward there is one frame for each scope that
was open when the static reading visited the occurrence, each was made when the part of the program
that opens the scope was executed, and the name is bound in the frame whose scope had it.

## Main definitions

* `Evaluation.Reads`: expressions that read a name.
* `Scope.Reading.Frames`: the frames of open scopes.
* `Scope.BindsAt`: the name of an occurrence is bound at a distance.
* `Execution.evaluated?`: the expression whose evaluation is taken up after so many moves.

## Main results

* `Session.frames_of_read`: wherever a name is read in a session.
-/

namespace Lox

open Scope Evaluation World

/-! ### Reads -/

/-- An expression that reads an occurrence of a name. -/
inductive Evaluation.Reads : Expr → SiteKind → Occurrence → Prop
  | reference {name : Occurrence} : Reads (.reference name) .reference name
  | this {keyword : Occurrence} : Reads (.this keyword) .this keyword
  | super {keyword : Occurrence} {method : Token} : Reads (.super keyword method) .super keyword

/-- The frames from `f` outward are those of the scopes that are open in a state of the static
reading, where a task is taken up. Outside them is the global frame. Each was made by a goal that
executes the part of the program which opens its scope, in code whose frame is the next one, and the
goal that made the first one is still being treated. -/
structure Scope.Reading.Frames (r : Reading) (came : Task → Prop) (task : Task) (heap : Heap)
    (f : FrameId) : Prop where
  openers : r.openers.length = r.analysis.scopes.length
  outer : heap.ancestor? f r.analysis.scopes.length = some globalFrame
  inner : ∀ (d : Nat) (opener : Node), r.openers[d]? = some opener →
    ∃ (f₀ f₁ : FrameId) (maker : Task) (given : Option (String × Value)),
      heap.ancestor? f d = some f₀ ∧ f₀ ≠ globalFrame ∧ heap.ancestor? f (d + 1) = some f₁ ∧
      came maker ∧ Makes maker f₀ ∧ Executes maker opener f₁ given ∧
      (d = 0 → Relation.ReflTransGen (Routine.Begets body) maker task)

/-- The name of an occurrence is bound at a distance from a frame: `this` to an instance, and
`super` to a class, where one frame further in `this` is bound to an instance. -/
def Scope.BindsAt (kind : SiteKind) (o : Occurrence) (d : Nat) (heap : Heap) (f : FrameId) : Prop :=
  ∃ f₀ v, heap.ancestor? f d = some f₀ ∧ heap.binding? f₀ o.name.lexeme = some v ∧
    match kind with
    | .this => ∃ address c, v = .instance_ address c
    | .super => (∃ c, v = .classObject c) ∧ ∃ d' f₁ address c, d = d' + 1 ∧
        heap.ancestor? f d' = some f₁ ∧ heap.binding? f₁ "this" = some (.instance_ address c)
    | _ => True

namespace World

variable {w : World} {p : Position} {s s' : Interpreter} {task : Task} {r : Reading} {ready : Bool}
  {o : Occurrence} {d : Nat} {kind : SiteKind}

/-- Around a place there are the frames of the scopes that show its layers. -/
theorem Situation.frames (situation : Situation w p s s') (course : w.Course s.frame task)
    (mirrors : Mirrors ready r p) : r.Frames w.visited task s.heap s.frame where
  openers := by
    rw [mirrors.openers, mirrors.length_eq, List.length_map]
  outer := by
    rw [mirrors.length_eq]
    exact situation.around.ancestor?_length situation.coherent.heap
  inner d opener isOpener := by
    rw [mirrors.openers, List.getElem?_map] at isOpener
    obtain ⟨layer, isLayer, rfl⟩ := Option.map_eq_some_iff.1 isOpener
    obtain ⟨f₀, f₁, maker, given, found, found', frame, made, executes⟩ :=
      situation.around.layer situation.coherent.heap isLayer
    refine ⟨f₀, f₁, maker, given, found, ?_, found', made.1, made.2, executes, ?_⟩
    · rintro rfl
      rw [situation.coherent.sound.root] at frame
      cases frame
    · rintro rfl
      obtain rfl : s.frame = f₀ := Option.some.inj found
      exact course _ _ _ frame

/-- A name with a distance is bound there. -/
theorem Situation.exists_binding (situation : Situation w p s s') (isKnown : w.known p kind o)
    (pending : p.pending ≠ some o.name.lexeme) (isEntry : s.distances[o.id]? = some d) :
    ∃ f₀ v, s.heap.ancestor? s.frame d = some f₀ ∧
      s.heap.binding? f₀ o.name.lexeme = some v := by
  have coherent := situation.coherent
  rw [coherent.table p kind o isKnown, distance?_of_ready pending] at isEntry
  obtain ⟨v, -, -, isValue, -⟩ := situation.around.getAt coherent.heap coherent.sound isEntry
    o.name.line o.name.line o.name.kind
  obtain ⟨f₀, found, bound⟩ := Heap.exists_of_getAt isValue
  exact ⟨f₀, v, found, bound⟩

/-- A receiver is an instance. -/
theorem Situation.exists_receiver (situation : Situation w p s s') (awaiting : p.Awaiting)
    (bound : p.distance? "this" = some d) :
    ∃ f₀ address c, s.heap.ancestor? s.frame d = some f₀ ∧
      s.heap.binding? f₀ "this" = some (.instance_ address c) := by
  have coherent := situation.coherent
  have special : ¬ Ordinary "this" := fun ordinary => ordinary.1 rfl
  rw [distance?_of_ready fun pending => special (awaiting _ pending).1] at bound
  obtain ⟨_, f₀, _, _, v, _, -, found, -, -, executes, isValue, -⟩ :=
    situation.around.given coherent.heap coherent.sound bound special 0 0 .identifier
  obtain ⟨_, _, _, _, -, -, binds, -⟩ := executes.exists_receiver
  obtain ⟨address, c, rfl⟩ := binds.exists_instance
  obtain ⟨f₁, found', isBound⟩ := Heap.exists_of_getAt isValue
  obtain rfl : f₀ = f₁ := Option.some.inj (found.symm.trans found')
  exact ⟨f₀, address, c, found, isBound⟩

/-- What a name has for a value. -/
theorem answers_lookUp {e : Expr} (isStep : evaluateStep e = do finish (← lookUp o))
    (s : Interpreter) :
    Routine.Answers body ((.evaluate e, s) : Goal .value) (s.lookUp o, s) := by
  refine Routine.answers_of_rest_answer ?_
  have isBody : body .value (.evaluate e, s) = .done (.answer (s.lookUp o, s)) := by
    change Routine.bind (evaluateStep e s) _ = _
    rw [isStep]
    change Routine.bind (Routine.bind (check (s.lookUp o) s) _) _ = _
    cases s.lookUp o <;> rfl
  rw [isBody]
  exact .refl

/-- What the method above a class is. -/
theorem answers_super {keyword : Occurrence} {name : Token} {superclass c : Class} {address : Nat}
    (isEntry : s.distances[keyword.id]? = some d)
    (isClass : s.heap.getAt s.frame d "super" keyword.name.line = .ok (.classObject superclass))
    (isInstance : s.heap.getAt s.frame (d - 1) "this" keyword.name.line =
      .ok (.instance_ address c)) :
    Routine.Answers body ((.evaluate (.super keyword name), s) : Goal .value)
      (match superclass.findMethod? name.lexeme with
        | some method => (.ok (s.bindMethod method (.instance_ address c)).1,
            (s.bindMethod method (.instance_ address c)).2)
        | none => (.error ⟨.undefinedProperty name.lexeme, name.line⟩, s)) := by
  refine Routine.answers_of_rest_answer ?_
  have isRead : readSuper keyword name s = _ :=
    Evaluation.readSuper_eq isEntry isClass isInstance
  cases isFound : superclass.findMethod? name.lexeme with
  | some method =>
    rw [isFound] at isRead
    have isBody : body .value (.evaluate (.super keyword name), s) =
        .done (.answer (.ok (s.bindMethod method (.instance_ address c)).1,
          (s.bindMethod method (.instance_ address c)).2)) := by
      change Routine.bind (Routine.bind (readSuper keyword name s) _) _ = _
      rw [isRead]
      rfl
    rw [isBody]
    exact .refl
  | none =>
    rw [isFound] at isRead
    have isBody : body .value (.evaluate (.super keyword name), s) =
        .done (.answer (.error ⟨.undefinedProperty name.lexeme, name.line⟩, s)) := by
      change Routine.bind (Routine.bind (readSuper keyword name s) _) _ = _
      rw [isRead]
      rfl
    rw [isBody]
    exact .refl

/-- A read where its place is related: the name is bound at its distance, and the read has an answer
without a defect. -/
theorem Related.read {e : Expr} {goal' : Goal .value} (reads : Reads e kind o)
    (related : Related w p ((.evaluate e, s) : Goal .value) goal') :
    w.known p kind o ∧ (∃ s', Situation w p s s') ∧ w.Course s.frame (evaluating e s) ∧
      (∀ d, s.distances[o.id]? = some d → BindsAt kind o d s.heap s.frame) ∧
      ∃ result t, Routine.Answers body ((.evaluate e, s) : Goal .value) (result, t) ∧
        ∀ fault, result = .error fault → fault.kind ≠ .internal := by
  cases related with
  | @evaluate _ _ s' situation course visited wellScoped awaiting =>
    have proper (isKnown : w.known p kind o) (pending : p.pending ≠ some o.name.lexeme)
        (fault : Fault) (isFault : s.lookUp o = .error fault) : fault.kind ≠ .internal := by
      have same := situation.lookUp isKnown pending
      rw [isFault] at same
      generalize s'.heap.get s'.frame o.name = found at same
      cases same with
      | error proper => exact proper
    cases reads with
    | reference =>
      cases wellScoped with
      | reference isKnown pending =>
        refine ⟨isKnown, ⟨s', situation⟩, course, fun d isEntry => ?_, _, _,
          answers_lookUp rfl s, proper isKnown pending⟩
        obtain ⟨f₀, v, found, bound⟩ := situation.exists_binding isKnown pending isEntry
        exact ⟨f₀, v, found, bound, trivial⟩
    | this =>
      cases wellScoped with
      | this isKnown spelled bound =>
        have pending : p.pending ≠ some o.name.lexeme := fun pending =>
          (awaiting _ pending).1.1 spelled
        refine ⟨isKnown, ⟨s', situation⟩, course, fun d isEntry => ?_, _, _,
          answers_lookUp rfl s, proper isKnown pending⟩
        rw [situation.coherent.table p .this o isKnown, spelled] at isEntry
        obtain ⟨f₀, address, c, found, isBound⟩ := situation.exists_receiver awaiting isEntry
        exact ⟨f₀, _, found, spelled ▸ isBound, address, c, rfl⟩
    | @super _ name =>
      cases wellScoped with
      | super isKnown spelled bound above inherits =>
        obtain ⟨isEntry, c, -, address, own, -, ⟨isClass, isInstance, -⟩, -⟩ :=
          situation.super isKnown spelled bound above awaiting inherits
        refine ⟨isKnown, ⟨s', situation⟩, course, fun d' isEntry' => ?_, _, _,
          answers_super isEntry isClass isInstance, ?_⟩
        · cases isEntry.symm.trans isEntry'
          obtain ⟨f₀, found, isBound⟩ := Heap.exists_of_getAt isClass
          obtain ⟨f₁, found', isBound'⟩ := Heap.exists_of_getAt isInstance
          exact ⟨f₀, _, found, spelled ▸ isBound, ⟨c, rfl⟩, _, f₁, address, own, rfl, found',
            isBound'⟩
        · intro fault isFault
          split at isFault <;> cases isFault
          exact nofun

end World

variable {past : List Execution} {i j : Interpreter} {program : List Stmt} {source : String}
  {moves : Nat}

/-- Wherever a name is read in the run of an accepted program, whatever the session has executed
before: the static reading has visited the occurrence; the frames from the current one outward are
those of the scopes that were open then; the table has the distance that the scopes say; the name is
bound at its distance; and the read has an answer, which is no fault that only a defect of the
evaluator can cause. -/
theorem Session.frames_of_read (session : Session past i)
    (isLoaded : i.load source = (.ok program, j))
    {moment : Job.Moment Interpreter Fault Request Phase.Result Unit}
    (reached : Job.proceed step moves (Job.start (interpret program) j) = .error moment)
    {e : Expr} {kind : SiteKind} {o : Occurrence} {s : Interpreter} (reads : Reads e kind o)
    (taken : moment.task? = some (evaluating e s)) :
    ∃ e' ∈ ⟨program, j⟩ :: past, ∃ r, Visit e'.program ⟨kind, o⟩ r ∧
      r.Frames (Arose (⟨program, j⟩ :: past)) (evaluating e s) s.heap s.frame ∧
      s.distances[o.id]? = distance? o.name.lexeme r.analysis.scopes ∧
      (∀ d, s.distances[o.id]? = some d → BindsAt kind o d s.heap s.frame) ∧
      ∃ result t, Routine.Answers body ((.evaluate e, s) : Goal .value) (result, t) ∧
        ∀ fault, result = .error fault → fault.kind ≠ .internal := by
  have arises : Execution.Arises ⟨program, j⟩ (evaluating e s) :=
    Routine.exists_moment_iff.1 ⟨moves, moment, reached, taken⟩
  have loads := Interpreter.loads_of_load isLoaded
  obtain ⟨frames, cells, k, ready⟩ := session.exists_ready
  obtain ⟨w, p, goal', known, visited, related, -⟩ := (ready.load loads ∅).arises
    (fun task arises => ⟨_, List.mem_cons_self, arises⟩) loads.wellScoped arises
  obtain ⟨isKnown, ⟨s', situation⟩, course, bound, answered⟩ := related.read reads
  have isEntry := situation.coherent.table p kind o isKnown
  rw [known] at isKnown
  obtain ⟨e', mem, isReady, r, visit, mirrors, -⟩ := isKnown
  refine ⟨e', mem, r, visit, ?_, ?_, bound, answered⟩
  · have isFrames := situation.frames course mirrors
    rwa [visited] at isFrames
  · rw [isEntry, mirrors.distance?_eq]

/-! ### Executions move by move -/

/-- The expression whose evaluation is taken up in an execution after some moves, and the state. -/
def Execution.evaluated? (e : Execution) (moves : Nat) : Option (Expr × Interpreter) :=
  match Job.proceed step moves (Job.start (interpret e.program) e.state) with
  | .error moment => moment.task?.bind fun
    | ⟨.value, .evaluate value, s⟩ => some (value, s)
    | ⟨.value, .call .., _⟩ | ⟨.flow, _, _⟩ => none
  | .ok _ => none

theorem Execution.exists_moment {e : Execution} {value : Expr} {s : Interpreter}
    (h : e.evaluated? moves = some (value, s)) :
    ∃ moment, Job.proceed step moves (Job.start (interpret e.program) e.state) = .error moment ∧
      moment.task? = some (evaluating value s) := by
  unfold evaluated? at h
  split at h
  · next moment reached =>
    obtain ⟨task, isTask, h⟩ := Option.bind_eq_some_iff.1 h
    refine ⟨moment, reached, isTask.trans (congrArg some ?_)⟩
    split at h <;> cases h
    rfl
  · cases h

/-- The occurrence that an expression reads. -/
def Evaluation.read? : Expr → Option (SiteKind × Occurrence)
  | .reference name => some (.reference, name)
  | .this keyword => some (.this, keyword)
  | .super keyword _ => some (.super, keyword)
  | .literal .. | .grouping _ | .unary .. | .binary .. | .logical .. | .assign .. | .call ..
  | .get .. | .set .. => none

theorem Evaluation.reads_of_read? {e : Expr} {kind : SiteKind} {o : Occurrence}
    (h : read? e = some (kind, o)) : Reads e kind o := by
  cases e <;> cases h <;> constructor

/-- A method declares a function that reads `this`, and calls it; the method is called. As the first
source of a session. -/
theorem Interpreter.load_inner (sink : Sink) (clock : Clock) :
    let word (text : String) : Token := ⟨.identifier, text, 1⟩
    let paren : Token := ⟨.symbol .rightParen, ")", 1⟩
    let inner : FunctionDecl :=
      ⟨word "f", [], [.expression (.this ⟨0, ⟨.keyword .this_, "this", 1⟩⟩)]⟩
    (start sink clock).load
        "class A \x7b m() \x7b fun f() \x7b this; \x7d f(); \x7d \x7d A().m();" =
      (.ok [.classDecl (word "A") none [⟨word "m", [],
            [.functionDecl inner, .expression (.call (.reference ⟨1, word "f"⟩) paren [])]⟩],
          .expression (.call (.get (.call (.reference ⟨2, word "A"⟩) paren []) (word "m")) paren
            [])],
        ((start sink clock).retabled 3 ∅).recordDistances [(0, 2), (1, 0)]) := by
  intro word paren inner
  have isTokens : tokenize "class A \x7b m() \x7b fun f() \x7b this; \x7d f(); \x7d \x7d A().m();" =
      .ok [⟨.keyword .class_, "class", 1⟩, word "A", ⟨.symbol .leftBrace, "\x7b", 1⟩, word "m",
        ⟨.symbol .leftParen, "(", 1⟩, paren, ⟨.symbol .leftBrace, "\x7b", 1⟩,
        ⟨.keyword .fun_, "fun", 1⟩, word "f", ⟨.symbol .leftParen, "(", 1⟩, paren,
        ⟨.symbol .leftBrace, "\x7b", 1⟩, ⟨.keyword .this_, "this", 1⟩, ⟨.symbol .semicolon, ";", 1⟩,
        ⟨.symbol .rightBrace, "\x7d", 1⟩, word "f", ⟨.symbol .leftParen, "(", 1⟩, paren,
        ⟨.symbol .semicolon, ";", 1⟩, ⟨.symbol .rightBrace, "\x7d", 1⟩,
        ⟨.symbol .rightBrace, "\x7d", 1⟩, word "A", ⟨.symbol .leftParen, "(", 1⟩, paren,
        ⟨.symbol .dot, ".", 1⟩, word "m", ⟨.symbol .leftParen, "(", 1⟩, paren,
        ⟨.symbol .semicolon, ";", 1⟩, ⟨.endOfInput, "", 1⟩] := by
    cbv
  exact load_eq isTokens rfl (by cbv)

/-- The receiver of a method is read in a function inside it: two frames further out. -/
theorem frames_of_read_this :
    ∃ program j keyword s r, (Interpreter.start .unlimited fun _ => .ok 0).load
        "class A \x7b m() \x7b fun f() \x7b this; \x7d f(); \x7d \x7d A().m();" = (.ok program, j) ∧
      Execution.Arises ⟨program, j⟩ (evaluating (.this keyword) s) ∧
      Visit program ⟨.this, keyword⟩ r ∧
      r.Frames (Arose [⟨program, j⟩]) (evaluating (.this keyword) s) s.heap s.frame ∧
      BindsAt .this keyword 2 s.heap s.frame := by
  have isLoaded := Interpreter.load_inner .unlimited fun _ => .ok 0
  dsimp only at isLoaded
  generalize isProgram : ([_, _] : List Stmt) = program at isLoaded
  generalize isState : Interpreter.recordDistances _ _ = j at isLoaded
  have shown : (Execution.evaluated? ⟨program, j⟩ 20).bind (fun goal =>
      (read? goal.1).map fun read => (read.1, goal.2.distances[read.2.id]?)) =
        some (.this, some 2) := by
    subst isProgram isState
    decide +kernel
  obtain ⟨⟨e, s⟩, isGoal, shown⟩ := Option.bind_eq_some_iff.1 shown
  obtain ⟨⟨kind, keyword⟩, isRead, shown⟩ := Option.map_eq_some_iff.1 shown
  obtain ⟨rfl, isEntry⟩ := Prod.mk.inj shown
  cases reads_of_read? isRead
  obtain ⟨moment, reached, taken⟩ := Execution.exists_moment isGoal
  obtain ⟨e, mem, r, visit, frames, -, bound, -⟩ :=
    Session.frames_of_read (.start _ _) isLoaded reached .this taken
  obtain rfl := List.mem_singleton.1 mem
  exact ⟨program, j, keyword, s, r, isLoaded, Routine.exists_moment_iff.1 ⟨_, _, reached, taken⟩,
    visit, frames, bound 2 isEntry⟩

end Lox
