import Lox.Proofs.Evaluation.Graph
import Lox.Proofs.Session.History
import Mathlib.Logic.Relation

/-!
# The objects of a session

A session runs one source after another, and a run that has begun goes on move by move, up to its
end or for ever. At all of these stages, also in the middle of runs and after runs that ended with a
fault, the heap is rooted: walks from frame to frame and from class to class come to their ends, and
all that is referred to exists. From each stage to every later one frames keep their parents and the
names that they bind.

## Main definitions

* `Stage`, `Stage.Next`: the stages of a session, and the steps between them.
* `Stage.Refers`, `Stage.Knows`: the values and classes that come up at a stage.
* `Class.SearchEnds`: the search for the methods of a class.

## Main results

* `Stage.Sound.next`, `Stage.Sound.later`: one step, and any number of them.
* `Stage.heap_wellFounded`: the heap at the stages of a session.
* `Session.rooted`, `Session.rooted_of_taken`: what values refer to exists.
-/

namespace Lox

open Evaluation Relation

/-! ### Stages -/

/-- A session is between two runs, or a run of a program is in progress. -/
inductive Stage where
  | idle (i : Interpreter)
  | running (moment : Job.Moment Interpreter Fault Request Phase.Result Unit)

namespace Stage

/-- The state at a stage. -/
def state : Stage → Interpreter
  | idle i => i
  | running moment => moment.state

/-- A step of a session: a source is rejected, or it is accepted and its run begins; a run makes a
move, or it is over with some outcome; or numbers of occurrences are left out between two runs. -/
inductive Next : Stage → Stage → Prop
  | reject {i j : Interpreter} {source : String} {errors : List Diagnostic}
      (isLoaded : i.load source = (.error errors, j)) : Next (idle i) (idle j)
  | begin {i j : Interpreter} {source : String} {program : List Stmt}
      (isLoaded : i.load source = (.ok program, j)) :
      Next (idle i) (running (Job.start (interpret program) j))
  | move {moment later : Job.Moment Interpreter Fault Request Phase.Result Unit}
      (moved : Job.proceed step 1 moment = .error later) : Next (running moment) (running later)
  | finish {moment : Job.Moment Interpreter Fault Request Phase.Result Unit}
      {outcome : Except Fault Unit} {j : Interpreter}
      (ended : Job.proceed step 1 moment = .ok (outcome, j)) : Next (running moment) (idle j)
  | skip {i : Interpreter} (count : Nat) : Next (idle i) (idle (i.skip count))

/-- A value comes up at a stage: a frame or an instance has it, it is called or is an argument of a
call, or an expression or a statement has just yielded it. -/
inductive Refers : Stage → Value → Prop
  | binding {s : Stage} {f : FrameId} {x : String} {v : Value}
      (found : s.state.heap.binding? f x = some v) : Refers s v
  | field {s : Stage} {a : Nat} {x : String} {v : Value}
      (found : s.state.heap.field? a x = some v) : Refers s v
  | callee {moment : Job.Moment Interpreter Fault Request Phase.Result Unit} {v : Value}
      {arguments : List Value} {line : Nat} {i : Interpreter}
      (taken : moment.task? = some (calling v arguments line i)) : Refers (running moment) v
  | argument {moment : Job.Moment Interpreter Fault Request Phase.Result Unit} {v callee : Value}
      {arguments : List Value} {line : Nat} {i : Interpreter}
      (taken : moment.task? = some (calling callee arguments line i)) (mem : v ∈ arguments) :
      Refers (running moment) v
  | yielded {v : Value} {i : Interpreter}
      {waiting : Routine.Stack Goal Answer (Except Fault Unit × Interpreter) .value} :
      Refers (running (.inner (.done (.answer (.ok v, i))) waiting)) v
  | returned {v : Value} {i : Interpreter}
      {waiting : Routine.Stack Goal Answer (Except Fault Unit × Interpreter) .flow} :
      Refers (running (.inner (.done (.answer (.ok (Flow.returned v), i))) waiting)) v

/-- A class comes up at a stage: itself, as the class of an instance, or above such a class. -/
inductive Knows (s : Stage) : Class → Prop
  | classObject {c k : Class} (refers : s.Refers (.classObject c)) (mem : k ∈ c.chain) : Knows s k
  | instance_ {a : Nat} {c k : Class} (refers : s.Refers (.instance_ a c)) (mem : k ∈ c.chain) :
      Knows s k

end Stage

/-- The search for a method of a class comes to its end. The chain of classes goes from each class
to its superclass, which is older, and is no longer than the number of the first class tells; the
nearest declaration on it is found. -/
structure Class.SearchEnds (c : Class) : Prop where
  older : ∀ k ∈ c.chain, ∀ above, k.superclass = some above →
    above ∈ c.chain ∧ above.identity < k.identity
  length : c.chain.length ≤ c.identity + 1
  nearest : ∀ name, c.findMethod? name = c.chain.findSome? fun k => k.methods[name]?

/-- The names of the classes on the chain of a class. -/
def Value.ancestry : Value → List String
  | .classObject c => c.chain.map Class.name
  | _ => []

theorem Value.exists_of_ancestry {v : Value} {name : String} {names : List String}
    (h : v.ancestry = name :: names) :
    ∃ c, v = .classObject c ∧ c.chain.map Class.name = name :: names := by
  cases v with
  | classObject c => exact ⟨c, rfl, h⟩
  | _ => cases h

theorem Class.Present.searchEnds {heap : Heap} {c : Class} (h : c.Present heap) :
    c.SearchEnds where
  older k mem above isSuperclass :=
    ⟨superclass_mem_chain mem isSuperclass, h.older k mem above isSuperclass⟩
  length := h.length_chain_le
  nearest := c.findMethod?_eq_findSome?

/-- A run is over in one move only if there is nothing left to do. -/
theorem Job.eq_of_proceed_one {moment : Job.Moment Interpreter Fault Request Phase.Result Unit}
    {left : Except Fault Unit × Interpreter} (ended : Job.proceed step 1 moment = .ok left) :
    moment = .outer (.done left) := by
  cases moment with
  | outer active =>
    cases active with
    | done => exact congrArg _ (congrArg _ (Except.ok.inj ended))
    | call => cases ended
  | inner active waiting =>
    cases active with
    | call => cases ended
    | done reply =>
      cases reply with
      | become => cases ended
      | answer => cases waiting <;> cases ended

theorem Job.proceed_succ (moves : Nat)
    (moment : Job.Moment Interpreter Fault Request Phase.Result Unit) :
    Job.proceed step (moves + 1) moment =
      match Job.proceed step 1 moment with
      | .error later => Job.proceed step moves later
      | .ok left => .ok left := by
  cases moment with
  | outer active => cases active <;> rfl
  | inner active waiting =>
    cases active with
    | call => rfl
    | done reply =>
      cases reply with
      | become => rfl
      | answer => cases waiting <;> rfl

/-! ### What steps preserve -/

/-- Reading a source changes neither the heap nor the frame. -/
theorem Interpreter.Rooted.load {i : Interpreter} (h : i.Rooted) (source : String) :
    i.Ahead (i.load source).2 := by
  obtain ⟨n, table, -, isState, -⟩ := i.exists_load source
  rw [isState]
  exact h.unchanged rfl rfl

/-- A new session is rooted. -/
theorem Interpreter.rooted_start (sink : Sink) (clock : Clock) :
    (start sink clock).Rooted where
  heap := {
    global := Nat.zero_lt_one
    parent := fun f old isInner => absurd (Nat.lt_one_iff.1 old) isInner
    binding := fun f x v found => by
      have found : (Heap.empty.newFrame none ((∅ : Bindings).insert "clock" .clock)).2.binding? f x
          = some v := found
      rw [Heap.binding?_newFrame] at found
      split at found
      · obtain ⟨-, rfl⟩ := Bindings.of_getElem?_single found
        trivial
      · cases found
    field := nofun }
  frame := Nat.zero_lt_one

namespace Stage

/-- Between two runs the state is rooted, and all that is left to do in a run keeps it so. -/
inductive Sound : Stage → Prop
  | idle {i : Interpreter} (rooted : i.Rooted) : Sound (idle i)
  | running {i s : Interpreter}
      {moment : Job.Moment Interpreter Fault Request Phase.Result Unit}
      (grows : Job.Grows rooting Interpreter.GrownHeap
        (Job.Arrived Interpreter.Ahead i fun _ _ => True) s moment) : Sound (running moment)

variable {s t : Stage} {v : Value}

theorem Sound.rooted (h : s.Sound) : s.state.Rooted := by
  cases h with
  | idle rooted => exact rooted
  | running grows =>
    exact grows.holds (fun _ pre => pre.1) (fun _ _ post => post.1.rooted)
      fun _ ended => ended.1.rooted

/-- One step keeps a stage sound, and lets the heap grow. -/
theorem Sound.next (h : s.Sound) (next : Next s t) :
    t.Sound ∧ s.state.heap.Grown t.state.heap := by
  cases next with
  | @reject i j source errors isLoaded =>
    cases h with
    | idle rooted =>
      have ahead := rooted.load source
      rw [isLoaded] at ahead
      exact ⟨.idle ahead.rooted, ahead.grown⟩
  | @begin i j source program isLoaded =>
    cases h with
    | idle rooted =>
      have ahead := rooted.load source
      rw [isLoaded] at ahead
      have grows : Job.Grows rooting Interpreter.GrownHeap _ j (Job.start (interpret program) j) :=
        .outer (leads_interpret ahead.rooted program)
      exact ⟨.running grows, ahead.grown.trans grows.state⟩
  | @move moment later moved =>
    cases h with
    | running grows =>
      have grows' := grows.proceed rooting_grown moved
      exact ⟨.running grows', grows'.state⟩
  | @finish moment outcome j ended =>
    cases h with
    | running grows =>
      cases Job.eq_of_proceed_one ended
      cases grows with
      | outer h =>
        cases h with
        | done _ result => exact ⟨.idle result.1.rooted, .refl _⟩
  | @skip i count =>
    cases h with
    | idle rooted =>
      have ahead : i.Ahead (i.skip count) := rooted.unchanged rfl rfl
      exact ⟨.idle ahead.rooted, ahead.grown⟩

/-- So do any number of steps. -/
theorem Sound.later (h : s.Sound) (later : ReflTransGen Next s t) :
    t.Sound ∧ s.state.heap.Grown t.state.heap := by
  induction later with
  | refl => exact ⟨h, .refl _⟩
  | tail _ next ih =>
    obtain ⟨sound, grown⟩ := ih
    obtain ⟨sound', grown'⟩ := sound.next next
    exact ⟨sound', grown.trans grown'⟩

/-- All values that come up exist. -/
theorem Sound.present (h : s.Sound) (refers : s.Refers v) : v.Present s.state.heap := by
  cases refers with
  | binding found => exact h.rooted.heap.binding _ _ v found
  | field found => exact h.rooted.heap.field _ _ v found
  | callee taken =>
    cases h with
    | running grows =>
      obtain ⟨⟨-, isCallee, -⟩, isState⟩ := grows.pre taken
      rwa [state, isState]
  | argument taken mem =>
    cases h with
    | running grows =>
      obtain ⟨⟨-, -, values⟩, isState⟩ := grows.pre taken
      rw [state, isState]
      exact values v mem
  | yielded =>
    cases h with
    | running grows =>
      obtain ⟨goal, -, result⟩ := grows.post
      exact result v rfl
  | returned =>
    cases h with
    | running grows =>
      obtain ⟨goal, -, result⟩ := grows.post
      exact result (.returned v) rfl

theorem Sound.present_of_knows {c : Class} (h : s.Sound) (knows : s.Knows c) :
    c.Present s.state.heap := by
  cases knows with
  | classObject refers mem => exact Class.Present.of_mem_chain (h.present refers) mem
  | instance_ refers mem => exact Class.Present.of_mem_chain (h.present refers).2 mem

/-- The heap at every stage of a session that begins anew, and what later stages keep of it.

Every frame but the global one has an older parent, and the walks that begin at a frame come to
their ends: they pass the frames up to the global one. The frame in which code runs exists, and so
does all that the values refer to that come up. The search for a method of a class comes to its end.

At later stages there may be more frames, instances, functions and classes. The frames that were
there keep their parents and the names that they bind. -/
theorem heap_wellFounded {sink : Sink} {clock : Clock}
    (reached : ReflTransGen Next (idle (.start sink clock)) s) (later : ReflTransGen Next s t) :
    (globalFrame < s.state.heap.frames.size ∧ s.state.frame < s.state.heap.frames.size) ∧
    (∀ f, f < s.state.heap.frames.size →
      (f ≠ globalFrame → ∃ p < f, s.state.heap.parent? f = some p) ∧ s.state.heap.WalksEnd f) ∧
    (∀ v, s.Refers v → v.Present s.state.heap) ∧
    (∀ c, s.Knows c → c.Present s.state.heap ∧ c.SearchEnds) ∧
    s.state.heap.Grown t.state.heap := by
  obtain ⟨sound, -⟩ := (Sound.idle (Interpreter.rooted_start sink clock)).later reached
  have rooted := sound.rooted
  refine ⟨⟨rooted.heap.global, rooted.frame⟩, fun f exists_ => ⟨fun isInner => ?_, ?_⟩,
    fun v => sound.present, fun c knows => ?_, (sound.later later).2⟩
  · obtain ⟨p, isParent⟩ := rooted.heap.parent f exists_ isInner
    exact ⟨p, Heap.lt_of_parent? isParent, isParent⟩
  · exact rooted.heap.walksEnd exists_
  · have present := sound.present_of_knows knows
    exact ⟨present, present.searchEnds⟩

/-- A run that comes to its end goes from stage to stage. -/
theorem later_of_proceed {moment : Job.Moment Interpreter Fault Request Phase.Result Unit}
    {outcome : Except Fault Unit} {j : Interpreter} {moves : Nat}
    (ended : Job.proceed step moves moment = .ok (outcome, j)) :
    ReflTransGen Next (running moment) (idle j) := by
  induction moves generalizing moment with
  | zero => cases ended
  | succ moves ih =>
    rw [Job.proceed_succ] at ended
    split at ended
    · next later moved => exact .head (.move moved) (ih ended)
    · next left ended' =>
      cases ended
      exact .single (.finish ended')

/-- So does the run of a source, whatever its errors are. -/
theorem later_of_run {i j : Interpreter} {moves : Nat} {source : String}
    {errors : List Diagnostic} (ended : i.run moves source = some (errors, j)) :
    ReflTransGen Next (idle i) (idle j) := by
  rcases i.run_cases ended with ⟨isLoaded, -⟩ | ⟨program, k, outcome, isLoaded, -, isRun, -⟩
  · exact .single (.reject isLoaded)
  · have isOver : Job.proceed step moves (Job.start (interpret program) k) = .ok (outcome, j) := by
      unfold Job.run Routine.run at isRun
      unfold Job.proceed Job.start
      cases advanced : Routine.advance (Job.body step) moves (.outer (interpret program k)) with
      | error moment =>
        rw [advanced] at isRun
        cases isRun
      | ok left =>
        rw [advanced] at isRun
        cases isRun
        rfl
    exact .head (.begin isLoaded) (later_of_proceed isOver)

/-- A class inherits from one that inherits from a class of the same name. The run ends with a
fault. -/
theorem heap_wellFounded_redefined :
    let source := "class A \x7b\x7d class B < A \x7b\x7d class A < B \x7b\x7d b;"
    let start := Interpreter.start .unlimited fun _ => .ok 0
    ∃ fault i c, start.run 40 source = some ([.fault fault], i) ∧
      (idle i).Knows c ∧ c.chain.map Class.name = ["A", "B", "A"] ∧ c.SearchEnds := by
  intro source start
  let word (text : String) : Token := ⟨.identifier, text, 1⟩
  let program : List Stmt :=
    [.classDecl (word "A") none [], .classDecl (word "B") (some ⟨0, word "A"⟩) [],
      .classDecl (word "A") (some ⟨1, word "B"⟩) [], .expression (.reference ⟨2, word "b"⟩)]
  have isTokens : tokenize source = .ok [⟨.keyword .class_, "class", 1⟩, word "A",
      ⟨.symbol .leftBrace, "\x7b", 1⟩, ⟨.symbol .rightBrace, "\x7d", 1⟩,
      ⟨.keyword .class_, "class", 1⟩, word "B", ⟨.symbol .less, "<", 1⟩, word "A",
      ⟨.symbol .leftBrace, "\x7b", 1⟩, ⟨.symbol .rightBrace, "\x7d", 1⟩,
      ⟨.keyword .class_, "class", 1⟩, word "A", ⟨.symbol .less, "<", 1⟩, word "B",
      ⟨.symbol .leftBrace, "\x7b", 1⟩, ⟨.symbol .rightBrace, "\x7d", 1⟩, word "b",
      ⟨.symbol .semicolon, ";", 1⟩, ⟨.endOfInput, "", 1⟩] := by
    cbv
  have isLoaded : start.load source = (.ok program, (start.retabled 3 ∅).recordDistances []) :=
    Interpreter.load_eq isTokens rfl (by cbv)
  have isRun : start.run 40 source =
      Interpreter.execute 40 program ((start.retabled 3 ∅).recordDistances []) := by
    rw [Interpreter.run, isLoaded]
  have redefined : (Interpreter.perform 40 (interpret program)
      ((start.retabled 3 ∅).recordDistances [])).map
        (fun left => (left.1.isOk, (left.2.global? "A").elim [] Value.ancestry)) =
          some (false, ["A", "B", "A"]) := by
    decide +kernel
  obtain ⟨⟨outcome, i⟩, ended, isSame⟩ := Option.map_eq_some_iff.1 redefined
  obtain ⟨isFault, names⟩ := Prod.mk.inj isSame
  cases outcome with
  | ok => cases isFault
  | error fault =>
  cases found : i.global? "A" with
  | none =>
    rw [found] at names
    cases names
  | some v =>
  rw [found] at names
  obtain ⟨c, rfl, names⟩ := Value.exists_of_ancestry names
  have knows : (idle i).Knows c := .classObject (.binding found) c.mem_chain_self
  have ended : start.run 40 source = some ([.fault fault], i) := by
    rw [isRun, Interpreter.execute, ended]
    rfl
  obtain ⟨-, -, -, classes, -⟩ := heap_wellFounded (later_of_run ended) .refl
  exact ⟨_, i, c, ended, knows, names, (classes c knows).2⟩

end Stage

namespace Session

variable {past : List Execution} {i j : Interpreter} {program : List Stmt} {source : String}

/-- All that is referred to exists between two runs. -/
theorem rooted (session : Session past i) : i.Rooted := by
  induction session with
  | start sink clock => exact Interpreter.rooted_start sink clock
  | run _ ended ih => exact ((Stage.Sound.idle ih).later (Stage.later_of_run ended)).1.rooted
  | skip _ count ih => exact ((Stage.Sound.idle ih).next (.skip count)).1.rooted

/-- So it does wherever a goal is taken up in a run. -/
theorem rooted_of_taken (session : Session past i) (isLoaded : i.load source = (.ok program, j))
    {moves : Nat} {moment : Job.Moment Interpreter Fault Request Phase.Result Unit}
    (reached : Job.proceed step moves (Job.start (interpret program) j) = .error moment)
    {task : Task} (taken : moment.task? = some task) : task.2.2.Rooted := by
  have ahead := session.rooted.load source
  rw [isLoaded] at ahead
  have grows : Job.Grows rooting Interpreter.GrownHeap _ j (Job.start (interpret program) j) :=
    .outer (leads_interpret ahead.rooted program)
  exact ((grows.proceed rooting_grown reached).pre taken).1.1

end Session

end Lox
