import Lox.Proofs.Evaluation.Initializer
import Lox.Proofs.Session.Methods

/-!
# Initializers yield their instances

A call of a method that was declared under the name `init` in the body of a class yields the
instance to which the method is bound, however the call came about and whatever the body returns. A
call of a class yields a new instance of just this class. For this it does not matter whether the
programs that run are accepted, nor what the table says about the scopes of their names.

## Main definitions

* `Unchecked`: the states that are reached by running programs, accepted or not.

## Main results

* `Unchecked.faithful`: these states are faithful.
* `Unchecked.initializers_yield`: what calls of methods and of classes yield.
-/

namespace Lox

open Evaluation

/-- The states that are reached by running programs that have been read, whether they are accepted
or not. Between the runs all may change but the heap and the frame, and in particular the table. -/
inductive Unchecked : Interpreter → Prop
  | start (sink : Sink) (clock : Clock) : Unchecked (.start sink clock)
  | between {i j : Interpreter} (session : Unchecked i) (heap : j.heap = i.heap)
      (frame : j.frame = i.frame) : Unchecked j
  | run {i j k : Interpreter} {source : String} {program : List Stmt} {outcome : Except Fault Unit}
      (session : Unchecked i) (isParsed : (k.parse source).1 = .ok program)
      (ended : Ends (interpret program) i outcome j) : Unchecked j

theorem Interpreter.formed_of_parse {k : Interpreter} {source : String} {program : List Stmt}
    (isParsed : (k.parse source).1 = .ok program) : ∀ s ∈ program, s.Formed := by
  obtain ⟨n, -, -, isTree⟩ := k.exists_parse source
  exact (isTree program isParsed).2

/-- A new session is faithful. -/
theorem Interpreter.faithful_start (sink : Sink) (clock : Clock) :
    (start sink clock).Faithful := by
  have plain : ((∅ : Bindings).insert "clock" .clock)["this"]? = none :=
    Bindings.getElem?_single.trans (if_neg (by decide))
  refine ⟨Heap.faithful_empty.newFrame (fun x v found => ?_) fun v found => ?_, ?_, ?_⟩
  · obtain ⟨-, rfl⟩ := Bindings.of_getElem?_single found
    trivial
  · rw [plain] at found
    cases found
  · exact Nat.zero_lt_one
  · exact plain

/-- The states that are reached by running programs are faithful. -/
theorem Unchecked.faithful {i : Interpreter} (session : Unchecked i) : i.Faithful := by
  induction session with
  | start sink clock => exact Interpreter.faithful_start sink clock
  | between _ heap frame ih =>
    refine ⟨heap ▸ ih.heap, ?_, ?_⟩
    · rw [heap, frame]
      exact ih.frame
    · rw [heap, frame]
      exact ih.plain
  | run _ isParsed ended ih =>
    exact ((safe_interpret ih (Interpreter.formed_of_parse isParsed)).over ended).1.faithful

/-- A frame or an instance has a value for one of its names. -/
def Heap.Holds (heap : Heap) (v : Value) : Prop :=
  (∃ f x, heap.binding? f x = some v) ∨ ∃ a x, heap.field? a x = some v

theorem Heap.Faithful.holds {heap : Heap} {v : Value} (h : heap.Faithful) (holds : heap.Holds v) :
    v.Faithful heap := by
  rcases holds with ⟨f, x, found⟩ | ⟨a, x, found⟩
  · exact h.binding f x v found
  · exact h.field a x v found

/-- A method that is bound to a receiver is a function whose frame has that receiver. -/
theorem Evaluation.Binds.exists_answers {e : Expr} {s : Interpreter} {method : Closure}
    {receiver : Value} (binds : Binds (evaluating e s) method receiver) :
    ∃ identity c t, Routine.Answers body ((.evaluate e, s) : Goal .value)
        (.ok (.function identity c), t) ∧
      c.declaration = method.declaration ∧ t.heap.receiver? c.frame = some receiver := by
  cases binds with
  | @get object property _ t address c _ isInstance noField found =>
    have answered := answers_property property isInstance
    obtain ⟨identity, closure, isFunction, isDeclaration, isReceiver⟩ :=
      t.exists_bindMethod method (.instance_ address c)
    rw [Interpreter.property, noField, found] at answered
    dsimp only at answered
    rw [isFunction] at answered
    exact ⟨identity, closure, _, answered, isDeclaration, isReceiver⟩
  | @super keyword name _ distance address c superclass _ isEntry isClass isInstance found =>
    have answered : Routine.Answers body ((.evaluate (.super keyword name), s) : Goal .value) _ :=
      World.answers_super isEntry isClass isInstance
    obtain ⟨identity, closure, isFunction, isDeclaration, isReceiver⟩ :=
      s.exists_bindMethod method (.instance_ address c)
    rw [found] at answered
    dsimp only at answered
    rw [isFunction] at answered
    exact ⟨identity, closure, _, answered, isDeclaration, isReceiver⟩

section

variable {i k : Interpreter} {source : String} {program : List Stmt} {moves : Nat}
  {moment : Job.Moment Interpreter Fault Request Phase.Result Unit}

/-- What calls of methods and of classes yield in the run of a program that has been read, accepted
or not.

A call of a function that is bound to a receiver and was declared under the name `init` yields the
receiver, which is an instance.

A call of a class yields an instance of this class at an address that no instance had before. If the
class has or inherits a method `init`, that is bound to the new instance and called, and the call of
it yields the instance too.

A method becomes a function that is bound to a receiver when it is read from an instance or with
`super`, and from then on its frame has this receiver, at all later moments. A statement that
declares a function is executed in a frame without a receiver, so what it makes is no method. -/
theorem Unchecked.initializers_yield (session : Unchecked i)
    (isParsed : (k.parse source).1 = .ok program)
    (reached : Job.proceed step moves (Job.start (interpret program) i) = .error moment) :
    (∀ identity c arguments line s,
      moment.task? = some (calling (.function identity c) arguments line s) →
        (c.isInitializer = true ↔
          (∃ receiver, s.heap.receiver? c.frame = some receiver) ∧ c.name = "init") ∧
        ∀ receiver, s.heap.receiver? c.frame = some receiver →
          (∃ address k, receiver = .instance_ address k ∧ address < s.heap.fields.size) ∧
          ∀ v t, c.name = "init" → Routine.Answers body
              ((.call (.function identity c) arguments line, s) : Goal .value) (.ok v, t) →
            v = receiver) ∧
    (∀ c arguments line s v t,
      moment.task? = some (calling (.classObject c) arguments line s) →
      Routine.Answers body ((.call (.classObject c) arguments line, s) : Goal .value) (.ok v, t) →
        v = .instance_ s.heap.fields.size c ∧ s.heap.fields.size < t.heap.fields.size ∧
        (∀ k, ¬ s.heap.Holds (.instance_ s.heap.fields.size k) ∧
          .instance_ s.heap.fields.size k ∉ arguments) ∧
        ∀ m, c.findMethod? "init" = some m →
          let new := { s with depth := s.depth + 1 }.newInstance c
          let bound := new.2.bindClosure m new.1
          bound.1.name = "init" ∧ bound.2.heap.receiver? bound.1.frame = some v ∧
            ∃ u, Ends (callClosure bound.1 arguments) bound.2 (.ok v) u) ∧
    (∀ e s method receiver, moment.task? = some (evaluating e s) →
      Binds (evaluating e s) method receiver →
        ∃ identity c t, Routine.Answers body ((.evaluate e, s) : Goal .value)
            (.ok (.function identity c), t) ∧
          c.declaration = method.declaration ∧ t.heap.receiver? c.frame = some receiver ∧
          ∃ more later, Job.proceed step more moment = .error later ∧ later.state = t) ∧
    (∀ d s, moment.task? = some (executing (.functionDecl d) s) →
      s.heap.receiver? s.frame = none) ∧
    ∀ more later f receiver, Job.proceed step more moment = .error later →
      moment.state.heap.receiver? f = some receiver →
        later.state.heap.receiver? f = some receiver := by
  have formed := Interpreter.formed_of_parse isParsed
  have grows : Job.Grows receivers LaterHeap _ _ moment :=
    (Job.Grows.outer (safe_interpret session.faithful formed)).proceed grown reached
  refine ⟨fun identity c arguments line s taken => ⟨?_, fun receiver isReceiver => ⟨?_, ?_⟩⟩,
    fun c arguments line s v t taken answered => ?_, fun e s method receiver taken binds => ?_,
    fun d s taken => ?_, fun more later f receiver reached' isReceiver => ?_⟩
  · obtain ⟨-, closure, -⟩ := (grows.pre taken).1
    rw [Closure.Faithful.isInitializer closure, Bool.and_eq_true, Option.isSome_iff_exists,
      beq_iff_eq]
  · have state := (grows.pre taken).1.1
    obtain ⟨address, k, rfl⟩ := state.heap.receiver c.frame receiver isReceiver
    exact ⟨address, k, rfl, (state.heap.binding c.frame "this" _ isReceiver).1⟩
  · intro v t isName answered
    obtain ⟨-, result⟩ := receivers_honoured.post (grows.pre taken).1 answered
    exact (result v rfl).2 receiver isReceiver isName
  · have pre := (grows.pre taken).1
    obtain ⟨-, result⟩ := receivers_honoured.post pre answered
    obtain ⟨state, isClass, values⟩ := pre
    obtain ⟨value, isInstance⟩ := result v rfl
    obtain rfl : v = .instance_ s.heap.fields.size c := isInstance
    refine ⟨rfl, value.1, fun k => ⟨fun holds => ?_, fun mem => ?_⟩, fun m found => ?_⟩
    · exact Nat.lt_irrefl _ (state.heap.holds holds).1
    · exact Nat.lt_irrefl _ (values _ mem).1
    · obtain ⟨before, new⟩ := (state.atDepth (s.depth + 1)).faithful.newInstance isClass
      have kept := isClass.mono before.later "init" m found
      obtain ⟨-, -, isReceiver⟩ := before.faithful.bindClosure kept new
      exact ⟨kept.named, isReceiver, exists_ends_initializer state isClass values found answered⟩
  · obtain ⟨identity, c, t, answered, isDeclaration, isReceiver⟩ := binds.exists_answers
    exact ⟨identity, c, t, answered, isDeclaration, isReceiver,
      Job.Moment.exists_answered taken answered⟩
  · exact (grows.pre taken).1.1.plain
  · exact (grows.proceed grown reached').state.receiver_eq_some isReceiver

/-- Whether a job asks, after some moves, for a call of an initializer without arguments on the
first line, and the call yields a value if its requests nest at most `n` deep. -/
def callsInitializer {α : Type} (moves n : Nat) (job : Eval α) (i : Interpreter) : Bool :=
  match Job.proceed step moves (Job.start job i) with
  | .error moment =>
    match moment.task? with
    | some ⟨.value, .call (.function identity c) [] 1, s⟩ =>
      match s.heap.receiver? c.frame, c.name == "init",
        Routine.solve body n .value (.call (.function identity c) [] 1, s) with
      | some _, true, some (.ok _, _) => true
      | _, _, _ => false
    | _ => false
  | .ok _ => false

theorem exists_of_callsInitializer {α : Type} {moves n : Nat} {job : Eval α} {i : Interpreter}
    (calls : callsInitializer moves n job i = true) :
    ∃ moment identity c s receiver v t, Job.proceed step moves (Job.start job i) = .error moment ∧
      moment.task? = some (calling (.function identity c) [] 1 s) ∧
      s.heap.receiver? c.frame = some receiver ∧ c.name = "init" ∧
      Routine.solve body n .value (.call (.function identity c) [] 1, s) = some (.ok v, t) := by
  unfold callsInitializer at calls
  split at calls
  case h_2 => cases calls
  case h_1 moment reached =>
  split at calls
  case h_2 => cases calls
  case h_1 identity c s taken =>
  split at calls
  case h_2 => cases calls
  case h_1 receiver v t isReceiver isName solved =>
  exact ⟨moment, identity, c, s, receiver, v, t, reached, taken, isReceiver, beq_iff_eq.1 isName,
    solved⟩

/-- An initializer that returns nil is not accepted. It yields its instance all the same, also when
it is read from an instance and called again. -/
theorem initializers_yield_return :
    let source := "\x7b class A \x7b init() \x7b return nil; \x7d \x7d var f = A().init; f(); \x7d"
    let i := (Interpreter.start .unlimited fun _ => .ok 0).recordDistances [(0, 0), (1, 0)]
    ∃ program moment identity c s receiver t, (i.parse source).1 = .ok program ∧
      (i.bindProgram program).1 ≠ [] ∧
      Job.proceed step 20 (Job.start (interpret program) i) = .error moment ∧
      moment.task? = some (calling (.function identity c) [] 1 s) ∧
      s.heap.receiver? c.frame = some receiver ∧
      Routine.Answers body ((.call (.function identity c) [] 1, s) : Goal .value)
        (.ok receiver, t) := by
  intro source i
  let a : Token := ⟨.identifier, "A", 1⟩
  let init : Token := ⟨.identifier, "init", 1⟩
  let f : Token := ⟨.identifier, "f", 1⟩
  let right : Token := ⟨.symbol .rightParen, ")", 1⟩
  let program : List Stmt :=
    [.block [.classDecl a none [⟨init, [], [.ret ⟨.keyword .return_, "return", 1⟩
        (some (.literal .nil 1))]⟩],
      .varDecl f (some (.get (.call (.reference ⟨0, a⟩) right []) init)),
      .expression (.call (.reference ⟨1, f⟩) right [])]]
  have isTokens : tokenize source = .ok [⟨.symbol .leftBrace, "\x7b", 1⟩,
      ⟨.keyword .class_, "class", 1⟩, a, ⟨.symbol .leftBrace, "\x7b", 1⟩, init,
      ⟨.symbol .leftParen, "(", 1⟩, right, ⟨.symbol .leftBrace, "\x7b", 1⟩,
      ⟨.keyword .return_, "return", 1⟩, ⟨.keyword .nil_, "nil", 1⟩, ⟨.symbol .semicolon, ";", 1⟩,
      ⟨.symbol .rightBrace, "\x7d", 1⟩, ⟨.symbol .rightBrace, "\x7d", 1⟩,
      ⟨.keyword .var_, "var", 1⟩, f, ⟨.symbol .equal, "=", 1⟩, a, ⟨.symbol .leftParen, "(", 1⟩,
      right, ⟨.symbol .dot, ".", 1⟩, init, ⟨.symbol .semicolon, ";", 1⟩, f,
      ⟨.symbol .leftParen, "(", 1⟩, right, ⟨.symbol .semicolon, ";", 1⟩,
      ⟨.symbol .rightBrace, "\x7d", 1⟩, ⟨.endOfInput, "", 1⟩] := by
    cbv
  have isParsed : (i.parse source).1 = .ok program := by
    unfold Interpreter.parse
    rw [isTokens]
    rfl
  have rejected : (i.bindProgram program).1 =
      [.scoping ⟨⟨.keyword .return_, "return", 1⟩, .valueFromInitializer⟩] := by
    cbv
  have calls : callsInitializer 20 5 (interpret program) i = true := by
    decide +kernel
  obtain ⟨moment, identity, c, s, receiver, v, t, reached, taken, isReceiver, isName, solved⟩ :=
    exists_of_callsInitializer calls
  have session : Unchecked i := .between (.start .unlimited fun _ => .ok 0) rfl rfl
  obtain ⟨-, yields⟩ :=
    (session.initializers_yield isParsed reached).1 identity c [] 1 s taken
  obtain rfl := (yields receiver isReceiver).2 v t isName ⟨5, solved⟩
  exact ⟨program, moment, identity, c, s, v, t, isParsed, by simp [rejected], reached, taken,
    isReceiver, ⟨5, solved⟩⟩

end

end Lox
