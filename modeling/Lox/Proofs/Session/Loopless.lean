import Lox.Proofs.Evaluation.Bounded
import Lox.Proofs.Grammar.LoopFree
import Lox.Proofs.Session.Host

/-!
# Sessions without loops

A session in whose sources no loop is written comes to an end with every program, every expression
and every call, since the number of calls in progress is bounded.

## Main definitions

* `Loopless`: a source without the keywords of loops.
* `LooplessSession`: the states that sessions with such sources reach, with the values that the
  session has been given.

## Main results

* `LooplessSession.bounded`: every run, every evaluation and every call ends, and the calls in
  progress are counted and bounded.
-/

namespace Lox

open Evaluation

/-- A source in which neither `while` nor `for` is a token. -/
def Loopless (source : String) : Prop :=
  ∀ tokens, tokenize source = .ok tokens → ∀ t ∈ tokens, t.Loopless

/-- The states that sessions without loops reach, with the values that were obtained on the way. A
session runs sources, evaluates expressions, calls values that it has with values that it has, reads
and changes global names and the properties of instances, puts another sink in place, and leaves out
numbers of occurrences. -/
abbrev LooplessSession : List Value → Interpreter → Prop :=
  HostSession Loopless

/-! ### Reading sources without loops -/

variable {i j : Interpreter} {source : String} {program : List Stmt}

/-- A program that is read from a source without loops is free of loops. -/
theorem Loopless.loopFree (loopless : Loopless source)
    (isLoaded : i.load source = (.ok program, j)) :
    ∀ s ∈ program, s.LoopFree := by
  cases isTokens : tokenize source with
  | error errors =>
    rw [Interpreter.load, Interpreter.parse, isTokens] at isLoaded
    cases isLoaded
  | ok tokens =>
    rw [Interpreter.load_eq_readFrom, Interpreter.readFrom, tokenizeFrom_one, isTokens] at isLoaded
    dsimp only at isLoaded
    cases isTree : (parseProgram tokens i.nextId).1 with
    | error errors =>
      rw [Interpreter.readTokens_of_error isTree] at isLoaded
      cases isLoaded
    | ok p =>
      rw [Interpreter.readTokens_of_ok isTree] at isLoaded
      obtain ⟨derives, -⟩ := derives_of_parseProgram isTree
      have isProgram := congrArg Prod.fst isLoaded
      dsimp only at isProgram
      split at isProgram <;> cases isProgram
      exact derives.loopFree fun t mem =>
        loopless tokens isTokens t ((List.takeWhile_sublist _).subset mem)

/-! ### States that sessions reach -/

/-- A state between the steps of a session: no call is in progress, and all code in the heap and in
the values that the session has is free of loops. -/
structure Idle (values : List Value) (i : Interpreter) : Prop where
  heap : i.heap.Within Realm.loopFree
  values : ∀ v ∈ values, v.Within Realm.loopFree
  depth : i.depth = 0

namespace Idle

variable {values : List Value} {α : Type} {job : Eval α} {Q : α → Prop}

theorem keeps_call (idle : Idle values i) {callee : Value} {arguments : List Value} {line : Nat}
    (hasCallee : callee ∈ values) (hasArguments : ∀ v ∈ arguments, v ∈ values) :
    Realm.loopFree.Keeps i i.frame i.depth (fun task => task.2.2.depth = 0)
      (Value.Within Realm.loopFree) (call callee arguments line) :=
  keeps_ask (r := .call callee arguments line)
    ⟨idle.values callee hasCallee, fun v mem => idle.values v (hasArguments v mem)⟩
    fun _ depth => depth.trans idle.depth

theorem keeps_evaluate (idle : Idle values i) (e : Expr) :
    Realm.loopFree.Keeps i i.frame i.depth (fun task => task.2.2.depth = 0)
      (Value.Within Realm.loopFree) (evaluate e) :=
  Evaluation.keeps_evaluate trivial fun _ depth => depth.trans idle.depth

theorem keeps_interpret (idle : Idle values i) (code : ∀ s ∈ program, s.LoopFree) :
    Realm.loopFree.Keeps i i.frame i.depth (fun task => task.2.2.depth = 0) (fun _ => True)
      (interpret program) :=
  Evaluation.keeps_interpret trivial code fun _ _ _ depth => depth.trans idle.depth

/-- Reading a source leaves the heap alone. -/
theorem retabled (idle : Idle values i) (n : NodeId) (table : Std.TreeMap NodeId Nat) :
    Idle values (i.retabled n table) :=
  { idle with }

theorem since (idle : Idle values i) {f : FrameId}
    (since : Realm.loopFree.Since i f i.depth j) : Idle values j :=
  ⟨since.heap, idle.values, since.depth.trans idle.depth⟩

theorem cons (idle : Idle values i) {v : Value} (value : v.Within Realm.loopFree) :
    Idle (v :: values) i :=
  { idle with values := List.forall_mem_cons.2 ⟨value, idle.values⟩ }

/-- A session is given the result of a step. -/
theorem append (idle : Idle values i) {ε : Type} {result : Except ε Value}
    (value : ∀ v, result = .ok v → v.Within Realm.loopFree) :
    Idle (result.toOption.toList ++ values) i := by
  cases result with
  | error e => exact idle
  | ok v => exact idle.cons (value v rfl)

end Idle

theorem Heap.within_start (R : Realm) (frames : ∀ f, R.frame f) (instances : ∀ a, R.instance_ a)
    (sink : Sink) (clock : Clock) : (Interpreter.start sink clock).heap.Within R where
  newFrame f _ := frames f
  newInstance a _ := instances a
  parent _ p _ _ := frames p
  binding f x v _ isValue := by
    rw [Interpreter.start, binding?_newFrame] at isValue
    split at isValue
    · obtain ⟨-, rfl⟩ := Bindings.of_getElem?_single isValue
      trivial
    · rw [binding?_eq_none_of_size_le (Nat.zero_le _)] at isValue
      cases isValue
  field a x v _ isValue := by
    cases isValue

/-- Between its steps, a session without loops is idle. -/
theorem LooplessSession.idle {values : List Value} (session : LooplessSession values i) :
    Idle values i := by
  induction session with
  | start sink clock =>
    exact ⟨Heap.within_start _ (fun _ => trivial) (fun _ => trivial) sink clock, nofun, rfl⟩
  | @run values i j moves source errors _ loopless ended idle =>
    unfold Interpreter.run at ended
    obtain ⟨n, table, -, isState, -⟩ := i.exists_load source
    rcases isLoaded : i.load source with ⟨result, k⟩
    rw [isLoaded] at ended isState
    obtain rfl : k = _ := isState
    cases result with
    | error errors' =>
      cases ended
      exact idle.retabled n table
    | ok program =>
      obtain ⟨⟨outcome, t⟩, isRun, isOutcome⟩ := Option.map_eq_some_iff.1 ended
      have keeps := (idle.retabled n table).keeps_interpret (loopless.loopFree isLoaded)
      obtain ⟨since, -⟩ := keeps.since (idle.retabled n table).heap ⟨moves, isRun⟩
      cases outcome <;> cases isOutcome <;> exact (idle.retabled n table).since since
  | @evaluate values i j moves source result _ ended idle =>
    unfold Interpreter.evaluate at ended
    obtain ⟨n, table, isState⟩ := i.exists_loadExpr source
    rcases isLoaded : i.loadExpr source with ⟨result, k⟩
    rw [isLoaded] at ended isState
    obtain rfl : k = _ := isState
    cases result with
    | error errors =>
      cases ended
      exact idle.retabled n table
    | ok e =>
      obtain ⟨⟨outcome, t⟩, isRun, isOutcome⟩ := Option.map_eq_some_iff.1 ended
      obtain ⟨since, value⟩ := ((idle.retabled n table).keeps_evaluate e).since
        (idle.retabled n table).heap ⟨moves, isRun⟩
      cases isOutcome
      refine ((idle.retabled n table).since since).append fun v isValue => ?_
      cases outcome with
      | error fault => cases isValue
      | ok w =>
        cases isValue
        exact value v rfl
  | call _ hasCallee hasArguments ended idle =>
    obtain ⟨since, value⟩ :=
      (idle.keeps_call hasCallee hasArguments).since idle.heap ⟨_, ended⟩
    exact (idle.since since).append value
  | plain _ isPlain idle => exact idle.cons (by cases isPlain <;> trivial)
  | global _ found idle => exact idle.cons (idle.heap.binding _ _ _ trivial found)
  | define _ mem idle =>
    exact { idle with heap := Heap.within_define idle.heap (idle.values _ mem) }
  | assign _ mem idle =>
    unfold Interpreter.assignGlobal
    split
    · exact { idle with heap := Heap.within_define idle.heap (idle.values _ mem) }
    · exact idle
  | @property values i address line c name _ mem idle =>
    obtain ⟨inside, isClass⟩ := idle.values _ mem
    obtain ⟨value, since⟩ := (Realm.Since.refl idle.heap).property inside isClass
      (Interpreter.nameAt name line)
    exact (idle.since since).append value
  | setField _ _ mem idle =>
    exact { idle with heap := Heap.within_setField idle.heap (idle.values _ mem) }
  | redirect _ _ idle => exact { idle with }
  | skip _ count idle => exact idle.retabled _ _

/-! ### Every step comes to an end -/

/-- In a session in whose sources no loop is written, every run, every evaluation and every call
ends. In each of them, the number of calls in progress is the depth of the state, and never exceeds
the greatest one; a call with as many arguments as it takes that is made when that many are in
progress fails with a stack overflow before it runs its body. -/
theorem LooplessSession.bounded {values : List Value} (session : LooplessSession values i) :
    (∀ source, Loopless source →
      (∃ moves errors j, i.run moves source = some (errors, j)) ∧
        ∀ program j, i.load source = (.ok program, j) → Bounded (interpret program) j) ∧
    (∀ source,
      (∃ moves result j, i.evaluate moves source = some (result, j)) ∧
        ∀ e j, i.loadExpr source = (.ok e, j) → Bounded (Evaluation.evaluate e) j) ∧
    ∀ callee ∈ values, ∀ arguments, (∀ v ∈ arguments, v ∈ values) → ∀ line,
      (∃ moves result j,
        i.perform moves (Evaluation.call callee arguments line) = some (result, j)) ∧
        Bounded (Evaluation.call callee arguments line) i := by
  have idle := session.idle
  refine ⟨fun source loopless => ?_, fun source => ?_,
    fun callee hasCallee arguments hasArguments line => ?_⟩
  · obtain ⟨n, table, -, isState, -⟩ := i.exists_load source
    have bounded (program : List Stmt) (j : Interpreter)
        (isLoaded : i.load source = (.ok program, j)) : Bounded (interpret program) j := by
      rw [isLoaded] at isState
      obtain rfl : j = _ := isState
      exact bounded_of_keeps
        ((idle.retabled n table).keeps_interpret (loopless.loopFree isLoaded)) idle.heap
    refine ⟨?_, bounded⟩
    rcases isLoaded : i.load source with ⟨errors | program, j⟩
    · exact ⟨0, errors, j, by rw [Interpreter.run, isLoaded]⟩
    · obtain ⟨outcome, k, moves, isRun⟩ := (bounded program j isLoaded).ends
      refine ⟨moves, ?_⟩
      rw [Interpreter.run, isLoaded]
      cases outcome with
      | ok _ => exact ⟨[], k, congrArg (Option.map _) isRun⟩
      | error fault => exact ⟨[.fault fault], k, congrArg (Option.map _) isRun⟩
  · obtain ⟨n, table, isState⟩ := i.exists_loadExpr source
    have bounded (e : Expr) (j : Interpreter) (isLoaded : i.loadExpr source = (.ok e, j)) :
        Bounded (Evaluation.evaluate e) j := by
      rw [isLoaded] at isState
      obtain rfl : j = _ := isState
      exact bounded_of_keeps ((idle.retabled n table).keeps_evaluate e) idle.heap
    refine ⟨?_, bounded⟩
    rcases isLoaded : i.loadExpr source with ⟨errors | e, j⟩
    · exact ⟨0, .error errors, j, by rw [Interpreter.evaluate, isLoaded]⟩
    · obtain ⟨outcome, k, moves, isRun⟩ := (bounded e j isLoaded).ends
      refine ⟨moves, outcome.mapError fun fault => [.fault fault], k, ?_⟩
      rw [Interpreter.evaluate, isLoaded]
      exact congrArg (Option.map _) isRun
  · have bounded : Bounded (Evaluation.call callee arguments line) i :=
      bounded_of_keeps (idle.keeps_call hasCallee hasArguments) idle.heap
    obtain ⟨result, j, moves, isRun⟩ := bounded.ends
    exact ⟨⟨moves, result, j, isRun⟩, bounded⟩

/-- A function that calls itself without end is run to an end, and a native function is called. -/
theorem bounded_recursion :
    let i := Interpreter.start .unlimited fun _ => .ok 0
    Loopless "fun f() \x7b f(); \x7d f();" ∧
      (∃ moves errors j, i.run moves "fun f() \x7b f(); \x7d f();" = some (errors, j)) ∧
      LooplessSession [.clock] i ∧ Bounded (Evaluation.call .clock [] 1) i := by
  intro i
  have isTokens : tokenize "fun f() \x7b f(); \x7d f();" = .ok [⟨.keyword .fun_, "fun", 1⟩,
      ⟨.identifier, "f", 1⟩, ⟨.symbol .leftParen, "(", 1⟩, ⟨.symbol .rightParen, ")", 1⟩,
      ⟨.symbol .leftBrace, "\x7b", 1⟩, ⟨.identifier, "f", 1⟩, ⟨.symbol .leftParen, "(", 1⟩,
      ⟨.symbol .rightParen, ")", 1⟩, ⟨.symbol .semicolon, ";", 1⟩,
      ⟨.symbol .rightBrace, "\x7d", 1⟩, ⟨.identifier, "f", 1⟩, ⟨.symbol .leftParen, "(", 1⟩,
      ⟨.symbol .rightParen, ")", 1⟩, ⟨.symbol .semicolon, ";", 1⟩, ⟨.endOfInput, "", 1⟩] := by
    cbv
  have loopless : Loopless "fun f() \x7b f(); \x7d f();" := by
    intro tokens isTokens'
    cases isTokens.symm.trans isTokens'
    simp [Token.Loopless]
  have isGlobal : i.global? "clock" = some .clock := rfl
  have session : LooplessSession [.clock] i := .global (.start _ _) isGlobal
  exact ⟨loopless, (session.bounded.1 _ loopless).1, session,
    (session.bounded.2.2 .clock (List.mem_singleton.2 rfl) [] (List.forall_mem_nil _) 1).2⟩

end Lox
