import Lox.Proofs.Evaluation.Sequence
import Lox.Proofs.Session.Expression
import Lox.Proofs.Session.Matched
import Lox.Proofs.Value

/-!
# Sessions that a host drives

A host program that embeds the interpreter runs sources, evaluates expressions, calls values, and
reads and changes global names and properties. It works with the values that it was given before,
and with plain ones.

## Main definitions

* `HostSession`: the states that such sessions reach, with the values that the host has.
* `Interpreter.Host`: a state that matches itself, with the values that a host has.

## Main results

* `HostSession.exists_host`: a state that a host reaches matches itself, up to the labels in it.
-/

namespace Lox

open Evaluation

/-- The states that sessions of a host reach, with the values that were obtained on the way. Only
allowed sources are run. Between the steps numbers of occurrences may be left out. -/
inductive HostSession (allowed : String → Prop) : List Value → Interpreter → Prop
  | start (sink : Sink) (clock : Clock) : HostSession allowed [] (.start sink clock)
  | run {values : List Value} {i j : Interpreter} {moves : Nat} {source : String}
      {errors : List Diagnostic} (before : HostSession allowed values i)
      (isAllowed : allowed source) (ended : i.run moves source = some (errors, j)) :
      HostSession allowed values j
  | evaluate {values : List Value} {i j : Interpreter} {moves : Nat} {source : String}
      {result : Except (List Diagnostic) Value} (before : HostSession allowed values i)
      (ended : i.evaluate moves source = some (result, j)) :
      HostSession allowed (result.toOption.toList ++ values) j
  | call {values : List Value} {i j : Interpreter} {moves : Nat} {callee : Value}
      {arguments : List Value} {line : Nat} {result : Except Fault Value}
      (before : HostSession allowed values i) (hasCallee : callee ∈ values)
      (hasArguments : ∀ v ∈ arguments, v ∈ values)
      (ended : i.perform moves (call callee arguments line) = some (result, j)) :
      HostSession allowed (result.toOption.toList ++ values) j
  | plain {values : List Value} {i : Interpreter} {v : Value}
      (before : HostSession allowed values i) (isPlain : v.Plain) :
      HostSession allowed (v :: values) i
  | global {values : List Value} {i : Interpreter} {name : String} {v : Value}
      (before : HostSession allowed values i) (found : i.global? name = some v) :
      HostSession allowed (v :: values) i
  | define {values : List Value} {i : Interpreter} {name : String} {v : Value}
      (before : HostSession allowed values i) (mem : v ∈ values) :
      HostSession allowed values (i.defineGlobal name v)
  | assign {values : List Value} {i : Interpreter} {name : String} {line : Nat} {v : Value}
      (before : HostSession allowed values i) (mem : v ∈ values) :
      HostSession allowed values (i.assignGlobal name line v).2
  | property {values : List Value} {i : Interpreter} {address line : Nat} {c : Class}
      {name : String} (before : HostSession allowed values i)
      (mem : .instance_ address c ∈ values) :
      HostSession allowed ((i.getProperty address c name line).1.toOption.toList ++ values)
        (i.getProperty address c name line).2
  | setField {values : List Value} {i : Interpreter} {address : Nat} {c : Class} {name : String}
      {v : Value} (before : HostSession allowed values i) (mem : .instance_ address c ∈ values)
      (mem' : v ∈ values) : HostSession allowed values (i.setField address name v)
  | redirect {values : List Value} {i : Interpreter} (before : HostSession allowed values i)
      (sink : Sink) : HostSession allowed values { i with sink := sink }
  | skip {values : List Value} {i : Interpreter} (before : HostSession allowed values i)
      (count : Nat) : HostSession allowed values (i.skip count)

/-! ### Computations that are similar -/

namespace Interpreter.Matching

variable {c : Relabelling} {i i' j : Interpreter} {α β : Type} {Q : α → β → Prop}
  {job : Eval α} {job' : Eval β} {outcome : Except Fault α}

/-- If one of two similar computations ends, the other one does, and the states still match. -/
theorem exists_ends (matching : Matching c i i') (similar : Similar c (i, i') Q job job')
    (ended : Ends job i outcome j) :
    ∃ outcome' j', Ends job' i' outcome' j' ∧ Matching c j j' ∧ Checked c Q outcome outcome' := by
  obtain ⟨_, _, ended', checked, later⟩ := exists_ends_right similar matching.alike ended
  exact ⟨_, _, ended', matching.later later, checked⟩

theorem exists_ends_left (matching : Matching c i i') (similar : Similar c (i, i') Q job job')
    {outcome' : Except Fault β} {j' : Interpreter} (ended : Ends job' i' outcome' j') :
    ∃ outcome j, Ends job i outcome j ∧ Matching c j j' ∧ Checked c Q outcome outcome' := by
  obtain ⟨_, _, ended', checked, later⟩ := Evaluation.exists_ends_left similar matching.alike ended
  exact ⟨_, _, ended', matching.later later, checked⟩

/-- A computation that is similar to itself ends in a state that matches itself. -/
theorem of_ends {Q : α → α → Prop} (self : Matching c i i) (similar : Similar c (i, i) Q job job)
    (ended : Ends job i outcome j) : Matching c j j ∧ ∀ a, outcome = .ok a → Q a a := by
  obtain ⟨outcome', j', ended', later, checked⟩ := self.exists_ends similar ended
  obtain ⟨rfl, rfl⟩ := ended.unique ended'
  refine ⟨later, fun a isValue => ?_⟩
  subst isValue
  cases checked with
  | ok related => exact related

/-- Matched states match with another sink in place of theirs. -/
theorem redirect (matching : Matching c i i') (sink : Sink) :
    Matching c { i with sink := sink } { i' with sink := sink } := by
  have alike : Interpreter.Alike c ({ i with sink := sink }, { i' with sink := sink })
      { i with sink := sink } { i' with sink := sink } :=
    { matching.alike with sink := rfl, device := rfl }
  exact { matching with alike := alike }

end Interpreter.Matching

/-! ### States that match themselves -/

namespace Interpreter

open Scope

/-- A state that matches itself when nothing but numbers may differ, and so do the values that a
host has. -/
structure Host (c : Relabelling) (values : List Value) (i : Interpreter) : Prop where
  isLines : c.lines = Eq
  self : Matching c i i
  values : ∀ v ∈ values, v.Alike c v

namespace Host

variable {c d : Relabelling} {values : List Value} {i j : Interpreter} {source : String}

theorem cons (host : Host c values i) {v : Value} (value : v.Alike c v) :
    Host c (v :: values) i :=
  { host with values := List.forall_mem_cons.2 ⟨value, host.values⟩ }

/-- A host is given the result of a step. -/
theorem append (host : Host c values i) {ε : Type} {result : Except ε Value}
    (value : ∀ v, result = .ok v → v.Alike c v) :
    Host c (result.toOption.toList ++ values) i := by
  cases result with
  | error e => exact host
  | ok v => exact host.cons (value v rfl)

theorem extend (host : Host c values i) {p : List Stmt} (later : Matching (c.extend p p) j j) :
    Host (c.extend p p) values j :=
  ⟨host.isLines, later, fun v mem => (host.values v mem).mono Relabelling.le_extend⟩

/-- A direct change keeps a state matched with itself. -/
theorem later (host : Host c values i) (alike : j.Alike c (i, i) j) : Host c values j :=
  { host with self := host.self.later alike }

theorem alikeAll (host : Host c values i) (p : List Stmt) :
    List.Forall₂ (Stmt.Alike (.ofLines c.lines)) p p := by
  rw [host.isLines]
  exact Stmt.alikeAll_of_unnumbered rfl

theorem run (host : Host c values i) {moves : Nat} {errors : List Diagnostic}
    (ended : i.run moves source = some (errors, j)) : ∃ d, Host d values j := by
  have scans : ScansAlike c.lines (tokenizeFrom 1 source) (tokenizeFrom 1 source) :=
    host.isLines ▸ scansAlike_refl (fun _ => rfl) _
  have reads := host.self.readFrom scans
  rcases i.run_cases ended with ⟨isLoaded, -⟩ | ⟨program, k, outcome, isLoaded, -, isRun, -⟩
  · rw [← load_eq_readFrom, isLoaded] at reads
    cases reads with
    | error _ states => exact ⟨c, { host with self := states }⟩
  · rw [← load_eq_readFrom, isLoaded] at reads
    cases reads with
    | program programs states =>
      have similar := similar_interpret (w := (k, k)) (Relabelling.extend_alike programs)
        (show c.lines 0 0 from host.isLines ▸ rfl)
      exact ⟨_, host.extend (states.of_ends similar ⟨moves, isRun⟩).1⟩

/-- An expression that is read is like itself, with the numbers that correspond then. -/
theorem adopt (host : Host c values i) {tokens : List Token} {e : Expr}
    (isTree : (parseExpression tokens i.nextId).1 = .ok e) :
    Host (c.extend [.print e] [.print e]) values
        (i.adopted (parseExpression tokens i.nextId).2 [.print e]) ∧
      e.Alike (c.extend [.print e] [.print e]) e := by
  have le := nextId_le_parseExpression tokens i.nextId
  have apart : Apart i.nextId (parseExpression tokens i.nextId).2 (siteIds [.print e]) := by
    rw [siteIds_print]
    exact (numbered_of_parseExpression isTree).2
  refine ⟨host.extend (host.self.adopt (host.alikeAll _) le le apart apart), ?_⟩
  cases Relabelling.extend_alike (host.alikeAll [.print e]) with
  | cons first _ =>
    cases first with
    | print value => exact value

theorem evaluate (host : Host c values i) {moves : Nat} {result : Except (List Diagnostic) Value}
    (ended : i.evaluate moves source = some (result, j)) :
    ∃ d, Host d (result.toOption.toList ++ values) j := by
  unfold Interpreter.evaluate at ended
  cases isTokens : tokenize source with
  | error errors =>
    rw [loadExpr_of_lexical isTokens] at ended
    cases ended
    exact ⟨c, host⟩
  | ok tokens =>
    have le := nextId_le_parseExpression tokens i.nextId
    cases isTree : (parseExpression tokens i.nextId).1 with
    | error errors =>
      rw [loadExpr_of_error isTokens isTree] at ended
      cases ended
      exact ⟨c, { host with self := host.self.retable le le (fun _ _ => rfl) fun _ _ => rfl }⟩
    | ok e =>
      obtain ⟨host', alike⟩ := host.adopt isTree
      rw [loadExpr_of_ok isTokens isTree] at ended
      cases isErrors : (Scope.analyse (Scope.expressionEvents e)).errors with
      | cons first rest =>
        rw [isErrors] at ended
        cases ended
        exact ⟨_, host'⟩
      | nil =>
        rw [isErrors] at ended
        obtain ⟨⟨outcome, t⟩, isRun, isOutcome⟩ := Option.map_eq_some_iff.1 ended
        obtain ⟨self, value⟩ := host'.self.of_ends (similar_evaluate alike) ⟨moves, isRun⟩
        cases isOutcome
        refine ⟨_, Host.append { host' with self := self } fun v isValue => ?_⟩
        cases outcome with
        | error fault => cases isValue
        | ok w =>
          cases isValue
          exact value v rfl

theorem call (host : Host c values i) {moves : Nat} {callee : Value} {arguments : List Value}
    {line : Nat} {result : Except Fault Value} (hasCallee : callee ∈ values)
    (hasArguments : ∀ v ∈ arguments, v ∈ values)
    (ended : i.perform moves (Evaluation.call callee arguments line) = some (result, j)) :
    Host c (result.toOption.toList ++ values) j := by
  have alike : List.Forall₂ (Value.Alike c) arguments arguments :=
    List.forall₂_same.2 fun v mem => host.values v (hasArguments v mem)
  have requests : RequestAlike c .value (.call callee arguments line)
      (.call callee arguments line) :=
    .call (host.values callee hasCallee) alike (host.isLines ▸ rfl)
  have similar : Similar c (i, i) (Value.Alike c) (Evaluation.call callee arguments line)
      (Evaluation.call callee arguments line) :=
    Job.Similar.ask (L := likeness c (i, i)) requests
  obtain ⟨self, value⟩ := host.self.of_ends similar ⟨moves, ended⟩
  exact Host.append { host with self := self } value

theorem skip (host : Host c values i) (count : Nat) : Host c values (i.skip count) :=
  have le := Nat.le_add_right i.nextId count
  { host with self := host.self.retable le le (fun _ _ => rfl) fun _ _ => rfl }

theorem global (host : Host c values i) {name : String} {v : Value}
    (found : i.global? name = some v) : Host c (v :: values) i := by
  have value := host.self.alike.heap.binding globalFrame name
  rw [show i.heap.binding? globalFrame name = some v from found] at value
  cases value with
  | some value => exact host.cons value

theorem assign (host : Host c values i) (name : String) (line : Nat) {v : Value}
    (mem : v ∈ values) : Host c values (i.assignGlobal name line v).2 := by
  unfold assignGlobal
  split
  · exact host.later (host.self.alike.define _ _ (host.values _ mem))
  · exact host

theorem property (host : Host c values i) {address : Nat} {k : Class} (name : String) (line : Nat)
    (mem : .instance_ address k ∈ values) :
    Host c ((i.getProperty address k name line).1.toOption.toList ++ values)
      (i.getProperty address k name line).2 := by
  have isName : (nameAt name line).Alike c (nameAt name line) := ⟨rfl, rfl, host.isLines ▸ rfl⟩
  cases host.values _ mem with
  | instance_ _ isClass =>
    obtain ⟨value, later⟩ := host.self.alike.property address isClass isName
    refine (host.later later).append fun v isValue => ?_
    change (i.property address k (nameAt name line)).1 = .ok v at isValue
    rw [isValue] at value
    cases value with
    | ok related => exact related

end Host

end Interpreter

/-- A state that a host reaches matches itself, and so do the values that the host has. -/
theorem HostSession.exists_host {allowed : String → Prop} {values : List Value} {i : Interpreter}
    (session : HostSession allowed values i) : ∃ c, Interpreter.Host c values i := by
  induction session with
  | start sink clock =>
    obtain ⟨c, isLines, self⟩ := Interpreter.matched_start sink clock
    exact ⟨c, isLines, self, nofun⟩
  | run _ _ ended ih =>
    obtain ⟨c, host⟩ := ih
    exact host.run ended
  | evaluate _ ended ih =>
    obtain ⟨c, host⟩ := ih
    exact host.evaluate ended
  | call _ hasCallee hasArguments ended ih =>
    obtain ⟨c, host⟩ := ih
    exact ⟨c, host.call hasCallee hasArguments ended⟩
  | plain _ isPlain ih =>
    obtain ⟨c, host⟩ := ih
    exact ⟨c, host.cons (by cases isPlain <;> constructor)⟩
  | global _ found ih =>
    obtain ⟨c, host⟩ := ih
    exact ⟨c, host.global found⟩
  | define _ mem ih =>
    obtain ⟨c, host⟩ := ih
    exact ⟨c, host.later (host.self.alike.define _ _ (host.values _ mem))⟩
  | @assign values i name line v _ mem ih =>
    obtain ⟨c, host⟩ := ih
    exact ⟨c, host.assign name line mem⟩
  | @property values i address line k name _ mem ih =>
    obtain ⟨c, host⟩ := ih
    exact ⟨c, host.property name line mem⟩
  | setField _ _ mem ih =>
    obtain ⟨c, host⟩ := ih
    exact ⟨c, host.later (host.self.alike.setField _ _ (host.values _ mem))⟩
  | redirect _ sink ih =>
    obtain ⟨c, host⟩ := ih
    exact ⟨c, { host with self := host.self.redirect sink }⟩
  | skip _ count ih =>
    obtain ⟨c, host⟩ := ih
    exact ⟨c, host.skip count⟩

end Lox
