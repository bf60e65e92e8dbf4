import Lox.Proofs.Evaluation.Maker
import Lox.Proofs.Evaluation.Realm
import Lox.Proofs.Evaluation.Sequence
import Lox.Proofs.Routine.Contract

/-!
# Running code is confined to its realm

The evaluation of an expression, the execution of a statement and a call keep to a contract: with
all that they are given inside a realm, they read, make and write only what is inside it, they come
back to the frame and the number of calls in progress with which they began, and they only add to
what was written. The goals that come up in the treatment of a goal descend: they are about a
smaller part of the program with the same calls in progress, or they are in the body of a function
that is called, with one more call in progress, or they are about a loop once again.

## Main definitions

* `Evaluation.Descends`: the goals that come up in the treatment of a goal.
* `Realm.contract`: what is required of goals and promised of answers.

## Main results

* `Evaluation.honoured`: the treatments of goals keep to the contract of every realm.
* `Realm.Keeps.since`: a run that keeps to the contract ends inside the realm.
* `Evaluation.since_evaluate`, `Evaluation.since_interpret`: evaluations and programs only add to
  what was written.
-/

namespace Lox

open Evaluation

namespace Evaluation

/-- The size of the part of a program that a request is about. -/
def Request.size : {p : Phase} → Request p → Nat
  | _, .evaluate e => e.size
  | _, .execute s => s.size
  | _, .call .. => 0

/-- Which goals come up in the treatment of a goal. -/
inductive Descends : Task → Task → Prop
  | part {p p' : Phase} {r : Request p} {r' : Request p'} {s t : Interpreter}
      (depth : t.depth = s.depth) (smaller : r'.size < r.size) : Descends ⟨p, r, s⟩ ⟨p', r', t⟩
  | body {callee : Value} {arguments : List Value} {line : Nat} {stmt : Stmt} {s t : Interpreter}
      (room : s.depth < maxDepth) (depth : t.depth = s.depth + 1) :
      Descends (calling callee arguments line s) (executing stmt t)
  | again {condition : Expr} {stmt : Stmt} {s t : Interpreter} (depth : t.depth = s.depth) :
      Descends (executing (.loop condition stmt) s) (executing (.loop condition stmt) t)

end Evaluation

namespace Realm

variable (R : Realm)

/-- How a statement ends: normally, or with a value of the realm. -/
def Passes : Flow → Prop
  | .normal => True
  | .returned value => value.Within R

/-- Results of requests that belong to the realm. -/
def Yields : (p : Phase) → p.Result → Prop
  | .value => Value.Within R
  | .flow => R.Passes

/-- What is required of requests: code and values belong to the realm, and so does the frame in
which code runs. -/
def Admits (f : FrameId) : {p : Phase} → Request p → Prop
  | _, .evaluate _ => R.frame f
  | _, .execute s => R.frame f ∧ R.code s
  | _, .call callee arguments _ => callee.Within R ∧ ∀ v ∈ arguments, v.Within R

/-- Goals inside the realm have answers inside the realm, in states that come after theirs. -/
def contract : Contract Goal Answer where
  Pre goal := R.Admits goal.2.frame goal.1 ∧ goal.2.heap.Within R
  Post {p} goal := Job.Meets (R.Since goal.2 goal.2.frame goal.2.depth) (R.Yields p)
  Next := Descends

/-- A computation that begins after a state, in a frame and with so many calls in progress, keeps to
the contract. -/
abbrev Keeps {α : Type} (i : Interpreter) (f : FrameId) (d : Nat) (asks : Task → Prop)
    (Q : α → Prop) (job : Eval α) : Prop :=
  Job.Keeps R.contract asks (R.Since i f d) Q job

/-- The end of the treatment of a goal: a result of the realm, or a request that descends from
it. -/
def Closes (task : Task) : Step task.1 → Prop
  | .finished result => R.Yields task.1 result
  | .handOver request => R.Admits task.2.2.frame request ∧
      ∀ t : Interpreter, t.depth = task.2.2.depth → Descends task ⟨task.1, request, t⟩

end Realm

namespace Evaluation

variable {R : Realm} {i : Interpreter} {f : FrameId} {d : Nat} {asks : Task → Prop} {α : Type}
  {Q : α → Prop} {p : Phase}

/-! ### Requests and their ends -/

theorem keeps_ask {r : Request p} (admitted : R.Admits f r)
    (asked : ∀ t : Interpreter, t.depth = d → asks ⟨p, r, t⟩) :
    R.Keeps i f d asks (R.Yields p) (Job.ask r) := by
  refine .ask (fun s since => ⟨⟨?_, since.heap⟩, asked s since.depth⟩)
    fun s since answer promised => ⟨?_, promised.2⟩
  · rw [since.frame]
    exact admitted
  · have later := since.trans promised.1
    rw [since.frame, since.depth] at later
    exact later

theorem keeps_evaluate {e : Expr} (inside : R.frame f)
    (asked : ∀ t : Interpreter, t.depth = d → asks (evaluating e t)) :
    R.Keeps i f d asks (Value.Within R) (evaluate e) :=
  keeps_ask (r := .evaluate e) inside asked

theorem keeps_execute {s : Stmt} (inside : R.frame f) (code : R.code s)
    (asked : ∀ t : Interpreter, t.depth = d → asks (executing s t)) :
    R.Keeps i f d asks R.Passes (execute s) :=
  keeps_ask (r := .execute s) ⟨inside, code⟩ asked

theorem keeps_check {r : Except Fault α} (h : ∀ a, r = .ok a → Q a) :
    R.Keeps i f d asks Q (check r) := by
  cases r with
  | error e => exact .throw
  | ok a => exact .pure (h a rfl)

theorem keeps_fail (cause : Fault.Cause) (line : Nat) :
    R.Keeps i f d asks Q (fail cause line : Eval α) :=
  .throw

/-! ### Names and frames -/

theorem keeps_lookUp (inside : R.frame f) (o : Occurrence) :
    R.Keeps i f d asks (Value.Within R) (lookUp o) :=
  .bind .get fun _ since => keeps_check fun _ found => since.lookUp inside found

theorem keeps_define (inside : R.frame f) (name : Token) {v : Value} (value : v.Within R) :
    R.Keeps i f d asks (fun _ => True) (define name v) :=
  .modify fun _ since => since.define (since.frame ▸ inside) value

theorem keeps_assign (inside : R.frame f) (o : Occurrence) {v : Value} (value : v.Within R) :
    R.Keeps i f d asks (fun _ => True) (assign o v) := by
  refine .bind .get fun s since => ?_
  refine .bind (keeps_check fun g found => since.target inside found) fun g inside' => ?_
  exact .modify fun _ since => since.define inside' value

theorem keeps_currentFrame : R.Keeps i f d asks (fun g => g = f) currentFrame :=
  .map .get fun _ since => since.frame

/-- A computation in a frame of the realm is followed by the return to the frame before. -/
theorem keeps_within {g : FrameId} {job : Eval α} (h : R.Keeps i g d asks Q job) :
    R.Keeps i f d asks Q (within g job) := by
  intro s since
  change Routine.Keeps R.contract asks _
    (Job.always job (fun t => { t with frame := s.frame }) { s with frame := g })
  refine Job.Keeps.always h (since.inFrame g) fun t since' => ?_
  rw [since.frame]
  exact since'.inFrame f

theorem keeps_executeAll {ss : List Stmt} (inside : R.frame f) (code : ∀ s ∈ ss, R.code s)
    (asked : ∀ s ∈ ss, ∀ t : Interpreter, t.depth = d → asks (executing s t)) :
    R.Keeps i f d asks R.Passes (executeAll ss) := by
  induction ss with
  | nil => exact .pure trivial
  | cons s ss ih =>
    refine .bind (keeps_execute inside (code s List.mem_cons_self) (asked s List.mem_cons_self))
      fun flow passes => ?_
    cases flow with
    | normal =>
      exact ih (fun s mem => code s (List.mem_cons_of_mem _ mem))
        fun s mem => asked s (List.mem_cons_of_mem _ mem)
    | returned value => exact .pure passes

/-! ### Calls -/

/-- The parameters of a call are bound to its arguments. -/
theorem forall_parameters {P : String → Value → Prop} {names : List String} {values : List Value}
    {bindings : Bindings} (arguments : ∀ x ∈ names, ∀ v ∈ values, P x v)
    (before : ∀ (x : String) (v : Value), bindings[x]? = some v → P x v)
    (x : String) (v : Value)
    (found : ((names.zip values).foldl (fun bindings (name, value) => bindings.insert name value)
      bindings)[x]? = some v) : P x v := by
  induction names generalizing values bindings with
  | nil => exact before x v found
  | cons name names ih =>
    cases values with
    | nil => exact before x v found
    | cons value values =>
      refine ih (fun y mem w mem' => ?_) (fun y w isValue => ?_) found
      · exact arguments y (List.mem_cons_of_mem _ mem) w (List.mem_cons_of_mem _ mem')
      · rw [Std.TreeMap.getElem?_insert] at isValue
        split at isValue
        · next isName =>
          cases isValue
          rw [Std.LawfulEqCmp.compare_eq_iff_eq] at isName
          subst isName
          exact arguments name List.mem_cons_self value List.mem_cons_self
        · exact before y w isValue

section Call

variable (asked : ∀ (stmt : Stmt) (t : Interpreter), t.depth = d → asks (executing stmt t))

include asked

theorem keeps_callClosure {c : Closure} {arguments : List Value} (closure : c.Within R)
    (within_ : ∀ v ∈ arguments, v.Within R) :
    R.Keeps i f d asks (Value.Within R) (callClosure c arguments) := by
  refine .bind (.modifyGet fun s since => since.newFrame closure.frame
    (forall_parameters (fun _ _ => within_) fun x v found => ?_)) fun g inside => ?_
  · rw [Std.TreeMap.getElem?_emptyc] at found
    cases found
  refine .bind (keeps_within (keeps_executeAll inside closure.body fun s _ => asked s))
    fun flow passes => ?_
  split
  · exact .bind .get fun s since => keeps_check fun v found => since.heap.getAt closure.frame found
  · cases flow with
    | normal => exact .pure trivial
    | returned value => exact .pure passes

theorem keeps_instantiate {c : Class} {arguments : List Value} (isClass : c.Within R)
    (within_ : ∀ v ∈ arguments, v.Within R) :
    R.Keeps i f d asks (Value.Within R) (instantiate c arguments) := by
  refine .bind (.modifyGet fun s since => since.newInstance isClass) fun v value => ?_
  split
  · next m isMethod =>
    refine .bind (.modifyGet fun s since => since.bindClosure (isClass.findMethod? isMethod) value)
      fun bound closure => ?_
    exact .bind (keeps_callClosure asked closure within_) fun _ _ => .pure value
  · exact .pure value

theorem keeps_perform {callee : Value} {arguments : List Value} {line : Nat}
    (value : callee.Within R) (within_ : ∀ v ∈ arguments, v.Within R) :
    R.Keeps i f d asks (Value.Within R) (perform callee arguments line) := by
  cases callee with
  | clock => exact .bind (.modifyGet fun s since => since.readClock line) fun r => keeps_check
  | function identity c => exact keeps_callClosure asked value within_
  | classObject c => exact keeps_instantiate asked value within_
  | _ => exact keeps_fail _ line

end Call

/-- A call runs its body with one more call in progress, if there is room for it. -/
theorem keeps_callValue {callee : Value} {arguments : List Value} {line : Nat}
    (value : callee.Within R) (within_ : ∀ v ∈ arguments, v.Within R)
    (asked : d < maxDepth → ∀ (stmt : Stmt) (t : Interpreter), t.depth = d + 1 →
      asks (executing stmt t)) :
    R.Keeps i f d asks (Value.Within R) (callValue callee arguments line) := by
  unfold callValue
  split
  · exact keeps_fail _ line
  · split
    · exact keeps_fail _ line
    · refine .bind .get fun s since => ?_
      split
      · exact keeps_fail _ line
      · next room =>
        rw [since.depth] at room
        intro t since'
        change Routine.Keeps R.contract asks _ (Job.always (perform callee arguments line)
          (fun u => { u with depth := u.depth - 1 }) { t with depth := t.depth + 1 })
        have keeps : R.Keeps i f (d + 1) asks (Value.Within R) (perform callee arguments line) :=
          keeps_perform (asked (Nat.lt_of_not_le room)) value within_
        refine keeps.always ?_ fun u since'' => ?_
        · rw [since'.depth]
          exact since'.atDepth (d + 1)
        · rw [since''.depth]
          exact since''.atDepth d

/-! ### Expressions -/

theorem keeps_readProperty {object : Value} {property : Token} (value : object.Within R) :
    R.Keeps i f d asks (Value.Within R) (readProperty object property) := by
  cases object with
  | instance_ address c =>
    exact .bind (.modifyGet fun s since => since.property value.1 value.2 property) fun r =>
      keeps_check
  | _ => exact keeps_fail _ property.line

theorem keeps_readSuper (inside : R.frame f) (keyword : Occurrence) (method : Token) :
    R.Keeps i f d asks (Value.Within R) (readSuper keyword method) := by
  refine .bind .get fun s since => ?_
  have getAt {distance : Nat} {x : String} (v : Value)
      (found : s.heap.getAt s.frame distance x keyword.name.line = .ok v) : v.Within R :=
    since.heap.getAt (since.frame ▸ inside) found
  split
  · exact keeps_fail _ _
  · refine .bind (keeps_check getAt) fun v isClass => ?_
    split
    · refine .bind (keeps_check getAt) fun w isInstance => ?_
      split
      · split
        · next isMethod =>
          exact .modifyGet fun _ since => since.bindMethod (isClass.findMethod? isMethod) isInstance
        · exact keeps_fail _ _
      · exact keeps_fail _ _
    · exact keeps_fail _ _

/-- The expressions inside an expression are smaller. -/
theorem size_lt_sizes {e : Expr} {es : List Expr} (mem : e ∈ es) : e.size ≤ Expr.sizes es := by
  induction es with
  | nil => cases mem
  | cons e' es ih =>
    rw [Expr.sizes]
    rcases List.mem_cons.1 mem with rfl | mem
    · exact Nat.le_add_right _ _
    · exact Nat.le_trans (ih mem) (Nat.le_add_left _ _)

/-- The treatment of an expression keeps to the contract. -/
theorem keeps_evaluateStep (s : Interpreter) (inside : R.frame s.frame) (e : Expr) :
    R.Keeps s s.frame s.depth (Descends (evaluating e s)) (R.Closes (evaluating e s))
      (evaluateStep e) := by
  have part {e' : Expr} (smaller : e'.size < e.size) :
      R.Keeps s s.frame s.depth (Descends (evaluating e s)) (Value.Within R) (evaluate e') :=
    keeps_evaluate inside fun t depth => .part depth smaller
  cases e with
  | literal value => exact .pure (Value.plain_ofLiteral value).within
  | grouping inner =>
    exact .pure ⟨inside, fun t depth => .part depth (Nat.lt_succ_self _)⟩
  | unary operator right =>
    refine .bind (part (Nat.lt_succ_self _)) fun v _ => ?_
    exact .bind (keeps_check fun _ result => (Value.plain_unary result).within)
      fun _ value => .pure value
  | binary left operator right =>
    refine .bind (part (by simp only [Expr.size]; omega)) fun v _ => ?_
    refine .bind (part (by simp only [Expr.size]; omega)) fun w _ => ?_
    exact .bind (keeps_check fun _ result => (Value.plain_binary result).within)
      fun _ value => .pure value
  | logical left operator right =>
    refine .bind (part (by simp only [Expr.size]; omega)) fun v value => ?_
    split
    · exact .pure value
    · refine .pure ⟨inside, fun t depth => .part depth ?_⟩
      simp only [Request.size, Expr.size]
      omega
  | reference name => exact .bind (keeps_lookUp inside name) fun _ value => .pure value
  | assign name value =>
    refine .bind (part (Nat.lt_succ_self _)) fun v value => ?_
    exact .seq (keeps_assign inside name value) fun _ => .pure value
  | call callee paren arguments =>
    refine .bind (part (by simp only [Expr.size]; omega)) fun v value => ?_
    refine .bind (Job.Keeps.mapM fun e mem => part ?_) fun vs values => ?_
    · have le := size_lt_sizes mem
      simp only [Expr.size]
      omega
    · exact .pure ⟨⟨value, values⟩, fun t depth => .part depth (Nat.zero_lt_succ _)⟩
  | get object property =>
    refine .bind (part (Nat.lt_succ_self _)) fun v value => ?_
    exact .bind (keeps_readProperty value) fun _ value => .pure value
  | set object property value =>
    refine .bind (part (by simp only [Expr.size]; omega)) fun v isObject => ?_
    split
    · refine .bind (part (by simp only [Expr.size]; omega)) fun w value => ?_
      exact .seq (.modify fun _ since => since.setField isObject.1 value) fun _ => .pure value
    · exact keeps_fail _ _
  | this keyword => exact .bind (keeps_lookUp inside keyword) fun _ value => .pure value
  | super keyword method =>
    exact .bind (keeps_readSuper inside keyword method) fun _ value => .pure value

/-! ### Statements -/

theorem keeps_checkOutput (failure : Option String) (line : Nat) :
    R.Keeps i f d asks (fun _ => True) (checkOutput failure line) := by
  cases failure with
  | none => exact .pure trivial
  | some reason => exact keeps_fail _ line

theorem keeps_print (value : Value) (line : Nat) :
    R.Keeps i f d asks (fun _ => True) (print value line) :=
  .bind (Q := fun _ => True) (.modifyGet fun _ since => ⟨trivial, since.write _⟩)
    fun failure _ => keeps_checkOutput failure line

theorem keeps_superclassOf (inside : R.frame f) {superclass : Occurrence}
    (asked : ∀ t : Interpreter, t.depth = d → asks (evaluating (.reference superclass) t)) :
    R.Keeps i f d asks (Class.Within R) (superclassOf superclass) := by
  refine .bind (keeps_evaluate inside asked) fun v value => ?_
  split
  · exact .pure value
  · exact keeps_fail _ _

/-- The methods of a class are declared in its body, under their names. -/
theorem exists_of_methodTable {methods : List FunctionDecl} {frame : FrameId} {x : String}
    {m : Closure} (found : (methodTable methods frame)[x]? = some m) :
    ∃ d ∈ methods, d.name.lexeme = x ∧ m = ⟨d, frame, x == "init"⟩ := by
  unfold methodTable at found
  suffices ∀ (ds : List FunctionDecl) (table : Std.TreeMap String Closure), ds ⊆ methods →
      (∀ (x : String) (m : Closure), table[x]? = some m →
        ∃ d ∈ methods, d.name.lexeme = x ∧ m = ⟨d, frame, x == "init"⟩) →
      (ds.foldl (fun table d => table.insert d.name.lexeme ⟨d, frame, d.name.lexeme == "init"⟩)
        table)[x]? = some m → ∃ d ∈ methods, d.name.lexeme = x ∧ m = ⟨d, frame, x == "init"⟩ by
    refine this methods ∅ (List.Subset.refl _) (fun y m found => ?_) found
    rw [Std.TreeMap.getElem?_emptyc] at found
    cases found
  clear found
  intro ds
  induction ds with
  | nil => exact fun table _ before found => before x m found
  | cons d ds ih =>
    intro table subset before found
    obtain ⟨mem, subset⟩ := List.cons_subset.1 subset
    refine ih _ subset (fun y m found => ?_) found
    rw [Std.TreeMap.getElem?_insert] at found
    split at found
    · next isName =>
      cases found
      rw [Std.LawfulEqCmp.compare_eq_iff_eq] at isName
      exact ⟨d, mem, isName, by rw [isName]⟩
    · exact before y m found

theorem within_class {identity : Nat} {name : String} {superclass : Option Class}
    {table : Std.TreeMap String Closure} (inherited : ∀ c, superclass = some c → c.Within R)
    (own : ∀ (x : String) (m : Closure), table[x]? = some m → m.Within R) :
    (⟨identity, name, superclass, table⟩ : Class).Within R := by
  intro m provided
  cases provided with
  | own found => exact own _ m found
  | inherited isSuperclass provided => exact inherited _ isSuperclass m provided

theorem keeps_defineClass (inside : R.frame f) {name : Token} {superclass : Option Occurrence}
    {methods : List FunctionDecl} (code : ∀ d ∈ methods, ∀ s ∈ d.body, R.code s)
    (asked : ∀ (o : Occurrence) (t : Interpreter), t.depth = d →
      asks (evaluating (.reference o) t)) :
    R.Keeps i f d asks (fun _ => True) (defineClass name superclass methods) := by
  have inherited : R.Keeps i f d asks (fun c? => ∀ c, c? = some c → c.Within R)
      (superclass.mapM superclassOf) := by
    cases superclass with
    | none => exact .pure nofun
    | some o =>
      refine .map (keeps_superclassOf inside (asked o)) fun c isClass => ?_
      rintro _ ⟨⟩
      exact isClass
  refine .bind inherited fun c? isClass => .seq (keeps_define inside name trivial) fun _ => ?_
  have rest (frame : FrameId) (inside' : R.frame frame) : R.Keeps i f d asks (fun _ => True)
      (do
        let identity ← modifyGet Interpreter.newIdentity
        define name (.classObject ⟨identity, name.lexeme, c?, methodTable methods frame⟩)) :=
    .bind (Q := fun _ => True) (.modifyGet fun _ since => ⟨trivial, since.newIdentity⟩) fun _ _ =>
      keeps_define inside name
        (within_class isClass fun _ _ found => by
          obtain ⟨d, mem, -, rfl⟩ := exists_of_methodTable found
          exact ⟨inside', code d mem⟩)
  cases c? with
  | none => exact .bind keeps_currentFrame fun frame isFrame => rest frame (isFrame ▸ inside)
  | some c =>
    refine .bind (.modifyGet fun s since => since.newFrame (since.frame ▸ inside)
      fun x v found => ?_) fun frame inside' => rest frame inside'
    obtain ⟨-, rfl⟩ := Bindings.of_getElem?_single found
    exact isClass c rfl

theorem size_le_sizes {s : Stmt} {ss : List Stmt} (mem : s ∈ ss) : s.size ≤ Stmt.sizes ss := by
  induction ss with
  | nil => cases mem
  | cons s' ss ih =>
    rw [Stmt.sizes]
    rcases List.mem_cons.1 mem with rfl | mem
    · exact Nat.le_add_right _ _
    · exact Nat.le_trans (ih mem) (Nat.le_add_left _ _)

/-- The treatment of a statement keeps to the contract. -/
theorem keeps_executeStep (s : Interpreter) (inside : R.frame s.frame) (stmt : Stmt)
    (code : R.code stmt) :
    R.Keeps s s.frame s.depth (Descends (executing stmt s)) (R.Closes (executing stmt s))
      (executeStep stmt) := by
  have contents (s' : Stmt) (inner : stmt.Contains s') : R.code s' := R.contents stmt s' inner code
  have value {e : Expr} (smaller : e.size < stmt.size) :
      R.Keeps s s.frame s.depth (Descends (executing stmt s)) (Value.Within R) (evaluate e) :=
    keeps_evaluate inside fun t depth => .part depth smaller
  have goOn {s' : Stmt} (inner : stmt.Contains s') (smaller : s'.size < stmt.size) :
      R.Closes (executing stmt s) (.handOver (.execute s')) :=
    ⟨⟨inside, contents s' inner⟩, fun t depth => .part depth smaller⟩
  cases stmt with
  | block body =>
    refine .bind (.modifyGet fun t since => since.newFrame (b := ∅) (since.frame ▸ inside)
      fun x v found => ?_) fun g inside' => ?_
    · rw [Std.TreeMap.getElem?_emptyc] at found
      cases found
    · refine .bind (keeps_within (keeps_executeAll inside' (fun s mem => contents s (.block mem))
        fun s mem t depth => .part depth (Nat.lt_succ_of_le (size_le_sizes mem))))
        fun flow passes => .pure passes
  | classDecl name superclass methods =>
    refine .seq (keeps_defineClass inside (fun d mem s mem' => contents s (.method mem mem'))
      fun o t depth => .part depth ?_) fun _ => .pure trivial
    simp only [Request.size, Expr.size, Stmt.size]
    omega
  | expression e => exact .bind (value (Nat.lt_succ_self _)) fun _ _ => .pure trivial
  | functionDecl declaration =>
    refine .bind keeps_currentFrame fun g isFrame => ?_
    refine .bind (.modifyGet fun t since => since.newFunction (c := ⟨declaration, g, false⟩)
      ⟨isFrame ▸ inside, fun s mem => contents s (.function mem)⟩) fun v isFunction => ?_
    exact .seq (keeps_define inside _ isFunction) fun _ => .pure trivial
  | conditional condition thenBranch elseBranch =>
    refine .bind (value (by simp only [Stmt.size]; omega)) fun v _ => ?_
    split
    · exact .pure (goOn .thenBranch (by simp only [Stmt.size]; omega))
    · split
      · exact .pure (goOn .elseBranch (by simp only [Stmt.size, Stmt.optionSize]; omega))
      · exact .pure trivial
  | print e =>
    refine .bind (value (Nat.lt_succ_self _)) fun v _ => ?_
    exact .seq (keeps_print v e.line) fun _ => .pure trivial
  | ret _ e? =>
    cases e? with
    | none => exact .pure trivial
    | some e => exact .bind (value (Nat.lt_succ_self _)) fun _ isValue => .pure isValue
  | varDecl name initializer =>
    cases initializer with
    | none =>
      refine .bind (Q := Value.Within R) (.pure trivial) fun v isValue => ?_
      exact .seq (keeps_define inside name isValue) fun _ => .pure trivial
    | some e =>
      refine .bind (value (Nat.lt_succ_self _)) fun v isValue => ?_
      exact .seq (keeps_define inside name isValue) fun _ => .pure trivial
  | loop condition body =>
    refine .bind (value (by simp only [Stmt.size]; omega)) fun v _ => ?_
    split
    · refine .bind (keeps_execute inside (contents body .loop) fun t depth => .part depth (by
        simp only [Request.size, Stmt.size]
        omega)) fun flow passes => ?_
      cases flow with
      | normal => exact .pure ⟨⟨inside, code⟩, fun t depth => .again depth⟩
      | returned value => exact .pure passes
    · exact .pure trivial

/-! ### All requests -/

/-- The treatments of goals keep to the contract of every realm. -/
theorem honoured (R : Realm) : R.contract.Honoured body := by
  refine Job.honoured_of_keeps fun p request s ⟨admitted, within_⟩ => ?_
  -- the treatment begins in the state of the goal, and ends as the contract says
  suffices R.Keeps s s.frame s.depth (Descends ⟨p, request, s⟩) (R.Closes ⟨p, request, s⟩)
      (step p request) by
    refine (this s (.refl within_)).mono ?_
    rintro ⟨outcome, t⟩ ⟨since, closes⟩
    cases outcome with
    | error e => exact ⟨since, nofun⟩
    | ok ending =>
      have closes := closes ending rfl
      cases ending with
      | finished result => exact .ok since closes
      | handOver next =>
        refine ⟨⟨?_, since.heap⟩, closes.2 t since.depth, fun answer promised => ⟨?_, promised.2⟩⟩
        · rw [since.frame]
          exact closes.1
        · have later := since.trans promised.1
          rw [since.frame, since.depth] at later
          exact later
  cases request with
  | evaluate e => exact keeps_evaluateStep s admitted e
  | execute stmt => exact keeps_executeStep s admitted.1 stmt admitted.2
  | call callee arguments line =>
    refine .bind (keeps_callValue admitted.1 admitted.2 fun room stmt t depth => ?_)
      fun v value => .pure value
    exact .body room depth

/-! ### Runs -/

/-- A request ends as its goal is answered. -/
theorem ends_ask_iff_answers {r : Request p} {j : Interpreter} {outcome : Except Fault p.Result} :
    Ends (Job.ask r) i outcome j ↔ Routine.Answers body (r, i) (outcome, j) := by
  rw [ends_iff]
  simp only [Job.meaning_ask]
  exact Iff.rfl

/-- A program keeps to the contract if its statements do. -/
theorem keeps_interpret {program : List Stmt} (inside : R.frame f) (code : ∀ s ∈ program, R.code s)
    (asked : ∀ s ∈ program, ∀ t : Interpreter, t.depth = d → asks (executing s t)) :
    R.Keeps i f d asks (fun _ => True) (interpret program) := by
  rw [interpret_eq]
  refine .bind (keeps_executeAll inside code asked) fun flow _ => ?_
  cases flow with
  | returned value => exact keeps_fail _ 0
  | normal =>
    exact .bind (Q := fun _ => True) (.modifyGet fun s since => ⟨trivial, since.flush⟩)
      fun failure _ => keeps_checkOutput failure 0

end Evaluation

/-- A computation that keeps to the contract of a realm ends in a state that comes after the one in
which it began. -/
theorem Realm.Keeps.since {R : Realm} {α : Type} {i j : Interpreter} {asks : Task → Prop}
    {Q : α → Prop} {job : Eval α} {outcome : Except Fault α}
    (keeps : R.Keeps i i.frame i.depth asks Q job) (within_ : i.heap.Within R)
    (ended : Ends job i outcome j) :
    R.Since i i.frame i.depth j ∧ ∀ a, outcome = .ok a → Q a := by
  obtain ⟨n, result⟩ := ends_iff.1 ended
  exact (honoured R).result (keeps i (.refl within_)) (Routine.Rest.of_denote result)

/-! ### The realm of everything -/

/-- All frames and instances, and all code. -/
def Realm.whole : Realm where
  frame _ := True
  instance_ _ := True
  code _ := True
  globals := trivial
  contents _ _ _ _ := trivial

theorem Closure.within_whole (c : Closure) : c.Within Realm.whole :=
  ⟨trivial, fun _ _ => trivial⟩

theorem Value.within_whole (v : Value) : v.Within Realm.whole := by
  cases v with
  | function _ c => exact c.within_whole
  | classObject c => exact fun m _ => m.within_whole
  | instance_ a c => exact ⟨trivial, fun m _ => m.within_whole⟩
  | _ => trivial

theorem Heap.within_whole (heap : Heap) : heap.Within Realm.whole where
  newFrame _ _ := trivial
  newInstance _ _ := trivial
  parent _ _ _ _ := trivial
  binding _ _ v _ _ := v.within_whole
  field _ _ v _ _ := v.within_whole

/-- The evaluation of an expression comes back to the frame and the calls in progress with which it
began, and only adds to what was written. -/
theorem Evaluation.since_evaluate {e : Expr} {i j : Interpreter} {outcome : Except Fault Value}
    (ended : Ends (evaluate e) i outcome j) : Realm.whole.Since i i.frame i.depth j := by
  have keeps : Realm.whole.Keeps i i.frame i.depth (fun _ => True) (Value.Within Realm.whole)
      (evaluate e) :=
    keeps_evaluate trivial fun _ _ => trivial
  exact (keeps.since i.heap.within_whole ended).1

/-- So does a program. -/
theorem Evaluation.since_interpret {program : List Stmt} {i j : Interpreter}
    {outcome : Except Fault Unit} (ended : Ends (interpret program) i outcome j) :
    Realm.whole.Since i i.frame i.depth j := by
  have keeps : Realm.whole.Keeps i i.frame i.depth (fun _ => True) (fun _ => True)
      (interpret program) :=
    keeps_interpret trivial (fun _ _ => trivial) fun _ _ _ _ => trivial
  exact (keeps.since i.heap.within_whole ended).1

end Lox
