import Lox.Evaluation.Step
import Lox.Proofs.Alike.State
import Lox.Proofs.Evaluation.Sequence
import Lox.Proofs.Routine.Similar

/-!
# The evaluation of alike trees

The evaluator looks at the number of an occurrence only to find its distance, and at a line only to
put it into a fault. On alike trees, from alike states, it therefore goes through the same motions:
it makes the same moves, ends with alike results or alike faults, and leaves alike states.

## Main definitions

* `Evaluation.likeness`: related states, faults, requests and results of the evaluator.

## Main results

* `Evaluation.respects_step`: the treatments of alike requests are similar.
* `Evaluation.interpret_alike`: alike programs run alike.
* `Evaluation.exists_ends_right`, `Evaluation.exists_ends_left`: if one of two similar computations
  ends, so does the other one.
-/

namespace Lox

/-- Two statements ended normally, or both returned alike values. -/
inductive Flow.Alike (c : Relabelling) : Flow → Flow → Prop
  | normal : Alike c .normal .normal
  | returned {v v' : Value} (value : v.Alike c v') : Alike c (.returned v) (.returned v')

namespace Evaluation

section

variable (c : Relabelling)

/-- Two requests for the meaning of alike trees, or for alike calls. -/
inductive RequestAlike : (p : Phase) → Request p → Request p → Prop
  | evaluate {e e' : Expr} (h : e.Alike c e') : RequestAlike .value (.evaluate e) (.evaluate e')
  | execute {s s' : Stmt} (h : s.Alike c s') : RequestAlike .flow (.execute s) (.execute s')
  | call {v v' : Value} {vs vs' : List Value} {line line' : Nat} (callee : v.Alike c v')
      (arguments : List.Forall₂ (Value.Alike c) vs vs') (lines : c.lines line line') :
      RequestAlike .value (.call v vs line) (.call v' vs' line')

/-- Alike results of requests. -/
def ResultAlike : (p : Phase) → p.Result → p.Result → Prop
  | .value => Value.Alike c
  | .flow => Flow.Alike c

/-- What is alike for the evaluator, in runs that began in the states `w`. -/
def likeness (w : Interpreter × Interpreter) :
    Job.Likeness Interpreter Fault Request Phase.Result where
  state := Interpreter.Alike c w
  failure := Fault.Alike c
  request := RequestAlike c
  result := ResultAlike c

/-- Two computations go through the same motions from alike states. -/
abbrev Similar (w : Interpreter × Interpreter) {α β : Type} (Q : α → β → Prop) (job : Eval α)
    (job' : Eval β) : Prop :=
  Job.Similar (likeness c w) Q job job'

end

variable {c : Relabelling} {w : Interpreter × Interpreter} {α β : Type} {Q : α → β → Prop}

/-! ### The steps that computations are made of -/

theorem similar_check {r : Except Fault α} {r' : Except Fault β} (h : Checked c Q r r') :
    Similar c w Q (check r) (check r') := by
  cases h with
  | ok related => exact .pure related
  | error faults => exact .throw faults

theorem similar_fail (cause : Fault.Cause) {line line' : Nat} (lines : c.lines line line') :
    Similar c w Q (fail cause line) (fail cause line') :=
  .throw ⟨rfl, lines⟩

theorem similar_value {v v' : Value} (value : v.Alike c v') :
    Similar c w ((likeness c w).Ends .value) (finish v) (finish v') :=
  .pure (.finished value)

theorem similar_flow {flow flow' : Flow} (h : flow.Alike c flow') :
    Similar c w ((likeness c w).Ends .flow) (finish flow) (finish flow') :=
  .pure (.finished h)

theorem similar_handOver {p : Phase} {r r' : Request p} (requests : RequestAlike c p r r') :
    Similar c w ((likeness c w).Ends p) (handOver r) (handOver r') :=
  .pure (.handOver requests)

theorem similar_evaluate {e e' : Expr} (h : e.Alike c e') :
    Similar c w (Value.Alike c) (evaluate e) (evaluate e') := by
  have requests : (likeness c w).request .value (.evaluate e) (.evaluate e') := .evaluate h
  exact Job.Similar.ask requests

theorem similar_execute {s s' : Stmt} (h : s.Alike c s') :
    Similar c w (Flow.Alike c) (execute s) (execute s') := by
  have requests : (likeness c w).request .flow (.execute s) (.execute s') := .execute h
  exact Job.Similar.ask requests

theorem similar_currentFrame : Similar c w Eq currentFrame currentFrame :=
  .bind .get fun _ _ alike => .pure alike.frame.symm

theorem similar_define {t t' : Token} {v v' : Value} (name : t.Alike c t')
    (value : v.Alike c v') : Similar c w (fun _ _ => True) (define t v) (define t' v') :=
  .modify fun i i' alike => by
    rw [alike.frame, name.lexeme]
    exact alike.define _ _ value

theorem similar_lookUp {o o' : Occurrence} (occurrence : o.Alike c o') :
    Similar c w (Value.Alike c) (lookUp o) (lookUp o') :=
  .bind .get fun _ _ alike => similar_check (alike.lookUp occurrence)

theorem similar_assign {o o' : Occurrence} {v v' : Value} (occurrence : o.Alike c o')
    (value : v.Alike c v') : Similar c w (fun _ _ => True) (assign o v) (assign o' v') := by
  refine .bind .get fun i i' alike => ?_
  refine .bind (similar_check (alike.target occurrence)) fun f _ isFrame => ?_
  cases isFrame
  rw [occurrence.name.lexeme]
  exact .modify fun _ _ alike => alike.define _ _ value

theorem similar_within (f : FrameId) {job : Eval α} {job' : Eval β} (h : Similar c w Q job job') :
    Similar c w Q (within f job) (within f job') := by
  refine .bind (Q := Eq) (.modifyGet fun i i' alike => ⟨alike.frame.symm, ?_⟩)
    fun outer _ isOuter => ?_
  · exact { alike with frame := rfl }
  · cases isOuter
    exact .always h fun _ _ alike => { alike with frame := rfl }

theorem similar_executeAll {ss ss' : List Stmt} (h : List.Forall₂ (Stmt.Alike c) ss ss') :
    Similar c w (Flow.Alike c) (executeAll ss) (executeAll ss') := by
  induction h with
  | nil => exact .pure .normal
  | cons first _ ih =>
    refine .bind (similar_execute first) fun flow flow' related => ?_
    cases related with
    | normal => exact ih
    | returned value => exact .pure (.returned value)

theorem similar_mapM {es es' : List Expr} (h : List.Forall₂ (Expr.Alike c) es es') :
    Similar c w (List.Forall₂ (Value.Alike c)) (es.mapM evaluate) (es'.mapM evaluate) := by
  induction h with
  | nil => exact .pure .nil
  | cons first _ ih =>
    rw [List.mapM_cons, List.mapM_cons]
    exact .bind (similar_evaluate first) fun _ _ value =>
      .bind ih fun _ _ values => .pure (.cons value values)

/-! ### Calls -/

/-- Alike arguments are bound to the same parameters. -/
theorem bindingsAlike_parameters {names : List String} {vs vs' : List Value}
    (arguments : List.Forall₂ (Value.Alike c) vs vs') {b b' : Bindings}
    (h : BindingsAlike c b b') :
    BindingsAlike c
      ((names.zip vs).foldl (fun bindings (name, value) => bindings.insert name value) b)
      ((names.zip vs').foldl (fun bindings (name, value) => bindings.insert name value) b') := by
  induction names generalizing vs vs' b b' with
  | nil => exact h
  | cons name names ih =>
    cases arguments with
    | nil => exact h
    | cons value values => exact ih values (h.insert name value)

theorem similar_callClosure {f f' : Closure} {vs vs' : List Value} (closure : f.Alike c f')
    (arguments : List.Forall₂ (Value.Alike c) vs vs') :
    Similar c w (Value.Alike c) (callClosure f vs) (callClosure f' vs') := by
  have declaration := closure.declaration
  have names : f'.declaration.params.map Token.lexeme = f.declaration.params.map Token.lexeme := by
    have related := List.rel_map (P := Eq) (fun _ _ name => name.lexeme.symm) declaration.params
    exact (List.forall₂_eq_eq_eq ▸ related).symm
  unfold callClosure
  rw [names, closure.frame, closure.isInitializer]
  refine .bind (Q := Eq) (.modifyGet fun i i' alike => ?_) fun frame _ isFrame => ?_
  · obtain ⟨isFrame, alike⟩ :=
      alike.newFrame f.frame (bindingsAlike_parameters arguments bindingsAlike_empty)
    exact ⟨isFrame.symm, alike⟩
  · cases isFrame
    refine .bind (similar_within frame (similar_executeAll declaration.body))
      fun flow flow' flows => ?_
    split
    · exact .bind .get fun _ _ alike =>
        similar_check (alike.heap.getAt f.frame 0 "this" declaration.name.line)
    · cases flows with
      | normal => exact .pure .nil
      | returned value => exact .pure value

theorem similar_instantiate {k k' : Class} {vs vs' : List Value} (h : k.Alike c k')
    (arguments : List.Forall₂ (Value.Alike c) vs vs') :
    Similar c w (Value.Alike c) (instantiate k vs) (instantiate k' vs') := by
  unfold instantiate
  refine .bind (.modifyGet fun _ _ alike => alike.newInstance h) fun v v' value => ?_
  have method := h.findMethod "init"
  generalize k.findMethod? "init" = m at method
  generalize k'.findMethod? "init" = m' at method
  cases method with
  | none => exact .pure value
  | some method =>
    refine .bind (.modifyGet fun _ _ alike => alike.bindClosure method value) fun _ _ closure => ?_
    exact .bind (similar_callClosure closure arguments) fun _ _ _ => .pure value

theorem similar_perform {v v' : Value} {vs vs' : List Value} {line line' : Nat}
    (callee : v.Alike c v') (arguments : List.Forall₂ (Value.Alike c) vs vs')
    (lines : c.lines line line') :
    Similar c w (Value.Alike c) (perform v vs line) (perform v' vs' line') := by
  cases callee with
  | clock =>
    exact .bind (.modifyGet fun _ _ alike => alike.readClock lines) fun _ _ => similar_check
  | function _ closure => exact similar_callClosure closure arguments
  | classObject h => exact similar_instantiate h arguments
  | _ => exact similar_fail _ lines

theorem similar_callValue {v v' : Value} {vs vs' : List Value} {line line' : Nat}
    (callee : v.Alike c v') (arguments : List.Forall₂ (Value.Alike c) vs vs')
    (lines : c.lines line line') :
    Similar c w (Value.Alike c) (callValue v vs line) (callValue v' vs' line') := by
  unfold callValue
  rw [callee.arity, arguments.length_eq]
  cases v.arity? with
  | none => exact similar_fail _ lines
  | some arity =>
    dsimp only
    split
    · exact similar_fail _ lines
    · refine .bind .get fun i i' alike => ?_
      rw [alike.depth]
      split
      · exact similar_fail _ lines
      · refine .seq (.modify fun _ _ alike => ?_) ?_
        · exact { alike with depth := congrArg (· + 1) alike.depth }
        · exact .always (similar_perform callee arguments lines) fun _ _ alike =>
            { alike with depth := congrArg (· - 1) alike.depth }

/-! ### Expressions -/

theorem similar_readProperty {v v' : Value} {t t' : Token} (object : v.Alike c v')
    (name : t.Alike c t') :
    Similar c w (Value.Alike c) (readProperty v t) (readProperty v' t') := by
  cases object with
  | instance_ address h =>
    exact .bind (.modifyGet fun _ _ alike => alike.property address h name) fun _ _ =>
      similar_check
  | _ => exact similar_fail _ name.line

theorem similar_readSuper {o o' : Occurrence} {t t' : Token} (keyword : o.Alike c o')
    (method : t.Alike c t') : Similar c w (Value.Alike c) (readSuper o t) (readSuper o' t') := by
  have line := keyword.name.line
  refine .bind .get fun i i' alike => ?_
  rw [alike.distances _ _ keyword.id, alike.frame, method.lexeme]
  cases i.distances[o.id]? with
  | none => exact similar_fail _ line
  | some distance =>
    refine .bind (similar_check (alike.heap.getAt i.frame distance "super" line))
      fun _ _ value => ?_
    cases value with
    | classObject h =>
      refine .bind (similar_check (alike.heap.getAt i.frame (distance - 1) "this" line))
        fun _ _ value => ?_
      cases value with
      | instance_ address h' =>
        have found := h.findMethod t.lexeme
        dsimp only
        generalize Class.findMethod? _ t.lexeme = m at found
        generalize Class.findMethod? _ t.lexeme = m' at found
        cases found with
        | none => exact similar_fail _ method.line
        | some found =>
          exact .modifyGet fun _ _ alike => alike.bindMethod found (.instance_ address h')
      | _ => exact similar_fail _ line
    | _ => exact similar_fail _ line

/-- The treatments of alike expressions are similar. -/
theorem similar_expression {e e' : Expr} (h : e.Alike c e') :
    Similar c w ((likeness c w).Ends .value) (evaluateStep e) (evaluateStep e') := by
  cases h with
  | literal value => exact similar_value (Value.ofLiteral_alike value)
  | grouping inner => exact similar_handOver (.evaluate inner)
  | unary operator right =>
    refine .bind (similar_evaluate right) fun _ _ value => ?_
    exact .bind (similar_check (Value.unary_alike operator value)) fun _ _ => similar_value
  | binary left operator right =>
    refine .bind (similar_evaluate left) fun _ _ value => ?_
    refine .bind (similar_evaluate right) fun _ _ value' => ?_
    exact .bind (similar_check (Value.binary_alike value operator value')) fun _ _ => similar_value
  | logical left operator right =>
    refine .bind (similar_evaluate left) fun _ _ value => ?_
    rw [Value.decides_alike operator value]
    split
    · exact similar_value value
    · exact similar_handOver (.evaluate right)
  | reference name => exact .bind (similar_lookUp name) fun _ _ => similar_value
  | assign name value =>
    refine .bind (similar_evaluate value) fun _ _ value => ?_
    exact .seq (similar_assign name value) (similar_value value)
  | call callee paren arguments =>
    refine .bind (similar_evaluate callee) fun _ _ callee => ?_
    refine .bind (similar_mapM arguments) fun _ _ arguments => ?_
    exact similar_handOver (.call callee arguments paren.line)
  | get object property =>
    refine .bind (similar_evaluate object) fun _ _ object => ?_
    exact .bind (similar_readProperty object property) fun _ _ => similar_value
  | set object property value =>
    refine .bind (similar_evaluate object) fun _ _ object => ?_
    cases object with
    | instance_ address =>
      refine .bind (similar_evaluate value) fun _ _ value => ?_
      rw [property.lexeme]
      exact .seq (.modify fun _ _ alike => alike.setField address _ value) (similar_value value)
    | _ => exact similar_fail _ property.line
  | this keyword => exact .bind (similar_lookUp keyword) fun _ _ => similar_value
  | super keyword method => exact .bind (similar_readSuper keyword method) fun _ _ => similar_value

/-! ### Statements -/

theorem similar_checkOutput {failure failure' : Option String} {line line' : Nat}
    (lines : c.lines line line') (same : failure = failure') :
    Similar c w (fun _ _ => True) (checkOutput failure line) (checkOutput failure' line') := by
  subst same
  cases failure with
  | none => exact .pure trivial
  | some reason => exact similar_fail _ lines

theorem similar_print {v v' : Value} {line line' : Nat} (value : v.Alike c v')
    (lines : c.lines line line') :
    Similar c w (fun _ _ => True) (print v line) (print v' line') := by
  unfold print
  rw [value.text]
  refine .bind (Q := Eq) (.modifyGet fun _ _ alike => ?_) fun _ _ =>
    similar_checkOutput lines
  exact (alike.write (v.text ++ "\n")).imp_left Eq.symm

theorem similar_superclassOf {o o' : Occurrence} (superclass : o.Alike c o') :
    Similar c w (Class.Alike c) (superclassOf o) (superclassOf o') := by
  refine .bind (similar_evaluate (.reference superclass)) fun _ _ value => ?_
  cases value with
  | classObject h => exact .pure h
  | _ => exact similar_fail _ superclass.name.line

/-- The tables of alike methods hold alike closures. -/
theorem methodTable_alike {ds ds' : List FunctionDecl}
    (h : List.Forall₂ (FunctionDecl.Alike c) ds ds') (frame : FrameId) (x : String) :
    Option.Rel (Closure.Alike c) (methodTable ds frame)[x]? (methodTable ds' frame)[x]? := by
  unfold methodTable
  suffices ∀ table table' : Std.TreeMap String Closure,
      (∀ x : String, Option.Rel (Closure.Alike c) table[x]? table'[x]?) →
      Option.Rel (Closure.Alike c)
        (ds.foldl (fun table d => table.insert d.name.lexeme ⟨d, frame, d.name.lexeme == "init"⟩)
          table)[x]?
        (ds'.foldl (fun table d => table.insert d.name.lexeme ⟨d, frame, d.name.lexeme == "init"⟩)
          table')[x]? by
    refine this ∅ ∅ fun x => ?_
    rw [Std.TreeMap.getElem?_emptyc]
    exact .none
  induction h with
  | nil => exact fun _ _ tables => tables x
  | cons method _ ih =>
    refine fun _ _ tables => ih _ _ fun y => ?_
    dsimp only
    rw [method.name.lexeme, Std.TreeMap.getElem?_insert, Std.TreeMap.getElem?_insert]
    split
    · exact .some ⟨method, rfl, rfl⟩
    · exact tables y

theorem similar_defineClass {t t' : Token} {o o' : Option Occurrence} {ds ds' : List FunctionDecl}
    (name : t.Alike c t') (superclass : Option.Rel (Occurrence.Alike c) o o')
    (methods : List.Forall₂ (FunctionDecl.Alike c) ds ds') :
    Similar c w (fun _ _ => True) (defineClass t o ds) (defineClass t' o' ds') := by
  have inherited : Similar c w (Option.Rel (Class.Alike c)) (o.mapM superclassOf)
      (o'.mapM superclassOf) := by
    cases superclass with
    | none => exact .pure .none
    | some superclass => exact .map (similar_superclassOf superclass) fun _ _ => .some
  refine .bind inherited fun k k' superclasses => .seq (similar_define name .nil) ?_
  have rest (frame : FrameId) : Similar c w (fun _ _ => True)
      (do
        let identity ← modifyGet Interpreter.newIdentity
        define t (.classObject ⟨identity, t.lexeme, k, methodTable ds frame⟩))
      (do
        let identity ← modifyGet Interpreter.newIdentity
        define t' (.classObject ⟨identity, t'.lexeme, k', methodTable ds' frame⟩)) := by
    refine .bind (Q := Eq) (.modifyGet fun _ _ alike => ?_) fun identity _ isIdentity => ?_
    · exact ⟨alike.newIdentity.1.symm, alike.newIdentity.2⟩
    · cases isIdentity
      refine similar_define name (.classObject ?_)
      rw [name.lexeme]
      exact .mk superclasses (methodTable_alike methods frame)
  cases superclasses with
  | none =>
    refine .bind similar_currentFrame fun frame _ isFrame => ?_
    cases isFrame
    exact rest frame
  | some h =>
    refine .bind (Q := Eq) (.modifyGet fun i i' alike => ?_) fun frame _ isFrame => ?_
    · rw [alike.frame]
      obtain ⟨isFrame, alike⟩ :=
        alike.newFrame i.frame (bindingsAlike_empty.insert "super" (.classObject h))
      exact ⟨isFrame.symm, alike⟩
    · cases isFrame
      exact rest frame

/-- The treatments of alike statements are similar. -/
theorem similar_statement {s s' : Stmt} (h : s.Alike c s') :
    Similar c w ((likeness c w).Ends .flow) (executeStep s) (executeStep s') := by
  cases h with
  | block body =>
    refine .bind (Q := Eq) (.modifyGet fun i i' alike => ?_) fun frame _ isFrame => ?_
    · rw [alike.frame]
      obtain ⟨isFrame, alike⟩ := alike.newFrame i.frame bindingsAlike_empty
      exact ⟨isFrame.symm, alike⟩
    · cases isFrame
      exact .bind (similar_within frame (similar_executeAll body)) fun _ _ => similar_flow
  | classDecl name superclass methods =>
    exact .seq (similar_defineClass name superclass methods) (similar_flow .normal)
  | expression value => exact .bind (similar_evaluate value) fun _ _ _ => similar_flow .normal
  | functionDecl declaration =>
    refine .bind similar_currentFrame fun frame _ isFrame => ?_
    cases isFrame
    refine .bind (.modifyGet fun _ _ alike => alike.newFunction ⟨declaration, rfl, rfl⟩)
      fun _ _ value => ?_
    exact .seq (similar_define declaration.name value) (similar_flow .normal)
  | conditional condition thenBranch elseBranch =>
    refine .bind (similar_evaluate condition) fun _ _ value => ?_
    rw [value.isTruthy]
    split
    · exact similar_handOver (.execute thenBranch)
    · cases elseBranch with
      | none => exact similar_flow .normal
      | some elseBranch => exact similar_handOver (.execute elseBranch)
  | print value =>
    refine .bind (similar_evaluate value) fun _ _ printed => ?_
    exact .seq (similar_print printed value.line) (similar_flow .normal)
  | ret _ value =>
    cases value with
    | none => exact similar_flow (.returned .nil)
    | some value =>
      exact .bind (similar_evaluate value) fun _ _ value => similar_flow (.returned value)
  | varDecl name initializer =>
    cases initializer with
    | none => exact .seq (similar_define name .nil) (similar_flow .normal)
    | some value =>
      refine .bind (similar_evaluate value) fun _ _ value => ?_
      exact .seq (similar_define name value) (similar_flow .normal)
  | loop condition body =>
    refine .bind (similar_evaluate condition) fun _ _ value => ?_
    rw [value.isTruthy]
    split
    · refine .bind (similar_execute body) fun _ _ flow => ?_
      cases flow with
      | normal => exact similar_handOver (.execute (.loop condition body))
      | returned value => exact similar_flow (.returned value)
    · exact similar_flow .normal

/-- The treatments of alike requests are similar. -/
theorem respects_step :
    Routine.Respects (likeness c w).goal (likeness c w).answer (Job.body step) := by
  refine Job.Similar.respects fun p r r' requests => ?_
  cases requests with
  | evaluate h => exact similar_expression h
  | execute h => exact similar_statement h
  | call callee arguments lines =>
    exact .bind (similar_callValue callee arguments lines) fun _ _ => similar_value

/-! ### Programs -/

theorem similar_interpret {p p' : List Stmt} (h : List.Forall₂ (Stmt.Alike c) p p')
    (lines : c.lines 0 0) : Similar c w (fun _ _ => True) (interpret p) (interpret p') := by
  refine .bind (similar_executeAll h) fun _ _ flow => ?_
  cases flow with
  | returned => exact similar_fail _ lines
  | normal =>
    exact .bind (Q := Eq) (.modifyGet fun _ _ alike => alike.flush.imp_left Eq.symm) fun _ _ =>
      similar_checkOutput lines

/-- Alike programs run alike from alike states, with the same moves. -/
theorem interpret_alike {p p' : List Stmt} (h : List.Forall₂ (Stmt.Alike c) p p')
    (lines : c.lines 0 0) {i i' : Interpreter} (alike : i.Alike c w i') (moves : Nat) :
    Option.Rel ((likeness c w).Outcome fun _ _ => True) (Job.run step moves (interpret p) i)
      (Job.run step moves (interpret p') i') :=
  Job.Similar.run respects_step (similar_interpret h lines) alike moves

/-! ### Both ways -/

section

variable {i i' j j' : Interpreter} {job : Eval α} {job' : Eval β}

/-- If the first of two similar computations ends, so does the second one, and both leave alike
states. -/
theorem exists_ends_right (similar : Similar c w Q job job') (alike : i.Alike c w i')
    {outcome : Except Fault α} (ended : Ends job i outcome j) :
    ∃ outcome' j', Ends job' i' outcome' j' ∧ Checked c Q outcome outcome' ∧ j.Alike c w j' := by
  obtain ⟨moves, isRun⟩ := ended
  have outcomes := Job.Similar.run respects_step similar alike moves
  rw [isRun] at outcomes
  generalize isRun' : Job.run step moves job' i' = o at outcomes
  cases outcomes with
  | some outcome =>
    cases outcome with
    | ok related states => exact ⟨_, _, ⟨moves, isRun'⟩, .ok related, states⟩
    | error failure states => exact ⟨_, _, ⟨moves, isRun'⟩, .error failure, states⟩

theorem exists_ends_left (similar : Similar c w Q job job') (alike : i.Alike c w i')
    {outcome' : Except Fault β} (ended : Ends job' i' outcome' j') :
    ∃ outcome j, Ends job i outcome j ∧ Checked c Q outcome outcome' ∧ j.Alike c w j' := by
  obtain ⟨moves, isRun'⟩ := ended
  have outcomes := Job.Similar.run respects_step similar alike moves
  rw [isRun'] at outcomes
  generalize isRun : Job.run step moves job i = o at outcomes
  cases outcomes with
  | some outcome =>
    cases outcome with
    | ok related states => exact ⟨_, _, ⟨moves, isRun⟩, .ok related, states⟩
    | error failure states => exact ⟨_, _, ⟨moves, isRun⟩, .error failure, states⟩

end

end Evaluation

end Lox
