import Lox.Proofs.Evaluation.Sequence
import Lox.Proofs.Pair.State
import Lox.Proofs.Routine.Abreast

/-!
# The evaluation of alike trees side by side

The evaluator finds names at the distances in its table, and knows objects by their identities. On
alike trees at corresponding places, from states that are a pair, two runs therefore stay abreast of
each other: either both end or neither does, with paired results or the same fault, in states that
are a pair again.

## Main definitions

* `Evaluation.company`: what belongs together in two runs.
* `Evaluation.Abreast`: two computations abreast of each other.

## Main results

* `Evaluation.accompanied_step`: the treatments of requests that belong together.
* `Evaluation.Abreast.ends_right`, `Evaluation.Abreast.ends_left`: if one of two such computations
  ends, so does the other one.
-/

namespace Lox

open Scope

section

variable (c : Pairing)

/-- Two alike expressions, each of which fits its place. -/
structure Expr.Paired (p p' : Position) (e e' : Expr) : Prop where
  alike : e.Alike .renumbering e'
  fits : e.WellScoped (Recorded c.table) p
  fits' : e'.WellScoped (Recorded c.table') p'

/-- Two alike statements, each of which fits its place. -/
structure Stmt.Paired (p p' : Position) (s s' : Stmt) : Prop where
  alike : s.Alike .renumbering s'
  fits : s.WellScoped (Recorded c.table) p
  fits' : s'.WellScoped (Recorded c.table') p'

/-- Two statements ended normally, or both returned paired values. -/
inductive Flow.Paired (σ : Scene) : Flow → Flow → Prop
  | normal : Flow.Paired σ .normal .normal
  | returned {v v' : Value} (value : v.Paired c σ v') : Flow.Paired σ (.returned v) (.returned v')

namespace Evaluation

/-- Results that belong together. -/
def Phase.Paired (σ : Scene) : (k : Phase) → k.Result → k.Result → Prop
  | .value => Value.Paired c σ
  | .flow => Flow.Paired c σ

variable {c} in
/-- Requests for the meaning of alike trees at corresponding places, or for calls of paired values.
A statement that declares a name needs scopes that belong together. -/
inductive Request.Paired (j : Pair c) : {k : Phase} → Request k → Request k → Prop
  | evaluate {e e' : Expr} {p p' : Position} (at_ : j.At p p') (trees : e.Paired c p p' e') :
      Request.Paired j (.evaluate e) (.evaluate e')
  | execute {s s' : Stmt} {p p' : Position} (standing : j.Standing p p')
      (level : s.declared? = none ∨ j.Level p p') (trees : s.Paired c p p' s') :
      Request.Paired j (.execute s) (.execute s')
  | call {v v' : Value} {vs vs' : List Value} (callee : v.Paired c j.scene v')
      (arguments : List.Forall₂ (Value.Paired c j.scene) vs vs') (line : Nat) :
      Request.Paired j (.call v vs line) (.call v' vs' line)

/-- What belongs together in two runs. -/
def company : Job.Company (Pair c) Interpreter Request Phase.Result where
  left := Pair.left
  right := Pair.right
  Ahead := Pair.Ahead
  request j := Request.Paired j
  result {k} j := Phase.Paired c j.scene k

end Evaluation

end

namespace Evaluation

variable {c : Pairing} {α β : Type} {j : Pair c} {Q : Pair c → α → β → Prop} {σ : Scene}
  {p p' : Position}

instance : IsPreorder (Pair c) (company c).Ahead :=
  inferInstanceAs (IsPreorder (Pair c) Pair.Ahead)

/-- Two computations that begin in the states of a pair are abreast of each other. -/
abbrev Abreast (j : Pair c) (Q : Pair c → α → β → Prop) (job : Eval α) (job' : Eval β) : Prop :=
  Job.Abreast (company c) j Q job job'

/-! ### Computations -/

theorem abreast_check {r : Except Fault α} {r' : Except Fault β} (h : Agreed (Q j) r r') :
    Abreast j Q (check r) (check r') := by
  cases h with
  | ok related => exact .pure related
  | error e => exact .throw e

theorem abreast_checkValue {r r' : Except Fault Value} (h : Agreed (Value.Paired c j.scene) r r') :
    Abreast j (fun j' v v' => v.Paired c j'.scene v') (check r) (check r') :=
  abreast_check h

/-- Both have the same result, which is no object. -/
theorem abreast_checkPlain {r : Except Fault Value} (plain : ∀ v, r = .ok v → v.Plain) :
    Abreast j (fun j' v v' => v.Paired c j'.scene v') (check r) (check r) := by
  cases r with
  | ok v => exact .pure (plain v rfl).paired
  | error e => exact .throw e

theorem abreast_fail (cause : Fault.Cause) (line : Nat) :
    Abreast j Q (fail cause line : Eval α) (fail cause line : Eval β) :=
  .throw _

/-- Both computations change their states. -/
theorem abreast_modifyGet {f : Interpreter → α × Interpreter} {f' : Interpreter → β × Interpreter}
    (h : j.Becomes Q (f j.left) (f' j.right)) : Abreast j Q (modifyGet f) (modifyGet f') := by
  obtain ⟨j', ahead, isLeft, isRight, related⟩ := h
  exact .modifyGet j' ahead isLeft isRight related

/-- Both computations change their heaps. -/
theorem abreast_modify {f f' : Interpreter → Interpreter} (le : j.scene.LE σ) (sound : σ.Sound c)
    (isLeft : f j.left = (j.onScene sound).left) (isRight : f' j.right = (j.onScene sound).right) :
    Abreast j (fun _ _ _ => True) (modify f) (modify f') :=
  abreast_modifyGet (Pair.becomes_onScene le sound isLeft isRight trivial)

theorem abreast_evaluate {e e' : Expr} (at_ : j.At p p') (trees : e.Paired c p p' e') :
    Abreast j (fun j' v v' => v.Paired c j'.scene v') (evaluate e) (evaluate e') := by
  have requests : (company c).request j (Request.evaluate e) (.evaluate e') :=
    .evaluate at_ trees
  exact .ask requests

theorem abreast_execute {s s' : Stmt} (standing : j.Standing p p')
    (level : s.declared? = none ∨ j.Level p p') (trees : s.Paired c p p' s') :
    Abreast j (fun j' flow flow' => flow.Paired c j'.scene flow') (execute s) (execute s') := by
  have requests : (company c).request j (Request.execute s) (.execute s') :=
    .execute standing level trees
  exact .ask requests

theorem abreast_value {v v' : Value} (value : v.Paired c j.scene v') :
    Abreast j (fun j' => (company c).Ends (k := Phase.value) j') (finish v) (finish v') :=
  .pure (.finished value)

theorem abreast_flow {flow flow' : Flow} (h : flow.Paired c j.scene flow') :
    Abreast j (fun j' => (company c).Ends (k := Phase.flow) j') (finish flow) (finish flow') :=
  .pure (.finished h)

theorem abreast_handOver {k : Phase} {r r' : Request k} (requests : r.Paired j r') :
    Abreast j (fun j' => (company c).Ends j') (handOver r) (handOver r') :=
  .pure (.handOver requests)

/-- Computations in other frames. -/
theorem abreast_within {f f' : FrameId} {P : Scene → α → β → Prop} {job : Eval α} {job' : Eval β}
    (h : Abreast (j.inFrames f f') (fun j' => P j'.scene) job job') :
    Abreast j (fun j' => P j'.scene) (within f job) (within f' job') := by
  change Routine.Abreast (company c).goals ((company c).Outcome j fun j' => P j'.scene)
    (Job.always job (fun i => { i with frame := j.left.frame }) { j.left with frame := f })
    (Job.always job' (fun i => { i with frame := j.right.frame }) { j.right with frame := f' })
  refine Job.abreast_always h fun i ahead => ?_
  exact ⟨i.inFrames j.left.frame j.right.frame, ⟨ahead.scene, rfl, rfl⟩, rfl, rfl,
    fun _ _ related => related⟩

/-- Statements in sequence, of which each may declare names for the next ones. -/
theorem abreast_executeAll {ss ss' : List Stmt}
    (alike : List.Forall₂ (Stmt.Alike .renumbering) ss ss')
    (level : j.Level p p') (fits : Stmt.AllWellScoped (Recorded c.table) p ss)
    (fits' : Stmt.AllWellScoped (Recorded c.table') p' ss') :
    Abreast j (fun j' flow flow' => flow.Paired c j'.scene flow') (executeAll ss)
      (executeAll ss') := by
  induction alike generalizing j p p' with
  | nil => exact .pure .normal
  | @cons s s' ss ss' first _ ih =>
    cases fits with
    | cons fit fits =>
    cases fits' with
    | cons fit' fits' =>
    refine .bind (abreast_execute level.toStanding (.inr level) ⟨first, fit, fit'⟩)
      fun j' flow flow' ahead related => ?_
    cases related with
    | normal => exact ih ((level.later ahead).after first.declared?_eq) fits fits'
    | returned value => exact .pure (.returned value)

theorem abreast_mapM {es es' : List Expr} (alike : List.Forall₂ (Expr.Alike .renumbering) es es')
    (at_ : j.At p p') (fits : ∀ e ∈ es, e.WellScoped (Recorded c.table) p)
    (fits' : ∀ e ∈ es', e.WellScoped (Recorded c.table') p') :
    Abreast j (fun j' => List.Forall₂ (Value.Paired c j'.scene)) (es.mapM evaluate)
      (es'.mapM evaluate) := by
  induction alike generalizing j with
  | nil => exact .pure .nil
  | cons first _ ih =>
    rw [List.forall_mem_cons] at fits fits'
    rw [List.mapM_cons, List.mapM_cons]
    refine .bind (abreast_evaluate at_ ⟨first, fits.1, fits'.1⟩) fun j' v v' ahead value => ?_
    refine .bind (ih (at_.later ahead) fits.2 fits'.2) fun j'' vs vs' ahead' values => ?_
    exact .pure (.cons (value.mono ahead'.scene) values)

/-! ### Names -/

theorem abreast_define {v v' : Value} (level : j.Level p p') (t : Token)
    (value : v.Paired c j.scene v') :
    Abreast j (fun _ _ _ => True) (define t v) (define t v') :=
  abreast_modify (j.sound.le_define level.together) (j.sound.define level.together value) rfl rfl

variable {o o' : Occurrence} {kind : SiteKind}

theorem abreast_lookUp (at_ : j.At p p') (alike : o.Alike .renumbering o')
    (known : Recorded c.table p kind o) (known' : Recorded c.table' p' kind o') :
    Abreast j (fun j' v v' => v.Paired c j'.scene v') (lookUp o) (lookUp o') :=
  .get (abreast_checkValue (Pair.lookUp at_ alike.name.eq_of_lines known known'))

theorem abreast_assign {v v' : Value} (at_ : j.At p p') (alike : o.Alike .renumbering o')
    (known : Recorded c.table p kind o) (known' : Recorded c.table' p' kind o')
    (value : v.Paired c j.scene v') :
    Abreast j (fun _ _ _ => True) (assign o v) (assign o' v') := by
  have name := alike.name.eq_of_lines
  refine .get (.bind (Q := fun j' => j'.frames)
    (abreast_check (Pair.target at_ name known known')) fun j' f f' ahead together => ?_)
  rw [name]
  exact abreast_modify (j'.sound.le_define together)
    (j'.sound.define together (value.mono ahead.scene)) rfl rfl

/-! ### Calls -/

variable {k k' : Closure} {vs vs' : List Value}

/-- The body of a function is executed in a new frame on both sides. -/
theorem abreast_callClosure (closure : k.Paired c j.scene k')
    (arguments : List.Forall₂ (Value.Paired c j.scene) vs vs') :
    Abreast j (fun j' v v' => v.Paired c j'.scene v') (callClosure k vs) (callClosure k' vs') := by
  have declaration := closure.declaration
  have names : k'.declaration.params.map Token.lexeme = k.declaration.params.map Token.lexeme := by
    have related := List.rel_map (P := Eq) (fun _ _ name => name.lexeme.symm) declaration.params
    exact (List.forall₂_eq_eq_eq ▸ related).symm
  obtain ⟨p, p', around, settled, settled', fits, fits'⟩ := closure.place
  unfold callClosure
  rw [names, closure.isInitializer, declaration.name.eq_of_lines]
  refine .bind (Q := fun j' f f' => (j'.inFrames f f').Level (p.inBody k.declaration)
    (p'.inBody k'.declaration)) ?_ fun j' f f' ahead level => ?_
  · refine abreast_modifyGet (Pair.becomes_onScene Scene.le_newFrame
      (j.sound.newFrame (Bindings.paired_empty.parameters arguments)) rfl rfl ?_)
    unfold Position.inBody
    rw [names]
    exact (Pair.level_newFrame _ around settled settled' _ _ _).inFunction true true
  · refine .bind (Q := fun j' (flow flow' : Flow) => flow.Paired c j'.scene flow') ?_
      fun j'' flow flow' ahead' flows => ?_
    · cases fits with
      | mk _ _ body =>
      cases fits' with
      | mk _ _ body' =>
      exact abreast_within (P := fun σ (flow flow' : Flow) => flow.Paired c σ flow')
        (abreast_executeAll declaration.body level body body')
    · split
      · have together := ahead'.scene.frames _ _ (ahead.scene.frames _ _ closure.frames)
        exact .get (abreast_checkValue (j''.sound.getAt (Scene.meets_here together) _))
      · cases flows with
        | normal => exact .pure .nil
        | returned value => exact .pure value

theorem abreast_instantiate {l l' : Class} (h : l.Paired c j.scene l')
    (arguments : List.Forall₂ (Value.Paired c j.scene) vs vs') :
    Abreast j (fun j' v v' => v.Paired c j'.scene v') (instantiate l vs) (instantiate l' vs') := by
  unfold instantiate
  refine .bind (abreast_modifyGet (Pair.newInstance h)) fun j₁ v v' ahead value => ?_
  have method := (h.mono ahead.scene).findMethod "init"
  generalize l.findMethod? "init" = m at method
  generalize l'.findMethod? "init" = m' at method
  cases method with
  | none => exact .pure value
  | some method =>
    refine .bind (abreast_modifyGet (Pair.bindClosure method value))
      fun j₂ k k' ahead' closure => ?_
    have arguments' := arguments.imp fun _ _ h => (h.mono ahead.scene).mono ahead'.scene
    refine .bind (abreast_callClosure closure arguments') fun j₃ _ _ ahead'' _ => ?_
    exact .pure ((value.mono ahead'.scene).mono ahead''.scene)

theorem abreast_perform {v v' : Value} (callee : v.Paired c j.scene v')
    (arguments : List.Forall₂ (Value.Paired c j.scene) vs vs') (line : Nat) :
    Abreast j (fun j' v v' => v.Paired c j'.scene v') (perform v vs line)
      (perform v' vs' line) := by
  cases callee with
  | clock =>
    exact .bind (abreast_modifyGet (Pair.readClock line)) fun _ _ _ _ => abreast_checkValue
  | function _ closure => exact abreast_callClosure closure arguments
  | classObject h => exact abreast_instantiate h arguments
  | _ => exact abreast_fail _ _

theorem abreast_callValue {v v' : Value} (callee : v.Paired c j.scene v')
    (arguments : List.Forall₂ (Value.Paired c j.scene) vs vs') (line : Nat) :
    Abreast j (fun j' v v' => v.Paired c j'.scene v') (callValue v vs line)
      (callValue v' vs' line) := by
  unfold callValue
  rw [callee.arity, arguments.length_eq]
  cases v.arity? with
  | none => exact abreast_fail _ _
  | some arity =>
    dsimp only
    split
    · exact abreast_fail _ _
    · refine .get ?_
      have isDepth : ((company c).right j).depth = ((company c).left j).depth := j.depth
      rw [isDepth]
      split
      · exact abreast_fail _ _
      · let deeper : Pair c := { j with
          left := { j.left with depth := j.left.depth + 1 }
          right := { j.right with depth := j.right.depth + 1 }
          depth := congrArg (· + 1) j.depth }
        have performed : Abreast deeper _ (perform v vs line) (perform v' vs' line) :=
          abreast_perform (j := deeper) callee arguments line
        change Routine.Abreast (company c).goals ((company c).Outcome j _)
          (Job.always (perform v vs line) (fun i => { i with depth := i.depth - 1 }) deeper.left)
          (Job.always (perform v' vs' line) (fun i => { i with depth := i.depth - 1 }) deeper.right)
        refine Job.abreast_always performed fun i ahead => ?_
        exact ⟨{ i with
            left := { i.left with depth := i.left.depth - 1 }
            right := { i.right with depth := i.right.depth - 1 }
            depth := congrArg (· - 1) i.depth },
          ⟨ahead.scene, ahead.frame, ahead.frame'⟩, rfl, rfl, fun _ _ value => value⟩

/-! ### Expressions -/

theorem abreast_readProperty {v v' : Value} (object : v.Paired c j.scene v') (t : Token) :
    Abreast j (fun j' v v' => v.Paired c j'.scene v') (readProperty v t) (readProperty v' t) := by
  cases object with
  | instance_ address h =>
    exact .bind (abreast_modifyGet (Pair.property h t)) fun _ _ _ _ => abreast_checkValue
  | _ => exact abreast_fail _ _

/-- The superclass is bound one frame outside the receiver, on both sides. -/
theorem abreast_readSuper {t : Token} {d d' : Nat} (alike : o.Alike .renumbering o')
    (known : c.table[o.id]? = some (d + 1)) (known' : c.table'[o'.id]? = some (d' + 1))
    (receiver : j.scene.Meets "this" j.left.frame j.right.frame d d')
    (above : j.scene.Meets "super" j.left.frame j.right.frame (d + 1) (d' + 1)) :
    Abreast j (fun j' v v' => v.Paired c j'.scene v') (readSuper o t) (readSuper o' t) := by
  unfold readSuper
  rw [alike.name.eq_of_lines]
  refine .get ?_
  have isDistance : ((company c).left j).distances[o.id]? = some (d + 1) := j.table ▸ known
  have isDistance' : ((company c).right j).distances[o'.id]? = some (d' + 1) := j.table' ▸ known'
  rw [isDistance, isDistance']
  dsimp only
  refine .bind (abreast_checkValue (j.sound.getAt above _)) fun j₁ v v' ahead value => ?_
  cases value with
  | classObject h =>
    have isReceiver := (j.sound.getAt receiver o.name.line).mono fun _ _ value =>
      value.mono ahead.scene
    refine .bind (abreast_checkValue isReceiver) fun j₂ v v' ahead' value => ?_
    cases value with
    | instance_ address h' =>
      have found := (h.mono ahead'.scene).findMethod t.lexeme
      dsimp only
      generalize Class.findMethod? _ t.lexeme = m at found
      generalize Class.findMethod? _ t.lexeme = m' at found
      cases found with
      | none => exact abreast_fail _ _
      | some found => exact abreast_modifyGet (Pair.bindMethod found (.instance_ address h'))
    | _ => exact abreast_fail _ _
  | _ => exact abreast_fail _ _

/-- The treatments of alike expressions at corresponding places. -/
theorem abreast_expression {e e' : Expr} (at_ : j.At p p') (trees : e.Paired c p p' e') :
    Abreast j (fun j' => (company c).Ends (k := Phase.value) j') (evaluateStep e)
      (evaluateStep e') := by
  obtain ⟨alike, fits, fits'⟩ := trees
  cases alike with
  | literal value => exact abreast_value (Value.plain_ofLiteral value).paired
  | grouping inner =>
    cases fits with
    | grouping fits =>
    cases fits' with
    | grouping fits' => exact abreast_handOver (.evaluate at_ ⟨inner, fits, fits'⟩)
  | unary operator right =>
    cases fits with
    | unary _ fits =>
    cases fits' with
    | unary _ fits' =>
    rw [operator.eq_of_lines]
    refine .bind (abreast_evaluate at_ ⟨right, fits, fits'⟩) fun j₁ v v' ahead value => ?_
    rw [value.unary]
    exact .bind (abreast_checkPlain fun _ => Value.plain_unary) fun _ _ _ _ => abreast_value
  | binary left operator right =>
    cases fits with
    | binary _ fits fitsRight =>
    cases fits' with
    | binary _ fits' fitsRight' =>
    rw [operator.eq_of_lines]
    refine .bind (abreast_evaluate at_ ⟨left, fits, fits'⟩) fun j₁ v v' ahead value => ?_
    refine .bind (abreast_evaluate (at_.later ahead) ⟨right, fitsRight, fitsRight'⟩)
      fun j₂ w w' ahead' value' => ?_
    rw [(value.mono ahead'.scene).binary j₂.sound.objectUnique value']
    exact .bind (abreast_checkPlain fun _ => Value.plain_binary) fun _ _ _ _ => abreast_value
  | logical left operator right =>
    cases fits with
    | logical fits fitsRight =>
    cases fits' with
    | logical fits' fitsRight' =>
    rw [operator.eq_of_lines]
    refine .bind (abreast_evaluate at_ ⟨left, fits, fits'⟩) fun j₁ v v' ahead value => ?_
    rw [value.decides]
    split
    · exact abreast_value value
    · exact abreast_handOver (.evaluate (at_.later ahead) ⟨right, fitsRight, fitsRight'⟩)
  | reference name =>
    cases fits with
    | reference known =>
    cases fits' with
    | reference known' =>
    exact .bind (abreast_lookUp at_ name known known') fun _ _ _ _ => abreast_value
  | assign name value =>
    cases fits with
    | assign known _ fits =>
    cases fits' with
    | assign known' _ fits' =>
    refine .bind (abreast_evaluate at_ ⟨value, fits, fits'⟩) fun j₁ v v' ahead value => ?_
    refine .bind (abreast_assign (at_.later ahead) name known known' value)
      fun j₂ _ _ ahead' _ => ?_
    exact abreast_value (value.mono ahead'.scene)
  | call callee paren arguments =>
    cases fits with
    | call fits fitsAll =>
    cases fits' with
    | call fits' fitsAll' =>
    rw [paren.eq_of_lines]
    refine .bind (abreast_evaluate at_ ⟨callee, fits, fits'⟩) fun j₁ v v' ahead value => ?_
    refine .bind (abreast_mapM arguments (at_.later ahead) fitsAll fitsAll')
      fun j₂ vs vs' ahead' values => ?_
    exact abreast_handOver (.call (value.mono ahead'.scene) values _)
  | get object property =>
    cases fits with
    | get fits =>
    cases fits' with
    | get fits' =>
    rw [property.eq_of_lines]
    refine .bind (abreast_evaluate at_ ⟨object, fits, fits'⟩) fun j₁ v v' ahead value => ?_
    exact .bind (abreast_readProperty value _) fun _ _ _ _ => abreast_value
  | set object property value =>
    cases fits with
    | set fits fitsValue =>
    cases fits' with
    | set fits' fitsValue' =>
    rw [property.eq_of_lines]
    refine .bind (abreast_evaluate at_ ⟨object, fits, fits'⟩) fun j₁ v v' ahead object => ?_
    cases object with
    | instance_ address =>
      refine .bind (abreast_evaluate (at_.later ahead) ⟨value, fitsValue, fitsValue'⟩)
        fun j₂ w w' ahead' value => ?_
      refine .bind (abreast_modify Scene.le_setField (j₂.sound.setField value) rfl rfl)
        fun j₃ _ _ ahead'' _ => ?_
      exact abreast_value (value.mono ahead''.scene)
    | _ => exact abreast_fail _ _
  | this keyword =>
    cases fits with
    | this known =>
    cases fits' with
    | this known' =>
    exact .bind (abreast_lookUp at_ keyword known known') fun _ _ _ _ => abreast_value
  | super keyword method =>
    cases fits with
    | super known spelled bound above =>
    cases fits' with
    | super known' spelled' bound' above' =>
    have receiver := at_.meets "this"
    have superclass := at_.meets "super"
    rw [bound, bound'] at receiver
    rw [above, above'] at superclass
    cases receiver with
    | some receiver =>
    cases superclass with
    | some superclass =>
    rw [method.eq_of_lines]
    exact .bind (abreast_readSuper keyword (known.trans (spelled ▸ above))
      (known'.trans (spelled' ▸ above')) receiver superclass) fun _ _ _ _ => abreast_value

/-! ### Statements -/

theorem abreast_checkOutput {failure failure' : Option String} (line : Nat)
    (same : failure = failure') :
    Abreast j (fun _ _ _ => True) (checkOutput failure line) (checkOutput failure' line) := by
  subst same
  cases failure with
  | none => exact .pure trivial
  | some reason => exact abreast_fail _ _

theorem abreast_print {v v' : Value} (value : v.Paired c j.scene v') (line : Nat) :
    Abreast j (fun _ _ _ => True) (print v line) (print v' line) := by
  unfold print
  rw [value.text]
  exact .bind (abreast_modifyGet (Pair.write _)) fun _ _ _ _ => abreast_checkOutput line

theorem abreast_superclassOf (at_ : j.At p p') (alike : o.Alike .renumbering o')
    (fits : Expr.WellScoped (Recorded c.table) p (.reference o))
    (fits' : Expr.WellScoped (Recorded c.table') p' (.reference o')) :
    Abreast j (fun j' l l' => l.Paired c j'.scene l') (superclassOf o) (superclassOf o') := by
  unfold superclassOf
  rw [alike.name.eq_of_lines]
  refine .bind (abreast_evaluate at_ ⟨.reference alike, fits, fits'⟩) fun j' v v' _ value => ?_
  cases value with
  | classObject h => exact .pure h
  | _ => exact abreast_fail _ _

/-- The tables of alike methods hold closures of them. -/
theorem methodTable_paired {ds ds' : List FunctionDecl} {f f' : FrameId} {opener opener' : Node}
    (alike : List.Forall₂ (FunctionDecl.Alike .renumbering) ds ds') (around : σ.Around p p' f f')
    (settled : p.pending = none) (settled' : p'.pending = none)
    (fits : ∀ d ∈ ds, d.WellScoped (Recorded c.table) (p.enter opener ["this"]))
    (fits' : ∀ d ∈ ds', d.WellScoped (Recorded c.table') (p'.enter opener' ["this"])) (x : String) :
    Option.Rel (Closure.Unbound c σ) (methodTable ds f)[x]? (methodTable ds' f')[x]? := by
  unfold methodTable
  suffices ∀ table table' : Std.TreeMap String Closure,
      (∀ x : String, Option.Rel (Closure.Unbound c σ) table[x]? table'[x]?) →
      Option.Rel (Closure.Unbound c σ)
        (ds.foldl (fun table d => table.insert d.name.lexeme ⟨d, f, d.name.lexeme == "init"⟩)
          table)[x]?
        (ds'.foldl (fun table d => table.insert d.name.lexeme ⟨d, f', d.name.lexeme == "init"⟩)
          table')[x]? by
    refine this ∅ ∅ fun x => ?_
    rw [Std.TreeMap.getElem?_emptyc]
    exact .none
  induction alike with
  | nil => exact fun _ _ tables => tables x
  | @cons d d' ds ds' method _ ih =>
    rw [List.forall_mem_cons] at fits fits'
    refine fun _ _ tables => ih fits.2 fits'.2 _ _ fun y => ?_
    dsimp only
    rw [method.name.lexeme, Std.TreeMap.getElem?_insert, Std.TreeMap.getElem?_insert]
    split
    · exact .some ⟨rfl, method, p, p', opener, opener', around, settled, settled', fits.1, fits'.1⟩
    · exact tables y

/-- Alike classes, whose methods live in frames around corresponding places. -/
theorem abreast_bindClass {l l' : Option Class} {ds ds' : List FunctionDecl} {f f' : FrameId}
    {q q' : Position} {opener opener' : Node} (level : j.Level q q') (t : Token)
    (superclasses : Option.Rel (Class.Paired c j.scene) l l')
    (alike : List.Forall₂ (FunctionDecl.Alike .renumbering) ds ds')
    (around : j.scene.Around p p' f f') (settled : p.pending = none) (settled' : p'.pending = none)
    (fits : ∀ d ∈ ds, d.WellScoped (Recorded c.table) (p.enter opener ["this"]))
    (fits' : ∀ d ∈ ds', d.WellScoped (Recorded c.table') (p'.enter opener' ["this"])) :
    Abreast j (fun _ _ _ => True)
      (modifyGet Interpreter.newIdentity >>= fun identity =>
        define t (.classObject ⟨identity, t.lexeme, l, methodTable ds f⟩))
      (modifyGet Interpreter.newIdentity >>= fun identity =>
        define t (.classObject ⟨identity, t.lexeme, l', methodTable ds' f'⟩)) := by
  refine .bind (Q := fun j' => j'.objects) (abreast_modifyGet (Pair.becomes_onScene
    Scene.le_newIdentity j.sound.newIdentity rfl rfl (.inr ⟨rfl, rfl⟩)))
    fun j' n n' ahead together => ?_
  refine abreast_define (level.later ahead) t (.classObject (.mk together ?_ ?_))
  · exact rel_mono (fun _ _ h => h.mono ahead.scene) superclasses
  · exact methodTable_paired alike (around.mono ahead.scene) settled settled' fits fits'

theorem abreast_defineClass {l l' : Option Occurrence} {t : Token} {ds ds' : List FunctionDecl}
    (level : j.Level p p') (superclass : Option.Rel (Occurrence.Alike .renumbering) l l')
    (alike : List.Forall₂ (FunctionDecl.Alike .renumbering) ds ds')
    (fits : Stmt.WellScoped (Recorded c.table) p (.classDecl t l ds))
    (fits' : Stmt.WellScoped (Recorded c.table') p' (.classDecl t l' ds')) :
    Abreast j (fun _ _ _ => True) (defineClass t l ds) (defineClass t l' ds') := by
  cases fits with
  | classDecl _ _ above methods =>
  cases fits' with
  | classDecl _ _ above' methods' =>
  unfold defineClass
  cases superclass with
  | none =>
    refine .bind (Q := fun _ k k' => k = none ∧ k' = none) (.pure ⟨rfl, rfl⟩)
      fun j₁ k k' ahead isNone => ?_
    obtain ⟨rfl, rfl⟩ := isNone
    have level₁ := level.later ahead
    refine .bind (abreast_define level₁ t .nil) fun j₂ _ _ ahead' _ => ?_
    have level₂ := level₁.later ahead'
    have named := level₂.declare t.lexeme
    exact .get (abreast_bindClass level₂ t .none alike named.around named.settled named.settled'
      methods methods')
  | @some o o' name =>
    refine .bind (Q := fun j' k k' => ∃ l l', k = some l ∧ k' = some l' ∧ l.Paired c j'.scene l')
      (.bind (abreast_superclassOf (level.await t.lexeme) name (above _ rfl) (above' _ rfl))
        fun _ _ _ _ related => .pure ⟨_, _, rfl, rfl, related⟩) fun j₁ k k' ahead isSome => ?_
    obtain ⟨l, l', rfl, rfl, superclass⟩ := isSome
    have level₁ := level.later ahead
    refine .bind (abreast_define level₁ t .nil) fun j₂ _ _ ahead' _ => ?_
    have level₂ := level₁.later ahead'
    have named := level₂.declare t.lexeme
    have superclass := superclass.mono ahead'.scene
    refine .bind (Q := fun j' f f' => j'.scene.Around
      ((p.declare t.lexeme).enter (.statement (.classDecl t (some o) ds)) ["super"])
      ((p'.declare t.lexeme).enter (.statement (.classDecl t (some o') ds')) ["super"]) f f')
      ?_ fun j₃ f f' ahead'' around => ?_
    · exact abreast_modifyGet (Pair.becomes_onScene Scene.le_newFrame (j₂.sound.newFrame
        (Bindings.paired_empty.insert "super" (.classObject superclass))) rfl rfl
        (Scene.Sound.around_newFrame named.around named.settled named.settled' _ _ _))
    · exact abreast_bindClass (level₂.later ahead'') t (.some (superclass.mono ahead''.scene)) alike
        around named.settled named.settled' methods methods'

theorem abreast_normal :
    Abreast j (fun j' => (company c).Ends (k := Phase.flow) j') (finish (p := .flow) .normal)
      (finish (p := .flow) .normal) :=
  abreast_flow .normal

/-- The treatments of alike statements at corresponding places. -/
theorem abreast_statement {s s' : Stmt} (standing : j.Standing p p')
    (level : s.declared? = none ∨ j.Level p p') (trees : s.Paired c p p' s') :
    Abreast j (fun j' => (company c).Ends (k := Phase.flow) j') (executeStep s)
      (executeStep s') := by
  obtain ⟨alike, fits, fits'⟩ := trees
  cases alike with
  | @block ss ss' body =>
    cases fits with
    | block fits =>
    cases fits' with
    | block fits' =>
    refine .bind (Q := fun j' f f' => (j'.inFrames f f').Level
      (p.enter (.statement (.block ss)) []) (p'.enter (.statement (.block ss')) []))
      ?_ fun j₁ f f' ahead inner => ?_
    · exact abreast_modifyGet (Pair.becomes_onScene Scene.le_newFrame
        (j.sound.newFrame Bindings.paired_empty) rfl rfl
        (Pair.level_newFrame _ standing.around standing.settled standing.settled' _ _ _))
    · exact .bind (abreast_within (P := Flow.Paired c) (abreast_executeAll body inner fits fits'))
        fun _ _ _ _ => abreast_flow
  | classDecl name superclass methods =>
    cases name.eq_of_lines
    exact .bind (abreast_defineClass (level.resolve_left nofun) superclass methods fits fits')
      fun _ _ _ _ _ => abreast_normal
  | expression value =>
    cases fits with
    | expression fits =>
    cases fits' with
    | expression fits' =>
    exact .bind (abreast_evaluate standing.around ⟨value, fits, fits'⟩)
      fun _ _ _ _ _ => abreast_normal
  | @functionDecl d d' declaration =>
    cases fits with
    | functionDecl _ _ fits =>
    cases fits' with
    | functionDecl _ _ fits' =>
    have here := level.resolve_left nofun
    have isName := declaration.name.eq_of_lines
    rw [isName] at fits'
    have named := here.declare d.name.lexeme
    have closure : Closure.Paired c j.scene ⟨d, j.left.frame, false⟩ ⟨d', j.right.frame, false⟩ :=
      ⟨here.together, rfl, declaration, _, _, named.around, named.settled, named.settled', fits,
        fits'⟩
    refine .get (.bind (abreast_modifyGet (Pair.newFunction closure)) fun j₁ v v' ahead value => ?_)
    rw [isName]
    exact .bind (abreast_define (here.later ahead) _ value) fun _ _ _ _ _ => abreast_normal
  | conditional condition thenBranch elseBranch =>
    cases fits with
    | conditional fits thenPlain thenFits elsePlain elseFits =>
    cases fits' with
    | conditional fits' _ thenFits' _ elseFits' =>
    refine .bind (abreast_evaluate standing.around ⟨condition, fits, fits'⟩)
      fun j₁ v v' ahead value => ?_
    have standing₁ := standing.later ahead
    rw [value.isTruthy]
    split
    · exact abreast_handOver (.execute standing₁ (.inl thenPlain) ⟨thenBranch, thenFits, thenFits'⟩)
    · cases elseBranch with
      | none => exact abreast_normal
      | some elseBranch =>
        exact abreast_handOver (.execute standing₁ (.inl (elsePlain _ rfl))
          ⟨elseBranch, elseFits _ rfl, elseFits' _ rfl⟩)
  | print value =>
    cases fits with
    | print fits =>
    cases fits' with
    | print fits' =>
    refine .bind (abreast_evaluate standing.around ⟨value, fits, fits'⟩)
      fun j₁ v v' ahead printed => ?_
    rw [← (show _ = _ from value.line)]
    exact .bind (abreast_print printed _) fun _ _ _ _ _ => abreast_normal
  | ret _ value =>
    cases fits with
    | ret _ fits =>
    cases fits' with
    | ret _ fits' =>
    cases value with
    | none => exact abreast_flow (.returned .nil)
    | some value =>
      exact .bind (abreast_evaluate standing.around ⟨value, fits _ rfl, fits' _ rfl⟩)
        fun _ _ _ _ value => abreast_flow (.returned value)
  | varDecl name initializer =>
    cases name.eq_of_lines
    cases fits with
    | varDecl _ _ fits =>
    cases fits' with
    | varDecl _ _ fits' =>
    have here := level.resolve_left nofun
    cases initializer with
    | none =>
      refine .bind (Q := fun j' => Value.Paired c j'.scene) (.pure .nil)
        fun j₁ v v' ahead value => ?_
      exact .bind (abreast_define (here.later ahead) _ value) fun _ _ _ _ _ => abreast_normal
    | some value =>
      refine .bind (abreast_evaluate (here.await _) ⟨value, fits _ rfl, fits' _ rfl⟩)
        fun j₁ v v' ahead value => ?_
      exact .bind (abreast_define (here.later ahead) _ value) fun _ _ _ _ _ => abreast_normal
  | loop condition body =>
    have again := Stmt.Paired.mk (c := c) (.loop condition body) fits fits'
    cases fits with
    | loop fits plain bodyFits =>
    cases fits' with
    | loop fits' _ bodyFits' =>
    refine .bind (abreast_evaluate standing.around ⟨condition, fits, fits'⟩)
      fun j₁ v v' ahead value => ?_
    have standing₁ := standing.later ahead
    rw [value.isTruthy]
    split
    · refine .bind (abreast_execute standing₁ (.inl plain) ⟨body, bodyFits, bodyFits'⟩)
        fun j₂ flow flow' ahead' flows => ?_
      cases flows with
      | normal => exact abreast_handOver (.execute (standing₁.later ahead') (.inl rfl) again)
      | returned value => exact abreast_flow (.returned value)
    · exact abreast_normal

/-- The treatments of requests that belong together are abreast of each other. -/
theorem accompanied_step : Routine.Accompanied (company c).goals (Job.body step) := by
  refine Job.accompanied fun k j r r' requests => ?_
  cases (requests : r.Paired j r') with
  | evaluate at_ trees => exact abreast_expression at_ trees
  | execute standing level trees => exact abreast_statement standing level trees
  | call callee arguments line =>
    exact .bind (abreast_callValue callee arguments line) fun _ _ _ _ => abreast_value

/-! ### Outcomes -/

variable {job : Eval α} {job' : Eval β} {i i' : Interpreter}

/-- If the first of two computations that are abreast of each other ends, so does the second one,
with a related outcome. -/
theorem Abreast.ends_right (h : Abreast j Q job job') {outcome : Except Fault α}
    (ended : Ends job j.left outcome i) :
    ∃ outcome' i', Ends job' j.right outcome' i' ∧
      (company c).Outcome j Q (outcome, i) (outcome', i') := by
  obtain ⟨n, isMeaning⟩ := ends_iff.1 ended
  have outcomes := Job.Abreast.meaning accompanied_step h n
  change Option.Rel _ (Job.meaning step n job j.left) (Job.meaning step n job' j.right) at outcomes
  rw [isMeaning] at outcomes
  generalize isMeaning' : Job.meaning step n job' j.right = o at outcomes
  cases outcomes with
  | some related => exact ⟨_, _, ends_iff.2 ⟨n, isMeaning'⟩, related⟩

/-- If the second one ends, so does the first one. -/
theorem Abreast.ends_left (h : Abreast j Q job job') {outcome' : Except Fault β}
    (ended : Ends job' j.right outcome' i') :
    ∃ outcome i, Ends job j.left outcome i ∧
      (company c).Outcome j Q (outcome, i) (outcome', i') := by
  obtain ⟨n, isMeaning'⟩ := ends_iff.1 ended
  have outcomes := Job.Abreast.meaning accompanied_step h n
  change Option.Rel _ (Job.meaning step n job j.left) (Job.meaning step n job' j.right) at outcomes
  rw [isMeaning'] at outcomes
  generalize isMeaning : Job.meaning step n job j.left = o at outcomes
  cases outcomes with
  | some related => exact ⟨_, _, ends_iff.2 ⟨n, isMeaning⟩, related⟩

/-- Whenever the first of two computations ends, the second one ends with a related outcome. -/
def Accompanies (j : Pair c) (Q : Pair c → α → β → Prop) (job : Eval α) (job' : Eval β) : Prop :=
  ∀ outcome i, Ends job j.left outcome i → ∃ outcome' i', Ends job' j.right outcome' i' ∧
    (company c).Outcome j Q (outcome, i) (outcome', i')

theorem Abreast.accompanies (h : Abreast j Q job job') : Accompanies j Q job job' :=
  fun _ _ => h.ends_right

theorem Accompanies.bind {γ δ : Type} {P : Pair c → γ → δ → Prop} {next : α → Eval γ}
    {next' : β → Eval δ}
    (h : Accompanies j Q job job')
    (h' : ∀ j' a b, j.Ahead j' → Q j' a b → Ends job j.left (.ok a) j'.left →
      Accompanies j' P (next a) (next' b)) :
    Accompanies j P (job >>= next) (job' >>= next') := by
  intro outcome i ended
  rcases ends_bind_iff.1 ended with ⟨e, rfl, failed⟩ | ⟨a, k, first, rest⟩
  · obtain ⟨_, _, ended', outcomes⟩ := h _ _ failed
    cases outcomes with
    | error e j' ahead => exact ⟨_, _, ends_bind_iff.2 (.inl ⟨e, rfl, ended'⟩), .error e j' ahead⟩
  · obtain ⟨_, _, ended', outcomes⟩ := h _ _ first
    cases outcomes with
    | ok j' ahead related =>
      obtain ⟨outcome', i', rest', outcomes⟩ := h' j' _ _ ahead related first _ _ rest
      refine ⟨outcome', i', ends_bind_iff.2 (.inr ⟨_, _, ended', rest'⟩), ?_⟩
      cases outcomes with
      | ok j'' ahead' related => exact .ok j'' (trans_of Pair.Ahead ahead ahead') related
      | error e j'' ahead' => exact .error e j'' (trans_of Pair.Ahead ahead ahead')

/-- What is done after the statements of programs. -/
theorem abreast_close {flow flow' : Flow} (h : flow.Paired c j.scene flow') :
    Abreast j (fun _ _ _ => True) (close flow) (close flow') := by
  cases h with
  | normal => exact .bind (abreast_modifyGet Pair.flush) fun _ _ _ _ => abreast_checkOutput 0
  | returned => exact abreast_fail _ _

end Evaluation

end Lox
