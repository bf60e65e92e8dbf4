import Lox.Proofs.Lexical.Declaration
import Lox.Proofs.Lexical.Expression

/-!
# Statements in lockstep

The two evaluators execute every statement alike. Behind a declaration the lexical evaluator is in
another frame, the one that binds the declared name; behind a block it is back in the frame around.

## Main results

* `World.Moment.executeAll`: statements in sequence.
* `World.Moment.block`: statements in a new frame.
* `World.Moment.defineClass`, `World.Moment.defineFunction`: declarations.
* `World.lockstep_statement`: every statement.
-/

namespace Lox.World

open Scope Evaluation

variable {w w' : World} {p : Position} {s s' t t' : Interpreter} {c : Context}

/-! ### Sequences -/

/-- Related ends of statements at a place. -/
inductive SameFlow (w : World) (p : Position) : Flow → Flow → Prop
  | normal : SameFlow w p .normal .normal
  | returned {v v' : Value} (inFunction : p.inFunction = true) (same : Same w v v') :
      SameFlow w p (.returned v) (.returned v')

/-- Names that are declared at a place go into a new frame, or are global. -/
def Context.Owns (c : Context) (p : Position) (s : Interpreter) : Prop :=
  (c.base.frames.length ≤ s.frame ∧ ∀ f f', c.frames f f') ∨ p.layers = []

/-- Behind a declaration the innermost layer has all the names of the current frame. -/
theorem Situation.after (situation : Situation w p s s') {declared : Option String}
    (grown : Extends (Declares declared s.frame) w w') (coherent : Coherent w' t t')
    (frame : t.frame = s.frame) (around : Around w' t.frame t'.frame (p.add declared).layers) :
    Situation w' (p.add declared) t t' := by
  have inside := (situation.around.inside situation.coherent.sound).1
  refine ⟨coherent, around, fun layer isHead g cell x found owner named => ?_⟩
  rw [frame] at owner
  -- A name of the frame is an old one, or the one that is declared.
  have isName : (∀ layer, p.layers.head? = some layer → x ∈ layer.names) ∨ declared = some x := by
    rcases Nat.lt_or_ge g w.cells.length with old | new
    · rw [grown.cell_eq old] at found
      exact .inl fun layer isLayer => situation.complete layer isLayer g cell x found owner named
    · rcases grown.names g cell x found new named with fresh | ⟨-, isDeclared⟩
      · exact absurd (owner ▸ fresh) (Nat.not_le_of_lt inside)
      · exact .inr isDeclared
  cases declared with
  | none =>
    rcases isName with isOld | isDeclared
    · exact isOld layer isHead
    · cases isDeclared
  | some y =>
    rw [Position.add] at isHead
    cases isLayers : p.layers with
    | nil =>
      rw [Position.declare_top isLayers, isLayers] at isHead
      cases isHead
    | cons outer layers =>
      rw [Position.layers_declare isLayers] at isHead
      cases isHead
      rcases isName with isOld | isDeclared
      · exact List.mem_cons_of_mem _ (isOld outer (by rw [isLayers]; rfl))
      · cases isDeclared
        exact List.mem_cons_self

/-- The course of a treatment goes on behind a declaration. -/
theorem Moment.after (m : Moment c w p s s') (owns : c.Owns p s) {declared : Option String}
    (grown : Extends (Declares declared s.frame) w w') (coherent : Coherent w' t t')
    (frame : t.frame = s.frame) (around : Around w' t.frame t'.frame (p.add declared).layers) :
    Moment c w' (p.add declared) t t' ∧ c.Owns (p.add declared) t := by
  have inside := (m.situation.around.inside m.situation.coherent.sound).1
  refine ⟨⟨?_, m.situation.after grown coherent frame around, ?_, ?_⟩, ?_⟩
  · refine ⟨m.grown.frames.trans grown.frames, m.grown.cells.trans grown.cells,
      grown.nextId.trans m.grown.nextId, grown.known.trans m.grown.known,
      grown.visited.trans m.grown.visited, ?_⟩
    intro g cell x found new named
    rcases Nat.lt_or_ge g w.cells.length with old | new'
    · rw [grown.cell_eq old] at found
      exact m.grown.names g cell x found new named
    · rcases grown.names g cell x found new' named with fresh | ⟨owner, -⟩
      · exact .inl (Nat.le_trans m.grown.frames.length_le fresh)
      · rcases owns with ⟨isNew, -⟩ | top
        · exact .inl (owner ▸ isNew)
        · have isGlobal := (m.situation.around.eq_globalFrame top).1
          exact absurd (owner.trans isGlobal) (coherent.sound.local_ g cell x found named)
  · intro task asked parent maker given found
    rw [frame, grown.frame_eq inside] at found
    exact m.course task asked parent maker given found
  · rcases owns with ⟨-, any⟩ | top
    · exact any _ _
    · have keeps := m.keeps
      obtain ⟨isGlobal, isGlobal'⟩ := m.situation.around.eq_globalFrame top
      obtain ⟨newGlobal, newGlobal'⟩ :=
        around.eq_globalFrame (Position.layers_add_of_top top declared)
      rw [isGlobal, isGlobal'] at keeps
      rw [newGlobal, newGlobal']
      exact keeps
  · rcases owns with ⟨isNew, any⟩ | top
    · exact .inl ⟨frame ▸ isNew, any⟩
    · exact .inr (Position.layers_add_of_top top declared)

/-- Statements in sequence are executed in lockstep. -/
theorem Moment.executeAll (m : Moment c w p s s') (owns : c.Owns p s) {stmts : List Stmt}
    (wellScoped : Stmt.AllWellScoped c.base.known p stmts) (settled : p.pending = none) :
    Lockstep c (fun flow flow' t t' => ∃ w', LE w w' ∧ Extends nowhere c.base w' ∧
      Coherent w' t t' ∧ c.frames t.frame t'.frame ∧ SameFlow w' p flow flow')
      (Evaluation.executeAll stmts) (Evaluation.executeAll stmts) s s' := by
  induction stmts generalizing w p s s' with
  | nil => exact .pure ⟨w, .refl w, m.grown, m.situation.coherent, m.keeps, .normal⟩
  | cons stmt stmts ih =>
    cases wellScoped with
    | cons first rest =>
      refine (m.execute first settled).bind ?_
      intro flow flow' t t' ended
      cases ended with
      | normal grown coherent frame _ around =>
        obtain ⟨m', owns'⟩ := m.after owns grown coherent frame around
        refine (ih m' owns' rest ((Position.pending_add _).trans settled)).mono (fun _ _ h => h)
          (fun _ _ _ h => h) ?_
        rintro flow flow' u u' ⟨w', le, grown', coherent', keeps, same⟩
        refine ⟨w', grown.le.trans le, grown', coherent', keeps, ?_⟩
        cases same with
        | normal => exact .normal
        | returned inFunction same =>
          exact .returned ((Position.inFunction_add _).symm.trans inFunction) same
      | returned inFunction grown coherent frame frame' same =>
        have keeps : c.frames t.frame t'.frame := by
          rw [frame, frame']
          exact m.keeps
        exact .pure ⟨_, grown.le, m.grown.trans grown, coherent, keeps, .returned inFunction same⟩

/-! ### New frames -/

/-- Both evaluators go on in a new frame without names. -/
theorem Coherent.enter (coherent : Coherent w s s') (grown : Extends nowhere c.base w)
    {f g : FrameId} {opener : Node} {layers : List Layer} (around : Around w f g layers)
    {q : Position}
    (isInner : q.layers = ⟨opener, []⟩ :: layers) {maker : Task} (visited : w.visited maker)
    (makes : Makes maker s.heap.frames.size) (executes : Executes maker opener f none)
    (course : ∀ task, c.asks task → Relation.ReflTransGen (Routine.Begets body) maker task) :
    ∃ w', Extends nowhere w w' ∧ Moment c.inside w' q
        { (s.newFrame f ∅).2 with frame := s.heap.frames.size }
        { (s'.newFrame g ∅).2 with frame := s'.heap.frames.size } ∧
      c.inside.Owns q { (s.newFrame f ∅).2 with frame := s.heap.frames.size } := by
  have sound := coherent.sound
  have size := coherent.heap.size
  obtain ⟨inside, inside'⟩ := around.inside sound
  let w' := w.addFrame f maker g none
  have grown' : Extends nowhere w w' := addFrame_extends
  have frame : w'.frames[w.frames.length]? = some ⟨some f, some maker, none⟩ :=
    List.getElem?_concat_length
  have cell : w'.cells[w.cells.length]? = some ⟨w.frames.length, none, some g⟩ :=
    List.getElem?_concat_length
  have none_ (x : String) (v : Value) (found : (∅ : Bindings)[x]? = some v) :
      (none : Option String) = some x := by
    simp at found
  have heap : SameHeap w' (s.heap.newFrame (some f) ∅).2 (s'.heap.newFrame (some g) ∅).2 :=
    coherent.heap.newFrame sound inside inside' nofun none_ none_
  have made : w'.Made maker w.frames.length := ⟨visited, size ▸ makes⟩
  refine ⟨w', grown', ⟨grown.trans grown', ⟨?_, ?_, ?_⟩, ?_, trivial⟩, ?_⟩
  · exact { coherent with sound := sound.addFrame, heap := heap }
  · rw [isInner, size, coherent.heap.size']
    exact .opened frame cell made executes (around.mono grown'.le)
  · intro layer isHead g' cell' x found owner named
    rcases getElem?_concat found with old | ⟨-, rfl⟩
    · have older := sound.owner_lt g' cell' old
      exact absurd (owner.trans size) (Nat.ne_of_lt older)
    · cases named
  · intro task asked parent maker' given found
    have found : w'.frames[s.heap.frames.size]? = some ⟨parent, some maker', given⟩ := found
    rw [size, frame] at found
    cases found
    exact course task asked
  · exact .inl ⟨size ▸ grown.frames.length_le, fun _ _ => trivial⟩

section Flow

variable {stmt : Stmt} {sound : w.Sound} {visited : w.visited (executing stmt s)} {w₁ : World}

/-- The context of the execution of a statement. -/
abbrev Context.executing (w : World) (stmt : Stmt) (s s' : Interpreter) (sound : w.Sound)
    (visited : w.visited (Evaluation.executing stmt s)) : Context :=
  .of w ((.execute stmt, s) : Goal .flow) (.execute stmt, s') sound visited

/-- The execution of a statement is over in related ways. -/
abbrev Executed (w : World) (p : Position) (stmt : Stmt) (s s' : Interpreter) :
    Evaluation.Step .flow → Evaluation.Step .flow → Interpreter → Interpreter → Prop :=
  Job.Ends step w.coupling (w, p) ((.execute stmt, s) : Goal .flow) (.execute stmt, s')

/-- Statements that declare nothing end normally. -/
theorem Moment.finish_normal (m : Moment (.executing w stmt s s' sound visited) w₁ p t t')
    (plain : stmt.declared? = none) :
    Lockstep (.executing w stmt s s' sound visited) (Executed w p stmt s s') (finish .normal)
      (finish .normal) t t' := by
  refine .pure (.normal (m.grown.mono fun _ _ h => h.elim) m.situation.coherent m.keeps.1
    (fun _ => m.keeps.2) ?_)
  rw [Position.after_of_plain plain]
  exact m.situation.around

/-- Statements return related values. -/
theorem Moment.finish_returned (m : Moment (.executing w stmt s s' sound visited) w₁ p t t')
    (inFunction : p.inFunction = true) {v v' : Value} (same : Same w₁ v v') :
    Lockstep (.executing w stmt s s' sound visited) (Executed w p stmt s s')
      (finish (.returned v)) (finish (.returned v')) t t' :=
  .pure (.returned inFunction m.grown m.situation.coherent m.keeps.1 m.keeps.2 same)

/-- Treatments that hand over to a statement that declares nothing. -/
theorem Moment.handOver_execute (m : Moment (.executing w stmt s s' sound visited) w₁ p t t')
    (situation : Situation w p s s') (course : w.Course s.frame (Evaluation.executing stmt s))
    (plain : stmt.declared? = none) {next : Stmt} (plain' : next.declared? = none)
    (wellScoped : next.WellScoped w.known p) (settled : p.pending = none) :
    Lockstep (.executing w stmt s s' sound visited) (Executed w p stmt s s')
      (Evaluation.handOver (.execute next)) (Evaluation.handOver (.execute next)) t t' := by
  have grown : Extends nowhere w w₁ := m.grown
  obtain ⟨frame, frame'⟩ : t.frame = s.frame ∧ t'.frame = s'.frame := m.keeps
  have inside := (situation.around.inside sound).1
  refine .pure fun begets => ⟨(w₁, p), ?_, fun answer answer' ended => ?_,
    fun answer halted => halt_of_begets grown frame frame' begets halted⟩
  · refine ⟨m.known, grown.visited, .execute m.situation ?_ ?_ (m.known ▸ wellScoped) settled⟩
    · intro parent maker given found
      rw [frame, grown.frame_eq inside] at found
      exact .tail (course parent maker given found) begets
    · exact grown.visited ▸ sound.closed _ _ visited begets
  · cases ended with
    | normal grown' coherent newFrame newFrame' around =>
      have stays : p.after next = p.after stmt :=
        (Position.after_of_plain plain').trans (Position.after_of_plain plain).symm
      rw [stays] at around
      have grown' : Extends nowhere w₁ _ := grown'.mono fun f x h => by
        rw [plain'] at h
        cases h.2
      exact .normal ((grown.trans grown').mono fun _ _ h => h.elim) coherent (newFrame.trans frame)
        (fun _ => (newFrame' plain').trans frame') around
    | returned inFunction grown' coherent newFrame newFrame' same =>
      exact .returned inFunction (grown.trans grown') coherent (newFrame.trans frame)
        (newFrame'.trans frame') same
    | failed proper grown' coherent newFrame newFrame' =>
      exact .failed proper (grown.anywhere.trans grown') coherent (newFrame.trans frame)
        (newFrame'.trans frame')

end Flow

/-- Blocks are executed in lockstep. -/
theorem lockstep_block {stmts : List Stmt} (situation : Situation w p s s')
    (visited : w.visited (executing (.block stmts) s))
    (wellScoped : Stmt.AllWellScoped w.known (p.enter (.statement (.block stmts)) []) stmts)
    (settled : p.pending = none) :
    Lockstep (.executing w (.block stmts) s s' situation.coherent.sound visited)
      (Executed w p (.block stmts) s s') (executeStep (.block stmts))
      (Lexical.executeStep (.block stmts)) s s' := by
  have course (task : Task)
      (asked : Routine.Requests body (body _ ((.execute (.block stmts), s) : Goal .flow)) task) :
      Relation.ReflTransGen (Routine.Begets body) (executing (.block stmts) s) task :=
    .single (.inl asked)
  let c : Context := .executing w (.block stmts) s s' situation.coherent.sound visited
  let q : Position := p.enter (.statement (.block stmts)) []
  obtain ⟨w₁, -, m₁, owns⟩ := situation.coherent.enter (c := c) (.refl w) situation.around (q := q)
    rfl visited (makes_block stmts s) .block course
  refine Job.Agree.bind (Q := fun f f' t t' => f = s.heap.frames.size ∧ f' = s'.heap.frames.size ∧
      t = (s.newFrame s.frame ∅).2 ∧ t' = (s'.newFrame s'.frame ∅).2)
    (.modifyGet ⟨rfl, rfl, rfl, rfl⟩) ?_
  rintro _ _ _ _ ⟨rfl, rfl, rfl, rfl⟩
  have keeps : c.frames (s.newFrame s.frame ∅).2.frame (s'.newFrame s'.frame ∅).2.frame :=
    ⟨rfl, rfl⟩
  refine (lockstep_within keeps (m₁.executeAll owns wellScoped settled)).bind ?_
  rintro flow flow' _ _ ⟨u, u', ⟨w₂, -, grown, coherent, -, same⟩, rfl, rfl⟩
  have coherent' : Coherent w₂ { u with frame := s.frame } { u' with frame := s'.frame } :=
    { coherent with }
  cases same with
  | normal =>
    exact .pure (.normal (grown.mono fun _ _ h => h.elim) coherent' rfl (fun _ => rfl)
      (situation.around.mono grown.le))
  | returned inFunction same => exact .pure (.returned inFunction grown coherent' rfl rfl same)

/-! ### Declarations -/

/-- Only the layers of a place matter for the frames. -/
theorem Moment.at (m : Moment c w p s s') {q : Position} (isSame : q.layers = p.layers) :
    Moment c w q s s' :=
  ⟨m.grown, ⟨m.situation.coherent, isSame.symm ▸ m.situation.around,
    isSame.symm ▸ m.situation.complete⟩, m.course, m.keeps⟩

section Declaration

variable {stmt : Stmt} {sound : w.Sound} {visited : w.visited (executing stmt s)}
  {w₁ : World} {x : String}

/-- Declarations end normally, in the frame of the declared name. -/
theorem lockstep_declared (declares : stmt.declared? = some x) {u u' : Interpreter}
    (grown : Extends nowhere w w₁) (grown' : Extends (Adds s.frame x) w₁ w')
    (coherent : Coherent w' u u') (frame : u.frame = s.frame)
    (around : Around w' s.frame u'.frame (p.declare x).layers) :
    Lockstep (.executing w stmt s s' sound visited) (Executed w p stmt s s') (finish .normal)
      (finish .normal) u u' := by
  have grown : Extends (Declares stmt.declared? s.frame) w₁ w' :=
    grown'.mono fun f y h => ⟨h.1, h.2.symm ▸ declares⟩
  have isDeclared (plain : stmt.declared? = none) : u'.frame = s'.frame := by
    rw [declares] at plain
    cases plain
  refine .pure (.normal ((‹Extends nowhere w w₁›.mono fun _ _ h => h.elim).trans grown) coherent
    frame isDeclared ?_)
  rw [Position.after_of_declared? declares, frame]
  exact around

/-- A variable is declared with related values. -/
theorem Moment.declare (m : Moment (.executing w stmt s s' sound visited) w₁ p t t')
    (declares : stmt.declared? = some x) (ordinary : Ordinary x) (fresh : p.Fresh x)
    {v v' : Value} (same : Same w₁ v v') :
    Lockstep (.executing w stmt s s' sound visited) (Executed w p stmt s s')
      (do
        modify fun i => i.define i.frame x v
        finish .normal)
      (do
        Lexical.declare x v'
        finish .normal) t t' := by
  have frame : t.frame = s.frame := m.keeps.1
  obtain ⟨w₂, grown, coherent, around⟩ := m.situation.declare ordinary fresh same
  refine Job.Agree.bind (Q := fun _ _ u u' => u = t.define t.frame x v ∧ u' = t'.declare x v')
    (.modify ⟨rfl, rfl⟩) ?_
  rintro _ _ _ _ ⟨rfl, rfl⟩
  rw [frame] at grown around
  exact lockstep_declared declares m.grown grown coherent frame around

end Declaration

/-- Variables are declared in lockstep. -/
theorem lockstep_variable {name : Token} {initializer : Option Expr}
    (situation : Situation w p s s')
    (course : w.Course s.frame (executing (.varDecl name initializer) s))
    (visited : w.visited (executing (.varDecl name initializer) s))
    (settled : p.pending = none) (ordinary : Ordinary name.lexeme) (fresh : p.Fresh name.lexeme)
    (wellScoped : ∀ e, initializer = some e → e.WellScoped w.known (p.await name.lexeme)) :
    Lockstep (.executing w (.varDecl name initializer) s s' situation.coherent.sound visited)
      (Executed w p (.varDecl name initializer) s s') (executeStep (.varDecl name initializer))
      (Lexical.executeStep (.varDecl name initializer)) s s' := by
  have m : Moment (.executing w (.varDecl name initializer) s s' situation.coherent.sound visited)
      w p s s' := .start situation course
  cases initializer with
  | none => exact m.declare rfl ordinary fresh .nil
  | some e =>
    have awaiting := Position.awaiting_await settled ordinary fresh
    refine ((m.at Position.layers_await).evaluate (wellScoped e rfl) awaiting).bind ?_
    rintro v v' t t' ⟨⟨w₁, grown₁, m₁, -, -, same⟩, -⟩
    exact (m₁.at Position.layers_await.symm).declare rfl ordinary fresh same

/-- Functions are declared in lockstep. -/
theorem lockstep_function {d : FunctionDecl} (situation : Situation w p s s')
    (visited : w.visited (executing (.functionDecl d) s)) (settled : p.pending = none)
    (ordinary : Ordinary d.name.lexeme) (fresh : p.Fresh d.name.lexeme)
    (wellScoped : d.WellScoped w.known (p.declare d.name.lexeme)) :
    Lockstep (.executing w (.functionDecl d) s s' situation.coherent.sound visited)
      (Executed w p (.functionDecl d) s s') (executeStep (.functionDecl d))
      (Lexical.executeStep (.functionDecl d)) s s' := by
  obtain ⟨w', grown, coherent, around⟩ := situation.declare ordinary fresh .nil
  have known : w'.known = w.known := grown.known
  have same : SameClosure w' ⟨d, s.frame, false⟩
      ⟨d, (s'.declare d.name.lexeme .nil).frame, false⟩ :=
    ⟨rfl, rfl, p.declare d.name.lexeme, around, Position.pending_declare.trans settled,
      known ▸ wellScoped, nofun⟩
  obtain ⟨coherent₁, sameFunction⟩ := coherent.newFunction same
  have coherent₂ := coherent₁.redefine around ordinary sameFunction
  have inside : s.frame < s.heap.newIdentity.2.frames.size :=
    situation.coherent.heap.size ▸ (situation.around.inside situation.coherent.sound).1
  have coherent₃ : Coherent w'
      ((s.newFunction ⟨d, s.frame, false⟩).2.define s.frame d.name.lexeme
        (s.newFunction ⟨d, s.frame, false⟩).1)
      (((s'.declare d.name.lexeme .nil).newFunction _).2.define _ d.name.lexeme _) :=
    { coherent₂ with heap := coherent₂.heap.congr (Heap.alike_define_define inside) }
  have finished : Lockstep
      (.executing w (.functionDecl d) s s' situation.coherent.sound visited)
      (Executed w p (.functionDecl d) s s') (finish .normal) (finish .normal) _ _ :=
    lockstep_declared rfl (.refl w) grown coherent₃ rfl around
  exact finished

/-! ### Classes -/

/-- The methods of a class, in frames around them. -/
theorem Around.methodTable {f g : FrameId} (around : Around w f g p.layers)
    (settled : p.pending = none) {name : Token} {superclass : Option Occurrence}
    {methods : List FunctionDecl}
    (wellScoped : ∀ d ∈ methods, d.WellScoped w.known
      (p.enter (.statement (.classDecl name superclass methods)) ["this"])) :
    SameMethods w (methodTable methods f) (methodTable methods g) := by
  suffices ∀ (ds : List FunctionDecl) (table table' : Std.TreeMap String Closure),
      (∀ d ∈ ds, d ∈ methods) → SameMethods w table table' →
        SameMethods w
          (ds.foldl (fun table d =>
            table.insert d.name.lexeme ⟨d, f, d.name.lexeme == "init"⟩) table)
          (ds.foldl (fun table d =>
            table.insert d.name.lexeme ⟨d, g, d.name.lexeme == "init"⟩) table') by
    refine this methods ∅ ∅ (fun d mem => mem) fun x => ?_
    simp only [Std.TreeMap.getElem?_emptyc]
    exact .none
  intro ds
  induction ds with
  | nil => exact fun table table' _ same => same
  | cons d ds ih =>
    intro table table' declared same
    refine ih _ _ (fun d mem => declared d (List.mem_cons_of_mem _ mem)) fun x => ?_
    simp only [Std.TreeMap.getElem?_insert]
    split
    · have mem := declared d List.mem_cons_self
      exact .some ⟨rfl, rfl, p, name, superclass, methods, around, settled, mem, wellScoped d mem⟩
    · exact same x

/-- The class itself takes the place of nil. -/
theorem Coherent.defineClass (coherent : Coherent w s s') {x : String}
    (around : Around w s.frame s'.frame (p.declare x).layers) (ordinary : Ordinary x)
    {superclass superclass' : Option Class} {methods methods' : Std.TreeMap String Closure}
    (same : ∀ identity, SameClass w ⟨identity, x, superclass, methods⟩
      ⟨identity, x, superclass', methods'⟩) :
    Coherent w
      (s.newIdentity.2.define s.frame x (.classObject ⟨s.newIdentity.1, x, superclass, methods⟩))
      (s'.newIdentity.2.define s'.frame x
        (.classObject ⟨s'.newIdentity.1, x, superclass', methods'⟩)) := by
  have coherent' : Coherent w s.newIdentity.2 s'.newIdentity.2 :=
    { coherent with heap := coherent.heap.newIdentity }
  have isSame : s'.newIdentity.1 = s.newIdentity.1 := coherent.heap.identity
  rw [isSame]
  exact coherent'.redefine around ordinary (.classObject (same _))

/-- Superclasses are found in lockstep. -/
theorem Moment.superclassOf (m : Moment c w p s s') {o : Occurrence}
    (wellScoped : (Expr.reference o).WellScoped c.base.known p) (awaiting : p.Awaiting) :
    Lockstep c (fun cls cls' t t' => Then c w p s s' SameClass cls cls' t t' ∧
      Routine.Answers body ((.evaluate (.reference o), s) : Goal .value)
        (.ok (.classObject cls), t))
      (Evaluation.superclassOf o) (Evaluation.superclassOf o) s s' := by
  refine (m.evaluate wellScoped awaiting).bind ?_
  rintro v v' t t' ⟨⟨w₁, grown, m₁, frame, frame', same⟩, answered⟩
  cases same with
  | classObject same => exact .pure ⟨⟨w₁, grown, m₁, frame, frame', same⟩, answered⟩
  | _ => exact m₁.fail nofun

/-- Classes are defined in lockstep. -/
theorem lockstep_class {name : Token} {superclass : Option Occurrence}
    {methods : List FunctionDecl} (situation : Situation w p s s')
    (course : w.Course s.frame (executing (.classDecl name superclass methods) s))
    (visited : w.visited (executing (.classDecl name superclass methods) s))
    (settled : p.pending = none) (ordinary : Ordinary name.lexeme) (fresh : p.Fresh name.lexeme)
    (above : ∀ o, superclass = some o →
      (Expr.reference o).WellScoped w.known (p.await name.lexeme))
    (wellScoped : ∀ d ∈ methods, d.WellScoped w.known (p.inClass name superclass methods)) :
    Lockstep
      (.executing w (.classDecl name superclass methods) s s' situation.coherent.sound visited)
      (Executed w p (.classDecl name superclass methods) s s')
      (executeStep (.classDecl name superclass methods))
      (Lexical.executeStep (.classDecl name superclass methods)) s s' := by
  let c : Context :=
    .executing w (.classDecl name superclass methods) s s' situation.coherent.sound visited
  have m : Moment c w p s s' := .start situation course
  have settled' : (p.declare name.lexeme).pending = none := Position.pending_declare.trans settled
  cases superclass with
  | none =>
    obtain ⟨w₁, grown, coherent, around⟩ := situation.declare ordinary fresh .nil
    have known : w₁.known = w.known := grown.known
    have tables := around.methodTable settled' (known.symm ▸ wellScoped)
    have coherent' := coherent.defineClass around ordinary fun _ =>
      .root ⟨_, methods, _, grown.le.visited _ visited, .root, rfl⟩ tables
    have finished : Lockstep c (Executed w p (.classDecl name none methods) s s') (finish .normal)
        (finish .normal) _ _ := lockstep_declared rfl (.refl w) grown coherent' rfl around
    exact finished
  | some o =>
    have awaiting := Position.awaiting_await settled ordinary fresh
    refine Job.Agree.bind (Q := fun _ _ u u' => ∃ w₁ w₂, Extends nowhere w w₁ ∧
      Extends (Adds s.frame name.lexeme) w₁ w₂ ∧ Coherent w₂ u u' ∧ u.frame = s.frame ∧
      Around w₂ s.frame u'.frame (p.declare name.lexeme).layers) ?_ ?_
    · refine Job.Agree.bind (Q := fun r r' t t' => ∃ cls cls', r = some cls ∧ r' = some cls' ∧
        Then c w (p.await name.lexeme) s s' SameClass cls cls' t t' ∧
          Routine.Answers body ((.evaluate (.reference o), s) : Goal .value)
            (.ok (.classObject cls), t)) ?_ ?_
      · refine ((m.at Position.layers_await).superclassOf (above o rfl) awaiting).bind ?_
        exact fun cls cls' t t' h => .pure ⟨cls, cls', rfl, rfl, h⟩
      · rintro _ _ t t' ⟨cls, cls', rfl, rfl, ⟨w₁, grown₁, m₁, frame, frame', same⟩, answered⟩
        have situation₁ := (m₁.at Position.layers_await.symm).situation
        obtain ⟨w₂, grown₂, coherent₂, around₂⟩ := situation₁.declare ordinary fresh .nil
        rw [frame] at grown₂ around₂
        have makes : Makes (executing (.classDecl name (some o) methods) s)
            (t.define t.frame name.lexeme .nil).heap.frames.size :=
          (t.size_define t.frame name.lexeme .nil).symm ▸ makes_class answered
        have visited₂ : w₂.visited (executing (.classDecl name (some o) methods) s) :=
          grown₂.le.visited _ (grown₁.le.visited _ visited)
        obtain ⟨w₃, grown₃, coherent₃, around₃⟩ := coherent₂.enterBound around₂
          (.classObject (same.mono grown₂.le)) visited₂ makes (.superclass answered)
        have known : w₃.known = w.known := grown₃.known.trans (grown₂.known.trans grown₁.known)
        let opener : Node := .statement (.classDecl name (some o) methods)
        have tables := Around.methodTable (p := (p.declare name.lexeme).enter opener ["super"])
          around₃ settled' (known.symm ▸ wellScoped)
        have around₄ : Around w₃ t.frame (t'.declare name.lexeme .nil).frame
            (p.declare name.lexeme).layers := frame.symm ▸ around₂.mono grown₃.le
        have coherent₄ := coherent₃.defineClass (p := p) around₄ ordinary
          fun _ => .derived (same.mono (grown₂.le.trans grown₃.le))
            ⟨_, methods, _, grown₃.le.visited _ visited₂, .derived answered, rfl⟩ tables
        have grown₄ : Extends (Adds s.frame name.lexeme) w₁ w₃ :=
          grown₂.trans (grown₃.mono fun _ _ h => h.elim)
        rw [frame] at coherent₄ around₄
        refine Routine.Agree.done fun _ => ⟨w₁, w₃, grown₁, grown₄, ?_, frame, around₄⟩
        rw [← frame] at coherent₄
        exact coherent₄
    · rintro _ _ u u' ⟨w₁, w₂, grown₁, grown₂, coherent, frame, around⟩
      exact lockstep_declared rfl grown₁ grown₂ coherent frame around

/-! ### Statements -/

/-- Values are printed in lockstep. -/
theorem Moment.print (m : Moment c w p s s') {v v' : Value} (same : Same w v v') (line : Nat) :
    Lockstep c (fun _ _ t t' => Moment c w p t t') (print v line) (print v' line) s s' := by
  have coherent := m.situation.coherent
  have isSame : s'.sink.write (v'.text ++ "\n") = s.sink.write (v.text ++ "\n") := by
    rw [same.text, coherent.sink]
  have m' : Moment c w p (s.write (v.text ++ "\n")).2 (s'.write (v'.text ++ "\n")).2 :=
    m.later (.refl w) { coherent with sink := congrArg Prod.snd isSame } rfl rfl
  refine Job.Agree.bind (Q := fun failure failure' t t' => failure' = failure ∧
    Moment c w p t t') (.modifyGet ⟨congrArg (·.1) isSame, m'⟩) ?_
  rintro failure failure' t t' ⟨isFailure, m₁⟩
  subst isFailure
  cases failure' with
  | none => exact .pure m₁
  | some reason => exact m₁.fail nofun

/-- The two evaluators treat statements in lockstep. -/
theorem lockstep_statement {stmt : Stmt} (situation : Situation w p s s')
    (course : w.Course s.frame (executing stmt s)) (visited : w.visited (executing stmt s))
    (wellScoped : stmt.WellScoped w.known p) (settled : p.pending = none) :
    Lockstep (.executing w stmt s s' situation.coherent.sound visited) (Executed w p stmt s s')
      (executeStep stmt) (Lexical.executeStep stmt) s s' := by
  have m : Moment (.executing w stmt s s' situation.coherent.sound visited) w p s s' :=
    .start situation course
  have awaiting := Position.awaiting_of_settled settled
  cases wellScoped with
  | block h => exact lockstep_block situation visited h settled
  | classDecl ordinary fresh above h =>
    exact lockstep_class situation course visited settled ordinary fresh above h
  | expression h =>
    refine (m.evaluate h awaiting).bind ?_
    rintro v v' t t' ⟨⟨w₁, -, m₁, -, -, -⟩, -⟩
    exact m₁.finish_normal rfl
  | functionDecl ordinary fresh h =>
    exact lockstep_function situation visited settled ordinary fresh h
  | @conditional _ condition thenBranch elseBranch h thenPlain hThen elsePlain hElse =>
    refine (m.evaluate h awaiting).bind ?_
    rintro v v' t t' ⟨⟨w₁, -, m₁, -, -, same⟩, -⟩
    rw [same.isTruthy]
    split
    · exact m₁.handOver_execute situation course rfl thenPlain hThen settled
    · cases elseBranch with
      | none => exact m₁.finish_normal rfl
      | some stmt =>
        exact m₁.handOver_execute situation course rfl (elsePlain stmt rfl) (hElse stmt rfl) settled
  | @print _ value h =>
    refine (m.evaluate h awaiting).bind ?_
    rintro v v' t t' ⟨⟨w₁, -, m₁, -, -, same⟩, -⟩
    exact (m₁.print same value.line).bind fun _ _ _ _ m₂ => m₂.finish_normal rfl
  | @ret _ keyword value inFunction h =>
    cases value with
    | none => exact m.finish_returned inFunction .nil
    | some e =>
      refine (m.evaluate (h e rfl) awaiting).bind ?_
      rintro v v' t t' ⟨⟨w₁, -, m₁, -, -, same⟩, -⟩
      exact m₁.finish_returned inFunction same
  | varDecl ordinary fresh h =>
    exact lockstep_variable situation course visited settled ordinary fresh h
  | @loop _ condition body h plain hBody =>
    refine (m.evaluate h awaiting).bind ?_
    rintro v v' t t' ⟨⟨w₁, grown₁, m₁, frame₁, frame₁', same⟩, -⟩
    rw [same.isTruthy]
    split
    · refine (m₁.execute hBody settled).bind ?_
      intro flow flow' u u' ended
      cases ended with
      | normal grown coherent frame frame' _ =>
        have grown : Extends nowhere w₁ _ := grown.mono fun f x h => by
          rw [plain] at h
          cases h.2
        exact (m₁.later grown coherent frame (frame' plain)).handOver_execute situation course rfl
          rfl (.loop h plain hBody) settled
      | returned inFunction grown coherent frame frame' same =>
        exact (m₁.later grown coherent frame frame').finish_returned inFunction same
    · exact m₁.finish_normal rfl

end Lox.World
