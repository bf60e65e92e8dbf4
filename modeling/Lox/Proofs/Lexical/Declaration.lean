import Lox.Proofs.Lexical.Coupling

/-!
# Declarations in lockstep

Where the evaluator with distances binds a declared name in its current frame, the lexical evaluator
opens a frame around what follows. Outside every scope both bind a global name.

## Main results

* `World.Situation.declare`: a declared name.
* `World.Coherent.redefine`: another value for the name that was declared last.
* `World.Coherent.enterBound`: a frame that binds one name.
-/

namespace Lox

open Scope Evaluation

/-! ### Heaps that look alike -/

/-- Heaps that cannot be told apart. -/
structure Heap.Alike (h h' : Heap) : Prop where
  size : h'.frames.size = h.frames.size
  parent : ∀ f, h'.parent? f = h.parent? f
  binding : ∀ f x, h'.binding? f x = h.binding? f x
  fieldsSize : h'.fields.size = h.fields.size
  field : ∀ address x, h'.field? address x = h.field? address x
  identity : h'.nextIdentity = h.nextIdentity

/-- Of two bindings of one name the second counts. -/
theorem Heap.alike_define_define {h : Heap} {f : FrameId} {x : String} {u v : Value}
    (inside : f < h.frames.size) : Heap.Alike ((h.define f x u).define f x v) (h.define f x v) where
  size := by simp only [Heap.size_define]
  parent g := by simp only [Heap.parent?_define]
  binding g y := by
    rw [Heap.binding?_define inside, Heap.binding?_define (by rw [Heap.size_define]; exact inside),
      Heap.binding?_define inside]
    split <;> rfl
  fieldsSize := rfl
  field _ _ := rfl
  identity := rfl

namespace World

variable {w w' : World} {p : Position} {s s' : Interpreter} {x : String} {v v' : Value}

theorem SameHeap.congr {h₀ h h' : Heap} (same : SameHeap w h₀ h') (alike : Heap.Alike h₀ h) :
    SameHeap w h h' where
  size := alike.size.trans same.size
  size' := same.size'
  parent f origin found := (alike.parent f).trans (same.parent f origin found)
  parent' := same.parent'
  bound g cell x found named := by
    rw [alike.binding]
    exact same.bound g cell x found named
  only f x v isLocal isValue := by
    rw [alike.binding] at isValue
    exact same.only f x v isLocal isValue
  only' := same.only'
  globals x := by
    rw [alike.binding]
    exact same.globals x
  fieldsSize := same.fieldsSize.trans alike.fieldsSize.symm
  fields address x := by
    rw [alike.field]
    exact same.fields address x
  identity := same.identity.trans alike.identity.symm

/-! ### Names -/

/-- The name that a declaration adds to a frame; the global frame gets none. -/
def Adds (f : FrameId) (x : String) : FrameId → String → Prop :=
  fun f' x' => f' = f ∧ x' = x

/-- A declared name. -/
theorem Situation.declare (situation : Situation w p s s') (ordinary : Ordinary x)
    (fresh : p.Fresh x) (same : Same w v v') :
    ∃ w', Extends (Adds s.frame x) w w' ∧ Coherent w' (s.define s.frame x v) (s'.declare x v') ∧
      Around w' s.frame (s'.declare x v').frame (p.declare x).layers := by
  obtain ⟨coherent, around, complete⟩ := situation
  have sound := coherent.sound
  cases isLayers : p.layers with
  | nil =>
    rw [Position.declare_top isLayers, isLayers]
    obtain ⟨isGlobal, isGlobal'⟩ := around.eq_globalFrame isLayers
    have isDeclared : s'.declare x v' = s'.define globalFrame x v' := by
      rw [Interpreter.declare, if_pos isGlobal']
    rw [isDeclared, isGlobal]
    refine ⟨w, .refl w, { coherent with heap := coherent.heap.assignGlobal sound same }, ?_⟩
    exact isGlobal'.symm ▸ Around.root
  | cons layer layers =>
    obtain ⟨isLocal, isLocal'⟩ := around.ne_globalFrame sound (by simp [isLayers])
    obtain ⟨inside, inside'⟩ := around.inside sound
    have unused (g : FrameId) (cell : Cell) (found : w.cells[g]? = some cell)
        (owner : cell.owner = s.frame) : cell.name ≠ some x := by
      intro named
      have isHead : p.layers.head? = some layer := by rw [isLayers]; rfl
      exact fresh layer isHead (complete layer isHead g cell x found owner named)
    let w' := w.addName s.frame x s'.frame
    have grown : Extends (Adds s.frame x) w w' :=
      addName_extends.mono fun f y h => ⟨h.1, (Option.some.inj h.2).symm⟩
    have heap := coherent.heap.declare sound inside isLocal inside' unused (same.mono grown.le)
      ordinary
    have isDeclared : s'.declare x v' =
        { s' with
          heap := (s'.heap.newFrame (some s'.frame) ((∅ : Bindings).insert x v')).2
          frame := s'.heap.frames.size } := by
      rw [Interpreter.declare, if_neg isLocal']
      rfl
    rw [isDeclared, Position.layers_declare isLayers, coherent.heap.size']
    rw [isLayers] at around
    refine ⟨w', grown, { coherent with sound := sound.addName inside isLocal unused, heap := heap },
      .declared List.getElem?_concat_length (around.mono grown.le)⟩

/-- The name that was declared last gets another value. -/
theorem Coherent.redefine (coherent : Coherent w s s')
    (around : Around w s.frame s'.frame (p.declare x).layers) (ordinary : Ordinary x)
    (same : Same w v v') :
    Coherent w (s.define s.frame x v) (s'.define s'.frame x v') := by
  cases isLayers : p.layers with
  | nil =>
    rw [Position.declare_top isLayers] at around
    obtain ⟨isGlobal, isGlobal'⟩ := around.eq_globalFrame isLayers
    rw [isGlobal, isGlobal']
    exact { coherent with heap := coherent.heap.assignGlobal coherent.sound same }
  | cons layer layers =>
    rw [Position.layers_declare isLayers] at around
    obtain ⟨parent, cell⟩ := around.cell_of_cons
    exact { coherent with heap := coherent.heap.assign coherent.sound cell rfl same ordinary }

/-! ### Frames with one name -/

/-- Both evaluators add a frame that binds one name, for a receiver or a superclass. -/
theorem Coherent.enterBound (coherent : Coherent w s s') {f g : FrameId} {layers : List Layer}
    (around : Around w f g layers) (same : Same w v v') {maker : Task} {opener : Node}
    (visited : w.visited maker) (makes : Makes maker s.heap.frames.size)
    (executes : Executes maker opener f (some (x, v))) :
    ∃ w', Extends nowhere w w' ∧
      Coherent w' (s.newFrame f ((∅ : Bindings).insert x v)).2
        (s'.newFrame g ((∅ : Bindings).insert x v')).2 ∧
      Around w' s.heap.frames.size s'.heap.frames.size (⟨opener, [x]⟩ :: layers) := by
  have sound := coherent.sound
  have size := coherent.heap.size
  obtain ⟨inside, inside'⟩ := around.inside sound
  let w' := w.addFrame f maker g (some (x, v))
  have grown : Extends nowhere w w' := addFrame_extends
  have single (u : Value) (y : String) :
      ((∅ : Bindings).insert x u)[y]? = if x = y then some u else none := by
    simp [Std.TreeMap.getElem?_insert, Std.LawfulEqCmp.compare_eq_iff_eq]
  have only (u : Value) (y : String) (r : Value)
      (found : ((∅ : Bindings).insert x u)[y]? = some r) : some x = some y := by
    rw [single] at found
    split at found
    · next isName => rw [isName]
    · cases found
  have heap : SameHeap w' (s.heap.newFrame (some f) ((∅ : Bindings).insert x v)).2
      (s'.heap.newFrame (some g) ((∅ : Bindings).insert x v')).2 := by
    refine coherent.heap.newFrame sound inside inside' ?_ (only v) (only v')
    rintro y u isGiven
    cases isGiven
    refine ⟨?_, v', ?_, same.mono grown.le⟩
    · rw [single, if_pos rfl]
    · rw [single, if_pos rfl]
  have frame : w'.frames[w.frames.length]? = some ⟨some f, some maker, some (x, v)⟩ :=
    List.getElem?_concat_length
  have cell : w'.cells[w.cells.length]? = some ⟨w.frames.length, some x, some g⟩ :=
    List.getElem?_concat_length
  have made : w'.Made maker w.frames.length := ⟨visited, size ▸ makes⟩
  refine ⟨w', grown, { coherent with sound := sound.addFrame, heap := heap }, ?_⟩
  rw [size, coherent.heap.size']
  exact .bound frame cell made executes (around.mono grown.le)

end World

end Lox
