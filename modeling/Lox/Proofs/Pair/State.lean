import Lox.Proofs.Evaluation.Graph
import Lox.Proofs.Pair.Value

/-!
# States of two runs side by side

The states of two runs are a pair if the frames that belong together bind paired values, and all
else is the same. What running code does on both sides leads from pairs to pairs: frames that are
new on both sides belong together from then on.

## Main definitions

* `Scene.Sound`: heaps in which frames that belong together bind paired values.
* `Pair`, `Pair.Ahead`: states of two runs side by side, and pairs that come later.
* `Agreed`: related results, or the same fault.

## Main results

* `Scene.Sound.define`, `Scene.Sound.newFrame` and the others: what is done on both sides.
* `Pair.lookUp`, `Pair.target`: names are found in frames that belong together.
-/

namespace Lox

open Scope

/-- Results that are related by `Q`, or the same fault. -/
inductive Agreed {α β : Type} (Q : α → β → Prop) : Except Fault α → Except Fault β → Prop
  | ok {a : α} {b : β} (related : Q a b) : Agreed Q (.ok a) (.ok b)
  | error (e : Fault) : Agreed Q (.error e) (.error e)

theorem Agreed.mono {α β : Type} {Q Q' : α → β → Prop} {r : Except Fault α} {r' : Except Fault β}
    (h : Agreed Q r r') (h' : ∀ a b, Q a b → Q' a b) : Agreed Q' r r' := by
  cases h with
  | ok related => exact .ok (h' _ _ related)
  | error e => exact .error e

/-- Frames that belong together exist, each belongs to one of the other side, and they bind paired
values. So do the fields of instances. Objects that belong together exist too, and each belongs to
one of the other side. -/
structure Scene.Sound (c : Pairing) (σ : Scene) : Prop where
  global : σ.frames globalFrame globalFrame
  exists_ : ∀ f f', σ.frames f f' → f < σ.left.frames.size ∧ f' < σ.right.frames.size
  unique : ∀ f f' g g', σ.frames f f' → σ.frames g g' → (f = g ↔ f' = g')
  binding : ∀ f f', σ.frames f f' → ∀ x,
    Option.Rel (Value.Paired c σ) (σ.left.binding? f x) (σ.right.binding? f' x)
  instances : σ.right.fields.size = σ.left.fields.size
  field : ∀ a x, Option.Rel (Value.Paired c σ) (σ.left.field? a x) (σ.right.field? a x)
  objectExists : ∀ n n', σ.objects n n' → n < σ.left.nextIdentity ∧ n' < σ.right.nextIdentity
  objectUnique : ∀ n n' m m', σ.objects n n' → σ.objects m m' → (n = m ↔ n' = m')

/-! ### Changing both heaps -/

namespace Scene

variable (σ : Scene)

/-- Both heaps bind a name. -/
def define (f f' : FrameId) (x : String) (v v' : Value) : Scene :=
  { σ with left := σ.left.define f x v, right := σ.right.define f' x v' }

/-- Both heaps have a new frame. -/
def newFrame (p p' : FrameId) (b b' : Bindings) : Scene :=
  { σ with
    frames := fun f f' => σ.frames f f' ∨ f = σ.left.frames.size ∧ f' = σ.right.frames.size
    left := (σ.left.newFrame (some p) b).2
    right := (σ.right.newFrame (some p') b').2 }

/-- Both heaps have a new instance. -/
def newInstance : Scene :=
  { σ with left := σ.left.newInstance.2, right := σ.right.newInstance.2 }

/-- Both heaps have a new object with an identity. -/
def newIdentity : Scene :=
  { σ with
    objects := fun n n' => σ.objects n n' ∨ n = σ.left.nextIdentity ∧ n' = σ.right.nextIdentity
    left := σ.left.newIdentity.2
    right := σ.right.newIdentity.2 }

/-- Both heaps give a field of an instance a value. -/
def setField (a : Nat) (x : String) (v v' : Value) : Scene :=
  { σ with left := σ.left.setField a x v, right := σ.right.setField a x v' }

variable {c : Pairing} {σ} {f f' p p' : FrameId} {x : String} {v v' : Value} {b b' : Bindings}
  {a : Nat}

theorem le_newFrame : σ.LE (σ.newFrame p p' b b') :=
  ⟨fun _ _ together => .inl together, fun _ _ together => together, Heap.grown_newFrame,
    Heap.grown_newFrame⟩

theorem le_newInstance : σ.LE σ.newInstance :=
  ⟨fun _ _ together => together, fun _ _ together => together, Heap.grown_newInstance,
    Heap.grown_newInstance⟩

theorem le_newIdentity : σ.LE σ.newIdentity :=
  ⟨fun _ _ together => together, fun _ _ together => .inl together, Heap.grown_newIdentity,
    Heap.grown_newIdentity⟩

theorem le_setField : σ.LE (σ.setField a x v v') :=
  ⟨fun _ _ together => together, fun _ _ together => together, Heap.grown_setField,
    Heap.grown_setField⟩

namespace Sound

variable (sound : σ.Sound c)

include sound

theorem le_define (together : σ.frames f f') : σ.LE (σ.define f f' x v v') :=
  ⟨fun _ _ together => together, fun _ _ together => together,
    Heap.grown_define (sound.exists_ f f' together).1,
    Heap.grown_define (sound.exists_ f f' together).2⟩

theorem define (together : σ.frames f f') (value : v.Paired c σ v') :
    (σ.define f f' x v v').Sound c := by
  obtain ⟨exists_, exists'⟩ := sound.exists_ f f' together
  have le : σ.LE (σ.define f f' x v v') := sound.le_define together
  refine ⟨sound.global, fun g g' together' => ?_, sound.unique, fun g g' together' y => ?_,
    sound.instances, fun a y => ?_, sound.objectExists, sound.objectUnique⟩
  · obtain ⟨older, older'⟩ := sound.exists_ g g' together'
    exact ⟨Nat.lt_of_lt_of_le older le.left.frames, Nat.lt_of_lt_of_le older' le.right.frames⟩
  · have same := sound.unique g g' f f' together' together
    change Option.Rel _ ((σ.left.define f x v).binding? g y)
      ((σ.right.define f' x v').binding? g' y)
    rw [Heap.binding?_define exists_, Heap.binding?_define exists']
    by_cases here : g = f ∧ y = x
    · rw [if_pos here, if_pos ⟨same.1 here.1, here.2⟩]
      exact .some (value.mono le)
    · rw [if_neg here, if_neg fun here' => here ⟨same.2 here'.1, here'.2⟩]
      exact rel_mono (fun _ _ h => h.mono le) (sound.binding g g' together' y)
  · exact rel_mono (fun _ _ h => h.mono le) (sound.field a y)

/-- The new frames belong together. -/
theorem newFrame (bindings : b.Paired c σ b') : (σ.newFrame p p' b b').Sound c := by
  have le : σ.LE (σ.newFrame p p' b b') := le_newFrame
  have old {g g' : FrameId} (together : σ.frames g g') :
      g ≠ σ.left.frames.size ∧ g' ≠ σ.right.frames.size :=
    ⟨Nat.ne_of_lt (sound.exists_ g g' together).1, Nat.ne_of_lt (sound.exists_ g g' together).2⟩
  refine ⟨.inl sound.global, fun g g' together => ?_, fun f f' g g' together together' => ?_,
    fun g g' together y => ?_, sound.instances, fun a y => ?_, sound.objectExists,
      sound.objectUnique⟩
  · change g < (σ.left.newFrame (some p) b).2.frames.size ∧
      g' < (σ.right.newFrame (some p') b').2.frames.size
    rw [Heap.size_newFrame, Heap.size_newFrame]
    rcases together with together | ⟨rfl, rfl⟩
    · obtain ⟨older, older'⟩ := sound.exists_ g g' together
      exact ⟨Nat.lt_succ_of_lt older, Nat.lt_succ_of_lt older'⟩
    · exact ⟨Nat.lt_succ_self _, Nat.lt_succ_self _⟩
  · rcases together with together | ⟨rfl, rfl⟩ <;> rcases together' with together' | ⟨rfl, rfl⟩
    · exact sound.unique f f' g g' together together'
    · exact iff_of_false (old together).1 (old together).2
    · exact iff_of_false (old together').1.symm (old together').2.symm
    · exact iff_of_true rfl rfl
  · change Option.Rel _ ((σ.left.newFrame (some p) b).2.binding? g y)
      ((σ.right.newFrame (some p') b').2.binding? g' y)
    rw [Heap.binding?_newFrame, Heap.binding?_newFrame]
    rcases together with together | ⟨rfl, rfl⟩
    · rw [if_neg (old together).1, if_neg (old together).2]
      exact rel_mono (fun _ _ h => h.mono le) (sound.binding g g' together y)
    · rw [if_pos rfl, if_pos rfl]
      exact bindings.mono le y
  · exact rel_mono (fun _ _ h => h.mono le) (sound.field a y)

omit sound in
/-- The new frames are those of places in a scope that both runs enter. -/
theorem around_newFrame {q q' : Position} (around : σ.Around q q' p p') (settled : q.pending = none)
    (settled' : q'.pending = none) (opener opener' : Node) (names : List String) :
    (σ.newFrame p p' b b').Around (q.enter opener names) (q'.enter opener' names)
      σ.left.frames.size σ.right.frames.size := by
  refine (around.mono le_newFrame).enter settled settled' opener opener' names ?_ ?_
    (.inr ⟨rfl, rfl⟩) ?_ ?_
  · change (σ.left.newFrame (some p) b).2.parent? _ = _
    rw [Heap.parent?_newFrame, if_pos rfl, Option.filter_some,
      if_pos (decide_eq_true around.exists_)]
  · change (σ.right.newFrame (some p') b').2.parent? _ = _
    rw [Heap.parent?_newFrame, if_pos rfl, Option.filter_some,
      if_pos (decide_eq_true around.exists')]
  · exact Nat.lt_of_lt_of_eq (Nat.lt_succ_self _) Heap.size_newFrame.symm
  · exact Nat.lt_of_lt_of_eq (Nat.lt_succ_self _) Heap.size_newFrame.symm

theorem newInstance : σ.newInstance.Sound c := by
  have le : σ.LE σ.newInstance := le_newInstance
  refine ⟨sound.global, sound.exists_, sound.unique, fun g g' together y => ?_, ?_, fun a y => ?_,
    sound.objectExists, sound.objectUnique⟩
  · exact rel_mono (fun _ _ h => h.mono le) (sound.binding g g' together y)
  · change (σ.right.fields.push ∅).size = (σ.left.fields.push ∅).size
    rw [Array.size_push, Array.size_push, sound.instances]
  · change Option.Rel _ (σ.left.newInstance.2.field? a y) (σ.right.newInstance.2.field? a y)
    rw [Heap.field?_newInstance, Heap.field?_newInstance]
    exact rel_mono (fun _ _ h => h.mono le) (sound.field a y)

/-- The new objects belong together. -/
theorem newIdentity : σ.newIdentity.Sound c where
  global := sound.global
  exists_ := sound.exists_
  unique := sound.unique
  binding g g' together y := rel_mono (fun _ _ h => h.mono le_newIdentity)
    (sound.binding g g' together y)
  instances := sound.instances
  field a y := rel_mono (fun _ _ h => h.mono le_newIdentity) (sound.field a y)
  objectExists n n' together := by
    change n < σ.left.nextIdentity + 1 ∧ n' < σ.right.nextIdentity + 1
    rcases together with together | ⟨rfl, rfl⟩
    · obtain ⟨older, older'⟩ := sound.objectExists n n' together
      exact ⟨Nat.lt_succ_of_lt older, Nat.lt_succ_of_lt older'⟩
    · exact ⟨Nat.lt_succ_self _, Nat.lt_succ_self _⟩
  objectUnique n n' m m' together together' := by
    rcases together with together | ⟨rfl, rfl⟩ <;> rcases together' with together' | ⟨rfl, rfl⟩
    · exact sound.objectUnique n n' m m' together together'
    · obtain ⟨older, older'⟩ := sound.objectExists n n' together
      exact iff_of_false (Nat.ne_of_lt older) (Nat.ne_of_lt older')
    · obtain ⟨older, older'⟩ := sound.objectExists m m' together'
      exact iff_of_false (Nat.ne_of_gt older) (Nat.ne_of_gt older')
    · exact iff_of_true rfl rfl

theorem setField (value : v.Paired c σ v') : (σ.setField a x v v').Sound c := by
  have le : σ.LE (σ.setField a x v v') := le_setField
  refine ⟨sound.global, sound.exists_, sound.unique, fun g g' together y => ?_, ?_,
    fun d y => ?_, sound.objectExists, sound.objectUnique⟩
  · exact rel_mono (fun _ _ h => h.mono le) (sound.binding g g' together y)
  · change (σ.right.fields.modify a _).size = (σ.left.fields.modify a _).size
    rw [Array.size_modify, Array.size_modify, sound.instances]
  · change Option.Rel _ ((σ.left.setField a x v).field? d y) ((σ.right.setField a x v').field? d y)
    rw [Heap.field?_setField, Heap.field?_setField, sound.instances]
    split
    · exact .some (value.mono le)
    · exact rel_mono (fun _ _ h => h.mono le) (sound.field d y)

/-! ### Looking up -/

/-- A frame binds the names that the frame binds to which it belongs. -/
theorem binds_eq (together : σ.frames f f') (x : String) :
    σ.right.binds f' x = σ.left.binds f x := by
  have binding := sound.binding f f' together x
  rw [Heap.binds_eq_isSome, Heap.binds_eq_isSome]
  generalize σ.left.binding? f x = o at binding
  generalize σ.right.binding? f' x = o' at binding
  cases binding <;> rfl

/-- Global names have paired values. -/
theorem get (t : Token) :
    Agreed (Value.Paired c σ) (σ.left.get globalFrame t) (σ.right.get globalFrame t) := by
  have binding := sound.binding _ _ sound.global t.lexeme
  rw [Heap.get_globalFrame, Heap.get_globalFrame]
  generalize σ.left.binding? globalFrame t.lexeme = o at binding
  generalize σ.right.binding? globalFrame t.lexeme = o' at binding
  cases binding with
  | none => exact .error _
  | some value => exact .ok value

theorem target (t : Token) :
    Agreed σ.frames (σ.left.target globalFrame t) (σ.right.target globalFrame t) := by
  rw [Heap.target_globalFrame, Heap.target_globalFrame, sound.binds_eq sound.global]
  split
  · exact .ok sound.global
  · exact .error _

/-- So have names at corresponding distances. -/
theorem getAt {d d' : Nat} (meets : σ.Meets x f f' d d') (line : Nat) :
    Agreed (Value.Paired c σ) (σ.left.getAt f d x line) (σ.right.getAt f' d' x line) := by
  obtain ⟨g, g', found, found', together, same⟩ := meets
  have binding := sound.binding g g' together x
  unfold Heap.getAt
  rw [found, found', Option.bind_some, Option.bind_some]
  generalize σ.left.binding? g x = o at binding same
  generalize σ.right.binding? g' x = o' at binding
  cases binding with
  | none =>
    rcases same with rfl | bound
    · exact .error _
    · cases bound
  | some value => exact .ok value

theorem targetAt {d d' : Nat} {t : Token} (meets : σ.Meets t.lexeme f f' d d') :
    Agreed σ.frames (σ.left.targetAt f d t) (σ.right.targetAt f' d' t) := by
  obtain ⟨g, g', found, found', together, same⟩ := meets
  unfold Heap.targetAt Heap.ownerAt?
  rw [found, found', Option.filter_some, Option.filter_some, sound.binds_eq together,
    Heap.binds_eq_isSome]
  by_cases bound : (σ.left.binding? g t.lexeme).isSome = true
  · rw [if_pos bound, if_pos bound]
    exact .ok together
  · rw [if_neg bound, if_neg bound]
    rw [same.resolve_right bound]
    exact .error _

end Sound

end Scene

/-- A method that is bound to a receiver has its place in the new frame. -/
theorem Closure.Unbound.bound {c : Pairing} {σ : Scene} {k k' : Closure} {b b' : Bindings}
    (h : k.Unbound c σ k') : Closure.Paired c (σ.newFrame k.frame k'.frame b b')
      { k with frame := σ.left.frames.size } { k' with frame := σ.right.frames.size } := by
  obtain ⟨p, p', opener, opener', around, settled, settled', fits⟩ := h.place
  exact ⟨.inr ⟨rfl, rfl⟩, h.isInitializer, h.declaration, _, _,
    Scene.Sound.around_newFrame around settled settled' opener opener' ["this"], settled, settled',
    fits⟩

/-! ### Pairs of states -/

/-- States of two runs, and the frames and objects that belong together. Each run has its own table,
and everything else is the same. -/
structure Pair (c : Pairing) where
  frames : FrameId → FrameId → Prop
  objects : Nat → Nat → Prop
  left : Interpreter
  right : Interpreter
  sound : Scene.Sound c ⟨frames, objects, left.heap, right.heap⟩
  table : left.distances = c.table
  table' : right.distances = c.table'
  depth : right.depth = left.depth
  sink : right.sink = left.sink
  clock : right.clock = left.clock
  readings : right.readings = left.readings

namespace Pair

variable {c : Pairing} (j : Pair c) {j' : Pair c} {σ : Scene} {p p' : Position} {o o' : Occurrence}
  {kind : SiteKind}

/-- The heaps of a pair. -/
def scene : Scene :=
  ⟨j.frames, j.objects, j.left.heap, j.right.heap⟩

/-- A pair that comes later, while code runs in the same frames. -/
structure Ahead (j j' : Pair c) : Prop where
  scene : j.scene.LE j'.scene
  frame : j'.left.frame = j.left.frame
  frame' : j'.right.frame = j.right.frame

instance : IsPreorder (Pair c) Ahead where
  refl _ := ⟨.refl _, rfl, rfl⟩
  trans _ _ _ h h' := ⟨h.scene.trans h'.scene, h'.frame.trans h.frame, h'.frame'.trans h.frame'⟩

/-- A pair with other heaps. -/
def onScene (sound : σ.Sound c) : Pair c :=
  { j with
    frames := σ.frames
    objects := σ.objects
    left := { j.left with heap := σ.left }
    right := { j.right with heap := σ.right }
    sound := sound }

/-- A pair in other frames. -/
def inFrames (f f' : FrameId) : Pair c :=
  { j with left := { j.left with frame := f }, right := { j.right with frame := f' } }

theorem ahead_onScene (sound : σ.Sound c) (le : j.scene.LE σ) : j.Ahead (j.onScene sound) :=
  ⟨le, rfl, rfl⟩

/-- Two operations lead to the states of a later pair, with results that are related by `Q`
there. -/
def Becomes {α β : Type} (Q : Pair c → α → β → Prop) (r : α × Interpreter) (r' : β × Interpreter) :
    Prop :=
  ∃ j', j.Ahead j' ∧ r.2 = j'.left ∧ r'.2 = j'.right ∧ Q j' r.1 r'.1

/-- Code runs at corresponding places. -/
abbrev At (p p' : Position) : Prop :=
  j.scene.Around p p' j.left.frame j.right.frame

/-- Code runs at corresponding places at which no name is being declared. -/
structure Standing (p p' : Position) : Prop where
  around : j.At p p'
  settled : p.pending = none
  settled' : p'.pending = none

/-- Code runs at corresponding places in scopes that belong together, so that names can be
declared. -/
structure Level (p p' : Position) : Prop extends Standing j p p' where
  together : j.frames j.left.frame j.right.frame
  local_ : p.layers = [] ↔ p'.layers = []

variable {j}

theorem At.later (h : j.At p p') (ahead : j.Ahead j') : j'.At p p' := by
  unfold At
  rw [ahead.frame, ahead.frame']
  exact h.mono ahead.scene

theorem Standing.later (h : j.Standing p p') (ahead : j.Ahead j') : j'.Standing p p' :=
  ⟨At.later h.around ahead, h.settled, h.settled'⟩

theorem Level.later (h : j.Level p p') (ahead : j.Ahead j') : j'.Level p p' where
  toStanding := h.toStanding.later ahead
  together := by
    rw [ahead.frame, ahead.frame']
    exact ahead.scene.frames _ _ h.together
  local_ := h.local_

/-- Places behind declarations of the same name. -/
theorem Level.declare (h : j.Level p p') (x : String) : j.Level (p.declare x) (p'.declare x) where
  around := h.around.declare h.together h.local_ x
  settled := Position.pending_declare.trans h.settled
  settled' := Position.pending_declare.trans h.settled'
  together := h.together
  local_ := by
    cases isLayers : p.layers with
    | nil =>
      have isLayers' := h.local_.1 isLayers
      rw [Position.declare_top isLayers, Position.declare_top isLayers', isLayers, isLayers']
    | cons layer layers =>
      cases isLayers' : p'.layers with
      | nil => cases isLayers.symm.trans (h.local_.2 isLayers')
      | cons layer' layers' =>
        rw [Position.layers_declare isLayers, Position.layers_declare isLayers']
        exact iff_of_false (List.cons_ne_nil _ _) (List.cons_ne_nil _ _)

/-- Places inside declarations of the same name. -/
theorem Level.await (h : j.Level p p') (x : String) : j.At (p.await x) (p'.await x) :=
  h.around.await h.settled h.settled' h.together h.local_ x

/-- Places behind alike statements. -/
theorem Level.after (h : j.Level p p') {s s' : Stmt} (same : s'.declared? = s.declared?) :
    j.Level (p.after s) (p'.after s') := by
  unfold Position.after
  rw [same]
  cases s.declared? with
  | none => exact h
  | some x => exact h.declare x

/-- Whether a function is around does not matter to names. -/
theorem Level.inFunction (h : j.Level p p') (b b' : Bool) :
    j.Level { p with inFunction := b } { p' with inFunction := b' } :=
  ⟨⟨⟨h.around.exists_, h.around.exists', h.around.meets⟩, h.settled, h.settled'⟩, h.together,
    h.local_⟩

/-- Places in a scope that both runs enter. -/
theorem level_newFrame {f f' : FrameId} {b b' : Bindings}
    (sound : (j.scene.newFrame f f' b b').Sound c) (around : j.scene.Around p p' f f')
    (settled : p.pending = none) (settled' : p'.pending = none) (opener opener' : Node)
    (names : List String) :
    ((j.onScene sound).inFrames j.left.heap.frames.size j.right.heap.frames.size).Level
      (p.enter opener names) (p'.enter opener' names) where
  around := Scene.Sound.around_newFrame around settled settled' opener opener' names
  settled := settled
  settled' := settled'
  together := .inr ⟨rfl, rfl⟩
  local_ := iff_of_false (List.cons_ne_nil _ _) (List.cons_ne_nil _ _)

/-! ### Operations -/

section

variable {α β γ δ : Type} {Q : Pair c → α → β → Prop} {P : Pair c → γ → δ → Prop}

/-- The operations change nothing but the heaps. -/
theorem becomes_onScene {r : α × Interpreter} {r' : β × Interpreter} (le : j.scene.LE σ)
    (sound : σ.Sound c) (isLeft : r.2 = (j.onScene sound).left)
    (isRight : r'.2 = (j.onScene sound).right) (related : Q (j.onScene sound) r.1 r'.1) :
    j.Becomes Q r r' :=
  ⟨_, j.ahead_onScene sound le, isLeft, isRight, related⟩

theorem becomes_self {a : α} {b : β} (related : Q j a b) : j.Becomes Q (a, j.left) (b, j.right) :=
  ⟨j, refl_of Ahead j, rfl, rfl, related⟩

/-- Operations one after the other. -/
theorem Becomes.bind {r : α × Interpreter} {r' : β × Interpreter} (h : j.Becomes Q r r')
    (f : α → Interpreter → γ × Interpreter) (f' : β → Interpreter → δ × Interpreter)
    (h' : ∀ j' a b, j.Ahead j' → Q j' a b → j'.Becomes P (f a j'.left) (f' b j'.right)) :
    j.Becomes P (f r.1 r.2) (f' r'.1 r'.2) := by
  obtain ⟨j', ahead, isLeft, isRight, related⟩ := h
  obtain ⟨j'', ahead', rest⟩ := h' j' r.1 r'.1 ahead related
  rw [isLeft, isRight]
  exact ⟨j'', trans_of Ahead ahead ahead', rest⟩

theorem Becomes.map {r : α × Interpreter} {r' : β × Interpreter} (h : j.Becomes Q r r')
    (f : α → γ) (f' : β → δ) (h' : ∀ j' a b, Q j' a b → P j' (f a) (f' b)) :
    j.Becomes P (f r.1, r.2) (f' r'.1, r'.2) :=
  h.bind (fun a i => (f a, i)) (fun b i => (f' b, i)) fun j' a b _ related =>
    becomes_self (h' j' a b related)

variable {k k' : Closure} {l l' : Class} {v v' : Value} {a : Nat} {x : String}

theorem newInstance (h : l.Paired c j.scene l') :
    j.Becomes (fun j' v v' => v.Paired c j'.scene v') (j.left.newInstance l)
      (j.right.newInstance l') := by
  refine becomes_onScene Scene.le_newInstance j.sound.newInstance rfl rfl ?_
  change Value.Paired c _ (.instance_ j.left.heap.fields.size l)
    (.instance_ j.right.heap.fields.size l')
  rw [j.sound.instances]
  exact .instance_ _ (h.mono Scene.le_newInstance)

theorem newFunction (closure : k.Paired c j.scene k') :
    j.Becomes (fun j' v v' => v.Paired c j'.scene v') (j.left.newFunction k)
      (j.right.newFunction k') := by
  exact becomes_onScene Scene.le_newIdentity j.sound.newIdentity rfl rfl
    (.function (.inr ⟨rfl, rfl⟩) (closure.mono Scene.le_newIdentity))

theorem bindClosure (method : k.Unbound c j.scene k') (receiver : v.Paired c j.scene v') :
    j.Becomes (fun j' k k' => k.Paired c j'.scene k') (j.left.bindClosure k v)
      (j.right.bindClosure k' v') :=
  becomes_onScene Scene.le_newFrame
    (j.sound.newFrame (Bindings.paired_empty.insert "this" receiver)) rfl rfl method.bound

theorem bindMethod (method : k.Unbound c j.scene k') (receiver : v.Paired c j.scene v') :
    j.Becomes (fun j' v v' => v.Paired c j'.scene v') (j.left.bindMethod k v)
      (j.right.bindMethod k' v') :=
  (bindClosure method receiver).bind (fun k i => i.newFunction k) (fun k' i => i.newFunction k')
    fun _ _ _ _ closure => newFunction closure

theorem property (h : l.Paired c j.scene l') (t : Token) :
    j.Becomes (fun j' => Agreed (Value.Paired c j'.scene)) (j.left.property a l t)
      (j.right.property a l' t) := by
  unfold Interpreter.property
  have field : Option.Rel (Value.Paired c j.scene) (j.left.heap.field? a t.lexeme)
    (j.right.heap.field? a t.lexeme) := j.sound.field a t.lexeme
  have method := h.findMethod t.lexeme
  generalize j.left.heap.field? a t.lexeme = o at field
  generalize j.right.heap.field? a t.lexeme = o' at field
  cases field with
  | some value => exact becomes_self (.ok value)
  | none =>
    generalize l.findMethod? t.lexeme = m at method
    generalize l'.findMethod? t.lexeme = m' at method
    cases method with
    | some method =>
      exact (bindMethod method (.instance_ a h)).map Except.ok Except.ok fun _ _ _ => .ok
    | none => exact becomes_self (.error _)

theorem write (text : String) :
    j.Becomes (fun _ => Eq) (j.left.write text) (j.right.write text) := by
  refine ⟨{ j with
    left := (j.left.write text).2
    right := (j.right.write text).2
    sink := ?_ }, ⟨.refl _, rfl, rfl⟩, rfl, rfl, ?_⟩
  · exact congrArg (fun sink : Sink => (sink.write text).2) j.sink
  · exact congrArg (fun sink : Sink => (sink.write text).1) j.sink.symm

theorem flush : j.Becomes (fun _ => Eq) j.left.flush j.right.flush := by
  refine ⟨{ j with
    left := j.left.flush.2
    right := j.right.flush.2
    sink := ?_ }, ⟨.refl _, rfl, rfl⟩, rfl, rfl, ?_⟩
  · exact congrArg (fun sink : Sink => sink.flush.2) j.sink
  · exact congrArg (fun sink : Sink => sink.flush.1) j.sink.symm

theorem readClock (line : Nat) :
    j.Becomes (fun j' => Agreed (Value.Paired c j'.scene)) (j.left.readClock line)
      (j.right.readClock line) := by
  have values : Agreed (Value.Paired c j.scene) (j.left.readClock line).1
      (j.right.readClock line).1 := by
    unfold Interpreter.readClock
    rw [j.clock, j.readings]
    cases j.left.clock j.left.readings with
    | ok seconds => exact .ok (.number seconds)
    | error reason => exact .error _
  exact ⟨{ j with
    left := (j.left.readClock line).2
    right := (j.right.readClock line).2
    readings := congrArg (· + 1) j.readings }, ⟨.refl _, rfl, rfl⟩, rfl, rfl, values⟩

end

/-! ### Names -/

/-- Occurrences at corresponding places have paired values. -/
theorem lookUp (h : j.At p p') (name : o'.name = o.name) (known : Recorded c.table p kind o)
    (known' : Recorded c.table' p' kind o') :
    Agreed (Value.Paired c j.scene) (j.left.lookUp o) (j.right.lookUp o') := by
  have meets := h.meets o.name.lexeme
  unfold Interpreter.lookUp
  rw [j.table, j.table', known, known', name]
  generalize p.distance? o.name.lexeme = d at meets
  generalize p'.distance? o.name.lexeme = d' at meets
  cases meets with
  | none => exact j.sound.get o.name
  | some meets => exact j.sound.getAt meets o.name.line

/-- An assignment to them takes effect in frames that belong together. -/
theorem target (h : j.At p p') (name : o'.name = o.name) (known : Recorded c.table p kind o)
    (known' : Recorded c.table' p' kind o') :
    Agreed j.frames (j.left.target o) (j.right.target o') := by
  have meets := h.meets o.name.lexeme
  unfold Interpreter.target
  rw [j.table, j.table', known, known', name]
  generalize p.distance? o.name.lexeme = d at meets
  generalize p'.distance? o.name.lexeme = d' at meets
  cases meets with
  | none => exact j.sound.target o.name
  | some meets => exact j.sound.targetAt meets

end Pair

end Lox
