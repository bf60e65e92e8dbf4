import Lox.Proofs.Alike.Relabel
import Lox.Proofs.Lexical.Coupling
import Lox.Proofs.Pair.State
import Lox.Proofs.Session.Loading

/-!
# A state beside itself

Two runs often begin in states that differ in nothing but their tables. All values of a state that a
session reaches are then paired with themselves, if both tables hold the distances of the
occurrences that were read so far.

## Main definitions

* `Heap.Located`: a frame around a place, with frames that bind the names of the place.
* `Scene.alone`: a heap beside itself.
* `Pair.alone`: a state beside itself, with two tables.

## Main results

* `World.Around.located`: the frames around a place bind its names.
* `World.sound_alone`: a state of a session can stand beside itself.
-/

namespace Lox

open Scope

/-- A frame exists, and at the distance of every name of a place stands a frame that binds it. -/
structure Heap.Located (heap : Heap) (p : Position) (f : FrameId) : Prop where
  exists_ : f < heap.frames.size
  bound : ∀ x d, p.distance? x = some d →
    ∃ g, heap.ancestor? f d = some g ∧ (heap.binding? g x).isSome = true

/-- A heap beside itself. -/
def Scene.alone (heap : Heap) : Scene where
  frames f f' := f' = f ∧ f < heap.frames.size
  objects n n' := n' = n ∧ n < heap.nextIdentity
  left := heap
  right := heap

variable {heap : Heap} {p : Position} {f : FrameId}

theorem Heap.Located.around (h : heap.Located p f) : (Scene.alone heap).Around p p f f where
  exists_ := h.exists_
  exists' := h.exists_
  meets x := by
    cases isDistance : p.distance? x with
    | none => exact .none
    | some d =>
      obtain ⟨g, found, bound⟩ := h.bound x d isDistance
      exact .some ⟨g, g, found, found, ⟨rfl, Heap.lt_size_of_binding? bound⟩, .inl rfl⟩

/-! ### Functions are like themselves -/

theorem FunctionDecl.alike_refl (d : FunctionDecl) : d.Alike .renumbering d :=
  FunctionDecl.alike_of_unnumbered rfl

namespace World

variable {w : World} {h h' : Heap} {c : Pairing} {g : FrameId}

/-- The frames around a place bind its names. -/
theorem Around.located (around : Around w f g p.layers) (same : SameHeap w h h') (sound : w.Sound)
    (settled : p.pending = none) : h.Located p f where
  exists_ := same.size ▸ (around.inside sound).1
  bound x d isDistance := by
    rw [Position.distance?_of_settled settled] at isDistance
    obtain ⟨v, _, f₀, isValue, -, -, found, -⟩ :=
      around.getAt same sound isDistance 0 0 .identifier
    obtain ⟨f₁, found', bound⟩ := Heap.exists_of_getAt isValue
    exact ⟨f₁, found', Option.isSome_iff_exists.2 ⟨v, bound⟩⟩

/-- Both tables hold the distances of all occurrences that are known. -/
structure Tabled (w : World) (c : Pairing) : Prop where
  left : ∀ p kind o, w.known p kind o → Recorded c.table p kind o
  right : ∀ p kind o, w.known p kind o → Recorded c.table' p kind o

section

variable (same : SameHeap w h h') (sound : w.Sound) (tabled : w.Tabled c)

include same sound tabled

theorem SameClosure.paired {k k' : Closure} (closure : SameClosure w k k') :
    k.Paired c (.alone h) k := by
  obtain ⟨p, around, settled, fits, -⟩ := closure.place
  have located := around.located same sound settled
  exact ⟨⟨rfl, located.exists_⟩, rfl, k.declaration.alike_refl, p, p, located.around, settled,
    settled,
    fits.mono tabled.left, fits.mono tabled.right⟩

theorem SameMethod.unbound {k k' : Closure} (method : SameMethod w k k') :
    k.Unbound c (.alone h) k := by
  obtain ⟨p, _, _, _, around, settled, -, fits⟩ := method.place
  exact ⟨rfl, k.declaration.alike_refl, p, p, _, _, (around.located same sound settled).around,
    settled,
    settled, fits.mono tabled.left, fits.mono tabled.right⟩

theorem SameMethods.unbound {methods methods' : Std.TreeMap String Closure}
    (table : SameMethods w methods methods') (x : String) :
    Option.Rel (Closure.Unbound c (.alone h)) methods[x]? methods[x]? := by
  rcases rel_cases (table x) with ⟨method, _, found, -, isSame⟩ | ⟨notFound, -⟩
  · rw [found]
    exact .some (isSame.unbound same sound tabled)
  · rw [notFound]
    exact .none

theorem SameClass.paired {k k' : Class} (isSame : SameClass w k k') (present : k.Present h) :
    k.Paired c (.alone h) k := by
  induction isSame with
  | root _ methods =>
    exact .mk ⟨rfl, present.identity _ (Class.mem_chain_self _)⟩ .none
      (methods.unbound same sound tabled)
  | @derived identity name k _ table _ _ _ methods ih =>
    have above : k ∈ (⟨identity, name, some k, table⟩ : Class).chain :=
      Class.superclass_mem_chain (Class.mem_chain_self _) rfl
    exact .mk ⟨rfl, present.identity _ (Class.mem_chain_self _)⟩
      (.some (ih (present.of_mem_chain above)))
      (methods.unbound same sound tabled)

theorem Same.paired {v v' : Value} (isSame : Same w v v') (present : v.Present h) :
    v.Paired c (.alone h) v := by
  cases isSame with
  | function closure => exact .function ⟨rfl, present.1⟩ (closure.paired same sound tabled)
  | classObject isSame => exact .classObject (isSame.paired same sound tabled present)
  | instance_ isSame => exact .instance_ _ (isSame.paired same sound tabled present.2)
  | _ => constructor

end

/-- The value of a name in some frame is related to a value of the lexical evaluator. -/
theorem SameHeap.exists_same (same : SameHeap w h h') {x : String} {v : Value}
    (isValue : h.binding? f x = some v) : ∃ v', Same w v v' := by
  by_cases isGlobal : f = globalFrame
  · subst isGlobal
    rcases rel_cases (same.globals x) with ⟨u, u', isValue', -, isSame⟩ | ⟨unbound, -⟩
    · cases isValue.symm.trans isValue'
      exact ⟨u', isSame⟩
    · cases isValue.symm.trans unbound
  · obtain ⟨g, cell, found, rfl, named⟩ := same.only f x v isGlobal isValue
    obtain ⟨u, u', isValue', -, isSame, -⟩ := same.bound g cell x found named
    cases isValue.symm.trans isValue'
    exact ⟨u', isSame⟩

/-- The heap of a session stands beside itself. -/
theorem sound_alone {s s' : Interpreter} (coherent : Coherent w s s') (rooted : s.Rooted)
    (tabled : w.Tabled c) : (Scene.alone s.heap).Sound c where
  global := ⟨rfl, rooted.heap.global⟩
  exists_ := by
    rintro f _ ⟨rfl, exists_⟩
    exact ⟨exists_, exists_⟩
  unique := by
    rintro f _ g _ ⟨rfl, -⟩ ⟨rfl, -⟩
    exact .rfl
  binding := by
    rintro _ f ⟨rfl, -⟩ x
    change Option.Rel _ (s.heap.binding? f x) (s.heap.binding? f x)
    cases isValue : s.heap.binding? f x with
    | none => exact .none
    | some v =>
      obtain ⟨v', isSame⟩ := coherent.heap.exists_same isValue
      exact .some (isSame.paired coherent.heap coherent.sound tabled
        (rooted.heap.binding _ x v isValue))
  instances := rfl
  field a x := by
    change Option.Rel _ (s.heap.field? a x) (s.heap.field? a x)
    rcases rel_cases (coherent.heap.fields a x) with ⟨v, v', isValue, -, isSame⟩ | ⟨unset, -⟩
    · rw [isValue]
      exact .some (isSame.paired coherent.heap coherent.sound tabled
        (rooted.heap.field a x v isValue))
    · rw [unset]
      exact .none
  objectExists := by
    rintro n _ ⟨rfl, exists_⟩
    exact ⟨exists_, exists_⟩
  objectUnique := by
    rintro n _ m _ ⟨rfl, -⟩ ⟨rfl, -⟩
    exact .rfl

end World

/-- A state beside itself, with two tables. -/
def Pair.alone {c : Pairing} {i : Interpreter} (sound : (Scene.alone i.heap).Sound c)
    (n n' : NodeId) : Pair c where
  frames := (Scene.alone i.heap).frames
  objects := (Scene.alone i.heap).objects
  left := i.retabled n c.table
  right := i.retabled n' c.table'
  sound := sound
  table := rfl
  table' := rfl
  depth := rfl
  sink := rfl
  clock := rfl
  readings := rfl

end Lox
