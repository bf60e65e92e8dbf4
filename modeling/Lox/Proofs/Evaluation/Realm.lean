import Lox.Proofs.Evaluation.Output
import Lox.Proofs.Heap
import Lox.Proofs.Tree.Contents
import Lox.Proofs.Value

/-!
# Realms

A realm is a part of the heap, together with some code, that running code cannot leave: if all that
the frames and objects of the realm hold belongs to the realm, then so does all that can be read by
way of them, and what is made or written there leaves the rest of the heap as it was. Frames and
objects that do not exist yet count as part of the realm.

## Main definitions

* `Class.Provides`: a class has a method, or inherits it.
* `Realm`: some frames, some instances, and some code.
* `Value.Within`, `Heap.Within`: a value refers to, and a heap leads to, nothing outside the realm.
* `Realm.Since`: a state that comes after another one while code of the realm runs.

## Main results

* `Heap.Within.getAt`, `Heap.Within.get`, `Heap.Within.targetAt`, `Heap.Within.target`: names lead
  to what is in the realm.
* `Realm.Since.define`, `Realm.Since.newFrame` and the others: the operations of running code.
-/

namespace Lox

/-- A class declares a method, or inherits it. -/
inductive Class.Provides : Class → Closure → Prop
  | own {c : Class} {name : String} {m : Closure} (found : c.methods[name]? = some m) : Provides c m
  | inherited {c c' : Class} {m : Closure} (superclass : c.superclass = some c')
      (provided : Provides c' m) : Provides c m

theorem Class.provides_of_findMethod? {name : String} {m : Closure} :
    ∀ {c : Class}, c.findMethod? name = some m → c.Provides m
  | ⟨_, _, none, _⟩, found => .own found
  | ⟨identity, className, some superclass, methods⟩, found => by
    rw [findMethod?] at found
    cases isOwn : methods[name]? with
    | some own =>
      rw [isOwn] at found
      cases found
      exact .own isOwn
    | none =>
      rw [isOwn] at found
      exact .inherited rfl (provides_of_findMethod? (c := superclass) found)

/-- Some frames, the global one among them, some instances, and some statements with all that they
contain. -/
structure Realm where
  frame : FrameId → Prop
  instance_ : Nat → Prop
  code : Stmt → Prop
  globals : frame globalFrame
  contents : ∀ s s', s.Contains s' → code s → code s'

variable {R : Realm}

/-! ### Values -/

variable (R) in
/-- A function of the realm: its code and its frame belong to it. -/
structure Closure.Within (c : Closure) : Prop where
  frame : R.frame c.frame
  body : ∀ s ∈ c.declaration.body, R.code s

variable (R) in
/-- A class all of whose methods belong to the realm. -/
def Class.Within (c : Class) : Prop :=
  ∀ m, c.Provides m → m.Within R

variable (R) in
/-- A value that refers to nothing outside the realm. -/
def Value.Within : Value → Prop
  | .function _ c => c.Within R
  | .classObject c => c.Within R
  | .instance_ address c => R.instance_ address ∧ c.Within R
  | _ => True

theorem Value.Plain.within {v : Value} (h : v.Plain) : v.Within R := by
  cases h <;> trivial

/-- A method that a class of the realm finds belongs to the realm. -/
theorem Class.Within.findMethod? {c : Class} (h : c.Within R) {name : String} {m : Closure}
    (found : c.findMethod? name = some m) : m.Within R :=
  h m (Class.provides_of_findMethod? found)

/-! ### Heaps -/

variable (R) in
/-- What the frames and instances of the realm hold belongs to the realm, and so does all that does
not exist yet. -/
structure Heap.Within (heap : Heap) : Prop where
  newFrame : ∀ f, heap.frames.size ≤ f → R.frame f
  newInstance : ∀ a, heap.fields.size ≤ a → R.instance_ a
  parent : ∀ f p, R.frame f → heap.parent? f = some p → R.frame p
  binding : ∀ f x v, R.frame f → heap.binding? f x = some v → v.Within R
  field : ∀ a x v, R.instance_ a → heap.field? a x = some v → v.Within R

namespace Heap

variable {heap : Heap} {f g : FrameId} {a : Nat} {x : String} {v : Value} {b : Bindings}
  {t : Token}

namespace Within

variable (h : heap.Within R)

include h

theorem ancestor? {distance : Nat} (inside : R.frame f)
    (found : heap.ancestor? f distance = some g) : R.frame g := by
  induction distance generalizing f with
  | zero =>
    cases found
    exact inside
  | succ distance ih =>
    rw [Heap.ancestor?] at found
    split at found
    · next isParent => exact ih (h.parent f _ inside isParent) found
    · cases found

theorem owner? (inside : R.frame f) (found : heap.owner? f x = some g) : R.frame g := by
  induction f using Nat.strongRecOn with
  | ind f ih =>
    cases isValue : heap.binding? f x with
    | some v =>
      rw [owner?_eq_self isValue] at found
      cases found
      exact inside
    | none =>
      cases isParent : heap.parent? f with
      | some p =>
        rw [owner?_eq_parent isValue isParent] at found
        exact ih p (lt_of_parent? isParent) (h.parent f p inside isParent) found
      | none =>
        rw [owner?_eq_none isValue isParent] at found
        cases found

theorem getAt {distance line : Nat} (inside : R.frame f)
    (found : heap.getAt f distance x line = .ok v) : v.Within R := by
  obtain ⟨g, isAncestor, isValue⟩ := exists_of_getAt found
  exact h.binding g x v (h.ancestor? inside isAncestor) isValue

theorem get (inside : R.frame f) (found : heap.get f t = .ok v) : v.Within R := by
  obtain ⟨g, isOwner, isValue⟩ := exists_of_get found
  exact h.binding g t.lexeme v (h.owner? inside isOwner) isValue

theorem targetAt {distance : Nat} (inside : R.frame f)
    (found : heap.targetAt f distance t = .ok g) : R.frame g := by
  unfold Heap.targetAt at found
  split at found
  · next isOwner =>
    cases found
    exact h.ancestor? inside (Option.filter_eq_some_iff.1 isOwner).1
  · cases found

theorem target (inside : R.frame f) (found : heap.target f t = .ok g) : R.frame g := by
  unfold Heap.target at found
  split at found
  · next isOwner =>
    cases found
    exact h.owner? inside isOwner
  · cases found

end Within

variable (R) in
/-- Nothing outside the realm has changed, and frames have kept their parents. -/
structure Changes (heap heap' : Heap) : Prop where
  frames : ∀ f, ¬ R.frame f → heap'.frames[f]? = heap.frames[f]?
  fields : ∀ a, ¬ R.instance_ a → heap'.fields[a]? = heap.fields[a]?
  size_le : heap.frames.size ≤ heap'.frames.size
  parent : ∀ f, f < heap.frames.size → heap'.parent? f = heap.parent? f

theorem Changes.refl (heap : Heap) : Changes R heap heap :=
  ⟨fun _ _ => rfl, fun _ _ => rfl, Nat.le_refl _, fun _ _ => rfl⟩

theorem Changes.trans {h₁ h₂ h₃ : Heap} (first : Changes R h₁ h₂) (second : Changes R h₂ h₃) :
    Changes R h₁ h₃ where
  frames f outside := (second.frames f outside).trans (first.frames f outside)
  fields a outside := (second.fields a outside).trans (first.fields a outside)
  size_le := Nat.le_trans first.size_le second.size_le
  parent f older :=
    (second.parent f (Nat.lt_of_lt_of_le older first.size_le)).trans (first.parent f older)

/-! ### What running code does to a heap -/

theorem within_define (h : heap.Within R) (value : v.Within R) : (heap.define f x v).Within R where
  newFrame g new := h.newFrame g (size_define ▸ new)
  newInstance := h.newInstance
  parent g p inside isParent := h.parent g p inside (parent?_define ▸ isParent)
  binding g y w inside isValue := by
    by_cases exists_ : f < heap.frames.size
    · rw [binding?_define exists_] at isValue
      split at isValue
      · cases isValue
        exact value
      · exact h.binding g y w inside isValue
    · rw [binding?_define_of_size_le (Nat.le_of_not_lt exists_)] at isValue
      exact h.binding g y w inside isValue
  field := h.field

theorem changes_define (inside : R.frame f) : Changes R heap (heap.define f x v) where
  frames g outside := by
    have other : f ≠ g := fun same => outside (same ▸ inside)
    simp only [define, Array.getElem?_modify, if_neg other]
  fields _ _ := rfl
  size_le := Nat.le_of_eq size_define.symm
  parent _ _ := parent?_define

theorem within_newFrame (h : heap.Within R) (inside : R.frame f)
    (bindings : ∀ (x : String) (v : Value), b[x]? = some v → v.Within R) :
    (heap.newFrame (some f) b).2.Within R where
  newFrame g new := by
    rw [size_newFrame] at new
    exact h.newFrame g (Nat.le_of_succ_le new)
  newInstance := h.newInstance
  parent g p inside' isParent := by
    rw [parent?_newFrame] at isParent
    split at isParent
    · cases (Option.filter_eq_some_iff.1 isParent).1
      exact inside
    · exact h.parent g p inside' isParent
  binding g y w inside' isValue := by
    rw [binding?_newFrame] at isValue
    split at isValue
    · exact bindings y w isValue
    · exact h.binding g y w inside' isValue
  field := h.field

theorem changes_newFrame (h : heap.Within R) {p : Option FrameId} :
    Changes R heap (heap.newFrame p b).2 where
  frames g outside := by
    have other : g ≠ heap.frames.size := fun same => outside (h.newFrame g (Nat.le_of_eq same.symm))
    simp only [Heap.newFrame, Array.getElem?_push, if_neg other]
  fields _ _ := rfl
  size_le := Nat.le_of_lt (Nat.lt_of_lt_of_eq (Nat.lt_succ_self _) size_newFrame.symm)
  parent g older := by rw [parent?_newFrame, if_neg (Nat.ne_of_lt older)]

theorem within_newInstance (h : heap.Within R) : heap.newInstance.2.Within R where
  newFrame := h.newFrame
  newInstance a new := h.newInstance a (by
    simp only [Heap.newInstance, Array.size_push] at new
    exact Nat.le_of_succ_le new)
  parent := h.parent
  binding := h.binding
  field a x v inside isValue := h.field a x v inside (field?_newInstance ▸ isValue)

theorem changes_newInstance (h : heap.Within R) : Changes R heap heap.newInstance.2 where
  frames _ _ := rfl
  fields a outside := by
    have other : a ≠ heap.fields.size :=
      fun same => outside (h.newInstance a (Nat.le_of_eq same.symm))
    simp only [Heap.newInstance, Array.getElem?_push, if_neg other]
  size_le := Nat.le_refl _
  parent _ _ := rfl

theorem within_setField (h : heap.Within R) (value : v.Within R) :
    (heap.setField a x v).Within R where
  newFrame := h.newFrame
  newInstance c new := h.newInstance c (by
    simp only [setField, Array.size_modify] at new
    exact new)
  parent := h.parent
  binding := h.binding
  field c y w inside isValue := by
    rw [field?_setField] at isValue
    split at isValue
    · cases isValue
      exact value
    · exact h.field c y w inside isValue

theorem changes_setField (inside : R.instance_ a) : Changes R heap (heap.setField a x v) where
  frames _ _ := rfl
  fields c outside := by
    have other : a ≠ c := fun same => outside (same ▸ inside)
    simp only [setField, Array.getElem?_modify, if_neg other]
  size_le := Nat.le_refl _
  parent _ _ := rfl

end Heap

/-! ### States -/

/-- A state of the run that comes after another one, with code running in a frame and with so many
calls in progress: the heap is within the realm, nothing outside the realm has changed, and the sink
has only been written to and flushed. -/
structure Realm.Since (R : Realm) (i : Interpreter) (f : FrameId) (d : Nat) (j : Interpreter) :
    Prop where
  heap : j.heap.Within R
  changes : Heap.Changes R i.heap j.heap
  frame : j.frame = f
  depth : j.depth = d
  sink : i.sink.Precedes j.sink

namespace Realm.Since

variable {i j k : Interpreter} {f g : FrameId} {d n : Nat} {x : String} {v : Value} {b : Bindings}

theorem refl (heap : i.heap.Within R) : R.Since i i.frame i.depth i :=
  ⟨heap, .refl _, rfl, rfl, Sink.Precedes.refl _⟩

theorem trans (first : R.Since i f d j) (second : R.Since j g n k) : R.Since i g n k :=
  ⟨second.heap, first.changes.trans second.changes, second.frame, second.depth,
    first.sink.trans second.sink⟩

variable (h : R.Since i f d j)

include h

/-- The same state with code running in another frame. -/
theorem inFrame (g : FrameId) : R.Since i g d { j with frame := g } :=
  { h with frame := rfl }

/-- The same state with another number of calls in progress. -/
theorem atDepth (n : Nat) : R.Since i f n { j with depth := n } :=
  { h with depth := rfl }

theorem define (inside : R.frame g) (value : v.Within R) : R.Since i f d (j.define g x v) :=
  { h with
    heap := Heap.within_define h.heap value
    changes := h.changes.trans (Heap.changes_define inside) }

theorem newFrame (inside : R.frame g)
    (bindings : ∀ (x : String) (v : Value), b[x]? = some v → v.Within R) :
    R.frame (j.newFrame g b).1 ∧ R.Since i f d (j.newFrame g b).2 :=
  ⟨h.heap.newFrame _ (Nat.le_refl _),
    { h with
      heap := Heap.within_newFrame h.heap inside bindings
      changes := h.changes.trans (Heap.changes_newFrame h.heap) }⟩

theorem newIdentity : R.Since i f d j.newIdentity.2 :=
  { h with
    heap := ⟨h.heap.newFrame, h.heap.newInstance, h.heap.parent, h.heap.binding, h.heap.field⟩
    changes := ⟨h.changes.frames, h.changes.fields, h.changes.size_le, h.changes.parent⟩ }

theorem newInstance {c : Class} (isClass : c.Within R) :
    (j.newInstance c).1.Within R ∧ R.Since i f d (j.newInstance c).2 :=
  ⟨⟨h.heap.newInstance _ (Nat.le_refl _), isClass⟩,
    { h with
      heap := Heap.within_newInstance h.heap
      changes := h.changes.trans (Heap.changes_newInstance h.heap) }⟩

theorem setField {a : Nat} (inside : R.instance_ a) (value : v.Within R) :
    R.Since i f d (j.setField a x v) :=
  { h with
    heap := Heap.within_setField h.heap value
    changes := h.changes.trans (Heap.changes_setField inside) }

theorem newFunction {c : Closure} (closure : c.Within R) :
    (j.newFunction c).1.Within R ∧ R.Since i f d (j.newFunction c).2 :=
  ⟨closure, h.newIdentity⟩

theorem bindClosure {m : Closure} (method : m.Within R) (receiver : v.Within R) :
    (j.bindClosure m v).1.Within R ∧ R.Since i f d (j.bindClosure m v).2 := by
  obtain ⟨inside, since⟩ := h.newFrame (b := (∅ : Bindings).insert "this" v) method.frame
    fun x w isValue => by
      obtain ⟨-, rfl⟩ := Bindings.of_getElem?_single isValue
      exact receiver
  exact ⟨⟨inside, method.body⟩, since⟩

theorem bindMethod {m : Closure} (method : m.Within R) (receiver : v.Within R) :
    (j.bindMethod m v).1.Within R ∧ R.Since i f d (j.bindMethod m v).2 := by
  obtain ⟨closure, since⟩ := h.bindClosure method receiver
  exact since.newFunction closure

/-- A property of an instance of the realm belongs to the realm. -/
theorem property {a : Nat} {c : Class} (inside : R.instance_ a) (isClass : c.Within R)
    (name : Token) :
    (∀ v, (j.property a c name).1 = .ok v → v.Within R) ∧
      R.Since i f d (j.property a c name).2 := by
  unfold Interpreter.property
  split
  · next isField =>
    exact ⟨fun v isValue => by cases isValue; exact h.heap.field a name.lexeme _ inside isField, h⟩
  · split
    · next isMethod =>
      obtain ⟨value, since⟩ :=
        h.bindMethod (v := .instance_ a c) (isClass.findMethod? isMethod) ⟨inside, isClass⟩
      exact ⟨fun v isValue => by cases isValue; exact value, since⟩
    · exact ⟨nofun, h⟩

theorem write (text : String) : R.Since i f d (j.write text).2 :=
  { h with sink := h.sink.trans (j.precedes_write text) }

theorem flush : R.Since i f d j.flush.2 :=
  { h with sink := h.sink.trans j.precedes_flush }

theorem readClock (line : Nat) : (∀ v, (j.readClock line).1 = .ok v → v.Within R) ∧
    R.Since i f d (j.readClock line).2 := by
  refine ⟨fun v isValue => ?_, { h with }⟩
  obtain ⟨seconds, rfl⟩ := Interpreter.exists_of_readClock isValue
  trivial

/-- What an occurrence of a name has for a value belongs to the realm. -/
theorem lookUp (inside : R.frame f) {o : Occurrence} (found : j.lookUp o = .ok v) :
    v.Within R := by
  unfold Interpreter.lookUp at found
  split at found
  · exact h.heap.getAt (h.frame ▸ inside) found
  · exact h.heap.get R.globals found

/-- An assignment takes effect in a frame of the realm. -/
theorem target (inside : R.frame f) {o : Occurrence} (found : j.target o = .ok g) :
    R.frame g := by
  unfold Interpreter.target at found
  split at found
  · exact h.heap.targetAt (h.frame ▸ inside) found
  · exact h.heap.target R.globals found

end Realm.Since

end Lox
