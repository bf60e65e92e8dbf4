import Lox.Proofs.Heap
import Lox.Proofs.Tree.Formed
import Lox.Proofs.Value

/-!
# Receivers

A method that is bound to an instance lives in a frame of its own, which binds `this` to the
instance. No other frame binds `this` itself, and since `this` cannot be written as the name of
anything, a frame keeps its receiver for good. So a function object tells by its frame whether it is
a bound method, and to which instance it is bound.

A heap is *faithful* if the functions in it are initializers exactly if they are methods that were
declared under the name `init`, and receivers are instances. The operations of running code keep a
heap faithful, and the receivers of its frames.

## Main definitions

* `Heap.receiver?`: the instance to which the methods that live in a frame are bound.
* `Heap.Later`: a heap after another one, with the same receivers.
* `Closure.Kept`, `Closure.Faithful`: methods in classes, and functions as values.
* `Heap.Faithful`, `Interpreter.Faithful`: faithful heaps, and states in which code may run.
* `Interpreter.Before`: a state before another one, while code runs in one frame.

## Main results

* `Value.Faithful.mono`: values stay faithful in later heaps.
* `Interpreter.Faithful.define`, `Interpreter.Faithful.newFrame` and the others: the operations of
  running code.
-/

namespace Lox

/-- The value to which the methods that live in a frame are bound: that of `this` in the frame
itself. -/
def Heap.receiver? (heap : Heap) (f : FrameId) : Option Value :=
  heap.binding? f "this"

theorem Heap.getAt_this {heap : Heap} {f : FrameId} {v : Value} {line : Nat}
    (isReceiver : heap.receiver? f = some v) : heap.getAt f 0 "this" line = .ok v := by
  rw [receiver?] at isReceiver
  rw [getAt, ancestor?, Option.bind_some, isReceiver]

/-- A heap comes after another one: there may be more frames and instances, but the frames that were
there keep their receivers. -/
structure Heap.Later (heap heap' : Heap) : Prop where
  frames : heap.frames.size ≤ heap'.frames.size
  fields : heap.fields.size ≤ heap'.fields.size
  receiver : ∀ f, f < heap.frames.size → heap'.receiver? f = heap.receiver? f

section

variable (heap : Heap)

/-- A method as a class keeps it under a name: it is an initializer exactly if that is `init`. -/
structure Closure.Kept (name : String) (m : Closure) : Prop where
  named : m.name = name
  frame : m.frame < heap.frames.size
  formed : m.declaration.Formed
  isInitializer : m.isInitializer = (name == "init")

/-- A function as a value: it is an initializer exactly if it is bound to a receiver and was
declared under the name `init`. -/
structure Closure.Faithful (c : Closure) : Prop where
  frame : c.frame < heap.frames.size
  formed : c.declaration.Formed
  isInitializer : c.isInitializer = ((heap.receiver? c.frame).isSome && c.name == "init")

/-- All methods that a class has or inherits are kept under their names. -/
def Class.Faithful (c : Class) : Prop :=
  ∀ name m, c.findMethod? name = some m → m.Kept heap name

/-- Functions and classes are faithful, and instances exist. -/
def Value.Faithful : Value → Prop
  | .function _ c => c.Faithful heap
  | .classObject c => c.Faithful heap
  | .instance_ address c => address < heap.fields.size ∧ c.Faithful heap
  | _ => True

/-- All values in the heap are faithful, and receivers are instances. -/
structure Heap.Faithful : Prop where
  binding : ∀ f x v, heap.binding? f x = some v → v.Faithful heap
  field : ∀ a x v, heap.field? a x = some v → v.Faithful heap
  receiver : ∀ f v, heap.receiver? f = some v → ∃ a c, v = .instance_ a c

end

/-! ### Later heaps -/

namespace Heap.Later

variable {heap heap' heap'' : Heap}

theorem refl (heap : Heap) : heap.Later heap :=
  ⟨Nat.le_refl _, Nat.le_refl _, fun _ _ => rfl⟩

theorem trans (h : heap.Later heap') (h' : heap'.Later heap'') : heap.Later heap'' where
  frames := Nat.le_trans h.frames h'.frames
  fields := Nat.le_trans h.fields h'.fields
  receiver f old := (h'.receiver f (Nat.lt_of_lt_of_le old h.frames)).trans (h.receiver f old)

/-- A receiver belongs to a frame that exists, and stays. -/
theorem receiver_eq_some (h : heap.Later heap') {f : FrameId} {v : Value}
    (isReceiver : heap.receiver? f = some v) : heap'.receiver? f = some v := by
  by_cases old : f < heap.frames.size
  · rw [h.receiver f old, isReceiver]
  · rw [receiver?, binding?_eq_none_of_size_le (Nat.le_of_not_lt old)] at isReceiver
    cases isReceiver

end Heap.Later

section

variable {heap heap' : Heap}

theorem Closure.Kept.mono {name : String} {m : Closure} (h : m.Kept heap name)
    (later : heap.Later heap') : m.Kept heap' name :=
  { h with frame := Nat.lt_of_lt_of_le h.frame later.frames }

theorem Closure.Faithful.mono {c : Closure} (h : c.Faithful heap) (later : heap.Later heap') :
    c.Faithful heap' where
  frame := Nat.lt_of_lt_of_le h.frame later.frames
  formed := h.formed
  isInitializer := by rw [later.receiver c.frame h.frame, h.isInitializer]

theorem Class.Faithful.mono {c : Class} (h : c.Faithful heap) (later : heap.Later heap') :
    c.Faithful heap' :=
  fun name m found => (h name m found).mono later

/-- Values stay faithful in later heaps. -/
theorem Value.Faithful.mono {v : Value} (h : v.Faithful heap) (later : heap.Later heap') :
    v.Faithful heap' := by
  cases v with
  | function _ c => exact Closure.Faithful.mono h later
  | classObject c => exact Class.Faithful.mono h later
  | instance_ address c =>
    exact ⟨Nat.lt_of_lt_of_le h.1 later.fields, Class.Faithful.mono h.2 later⟩
  | _ => trivial

end

/-! ### Values -/

theorem Value.Plain.faithful {heap : Heap} {v : Value} (h : v.Plain) : v.Faithful heap := by
  cases h <;> trivial

/-- The methods of a class are its own ones and those that it inherits. -/
theorem Class.faithful_mk {heap : Heap} {identity : Nat} {name : String} {superclass : Option Class}
    {table : Std.TreeMap String Closure} (inherited : ∀ c, superclass = some c → c.Faithful heap)
    (own : ∀ (x : String) (m : Closure), table[x]? = some m → m.Kept heap x) :
    (⟨identity, name, superclass, table⟩ : Class).Faithful heap := by
  intro x m found
  cases superclass with
  | none => exact own x m found
  | some c =>
    rw [findMethod?] at found
    split at found
    · next isOwn =>
      cases found
      exact own x m isOwn
    · exact inherited c rfl x m found

/-! ### What running code does to a heap -/

namespace Heap

variable {heap : Heap} {f g : FrameId} {a : Nat} {x : String} {v : Value} {b : Bindings}
  {p : Option FrameId}

theorem later_define (name : x ≠ "this") : heap.Later (heap.define f x v) where
  frames := Nat.le_of_eq size_define.symm
  fields := Nat.le_refl _
  receiver g _ := by
    by_cases exists_ : f < heap.frames.size
    · rw [receiver?, binding?_define exists_, if_neg fun same => name same.2.symm]
      rfl
    · exact binding?_define_of_size_le (Nat.le_of_not_lt exists_)

theorem later_newFrame : heap.Later (heap.newFrame p b).2 where
  frames := Nat.le_of_lt (Nat.lt_of_lt_of_eq (Nat.lt_succ_self _) size_newFrame.symm)
  fields := Nat.le_refl _
  receiver g old := by rw [receiver?, binding?_newFrame, if_neg (Nat.ne_of_lt old), receiver?]

theorem later_newIdentity : heap.Later heap.newIdentity.2 :=
  ⟨Nat.le_refl _, Nat.le_refl _, fun _ _ => rfl⟩

theorem later_newInstance : heap.Later heap.newInstance.2 where
  frames := Nat.le_refl _
  fields := by
    rw [newInstance, Array.size_push]
    exact Nat.le_succ _
  receiver _ _ := rfl

theorem later_setField : heap.Later (heap.setField a x v) where
  frames := Nat.le_refl _
  fields := Nat.le_of_eq Array.size_modify.symm
  receiver _ _ := rfl

theorem faithful_empty : empty.Faithful where
  binding _ _ _ found := by cases found
  field _ _ _ found := by cases found
  receiver _ _ found := by cases found

namespace Faithful

variable (h : heap.Faithful)

include h

theorem define (name : x ≠ "this") (value : v.Faithful heap) : (heap.define f x v).Faithful where
  binding g y w isValue := by
    refine Value.Faithful.mono ?_ (later_define name)
    by_cases exists_ : f < heap.frames.size
    · rw [binding?_define exists_] at isValue
      split at isValue
      · cases isValue
        exact value
      · exact h.binding g y w isValue
    · rw [binding?_define_of_size_le (Nat.le_of_not_lt exists_)] at isValue
      exact h.binding g y w isValue
  field c y w isValue := (h.field c y w isValue).mono (later_define name)
  receiver g w isReceiver := by
    by_cases exists_ : f < heap.frames.size
    · rw [receiver?, binding?_define exists_, if_neg fun same => name same.2.symm] at isReceiver
      exact h.receiver g w isReceiver
    · rw [receiver?, binding?_define_of_size_le (Nat.le_of_not_lt exists_)] at isReceiver
      exact h.receiver g w isReceiver

theorem newFrame (bindings : ∀ (x : String) (v : Value), b[x]? = some v → v.Faithful heap)
    (receiver : ∀ v, b["this"]? = some v → ∃ a c, v = .instance_ a c) :
    (heap.newFrame p b).2.Faithful where
  binding g y w isValue := by
    refine Value.Faithful.mono ?_ later_newFrame
    rw [binding?_newFrame] at isValue
    split at isValue
    · exact bindings y w isValue
    · exact h.binding g y w isValue
  field c y w isValue := (h.field c y w isValue).mono later_newFrame
  receiver g w isReceiver := by
    rw [receiver?, binding?_newFrame] at isReceiver
    split at isReceiver
    · exact receiver w isReceiver
    · exact h.receiver g w isReceiver

theorem newInstance : heap.newInstance.2.Faithful where
  binding g y w isValue := (h.binding g y w isValue).mono later_newInstance
  field c y w isValue := (h.field c y w (field?_newInstance ▸ isValue)).mono later_newInstance
  receiver := h.receiver

theorem setField (value : v.Faithful heap) : (heap.setField a x v).Faithful where
  binding g y w isValue := (h.binding g y w isValue).mono later_setField
  field c y w isValue := by
    refine Value.Faithful.mono ?_ later_setField
    rw [field?_setField] at isValue
    split at isValue
    · cases isValue
      exact value
    · exact h.field c y w isValue
  receiver := h.receiver

theorem newIdentity : heap.newIdentity.2.Faithful where
  binding g y w isValue := (h.binding g y w isValue).mono later_newIdentity
  field c y w isValue := (h.field c y w isValue).mono later_newIdentity
  receiver := h.receiver

/-- What a name has for a value at a distance is faithful. -/
theorem getAt {distance line : Nat} (found : heap.getAt f distance x line = .ok v) :
    v.Faithful heap := by
  obtain ⟨g, -, isValue⟩ := exists_of_getAt found
  exact h.binding g x v isValue

/-- So is what it has for a value outward. -/
theorem get {t : Token} (found : heap.get f t = .ok v) : v.Faithful heap := by
  obtain ⟨g, -, isValue⟩ := exists_of_get found
  exact h.binding g t.lexeme v isValue

end Faithful

end Heap

/-! ### States -/

namespace Interpreter

/-- A state in which code may run: its heap is faithful, and its frame is not that of a receiver. -/
structure Faithful (i : Interpreter) : Prop where
  heap : i.heap.Faithful
  frame : i.frame < i.heap.frames.size
  plain : i.heap.receiver? i.frame = none

/-- A state comes before another one, while code runs in one frame. -/
structure Before (i j : Interpreter) : Prop where
  faithful : j.Faithful
  later : i.heap.Later j.heap
  frame : j.frame = i.frame

theorem Before.trans {i j k : Interpreter} (h : i.Before j) (h' : j.Before k) : i.Before k :=
  ⟨h'.faithful, h.later.trans h'.later, h'.frame.trans h.frame⟩

namespace Faithful

variable {i j : Interpreter} {f : FrameId} {x : String} {v : Value} {b : Bindings}

variable (h : i.Faithful)

include h

/-- A later heap does not bind `this` in the frame in which code runs. -/
theorem before (heap : j.heap.Faithful) (later : i.heap.Later j.heap) (frame : j.frame = i.frame) :
    i.Before j where
  faithful := {
    heap := heap
    frame := by
      rw [frame]
      exact Nat.lt_of_lt_of_le h.frame later.frames
    plain := by rw [frame, later.receiver i.frame h.frame, h.plain] }
  later := later
  frame := frame

theorem refl : i.Before i :=
  h.before h.heap (.refl _) rfl

/-- The same state with another number of calls in progress. -/
theorem atDepth (n : Nat) : i.Before { i with depth := n } :=
  h.before h.heap (.refl _) rfl

theorem define (name : x ≠ "this") (value : v.Faithful i.heap) : i.Before (i.define f x v) :=
  h.before (h.heap.define name value) (Heap.later_define name) rfl

/-- Make a frame without a receiver: code may run in it. -/
theorem newFrame (bindings : ∀ (x : String) (v : Value), b[x]? = some v → v.Faithful i.heap)
    (plain : b["this"]? = none) :
    i.Before (i.newFrame f b).2 ∧ (i.newFrame f b).1 < (i.newFrame f b).2.heap.frames.size ∧
      (i.newFrame f b).2.heap.receiver? (i.newFrame f b).1 = none := by
  refine ⟨h.before (h.heap.newFrame bindings fun v isValue => ?_) Heap.later_newFrame rfl, ?_, ?_⟩
  · rw [plain] at isValue
    cases isValue
  · rw [size_newFrame]
    exact Nat.lt_succ_self _
  · change (i.heap.newFrame (some f) b).2.binding? i.heap.frames.size "this" = none
    rw [Heap.binding?_newFrame, if_pos rfl, plain]

theorem newIdentity : i.Before i.newIdentity.2 :=
  h.before h.heap.newIdentity Heap.later_newIdentity rfl

theorem newInstance {c : Class} (isClass : c.Faithful i.heap) :
    i.Before (i.newInstance c).2 ∧ (i.newInstance c).1.Faithful (i.newInstance c).2.heap := by
  refine ⟨h.before h.heap.newInstance Heap.later_newInstance rfl, ?_,
    isClass.mono Heap.later_newInstance⟩
  change i.heap.fields.size < (i.heap.fields.push ∅).size
  rw [Array.size_push]
  exact Nat.lt_succ_self _

theorem setField {a : Nat} (value : v.Faithful i.heap) : i.Before (i.setField a x v) :=
  h.before (h.heap.setField value) Heap.later_setField rfl

/-- Bind a method to an instance. The function that this makes knows its receiver. -/
theorem bindClosure {m : Closure} {name : String} (kept : m.Kept i.heap name) {a : Nat} {c : Class}
    (receiver : (Value.instance_ a c).Faithful i.heap) :
    i.Before (i.bindClosure m (.instance_ a c)).2 ∧
      (i.bindClosure m (.instance_ a c)).1.Faithful (i.bindClosure m (.instance_ a c)).2.heap ∧
      (i.bindClosure m (.instance_ a c)).2.heap.receiver?
        (i.bindClosure m (.instance_ a c)).1.frame = some (.instance_ a c) := by
  have isReceiver : (i.bindClosure m (.instance_ a c)).2.heap.receiver?
      (i.bindClosure m (.instance_ a c)).1.frame = some (.instance_ a c) := by
    change Heap.binding? (i.heap.newFrame (some m.frame)
      ((∅ : Bindings).insert "this" (.instance_ a c))).2 i.heap.frames.size "this" = _
    rw [Heap.binding?_newFrame, if_pos rfl, Bindings.getElem?_single, if_pos rfl]
  have later : i.heap.Later (i.bindClosure m (.instance_ a c)).2.heap := Heap.later_newFrame
  refine ⟨h.before (h.heap.newFrame (fun x v isValue => ?_) fun v isValue => ?_) later rfl, ?_,
    isReceiver⟩
  · obtain ⟨-, rfl⟩ := Bindings.of_getElem?_single isValue
    exact receiver
  · obtain ⟨-, rfl⟩ := Bindings.of_getElem?_single isValue
    exact ⟨a, c, rfl⟩
  · refine ⟨?_, kept.formed, ?_⟩
    · change i.heap.frames.size < _
      rw [show (i.bindClosure m (.instance_ a c)).2.heap.frames.size = i.heap.frames.size + 1 from
        Heap.size_newFrame]
      exact Nat.lt_succ_self _
    · rw [isReceiver, Option.isSome_some, Bool.true_and]
      change m.isInitializer = (m.name == "init")
      rw [kept.isInitializer, kept.named]

theorem bindMethod {m : Closure} {name : String} (kept : m.Kept i.heap name) {a : Nat} {c : Class}
    (receiver : (Value.instance_ a c).Faithful i.heap) :
    i.Before (i.bindMethod m (.instance_ a c)).2 ∧
      (i.bindMethod m (.instance_ a c)).1.Faithful (i.bindMethod m (.instance_ a c)).2.heap := by
  obtain ⟨before, closure, -⟩ := h.bindClosure kept receiver
  exact ⟨before.trans before.faithful.newIdentity, closure.mono Heap.later_newIdentity⟩

/-- The property of an instance. -/
theorem property {a : Nat} {c : Class} (receiver : (Value.instance_ a c).Faithful i.heap)
    (name : Token) :
    i.Before (i.property a c name).2 ∧
      ∀ v, (i.property a c name).1 = .ok v → v.Faithful (i.property a c name).2.heap := by
  unfold Interpreter.property
  split
  · next isField =>
    exact ⟨h.refl, fun v isValue => by cases isValue; exact h.heap.field a name.lexeme _ isField⟩
  · split
    · next isMethod =>
      obtain ⟨before, value⟩ := h.bindMethod (receiver.2 name.lexeme _ isMethod) receiver
      exact ⟨before, fun v isValue => by cases isValue; exact value⟩
    · exact ⟨h.refl, nofun⟩

/-- What an occurrence of a name has for a value is faithful. -/
theorem lookUp {o : Occurrence} (found : i.lookUp o = .ok v) : v.Faithful i.heap := by
  unfold Interpreter.lookUp at found
  split at found
  · exact h.heap.getAt found
  · exact h.heap.get found

end Faithful

end Interpreter

end Lox
