import Lox.Interpreter

/-!
# What changes in a heap

A heap is seen through the number of its frames, their parents and bindings, the fields of its
instances, and the number of the next identity. Each operation is described by what it does to
these.

## Main results

* `Heap.binding?_define`, `Heap.binding?_newFrame`, `Heap.field?_setField`: what operations change.
* `Bindings.getElem?_single`: the bindings with which a frame for a receiver or a superclass begins.
* `Heap.owner?_eq_self`, `Heap.owner?_eq_parent`, `Heap.owner?_eq_none`, `Heap.owner?_congr`:
  looking up outward.
-/

namespace Lox

/-! ### Single bindings -/

namespace Bindings

variable {x y : String} {v w : Value}

theorem getElem?_single :
    ((∅ : Bindings).insert x v)[y]? = if x = y then some v else none := by
  simp [Std.TreeMap.getElem?_insert, Std.LawfulEqCmp.compare_eq_iff_eq]

theorem of_getElem?_single (found : ((∅ : Bindings).insert x v)[y]? = some w) :
    x = y ∧ v = w := by
  rw [getElem?_single] at found
  split at found
  · next isName => exact ⟨isName, Option.some.inj found⟩
  · cases found

end Bindings

namespace Heap

variable {heap : Heap} {f g : FrameId} {x y : String} {v : Value} {p : Option FrameId}
  {b : Bindings} {a c : Nat}

/-! ### Frames -/

theorem binds_eq_isSome (heap : Heap) (f : FrameId) (x : String) :
    heap.binds f x = (heap.binding? f x).isSome := by
  unfold binds binding?
  cases heap.frames[f]? with
  | none => rfl
  | some frame => simp [Std.TreeMap.isSome_getElem?_eq_contains]

theorem binding?_eq_none_of_size_le (h : heap.frames.size ≤ f) : heap.binding? f x = none := by
  simp [binding?, Array.getElem?_eq_none h]

theorem lt_size_of_binding? (bound : (heap.binding? f x).isSome = true) :
    f < heap.frames.size := by
  refine Nat.lt_of_not_le fun new => ?_
  rw [binding?_eq_none_of_size_le new] at bound
  cases bound

@[simp] theorem size_define : (heap.define f x v).frames.size = heap.frames.size := by
  simp [define]

@[simp] theorem parent?_define : (heap.define f x v).parent? g = heap.parent? g := by
  unfold parent? define
  rw [Array.getElem?_modify]
  split
  · cases heap.frames[g]? <;> rfl
  · rfl

theorem binding?_define (hf : f < heap.frames.size) :
    (heap.define f x v).binding? g y =
      if g = f ∧ y = x then some v else heap.binding? g y := by
  unfold binding? define
  rw [Array.getElem?_modify]
  by_cases hg : f = g
  · subst hg
    simp only [if_true, Array.getElem?_eq_getElem hf, Option.map_some, Option.bind_some,
      Std.TreeMap.getElem?_insert, Std.LawfulEqCmp.compare_eq_iff_eq, true_and, eq_comm (a := y)]
  · simp only [hg, if_false, Ne.symm hg, false_and]

theorem binding?_define_of_size_le (hf : heap.frames.size ≤ f) :
    (heap.define f x v).binding? g y = heap.binding? g y := by
  unfold binding? define
  rw [Array.getElem?_modify]
  split
  · next same => rw [← same, Array.getElem?_eq_none hf, Option.map_none]
  · rfl

@[simp] theorem size_newFrame : (heap.newFrame p b).2.frames.size = heap.frames.size + 1 := by
  simp [newFrame]

theorem parent?_newFrame :
    (heap.newFrame p b).2.parent? g =
      if g = heap.frames.size then p.filter (fun p => p < heap.frames.size)
      else heap.parent? g := by
  unfold parent? newFrame
  rw [Array.getElem?_push]
  split <;> rfl

theorem binding?_newFrame :
    (heap.newFrame p b).2.binding? g y =
      if g = heap.frames.size then b[y]? else heap.binding? g y := by
  unfold binding? newFrame
  rw [Array.getElem?_push]
  split <;> rfl

/-! ### Fields and identities -/

@[simp] theorem binding?_newIdentity : heap.newIdentity.2.binding? f x = heap.binding? f x := rfl

@[simp] theorem binding?_newInstance : heap.newInstance.2.binding? f x = heap.binding? f x := rfl

@[simp] theorem binding?_setField : (heap.setField a y v).binding? f x = heap.binding? f x := rfl

@[simp] theorem parent?_newIdentity : heap.newIdentity.2.parent? f = heap.parent? f := rfl

@[simp] theorem parent?_newInstance : heap.newInstance.2.parent? f = heap.parent? f := rfl

@[simp] theorem parent?_setField : (heap.setField a y v).parent? f = heap.parent? f := rfl

@[simp] theorem field?_define : (heap.define f x v).field? a y = heap.field? a y := rfl

@[simp] theorem field?_newFrame : (heap.newFrame p b).2.field? a y = heap.field? a y := rfl

@[simp] theorem field?_newIdentity : heap.newIdentity.2.field? a y = heap.field? a y := rfl

@[simp] theorem field?_newInstance : heap.newInstance.2.field? a y = heap.field? a y := by
  unfold field? newInstance
  rw [Array.getElem?_push]
  split
  · next last => simp [last]
  · rfl

theorem field?_setField :
    (heap.setField c x v).field? a y =
      if a = c ∧ y = x ∧ c < heap.fields.size then some v else heap.field? a y := by
  unfold field? setField
  rw [Array.getElem?_modify]
  by_cases ha : c = a
  · subst ha
    by_cases hc : c < heap.fields.size
    · simp only [if_true, Array.getElem?_eq_getElem hc, Option.map_some, Option.bind_some,
        Std.TreeMap.getElem?_insert, Std.LawfulEqCmp.compare_eq_iff_eq, true_and, hc, and_true,
        eq_comm (a := y)]
    · simp [hc]
  · simp only [ha, if_false, Ne.symm ha, false_and]

/-! ### Looking up outward -/

theorem owner?_eq_self (h : heap.binding? f x = some v) : heap.owner? f x = some f := by
  rw [owner?, binds_eq_isSome, h]
  rfl

theorem owner?_eq_parent (h : heap.binding? f x = none) (isParent : heap.parent? f = some g) :
    heap.owner? f x = heap.owner? g x := by
  rw [owner?, binds_eq_isSome, h]
  simp only [Option.isSome_none, Bool.false_eq_true, if_false]
  split
  · next found => rw [isParent] at found; cases found; rfl
  · next found => rw [isParent] at found; cases found

theorem owner?_eq_none (h : heap.binding? f x = none) (root : heap.parent? f = none) :
    heap.owner? f x = none := by
  rw [owner?, binds_eq_isSome, h]
  simp only [Option.isSome_none, Bool.false_eq_true, if_false]
  split
  · next found => rw [root] at found; cases found
  · rfl

/-- A walk outward goes by the parents of frames and by which of them bind the name. -/
theorem owner?_congr {heap' : Heap} (parents : ∀ g, heap'.parent? g = heap.parent? g)
    (binds : ∀ g, heap'.binds g x = heap.binds g x) (f : FrameId) :
    heap'.owner? f x = heap.owner? f x := by
  induction f using Nat.strongRecOn with
  | ind f ih =>
    rw [owner?, owner?, binds]
    split
    · rfl
    · split
      · next p isParent =>
        rw [parents] at isParent
        rw [ih p (lt_of_parent? isParent)]
        split
        · next p' isParent' => rw [Option.some.inj (isParent.symm.trans isParent')]
        · next isRoot => cases isRoot.symm.trans isParent
      · next isRoot =>
        rw [parents] at isRoot
        split
        · next p' isParent' => cases isRoot.symm.trans isParent'
        · rfl

/-! ### Values of names -/

/-- A value at a distance is that of the name in the frame there. -/
theorem exists_of_getAt {d line : Nat} (found : heap.getAt f d x line = .ok v) :
    ∃ g, heap.ancestor? f d = some g ∧ heap.binding? g x = some v := by
  unfold getAt at found
  split at found
  · next isValue =>
    cases found
    exact Option.bind_eq_some_iff.1 isValue
  · cases found

/-- A value that is found outward is that of the name in the frame where the walk ends. -/
theorem exists_of_get {t : Token} (found : heap.get f t = .ok v) :
    ∃ g, heap.owner? f t.lexeme = some g ∧ heap.binding? g t.lexeme = some v := by
  unfold get at found
  split at found
  · next isValue =>
    cases found
    exact Option.bind_eq_some_iff.1 isValue
  · cases found

end Heap

/-! ### Interpreters -/

namespace Interpreter

variable (i : Interpreter) (f : FrameId) (x : String) (v : Value) (b : Bindings)

@[simp] theorem size_define : (i.define f x v).heap.frames.size = i.heap.frames.size :=
  Heap.size_define

@[simp] theorem size_newFrame :
    (i.newFrame f b).2.heap.frames.size = i.heap.frames.size + 1 :=
  Heap.size_newFrame

@[simp] theorem size_newIdentity : i.newIdentity.2.heap.frames.size = i.heap.frames.size := rfl

@[simp] theorem size_bindMethod (method : Closure) (receiver : Value) :
    (i.bindMethod method receiver).2.heap.frames.size = i.heap.frames.size + 1 :=
  Heap.size_newFrame

variable {i v} in
/-- What is read from the clock is a number. -/
theorem exists_of_readClock {line : Nat} (h : (i.readClock line).1 = .ok v) :
    ∃ seconds, v = .number seconds := by
  unfold readClock at h
  cases isTime : i.clock i.readings with
  | ok seconds =>
    rw [isTime] at h
    exact ⟨seconds, (Except.ok.inj h).symm⟩
  | error reason =>
    rw [isTime] at h
    cases h

end Interpreter

end Lox
