import Lox.Proofs.Pair.Start

/-!
# Scopes that one of two runs does not have

An empty scope binds no names, so it does not matter whether a run enters it: names are found at
other distances, but in frames that belong together. The frames in between stay empty. Where one run
enters a scope and the other does not, the names of the place have to be bound, because only then is
the distance not part of the outcome.

## Main definitions

* `Heap.Widened`: a heap with further empty frames.
* `Pair.inLeft`, `Pair.inRight`, `Pair.inBoth`: pairs in which runs have entered a scope.

## Main results

* `Scene.Sound.widen`: empty frames need not belong to a frame of the other run.
* `Scene.Around.enter_left`, `Scene.Around.enter_right`: a scope without names on one side.
-/

namespace Lox

open Scope

/-! ### Empty frames -/

namespace Heap

/-- A later heap in which nothing else is bound. -/
structure Widened (heap heap' : Heap) : Prop where
  grown : heap.Grown heap'
  binding : ∀ f x, heap'.binding? f x = heap.binding? f x
  fields : heap'.fields = heap.fields
  nextIdentity : heap'.nextIdentity = heap.nextIdentity

variable {heap heap' : Heap} {f g : FrameId} {p : Position}

theorem Widened.refl (heap : Heap) : heap.Widened heap :=
  ⟨.refl heap, fun _ _ => rfl, rfl, rfl⟩

theorem widened_newFrame : heap.Widened (heap.newFrame (some f) ∅).2 where
  grown := grown_newFrame
  binding g x := by
    rw [binding?_newFrame]
    split
    · next isNew =>
      subst isNew
      rw [Std.TreeMap.getElem?_emptyc]
      by_contra bound
      exact Nat.lt_irrefl _ (lt_size_of_binding? (Option.isSome_iff_ne_none.2 (Ne.symm bound)))
    · rfl
  fields := rfl
  nextIdentity := rfl

/-- The frame of a new scope is inside the one around it. -/
theorem parent?_size_newFrame (exists_ : f < heap.frames.size) :
    (heap.newFrame (some f) ∅).2.parent? heap.frames.size = some f := by
  rw [parent?_newFrame, if_pos rfl, Option.filter_some, if_pos (decide_eq_true exists_)]

theorem size_lt_newFrame : heap.frames.size < (heap.newFrame (some f) ∅).2.frames.size :=
  Nat.lt_of_lt_of_eq (Nat.lt_succ_self _) size_newFrame.symm

namespace Located

/-- Names stay where they are. -/
theorem later (h : heap.Located p f) (grown : heap.Grown heap') : heap'.Located p f where
  exists_ := Nat.lt_of_lt_of_le h.exists_ grown.frames
  bound x d isDistance := by
    obtain ⟨owner, found, bound⟩ := h.bound x d isDistance
    exact ⟨owner, grown.ancestor? h.exists_ found, grown.bound owner x bound⟩

/-- The frame of a scope without names. -/
theorem enter (h : heap.Located p f) (settled : p.pending = none) (opener : Node)
    (isParent : heap.parent? g = some f) (exists_ : g < heap.frames.size) :
    heap.Located (p.enter opener []) g where
  exists_ := exists_
  bound x d isDistance := by
    rw [Position.distance?_enter settled, if_neg List.not_mem_nil] at isDistance
    obtain ⟨d', isOuter, rfl⟩ := Option.map_eq_some_iff.1 isDistance
    obtain ⟨owner, found, bound⟩ := h.bound x d' isOuter
    refine ⟨owner, ?_, bound⟩
    rw [ancestor?, isParent]
    exact found

/-- The frame holds what a statement declares. -/
theorem after (h : heap.Located p f) {s : Stmt}
    (declares : ∀ x, s.declared? = some x → (heap.binding? f x).isSome = true) :
    heap.Located (p.after s) f where
  exists_ := h.exists_
  bound x d isDistance := by
    cases declared : s.declared? with
    | none =>
      rw [Position.after_of_plain declared] at isDistance
      exact h.bound x d isDistance
    | some y =>
      rw [Position.after_of_declared? declared, Position.distance?_declare] at isDistance
      split at isDistance
      · next here =>
        obtain ⟨-, rfl⟩ := here
        obtain rfl := Option.some.inj isDistance
        exact ⟨f, rfl, declares x declared⟩
      · exact h.bound x d isDistance

end Located

end Heap

namespace Scene

variable {c : Pairing} {σ : Scene} {h h' : Heap} {p p' : Position} {f f' g : FrameId}

theorem le_widen (wide : σ.left.Widened h) (wide' : σ.right.Widened h') :
    σ.LE { σ with left := h, right := h' } :=
  ⟨fun _ _ together => together, fun _ _ together => together, wide.grown, wide'.grown⟩

/-- Empty frames belong to no frame of the other run. -/
theorem Sound.widen (sound : σ.Sound c) (wide : σ.left.Widened h) (wide' : σ.right.Widened h') :
    Sound c { σ with left := h, right := h' } := by
  have le := le_widen wide wide'
  refine ⟨sound.global, fun f f' together => ?_, sound.unique, fun f f' together x => ?_, ?_,
    fun a x => ?_, fun n n' together => ?_, sound.objectUnique⟩
  · obtain ⟨older, older'⟩ := sound.exists_ f f' together
    exact ⟨Nat.lt_of_lt_of_le older wide.grown.frames, Nat.lt_of_lt_of_le older' wide'.grown.frames⟩
  · change Option.Rel _ (h.binding? f x) (h'.binding? f' x)
    rw [wide.binding, wide'.binding]
    exact rel_mono (fun _ _ value => value.mono le) (sound.binding f f' together x)
  · change h'.fields.size = h.fields.size
    rw [wide.fields, wide'.fields, sound.instances]
  · change Option.Rel _ (h.field? a x) (h'.field? a x)
    unfold Heap.field?
    rw [wide.fields, wide'.fields]
    exact rel_mono (fun _ _ value => value.mono le) (sound.field a x)
  · change n < h.nextIdentity ∧ n' < h'.nextIdentity
    rw [wide.nextIdentity, wide'.nextIdentity]
    exact sound.objectExists n n' together

namespace Around

/-- The first run enters a scope without names. -/
theorem enter_left (around : σ.Around p p' f f') (located : σ.left.Located p f)
    (settled : p.pending = none) (opener : Node) (isParent : σ.left.parent? g = some f)
    (exists_ : g < σ.left.frames.size) : σ.Around (p.enter opener []) p' g f' where
  exists_ := exists_
  exists' := around.exists'
  meets x := by
    rw [Position.distance?_enter settled, if_neg List.not_mem_nil]
    have meets := around.meets x
    have bound := located.bound x
    generalize p.distance? x = o at meets bound
    generalize p'.distance? x = o' at meets
    cases meets with
    | none => exact .none
    | @some d d' meets =>
      obtain ⟨owner, owner', found, found', together, -⟩ := meets
      obtain ⟨holder, isHolder, bound⟩ := bound d rfl
      obtain rfl : owner = holder := Option.some.inj (found.symm.trans isHolder)
      refine .some ⟨owner, owner', ?_, found', together, .inr bound⟩
      rw [Heap.ancestor?, isParent]
      exact found

/-- The second run enters a scope without names. -/
theorem enter_right (around : σ.Around p p' f f') (located : σ.left.Located p f)
    (settled : p'.pending = none) (opener : Node) (isParent : σ.right.parent? g = some f')
    (exists' : g < σ.right.frames.size) : σ.Around p (p'.enter opener []) f g where
  exists_ := around.exists_
  exists' := exists'
  meets x := by
    rw [Position.distance?_enter settled, if_neg List.not_mem_nil]
    have meets := around.meets x
    have bound := located.bound x
    generalize p.distance? x = o at meets bound
    generalize p'.distance? x = o' at meets
    cases meets with
    | none => exact .none
    | @some d d' meets =>
      obtain ⟨owner, owner', found, found', together, -⟩ := meets
      obtain ⟨holder, isHolder, bound⟩ := bound d rfl
      obtain rfl : owner = holder := Option.some.inj (found.symm.trans isHolder)
      refine .some ⟨owner, owner', found, ?_, together, .inr bound⟩
      rw [Heap.ancestor?, isParent]
      exact found'

end Around

end Scene

/-! ### Pairs in scopes -/

namespace Pair

variable {c : Pairing} (j : Pair c) {p p' : Position}

/-- The first run has entered a scope. -/
def inLeft : Pair c :=
  (j.onScene (σ := { j.scene with left := (j.left.heap.newFrame (some j.left.frame) ∅).2 })
    (j.sound.widen Heap.widened_newFrame (.refl _))).inFrames j.left.heap.frames.size j.right.frame

/-- The second run has entered a scope. -/
def inRight : Pair c :=
  (j.onScene (σ := { j.scene with right := (j.right.heap.newFrame (some j.right.frame) ∅).2 })
    (j.sound.widen (.refl _) Heap.widened_newFrame)).inFrames j.left.frame j.right.heap.frames.size

/-- Both runs have entered a scope. -/
def inBoth : Pair c :=
  (j.onScene (σ := j.scene.newFrame j.left.frame j.right.frame ∅ ∅)
    (j.sound.newFrame Bindings.paired_empty)).inFrames j.left.heap.frames.size
      j.right.heap.frames.size

theorem le_inLeft : j.scene.LE j.inLeft.scene :=
  Scene.le_widen (σ := j.scene) Heap.widened_newFrame (.refl _)

theorem le_inRight : j.scene.LE j.inRight.scene :=
  Scene.le_widen (σ := j.scene) (.refl _) Heap.widened_newFrame

theorem le_inBoth : j.scene.LE j.inBoth.scene :=
  Scene.le_newFrame (σ := j.scene)

variable {j}

theorem Standing.inLeft (h : j.Standing p p') (located : j.left.heap.Located p j.left.frame)
    (opener : Node) : j.inLeft.Standing (p.enter opener []) p' where
  around := (h.around.mono j.le_inLeft).enter_left (located.later Heap.grown_newFrame) h.settled
    opener (Heap.parent?_size_newFrame h.around.exists_) Heap.size_lt_newFrame
  settled := h.settled
  settled' := h.settled'

theorem Standing.inRight (h : j.Standing p p') (located : j.left.heap.Located p j.left.frame)
    (opener : Node) : j.inRight.Standing p (p'.enter opener []) where
  around := (h.around.mono j.le_inRight).enter_right located h.settled' opener
    (Heap.parent?_size_newFrame h.around.exists') Heap.size_lt_newFrame
  settled := h.settled
  settled' := h.settled'

theorem Standing.inBoth (h : j.Standing p p') (opener opener' : Node) :
    j.inBoth.Level (p.enter opener []) (p'.enter opener' []) :=
  level_newFrame _ h.around h.settled h.settled' _ _ _

theorem located_inBoth (located : j.left.heap.Located p j.left.frame) (settled : p.pending = none)
    (opener : Node) : j.inBoth.left.heap.Located (p.enter opener []) j.inBoth.left.frame :=
  (located.later Heap.grown_newFrame).enter settled opener
    (Heap.parent?_size_newFrame located.exists_) Heap.size_lt_newFrame

end Pair

end Lox
