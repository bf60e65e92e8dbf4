import Lox.Proofs.Heap

/-!
# Walking outward and counting frames

A name is found in a frame by walking outward to the nearest frame that binds it, or by taking the
frame at a known distance. Both ways lead to the same binding if the distance is that of the nearest
frame. Frames share their parents, so that an assignment is seen from every frame whose walk ends in
the same place, and from no other.

## Main definitions

* `Heap.Outward`: the frames on the chain of a frame, with their distances.
* `Heap.Nearest`: the nearest frame on a chain that binds a name.
* `Heap.Overwritten`: two heaps differ in one binding of one frame.

## Main results

* `Heap.outward_iff`, `Heap.owner?_eq_some_iff`, `Heap.owner?_eq_none_iff`: what both ways find.
* `Heap.Nearest.overwritten_define`: what an assignment changes, and from where it is seen.
* `Heap.accesses_agree`: both ways agree on values, on changes, and on names that are not bound.
-/

namespace Lox

/-- An access fails with a fault of some class on some line. -/
def Fault.Ends {α : Type} (outcome : Except Fault α) (kind : Fault.Kind) (line : Nat) : Prop :=
  ∃ fault : Fault, outcome = .error fault ∧ fault.kind = kind ∧ fault.line = line

namespace Heap

/-- One frame is a number of steps outside another. -/
inductive Outward (heap : Heap) : FrameId → Nat → FrameId → Prop
  | here (f : FrameId) : heap.Outward f 0 f
  | outer {f p g : FrameId} {d : Nat} (isParent : heap.parent? f = some p)
      (more : heap.Outward p d g) : heap.Outward f (d + 1) g

/-- The nearest frame that binds a name is at some distance. -/
structure Nearest (heap : Heap) (f : FrameId) (x : String) (d : Nat) (owner : FrameId) : Prop where
  reached : heap.Outward f d owner
  bound : (heap.binding? owner x).isSome = true
  nearer : ∀ k g, k < d → heap.Outward f k g → heap.binding? g x = none

/-- A heap has become another in which one frame binds a name to a new value, and nothing else is
different. The new value is what a walk that ends in that frame finds. -/
structure Overwritten (heap : Heap) (owner : FrameId) (x : String) (v : Value) (heap' : Heap) :
    Prop where
  size : heap'.frames.size = heap.frames.size
  parent : ∀ g, heap'.parent? g = heap.parent? g
  binding : ∀ g y, heap'.binding? g y = if g = owner ∧ y = x then some v else heap.binding? g y
  fields : heap'.fields = heap.fields
  nextIdentity : heap'.nextIdentity = heap.nextIdentity
  seen : ∀ g d (name : Token), name.lexeme = x → heap.Nearest g x d owner →
    heap'.get g name = .ok v
  unseen : ∀ g (name : Token), (name.lexeme = x → ∀ d, ¬ heap.Nearest g x d owner) →
    heap'.get g name = heap.get g name

/-- The heap behind an assignment; one that fails leaves the heap as it was. -/
def behind (heap : Heap) : Except Fault Heap → Heap
  | .ok heap' => heap'
  | .error _ => heap

variable {heap heap' : Heap} {f g p owner owner' : FrameId} {x : String} {d d' : Nat} {v : Value}
  {name : Token}

/-! ### Chains of frames -/

/-- Taking the frame at a distance is going outward. -/
theorem outward_iff : heap.Outward f d g ↔ heap.ancestor? f d = some g := by
  constructor
  · intro outward
    induction outward with
    | here => rfl
    | outer isParent _ ih => rw [ancestor?, isParent, ← ih]
  · intro found
    induction d generalizing f with
    | zero =>
      cases found
      exact .here _
    | succ d ih =>
      rw [ancestor?] at found
      split at found
      · next p isParent => exact .outer isParent (ih found)
      · cases found

namespace Nearest

theorem here (bound : heap.binding? f x = some v) : heap.Nearest f x 0 f where
  reached := .here f
  bound := by rw [bound]; rfl
  nearer _ _ lt := absurd lt (Nat.not_lt_zero _)

theorem outer (free : heap.binding? f x = none) (isParent : heap.parent? f = some p)
    (h : heap.Nearest p x d owner) : heap.Nearest f x (d + 1) owner where
  reached := .outer isParent h.reached
  bound := h.bound
  nearer
    | 0, _, _, .here _ => free
    | k + 1, g, lt, .outer isParent' more => by
      cases isParent.symm.trans isParent'
      exact h.nearer k g (Nat.lt_of_succ_lt_succ lt) more

/-- A walk outward ends in the nearest frame that binds the name. -/
theorem owner?_eq (h : heap.Nearest f x d owner) : heap.owner? f x = some owner := by
  obtain ⟨reached, bound, nearer⟩ := h
  induction reached with
  | here f =>
    obtain ⟨v, isBound⟩ := Option.isSome_iff_exists.1 bound
    exact owner?_eq_self isBound
  | @outer f p owner d isParent more ih =>
    rw [owner?_eq_parent (nearer 0 f (Nat.succ_pos d) (.here f)) isParent]
    exact ih bound fun k g lt outward =>
      nearer (k + 1) g (Nat.succ_lt_succ lt) (.outer isParent outward)

end Nearest

theorem owner?_eq_some_iff : heap.owner? f x = some owner ↔ ∃ d, heap.Nearest f x d owner := by
  refine ⟨fun found => ?_, fun ⟨_, nearest⟩ => nearest.owner?_eq⟩
  induction f using Nat.strongRecOn with
  | ind f ih =>
    cases isBound : heap.binding? f x with
    | some v =>
      cases (owner?_eq_self isBound).symm.trans found
      exact ⟨0, .here isBound⟩
    | none =>
      cases isParent : heap.parent? f with
      | none => cases (owner?_eq_none isBound isParent).symm.trans found
      | some p =>
        rw [owner?_eq_parent isBound isParent] at found
        obtain ⟨d, nearest⟩ := ih p (lt_of_parent? isParent) found
        exact ⟨d + 1, nearest.outer isBound isParent⟩

/-- A walk outward finds nothing if no frame on the chain binds the name. -/
theorem owner?_eq_none_iff :
    heap.owner? f x = none ↔ ∀ d g, heap.Outward f d g → heap.binding? g x = none := by
  constructor
  · intro nothing d g outward
    induction outward with
    | here f =>
      cases isBound : heap.binding? f x with
      | none => rfl
      | some v => cases (owner?_eq_self isBound).symm.trans nothing
    | @outer f p g d isParent more ih =>
      cases isBound : heap.binding? f x with
      | none => exact ih ((owner?_eq_parent isBound isParent).symm.trans nothing)
      | some v => cases (owner?_eq_self isBound).symm.trans nothing
  · intro unbound
    cases found : heap.owner? f x with
    | none => rfl
    | some owner =>
      obtain ⟨d, nearest⟩ := owner?_eq_some_iff.1 found
      have isBound := nearest.bound
      rw [unbound d owner nearest.reached] at isBound
      cases isBound

/-! ### Changes -/

theorem get_of_owner? (found : heap.owner? f name.lexeme = some owner)
    (isBound : heap.binding? owner name.lexeme = some v) : heap.get f name = .ok v := by
  rw [get, found, Option.bind_some, isBound]

/-- To bind a name anew where a walk has found it changes that binding only, and is seen from where
walks end in that frame. -/
theorem Nearest.overwritten_define (h : heap.Nearest f x d owner) (v : Value) :
    heap.Overwritten owner x v (heap.define owner x v) := by
  have binding := fun g y => binding?_define (v := v) (g := g) (y := y) (x := x)
    (lt_size_of_binding? h.bound)
  have sameOwner : ∀ (g : FrameId) (y : String), (heap.define owner x v).owner? g y =
      heap.owner? g y := by
    intro g y
    refine owner?_congr (fun _ => parent?_define) (fun g => ?_) g
    rw [binds_eq_isSome, binds_eq_isSome, binding]
    split
    · next same =>
      obtain ⟨rfl, rfl⟩ := same
      exact h.bound.symm
    · rfl
  refine ⟨size_define, fun _ => parent?_define, binding, rfl, rfl, ?_, ?_⟩
  · rintro g k name rfl nearest
    refine get_of_owner? ((sameOwner g name.lexeme).trans nearest.owner?_eq) ?_
    rw [binding, if_pos ⟨rfl, rfl⟩]
  · intro g name elsewhere
    unfold get
    rw [sameOwner]
    cases found : heap.owner? g name.lexeme with
    | none => rfl
    | some owner' =>
      obtain ⟨k, nearest⟩ := owner?_eq_some_iff.1 found
      have other : ¬ (owner' = owner ∧ name.lexeme = x) := by
        rintro ⟨rfl, rfl⟩
        exact elsewhere rfl k nearest
      rw [Option.bind_some, Option.bind_some, binding, if_neg other]

/-! ### Both ways of access -/

theorem Nearest.targetAt_eq (h : heap.Nearest f name.lexeme d owner) :
    heap.targetAt f d name = .ok owner := by
  have found : heap.ownerAt? f d name.lexeme = some owner := by
    rw [ownerAt?, outward_iff.1 h.reached, Option.filter_some, binds_eq_isSome, h.bound, if_pos rfl]
  rw [targetAt, found]

theorem Nearest.target_eq (h : heap.Nearest f name.lexeme d owner) :
    heap.target f name = .ok owner := by
  rw [target, h.owner?_eq]

/-- A name that is not bound on the chain of a frame is not found at any distance. -/
theorem bind_ancestor?_eq_none
    (unbound : ∀ d g, heap.Outward f d g → heap.binding? g x = none) (d : Nat) :
    ((heap.ancestor? f d).bind fun g => heap.binding? g x) = none := by
  cases found : heap.ancestor? f d with
  | none => rfl
  | some g => exact unbound d g (outward_iff.2 found)

theorem ownerAt?_eq_none
    (unbound : ∀ d g, heap.Outward f d g → heap.binding? g x = none) (d : Nat) :
    heap.ownerAt? f d x = none := by
  unfold ownerAt?
  cases found : heap.ancestor? f d with
  | none => rfl
  | some g =>
    rw [Option.filter_some, binds_eq_isSome, unbound d g (outward_iff.2 found)]
    rfl

/-- Access by distance agrees with walking outward. If the nearest frame that binds the name is at a
distance, then both ways find its value there, and assign to it there: the new heap is the same and
differs in that binding only. If no frame on the chain binds the name, then walking ends with an
undefined variable, and no distance leads to it; the heap stays as it is. -/
theorem accesses_agree (heap : Heap) (f : FrameId) (name : Token) :
    (∀ d owner, heap.Nearest f name.lexeme d owner →
      (∃ v, heap.binding? owner name.lexeme = some v ∧ heap.get f name = .ok v ∧
        ∀ line, heap.getAt f d name.lexeme line = .ok v) ∧
      ∀ v, ∃ heap', heap.assign f name v = .ok heap' ∧ heap.assignAt f d name v = .ok heap' ∧
        heap.Overwritten owner name.lexeme v heap') ∧
    ((∀ d g, heap.Outward f d g → heap.binding? g name.lexeme = none) →
      Fault.Ends (heap.get f name) .undefinedVariable name.line ∧
      (∀ v, Fault.Ends (heap.assign f name v) .undefinedVariable name.line ∧
        heap.behind (heap.assign f name v) = heap) ∧
      ∀ d, (∀ line, Fault.Ends (heap.getAt f d name.lexeme line) .internal line) ∧
        ∀ v, Fault.Ends (heap.assignAt f d name v) .internal name.line ∧
          heap.behind (heap.assignAt f d name v) = heap) := by
  constructor
  · intro d owner nearest
    constructor
    · obtain ⟨v, isBound⟩ := Option.isSome_iff_exists.1 nearest.bound
      refine ⟨v, isBound, get_of_owner? nearest.owner?_eq isBound, fun line => ?_⟩
      rw [getAt, outward_iff.1 nearest.reached, Option.bind_some, isBound]
    · intro v
      refine ⟨heap.define owner name.lexeme v, ?_, ?_, nearest.overwritten_define v⟩
      · rw [assign, nearest.target_eq]
        rfl
      · rw [assignAt, nearest.targetAt_eq]
        rfl
  · intro unbound
    have nothing := owner?_eq_none_iff.2 unbound
    refine ⟨⟨undefined name, ?_, rfl, rfl⟩, fun v => ?_, fun d => ⟨fun line => ?_, fun v => ?_⟩⟩
    · rw [get, nothing]
      rfl
    · have failed : heap.assign f name v = .error (undefined name) := by
        rw [assign, target, nothing]
        rfl
      exact ⟨⟨_, failed, rfl, rfl⟩, congrArg heap.behind failed⟩
    · refine ⟨misplaced name.lexeme d line, ?_, rfl, rfl⟩
      rw [getAt, bind_ancestor?_eq_none unbound d]
    · have failed : heap.assignAt f d name v = .error (misplaced name.lexeme d name.line) := by
        rw [assignAt, targetAt, ownerAt?_eq_none unbound d]
        rfl
      exact ⟨⟨_, failed, rfl, rfl⟩, congrArg heap.behind failed⟩

/-- Two frames share a parent, which binds a name again that the global frame binds. An assignment
from one of them is seen from the other, and not from the global frame; another name is bound
nowhere. -/
theorem accesses_agree_siblings :
    let heap₁ := (empty.newFrame none ((∅ : Bindings).insert "x" .nil)).2
    let heap₂ := (heap₁.newFrame (some 0) ((∅ : Bindings).insert "x" .nil)).2
    let heap := ((heap₂.newFrame (some 1) ∅).2.newFrame (some 1) ∅).2
    let x : Token := ⟨.identifier, "x", 1⟩
    let y : Token := ⟨.identifier, "y", 2⟩
    heap.Nearest 2 "x" 1 1 ∧
    (∃ heap', heap.assignAt 2 1 x (.boolean true) = .ok heap' ∧
      heap'.get 3 x = .ok (.boolean true) ∧ heap'.get 0 x = .ok .nil) ∧
    Fault.Ends (heap.get 3 y) .undefinedVariable 2 := by
  intro heap₁ heap₂ heap x y
  have nearest : heap.Nearest 2 "x" 1 1 := .outer rfl rfl (.here rfl)
  have sibling : heap.Nearest 3 "x" 1 1 := .outer rfl rfl (.here rfl)
  have unbound : ∀ d g, heap.Outward 3 d g → heap.binding? g "y" = none :=
    owner?_eq_none_iff.1
      ((owner?_eq_parent rfl rfl).trans ((owner?_eq_parent rfl rfl).trans (owner?_eq_none rfl rfl)))
  obtain ⟨-, changes⟩ := (accesses_agree heap 2 x).1 1 1 nearest
  obtain ⟨heap', -, assigned, overwritten⟩ := changes (.boolean true)
  refine ⟨nearest, ⟨heap', assigned, overwritten.seen 3 1 x rfl sibling, ?_⟩,
    ((accesses_agree heap 3 y).2 unbound).1⟩
  have isNil : heap.binding? 0 "x" = some .nil := rfl
  have global : heap.Nearest 0 "x" 0 0 := .here isNil
  rw [overwritten.unseen 0 x fun _ d other => by
    cases global.owner?_eq.symm.trans other.owner?_eq]
  exact get_of_owner? global.owner?_eq isNil

end Heap

end Lox
