import Lox.Proofs.Evaluation.Confined

/-!
# What a call can reach

A call gets at frames and instances only by way of what it is given: the callee, the arguments, and
the global names. From a frame it gets to the parent and to what the values in the frame refer to,
from an instance to what its fields refer to; a function refers to its frame, a class to the frames
of its methods and of those that it inherits, an instance to its fields and to its class. All that a
call cannot reach in this way stays as it was.

## Main definitions

* `Location`: a frame or an instance.
* `Value.Refers`, `Heap.Leads`: one step from a value, or from a location, to a location.
* `Heap.Reaches`: the locations that can be reached from some values or the global frame.
* `Heap.reach`: these locations, and those that do not exist yet, as a realm.

## Main results

* `Evaluation.unchanged_of_unreached`: a call leaves what it cannot reach as it was.
-/

namespace Lox

/-- A place for values: a frame, or the fields of an instance. -/
inductive Location where
  | frame (f : FrameId)
  | instance_ (address : Nat)

/-- A value refers to a location: a function to its frame, which is that of the receiver if the
function is a bound method; a class to the frames of all its methods; an instance to its fields, and
to what its class refers to. -/
inductive Value.Refers : Value → Location → Prop
  | function {identity : Nat} {c : Closure} : Refers (.function identity c) (.frame c.frame)
  | class_ {c : Class} {m : Closure} (provided : c.Provides m) :
      Refers (.classObject c) (.frame m.frame)
  | fields {address : Nat} {c : Class} : Refers (.instance_ address c) (.instance_ address)
  | method {address : Nat} {c : Class} {m : Closure} (provided : c.Provides m) :
      Refers (.instance_ address c) (.frame m.frame)

namespace Heap

/-- One location leads to another: a frame to its parent and to what its values refer to, an
instance to what the values of its fields refer to. -/
inductive Leads (heap : Heap) : Location → Location → Prop
  | parent {f p : FrameId} (isParent : heap.parent? f = some p) : Leads heap (.frame f) (.frame p)
  | binding {f : FrameId} {x : String} {v : Value} {l : Location}
      (bound : heap.binding? f x = some v) (refers : v.Refers l) : Leads heap (.frame f) l
  | field {address : Nat} {x : String} {v : Value} {l : Location}
      (isField : heap.field? address x = some v) (refers : v.Refers l) :
      Leads heap (.instance_ address) l

/-- The locations that can be reached from some values or from the global frame. -/
inductive Reaches (heap : Heap) (roots : List Value) : Location → Prop
  | globals : Reaches heap roots (.frame globalFrame)
  | root {v : Value} {l : Location} (mem : v ∈ roots) (refers : v.Refers l) : Reaches heap roots l
  | step {l l' : Location} (before : Reaches heap roots l) (leads : heap.Leads l l') :
      Reaches heap roots l'

/-- All locations that can be reached or do not exist yet, with any code. -/
def reach (heap : Heap) (roots : List Value) : Realm where
  frame f := heap.Reaches roots (.frame f) ∨ heap.frames.size ≤ f
  instance_ a := heap.Reaches roots (.instance_ a) ∨ heap.fields.size ≤ a
  code _ := True
  globals := .inl .globals
  contents _ _ _ _ := trivial

variable {heap : Heap} {roots : List Value} {v : Value}

theorem within_of_reaches (h : ∀ l, v.Refers l → heap.Reaches roots l) :
    v.Within (heap.reach roots) := by
  cases v with
  | function identity c => exact ⟨.inl (h _ .function), fun _ _ => trivial⟩
  | classObject c => exact fun m provided => ⟨.inl (h _ (.class_ provided)), fun _ _ => trivial⟩
  | instance_ address c =>
    exact ⟨.inl (h _ .fields),
      fun m provided => ⟨.inl (h _ (.method provided)), fun _ _ => trivial⟩⟩
  | _ => trivial

theorem within_of_mem (mem : v ∈ roots) : v.Within (heap.reach roots) :=
  within_of_reaches fun _ refers => .root mem refers

/-- What can be reached is closed under all that it leads to. -/
theorem within_reach (heap : Heap) (roots : List Value) : heap.Within (heap.reach roots) where
  newFrame _ new := .inr new
  newInstance _ new := .inr new
  parent f p inside isParent := by
    rcases inside with reached | new
    · exact .inl (.step reached (.parent isParent))
    · rw [parent?, Array.getElem?_eq_none new] at isParent
      cases isParent
  binding f x v inside isValue := by
    rcases inside with reached | new
    · exact within_of_reaches fun _ refers => .step reached (.binding isValue refers)
    · rw [binding?_eq_none_of_size_le new] at isValue
      cases isValue
  field a x v inside isValue := by
    rcases inside with reached | new
    · exact within_of_reaches fun _ refers => .step reached (.field isValue refers)
    · rw [field?, Array.getElem?_eq_none new] at isValue
      cases isValue

/-- Frames that have kept their parents have kept those further out. -/
theorem Changes.ancestor? {R : Realm} {heap' : Heap} (h : Changes R heap heap') {f : FrameId}
    (older : f < heap.frames.size) (distance : Nat) :
    heap'.ancestor? f distance = heap.ancestor? f distance := by
  induction distance generalizing f with
  | zero => rfl
  | succ distance ih =>
    rw [Heap.ancestor?, Heap.ancestor?, h.parent f older]
    cases isParent : heap.parent? f with
    | none => rfl
    | some p => exact ih (Nat.lt_trans (lt_of_parent? isParent) older)

/-- A frame that is not older than the heap has nothing around it. -/
theorem eq_of_ancestor? {f g : FrameId} {distance : Nat} (new : heap.frames.size ≤ f)
    (found : heap.ancestor? f distance = some g) : g = f := by
  cases distance with
  | zero =>
    cases found
    rfl
  | succ distance =>
    rw [ancestor?, parent?, Array.getElem?_eq_none new] at found
    cases found

end Heap

namespace Evaluation

variable {i j : Interpreter} {callee : Value} {arguments : List Value} {line : Nat}
  {outcome : Except Fault Value}

/-- Whatever comes of a call, in whatever state it is made, the frames and instances that existed
before and cannot be reached from the callee, the arguments or the global frame are afterwards what
they were before. In particular, the frames around the calling code are the same as before, and
those among them that cannot be reached bind the same names to the same values. -/
theorem unchanged_of_unreached
    (answered :
      Routine.Answers body ((.call callee arguments line, i) : Goal .value) (outcome, j)) :
    (∀ f frame, i.heap.frames[f]? = some frame →
      ¬ i.heap.Reaches (callee :: arguments) (.frame f) → j.heap.frames[f]? = some frame) ∧
    (∀ address fields, i.heap.fields[address]? = some fields →
      ¬ i.heap.Reaches (callee :: arguments) (.instance_ address) →
        j.heap.fields[address]? = some fields) ∧
    ∀ distance f frame, i.heap.ancestor? i.frame distance = some f →
      i.heap.frames[f]? = some frame → ¬ i.heap.Reaches (callee :: arguments) (.frame f) →
        j.heap.ancestor? j.frame distance = some f ∧
          ∀ x, j.heap.binding? f x = frame.bindings[x]? := by
  have admitted : (i.heap.reach (callee :: arguments)).Admits i.frame
      (.call callee arguments line) :=
    ⟨Heap.within_of_mem List.mem_cons_self,
      fun v mem => Heap.within_of_mem (List.mem_cons_of_mem _ mem)⟩
  obtain ⟨since, -⟩ := (honoured _).post ⟨admitted, i.heap.within_reach _⟩ answered
  have unchanged (f : FrameId) (frame : Frame) (found : i.heap.frames[f]? = some frame)
      (unreached : ¬ i.heap.Reaches (callee :: arguments) (.frame f)) :
      j.heap.frames[f]? = some frame := by
    obtain ⟨older, -⟩ := Array.getElem?_eq_some_iff.1 found
    rw [since.changes.frames f (not_or.2 ⟨unreached, Nat.not_le_of_lt older⟩), found]
  refine ⟨unchanged, fun address fields found unreached => ?_,
    fun distance f frame isAncestor found unreached => ⟨?_, fun x => ?_⟩⟩
  · obtain ⟨older, -⟩ := Array.getElem?_eq_some_iff.1 found
    rw [since.changes.fields address (not_or.2 ⟨unreached, Nat.not_le_of_lt older⟩), found]
  · obtain ⟨older, -⟩ := Array.getElem?_eq_some_iff.1 found
    have older' : i.frame < i.heap.frames.size := Nat.lt_of_not_le fun new => by
      cases Heap.eq_of_ancestor? new isAncestor
      exact Nat.not_lt_of_le new older
    rw [since.frame, since.changes.ancestor? older', isAncestor]
  · rw [Heap.binding?, unchanged f frame found unreached]
    rfl

/-- A function with a variable of its own is called from a block that has a variable of the same
name. -/
theorem unchanged_of_unreached_local :
    let a : Token := ⟨.identifier, "a", 1⟩
    let f : Value :=
      .function 0 ⟨⟨⟨.identifier, "f", 1⟩, [], [.varDecl a none]⟩, globalFrame, false⟩
    let block := ((Interpreter.start .unlimited fun _ => .ok 0).newFrame globalFrame
      ((∅ : Bindings).insert "a" (.boolean true))).2
    let i := { block with frame := 1 }
    ¬ i.heap.Reaches [f] (.frame 1) ∧ ∃ j,
      Routine.Answers body ((.call f [] 1, i) : Goal .value) (.ok .nil, j) ∧
      j.heap.frames.size = 3 ∧ j.heap.ancestor? j.frame 0 = some 1 ∧
      j.heap.binding? 1 "a" = some (.boolean true) := by
  intro a f block i
  have onlyGlobals (l : Location) (reached : i.heap.Reaches [f] l) : l = .frame globalFrame := by
    induction reached with
    | globals => rfl
    | root mem refers =>
      cases List.mem_singleton.1 mem
      change Value.Refers (.function _ _) _ at refers
      cases refers
      rfl
    | step _ leads ih =>
      subst ih
      generalize isGlobal : Location.frame globalFrame = g at leads
      cases leads with
      | parent isParent =>
        cases isGlobal
        cases isParent
      | @binding f x v l bound refers =>
        cases isGlobal
        have isClock : ((∅ : Bindings).insert "clock" .clock)[x]? = some v := bound
        rw [Std.TreeMap.getElem?_insert, Std.TreeMap.getElem?_emptyc] at isClock
        split at isClock
        · cases isClock
          cases refers
        · cases isClock
      | field => cases isGlobal
  have unreached : ¬ i.heap.Reaches [f] (.frame 1) := fun reached => by
    cases onlyGlobals _ reached
  obtain ⟨j, answered, size⟩ : ∃ j,
      Routine.Answers body ((.call f [] 1, i) : Goal .value) (.ok .nil, j) ∧
        j.heap.frames.size = 3 :=
    ⟨_, ⟨2, rfl⟩, rfl⟩
  obtain ⟨isAncestor, bindings⟩ :=
    (unchanged_of_unreached answered).2.2 0 1 _ rfl rfl unreached
  exact ⟨unreached, j, answered, size, isAncestor, bindings "a"⟩

end Evaluation

end Lox
