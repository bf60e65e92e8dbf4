import Lox.Value

/-!
# Frames and objects

Running programs keep their variables in *frames*. A frame binds names to values and has a parent,
except for those at the root; a frame is always younger than its parent. The fields of instances are
kept apart, by address.

A name is looked up either outward, to the nearest frame that binds it, or in the frame at a known
distance.

## Main definitions

* `Frame`, `Heap`: the frames and fields of a session.
* `Heap.owner?`, `Heap.get`, `Heap.assign`: outward access.
* `Heap.ancestor?`, `Heap.ownerAt?`, `Heap.getAt`, `Heap.assignAt`: access by distance.
* `Heap.newFrame`, `Heap.define`, `Heap.newInstance`, `Heap.setField`: what changes a heap.
-/

namespace Lox

/-- Names with values. -/
abbrev Bindings : Type :=
  Std.TreeMap String Value

/-- A scope at run time. -/
structure Frame where
  parent : Option FrameId
  bindings : Bindings

/-- The frames of a session by number, the fields of instances by address, and the number of the
next object with an identity. -/
structure Heap where
  frames : Array Frame
  fields : Array Bindings
  nextIdentity : Nat
  /-- The parent of a frame is older than the frame. -/
  parent_lt : ∀ (f : FrameId) (frame : Frame) (p : FrameId),
    frames[f]? = some frame → frame.parent = some p → p < f

namespace Heap

/-- The heap without frames and objects. -/
def empty : Heap where
  frames := #[]
  fields := #[]
  nextIdentity := 0
  parent_lt := by simp

instance : Inhabited Heap := ⟨empty⟩

/-! ### Looking up -/

/-- The parent of a frame. -/
def parent? (heap : Heap) (f : FrameId) : Option FrameId :=
  heap.frames[f]?.bind Frame.parent

/-- The value of a name in one frame. -/
def binding? (heap : Heap) (f : FrameId) (name : String) : Option Value :=
  heap.frames[f]?.bind fun frame => frame.bindings[name]?

/-- Whether a frame binds a name. -/
def binds (heap : Heap) (f : FrameId) (name : String) : Bool :=
  match heap.frames[f]? with
  | some frame => frame.bindings.contains name
  | none => false

theorem lt_of_parent? {heap : Heap} {f p : FrameId} (h : heap.parent? f = some p) : p < f := by
  obtain ⟨frame, found, parent⟩ := Option.bind_eq_some_iff.1 h
  exact heap.parent_lt f frame p found parent

/-- The nearest frame at or outside the given one that binds a name. -/
def owner? (heap : Heap) (f : FrameId) (name : String) : Option FrameId :=
  if heap.binds f name then some f
  else
    match _h : heap.parent? f with
    | some p => heap.owner? p name
    | none => none
termination_by f
decreasing_by exact lt_of_parent? _h

/-- The frame a number of parents outward. -/
def ancestor? (heap : Heap) : FrameId → Nat → Option FrameId
  | f, 0 => some f
  | f, distance + 1 =>
    match heap.parent? f with
    | some p => heap.ancestor? p distance
    | none => none

/-- The frame at a distance, if it binds a name. -/
def ownerAt? (heap : Heap) (f : FrameId) (distance : Nat) (name : String) : Option FrameId :=
  (heap.ancestor? f distance).filter fun owner => heap.binds owner name

/-- The names that a frame binds, in order. -/
def names (heap : Heap) (f : FrameId) : List String :=
  match heap.frames[f]? with
  | some frame => frame.bindings.keys
  | none => []

/-! ### Changing -/

/-- Bind a name in one frame, whether or not it was bound before. -/
def define (heap : Heap) (f : FrameId) (name : String) (value : Value) : Heap where
  frames := heap.frames.modify f fun frame =>
    { frame with bindings := frame.bindings.insert name value }
  fields := heap.fields
  nextIdentity := heap.nextIdentity
  parent_lt g frame p found parent := by
    rw [Array.getElem?_modify] at found
    split at found
    · obtain ⟨before, isBefore, rfl⟩ := Option.map_eq_some_iff.1 found
      exact heap.parent_lt g before p isBefore parent
    · exact heap.parent_lt g frame p found parent

/-- Add a frame with the given bindings; a parent that does not exist yet is left out. The number of
the new frame is the number of frames before. -/
def newFrame (heap : Heap) (parent : Option FrameId) (bindings : Bindings) : FrameId × Heap :=
  (heap.frames.size,
    { frames := heap.frames.push ⟨parent.filter fun p => p < heap.frames.size, bindings⟩
      fields := heap.fields
      nextIdentity := heap.nextIdentity
      parent_lt := by
        intro f frame p found isParent
        rw [Array.getElem?_push] at found
        split at found
        · next last =>
          cases found
          obtain ⟨_, older⟩ := Option.filter_eq_some_iff.1 isParent
          subst last
          exact of_decide_eq_true older
        · exact heap.parent_lt f frame p found isParent })

/-- Add the fields of a new instance. The address is the number of instances before. -/
def newInstance (heap : Heap) : Nat × Heap :=
  (heap.fields.size, { heap with fields := heap.fields.push ∅ })

/-- The number of a new object with an identity. -/
def newIdentity (heap : Heap) : Nat × Heap :=
  (heap.nextIdentity, { heap with nextIdentity := heap.nextIdentity + 1 })

/-- The value of a field. -/
def field? (heap : Heap) (address : Nat) (name : String) : Option Value :=
  heap.fields[address]?.bind fun fields => fields[name]?

/-- Give a field a value, whether or not the instance had it before. -/
def setField (heap : Heap) (address : Nat) (name : String) (value : Value) : Heap :=
  { heap with fields := heap.fields.modify address fun fields => fields.insert name value }

/-! ### Access with faults -/

/-- The fault of a name that no frame binds. -/
def undefined (name : Token) : Fault :=
  ⟨.undefinedVariable name.lexeme, name.line⟩

/-- The fault of a name that the frame at a distance does not bind. -/
def misplaced (name : String) (distance line : Nat) : Fault :=
  ⟨.misplacedVariable name distance, line⟩

/-- The value of a name, looked up outward. -/
def get (heap : Heap) (f : FrameId) (name : Token) : Except Fault Value :=
  match (heap.owner? f name.lexeme).bind fun owner => heap.binding? owner name.lexeme with
  | some value => .ok value
  | none => .error (undefined name)

/-- The frame in which an assignment to a name takes effect, looked up outward. -/
def target (heap : Heap) (f : FrameId) (name : Token) : Except Fault FrameId :=
  match heap.owner? f name.lexeme with
  | some owner => .ok owner
  | none => .error (undefined name)

/-- Assign to a name, looked up outward. -/
def assign (heap : Heap) (f : FrameId) (name : Token) (value : Value) : Except Fault Heap :=
  (heap.target f name).map fun owner => heap.define owner name.lexeme value

/-- The value of a name in the frame at a distance. -/
def getAt (heap : Heap) (f : FrameId) (distance : Nat) (name : String) (line : Nat) :
    Except Fault Value :=
  match (heap.ancestor? f distance).bind fun owner => heap.binding? owner name with
  | some value => .ok value
  | none => .error (misplaced name distance line)

/-- The frame at a distance, in which an assignment to a name takes effect. -/
def targetAt (heap : Heap) (f : FrameId) (distance : Nat) (name : Token) : Except Fault FrameId :=
  match heap.ownerAt? f distance name.lexeme with
  | some owner => .ok owner
  | none => .error (misplaced name.lexeme distance name.line)

/-- Assign to a name in the frame at a distance. -/
def assignAt (heap : Heap) (f : FrameId) (distance : Nat) (name : Token) (value : Value) :
    Except Fault Heap :=
  (heap.targetAt f distance name).map fun owner => heap.define owner name.lexeme value

end Heap

end Lox
