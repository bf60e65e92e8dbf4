import Lox.Proofs.Heap.Distance
import Lox.Proofs.Value

/-!
# Frames, functions, classes and instances

Frames have parents, functions and methods live in frames, classes have superclasses, and frames and
instances have values, which are functions, classes and instances again. Frames, instances, and
objects with an identity are numbered in the order in which they are made. A heap is *rooted* if all
that is referred to in it exists, every frame but the global one has a parent, and superclasses are
older than the classes that inherit from them. Then the walks from frames to their parents and from
classes to their superclasses are finite. The operations of running code keep a heap rooted, and do
not take away or redirect anything.

## Main definitions

* `Class.chain`: a class and the classes above it.
* `Value.Present`: all that a value refers to exists.
* `Heap.Rooted`, `Heap.Grown`: rooted heaps, and what later heaps keep of earlier ones.
* `Heap.WalksEnd`: the walks that begin at a frame.

## Main results

* `Class.findMethod?_eq_findSome?`: methods are found along the chain of a class.
* `Heap.Rooted.exists_outward`, `Heap.Rooted.walksEnd`: walks from frame to frame.
* `Heap.Rooted.define`, `Heap.Rooted.newFrame` and the others: the operations of running code.
-/

namespace Lox

/-! ### Chains of classes -/

/-- A class and the classes above it, nearest first. -/
def Class.chain : Class → List Class
  | ⟨identity, name, none, methods⟩ => [⟨identity, name, none, methods⟩]
  | ⟨identity, name, some superclass, methods⟩ =>
    ⟨identity, name, some superclass, methods⟩ :: superclass.chain
termination_by structural c => c

namespace Class

variable {c above : Class}

theorem chain_of_root (root : c.superclass = none) : c.chain = [c] := by
  cases c
  cases root
  rfl

theorem chain_of_superclass (isSuperclass : c.superclass = some above) :
    c.chain = c :: above.chain := by
  cases c
  cases isSuperclass
  rfl

theorem mem_chain_self (c : Class) : c ∈ c.chain := by
  cases isSuperclass : c.superclass with
  | none =>
    rw [chain_of_root isSuperclass]
    exact List.mem_singleton_self c
  | some above =>
    rw [chain_of_superclass isSuperclass]
    exact List.mem_cons_self

/-- A chain goes on with the superclass of each class on it. -/
theorem superclass_mem_chain : ∀ {c k : Class}, k ∈ c.chain → k.superclass = some above →
    above ∈ c.chain
  | ⟨_, _, none, _⟩, k, mem, isSuperclass => by
    rw [chain_of_root rfl, List.mem_singleton] at mem
    cases mem
    cases isSuperclass
  | ⟨_, _, some inherited, _⟩, k, mem, isSuperclass => by
    rw [chain_of_superclass rfl, List.mem_cons] at mem ⊢
    rcases mem with rfl | mem
    · cases isSuperclass
      exact .inr (mem_chain_self _)
    · exact .inr (superclass_mem_chain mem isSuperclass)

/-- The chain of a class contains those of the classes on it. -/
theorem chain_subset : ∀ {c k : Class}, k ∈ c.chain → k.chain ⊆ c.chain
  | ⟨_, _, none, _⟩, k, mem => by
    rw [chain_of_root rfl, List.mem_singleton] at mem
    exact mem ▸ List.Subset.refl _
  | ⟨identity, name, some inherited, methods⟩, k, mem => by
    have isChain : chain ⟨identity, name, some inherited, methods⟩ = _ := chain_of_superclass rfl
    rw [isChain, List.mem_cons] at mem
    rcases mem with rfl | mem
    · exact List.Subset.refl _
    · rw [isChain]
      exact List.subset_cons_of_subset _ (chain_subset mem)

/-- Methods are found along the chain of a class, and the nearest declaration counts. -/
theorem findMethod?_eq_findSome? : ∀ (c : Class) (name : String),
    c.findMethod? name = c.chain.findSome? fun k => k.methods[name]?
  | ⟨_, _, none, methods⟩, name => by
    rw [findMethod?, chain_of_root rfl, List.findSome?_cons, List.findSome?_nil]
    cases methods[name]? <;> rfl
  | ⟨_, _, some superclass, methods⟩, name => by
    rw [findMethod?, chain_of_superclass rfl, List.findSome?_cons,
      findMethod?_eq_findSome? superclass name]
    cases methods[name]? <;> rfl

theorem exists_mem_chain {name : String} {m : Closure} (found : c.findMethod? name = some m) :
    ∃ k ∈ c.chain, k.methods[name]? = some m := by
  rw [findMethod?_eq_findSome?] at found
  exact List.exists_of_findSome?_eq_some found

end Class

/-! ### What exists -/

section

variable (heap : Heap)

/-- The frame in which a function has its meaning exists. -/
def Closure.Present (c : Closure) : Prop :=
  c.frame < heap.frames.size

/-- A class and the classes above it exist, each of them older than the one that inherits from it,
and so do the frames of their methods. -/
structure Class.Present (c : Class) : Prop where
  identity : ∀ k ∈ c.chain, k.identity < heap.nextIdentity
  older : ∀ k ∈ c.chain, ∀ above, k.superclass = some above → above.identity < k.identity
  method : ∀ k ∈ c.chain, ∀ (name : String) m, k.methods[name]? = some m → m.Present heap

/-- All that a value refers to exists: the function or class itself, or the fields and the class of
an instance. -/
def Value.Present : Value → Prop
  | .function identity c => identity < heap.nextIdentity ∧ c.Present heap
  | .classObject c => c.Present heap
  | .instance_ address c => address < heap.fields.size ∧ c.Present heap
  | _ => True

/-- Every frame but the global one has a parent, and all that frames and instances have for a value
exists. -/
structure Heap.Rooted : Prop where
  global : globalFrame < heap.frames.size
  parent : ∀ f, f < heap.frames.size → f ≠ globalFrame → ∃ p, heap.parent? f = some p
  binding : ∀ f x v, heap.binding? f x = some v → v.Present heap
  field : ∀ a x v, heap.field? a x = some v → v.Present heap

/-- A later heap: there may be more frames, instances and objects, and names may have other values.
The frames that were there keep their parents and the names that they bind. -/
structure Heap.Grown (heap' : Heap) : Prop where
  frames : heap.frames.size ≤ heap'.frames.size
  fields : heap.fields.size ≤ heap'.fields.size
  identities : heap.nextIdentity ≤ heap'.nextIdentity
  parent : ∀ f, f < heap.frames.size → heap'.parent? f = heap.parent? f
  bound : ∀ f x, (heap.binding? f x).isSome = true → (heap'.binding? f x).isSome = true

/-- The walks that begin at a frame come to their ends. A walk outward passes the frames up to the
global one, and not more than the number of the frame tells. It takes a name to the nearest frame
that binds it, or else to the fault of an undefined variable, and a distance to the frame there, if
it is not beyond the global one. -/
structure Heap.WalksEnd (f : FrameId) : Prop where
  exists_outward : ∃ d ≤ f, heap.Outward f d globalFrame ∧
    (∀ k ≤ d, ∃ g ≤ f, heap.ancestor? f k = some g) ∧ ∀ k, d < k → heap.ancestor? f k = none
  named : ∀ name : Token,
    (∃ k ≤ f, ∃ owner, heap.Nearest f name.lexeme k owner ∧
      (∃ v, heap.get f name = .ok v ∧ heap.binding? owner name.lexeme = some v) ∧
      ∀ v, heap.assign f name v = .ok (heap.define owner name.lexeme v)) ∨
    (∀ k g, heap.Outward f k g → heap.binding? g name.lexeme = none) ∧
      heap.get f name = .error (undefined name) ∧
      ∀ v, heap.assign f name v = .error (undefined name)

end

namespace Heap.Grown

variable {heap heap' heap'' : Heap}

theorem refl (heap : Heap) : heap.Grown heap :=
  ⟨Nat.le_refl _, Nat.le_refl _, Nat.le_refl _, fun _ _ => rfl, fun _ _ bound => bound⟩

theorem trans (h : heap.Grown heap') (h' : heap'.Grown heap'') : heap.Grown heap'' where
  frames := Nat.le_trans h.frames h'.frames
  fields := Nat.le_trans h.fields h'.fields
  identities := Nat.le_trans h.identities h'.identities
  parent f old := (h'.parent f (Nat.lt_of_lt_of_le old h.frames)).trans (h.parent f old)
  bound f x bound := h'.bound f x (h.bound f x bound)

end Heap.Grown

section

variable {heap heap' : Heap}

theorem Closure.Present.mono {c : Closure} (h : c.Present heap) (grown : heap.Grown heap') :
    c.Present heap' :=
  Nat.lt_of_lt_of_le h grown.frames

theorem Class.Present.mono {c : Class} (h : c.Present heap) (grown : heap.Grown heap') :
    c.Present heap' where
  identity k mem := Nat.lt_of_lt_of_le (h.identity k mem) grown.identities
  older := h.older
  method k mem name m found := (h.method k mem name m found).mono grown

/-- What exists does so in later heaps. -/
theorem Value.Present.mono {v : Value} (h : v.Present heap) (grown : heap.Grown heap') :
    v.Present heap' := by
  cases v with
  | function _ c => exact ⟨Nat.lt_of_lt_of_le h.1 grown.identities, h.2.mono grown⟩
  | classObject c => exact Class.Present.mono h grown
  | instance_ _ c => exact ⟨Nat.lt_of_lt_of_le h.1 grown.fields, Class.Present.mono h.2 grown⟩
  | _ => trivial

/-- The methods that a class has or inherits live in frames that exist. -/
theorem Class.Present.findMethod? {c : Class} {name : String} {m : Closure} (h : c.Present heap)
    (found : c.findMethod? name = some m) : m.Present heap := by
  obtain ⟨k, mem, isMethod⟩ := exists_mem_chain found
  exact h.method k mem name m isMethod

/-- A new class exists if the class above it does, and the frames of its methods. -/
theorem Class.present_mk {identity : Nat} {name : String} {superclass : Option Class}
    {table : Std.TreeMap String Closure} (isNew : identity < heap.nextIdentity)
    (above : ∀ c, superclass = some c → c.Present heap ∧ c.identity < identity)
    (own : ∀ (x : String) (m : Closure), table[x]? = some m → m.Present heap) :
    (⟨identity, name, superclass, table⟩ : Class).Present heap := by
  cases superclass with
  | none =>
    constructor <;> rw [chain_of_root rfl] <;> rintro k mem <;> cases List.mem_singleton.1 mem
    · exact isNew
    · nofun
    · exact own
  | some c =>
    obtain ⟨present, isOlder⟩ := above c rfl
    constructor <;> rw [chain_of_superclass rfl] <;> rintro k mem <;>
      rcases List.mem_cons.1 mem with rfl | mem
    · exact isNew
    · exact present.identity k mem
    · rintro _ ⟨⟩
      exact isOlder
    · exact present.older k mem
    · exact own
    · exact present.method k mem

/-- The classes above a class that exists do so too. -/
theorem Class.Present.of_mem_chain {c k : Class} (h : c.Present heap) (mem : k ∈ c.chain) :
    k.Present heap where
  identity k' mem' := h.identity k' (chain_subset mem mem')
  older k' mem' := h.older k' (chain_subset mem mem')
  method k' mem' := h.method k' (chain_subset mem mem')

/-- A chain of classes is not longer than the number of its first class tells. -/
theorem Class.Present.length_chain_le : ∀ {c : Class}, c.Present heap →
    c.chain.length ≤ c.identity + 1
  | ⟨identity, _, none, _⟩, _ => Nat.le_add_left 1 identity
  | ⟨identity, name, some superclass, methods⟩, h => by
    have isOlder := h.older _ (mem_chain_self _) superclass rfl
    have mem := superclass_mem_chain (mem_chain_self ⟨identity, name, some superclass, methods⟩) rfl
    have shorter := length_chain_le (h.of_mem_chain mem)
    rw [chain_of_superclass rfl, List.length_cons]
    exact Nat.succ_le_succ (Nat.le_trans shorter isOlder)

end

theorem Value.Plain.present {heap : Heap} {v : Value} (h : v.Plain) : v.Present heap := by
  cases h <;> trivial

/-! ### Walks outward -/

namespace Heap.Rooted

variable {heap : Heap} {f : FrameId} {x : String} {v : Value}

theorem parent?_globalFrame (heap : Heap) : heap.parent? globalFrame = none := by
  cases isParent : heap.parent? globalFrame with
  | none => rfl
  | some p => exact absurd (lt_of_parent? isParent) (Nat.not_lt_zero p)

end Heap.Rooted

namespace Heap

variable {heap : Heap}

/-- A walk outward from the global frame ends there. -/
theorem owner?_globalFrame (x : String) :
    heap.owner? globalFrame x = if heap.binds globalFrame x then some globalFrame else none := by
  rw [binds_eq_isSome]
  cases isBound : heap.binding? globalFrame x with
  | some v => exact owner?_eq_self isBound
  | none => exact owner?_eq_none isBound (Rooted.parent?_globalFrame heap)

theorem get_globalFrame (t : Token) :
    heap.get globalFrame t =
      (heap.binding? globalFrame t.lexeme).elim (.error (undefined t)) .ok := by
  rw [get, owner?_globalFrame, binds_eq_isSome]
  cases isBound : heap.binding? globalFrame t.lexeme with
  | some v => simp only [Option.isSome_some, if_true, Option.bind_some, isBound, Option.elim_some]
  | none => rfl

theorem target_globalFrame (t : Token) : heap.target globalFrame t =
    if heap.binds globalFrame t.lexeme then .ok globalFrame else .error (undefined t) := by
  rw [target, owner?_globalFrame]
  cases heap.binds globalFrame t.lexeme <;> rfl

end Heap

namespace Heap.Rooted

variable {heap : Heap} {f : FrameId} {x : String} {v : Value}

variable (h : heap.Rooted)

include h

/-- A walk outward ends in the global frame. -/
theorem exists_outward (exists_ : f < heap.frames.size) :
    ∃ d ≤ f, heap.Outward f d globalFrame := by
  induction f using Nat.strongRecOn with
  | ind f ih =>
    by_cases isGlobal : f = globalFrame
    · exact ⟨0, Nat.zero_le f, isGlobal ▸ .here f⟩
    · obtain ⟨p, isParent⟩ := h.parent f exists_ isGlobal
      have older := lt_of_parent? isParent
      obtain ⟨d, le, outward⟩ := ih p older (Nat.lt_trans older exists_)
      exact ⟨d + 1, Nat.le_trans (Nat.succ_le_succ le) older, .outer isParent outward⟩

end Heap.Rooted

namespace Heap

variable {heap : Heap} {f g : FrameId} {d k : Nat} {x : String}

theorem Outward.le (outward : heap.Outward f d g) : g + d ≤ f := by
  induction outward with
  | here => exact Nat.le_refl _
  | outer isParent _ ih => exact Nat.lt_of_le_of_lt ih (lt_of_parent? isParent)

/-- On the way to a frame there is a frame at every distance. -/
theorem Outward.exists_ancestor? (outward : heap.Outward f d g) (le : k ≤ d) :
    ∃ p ≤ f, heap.ancestor? f k = some p := by
  induction outward generalizing k with
  | here f =>
    cases Nat.le_zero.1 le
    exact ⟨f, Nat.le_refl f, rfl⟩
  | @outer f p g d isParent more ih =>
    cases k with
    | zero => exact ⟨f, Nat.le_refl f, rfl⟩
    | succ k =>
      obtain ⟨q, older, found⟩ := ih (Nat.le_of_succ_le_succ le)
      refine ⟨q, Nat.le_trans older (Nat.le_of_lt (lt_of_parent? isParent)), ?_⟩
      rw [ancestor?, isParent]
      exact found

/-- Beyond the global frame there is none. -/
theorem Outward.ancestor?_eq_none (outward : heap.Outward f d globalFrame) (lt : d < k) :
    heap.ancestor? f k = none := by
  induction d generalizing f k with
  | zero =>
    cases outward
    cases k with
    | zero => exact absurd lt (Nat.not_lt_zero 0)
    | succ k => rw [ancestor?, Rooted.parent?_globalFrame]
  | succ d ih =>
    cases outward with
    | outer isParent more =>
      cases k with
      | zero => exact absurd lt (Nat.not_lt_zero _)
      | succ k =>
        rw [ancestor?, isParent]
        exact ih more (Nat.lt_of_succ_lt_succ lt)

/-- Walks from frame to frame come to their ends. -/
theorem Rooted.walksEnd (h : heap.Rooted) (exists_ : f < heap.frames.size) : heap.WalksEnd f where
  exists_outward := by
    obtain ⟨d, le, outward⟩ := h.exists_outward exists_
    exact ⟨d, le, outward, fun _ => outward.exists_ancestor?, fun _ => outward.ancestor?_eq_none⟩
  named name := by
    cases found : heap.owner? f name.lexeme with
    | none =>
      refine .inr ⟨owner?_eq_none_iff.1 found, ?_, fun v => ?_⟩
      · rw [get, found]
        rfl
      · rw [assign, target, found]
        rfl
    | some owner =>
      obtain ⟨k, nearest⟩ := owner?_eq_some_iff.1 found
      obtain ⟨v, isBound⟩ := Option.isSome_iff_exists.1 nearest.bound
      have le : k ≤ f := Nat.le_trans (Nat.le_add_left k owner) nearest.reached.le
      refine .inl ⟨k, le, owner, nearest, ⟨v, get_of_owner? found isBound, isBound⟩, fun v => ?_⟩
      rw [assign, nearest.target_eq]
      rfl

/-! ### What running code does to a heap -/

/-- A frame in which an assignment takes effect exists. -/
theorem lt_size_of_target {t : Token} (found : heap.target f t = .ok g) :
    g < heap.frames.size := by
  unfold target at found
  split at found
  · next isOwner =>
    cases found
    obtain ⟨_, nearest⟩ := owner?_eq_some_iff.1 isOwner
    exact lt_size_of_binding? nearest.bound
  · cases found

theorem lt_size_of_targetAt {t : Token} (found : heap.targetAt f d t = .ok g) :
    g < heap.frames.size := by
  unfold targetAt at found
  split at found
  · next isOwner =>
    cases found
    have binds := (Option.filter_eq_some_iff.1 isOwner).2
    rw [binds_eq_isSome] at binds
    exact lt_size_of_binding? binds
  · cases found

variable {a : Nat} {v : Value} {b : Bindings} {p : FrameId}

theorem grown_define (exists_ : f < heap.frames.size) : heap.Grown (heap.define f x v) where
  frames := Nat.le_of_eq size_define.symm
  fields := Nat.le_refl _
  identities := Nat.le_refl _
  parent _ _ := parent?_define
  bound g y bound := by
    rw [binding?_define exists_]
    split
    · rfl
    · exact bound

theorem grown_newFrame : heap.Grown (heap.newFrame (some p) b).2 where
  frames := Nat.le_of_lt (Nat.lt_of_lt_of_eq (Nat.lt_succ_self _) size_newFrame.symm)
  fields := Nat.le_refl _
  identities := Nat.le_refl _
  parent g old := by rw [parent?_newFrame, if_neg (Nat.ne_of_lt old)]
  bound g y bound := by
    rwa [binding?_newFrame, if_neg (Nat.ne_of_lt (lt_size_of_binding? bound))]

theorem grown_newIdentity : heap.Grown heap.newIdentity.2 where
  frames := Nat.le_refl _
  fields := Nat.le_refl _
  identities := Nat.le_succ _
  parent _ _ := rfl
  bound _ _ bound := bound

theorem grown_newInstance : heap.Grown heap.newInstance.2 where
  frames := Nat.le_refl _
  fields := by
    rw [newInstance, Array.size_push]
    exact Nat.le_succ _
  identities := Nat.le_refl _
  parent _ _ := rfl
  bound _ _ bound := bound

theorem grown_setField : heap.Grown (heap.setField a x v) where
  frames := Nat.le_refl _
  fields := Nat.le_of_eq Array.size_modify.symm
  identities := Nat.le_refl _
  parent _ _ := rfl
  bound _ _ bound := bound

namespace Rooted

variable (h : heap.Rooted)

include h

theorem define (exists_ : f < heap.frames.size) (value : v.Present heap) :
    (heap.define f x v).Rooted where
  global := Nat.lt_of_lt_of_eq h.global size_define.symm
  parent g old isInner := by
    rw [parent?_define]
    exact h.parent g (Nat.lt_of_lt_of_eq old size_define) isInner
  binding g y w isValue := by
    refine Value.Present.mono ?_ (grown_define exists_)
    rw [binding?_define exists_] at isValue
    split at isValue
    · cases isValue
      exact value
    · exact h.binding g y w isValue
  field c y w isValue := (h.field c y w isValue).mono (grown_define exists_)

/-- A frame is made inside one that exists. -/
theorem newFrame (exists_ : p < heap.frames.size)
    (bindings : ∀ (x : String) (v : Value), b[x]? = some v → v.Present heap) :
    (heap.newFrame (some p) b).2.Rooted where
  global := Nat.lt_of_lt_of_eq (Nat.lt_succ_of_lt h.global) size_newFrame.symm
  parent g old isInner := by
    rw [parent?_newFrame]
    split
    · exact ⟨p, by rw [Option.filter_some, if_pos (decide_eq_true exists_)]⟩
    · next isOld =>
      rw [size_newFrame] at old
      exact h.parent g (Nat.lt_of_le_of_ne (Nat.le_of_lt_succ old) isOld) isInner
  binding g y w isValue := by
    refine Value.Present.mono ?_ grown_newFrame
    rw [binding?_newFrame] at isValue
    split at isValue
    · exact bindings y w isValue
    · exact h.binding g y w isValue
  field c y w isValue := (h.field c y w isValue).mono grown_newFrame

theorem newIdentity : heap.newIdentity.2.Rooted where
  global := h.global
  parent := h.parent
  binding g y w isValue := (h.binding g y w isValue).mono grown_newIdentity
  field c y w isValue := (h.field c y w isValue).mono grown_newIdentity

theorem newInstance : heap.newInstance.2.Rooted where
  global := h.global
  parent := h.parent
  binding g y w isValue := (h.binding g y w isValue).mono grown_newInstance
  field c y w isValue := (h.field c y w (field?_newInstance ▸ isValue)).mono grown_newInstance

theorem setField (value : v.Present heap) : (heap.setField a x v).Rooted where
  global := h.global
  parent := h.parent
  binding g y w isValue := (h.binding g y w isValue).mono grown_setField
  field c y w isValue := by
    refine Value.Present.mono ?_ grown_setField
    rw [field?_setField] at isValue
    split at isValue
    · cases isValue
      exact value
    · exact h.field c y w isValue

/-- What a name has for a value at a distance exists. -/
theorem getAt {distance line : Nat} (found : heap.getAt f distance x line = .ok v) :
    v.Present heap := by
  obtain ⟨g, -, isValue⟩ := exists_of_getAt found
  exact h.binding g x v isValue

/-- So does what it has for a value outward. -/
theorem get {t : Token} (found : heap.get f t = .ok v) : v.Present heap := by
  obtain ⟨g, -, isValue⟩ := exists_of_get found
  exact h.binding g t.lexeme v isValue

end Rooted

end Heap

end Lox
