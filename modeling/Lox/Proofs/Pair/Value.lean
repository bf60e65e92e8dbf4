import Lox.Proofs.Alike.State
import Lox.Proofs.Heap.Graph
import Lox.Proofs.Scope.WellScoped

/-!
# Values of two runs side by side

Two runs of alike trees may have different frames for the same place: one of them may enter a scope
that the other does not have, or objects may be made in another order. A *scene* shows both heaps
and says which frames belong together. At a place in one tree and the corresponding place in the
other one, every name is at distances at which such frames stand. Values of both runs are paired if
they are the same up to the labels of trees, the frames of functions, and a renaming of objects.

## Main definitions

* `Pairing`: the tables of both runs, and which objects belong together.
* `Scene`, `Scene.Around`: both heaps, and the frames around corresponding places.
* `Value.Paired`: values that belong together.

## Main results

* `Scene.Around.enter`, `Scene.Around.declare`: scopes and declarations.
* `Value.Paired.mono`: values stay paired in later scenes.
* `Value.Paired.equal`, `Value.Paired.binary`: operators do not tell paired values apart.
-/

namespace Lox

open Scope

/-- The tables of two runs. -/
structure Pairing where
  table : Std.TreeMap NodeId Nat
  table' : Std.TreeMap NodeId Nat

/-- Two heaps, the frames that belong together, and the objects with identities that do. -/
structure Scene where
  frames : FrameId → FrameId → Prop
  objects : Nat → Nat → Prop
  left : Heap
  right : Heap

/-- A table holds the distance of an occurrence at its place. -/
def Recorded (table : Std.TreeMap NodeId Nat) (p : Position) (_ : SiteKind) (o : Occurrence) :
    Prop :=
  table[o.id]? = p.distance? o.name.lexeme

namespace Scene

variable (σ τ : Scene)

/-- Frames that belong together stand at two distances. Where the distances differ, the frames bind
the name. -/
def Meets (x : String) (f f' : FrameId) (d d' : Nat) : Prop :=
  ∃ g g', σ.left.ancestor? f d = some g ∧ σ.right.ancestor? f' d' = some g' ∧ σ.frames g g' ∧
    (d = d' ∨ (σ.left.binding? g x).isSome = true)

/-- The innermost frames of both runs at corresponding places: the same names are local to both
places, and frames that belong together stand at their distances. -/
structure Around (p p' : Position) (f f' : FrameId) : Prop where
  exists_ : f < σ.left.frames.size
  exists' : f' < σ.right.frames.size
  meets : ∀ x, Option.Rel (σ.Meets x f f') (p.distance? x) (p'.distance? x)

/-- A later scene: the heaps have grown, and further frames and objects may belong together. -/
structure LE : Prop where
  frames : ∀ f f', σ.frames f f' → τ.frames f f'
  objects : ∀ n n', σ.objects n n' → τ.objects n n'
  left : σ.left.Grown τ.left
  right : σ.right.Grown τ.right

end Scene

section

variable (c : Pairing) (σ : Scene)

/-- Two closures of alike functions, each in the frame of its place. -/
structure Closure.Paired (k k' : Closure) : Prop where
  frames : σ.frames k.frame k'.frame
  isInitializer : k'.isInitializer = k.isInitializer
  declaration : k.declaration.Alike .renumbering k'.declaration
  place : ∃ p p' : Position, σ.Around p p' k.frame k'.frame ∧ p.pending = none ∧
    p'.pending = none ∧ k.declaration.WellScoped (Recorded c.table) p ∧
    k'.declaration.WellScoped (Recorded c.table') p'

/-- Two closures of alike methods, which have no receivers yet: their places are in scopes that hold
nothing but a receiver, around which are the frames of the closures. -/
structure Closure.Unbound (k k' : Closure) : Prop where
  isInitializer : k'.isInitializer = k.isInitializer
  declaration : k.declaration.Alike .renumbering k'.declaration
  place : ∃ (p p' : Position) (opener opener' : Node), σ.Around p p' k.frame k'.frame ∧
    p.pending = none ∧ p'.pending = none ∧
    k.declaration.WellScoped (Recorded c.table) (p.enter opener ["this"]) ∧
    k'.declaration.WellScoped (Recorded c.table') (p'.enter opener' ["this"])

/-- Two classes that belong together, with alike methods of the same names. -/
inductive Class.Paired : Class → Class → Prop
  | mk {identity identity' : Nat} {name : String} {superclass superclass' : Option Class}
      {methods methods' : Std.TreeMap String Closure} (together : σ.objects identity identity')
      (superclasses : Option.Rel Paired superclass superclass')
      (closures : ∀ x : String, Option.Rel (Closure.Unbound c σ) methods[x]? methods'[x]?) :
      Paired ⟨identity, name, superclass, methods⟩ ⟨identity', name, superclass', methods'⟩

/-- Two values that belong together. -/
inductive Value.Paired : Value → Value → Prop
  | nil : Paired .nil .nil
  | boolean (b : Bool) : Paired (.boolean b) (.boolean b)
  | number (x : Float) : Paired (.number x) (.number x)
  | string (s : String) : Paired (.string s) (.string s)
  | clock : Paired .clock .clock
  | function {identity identity' : Nat} {k k' : Closure} (together : σ.objects identity identity')
      (closure : k.Paired c σ k') : Paired (.function identity k) (.function identity' k')
  | classObject {k k' : Class} (h : k.Paired c σ k') : Paired (.classObject k) (.classObject k')
  | instance_ (address : Nat) {k k' : Class} (h : k.Paired c σ k') :
      Paired (.instance_ address k) (.instance_ address k')

/-- Paired values under the same names. -/
def Bindings.Paired (b b' : Bindings) : Prop :=
  ∀ x : String, Option.Rel (Value.Paired c σ) b[x]? b'[x]?

end

variable {c : Pairing} {σ τ : Scene}

/-! ### Later scenes -/

/-- What is at a distance of a frame that exists stays there. -/
theorem Heap.Grown.ancestor? {heap heap' : Heap} (grown : heap.Grown heap') {f g : FrameId}
    {d : Nat}
    (exists_ : f < heap.frames.size) (found : heap.ancestor? f d = some g) :
    heap'.ancestor? f d = some g := by
  have outward := outward_iff.2 found
  refine outward_iff.1 ?_
  induction outward with
  | here f => exact .here f
  | outer isParent more ih =>
    have older := Nat.lt_trans (lt_of_parent? isParent) exists_
    exact .outer ((grown.parent _ exists_).trans isParent) (ih older (outward_iff.1 more))

theorem Scene.LE.refl (σ : Scene) : σ.LE σ :=
  ⟨fun _ _ h => h, fun _ _ h => h, .refl _, .refl _⟩

theorem Scene.LE.trans {ρ : Scene} (h : σ.LE τ) (h' : τ.LE ρ) : σ.LE ρ :=
  ⟨fun f f' together => h'.frames f f' (h.frames f f' together),
    fun n n' together => h'.objects n n' (h.objects n n' together), h.left.trans h'.left,
    h.right.trans h'.right⟩

theorem Scene.Around.mono (le : σ.LE τ) {p p' : Position} {f f' : FrameId}
    (around : σ.Around p p' f f') : τ.Around p p' f f' where
  exists_ := Nat.lt_of_lt_of_le around.exists_ le.left.frames
  exists' := Nat.lt_of_lt_of_le around.exists' le.right.frames
  meets x := by
    refine rel_mono ?_ (around.meets x)
    rintro d d' ⟨g, g', found, found', together, same⟩
    exact ⟨g, g', le.left.ancestor? around.exists_ found, le.right.ancestor? around.exists' found',
      le.frames g g' together, same.imp_right (le.left.bound g x)⟩

theorem Closure.Paired.mono (le : σ.LE τ) {k k' : Closure} (h : k.Paired c σ k') :
    k.Paired c τ k' := by
  obtain ⟨p, p', around, settled⟩ := h.place
  exact ⟨le.frames _ _ h.frames, h.isInitializer, h.declaration, p, p', around.mono le, settled⟩

theorem Closure.Unbound.mono (le : σ.LE τ) {k k' : Closure} (h : k.Unbound c σ k') :
    k.Unbound c τ k' := by
  obtain ⟨p, p', opener, opener', around, settled⟩ := h.place
  exact ⟨h.isInitializer, h.declaration, p, p', opener, opener', around.mono le, settled⟩

theorem Class.Paired.mono (le : σ.LE τ) : ∀ {k k' : Class}, k.Paired c σ k' → k.Paired c τ k'
  | _, _, .mk together .none closures =>
    .mk (le.objects _ _ together) .none fun x => rel_mono (fun _ _ h => h.mono le) (closures x)
  | _, _, .mk together (.some superclass) closures =>
    .mk (le.objects _ _ together) (.some (superclass.mono le))
      fun x => rel_mono (fun _ _ h => h.mono le) (closures x)

/-- Values stay paired in later scenes. -/
theorem Value.Paired.mono (le : σ.LE τ) {v v' : Value} (h : v.Paired c σ v') : v.Paired c τ v' := by
  cases h with
  | function together closure => exact .function (le.objects _ _ together) (closure.mono le)
  | classObject h => exact .classObject (h.mono le)
  | instance_ address h => exact .instance_ address (h.mono le)
  | _ => constructor

theorem Bindings.Paired.mono (le : σ.LE τ) {b b' : Bindings} (h : b.Paired c σ b') :
    b.Paired c τ b' :=
  fun x => rel_mono (fun _ _ h => h.mono le) (h x)

/-! ### Classes and values -/

theorem Closure.Unbound.arity {k k' : Closure} (h : k.Unbound c σ k') : k'.arity = k.arity :=
  h.declaration.params.length_eq.symm

namespace Class.Paired

variable {k k' : Class}

theorem together (h : k.Paired c σ k') : σ.objects k.identity k'.identity := by
  cases h with
  | mk together => exact together

theorem name (h : k.Paired c σ k') : k'.name = k.name := by
  cases h with
  | mk => rfl

/-- Methods that belong together are found. -/
theorem findMethod (x : String) : ∀ {k k' : Class}, k.Paired c σ k' →
    Option.Rel (Closure.Unbound c σ) (k.findMethod? x) (k'.findMethod? x)
  | _, _, .mk _ .none closures => by
    rw [Class.findMethod?, Class.findMethod?]
    exact closures x
  | _, _, @mk _ _ _ _ _ _ _ methods methods' _ (.some superclass) closures => by
    rw [Class.findMethod?, Class.findMethod?]
    have own := closures x
    generalize methods[x]? = o at own
    generalize methods'[x]? = o' at own
    cases own with
    | none => exact findMethod x superclass
    | some closure => exact .some closure

theorem arity (h : k.Paired c σ k') : k'.arity = k.arity := by
  have found := h.findMethod "init"
  unfold Class.arity
  generalize k.findMethod? "init" = o at found
  generalize k'.findMethod? "init" = o' at found
  cases found with
  | none => rfl
  | some closure => exact closure.arity

end Class.Paired

namespace Value

variable {v v' w w' : Value} {t : Token}

theorem Plain.paired (h : v.Plain) : v.Paired c σ v := by
  cases h <;> constructor

namespace Paired

theorem sort (h : v.Paired c σ v') : v'.sort = v.sort := by
  cases h <;> rfl

theorem text (h : v.Paired c σ v') : v'.text = v.text := by
  cases h with
  | function _ closure =>
    exact congrArg (fun name => "<fn " ++ name ++ ">") closure.declaration.name.lexeme
  | classObject h => exact h.name
  | instance_ _ h => exact congrArg (· ++ " instance") h.name
  | _ => rfl

theorem isTruthy (h : v.Paired c σ v') : v'.isTruthy = v.isTruthy := by
  cases h <;> rfl

theorem decides (h : v.Paired c σ v') (t : Token) : Value.decides t v' = Value.decides t v := by
  rw [Value.decides, Value.decides, h.isTruthy]

theorem arity (h : v.Paired c σ v') : v'.arity? = v.arity? := by
  cases h with
  | function _ closure => exact congrArg some closure.declaration.params.length_eq.symm
  | classObject h => exact congrArg some h.arity
  | _ => rfl

/-- Objects are the same in one run if those that belong to them are the same in the other. -/
theorem equal (unique : ∀ n n' m m', σ.objects n n' → σ.objects m m' → (n = m ↔ n' = m'))
    (h : v.Paired c σ v') (h' : w.Paired c σ w') : v'.equal w' = v.equal w := by
  cases h with
  | function together =>
    cases h' with
    | function together' =>
      rw [Value.equal, Value.equal, Bool.eq_iff_iff, beq_iff_eq, beq_iff_eq]
      exact (unique _ _ _ _ together together').symm
    | _ => rfl
  | classObject h =>
    cases h' with
    | classObject h' =>
      rw [Value.equal, Value.equal, Bool.eq_iff_iff, beq_iff_eq, beq_iff_eq]
      exact (unique _ _ _ _ h.together h'.together).symm
    | _ => rfl
  | _ => cases h' <;> rfl

/-- The results of operators do not depend on what objects the operands are. -/
theorem unary (h : v.Paired c σ v') : Value.unary t v' = Value.unary t v := by
  unfold Value.unary
  rw [h.isTruthy]
  cases h <;> rfl

theorem binary (unique : ∀ n n' m m', σ.objects n n' → σ.objects m m' → (n = m ↔ n' = m'))
    (h : v.Paired c σ v') (h' : w.Paired c σ w') :
    Value.binary v' t w' = Value.binary v t w := by
  unfold Value.binary
  rw [h.equal unique h']
  cases h <;> cases h' <;> rfl

end Paired

end Value

/-! ### Bindings -/

namespace Bindings

theorem paired_empty : (∅ : Bindings).Paired c σ ∅ := by
  intro x
  rw [Std.TreeMap.getElem?_emptyc]
  exact .none

theorem Paired.insert {b b' : Bindings} (h : b.Paired c σ b') (x : String) {v v' : Value}
    (value : v.Paired c σ v') : Paired c σ (b.insert x v) (b'.insert x v') := by
  intro y
  rw [Std.TreeMap.getElem?_insert, Std.TreeMap.getElem?_insert]
  split
  · exact .some value
  · exact h y

/-- Paired arguments are bound to the same parameters. -/
theorem Paired.parameters {names : List String} {vs vs' : List Value}
    (arguments : List.Forall₂ (Value.Paired c σ) vs vs') {b b' : Bindings} (h : b.Paired c σ b') :
    Paired c σ
      ((names.zip vs).foldl (fun bindings (name, value) => bindings.insert name value) b)
      ((names.zip vs').foldl (fun bindings (name, value) => bindings.insert name value) b') := by
  induction names generalizing vs vs' b b' with
  | nil => exact h
  | cons name names ih =>
    cases arguments with
    | nil => exact h
    | cons value values => exact ih values (h.insert name value)

end Bindings

/-! ### Frames around places -/

namespace Scene

variable {p p' : Position} {f f' g g' : FrameId} {x : String}

/-- A name is found at the beginning of the walks outward. -/
theorem meets_here (together : σ.frames f f') : σ.Meets x f f' 0 0 :=
  ⟨f, f', rfl, rfl, together, .inl rfl⟩

/-- A name is found one frame further outward from inside. -/
theorem Meets.inner {d d' : Nat} (h : σ.Meets x f f' d d') (isParent : σ.left.parent? g = some f)
    (isParent' : σ.right.parent? g' = some f') : σ.Meets x g g' (d + 1) (d' + 1) := by
  obtain ⟨owner, owner', found, found', together, same⟩ := h
  refine ⟨owner, owner', ?_, ?_, together, same.imp_left (congrArg (· + 1))⟩
  · rw [Heap.ancestor?, isParent]
    exact found
  · rw [Heap.ancestor?, isParent']
    exact found'

namespace Around

variable (around : σ.Around p p' f f')

include around

/-- Places in a scope that both runs enter. -/
theorem enter (settled : p.pending = none) (settled' : p'.pending = none) (opener opener' : Node)
    (names : List String) (isParent : σ.left.parent? g = some f)
    (isParent' : σ.right.parent? g' = some f') (together : σ.frames g g')
    (exists_ : g < σ.left.frames.size) (exists' : g' < σ.right.frames.size) :
    σ.Around (p.enter opener names) (p'.enter opener' names) g g' where
  exists_ := exists_
  exists' := exists'
  meets x := by
    rw [Position.distance?_enter settled, Position.distance?_enter settled']
    split
    · exact .some (meets_here together)
    · have meets := around.meets x
      generalize p.distance? x = o at meets
      generalize p'.distance? x = o' at meets
      cases meets with
      | none => exact .none
      | some meets => exact .some (meets.inner isParent isParent')

/-- Places behind declarations of the same name. -/
theorem declare (together : σ.frames f f') (level : p.layers = [] ↔ p'.layers = []) (x : String) :
    σ.Around (p.declare x) (p'.declare x) f f' where
  exists_ := around.exists_
  exists' := around.exists'
  meets y := by
    have same : p.layers ≠ [] ∧ y = x ↔ p'.layers ≠ [] ∧ y = x := and_congr_left' (not_congr level)
    rw [Position.distance?_declare, Position.distance?_declare]
    by_cases here : p.layers ≠ [] ∧ y = x
    · rw [if_pos here, if_pos (same.1 here)]
      exact .some (meets_here together)
    · rw [if_neg here, if_neg fun here' => here (same.2 here')]
      exact around.meets y

/-- Places inside declarations of the same name. -/
theorem await (settled : p.pending = none) (settled' : p'.pending = none) (together : σ.frames f f')
    (level : p.layers = [] ↔ p'.layers = []) (x : String) :
    σ.Around (p.await x) (p'.await x) f f' where
  exists_ := around.exists_
  exists' := around.exists'
  meets y := by
    rw [Position.distance?_await settled, Position.distance?_await settled']
    exact (around.declare together level x).meets y

end Around

end Scene

end Lox
