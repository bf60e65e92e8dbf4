import Lox.Proofs.Evaluation.Maker
import Lox.Proofs.Heap
import Lox.Proofs.Lexical.Evaluator
import Lox.Proofs.Scope.WellScoped

/-!
# Two heaps side by side

The evaluator with distances keeps one frame for each scope, which gains names as declarations are
executed; the lexical evaluator has one frame for each declaration. A *world* says which frames of
the two belong together. Worlds only grow. The frames around a place in a program follow the layers
of the place: a frame of the first evaluator for each layer, and one frame of the second for each
name that is declared there so far.

## Main definitions

* `World`, `World.Extends`: the frames of both evaluators, and how they grow.
* `World.Around`: the frames of both around a place.
* `World.SameClosure`, `World.SameMethod`, `World.SameClass`, `World.Same`: related values.
* `World.Coherent`: related states.

## Main results

* `World.Same.mono`, `World.Around.mono`: relations outlast the growth of a world.
-/

namespace Lox

open Scope Evaluation

/-- A frame of the evaluator with distances: its parent, the goal that made it, and the receiver or
superclass that it binds from the beginning. -/
structure World.Origin where
  parent : Option FrameId
  maker : Option Task
  given : Option (String × Value)

/-- A frame of the lexical evaluator: the frame of the other evaluator to which it belongs, the name
that it binds, if any, and its parent. -/
structure World.Cell where
  owner : FrameId
  name : Option String
  parent : Option FrameId

/-- The frames of both evaluators, the number of the next occurrence of a name, what is known about
occurrences of names, and the goals that have come up so far. -/
structure World where
  frames : List World.Origin
  cells : List World.Cell
  nextId : NodeId
  known : Position → SiteKind → Occurrence → Prop
  visited : Task → Prop

namespace World

/-! ### Growing worlds -/

/-- A world has all that another one has. -/
structure LE (w w' : World) : Prop where
  frames : w.frames <+: w'.frames
  cells : w.cells <+: w'.cells
  known : ∀ p kind o, w.known p kind o → w'.known p kind o
  visited : ∀ task, w.visited task → w'.visited task

/-- A world grows by frames, and by names in new frames or names that `own` allows. -/
structure Extends (own : FrameId → String → Prop) (w w' : World) : Prop where
  frames : w.frames <+: w'.frames
  cells : w.cells <+: w'.cells
  nextId : w'.nextId = w.nextId
  known : w'.known = w.known
  visited : w'.visited = w.visited
  names : ∀ g cell x, w'.cells[g]? = some cell → w.cells.length ≤ g → cell.name = some x →
    w.frames.length ≤ cell.owner ∨ own cell.owner x

/-- No name in an old frame. -/
abbrev nowhere : FrameId → String → Prop :=
  fun _ _ => False

/-- Any names. -/
abbrev anywhere : FrameId → String → Prop :=
  fun _ _ => True

variable {w w' w'' : World} {own own' : FrameId → String → Prop}

theorem LE.refl (w : World) : LE w w :=
  ⟨List.prefix_rfl, List.prefix_rfl, fun _ _ _ h => h, fun _ h => h⟩

theorem LE.trans (h : LE w w') (h' : LE w' w'') : LE w w'' :=
  ⟨h.frames.trans h'.frames, h.cells.trans h'.cells,
    fun p kind o isKnown => h'.known p kind o (h.known p kind o isKnown),
    fun task isVisited => h'.visited task (h.visited task isVisited)⟩

theorem Extends.le (h : Extends own w w') : LE w w' :=
  ⟨h.frames, h.cells, fun _ _ _ isKnown => h.known ▸ isKnown,
    fun _ isVisited => h.visited ▸ isVisited⟩

theorem Extends.refl (w : World) : Extends own w w := by
  refine ⟨List.prefix_rfl, List.prefix_rfl, rfl, rfl, rfl, fun g cell x found old _ => ?_⟩
  have := (List.getElem?_eq_some_iff.1 found).1
  omega

theorem Extends.mono (h : Extends own w w') (more : ∀ f x, own f x → own' f x) :
    Extends own' w w' :=
  ⟨h.frames, h.cells, h.nextId, h.known, h.visited, fun g cell x found new named =>
    (h.names g cell x found new named).imp_right (more cell.owner x)⟩

theorem Extends.anywhere (h : Extends own w w') : Extends anywhere w w' :=
  h.mono fun _ _ _ => trivial

/-- What was there in the beginning is still there. -/
theorem getElem?_eq_of_initial {α : Type} {l l' : List α} (h : l <+: l') {n : Nat} {a : α}
    (found : l[n]? = some a) : l'[n]? = some a := by
  obtain ⟨rest, rfl⟩ := h
  rw [List.getElem?_append_left (List.getElem?_eq_some_iff.1 found).1, found]

theorem Extends.trans (h : Extends own w w') (h' : Extends own w' w'') : Extends own w w'' := by
  refine ⟨h.frames.trans h'.frames, h.cells.trans h'.cells, h'.nextId.trans h.nextId,
    h'.known.trans h.known, h'.visited.trans h.visited, fun g cell x found new named => ?_⟩
  rcases Nat.lt_or_ge g w'.cells.length with old | new'
  · have found' : w'.cells[g]? = some cell := by
      obtain ⟨rest, isRest⟩ := h'.cells
      rw [← isRest, List.getElem?_append_left old] at found
      exact found
    exact h.names g cell x found' new named
  · rcases h'.names g cell x found new' named with fresh | owned
    · exact .inl (Nat.le_trans h.frames.length_le fresh)
    · exact .inr owned

/-! ### The frames around a place -/

/-- A frame was made by a goal that has come up. -/
def Made (w : World) (maker : Task) (f : FrameId) : Prop :=
  w.visited maker ∧ Makes maker f

/-- The innermost frames of both evaluators around a place with the given layers. -/
inductive Around (w : World) : FrameId → FrameId → List Layer → Prop
  | root : Around w globalFrame globalFrame []
  /-- A layer without names yet. -/
  | opened {f g f' g' : FrameId} {opener : Node} {layers : List Layer} {maker : Task}
      (frame : w.frames[f]? = some ⟨some f', some maker, none⟩)
      (cell : w.cells[g]? = some ⟨f, none, some g'⟩) (made : w.Made maker f)
      (executes : Executes maker opener f' none) (outer : Around w f' g' layers) :
      Around w f g (⟨opener, []⟩ :: layers)
  /-- A layer that was made with its only name. -/
  | bound {f g f' g' : FrameId} {opener : Node} {x : String} {v : Value} {layers : List Layer}
      {maker : Task} (frame : w.frames[f]? = some ⟨some f', some maker, some (x, v)⟩)
      (cell : w.cells[g]? = some ⟨f, some x, some g'⟩) (made : w.Made maker f)
      (executes : Executes maker opener f' (some (x, v))) (outer : Around w f' g' layers) :
      Around w f g (⟨opener, [x]⟩ :: layers)
  /-- A further name in the innermost layer. -/
  | declared {f g g' : FrameId} {opener : Node} {x : String} {names : List String}
      {layers : List Layer} (cell : w.cells[g]? = some ⟨f, some x, some g'⟩)
      (inner : Around w f g' (⟨opener, names⟩ :: layers)) :
      Around w f g (⟨opener, x :: names⟩ :: layers)

theorem Made.mono (h : LE w w') {maker : Task} {f : FrameId} (made : w.Made maker f) :
    w'.Made maker f :=
  ⟨h.visited maker made.1, made.2⟩

theorem Around.mono (h : LE w w') {f g : FrameId} {layers : List Layer}
    (around : Around w f g layers) : Around w' f g layers := by
  induction around with
  | root => exact .root
  | opened frame cell made executes _ ih =>
    exact .opened (getElem?_eq_of_initial h.frames frame) (getElem?_eq_of_initial h.cells cell)
      (made.mono h) executes ih
  | bound frame cell made executes _ ih =>
    exact .bound (getElem?_eq_of_initial h.frames frame) (getElem?_eq_of_initial h.cells cell)
      (made.mono h) executes ih
  | declared cell _ ih => exact .declared (getElem?_eq_of_initial h.cells cell) ih

/-! ### Related values -/

/-- Closures of one function that can be called: their frames are around its place. An initializer
can be called once it is bound to a receiver. -/
structure SameClosure (w : World) (c c' : Closure) : Prop where
  declaration : c'.declaration = c.declaration
  isInitializer : c'.isInitializer = c.isInitializer
  place : ∃ p : Position, Around w c.frame c'.frame p.layers ∧ p.pending = none ∧
    c.declaration.WellScoped w.known p ∧
    (c.isInitializer = true → ∃ layer layers, p.layers = layer :: layers ∧ layer.names = ["this"])

/-- Closures of one method that is not bound to a receiver yet: their frames are around the class,
and the method has its place in a frame with a receiver inside. -/
structure SameMethod (w : World) (c c' : Closure) : Prop where
  declaration : c'.declaration = c.declaration
  isInitializer : c'.isInitializer = c.isInitializer
  place : ∃ (p : Position) (name : Token) (superclass : Option Occurrence)
      (methods : List FunctionDecl),
    Around w c.frame c'.frame p.layers ∧ p.pending = none ∧ c.declaration ∈ methods ∧
      c.declaration.WellScoped w.known
        (p.enter (.statement (.classDecl name superclass methods)) ["this"])

/-- Related tables of methods. -/
def SameMethods (w : World) (methods methods' : Std.TreeMap String Closure) : Prop :=
  ∀ name : String, Option.Rel (SameMethod w) methods[name]? methods'[name]?

/-- A class was defined by a goal that has come up. -/
def Defined (w : World) (superclass : Option Class) (name : String)
    (methods : Std.TreeMap String Closure) : Prop :=
  ∃ task decls frame, w.visited task ∧ Defines task superclass name decls ∧
    methods = methodTable decls frame

/-- Related classes. -/
inductive SameClass (w : World) : Class → Class → Prop
  | root {identity : Nat} {name : String} {methods methods' : Std.TreeMap String Closure}
      (defined : w.Defined none name methods) (h : SameMethods w methods methods') :
      SameClass w ⟨identity, name, none, methods⟩ ⟨identity, name, none, methods'⟩
  | derived {identity : Nat} {name : String} {c c' : Class}
      {methods methods' : Std.TreeMap String Closure} (above : SameClass w c c')
      (defined : w.Defined (some c) name methods) (h : SameMethods w methods methods') :
      SameClass w ⟨identity, name, some c, methods⟩ ⟨identity, name, some c', methods'⟩

/-- Related values. -/
inductive Same (w : World) : Value → Value → Prop
  | nil : Same w .nil .nil
  | boolean {b : Bool} : Same w (.boolean b) (.boolean b)
  | number {x : Float} : Same w (.number x) (.number x)
  | string {s : String} : Same w (.string s) (.string s)
  | clock : Same w .clock .clock
  | function {identity : Nat} {c c' : Closure} (h : SameClosure w c c') :
      Same w (.function identity c) (.function identity c')
  | classObject {c c' : Class} (h : SameClass w c c') : Same w (.classObject c) (.classObject c')
  | instance_ {address : Nat} {c c' : Class} (h : SameClass w c c') :
      Same w (.instance_ address c) (.instance_ address c')

theorem SameClosure.mono (h : LE w w') {c c' : Closure} (same : SameClosure w c c') :
    SameClosure w' c c' := by
  obtain ⟨p, around, settled, wellScoped, isBound⟩ := same.place
  exact ⟨same.declaration, same.isInitializer, p, around.mono h, settled,
    wellScoped.mono h.known, isBound⟩

theorem SameMethod.mono (h : LE w w') {c c' : Closure} (same : SameMethod w c c') :
    SameMethod w' c c' := by
  obtain ⟨p, name, superclass, methods, around, settled, declared, wellScoped⟩ := same.place
  exact ⟨same.declaration, same.isInitializer, p, name, superclass, methods, around.mono h,
    settled, declared, wellScoped.mono h.known⟩

theorem rel_mono {α β : Type} {r r' : α → β → Prop} (h : ∀ a b, r a b → r' a b)
    {a : Option α} {b : Option β} (related : Option.Rel r a b) : Option.Rel r' a b := by
  cases related with
  | some isRelated => exact .some (h _ _ isRelated)
  | none => exact .none

theorem rel_cases {α β : Type} {r : α → β → Prop} {a : Option α} {b : Option β}
    (related : Option.Rel r a b) :
    (∃ x y, a = some x ∧ b = some y ∧ r x y) ∨ a = none ∧ b = none := by
  cases related with
  | some isRelated => exact .inl ⟨_, _, rfl, rfl, isRelated⟩
  | none => exact .inr ⟨rfl, rfl⟩

theorem SameMethods.mono (h : LE w w') {methods methods' : Std.TreeMap String Closure}
    (same : SameMethods w methods methods') : SameMethods w' methods methods' :=
  fun name => rel_mono (fun _ _ => SameMethod.mono h) (same name)

theorem Defined.mono (h : LE w w') {superclass : Option Class} {name : String}
    {methods : Std.TreeMap String Closure} (defined : w.Defined superclass name methods) :
    w'.Defined superclass name methods := by
  obtain ⟨task, decls, frame, visited, defines, isTable⟩ := defined
  exact ⟨task, decls, frame, h.visited task visited, defines, isTable⟩

theorem SameClass.mono (h : LE w w') {c c' : Class} (same : SameClass w c c') :
    SameClass w' c c' := by
  induction same with
  | root defined methods => exact .root (defined.mono h) (methods.mono h)
  | derived _ defined methods ih => exact .derived ih (defined.mono h) (methods.mono h)

theorem Same.mono (h : LE w w') {v v' : Value} (same : Same w v v') : Same w' v v' := by
  cases same with
  | function same => exact .function (same.mono h)
  | classObject same => exact .classObject (same.mono h)
  | instance_ same => exact .instance_ (same.mono h)
  | _ => constructor

/-- Related classes have related methods. -/
theorem SameClass.findMethod? {c c' : Class} (same : SameClass w c c') (name : String) :
    Option.Rel (SameMethod w) (c.findMethod? name) (c'.findMethod? name) := by
  induction same with
  | root _ h => exact h name
  | derived _ _ h ih =>
    simp only [Class.findMethod?]
    rcases rel_cases (h name) with ⟨method, method', found, found', isSame⟩ | ⟨notFound, notFound'⟩
    · rw [found, found']
      exact .some isSame
    · rw [notFound, notFound']
      exact ih

/-! ### Operations on related values -/

section

variable {v v' u u' : Value}

theorem SameClass.name {c c' : Class} (same : SameClass w c c') : c'.name = c.name := by
  cases same <;> rfl

theorem SameClass.identity {c c' : Class} (same : SameClass w c c') :
    c'.identity = c.identity := by
  cases same <;> rfl

theorem SameClass.arity {c c' : Class} (same : SameClass w c c') : c'.arity = c.arity := by
  unfold Class.arity
  rcases rel_cases (same.findMethod? "init") with
    ⟨method, method', found, found', isSame⟩ | ⟨notFound, notFound'⟩
  · simp only [found, found', Closure.arity, isSame.declaration]
  · rw [notFound, notFound']

theorem Same.text (same : Same w v v') : v'.text = v.text := by
  cases same with
  | function h => simp only [Value.text, Closure.name, h.declaration]
  | classObject h => exact h.name
  | instance_ h => simp only [Value.text, h.name]
  | _ => rfl

theorem Same.sort (same : Same w v v') : v'.sort = v.sort := by
  cases same <;> rfl

theorem Same.isTruthy (same : Same w v v') : v'.isTruthy = v.isTruthy := by
  cases same <;> rfl

theorem Same.decides (same : Same w v v') (operator : Token) :
    v'.decides operator = v.decides operator := by
  simp only [Value.decides, same.isTruthy]

theorem Same.arity? (same : Same w v v') : v'.arity? = v.arity? := by
  cases same with
  | function h => simp only [Value.arity?, Closure.arity, h.declaration]
  | classObject h => simp only [Value.arity?, h.arity]
  | _ => rfl

theorem Same.equal (same : Same w v v') (same' : Same w u u') : v'.equal u' = v.equal u := by
  cases same <;> cases same' <;> simp only [Value.equal]
  next h _ _ h' => rw [h.identity, h'.identity]

/-- Related outcomes: related values, or a fault that the program has brought about. -/
inductive SameResult (w : World) : Except Fault Value → Except Fault Value → Prop
  | ok {v v' : Value} (same : Same w v v') : SameResult w (.ok v) (.ok v')
  | error {fault : Fault} (proper : fault.kind ≠ .internal) :
      SameResult w (.error fault) (.error fault)

theorem Same.unary {operator : Token} (isUnary : operator.IsUnary) (same : Same w v v') :
    SameResult w (Value.unary operator v) (Value.unary operator v') := by
  unfold Value.unary
  rcases isUnary with isMinus | isBang
  · rw [isMinus]
    cases same with
    | number => exact .ok .number
    | _ => exact .error nofun
  · rw [isBang, same.isTruthy]
    exact .ok .boolean

/-- An operator that takes numbers only. -/
theorem same_numeric {line : Nat} {result : Float → Float → Except Fault Value}
    (plain : ∀ x y, SameResult w (result x y) (result x y)) :
    ∀ {v v' u u' : Value}, Same w v v' → Same w u u' →
      SameResult w
        (match v, u with
          | .number x, .number y => result x y
          | _, _ => .error ⟨.operandsNotNumbers, line⟩)
        (match v', u' with
          | .number x, .number y => result x y
          | _, _ => .error ⟨.operandsNotNumbers, line⟩) := by
  intro v v' u u' same same'
  cases same <;> cases same' <;> first | exact plain _ _ | exact .error nofun

theorem Same.binary {operator : Token} (isBinary : operator.IsBinary) (same : Same w v v')
    (same' : Same w u u') :
    SameResult w (Value.binary v operator u) (Value.binary v' operator u') := by
  have equal := same.equal same'
  obtain ⟨s, isSymbol, mem⟩ := isBinary
  simp only [List.mem_cons, List.not_mem_nil, or_false] at mem
  unfold Value.binary
  rw [isSymbol, equal]
  rcases mem with rfl | rfl | rfl | rfl | rfl | rfl | rfl | rfl | rfl | rfl
  case inr.inl =>
    cases same <;> cases same' <;>
      first | exact .ok .number | exact .ok .string | exact .error nofun
  case inr.inr.inr.inr.inl => exact .ok .boolean
  case inr.inr.inr.inr.inr.inl => exact .ok .boolean
  all_goals
    refine same_numeric (fun x y => ?_) same same'
    simp only [Value.arithmetic, isSymbol]
    constructor
    constructor

end

end World

end Lox
