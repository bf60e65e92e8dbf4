import Lox.Proofs.Alike.Relabel
import Lox.Proofs.Evaluation.Output
import Lox.Proofs.Heap

/-!
# Alike states

Values, heaps and interpreters are alike if they are the same up to the labels of the trees in them.
Frames, instances and identities have the same numbers on both sides. The tables of distances agree
on corresponding occurrences, and may hold anything for other ones.

## Main definitions

* `Value.Alike`, `HeapAlike`, `Interpreter.Alike`: the same up to a relabelling.
* `Checked`: results, or faults on corresponding lines.

## Main results

* `Value.Alike.text`, `Value.Alike.equal`, `Value.binary_alike`: alike values are treated alike.
* `Interpreter.Alike.lookUp`, `Interpreter.Alike.define`, `Interpreter.Alike.property`: so are alike
  states.
-/

namespace Lox

section

variable (c : Relabelling)

/-- Two closures of alike functions in one frame. -/
structure Closure.Alike (f f' : Closure) : Prop where
  declaration : f.declaration.Alike c f'.declaration
  frame : f'.frame = f.frame
  isInitializer : f'.isInitializer = f.isInitializer

/-- Two classes with alike methods of the same names. -/
inductive Class.Alike : Class → Class → Prop
  | mk {identity : Nat} {name : String} {superclass superclass' : Option Class}
      {methods methods' : Std.TreeMap String Closure}
      (superclasses : Option.Rel Alike superclass superclass')
      (closures : ∀ x : String, Option.Rel (Closure.Alike c) methods[x]? methods'[x]?) :
      Alike ⟨identity, name, superclass, methods⟩ ⟨identity, name, superclass', methods'⟩

/-- Two values that are the same up to the labels of the functions in them. -/
inductive Value.Alike : Value → Value → Prop
  | nil : Alike .nil .nil
  | boolean (b : Bool) : Alike (.boolean b) (.boolean b)
  | number (x : Float) : Alike (.number x) (.number x)
  | string (s : String) : Alike (.string s) (.string s)
  | clock : Alike .clock .clock
  | function (identity : Nat) {f f' : Closure} (closure : f.Alike c f') :
      Alike (.function identity f) (.function identity f')
  | classObject {k k' : Class} (h : k.Alike c k') : Alike (.classObject k) (.classObject k')
  | instance_ (address : Nat) {k k' : Class} (h : k.Alike c k') :
      Alike (.instance_ address k) (.instance_ address k')

/-- Alike values under the same names. -/
def BindingsAlike (b b' : Bindings) : Prop :=
  ∀ x : String, Option.Rel (Value.Alike c) b[x]? b'[x]?

/-- Two heaps of the same shape with alike values. -/
structure HeapAlike (h h' : Heap) : Prop where
  size : h'.frames.size = h.frames.size
  parent : ∀ f, h'.parent? f = h.parent? f
  binding : ∀ f x, Option.Rel (Value.Alike c) (h.binding? f x) (h'.binding? f x)
  instances : h'.fields.size = h.fields.size
  field : ∀ address x, Option.Rel (Value.Alike c) (h.field? address x) (h'.field? address x)
  nextIdentity : h'.nextIdentity = h.nextIdentity

/-- Two states with alike heaps, in runs that began in the states `w`. Corresponding occurrences
have the same distances, if any; the tables, the next numbers and the device of the sink are those
from the beginning. -/
structure Interpreter.Alike (w : Interpreter × Interpreter) (i i' : Interpreter) : Prop where
  heap : HeapAlike c i.heap i'.heap
  frame : i'.frame = i.frame
  depth : i'.depth = i.depth
  distances : ∀ a b, c.ids a b → i'.distances[b]? = i.distances[a]?
  sink : i'.sink = i.sink
  clock : i'.clock = i.clock
  readings : i'.readings = i.readings
  table : i.distances = w.1.distances
  table' : i'.distances = w.2.distances
  nextId : i.nextId = w.1.nextId
  nextId' : i'.nextId = w.2.nextId
  device : i.sink.device = w.1.sink.device

/-- Two faults with one cause on corresponding lines. -/
structure Fault.Alike (e e' : Fault) : Prop where
  cause : e'.cause = e.cause
  line : c.lines e.line e'.line

/-- Results that are related by `Q`, or alike faults. -/
inductive Checked {α β : Type} (Q : α → β → Prop) : Except Fault α → Except Fault β → Prop
  | ok {a : α} {b : β} (related : Q a b) : Checked Q (.ok a) (.ok b)
  | error {e e' : Fault} (faults : e.Alike c e') : Checked Q (.error e) (.error e')

end

variable {c d : Relabelling}

/-! ### Larger relabellings -/

theorem Closure.Alike.mono {f f' : Closure} (h : f.Alike c f') (le : c.LE d) : f.Alike d f' :=
  ⟨le.function h.declaration, h.frame, h.isInitializer⟩

theorem rel_mono {α : Type} {R S : α → α → Prop} (imp : ∀ a a', R a a' → S a a') {o o' : Option α}
    (h : Option.Rel R o o') : Option.Rel S o o' := by
  cases h with
  | none => exact .none
  | some h => exact .some (imp _ _ h)

theorem Class.Alike.mono (le : c.LE d) : ∀ {k k' : Class}, k.Alike c k' → k.Alike d k'
  | _, _, .mk .none closures => .mk .none fun x => rel_mono (fun _ _ h => h.mono le) (closures x)
  | _, _, .mk (.some superclass) closures =>
    .mk (.some (superclass.mono le)) fun x => rel_mono (fun _ _ h => h.mono le) (closures x)

theorem Value.Alike.mono {v v' : Value} (h : v.Alike c v') (le : c.LE d) : v.Alike d v' := by
  cases h with
  | nil => exact .nil
  | boolean b => exact .boolean b
  | number x => exact .number x
  | string s => exact .string s
  | clock => exact .clock
  | function identity closure => exact .function identity (closure.mono le)
  | classObject h => exact .classObject (h.mono le)
  | instance_ address h => exact .instance_ address (h.mono le)

theorem HeapAlike.mono {h h' : Heap} (alike : HeapAlike c h h') (le : c.LE d) : HeapAlike d h h' :=
  { alike with
    binding := fun f x => rel_mono (fun _ _ h => h.mono le) (alike.binding f x)
    field := fun address x => rel_mono (fun _ _ h => h.mono le) (alike.field address x) }

/-! ### Classes and values -/

theorem Closure.Alike.arity {f f' : Closure} (h : f.Alike c f') : f'.arity = f.arity :=
  h.declaration.params.length_eq.symm

theorem Closure.Alike.name {f f' : Closure} (h : f.Alike c f') : f'.name = f.name :=
  h.declaration.name.lexeme

namespace Class.Alike

variable {k k' : Class}

theorem identity (h : k.Alike c k') : k'.identity = k.identity := by
  cases h with
  | mk => rfl

theorem name (h : k.Alike c k') : k'.name = k.name := by
  cases h with
  | mk => rfl

/-- Methods are found alike. -/
theorem findMethod (x : String) : ∀ {k k' : Class}, k.Alike c k' →
    Option.Rel (Closure.Alike c) (k.findMethod? x) (k'.findMethod? x)
  | _, _, .mk .none closures => by
    rw [Class.findMethod?, Class.findMethod?]
    exact closures x
  | _, _, @mk _ _ _ _ _ methods methods' (.some superclass) closures => by
    rw [Class.findMethod?, Class.findMethod?]
    have own := closures x
    generalize methods[x]? = o at own
    generalize methods'[x]? = o' at own
    cases own with
    | none => exact findMethod x superclass
    | some closure => exact .some closure

theorem arity (h : k.Alike c k') : k'.arity = k.arity := by
  have found := h.findMethod "init"
  unfold Class.arity
  generalize k.findMethod? "init" = o at found
  generalize k'.findMethod? "init" = o' at found
  cases found with
  | none => rfl
  | some closure => exact closure.arity

end Class.Alike

namespace Value

variable {v v' w w' : Value} {t t' : Token}

theorem Alike.sort (h : v.Alike c v') : v'.sort = v.sort := by
  cases h <;> rfl

theorem Alike.text (h : v.Alike c v') : v'.text = v.text := by
  cases h with
  | function _ closure => exact congrArg (fun name => "<fn " ++ name ++ ">") closure.name
  | classObject h => exact h.name
  | instance_ _ h => exact congrArg (· ++ " instance") h.name
  | _ => rfl

theorem Alike.isTruthy (h : v.Alike c v') : v'.isTruthy = v.isTruthy := by
  cases h <;> rfl

theorem Alike.arity (h : v.Alike c v') : v'.arity? = v.arity? := by
  cases h with
  | function _ closure => exact congrArg some closure.arity
  | classObject h => exact congrArg some h.arity
  | _ => rfl

theorem Alike.equal (h : v.Alike c v') (h' : w.Alike c w') : v'.equal w' = v.equal w := by
  cases h with
  | classObject h =>
    cases h' with
    | classObject h' =>
      dsimp only [Value.equal]
      rw [h.identity, h'.identity]
    | _ => rfl
  | _ => cases h' <;> rfl

theorem ofLiteral_alike (l : Literal) : (ofLiteral l).Alike c (ofLiteral l) := by
  cases l with
  | number x => exact .number x
  | string s => exact .string s
  | boolean b => exact .boolean b
  | nil => exact .nil

theorem decides_alike (operator : t.Alike c t') (left : v.Alike c v') :
    decides t' v' = decides t v := by
  rw [decides, decides, operator.kind, left.isTruthy]

theorem unary_alike (operator : t.Alike c t') (right : v.Alike c v') :
    Checked c (Value.Alike c) (unary t v) (unary t' v') := by
  unfold unary
  rw [operator.kind, right.isTruthy, operator.lexeme]
  split
  · cases right with
    | number x => exact .ok (.number _)
    | _ => exact .error ⟨rfl, operator.line⟩
  · exact .ok (.boolean _)
  · exact .error ⟨rfl, operator.line⟩

theorem arithmetic_alike (operator : t.Alike c t') (x y : Float) :
    Checked c (Value.Alike c) (arithmetic t x y) (arithmetic t' x y) := by
  unfold arithmetic
  rw [operator.kind, operator.lexeme]
  split
  case h_8 => exact .error ⟨rfl, operator.line⟩
  all_goals first | exact .ok (.number _) | exact .ok (.boolean _)

theorem binary_alike (left : v.Alike c v') (operator : t.Alike c t') (right : w.Alike c w') :
    Checked c (Value.Alike c) (binary v t w) (binary v' t' w') := by
  unfold binary
  rw [operator.kind, left.equal right]
  split
  · exact .ok (.boolean _)
  · exact .ok (.boolean _)
  · cases left with
    | number x =>
      cases right with
      | number y => exact .ok (.number _)
      | _ => exact .error ⟨rfl, operator.line⟩
    | string s =>
      cases right with
      | string s' => exact .ok (.string _)
      | _ => exact .error ⟨rfl, operator.line⟩
    | _ => exact .error ⟨rfl, operator.line⟩
  · cases left with
    | number x =>
      cases right with
      | number y => exact arithmetic_alike operator x y
      | _ => exact .error ⟨rfl, operator.line⟩
    | _ => exact .error ⟨rfl, operator.line⟩

end Value

/-! ### Bindings -/

theorem bindingsAlike_empty : BindingsAlike c ∅ ∅ := by
  intro x
  rw [Std.TreeMap.getElem?_emptyc]
  exact .none

theorem BindingsAlike.insert {b b' : Bindings} (h : BindingsAlike c b b') (x : String)
    {v v' : Value} (value : v.Alike c v') : BindingsAlike c (b.insert x v) (b'.insert x v') := by
  intro y
  rw [Std.TreeMap.getElem?_insert, Std.TreeMap.getElem?_insert]
  split
  · exact .some value
  · exact h y

/-! ### Heaps -/

namespace HeapAlike

open Heap

variable {h h' : Heap} {t t' : Token}

theorem binds_eq (alike : HeapAlike c h h') (f : FrameId) (x : String) :
    h'.binds f x = h.binds f x := by
  have binding := alike.binding f x
  rw [binds_eq_isSome, binds_eq_isSome]
  generalize h.binding? f x = o at binding
  generalize h'.binding? f x = o' at binding
  cases binding <;> rfl

theorem owner_eq (alike : HeapAlike c h h') (f : FrameId) (x : String) :
    h'.owner? f x = h.owner? f x :=
  owner?_congr alike.parent (fun g => alike.binds_eq g x) f

theorem ancestor_eq (alike : HeapAlike c h h') (distance : Nat) (f : FrameId) :
    h'.ancestor? f distance = h.ancestor? f distance := by
  induction distance generalizing f with
  | zero => rfl
  | succ distance ih =>
    rw [Heap.ancestor?, Heap.ancestor?, alike.parent]
    cases h.parent? f with
    | none => rfl
    | some p => exact ih p

theorem bind_binding (alike : HeapAlike c h h') (o : Option FrameId) (x : String) :
    Option.Rel (Value.Alike c) (o.bind fun f => h.binding? f x)
      (o.bind fun f => h'.binding? f x) := by
  cases o with
  | none => exact .none
  | some f => exact alike.binding f x

theorem get (alike : HeapAlike c h h') (f : FrameId) (name : t.Alike c t') :
    Checked c (Value.Alike c) (h.get f t) (h'.get f t') := by
  unfold Heap.get
  rw [name.lexeme, alike.owner_eq]
  have found := alike.bind_binding (h.owner? f t.lexeme) t.lexeme
  generalize (h.owner? f t.lexeme).bind (fun f => h.binding? f t.lexeme) = o at found
  generalize (h.owner? f t.lexeme).bind (fun f => h'.binding? f t.lexeme) = o' at found
  cases found with
  | none => exact .error ⟨congrArg Fault.Cause.undefinedVariable name.lexeme, name.line⟩
  | some value => exact .ok value

theorem target (alike : HeapAlike c h h') (f : FrameId) (name : t.Alike c t') :
    Checked c Eq (h.target f t) (h'.target f t') := by
  unfold Heap.target
  rw [name.lexeme, alike.owner_eq]
  cases h.owner? f t.lexeme with
  | none => exact .error ⟨congrArg Fault.Cause.undefinedVariable name.lexeme, name.line⟩
  | some owner => exact .ok rfl

theorem getAt (alike : HeapAlike c h h') (f : FrameId) (distance : Nat) (x : String)
    {line line' : Nat}
    (lines : c.lines line line') :
    Checked c (Value.Alike c) (h.getAt f distance x line) (h'.getAt f distance x line') := by
  unfold Heap.getAt
  rw [alike.ancestor_eq]
  have found := alike.bind_binding (h.ancestor? f distance) x
  generalize (h.ancestor? f distance).bind (fun f => h.binding? f x) = o at found
  generalize (h.ancestor? f distance).bind (fun f => h'.binding? f x) = o' at found
  cases found with
  | none => exact .error ⟨rfl, lines⟩
  | some value => exact .ok value

theorem targetAt (alike : HeapAlike c h h') (f : FrameId) (distance : Nat) (name : t.Alike c t') :
    Checked c Eq (h.targetAt f distance t) (h'.targetAt f distance t') := by
  have isOwner : h'.ownerAt? f distance t'.lexeme = h.ownerAt? f distance t.lexeme := by
    unfold Heap.ownerAt?
    rw [name.lexeme, alike.ancestor_eq]
    exact congrArg (Option.filter · _) (funext fun owner => alike.binds_eq owner t.lexeme)
  unfold Heap.targetAt
  rw [isOwner]
  cases h.ownerAt? f distance t.lexeme with
  | none =>
    exact .error ⟨congrArg (Fault.Cause.misplacedVariable · distance) name.lexeme, name.line⟩
  | some owner => exact .ok rfl

theorem define (alike : HeapAlike c h h') (f : FrameId) (x : String) {v v' : Value}
    (value : v.Alike c v') : HeapAlike c (h.define f x v) (h'.define f x v') where
  size := by rw [size_define, size_define, alike.size]
  parent g := by rw [parent?_define, parent?_define, alike.parent]
  binding g y := by
    by_cases inside : f < h.frames.size
    · rw [binding?_define inside, binding?_define (alike.size.symm ▸ inside)]
      split
      · exact .some value
      · exact alike.binding g y
    · rw [binding?_define_of_size_le (Nat.le_of_not_lt inside),
        binding?_define_of_size_le (alike.size.symm ▸ Nat.le_of_not_lt inside)]
      exact alike.binding g y
  instances := alike.instances
  field := alike.field
  nextIdentity := alike.nextIdentity

theorem newFrame (alike : HeapAlike c h h') (parent : Option FrameId) {b b' : Bindings}
    (bindings : BindingsAlike c b b') :
    HeapAlike c (h.newFrame parent b).2 (h'.newFrame parent b').2 where
  size := by rw [size_newFrame, size_newFrame, alike.size]
  parent g := by rw [parent?_newFrame, parent?_newFrame, alike.size, alike.parent]
  binding g y := by
    rw [binding?_newFrame, binding?_newFrame, alike.size]
    split
    · exact bindings y
    · exact alike.binding g y
  instances := alike.instances
  field := alike.field
  nextIdentity := alike.nextIdentity

theorem newIdentity (alike : HeapAlike c h h') : HeapAlike c h.newIdentity.2 h'.newIdentity.2 :=
  { alike with nextIdentity := congrArg (· + 1) alike.nextIdentity }

theorem newInstance (alike : HeapAlike c h h') : HeapAlike c h.newInstance.2 h'.newInstance.2 where
  size := alike.size
  parent := alike.parent
  binding := alike.binding
  instances := by
    change (h'.fields.push ∅).size = (h.fields.push ∅).size
    rw [Array.size_push, Array.size_push, alike.instances]
  field address x := by
    rw [field?_newInstance, field?_newInstance]
    exact alike.field address x
  nextIdentity := alike.nextIdentity

theorem setField (alike : HeapAlike c h h') (address : Nat) (x : String) {v v' : Value}
    (value : v.Alike c v') : HeapAlike c (h.setField address x v) (h'.setField address x v') where
  size := alike.size
  parent := alike.parent
  binding := alike.binding
  instances := by
    change (h'.fields.modify _ _).size = (h.fields.modify _ _).size
    rw [Array.size_modify, Array.size_modify, alike.instances]
  field address' y := by
    rw [field?_setField, field?_setField, alike.instances]
    split
    · exact .some value
    · exact alike.field address' y
  nextIdentity := alike.nextIdentity

end HeapAlike

/-! ### Interpreters -/

namespace Interpreter.Alike

variable {w : Interpreter × Interpreter} {i i' : Interpreter} {o o' : Occurrence} {f f' : Closure}
  {v v' : Value} {t t' : Token}

theorem lookUp (alike : i.Alike c w i') (occurrence : o.Alike c o') :
    Checked c (Value.Alike c) (i.lookUp o) (i'.lookUp o') := by
  unfold Interpreter.lookUp
  dsimp only
  rw [alike.distances _ _ occurrence.id, alike.frame, occurrence.name.lexeme]
  cases i.distances[o.id]? with
  | none => exact alike.heap.get globalFrame occurrence.name
  | some distance => exact alike.heap.getAt _ _ _ occurrence.name.line

theorem target (alike : i.Alike c w i') (occurrence : o.Alike c o') :
    Checked c Eq (i.target o) (i'.target o') := by
  unfold Interpreter.target
  dsimp only
  rw [alike.distances _ _ occurrence.id, alike.frame]
  cases i.distances[o.id]? with
  | none => exact alike.heap.target globalFrame occurrence.name
  | some distance => exact alike.heap.targetAt _ _ occurrence.name

theorem define (alike : i.Alike c w i') (g : FrameId) (x : String) (value : v.Alike c v') :
    (i.define g x v).Alike c w (i'.define g x v') :=
  { alike with heap := alike.heap.define g x value }

theorem newFrame (alike : i.Alike c w i') (parent : FrameId) {b b' : Bindings}
    (bindings : BindingsAlike c b b') :
    (i'.newFrame parent b').1 = (i.newFrame parent b).1 ∧
      (i.newFrame parent b).2.Alike c w (i'.newFrame parent b').2 :=
  ⟨alike.heap.size, { alike with heap := alike.heap.newFrame (some parent) bindings }⟩

theorem newIdentity (alike : i.Alike c w i') :
    i'.newIdentity.1 = i.newIdentity.1 ∧ i.newIdentity.2.Alike c w i'.newIdentity.2 :=
  ⟨alike.heap.nextIdentity, { alike with heap := alike.heap.newIdentity }⟩

theorem newInstance (alike : i.Alike c w i') {k k' : Class} (h : k.Alike c k') :
    (i.newInstance k).1.Alike c (i'.newInstance k').1 ∧
      (i.newInstance k).2.Alike c w (i'.newInstance k').2 := by
  refine ⟨?_, { alike with heap := alike.heap.newInstance }⟩
  change (Value.instance_ i.heap.fields.size k).Alike c (.instance_ i'.heap.fields.size k')
  rw [alike.heap.instances]
  exact .instance_ _ h

theorem setField (alike : i.Alike c w i') (address : Nat) (x : String) (value : v.Alike c v') :
    (i.setField address x v).Alike c w (i'.setField address x v') :=
  { alike with heap := alike.heap.setField address x value }

theorem bindClosure (alike : i.Alike c w i') (method : f.Alike c f') (receiver : v.Alike c v') :
    (i.bindClosure f v).1.Alike c (i'.bindClosure f' v').1 ∧
      (i.bindClosure f v).2.Alike c w (i'.bindClosure f' v').2 := by
  unfold Interpreter.bindClosure
  rw [method.frame]
  obtain ⟨frame, alike⟩ := alike.newFrame f.frame (bindingsAlike_empty.insert "this" receiver)
  exact ⟨⟨method.declaration, frame, method.isInitializer⟩, alike⟩

theorem newFunction (alike : i.Alike c w i') (closure : f.Alike c f') :
    (i.newFunction f).1.Alike c (i'.newFunction f').1 ∧
      (i.newFunction f).2.Alike c w (i'.newFunction f').2 := by
  obtain ⟨identity, alike⟩ := alike.newIdentity
  refine ⟨?_, alike⟩
  change (Value.function i.newIdentity.1 f).Alike c (.function i'.newIdentity.1 f')
  rw [identity]
  exact .function _ closure

theorem bindMethod (alike : i.Alike c w i') (method : f.Alike c f') (receiver : v.Alike c v') :
    (i.bindMethod f v).1.Alike c (i'.bindMethod f' v').1 ∧
      (i.bindMethod f v).2.Alike c w (i'.bindMethod f' v').2 :=
  have ⟨closure, alike⟩ := alike.bindClosure method receiver
  alike.newFunction closure

theorem property (alike : i.Alike c w i') (address : Nat) {k k' : Class} (h : k.Alike c k')
    (name : t.Alike c t') :
    Checked c (Value.Alike c) (i.property address k t).1 (i'.property address k' t').1 ∧
      (i.property address k t).2.Alike c w (i'.property address k' t').2 := by
  unfold Interpreter.property
  rw [name.lexeme]
  have field := alike.heap.field address t.lexeme
  have method := h.findMethod t.lexeme
  generalize i.heap.field? address t.lexeme = o at field
  generalize i'.heap.field? address t.lexeme = o' at field
  cases field with
  | some value => exact ⟨.ok value, alike⟩
  | none =>
    generalize k.findMethod? t.lexeme = m at method
    generalize k'.findMethod? t.lexeme = m' at method
    cases method with
    | some method =>
      obtain ⟨value, alike⟩ := alike.bindMethod method (.instance_ address h)
      exact ⟨.ok value, alike⟩
    | none => exact ⟨.error ⟨rfl, name.line⟩, alike⟩

theorem write (alike : i.Alike c w i') (text : String) :
    (i'.write text).1 = (i.write text).1 ∧ (i.write text).2.Alike c w (i'.write text).2 := by
  have device := (i.precedes_write text).device.trans alike.device
  unfold Interpreter.write at device ⊢
  rw [alike.sink]
  exact ⟨rfl, { alike with sink := rfl, device := device }⟩

theorem flush (alike : i.Alike c w i') :
    i'.flush.1 = i.flush.1 ∧ i.flush.2.Alike c w i'.flush.2 := by
  have device := i.precedes_flush.device.trans alike.device
  unfold Interpreter.flush at device ⊢
  rw [alike.sink]
  exact ⟨rfl, { alike with sink := rfl, device := device }⟩

theorem readClock (alike : i.Alike c w i') {line line' : Nat} (lines : c.lines line line') :
    Checked c (Value.Alike c) (i.readClock line).1 (i'.readClock line').1 ∧
      (i.readClock line).2.Alike c w (i'.readClock line').2 := by
  refine ⟨?_, { alike with readings := congrArg (· + 1) alike.readings }⟩
  unfold Interpreter.readClock
  rw [alike.clock, alike.readings]
  cases i.clock i.readings with
  | ok seconds => exact .ok (.number seconds)
  | error reason => exact .error ⟨rfl, lines⟩

end Interpreter.Alike

end Lox
