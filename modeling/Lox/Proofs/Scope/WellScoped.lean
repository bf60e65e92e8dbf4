import Lox.Proofs.Tree.Formed
import Lox.Scope.Event

/-!
# Well-scoped programs

A place in a program lies in some *layers*, one for each block, function body or class around it. A
layer holds the names that are declared before the place in the same list of declarations. This file
says, along the tree and without a traversal, when every part of a program fits its place: names are
declared once in a layer, no variable is read in its own initializer, declarations stand in lists of
declarations only, and `this`, `super` and `return` stand where they have a meaning.

What is known about single occurrences of names is left open; it is a predicate on places and
occurrences.

## Main definitions

* `Scope.Layer`, `Scope.Position`: the scopes around a place.
* `Scope.Position.distance?`: the number of layers inside the one that holds a name.
* `Expr.WellScoped`, `Stmt.WellScoped`, `FunctionDecl.WellScoped`: parts that fit their place.
-/

namespace Lox

namespace Scope

/-- A scope around a place: the part of the program that opens it, and the names that it holds, the
last declared name first. -/
structure Layer where
  opener : Node
  names : List String

/-- A place in a program: the layers around it, innermost first, the name of the innermost layer
that is being declared there, and whether a function is around. -/
structure Position where
  layers : List Layer
  pending : Option String
  inFunction : Bool

/-- The number of layers inside the innermost one that holds a name. -/
def layerDistance? (name : String) : List Layer → Option Nat
  | [] => none
  | layer :: layers =>
    if name ∈ layer.names then some 0 else (layerDistance? name layers).map (· + 1)

/-- A part of a program that defines a class. -/
def IsClass (n : Node) : Prop :=
  ∃ name superclass methods, n = .statement (.classDecl name superclass methods)

theorem not_isClass_block (stmts : List Stmt) : ¬ IsClass (.statement (.block stmts)) :=
  fun ⟨_, _, _, isClass⟩ => nomatch isClass

theorem not_isClass_function (d : FunctionDecl) : ¬ IsClass (.function d) :=
  fun ⟨_, _, _, isClass⟩ => nomatch isClass

/-- Among the openers of the layers around a place, the first class stands at a distance. It has a
superclass, and it opens two layers: the one at the distance, and the next one. -/
structure Encloses (name : Token) (superclass : Occurrence) (methods : List FunctionDecl)
    (openers : List Node) (distance : Nat) : Prop where
  receiver :
    openers[distance]? = some (.statement (.classDecl name (some superclass) methods))
  superclass :
    openers[distance + 1]? = some (.statement (.classDecl name (some superclass) methods))
  first : ∀ d opener, d < distance → openers[d]? = some opener → ¬ IsClass opener

namespace Position

/-- Outside every scope. -/
def top : Position :=
  ⟨[], none, false⟩

/-- The number of layers inside the innermost one that holds a name; the innermost layer already
holds the name that is being declared. -/
def distance? (p : Position) (name : String) : Option Nat :=
  if p.pending = some name then some 0 else layerDistance? name p.layers

/-- The innermost layer does not hold a name yet. -/
def Fresh (p : Position) (name : String) : Prop :=
  ∀ layer, p.layers.head? = some layer → name ∉ layer.names

/-- The place behind a declaration. -/
def declare (p : Position) (name : String) : Position :=
  match p.layers with
  | [] => p
  | layer :: layers => { p with layers := { layer with names := name :: layer.names } :: layers }

/-- The place behind what may declare a name. -/
def add (p : Position) : Option String → Position
  | some name => p.declare name
  | none => p

/-- The place inside a declaration whose name is not bound yet. -/
def await (p : Position) (name : String) : Position :=
  match p.layers with
  | [] => p
  | _ :: _ => { p with pending := some name }

/-- The name that is being declared can be written, and is not in the innermost layer yet. -/
def Awaiting (p : Position) : Prop :=
  ∀ x, p.pending = some x → Ordinary x ∧ ∃ layer layers, p.layers = layer :: layers ∧
    x ∉ layer.names

/-- The layers at a distance, with a receiver, and around it, with a superclass, are opened by one
class, and no layer inside is opened by a class. -/
def InheritsAt (p : Position) (distance : Nat) : Prop :=
  ∃ name superclass methods,
    Encloses name superclass methods (p.layers.map Layer.opener) distance

/-- The place inside a new layer. -/
def enter (p : Position) (opener : Node) (names : List String) : Position :=
  { p with layers := ⟨opener, names⟩ :: p.layers }

end Position

end Scope

open Scope

section

variable (known : Position → SiteKind → Occurrence → Prop)

/-- An expression fits its place. -/
inductive Expr.WellScoped (p : Position) : Expr → Prop
  | literal {value : Literal} {line : Nat} : WellScoped p (.literal value line)
  | grouping {inner : Expr} (h : WellScoped p inner) : WellScoped p (.grouping inner)
  | unary {operator : Token} {right : Expr} (isUnary : operator.IsUnary)
      (h : WellScoped p right) : WellScoped p (.unary operator right)
  | binary {left right : Expr} {operator : Token} (isBinary : operator.IsBinary)
      (h : WellScoped p left) (h' : WellScoped p right) :
      WellScoped p (.binary left operator right)
  | logical {left right : Expr} {operator : Token} (h : WellScoped p left)
      (h' : WellScoped p right) : WellScoped p (.logical left operator right)
  | reference {name : Occurrence} (isKnown : known p .reference name)
      (ready : p.pending ≠ some name.name.lexeme) : WellScoped p (.reference name)
  | assign {name : Occurrence} {value : Expr} (isKnown : known p .assignment name)
      (ordinary : Ordinary name.name.lexeme) (h : WellScoped p value) :
      WellScoped p (.assign name value)
  | call {callee : Expr} {paren : Token} {arguments : List Expr} (h : WellScoped p callee)
      (h' : ∀ e ∈ arguments, WellScoped p e) : WellScoped p (.call callee paren arguments)
  | get {object : Expr} {property : Token} (h : WellScoped p object) :
      WellScoped p (.get object property)
  | set {object value : Expr} {property : Token} (h : WellScoped p object)
      (h' : WellScoped p value) : WellScoped p (.set object property value)
  | this {keyword : Occurrence} (isKnown : known p .this keyword)
      (spelled : keyword.name.lexeme = "this") {distance : Nat}
      (bound : p.distance? "this" = some distance) : WellScoped p (.this keyword)
  | super {keyword : Occurrence} {method : Token} (isKnown : known p .super keyword)
      (spelled : keyword.name.lexeme = "super") {distance : Nat}
      (bound : p.distance? "this" = some distance)
      (above : p.distance? "super" = some (distance + 1)) (inherits : p.InheritsAt distance) :
      WellScoped p (.super keyword method)

/-- The place behind a statement. -/
def Scope.Position.after (p : Position) (s : Stmt) : Position :=
  p.add s.declared?

/-- The place of the methods of a class. -/
def Scope.Position.inClass (p : Position) (name : Token) (superclass : Option Occurrence)
    (methods : List FunctionDecl) : Position :=
  let opener : Node := .statement (.classDecl name superclass methods)
  let around := p.declare name.lexeme
  let above := if superclass.isSome then around.enter opener ["super"] else around
  above.enter opener ["this"]

/-- The place of the body of a function. -/
def Scope.Position.inBody (p : Position) (d : FunctionDecl) : Position :=
  { p.enter (.function d) (d.params.map Token.lexeme).reverse with inFunction := true }

mutual

/-- A statement fits its place. -/
inductive Stmt.WellScoped : Position → Stmt → Prop
  | block {p : Position} {body : List Stmt}
      (h : Stmt.AllWellScoped (p.enter (.statement (.block body)) []) body) :
      Stmt.WellScoped p (.block body)
  | classDecl {p : Position} {name : Token} {superclass : Option Occurrence}
      {methods : List FunctionDecl} (ordinary : Ordinary name.lexeme)
      (fresh : p.Fresh name.lexeme)
      (above : ∀ o, superclass = some o →
        Expr.WellScoped known (p.await name.lexeme) (.reference o))
      (h : ∀ d ∈ methods, FunctionDecl.WellScoped (p.inClass name superclass methods) d) :
      Stmt.WellScoped p (.classDecl name superclass methods)
  | expression {p : Position} {value : Expr} (h : value.WellScoped known p) :
      Stmt.WellScoped p (.expression value)
  | functionDecl {p : Position} {d : FunctionDecl} (ordinary : Ordinary d.name.lexeme)
      (fresh : p.Fresh d.name.lexeme)
      (h : FunctionDecl.WellScoped (p.declare d.name.lexeme) d) :
      Stmt.WellScoped p (.functionDecl d)
  | conditional {p : Position} {condition : Expr} {thenBranch : Stmt} {elseBranch : Option Stmt}
      (h : condition.WellScoped known p) (thenPlain : thenBranch.declared? = none)
      (hThen : Stmt.WellScoped p thenBranch)
      (elsePlain : ∀ s, elseBranch = some s → s.declared? = none)
      (hElse : ∀ s, elseBranch = some s → Stmt.WellScoped p s) :
      Stmt.WellScoped p (.conditional condition thenBranch elseBranch)
  | print {p : Position} {value : Expr} (h : value.WellScoped known p) :
      Stmt.WellScoped p (.print value)
  | ret {p : Position} {keyword : Token} {value : Option Expr} (inFunction : p.inFunction = true)
      (h : ∀ e, value = some e → e.WellScoped known p) : Stmt.WellScoped p (.ret keyword value)
  | varDecl {p : Position} {name : Token} {initializer : Option Expr}
      (ordinary : Ordinary name.lexeme) (fresh : p.Fresh name.lexeme)
      (h : ∀ e, initializer = some e → e.WellScoped known (p.await name.lexeme)) :
      Stmt.WellScoped p (.varDecl name initializer)
  | loop {p : Position} {condition : Expr} {body : Stmt} (h : condition.WellScoped known p)
      (plain : body.declared? = none) (hBody : Stmt.WellScoped p body) :
      Stmt.WellScoped p (.loop condition body)

/-- Statements in sequence fit their place. -/
inductive Stmt.AllWellScoped : Position → List Stmt → Prop
  | nil {p : Position} : Stmt.AllWellScoped p []
  | cons {p : Position} {s : Stmt} {ss : List Stmt} (h : Stmt.WellScoped p s)
      (hs : Stmt.AllWellScoped (p.after s) ss) : Stmt.AllWellScoped p (s :: ss)

/-- A function fits the place around it. -/
inductive FunctionDecl.WellScoped : Position → FunctionDecl → Prop
  | mk {p : Position} {d : FunctionDecl} (ordinary : ∀ t ∈ d.params, Ordinary t.lexeme)
      (distinct : (d.params.map Token.lexeme).Nodup)
      (h : Stmt.AllWellScoped (p.inBody d) d.body) : FunctionDecl.WellScoped p d

end

end

/-! ### More may be known -/

section Mono

variable {known known' : Position → SiteKind → Occurrence → Prop}

theorem Expr.WellScoped.mono (more : ∀ p kind o, known p kind o → known' p kind o) {p : Position}
    {e : Expr} (h : e.WellScoped known p) : e.WellScoped known' p := by
  induction h with
  | literal => exact .literal
  | grouping _ ih => exact .grouping ih
  | unary isUnary _ ih => exact .unary isUnary ih
  | binary isBinary _ _ ih ih' => exact .binary isBinary ih ih'
  | logical _ _ ih ih' => exact .logical ih ih'
  | reference isKnown ready => exact .reference (more _ _ _ isKnown) ready
  | assign isKnown ordinary _ ih => exact .assign (more _ _ _ isKnown) ordinary ih
  | call _ _ ih ih' => exact .call ih ih'
  | get _ ih => exact .get ih
  | set _ _ ih ih' => exact .set ih ih'
  | this isKnown spelled bound => exact .this (more _ _ _ isKnown) spelled bound
  | super isKnown spelled bound above inherits =>
    exact .super (more _ _ _ isKnown) spelled bound above inherits

mutual

theorem Stmt.WellScoped.mono (more : ∀ p kind o, known p kind o → known' p kind o) {p : Position}
    {s : Stmt} : Stmt.WellScoped known p s → Stmt.WellScoped known' p s
  | .block h => .block (h.mono more)
  | .classDecl ordinary fresh above h =>
    .classDecl ordinary fresh (fun o isSuper => (above o isSuper).mono more)
      fun d mem => (h d mem).mono more
  | .expression h => .expression (h.mono more)
  | .functionDecl ordinary fresh h => .functionDecl ordinary fresh (h.mono more)
  | .conditional h thenPlain hThen elsePlain hElse =>
    .conditional (h.mono more) thenPlain (hThen.mono more) elsePlain
      fun s isElse => (hElse s isElse).mono more
  | .print h => .print (h.mono more)
  | .ret inFunction h => .ret inFunction fun e isValue => (h e isValue).mono more
  | .varDecl ordinary fresh h =>
    .varDecl ordinary fresh fun e isValue => (h e isValue).mono more
  | .loop h plain hBody => .loop (h.mono more) plain (hBody.mono more)

theorem Stmt.AllWellScoped.mono (more : ∀ p kind o, known p kind o → known' p kind o) {p : Position}
    {ss : List Stmt} : Stmt.AllWellScoped known p ss → Stmt.AllWellScoped known' p ss
  | .nil => .nil
  | .cons h hs => .cons (h.mono more) (hs.mono more)

theorem FunctionDecl.WellScoped.mono (more : ∀ p kind o, known p kind o → known' p kind o)
    {p : Position} {d : FunctionDecl} :
    FunctionDecl.WellScoped known p d → FunctionDecl.WellScoped known' p d
  | .mk ordinary distinct h => .mk ordinary distinct (h.mono more)

end

end Mono

/-! ### Distances of names -/

namespace Scope

section

variable {x y : String} {opener : Node} {names : List String} {layers : List Layer}

theorem layerDistance?_of_mem (h : x ∈ names) :
    layerDistance? x (⟨opener, names⟩ :: layers) = some 0 := by
  simp [layerDistance?, h]

theorem layerDistance?_of_notMem (h : x ∉ names) :
    layerDistance? x (⟨opener, names⟩ :: layers) = (layerDistance? x layers).map (· + 1) := by
  simp [layerDistance?, h]

theorem layerDistance?_cons_of_ne (h : x ≠ y) :
    layerDistance? x (⟨opener, y :: names⟩ :: layers) =
      layerDistance? x (⟨opener, names⟩ :: layers) := by
  simp [layerDistance?, h]

theorem layerDistance?_lt {d : Nat} (h : layerDistance? x layers = some d) : d < layers.length := by
  induction layers generalizing d with
  | nil => cases h
  | cons layer layers ih =>
    by_cases mem : x ∈ layer.names
    · rw [layerDistance?_of_mem mem] at h
      cases h
      exact Nat.zero_lt_succ _
    · rw [layerDistance?_of_notMem mem] at h
      obtain ⟨d', isDistance, rfl⟩ := Option.map_eq_some_iff.1 h
      exact Nat.succ_lt_succ (ih isDistance)

/-- A declared name hides no other one. -/
theorem layerDistance?_declare {p : Position} (h : x ≠ y) :
    layerDistance? x (p.declare y).layers = layerDistance? x p.layers := by
  unfold Position.declare
  split
  · rfl
  · next isLayers =>
    rw [isLayers]
    exact layerDistance?_cons_of_ne h

end

end Scope

/-! ### Places after declarations -/

namespace Scope.Position

variable {p : Position} {x : String}

theorem declare_top (top : p.layers = []) : p.declare x = p := by
  unfold declare
  rw [top]

theorem await_top (top : p.layers = []) : p.await x = p := by
  unfold await
  rw [top]

theorem pending_await {layer : Layer} {layers : List Layer} (inner : p.layers = layer :: layers) :
    (p.await x).pending = some x := by
  unfold await
  rw [inner]

theorem layers_declare {layer : Layer} {layers : List Layer} (inner : p.layers = layer :: layers) :
    (p.declare x).layers = ⟨layer.opener, x :: layer.names⟩ :: layers := by
  unfold declare
  rw [inner]

@[simp] theorem pending_declare : (p.declare x).pending = p.pending := by
  unfold declare
  split <;> rfl

@[simp] theorem inFunction_declare : (p.declare x).inFunction = p.inFunction := by
  unfold declare
  split <;> rfl

@[simp] theorem inFunction_await : (p.await x).inFunction = p.inFunction := by
  unfold await
  split <;> rfl

theorem tail_declare : (p.declare x).layers.tail = p.layers.tail := by
  unfold declare
  split
  · rfl
  · next isLayers => rw [isLayers, List.tail_cons, List.tail_cons]

/-- A declared name leaves the layers where they are. -/
theorem openers_declare :
    (p.declare x).layers.map Layer.opener = p.layers.map Layer.opener := by
  unfold declare
  split
  · rfl
  · next isLayers => rw [isLayers, List.map_cons, List.map_cons]

/-- Only the openers of layers say which class is around. -/
theorem InheritsAt.congr {q : Position} {d : Nat} (h : p.InheritsAt d)
    (isSame : q.layers.map Layer.opener = p.layers.map Layer.opener) : q.InheritsAt d := by
  unfold InheritsAt
  rw [isSame]
  exact h

/-- A statement leaves the layers around as they are. -/
theorem tail_after {stmt : Stmt} : (p.after stmt).layers.tail = p.layers.tail := by
  unfold after add
  split
  · exact tail_declare
  · rfl

theorem after_of_declared? {stmt : Stmt} (declares : stmt.declared? = some x) :
    p.after stmt = p.declare x := by
  rw [after, declares, add]

theorem after_of_plain {stmt : Stmt} (plain : stmt.declared? = none) : p.after stmt = p := by
  rw [after, plain, add]

theorem layers_add_of_top (top : p.layers = []) (declared : Option String) :
    (p.add declared).layers = [] := by
  cases declared with
  | none => exact top
  | some x => rw [add, declare_top top, top]

@[simp] theorem pending_add (declared : Option String) : (p.add declared).pending = p.pending := by
  cases declared with
  | none => rfl
  | some x => exact pending_declare

@[simp] theorem inFunction_add (declared : Option String) :
    (p.add declared).inFunction = p.inFunction := by
  cases declared with
  | none => rfl
  | some x => exact inFunction_declare

/-- A name that is new in its layer can be awaited. -/
theorem awaiting_await (settled : p.pending = none) (ordinary : Ordinary x) (fresh : p.Fresh x) :
    (p.await x).Awaiting := by
  intro y pending
  unfold await at pending ⊢
  split at pending
  · rw [settled] at pending
    cases pending
  · next layer layers isLayers =>
    cases pending
    exact ⟨ordinary, layer, layers, isLayers, fresh layer (by rw [isLayers]; rfl)⟩

theorem awaiting_of_settled (settled : p.pending = none) : p.Awaiting := by
  intro y pending
  rw [settled] at pending
  cases pending

@[simp] theorem layers_await : (p.await x).layers = p.layers := by
  unfold await
  split
  · rfl
  · next isLayers => exact isLayers.symm ▸ rfl

/-- Names that are not in the innermost layer and differ from each other. -/
theorem fresh_declare {y : String} (fresh : p.Fresh y) (other : y ≠ x) :
    (p.declare x).Fresh y := by
  intro layer isHead
  cases isLayers : p.layers with
  | nil =>
    rw [declare_top isLayers, isLayers] at isHead
    cases isHead
  | cons outer layers =>
    rw [layers_declare isLayers] at isHead
    cases isHead
    have notHere := fresh outer (by rw [isLayers]; rfl)
    simp [other, notHere]

/-- The place behind the declarations of some names. -/
def declareAll (p : Position) (names : List String) : Position :=
  names.foldl declare p

/-- A function declares its parameters one after the other. -/
theorem declareAll_params (p : Position) (d : FunctionDecl) :
    declareAll { p.enter (.function d) [] with inFunction := true } (d.params.map Token.lexeme) =
      p.inBody d := by
  suffices ∀ (names before : List String),
      declareAll { p.enter (.function d) before with inFunction := true } names =
        { p.enter (.function d) (names.reverse ++ before) with inFunction := true } by
    rw [this, List.append_nil]
    rfl
  intro names
  induction names with
  | nil => exact fun before => rfl
  | cons x names ih =>
    intro before
    rw [List.reverse_cons, List.append_assoc, List.singleton_append, ← ih (x :: before)]
    rfl

/-! ### Distances at places -/

variable {y : String} {opener : Node} {names : List String}

theorem distance?_of_settled (settled : p.pending = none) :
    p.distance? x = layerDistance? x p.layers := by
  rw [distance?, settled]
  exact if_neg (Option.some_ne_none x).symm

theorem distance?_enter (settled : p.pending = none) : (p.enter opener names).distance? x =
    if x ∈ names then some 0 else (p.distance? x).map (· + 1) := by
  have settled' : (p.enter opener names).pending = none := settled
  rw [distance?_of_settled settled, distance?_of_settled settled']
  rfl

/-- A declared name is in the innermost layer, if there is one. -/
theorem distance?_declare :
    (p.declare y).distance? x = if p.layers ≠ [] ∧ x = y then some 0 else p.distance? x := by
  cases isLayers : p.layers with
  | nil => rw [declare_top isLayers, if_neg fun h => h.1 rfl]
  | cons layer layers =>
    unfold distance?
    rw [pending_declare]
    by_cases isName : x = y
    · subst isName
      rw [if_pos (c := _ ∧ _) ⟨List.cons_ne_nil _ _, rfl⟩, layers_declare isLayers,
        layerDistance?_of_mem List.mem_cons_self, ite_self]
    · rw [layerDistance?_declare isName, if_neg (c := _ ∧ _) fun h => isName h.2]

/-- While a name is being declared, it is where it will be. -/
theorem distance?_await (settled : p.pending = none) :
    (p.await y).distance? x = (p.declare y).distance? x := by
  rw [distance?_declare]
  cases isLayers : p.layers with
  | nil => rw [await_top isLayers, if_neg fun h => h.1 rfl]
  | cons layer layers =>
    rw [distance?, pending_await isLayers, layers_await]
    by_cases isName : x = y
    · subst isName
      rw [if_pos rfl, if_pos ⟨List.cons_ne_nil _ _, rfl⟩]
    · rw [if_neg fun h => isName (Option.some.inj h).symm, if_neg fun h => isName h.2,
        distance?_of_settled settled]

end Scope.Position

end Lox
