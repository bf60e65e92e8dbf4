import Lox.Proofs.Scope.Numbering
import Lox.Proofs.Tree.Formed

/-!
# Places in a tree and the rules of names

The rules of the language on names can be said without a walk over the program: each construct of a
tree stands in *surroundings*, the scopes around it with the statements that come before it there,
and the rules look at nothing but a construct and its surroundings. This file lists the constructs
of a tree in the order of the source, each with its surroundings, and states the rules.

A block opens a scope, and so does a function, for its parameters and its body together. A class
opens one that holds `this` around its methods and, if it has a superclass, another one around that,
which holds `super`. The top level is no scope.

## Main definitions

* `Scope.Enclosure`, `Scope.Surroundings`: a scope around a place, and all of them.
* `Scope.Surroundings.distance?`: the number of scopes inside the innermost one that holds a name.
* `Scope.Construct`, `Stmt.allConstructs`: the constructs of a program with their surroundings.
* `Scope.violations`: the rules that a construct violates.
* `Scope.record?`: the distance of a construct that is an occurrence of a name.

## Main results

* `Scope.ids_allConstructs`: each occurrence of a program is listed once.
-/

namespace Lox

namespace Scope

/-! ### Surroundings -/

/-- What opens a scope, with what the scope holds before any of its statements. -/
inductive Enclosure.Kind where
  | block
  /-- A function in its role; of the parameters those before the place, the last one first. -/
  | function (role : FunctionRole) (params : List Token)
  /-- The instance, around the methods of a class. -/
  | receiver (hasSuperclass : Bool)
  /-- The superclass, around the instance. -/
  | superclass

/-- The parameters, or the name that is not written in the source. -/
def Enclosure.Kind.names : Enclosure.Kind → List String
  | .block => []
  | .function _ params => params.map Token.lexeme
  | .receiver _ => ["this"]
  | .superclass => ["super"]

/-- A scope around a place: what opens it, and its statements before the place or around it, the
last one first. -/
structure Enclosure where
  kind : Enclosure.Kind
  statements : List Stmt

namespace Enclosure

/-- The names that the scope already holds at the place. -/
def names (e : Enclosure) : List String :=
  e.statements.filterMap Stmt.declared? ++ e.kind.names

/-- The role of the function that opens the scope. -/
def role? (e : Enclosure) : Option FunctionRole :=
  match e.kind with
  | .function role _ => some role
  | _ => none

/-- For the scope around the methods of a class, whether the class has a superclass. -/
def inherits? (e : Enclosure) : Option Bool :=
  match e.kind with
  | .receiver hasSuperclass => some hasSuperclass
  | _ => none

end Enclosure

/-- The scopes around a place, innermost first. -/
abbrev Surroundings : Type :=
  List Enclosure

namespace Surroundings

/-- The number of scopes inside the innermost one that already holds a name. -/
def distance? (p : Surroundings) (name : String) : Option Nat :=
  p.findIdx? fun e => name ∈ e.names

/-- Whether the innermost scope already holds a name. -/
def holds (p : Surroundings) (name : String) : Bool :=
  p.head?.any fun e => name ∈ e.names

/-- Whether the place is in the initializer of a variable of that name, in the innermost scope,
which is the first declaration of the name there. -/
def awaits (p : Surroundings) (name : String) : Bool :=
  match p with
  | ⟨kind, .varDecl declared (some _) :: earlier⟩ :: _ =>
    declared.lexeme = name ∧ name ∉ (Enclosure.mk kind earlier).names
  | _ => false

/-- The role of the nearest function around the place. -/
def role? (p : Surroundings) : Option FunctionRole :=
  p.findSome? Enclosure.role?

/-- Whether the innermost class around the place has a superclass. -/
def inherits? (p : Surroundings) : Option Bool :=
  p.findSome? Enclosure.inherits?

/-- The place inside a statement, or behind it. -/
def past (p : Surroundings) (s : Stmt) : Surroundings :=
  match p with
  | [] => []
  | e :: outer => { e with statements := s :: e.statements } :: outer

/-- The place inside a scope that is opened there. -/
def enter (p : Surroundings) (kind : Enclosure.Kind) : Surroundings :=
  ⟨kind, []⟩ :: p

/-- The place of the methods of a class. -/
def inMethods (p : Surroundings) (hasSuperclass : Bool) : Surroundings :=
  (if hasSuperclass then p.enter .superclass else p).enter (.receiver hasSuperclass)

end Surroundings

/-! ### Constructs -/

/-- An expression, a statement, or a parameter of a function. -/
inductive Construct where
  | expression (e : Expr)
  | statement (s : Stmt)
  | parameter (name : Token)

/-- A construct and where it stands. -/
abbrev Placed : Type :=
  Surroundings × Construct

/-- The name that a construct declares. -/
def Construct.declaration? : Construct → Option Token
  | .statement (.classDecl name _ _) => some name
  | .statement (.functionDecl d) => some d.name
  | .statement (.varDecl name _) => some name
  | .parameter name => some name
  | _ => none

/-- The occurrence of a name that a construct is. -/
def Construct.occurrence? : Construct → Option Occurrence
  | .expression (.reference o) | .expression (.assign o _) => some o
  | .expression (.this o) | .expression (.super o _) => some o
  | _ => none

/-- The parameters of a function, each behind those before it. -/
def placedParams (role : FunctionRole) (p : Surroundings) : List Token → List Token → List Placed
  | _, [] => []
  | before, name :: names =>
    (p.enter (.function role before), .parameter name) :: placedParams role p (name :: before) names

end Scope

open Scope

mutual

/-- An expression and all expressions in it, in the order of the source. -/
def Expr.parts : Expr → List Expr
  | .literal value line => [.literal value line]
  | .grouping inner => .grouping inner :: inner.parts
  | .unary operator right => .unary operator right :: right.parts
  | .binary left operator right => .binary left operator right :: (left.parts ++ right.parts)
  | .logical left operator right => .logical left operator right :: (left.parts ++ right.parts)
  | .reference name => [.reference name]
  | .assign name value => .assign name value :: value.parts
  | .call callee paren arguments =>
    .call callee paren arguments :: (callee.parts ++ Expr.allParts arguments)
  | .get object property => .get object property :: object.parts
  | .set object property value => .set object property value :: (object.parts ++ value.parts)
  | .this keyword => [.this keyword]
  | .super keyword method => [.super keyword method]

/-- The expressions in a list of expressions. -/
def Expr.allParts : List Expr → List Expr
  | [] => []
  | e :: es => e.parts ++ Expr.allParts es

end

/-- The constructs of an expression. -/
def Expr.constructs (p : Surroundings) (e : Expr) : List Placed :=
  e.parts.map fun e => (p, .expression e)

/-- The constructs of an optional expression. -/
def Expr.optionConstructs (p : Surroundings) (e : Option Expr) : List Placed :=
  e.elim [] (Expr.constructs p)

mutual

/-- The constructs inside a statement, in the order of the source. -/
def Stmt.inner : Surroundings → Stmt → List Placed
  | p, .block body => Stmt.allConstructs (p.enter .block) body
  | p, .classDecl _ superclass methods =>
    superclass.elim [] (fun o => [(p, .expression (.reference o))]) ++
      FunctionDecl.allConstructs (p.inMethods superclass.isSome) methods
  | p, .expression value => value.constructs p
  | p, .functionDecl d => FunctionDecl.constructs .plain p d
  | p, .conditional condition thenBranch elseBranch =>
    condition.constructs p ++ ((p, .statement thenBranch) ::
      Stmt.inner (p.past thenBranch) thenBranch ++ Stmt.optionConstructs p elseBranch)
  | p, .print value => value.constructs p
  | p, .ret _ value => Expr.optionConstructs p value
  | p, .varDecl _ initializer => Expr.optionConstructs p initializer
  | p, .loop condition body =>
    condition.constructs p ++ (p, .statement body) :: Stmt.inner (p.past body) body

/-- The constructs of an optional statement. -/
def Stmt.optionConstructs : Surroundings → Option Stmt → List Placed
  | _, none => []
  | p, some s => (p, .statement s) :: Stmt.inner (p.past s) s

/-- The constructs of statements, each behind those before it. -/
def Stmt.allConstructs : Surroundings → List Stmt → List Placed
  | _, [] => []
  | p, s :: ss => (p, .statement s) :: Stmt.inner (p.past s) s ++ Stmt.allConstructs (p.past s) ss

/-- The constructs of a function: its parameters and its body. -/
def FunctionDecl.constructs : FunctionRole → Surroundings → FunctionDecl → List Placed
  | role, p, ⟨_, params, body⟩ =>
    placedParams role p [] params ++
      Stmt.allConstructs (p.enter (.function role params.reverse)) body

/-- The constructs of the methods of a class. -/
def FunctionDecl.allConstructs : Surroundings → List FunctionDecl → List Placed
  | _, [] => []
  | p, d :: ds => FunctionDecl.constructs (methodRole d) p d ++ FunctionDecl.allConstructs p ds

end

/-- A statement and the constructs inside it. -/
def Stmt.constructs (p : Surroundings) (s : Stmt) : List Placed :=
  (p, .statement s) :: Stmt.inner (p.past s) s

namespace Scope

/-! ### The rules -/

/-- A name is declared in a scope that already holds it. -/
def redeclaration? (p : Surroundings) (c : Construct) : Option ScopeError :=
  (c.declaration?.filter fun name => p.holds name.lexeme).map (⟨·, .alreadyDeclared⟩)

/-- A class names itself as its superclass. -/
def selfInheritance? : Construct → Option ScopeError
  | .statement (.classDecl name (some superclass) _) =>
    if superclass.name.lexeme = name.lexeme then some ⟨superclass.name, .selfInheritance⟩ else none
  | _ => none

/-- A variable is read in its own initializer. -/
def ownRead? (p : Surroundings) : Construct → Option ScopeError
  | .expression (.reference o) =>
    if p.awaits o.name.lexeme then some ⟨o.name, .readInOwnInitializer⟩ else none
  | _ => none

/-- A `return` stands outside every function, or gives a value in an initializer. -/
def misplacedReturn? (p : Surroundings) : Construct → Option ScopeError
  | .statement (.ret keyword value) =>
    match p.role?, value with
    | none, _ => some ⟨keyword, .returnOutsideFunction⟩
    | some .initializer, some _ => some ⟨keyword, .valueFromInitializer⟩
    | _, _ => none
  | _ => none

/-- An instance or a superclass is named outside every class, or a superclass in a class that has
none. -/
def misplacedKeyword? (p : Surroundings) : Construct → Option ScopeError
  | .expression (.this keyword) =>
    if p.inherits? = none then some ⟨keyword.name, .thisOutsideClass⟩ else none
  | .expression (.super keyword _) =>
    match p.inherits? with
    | none => some ⟨keyword.name, .superOutsideClass⟩
    | some false => some ⟨keyword.name, .superWithoutSuperclass⟩
    | some true => none
  | _ => none

/-- The rules that a construct violates. Only a class can violate two: it may be declared again, and
inherit from itself. -/
def violations (c : Placed) : List ScopeError :=
  (redeclaration? c.1 c.2).toList ++ (selfInheritance? c.2).toList ++ (ownRead? c.1 c.2).toList ++
    (misplacedReturn? c.1 c.2).toList ++ (misplacedKeyword? c.1 c.2).toList

/-- A construct to which no other rule applies is a redeclaration at most. -/
theorem violations_eq_redeclaration {p : Surroundings} {c : Construct}
    (noClass : selfInheritance? c = none) (noRead : ownRead? p c = none)
    (noReturn : misplacedReturn? p c = none) (noKeyword : misplacedKeyword? p c = none) :
    violations (p, c) = (redeclaration? p c).toList := by
  simp only [violations, noClass, noRead, noReturn, noKeyword, Option.toList_none, List.append_nil]

/-- The number and the distance of an occurrence of a name that some scope around it holds. -/
def record? (c : Placed) : Option (NodeId × Nat) :=
  c.2.occurrence?.bind fun o => (c.1.distance? o.name.lexeme).map fun d => (o.id, d)

/-- The numbers of the occurrences among constructs. -/
def placedIds (cs : List Placed) : List NodeId :=
  cs.filterMap fun c => c.2.occurrence?.map Occurrence.id

@[simp] theorem placedIds_append (cs cs' : List Placed) :
    placedIds (cs ++ cs') = placedIds cs ++ placedIds cs' :=
  List.filterMap_append

theorem placedIds_statement (p : Surroundings) (s : Stmt) (cs : List Placed) :
    placedIds ((p, .statement s) :: cs) = placedIds cs :=
  rfl

theorem placedIds_placedParams (role : FunctionRole) (p : Surroundings)
    (before names : List Token) : placedIds (placedParams role p before names) = [] := by
  induction names generalizing before with
  | nil => rfl
  | cons name names ih => exact ih (name :: before)

end Scope

/-! ### The constructs of an expression are those of its parts -/

section

variable (p : Surroundings) (left right : Expr) (t : Token)

theorem Expr.constructs_binary : (Expr.binary left t right).constructs p =
    (p, .expression (.binary left t right)) :: (left.constructs p ++ right.constructs p) := by
  simp [Expr.constructs, Expr.parts]

theorem Expr.constructs_logical : (Expr.logical left t right).constructs p =
    (p, .expression (.logical left t right)) :: (left.constructs p ++ right.constructs p) := by
  simp [Expr.constructs, Expr.parts]

theorem Expr.constructs_set : (Expr.set left t right).constructs p =
    (p, .expression (.set left t right)) :: (left.constructs p ++ right.constructs p) := by
  simp [Expr.constructs, Expr.parts]

theorem Expr.allParts_eq (es : List Expr) : Expr.allParts es = es.flatMap Expr.parts := by
  induction es with
  | nil => rfl
  | cons e es ih => rw [Expr.allParts, ih, List.flatMap_cons]

theorem Expr.constructs_call (arguments : List Expr) : (Expr.call left t arguments).constructs p =
    (p, .expression (.call left t arguments)) ::
      (left.constructs p ++ arguments.flatMap (Expr.constructs p)) := by
  rw [Expr.constructs, Expr.parts, List.map_cons, List.map_append, Expr.allParts_eq,
    List.map_flatMap]
  rfl

end

/-! ### Each occurrence is listed once -/

mutual

theorem Expr.ids_constructs (p : Surroundings) : (e : Expr) → placedIds (e.constructs p) = e.ids
  | .literal .. => by simp [Expr.constructs, Expr.parts, placedIds, Construct.occurrence?]
  | .grouping inner => by
    rw [Expr.ids_grouping, ← inner.ids_constructs p]
    rfl
  | .unary _ right => by
    rw [Expr.ids_unary, ← right.ids_constructs p]
    rfl
  | .binary left _ right => by
    rw [Expr.ids_binary, ← left.ids_constructs p, ← right.ids_constructs p, ← placedIds_append,
      Expr.constructs_binary]
    rfl
  | .logical left _ right => by
    rw [Expr.ids_logical, ← left.ids_constructs p, ← right.ids_constructs p, ← placedIds_append,
      Expr.constructs_logical]
    rfl
  | .reference name => by
    rw [Expr.ids_reference]
    rfl
  | .assign name value => by
    rw [Expr.ids_assign, ← value.ids_constructs p]
    rfl
  | .call callee _ arguments => by
    rw [Expr.ids_call, ← callee.ids_constructs p, ← Expr.ids_allConstructs p arguments,
      ← placedIds_append, Expr.constructs_call]
    rfl
  | .get object _ => by
    rw [Expr.ids_get, ← object.ids_constructs p]
    rfl
  | .set object _ value => by
    rw [Expr.ids_set, ← object.ids_constructs p, ← value.ids_constructs p, ← placedIds_append,
      Expr.constructs_set]
    rfl
  | .this keyword => by
    rw [Expr.ids_this]
    rfl
  | .super keyword _ => by
    rw [Expr.ids_super]
    rfl

theorem Expr.ids_allConstructs (p : Surroundings) : (es : List Expr) →
    placedIds (es.flatMap (Expr.constructs p)) = es.flatMap Expr.ids
  | [] => rfl
  | e :: es => by
    rw [List.flatMap_cons, placedIds_append, e.ids_constructs p, Expr.ids_allConstructs p es,
      List.flatMap_cons]

end

theorem Expr.ids_optionConstructs (p : Surroundings) (e : Option Expr) :
    placedIds (Expr.optionConstructs p e) = Expr.optionIds e := by
  cases e with
  | none => rfl
  | some e => exact e.ids_constructs p

mutual

theorem Stmt.ids_inner (p : Surroundings) : (s : Stmt) → placedIds (Stmt.inner p s) = s.ids
  | .block body => by
    rw [Stmt.inner, Stmt.ids_allConstructs, Stmt.ids_block]
  | .classDecl name superclass methods => by
    rw [Stmt.inner, placedIds_append, FunctionDecl.ids_allConstructs, Stmt.ids_classDecl]
    cases superclass <;> rfl
  | .expression value => by
    rw [Stmt.inner, value.ids_constructs, Stmt.ids_expression]
  | .functionDecl d => by
    rw [Stmt.inner, d.ids_constructs, Stmt.ids_functionDecl]
  | .conditional condition thenBranch elseBranch => by
    rw [Stmt.inner, placedIds_append, condition.ids_constructs, List.cons_append,
      placedIds_statement, placedIds_append, thenBranch.ids_inner, Stmt.ids_optionConstructs,
      Stmt.ids_conditional]
  | .print value => by
    rw [Stmt.inner, value.ids_constructs, Stmt.ids_print]
  | .ret _ value => by
    rw [Stmt.inner, Expr.ids_optionConstructs, Stmt.ids_ret]
  | .varDecl _ initializer => by
    rw [Stmt.inner, Expr.ids_optionConstructs, Stmt.ids_varDecl]
  | .loop condition body => by
    rw [Stmt.inner, placedIds_append, condition.ids_constructs, placedIds_statement,
      body.ids_inner, Stmt.ids_loop]

theorem Stmt.ids_optionConstructs (p : Surroundings) : (s : Option Stmt) →
    placedIds (Stmt.optionConstructs p s) = s.elim [] Stmt.ids
  | none => rfl
  | some s => by
    rw [Stmt.optionConstructs, placedIds_statement, s.ids_inner]
    rfl

theorem Stmt.ids_allConstructs (p : Surroundings) : (ss : List Stmt) →
    placedIds (Stmt.allConstructs p ss) = ss.flatMap Stmt.ids
  | [] => rfl
  | s :: ss => by
    rw [Stmt.allConstructs, List.cons_append, placedIds_statement, placedIds_append, s.ids_inner,
      Stmt.ids_allConstructs, List.flatMap_cons]

theorem FunctionDecl.ids_constructs (role : FunctionRole) (p : Surroundings) : (d : FunctionDecl) →
    placedIds (d.constructs role p) = d.ids
  | ⟨name, params, body⟩ => by
    rw [FunctionDecl.constructs, placedIds_append, placedIds_placedParams, List.nil_append,
      Stmt.ids_allConstructs, FunctionDecl.ids_eq]

theorem FunctionDecl.ids_allConstructs (p : Surroundings) : (ds : List FunctionDecl) →
    placedIds (FunctionDecl.allConstructs p ds) = ds.flatMap FunctionDecl.ids
  | [] => rfl
  | d :: ds => by
    rw [FunctionDecl.allConstructs, placedIds_append, d.ids_constructs,
      FunctionDecl.ids_allConstructs, List.flatMap_cons]

end

/-- Each occurrence of a program is listed once among its constructs. -/
theorem Scope.ids_allConstructs (program : List Stmt) :
    placedIds (Stmt.allConstructs [] program) = siteIds program := by
  rw [Stmt.ids_allConstructs, siteIds_eq]

end Lox
