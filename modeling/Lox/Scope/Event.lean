import Lox.Traversal
import Lox.Tree.Basic

/-!
# What matters for scopes

The static meaning of names depends on a tree only through a sequence of *events*, in the order of
the source: scopes open and close, names are declared and looked up, functions and classes are
entered and left. An assignment is listed before its value.

## Main definitions

* `Scope.Event`: the events; `scoping`: the traversal that lists them.
* `Scope.Site`, `Scope.sites`: the occurrences of names among them.
-/

namespace Lox.Scope

/-- What a function body is the body of. -/
inductive FunctionRole where
  | plain
  | method
  | initializer
  deriving DecidableEq, Repr

/-- The forms in which names occur. -/
inductive SiteKind where
  | reference
  | assignment
  | this
  | super
  deriving DecidableEq, Repr

/-- An occurrence of a name and its form. -/
structure Site where
  kind : SiteKind
  occurrence : Occurrence

/-- A step of the static reading of a program. -/
inductive Event where
  | opening
  | closing
  /-- A name enters the innermost scope, and is not ready for use yet. -/
  | declare (name : Token)
  /-- A declared name becomes ready for use. -/
  | define (name : Token)
  /-- A name that is not written in the source enters the innermost scope. -/
  | implicit (name : String)
  | enterFunction (role : FunctionRole)
  | leaveFunction
  | enterClass (hasSuperclass : Bool)
  | leaveClass
  /-- A class names itself as its superclass. -/
  | selfInheritance (superclass : Token)
  | occurs (site : Site)
  | returns (keyword : Token) (hasValue : Bool)

/-- An event, or a part of the tree whose events stand in its place. -/
abbrev Piece : Type :=
  Part Node Event

/-- The piece for an expression. -/
def expr (e : Expr) : Piece :=
  .node (.expression e)

/-- The piece for a statement. -/
def stmt (s : Stmt) : Piece :=
  .node (.statement s)

/-- The piece for an occurrence of a name. -/
def occurs (kind : SiteKind) (occurrence : Occurrence) : Piece :=
  .leaf (.occurs ⟨kind, occurrence⟩)

/-- Pieces between two events. -/
def between (first last : Event) (pieces : List Piece) : List Piece :=
  .leaf first :: pieces ++ [.leaf last]

/-- A name that is declared and ready at once. -/
def introduce (name : Token) : List Piece :=
  [.leaf (.declare name), .leaf (.define name)]

/-- The role of a method: the name `init` makes it an initializer. -/
def methodRole (d : FunctionDecl) : FunctionRole :=
  if d.name.lexeme == "init" then .initializer else .method

/-- A function in its role. -/
def function (role : FunctionRole) (d : FunctionDecl) : List Piece :=
  between (.enterFunction role) .leaveFunction [.node (.function d)]

/-- The scope of the instance around the methods of a class. -/
def methodScope (methods : List FunctionDecl) : List Piece :=
  between .opening .closing
    (.leaf (.implicit "this") :: methods.flatMap fun d => function (methodRole d) d)

/-- The superclass of a class, and the scope of the superclass around the methods. -/
def inheriting (name : Token) (superclass : Occurrence) (methods : List FunctionDecl) :
    List Piece :=
  (if superclass.name.lexeme == name.lexeme then [.leaf (.selfInheritance superclass.name)]
    else []) ++
  [occurs .reference superclass] ++
  between .opening .closing (.leaf (.implicit "super") :: methodScope methods)

/-- The pieces of an expression. -/
def expandExpr : Expr → List Piece
  | .literal .. => []
  | .grouping inner => [expr inner]
  | .unary _ right => [expr right]
  | .binary left _ right => [expr left, expr right]
  | .logical left _ right => [expr left, expr right]
  | .reference name => [occurs .reference name]
  | .assign name value => [occurs .assignment name, expr value]
  | .call callee _ arguments => expr callee :: arguments.map expr
  | .get object _ => [expr object]
  | .set object _ value => [expr object, expr value]
  | .this keyword => [occurs .this keyword]
  | .super keyword _ => [occurs .super keyword]

/-- The pieces of a statement. -/
def expandStmt : Stmt → List Piece
  | .block body => between .opening .closing (body.map stmt)
  | .classDecl name none methods =>
    between (.enterClass false) .leaveClass (introduce name ++ methodScope methods)
  | .classDecl name (some superclass) methods =>
    between (.enterClass true) .leaveClass (introduce name ++ inheriting name superclass methods)
  | .expression value => [expr value]
  | .functionDecl declaration =>
    introduce declaration.name ++ function .plain declaration
  | .conditional condition thenBranch none => [expr condition, stmt thenBranch]
  | .conditional condition thenBranch (some elseBranch) =>
    [expr condition, stmt thenBranch, stmt elseBranch]
  | .print value => [expr value]
  | .ret keyword none => [.leaf (.returns keyword false)]
  | .ret keyword (some value) => [.leaf (.returns keyword true), expr value]
  | .varDecl name none => introduce name
  | .varDecl name (some value) =>
    [.leaf (.declare name), expr value, .leaf (.define name)]
  | .loop condition body => [expr condition, stmt body]

/-- The pieces of a function: one scope holds its parameters and its body. -/
def expandFunction (d : FunctionDecl) : List Piece :=
  between .opening .closing (d.params.flatMap introduce ++ d.body.map stmt)

/-- The pieces of a part of a tree. -/
def expand : Node → List Piece
  | .expression e => expandExpr e
  | .statement s => expandStmt s
  | .function d => expandFunction d

/-! ### The pieces of a node weigh less than the node -/

@[simp] theorem total_between (first last : Event) (pieces : List Piece) :
    Part.total Node.size (between first last pieces) = Part.total Node.size pieces := by
  simp [between]

@[simp] theorem total_introduce (name : Token) : Part.total Node.size (introduce name) = 0 := rfl

@[simp] theorem total_introduces (names : List Token) :
    Part.total Node.size (names.flatMap introduce) = 0 := by
  induction names with
  | nil => rfl
  | cons name names ih => simp [List.flatMap_cons, ih]

@[simp] theorem total_function (role : FunctionRole) (d : FunctionDecl) :
    Part.total Node.size (function role d) = d.size := by
  simp [function, Node.size]

@[simp] theorem total_methods (ds : List FunctionDecl) :
    Part.total Node.size (ds.flatMap fun d => function (methodRole d) d) =
      FunctionDecl.sizes ds := by
  induction ds with
  | nil => rfl
  | cons d ds ih => simp [List.flatMap_cons, FunctionDecl.sizes, ih]

@[simp] theorem total_methodScope (ds : List FunctionDecl) :
    Part.total Node.size (methodScope ds) = FunctionDecl.sizes ds := by
  simp [methodScope]

@[simp] theorem total_inheriting (name : Token) (superclass : Occurrence)
    (ds : List FunctionDecl) :
    Part.total Node.size (inheriting name superclass ds) = FunctionDecl.sizes ds := by
  unfold inheriting
  split <;> simp [occurs]

theorem total_exprs (es : List Expr) : Part.total Node.size (es.map expr) = Expr.sizes es := by
  induction es with
  | nil => rfl
  | cons e es ih => simp [expr, Expr.sizes, Node.size, ih]

theorem total_stmts (ss : List Stmt) : Part.total Node.size (ss.map stmt) = Stmt.sizes ss := by
  induction ss with
  | nil => rfl
  | cons s ss ih => simp [stmt, Stmt.sizes, Node.size, ih]

theorem total_expand_lt (n : Node) : Part.total Node.size (expand n) < n.size := by
  cases n with
  | expression e =>
    cases e <;> simp [expand, expandExpr, Node.size, Expr.size] <;>
      simp [expr, occurs, total_exprs, Node.size]
  | statement s =>
    cases s with
    | block body => simp [expand, expandStmt, total_stmts, Node.size, Stmt.size]
    | classDecl name superclass methods =>
      cases superclass <;> simp [expand, expandStmt, Node.size, Stmt.size]
    | expression value => simp [expand, expandStmt, expr, Node.size, Stmt.size]
    | functionDecl declaration => simp [expand, expandStmt, Node.size, Stmt.size]
    | conditional condition thenBranch elseBranch =>
      cases elseBranch with
      | none => simp [expand, expandStmt, expr, stmt, Node.size, Stmt.size, Stmt.optionSize]
      | some elseBranch =>
        simp only [expand, expandStmt, expr, stmt, Part.total_node, Part.total_nil, Node.size,
          Stmt.size, Stmt.optionSize]
        omega
    | print value => simp [expand, expandStmt, expr, Node.size, Stmt.size]
    | ret keyword value =>
      cases value <;> simp [expand, expandStmt, expr, Node.size, Stmt.size, Expr.optionSize]
    | varDecl name value =>
      cases value <;> simp [expand, expandStmt, expr, Node.size, Stmt.size, Expr.optionSize]
    | loop condition body => simp [expand, expandStmt, expr, stmt, Node.size, Stmt.size]
  | function d =>
    cases d
    simp [expand, expandFunction, total_stmts, Node.size, FunctionDecl.size]

/-- The traversal that lists the events of a tree. -/
def scoping : Traversal Node Event where
  expand := expand
  weight := Node.size
  total_expand_lt := total_expand_lt

/-- The events of a program. -/
def programEvents (program : List Stmt) : List Event :=
  scoping.toList (program.map stmt)

/-- The events of an expression. -/
def expressionEvents (e : Expr) : List Event :=
  scoping.toList [expr e]

/-- The occurrences of names among events. -/
def sites (events : List Event) : List Site :=
  events.filterMap fun event =>
    match event with
    | .occurs site => some site
    | _ => none

end Lox.Scope
