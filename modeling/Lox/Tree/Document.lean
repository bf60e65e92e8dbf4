import Lox.Json
import Lox.Traversal
import Lox.Tree.Basic

/-!
# Trees as JSON documents

Each expression and statement is an object with one member, whose key names its form; the fields
of the form follow in a fixed order, and absent parts are null.

## Main definitions

* `documenting`: the traversal that yields the events of a tree.
* `Expr.document`, `programDocument`: the documents of an expression and of a program.
-/

namespace Lox

namespace Document

open Json (Event)

/-- An event, or a part of the tree whose events stand in its place. -/
abbrev Piece : Type :=
  Part Node Event

/-- A key and the pieces of its value. -/
def field (key : String) (value : List Piece) : List Piece :=
  .leaf (.key key) :: value

/-- An object with the given fields. -/
def object (fields : List (List Piece)) : List Piece :=
  .leaf .beginObject :: fields.flatten ++ [.leaf .endObject]

/-- A list of the given pieces. -/
def list (pieces : List Piece) : List Piece :=
  .leaf .beginList :: pieces ++ [.leaf .endList]

/-- A form with one unnamed part. -/
def form (name : String) (value : List Piece) : List Piece :=
  object [field name value]

/-- A natural number. -/
def natural (n : Nat) : List Piece :=
  [.leaf (.natural n)]

/-- A string. -/
def text (s : String) : List Piece :=
  [.leaf (.string s)]

/-- A number. -/
def number (x : Float) : List Piece :=
  [.leaf (.number x)]

/-- An expression. -/
def expr (e : Expr) : List Piece :=
  [.node (.expression e)]

/-- A statement. -/
def stmt (s : Stmt) : List Piece :=
  [.node (.statement s)]

/-- A part that may be absent. -/
def optional {α : Type} (piece : α → List Piece) : Option α → List Piece
  | none => [.leaf .null]
  | some value => piece value

/-- The kind of a token: its name, with the value if it is a literal. -/
def kind : TokenKind → List Piece
  | .string contents => form "STRING" (text contents)
  | .number x => form "NUMBER" (number x)
  | kind => text kind.label

/-- A token. -/
def token (t : Token) : List Piece :=
  object [field "token_type" (kind t.kind), field "lexeme" (text t.lexeme),
    field "line" (natural t.line)]

/-- A constant. -/
def literal : Literal → List Piece
  | .number x => form "Number" (number x)
  | .string s => form "Str" (text s)
  | .boolean true => text "True"
  | .boolean false => text "False"
  | .nil => text "Nil"

/-- A reference to a variable. -/
def reference (name : Occurrence) : List Piece :=
  form "Variable" (object [field "id" (natural name.id), field "name" (token name.name)])

/-- The pieces of an expression. -/
def expandExpr : Expr → List Piece
  | .literal value line =>
    form "Literal" (object [field "value" (literal value), field "line" (natural line)])
  | .grouping inner => form "Grouping" (expr inner)
  | .unary operator right =>
    form "Unary" (object [field "operator" (token operator), field "right" (expr right)])
  | .binary left operator right =>
    form "Binary" (object [field "left" (expr left), field "operator" (token operator),
      field "right" (expr right)])
  | .logical left operator right =>
    form "Logical" (object [field "left" (expr left), field "operator" (token operator),
      field "right" (expr right)])
  | .reference name => reference name
  | .assign name value =>
    form "Assign" (object [field "id" (natural name.id), field "name" (token name.name),
      field "value" (expr value)])
  | .call callee paren arguments =>
    form "Call" (object [field "callee" (expr callee), field "paren" (token paren),
      field "arguments" (list (arguments.map fun e => .node (.expression e)))])
  | .get object property =>
    form "Get" (Document.object [field "object" (expr object), field "name" (token property)])
  | .set object property value =>
    form "Set" (Document.object [field "object" (expr object), field "name" (token property),
      field "value" (expr value)])
  | .this keyword =>
    form "This" (object [field "id" (natural keyword.id), field "keyword" (token keyword.name)])
  | .super keyword method =>
    form "Super" (object [field "id" (natural keyword.id), field "keyword" (token keyword.name),
      field "method" (token method)])

/-- The pieces of a statement. -/
def expandStmt : Stmt → List Piece
  | .block body => form "Block" (list (body.map fun s => .node (.statement s)))
  | .classDecl name superclass methods =>
    form "Class" (object [field "name" (token name),
      field "superclass" (optional reference superclass),
      field "methods" (list (methods.map fun d => .node (.function d)))])
  | .expression value => form "Expression" (expr value)
  | .functionDecl declaration => form "Function" [.node (.function declaration)]
  | .conditional condition thenBranch elseBranch =>
    form "If" (object [field "condition" (expr condition), field "then_branch" (stmt thenBranch),
      field "else_branch" (optional stmt elseBranch)])
  | .print value => form "Print" (expr value)
  | .ret keyword value =>
    form "Return" (object [field "keyword" (token keyword), field "value" (optional expr value)])
  | .varDecl name initializer =>
    form "Var" (object [field "name" (token name), field "initializer" (optional expr initializer)])
  | .loop condition body =>
    form "While" (object [field "condition" (expr condition), field "body" (stmt body)])

/-- The pieces of a function. -/
def expandFunction (d : FunctionDecl) : List Piece :=
  object [field "name" (token d.name), field "params" (list (d.params.flatMap token)),
    field "body" (list (d.body.map fun s => .node (.statement s)))]

/-- The pieces of a part of a tree. -/
def expand : Node → List Piece
  | .expression e => expandExpr e
  | .statement s => expandStmt s
  | .function d => expandFunction d

/-! ### The pieces of a node weigh less than the node -/

section Total

variable (pieces : List Piece)

@[simp] theorem total_field (key : String) :
    Part.total Node.size (field key pieces) = Part.total Node.size pieces := rfl

@[simp] theorem total_object (fields : List (List Piece)) :
    Part.total Node.size (object fields) = Part.total Node.size fields.flatten := by
  simp [object]

@[simp] theorem total_list :
    Part.total Node.size (list pieces) = Part.total Node.size pieces := by
  simp [list]

@[simp] theorem total_form (name : String) :
    Part.total Node.size (form name pieces) = Part.total Node.size pieces := by
  simp [form]

end Total

@[simp] theorem total_natural (n : Nat) : Part.total Node.size (natural n) = 0 := rfl

@[simp] theorem total_text (s : String) : Part.total Node.size (text s) = 0 := rfl

@[simp] theorem total_number (x : Float) : Part.total Node.size (number x) = 0 := rfl

@[simp] theorem total_expr (e : Expr) : Part.total Node.size (expr e) = e.size := rfl

@[simp] theorem total_stmt (s : Stmt) : Part.total Node.size (stmt s) = s.size := rfl

@[simp] theorem total_optional_expr (e : Option Expr) :
    Part.total Node.size (optional expr e) = Expr.optionSize e := by
  cases e <;> rfl

@[simp] theorem total_optional_stmt (s : Option Stmt) :
    Part.total Node.size (optional stmt s) = Stmt.optionSize s := by
  cases s <;> rfl

@[simp] theorem total_kind (k : TokenKind) : Part.total Node.size (kind k) = 0 := by
  cases k <;> simp [kind]

@[simp] theorem total_token (t : Token) : Part.total Node.size (token t) = 0 := by
  simp [token]

@[simp] theorem total_literal (value : Literal) : Part.total Node.size (literal value) = 0 := by
  cases value with
  | boolean b => cases b <;> rfl
  | _ => simp [literal]

@[simp] theorem total_reference (name : Occurrence) :
    Part.total Node.size (reference name) = 0 := by
  simp [reference]

@[simp] theorem total_optional_reference (name : Option Occurrence) :
    Part.total Node.size (optional reference name) = 0 := by
  cases name <;> simp [optional]

@[simp] theorem total_exprs (es : List Expr) :
    Part.total Node.size (es.map fun e => (.node (.expression e) : Piece)) = Expr.sizes es := by
  induction es with
  | nil => rfl
  | cons e es ih => simp [Expr.sizes, Node.size, ih]

@[simp] theorem total_stmts (ss : List Stmt) :
    Part.total Node.size (ss.map fun s => (.node (.statement s) : Piece)) = Stmt.sizes ss := by
  induction ss with
  | nil => rfl
  | cons s ss ih => simp [Stmt.sizes, Node.size, ih]

@[simp] theorem total_functions (ds : List FunctionDecl) :
    Part.total Node.size (ds.map fun d => (.node (.function d) : Piece)) =
      FunctionDecl.sizes ds := by
  induction ds with
  | nil => rfl
  | cons d ds ih => simp [FunctionDecl.sizes, Node.size, ih]

@[simp] theorem total_tokens (ts : List Token) :
    Part.total Node.size (ts.flatMap token) = 0 := by
  induction ts with
  | nil => rfl
  | cons t ts ih => simp [List.flatMap_cons, ih]

theorem total_expand_lt (n : Node) : Part.total Node.size (expand n) < n.size := by
  cases n with
  | expression e => cases e <;> simp [expand, expandExpr, Node.size, Expr.size]
  | statement s =>
    cases s with
    | conditional condition thenBranch elseBranch =>
      simp [expand, expandStmt, Node.size, Stmt.size]
      omega
    | _ => simp [expand, expandStmt, Node.size, Stmt.size]
  | function d => cases d; simp [expand, expandFunction, Node.size, FunctionDecl.size]

end Document

/-- The traversal that yields the events of a tree's document. -/
def documenting : Traversal Node Json.Event where
  expand := Document.expand
  weight := Node.size
  total_expand_lt := Document.total_expand_lt

/-- The document of an expression. -/
def Expr.document (e : Expr) : List Json.Event :=
  documenting.toList [.node (.expression e)]

/-- The document of a program: the list of its statements. -/
def programDocument (program : List Stmt) : List Json.Event :=
  documenting.toList (Document.list (program.map fun s => .node (.statement s)))

end Lox
