import Lox.Traversal
import Lox.Tree.Basic

/-!
# The printed form of a tree

A tree is printed in prefix form: an operator, the name of a statement or a word for the kind of
expression, followed by its parts, all in parentheses. Numbers always show a fraction.

## Main definitions

* `Literal.text`: the text of a constant.
* `Expr.printed`, `Stmt.printed`, `printedProgram`: the printed form.
* `printing`: the traversal that yields the fragments of the printed form.
-/

namespace Lox

/-- The text of a constant: a whole number in full with one decimal place, any other number in the
plain style, a string without quotes. -/
def Literal.text : Literal → String
  | .number x =>
    if (Number.binary x).isIntegral then Number.wholeText x ++ ".0"
    else Number.Style.plain.write x
  | .string s => s
  | .boolean true => "true"
  | .boolean false => "false"
  | .nil => "nil"

namespace Printer

/-- A fragment of text, or a part of the tree whose fragments stand in its place. -/
abbrev Fragment : Type :=
  Part Node String

/-- A head and parts in parentheses, with one blank before each part. -/
def group (head : String) (parts : List Fragment) : List Fragment :=
  .leaf "(" :: .leaf head :: parts.flatMap (fun part => [.leaf " ", part]) ++ [.leaf ")"]

/-- The fragment for an expression. -/
def expr (e : Expr) : Fragment :=
  .node (.expression e)

/-- The fragment for a statement. -/
def stmt (s : Stmt) : Fragment :=
  .node (.statement s)

/-- The fragment for a function. -/
def function (d : FunctionDecl) : Fragment :=
  .node (.function d)

/-- The fragments of an expression. -/
def expandExpr : Expr → List Fragment
  | .literal value _ => [.leaf value.text]
  | .grouping inner => group "group" [expr inner]
  | .unary operator right => group operator.lexeme [expr right]
  | .binary left operator right => group operator.lexeme [expr left, expr right]
  | .logical left operator right => group operator.lexeme [expr left, expr right]
  | .reference name => [.leaf name.name.lexeme]
  | .assign name value => group "=" [.leaf name.name.lexeme, expr value]
  | .call callee _ arguments => group "call" (expr callee :: arguments.map expr)
  | .get object property => group "." [expr object, .leaf property.lexeme]
  | .set object property value =>
    .leaf "(= " :: group "." [expr object, .leaf property.lexeme] ++
      [.leaf " ", expr value, .leaf ")"]
  | .this _ => [.leaf "this"]
  | .super _ method => group "super" [.leaf method.lexeme]

/-- The fragments of a statement. -/
def expandStmt : Stmt → List Fragment
  | .block body => group "block" (body.map stmt)
  | .classDecl name none methods => group ("class " ++ name.lexeme) (methods.map function)
  | .classDecl name (some superclass) methods =>
    group ("class " ++ name.lexeme ++ " < " ++ superclass.name.lexeme) (methods.map function)
  | .expression value => group ";" [expr value]
  | .functionDecl declaration => [function declaration]
  | .conditional condition thenBranch none => group "if" [expr condition, stmt thenBranch]
  | .conditional condition thenBranch (some elseBranch) =>
    group "if-else" [expr condition, stmt thenBranch, stmt elseBranch]
  | .print value => group "print" [expr value]
  | .ret _ none => group "return" []
  | .ret _ (some value) => group "return" [expr value]
  | .varDecl name none => group "var" [.leaf name.lexeme]
  | .varDecl name (some value) => group "var" [.leaf name.lexeme, .leaf "=", expr value]
  | .loop condition body => group "while" [expr condition, stmt body]

/-- The fragments of a function: its name and parameters, then its body. -/
def expandFunction (d : FunctionDecl) : List Fragment :=
  let params := String.intercalate " " (d.params.map Token.lexeme)
  group ("fun " ++ d.name.lexeme ++ "(" ++ params ++ ")") (d.body.map stmt)

/-- The fragments of a part of a tree. -/
def expand : Node → List Fragment
  | .expression e => expandExpr e
  | .statement s => expandStmt s
  | .function d => expandFunction d

@[simp] theorem total_group (head : String) (parts : List Fragment) :
    Part.total Node.size (group head parts) = Part.total Node.size parts := by
  have spaced : Part.total Node.size (parts.flatMap fun part => [.leaf " ", part]) =
      Part.total Node.size parts := by
    induction parts with
    | nil => rfl
    | cons part parts ih => cases part <;> simp [List.flatMap_cons, ih]
  simp [group, spaced]

theorem total_map_expr (es : List Expr) : Part.total Node.size (es.map expr) = Expr.sizes es := by
  induction es with
  | nil => rfl
  | cons e es ih => simp [expr, Expr.sizes, Node.size, ih]

theorem total_map_stmt (ss : List Stmt) : Part.total Node.size (ss.map stmt) = Stmt.sizes ss := by
  induction ss with
  | nil => rfl
  | cons s ss ih => simp [stmt, Stmt.sizes, Node.size, ih]

theorem total_map_function (ds : List FunctionDecl) :
    Part.total Node.size (ds.map function) = FunctionDecl.sizes ds := by
  induction ds with
  | nil => rfl
  | cons d ds ih => simp [function, FunctionDecl.sizes, Node.size, ih]

theorem total_expand_lt (n : Node) : Part.total Node.size (expand n) < n.size := by
  cases n with
  | expression e =>
    cases e <;> simp [expand, expandExpr, Node.size, Expr.size] <;>
      simp [expr, total_map_expr, Node.size]
  | statement s =>
    cases s with
    | classDecl name superclass methods =>
      cases superclass <;> simp [expand, expandStmt, total_map_function, Node.size, Stmt.size]
    | conditional condition thenBranch elseBranch =>
      cases elseBranch with
      | none => simp [expand, expandStmt, Node.size, Stmt.size, Stmt.optionSize, expr, stmt]
      | some elseBranch =>
        simp only [expand, expandStmt, total_group, expr, stmt, Part.total_node, Part.total_nil,
          Node.size, Stmt.size, Stmt.optionSize]
        omega
    | ret keyword value =>
      cases value <;> simp [expand, expandStmt, Node.size, Stmt.size, Expr.optionSize, expr]
    | varDecl name value =>
      cases value <;> simp [expand, expandStmt, Node.size, Stmt.size, Expr.optionSize, expr]
    | block body => simp [expand, expandStmt, total_map_stmt, Node.size, Stmt.size]
    | expression value => simp [expand, expandStmt, expr, Node.size, Stmt.size]
    | functionDecl declaration => simp [expand, expandStmt, function, Node.size, Stmt.size]
    | print value => simp [expand, expandStmt, expr, Node.size, Stmt.size]
    | loop condition body =>
      simp [expand, expandStmt, expr, stmt, Node.size, Stmt.size]
  | function d =>
    cases d
    simp [expand, expandFunction, total_map_stmt, Node.size, FunctionDecl.size]

end Printer

/-- The traversal that yields the fragments of the printed form. -/
def printing : Traversal Node String where
  expand := Printer.expand
  weight := Node.size
  total_expand_lt := Printer.total_expand_lt

/-- The printed form of a part of a tree. -/
def Node.printed (n : Node) : String :=
  String.join (printing.toList [.node n])

/-- The printed form of an expression. -/
def Expr.printed (e : Expr) : String :=
  (Node.expression e).printed

/-- The printed form of a statement. -/
def Stmt.printed (s : Stmt) : String :=
  (Node.statement s).printed

/-- The printed form of a program, one line for each of its statements. -/
def printedProgram (program : List Stmt) : String :=
  String.intercalate "\n" (program.map Stmt.printed)

end Lox
