import Lox.Tree.Printer
import Lox.Proofs.Tree.Form

/-!
# The printed form as a symbolic expression

## Main definitions

* `Expr.form`, `Stmt.form`, `FunctionDecl.form`: the symbolic expressions of trees.

## Main results

* `Expr.toList_printed`, `Stmt.toList_printed`: the printed form of a tree is the text of its
  symbolic expression.
-/

namespace Lox

/-- The word that is the text of a token. -/
def Token.form (t : Token) : Form :=
  .word t.lexeme.toList

mutual

/-- The symbolic expression of an expression. -/
def Expr.form : Expr → Form
  | .literal value _ => .word value.text.toList
  | .grouping inner => .group "group".toList [inner.form]
  | .unary operator right => .group operator.lexeme.toList [right.form]
  | .binary left operator right => .group operator.lexeme.toList [left.form, right.form]
  | .logical left operator right => .group operator.lexeme.toList [left.form, right.form]
  | .reference name => name.name.form
  | .assign name value => .group "=".toList [name.name.form, value.form]
  | .call callee _ arguments => .group "call".toList (callee.form :: Expr.forms arguments)
  | .get object property => .group ".".toList [object.form, property.form]
  | .set object property value =>
    .group "=".toList [.group ".".toList [object.form, property.form], value.form]
  | .this _ => .word "this".toList
  | .super _ method => .group "super".toList [method.form]

/-- The symbolic expressions of expressions. -/
def Expr.forms : List Expr → List Form
  | [] => []
  | e :: es => e.form :: Expr.forms es

end

mutual

/-- The symbolic expression of a statement. -/
def Stmt.form : Stmt → Form
  | .block body => .group "block".toList (Stmt.forms body)
  | .classDecl name none methods =>
    .group "class".toList (name.form :: FunctionDecl.forms methods)
  | .classDecl name (some superclass) methods =>
    .group "class".toList
      (name.form :: .word "<".toList :: superclass.name.form :: FunctionDecl.forms methods)
  | .expression value => .group ";".toList [value.form]
  | .functionDecl declaration => declaration.form
  | .conditional condition thenBranch none =>
    .group "if".toList [condition.form, thenBranch.form]
  | .conditional condition thenBranch (some elseBranch) =>
    .group "if-else".toList [condition.form, thenBranch.form, elseBranch.form]
  | .print value => .group "print".toList [value.form]
  | .ret _ none => .group "return".toList []
  | .ret _ (some value) => .group "return".toList [value.form]
  | .varDecl name none => .group "var".toList [name.form]
  | .varDecl name (some value) => .group "var".toList [name.form, .word "=".toList, value.form]
  | .loop condition body => .group "while".toList [condition.form, body.form]

/-- The symbolic expressions of statements. -/
def Stmt.forms : List Stmt → List Form
  | [] => []
  | s :: ss => s.form :: Stmt.forms ss

/-- The symbolic expression of a function. -/
def FunctionDecl.form : FunctionDecl → Form
  | ⟨name, params, body⟩ =>
    .group "fun".toList (.header name.lexeme.toList (params.map fun param => param.lexeme.toList) ::
      Stmt.forms body)

/-- The symbolic expressions of functions. -/
def FunctionDecl.forms : List FunctionDecl → List Form
  | [] => []
  | d :: ds => d.form :: FunctionDecl.forms ds

end

theorem Expr.forms_eq (es : List Expr) : Expr.forms es = es.map Expr.form := by
  induction es with
  | nil => rfl
  | cons e es ih => rw [Expr.forms, ih, List.map_cons]

theorem Stmt.forms_eq (ss : List Stmt) : Stmt.forms ss = ss.map Stmt.form := by
  induction ss with
  | nil => rfl
  | cons s ss ih => rw [Stmt.forms, ih, List.map_cons]

theorem FunctionDecl.forms_eq (ds : List FunctionDecl) :
    FunctionDecl.forms ds = ds.map FunctionDecl.form := by
  induction ds with
  | nil => rfl
  | cons d ds ih => rw [FunctionDecl.forms, ih, List.map_cons]

namespace Printer

/-! ### The text of fragments -/

/-- The text that fragments stand for. -/
def charsOf (parts : List Fragment) : List Char :=
  (printing.toList parts).flatMap String.toList

@[simp] theorem charsOf_nil : charsOf [] = [] := by
  simp [charsOf]

@[simp] theorem charsOf_leaf (text : String) (parts : List Fragment) :
    charsOf (.leaf text :: parts) = text.toList ++ charsOf parts := by
  simp [charsOf]

@[simp] theorem charsOf_append (parts parts' : List Fragment) :
    charsOf (parts ++ parts') = charsOf parts ++ charsOf parts' := by
  simp [charsOf, Traversal.toList_append]

theorem charsOf_node (n : Node) (parts : List Fragment) :
    charsOf (.node n :: parts) = charsOf (expand n) ++ charsOf parts := by
  simp [charsOf, printing]

/-- The text of parts with a blank before each. -/
def spaced (parts : List Fragment) : List Char :=
  parts.flatMap fun part => ' ' :: charsOf [part]

@[simp] theorem spaced_nil : spaced [] = [] :=
  rfl

@[simp] theorem spaced_cons (part : Fragment) (parts : List Fragment) :
    spaced (part :: parts) = ' ' :: (charsOf [part] ++ spaced parts) := by
  simp [spaced]

@[simp] theorem charsOf_group (head : String) (parts : List Fragment) :
    charsOf (group head parts) = '(' :: (head.toList ++ (spaced parts ++ [')'])) := by
  have blanks : charsOf (parts.flatMap fun part => [.leaf " ", part]) = spaced parts := by
    induction parts with
    | nil => simp
    | cons part parts ih =>
      rw [List.flatMap_cons, charsOf_append, ih, spaced_cons]
      simp
  simp [group, blanks]

theorem toList_printed (n : Node) : n.printed.toList = charsOf (expand n) := by
  have isText : n.printed.toList = charsOf [.node n] := by
    rw [Node.printed, charsOf, String.toList_join]
  rw [isText, charsOf_node, charsOf_nil, List.append_nil]

end Printer

/-! ### Trees -/

open Printer

theorem Printer.charsOf_expr (e : Expr) : charsOf [expr e] = charsOf (expandExpr e) := by
  simp [expr, charsOf_node, expand]

theorem Printer.charsOf_stmt (s : Stmt) : charsOf [stmt s] = charsOf (expandStmt s) := by
  simp [stmt, charsOf_node, expand]

theorem Printer.charsOf_function (d : FunctionDecl) :
    charsOf [function d] = charsOf (expandFunction d) := by
  simp [function, charsOf_node, expand]

mutual

theorem Expr.charsOf_eq : ∀ e : Expr, charsOf [expr e] = e.form.chars
  | .literal value _ => by simp [charsOf_expr, expandExpr, form, Form.chars]
  | .grouping inner => by
    rw [charsOf_expr]
    simp [expandExpr, form, Form.chars, Form.partsChars, inner.charsOf_eq]
  | .unary operator right => by
    rw [charsOf_expr]
    simp [expandExpr, form, Form.chars, Form.partsChars, right.charsOf_eq]
  | .binary left operator right | .logical left operator right => by
    rw [charsOf_expr]
    simp [expandExpr, form, Form.chars, Form.partsChars, left.charsOf_eq, right.charsOf_eq]
  | .reference name => by simp [charsOf_expr, expandExpr, form, Token.form, Form.chars]
  | .assign name value => by
    rw [charsOf_expr]
    simp [expandExpr, form, Token.form, Form.chars, Form.partsChars, value.charsOf_eq]
  | .call callee paren arguments => by
    rw [charsOf_expr]
    simp [expandExpr, form, Form.chars, Form.partsChars, callee.charsOf_eq,
      Expr.spaced_eq arguments]
  | .get object property => by
    rw [charsOf_expr]
    simp [expandExpr, form, Token.form, Form.chars, Form.partsChars, object.charsOf_eq]
  | .set object property value => by
    have written : charsOf [expr value, .leaf ")"] = value.form.chars ++ [')'] := by
      rw [← List.singleton_append, charsOf_append, value.charsOf_eq]
      simp
    rw [charsOf_expr]
    simp [expandExpr, form, Token.form, Form.chars, Form.partsChars, object.charsOf_eq, written]
  | .this _ => by simp [charsOf_expr, expandExpr, form, Form.chars]
  | .super _ method => by
    simp [charsOf_expr, expandExpr, form, Token.form, Form.chars, Form.partsChars]

theorem Expr.spaced_eq : ∀ es : List Expr,
    spaced (es.map Printer.expr) = Form.partsChars (Expr.forms es)
  | [] => rfl
  | e :: es => by simp [Expr.forms, Form.partsChars, e.charsOf_eq, Expr.spaced_eq es]

end

mutual

theorem Stmt.charsOf_eq : ∀ s : Stmt, charsOf [stmt s] = s.form.chars
  | .block body => by
    rw [charsOf_stmt]
    simp [expandStmt, Stmt.form, Form.chars, Stmt.spaced_eq body]
  | .classDecl name none methods => by
    rw [charsOf_stmt]
    simp [expandStmt, Stmt.form, Token.form, Form.chars, Form.partsChars,
      FunctionDecl.spaced_eq methods]
  | .classDecl name (some superclass) methods => by
    rw [charsOf_stmt]
    simp [expandStmt, Stmt.form, Token.form, Form.chars, Form.partsChars,
      FunctionDecl.spaced_eq methods]
  | .expression value | .print value => by
    rw [charsOf_stmt]
    simp [expandStmt, Stmt.form, Form.chars, Form.partsChars, value.charsOf_eq]
  | .functionDecl declaration => by
    rw [charsOf_stmt]
    simp [expandStmt, Stmt.form, declaration.charsOf_eq]
  | .conditional condition thenBranch none => by
    rw [charsOf_stmt]
    simp [expandStmt, Stmt.form, Form.chars, Form.partsChars, condition.charsOf_eq,
      thenBranch.charsOf_eq]
  | .conditional condition thenBranch (some elseBranch) => by
    rw [charsOf_stmt]
    simp [expandStmt, Stmt.form, Form.chars, Form.partsChars, condition.charsOf_eq,
      thenBranch.charsOf_eq, elseBranch.charsOf_eq]
  | .ret _ none => by simp [charsOf_stmt, expandStmt, Stmt.form, Form.chars, Form.partsChars]
  | .ret _ (some value) => by
    rw [charsOf_stmt]
    simp [expandStmt, Stmt.form, Form.chars, Form.partsChars, value.charsOf_eq]
  | .varDecl name none => by
    simp [charsOf_stmt, expandStmt, Stmt.form, Token.form, Form.chars, Form.partsChars]
  | .varDecl name (some value) => by
    rw [charsOf_stmt]
    simp [expandStmt, Stmt.form, Token.form, Form.chars, Form.partsChars, value.charsOf_eq]
  | .loop condition body => by
    rw [charsOf_stmt]
    simp [expandStmt, Stmt.form, Form.chars, Form.partsChars, condition.charsOf_eq, body.charsOf_eq]

theorem Stmt.spaced_eq : ∀ ss : List Stmt,
    spaced (ss.map Printer.stmt) = Form.partsChars (Stmt.forms ss)
  | [] => rfl
  | s :: ss => by simp [Stmt.forms, Form.partsChars, s.charsOf_eq, Stmt.spaced_eq ss]

theorem FunctionDecl.charsOf_eq : ∀ d : FunctionDecl, charsOf [function d] = d.form.chars
  | ⟨name, params, body⟩ => by
    rw [charsOf_function]
    simp [expandFunction, FunctionDecl.form, Form.chars, Form.partsChars, Stmt.spaced_eq body,
      String.toList_intercalate, Function.comp_def]

theorem FunctionDecl.spaced_eq : ∀ ds : List FunctionDecl,
    spaced (ds.map Printer.function) = Form.partsChars (FunctionDecl.forms ds)
  | [] => rfl
  | d :: ds => by
    simp [FunctionDecl.forms, Form.partsChars, d.charsOf_eq, FunctionDecl.spaced_eq ds]

end

/-- The printed form of an expression is the text of its symbolic expression. -/
theorem Expr.toList_printed (e : Expr) : e.printed.toList = e.form.chars := by
  rw [Expr.printed, Printer.toList_printed, ← e.charsOf_eq, charsOf_expr]
  rfl

/-- The printed form of a statement is the text of its symbolic expression. -/
theorem Stmt.toList_printed (s : Stmt) : s.printed.toList = s.form.chars := by
  rw [Stmt.printed, Printer.toList_printed, ← s.charsOf_eq, charsOf_stmt]
  rfl

/-- The printed form of a program has the texts of its statements on lines of their own. -/
theorem toList_printedProgram (program : List Stmt) :
    (printedProgram program).toList = ['\n'].intercalate (program.map fun s => s.form.chars) := by
  simp [printedProgram, String.toList_intercalate, Function.comp_def, Stmt.toList_printed]

end Lox
