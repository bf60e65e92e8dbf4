import Lox.Proofs.Grammar.Derivation
import Lox.Proofs.Scope.Numbering
import Mathlib.Data.List.Perm.Subperm

/-!
# The order of construction

While a phrase is read, the nodes of its tree are constructed one after the other, those that stand
for an occurrence of a name with a number of their own. What is constructed is not always what
stands in the tree, nor always in the order of the tree:

* the target of an assignment to a variable is read as a reference. Its node is thrown away, and the
  node of the assignment is constructed behind the assigned value;
* the clauses of a `for` statement are constructed as they are written, so the increment comes
  before the body, although it follows the body in the tree of the loop.

Since the loop that stands for a `for` statement may be written with `while` as well, the order
depends on the tokens and not on the tree alone. Operators, arities and the nearest `if` of an
`else` are no matter of the order: they are settled by the derivations of the grammar.

## Main definitions

* `Grammar.Part`: the sorts of phrases, with the types and the numbers of their trees.
* `Grammar.Constructs`: a phrase is read from tokens and constructs occurrences in some order.
* `Numbered`: occurrences with consecutive numbers.

## Main results

* `Grammar.Constructs.subperm`: every number in a tree was given to a node of its own.
-/

namespace Lox

namespace Grammar

/-- The sorts of phrases, as far as the order of construction goes. -/
inductive Part where
  | expression
  /-- Any number of expressions with commas between them. -/
  | values
  /-- An expression, or nothing. -/
  | optional
  | statement
  /-- The first clause of a `for` statement with its semicolon. -/
  | initial
  | statements
  | function
  | functions
  /-- Any number of names with commas between them. -/
  | names

/-- The trees of a sort of phrases. -/
abbrev Part.Tree : Part → Type
  | .expression => Expr
  | .values => List Expr
  | .optional => Option Expr
  | .statement => Stmt
  | .initial => Option Stmt
  | .statements => List Stmt
  | .function => FunctionDecl
  | .functions => List FunctionDecl
  | .names => List Token

/-- The numbers of the occurrences in a tree. A node that occurs twice has its number twice. -/
def Part.ids : (k : Part) → k.Tree → List NodeId
  | .expression, e => e.ids
  | .values, es => es.flatMap Expr.ids
  | .optional, e => Expr.optionIds e
  | .statement, s => s.ids
  | .initial, s => s.elim [] Stmt.ids
  | .statements, ss => ss.flatMap Stmt.ids
  | .function, d => d.ids
  | .functions, ds => ds.flatMap FunctionDecl.ids
  | .names, _ => []

/-- Reading a phrase from tokens as a tree constructs nodes for these occurrences, in this order. -/
inductive Constructs : (k : Part) → List Token → k.Tree → List Occurrence → Prop
  -- Primary expressions
  | literal {t : Token} {value : Literal} (isLiteral : literal? t.kind = some value) :
      Constructs .expression [t] (.literal value t.line) []
  | reference (name : Occurrence) : Constructs .expression [name.name] (.reference name) [name]
  | this (keyword : Occurrence) : Constructs .expression [keyword.name] (.this keyword) [keyword]
  | super (keyword : Occurrence) {dot method : Token} (isDot : dot.isSymbol .dot) :
      Constructs .expression [keyword.name, dot, method] (.super keyword method) [keyword]
  | grouping {left right : Token} {ts : List Token} {inner : Expr} {log : List Occurrence}
      (isLeft : left.isSymbol .leftParen) (h : Constructs .expression ts inner log)
      (isRight : right.isSymbol .rightParen) :
      Constructs .expression (left :: (ts ++ [right])) (.grouping inner) log
  -- Operators, calls and properties, from left to right
  | unary (operator : Token) {ts : List Token} {right : Expr} {log : List Occurrence}
      (h : Constructs .expression ts right log) :
      Constructs .expression (operator :: ts) (.unary operator right) log
  | binary {operator : Token} {ts us : List Token} {left right : Expr} {log log' : List Occurrence}
      (h : Constructs .expression ts left log) (h' : Constructs .expression us right log') :
      Constructs .expression (ts ++ operator :: us) (.binary left operator right) (log ++ log')
  | logical {operator : Token} {ts us : List Token} {left right : Expr} {log log' : List Occurrence}
      (h : Constructs .expression ts left log) (h' : Constructs .expression us right log') :
      Constructs .expression (ts ++ operator :: us) (.logical left operator right) (log ++ log')
  | call {left right : Token} {ts us : List Token} {callee : Expr} {es : List Expr}
      {log log' : List Occurrence} (h : Constructs .expression ts callee log)
      (isLeft : left.isSymbol .leftParen) (h' : Constructs .values us es log')
      (isRight : right.isSymbol .rightParen) :
      Constructs .expression (ts ++ left :: (us ++ [right])) (.call callee right es) (log ++ log')
  | get {dot property : Token} {ts : List Token} {object : Expr} {log : List Occurrence}
      (h : Constructs .expression ts object log) (isDot : dot.isSymbol .dot) :
      Constructs .expression (ts ++ [dot, property]) (.get object property) log
  | set {dot property equal : Token} {ts us : List Token} {object value : Expr}
      {log log' : List Occurrence} (h : Constructs .expression ts object log)
      (isDot : dot.isSymbol .dot) (isEqual : equal.isSymbol .equal)
      (h' : Constructs .expression us value log') :
      Constructs .expression (ts ++ dot :: property :: equal :: us) (.set object property value)
        (log ++ log')
  -- The reference that is thrown away comes first, and the assignment last.
  | assign {target name : Occurrence} {equal : Token} {ts : List Token} {value : Expr}
      {log : List Occurrence} (sameName : name.name = target.name) (isEqual : equal.isSymbol .equal)
      (h : Constructs .expression ts value log) :
      Constructs .expression (target.name :: equal :: ts) (.assign name value)
        (target :: (log ++ [name]))
  | noValues : Constructs .values [] [] []
  | lastValue {ts : List Token} {e : Expr} {log : List Occurrence}
      (h : Constructs .expression ts e log) : Constructs .values ts [e] log
  | values {comma : Token} {ts us : List Token} {e : Expr} {es : List Expr}
      {log log' : List Occurrence} (h : Constructs .expression ts e log)
      (isComma : comma.isSymbol .comma) (h' : Constructs .values us es log') :
      Constructs .values (ts ++ comma :: us) (e :: es) (log ++ log')
  | absent : Constructs .optional [] none []
  | present {ts : List Token} {e : Expr} {log : List Occurrence}
      (h : Constructs .expression ts e log) : Constructs .optional ts (some e) log
  -- Declarations
  | base {t opening closing : Token} (name : Token) {ts : List Token} {ds : List FunctionDecl}
      {log : List Occurrence} (isClass : t.isKeyword .class_)
      (isOpening : opening.isSymbol .leftBrace)
      (h : Constructs .functions ts ds log) (isClosing : closing.isSymbol .rightBrace) :
      Constructs .statement (t :: name :: opening :: (ts ++ [closing]))
        (.classDecl name none ds) log
  | derived {t less opening closing : Token} (name : Token) {parent : Occurrence} {ts : List Token}
      {ds : List FunctionDecl} {log : List Occurrence} (isClass : t.isKeyword .class_)
      (isLess : less.isSymbol .less) (isOpening : opening.isSymbol .leftBrace)
      (h : Constructs .functions ts ds log) (isClosing : closing.isSymbol .rightBrace) :
      Constructs .statement (t :: name :: less :: parent.name :: opening :: (ts ++ [closing]))
        (.classDecl name (some parent) ds) (parent :: log)
  | noFunctions : Constructs .functions [] [] []
  | functions {ts us : List Token} {d : FunctionDecl} {ds : List FunctionDecl}
      {log log' : List Occurrence} (h : Constructs .function ts d log)
      (h' : Constructs .functions us ds log') :
      Constructs .functions (ts ++ us) (d :: ds) (log ++ log')
  | function (name : Token) {left right opening closing : Token} {ts us params : List Token}
      {body : List Stmt} {log : List Occurrence} (isLeft : left.isSymbol .leftParen)
      (h : Constructs .names ts params []) (isRight : right.isSymbol .rightParen)
      (isOpening : opening.isSymbol .leftBrace) (h' : Constructs .statements us body log)
      (isClosing : closing.isSymbol .rightBrace) :
      Constructs .function (name :: left :: (ts ++ right :: opening :: (us ++ [closing])))
        ⟨name, params, body⟩ log
  | noNames : Constructs .names [] [] []
  | lastName (name : Token) : Constructs .names [name] [name] []
  | names {name comma : Token} {ts params : List Token} (isComma : comma.isSymbol .comma)
      (h : Constructs .names ts params []) :
      Constructs .names (name :: comma :: ts) (name :: params) []
  | functionDeclaration {t : Token} {ts : List Token} {d : FunctionDecl} {log : List Occurrence}
      (isFun : t.isKeyword .fun_) (h : Constructs .function ts d log) :
      Constructs .statement (t :: ts) (.functionDecl d) log
  | declared {t name semicolon : Token} (isVar : t.isKeyword .var_)
      (isSemicolon : semicolon.isSymbol .semicolon) :
      Constructs .statement [t, name, semicolon] (.varDecl name none) []
  | initialized {t equal semicolon : Token} (name : Token) {ts : List Token} {e : Expr}
      {log : List Occurrence} (isVar : t.isKeyword .var_) (isEqual : equal.isSymbol .equal)
      (h : Constructs .expression ts e log) (isSemicolon : semicolon.isSymbol .semicolon) :
      Constructs .statement (t :: name :: equal :: (ts ++ [semicolon])) (.varDecl name (some e)) log
  -- Statements
  | forLoop {t left semicolon right : Token} {ts us vs ws : List Token} {initializer : Option Stmt}
      {condition increment : Option Expr} {body : Stmt} {log₁ log₂ log₃ log₄ : List Occurrence}
      (isFor : t.isKeyword .for_) (isLeft : left.isSymbol .leftParen)
      (h₁ : Constructs .initial ts initializer log₁) (h₂ : Constructs .optional us condition log₂)
      (isSemicolon : semicolon.isSymbol .semicolon)
      (h₃ : Constructs .optional vs increment log₃) (isRight : right.isSymbol .rightParen)
      (h₄ : Constructs .statement ws body log₄) :
      Constructs .statement (t :: left :: (ts ++ (us ++ semicolon :: (vs ++ right :: ws))))
        (forLoop t initializer condition increment body) (log₁ ++ (log₂ ++ (log₃ ++ log₄)))
  | noInitial {semicolon : Token} (isSemicolon : semicolon.isSymbol .semicolon) :
      Constructs .initial [semicolon] none []
  | initial {ts : List Token} {s : Stmt} {log : List Occurrence}
      (h : Constructs .statement ts s log) : Constructs .initial ts (some s) log
  | ifThen {t left right : Token} {ts us : List Token} {e : Expr} {thenBranch : Stmt}
      {log log' : List Occurrence} (isIf : t.isKeyword .if_) (isLeft : left.isSymbol .leftParen)
      (h : Constructs .expression ts e log) (isRight : right.isSymbol .rightParen)
      (h' : Constructs .statement us thenBranch log') :
      Constructs .statement (t :: left :: (ts ++ right :: us)) (.conditional e thenBranch none)
        (log ++ log')
  | ifThenElse {t left right otherwise : Token} {ts us vs : List Token} {e : Expr}
      {thenBranch elseBranch : Stmt} {log log' log'' : List Occurrence} (isIf : t.isKeyword .if_)
      (isLeft : left.isSymbol .leftParen) (h : Constructs .expression ts e log)
      (isRight : right.isSymbol .rightParen) (h' : Constructs .statement us thenBranch log')
      (isElse : otherwise.isKeyword .else_) (h'' : Constructs .statement vs elseBranch log'') :
      Constructs .statement (t :: left :: (ts ++ right :: (us ++ otherwise :: vs)))
        (.conditional e thenBranch (some elseBranch)) (log ++ (log' ++ log''))
  | print {t semicolon : Token} {ts : List Token} {e : Expr} {log : List Occurrence}
      (isPrint : t.isKeyword .print_) (h : Constructs .expression ts e log)
      (isSemicolon : semicolon.isSymbol .semicolon) :
      Constructs .statement (t :: (ts ++ [semicolon])) (.print e) log
  | returns {t semicolon : Token} {ts : List Token} {e : Option Expr} {log : List Occurrence}
      (isReturn : t.isKeyword .return_) (h : Constructs .optional ts e log)
      (isSemicolon : semicolon.isSymbol .semicolon) :
      Constructs .statement (t :: (ts ++ [semicolon])) (.ret t e) log
  | whileLoop {t left right : Token} {ts us : List Token} {e : Expr} {body : Stmt}
      {log log' : List Occurrence} (isWhile : t.isKeyword .while_)
      (isLeft : left.isSymbol .leftParen) (h : Constructs .expression ts e log)
      (isRight : right.isSymbol .rightParen) (h' : Constructs .statement us body log') :
      Constructs .statement (t :: left :: (ts ++ right :: us)) (.loop e body) (log ++ log')
  | block {opening closing : Token} {ts : List Token} {body : List Stmt} {log : List Occurrence}
      (isOpening : opening.isSymbol .leftBrace) (h : Constructs .statements ts body log)
      (isClosing : closing.isSymbol .rightBrace) :
      Constructs .statement (opening :: (ts ++ [closing])) (.block body) log
  | effect {semicolon : Token} {ts : List Token} {e : Expr} {log : List Occurrence}
      (h : Constructs .expression ts e log) (isSemicolon : semicolon.isSymbol .semicolon) :
      Constructs .statement (ts ++ [semicolon]) (.expression e) log
  | noStatements : Constructs .statements [] [] []
  | statements {ts us : List Token} {s : Stmt} {ss : List Stmt} {log log' : List Occurrence}
      (h : Constructs .statement ts s log) (h' : Constructs .statements us ss log') :
      Constructs .statements (ts ++ us) (s :: ss) (log ++ log')

/-! ### Numbers in a tree -/

theorem ids_forLoop_perm (keyword : Token) (initializer : Option Stmt)
    (condition increment : Option Expr) (body : Stmt) :
    (forLoop keyword initializer condition increment body).ids.Perm
      (Part.ids .initial initializer ++ (Part.ids .optional condition ++
        (Part.ids .optional increment ++ Part.ids .statement body))) := by
  have clauses : (forLoop keyword initializer condition increment body).ids =
      Part.ids .initial initializer ++ (Part.ids .optional condition ++
        (body.ids ++ Part.ids .optional increment)) := by
    cases initializer <;> cases condition <;> cases increment <;>
      simp [forLoop, Part.ids, Expr.optionIds]
  rw [clauses]
  exact (List.perm_append_comm.append_left _).append_left _

/-- Every number in a tree was given to a node of its own: none occurs more often in the tree than
nodes were constructed with it. -/
theorem Constructs.subperm {k : Part} {ts : List Token} {tree : k.Tree} {log : List Occurrence}
    (h : Constructs k ts tree log) : (k.ids tree).Subperm (log.map Occurrence.id) := by
  induction h with
  | binary _ _ ih ih' | logical _ _ ih ih' | set _ _ _ _ ih ih' | call _ _ _ _ ih ih'
  | values _ _ _ ih ih' | functions _ _ ih ih' | statements _ _ ih ih'
  | whileLoop _ _ _ _ _ ih ih' =>
    simpa [Part.ids] using ih.append ih'
  | ifThen _ _ _ _ _ ih ih' => simpa [Part.ids] using ih.append ih'
  | ifThenElse _ _ _ _ _ _ _ ih ih' ih'' => simpa [Part.ids] using ih.append (ih'.append ih'')
  | @assign target name _ _ _ log _ _ _ ih =>
    have whole : (name.id :: log.map Occurrence.id).Subperm
        ((target :: (log ++ [name])).map Occurrence.id) := by
      simp only [List.map_cons, List.map_append, List.map_nil]
      exact (List.perm_append_singleton name.id (log.map Occurrence.id)).symm.subperm.trans
        (List.sublist_cons_self _ _).subperm
    simpa [Part.ids] using ((List.subperm_cons name.id).2 ih).trans whole
  | derived _ _ _ _ _ _ ih => simpa [Part.ids] using (List.subperm_cons _).2 ih
  | @forLoop t _ _ _ _ _ _ _ initializer condition increment body _ _ _ _ _ _ _ _ _ _ _ _
      ih₁ ih₂ ih₃ ih₄ =>
    have clauses := ih₁.append (ih₂.append (ih₃.append ih₄))
    simpa [Part.ids] using
      (ids_forLoop_perm t initializer condition increment body).subperm.trans clauses
  | literal | noValues | absent | noFunctions | noNames | lastName | names | declared | noInitial
  | noStatements => simp [Part.ids, Expr.optionIds]
  | reference | this | super => simp [Part.ids]
  | grouping _ _ _ ih | unary _ _ ih | get _ _ ih | lastValue _ ih | present _ ih
  | base _ _ _ _ _ ih
  | function _ _ _ _ _ _ _ _ ih | functionDeclaration _ _ ih | initialized _ _ _ _ _ ih
  | initial _ ih
  | print _ _ _ ih | returns _ _ _ ih | block _ _ _ ih | effect _ _ ih =>
    simpa [Part.ids, Expr.optionIds] using ih

end Grammar

/-! ### Consecutive numbers -/

/-- The occurrences have the numbers from `lo` up to but without `hi`, in this order. -/
structure Numbered (lo : NodeId) (log : List Occurrence) (hi : NodeId) : Prop where
  ids_eq : log.map Occurrence.id = List.range' lo log.length
  hi_eq : hi = lo + log.length

namespace Numbered

variable {lo mid hi : NodeId} {log log' : List Occurrence}

theorem nil : Numbered lo [] lo :=
  ⟨rfl, rfl⟩

theorem append (h : Numbered lo log mid) (h' : Numbered mid log' hi) :
    Numbered lo (log ++ log') hi where
  ids_eq := by
    have later := h'.ids_eq
    rw [h.hi_eq] at later
    rw [List.map_append, h.ids_eq, later, List.length_append, List.range'_append_1]
  hi_eq := by
    rw [h'.hi_eq, h.hi_eq, List.length_append, Nat.add_assoc]

/-- Each node gets a greater number than those that were constructed before it. -/
theorem ascending (h : Numbered lo log hi) : (log.map Occurrence.id).Pairwise (· < ·) := by
  rw [h.ids_eq]
  exact List.pairwise_lt_range'

theorem range (h : Numbered lo log hi) : ∀ id ∈ log.map Occurrence.id, lo ≤ id ∧ id < hi := by
  intro id mem
  rw [h.ids_eq, List.mem_range'_1, ← h.hi_eq] at mem
  exact mem

end Numbered

end Lox
