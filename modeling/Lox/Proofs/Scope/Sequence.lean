import Lox.Proofs.Scope.Stage

/-!
# Programs in sequence

What opens in a statement closes in it. At the end of a program the static reading is back at the
top level, and reads a program that follows as it reads that program alone.

## Main definitions

* `Analysis.Level`: states at the same depth of scopes, functions and classes.
* `Balanced`: pieces in which all that opens closes.
* `Analysis.behind`: a state behind what was found before.

## Main results

* `Balanced.level`: balanced pieces end at the level at which they begin.
* `analyse_append`: the reading of two programs in sequence.
-/

namespace Lox.Scope

/-! ### States at the same level -/

/-- Two states at the same depth. They may differ in the names of the innermost scope, and in what
was found so far. -/
structure Analysis.Level (a a' : Analysis) : Prop where
  depth : a'.scopes.length = a.scopes.length
  outer : a'.scopes.tail = a.scopes.tail
  functions : a'.functions = a.functions
  classes : a'.classes = a.classes

namespace Analysis.Level

variable {a a' a'' : Analysis}

theorem refl (a : Analysis) : Level a a :=
  ⟨rfl, rfl, rfl, rfl⟩

theorem trans (h : Level a a') (h' : Level a' a'') : Level a a'' :=
  ⟨h'.depth.trans h.depth, h'.outer.trans h.outer, h'.functions.trans h.functions,
    h'.classes.trans h.classes⟩

theorem of_alike (h : a.Alike a') : Level a a' :=
  ⟨congrArg List.length h.scopes, congrArg List.tail h.scopes, h.functions, h.classes⟩

theorem enter (a : Analysis) (name : String) (ready : Bool) : Level a (a.enter name ready) := by
  unfold Analysis.enter
  split
  · exact refl a
  · next isScopes => exact ⟨by rw [isScopes]; rfl, by rw [isScopes]; rfl, rfl, rfl⟩

theorem declare (a : Analysis) (name : Token) : Level a (a.declare name) := by
  unfold Analysis.declare
  split
  · exact of_alike (.report a name .alreadyDeclared)
  · exact enter a name.lexeme false

end Analysis.Level

/-! ### Balanced pieces -/

/-- Events that neither open nor close anything. -/
def Event.IsFlat : Event → Prop
  | .declare _ | .define _ | .implicit _ | .selfInheritance _ | .occurs _ | .returns .. => True
  | _ => False

theorem Event.IsFlat.level {e : Event} (h : e.IsFlat) (a : Analysis) : a.Level (a.step e) := by
  cases e with
  | declare name => exact .declare a name
  | define name => exact .enter a name.lexeme true
  | implicit name => exact .enter a name true
  | selfInheritance superclass => exact .of_alike (.report a superclass .selfInheritance)
  | occurs site => exact .of_alike (.occurs a site)
  | returns keyword hasValue => exact .of_alike (.returns a keyword hasValue)
  | _ => cases h

/-- Pieces in which all that opens closes. -/
inductive Balanced : List Piece → Prop
  | nil : Balanced []
  | append {ps ps' : List Piece} (h : Balanced ps) (h' : Balanced ps') : Balanced (ps ++ ps')
  | flat {e : Event} (isFlat : e.IsFlat) : Balanced [.leaf e]
  | node (n : Node) : Balanced [.node n]
  | scope {ps : List Piece} (h : Balanced ps) : Balanced (between .opening .closing ps)
  | function (role : FunctionRole) {ps : List Piece} (h : Balanced ps) :
      Balanced (between (.enterFunction role) .leaveFunction ps)
  | class_ (hasSuperclass : Bool) {ps : List Piece} (h : Balanced ps) :
      Balanced (between (.enterClass hasSuperclass) .leaveClass ps)

namespace Balanced

theorem cons {p : Piece} {ps : List Piece} (h : Balanced [p]) (h' : Balanced ps) :
    Balanced (p :: ps) :=
  h.append h'

theorem flatMap {α : Type} {f : α → List Piece} (h : ∀ a, Balanced (f a)) (l : List α) :
    Balanced (l.flatMap f) := by
  induction l with
  | nil => exact .nil
  | cons a l ih => exact (h a).append ih

theorem exprs (es : List Expr) : Balanced (es.map expr) := by
  induction es with
  | nil => exact .nil
  | cons e es ih => exact .cons (.node _) ih

theorem stmts (ss : List Stmt) : Balanced (ss.map stmt) := by
  induction ss with
  | nil => exact .nil
  | cons s ss ih => exact .cons (.node _) ih

theorem introduce (name : Token) : Balanced (introduce name) :=
  .cons (.flat trivial) (.flat trivial)

theorem methodScope (ds : List FunctionDecl) : Balanced (methodScope ds) :=
  .scope (.cons (.flat trivial) (flatMap (fun _ => .function _ (.node _)) ds))

theorem inheriting (name : Token) (superclass : Occurrence) (ds : List FunctionDecl) :
    Balanced (inheriting name superclass ds) := by
  have super : Balanced (between .opening .closing
      (.leaf (.implicit "super") :: Scope.methodScope ds)) :=
    .scope (.cons (.flat trivial) (methodScope ds))
  unfold Scope.inheriting
  split
  · exact .append (.append (.flat trivial) (.flat trivial)) super
  · exact .append (.append .nil (.flat trivial)) super

theorem expandExpr (e : Expr) : Balanced (expandExpr e) := by
  cases e with
  | literal => exact .nil
  | grouping | unary | get => exact .node _
  | binary | logical | set => exact .cons (.node _) (.node _)
  | reference | this | super => exact .flat trivial
  | assign => exact .cons (.flat trivial) (.node _)
  | call _ _ arguments => exact .cons (.node _) (exprs arguments)

theorem expandStmt (s : Stmt) : Balanced (expandStmt s) := by
  cases s with
  | block body => exact .scope (stmts body)
  | classDecl name superclass methods =>
    cases superclass with
    | none => exact .class_ _ (.append (introduce name) (methodScope methods))
    | some superclass =>
      exact .class_ _ (.append (introduce name) (inheriting name superclass methods))
  | expression | print => exact .node _
  | functionDecl declaration =>
    exact .append (introduce declaration.name) (.function _ (.node _))
  | conditional _ _ elseBranch =>
    cases elseBranch with
    | none => exact .cons (.node _) (.node _)
    | some => exact .cons (.node _) (.cons (.node _) (.node _))
  | ret _ value =>
    cases value with
    | none => exact .flat trivial
    | some => exact .cons (.flat trivial) (.node _)
  | varDecl name initializer =>
    cases initializer with
    | none => exact introduce name
    | some => exact .cons (.flat trivial) (.cons (.node _) (.flat trivial))
  | loop => exact .cons (.node _) (.node _)

theorem expand (n : Node) : Balanced (expand n) := by
  cases n with
  | expression e => exact expandExpr e
  | statement s => exact expandStmt s
  | function d =>
    exact .scope (.append (flatMap introduce d.params) (stmts d.body))

end Balanced

/-- The state of the reading after some pieces. -/
def Analysis.after (a : Analysis) (ps : List Piece) : Analysis :=
  (scoping.toList ps).foldl Analysis.step a

theorem Analysis.after_append (a : Analysis) (ps ps' : List Piece) :
    a.after (ps ++ ps') = (a.after ps).after ps' := by
  rw [after, Traversal.toList_append, List.foldl_append]
  rfl

theorem Analysis.after_between (a : Analysis) (first last : Event) (ps : List Piece) :
    a.after (between first last ps) = ((a.step first).after ps).step last := by
  rw [between, List.cons_append, after, Traversal.toList_leaf, Traversal.toList_append,
    Traversal.toList_leaf, Traversal.toList_nil, List.foldl_cons, List.foldl_append]
  rfl

/-- Balanced pieces end at the level at which they begin, if the pieces that their nodes stand for
do. -/
theorem Balanced.level_of_nodes {ps : List Piece} (h : Balanced ps)
    (nodes : ∀ n : Node, n.size ≤ Part.total Node.size ps →
      ∀ a : Analysis, a.Level (a.after (Scope.expand n))) (a : Analysis) :
    a.Level (a.after ps) := by
  induction h generalizing a with
  | nil =>
    rw [Analysis.after, Traversal.toList_nil]
    exact .refl a
  | append _ _ ih ih' =>
    rw [Part.total_append] at nodes
    rw [Analysis.after_append]
    exact (ih (fun n le => nodes n (Nat.le_add_right_of_le le)) a).trans
      (ih' (fun n le => nodes n (Nat.le_add_left_of_le le)) _)
  | flat isFlat =>
    rw [Analysis.after, Traversal.toList_leaf, Traversal.toList_nil]
    exact isFlat.level a
  | node n =>
    rw [Analysis.after, Traversal.toList_node, Traversal.toList_nil, List.append_nil]
    exact nodes n (Nat.le_refl _) a
  | scope _ ih =>
    rw [total_between] at nodes
    rw [Analysis.after_between]
    have inner := ih nodes (a.step .opening)
    have isScopes : ((a.step .opening).after _).scopes.tail = a.scopes := inner.outer
    exact ⟨congrArg List.length isScopes, congrArg List.tail isScopes, inner.functions,
      inner.classes⟩
  | function role _ ih =>
    rw [total_between] at nodes
    rw [Analysis.after_between]
    have inner := ih nodes (a.step (.enterFunction role))
    exact ⟨inner.depth, inner.outer, congrArg List.tail inner.functions, inner.classes⟩
  | class_ hasSuperclass _ ih =>
    rw [total_between] at nodes
    rw [Analysis.after_between]
    have inner := ih nodes (a.step (.enterClass hasSuperclass))
    exact ⟨inner.depth, inner.outer, inner.functions, congrArg List.tail inner.classes⟩

/-- Balanced pieces end at the level at which they begin. The induction is on the weight of a node,
which is more than that of the pieces it stands for. -/
theorem Balanced.level {ps : List Piece} (h : Balanced ps) (a : Analysis) :
    a.Level (a.after ps) := by
  have nodes (n : Node) (a : Analysis) : a.Level (a.after (Scope.expand n)) := by
    induction isSize : n.size using Nat.strongRecOn generalizing n a with
    | ind size ih =>
      refine (expand n).level_of_nodes (fun m le a => ih m.size ?_ m a rfl) a
      exact isSize ▸ Nat.lt_of_le_of_lt le (total_expand_lt n)
  exact h.level_of_nodes (fun n _ => nodes n) a

/-! ### Programs in sequence -/

/-- A state in front of which other violations and distances were found. -/
def Analysis.behind (a : Analysis) (errors : List ScopeError) (distances : List (NodeId × Nat)) :
    Analysis :=
  { a with errors := a.errors ++ errors, distances := a.distances ++ distances }

section

variable {errors : List ScopeError} {distances : List (NodeId × Nat)} {a : Analysis}

theorem report_behind (token : Token) (cause : ScopeError.Cause) :
    (a.behind errors distances).report token cause =
      (a.report token cause).behind errors distances :=
  rfl

theorem enter_behind (name : String) (ready : Bool) :
    (a.behind errors distances).enter name ready =
      (a.enter name ready).behind errors distances := by
  obtain ⟨scopes, -, -, -, -⟩ := a
  cases scopes <;> rfl

theorem declare_behind (name : Token) :
    (a.behind errors distances).declare name = (a.declare name).behind errors distances := by
  unfold Analysis.declare
  rw [show (a.behind errors distances).local? name.lexeme = a.local? name.lexeme from rfl]
  split
  · rfl
  · exact enter_behind ..

theorem record_behind (o : Occurrence) :
    (a.behind errors distances).record o = (a.record o).behind errors distances := by
  unfold Analysis.record
  rw [show (a.behind errors distances).scopes = a.scopes from rfl]
  split <;> rfl

theorem occurs_behind (site : Site) :
    (a.behind errors distances).occurs site = (a.occurs site).behind errors distances := by
  obtain ⟨kind, o⟩ := site
  cases kind with
  | assignment => exact record_behind o
  | reference =>
    dsimp only [Analysis.occurs]
    rw [show (a.behind errors distances).local? o.name.lexeme = a.local? o.name.lexeme from rfl]
    split
    · rw [report_behind, record_behind]
    · exact record_behind o
  | this =>
    dsimp only [Analysis.occurs]
    rw [show (a.behind errors distances).classes = a.classes from rfl]
    split
    · rfl
    · exact record_behind o
  | super =>
    dsimp only [Analysis.occurs]
    rw [show (a.behind errors distances).classes = a.classes from rfl]
    split
    · rw [report_behind, record_behind]
    · rw [report_behind, record_behind]
    · exact record_behind o

theorem returns_behind (keyword : Token) (hasValue : Bool) :
    (a.behind errors distances).returns keyword hasValue =
      (a.returns keyword hasValue).behind errors distances := by
  unfold Analysis.returns
  rw [show (a.behind errors distances).functions = a.functions from rfl]
  split
  · rfl
  · split <;> rfl
  · rfl

theorem step_behind (e : Event) :
    (a.behind errors distances).step e = (a.step e).behind errors distances := by
  cases e with
  | declare name => exact declare_behind name
  | define name => exact enter_behind ..
  | implicit name => exact enter_behind ..
  | occurs site => exact occurs_behind site
  | returns keyword hasValue => exact returns_behind keyword hasValue
  | _ => rfl

theorem foldl_behind (events : List Event) :
    events.foldl Analysis.step (a.behind errors distances) =
      (events.foldl Analysis.step a).behind errors distances := by
  induction events generalizing a with
  | nil => rfl
  | cons e events ih => rw [List.foldl_cons, List.foldl_cons, step_behind, ih]

end

theorem programEvents_append (p p' : List Stmt) :
    programEvents (p ++ p') = programEvents p ++ programEvents p' := by
  rw [programEvents, List.map_append, Traversal.toList_append]
  rfl

/-- The static reading of a program ends at the top level. -/
theorem foldl_programEvents (p : List Stmt) :
    (programEvents p).foldl Analysis.step .start =
      Analysis.start.behind (analyse (programEvents p)).errors.reverse
        (analyse (programEvents p)).distances.reverse := by
  have level := (Balanced.stmts p).level .start
  have isAfter : Analysis.start.after (p.map stmt) = (programEvents p).foldl Analysis.step .start :=
    rfl
  rw [isAfter] at level
  unfold analyse
  generalize (programEvents p).foldl Analysis.step .start = a at level
  obtain ⟨scopes, functions, classes, errors, distances⟩ := a
  obtain ⟨depth, -, isFunctions, isClasses⟩ := level
  cases List.length_eq_zero_iff.1 depth
  cases isFunctions
  cases isClasses
  dsimp only
  rw [List.reverse_reverse, List.reverse_reverse]
  rfl

/-- The reading of two programs in sequence finds what the readings of both find. -/
theorem analyse_append (p p' : List Stmt) :
    analyse (programEvents (p ++ p')) =
      ⟨(analyse (programEvents p)).errors ++ (analyse (programEvents p')).errors,
        (analyse (programEvents p)).distances ++ (analyse (programEvents p')).distances⟩ := by
  have isFold : (programEvents (p ++ p')).foldl Analysis.step .start =
      ((programEvents p').foldl Analysis.step .start).behind
        (analyse (programEvents p)).errors.reverse
        (analyse (programEvents p)).distances.reverse := by
    rw [programEvents_append, List.foldl_append, foldl_programEvents, foldl_behind]
  rw [analyse, isFold]
  simp only [Analysis.behind, List.reverse_append, List.reverse_reverse]
  rfl

end Lox.Scope
