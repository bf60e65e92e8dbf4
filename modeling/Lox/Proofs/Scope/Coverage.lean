import Lox.Proofs.Grammar.Orderly
import Lox.Proofs.Scope.Survey

/-!
# The static reading covers a program

The pieces of a tree are read in sequence, from one place to the next. The places that the reading
comes to are those that the list of constructs names, so the reading of a program finds what the
rules say of its constructs, one construct after the other, and nothing else.

Statements that declare a name must stand in lists of statements: a declaration in a branch would
declare a name for what follows the branch.

## Main definitions

* `Scope.Covers`: pieces of a tree are read from surroundings to surroundings.

## Main results

* `Scope.covers_of_orderly`: the reading of a statement.
* `Scope.analyse_programEvents`: the reading of a program.
-/

namespace Lox.Scope

/-! ### Pieces in sequence -/

/-- Pieces are read from one place to another, and what the rules say of certain constructs is found
on the way. -/
def Covers (p : Surroundings) (ps : List Piece) (found : List Placed) (q : Surroundings) : Prop :=
  ∀ a : Analysis, a.At p → a.Surveys found (a.after ps) ∧ (a.after ps).At q

namespace Covers

variable {p q q' : Surroundings} {ps ps' : List Piece} {found found' : List Placed} {s : Stmt}

theorem nil : Covers p [] [] p :=
  fun a at_ => ⟨a.after_nil.symm ▸ .nil a, a.after_nil.symm ▸ at_⟩

theorem append (h : Covers p ps found q) (h' : Covers q ps' found' q') :
    Covers p (ps ++ ps') (found ++ found') q' := by
  intro a at_
  obtain ⟨surveys, at_⟩ := h a at_
  obtain ⟨surveys', at_⟩ := h' _ at_
  rw [a.after_append]
  exact ⟨surveys.append surveys', at_⟩

theorem cons {piece : Piece} (h : Covers p [piece] found q) (h' : Covers q ps found' q') :
    Covers p (piece :: ps) (found ++ found') q' :=
  h.append h'

/-- An expression where nothing is awaited. -/
theorem expression (calm : ∀ x, p.awaits x = false) (e : Expr) :
    Covers p [expr e] (e.constructs p) p := by
  intro a at_
  have notes := e.surveyed (at_.sees calm)
  exact ⟨notes.surveys, Analysis.Stands.congr at_ notes.alike⟩

/-- A statement is covered if its pieces are. -/
theorem of_pieces (plain : s.declared? = none) (noViolations : violations (p, .statement s) = [])
    (h : Covers (p.past s) (expandStmt s) (Stmt.inner (p.past s) s) (p.past s)) :
    Covers p [stmt s] (s.constructs p) (p.past s) := by
  intro a at_
  rw [stmt, a.after_node]
  obtain ⟨surveys, at_⟩ := h a (at_.past plain)
  exact ⟨surveys.cons_of_nil noViolations rfl, at_⟩

/-- A statement that declares nothing may stand in a branch. -/
theorem branch (plain : s.declared? = none) (h : Covers p [stmt s] (s.constructs p) (p.past s)) :
    Covers p [stmt s] (s.constructs p) p :=
  fun a at_ => (h a at_).imp_right fun at_ => at_.of_past plain

end Covers

section

variable {p : Surroundings}

/-- Statements in sequence. -/
theorem covers_stmts {ss : List Stmt}
    (h : ∀ s ∈ ss, ∀ p, Covers p [stmt s] (s.constructs p) (p.past s)) :
    Covers p (ss.map stmt) (Stmt.allConstructs p ss) (ss.foldl Surroundings.past p) := by
  induction ss generalizing p with
  | nil => exact .nil
  | cons s ss ih =>
    exact (h s List.mem_cons_self p).append (ih fun s mem => h s (List.mem_cons_of_mem _ mem))

/-- The parameters of a function. -/
theorem covers_params (role : FunctionRole) (names before : List Token) :
    Covers (p.enter (.function role before)) (names.flatMap introduce)
      (placedParams role p before names) (p.enter (.function role (names.reverse ++ before))) := by
  induction names generalizing before with
  | nil => exact .nil
  | cons name names ih =>
    have first : Covers (p.enter (.function role before)) (introduce name)
        [(p.enter (.function role before), .parameter name)]
        (p.enter (.function role (name :: before))) := by
      intro a at_
      refine ⟨.single ?_, Analysis.Stands.introduce at_ name⟩
      rw [violations_eq_redeclaration rfl rfl rfl rfl]
      exact Analysis.gains_introduce (Analysis.Stands.redeclaration at_ _ rfl)
    rw [List.reverse_cons, List.append_assoc]
    exact first.append (ih (name :: before))

theorem roles_foldl_past {ss : List Stmt} : (ss.foldl Surroundings.past p).roles = p.roles :=
  Surroundings.foldl_past_eq fun _ _ => Surroundings.roles_past

theorem classes_foldl_past {ss : List Stmt} :
    (ss.foldl Surroundings.past p).classes = p.classes :=
  Surroundings.foldl_past_eq fun _ _ => Surroundings.classes_past

theorem tail_foldl_past {ss : List Stmt} :
    List.tail (ss.foldl Surroundings.past p) = List.tail p :=
  Surroundings.foldl_past_eq fun _ _ => Surroundings.tail_past

theorem tail_names : List.tail p.names = Surroundings.names (List.tail p) := by
  cases p <;> rfl

/-- A scope that is opened and closed again. -/
theorem surveys_scope {kind : Enclosure.Kind} {a : Analysis} {ps : List Piece} {found : List Placed}
    {q : Surroundings} (opened : (a.step .opening).At (p.enter kind))
    (h : Covers (p.enter kind) ps found q) (outer : List.tail q = p) :
    a.Surveys found (a.after (between .opening .closing ps)) ∧
      (a.after (between .opening .closing ps)).Stands p.names q.roles q.classes := by
  obtain ⟨surveys, at_⟩ := h _ opened
  rw [a.after_between]
  have closed := Analysis.Stands.closing at_
  rw [tail_names, outer] at closed
  exact ⟨⟨surveys.errors, surveys.distances⟩, closed⟩

/-- A function in its role: its parameters and its body are in one scope. -/
theorem covers_function {d : FunctionDecl} (role : FunctionRole)
    (h : ∀ s ∈ d.body, ∀ p, Covers p [stmt s] (s.constructs p) (p.past s)) :
    Covers p (function role d) (d.constructs role p) p := by
  obtain ⟨name, params, body⟩ := d
  intro a at_
  have entered := Analysis.Stands.enterFunction at_ role
  have opened : ((a.step (.enterFunction role)).step .opening).At (p.enter (.function role [])) :=
    entered.opening
  have inside := (covers_params (p := p) role params []).append (covers_stmts h)
  rw [List.append_nil] at inside
  obtain ⟨surveys, stands⟩ := surveys_scope opened inside tail_foldl_past
  rw [roles_foldl_past, classes_foldl_past] at stands
  rw [function, a.after_between, Analysis.after_node]
  exact ⟨⟨surveys.errors, surveys.distances⟩, Analysis.Stands.leaveFunction stands⟩

/-- The methods of a class. -/
theorem covers_methods {ds : List FunctionDecl}
    (h : ∀ d ∈ ds, ∀ s ∈ d.body, ∀ p, Covers p [stmt s] (s.constructs p) (p.past s)) :
    Covers p (ds.flatMap fun d => function (methodRole d) d)
      (FunctionDecl.allConstructs p ds) p := by
  induction ds with
  | nil => exact .nil
  | cons d ds ih =>
    exact (covers_function (methodRole d) (h d List.mem_cons_self)).append
      (ih fun d mem => h d (List.mem_cons_of_mem _ mem))

/-- A scope that is opened for one name, which is not written in the source. -/
theorem surveys_implicitScope {a : Analysis} {x : String} {ps : List Piece} {found : List Placed}
    {names : List (List String)} {roles : List FunctionRole} {classes : List Bool}
    (inside : ((a.step .opening).step (.implicit x)).Surveys found
      (((a.step .opening).step (.implicit x)).after ps))
    (stands : (((a.step .opening).step (.implicit x)).after ps).Stands names roles classes) :
    a.Surveys found (a.after (between .opening .closing (.leaf (.implicit x) :: ps))) ∧
      (a.after (between .opening .closing (.leaf (.implicit x) :: ps))).Stands names.tail roles
        classes := by
  have gained : a.Gains [] [] ((a.step .opening).step (.implicit x)) :=
    ⟨Analysis.errors_enter _ _ _, distances_enter _ _ _⟩
  rw [a.after_between, Analysis.after_leaf_cons]
  exact ⟨(gained.behind inside).quiet ⟨rfl, rfl⟩, stands.closing⟩

/-- The scope of the instance around the methods of a class. -/
theorem surveys_methodScope {a : Analysis} {hasSuperclass : Bool} {ds : List FunctionDecl}
    (stands : a.Stands p.names p.roles (hasSuperclass :: p.classes))
    (h : ∀ d ∈ ds, ∀ s ∈ d.body, ∀ p, Covers p [stmt s] (s.constructs p) (p.past s)) :
    a.Surveys (FunctionDecl.allConstructs (p.enter (.receiver hasSuperclass)) ds)
        (a.after (methodScope ds)) ∧
      (a.after (methodScope ds)).Stands p.names p.roles (hasSuperclass :: p.classes) := by
  have opened : ((a.step .opening).step (.implicit "this")).At
      (p.enter (.receiver hasSuperclass)) :=
    stands.opening.implicit "this"
  obtain ⟨surveys, at_⟩ := covers_methods h _ opened
  exact surveys_implicitScope surveys at_

/-! ### Statements -/

/-- The condition of a statement, which awaits nothing. -/
theorem covers_condition (s : Stmt) (plain : s.declared? = none) (e : Expr) :
    Covers (p.past s) [expr e] (e.constructs (p.past s)) (p.past s) := by
  refine .expression (fun _ => Surroundings.awaits_past ?_) e
  rintro name value rfl
  cases plain

theorem covers_block {body : List Stmt}
    (h : ∀ s ∈ body, ∀ p, Covers p [stmt s] (s.constructs p) (p.past s)) :
    Covers p [stmt (.block body)] ((Stmt.block body).constructs p) (p.past (.block body)) := by
  refine .of_pieces rfl rfl fun a at_ => ?_
  have opened : (a.step .opening).At ((p.past (.block body)).enter .block) :=
    Analysis.Stands.opening at_
  obtain ⟨surveys, stands⟩ := surveys_scope opened (covers_stmts h) tail_foldl_past
  rw [roles_foldl_past, classes_foldl_past] at stands
  rw [Stmt.inner]
  exact ⟨surveys, stands⟩

theorem covers_conditional {condition : Expr} {thenBranch : Stmt} {elseBranch : Option Stmt}
    (isThen : ∀ p, Covers p [stmt thenBranch] (thenBranch.constructs p) p)
    (isElse : ∀ s, elseBranch = some s → ∀ p, Covers p [stmt s] (s.constructs p) p) :
    Covers p [stmt (.conditional condition thenBranch elseBranch)]
      ((Stmt.conditional condition thenBranch elseBranch).constructs p)
      (p.past (.conditional condition thenBranch elseBranch)) := by
  refine .of_pieces rfl rfl ?_
  have first :=
    covers_condition (p := p) (.conditional condition thenBranch elseBranch) rfl condition
  rw [Stmt.inner]
  cases elseBranch with
  | none =>
    have both := first.cons (isThen _)
    rwa [← List.append_nil (Stmt.constructs _ thenBranch)] at both
  | some s => exact first.cons ((isThen _).cons (isElse s rfl _))

theorem covers_loop {condition : Expr} {body : Stmt}
    (isBody : ∀ p, Covers p [stmt body] (body.constructs p) p) :
    Covers p [stmt (.loop condition body)] ((Stmt.loop condition body).constructs p)
      (p.past (.loop condition body)) := by
  refine .of_pieces rfl rfl ?_
  rw [Stmt.inner]
  exact (covers_condition (.loop condition body) rfl condition).cons (isBody _)

/-- What is found at a `return` statement. -/
theorem gains_returns {a : Analysis} (isFunctions : a.functions = p.roles) (keyword : Token)
    (value : Option Expr) : a.Gains (violations (p, .statement (.ret keyword value))) []
      (a.step (.returns keyword value.isSome)) := by
  have isRole : a.functions.head? = p.role? := by rw [isFunctions, Surroundings.role?_eq]
  have isViolation : violations (p, .statement (.ret keyword value)) =
      (misplacedReturn? p (.statement (.ret keyword value))).toList := by
    simp [violations, redeclaration?, Construct.declaration?, selfInheritance?, ownRead?,
      misplacedKeyword?]
  rw [isViolation]
  change a.Gains _ _ (a.returns keyword value.isSome)
  cases functions : a.functions with
  | nil =>
    rw [functions] at isRole
    simp only [misplacedReturn?, Analysis.returns, functions, ← isRole]
    exact .report a _ _
  | cons role rest =>
    rw [functions] at isRole
    simp only [misplacedReturn?, Analysis.returns, functions, ← isRole]
    cases role <;> cases value <;> exact ⟨rfl, rfl⟩

theorem covers_ret (keyword : Token) (value : Option Expr) :
    Covers p [stmt (.ret keyword value)] ((Stmt.ret keyword value).constructs p)
      (p.past (.ret keyword value)) := by
  intro a at_
  have gains := gains_returns at_.functions keyword value
  have alike : a.Alike (a.step (.returns keyword value.isSome)) := .returns a keyword value.isSome
  have behind : (a.step (.returns keyword value.isSome)).At (p.past (.ret keyword value)) :=
    Analysis.At.past (Analysis.Stands.congr at_ alike) rfl
  rw [stmt, a.after_node]
  cases value with
  | none =>
    rw [Stmt.constructs, Stmt.inner, expand, expandStmt, Analysis.after_leaf]
    exact ⟨.single gains, behind⟩
  | some e =>
    obtain ⟨surveys, at_⟩ := covers_condition (.ret keyword (some e)) rfl e _ behind
    rw [Stmt.constructs, Stmt.inner, expand, expandStmt, Analysis.after_leaf_cons]
    exact ⟨.cons gains surveys, at_⟩

theorem covers_functionDecl {d : FunctionDecl}
    (h : ∀ s ∈ d.body, ∀ p, Covers p [stmt s] (s.constructs p) (p.past s)) :
    Covers p [stmt (.functionDecl d)] ((Stmt.functionDecl d).constructs p)
      (p.past (.functionDecl d)) := by
  intro a at_
  have gains := Analysis.gains_introduce
    (Analysis.Stands.redeclaration at_ (.statement (.functionDecl d)) rfl)
  have behind : (a.after (introduce d.name)).At (p.past (.functionDecl d)) := by
    have stands := Analysis.Stands.introduce at_ d.name
    unfold Analysis.At
    rwa [Surroundings.names_past_of_some rfl, Surroundings.roles_past, Surroundings.classes_past]
  rw [← violations_eq_redeclaration rfl rfl rfl rfl] at gains
  obtain ⟨surveys, at_⟩ := covers_function .plain h _ behind
  rw [stmt, a.after_node, Stmt.constructs, Stmt.inner, expand, expandStmt, a.after_append]
  exact ⟨.cons gains surveys, at_⟩

theorem covers_varDecl (name : Token) (initializer : Option Expr) :
    Covers p [stmt (.varDecl name initializer)] ((Stmt.varDecl name initializer).constructs p)
      (p.past (.varDecl name initializer)) := by
  intro a at_
  have gains := Analysis.Stands.redeclaration at_ (.statement (.varDecl name initializer)) rfl
  rw [← violations_eq_redeclaration rfl rfl rfl rfl] at gains
  have isPlace (b : Analysis) (stands : b.Stands (push name.lexeme p.names) p.roles p.classes) :
      b.At (p.past (.varDecl name initializer)) := by
    unfold Analysis.At
    rwa [Surroundings.names_past_of_some rfl, Surroundings.roles_past, Surroundings.classes_past]
  rw [stmt, a.after_node, Stmt.constructs, Stmt.inner, expand]
  cases initializer with
  | none =>
    rw [expandStmt]
    exact ⟨.single (Analysis.gains_introduce gains),
      isPlace _ (Analysis.Stands.introduce at_ name)⟩
  | some e =>
    have level := Analysis.Level.declare a name
    have notes := e.surveyed (at_.sees_initializer name e)
    have awaiting := (Analysis.Stands.declare at_ name).1
    have stands := Analysis.stands_define (notes.alike.scopes ▸ awaiting)
      (notes.alike.functions.trans (level.functions.trans at_.functions))
      (notes.alike.classes.trans (level.classes.trans at_.classes))
    have found : a.Surveys ((p, .statement (.varDecl name (some e))) ::
        e.constructs (p.past (.varDecl name (some e)))) ((a.step (.declare name)).after [expr e]) :=
      .cons gains notes.surveys
    rw [expandStmt, Analysis.after_leaf_cons, Analysis.after_cons, Analysis.after_leaf]
    exact ⟨found.quiet ⟨Analysis.errors_enter _ _ _, distances_enter _ _ _⟩, isPlace _ stands⟩

/-- The scope of the superclass around the scope of the instance. -/
theorem surveys_superclassScope {a : Analysis} {ds : List FunctionDecl}
    (stands : a.Stands p.names p.roles (true :: p.classes))
    (h : ∀ d ∈ ds, ∀ s ∈ d.body, ∀ p, Covers p [stmt s] (s.constructs p) (p.past s)) :
    a.Surveys (FunctionDecl.allConstructs (p.inMethods true) ds)
        (a.after (between .opening .closing (.leaf (.implicit "super") :: methodScope ds))) ∧
      (a.after (between .opening .closing (.leaf (.implicit "super") :: methodScope ds))).Stands
        p.names p.roles (true :: p.classes) := by
  obtain ⟨surveys, inside⟩ :=
    surveys_methodScope (p := p.enter .superclass) (stands.opening.implicit "super") h
  exact surveys_implicitScope surveys inside

/-- What is found when a class names its superclass. -/
theorem gains_selfInheritance (a : Analysis) (name : Token) (o : Occurrence)
    (ds : List FunctionDecl) :
    let b := a.after
      (if o.name.lexeme == name.lexeme then [.leaf (.selfInheritance o.name)] else [])
    a.Gains (selfInheritance? (.statement (.classDecl name (some o) ds))).toList [] b ∧
      a.Alike b := by
  by_cases same : o.name.lexeme = name.lexeme
  · rw [selfInheritance?, if_pos same, if_pos (beq_iff_eq.2 same), Analysis.after_leaf]
    exact ⟨.report a _ _, .report a _ _⟩
  · rw [selfInheritance?, if_neg same, if_neg (mt beq_iff_eq.1 same), Analysis.after_nil]
    exact ⟨.refl a, .refl a⟩

/-- The name of a class is declared and ready before anything else in the class is read. -/
theorem declares_class {a : Analysis} (at_ : a.At p) (name : Token) (superclass : Option Occurrence)
    (methods : List FunctionDecl) :
    let s := Stmt.classDecl name superclass methods
    let b := (a.step (.enterClass superclass.isSome)).after (introduce name)
    a.Gains (redeclaration? p (.statement s)).toList [] b ∧
      b.Stands (p.past s).names (p.past s).roles (superclass.isSome :: (p.past s).classes) := by
  intro s b
  have entered := Analysis.Stands.enterClass at_ superclass.isSome
  have gains := Analysis.gains_introduce (entered.redeclaration (.statement s) rfl)
  refine ⟨⟨gains.errors, gains.distances⟩, ?_⟩
  rw [Surroundings.names_past_of_some (s := s) rfl, Surroundings.roles_past,
    Surroundings.classes_past]
  exact entered.introduce name

theorem covers_classDecl {name : Token} {superclass : Option Occurrence}
    {methods : List FunctionDecl}
    (h : ∀ d ∈ methods, ∀ s ∈ d.body, ∀ p, Covers p [stmt s] (s.constructs p) (p.past s)) :
    Covers p [stmt (.classDecl name superclass methods)]
      ((Stmt.classDecl name superclass methods).constructs p)
      (p.past (.classDecl name superclass methods)) := by
  intro a at_
  obtain ⟨declared, stands⟩ := declares_class at_ name superclass methods
  have isViolation : violations (p, .statement (.classDecl name superclass methods)) =
      (redeclaration? p (.statement (.classDecl name superclass methods))).toList ++
        (selfInheritance? (.statement (.classDecl name superclass methods))).toList := by
    simp [violations, ownRead?, misplacedReturn?, misplacedKeyword?]
  rw [stmt, a.after_node, Stmt.constructs, Stmt.inner, expand]
  cases superclass with
  | none =>
    obtain ⟨surveys, stands⟩ := surveys_methodScope stands h
    have found : a.Surveys ((p, .statement (.classDecl name none methods)) :: _) _ :=
      .cons (isViolation ▸ declared.trans (.refl _)) surveys
    rw [expandStmt, a.after_between, Analysis.after_append]
    exact ⟨found.quiet ⟨rfl, rfl⟩, stands.leaveClass⟩
  | some o =>
    simp only [Option.isSome_some] at declared stands
    generalize isNamed : (a.step (.enterClass true)).after (introduce name) = named
      at declared stands
    obtain ⟨gains, alike⟩ := gains_selfInheritance named name o methods
    have stands := stands.congr alike
    have calm (x : String) : (p.past (.classDecl name (some o) methods)).awaits x = false :=
      Surroundings.awaits_past (by simp)
    have reference := Analysis.gains_reference (o := o)
      (p := p.past (.classDecl name (some o) methods))
      (by rw [stands.distance?, Surroundings.distance?_eq])
      (by rw [stands.local?, calm]; split <;> rfl)
    obtain ⟨surveys, stands⟩ := surveys_superclassScope (stands.congr (.occurs _ ⟨.reference, o⟩)) h
    have found : a.Surveys ((p, .statement (.classDecl name (some o) methods)) :: _ :: _) _ :=
      .cons (isViolation ▸ declared.trans gains) (.cons reference surveys)
    rw [expandStmt, a.after_between, Analysis.after_append, isNamed, inheriting,
      Analysis.after_append, Analysis.after_append, occurs, Analysis.after_leaf]
    exact ⟨found.quiet ⟨rfl, rfl⟩, stands.leaveClass⟩

end

/-- An orderly statement is read as its place says. -/
theorem covers_of_orderly {s : Stmt} (h : s.Orderly) :
    ∀ p, Covers p [stmt s] (s.constructs p) (p.past s) := by
  induction h with
  | @mk s plain contents ih =>
    intro p
    have isBranch (s' : Stmt) (branch : s.Branch s') (inner : s.Contains s') (p : Surroundings) :
        Covers p [stmt s'] (s'.constructs p) p :=
      .branch (plain s' branch) (ih s' inner p)
    cases s with
    | block body => exact covers_block fun s mem => ih s (.block mem)
    | classDecl name superclass methods =>
      exact covers_classDecl fun d declared s mem => ih s (.method declared mem)
    | expression e =>
      refine .of_pieces rfl rfl ?_
      rw [Stmt.inner]
      exact covers_condition (.expression e) rfl e
    | functionDecl d => exact covers_functionDecl fun s mem => ih s (.function mem)
    | conditional condition thenBranch elseBranch =>
      refine covers_conditional (isBranch _ .thenBranch .thenBranch) ?_
      rintro s rfl
      exact isBranch s .elseBranch .elseBranch
    | print e =>
      refine .of_pieces rfl rfl ?_
      rw [Stmt.inner]
      exact covers_condition (.print e) rfl e
    | ret keyword value => exact covers_ret keyword value
    | varDecl name initializer => exact covers_varDecl name initializer
    | loop condition body => exact covers_loop (isBranch _ .loop .loop)

/-- The reading of an orderly program finds what the rules say of its constructs, in their order,
and records the distances of those that are occurrences of names in some scope. -/
theorem analyse_programEvents {program : List Stmt} (h : ∀ s ∈ program, s.Orderly) :
    analyse (programEvents program) =
      ⟨(Stmt.allConstructs [] program).flatMap violations,
        (Stmt.allConstructs [] program).filterMap listed?⟩ := by
  have start : Analysis.start.At [] := ⟨.nil, rfl, rfl⟩
  obtain ⟨surveys, -⟩ := covers_stmts (fun s mem => covers_of_orderly (h s mem)) _ start
  have errors := surveys.errors
  have distances := surveys.distances
  rw [Analysis.after] at errors distances
  rw [analyse, programEvents, errors, distances]
  simp [Analysis.start]

end Scope

end Lox
