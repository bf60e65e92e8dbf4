import Lox.Proofs.Scope.Sequence
import Lox.Proofs.Scope.Surroundings
import Lox.Proofs.Scope.Table

/-!
# The static reading goes by surroundings

The static reading of a program carries the open scopes along. Wherever it comes to a construct,
they hold the names that the surroundings of the construct hold, and what it finds there is what the
rules say of the construct. It finds nothing else, whatever it found before: a violation changes no
scope.

## Main definitions

* `Scope.Analysis.Stands`: the open scopes hold certain names, all of them ready for use.
* `Scope.Analysis.Sees`: the open scopes say of names what some surroundings say.
* `Scope.Analysis.Surveys`: what is found at certain constructs is added to what was found.
* `Scope.Analysis.At`: the reading stands where the surroundings of a place say.

## Main results

* `Expr.surveyed`: the reading of an expression finds what the rules say of its parts.
* `Scope.Analysis.Stands.introduce` and its neighbours: what each event does to the open scopes.
-/

namespace Lox.Scope

/-! ### What is found -/

/-- Violations and distances are added to what was found. -/
structure Analysis.Gains (a : Analysis) (errors : List ScopeError) (distances : List (NodeId × Nat))
    (b : Analysis) : Prop where
  errors : b.errors = errors.reverse ++ a.errors
  distances : b.distances = distances.reverse ++ a.distances

/-- What is recorded of a construct: `this` outside every class is not recorded. -/
def listed? (c : Placed) : Option (NodeId × Nat) :=
  match c.2 with
  | .expression (.this _) => if c.1.inherits? = none then none else record? c
  | _ => record? c

/-- What the rules say of constructs is added to what was found. -/
def Analysis.Surveys (a : Analysis) (found : List Placed) (b : Analysis) : Prop :=
  a.Gains (found.flatMap violations) (found.filterMap listed?) b

namespace Analysis

variable {a b c : Analysis} {errors errors' : List ScopeError}
  {distances distances' : List (NodeId × Nat)} {found found' : List Placed}

theorem Gains.refl (a : Analysis) : a.Gains [] [] a :=
  ⟨rfl, rfl⟩

theorem Gains.trans (h : a.Gains errors distances b) (h' : b.Gains errors' distances' c) :
    a.Gains (errors ++ errors') (distances ++ distances') c where
  errors := by rw [h'.errors, h.errors, List.reverse_append, List.append_assoc]
  distances := by rw [h'.distances, h.distances, List.reverse_append, List.append_assoc]

theorem Surveys.nil (a : Analysis) : a.Surveys [] a :=
  Gains.refl a

theorem Surveys.append (h : a.Surveys found b) (h' : b.Surveys found' c) :
    a.Surveys (found ++ found') c := by
  unfold Surveys
  rw [List.flatMap_append, List.filterMap_append]
  exact Gains.trans h h'

/-- A construct before others. -/
theorem Surveys.cons {p : Placed} (h : a.Gains (violations p) (listed? p).toList b)
    (h' : b.Surveys found c) : a.Surveys (p :: found) c := by
  unfold Surveys
  have isEntry : (p :: found).filterMap listed? =
      (listed? p).toList ++ found.filterMap listed? := by
    rw [List.filterMap_cons]
    cases listed? p <;> rfl
  rw [List.flatMap_cons, isEntry]
  exact h.trans h'

/-- A construct of which the rules say nothing, before others. -/
theorem Surveys.cons_of_nil {p : Placed} (noViolations : violations p = [])
    (noEntry : listed? p = none) (h : a.Surveys found b) : a.Surveys (p :: found) b :=
  .cons (by rw [noViolations, noEntry]; exact Gains.refl a) h

theorem Surveys.single {p : Placed} (h : a.Gains (violations p) (listed? p).toList b) :
    a.Surveys [p] b :=
  .cons h (.nil b)

/-- Something between two findings that finds nothing. -/
theorem Gains.quiet (h : a.Gains errors distances b) (h' : b.Gains [] [] c) :
    a.Gains errors distances c := by
  have both := h.trans h'
  rwa [List.append_nil, List.append_nil] at both

theorem Gains.behind (h : a.Gains [] [] b) (h' : b.Gains errors distances c) :
    a.Gains errors distances c :=
  h.trans h'

/-! ### What is read piece by piece -/

theorem after_nil (a : Analysis) : a.after [] = a := by
  rw [after, Traversal.toList_nil]
  rfl

theorem after_leaf (a : Analysis) (e : Event) : a.after [.leaf e] = a.step e := by
  rw [after, Traversal.toList_leaf, Traversal.toList_nil]
  rfl

theorem after_node (a : Analysis) (n : Node) : a.after [.node n] = a.after (expand n) := by
  rw [after, Traversal.toList_node, Traversal.toList_nil, List.append_nil]
  rfl

theorem after_cons (a : Analysis) (p : Piece) (ps : List Piece) :
    a.after (p :: ps) = (a.after [p]).after ps :=
  after_append a [p] ps

theorem after_leaf_cons (a : Analysis) (e : Event) (ps : List Piece) :
    a.after (.leaf e :: ps) = (a.step e).after ps := by
  rw [after_cons, after_leaf]

/-! ### Occurrences of names -/

/-- The open scopes say of names what the surroundings of a place say. -/
structure Sees (a : Analysis) (p : Surroundings) : Prop where
  distance : ∀ x, Scope.distance? x a.scopes = p.distance? x
  unready : ∀ x, (a.local? x == some false) = p.awaits x
  classes : a.classes.head? = p.inherits?

variable {p : Surroundings}

theorem Sees.congr (sees : a.Sees p) (alike : a.Alike b) : b.Sees p where
  distance x := by rw [alike.scopes, sees.distance]
  unready x := by rw [local?, alike.scopes, ← sees.unready, local?]
  classes := by rw [alike.classes, sees.classes]

theorem Gains.report (a : Analysis) (token : Token) (cause : ScopeError.Cause) :
    a.Gains [⟨token, cause⟩] [] (a.report token cause) :=
  ⟨rfl, rfl⟩

theorem Gains.record {o : Occurrence} (isDistance : Scope.distance? o.name.lexeme a.scopes =
    p.distance? o.name.lexeme) :
    a.Gains [] ((p.distance? o.name.lexeme).map fun d => (o.id, d)).toList (a.record o) where
  errors := a.errors_record o
  distances := by
    rw [distances_record, isDistance]
    cases p.distance? o.name.lexeme <;> rfl

/-- A variable is read. -/
theorem gains_reference {o : Occurrence} (isDistance : Scope.distance? o.name.lexeme a.scopes =
    p.distance? o.name.lexeme)
    (unready : (a.local? o.name.lexeme == some false) = p.awaits o.name.lexeme) :
    a.Gains (violations (p, .expression (.reference o)))
      (listed? (p, .expression (.reference o))).toList (a.step (.occurs ⟨.reference, o⟩)) := by
  have isViolation : violations (p, .expression (.reference o)) =
      if p.awaits o.name.lexeme then [⟨o.name, .readInOwnInitializer⟩] else [] := by
    simp only [violations, redeclaration?, Construct.declaration?, selfInheritance?, ownRead?,
      misplacedReturn?, misplacedKeyword?]
    split <;> rfl
  have isStep : a.step (.occurs ⟨.reference, o⟩) =
      (if p.awaits o.name.lexeme then a.report o.name .readInOwnInitializer else a).record o := by
    rw [← unready]
    rfl
  rw [isViolation, isStep]
  split
  · exact (Gains.report a _ _).trans (.record isDistance)
  · exact .record isDistance

/-- A variable is assigned. -/
theorem Sees.gains_assignment (sees : a.Sees p) (o : Occurrence) (value : Expr) :
    a.Gains (violations (p, .expression (.assign o value)))
      (listed? (p, .expression (.assign o value))).toList (a.step (.occurs ⟨.assignment, o⟩)) :=
  .record (sees.distance _)

/-- The instance is named. -/
theorem Sees.gains_this (sees : a.Sees p) (o : Occurrence) :
    a.Gains (violations (p, .expression (.this o))) (listed? (p, .expression (.this o))).toList
      (a.step (.occurs ⟨.this, o⟩)) := by
  have isViolation : violations (p, .expression (.this o)) =
      if p.inherits? = none then [⟨o.name, .thisOutsideClass⟩] else [] := by
    simp only [violations, redeclaration?, Construct.declaration?, selfInheritance?, ownRead?,
      misplacedReturn?, misplacedKeyword?]
    split <;> rfl
  have isStep : a.step (.occurs ⟨.this, o⟩) =
      if p.inherits? = none then a.report o.name .thisOutsideClass else a.record o := by
    rw [← sees.classes, step, occurs]
    cases a.classes <;> rfl
  have isEntry : listed? (p, .expression (.this o)) =
      if p.inherits? = none then none else (p.distance? o.name.lexeme).map fun d => (o.id, d) :=
    rfl
  rw [isViolation, isStep, isEntry]
  split
  · exact .report a _ _
  · exact .record (sees.distance _)

/-- The superclass is named. -/
theorem Sees.gains_super (sees : a.Sees p) (o : Occurrence) (method : Token) :
    a.Gains (violations (p, .expression (.super o method)))
      (listed? (p, .expression (.super o method))).toList (a.step (.occurs ⟨.super, o⟩)) := by
  have isEntry : listed? (p, .expression (.super o method)) =
      (p.distance? o.name.lexeme).map fun d => (o.id, d) :=
    rfl
  have isClasses := sees.classes
  rw [isEntry]
  cases classes : a.classes with
  | nil =>
    rw [classes] at isClasses
    have isViolation : violations (p, .expression (.super o method)) =
        [⟨o.name, .superOutsideClass⟩] := by
      simp only [violations, misplacedKeyword?, ← isClasses]
      rfl
    have isStep : a.step (.occurs ⟨.super, o⟩) = (a.report o.name .superOutsideClass).record o := by
      simp only [step, occurs, classes]
    rw [isViolation, isStep]
    exact (Gains.report a _ _).trans (.record (sees.distance _))
  | cons hasSuperclass rest =>
    rw [classes] at isClasses
    cases hasSuperclass with
    | false =>
      have isViolation : violations (p, .expression (.super o method)) =
          [⟨o.name, .superWithoutSuperclass⟩] := by
        simp only [violations, misplacedKeyword?, ← isClasses]
        rfl
      have isStep : a.step (.occurs ⟨.super, o⟩) =
          (a.report o.name .superWithoutSuperclass).record o := by
        simp only [step, occurs, classes]
      rw [isViolation, isStep]
      exact (Gains.report a _ _).trans (.record (sees.distance _))
    | true =>
      have isViolation : violations (p, .expression (.super o method)) = [] := by
        simp only [violations, misplacedKeyword?, ← isClasses]
        rfl
      have isStep : a.step (.occurs ⟨.super, o⟩) = a.record o := by
        simp only [step, occurs, classes]
      rw [isViolation, isStep]
      exact .record (sees.distance _)

end Analysis

/-! ### Expressions -/

/-- What is found at constructs is added, and the scopes stay as they are. -/
structure Analysis.Notes (a : Analysis) (found : List Placed) (b : Analysis) : Prop where
  alike : a.Alike b
  surveys : a.Surveys found b

namespace Analysis.Notes

variable {a b c : Analysis} {found found' : List Placed} {p : Surroundings} {e : Expr}

theorem nil (a : Analysis) : a.Notes [] a :=
  ⟨.refl a, .nil a⟩

theorem append (h : a.Notes found b) (h' : b.Notes found' c) : a.Notes (found ++ found') c :=
  ⟨h.alike.trans h'.alike, h.surveys.append h'.surveys⟩

/-- An expression that is no occurrence of a name is noted with its parts. -/
theorem cons (h : a.Notes found b) (noViolations : violations (p, .expression e) = [])
    (noEntry : listed? (p, .expression e) = none) : a.Notes ((p, .expression e) :: found) b :=
  ⟨h.alike, h.surveys.cons_of_nil noViolations noEntry⟩

/-- An occurrence of a name is noted. -/
theorem occurs {site : Site} (h : a.Gains (violations (p, .expression e))
    (listed? (p, .expression e)).toList (a.step (.occurs site))) :
    a.Notes [(p, .expression e)] (a.step (.occurs site)) :=
  ⟨.occurs a site, .single h⟩

end Analysis.Notes

end Scope

open Scope

mutual

/-- The reading of an expression finds what the rules say of its parts. -/
theorem Expr.surveyed {p : Surroundings} : (e : Expr) → {a : Analysis} → a.Sees p →
    a.Notes (e.constructs p) (a.after [expr e])
  | .literal .., a, _ => by
    rw [expr, Analysis.after_node]
    exact (Analysis.after_nil a).symm ▸ (Analysis.Notes.nil a).cons rfl rfl
  | .grouping inner, a, sees => by
    rw [expr, Analysis.after_node]
    exact (inner.surveyed sees).cons rfl rfl
  | .unary _ right, a, sees => by
    rw [expr, Analysis.after_node]
    exact (right.surveyed sees).cons rfl rfl
  | .binary left operator right, a, sees => by
    have first := left.surveyed sees
    rw [expr, Analysis.after_node, expand, expandExpr, Analysis.after_cons, constructs_binary]
    exact (first.append (right.surveyed (sees.congr first.alike))).cons rfl rfl
  | .logical left operator right, a, sees => by
    have first := left.surveyed sees
    rw [expr, Analysis.after_node, expand, expandExpr, Analysis.after_cons, constructs_logical]
    exact (first.append (right.surveyed (sees.congr first.alike))).cons rfl rfl
  | .reference name, a, sees => by
    rw [expr, Analysis.after_node, expand, expandExpr, occurs, Analysis.after_leaf]
    exact .occurs (Analysis.gains_reference (sees.distance _) (sees.unready _))
  | .assign name value, a, sees => by
    have first := Analysis.Notes.occurs (sees.gains_assignment name value)
    rw [expr, Analysis.after_node, expand, expandExpr, occurs, Analysis.after_leaf_cons]
    exact first.append (value.surveyed (sees.congr first.alike))
  | .call callee paren arguments, a, sees => by
    have first := callee.surveyed sees
    rw [expr, Analysis.after_node, expand, expandExpr, Analysis.after_cons, constructs_call]
    exact (first.append (Expr.allSurveyed arguments (sees.congr first.alike))).cons rfl rfl
  | .get object _, a, sees => by
    rw [expr, Analysis.after_node]
    exact (object.surveyed sees).cons rfl rfl
  | .set object property value, a, sees => by
    have first := object.surveyed sees
    rw [expr, Analysis.after_node, expand, expandExpr, Analysis.after_cons, constructs_set]
    exact (first.append (value.surveyed (sees.congr first.alike))).cons rfl rfl
  | .this keyword, a, sees => by
    rw [expr, Analysis.after_node, expand, expandExpr, occurs, Analysis.after_leaf]
    exact .occurs (sees.gains_this keyword)
  | .super keyword method, a, sees => by
    rw [expr, Analysis.after_node, expand, expandExpr, occurs, Analysis.after_leaf]
    exact .occurs (sees.gains_super keyword method)

theorem Expr.allSurveyed {p : Surroundings} : (es : List Expr) → {a : Analysis} → a.Sees p →
    a.Notes (es.flatMap (Expr.constructs p)) (a.after (es.map expr))
  | [], a, _ => (Analysis.after_nil a).symm ▸ .nil a
  | e :: es, a, sees => by
    have first := e.surveyed sees
    rw [List.map_cons, Analysis.after_cons, List.flatMap_cons]
    exact first.append (Expr.allSurveyed es (sees.congr first.alike))

end

namespace Scope

/-! ### What the open scopes hold -/

/-- A scope holds certain names, all of them ready for use. -/
def Lists (scope : Names) (names : List String) : Prop :=
  ∀ x : String, scope[x]? = if x ∈ names then some true else none

/-- Scopes hold certain names, and the innermost one may hold one more, which is not ready. -/
inductive Awaiting (x : String) : List Names → List (List String) → Prop
  | top : Awaiting x [] []
  | inner {scope : Names} {scopes : List Names} {names : List String} {outer : List (List String)}
      (first : ∀ y : String, scope[y]? =
        if y ∈ names then some true else if y = x then some false else none)
      (rest : List.Forall₂ Lists scopes outer) : Awaiting x (scope :: scopes) (names :: outer)

/-- A name is entered into the innermost scope. -/
def push (x : String) : List (List String) → List (List String)
  | [] => []
  | names :: outer => (x :: names) :: outer

/-- The open scopes hold certain names, all of them ready for use, and certain functions and classes
are open. -/
structure Analysis.Stands (a : Analysis) (names : List (List String))
    (functions : List FunctionRole) (classes : List Bool) : Prop where
  scopes : List.Forall₂ Lists a.scopes names
  functions : a.functions = functions
  classes : a.classes = classes

namespace Surroundings

/-- The names that the scopes already hold. -/
def names (p : Surroundings) : List (List String) :=
  p.map Enclosure.names

/-- The roles of the functions around the place. -/
def roles (p : Surroundings) : List FunctionRole :=
  p.filterMap Enclosure.role?

/-- For each class around the place, whether it has a superclass. -/
def classes (p : Surroundings) : List Bool :=
  p.filterMap Enclosure.inherits?

variable {p : Surroundings} {s : Stmt} {x : String}

theorem distance?_eq : p.distance? x = p.names.findIdx? fun names => decide (x ∈ names) := by
  rw [names, List.findIdx?_map]
  rfl

theorem holds_eq : p.holds x = p.names.head?.any fun names => decide (x ∈ names) := by
  cases p <;> rfl

theorem role?_eq : p.role? = p.roles.head? :=
  List.head?_filterMap.symm

theorem inherits?_eq : p.inherits? = p.classes.head? :=
  List.head?_filterMap.symm

theorem names_past_of_some (declares : s.declared? = some x) :
    (p.past s).names = push x p.names := by
  cases p with
  | nil => rfl
  | cons e outer =>
    rw [names, past, List.map_cons, Enclosure.names, List.filterMap_cons, declares]
    rfl

theorem names_past_of_none (plain : s.declared? = none) : (p.past s).names = p.names := by
  cases p with
  | nil => rfl
  | cons e outer =>
    rw [names, past, List.map_cons, Enclosure.names, List.filterMap_cons, plain]
    rfl

theorem roles_past : (p.past s).roles = p.roles := by
  cases p <;> rfl

theorem classes_past : (p.past s).classes = p.classes := by
  cases p <;> rfl

theorem tail_past : List.tail (p.past s) = List.tail p := by
  cases p <;> rfl

/-- What no statement changes is the same behind any number of them. -/
theorem foldl_past_eq {α : Type} {f : Surroundings → α} (same : ∀ p s, f (past p s) = f p)
    {ss : List Stmt} : f (ss.foldl past p) = f p := by
  induction ss generalizing p with
  | nil => rfl
  | cons s ss ih => exact ih.trans (same p s)

/-- Nothing is awaited at a place inside or behind a statement without an initializer. -/
theorem awaits_past (other : ∀ name e, s ≠ .varDecl name (some e)) :
    (p.past s).awaits x = false := by
  cases p with
  | nil => rfl
  | cons e outer =>
    cases s with
    | varDecl name initializer =>
      cases initializer with
      | none => rfl
      | some e => exact absurd rfl (other name e)
    | _ => rfl

/-- What is awaited in an initializer. -/
theorem awaits_past_varDecl {name : Token} {e : Expr} : (p.past (.varDecl name (some e))).awaits x =
    p.names.head?.any fun names => decide (name.lexeme = x ∧ x ∉ names) := by
  cases p <;> rfl

end Surroundings

/-- The reading stands where the surroundings of a place say. -/
def Analysis.At (a : Analysis) (p : Surroundings) : Prop :=
  a.Stands p.names p.roles p.classes

namespace Analysis

variable {a b : Analysis} {names : List (List String)} {functions : List FunctionRole}
  {classes : List Bool} {p : Surroundings} {s : Stmt} {x : String}

/-! ### What the scopes say -/

theorem contains_of_lists {scope : Names} {listed : List String} (lists : Lists scope listed) :
    scope.contains x = decide (x ∈ listed) := by
  rw [Std.TreeMap.contains_eq_isSome_getElem?, lists x]
  split <;> simp [*]

theorem distance?_of_lists {scopes : List Names} (lists : List.Forall₂ Lists scopes names) :
    distance? x scopes = names.findIdx? fun listed => decide (x ∈ listed) := by
  induction lists with
  | nil => rfl
  | cons first _ ih => rw [distance?, contains_of_lists first, ih, List.findIdx?_cons]

theorem Stands.distance? (stands : a.Stands names functions classes) :
    Scope.distance? x a.scopes = names.findIdx? fun listed => decide (x ∈ listed) :=
  distance?_of_lists stands.scopes

theorem Stands.local? (stands : a.Stands names functions classes) :
    a.local? x =
      if names.head?.any (fun listed => decide (x ∈ listed)) then some true else none := by
  obtain ⟨scopes, _, _, _, _⟩ := a
  cases stands.scopes with
  | nil => rfl
  | cons first _ =>
    rw [Analysis.local?, List.head?_cons, Option.bind_some, first x]
    simp

/-- Where nothing is awaited, the scopes say what the surroundings say. -/
theorem At.sees (at_ : a.At p) (calm : ∀ x, p.awaits x = false) : a.Sees p where
  distance x := by rw [at_.distance?, Surroundings.distance?_eq]
  unready x := by
    rw [at_.local?, calm x]
    split <;> rfl
  classes := by rw [at_.classes, Surroundings.inherits?_eq]

theorem At.past (at_ : a.At p) (plain : s.declared? = none) : a.At (p.past s) := by
  unfold At
  rw [Surroundings.names_past_of_none plain, Surroundings.roles_past, Surroundings.classes_past]
  exact at_

theorem At.of_past (at_ : a.At (p.past s)) (plain : s.declared? = none) : a.At p := by
  unfold At at at_
  rwa [Surroundings.names_past_of_none plain, Surroundings.roles_past, Surroundings.classes_past]
    at at_

/-! ### Events -/

theorem Stands.opening (stands : a.Stands names functions classes) :
    (a.step .opening).Stands ([] :: names) functions classes :=
  { stands with scopes := .cons (fun _ => Std.TreeMap.getElem?_emptyc) stands.scopes }

theorem Stands.closing (stands : a.Stands names functions classes) :
    (a.step .closing).Stands names.tail functions classes :=
  { stands with scopes := forall₂_tail stands.scopes }

theorem Stands.enterFunction (stands : a.Stands names functions classes) (role : FunctionRole) :
    (a.step (.enterFunction role)).Stands names (role :: functions) classes :=
  { stands with functions := congrArg (role :: ·) stands.functions }

theorem Stands.leaveFunction {role : FunctionRole}
    (stands : a.Stands names (role :: functions) classes) :
    (a.step .leaveFunction).Stands names functions classes :=
  { stands with functions := congrArg List.tail stands.functions }

theorem Stands.enterClass (stands : a.Stands names functions classes) (hasSuperclass : Bool) :
    (a.step (.enterClass hasSuperclass)).Stands names functions (hasSuperclass :: classes) :=
  { stands with classes := congrArg (hasSuperclass :: ·) stands.classes }

theorem Stands.leaveClass {hasSuperclass : Bool}
    (stands : a.Stands names functions (hasSuperclass :: classes)) :
    (a.step .leaveClass).Stands names functions classes :=
  { stands with classes := congrArg List.tail stands.classes }

theorem Stands.congr (stands : a.Stands names functions classes) (alike : a.Alike b) :
    b.Stands names functions classes :=
  ⟨alike.scopes ▸ stands.scopes, alike.functions.trans stands.functions,
    alike.classes.trans stands.classes⟩

theorem lists_insert {scope : Names} {listed : List String}
    (others : ∀ y : String, y ≠ x → scope[y]? = if y ∈ listed then some true else none) :
    Lists (scope.insert x true) (x :: listed) := by
  intro y
  rw [getElem?_insert]
  by_cases isName : y = x
  · rw [if_pos isName, isName, if_pos List.mem_cons_self]
  · rw [if_neg isName, others y isName]
    simp [isName]

/-- A name is entered and ready for use. -/
theorem stands_enter (a : Analysis) (entered : List.Forall₂ Lists (a.enter x true).scopes names)
    (isFunctions : a.functions = functions) (isClasses : a.classes = classes) :
    (a.enter x true).Stands names functions classes :=
  ⟨entered, (functions_enter a true).trans isFunctions, (classes_enter a true).trans isClasses⟩

theorem Stands.implicit (stands : a.Stands names functions classes) (x : String) :
    (a.step (.implicit x)).Stands (push x names) functions classes := by
  refine stands_enter a ?_ stands.functions stands.classes
  obtain ⟨scopes, _, _, _, _⟩ := a
  cases stands.scopes with
  | nil => exact .nil
  | cons first rest => exact .cons (lists_insert fun y _ => first y) rest

/-- A declared name is awaited. -/
theorem Stands.declare (stands : a.Stands names functions classes) (name : Token) :
    Awaiting name.lexeme (a.step (.declare name)).scopes names ∧
      a.Gains (if names.head?.any (fun listed => decide (name.lexeme ∈ listed)) then
        [⟨name, .alreadyDeclared⟩] else []) [] (a.step (.declare name)) := by
  have isStep : a.step (.declare name) =
      if names.head?.any (fun listed => decide (name.lexeme ∈ listed)) then
        a.report name .alreadyDeclared else a.enter name.lexeme false := by
    change a.declare name = _
    rw [Analysis.declare, stands.local?]
    split <;> rfl
  rw [isStep]
  obtain ⟨scopes, _, _, _, _⟩ := a
  cases stands.scopes with
  | nil => exact ⟨.top, rfl, rfl⟩
  | @cons scope listed scopes outer first rest =>
    by_cases held : name.lexeme ∈ listed
    · have isHeld : (listed :: outer).head?.any (fun listed => decide (name.lexeme ∈ listed)) := by
        simp [held]
      rw [if_pos isHeld, if_pos isHeld]
      refine ⟨.inner (fun y => ?_) rest, .report _ _ _⟩
      rw [first]
      by_cases isName : y = name.lexeme
      · rw [isName, if_pos held, if_pos held]
      · rw [if_neg isName]
    · have notHeld : ¬ (listed :: outer).head?.any fun listed => decide (name.lexeme ∈ listed) := by
        simp [held]
      rw [if_neg notHeld, if_neg notHeld]
      refine ⟨.inner (fun y => ?_) rest, rfl, rfl⟩
      rw [getElem?_insert, first]
      by_cases isName : y = name.lexeme
      · rw [isName, if_pos rfl, if_neg held, if_pos rfl]
      · rw [if_neg isName, if_neg isName]

/-- An awaited name is ready for use once it is defined. -/
theorem stands_define (awaiting : Awaiting x a.scopes names)
    (isFunctions : a.functions = functions) (isClasses : a.classes = classes) :
    (a.enter x true).Stands (push x names) functions classes := by
  refine stands_enter a ?_ isFunctions isClasses
  obtain ⟨scopes, _, _, _, _⟩ := a
  cases awaiting with
  | top => exact .nil
  | inner first rest =>
    refine .cons (lists_insert fun y other => ?_) rest
    rw [first, if_neg other]

/-- What is found when a name is declared. -/
theorem Stands.redeclaration (stands : a.Stands p.names functions classes) (c : Construct)
    {name : Token} (declares : c.declaration? = some name) :
    a.Gains (redeclaration? p c).toList [] (a.step (.declare name)) := by
  have isViolation : (redeclaration? p c).toList =
      if p.names.head?.any (fun listed => decide (name.lexeme ∈ listed)) then
        [⟨name, .alreadyDeclared⟩] else [] := by
    rw [redeclaration?, declares, Option.filter_some, Surroundings.holds_eq]
    split <;> rfl
  rw [isViolation]
  exact (stands.declare name).2

/-- A name is declared and ready for use at once. -/
theorem Stands.introduce (stands : a.Stands names functions classes) (name : Token) :
    (a.after (Scope.introduce name)).Stands (push name.lexeme names) functions classes := by
  have isAfter : a.after (Scope.introduce name) =
      (a.step (.declare name)).enter name.lexeme true := by
    rw [Scope.introduce, after_leaf_cons, after_leaf]
    rfl
  have level := Level.declare a name
  rw [isAfter]
  exact stands_define (stands.declare name).1 (level.functions.trans stands.functions)
    (level.classes.trans stands.classes)

theorem gains_introduce {name : Token} {errors : List ScopeError}
    {distances : List (NodeId × Nat)} (gains : a.Gains errors distances (a.step (.declare name))) :
    a.Gains errors distances (a.after (Scope.introduce name)) := by
  rw [Scope.introduce, after_leaf_cons, after_leaf]
  exact gains.quiet ⟨errors_enter _ _ _, distances_enter _ _ _⟩

/-- In its initializer, the scopes say of a variable that it is awaited, unless it was declared
before. -/
theorem At.sees_initializer (at_ : a.At p) (name : Token) (e : Expr) :
    (a.step (.declare name)).Sees (p.past (.varDecl name (some e))) := by
  have level := Level.declare a name
  obtain ⟨awaiting, -⟩ := Stands.declare at_ name
  have isNames : (p.past (.varDecl name (some e))).names = push name.lexeme p.names :=
    Surroundings.names_past_of_some rfl
  refine ⟨fun x => ?_, fun x => ?_, ?_⟩
  · rw [Surroundings.distance?_eq, isNames]
    generalize (a.step (.declare name)).scopes = scopes, p.names = listed at awaiting
    cases awaiting with
    | top => rfl
    | @inner scope scopes listed outer first rest =>
      have contains : scope.contains x = decide (x ∈ name.lexeme :: listed) := by
        rw [Std.TreeMap.contains_eq_isSome_getElem?, first x]
        by_cases mem : x ∈ listed
        · simp [mem]
        · by_cases isName : x = name.lexeme
          · subst isName
            simp [mem]
          · simp [mem, isName]
      rw [push, Scope.distance?, contains, distance?_of_lists rest, List.findIdx?_cons]
  · rw [Surroundings.awaits_past_varDecl, Analysis.local?]
    generalize (a.step (.declare name)).scopes = scopes, p.names = listed at awaiting
    cases awaiting with
    | top => rfl
    | @inner scope scopes listed outer first rest =>
      rw [List.head?_cons, Option.bind_some, first x, List.head?_cons, Option.any_some]
      by_cases mem : x ∈ listed
      · simp [mem]
      · by_cases isName : x = name.lexeme
        · subst isName
          simp [mem]
        · simp [mem, isName, Ne.symm isName]
  · rw [Surroundings.inherits?_eq, Surroundings.classes_past, ← at_.classes]
    exact congrArg List.head? level.classes

end Analysis

end Scope

end Lox
