import Lox.Proofs.Session.Frames

/-!
# Which method is meant

A property that is no field of an instance, and a method above the class of the running method, mean
the declaration in the nearest class of a chain of classes. The chain begins at the class of the
instance in one case. In the other case it begins at the class that a superclass expression had for
a value: the expression of the class around the `super`, when that class was defined.

## Main definitions

* `lastNamed?`, `nearest?`: a method in the body of a class, and in the bodies of a chain.
* `Lineage`: the bodies of a class and of the classes above it.
* `Yields`: the answer to a goal is the nearest declaration, bound to an instance.

## Main results

* `Lineage.declaration_findMethod?`: tables of methods follow the bodies.
* `Session.methods_nearest`: properties and methods above a class, in any session.
-/

namespace Lox

open Scope Evaluation World

/-! ### Chains of classes -/

/-- The last declaration of a name in the body of a class. -/
def lastNamed? (name : String) (methods : List FunctionDecl) : Option FunctionDecl :=
  methods.reverse.find? fun d => d.name.lexeme == name

/-- The declaration of a name in the first of some bodies that declares it. -/
def nearest? (name : String) (bodies : List (List FunctionDecl)) : Option FunctionDecl :=
  bodies.findSome? (lastNamed? name)

/-- The bodies of a class and of the classes above it, each of them defined by a goal that has come
up, with the class above as the value of its superclass expression. -/
inductive Lineage (came : Task → Prop) : Class → List (List FunctionDecl) → Prop
  | root {identity : Nat} {name : String} {task : Task} {methods : List FunctionDecl}
      {frame : FrameId} (isCome : came task) (defines : Defines task none name methods) :
      Lineage came ⟨identity, name, none, methodTable methods frame⟩ [methods]
  | derived {identity : Nat} {name : String} {task : Task} {methods : List FunctionDecl}
      {frame : FrameId} {above : Class} {bodies : List (List FunctionDecl)}
      (lineage : Lineage came above bodies) (isCome : came task)
      (defines : Defines task (some above) name methods) :
      Lineage came ⟨identity, name, some above, methodTable methods frame⟩ (methods :: bodies)

/-- A method in the table of a class is the last declaration of its name in the body. -/
theorem getElem?_methodTable (methods : List FunctionDecl) (frame : FrameId) (name : String) :
    (methodTable methods frame)[name]? =
      (lastNamed? name methods).map fun d => ⟨d, frame, d.name.lexeme == "init"⟩ := by
  suffices h : ∀ table : Std.TreeMap String Closure,
      (methods.foldl (fun table d => table.insert d.name.lexeme
          (⟨d, frame, d.name.lexeme == "init"⟩ : Closure)) table)[name]? =
        ((lastNamed? name methods).map fun d => ⟨d, frame, d.name.lexeme == "init"⟩).or
          table[name]? by
    rw [methodTable, h, Std.TreeMap.getElem?_emptyc, Option.or_none]
  induction methods with
  | nil => exact fun table => rfl
  | cons d methods ih =>
    intro table
    rw [List.foldl_cons, ih, Std.TreeMap.getElem?_insert, lastNamed?, lastNamed?,
      List.reverse_cons, List.find?_append]
    cases List.find? (fun d => d.name.lexeme == name) methods.reverse with
    | some _ => rfl
    | none =>
      by_cases isName : d.name.lexeme = name <;>
        simp [isName, Std.LawfulEqCmp.compare_eq_iff_eq]

/-- Methods are found along the bodies. -/
theorem Lineage.declaration_findMethod? {came : Task → Prop} {c : Class}
    {bodies : List (List FunctionDecl)} (lineage : Lineage came c bodies) (name : String) :
    (c.findMethod? name).map Closure.declaration = nearest? name bodies := by
  induction lineage with
  | root isCome defines =>
    rw [Class.findMethod?, getElem?_methodTable, nearest?, List.findSome?_cons]
    cases lastNamed? name _ <;> rfl
  | derived lineage isCome defines ih =>
    rw [Class.findMethod?, getElem?_methodTable, nearest?, List.findSome?_cons]
    cases lastNamed? name _ with
    | some d => rfl
    | none => exact ih

/-- Classes have lineages. -/
theorem World.SameClass.exists_lineage {w : World} {c c' : Class} (same : SameClass w c c') :
    ∃ bodies, Lineage w.visited c bodies := by
  induction same with
  | root defined h =>
    obtain ⟨task, methods, frame, visited, defines, rfl⟩ := defined
    exact ⟨[methods], .root visited defines⟩
  | derived above defined h ih =>
    obtain ⟨bodies, lineage⟩ := ih
    obtain ⟨task, methods, frame, visited, defines, rfl⟩ := defined
    exact ⟨methods :: bodies, .derived lineage visited defines⟩

/-! ### Reading methods -/

/-- The answer to a goal, where a name is looked for in a chain of bodies: the nearest declaration
as a function whose frame binds `this` to an instance, or else the fault that there is no such
property. -/
def Yields (goal : Goal .value) (name : Token) (bodies : List (List FunctionDecl))
    (receiver : Value) : Prop :=
  match nearest? name.lexeme bodies with
  | some d => ∃ identity closure t,
      Routine.Answers body goal (.ok (.function identity closure), t) ∧
      closure.declaration = d ∧ t.heap.binding? closure.frame "this" = some receiver
  | none => ∃ t, Routine.Answers body goal
      (.error ⟨.undefinedProperty name.lexeme, name.line⟩, t)

/-- The function that is the answer to a goal is the nearest declaration. -/
theorem Yields.eq_of_answers {goal : Goal .value} {name : Token} {bodies : List (List FunctionDecl)}
    {receiver : Value} {identity : Nat} {method : Closure} {t : Interpreter}
    (h : Yields goal name bodies receiver)
    (answered : Routine.Answers body goal (.ok (.function identity method), t)) :
    nearest? name.lexeme bodies = some method.declaration ∧
      t.heap.binding? method.frame "this" = some receiver := by
  unfold Yields at h
  split at h
  · next isNearest =>
    obtain ⟨_, _, _, answered', rfl, isBound⟩ := h
    cases Routine.Answers.unique body answered answered'
    exact ⟨isNearest, isBound⟩
  · obtain ⟨_, answered'⟩ := h
    cases Routine.Answers.unique body answered answered'

/-- A method that is bound is a function whose frame binds the receiver. -/
theorem Interpreter.exists_bindMethod (i : Interpreter) (method : Closure) (receiver : Value) :
    ∃ identity closure, (i.bindMethod method receiver).1 = .function identity closure ∧
      closure.declaration = method.declaration ∧
      (i.bindMethod method receiver).2.heap.binding? closure.frame "this" = some receiver := by
  refine ⟨_, _, rfl, rfl, ?_⟩
  change (i.heap.newFrame (some method.frame) ((∅ : Bindings).insert "this" receiver)).2.binding?
    i.heap.frames.size "this" = some receiver
  rw [Heap.binding?_newFrame, if_pos rfl, Bindings.getElem?_single, if_pos rfl]

section

variable {came : Task → Prop} {c : Class} {bodies : List (List FunctionDecl)} {goal : Goal .value}
  {name property : Token} {receiver : Value} {s t : Interpreter} {object : Expr} {address : Nat}

/-- What is found in a class is found along its lineage. -/
theorem Lineage.yields (lineage : Lineage came c bodies)
    (answered : Routine.Answers body goal (match c.findMethod? name.lexeme with
      | some method => (.ok (s.bindMethod method receiver).1, (s.bindMethod method receiver).2)
      | none => (.error ⟨.undefinedProperty name.lexeme, name.line⟩, s))) :
    Yields goal name bodies receiver := by
  unfold Yields
  rw [← lineage.declaration_findMethod?]
  cases isFound : c.findMethod? name.lexeme with
  | none =>
    rw [isFound] at answered
    exact ⟨s, answered⟩
  | some method =>
    rw [isFound] at answered
    dsimp only at answered
    obtain ⟨identity, closure, isFunction, isDeclaration, isBound⟩ :=
      s.exists_bindMethod method receiver
    rw [isFunction] at answered
    exact ⟨identity, closure, _, answered, isDeclaration, isBound⟩

/-- The property of an instance. -/
theorem answers_property (property : Token)
    (isInstance : Routine.Answers body ((.evaluate object, s) : Goal .value)
      (.ok (.instance_ address c), t)) :
    Routine.Answers body ((.evaluate (.get object property), s) : Goal .value)
      (t.property address c property) := by
  refine Routine.answers_of_rest_answer ?_
  have rest := Routine.Rest.step (r := body .value (.evaluate (.get object property), s)) .refl
    isInstance
  change Routine.Rest body _ (Routine.bind (Routine.bind
    (check (t.property address c property).1 (t.property address c property).2) _) _) at rest
  rcases isProperty : t.property address c property with ⟨fault | value, t'⟩ <;>
  · rw [isProperty] at rest
    exact rest

/-- The class of an instance of which a property is read has a lineage. -/
theorem World.Related.exists_lineage {w : World} {p : Position} {goal' : Goal .value}
    (related : Related w p ((.evaluate (.get object property), s) : Goal .value) goal')
    (isInstance : Routine.Answers body ((.evaluate object, s) : Goal .value)
      (.ok (.instance_ address c), t)) : ∃ bodies, Lineage w.visited c bodies := by
  have wellScoped : object.WellScoped w.known p := by
    cases related with
    | evaluate _ _ _ wellScoped =>
      cases wellScoped with
      | get h => exact h
  obtain ⟨_, w', _, _, -, -, -, grown, -, -, -, same⟩ :=
    related.part_answers (.inl ⟨_, .refl⟩) wellScoped isInstance
  cases same with
  | instance_ same => exact grown.visited ▸ same.exists_lineage

end

/-! ### Methods in sessions -/

variable {past : List Execution} {i j : Interpreter} {program : List Stmt} {source : String}
  {moves : Nat}

/-- Which method is meant in the run of an accepted program, whatever the session has executed
before.

The property of an instance is the value of the field with its name, if there is one. Otherwise it
is the declaration in the nearest body of the lineage of the class, bound to the instance.

With `super`, in the text of a method of a class, the lineage is that of the class that the
superclass expression had for a value when the class was defined, and the instance is the one to
which the running method was bound. -/
theorem Session.methods_nearest (session : Session past i)
    (isLoaded : i.load source = (.ok program, j))
    {moment : Job.Moment Interpreter Fault Request Phase.Result Unit}
    (reached : Job.proceed step moves (Job.start (interpret program) j) = .error moment) :
    (∀ object property s address c t,
      moment.task? = some (evaluating (.get object property) s) →
      Routine.Answers body ((.evaluate object, s) : Goal .value) (.ok (.instance_ address c), t) →
        match t.heap.field? address property.lexeme with
        | some v =>
          Routine.Answers body ((.evaluate (.get object property), s) : Goal .value) (.ok v, t)
        | none => ∃ bodies, Lineage (Arose (⟨program, j⟩ :: past)) c bodies ∧
            Yields (.evaluate (.get object property), s) property bodies (.instance_ address c)) ∧
    ∀ keyword name s, moment.task? = some (evaluating (.super keyword name) s) →
      ∃ e ∈ ⟨program, j⟩ :: past, ∃ r, Visit e.program ⟨.super, keyword⟩ r ∧
        ∃ distance className superclass methods,
          Encloses className superclass methods r.openers distance ∧
        ∃ c receiver, InMethod (Arose (⟨program, j⟩ :: past)) s.heap s.frame distance className
            superclass methods c receiver ∧
        ∃ bodies, Lineage (Arose (⟨program, j⟩ :: past)) c bodies ∧
          Yields (.evaluate (.super keyword name), s) name bodies receiver := by
  have loads := Interpreter.loads_of_load isLoaded
  obtain ⟨frames, cells, k, ready⟩ := session.exists_ready
  have ready := ready.load loads ∅
  -- Goals at a moment of the run come up in related states.
  have related (e : Expr) (s : Interpreter) (taken : moment.task? = some (evaluating e s)) :
      ∃ w p goal', w.known = Read (⟨program, j⟩ :: past) ∧
        w.visited = Arose (⟨program, j⟩ :: past) ∧
        Related w p ((.evaluate e, s) : Goal .value) goal' := by
    obtain ⟨w, p, goal', known, visited, related, -⟩ := ready.arises
      (fun task arises => ⟨_, List.mem_cons_self, arises⟩) loads.wellScoped
      (Routine.exists_moment_iff.1 ⟨moves, moment, reached, taken⟩)
    exact ⟨w, p, goal', known, visited, related⟩
  refine ⟨fun object property s address c t taken isInstance => ?_, fun keyword name s taken => ?_⟩
  · obtain ⟨w, p, goal', known, visited, related⟩ := related _ s taken
    have answered := answers_property property isInstance
    unfold Interpreter.property at answered
    cases isField : t.heap.field? address property.lexeme with
    | some v =>
      rw [isField] at answered
      exact answered
    | none =>
      rw [isField] at answered
      obtain ⟨bodies, lineage⟩ := related.exists_lineage isInstance
      rw [visited] at lineage
      exact ⟨bodies, lineage, lineage.yields answered⟩
  · obtain ⟨w, p, goal', known, visited, related⟩ := related _ s taken
    cases related with
    | evaluate situation course isVisited wellScoped awaiting =>
      cases wellScoped with
      | super isKnown spelled bound above inherits =>
        obtain ⟨isEntry, c, _, address, own, _,
          ⟨isClass, isInstance, className, superclass, methods, encloses, inMethod⟩,
          -, -, same, -⟩ := situation.super isKnown spelled bound above awaiting inherits
        rw [known] at isKnown
        obtain ⟨e, mem, _, r, visit, mirrors, -⟩ := isKnown
        obtain ⟨bodies, lineage⟩ := same.exists_lineage
        rw [visited] at lineage inMethod
        exact ⟨e, mem, r, visit, _, className, superclass, methods,
          mirrors.openers ▸ encloses, c, _,
          inMethod, bodies, lineage, lineage.yields (answers_super isEntry isClass isInstance)⟩

/-! ### Parts of expressions and values -/

/-- The object of which a property is read, and the property. -/
def Evaluation.property? : Expr → Option (Expr × Token)
  | .get object property => some (object, property)
  | .literal .. | .grouping _ | .unary .. | .binary .. | .logical .. | .reference _ | .assign ..
  | .call .. | .set .. | .this _ | .super .. => none

theorem Evaluation.eq_of_property? {e object : Expr} {property : Token}
    (h : property? e = some (object, property)) : e = .get object property := by
  cases e <;> cases h
  rfl

theorem Except.eq_ok_of_toOption {ε α : Type} {result : Except ε α} {a : α}
    (h : result.toOption = some a) : result = .ok a := by
  cases result <;> cases h
  rfl

/-- The number and the class of an instance. -/
def Value.instance? : Value → Option (Nat × Class)
  | .instance_ address c => some (address, c)
  | .nil | .boolean _ | .number _ | .string _ | .clock | .function .. | .classObject _ => none

theorem Value.eq_of_instance? {v : Value} {address : Nat} {c : Class}
    (h : v.instance? = some (address, c)) : v = .instance_ address c := by
  cases v <;> cases h
  rfl

/-- The code of a function. -/
def Value.closure? : Value → Option Closure
  | .function _ c => some c
  | .nil | .boolean _ | .number _ | .string _ | .clock | .classObject _ | .instance_ .. => none

theorem Value.exists_of_closure? {v : Value} {c : Closure} (h : v.closure? = some c) :
    ∃ identity, v = .function identity c := by
  cases v <;> cases h
  exact ⟨_, rfl⟩

/-! ### A method that is inherited, and the one that it overrides -/

/-- A class overrides the method of the class above it and asks for that one, and a class below
inherits the method. It is called on an instance. -/
def overridingSource : String :=
  "class A \x7b m() \x7b\x7d \x7d class B < A \x7b m(x) \x7b super.m; \x7d \x7d " ++
    "class C < B \x7b\x7d C().m(nil);"

theorem Interpreter.load_overridingSource (sink : Sink) (clock : Clock) :
    let word (text : String) : Token := ⟨.identifier, text, 1⟩
    let paren : Token := ⟨.symbol .rightParen, ")", 1⟩
    let overriding : FunctionDecl := ⟨word "m", [word "x"],
      [.expression (.super ⟨1, ⟨.keyword .super_, "super", 1⟩⟩ (word "m"))]⟩
    (start sink clock).load overridingSource =
      (.ok [.classDecl (word "A") none [⟨word "m", [], []⟩],
          .classDecl (word "B") (some ⟨0, word "A"⟩) [overriding],
          .classDecl (word "C") (some ⟨2, word "B"⟩) [],
          .expression (.call (.get (.call (.reference ⟨3, word "C"⟩) paren []) (word "m")) paren
            [.literal .nil 1])],
        ((start sink clock).retabled 4 ∅).recordDistances [(1, 2)]) := by
  intro word paren overriding
  have isTokens : tokenize overridingSource =
      .ok [⟨.keyword .class_, "class", 1⟩, word "A", ⟨.symbol .leftBrace, "\x7b", 1⟩, word "m",
        ⟨.symbol .leftParen, "(", 1⟩, paren, ⟨.symbol .leftBrace, "\x7b", 1⟩,
        ⟨.symbol .rightBrace, "\x7d", 1⟩, ⟨.symbol .rightBrace, "\x7d", 1⟩,
        ⟨.keyword .class_, "class", 1⟩, word "B", ⟨.symbol .less, "<", 1⟩, word "A",
        ⟨.symbol .leftBrace, "\x7b", 1⟩, word "m", ⟨.symbol .leftParen, "(", 1⟩, word "x", paren,
        ⟨.symbol .leftBrace, "\x7b", 1⟩, ⟨.keyword .super_, "super", 1⟩, ⟨.symbol .dot, ".", 1⟩,
        word "m", ⟨.symbol .semicolon, ";", 1⟩, ⟨.symbol .rightBrace, "\x7d", 1⟩,
        ⟨.symbol .rightBrace, "\x7d", 1⟩, ⟨.keyword .class_, "class", 1⟩, word "C",
        ⟨.symbol .less, "<", 1⟩, word "B", ⟨.symbol .leftBrace, "\x7b", 1⟩,
        ⟨.symbol .rightBrace, "\x7d", 1⟩, word "C", ⟨.symbol .leftParen, "(", 1⟩, paren,
        ⟨.symbol .dot, ".", 1⟩, word "m", ⟨.symbol .leftParen, "(", 1⟩, ⟨.keyword .nil_, "nil", 1⟩,
        paren, ⟨.symbol .semicolon, ";", 1⟩, ⟨.endOfInput, "", 1⟩] := by
    cbv
  exact load_eq isTokens rfl (by cbv)

/-- The instance is of the lowest class, which has the method with one parameter. -/
theorem exists_get_overriding
    (isLoaded : (Interpreter.start .unlimited fun _ => .ok 0).load overridingSource =
      (.ok program, j)) :
    ∃ object property s c t, Execution.evaluated? ⟨program, j⟩ 12 = some (.get object property, s) ∧
      Routine.Answers body ((.evaluate object, s) : Goal .value) (.ok (.instance_ 0 c), t) ∧
      t.heap.field? 0 property.lexeme = none ∧ c.name = "C" ∧
      (c.findMethod? property.lexeme).map (·.declaration.params.length) = some 1 := by
  have shown : (Execution.evaluated? ⟨program, j⟩ 12).bind (fun goal =>
      (property? goal.1).bind fun access =>
        (Routine.solve body 5 .value (.evaluate access.1, goal.2)).bind fun answer =>
          answer.1.toOption.bind fun v => v.instance?.map fun receiver =>
            (receiver.1, (answer.2.heap.field? receiver.1 access.2.lexeme).isNone,
              receiver.2.name,
              (receiver.2.findMethod? access.2.lexeme).map (·.declaration.params.length))) =
      some (0, true, "C", some 1) := by
    cases isLoaded.symm.trans (Interpreter.load_overridingSource _ _)
    decide +kernel
  obtain ⟨⟨e, s⟩, isGoal, shown⟩ := Option.bind_eq_some_iff.1 shown
  obtain ⟨⟨object, property⟩, isAccess, shown⟩ := Option.bind_eq_some_iff.1 shown
  obtain ⟨⟨outcome, t⟩, solved, shown⟩ := Option.bind_eq_some_iff.1 shown
  obtain ⟨v, isValue, shown⟩ := Option.bind_eq_some_iff.1 shown
  obtain ⟨⟨address, c⟩, isInstance, shown⟩ := Option.map_eq_some_iff.1 shown
  simp only [Prod.mk.injEq, Option.isNone_iff_eq_none] at shown
  obtain ⟨rfl, noField, isName, isMethod⟩ := shown
  obtain rfl := eq_of_property? isAccess
  obtain rfl := Value.eq_of_instance? isInstance
  obtain rfl : outcome = .ok (.instance_ 0 c) := Except.eq_ok_of_toOption isValue
  exact ⟨object, property, s, c, t, isGoal, ⟨5, solved⟩, noField, isName, isMethod⟩

/-- The method asks for one without parameters, which is bound to the instance. -/
theorem exists_super_overriding
    (isLoaded : (Interpreter.start .unlimited fun _ => .ok 0).load overridingSource =
      (.ok program, j)) :
    ∃ keyword name s identity method c t,
      Execution.evaluated? ⟨program, j⟩ 23 = some (.super keyword name, s) ∧
      Routine.Answers body ((.evaluate (.super keyword name), s) : Goal .value)
        (.ok (.function identity method), t) ∧
      t.heap.binding? method.frame "this" = some (.instance_ 0 c) ∧ c.name = "C" ∧
      method.declaration.params.length = 0 := by
  have shown : (Execution.evaluated? ⟨program, j⟩ 23).bind (fun goal =>
      (read? goal.1).bind fun read =>
        (Routine.solve body 3 .value (.evaluate goal.1, goal.2)).bind fun answer =>
          answer.1.toOption.bind fun v => v.closure?.bind fun method =>
            (answer.2.heap.binding? method.frame "this").bind fun this =>
              this.instance?.map fun receiver => (read.1, receiver.1, receiver.2.name,
                method.declaration.params.length)) = some (.super, 0, "C", 0) := by
    cases isLoaded.symm.trans (Interpreter.load_overridingSource _ _)
    decide +kernel
  obtain ⟨⟨e, s⟩, isGoal, shown⟩ := Option.bind_eq_some_iff.1 shown
  obtain ⟨⟨kind, keyword⟩, isRead, shown⟩ := Option.bind_eq_some_iff.1 shown
  obtain ⟨⟨outcome, t⟩, solved, shown⟩ := Option.bind_eq_some_iff.1 shown
  obtain ⟨v, isValue, shown⟩ := Option.bind_eq_some_iff.1 shown
  obtain ⟨method, isClosure, shown⟩ := Option.bind_eq_some_iff.1 shown
  obtain ⟨this, isBound, shown⟩ := Option.bind_eq_some_iff.1 shown
  obtain ⟨⟨address, c⟩, isInstance, shown⟩ := Option.map_eq_some_iff.1 shown
  simp only [Prod.mk.injEq] at shown
  obtain ⟨rfl, rfl, isName, isMethod⟩ := shown
  obtain ⟨identity, rfl⟩ := Value.exists_of_closure? isClosure
  obtain rfl := Value.eq_of_instance? isInstance
  obtain rfl : outcome = .ok (.function identity method) := Except.eq_ok_of_toOption isValue
  cases reads_of_read? isRead with
  | @super _ name =>
    exact ⟨keyword, name, s, identity, method, c, t, isGoal, ⟨3, solved⟩, isBound, isName, isMethod⟩

/-- The method of an instance, with one parameter, is that of the class in the middle. It asks for
the one above, without parameters. Both are bound to the instance. -/
theorem methods_nearest_overriding :
    ∃ program j, (Interpreter.start .unlimited fun _ => .ok 0).load overridingSource =
        (.ok program, j) ∧
      (∃ object property s c bodies,
        Execution.Arises ⟨program, j⟩ (evaluating (.get object property) s) ∧
        c.name = "C" ∧ Lineage (Arose [⟨program, j⟩]) c bodies ∧
        (nearest? property.lexeme bodies).map (·.params.length) = some 1 ∧
        Yields (.evaluate (.get object property), s) property bodies (.instance_ 0 c)) ∧
      ∃ keyword name s above bodies c,
        Execution.Arises ⟨program, j⟩ (evaluating (.super keyword name) s) ∧
        c.name = "C" ∧ Lineage (Arose [⟨program, j⟩]) above bodies ∧
        (nearest? name.lexeme bodies).map (·.params.length) = some 0 ∧
        Yields (.evaluate (.super keyword name), s) name bodies (.instance_ 0 c) := by
  have isLoaded := Interpreter.load_overridingSource .unlimited fun _ => .ok 0
  refine ⟨_, _, isLoaded, ?_, ?_⟩
  · obtain ⟨object, property, s, c, t, isGoal, isInstance, noField, isName, isMethod⟩ :=
      exists_get_overriding isLoaded
    obtain ⟨moment, reached, taken⟩ := Execution.exists_moment isGoal
    have nearest :=
      (Session.methods_nearest (.start _ _) isLoaded reached).1 _ _ s _ c t taken isInstance
    rw [noField] at nearest
    obtain ⟨bodies, lineage, yields⟩ := nearest
    refine ⟨object, property, s, c, bodies, Routine.exists_moment_iff.1 ⟨_, _, reached, taken⟩,
      isName, lineage, ?_, yields⟩
    rw [← lineage.declaration_findMethod?, Option.map_map]
    exact isMethod
  · obtain ⟨keyword, name, s, _, _, c, t, isGoal, answered, isBound, isName, isMethod⟩ :=
      exists_super_overriding isLoaded
    obtain ⟨moment, reached, taken⟩ := Execution.exists_moment isGoal
    obtain ⟨-, -, -, -, -, -, -, -, -, above, receiver, -, bodies, lineage, yields⟩ :=
      (Session.methods_nearest (.start _ _) isLoaded reached).2 keyword name s taken
    obtain ⟨isNearest, isReceiver⟩ := yields.eq_of_answers answered
    obtain rfl : receiver = .instance_ 0 c := Option.some.inj (isReceiver.symm.trans isBound)
    refine ⟨keyword, name, s, above, bodies, c, Routine.exists_moment_iff.1 ⟨_, _, reached, taken⟩,
      isName, lineage, ?_, yields⟩
    rw [isNearest, Option.map_some, isMethod]

end Lox
