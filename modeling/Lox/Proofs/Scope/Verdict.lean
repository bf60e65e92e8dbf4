import Lox.Proofs.Grammar.Formed
import Lox.Proofs.Grammar.Soundness
import Lox.Proofs.Scope.Coverage
import Lox.Session
import Mathlib

/-!
# What the static reading says of a parsed program

The static reading of a parsed program reports what violates the rules, construct by construct in
the order of the source, and it records for each occurrence of a name how many scopes are inside the
innermost one around it that already holds the name. Both hold whether there are violations or not:
what stands in one place changes nothing of what is said of another.

`this` outside every class is reported, and no distance is recorded for it, even if a scope around
it holds a name of that spelling (`Scope.unrecorded_this_outside_classes`). In a program that was
written down none does.

## Main definitions

* `Scope.Unowned`: a construct is `this` outside every class.
* `Scope.Surroundings.Owned`: only the scopes of instances hold `this`.

## Main results

* `Scope.analyse_of_parsed`: what the static reading finds in a parsed program.
* `Scope.recorded_of_parsed`: the distances that are recorded.
* `Scope.reported_of_parsed`, `Scope.accepted_iff`: the violations that are reported.
-/

namespace Lox

open Scope

namespace Scope

/-- A construct names an instance outside every class. -/
def Unowned (c : Placed) : Prop :=
  ∃ keyword, c.2 = .expression (.this keyword) ∧ c.1.inherits? = none

theorem listed?_of_unowned {c : Placed} (h : Unowned c) : listed? c = none := by
  obtain ⟨p, _⟩ := c
  obtain ⟨keyword, rfl, outside⟩ := h
  exact if_pos outside

theorem listed?_eq {c : Placed} (h : ¬ Unowned c) : listed? c = record? c := by
  obtain ⟨p, c⟩ := c
  unfold listed?
  split
  · next keyword isThis =>
    cases isThis
    exact if_neg fun outside => h ⟨keyword, rfl, outside⟩
  · rfl

/-- What there is to record of an occurrence is the distance of its name. -/
theorem map_snd_record? {c : Placed} {o : Occurrence} (h : c.2.occurrence? = some o) :
    (record? c).map Prod.snd = c.1.distance? o.name.lexeme := by
  rw [record?, h, Option.bind_some, Option.map_map]
  exact Option.map_id'

/-! ### Instances are named in classes -/

/-- Only the scopes around the methods of classes hold `this`. -/
def Surroundings.Owned (p : Surroundings) : Prop :=
  ∀ e ∈ p, "this" ∈ e.names → e.inherits? ≠ none

/-- The surroundings of a construct hold `this` only in classes, and `this` is spelled so. -/
structure OwnedAt (c : Placed) : Prop where
  place : c.1.Owned
  spelled : ∀ keyword, c.2 = .expression (.this keyword) → keyword.name.lexeme = "this"

/-- Outside every class no scope holds `this`. -/
theorem OwnedAt.record?_eq_none {c : Placed} (owned : OwnedAt c) (h : Unowned c) :
    record? c = none := by
  obtain ⟨p, _⟩ := c
  obtain ⟨keyword, rfl, outside⟩ := h
  have isNone : p.distance? keyword.name.lexeme = none := by
    rw [owned.spelled keyword rfl, Surroundings.distance?, List.findIdx?_eq_none_iff]
    intro e mem
    rw [decide_eq_false_iff_not]
    exact fun held => owned.place e mem held (List.findSome?_eq_none_iff.1 outside e mem)
  simp only [record?, Construct.occurrence?, Option.bind_some]
  rw [isNone, Option.map_none]

theorem OwnedAt.listed?_eq {c : Placed} (owned : OwnedAt c) : listed? c = record? c := by
  by_cases h : Unowned c
  · rw [listed?_of_unowned h, owned.record?_eq_none h]
  · exact Scope.listed?_eq h

namespace Surroundings.Owned

variable {p : Surroundings} {s : Stmt}

theorem enter (h : p.Owned) {kind : Enclosure.Kind}
    (held : "this" ∈ kind.names → (Enclosure.mk kind []).inherits? ≠ none) :
    (p.enter kind).Owned := by
  intro e mem
  rcases List.mem_cons.1 mem with rfl | mem
  · exact held
  · exact h e mem

theorem past (h : p.Owned) (formed : s.Formed) : (p.past s).Owned := by
  have notThis : s.declared? ≠ some "this" := by
    cases formed with
    | classDecl ordinary | varDecl ordinary =>
      exact fun declares => ordinary.1 (Option.some.inj declares)
    | functionDecl formed =>
      cases formed with
      | mk named => exact fun declares => named.1 (Option.some.inj declares)
    | _ => nofun
  cases p with
  | nil => exact h
  | cons first outer =>
    intro e mem
    rcases List.mem_cons.1 mem with rfl | mem
    · intro held
      refine h first List.mem_cons_self ?_
      rcases List.mem_append.1 held with declared | named
      · obtain ⟨s', mem, declares⟩ := List.mem_filterMap.1 declared
        rcases List.mem_cons.1 mem with rfl | mem
        · exact absurd declares notThis
        · exact List.mem_append_left _ (List.mem_filterMap.2 ⟨s', mem, declares⟩)
      · exact List.mem_append_right _ named
    · exact h e (List.mem_cons_of_mem _ mem)

theorem enter_function (h : p.Owned) {role : FunctionRole} {params : List Token}
    (ordinary : ∀ t ∈ params, Ordinary t.lexeme) : (p.enter (.function role params)).Owned := by
  refine h.enter fun held => ?_
  obtain ⟨t, mem, isThis⟩ := List.mem_map.1 held
  exact absurd isThis (ordinary t mem).1

theorem inMethods (h : p.Owned) (hasSuperclass : Bool) : (p.inMethods hasSuperclass).Owned := by
  unfold Surroundings.inMethods
  split
  · exact (h.enter (by decide)).enter nofun
  · exact h.enter nofun

end Surroundings.Owned

end Scope

/-- The expressions in a formed expression are formed. -/
theorem Expr.Formed.parts {e : Expr} (h : e.Formed) : ∀ e' ∈ e.parts, e'.Formed := by
  induction h with
  | literal =>
    rw [Expr.parts, List.forall_mem_singleton]
    exact .literal
  | grouping h ih =>
    rw [Expr.parts, List.forall_mem_cons]
    exact ⟨.grouping h, ih⟩
  | unary isUnary h ih =>
    rw [Expr.parts, List.forall_mem_cons]
    exact ⟨.unary isUnary h, ih⟩
  | binary isBinary h h' ih ih' =>
    rw [Expr.parts, List.forall_mem_cons, List.forall_mem_append]
    exact ⟨.binary isBinary h h', ih, ih'⟩
  | logical h h' ih ih' =>
    rw [Expr.parts, List.forall_mem_cons, List.forall_mem_append]
    exact ⟨.logical h h', ih, ih'⟩
  | reference ordinary =>
    rw [Expr.parts, List.forall_mem_singleton]
    exact .reference ordinary
  | assign ordinary h ih =>
    rw [Expr.parts, List.forall_mem_cons]
    exact ⟨.assign ordinary h, ih⟩
  | call h h' ih ih' =>
    rw [Expr.parts, List.forall_mem_cons, List.forall_mem_append, Expr.allParts_eq]
    refine ⟨.call h h', ih, fun e' mem => ?_⟩
    obtain ⟨e, isArgument, mem⟩ := List.mem_flatMap.1 mem
    exact ih' e isArgument e' mem
  | get h ih =>
    rw [Expr.parts, List.forall_mem_cons]
    exact ⟨.get h, ih⟩
  | set h h' ih ih' =>
    rw [Expr.parts, List.forall_mem_cons, List.forall_mem_append]
    exact ⟨.set h h', ih, ih'⟩
  | this spelled =>
    rw [Expr.parts, List.forall_mem_singleton]
    exact .this spelled
  | super spelled =>
    rw [Expr.parts, List.forall_mem_singleton]
    exact .super spelled

section

variable {p : Surroundings}

theorem Expr.Formed.ownedAt {e : Expr} (h : e.Formed) (owned : p.Owned) :
    ∀ c ∈ e.constructs p, OwnedAt c := by
  intro c mem
  obtain ⟨e', isPart, rfl⟩ := List.mem_map.1 mem
  refine ⟨owned, ?_⟩
  rintro keyword ⟨⟩
  cases h.parts _ isPart with
  | this spelled => exact spelled

theorem Expr.optionOwnedAt {e : Option Expr} (h : ∀ e', e = some e' → e'.Formed) (owned : p.Owned) :
    ∀ c ∈ Expr.optionConstructs p e, OwnedAt c := by
  cases e with
  | none => exact nofun
  | some e => exact (h e rfl).ownedAt owned

theorem Scope.ownedAt_statement (owned : p.Owned) (s : Stmt) : OwnedAt (p, .statement s) :=
  ⟨owned, nofun⟩

theorem Scope.ownedAt_placedParams (owned : p.Owned) (role : FunctionRole)
    {names before : List Token} (ordinary : ∀ t ∈ before, Ordinary t.lexeme)
    (ordinary' : ∀ t ∈ names, Ordinary t.lexeme) :
    ∀ c ∈ placedParams role p before names, OwnedAt c := by
  induction names generalizing before with
  | nil => exact nofun
  | cons name names ih =>
    rw [List.forall_mem_cons] at ordinary'
    rw [placedParams, List.forall_mem_cons]
    refine ⟨⟨owned.enter_function ordinary, nofun⟩, ih ?_ ordinary'.2⟩
    exact List.forall_mem_cons.2 ⟨ordinary'.1, ordinary⟩

end

mutual

/-- In formed statements `this` stands where only instances are called so. -/
theorem Stmt.Formed.ownedAt {p : Surroundings} (owned : p.Owned) : {s : Stmt} → s.Formed →
    ∀ c ∈ Stmt.inner p s, OwnedAt c
  | .block body, .block h => by
    rw [Stmt.inner]
    exact Stmt.allOwnedAt (owned.enter fun held => absurd held List.not_mem_nil) h
  | .classDecl name superclass methods, .classDecl _ _ h => by
    rw [Stmt.inner, List.forall_mem_append]
    constructor
    · cases superclass with
      | none => exact nofun
      | some o => exact List.forall_mem_singleton.2 ⟨owned, nofun⟩
    · exact FunctionDecl.allOwnedAt (owned.inMethods superclass.isSome) h
  | .expression value, .expression h => by
    rw [Stmt.inner]
    exact h.ownedAt owned
  | .functionDecl d, .functionDecl h => by
    rw [Stmt.inner]
    exact FunctionDecl.Formed.ownedAt .plain owned h
  | .conditional condition thenBranch elseBranch, .conditional h _ hThen _ hElse => by
    rw [Stmt.inner, List.forall_mem_append, List.cons_append, List.forall_mem_cons,
      List.forall_mem_append]
    exact ⟨h.ownedAt owned, ownedAt_statement owned thenBranch,
      hThen.ownedAt (owned.past hThen), Stmt.optionOwnedAt owned hElse⟩
  | .print value, .print h => by
    rw [Stmt.inner]
    exact h.ownedAt owned
  | .ret keyword value, .ret h => by
    rw [Stmt.inner]
    exact Expr.optionOwnedAt h owned
  | .varDecl name initializer, .varDecl _ h => by
    rw [Stmt.inner]
    exact Expr.optionOwnedAt h owned
  | .loop condition body, .loop h _ hBody => by
    rw [Stmt.inner, List.forall_mem_append, List.forall_mem_cons]
    exact ⟨h.ownedAt owned, ownedAt_statement owned body, hBody.ownedAt (owned.past hBody)⟩

theorem Stmt.optionOwnedAt {p : Surroundings} (owned : p.Owned) : {s : Option Stmt} →
    (∀ s', s = some s' → s'.Formed) → ∀ c ∈ Stmt.optionConstructs p s, OwnedAt c
  | none, _ => by
    rw [Stmt.optionConstructs]
    exact nofun
  | some s, h => by
    have formed := h s rfl
    rw [Stmt.optionConstructs, List.forall_mem_cons]
    exact ⟨ownedAt_statement owned s, formed.ownedAt (owned.past formed)⟩

theorem Stmt.allOwnedAt {p : Surroundings} (owned : p.Owned) : {ss : List Stmt} →
    (∀ s ∈ ss, s.Formed) → ∀ c ∈ Stmt.allConstructs p ss, OwnedAt c
  | [], _ => by
    rw [Stmt.allConstructs]
    exact nofun
  | s :: ss, h => by
    obtain ⟨formed, rest⟩ := List.forall_mem_cons.1 h
    rw [Stmt.allConstructs, List.cons_append, List.forall_mem_cons, List.forall_mem_append]
    exact ⟨ownedAt_statement owned s, formed.ownedAt (owned.past formed),
      Stmt.allOwnedAt (owned.past formed) rest⟩

theorem FunctionDecl.Formed.ownedAt {p : Surroundings} (role : FunctionRole) (owned : p.Owned) :
    {d : FunctionDecl} → d.Formed → ∀ c ∈ d.constructs role p, OwnedAt c
  | ⟨name, params, body⟩, .mk _ ordinary h => by
    rw [FunctionDecl.constructs, List.forall_mem_append]
    refine ⟨ownedAt_placedParams owned role nofun ordinary, Stmt.allOwnedAt ?_ h⟩
    exact owned.enter_function fun t mem => ordinary t (List.mem_reverse.1 mem)

theorem FunctionDecl.allOwnedAt {p : Surroundings} (owned : p.Owned) : {ds : List FunctionDecl} →
    (∀ d ∈ ds, d.Formed) → ∀ c ∈ FunctionDecl.allConstructs p ds, OwnedAt c
  | [], _ => by
    rw [FunctionDecl.allConstructs]
    exact nofun
  | d :: ds, h => by
    obtain ⟨formed, rest⟩ := List.forall_mem_cons.1 h
    rw [FunctionDecl.allConstructs, List.forall_mem_append]
    exact ⟨formed.ownedAt (methodRole d) owned, FunctionDecl.allOwnedAt owned rest⟩

end

namespace Scope

/-! ### The table of distances -/

section

variable {cs : List Placed} {c c' : Placed} {o o' : Occurrence}

/-- What is recorded is recorded for an occurrence of a name. -/
theorem occurrence?_of_listed? {id : NodeId} {d : Nat} (h : listed? c = some (id, d)) :
    ∃ o, c.2.occurrence? = some o ∧ o.id = id := by
  have isRecord : record? c = some (id, d) := by
    by_cases unowned : Unowned c
    · rw [listed?_of_unowned unowned] at h
      cases h
    · rwa [listed?_eq unowned] at h
  obtain ⟨o, isOccurrence, isEntry⟩ := Option.bind_eq_some_iff.1 isRecord
  obtain ⟨_, -, isPair⟩ := Option.map_eq_some_iff.1 isEntry
  exact ⟨o, isOccurrence, congrArg Prod.fst isPair⟩

/-- Constructs whose occurrences are numbered apart are told apart by the numbers. -/
theorem eq_of_id_eq (distinct : (placedIds cs).Nodup) (mem : c ∈ cs) (mem' : c' ∈ cs)
    (h : c.2.occurrence? = some o) (h' : c'.2.occurrence? = some o') (same : o.id = o'.id) :
    c = c' := by
  by_contra differ
  have apart := List.pairwise_filterMap.1 distinct
  have : Std.Symm fun c c' : Placed => ∀ id, c.2.occurrence?.map Occurrence.id = some id →
      ∀ id', c'.2.occurrence?.map Occurrence.id = some id' → id ≠ id' :=
    ⟨fun _ _ apart id isId id' isId' => (apart id' isId' id isId).symm⟩
  exact apart.forall mem mem' differ o.id (by rw [h]; rfl) o'.id (by rw [h']; rfl) same

/-- The entry of a construct is what is recorded of it, or else what was there. -/
theorem getElem?_foldl_listed (distinct : (placedIds cs).Nodup)
    (once : ((cs.filterMap listed?).map Prod.fst).Nodup) (mem : c ∈ cs)
    (isOccurrence : c.2.occurrence? = some o) (known : Std.TreeMap NodeId Nat) :
    ((cs.filterMap listed?).foldl (fun known (id, d) => known.insert id d) known)[o.id]? =
      ((listed? c).map Prod.snd).or known[o.id]? := by
  cases isListed : listed? c with
  | some entry =>
    obtain ⟨id, d⟩ := entry
    obtain ⟨o', isOccurrence', rfl⟩ := occurrence?_of_listed? isListed
    obtain rfl : o = o' := Option.some.inj (isOccurrence.symm.trans isOccurrence')
    exact getElem?_foldl_insert_of_mem once (List.mem_filterMap.2 ⟨c, mem, isListed⟩) known
  | none =>
    refine getElem?_foldl_insert_of_notMem (fun listed => ?_) known
    obtain ⟨⟨id, d⟩, isEntry, rfl⟩ := List.mem_map.1 listed
    obtain ⟨c', mem', isListed'⟩ := List.mem_filterMap.1 isEntry
    obtain ⟨o', isOccurrence', isId⟩ := occurrence?_of_listed? isListed'
    obtain rfl := eq_of_id_eq distinct mem mem' isOccurrence isOccurrence' isId.symm
    rw [isListed] at isListed'
    cases isListed'

end

/-! ### Parsed programs -/

section

variable {tokens : List Token} {n : NodeId} {program : List Stmt}

/-- What the static reading finds in a parsed program. -/
theorem analyse_of_parsed (isParsed : (parseProgram tokens n).1 = .ok program) :
    analyse (programEvents program) =
      ⟨(Stmt.allConstructs [] program).flatMap violations,
        (Stmt.allConstructs [] program).filterMap listed?⟩ :=
  analyse_programEvents (derives_of_parseProgram isParsed).1.orderly

/-- In a program that was written down, `this` outside every class is the name of nothing. -/
theorem listed?_of_parsed (isParsed : (parseProgram tokens n).1 = .ok program)
    (spelled : ∀ t ∈ tokens, t.Spelled) :
    ∀ c ∈ Stmt.allConstructs [] program, listed? c = record? c := by
  have formed : ∀ s ∈ program, s.Formed := (derives_of_parseProgram isParsed).1.formed fun t mem =>
    spelled t ((List.takeWhile_sublist _).subset mem)
  intro c mem
  exact (Stmt.allOwnedAt (p := []) nofun formed c mem).listed?_eq

/-- The entry of an occurrence in the table for a parsed program is what is recorded of it, or else
what was there before. -/
theorem getElem?_bindProgram (isParsed : (parseProgram tokens n).1 = .ok program) (i : Interpreter)
    {c : Placed} (mem : c ∈ Stmt.allConstructs [] program) {o : Occurrence}
    (isOccurrence : c.2.occurrence? = some o) :
    (i.bindProgram program).2.distances[o.id]? =
      ((listed? c).map Prod.snd).or i.distances[o.id]? := by
  have found := analyse_of_parsed isParsed
  have apart := (derives_of_parseProgram isParsed).2.distinct
  have distinct : (placedIds (Stmt.allConstructs [] program)).Nodup := by
    rwa [ids_allConstructs]
  have once := (analyse_sublist program).nodup apart
  rw [found] at once
  rw [← getElem?_foldl_listed distinct once mem isOccurrence, Interpreter.bindProgram,
    Interpreter.adopt, found]
  rfl

/-- The distances that are recorded for a parsed program, whether it violates rules or not: for each
occurrence of a name that some scope around it already holds, the number of scopes inside the
innermost such one, and nothing for other occurrences. `this` outside every class is the exception:
nothing is recorded for it, whatever the scopes around it hold. All entries of the table for other
programs stay as they are. In a program that was written down the exception makes no difference. -/
theorem recorded_of_parsed (isParsed : (parseProgram tokens n).1 = .ok program) (i : Interpreter) :
    (analyse (programEvents program)).distances =
      (Stmt.allConstructs [] program).filterMap listed? ∧
    (∀ c ∈ Stmt.allConstructs [] program, ∀ o, c.2.occurrence? = some o →
      (¬ Unowned c → (i.bindProgram program).2.distances[o.id]? =
        (c.1.distance? o.name.lexeme).or i.distances[o.id]?) ∧
      (Unowned c → (i.bindProgram program).2.distances[o.id]? = i.distances[o.id]?)) ∧
    (∀ id, id ∉ siteIds program → (i.bindProgram program).2.distances[id]? = i.distances[id]?) ∧
    ((∀ t ∈ tokens, t.Spelled) →
      ∀ c ∈ Stmt.allConstructs [] program, listed? c = record? c) := by
  refine ⟨by rw [analyse_of_parsed isParsed],
    fun c mem o isOccurrence => ⟨fun owned => ?_, fun unowned => ?_⟩,
    fun id notMem => getElem?_recordDistances_of_notMem notMem i, listed?_of_parsed isParsed⟩
  · rw [getElem?_bindProgram isParsed i mem isOccurrence, listed?_eq owned,
      map_snd_record? isOccurrence]
  · rw [getElem?_bindProgram isParsed i mem isOccurrence, listed?_of_unowned unowned,
      Option.map_none, Option.none_or]

/-- Of two occurrences in a block inside a block, the one before the declaration there is bound to
the outer block, and the one in its initializer to the inner one, although it is reported. -/
theorem recorded_of_parsed_initializer :
    let a : Token := ⟨.identifier, "a", 1⟩
    let tokens : List Token := [⟨.symbol .leftBrace, "\x7b", 1⟩, ⟨.keyword .var_, "var", 1⟩, a,
      ⟨.symbol .semicolon, ";", 1⟩, ⟨.symbol .leftBrace, "\x7b", 1⟩, a,
      ⟨.symbol .semicolon, ";", 1⟩, ⟨.keyword .var_, "var", 1⟩, a, ⟨.symbol .equal, "=", 1⟩, a,
      ⟨.symbol .semicolon, ";", 1⟩, ⟨.symbol .rightBrace, "\x7d", 1⟩,
      ⟨.symbol .rightBrace, "\x7d", 1⟩, ⟨.endOfInput, "", 1⟩]
    let program : List Stmt := [.block [.varDecl a none,
      .block [.expression (.reference ⟨0, a⟩), .varDecl a (some (.reference ⟨1, a⟩))]]]
    tokenize "\x7b var a; \x7b a; var a = a; \x7d \x7d" = .ok tokens ∧
      (parseProgram tokens 0).1 = .ok program ∧
      (∀ t ∈ tokens, t.Spelled) ∧
      (analyse (programEvents program)).distances = [(0, 1), (1, 0)] := by
  intro a tokens program
  have isTokens : tokenize "\x7b var a; \x7b a; var a = a; \x7d \x7d" = .ok tokens := by cbv
  have isParsed : (parseProgram tokens 0).1 = .ok program := rfl
  have spelled : ∀ t ∈ tokens, t.Spelled := fun t mem => spelled_of_tokenize isTokens mem
  obtain ⟨isList, -, -, usual⟩ := recorded_of_parsed isParsed (.start .unlimited fun _ => .ok 0)
  refine ⟨isTokens, isParsed, spelled, isList.trans ?_⟩
  exact (List.filterMap_congr (usual spelled)).trans (by cbv)

/-- `this` in a block that holds the name, but outside every class: nothing is recorded for it. -/
theorem unrecorded_this_outside_classes :
    let keyword : Token := ⟨.keyword .this_, "this", 1⟩
    let tokens : List Token := [⟨.symbol .leftBrace, "\x7b", 1⟩, ⟨.keyword .var_, "var", 1⟩,
      ⟨.identifier, "this", 1⟩, ⟨.symbol .semicolon, ";", 1⟩, keyword,
      ⟨.symbol .semicolon, ";", 1⟩, ⟨.symbol .rightBrace, "\x7d", 1⟩, ⟨.endOfInput, "", 1⟩]
    let program : List Stmt :=
      [.block [.varDecl ⟨.identifier, "this", 1⟩ none, .expression (.this ⟨0, keyword⟩)]]
    (parseProgram tokens 0).1 = .ok program ∧
      (∃ c ∈ Stmt.allConstructs [] program, c.2.occurrence? = some ⟨0, keyword⟩ ∧
        c.1.distance? keyword.lexeme = some 0) ∧
      ((Interpreter.start .unlimited fun _ => .ok 0).bindProgram program).2.distances[0]? =
        none := by
  intro keyword tokens program
  let inBlock : Surroundings := [⟨.block, [.expression (.this ⟨0, keyword⟩),
    .varDecl ⟨.identifier, "this", 1⟩ none]⟩]
  refine ⟨rfl, ⟨(inBlock, .expression (.this ⟨0, keyword⟩)), ?_, rfl, by decide⟩, by cbv⟩
  simp [program, inBlock, Stmt.allConstructs, Stmt.inner, Expr.constructs, Expr.parts,
    Surroundings.past, Surroundings.enter]

/-- The violations of the constructs of a parsed program are reported. -/
theorem errors_of_parsed (isParsed : (parseProgram tokens n).1 = .ok program) (i : Interpreter) :
    (i.bindProgram program).1 =
      (Stmt.allConstructs [] program).flatMap fun c => (violations c).map .scoping := by
  rw [Interpreter.bindProgram, Interpreter.adopt, analyse_of_parsed isParsed, List.map_flatMap]

/-- A parsed program is accepted if none of its constructs violates a rule, and only then. -/
theorem accepted_iff (isParsed : (parseProgram tokens n).1 = .ok program) (i : Interpreter) :
    (i.bindProgram program).1 = [] ↔ ∀ c ∈ Stmt.allConstructs [] program, violations c = [] := by
  rw [errors_of_parsed isParsed, List.flatMap_eq_nil_iff]
  simp only [List.map_eq_nil_iff]

/-- What is reported for a parsed program: the rules that its constructs violate, construct by
construct in the order of the source, and nothing else. So a program is accepted exactly if none of
its constructs violates a rule. -/
theorem reported_of_parsed (isParsed : (parseProgram tokens n).1 = .ok program) (i : Interpreter) :
    (i.bindProgram program).1 =
      (Stmt.allConstructs [] program).flatMap (fun c => (violations c).map .scoping) ∧
    ((i.bindProgram program).1 = [] ↔ ∀ c ∈ Stmt.allConstructs [] program, violations c = []) :=
  ⟨errors_of_parsed isParsed i, accepted_iff isParsed i⟩

/-- A second declaration in a block is reported; the read in its initializer is none of an own
initializer, for the first declaration is ready. The `return` behind the block is reported too. -/
theorem reported_of_parsed_twice :
    let a : Token := ⟨.identifier, "a", 1⟩
    let keyword : Token := ⟨.keyword .return_, "return", 1⟩
    let tokens : List Token := [⟨.symbol .leftBrace, "\x7b", 1⟩, ⟨.keyword .var_, "var", 1⟩, a,
      ⟨.symbol .semicolon, ";", 1⟩, ⟨.keyword .var_, "var", 1⟩, a, ⟨.symbol .equal, "=", 1⟩, a,
      ⟨.symbol .semicolon, ";", 1⟩, ⟨.symbol .rightBrace, "\x7d", 1⟩, keyword,
      ⟨.symbol .semicolon, ";", 1⟩, ⟨.endOfInput, "", 1⟩]
    let program : List Stmt := [.block [.varDecl a none, .varDecl a (some (.reference ⟨0, a⟩))],
      .ret keyword none]
    (parseProgram tokens 0).1 = .ok program ∧
      ((Interpreter.start .unlimited fun _ => .ok 0).bindProgram program).1 =
        [.scoping ⟨a, .alreadyDeclared⟩, .scoping ⟨keyword, .returnOutsideFunction⟩] := by
  intro a keyword tokens program
  have isParsed : (parseProgram tokens 0).1 = .ok program := rfl
  exact ⟨isParsed,
    (reported_of_parsed isParsed (.start .unlimited fun _ => .ok 0)).1.trans (by cbv)⟩

end

end Scope

end Lox
