import Lox.Proofs.Alike.Copy
import Lox.Proofs.Evaluation.Loop
import Lox.Proofs.Scope.Relocation

/-!
# Clauses of `for` statements in scopes

The clauses of a `for` statement have two readings: in the blocks of the statement that they stand
for, and in one scope. A tree has one place, so that each reading has occurrences of its own. If the
clauses fit their places in the blocks, their copies fit the scope of the other reading.

## Main definitions

* `ForClauses.Alike`: clauses that are the same up to the numbers of occurrences.
* `ForClauses.inLoop`: the place of the loop in the scope of all clauses.
* `ForClauses.LoopFits`: condition, increment and body fit the scope of their loop.

## Main results

* `ForClauses.copied`: clauses have copies with numbers from any number on.
* `ForClauses.wellScoped_inOneScope_iff`: the clauses fit one scope.
* `ForClauses.relocate`: copies of clauses that fit the blocks fit one scope.
-/

namespace Lox

open Scope

theorem Stmt.Starts.of_alike {s s' : Stmt} (starts : s.Starts) (alike : s.Alike .renumbering s') :
    s'.Starts := by
  cases starts with
  | varDecl =>
    cases alike
    exact .varDecl _ _
  | expression =>
    cases alike
    exact .expression _

/-- Two statements in a block, one behind the other. -/
theorem Stmt.WellScoped.parts {known : Position → SiteKind → Occurrence → Prop} {p : Position}
    {s s' : Stmt} (h : Stmt.WellScoped known p (.block [s, s'])) :
    s.WellScoped known (p.enter (.statement (.block [s, s'])) []) ∧
      s'.WellScoped known ((p.enter (.statement (.block [s, s'])) []).after s) := by
  cases h with
  | block h =>
  cases h with
  | cons first h =>
  cases h with
  | cons second _ => exact ⟨first, second⟩

namespace ForClauses

/-- Clauses that are the same up to the numbers of occurrences. -/
structure Alike (l l' : ForClauses) : Prop where
  initializer : Option.Rel (Stmt.Alike .renumbering) l.initializer l'.initializer
  condition : Option.Rel (Expr.Alike .renumbering) l.condition l'.condition
  increment : Option.Rel (Expr.Alike .renumbering) l.increment l'.increment
  body : l.body.Alike .renumbering l'.body

/-- Condition, increment and body fit the scope of their loop. -/
structure LoopFits (known : Position → SiteKind → Occurrence → Prop) (p : Position)
    (l : ForClauses) : Prop where
  condition : ∀ e, l.condition = some e → e.WellScoped known p
  increment : ∀ e, l.increment = some e → e.WellScoped known p
  body : l.body.WellScoped known p

/-- The place of the loop in the scope of all clauses. -/
def inLoop (l : ForClauses) (p : Position) : Position :=
  (p.enter (.statement l.inOneScope) []).add (l.initializer.bind Stmt.declared?)

variable {p p' : Position} {l l' : ForClauses} {known : Position → SiteKind → Occurrence → Prop}

/-! ### Copies -/

theorem ids_inOneScope : l.inOneScope.ids = l.initializer.elim [] Stmt.ids ++
    (Expr.optionIds l.condition ++ (l.body.ids ++ Expr.optionIds l.increment)) := by
  unfold inOneScope
  rw [Stmt.ids_block]
  cases l.initializer <;> cases l.condition <;> cases l.increment <;>
    simp [Expr.optionIds]

theorem copied (l : ForClauses) : Copied (fun l' : ForClauses => l'.inOneScope.ids) l.Alike := by
  have parts := (Stmt.optionCopied l.initializer).pair ((Expr.optionCopied l.condition).pair
    (l.body.copied.pair (Expr.optionCopied l.increment)))
  intro lo
  obtain ⟨⟨i, e, s, e'⟩, hi, le, apart, initializer, condition, body, increment⟩ := parts lo
  have starts : ∀ s, i = some s → s.Starts := forall_of_rel initializer fun s isInitializer _ =>
    (l.starts s isInitializer).of_alike
  refine ⟨⟨l.keyword, i, e, e', s, starts, body.declared?_eq.trans l.plain⟩, hi, le, ?_,
    initializer, condition, increment, body⟩
  simp only [ids_inOneScope]
  exact apart

/-! ### Places in one scope -/

/-- Optional statements and expressions before other statements. -/
theorem allWellScoped_option_append {o : Option Stmt} {ss : List Stmt} :
    Stmt.AllWellScoped known p (o.toList ++ ss) ↔ (∀ s, o = some s → s.WellScoped known p) ∧
      Stmt.AllWellScoped known (p.add (o.bind Stmt.declared?)) ss := by
  cases o with
  | none => exact ⟨fun h => ⟨nofun, h⟩, fun h => h.2⟩
  | some s =>
    constructor
    · intro h
      cases h with
      | cons first rest => exact ⟨fun s' isFirst => Option.some.inj isFirst ▸ first, rest⟩
    · exact fun h => .cons (h.1 s rfl) h.2

theorem allWellScoped_expression_append {o : Option Expr} {ss : List Stmt} :
    Stmt.AllWellScoped known p ((o.map Stmt.expression).toList ++ ss) ↔
      (∀ e, o = some e → e.WellScoped known p) ∧ Stmt.AllWellScoped known p ss := by
  cases o with
  | none => exact ⟨fun h => ⟨nofun, h⟩, fun h => h.2⟩
  | some e =>
    constructor
    · intro h
      cases h with
      | cons first rest =>
        cases first with
        | expression fits => exact ⟨fun e' isFirst => Option.some.inj isFirst ▸ fits, rest⟩
    · exact fun h => .cons (.expression (h.1 e rfl)) h.2

/-- The clauses fit the block in which they stand once each. -/
theorem wellScoped_inOneScope_iff : l.inOneScope.WellScoped known p ↔
    (∀ s, l.initializer = some s → s.WellScoped known (p.enter (.statement l.inOneScope) [])) ∧
      l.LoopFits known (l.inLoop p) := by
  have rest (q : Position) : Stmt.AllWellScoped known q
      (l.body :: (l.increment.map Stmt.expression).toList) ↔
        l.body.WellScoped known q ∧ ∀ e, l.increment = some e → e.WellScoped known q := by
    rw [← List.append_nil (l.increment.map Stmt.expression).toList]
    constructor
    · intro h
      cases h with
      | cons body increment =>
        rw [Position.after_of_plain l.plain] at increment
        exact ⟨body, (allWellScoped_expression_append.1 increment).1⟩
    · intro h
      refine .cons h.1 ?_
      rw [Position.after_of_plain l.plain]
      exact allWellScoped_expression_append.2 ⟨h.2, .nil⟩
  have isBlock : l.inOneScope.WellScoped known p ↔ Stmt.AllWellScoped known
      (p.enter (.statement l.inOneScope) []) (l.initializer.toList ++
        ((l.condition.map Stmt.expression).toList ++
          l.body :: (l.increment.map Stmt.expression).toList)) := by
    rw [← List.append_assoc]
    constructor
    · intro h
      unfold inOneScope at h
      cases h with
      | block h => exact h
    · exact .block
  rw [isBlock, allWellScoped_option_append, allWellScoped_expression_append, rest]
  exact and_congr_right fun _ => ⟨fun h => ⟨h.1, h.2.2, h.2.1⟩, fun h => ⟨h.1, h.3, h.2⟩⟩

/-! ### From blocks to one scope -/

theorem LoopFits.relocate (fits : Stmt.WellScoped known p (.loop l.tested l.passed))
    (akin : p.Akin p') (settled : p.pending = none) (alike : l.Alike l') :
    l'.LoopFits anyOccurrence p' := by
  cases fits with
  | loop tested _ passed =>
  have isIncrement : l.passed =
      l.increment.elim l.body fun e => .block [l.body, .expression e] := rfl
  have isCondition : ∀ e', l'.condition = some e' → e'.WellScoped anyOccurrence p' := by
    refine forall_of_rel alike.condition fun e isCondition e' condition => ?_
    unfold ForClauses.tested at tested
    rw [isCondition] at tested
    exact tested.relocate akin condition
  have increments := alike.increment
  suffices rest : (∀ e', l'.increment = some e' → e'.WellScoped anyOccurrence p') ∧
      l'.body.WellScoped anyOccurrence p' from ⟨isCondition, rest.1, rest.2⟩
  rw [isIncrement] at passed
  generalize l.increment = o at passed increments
  generalize l'.increment = o' at increments ⊢
  cases increments with
  | none => exact ⟨nofun, passed.relocate akin settled (.inl l.plain) alike.body⟩
  | @some e e' increment =>
    -- The block around the increment is left out.
    have outside := akin.enter_left settled (.statement (.block [l.body, .expression e]))
    obtain ⟨body, last⟩ := passed.parts
    rw [Position.after_of_plain l.plain] at last
    cases last with
    | expression last =>
    refine ⟨?_, body.relocate outside settled (.inl l.plain) alike.body⟩
    rintro _ ⟨⟩
    exact last.relocate outside increment

/-- The variable that the initializer declares is in the scope of the loop. -/
theorem distance?_inLoop {x : String} (declares : l.initializer.bind Stmt.declared? = some x) :
    (l.inLoop p).distance? x = some 0 := by
  unfold inLoop
  rw [declares]
  exact Position.distance?_declare.trans (if_pos ⟨List.cons_ne_nil _ _, rfl⟩)

/-- If the clauses fit a place in their blocks, alike clauses fit there in one scope. -/
theorem relocate (fits : l.lowered.WellScoped known p) (settled : p.pending = none)
    (alike : l.Alike l') : l'.inOneScope.WellScoped anyOccurrence p := by
  have initializers := alike.initializer
  have notClass : ¬ IsClass (.statement l'.inOneScope) := not_isClass_block _
  rw [lowered_eq] at fits
  rw [wellScoped_inOneScope_iff]
  unfold inLoop
  generalize Node.statement l'.inOneScope = opener' at notClass ⊢
  generalize l.initializer = o at fits initializers
  generalize l'.initializer = o' at initializers ⊢
  cases initializers with
  | none =>
    -- The scope of the clauses is put in.
    exact ⟨nofun,
      .relocate fits ((Position.Akin.refl p).enter_right settled notClass) settled alike⟩
  | @some s s' initializer =>
    obtain ⟨first, loop⟩ := fits.parts
    have beside : (p.enter (.statement (.block [s, .loop l.tested l.passed])) []).Beside
        (p.enter opener' []) :=
      (Position.Akin.refl p).enter settled (List.forall_mem_nil _) notClass
    refine ⟨?_, .relocate loop ?_ ((Position.pending_add _).trans settled) alike⟩
    · rintro _ ⟨⟩
      exact first.relocate beside.toAkin settled (.inr beside) initializer
    · exact (beside.after initializer.declared?_eq fun _ => first.ordinary).toAkin

end ForClauses

end Lox
