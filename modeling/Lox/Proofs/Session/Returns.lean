import Lox.Proofs.Evaluation.Delivery
import Lox.Proofs.Evaluation.Unwinding
import Lox.Proofs.Scope.Verdict

/-!
# Returning from calls

A `return` statement ends the statements around it, up to the body of the innermost call in
progress, and that call takes its value. An accepted program has no `return` statement outside the
functions in it, so none of its own statements returns a value, whatever the state in which they are
executed.

## Main results

* `Scope.not_holds_return`: accepted programs have no `return` statement outside functions.
* `Evaluation.not_returned_of_accepted`: the statements of accepted programs do not return values.
* `Evaluation.return_unwinds`: all that a `return` statement does.
-/

namespace Lox

open Scope

/-! ### Statements in accepted programs -/

section

variable {p : Surroundings} {s s' : Stmt}

/-- The constructs of a statement in a list are among those of the list. -/
theorem Stmt.exists_constructs_of_mem {ss : List Stmt} (mem : s ∈ ss) :
    ∃ q : Surroundings, q.roles = p.roles ∧ s.constructs q ⊆ Stmt.allConstructs p ss := by
  induction ss generalizing p with
  | nil => cases mem
  | cons first ss ih =>
    rw [Stmt.allConstructs]
    rcases List.mem_cons.1 mem with rfl | mem
    · exact ⟨p, rfl, List.subset_append_left _ _⟩
    · obtain ⟨q, roles, subset⟩ := ih mem (p := p.past first)
      exact ⟨q, roles.trans Surroundings.roles_past, List.subset_append_of_subset_right _ subset⟩

/-- The constructs of a statement inside another one are among those of the other one, in the same
function. -/
theorem Stmt.Holds.exists_constructs (h : s.Holds s') (p : Surroundings) :
    ∃ q : Surroundings, q.roles = p.roles ∧ s'.constructs q ⊆ s.constructs p := by
  have isPlace : (p.past s).roles = p.roles := Surroundings.roles_past
  cases h with
  | @block body _ mem =>
    obtain ⟨q, roles, subset⟩ :=
      Stmt.exists_constructs_of_mem (p := (p.past (.block body)).enter .block) mem
    refine ⟨q, roles.trans isPlace, List.subset_cons_of_subset _ ?_⟩
    rw [Stmt.inner]
    exact subset
  | branch h =>
    refine ⟨p.past s, isPlace, List.subset_cons_of_subset _ ?_⟩
    cases h with
    | thenBranch =>
      rw [Stmt.inner]
      exact List.subset_append_of_subset_right _ (List.subset_append_left _ _)
    | elseBranch =>
      rw [Stmt.inner, Stmt.optionConstructs]
      exact List.subset_append_of_subset_right _ (List.subset_append_right _ _)
    | loop =>
      rw [Stmt.inner]
      exact List.subset_append_right _ _

/-- A statement inside another one is among the constructs of that, in the same function. -/
theorem Stmt.exists_place_of_holds (h : Relation.ReflTransGen Stmt.Holds s s') (p : Surroundings) :
    ∃ q : Surroundings, q.roles = p.roles ∧ (q, .statement s') ∈ s.constructs p := by
  induction h using Relation.ReflTransGen.head_induction_on generalizing p with
  | refl => exact ⟨p, rfl, List.mem_cons_self⟩
  | head first _ ih =>
    obtain ⟨q, roles, subset⟩ := first.exists_constructs p
    obtain ⟨q', roles', mem⟩ := ih q
    exact ⟨q', roles'.trans roles, subset mem⟩

end

section

variable {tokens : List Token} {n : NodeId} {program : List Stmt} {i : Interpreter}

/-- An accepted program has no `return` statement outside the functions in it. -/
theorem Scope.not_holds_return (isParsed : (parseProgram tokens n).1 = .ok program)
    (accepted : (i.bindProgram program).1 = []) {s : Stmt} (mem : s ∈ program) {keyword : Token}
    {value : Option Expr} : ¬ Relation.ReflTransGen Stmt.Holds s (.ret keyword value) := by
  intro holds
  obtain ⟨p, roles, subset⟩ := Stmt.exists_constructs_of_mem (p := []) mem
  obtain ⟨q, roles', mem⟩ := Stmt.exists_place_of_holds holds p
  have isRole : q.role? = none := by
    rw [Surroundings.role?_eq, roles', roles]
    rfl
  have noViolation := (accepted_iff isParsed i).1 accepted _ (subset mem)
  have isViolation : misplacedReturn? q (.statement (.ret keyword value)) =
      some ⟨keyword, .returnOutsideFunction⟩ := by
    simp only [misplacedReturn?, isRole]
  simp [violations, isViolation] at noViolation

namespace Evaluation

/-- The statements of an accepted program do not return values. -/
theorem not_returned_of_accepted (isParsed : (parseProgram tokens n).1 = .ok program)
    (accepted : (i.bindProgram program).1 = []) {j k : Interpreter} {v : Value} :
    ¬ Ends (executeAll program) j (.ok (.returned v)) k := by
  intro ended
  obtain ⟨m, returned⟩ := ends_iff.1 ended
  obtain ⟨s, mem, t, -, answered⟩ := executeAll_returned returned
  obtain ⟨keyword, value, t', u, unwinds, -, -⟩ := exists_return answered
  exact not_holds_return isParsed accepted mem (holds_of_unwinds unwinds)

/-- A statement that returns a value has a `return` statement in it, outside the functions and
classes that are declared there. Its execution is over with that of the `return` statement, which
gives the value, and only its frame is put back then. In whatever run this happens, the statements
around return the value too, up to the innermost call in progress, and that ends with it. So the
statements of an accepted program do not return values, in whatever state they are executed. -/
theorem return_unwinds :
    (∀ (s : Stmt) (i j : Interpreter) (v : Value), Ends (execute s) i (.ok (.returned v)) j →
      ∃ keyword value t u, Relation.ReflTransGen Stmt.Holds s (.ret keyword value) ∧
        Relation.ReflTransGen Unwinds (executing s i) (executing (.ret keyword value) t) ∧
        Gives value v t u ∧ j = { u with frame := i.frame }) ∧
    (∀ (α : Type) (r : Routine Goal Answer α) (outer : List Task) (s : Stmt) (i j : Interpreter)
      (v : Value), Routine.Nested body r outer (executing s i) →
        Ends (execute s) i (.ok (.returned v)) j → Delivered v outer (executing s i)) ∧
    ∀ (tokens : List Token) (n : NodeId) (program : List Stmt) (k i j : Interpreter) (v : Value),
      (parseProgram tokens n).1 = .ok program → (k.bindProgram program).1 = [] →
        ¬ Ends (executeAll program) i (.ok (.returned v)) j := by
  refine ⟨fun s i j v ended => ?_, fun α r outer s i j v nested ended => ?_,
    fun tokens n program k i j v isParsed accepted => not_returned_of_accepted isParsed accepted⟩
  · obtain ⟨m, answered⟩ := ends_ask_iff_answers.1 ended
    obtain ⟨keyword, value, t, u, unwinds, gives, left⟩ := exists_return answered
    exact ⟨keyword, value, t, u, holds_of_unwinds unwinds, unwinds, gives, left⟩
  · exact delivered_of_nested nested ended

/-- The first round of a loop returns a value to the call of the function in whose body the loop
is. -/
theorem return_unwinds_loop :
    let keyword : Token := ⟨.keyword .return_, "return", 1⟩
    let s : Stmt := .loop (.literal (.boolean true) 1)
      (.block [.ret keyword (some (.literal (.boolean false) 1)), .print (.literal .nil 1)])
    let f : Value := .function 0 ⟨⟨⟨.identifier, "f", 1⟩, [], [s]⟩, globalFrame, false⟩
    let i := Interpreter.start .unlimited fun _ => .ok 0
    let i' := { (i.newFrame globalFrame ∅).2 with frame := 1, depth := 1 }
    (∃ j, Ends (execute s) i' (.ok (.returned (.boolean false))) j ∧
      ∃ keyword value, Relation.ReflTransGen Stmt.Holds s (.ret keyword value)) ∧
    Delivered (.boolean false) [calling f [] 1 i] (executing s i') ∧
    ∀ v j, ¬ Ends (executeAll [.print (.literal .nil 1)]) i' (.ok (.returned v)) j := by
  intro keyword s f i i'
  obtain ⟨j, ended⟩ : ∃ j, Ends (execute s) i' (.ok (.returned (.boolean false))) j :=
    ⟨_, ⟨30, rfl⟩⟩
  have called : Routine.Nested body (Evaluation.call f [] 1 i) [] (calling f [] 1 i) :=
    .first ⟨_, .refl⟩
  have nested : Routine.Nested body (Evaluation.call f [] 1 i) [calling f [] 1 i]
      (executing s i') := .request called ⟨_, .refl⟩
  have isParsed : (parseProgram [⟨.keyword .print_, "print", 1⟩, ⟨.keyword .nil_, "nil", 1⟩,
      ⟨.symbol .semicolon, ";", 1⟩, ⟨.endOfInput, "", 1⟩] 0).1 =
        .ok [.print (.literal .nil 1)] := rfl
  obtain ⟨keyword, value, -, -, holds, -, -, -⟩ := return_unwinds.1 s i' j _ ended
  refine ⟨⟨j, ended, keyword, value, holds⟩, ?_, fun v j => ?_⟩
  · exact return_unwinds.2.1 _ _ _ s i' j _ nested ended
  · exact return_unwinds.2.2 _ 0 _ i i' j v isParsed (by cbv)

end Evaluation

end

end Lox
