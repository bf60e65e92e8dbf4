import Lox.Proofs.Grammar.Formed
import Lox.Proofs.Grammar.Soundness
import Lox.Proofs.Scope.Acceptance
import Lox.Proofs.Scope.Table
import Lox.Session
import Mathlib

/-!
# What loading a source leaves behind

Before a program runs, its source is cut into tokens, parsed, and bound to scopes. Of a session
these phases change the number of the next occurrence and the table of distances only, and in the
table only entries of occurrences that were numbered in between.

## Main definitions

* `Interpreter.retabled`: a session with another table.
* `Interpreter.Loads`: a source is read as a program that is ready to run.

## Main results

* `Interpreter.exists_load`: what loading leaves behind, whatever its outcome.
* `Interpreter.loads_of_load`: programs that are ready to run.
* `Interpreter.fault_notMem_of_load`: what loading reports.
-/

namespace Lox

open Scope

namespace Interpreter

/-- A session with another table and another number of the next occurrence. -/
def retabled (i : Interpreter) (nextId : NodeId) (distances : Std.TreeMap NodeId Nat) :
    Interpreter :=
  { i with nextId := nextId, distances := distances }

/-- Numbers are left out between the steps of a session. -/
theorem skip_eq_retabled (i : Interpreter) (count : Nat) :
    i.skip count = i.retabled (i.nextId + count) i.distances :=
  rfl

variable {i i' : Interpreter} {source : String} {program : List Stmt} {errors : List Diagnostic}

/-- Parsing uses up numbers, and numbers the occurrences of a program apart. -/
theorem exists_parse (i : Interpreter) (source : String) :
    ∃ n, i.nextId ≤ n ∧ (i.parse source).2 = i.retabled n i.distances ∧
      ∀ p, (i.parse source).1 = .ok p → Apart i.nextId n (siteIds p) ∧ ∀ s ∈ p, s.Formed := by
  unfold parse
  cases isTokens : tokenize source with
  | error errors => exact ⟨i.nextId, Nat.le_refl _, rfl, fun p isParsed => nomatch isParsed⟩
  | ok tokens =>
    refine ⟨_, nextId_le_parseProgram tokens i.nextId, rfl, fun p isParsed => ?_⟩
    have isParsed : ((parseProgram tokens i.nextId).1.mapError
        (·.map Diagnostic.grammatical)) = .ok p := isParsed
    have isParsed : (parseProgram tokens i.nextId).1 = .ok p := by
      cases isResult : (parseProgram tokens i.nextId).1 with
      | error errors =>
        rw [isResult] at isParsed
        cases isParsed
      | ok p' =>
        rw [isResult] at isParsed
        cases isParsed
        rfl
    obtain ⟨derives, apart⟩ := derives_of_parseProgram isParsed
    refine ⟨apart, derives.formed fun t mem => ?_⟩
    exact spelled_of_tokenize isTokens ((List.takeWhile_sublist _).subset mem)

/-- A source is read as a program that is ready to run: the program is accepted, its occurrences are
numbered apart, and the table has their distances. -/
structure Loads (i : Interpreter) (program : List Stmt) (i' : Interpreter) : Prop where
  accepted : Accepted program
  formed : ∀ s ∈ program, s.Formed
  exists_table : ∃ n, i.nextId ≤ n ∧ Apart i.nextId n (siteIds program) ∧
    i' = i.retabled n (i.recordDistances (analyse (programEvents program)).distances).distances

/-- Programs that are ready to run. -/
theorem loads_of_load (isLoaded : i.load source = (.ok program, i')) : i.Loads program i' := by
  obtain ⟨n, le, isState, isTree⟩ := i.exists_parse source
  unfold load at isLoaded
  rcases isParsed : i.parse source with ⟨result, j⟩
  rw [isParsed] at isState isTree isLoaded
  obtain rfl : j = _ := isState
  cases result with
  | error errors => cases isLoaded
  | ok p =>
    dsimp only at isLoaded
    obtain ⟨apart, formed⟩ := isTree p rfl
    cases isErrors : (analyse (programEvents p)).errors with
    | cons e es =>
      simp only [bindProgram, adopt, isErrors, List.map_cons] at isLoaded
      cases isLoaded
    | nil =>
      simp only [bindProgram, adopt, isErrors, List.map_nil] at isLoaded
      cases isLoaded
      exact ⟨isErrors, formed, n, le, apart, rfl⟩

/-- What loading leaves behind when none of its phases finds an error. -/
theorem load_eq {tokens : List Token} {n : NodeId} {distances : List (NodeId × Nat)}
    (isTokens : tokenize source = .ok tokens)
    (isProgram : parseProgram tokens i.nextId = (.ok program, n))
    (isVerdict : analyse (programEvents program) = ⟨[], distances⟩) :
    i.load source = (.ok program, (i.retabled n i.distances).recordDistances distances) := by
  have isParsed : i.parse source = (.ok program, i.retabled n i.distances) := by
    rw [parse, isTokens]
    dsimp only [parseTokens]
    rw [isProgram]
    rfl
  rw [load, isParsed]
  dsimp only
  rw [bindProgram, isVerdict]
  rfl

/-- A program that can be read leaves the state in which it was bound, whether it is accepted or
not. -/
theorem snd_load (isParsed : i.parse source = (.ok program, j)) :
    (i.load source).2 = (j.bindProgram program).2 := by
  rw [load, isParsed]
  dsimp only
  split <;> next isPair => rw [isPair]

/-- Loading changes the table only for occurrences that it numbers. -/
theorem exists_load (i : Interpreter) (source : String) :
    ∃ n table, i.nextId ≤ n ∧ (i.load source).2 = i.retabled n table ∧
      ∀ id, id < i.nextId ∨ n ≤ id → table[id]? = i.distances[id]? := by
  obtain ⟨n, le, isState, isTree⟩ := i.exists_parse source
  rcases isParsed : i.parse source with ⟨result, j⟩
  rw [isParsed] at isState isTree
  obtain rfl : j = _ := isState
  cases result with
  | error errors =>
    refine ⟨n, i.distances, le, ?_, fun _ _ => rfl⟩
    rw [load, isParsed]
  | ok p =>
    obtain ⟨apart, -⟩ := isTree p rfl
    refine ⟨n, _, le, snd_load isParsed, fun id outside => ?_⟩
    refine getElem?_recordDistances_of_notMem (fun mem => ?_) i
    obtain ⟨le', lt⟩ := apart.range id mem
    exact outside.elim (Nat.not_lt_of_le le') (Nat.not_le_of_lt lt)

theorem fault_notMem_map {α : Type} {f : α → Diagnostic} {fault : Fault}
    (differs : ∀ a, f a ≠ .fault fault) (l : List α) : .fault fault ∉ l.map f := by
  rw [List.mem_map]
  exact fun ⟨a, _, isFault⟩ => differs a isFault

/-- Parsing does not cause faults. -/
theorem fault_notMem_of_parse (isParsed : (i.parse source).1 = .error errors) (fault : Fault) :
    .fault fault ∉ errors := by
  have lexical (e : LexError) : Diagnostic.lexical e ≠ .fault fault := nofun
  have grammatical (e : SyntaxError) : Diagnostic.grammatical e ≠ .fault fault := nofun
  unfold parse at isParsed
  cases isTokens : tokenize source with
  | error errors' =>
    rw [isTokens] at isParsed
    rw [← Except.error.inj isParsed]
    exact fault_notMem_map lexical errors'
  | ok tokens =>
    rw [isTokens] at isParsed
    dsimp only [parseTokens] at isParsed
    cases isProgram : (parseProgram tokens i.nextId).1 with
    | ok p =>
      rw [isProgram] at isParsed
      cases isParsed
    | error errors' =>
      rw [isProgram] at isParsed
      rw [← Except.error.inj isParsed]
      exact fault_notMem_map grammatical errors'

/-- Loading does not cause faults. -/
theorem fault_notMem_of_load (isLoaded : i.load source = (.error errors, i')) (fault : Fault) :
    .fault fault ∉ errors := by
  have scoping (e : ScopeError) : Diagnostic.scoping e ≠ .fault fault := nofun
  unfold load at isLoaded
  rcases isParsed : i.parse source with ⟨result, j⟩
  rw [isParsed] at isLoaded
  cases result with
  | error errors' =>
    rw [← Except.error.inj (congrArg Prod.fst isLoaded)]
    exact fault_notMem_of_parse (congrArg Prod.fst isParsed) fault
  | ok p =>
    dsimp only [bindProgram, adopt] at isLoaded
    cases isErrors : (analyse (programEvents p)).errors with
    | nil =>
      rw [isErrors] at isLoaded
      cases isLoaded
    | cons e es =>
      rw [isErrors] at isLoaded
      rw [← Except.error.inj (congrArg Prod.fst isLoaded)]
      exact fault_notMem_map scoping (e :: es)

end Interpreter

end Lox
