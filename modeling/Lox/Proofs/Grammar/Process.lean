import Lox.Proofs.Grammar.Built
import Mathlib.Data.List.Forall2

/-!
# The numbers of a process

A process reads as many programs and expressions as it likes, and some of them may have errors. The
counter of occurrences is never set back: each parse begins where the one before it ended, whether
it had a result or not. So a number stands for one occurrence in one of the returned trees, and the
nodes of all of them are numbered in the order in which they were constructed.

## Main definitions

* `Sentence`, `Sentence.parse`: what may be read, and how.
* `Parsed`: a tree that was returned, with the tokens it was read from.
* `parseAll`: the trees that a sequence of parses returns.

## Main results

* `parseAll_numbered`: nodes of returned trees are numbered apart, in the order of construction.
-/

namespace Lox

open Grammar (Constructs)

/-- What may be read as a whole. -/
inductive Sentence where
  | program
  | expression

namespace Sentence

/-- The sort of phrases that is read. -/
def part : Sentence → Grammar.Part
  | .program => .statements
  | .expression => .expression

/-- Read tokens, with the number of the next occurrence. -/
def parse : (sentence : Sentence) → List Token → NodeId →
    Except (List SyntaxError) sentence.part.Tree × NodeId
  | .program => parseProgram
  | .expression => parseExpression

theorem nextId_le_parse (sentence : Sentence) (tokens : List Token) (nextId : NodeId) :
    nextId ≤ (sentence.parse tokens nextId).2 := by
  cases sentence with
  | program => exact nextId_le_parseProgram tokens nextId
  | expression => exact nextId_le_parseExpression tokens nextId

theorem constructs_of_parse {sentence : Sentence} {tokens : List Token} {nextId : NodeId}
    {tree : sentence.part.Tree} (h : (sentence.parse tokens nextId).1 = .ok tree) :
    ∃ log, Constructs sentence.part (readable tokens) tree log ∧
      Numbered nextId log (sentence.parse tokens nextId).2 := by
  cases sentence with
  | program => exact constructs_of_parseProgram h
  | expression => exact constructs_of_parseExpression h

end Sentence

/-- A tree that a parse returned. -/
structure Parsed where
  sentence : Sentence
  tokens : List Token
  tree : sentence.part.Tree

namespace Parsed

/-- The numbers of the occurrences in the tree, with their multiplicities. -/
def ids (parsed : Parsed) : List NodeId :=
  parsed.sentence.part.ids parsed.tree

/-- The tree was constructed out of its tokens, and the nodes of the log in this order. -/
def Constructed (parsed : Parsed) (log : List Occurrence) : Prop :=
  Constructs parsed.sentence.part (readable parsed.tokens) parsed.tree log

end Parsed

/-- The trees that one parse after the other returns, and the number of the next occurrence. A parse
that fails returns no tree, but it may have used up numbers. -/
def parseAll : List (Sentence × List Token) → NodeId → List Parsed × NodeId
  | [], nextId => ([], nextId)
  | (sentence, tokens) :: rest, nextId =>
    let (outcome, nextId) := sentence.parse tokens nextId
    let (later, last) := parseAll rest nextId
    match outcome with
    | .ok tree => (⟨sentence, tokens, tree⟩ :: later, last)
    | .error _ => (later, last)

/-- The numbers of what is constructed by and by ascend, within those that are used up. -/
theorem exists_logs_parseAll (work : List (Sentence × List Token)) (nextId : NodeId) :
    ∃ logs, List.Forall₂ Parsed.Constructed (parseAll work nextId).1 logs ∧
      (∀ log ∈ logs, ∃ lo hi, Numbered lo log hi) ∧
      (logs.flatten.map Occurrence.id).Pairwise (· < ·) ∧
      ∀ id ∈ logs.flatten.map Occurrence.id, nextId ≤ id := by
  induction work generalizing nextId with
  | nil => exact ⟨[], .nil, nofun, .nil, nofun⟩
  | cons first rest ih =>
    obtain ⟨sentence, tokens⟩ := first
    have le := sentence.nextId_le_parse tokens nextId
    obtain ⟨logs, constructed, numbered, ascending, above⟩ := ih (sentence.parse tokens nextId).2
    cases outcome : (sentence.parse tokens nextId).1 with
    | error errors =>
      refine ⟨logs, ?_, numbered, ascending, fun id mem => Nat.le_trans le (above id mem)⟩
      simpa only [parseAll, outcome] using constructed
    | ok tree =>
      obtain ⟨log, constructs, isNumbered⟩ := Sentence.constructs_of_parse outcome
      refine ⟨log :: logs, ?_, List.forall_mem_cons.2 ⟨⟨_, _, isNumbered⟩, numbered⟩, ?_, ?_⟩
      · simp only [parseAll, outcome]
        exact .cons constructs constructed
      · rw [List.flatten_cons, List.map_append, List.pairwise_append]
        exact ⟨isNumbered.ascending, ascending, fun id mem id' mem' =>
          Nat.lt_of_lt_of_le (isNumbered.range id mem).2 (above id' mem')⟩
      · rw [List.flatten_cons, List.map_append, List.forall_mem_append]
        exact ⟨fun id mem => (isNumbered.range id mem).1,
          fun id mem => Nat.le_trans le (above id mem)⟩

theorem ids_subperm_of_constructed {trees : List Parsed} {logs : List (List Occurrence)}
    (h : List.Forall₂ Parsed.Constructed trees logs) :
    (trees.flatMap Parsed.ids).Subperm (logs.flatten.map Occurrence.id) := by
  induction h with
  | nil => exact .refl []
  | cons constructed _ ih =>
    rw [List.flatMap_cons, List.flatten_cons, List.map_append]
    exact constructed.subperm.append ih

/-- However many programs and expressions a process reads, and whichever of them fail, the
occurrences in all trees that are returned have pairwise different numbers, so none occurs twice.
Every tree was constructed in an order in which the nodes got consecutive numbers, and the numbers
ascend from one tree to the next. -/
theorem parseAll_numbered (work : List (Sentence × List Token)) (nextId : NodeId) :
    ((parseAll work nextId).1.flatMap Parsed.ids).Nodup ∧
      ∃ logs, List.Forall₂ Parsed.Constructed (parseAll work nextId).1 logs ∧
        (∀ log ∈ logs, ∃ lo hi, Numbered lo log hi) ∧
        (logs.flatten.map Occurrence.id).Pairwise (· < ·) := by
  obtain ⟨logs, constructed, numbered, ascending, -⟩ := exists_logs_parseAll work nextId
  have distinct := ascending.imp fun lt => Nat.ne_of_lt lt
  obtain ⟨ids, perm, sublist⟩ := ids_subperm_of_constructed constructed
  exact ⟨perm.nodup_iff.1 (sublist.nodup distinct), logs, constructed, numbered, ascending⟩

end Lox
