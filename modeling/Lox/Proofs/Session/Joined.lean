import Lox.Proofs.Grammar.Sequence
import Lox.Proofs.Scope.Sequence
import Lox.Proofs.Session.Matched

/-!
# How a joined text is read

Two sources that are accepted are accepted when they are joined by a newline. The joined text is
read as the statements of the first and then those of the second, which begins on its own line of
the joined text. The distances of both are recorded before anything is executed; when the second
source is read on its own, after the first has run, its distances are recorded then.

## Main definitions

* `secondLine`: the line of the joined text on which the second source begins.
* `Interpreter.Accepts`: a source is read without an error.
* `Interpreter.Joins`: what the readings of two sources and of the joined text have in common.

## Main results

* `Interpreter.Accepts.exists_joins`: the joined text is read as both sources.
* `Interpreter.Joins.alike_first`, `Interpreter.Joins.alike_second`: the states before the first and
  before the second source are executed are the same up to labels, whether the text is joined or
  not.
-/

namespace Lox

open Scope

/-- The line on which a text begins behind the source `a` and a newline. -/
def secondLine (a : String) : Nat :=
  1 + a.toList.count '\n' + 1

namespace Interpreter

variable {i i' j : Interpreter} {a b : String} {c : Relabelling} {p q : List Stmt} {n n' : NodeId}

/-- A source is read without an error. -/
def Accepts (i : Interpreter) (source : String) : Prop :=
  ∃ p j, i.load source = (.ok p, j)

/-- A source that begins on some line is read as a program, whose occurrences are numbered apart. -/
structure ReadsAs (i : Interpreter) (line : Nat) (source : String) (p : List Stmt) (n : NodeId) :
    Prop where
  isRead : i.readFrom line source = (.ok p, i.adopted n p)
  le : i.nextId ≤ n
  apart : Apart i.nextId n (siteIds p)
  accepted : (analyse (programEvents p)).errors = []

/-- What the readings of two sources, and of the joined text, have in common. -/
structure Joins (i : Interpreter) (a b : String) (p q q' : List Stmt) (n n' : NodeId) : Prop where
  first : i.ReadsAs 1 a p n
  joined : i.ReadsAs 1 (a ++ "\n" ++ b) (q ++ q') n'
  alike : List.Forall₂ (Stmt.Alike .renumbering) p q
  second : ∀ k : Interpreter, ∃ r m, k.ReadsAs (secondLine a) b r m ∧
    List.Forall₂ (Stmt.Alike .renumbering) r q'

/-- Programs behind each other are accepted if both are. -/
theorem accepted_append (accepted : (analyse (programEvents p)).errors = [])
    (accepted' : (analyse (programEvents q)).errors = []) :
    (analyse (programEvents (p ++ q))).errors = [] := by
  rw [analyse_append]
  dsimp only
  rw [accepted, accepted', List.append_nil]

/-- Alike programs are accepted alike. -/
theorem accepted_alike (alike : List.Forall₂ (Stmt.Alike c) p q)
    (accepted : (analyse (programEvents p)).errors = []) :
    (analyse (programEvents q)).errors = [] := by
  have errors := (analyse_alike (programEvents_alike alike)).1
  rw [accepted] at errors
  exact List.forall₂_nil_left_iff.1 errors

/-- Tokens that are read as an accepted program. -/
theorem readsAs_of_tokens {line : Nat} {source : String} {tokens : List Token}
    (isTokens : tokenizeFrom line source = .ok tokens)
    (isProgram : (parseProgram tokens i.nextId).1 = .ok p)
    (accepted : (analyse (programEvents p)).errors = []) :
    i.ReadsAs line source p (parseProgram tokens i.nextId).2 where
  isRead := by
    unfold readFrom
    rw [isTokens]
    dsimp only
    rw [readTokens_of_ok isProgram, accepted]
  le := nextId_le_parseProgram tokens i.nextId
  apart := (derives_of_parseProgram isProgram).2
  accepted := accepted

/-- A source that is read without an error has tokens that are read as an accepted program. -/
theorem exists_tokens_of_accepts (accepts : i.Accepts a) :
    ∃ tokens p, tokenizeFrom 1 a = .ok tokens ∧ (parseProgram tokens i.nextId).1 = .ok p ∧
      (analyse (programEvents p)).errors = [] := by
  obtain ⟨p, j, isLoaded⟩ := accepts
  rw [load_eq_readFrom] at isLoaded
  unfold readFrom at isLoaded
  cases isTokens : tokenizeFrom 1 a with
  | error es =>
    rw [isTokens] at isLoaded
    cases isLoaded
  | ok tokens =>
    rw [isTokens] at isLoaded
    dsimp only at isLoaded
    cases isResult : (parseProgram tokens i.nextId).1 with
    | error es =>
      rw [readTokens_of_error isResult] at isLoaded
      cases isLoaded
    | ok p' =>
      rw [readTokens_of_ok isResult] at isLoaded
      cases isErrors : (analyse (programEvents p')).errors with
      | nil => exact ⟨tokens, p', rfl, isResult, isErrors⟩
      | cons e es =>
        rw [isErrors] at isLoaded
        cases isLoaded

/-- The tokens of a source that is accepted in one state are read as an accepted program in every
state, on whatever line the source begins. -/
theorem exists_readsAs_of_accepts (accepts : i.Accepts b) (m : Nat) :
    ∃ tokens, tokenizeFrom (1 + m) b = .ok tokens ∧ ∀ k : Interpreter,
      ∃ p, (parseProgram tokens k.nextId).1 = .ok p ∧ (analyse (programEvents p)).errors = [] := by
  obtain ⟨tokens, p, isTokens, isProgram, accepted⟩ := exists_tokens_of_accepts accepts
  obtain ⟨ts, isClosed, -⟩ := exists_tokenizeFrom isTokens
  have shifted := scansAlike_shift m 1 b
  rw [isTokens] at shifted
  generalize isTokens' : tokenizeFrom (1 + m) b = scanned at shifted
  cases shifted with
  | @ok _ tokens' shifted =>
    refine ⟨tokens', rfl, fun k => ?_⟩
    have parsed := parseProgram_alike shifted ⟨_, isClosed ▸ List.mem_concat_self, rfl⟩ i.nextId
      k.nextId
    rw [isProgram] at parsed
    generalize (parseProgram tokens' k.nextId).1 = result at parsed
    cases parsed with
    | @ok _ p' programs => exact ⟨p', rfl, accepted_alike programs accepted⟩

/-- The joined text is read as both sources. -/
theorem Accepts.exists_joins (accepts : i.Accepts a) (accepts' : i.Accepts b) :
    ∃ p q q' n n', i.Joins a b p q q' n n' := by
  obtain ⟨tokens, p, isTokens, isProgram, accepted⟩ := exists_tokens_of_accepts accepts
  obtain ⟨tokens', isTokens', reads⟩ :=
    exists_readsAs_of_accepts accepts' (a.toList.count '\n' + 1)
  obtain ⟨ts, rfl, inside⟩ := exists_tokenizeFrom isTokens
  obtain ⟨us, rfl, inside'⟩ := exists_tokenizeFrom isTokens'
  have isJoined := tokenizeFrom_joined isTokens isTokens'
  obtain ⟨p', isProgram', accepted'⟩ := reads i
  obtain ⟨q, q', isBoth, alike, alike'⟩ :=
    parseProgram_append inside rfl inside' rfl isProgram isProgram' i.nextId
  have acceptedBoth := accepted_append (accepted_alike alike accepted)
    (accepted_alike alike' accepted')
  refine ⟨p, q, q', _, _, readsAs_of_tokens isTokens isProgram accepted,
    readsAs_of_tokens isJoined isBoth acceptedBoth, alike, fun k => ?_⟩
  obtain ⟨r, isRest, acceptedRest⟩ := reads k
  -- The statements of the joined text do not depend on the state in which the second source is
  -- read.
  obtain ⟨s, s', isBoth', alikeFirst, alikeSecond⟩ :=
    parseProgram_append inside rfl inside' rfl isProgram isRest i.nextId
  have isSame : q ++ q' = s ++ s' := Except.ok.inj (isBoth.symm.trans isBoth')
  obtain ⟨-, rfl⟩ := List.append_inj isSame (alike.length_eq.symm.trans alikeFirst.length_eq)
  exact ⟨r, _, readsAs_of_tokens isTokens' isRest acceptedRest, alikeSecond⟩

theorem siteIds_append (p q : List Stmt) : siteIds (p ++ q) = siteIds p ++ siteIds q := by
  rw [siteIds, programEvents_append, idsOf_append]
  rfl

/-! ### States before the sources are executed -/

/-- The table of a state that has read two programs behind each other is that of reading one after
the other. -/
theorem distances_adopted_append (i : Interpreter) (n m : NodeId) (p q : List Stmt) :
    (i.adopted n (p ++ q)).distances = ((i.adopted m p).adopted n q).distances := by
  have isFold : (i.recordDistances (analyse (programEvents (p ++ q))).distances).distances =
      ((i.recordDistances (analyse (programEvents p)).distances).recordDistances
        (analyse (programEvents q)).distances).distances := by
    rw [analyse_append]
    exact List.foldl_append
  exact isFold

/-- One side reads a program that is alike a program whose distances the other side has recorded
before, on top of some table. -/
theorem Alike.adopt {w : Interpreter × Interpreter} (alike : i.Alike c w i')
    (table : Interpreter) (n' : NodeId)
    (known : ∀ x y, c.ids x y → x < i.nextId ∧ y ∉ siteIds q)
    (fresh : ∀ id, i.nextId ≤ id → i.distances[id]? = none)
    (programs : List.Forall₂ (Stmt.Alike (.ofLines c.lines)) p q)
    (apart : Apart i.nextId n (siteIds p)) (distinct : (siteIds q).Nodup)
    (new : ∀ y ∈ siteIds q, table.distances[y]? = none)
    (recorded : ∀ x y, (c.extend p q).ids x y →
      i'.distances[y]? = (table.adopted n' q).distances[y]?) :
    (i.adopted n p).Alike (c.extend p q) (i.adopted n p, i') i' := by
  have agree (x y : NodeId) (related : c.ids x y) :
      table.distances[y]? = i.distances[x]? := by
    have isRecorded := recorded x y (.inl related)
    rw [adopted, retabled, getElem?_recordDistances_of_notMem (known x y related).2] at isRecorded
    rw [← isRecorded, alike.distances x y related]
  have heap := alike.heap.mono (d := c.extend p q) Relabelling.le_extend
  refine ⟨heap, alike.frame, alike.depth, fun x y related => ?_, alike.sink, alike.clock,
    alike.readings, rfl, rfl, rfl, rfl, rfl⟩
  rw [recorded x y related]
  refine recordDistances_alike programs apart.distinct distinct agree ?_
    (fun x mem => fresh x (apart.range x mem).1) new related
  exact fun x y old => ⟨fun mem => Nat.not_lt_of_le (apart.range x mem).1 (known x y old).1,
    (known x y old).2⟩

namespace Joins

variable {q' : List Stmt} (joins : i.Joins a b p q q' n n') (self : Matching c i i)

include joins

theorem apart_append : Apart i.nextId n' (siteIds q ++ siteIds q') := by
  have apart := joins.joined.apart
  rw [siteIds_append] at apart
  exact apart

theorem notMem_second {y : NodeId} (mem : y ∈ siteIds q) : y ∉ siteIds q' := fun mem' =>
  (List.nodup_append.1 joins.apart_append.distinct).2.2 y mem y mem' rfl

theorem le_of_mem_first {y : NodeId} (mem : y ∈ siteIds q) : i.nextId ≤ y :=
  (joins.apart_append.range y (List.mem_append_left _ mem)).1

theorem le_of_mem_second {y : NodeId} (mem : y ∈ siteIds q') : i.nextId ≤ y :=
  (joins.apart_append.range y (List.mem_append_right _ mem)).1

include self

/-- No number that corresponds before the second source is read occurs in it. -/
theorem notMem_second_of_related {x y : NodeId} (related : (c.extend p q).ids x y) :
    y ∉ siteIds q' := by
  rcases related with old | pair
  · exact fun mem => Nat.not_lt_of_le (joins.le_of_mem_second mem) (self.known x y old).2
  · exact joins.notMem_second (List.of_mem_zip pair).2

/-- The states before the first source is executed. -/
theorem alike_first (isLines : c.lines = Eq) :
    (i.adopted n p).Alike (c.extend p q) (i.adopted n p, i.adopted n' (q ++ q'))
      (i.adopted n' (q ++ q')) := by
  have start := (self.retable (Nat.le_refl _) joins.joined.le (fun _ _ => rfl)
    (getElem?_adopted joins.joined.apart)).alike
  have programs : List.Forall₂ (Stmt.Alike (.ofLines c.lines)) p q := isLines ▸ joins.alike
  have distinct := (List.nodup_append.1 joins.apart_append.distinct).1
  refine Alike.adopt start i n' ?_ self.fresh programs joins.first.apart distinct ?_ ?_
  · exact fun x y old => ⟨(self.known x y old).1,
      fun mem => Nat.not_lt_of_le (joins.le_of_mem_first mem) (self.known x y old).2⟩
  · exact fun y mem => self.fresh y (joins.le_of_mem_first mem)
  · intro x y related
    rw [i.distances_adopted_append n' n']
    exact getElem?_recordDistances_of_notMem (joins.notMem_second_of_related self related) _

/-- The states before the second source is executed: it is read now, or was read with the first. -/
theorem alike_second (isLines : c.lines = Eq) {k k' : Interpreter} {r : List Stmt} {m : NodeId}
    (alike : k.Alike (c.extend p q) (i.adopted n p, i.adopted n' (q ++ q')) k')
    (reads : k.ReadsAs (secondLine a) b r m)
    (programs : List.Forall₂ (Stmt.Alike .renumbering) r q') :
    (k.adopted m r).Alike ((c.extend p q).extend r q') (k.adopted m r, k') k' := by
  have programs' : List.Forall₂ (Stmt.Alike (.ofLines (c.extend p q).lines)) r q' :=
    isLines ▸ programs
  have distinct := (List.nodup_append.1 joins.apart_append.distinct).2.1
  refine Alike.adopt alike (i.adopted n' q) n' ?_ ?_ programs' reads.apart distinct ?_ ?_
  · intro x y related
    rw [alike.nextId]
    refine ⟨?_, joins.notMem_second_of_related self related⟩
    rcases related with old | pair
    · exact Nat.lt_of_lt_of_le (self.known x y old).1 joins.first.le
    · exact (joins.first.apart.range x (List.of_mem_zip pair).1).2
  · intro id ge
    rw [alike.nextId] at ge
    rw [alike.table]
    exact (getElem?_adopted joins.first.apart id (.inr ge)).trans
      (self.fresh id (Nat.le_trans joins.first.le ge))
  · intro y mem
    have other : y ∉ siteIds q := fun mem' => joins.notMem_second mem' mem
    exact (getElem?_recordDistances_of_notMem other i).trans
      (self.fresh y (joins.le_of_mem_second mem))
  · intro x y _
    rw [alike.table']
    dsimp only
    rw [i.distances_adopted_append n' n']

end Joins

end Interpreter

end Lox
