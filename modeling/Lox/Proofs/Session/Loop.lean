import Lox.Proofs.Grammar.Clauses
import Lox.Proofs.Pair.Loop
import Lox.Proofs.Scope.Listing
import Lox.Proofs.Session.Graph
import Lox.Routine.Moment

/-!
# What `for` statements mean

A `for` statement is read as a loop in blocks. Wherever a session executes such a statement, it does
what its clauses mean in one new scope: the initializer is executed once, and then in each round the
condition, the body and the increment, all in this scope. The clauses then stand at other distances
from the declarations around them, so it is a copy of the clauses that is executed in one scope,
with distances of its own in the table.

## Main definitions

* `Evaluation.SameEnd`, `Evaluation.SameEnds`: ends of computations that began in the same state.
* `ForClauses.IsCopy`, `ForClauses.Resolved`: copies of clauses, and tables with their distances.
* `ForClauses.EndsDirectly`: what clauses mean, after any number of rounds.

## Main results

* `Session.same_ends_for`: a `for` statement in a session does what its clauses mean.
-/

namespace Lox

open Scope Evaluation World

/-! ### Ends -/

namespace Evaluation

variable {α β : Type}

/-- Ends of two computations that began with the same heap in the same frame. There is the same
fault, or there are related results; the same has been written, and the clock has been read as
often; both are back in the frame, and all variables and fields that there were have paired values.
Closures among these values share variables on one side if they do so on the other one, since each
frame belongs to one of the other side. -/
structure SameEnd (c : Pairing) (i : Interpreter) (Q : Scene → α → β → Prop) (σ : Scene)
    (ended : Except Fault α × Interpreter) (ended' : Except Fault β × Interpreter) : Prop where
  result : Agreed (Q σ) ended.1 ended'.1
  sink : ended'.2.sink = ended.2.sink
  clock : ended'.2.clock = ended.2.clock
  readings : ended'.2.readings = ended.2.readings
  depth : ended'.2.depth = ended.2.depth
  frame : ended.2.frame = i.frame
  frame' : ended'.2.frame = i.frame
  left : σ.left = ended.2.heap
  right : σ.right = ended'.2.heap
  sound : σ.Sound c
  binding : ∀ f < i.heap.frames.size, σ.frames f f ∧ ∀ x,
    Option.Rel (Value.Paired c σ) (ended.2.heap.binding? f x) (ended'.2.heap.binding? f x)
  field : ∀ a x,
    Option.Rel (Value.Paired c σ) (ended.2.heap.field? a x) (ended'.2.heap.field? a x)

/-- Each of two computations ends if the other one does, and they have the same ends. -/
structure SameEnds (c : Pairing) (i : Interpreter) (Q : Scene → α → β → Prop)
    (R : Except Fault α → Interpreter → Prop) (R' : Except Fault β → Interpreter → Prop) :
    Prop where
  right : ∀ outcome k, R outcome k → ∃ outcome' k' σ, R' outcome' k' ∧
    SameEnd c i Q σ (outcome, k) (outcome', k')
  left : ∀ outcome' k', R' outcome' k' → ∃ outcome k σ, R outcome k ∧
    SameEnd c i Q σ (outcome, k) (outcome', k')

variable {c : Pairing} {b : Pair c} {Q : Scene → α → β → Prop} {job : Eval α} {job' : Eval β}

/-- Results that are no `none` are related. -/
theorem exists_of_agreed_some {P : α → β → Prop} {r : Except Fault α}
    {r' : Except Fault (Option β)} (h : Agreed (Option.Rel P) (r.map some) r') :
    ∃ r₁, r' = r₁.map some ∧ Agreed P r r₁ := by
  cases r with
  | error e =>
    cases h with
    | error => exact ⟨.error e, rfl, .error e⟩
  | ok a =>
    cases h with
    | ok related =>
      cases related with
      | some related => exact ⟨.ok _, rfl, .ok related⟩

theorem exists_of_agreed_some' {P : α → β → Prop} {r : Except Fault (Option α)}
    {r' : Except Fault β} (h : Agreed (Option.Rel P) r (r'.map some)) :
    ∃ r₁, r = r₁.map some ∧ Agreed P r₁ r' := by
  cases r' with
  | error e =>
    cases h with
    | error => exact ⟨.error e, rfl, .error e⟩
  | ok a =>
    cases h with
    | ok related =>
      cases related with
      | some related => exact ⟨.ok _, rfl, .ok related⟩

/-- The states of a pair that begins in one state. -/
theorem sameEnd_of_outcome (frame : b.right.frame = b.left.frame)
    (frames : ∀ f < b.left.heap.frames.size, b.frames f f) {outcome : Except Fault α}
    {outcome' : Except Fault β} {k k' : Interpreter}
    (h : (company c).Outcome b (fun b' => Q b'.scene) (outcome, k) (outcome', k')) :
    ∃ σ, SameEnd c b.left Q σ (outcome, k) (outcome', k') := by
  have ends (b' : Pair c) (ahead : b.Ahead b') {outcome : Except Fault α}
      {outcome' : Except Fault β} (result : Agreed (Q b'.scene) outcome outcome') :
      SameEnd c b.left Q b'.scene (outcome, b'.left) (outcome', b'.right) := by
    refine ⟨result, b'.sink, b'.clock, b'.readings, b'.depth, ahead.frame,
      ahead.frame'.trans frame, rfl, rfl, b'.sound, fun f exists_ => ?_, b'.sound.field⟩
    have together : b'.frames f f := ahead.scene.frames f f (frames f exists_)
    exact ⟨together, b'.sound.binding f f together⟩
  cases h with
  | ok b' ahead related => exact ⟨b'.scene, ends b' ahead (.ok related)⟩
  | error e b' ahead => exact ⟨b'.scene, ends b' ahead (.error e)⟩

theorem Alongside.sameEnds (h : Alongside b (fun b' => Q b'.scene) job job')
    (frame : b.right.frame = b.left.frame)
    (frames : ∀ f < b.left.heap.frames.size, b.frames f f) :
    SameEnds c b.left Q (Ends job b.left) (Ends job' b.right) where
  right outcome k ended := by
    obtain ⟨outcome', k', ended', outcomes⟩ := h.right _ _ ended
    obtain ⟨σ, same⟩ := sameEnd_of_outcome frame frames outcomes
    exact ⟨outcome', k', σ, ended', same⟩
  left outcome' k' ended' := by
    obtain ⟨outcome, k, ended, outcomes⟩ := h.ends_left ended'
    obtain ⟨σ, same⟩ := sameEnd_of_outcome frame frames outcomes
    exact ⟨outcome, k, σ, ended, same⟩

end Evaluation

/-- Both states of a pair have the same frames, and code runs at the same place in them, where all
names are bound. -/
structure Pair.AtOnce {c : Pairing} (b : Pair c) (p : Position) : Prop
    extends b.Standing p p where
  located : b.left.heap.Located p b.left.frame
  frame : b.right.frame = b.left.frame
  frames : ∀ f < b.left.heap.frames.size, b.frames f f

/-! ### Clauses of their own -/

namespace ForClauses

variable {l l' : ForClauses} {c : Pairing} {i : Interpreter}

/-- Clauses that are the same but for their occurrences, which have new numbers. -/
def IsCopy (l l' : ForClauses) (lo : NodeId) : Prop :=
  l.Alike l' ∧ ∃ hi, Apart lo hi l'.inOneScope.ids

/-- The second state has the distances that the occurrences of the clauses have at a place, if all
clauses are in one scope. Else it is the first state. -/
def Resolved (l : ForClauses) (p : Position) (i i' : Interpreter) : Prop :=
  l.inOneScope.WellScoped (Recorded i'.distances) p ∧
    ∃ entries : List (NodeId × Nat), (∀ entry ∈ entries, entry.1 ∈ l.inOneScope.ids) ∧
      i' = i.recordDistances entries

/-- What the clauses mean ends, after some number of rounds. -/
def EndsDirectly (l : ForClauses) (i : Interpreter) (outcome : Except Fault Flow)
    (j : Interpreter) : Prop :=
  ∃ n, Ends (l.direct n) i (outcome.map some) j

theorem exists_isCopy (l : ForClauses) (lo : NodeId) : ∃ l', l.IsCopy l' lo := by
  obtain ⟨l', hi, -, apart, alike⟩ := l.copied lo
  exact ⟨l', alike, hi, apart⟩

/-- Clauses that fit a place in their blocks are resolved there in one scope. -/
theorem IsCopy.exists_resolved {p : Position} {known : Position → SiteKind → Occurrence → Prop}
    {lo : NodeId} (isCopy : l.IsCopy l' lo) (fits : l.lowered.WellScoped known p)
    (settled : p.pending = none) (isNew : ∀ id, lo ≤ id → i.distances[id]? = none) :
    ∃ i', l'.Resolved p i i' := by
  obtain ⟨alike, hi, apart⟩ := isCopy
  have fits' : l'.inOneScope.WellScoped anyOccurrence p := relocate fits settled alike
  obtain ⟨entries, own, recorded⟩ := fits'.listable.exists_recorded apart.distinct
    fun id mem => isNew id (apart.range id mem).1
  exact ⟨_, recorded, entries, own, rfl⟩

/-- Both readings of the clauses, up to a number of rounds. -/
theorem sameEnds_rounds {b : Pair c} {p : Position} (atOnce : b.AtOnce p) (alike : l.Alike l')
    (fits : l.lowered.WellScoped (Recorded c.table) p)
    (fits' : l'.inOneScope.WellScoped (Recorded c.table') p) (n : Nat) :
    SameEnds c b.left (fun σ => Option.Rel (Flow.Paired c σ)) (Ends (l.loweredRounds n) b.left)
      (Ends (l'.direct n) b.right) :=
  Alongside.sameEnds (Q := fun σ => Option.Rel (Flow.Paired c σ))
    (alongside_direct n atOnce.toStanding atOnce.located alike fits fits') atOnce.frame
    atOnce.frames

/-- Rounds that end the loop end the statement. -/
theorem sameEnds_lowered {i' : Interpreter}
    (h : ∀ n, SameEnds c i (fun σ => Option.Rel (Flow.Paired c σ)) (Ends (l.loweredRounds n) i)
      (Ends (l'.direct n) i')) :
    SameEnds c i (Flow.Paired c) (Ends (execute l.lowered) i) (l'.EndsDirectly i') where
  right outcome k ended := by
    obtain ⟨n, ended⟩ := ends_lowered_iff.1 ended
    obtain ⟨_, k', σ, ended', same⟩ := (h n).right _ _ ended
    obtain ⟨outcome', rfl, result⟩ := exists_of_agreed_some same.result
    exact ⟨outcome', k', σ, ⟨n, ended'⟩, { same with result := result }⟩
  left outcome' k' ended' := by
    obtain ⟨n, ended'⟩ := ended'
    obtain ⟨_, k, σ, ended, same⟩ := (h n).left _ _ ended'
    obtain ⟨outcome, rfl, result⟩ := exists_of_agreed_some' same.result
    exact ⟨outcome, k, σ, ends_lowered_iff.2 ⟨n, ended⟩, { same with result := result }⟩

end ForClauses

/-! ### In sessions -/

namespace Session

variable {past : List Execution} {i j s : Interpreter} {program : List Stmt} {source : String}
  {moves : Nat} {moment : Job.Moment Interpreter Fault Request Phase.Result Unit} {stmt : Stmt}

/-- Where a session executes a statement, the statement fits a place at which the frames bind the
names, and the state can stand beside itself, with more distances in the table of the second one. -/
theorem exists_standing (session : Session past i) (isLoaded : i.load source = (.ok program, j))
    (reached : Job.proceed step moves (Job.start (interpret program) j) = .error moment)
    (taken : moment.task? = some (executing stmt s)) :
    ∃ p : Position, stmt.WellScoped (Recorded s.distances) p ∧ p.pending = none ∧
      s.heap.Located p s.frame ∧ (∀ id, s.nextId ≤ id → s.distances[id]? = none) ∧
      ∀ entries : List (NodeId × Nat), (∀ entry ∈ entries, s.nextId ≤ entry.1) →
        ∃ b : Pair ⟨s.distances, (s.recordDistances entries).distances⟩, b.left = s ∧
          b.right = s.recordDistances entries ∧ b.AtOnce p := by
  have rooted : s.Rooted := session.rooted_of_taken isLoaded reached taken
  have arises : Execution.Arises ⟨program, j⟩ (executing stmt s) :=
    Routine.exists_moment_iff.1 ⟨moves, moment, reached, taken⟩
  have loads := Interpreter.loads_of_load isLoaded
  obtain ⟨frames, cells, k, ready⟩ := session.exists_ready
  obtain ⟨w, p, goal', -, -, related, -⟩ := (ready.load loads ∅).arises
    (fun task arises => ⟨_, List.mem_cons_self, arises⟩) loads.wellScoped arises
  cases related with
  | execute situation course visited wellScoped settled =>
  have coherent := situation.coherent
  have located := situation.around.located coherent.heap coherent.sound settled
  refine ⟨p, wellScoped.mono coherent.table, settled, located, fun id le => ?_,
    fun entries new => ?_⟩
  · exact coherent.unnumbered id (coherent.nextId ▸ le)
  have tabled : w.Tabled ⟨s.distances, (s.recordDistances entries).distances⟩ := by
    refine ⟨coherent.table, fun p kind o isKnown => ?_⟩
    refine (getElem?_foldl_insert_of_notMem (fun mem => ?_) _).trans
      (coherent.table p kind o isKnown)
    obtain ⟨entry, isEntry, isId⟩ := List.mem_map.1 mem
    have lt := coherent.numbered p kind o isKnown
    have le := new entry isEntry
    rw [isId, coherent.nextId] at le
    exact Nat.lt_irrefl _ (Nat.lt_of_lt_of_le lt le)
  have sound := sound_alone coherent rooted tabled
  exact ⟨Pair.alone sound s.nextId s.nextId, rfl, rfl, ⟨located.around, settled, settled⟩, located,
    rfl, fun f exists_ => ⟨rfl, exists_⟩⟩

/-- **What `for` statements mean.** Wherever a session executes a statement that was read from
tokens which begin with `for`, these are the tokens of clauses, any of which may be absent, and of a
body; the statement is the one that these stand for, and the table has the distances of its
occurrences at its place. Its clauses are then copied and resolved as they stand in one scope, which
is possible. Executed in this state, the statement has the same ends as what the clauses mean, and
has them after the same number of rounds. The rounds share the variable that the initializer
declares. -/
theorem same_ends_for (session : Session past i) (isLoaded : i.load source = (.ok program, j))
    (reached : Job.proceed step moves (Job.start (interpret program) j) = .error moment)
    (taken : moment.task? = some (executing stmt s)) {short : Bool} {t : Token} {ts : List Token}
    (derives : Grammar.Derives (.statement short) (t :: ts) stmt) (isFor : t.isKeyword .for_) :
    ∃ (l : ForClauses) (p : Position), l.Derived (t :: ts) ∧ stmt = l.lowered ∧
      stmt.WellScoped (Recorded s.distances) p ∧ s.heap.Located p s.frame ∧
      (∃ l' s', l.IsCopy l' s.nextId ∧ l'.Resolved p s s') ∧
      ∀ l' s', l.IsCopy l' s.nextId → l'.Resolved p s s' →
        SameEnds ⟨s.distances, s'.distances⟩ s (Flow.Paired ⟨s.distances, s'.distances⟩)
          (Ends (execute stmt) s) (l'.EndsDirectly s') ∧
        (∀ n, SameEnds ⟨s.distances, s'.distances⟩ s
          (fun σ => Option.Rel (Flow.Paired ⟨s.distances, s'.distances⟩ σ))
          (Ends (l.loweredRounds n) s) (Ends (l'.direct n) s')) ∧
        ∀ x, l'.initializer.bind Stmt.declared? = some x → (l'.inLoop p).distance? x = some 0 ∧
          ∀ n flow k, Ends (l'.inside n) s'.inScope (.ok flow) k →
            k.frame = s.heap.frames.size ∧
              (k.heap.binding? s.heap.frames.size x).isSome = true := by
  obtain ⟨l, derived, rfl⟩ := derives.exists_clauses isFor
  have rooted : s.Rooted := session.rooted_of_taken isLoaded reached taken
  obtain ⟨p, fits, settled, located, isNew, stands⟩ :=
    session.exists_standing isLoaded reached taken
  refine ⟨l, p, derived, rfl, fits, located, ?_, ?_⟩
  · obtain ⟨l', isCopy⟩ := l.exists_isCopy s.nextId
    obtain ⟨s', resolved⟩ := isCopy.exists_resolved fits settled isNew
    exact ⟨l', s', isCopy, resolved⟩
  rintro l' s' ⟨alike, hi, apart⟩ ⟨fits', entries, own, rfl⟩
  obtain ⟨b, isLeft, isRight, atOnce⟩ :=
    stands entries fun entry mem => (apart.range _ (own entry mem)).1
  have rounds := ForClauses.sameEnds_rounds atOnce alike fits fits'
  rw [isLeft, isRight] at rounds
  refine ⟨ForClauses.sameEnds_lowered rounds, rounds, fun x declares =>
    ⟨?_, fun n flow k ended => ?_⟩⟩
  · exact ForClauses.distance?_inLoop declares
  · have unchanged : s.Ahead (s.recordDistances entries) := rooted.unchanged rfl rfl
    exact ForClauses.shared_of_ends unchanged.rooted.inScope declares ended

/-- A loop of one round, which writes its variable. -/
theorem same_ends_for_once :
    let i := Interpreter.start .unlimited fun _ => .ok 0
    let t : Token := ⟨.keyword .for_, "for", 1⟩
    ∃ (stmt : Stmt) (j : Interpreter) (l l' : ForClauses) (s' k : Interpreter) (flow : Flow),
      i.load "for (var i = true; i; i = false) print i;" = (.ok [stmt], j) ∧ stmt = l.lowered ∧
      (∃ ts, l.Derived (t :: ts)) ∧ l.IsCopy l' j.nextId ∧ (∃ p, l'.Resolved p j s') ∧
      l'.EndsDirectly s' (.ok flow) k ∧ k.sink.written = "true\n".toUTF8 := by
  intro i t
  let name : Token := ⟨.identifier, "i", 1⟩
  let left : Token := ⟨.symbol .leftParen, "(", 1⟩
  let right : Token := ⟨.symbol .rightParen, ")", 1⟩
  let equal : Token := ⟨.symbol .equal, "=", 1⟩
  let semicolon : Token := ⟨.symbol .semicolon, ";", 1⟩
  let declared : List Token := name :: equal :: ([⟨.keyword .true_, "true", 1⟩] ++ [semicolon])
  let assigned : List Token := name :: equal :: [⟨.keyword .false_, "false", 1⟩]
  let printed : List Token := ⟨.keyword .print_, "print", 1⟩ :: ([name] ++ [semicolon])
  let ts : List Token := left :: (⟨.keyword .var_, "var", 1⟩ :: declared ++
    ([name] ++ semicolon :: (assigned ++ right :: printed)))
  let declaration : Stmt := .varDecl name (some (.literal (.boolean true) 1))
  let assignment : Expr := .assign ⟨2, name⟩ (.literal (.boolean false) 1)
  let body : Stmt := .print (.reference ⟨3, name⟩)
  let stmt : Stmt := .block [declaration, .loop (.reference ⟨0, name⟩)
    (.block [body, .expression assignment])]
  let j := (i.retabled 4 ∅).recordDistances [(0, 0), (3, 1), (2, 1)]
  have isTokens : tokenize "for (var i = true; i; i = false) print i;" =
      .ok (t :: ts ++ [⟨.endOfInput, "", 1⟩]) := by
    cbv
  have isLoaded : i.load "for (var i = true; i; i = false) print i;" = (.ok [stmt], j) :=
    Interpreter.load_eq isTokens rfl (by cbv)
  have whole {us : List Token} {e : Expr} (h : Grammar.Derives (.expression .primary) us e) :
      Grammar.Derives (.expression .whole) us e :=
    .value (.operand (.operand (.operand (.operand (.operand (.operand (.callee (.primary h))))))))
  have isDeclaration : Grammar.Derives .varDecl declared declaration :=
    .initialized rfl rfl (whole (.literal rfl)) rfl
  have isAssignment : Grammar.Derives (.expression .whole) assigned assignment :=
    @Grammar.Derives.assign ⟨2, name⟩ _ _ _ rfl rfl (whole (.literal rfl))
  have isBody : Grammar.Derives (.statement true) printed body :=
    .print rfl (whole (@Grammar.Derives.reference ⟨3, name⟩ rfl)) rfl
  have derives : Grammar.Derives (.statement true) (t :: ts) stmt :=
    .forLoop rfl rfl (.forVar rfl isDeclaration)
      (.present (whole (@Grammar.Derives.reference ⟨0, name⟩ rfl))) rfl (.present isAssignment) rfl
      isBody
  have writes : (Job.run step 40 (execute stmt) j).map
      (fun left => (left.1.isOk, left.2.sink.written.data)) =
        some (true, "true\n".toUTF8.data) := by
    decide +kernel
  obtain ⟨⟨outcome, k⟩, ended, isSame⟩ := Option.map_eq_some_iff.1 writes
  obtain ⟨isOk, isWritten⟩ := Prod.mk.inj isSame
  have reached : Job.proceed step 0 (Job.start (interpret [stmt]) j) =
      .error (Job.start (interpret [stmt]) j) := rfl
  obtain ⟨l, p, derived, isLowered, -, -, ⟨l', s', isCopy, resolved⟩, means⟩ :=
    same_ends_for (.start _ _) isLoaded reached rfl derives rfl
  obtain ⟨outcome', k', σ, ended', same⟩ :=
    (means l' s' isCopy resolved).1.right outcome k ⟨40, ended⟩
  have result := same.result
  cases result with
  | error => cases isOk
  | @ok flow flow' =>
    exact ⟨stmt, j, l, l', s', k', flow', isLoaded, isLowered, ⟨ts, derived⟩, isCopy, ⟨p, resolved⟩,
      ended', (congrArg Sink.written same.sink).trans (ByteArray.ext isWritten)⟩

end Session

end Lox
