import Lox.Proofs.Lexical.Agreement
import Lox.Proofs.Session.Loading
import Mathlib.Data.List.Pairwise

/-!
# Sessions

A session is a sequence of runs of sources on one interpreter, each with any outcome. What can be
said about a state that a session has reached refers to all programs that were executed so far:
functions of theirs may still be called, and frames that they made may still be in use.

## Main definitions

* `Execution`: a program that was executed, and the state in which it began.
* `Session`: the states that sessions reach, with the executions so far.
* `Arose`, `Scope.Read`: the goals that came up, and the occurrences of names that were read.

## Main results

* `Session.exists_ready`: states that sessions reach are related to states of the lexical evaluator.
* `Session.visit_unique`: an occurrence of a name is visited once in all programs of a session.
-/

namespace Lox

open Scope Evaluation

/-- A program that was executed, and the state in which it began. -/
structure Execution where
  program : List Stmt
  state : Interpreter

/-- A goal comes up in an execution. -/
def Execution.Arises (e : Execution) (task : Task) : Prop :=
  Routine.Arises body (interpret e.program e.state) task

/-- A goal came up in one of some executions. -/
def Arose (past : List Execution) (task : Task) : Prop :=
  ∃ e ∈ past, e.Arises task

/-- An occurrence of a name is visited at a place of one of some programs. -/
def Scope.Read (past : List Execution) (p : Position) (kind : SiteKind) (o : Occurrence) : Prop :=
  ∃ e ∈ past, Charted e.program p kind o

/-- What is executed when a source is run. -/
def Interpreter.executions (i : Interpreter) (source : String) : List Execution :=
  match i.load source with
  | (.ok program, i) => [⟨program, i⟩]
  | (.error _, _) => []

/-- The states that sessions reach, with the executions so far, the last one first. Between two runs
numbers of occurrences may be left out, also before the first one. -/
inductive Session : List Execution → Interpreter → Prop
  | start (sink : Sink) (clock : Clock) : Session [] (.start sink clock)
  | run {past : List Execution} {i i' : Interpreter} {moves : Nat} {source : String}
      {errors : List Diagnostic} (before : Session past i)
      (ended : i.run moves source = some (errors, i')) : Session (i.executions source ++ past) i'
  | skip {past : List Execution} {i : Interpreter} (before : Session past i) (count : Nat) :
      Session past (i.skip count)

variable {past : List Execution} {e : Execution} {i i' j j' : Interpreter} {program : List Stmt}
  {source : String} {moves : Nat} {errors : List Diagnostic} {task task' : Task}

/-! ### Goals that came up -/

theorem Execution.Arises.begets (h : e.Arises task) (begets : Routine.Begets body task task') :
    e.Arises task' :=
  Routine.Arises.begets h begets

theorem Arose.begets (h : Arose past task) (begets : Routine.Begets body task task') :
    Arose past task' := by
  obtain ⟨e, mem, arises⟩ := h
  exact ⟨e, mem, arises.begets begets⟩

/-! ### Runs -/

/-- A run of a source that is rejected only loads it; otherwise the loaded program is executed. -/
theorem Interpreter.run_cases (ended : i.run moves source = some (errors, i')) :
    (i.load source = (.error errors, i') ∧ i.executions source = []) ∨
      ∃ program j outcome, i.load source = (.ok program, j) ∧
        i.executions source = [⟨program, j⟩] ∧
        Job.run step moves (interpret program) j = some (outcome, i') ∧
        errors = match outcome with
          | .ok _ => []
          | .error fault => [.fault fault] := by
  unfold Interpreter.run at ended
  unfold Interpreter.executions
  rcases isLoaded : i.load source with ⟨result, j⟩
  rw [isLoaded] at ended
  cases result with
  | error errors' =>
    cases ended
    exact .inl ⟨rfl, rfl⟩
  | ok program =>
    obtain ⟨⟨outcome, t⟩, isRun, isOutcome⟩ := Option.map_eq_some_iff.1 ended
    refine .inr ⟨program, j, outcome, rfl, rfl, ?_⟩
    cases outcome with
    | ok _ =>
      cases isOutcome
      exact ⟨isRun, rfl⟩
    | error fault =>
      cases isOutcome
      exact ⟨isRun, rfl⟩

/-! ### Related states of sessions -/

namespace World

variable {w : World} {frames : List Origin} {cells : List Cell} {n n' : NodeId}

/-- The world of a session: frames of both evaluators, the number of the next occurrence, and all
that was read and came up. -/
def of (frames : List Origin) (cells : List Cell) (n : NodeId) (past : List Execution) : World :=
  ⟨frames, cells, n, Read past, Arose past⟩

theorem eq_of (nextId : w.nextId = n) (known : w.known = Read past)
    (visited : w.visited = Arose past) : w = of w.frames w.cells n past := by
  rw [of, ← nextId, ← known, ← visited]

theorem of_le (e : Execution) :
    LE (of frames cells n past) (of frames cells n' (e :: past)) where
  frames := List.prefix_rfl
  cells := List.prefix_rfl
  known := fun _ _ _ ⟨e', mem, charted⟩ => ⟨e', List.mem_cons_of_mem _ mem, charted⟩
  visited := fun _ ⟨e', mem, arises⟩ => ⟨e', List.mem_cons_of_mem _ mem, arises⟩

/-- The world of a new session: the global frames. -/
def first : World :=
  of [⟨none, none, none⟩] [⟨globalFrame, none, none⟩] 0 []

theorem eq_of_getElem?_singleton {α : Type} {a b : α} {n : Nat} (found : [a][n]? = some b) :
    n = 0 ∧ b = a := by
  cases n with
  | zero => exact ⟨rfl, (Option.some.inj found).symm⟩
  | succ n => cases found

/-- The only cell of the first world is of no single name. -/
theorem name_of_first {g : FrameId} {cell : Cell} (found : first.cells[g]? = some cell) :
    cell.name = none := by
  rw [(eq_of_getElem?_singleton found).2]

theorem sound_first : first.Sound where
  root := rfl
  rootCell := rfl
  owner_lt g cell found := by
    rw [(eq_of_getElem?_singleton found).2]
    exact Nat.one_pos
  local_ g cell x found named := by
    rw [name_of_first found] at named
    cases named
  single g g' cell cell' x found _ _ named := by
    rw [name_of_first found] at named
    cases named
  closed := by
    rintro _ _ ⟨_, mem, -⟩
    cases mem

/-- A new heap binds the clock, and only globally. -/
theorem sameHeap_start (sink : Sink) (clock : Clock) :
    SameHeap first (Interpreter.start sink clock).heap (Interpreter.start sink clock).heap := by
  have isFrame (f : FrameId) (x : String) (v : Value)
      (isValue : (Interpreter.start sink clock).heap.binding? f x = some v) : f = globalFrame := by
    obtain ⟨frame, found, -⟩ := Option.bind_eq_some_iff.1 isValue
    exact Nat.lt_one_iff.1 (Array.getElem?_eq_some_iff.1 found).1
  constructor
  case size => rfl
  case size' => rfl
  case parent =>
    intro f origin found
    obtain ⟨rfl, rfl⟩ := eq_of_getElem?_singleton found
    rfl
  case parent' =>
    intro g cell found
    obtain ⟨rfl, rfl⟩ := eq_of_getElem?_singleton found
    rfl
  case bound =>
    intro g cell x found named
    rw [name_of_first found] at named
    cases named
  case only => exact fun f x v isLocal isValue => absurd (isFrame f x v isValue) isLocal
  case only' => exact fun f x v isLocal isValue => absurd (isFrame f x v isValue) isLocal
  case globals =>
    intro x
    have isValue : (Interpreter.start sink clock).heap.binding? globalFrame x =
        ((∅ : Bindings).insert "clock" .clock)[x]? := rfl
    rw [isValue, Std.TreeMap.getElem?_insert]
    split
    · exact .some .clock
    · rw [Std.TreeMap.getElem?_emptyc]
      exact .none
  case fieldsSize => rfl
  case fields => exact fun address x => .none
  case identity => rfl

/-- A new session is related to itself. -/
theorem ready_start (sink : Sink) (clock : Clock) :
    Ready first (.start sink clock) (.start sink clock) := by
  refine ⟨⟨sound_first, sameHeap_start sink clock, ?_, ?_, ?_, rfl, rfl, rfl, rfl, rfl, rfl⟩, rfl,
    rfl⟩
  · rintro p kind o ⟨_, mem, -⟩
    cases mem
  · rintro p kind o ⟨_, mem, -⟩
    cases mem
  · exact fun id _ => Std.TreeMap.getElem?_emptyc

/-- States stay related when only the table changes, and only for numbers that are new. -/
theorem Ready.retable (ready : Ready (of frames cells n past) i j)
    {table : Std.TreeMap NodeId Nat} (table' : Std.TreeMap NodeId Nat) (le : n ≤ n')
    (stays : ∀ id, id < n ∨ n' ≤ id → table[id]? = i.distances[id]?) :
    Ready (of frames cells n' past) (i.retabled n' table) (j.retabled n' table') := by
  obtain ⟨coherent, frame, frame'⟩ := ready
  have sound := coherent.sound
  have le' : LE (of frames cells n past) (of frames cells n' past) :=
    ⟨List.prefix_rfl, List.prefix_rfl, fun _ _ _ isKnown => isKnown, fun _ arose => arose⟩
  refine ⟨{ coherent with
    sound := ⟨sound.root, sound.rootCell, sound.owner_lt, sound.local_, sound.single, sound.closed⟩
    heap := coherent.heap.mono le' rfl rfl
    table := fun p kind o isKnown => ?_
    numbered := fun p kind o isKnown => ?_
    unnumbered := fun id ge => ?_
    nextId := rfl
    nextId' := rfl }, frame, frame'⟩
  · exact (stays o.id (.inl (coherent.numbered p kind o isKnown))).trans
      (coherent.table p kind o isKnown)
  · exact Nat.lt_of_lt_of_le (coherent.numbered p kind o isKnown) le
  · exact (stays id (.inr ge)).trans (coherent.unnumbered id (Nat.le_trans le ge))

/-- States stay related when numbers are left out in both of them. -/
theorem Ready.skip (ready : Ready (of frames cells i.nextId past) i j) (count : Nat) :
    Ready (of frames cells (i.skip count).nextId past) (i.skip count) (j.skip count) := by
  have isNext : j.nextId = i.nextId := ready.coherent.nextId'
  rw [j.skip_eq_retabled, isNext]
  exact ready.retable j.distances (Nat.le_add_right _ _) fun _ _ => rfl

/-- States are related before the execution of a program that has been loaded. -/
theorem Ready.load (ready : Ready (of frames cells i.nextId past) i j)
    (loads : i.Loads program i') (table' : Std.TreeMap NodeId Nat) :
    Ready (of frames cells i'.nextId (⟨program, i'⟩ :: past)) i'
      (j.retabled i'.nextId table') := by
  obtain ⟨n, le, apart, rfl⟩ := loads.exists_table
  have unnumbered := ready.coherent.unnumbered
  have stays (id : NodeId) (outside : id < i.nextId ∨ n ≤ id) :
      (i.recordDistances (analyse (programEvents program)).distances).distances[id]? =
        i.distances[id]? := by
    refine getElem?_recordDistances_of_notMem (fun mem => ?_) i
    obtain ⟨le', lt⟩ := apart.range id mem
    exact outside.elim (Nat.not_lt_of_le le') (Nat.not_le_of_lt lt)
  obtain ⟨coherent, frame, frame'⟩ := ready.retable table' le stays
  have sound := coherent.sound
  refine ⟨{ coherent with
    sound := ⟨sound.root, sound.rootCell, sound.owner_lt, sound.local_, sound.single,
      fun _ _ => Arose.begets⟩
    heap := coherent.heap.mono (of_le _) rfl rfl
    table := fun p kind o isKnown => ?_
    numbered := fun p kind o isKnown => ?_ }, frame, frame'⟩
  · obtain ⟨e, mem, charted⟩ := isKnown
    rcases List.mem_cons.1 mem with rfl | old
    · obtain ⟨ready, r, visit, mirrors, -⟩ := charted
      exact (getElem?_recordDistances apart loads.accepted visit unnumbered).trans
        (mirrors.distance?_eq _)
    · exact coherent.table p kind o ⟨e, old, charted⟩
  · obtain ⟨e, mem, charted⟩ := isKnown
    rcases List.mem_cons.1 mem with rfl | old
    · obtain ⟨ready, r, visit, -⟩ := charted
      exact (apart.range _ visit.mem_siteIds).2
    · exact coherent.numbered p kind o ⟨e, old, charted⟩

end World

open World

/-- The program of an execution fits the top level. -/
theorem Interpreter.Loads.wellScoped (loads : i.Loads program i') :
    Stmt.AllWellScoped (Read (⟨program, i'⟩ :: past)) .top program :=
  (wellScoped_of_accepted loads.accepted loads.formed).mono fun _ _ _ charted =>
    ⟨_, List.mem_cons_self, charted⟩

/-- A state that a session reaches is related to a state of the lexical evaluator. -/
theorem Session.exists_ready (session : Session past i) :
    ∃ frames cells j, Ready (of frames cells i.nextId past) i j := by
  induction session with
  | start sink clock => exact ⟨_, _, _, ready_start sink clock⟩
  | @run past i i' moves source errors _ ended ih =>
    obtain ⟨frames, cells, j, ready⟩ := ih
    rcases i.run_cases ended with ⟨isLoaded, noExecution⟩ |
      ⟨program, k, outcome, isLoaded, isExecution, isRun, -⟩
    · obtain ⟨n, table, le, isState, stays⟩ := i.exists_load source
      rw [isLoaded] at isState
      obtain rfl : i' = _ := isState
      rw [noExecution]
      exact ⟨frames, cells, _, ready.retable ∅ le stays⟩
    · have loads := Interpreter.loads_of_load isLoaded
      have ready' := ready.load loads ∅
      rw [isExecution]
      rcases ready'.interpret (fun task arises => ⟨_, List.mem_cons_self, arises⟩) loads.wellScoped
          isRun with ⟨_, -, -, w, t, grown, later⟩ | ⟨-, -, w, t, grown, later, -⟩
      · exact ⟨_, _, t, eq_of later.coherent.nextId.symm grown.known grown.visited ▸ later⟩
      · exact ⟨_, _, t, eq_of later.coherent.nextId.symm grown.known grown.visited ▸ later⟩
  | skip _ count ih =>
    obtain ⟨frames, cells, j, ready⟩ := ih
    exact ⟨frames, cells, _, ready.skip count⟩

/-- The evaluation does not number occurrences. -/
theorem Session.nextId_eq (session : Session past i) (isLoaded : i.load source = (.ok program, j))
    {outcome : Except Fault Unit}
    (isRun : Job.run step moves (interpret program) j = some (outcome, i')) :
    i'.nextId = j.nextId := by
  obtain ⟨frames, cells, k, ready⟩ := session.exists_ready
  have loads := Interpreter.loads_of_load isLoaded
  rcases (ready.load loads ∅).interpret (fun task arises => ⟨_, List.mem_cons_self, arises⟩)
      loads.wellScoped isRun with ⟨_, -, -, w, t, grown, later⟩ | ⟨-, -, w, t, grown, later, -⟩
  · exact later.coherent.nextId.trans grown.nextId
  · exact later.coherent.nextId.trans grown.nextId

/-! ### Occurrences in all programs of a session -/

/-- The programs of a session number their occurrences apart. -/
theorem Session.apart (session : Session past i) :
    (past.Pairwise fun e e' => ∀ id ∈ siteIds e.program, id ∉ siteIds e'.program) ∧
      ∀ e ∈ past, Apart 0 i.nextId (siteIds e.program) := by
  induction session with
  | start => exact ⟨.nil, nofun⟩
  | @run past i i' moves source errors before ended ih =>
    obtain ⟨separate, apart⟩ := ih
    rcases i.run_cases ended with ⟨isLoaded, noExecution⟩ |
      ⟨program, k, outcome, isLoaded, isExecution, isRun, -⟩
    · obtain ⟨n, table, le, isState, -⟩ := i.exists_load source
      rw [isLoaded] at isState
      obtain rfl : i' = _ := isState
      rw [noExecution]
      exact ⟨separate, fun e mem => (apart e mem).mono (Nat.le_refl _) le⟩
    · have isNext := before.nextId_eq isLoaded isRun
      obtain ⟨n, le, new, rfl⟩ := (Interpreter.loads_of_load isLoaded).exists_table
      rw [isExecution, isNext]
      refine ⟨.cons (fun e mem id isNew isOld => ?_) separate, List.forall_mem_cons.2
        ⟨new.mono (Nat.zero_le _) (Nat.le_refl _),
          fun e mem => (apart e mem).mono (Nat.le_refl _) le⟩⟩
      exact Nat.not_le_of_lt ((apart e mem).range id isOld).2 (new.range id isNew).1
  | skip _ count ih =>
    obtain ⟨separate, apart⟩ := ih
    exact ⟨separate, fun e mem => (apart e mem).mono (Nat.le_refl _) (Nat.le_add_right _ _)⟩

/-- An occurrence of a name is visited once in all programs of a session. -/
theorem Session.visit_unique (session : Session past i) {e e' : Execution} {site site' : Site}
    {r r' : Reading} (mem : e ∈ past) (mem' : e' ∈ past) (visit : Visit e.program site r)
    (visit' : Visit e'.program site' r') (isSame : site.occurrence.id = site'.occurrence.id) :
    e = e' ∧ site = site' ∧ r = r' := by
  obtain ⟨separate, apart⟩ := session.apart
  have : Std.Symm fun e e' : Execution => ∀ id ∈ siteIds e.program, id ∉ siteIds e'.program :=
    ⟨fun _ _ separate id mem mem' => separate id mem' mem⟩
  obtain rfl : e = e' := by
    by_contra other
    exact separate.forall mem mem' other _ visit.mem_siteIds (isSame ▸ visit'.mem_siteIds)
  exact ⟨rfl, visit.unique (apart e mem).distinct visit' isSame⟩

/-- Whether an assigned variable is being declared is the same wherever the assignment was read. -/
theorem Session.pending_iff (session : Session past i) {e : Execution} {p : Position}
    {o : Occurrence} {r : Reading} (mem : e ∈ past) (visit : Visit e.program ⟨.assignment, o⟩ r)
    (read : Read past p .assignment o) :
    p.pending = some o.name.lexeme ↔ r.analysis.local? o.name.lexeme = some false := by
  obtain ⟨e', mem', ready, r', visit', mirrors, notReady⟩ := read
  obtain ⟨rfl, -, rfl⟩ := session.visit_unique mem mem' visit visit' rfl
  obtain rfl := notReady rfl
  exact ⟨mirrors.local?_of_pending, mirrors.pending_of_local?⟩

/-- A variable that is assigned is being declared wherever the assignment was read, or nowhere. -/
theorem Session.pending_of_pending (session : Session past i) {p p' : Position} {o : Occurrence}
    (read : Read past p .assignment o) (read' : Read past p' .assignment o)
    (pending : p.pending = some o.name.lexeme) : p'.pending = some o.name.lexeme := by
  obtain ⟨e, mem, -, r, visit, -⟩ := id read
  exact (session.pending_iff mem visit read').2 ((session.pending_iff mem visit read).1 pending)

end Lox
