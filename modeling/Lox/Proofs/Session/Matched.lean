import Lox.Proofs.Alike.Evaluation
import Lox.Proofs.Alike.Parser
import Lox.Proofs.Alike.Scanner
import Lox.Proofs.Session.History
import Lox.Proofs.Session.Source
import Lox.Proofs.Session.View

/-!
# Sessions that differ in labels

Two sessions are matched if their states are the same up to the labels of the trees in them. The
numbers that correspond have been given out on both sides, and no distance is recorded for a number
that has not: so when both sessions read one text, the new trees correspond in all their numbers,
whatever was read and rejected on one side only, and both sessions run alike.

## Main definitions

* `Relabelling.extend`: the correspondence of the numbers at the same places of two programs.
* `Interpreter.Matching`: states between runs that are the same up to labels.
* `Interpreter.Matched`: some correspondence of numbers matches the states.
* `Diagnostic.Alike`: errors that are the same on corresponding lines.

## Main results

* `Interpreter.Matching.readFrom`: sources that are scanned alike are read alike.
* `Interpreter.Matched.runFrom`: matched sessions run alike.
* `Interpreter.Matched.retable`: what a rejected text leaves behind does not matter.
-/

namespace Lox

open Scope Evaluation

/-! ### Numbers at the same places -/

namespace Relabelling

/-- Besides what corresponds already, the numbers at the same places of two programs correspond. -/
def extend (c : Relabelling) (p p' : List Stmt) : Relabelling where
  ids a b := c.ids a b ∨ (a, b) ∈ (siteIds p).zip (siteIds p')
  lines := c.lines

variable {c : Relabelling} {p p' : List Stmt}

theorem le_extend : c.LE (c.extend p p') :=
  ⟨fun _ _ => .inl, fun _ _ => id⟩

/-- Programs that are alike with any numbers are so with the extended correspondence. -/
theorem extend_alike (programs : List.Forall₂ (Stmt.Alike (.ofLines c.lines)) p p') :
    List.Forall₂ (Stmt.Alike (c.extend p p')) p p' := by
  refine Stmt.Alike.relabelAll (c := .ofLines c.lines) (d := c.extend p p') (fun _ _ h => h)
    programs ?_
  have length : (siteIds p).length = (siteIds p').length :=
    (idsOf_alike (programEvents_alike programs)).length_eq
  rw [← siteIds_eq, ← siteIds_eq]
  exact List.forall₂_iff_zip.2 ⟨length, fun mem => .inr mem⟩

end Relabelling

/-- In lists without repetitions, one of two elements at the same place determines the other. -/
theorem mem_zip_unique {α β : Type} {l : List α} {l' : List β} (distinct : l.Nodup)
    (distinct' : l'.Nodup) {a x : α} {b y : β} (mem : (a, b) ∈ l.zip l')
    (mem' : (x, y) ∈ l.zip l') :
    x = a ↔ y = b := by
  obtain ⟨n, hn, isPair⟩ := List.getElem_of_mem mem
  obtain ⟨m, hm, isPair'⟩ := List.getElem_of_mem mem'
  rw [List.getElem_zip] at isPair isPair'
  cases isPair
  cases isPair'
  rw [distinct.getElem_inj_iff, distinct'.getElem_inj_iff]

variable {c : Relabelling} {p p' : List Stmt}

/-- A distance is recorded for one of two corresponding occurrences if it is for the other. -/
theorem foldl_insert_alike {ds ds' : List (NodeId × Nat)} {R : NodeId → NodeId → Prop}
    (h : List.Forall₂ (fun d d' => R d.1 d'.1 ∧ d'.2 = d.2) ds ds') {a b : NodeId}
    (unique : ∀ x y, R x y → (x = a ↔ y = b)) {known known' : Std.TreeMap NodeId Nat}
    (agree : known'[b]? = known[a]?) :
    (ds'.foldl (fun known (id, d) => known.insert id d) known')[b]? =
      (ds.foldl (fun known (id, d) => known.insert id d) known)[a]? := by
  induction h generalizing known known' with
  | nil => exact agree
  | @cons d d' _ _ first _ ih =>
    refine ih ?_
    dsimp only
    rw [Std.TreeMap.getElem?_insert, Std.TreeMap.getElem?_insert, first.2]
    simp only [Std.LawfulEqCmp.compare_eq_iff_eq, unique _ _ first.1, agree]

/-- After alike programs are read, the tables agree on old and on new correspondences, provided that
the new programs number their occurrences apart from all old ones. -/
theorem recordDistances_alike {i i' : Interpreter}
    (programs : List.Forall₂ (Stmt.Alike (.ofLines c.lines)) p p')
    (distinct : (siteIds p).Nodup) (distinct' : (siteIds p').Nodup)
    (agree : ∀ a b, c.ids a b → i'.distances[b]? = i.distances[a]?)
    (apart : ∀ a b, c.ids a b → a ∉ siteIds p ∧ b ∉ siteIds p')
    (new : ∀ a ∈ siteIds p, i.distances[a]? = none)
    (new' : ∀ b ∈ siteIds p', i'.distances[b]? = none) {a b : NodeId}
    (related : (c.extend p p').ids a b) :
    (i'.recordDistances (analyse (programEvents p')).distances).distances[b]? =
      (i.recordDistances (analyse (programEvents p)).distances).distances[a]? := by
  rcases related with old | pair
  · obtain ⟨notMem, notMem'⟩ := apart a b old
    rw [getElem?_recordDistances_of_notMem notMem', getElem?_recordDistances_of_notMem notMem]
    exact agree a b old
  · let pairs : Relabelling := ⟨fun a b => (a, b) ∈ (siteIds p).zip (siteIds p'), c.lines⟩
    have programs' : List.Forall₂ (Stmt.Alike pairs) p p' := by
      refine Stmt.Alike.relabelAll (c := .ofLines c.lines) (d := pairs) (fun _ _ h => h) programs ?_
      rw [← siteIds_eq, ← siteIds_eq]
      exact List.forall₂_iff_zip.2
        ⟨(idsOf_alike (programEvents_alike programs)).length_eq, fun mem => mem⟩
    have distances := (analyse_alike (programEvents_alike programs')).2
    refine foldl_insert_alike (distances.imp fun _ _ h => ⟨h.id, h.distance⟩)
      (fun x y pair' => mem_zip_unique distinct distinct' pair pair') ?_
    rw [new a (List.of_mem_zip pair).1, new' b (List.of_mem_zip pair).2]

/-! ### States between runs -/

/-- Two errors that are the same on corresponding lines. -/
inductive Diagnostic.Alike (lines : Nat → Nat → Prop) : Diagnostic → Diagnostic → Prop
  | lexical {e e' : LexError} (h : e.Alike lines e') : Alike lines (.lexical e) (.lexical e')
  | grammatical {e e' : SyntaxError} (h : e.Alike (.ofLines lines) e') :
      Alike lines (.grammatical e) (.grammatical e')
  | scoping {e e' : ScopeError} (h : ErrorAlike (.ofLines lines) e e') :
      Alike lines (.scoping e) (.scoping e')
  | fault {e e' : Fault} (cause : e'.cause = e.cause) (line : lines e.line e'.line) :
      Alike lines (.fault e) (.fault e')

/-- Errors that are the same on the same lines are the same. -/
theorem Diagnostic.Alike.eq_of_lines {e e' : Diagnostic} (h : e.Alike Eq e') : e' = e := by
  cases h with
  | @lexical e e' h =>
    obtain ⟨cause, line⟩ := e
    obtain ⟨cause', line'⟩ := e'
    obtain ⟨isCause, isLine⟩ := h
    cases isCause
    cases isLine
    rfl
  | grammatical h => rw [h.eq_of_lines]
  | @scoping e e' h =>
    obtain ⟨token, cause⟩ := e
    obtain ⟨token', cause'⟩ := e'
    obtain ⟨isToken, isCause⟩ := h
    cases isCause
    cases isToken.eq_of_lines
    rfl
  | @fault e e' cause line =>
    obtain ⟨cause, line⟩ := e
    obtain ⟨cause', line'⟩ := e'
    cases cause
    cases line
    rfl

namespace Interpreter

/-- Two states between runs that are the same up to labels. -/
structure Matching (c : Relabelling) (i i' : Interpreter) : Prop where
  alike : i.Alike c (i, i') i'
  known : ∀ a b, c.ids a b → a < i.nextId ∧ b < i'.nextId
  fresh : ∀ id, i.nextId ≤ id → i.distances[id]? = none
  fresh' : ∀ id, i'.nextId ≤ id → i'.distances[id]? = none

/-- Two states between runs that are the same up to labels, if lines may correspond as given. -/
def Matched (lines : Nat → Nat → Prop) (i i' : Interpreter) : Prop :=
  ∃ c : Relabelling, c.lines = lines ∧ Matching c i i'

variable {i i' j j' : Interpreter}

theorem Alike.mono {w : Interpreter × Interpreter} {d : Relabelling} (alike : i.Alike c w i')
    (le : c.LE d) (agree : ∀ a b, d.ids a b → i'.distances[b]? = i.distances[a]?) :
    i.Alike d w i' :=
  { alike with
    heap := alike.heap.mono le
    distances := agree }

/-- States that run alike are the same up to labels when the runs have ended. -/
theorem Matching.later (h : Matching c i i') (later : j.Alike c (i, i') j') : Matching c j j' where
  alike := { later with
    table := rfl
    table' := rfl
    nextId := rfl
    nextId' := rfl
    device := rfl }
  known := by
    rw [later.nextId, later.nextId']
    exact h.known
  fresh := by
    rw [later.nextId, later.table]
    exact h.fresh
  fresh' := by
    rw [later.nextId', later.table']
    exact h.fresh'

/-- What a rejected text leaves behind, on one side or on both, does not matter. -/
theorem Matching.retable (h : Matching c i i') {n n' : NodeId}
    {table table' : Std.TreeMap NodeId Nat}
    (le : i.nextId ≤ n) (le' : i'.nextId ≤ n')
    (stays : ∀ id, id < i.nextId ∨ n ≤ id → table[id]? = i.distances[id]?)
    (stays' : ∀ id, id < i'.nextId ∨ n' ≤ id → table'[id]? = i'.distances[id]?) :
    Matching c (i.retabled n table) (i'.retabled n' table') where
  alike := { h.alike with
    distances := fun a b related => by
      obtain ⟨lt, lt'⟩ := h.known a b related
      exact (stays' b (.inl lt')).trans ((h.alike.distances a b related).trans
        (stays a (.inl lt)).symm)
    table := rfl
    table' := rfl
    nextId := rfl
    nextId' := rfl
    device := rfl }
  known a b related :=
    (h.known a b related).imp (Nat.lt_of_lt_of_le · le) (Nat.lt_of_lt_of_le · le')
  fresh id ge := (stays id (.inr ge)).trans (h.fresh id (Nat.le_trans le ge))
  fresh' id ge := (stays' id (.inr ge)).trans (h.fresh' id (Nat.le_trans le' ge))

/-- The table of a state that has read a program. -/
theorem getElem?_adopted {n : NodeId} (apart : Apart i.nextId n (siteIds p))
    (id : NodeId) (outside : id < i.nextId ∨ n ≤ id) :
    (i.adopted n p).distances[id]? = i.distances[id]? := by
  refine getElem?_recordDistances_of_notMem (fun mem => ?_) i
  obtain ⟨le', lt⟩ := apart.range id mem
  exact outside.elim (Nat.not_lt_of_le le') (Nat.not_le_of_lt lt)

/-- Alike programs that both sides read extend the correspondence. -/
theorem Matching.adopt (h : Matching c i i')
    (programs : List.Forall₂ (Stmt.Alike (.ofLines c.lines)) p p') {n n' : NodeId}
    (le : i.nextId ≤ n) (le' : i'.nextId ≤ n') (apart : Apart i.nextId n (siteIds p))
    (apart' : Apart i'.nextId n' (siteIds p')) :
    Matching (c.extend p p') (i.adopted n p) (i'.adopted n' p') where
  alike := by
    have later := (h.retable le le' (getElem?_adopted apart)
      (getElem?_adopted apart')).alike
    refine later.mono Relabelling.le_extend fun a b related => ?_
    refine recordDistances_alike programs apart.distinct apart'.distinct h.alike.distances ?_ ?_ ?_
      related
    · exact fun a b old => ⟨fun mem => Nat.not_lt_of_le (apart.range a mem).1 (h.known a b old).1,
        fun mem => Nat.not_lt_of_le (apart'.range b mem).1 (h.known a b old).2⟩
    · exact fun a mem => h.fresh a (apart.range a mem).1
    · exact fun b mem => h.fresh' b (apart'.range b mem).1
  known := by
    rintro a b (old | pair)
    · exact (h.known a b old).imp (Nat.lt_of_lt_of_le · le) (Nat.lt_of_lt_of_le · le')
    · obtain ⟨mem, mem'⟩ := List.of_mem_zip pair
      exact ⟨(apart.range a mem).2, (apart'.range b mem').2⟩
  fresh id ge := (getElem?_adopted apart id (.inr ge)).trans (h.fresh id (Nat.le_trans le ge))
  fresh' id ge :=
    (getElem?_adopted apart' id (.inr ge)).trans (h.fresh' id (Nat.le_trans le' ge))

/-- More lines may correspond. -/
theorem Matched.imp {lines lines' : Nat → Nat → Prop} (h : Matched lines i i')
    (imp : ∀ l l', lines l l' → lines' l l') : Matched lines' i i' := by
  obtain ⟨c, rfl, matching⟩ := h
  have alike : i.Alike ⟨c.ids, lines'⟩ (i, i') i' :=
    matching.alike.mono ⟨fun _ _ h => h, imp⟩ matching.alike.distances
  exact ⟨⟨c.ids, lines'⟩, rfl, { matching with alike := alike }⟩

/-! ### Reading and running -/

variable {lines : Nat → Nat → Prop} {ts ts' : List Token}

/-- How the readings of alike tokens end, in whatever states they are read. -/
inductive ReadsAlike (lines : Nat → Nat → Prop) (i i' : Interpreter) :
    Except (List Diagnostic) (List Stmt) × Interpreter →
    Except (List Diagnostic) (List Stmt) × Interpreter → Prop
  | ungrammatical {es es' : List SyntaxError} {n n' : NodeId} (le : i.nextId ≤ n)
      (le' : i'.nextId ≤ n') (errors : List.Forall₂ (SyntaxError.Alike (.ofLines lines)) es es') :
      ReadsAlike lines i i' (.error (es.map .grammatical), i.retabled n i.distances)
        (.error (es'.map .grammatical), i'.retabled n' i'.distances)
  | unscoped {es es' : List ScopeError} {p p' : List Stmt} {n n' : NodeId} (le : i.nextId ≤ n)
      (le' : i'.nextId ≤ n') (apart : Apart i.nextId n (siteIds p))
      (apart' : Apart i'.nextId n' (siteIds p'))
      (errors : List.Forall₂ (ErrorAlike (.ofLines lines)) es es') :
      ReadsAlike lines i i' (.error (es.map .scoping), i.adopted n p)
        (.error (es'.map .scoping), i'.adopted n' p')
  | program {p p' : List Stmt} {n n' : NodeId} (le : i.nextId ≤ n) (le' : i'.nextId ≤ n')
      (apart : Apart i.nextId n (siteIds p)) (apart' : Apart i'.nextId n' (siteIds p'))
      (programs : List.Forall₂ (Stmt.Alike (.ofLines lines)) p p') :
      ReadsAlike lines i i' (.ok p, i.adopted n p) (.ok p', i'.adopted n' p')

/-- Alike tokens are read alike, in whatever states. -/
theorem readsAlike (tokens : List.Forall₂ (Token.Alike (.ofLines lines)) ts ts')
    (closed : ∃ t ∈ ts, t.kind.isEnd) (i i' : Interpreter) :
    ReadsAlike lines i i' (i.readTokens ts) (i'.readTokens ts') := by
  have parsed := parseProgram_alike tokens closed i.nextId i'.nextId
  have le := nextId_le_parseProgram ts i.nextId
  have le' := nextId_le_parseProgram ts' i'.nextId
  cases isResult : (parseProgram ts i.nextId).1 with
  | error es =>
    cases isResult' : (parseProgram ts' i'.nextId).1 with
    | error es' =>
      rw [isResult, isResult'] at parsed
      rw [readTokens_of_error isResult, readTokens_of_error isResult']
      cases parsed with
      | error errors => exact .ungrammatical le le' errors
    | ok p' =>
      rw [isResult, isResult'] at parsed
      cases parsed
  | ok p =>
    cases isResult' : (parseProgram ts' i'.nextId).1 with
    | error es' =>
      rw [isResult, isResult'] at parsed
      cases parsed
    | ok p' =>
      rw [isResult, isResult'] at parsed
      cases parsed with
      | ok programs =>
        have apart := (derives_of_parseProgram isResult).2
        have apart' := (derives_of_parseProgram isResult').2
        have errors := (analyse_alike (programEvents_alike programs)).1
        rw [readTokens_of_ok isResult, readTokens_of_ok isResult']
        generalize (analyse (programEvents p)).errors = es at errors
        generalize (analyse (programEvents p')).errors = es' at errors
        cases errors with
        | nil => exact .program le le' apart apart' programs
        | cons first rest => exact .unscoped le le' apart apart' (.cons first rest)

/-- How two readings of alike sources end: with alike errors, or with alike programs. -/
inductive ReadAlike (c : Relabelling) :
    Except (List Diagnostic) (List Stmt) × Interpreter →
    Except (List Diagnostic) (List Stmt) × Interpreter → Prop
  | error {es es' : List Diagnostic} {j j' : Interpreter}
      (errors : List.Forall₂ (Diagnostic.Alike c.lines) es es') (states : Matching c j j') :
      ReadAlike c (.error es, j) (.error es', j')
  | program {p p' : List Stmt} {j j' : Interpreter}
      (programs : List.Forall₂ (Stmt.Alike (.ofLines c.lines)) p p')
      (states : Matching (c.extend p p') j j') : ReadAlike c (.ok p, j) (.ok p', j')

/-- Alike tokens are read alike, and what is read keeps the states matched. -/
theorem Matching.readTokens (h : Matching c i i')
    (tokens : List.Forall₂ (Token.Alike (.ofLines c.lines)) ts ts')
    (closed : ∃ t ∈ ts, t.kind.isEnd) : ReadAlike c (i.readTokens ts) (i'.readTokens ts') := by
  have reads := readsAlike tokens closed i i'
  generalize i.readTokens ts = result at reads
  generalize i'.readTokens ts' = result' at reads
  cases reads with
  | ungrammatical le le' errors =>
    refine .error ?_ (h.retable le le' (fun _ _ => rfl) fun _ _ => rfl)
    rw [List.forall₂_map_left_iff, List.forall₂_map_right_iff]
    exact errors.imp fun _ _ => .grammatical
  | unscoped le le' apart apart' errors =>
    refine .error ?_ (h.retable le le' (getElem?_adopted apart) (getElem?_adopted apart'))
    rw [List.forall₂_map_left_iff, List.forall₂_map_right_iff]
    exact errors.imp fun _ _ => .scoping
  | program le le' apart apart' programs =>
    exact .program programs (h.adopt programs le le' apart apart')

/-- Sources that are scanned alike are read alike. -/
theorem Matching.readFrom (h : Matching c i i') {line line' : Nat} {source source' : String}
    (scans : ScansAlike c.lines (tokenizeFrom line source) (tokenizeFrom line' source')) :
    ReadAlike c (i.readFrom line source) (i'.readFrom line' source') := by
  unfold Interpreter.readFrom
  cases isTokens : tokenizeFrom line source with
  | error es =>
    rw [isTokens] at scans
    generalize tokenizeFrom line' source' = scanned at scans
    cases scans with
    | error errors =>
      refine .error ?_ h
      rw [List.forall₂_map_left_iff, List.forall₂_map_right_iff]
      exact errors.imp fun _ _ => .lexical
  | ok ts =>
    obtain ⟨us, isClosed, -⟩ := exists_tokenizeFrom isTokens
    rw [isTokens] at scans
    generalize tokenizeFrom line' source' = scanned at scans
    cases scans with
    | ok tokens => exact h.readTokens tokens ⟨_, isClosed ▸ List.mem_concat_self, rfl⟩

/-- Two runs that end with alike errors in matched states. -/
def RunAlike (lines : Nat → Nat → Prop) (r r' : List Diagnostic × Interpreter) : Prop :=
  List.Forall₂ (Diagnostic.Alike lines) r.1 r'.1 ∧ Matched lines r.2 r'.2

/-- Alike programs run alike. -/
theorem Matching.execute (h : Matching c i i') (programs : List.Forall₂ (Stmt.Alike c) p p')
    (lines : c.lines 0 0) (moves : Nat) :
    Option.Rel (RunAlike c.lines) (i.execute moves p) (i'.execute moves p') := by
  have outcomes := interpret_alike programs lines h.alike moves
  unfold Interpreter.execute perform
  generalize Job.run step moves (interpret p) i = o at outcomes
  generalize Job.run step moves (interpret p') i' = o' at outcomes
  cases outcomes with
  | none => exact .none
  | some outcome =>
    cases outcome with
    | ok _ later => exact .some ⟨.nil, c, rfl, h.later later⟩
    | error fault later =>
      exact .some ⟨.cons (.fault fault.cause fault.line) .nil, c, rfl, h.later later⟩

/-- Matched sessions run alike. -/
theorem Matched.runFrom (h : Matched lines i i') (zero : lines 0 0) {line line' : Nat}
    {source source' : String}
    (scans : ScansAlike lines (tokenizeFrom line source) (tokenizeFrom line' source'))
    (moves : Nat) :
    Option.Rel (RunAlike lines) (i.runFrom moves line source)
      (i'.runFrom moves line' source') := by
  obtain ⟨c, rfl, matching⟩ := h
  have reads := matching.readFrom scans
  unfold Interpreter.runFrom
  generalize i.readFrom line source = result at reads
  generalize i'.readFrom line' source' = result' at reads
  cases reads with
  | error errors states => exact .some ⟨errors, c, rfl, states⟩
  | program programs states =>
    exact states.execute (Relabelling.extend_alike programs) zero moves

/-- Matched sessions run one source alike. -/
theorem Matched.run (h : Matched Eq i i') (moves : Nat) (source : String) :
    Option.Rel (RunAlike Eq) (i.run moves source) (i'.run moves source) := by
  rw [run_eq_runFrom, run_eq_runFrom]
  exact h.runFrom rfl (scansAlike_refl (fun _ => rfl) _) moves

/-- A new session matches itself. -/
theorem matched_start (sink : Sink) (clock : Clock) :
    Matched Eq (start sink clock) (start sink clock) := by
  refine ⟨⟨fun _ _ => False, Eq⟩, rfl, ?_⟩
  constructor
  case alike =>
    refine ⟨?_, rfl, rfl, fun _ _ h => h.elim, rfl, rfl, rfl, rfl, rfl, rfl, rfl, rfl⟩
    have empty : HeapAlike ⟨fun _ _ => False, Eq⟩ Heap.empty Heap.empty :=
      ⟨rfl, fun _ => rfl, fun _ _ => .none, rfl, fun _ _ => .none, rfl⟩
    exact empty.newFrame none (bindingsAlike_empty.insert "clock" .clock)
  case known => exact fun _ _ h => h.elim
  case fresh => exact fun id _ => Std.TreeMap.getElem?_emptyc
  case fresh' => exact fun id _ => Std.TreeMap.getElem?_emptyc

/-- Numbers may be left out in matched states, in each of them as many as one likes. -/
theorem Matched.skip (h : Matched lines i i') (count count' : Nat) :
    Matched lines (i.skip count) (i'.skip count') := by
  obtain ⟨c, isLines, matching⟩ := h
  exact ⟨c, isLines, matching.retable (Nat.le_add_right _ count) (Nat.le_add_right _ count')
    (fun _ _ => rfl) fun _ _ => rfl⟩

/-- Matched states show the same. -/
theorem Matched.view (h : Matched lines i i') : i'.view = i.view := by
  obtain ⟨c, rfl, matching⟩ := h
  exact view_eq (fun v v' alike => ⟨alike.sort, alike.text⟩)
    (matching.alike.heap.binding globalFrame)

theorem Matched.sink (h : Matched lines i i') : i'.sink = i.sink := by
  obtain ⟨c, rfl, matching⟩ := h
  exact matching.alike.sink

end Interpreter

/-- A state that a session reaches matches itself. -/
theorem Session.matched {past : List Execution} {i : Interpreter} (session : Session past i) :
    i.Matched Eq i := by
  induction session with
  | start sink clock => exact Interpreter.matched_start sink clock
  | @run past i i' moves source errors _ ended ih =>
    have runs := ih.run moves source
    rw [ended] at runs
    cases runs with
    | some run => exact run.2
  | skip _ count ih => exact ih.skip count count

end Lox
