import Lox.Scope.Analysis

/-!
# The static reading, event by event

Each event of the static reading belongs to a part of the program. The parts that opened the scopes
which are open are followed here beside the scopes themselves, so that one can say in which scopes,
and of what, an occurrence of a name is *visited*.

## Main definitions

* `Traversal.labelled`: a traversal that keeps the node of every element.
* `Scope.Reading`: the state of the static reading and the parts that opened the open scopes.
* `Scope.Comes`: some events come up in a state of the reading of a program.
* `Scope.Visit`: an occurrence of a name comes up.

## Main results

* `Scope.events_eq`: the events of a part are those of its pieces.
* `Scope.Comes.errors_eq_nil`: in a program without violations none are found on the way.
-/

namespace Lox

variable {ν ω : Type}

/-- An element of a result with the node that contributes it. -/
def Part.label (n : ν) : Part ν ω → Part ν (ν × ω)
  | .node m => .node m
  | .leaf element => .leaf (n, element)

/-- An element of a result without its node. -/
def Part.forget : Part ν (ν × ω) → Part ν ω
  | .node m => .node m
  | .leaf element => .leaf element.2

theorem Part.total_label (weight : ν → Nat) (n : ν) (parts : List (Part ν ω)) :
    Part.total weight (parts.map (Part.label n)) = Part.total weight parts := by
  induction parts with
  | nil => rfl
  | cons part parts ih =>
    cases part with
    | node m => simp only [List.map_cons, label, total_node, ih]
    | leaf element => simp only [List.map_cons, label, total_leaf, ih]

theorem Part.forget_label (n : ν) (parts : List (Part ν ω)) :
    (parts.map (Part.label n)).map Part.forget = parts := by
  induction parts with
  | nil => rfl
  | cons part parts ih =>
    rw [List.map_cons, List.map_cons, ih]
    cases part <;> rfl

namespace Traversal

variable (t : Traversal ν ω)

/-- The traversal that keeps the node of every element. -/
def labelled : Traversal ν (ν × ω) where
  expand n := (t.expand n).map (Part.label n)
  weight := t.weight
  total_expand_lt n := by
    rw [Part.total_label]
    exact t.total_expand_lt n

/-- Without the nodes the elements are those of the traversal. -/
theorem map_snd_labelled : ∀ parts : List (Part ν (ν × ω)),
    (t.labelled.toList parts).map Prod.snd = t.toList (parts.map Part.forget)
  | [] => by simp
  | .leaf element :: parts => by
    rw [List.map_cons, toList_leaf, List.map_cons, map_snd_labelled parts]
    exact (t.toList_leaf _ _).symm
  | .node n :: parts => by
    rw [List.map_cons, toList_node, List.map_append, map_snd_labelled parts,
      map_snd_labelled (t.labelled.expand n), labelled, Part.forget_label]
    exact (t.toList_node _ _).symm
termination_by parts => (Part.total t.weight parts, parts.length)
decreasing_by
  · simp [Prod.lex_def]
  · have h := t.total_expand_lt n
    simp [Prod.lex_def]
    omega
  · have h := t.labelled.total_expand_lt n
    have isWeight : t.labelled.weight = t.weight := rfl
    rw [isWeight] at h
    simp [Prod.lex_def]
    omega

end Traversal

namespace Scope

/-! ### Events of parts of a program -/

/-- An event and the part of the program to which it belongs. -/
abbrev Happening : Type :=
  Node × Event

/-- The events of a part of a program. -/
def events (n : Node) : List Happening :=
  scoping.labelled.toList [.node n]

/-- The events of a piece of a part of a program. -/
def pieceEvents (n : Node) : Piece → List Happening
  | .node m => events m
  | .leaf e => [(n, e)]

/-- The events of the pieces of a part. -/
theorem toList_label (n : Node) (pieces : List Piece) :
    scoping.labelled.toList (pieces.map (Part.label n)) = pieces.flatMap (pieceEvents n) := by
  induction pieces with
  | nil => exact scoping.labelled.toList_nil
  | cons piece pieces ih =>
    rw [List.map_cons, List.flatMap_cons, ← ih]
    cases piece with
    | node m =>
      have isNode := scoping.labelled.toList_append [.node m] (pieces.map (Part.label n))
      exact isNode
    | leaf e => exact scoping.labelled.toList_leaf (n, e) (pieces.map (Part.label n))

/-- The events of a part are those of its pieces. -/
theorem events_eq (n : Node) : events n = (expand n).flatMap (pieceEvents n) := by
  rw [events, Traversal.toList_node, Traversal.toList_nil, List.append_nil, ← toList_label]
  rfl

/-- The events of statements. -/
def allEvents (stmts : List Stmt) : List Happening :=
  stmts.flatMap fun s => events (.statement s)

theorem map_snd_events (n : Node) : (events n).map Prod.snd = scoping.toList [.node n] :=
  scoping.map_snd_labelled [.node n]

/-- The events of a program, without the parts to which they belong. -/
theorem map_snd_allEvents (program : List Stmt) :
    (allEvents program).map Prod.snd = programEvents program := by
  unfold allEvents programEvents
  induction program with
  | nil => exact scoping.toList_nil.symm
  | cons s program ih =>
    rw [List.flatMap_cons, List.map_append, ih, map_snd_events]
    exact (scoping.toList_append [stmt s] (program.map stmt)).symm

/-! ### The course of the reading -/

/-- The state of the static reading, and the parts of the program that opened the open scopes,
innermost first. -/
structure Reading where
  analysis : Analysis
  openers : List Node

namespace Reading

/-- The beginning of the reading. -/
def start : Reading :=
  ⟨.start, []⟩

/-- Take one event. -/
def take (r : Reading) (e : Happening) : Reading where
  analysis := r.analysis.step e.2
  openers :=
    match e.2 with
    | .opening => e.1 :: r.openers
    | .closing => r.openers.tail
    | _ => r.openers

/-- Take events in order. -/
def takeAll (r : Reading) (es : List Happening) : Reading :=
  es.foldl take r

variable {r : Reading} {es es' : List Happening} {e : Happening}

@[simp] theorem takeAll_nil : r.takeAll [] = r := rfl

@[simp] theorem takeAll_cons : r.takeAll (e :: es) = (r.take e).takeAll es := rfl

@[simp] theorem takeAll_append : r.takeAll (es ++ es') = (r.takeAll es).takeAll es' :=
  List.foldl_append

theorem analysis_takeAll :
    (r.takeAll es).analysis = (es.map Prod.snd).foldl Analysis.step r.analysis := by
  induction es generalizing r with
  | nil => rfl
  | cons e es ih => exact ih

end Reading

namespace Analysis

variable (a : Analysis)

@[simp] theorem errors_record (o : Occurrence) : (a.record o).errors = a.errors := by
  unfold record
  split <;> rfl

@[simp] theorem errors_enter (name : String) (ready : Bool) :
    (a.enter name ready).errors = a.errors := by
  unfold enter
  split <;> rfl

/-- Violations are noted and stay. -/
theorem errors_step (e : Event) : a.errors <:+ (a.step e).errors := by
  have noted (token : Token) (cause : ScopeError.Cause) :
      a.errors <:+ (a.report token cause).errors :=
    List.suffix_cons _ _
  cases e with
  | declare name =>
    simp only [step, declare]
    split
    · exact noted _ _
    · exact (a.errors_enter _ _).symm ▸ List.suffix_rfl
  | define name => exact (a.errors_enter _ _).symm ▸ List.suffix_rfl
  | implicit name => exact (a.errors_enter _ _).symm ▸ List.suffix_rfl
  | selfInheritance superclass => exact noted _ _
  | returns keyword hasValue =>
    simp only [step, returns]
    split
    · exact noted _ _
    · split
      · exact noted _ _
      · exact List.suffix_rfl
    · exact List.suffix_rfl
  | occurs site =>
    obtain ⟨kind, o⟩ := site
    cases kind with
    | assignment => exact (a.errors_record o).symm ▸ List.suffix_rfl
    | reference =>
      simp only [step, occurs, errors_record]
      split
      · exact noted _ _
      · exact List.suffix_rfl
    | this =>
      simp only [step, occurs]
      split
      · exact noted _ _
      · exact (a.errors_record o).symm ▸ List.suffix_rfl
    | super =>
      simp only [step, occurs, errors_record]
      split
      · exact noted _ _
      · exact noted _ _
      · exact List.suffix_rfl
  | _ => exact List.suffix_rfl

end Analysis

namespace Reading

theorem errors_takeAll {r : Reading} {es : List Happening} :
    r.analysis.errors <:+ (r.takeAll es).analysis.errors := by
  induction es generalizing r with
  | nil => exact List.suffix_rfl
  | cons e es ih => exact (r.analysis.errors_step e.2).trans (ih (r := r.take e))

end Reading

/-! ### What comes up in the reading of a program -/

variable {program : List Stmt} {r : Reading} {es es' : List Happening}

/-- Events come up in a state of the reading of a program. -/
def Comes (program : List Stmt) (r : Reading) (es : List Happening) : Prop :=
  ∃ before after, allEvents program = before ++ (es ++ after) ∧ r = Reading.start.takeAll before

/-- An occurrence of a name comes up in a state of the reading of a program. -/
def Visit (program : List Stmt) (site : Site) (r : Reading) : Prop :=
  ∃ n, Comes program r [(n, .occurs site)]

/-- The static reading finds no violations in a program. -/
def Accepted (program : List Stmt) : Prop :=
  (analyse (programEvents program)).errors = []

theorem comes_program (program : List Stmt) : Comes program .start (allEvents program) :=
  ⟨[], [], by rw [List.append_nil, List.nil_append], rfl⟩

theorem Comes.left (h : Comes program r (es ++ es')) : Comes program r es := by
  obtain ⟨before, after, isAll, isState⟩ := h
  exact ⟨before, es' ++ after, by rw [isAll, List.append_assoc], isState⟩

theorem Comes.right (h : Comes program r (es ++ es')) : Comes program (r.takeAll es) es' := by
  obtain ⟨before, after, isAll, isState⟩ := h
  refine ⟨before ++ es, after, by rw [isAll, List.append_assoc, List.append_assoc], ?_⟩
  rw [Reading.takeAll_append, isState]

/-- In a program without violations none are found on the way. -/
theorem Comes.errors_eq_nil (accepted : Accepted program) (h : Comes program r es) :
    (r.takeAll es).analysis.errors = [] := by
  obtain ⟨before, after, isAll, rfl⟩ := h
  have whole : (Reading.start.takeAll (allEvents program)).analysis.errors = [] := by
    rw [Reading.analysis_takeAll, map_snd_allEvents]
    exact List.reverse_eq_nil_iff.1 accepted
  rw [isAll, Reading.takeAll_append, Reading.takeAll_append] at whole
  exact List.suffix_nil.1 (whole ▸ Reading.errors_takeAll)

end Scope

end Lox
