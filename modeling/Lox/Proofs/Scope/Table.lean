import Lox.Interpreter
import Lox.Proofs.Scope.Mirror
import Lox.Proofs.Scope.Numbering

/-!
# The distances of a program

The static reading of a program lists a distance for every occurrence of a name that some open scope
holds. When occurrences are numbered apart, the table of a session has for each of them what the
scopes said where it was visited.

## Main results

* `Scope.Visit.unique`: each occurrence is visited once.
* `Scope.getElem?_recordDistances`: the entry of an occurrence that is visited.
* `Scope.getElem?_recordDistances_of_notMem`: other entries stay as they are.
-/

namespace Lox.Scope

/-- What an event adds to the distances. -/
def Analysis.entry? (a : Analysis) : Event → Option (NodeId × Nat)
  | .occurs ⟨kind, o⟩ =>
    if kind = .this ∧ a.classes = [] then none
    else (distance? o.name.lexeme a.scopes).map fun d => (o.id, d)
  | _ => none

section

variable (a : Analysis)

@[simp] theorem distances_enter (name : String) (ready : Bool) :
    (a.enter name ready).distances = a.distances := by
  unfold Analysis.enter
  split <;> rfl

theorem distances_record (o : Occurrence) : (a.record o).distances =
    ((distance? o.name.lexeme a.scopes).map fun d => (o.id, d)).toList ++ a.distances := by
  unfold Analysis.record
  split <;> rename_i isDistance <;> rw [isDistance] <;> rfl

/-- Each event adds at most one distance. -/
theorem distances_step (e : Event) :
    (a.step e).distances = (a.entry? e).toList ++ a.distances := by
  cases e with
  | declare name =>
    simp only [Analysis.step, Analysis.declare, Analysis.entry?]
    split
    · rfl
    · exact distances_enter a _ _
  | define name => exact distances_enter a _ _
  | implicit name => exact distances_enter a _ _
  | returns keyword hasValue =>
    simp only [Analysis.step, Analysis.returns, Analysis.entry?]
    split
    · rfl
    · split <;> rfl
    · rfl
  | occurs site =>
    obtain ⟨kind, o⟩ := site
    cases kind with
    | assignment => exact distances_record a o
    | reference =>
      simp only [Analysis.step, Analysis.occurs]
      split
      · exact distances_record (a.report o.name .readInOwnInitializer) o
      · exact distances_record a o
    | this =>
      simp only [Analysis.step, Analysis.occurs, Analysis.entry?, true_and]
      cases isClasses : a.classes with
      | nil => rfl
      | cons _ _ => exact distances_record a o
    | super =>
      simp only [Analysis.step, Analysis.occurs]
      split
      · exact distances_record (a.report o.name .superOutsideClass) o
      · exact distances_record (a.report o.name .superWithoutSuperclass) o
      · exact distances_record a o
  | _ => rfl

/-- An entry is that of an occurrence. -/
theorem entry?_sublist (e : Event) : ((a.entry? e).toList.map Prod.fst).Sublist (idsOf [e]) := by
  cases e with
  | occurs site =>
    obtain ⟨kind, o⟩ := site
    change List.Sublist _ [o.id]
    simp only [Analysis.entry?]
    by_cases isClosed : kind = .this ∧ a.classes = []
    · rw [if_pos isClosed]
      exact List.nil_sublist _
    · rw [if_neg isClosed]
      cases distance? o.name.lexeme a.scopes with
      | none => exact List.nil_sublist _
      | some d => exact List.Sublist.refl _
  | _ => exact List.nil_sublist _

/-- Events add distances of occurrences among them, each at most once. -/
theorem exists_distances (es : List Event) : ∃ added : List (NodeId × Nat),
    (es.foldl Analysis.step a).distances =
      added.reverse ++ a.distances ∧ (added.map Prod.fst).Sublist (idsOf es) := by
  induction es generalizing a with
  | nil => exact ⟨[], rfl, List.Sublist.refl _⟩
  | cons e es ih =>
    obtain ⟨added, isAdded, sublist⟩ := ih (a.step e)
    refine ⟨(a.entry? e).toList ++ added, ?_, ?_⟩
    · rw [List.foldl_cons, isAdded, distances_step, List.reverse_append, List.append_assoc]
      cases a.entry? e <;> rfl
    · rw [List.map_append, idsOf_cons]
      exact (entry?_sublist a e).append sublist

end

/-! ### The table -/

variable {program : List Stmt} {lo hi : NodeId}

theorem distances_analyse (es : List Event) :
    (analyse es).distances = (es.foldl Analysis.step .start).distances.reverse := rfl

/-- Distances are listed for occurrences of the program, at most once for each. -/
theorem analyse_sublist (program : List Stmt) :
    ((analyse (programEvents program)).distances.map Prod.fst).Sublist (siteIds program) := by
  obtain ⟨added, isAdded, sublist⟩ := exists_distances .start (programEvents program)
  have isDistances : (analyse (programEvents program)).distances = added := by
    rw [distances_analyse, isAdded, List.reverse_append, List.reverse_reverse]
    rfl
  rwa [isDistances]

section Insert

variable {added : List (NodeId × Nat)} {id : NodeId} {d : Nat}

theorem getElem?_foldl_insert_of_notMem (notMem : id ∉ added.map Prod.fst)
    (known : Std.TreeMap NodeId Nat) :
    (added.foldl (fun known (id, d) => known.insert id d) known)[id]? = known[id]? := by
  induction added generalizing known with
  | nil => rfl
  | cons entry added ih =>
    rw [List.map_cons, List.mem_cons, not_or] at notMem
    rw [List.foldl_cons, ih notMem.2, Std.TreeMap.getElem?_insert]
    simp only [Std.LawfulEqCmp.compare_eq_iff_eq, if_neg (Ne.symm notMem.1)]

theorem getElem?_foldl_insert_of_mem (distinct : (added.map Prod.fst).Nodup) (mem : (id, d) ∈ added)
    (known : Std.TreeMap NodeId Nat) :
    (added.foldl (fun known (id, d) => known.insert id d) known)[id]? = some d := by
  induction added generalizing known with
  | nil => cases mem
  | cons entry added ih =>
    rw [List.map_cons, List.nodup_cons] at distinct
    rw [List.foldl_cons]
    rcases List.mem_cons.1 mem with rfl | later
    · rw [getElem?_foldl_insert_of_notMem distinct.1, Std.TreeMap.getElem?_insert_self]
    · exact ih distinct.2 later _

end Insert

/-- A visit parts the events of a program, and the numbers of its occurrences. -/
theorem Visit.exists_split {site : Site} {r : Reading} (visit : Visit program site r) :
    ∃ n before after, allEvents program = before ++ (n, .occurs site) :: after ∧
      r = Reading.start.takeAll before ∧ siteIds program =
        idsOf (before.map Prod.snd) ++ (site.occurrence.id :: idsOf (after.map Prod.snd)) := by
  obtain ⟨n, before, after, isAll, isState⟩ := visit
  refine ⟨n, before, after, isAll, isState, ?_⟩
  rw [siteIds, ← map_snd_allEvents, isAll, List.map_append, idsOf_append]
  rfl

theorem Visit.mem_siteIds {site : Site} {r : Reading} (visit : Visit program site r) :
    site.occurrence.id ∈ siteIds program := by
  obtain ⟨n, before, after, -, -, isIds⟩ := visit.exists_split
  rw [isIds]
  simp

/-- If occurrences are numbered apart, each is visited once. -/
theorem Visit.unique {site site' : Site} {r r' : Reading} (distinct : (siteIds program).Nodup)
    (visit : Visit program site r) (visit' : Visit program site' r')
    (isSame : site.occurrence.id = site'.occurrence.id) : site = site' ∧ r = r' := by
  obtain ⟨n, before, after, isAll, rfl, isIds⟩ := visit.exists_split
  obtain ⟨n', before', after', isAll', rfl, isIds'⟩ := visit'.exists_split
  -- A visit is at no place before another visit of the same number.
  have notBefore {site site' : Site} {n : Node} {before before' after' middle : List Happening}
      (isBefore : before' = before ++ (n, .occurs site) :: middle)
      (isIds : siteIds program = idsOf (before'.map Prod.snd) ++
        (site'.occurrence.id :: idsOf (after'.map Prod.snd)))
      (isSame : site.occurrence.id = site'.occurrence.id) : False := by
    rw [isIds] at distinct
    refine (List.nodup_append.1 distinct).2.2 site.occurrence.id ?_ site'.occurrence.id
      List.mem_cons_self isSame
    rw [isBefore, List.map_append, idsOf_append]
    exact List.mem_append_right _ List.mem_cons_self
  rcases List.append_eq_append_iff.1 (isAll.symm.trans isAll') with
    ⟨middle, isBefore, isRest⟩ | ⟨middle, isBefore, isRest⟩
  · cases middle with
    | nil =>
      cases isRest
      rw [isBefore, List.append_nil]
      exact ⟨rfl, rfl⟩
    | cons first middle =>
      cases isRest
      exact (notBefore isBefore isIds' isSame).elim
  · cases middle with
    | nil =>
      cases isRest
      rw [isBefore, List.append_nil]
      exact ⟨rfl, rfl⟩
    | cons first middle =>
      cases isRest
      exact (notBefore isBefore isIds isSame.symm).elim

/-- The distances that are listed for a program with a visit: those of occurrences before it, what
the scopes say at the visit, and those of occurrences behind it. -/
theorem Visit.exists_distances {kind : SiteKind} {o : Occurrence} {r : Reading}
    (visit : Visit program ⟨kind, o⟩ r) (isOpen : ¬ (kind = .this ∧ r.analysis.classes = [])) :
    ∃ first second ids ids', (analyse (programEvents program)).distances =
      first ++ (((distance? o.name.lexeme r.analysis.scopes).map fun d => (o.id, d)).toList ++
        second) ∧
      siteIds program = ids ++ o.id :: ids' ∧ (first.map Prod.fst).Sublist ids ∧
      (second.map Prod.fst).Sublist ids' := by
  obtain ⟨_, before, after, isAll, rfl, isIds⟩ := visit.exists_split
  have isEvents : programEvents program = before.map Prod.snd ++ (.occurs ⟨kind, o⟩ ::
      after.map Prod.snd) := by
    rw [← map_snd_allEvents, isAll, List.map_append]
    rfl
  obtain ⟨first, isFirst, sublist⟩ :=
    Scope.exists_distances Reading.start.analysis (before.map Prod.snd)
  rw [← Reading.analysis_takeAll] at isFirst
  have isState : (before.map Prod.snd).foldl Analysis.step .start =
      (Reading.start.takeAll before).analysis :=
    (Reading.analysis_takeAll (r := .start)).symm
  generalize (Reading.start.takeAll before).analysis = a at *
  obtain ⟨second, isSecond, sublist'⟩ :=
    Scope.exists_distances (a.step (.occurs ⟨kind, o⟩)) (after.map Prod.snd)
  have isEntry : a.entry? (.occurs ⟨kind, o⟩) =
      (distance? o.name.lexeme a.scopes).map fun d => (o.id, d) := by
    simp only [Analysis.entry?]
    rw [if_neg isOpen]
  refine ⟨first, second, _, _, ?_, isIds, sublist, sublist'⟩
  rw [distances_analyse, isEvents, List.foldl_append, isState, List.foldl_cons, isSecond,
    distances_step, isEntry, isFirst]
  cases distance? o.name.lexeme a.scopes <;> simp [Reading.start, Analysis.start]

/-- The entry of an occurrence that is visited in a program without violations is what the scopes
say there. -/
theorem getElem?_recordDistances (numbered : Apart lo hi (siteIds program))
    (accepted : Accepted program) {site : Site} {r : Reading} (visit : Visit program site r)
    {i : Interpreter} (unnumbered : ∀ id, lo ≤ id → i.distances[id]? = none) :
    (i.recordDistances (analyse (programEvents program)).distances).distances[site.occurrence.id]? =
      distance? site.occurrence.name.lexeme r.analysis.scopes := by
  obtain ⟨kind, o⟩ := site
  have noErrors := visit.choose_spec.errors_eq_nil accepted
  have isOpen : ¬ (kind = .this ∧ r.analysis.classes = []) := by
    rintro ⟨rfl, none⟩
    change (r.analysis.occurs ⟨.this, o⟩).errors = [] at noErrors
    simp [Analysis.occurs, none, Analysis.report] at noErrors
  obtain ⟨first, second, ids, ids', isDistances, isIds, sublist, sublist'⟩ :=
    visit.exists_distances isOpen
  have distinct := numbered.distinct
  have range := numbered.range
  rw [isIds] at distinct range
  cases isDistance : distance? o.name.lexeme r.analysis.scopes with
  | some d =>
    rw [isDistance] at isDistances
    refine getElem?_foldl_insert_of_mem ((analyse_sublist program).nodup numbered.distinct) ?_ _
    rw [isDistances]
    simp
  | none =>
    rw [isDistance] at isDistances
    refine (getElem?_foldl_insert_of_notMem ?_ _).trans (unnumbered o.id (range o.id (by simp)).1)
    rw [isDistances, Option.map_none, Option.toList_none, List.nil_append, List.map_append,
      List.mem_append, not_or]
    obtain ⟨-, distinct', disjoint⟩ := List.nodup_append.1 distinct
    refine ⟨fun mem => ?_, fun mem => ?_⟩
    · exact disjoint o.id (sublist.subset mem) o.id List.mem_cons_self rfl
    · exact (List.nodup_cons.1 distinct').1 (sublist'.subset mem)

/-- The entries of other occurrences stay as they are. -/
theorem getElem?_recordDistances_of_notMem {id : NodeId} (notMem : id ∉ siteIds program)
    (i : Interpreter) :
    (i.recordDistances (analyse (programEvents program)).distances).distances[id]? =
      i.distances[id]? :=
  getElem?_foldl_insert_of_notMem (fun mem => notMem ((analyse_sublist program).subset mem)) _

end Lox.Scope
