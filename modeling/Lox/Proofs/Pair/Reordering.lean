import Lox.Proofs.Alike.Relabel
import Lox.Proofs.Evaluation.Declarations
import Lox.Proofs.Grammar.Reordering
import Lox.Proofs.Pair.Evaluation

/-!
# Functions in another order, side by side

Two runs execute declarations of the same functions, each run in an order of its own. Behind them
the same names are bound, to functions that belong together: only the numbers of the new objects
differ. The rest of the run goes on abreast.

## Main definitions

* `Stmt.Reordered`: programs in which functions have changed places.
* `Scene.declareAll`: both heaps behind the declarations, and the objects that belong together.

## Main results

* `Scene.Sound.declareAll`: the heaps are as they should be.
* `Evaluation.accompanies_reordered`: a program, and the same with functions in another order.
-/

namespace Lox

open Scope

namespace FunctionDecl.Swapped

variable {ds ds' : List FunctionDecl}

theorem names_perm (h : Swapped ds ds') : (names ds).Perm (names ds') := by
  have isName : (fun d : FunctionDecl => d.name.lexeme) ∘ unnumbered = fun d => d.name.lexeme :=
    funext fun d => by cases d; rfl
  have perm := h.map fun d : FunctionDecl => d.name.lexeme
  rwa [List.map_map, List.map_map, isName] at perm

/-- Each function has one in the other list that is alike. -/
theorem exists_alike (h : Swapped ds ds') {d : FunctionDecl} (mem : d ∈ ds) :
    ∃ d' ∈ ds', d.Alike .renumbering d' := by
  obtain ⟨d', mem', same⟩ := List.mem_map.1 (h.mem_iff.1 (List.mem_map_of_mem mem))
  exact ⟨d', mem', alike_of_unnumbered same.symm⟩

end FunctionDecl.Swapped

/-- Two programs that are the same up to the numbers of occurrences, but for the order of functions
of different names that stand in a row. -/
inductive Stmt.Reordered : List Stmt → List Stmt → Prop
  | mk {q q' r r' : List Stmt} {ds ds' : List FunctionDecl}
      (before : Stmt.unnumberedList q = Stmt.unnumberedList q')
      (row : FunctionDecl.Swapped ds ds') (distinct : (FunctionDecl.names ds).Nodup)
      (after : Stmt.unnumberedList r = Stmt.unnumberedList r') :
      Stmt.Reordered (q ++ (ds.map .functionDecl ++ r)) (q' ++ (ds'.map .functionDecl ++ r'))

theorem Stmt.Reordered.symm {p p' : List Stmt} (h : Stmt.Reordered p p') : Stmt.Reordered p' p := by
  cases h with
  | mk before row distinct after =>
    exact .mk before.symm (List.Perm.symm row) (row.names_perm.nodup_iff.1 distinct) after.symm

/-- Both heaps behind the declarations of functions. The objects that were made for functions of the
same name belong together. -/
def Scene.declareAll (σ : Scene) (ds ds' : List FunctionDecl) : Scene where
  frames := σ.frames
  objects n n' := σ.objects n n' ∨ ∃ (k k' : Nat) (d d' : FunctionDecl), ds[k]? = some d ∧
    ds'[k']? = some d' ∧ d'.name.lexeme = d.name.lexeme ∧ n = σ.left.nextIdentity + k ∧
    n' = σ.right.nextIdentity + k'
  left := σ.left.declareAll globalFrame ds
  right := σ.right.declareAll globalFrame ds'

namespace Scene.Sound

variable {c : Pairing} {σ : Scene} {ds ds' : List FunctionDecl}

/-- Functions of the same name stand at the same place. -/
theorem index_unique (distinct : (FunctionDecl.names ds).Nodup) {k l : Nat}
    {d e : FunctionDecl} (isAt : ds[k]? = some d) (isAt' : ds[l]? = some e)
    (same : e.name.lexeme = d.name.lexeme) : k = l := by
  obtain ⟨lt, rfl⟩ := List.getElem?_eq_some_iff.1 isAt
  obtain ⟨lt', rfl⟩ := List.getElem?_eq_some_iff.1 isAt'
  have lt : k < (FunctionDecl.names ds).length := (List.length_map ..).symm ▸ lt
  have lt' : l < (FunctionDecl.names ds).length := (List.length_map ..).symm ▸ lt'
  refine (@List.Nodup.getElem_inj_iff _ _ distinct _ lt _ lt').1 ?_
  rw [List.getElem_map, List.getElem_map, same]

variable (sound : σ.Sound c)

include sound

theorem le_declareAll : σ.LE (σ.declareAll ds ds') :=
  ⟨fun _ _ together => together, fun _ _ together => .inl together,
    Heap.grown_declareAll (sound.exists_ _ _ sound.global).1,
    Heap.grown_declareAll (sound.exists_ _ _ sound.global).2⟩

/-- Variables that belong together have values that belong together behind the declarations. -/
theorem binding_declareAll (distinct : (FunctionDecl.names ds).Nodup)
    (swapped : FunctionDecl.Swapped ds ds')
    (fits : ∀ d ∈ ds, d.WellScoped (Recorded c.table) .top)
    (fits' : ∀ d ∈ ds', d.WellScoped (Recorded c.table') .top) {f f' : FrameId}
    (together : σ.frames f f') (x : String) :
    Option.Rel (Value.Paired c (σ.declareAll ds ds'))
      ((σ.left.declareAll globalFrame ds).binding? f x)
      ((σ.right.declareAll globalFrame ds').binding? f' x) := by
  obtain ⟨exists_, exists'⟩ := sound.exists_ _ _ sound.global
  have le : σ.LE (σ.declareAll ds ds') := sound.le_declareAll
  have names := swapped.names_perm
  by_cases here : f = globalFrame ∧ x ∈ FunctionDecl.names ds
  · obtain ⟨rfl, isName⟩ := here
    obtain rfl := (sound.unique _ _ _ _ together sound.global).1 rfl
    obtain ⟨d, mem, rfl⟩ := List.mem_map.1 isName
    obtain ⟨d', mem', alike⟩ := swapped.exists_alike mem
    obtain ⟨k, isAt⟩ := List.mem_iff_getElem?.1 mem
    obtain ⟨k', isAt'⟩ := List.mem_iff_getElem?.1 mem'
    have bound' := Heap.binding?_declareAll exists' (names.nodup_iff.1 distinct) isAt'
    rw [alike.name.lexeme] at bound'
    rw [Heap.binding?_declareAll exists_ distinct isAt, bound']
    refine .some (.function (.inr ⟨k, k', d, d', isAt, isAt', alike.name.lexeme, rfl, rfl⟩) ?_)
    refine ⟨sound.global, rfl, alike, .top, .top, ?_, rfl, rfl, fits d mem, fits' d' mem'⟩
    exact ⟨Nat.lt_of_lt_of_le exists_ le.left.frames, Nat.lt_of_lt_of_le exists' le.right.frames,
      fun _ => .none⟩
  · have here' : ¬ (f' = globalFrame ∧ x ∈ FunctionDecl.names ds') := by
      rw [← sound.unique f f' _ _ together sound.global, ← names.mem_iff]
      exact here
    rw [Heap.binding?_declareAll_of_ne exists_ (not_and.1 here),
      Heap.binding?_declareAll_of_ne exists' (not_and.1 here')]
    exact rel_mono (fun _ _ h => h.mono le) (sound.binding f f' together x)

theorem objectExists_declareAll {n n' : Nat} (together : (σ.declareAll ds ds').objects n n') :
    n < (σ.left.declareAll globalFrame ds).nextIdentity ∧
      n' < (σ.right.declareAll globalFrame ds').nextIdentity := by
  rw [Heap.nextIdentity_declareAll, Heap.nextIdentity_declareAll]
  rcases together with together | ⟨k, k', d, d', isAt, isAt', -, rfl, rfl⟩
  · obtain ⟨older, older'⟩ := sound.objectExists n n' together
    exact ⟨Nat.lt_add_right _ older, Nat.lt_add_right _ older'⟩
  · exact ⟨Nat.add_lt_add_left (List.getElem?_eq_some_iff.1 isAt).1 _,
      Nat.add_lt_add_left (List.getElem?_eq_some_iff.1 isAt').1 _⟩

/-- An object belongs to one object only: old ones do, new ones stand behind them, and no two
functions have the same name. -/
theorem objectUnique_declareAll (distinct : (FunctionDecl.names ds).Nodup)
    (distinct' : (FunctionDecl.names ds').Nodup) {n n' m m' : Nat}
    (together : (σ.declareAll ds ds').objects n n')
    (together' : (σ.declareAll ds ds').objects m m') : n = m ↔ n' = m' := by
  rcases together with together | ⟨k, k', d, d', isAt, isAt', same, rfl, rfl⟩ <;>
    rcases together' with together' | ⟨l, l', e, e', isAt₁, isAt₁', same', rfl, rfl⟩
  · exact sound.objectUnique n n' m m' together together'
  · obtain ⟨older, older'⟩ := sound.objectExists n n' together
    exact iff_of_false (Nat.ne_of_lt (Nat.lt_add_right _ older))
      (Nat.ne_of_lt (Nat.lt_add_right _ older'))
  · obtain ⟨older, older'⟩ := sound.objectExists m m' together'
    exact iff_of_false (Nat.ne_of_gt (Nat.lt_add_right _ older))
      (Nat.ne_of_gt (Nat.lt_add_right _ older'))
  · rw [Nat.add_left_cancel_iff, Nat.add_left_cancel_iff]
    constructor
    · rintro rfl
      cases isAt.symm.trans isAt₁
      exact index_unique distinct' isAt' isAt₁' (same'.trans same.symm)
    · rintro rfl
      cases isAt'.symm.trans isAt₁'
      exact index_unique distinct isAt isAt₁ (same'.symm.trans same)

/-- Functions that fit the top level may be declared in any order. -/
theorem declareAll (distinct : (FunctionDecl.names ds).Nodup)
    (swapped : FunctionDecl.Swapped ds ds')
    (fits : ∀ d ∈ ds, d.WellScoped (Recorded c.table) .top)
    (fits' : ∀ d ∈ ds', d.WellScoped (Recorded c.table') .top) :
    (σ.declareAll ds ds').Sound c where
  global := sound.global
  exists_ f f' together := by
    obtain ⟨older, older'⟩ := sound.exists_ f f' together
    have le : σ.LE (σ.declareAll ds ds') := sound.le_declareAll
    exact ⟨Nat.lt_of_lt_of_le older le.left.frames, Nat.lt_of_lt_of_le older' le.right.frames⟩
  unique := sound.unique
  binding _ _ together x := sound.binding_declareAll distinct swapped fits fits' together x
  instances := by
    change (σ.right.declareAll globalFrame ds').fields.size =
      (σ.left.declareAll globalFrame ds).fields.size
    rw [Heap.fields_declareAll, Heap.fields_declareAll, sound.instances]
  field a x := by
    change Option.Rel _ ((σ.left.declareAll globalFrame ds).field? a x)
      ((σ.right.declareAll globalFrame ds').field? a x)
    unfold Heap.field?
    rw [Heap.fields_declareAll, Heap.fields_declareAll]
    exact rel_mono (fun _ _ h => h.mono sound.le_declareAll) (sound.field a x)
  objectExists _ _ := sound.objectExists_declareAll
  objectUnique _ _ _ _ :=
    sound.objectUnique_declareAll distinct (swapped.names_perm.nodup_iff.1 distinct)

end Scene.Sound

namespace Evaluation

variable {c : Pairing} {j : Pair c} {p q q' r r' : List Stmt} {ds ds' : List FunctionDecl}

/-- Nothing is declared in a scope at the top level. -/
theorem allWellScoped_append {known : Position → SiteKind → Occurrence → Prop}
    (h : Stmt.AllWellScoped known .top (p ++ q)) :
    Stmt.AllWellScoped known .top p ∧ Stmt.AllWellScoped known .top q := by
  induction p with
  | nil => exact ⟨.nil, h⟩
  | cons s p ih =>
    cases h with
    | cons first rest =>
      have isTop : Position.top.after s = .top := by
        unfold Position.after Position.add
        split
        · exact Position.declare_top rfl
        · rfl
      rw [isTop] at rest
      obtain ⟨fits, fits'⟩ := ih rest
      exact ⟨.cons first (isTop.symm ▸ fits), fits'⟩

theorem wellScoped_functions {known : Position → SiteKind → Occurrence → Prop}
    (h : Stmt.AllWellScoped known .top (ds.map .functionDecl)) :
    ∀ d ∈ ds, d.WellScoped known .top := by
  induction ds with
  | nil => nofun
  | cons d ds ih =>
    cases h with
    | cons first rest =>
      cases first with
      | functionDecl _ _ fits =>
        exact List.forall_mem_cons.2 ⟨fits, ih rest⟩

/-- Declarations of functions in a row, in two orders. -/
theorem accompanies_declareAll (isFrame : j.left.frame = globalFrame)
    (isFrame' : j.right.frame = globalFrame) (distinct : (FunctionDecl.names ds).Nodup)
    (swapped : FunctionDecl.Swapped ds ds')
    (fits : ∀ d ∈ ds, d.WellScoped (Recorded c.table) .top)
    (fits' : ∀ d ∈ ds', d.WellScoped (Recorded c.table') .top) :
    Accompanies j (fun _ flow flow' => flow = .normal ∧ flow' = .normal)
      (executeAll (ds.map .functionDecl)) (executeAll (ds'.map .functionDecl)) := by
  intro outcome i ended
  obtain ⟨rfl, rfl⟩ := ended.unique (ends_declareAll _ _)
  refine ⟨_, _, ends_declareAll _ _, ?_⟩
  have sound := j.sound.declareAll distinct swapped fits fits'
  have isLeft : { j.left with heap := j.left.heap.declareAll j.left.frame ds } =
      (j.onScene sound).left :=
    congrArg (fun f => { j.left with heap := j.left.heap.declareAll f ds }) isFrame
  have isRight : { j.right with heap := j.right.heap.declareAll j.right.frame ds' } =
      (j.onScene sound).right :=
    congrArg (fun f => { j.right with heap := j.right.heap.declareAll f ds' }) isFrame'
  rw [isLeft, isRight]
  exact .ok (j.onScene sound) (j.ahead_onScene sound j.sound.le_declareAll) (And.intro rfl rfl)

/-- Whenever a program ends, the program in which functions of different names have changed places
ends in the same way. -/
theorem accompanies_reordered (level : j.Level .top .top) (isFrame : j.left.frame = globalFrame)
    (isFrame' : j.right.frame = globalFrame) (reordered : Stmt.Reordered p p')
    (fits : Stmt.AllWellScoped (Recorded c.table) .top p)
    (fits' : Stmt.AllWellScoped (Recorded c.table') .top p') :
    Accompanies j (fun _ _ _ => True) (interpret p) (interpret p') := by
  obtain @⟨q, q', r, r', ds, ds', before, row, distinct, after⟩ := reordered
  obtain ⟨fitsBefore, fitsRest⟩ := allWellScoped_append fits
  obtain ⟨fitsRow, fitsAfter⟩ := allWellScoped_append fitsRest
  obtain ⟨fitsBefore', fitsRest'⟩ := allWellScoped_append fits'
  obtain ⟨fitsRow', fitsAfter'⟩ := allWellScoped_append fitsRest'
  rw [interpret_eq, interpret_eq, executeAll_append, executeAll_append q', bind_assoc, bind_assoc]
  refine .bind (abreast_executeAll (Stmt.alikeAll_of_unnumbered before) level fitsBefore
    fitsBefore').accompanies fun j₁ flow flow' ahead flows _ => ?_
  cases flows with
  | returned value =>
    rw [pure_bind, pure_bind]
    exact (abreast_close (.returned value)).accompanies
  | normal =>
    dsimp only
    rw [executeAll_append, executeAll_append (ds'.map .functionDecl), bind_assoc, bind_assoc]
    have declared := accompanies_declareAll (ahead.frame.trans isFrame)
      (ahead.frame'.trans isFrame')
      distinct row (wellScoped_functions fitsRow) (wellScoped_functions fitsRow')
    refine .bind declared fun j₂ flow flow' ahead' isNormal _ => ?_
    obtain ⟨rfl, rfl⟩ := isNormal
    refine .bind (abreast_executeAll (Stmt.alikeAll_of_unnumbered after)
      ((level.later ahead).later ahead') fitsAfter fitsAfter').accompanies
      fun j₃ flow flow' _ flows _ => ?_
    exact (abreast_close flows).accompanies

end Evaluation

end Lox
