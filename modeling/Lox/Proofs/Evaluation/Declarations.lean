import Lox.Proofs.Evaluation.Sequence
import Lox.Proofs.Heap.Graph

/-!
# Functions in a row

To execute the declaration of a function is to make one object and to bind its name to it. Nothing
is evaluated, so declarations in a row always end well. If the names differ, each of them is bound
to the object that was made for it.

## Main definitions

* `FunctionDecl.names`: the names of functions.
* `Heap.declareAll`: a heap behind the declarations of functions in a row.

## Main results

* `Heap.binding?_declareAll`, `Heap.binding?_declareAll_of_ne`: the names behind the declarations.
* `Evaluation.ends_declareAll`: declarations in a row end in that heap.
-/

namespace Lox

/-- The names of functions. -/
abbrev FunctionDecl.names (ds : List FunctionDecl) : List String :=
  ds.map fun d => d.name.lexeme

namespace Heap

/-- The declaration of a function is executed in a frame. -/
def declare (heap : Heap) (f : FrameId) (d : FunctionDecl) : Heap :=
  heap.newIdentity.2.define f d.name.lexeme (.function heap.nextIdentity ⟨d, f, false⟩)

/-- The declarations of functions in a row are executed in a frame. -/
def declareAll (heap : Heap) (f : FrameId) (ds : List FunctionDecl) : Heap :=
  ds.foldl (fun heap d => heap.declare f d) heap

variable {heap : Heap} {f g : FrameId} {d : FunctionDecl} {ds : List FunctionDecl} {x : String}

@[simp] theorem nextIdentity_declare : (heap.declare f d).nextIdentity = heap.nextIdentity + 1 :=
  rfl

@[simp] theorem fields_declare : (heap.declare f d).fields = heap.fields :=
  rfl

theorem binding?_declare (exists_ : f < heap.frames.size) :
    (heap.declare f d).binding? g x = if g = f ∧ x = d.name.lexeme then
      some (.function heap.nextIdentity ⟨d, f, false⟩) else heap.binding? g x :=
  @binding?_define heap.newIdentity.2 _ _ _ _ _ exists_

theorem grown_declare (exists_ : f < heap.frames.size) : heap.Grown (heap.declare f d) :=
  grown_newIdentity.trans (@grown_define heap.newIdentity.2 _ _ _ exists_)

theorem nextIdentity_declareAll :
    (heap.declareAll f ds).nextIdentity = heap.nextIdentity + ds.length := by
  induction ds generalizing heap with
  | nil => rfl
  | cons d ds ih =>
    rw [declareAll, List.foldl_cons, ← declareAll, ih, nextIdentity_declare, List.length_cons,
      Nat.add_right_comm, Nat.add_assoc]

theorem fields_declareAll : (heap.declareAll f ds).fields = heap.fields := by
  induction ds generalizing heap with
  | nil => rfl
  | cons d ds ih => exact ih.trans fields_declare

theorem grown_declareAll (exists_ : f < heap.frames.size) :
    heap.Grown (heap.declareAll f ds) := by
  induction ds generalizing heap with
  | nil => exact .refl heap
  | cons d ds ih =>
    have grown : heap.Grown (heap.declare f d) := grown_declare exists_
    exact grown.trans (ih (Nat.lt_of_lt_of_le exists_ grown.frames))

/-- Other names keep their values. -/
theorem binding?_declareAll_of_ne (exists_ : f < heap.frames.size)
    (other : g = f → x ∉ FunctionDecl.names ds) :
    (heap.declareAll f ds).binding? g x = heap.binding? g x := by
  induction ds generalizing heap with
  | nil => rfl
  | cons d ds ih =>
    have grown : heap.Grown (heap.declare f d) := grown_declare exists_
    rw [declareAll, List.foldl_cons, ← declareAll, ih (Nat.lt_of_lt_of_le exists_ grown.frames)
      fun here mem => other here (List.mem_cons_of_mem _ mem), binding?_declare exists_, if_neg]
    rintro ⟨here, rfl⟩
    exact other here List.mem_cons_self

/-- If the names differ, each of them is bound to the function that it names. -/
theorem binding?_declareAll (exists_ : f < heap.frames.size)
    (distinct : (FunctionDecl.names ds).Nodup) {k : Nat} (isAt : ds[k]? = some d) :
    (heap.declareAll f ds).binding? f d.name.lexeme =
      some (.function (heap.nextIdentity + k) ⟨d, f, false⟩) := by
  induction ds generalizing heap k with
  | nil => cases isAt
  | cons d' ds ih =>
    have grown : heap.Grown (heap.declare f d') := grown_declare exists_
    have exists' := Nat.lt_of_lt_of_le exists_ grown.frames
    rw [FunctionDecl.names, List.map_cons, List.nodup_cons] at distinct
    rw [declareAll, List.foldl_cons, ← declareAll]
    cases k with
    | zero =>
      cases isAt
      rw [binding?_declareAll_of_ne exists' fun _ => distinct.1, binding?_declare exists_,
        if_pos ⟨rfl, rfl⟩]
      rfl
    | succ k =>
      rw [ih exists' distinct.2 isAt, nextIdentity_declare, Nat.add_assoc, Nat.add_comm 1 k]

end Heap

namespace Evaluation

variable {i j : Interpreter} {p p' : List Stmt}

/-- The declaration of a function ends well. -/
theorem ends_declare (i : Interpreter) (d : FunctionDecl) :
    Ends (execute (.functionDecl d)) i (.ok .normal)
      { i with heap := i.heap.declare i.frame d } :=
  ends_ask_iff.2 (.inr (.inl ⟨.normal, rfl, 1, rfl⟩))

/-- So do declarations of functions in a row. -/
theorem ends_declareAll (i : Interpreter) (ds : List FunctionDecl) :
    Ends (executeAll (ds.map .functionDecl)) i (.ok .normal)
      { i with heap := i.heap.declareAll i.frame ds } := by
  induction ds generalizing i with
  | nil => exact ends_pure_iff.2 ⟨rfl, rfl⟩
  | cons d ds ih =>
    exact ends_bind_iff.2 (.inr ⟨.normal, _, ends_declare i d, ih _⟩)

end Evaluation

end Lox
