import Lox.Proofs.Scope.Reading
import Lox.Proofs.Scope.WellScoped
import Mathlib.Data.List.Forall2

/-!
# Open scopes and layers

While a program is read, the open scopes show the layers of the place that has been reached: the
same parts of the program open them, and they hold the same names. This file says what each event
does to scopes and layers.

## Main definitions

* `Scope.Mirrors`: the open scopes show the layers of a place.
* `Scope.Charted`: an occurrence of a name is visited at a place.

## Main results

* `Scope.Mirrors.distance?_eq`: the reading finds the distances of the place.
* `Scope.Mirrors.declare`, `Scope.Mirrors.define`, `Scope.Mirrors.opening`,
  `Scope.Mirrors.closing`: the events that change scopes.
-/

namespace Lox.Scope

/-- A scope holds the names of a layer, all of them ready for use. -/
def Shows (scope : Names) (layer : Layer) : Prop :=
  ∀ x : String, scope[x]? = if x ∈ layer.names then some true else none

/-- The open scopes show the layers of a place. A name that is being declared there is in the
innermost scope as well, and `ready` says whether it is ready for use. -/
inductive Mirrors (ready : Bool) (r : Reading) (p : Position) : Prop
  | settled (pending : p.pending = none) (shows : List.Forall₂ Shows r.analysis.scopes p.layers)
      (openers : r.openers = p.layers.map Layer.opener)
  | awaiting {x : String} {scope : Names} {scopes : List Names} {layer : Layer}
      {layers : List Layer} (pending : p.pending = some x)
      (isScopes : r.analysis.scopes = scope :: scopes) (isLayers : p.layers = layer :: layers)
      (first : ∀ y : String, scope[y]? =
        if y = x then some ready else if y ∈ layer.names then some true else none)
      (rest : List.Forall₂ Shows scopes layers) (openers : r.openers = p.layers.map Layer.opener)

/-- An occurrence of a name is visited at a place, while the program is read. A variable that is
being declared is not ready where it is assigned. -/
def Charted (program : List Stmt) (p : Position) (kind : SiteKind) (o : Occurrence) : Prop :=
  ∃ ready r, Visit program ⟨kind, o⟩ r ∧ Mirrors ready r p ∧ (kind = .assignment → ready = false)

/-! ### What the scopes say -/

section

variable {ready : Bool} {r r' : Reading} {p q : Position} {x : String} {n : Node} {scope : Names}
  {scopes : List Names} {layer : Layer} {layers : List Layer}

theorem Shows.contains_eq (shows : Shows scope layer) :
    scope.contains x = decide (x ∈ layer.names) := by
  rw [Std.TreeMap.contains_eq_isSome_getElem?, shows x]
  split <;> simp [*]

/-- Scopes find a name where the layers have it. -/
theorem distance?_eq (shows : List.Forall₂ Shows scopes layers) :
    distance? x scopes = layerDistance? x layers := by
  induction shows with
  | nil => rfl
  | cons first _ ih =>
    simp only [distance?, layerDistance?, first.contains_eq, decide_eq_true_eq, ih]

/-- The reading finds the distances of the place. -/
theorem Mirrors.distance?_eq (mirrors : Mirrors ready r p) (x : String) :
    distance? x r.analysis.scopes = p.distance? x := by
  cases mirrors with
  | settled pending shows _ => rw [Scope.distance?_eq shows, Position.distance?_of_settled pending]
  | @awaiting y scope scopes layer layers pending isScopes isLayers first rest _ =>
    have contains : scope.contains x = decide (x = y ∨ x ∈ layer.names) := by
      rw [Std.TreeMap.contains_eq_isSome_getElem?, first x]
      by_cases isName : x = y
      · simp [isName]
      · by_cases mem : x ∈ layer.names <;> simp [isName, mem]
    rw [isScopes, distance?, contains, Scope.distance?_eq rest, Position.distance?, pending,
      isLayers,
      layerDistance?]
    by_cases isName : x = y
    · simp [isName]
    · have other : ¬ some y = some x := fun same => isName (Option.some.inj same).symm
      simp [isName, other]

theorem Mirrors.length_eq (mirrors : Mirrors ready r p) :
    r.analysis.scopes.length = p.layers.length := by
  cases mirrors with
  | settled _ shows _ => exact shows.length_eq
  | awaiting _ isScopes isLayers _ rest _ =>
    rw [isScopes, isLayers, List.length_cons, List.length_cons, rest.length_eq]

theorem Mirrors.openers (mirrors : Mirrors ready r p) :
    r.openers = p.layers.map Layer.opener := by
  cases mirrors with
  | settled _ _ openers => exact openers
  | awaiting _ _ _ _ _ openers => exact openers

/-- A name that is not ready is being declared. -/
theorem Mirrors.pending_of_local? (mirrors : Mirrors ready r p)
    (notReady : r.analysis.local? x = some false) : p.pending = some x := by
  unfold Analysis.local? at notReady
  cases mirrors with
  | settled _ shows _ =>
    cases isLayers : p.layers with
    | nil =>
      rw [isLayers, List.forall₂_nil_right_iff] at shows
      rw [shows] at notReady
      cases notReady
    | cons layer layers =>
      rw [isLayers] at shows
      obtain ⟨scope, scopes, first, -, isScopes⟩ := List.forall₂_cons_right_iff.1 shows
      rw [isScopes, List.head?_cons, Option.bind_some, first x] at notReady
      split at notReady <;> cases notReady
  | awaiting pending isScopes isLayers first rest _ =>
    rw [isScopes, List.head?_cons, Option.bind_some, first x] at notReady
    split at notReady
    · next isName => rw [pending, isName]
    · split at notReady <;> cases notReady

/-- A name that is being declared is as ready as the scopes say. -/
theorem Mirrors.local?_of_pending (mirrors : Mirrors ready r p) (pending : p.pending = some x) :
    r.analysis.local? x = some ready := by
  cases mirrors with
  | settled settled _ _ =>
    rw [settled] at pending
    cases pending
  | awaiting pending' isScopes isLayers first rest _ =>
    obtain rfl : _ = x := Option.some.inj (pending'.symm.trans pending)
    rw [Analysis.local?, isScopes, List.head?_cons, Option.bind_some, first, if_pos rfl]

/-- Only scopes matter. -/
theorem Mirrors.congr (mirrors : Mirrors ready r p)
    (scopes : r'.analysis.scopes = r.analysis.scopes) (openers : r'.openers = r.openers) :
    Mirrors ready r' p := by
  cases mirrors with
  | settled pending shows isOpener => exact .settled pending (scopes ▸ shows) (openers ▸ isOpener)
  | awaiting pending isScopes isLayers first rest isOpener =>
    exact .awaiting pending (scopes.trans isScopes) isLayers first rest (openers ▸ isOpener)

/-! ### Events that change scopes -/

theorem Mirrors.shows (mirrors : Mirrors ready r p) (settled : p.pending = none) :
    List.Forall₂ Shows r.analysis.scopes p.layers := by
  cases mirrors with
  | settled _ shows _ => exact shows
  | awaiting pending =>
    rw [settled] at pending
    cases pending

theorem forall₂_tail {α β : Type} {R : α → β → Prop} {l : List α} {l' : List β}
    (h : List.Forall₂ R l l') : List.Forall₂ R l.tail l'.tail := by
  cases h with
  | nil => exact .nil
  | cons _ rest => exact rest

/-- A scope opens. -/
theorem Mirrors.opening (mirrors : Mirrors ready r p) (settled : p.pending = none)
    (inner : q.layers = ⟨n, []⟩ :: p.layers) (settled' : q.pending = none) :
    Mirrors ready (r.take (n, .opening)) q := by
  have shows : List.Forall₂ Shows (∅ :: r.analysis.scopes) (⟨n, []⟩ :: p.layers) := by
    refine .cons (fun x => ?_) (mirrors.shows settled)
    rw [if_neg List.not_mem_nil]
    exact Std.TreeMap.getElem?_emptyc
  refine .settled settled' (inner ▸ shows) ?_
  rw [inner, List.map_cons, ← mirrors.openers]
  rfl

/-- The innermost scope closes. -/
theorem Mirrors.closing (mirrors : Mirrors ready r q) (settled : q.pending = none)
    (outer : q.layers.tail = p.layers) (settled' : p.pending = none) :
    Mirrors ready (r.take (n, .closing)) p := by
  have shows := mirrors.shows settled
  refine .settled settled' ?_ ?_
  · change List.Forall₂ Shows r.analysis.scopes.tail p.layers
    rw [← outer]
    exact forall₂_tail shows
  · change r.openers.tail = _
    rw [mirrors.openers, ← outer, List.map_tail]

theorem getElem?_insert {scope : Names} {x y : String} {b : Bool} :
    (scope.insert x b)[y]? = if y = x then some b else scope[y]? := by
  rw [Std.TreeMap.getElem?_insert]
  simp only [Std.LawfulEqCmp.compare_eq_iff_eq]
  by_cases isName : x = y
  · rw [if_pos isName, if_pos isName.symm]
  · rw [if_neg isName, if_neg (Ne.symm isName)]

/-- The innermost scope of a place in a layer. -/
theorem Mirrors.exists_scope (mirrors : Mirrors ready r p) (settled : p.pending = none)
    (isLayers : p.layers = layer :: layers) :
    ∃ scope scopes, r.analysis.scopes = scope :: scopes ∧ Shows scope layer ∧
      List.Forall₂ Shows scopes layers := by
  have shows := mirrors.shows settled
  rw [isLayers] at shows
  obtain ⟨scope, scopes, first, rest, isScopes⟩ := List.forall₂_cons_right_iff.1 shows
  exact ⟨scope, scopes, isScopes, first, rest⟩

/-- Outside every layer no scope is open. -/
theorem Mirrors.scopes_eq_nil (mirrors : Mirrors ready r p) (top : p.layers = []) :
    r.analysis.scopes = [] :=
  List.eq_nil_of_length_eq_zero (by rw [mirrors.length_eq, top, List.length_nil])

/-- A name is entered outside every scope, where nothing happens. -/
theorem Mirrors.enter_top (mirrors : Mirrors ready r p) (top : p.layers = []) (b : Bool) :
    r.analysis.enter x b = r.analysis := by
  unfold Analysis.enter
  rw [mirrors.scopes_eq_nil top]

/-- A name is entered in the innermost scope. -/
theorem Analysis.scopes_enter (a : Analysis) (isScopes : a.scopes = scope :: scopes) (b : Bool) :
    (a.enter x b).scopes = scope.insert x b :: scopes := by
  unfold Analysis.enter
  rw [isScopes]

/-- A new name is declared. -/
theorem Mirrors.declare (mirrors : Mirrors ready r p) (settled : p.pending = none) {name : Token}
    (noErrors : (r.take (n, .declare name)).analysis.errors = []) :
    p.Fresh name.lexeme ∧ Mirrors false (r.take (n, .declare name)) (p.await name.lexeme) := by
  have isNew : r.analysis.local? name.lexeme = none := by
    refine Option.not_isSome_iff_eq_none.1 fun isDeclared => ?_
    change (r.analysis.declare name).errors = [] at noErrors
    rw [Analysis.declare, if_pos isDeclared] at noErrors
    cases noErrors
  have entered : (r.take (n, .declare name)).analysis = r.analysis.enter name.lexeme false := by
    change r.analysis.declare name = _
    rw [Analysis.declare, isNew, Option.isSome_none, if_neg Bool.false_ne_true]
  cases isLayers : p.layers with
  | nil =>
    rw [mirrors.enter_top isLayers] at entered
    rw [Position.await_top isLayers]
    refine ⟨fun layer isHead => ?_, .settled settled ?_ mirrors.openers⟩
    · rw [isLayers] at isHead
      cases isHead
    · rw [entered]
      exact mirrors.shows settled
  | cons layer layers =>
    obtain ⟨scope, scopes, isScopes, first, rest⟩ := mirrors.exists_scope settled isLayers
    have notHere : name.lexeme ∉ layer.names := by
      intro mem
      rw [Analysis.local?, isScopes, List.head?_cons, Option.bind_some, first, if_pos mem] at isNew
      cases isNew
    have scopes' := Analysis.scopes_enter (x := name.lexeme) r.analysis isScopes false
    rw [← entered] at scopes'
    refine ⟨fun layer' isHead => ?_, .awaiting (Position.pending_await isLayers) scopes'
      (Position.layers_await.trans isLayers) (fun y => ?_) rest ?_⟩
    · rw [isLayers] at isHead
      cases isHead
      exact notHere
    · rw [getElem?_insert, first]
    · exact mirrors.openers.trans (congrArg _ Position.layers_await.symm)

/-- A declared name becomes ready for use. -/
theorem Mirrors.define {name : Token} (mirrors : Mirrors ready r (p.await name.lexeme))
    (settled : p.pending = none) :
    Mirrors true (r.take (n, .define name)) (p.await name.lexeme) := by
  have entered : (r.take (n, .define name)).analysis = r.analysis.enter name.lexeme true := rfl
  cases isLayers : p.layers with
  | nil =>
    rw [Position.await_top isLayers] at mirrors ⊢
    rw [mirrors.enter_top isLayers] at entered
    exact .settled settled (entered ▸ mirrors.shows settled) mirrors.openers
  | cons layer layers =>
    have isPending := Position.pending_await (x := name.lexeme) isLayers
    cases mirrors with
    | settled pending =>
      rw [isPending] at pending
      cases pending
    | awaiting pending isScopes isLayers' first rest openers =>
      obtain rfl : name.lexeme = _ := Option.some.inj (isPending.symm.trans pending)
      have scopes := Analysis.scopes_enter (x := name.lexeme) r.analysis isScopes true
      rw [← entered] at scopes
      refine .awaiting isPending scopes isLayers' (fun y => ?_) rest openers
      rw [getElem?_insert, first]
      by_cases isName : y = name.lexeme
      · rw [if_pos isName, if_pos isName]
      · rw [if_neg isName, if_neg isName, if_neg isName]

/-- A name that is ready for use need not be awaited any more. -/
theorem Mirrors.settle (mirrors : Mirrors true r (p.await x)) (settled : p.pending = none) :
    Mirrors ready r (p.declare x) := by
  cases isLayers : p.layers with
  | nil =>
    rw [Position.await_top isLayers] at mirrors
    rw [Position.declare_top isLayers]
    exact .settled settled (mirrors.shows settled) mirrors.openers
  | cons layer layers =>
    have isPending := Position.pending_await (x := x) isLayers
    have openers := mirrors.openers
    rw [Position.layers_await, isLayers] at openers
    cases mirrors with
    | settled pending =>
      rw [isPending] at pending
      cases pending
    | awaiting pending isScopes isLayers' first rest _ =>
      obtain rfl : x = _ := Option.some.inj (isPending.symm.trans pending)
      rw [Position.layers_await, isLayers] at isLayers'
      cases isLayers'
      refine .settled (Position.pending_declare.trans settled) ?_ ?_
      · rw [isScopes, Position.layers_declare isLayers]
        refine .cons (fun y => ?_) rest
        rw [first]
        by_cases isName : y = x
        · rw [if_pos isName, if_pos (isName ▸ List.mem_cons_self)]
        · by_cases mem : y ∈ layer.names <;> simp [isName, mem]
      · rw [Position.layers_declare isLayers]
        exact openers

/-- A name that is not written in the source is entered. -/
theorem Mirrors.implicit (mirrors : Mirrors ready r p) (settled : p.pending = none) :
    Mirrors ready (r.take (n, .implicit x)) (p.declare x) := by
  have entered : (r.take (n, .implicit x)).analysis = r.analysis.enter x true := rfl
  cases isLayers : p.layers with
  | nil =>
    rw [mirrors.enter_top isLayers] at entered
    rw [Position.declare_top isLayers]
    exact .settled settled (entered ▸ mirrors.shows settled) mirrors.openers
  | cons layer layers =>
    obtain ⟨scope, scopes, isScopes, first, rest⟩ := mirrors.exists_scope settled isLayers
    refine .settled (Position.pending_declare.trans settled) ?_ ?_
    · rw [entered, Analysis.scopes_enter r.analysis isScopes, Position.layers_declare isLayers]
      refine .cons (fun y => ?_) rest
      rw [getElem?_insert, first]
      by_cases isName : y = x
      · rw [if_pos isName, if_pos (isName ▸ List.mem_cons_self)]
      · by_cases mem : y ∈ layer.names <;> simp [isName, mem]
    · have openers := mirrors.openers
      rw [isLayers] at openers
      rw [Position.layers_declare isLayers]
      exact openers

end

end Lox.Scope
