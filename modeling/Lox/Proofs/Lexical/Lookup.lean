import Lox.Proofs.Lexical.State

/-!
# Distances find what lexical scoping finds

At a place whose layers the frames follow, the frame at the distance of a name and the nearest frame
of the lexical evaluator that binds the name belong together. A name that no layer holds is looked
up among the global names by both.

## Main results

* `World.Around.found`, `World.Around.notFound`: the two ways to look up a name.
* `World.Around.layer`: the frame at the distance of a layer was made where the layer was opened.
* `World.Around.ancestor?_length`: there is one frame for each layer.
-/

namespace Lox

open Scope Evaluation

namespace Heap

theorem ancestor?_succ {heap : Heap} {f p : FrameId} (h : heap.parent? f = some p) (d : Nat) :
    heap.ancestor? f (d + 1) = heap.ancestor? p d := by
  rw [ancestor?, h]

end Heap

namespace World

variable {w : World} {h h' : Heap} {f g : FrameId} {x : String} {layers : List Layer} {d : Nat}

/-- A frame of the lexical evaluator binds no other name than its own. -/
theorem SameHeap.binding?_eq_none (same : SameHeap w h h') (sound : w.Sound) {cell : Cell}
    (found : w.cells[g]? = some cell) (other : cell.name ≠ some x) (inner : cell.parent ≠ none) :
    h'.binding? g x = none := by
  refine Option.eq_none_iff_forall_ne_some.2 fun v isValue => ?_
  have isLocal : g ≠ globalFrame := by
    rintro rfl
    rw [sound.rootCell] at found
    cases found
    exact inner rfl
  obtain ⟨cell', found', named⟩ := same.only' g x v isLocal isValue
  rw [found] at found'
  cases found'
  exact other named

/-- Frames that bind other names are passed by. -/
theorem SameHeap.owner?_eq_parent (same : SameHeap w h h') (sound : w.Sound)
    {owner parent : FrameId}
    {name : Option String} (found : w.cells[g]? = some ⟨owner, name, some parent⟩)
    (other : name ≠ some x) : h'.owner? g x = h'.owner? parent x :=
  Heap.owner?_eq_parent (same.binding?_eq_none sound found other nofun) (same.parent' g _ found)

theorem SameHeap.owner?_eq_self (same : SameHeap w h h') {cell : Cell}
    (found : w.cells[g]? = some cell) (named : cell.name = some x) :
    h'.owner? g x = some g := by
  obtain ⟨v, v', -, isValue', -, -⟩ := same.bound g cell x found named
  exact Heap.owner?_eq_self isValue'

/-- A name that a layer holds: the frame at its distance, and the nearest frame of the lexical
evaluator that binds it, belong together. -/
theorem Around.found (around : Around w f g layers) (same : SameHeap w h h') (sound : w.Sound)
    (isDistance : layerDistance? x layers = some d) :
    ∃ (g₀ : FrameId) (cell : Cell), w.cells[g₀]? = some cell ∧ cell.name = some x ∧
      h.ancestor? f d = some cell.owner ∧ h'.owner? g x = some g₀ := by
  induction around generalizing d with
  | root => cases isDistance
  | opened frame cell made executes outer ih =>
    rw [layerDistance?_of_notMem List.not_mem_nil] at isDistance
    obtain ⟨d', isDistance', rfl⟩ := Option.map_eq_some_iff.1 isDistance
    obtain ⟨g₀, cell₀, found, named, isAncestor, isOwner⟩ := ih isDistance'
    refine ⟨g₀, cell₀, found, named, ?_, ?_⟩
    · rw [Heap.ancestor?_succ (same.parent _ _ frame), isAncestor]
    · rw [same.owner?_eq_parent sound cell nofun, isOwner]
  | @bound f g f' g' opener y v layers maker frame cell made executes outer ih =>
    by_cases isName : x = y
    · subst isName
      rw [layerDistance?_of_mem List.mem_cons_self] at isDistance
      cases isDistance
      exact ⟨g, _, cell, rfl, rfl, same.owner?_eq_self cell rfl⟩
    · rw [layerDistance?_of_notMem (by simpa using isName)] at isDistance
      obtain ⟨d', isDistance', rfl⟩ := Option.map_eq_some_iff.1 isDistance
      obtain ⟨g₀, cell₀, found, named, isAncestor, isOwner⟩ := ih isDistance'
      have other : some y ≠ some x := fun isSame => isName (Option.some.inj isSame).symm
      refine ⟨g₀, cell₀, found, named, ?_, ?_⟩
      · rw [Heap.ancestor?_succ (same.parent _ _ frame), isAncestor]
      · rw [same.owner?_eq_parent sound cell other, isOwner]
  | @declared f g g' opener y names layers cell inner ih =>
    by_cases isName : x = y
    · subst isName
      rw [layerDistance?_of_mem List.mem_cons_self] at isDistance
      cases isDistance
      exact ⟨g, _, cell, rfl, rfl, same.owner?_eq_self cell rfl⟩
    · rw [layerDistance?_cons_of_ne isName] at isDistance
      obtain ⟨g₀, cell₀, found, named, isAncestor, isOwner⟩ := ih isDistance
      have other : some y ≠ some x := fun isSame => isName (Option.some.inj isSame).symm
      exact ⟨g₀, cell₀, found, named, isAncestor,
        (same.owner?_eq_parent sound cell other).trans isOwner⟩

/-- A name that no layer holds is looked up among the global names. -/
theorem Around.notFound (around : Around w f g layers) (same : SameHeap w h h') (sound : w.Sound)
    (noDistance : layerDistance? x layers = none) : h'.owner? g x = h'.owner? globalFrame x := by
  induction around with
  | root => rfl
  | opened frame cell made executes outer ih =>
    rw [layerDistance?_of_notMem List.not_mem_nil, Option.map_eq_none_iff] at noDistance
    rw [same.owner?_eq_parent sound cell nofun, ih noDistance]
  | @bound f g f' g' opener y v layers maker frame cell made executes outer ih =>
    by_cases isName : x = y
    · rw [layerDistance?_of_mem (by simp [isName])] at noDistance
      cases noDistance
    · have other : some y ≠ some x := fun isSame => isName (Option.some.inj isSame).symm
      rw [layerDistance?_of_notMem (by simpa using isName), Option.map_eq_none_iff] at noDistance
      rw [same.owner?_eq_parent sound cell other, ih noDistance]
  | @declared f g g' opener y names layers cell inner ih =>
    by_cases isName : x = y
    · rw [layerDistance?_of_mem (by simp [isName])] at noDistance
      cases noDistance
    · have other : some y ≠ some x := fun isSame => isName (Option.some.inj isSame).symm
      rw [layerDistance?_cons_of_ne isName] at noDistance
      rw [same.owner?_eq_parent sound cell other, ih noDistance]

/-- The frame at the distance of a layer was made by a goal that executes the part of the program
which opens the layer, in code whose frame is one further out. -/
theorem Around.layer (around : Around w f g layers) (same : SameHeap w h h') {layer : Layer}
    (isLayer : layers[d]? = some layer) :
    ∃ (f₀ f₁ : FrameId) (maker : Task) (given : Option (String × Value)),
      h.ancestor? f d = some f₀ ∧ h.ancestor? f (d + 1) = some f₁ ∧
      w.frames[f₀]? = some ⟨some f₁, some maker, given⟩ ∧ w.Made maker f₀ ∧
      Executes maker layer.opener f₁ given := by
  induction around generalizing d layer with
  | root => cases isLayer
  | @opened f g f' g' opener layers maker frame cell made executes outer ih =>
    have isParent := same.parent _ _ frame
    cases d with
    | zero =>
      cases isLayer
      exact ⟨f, f', maker, _, rfl, Heap.ancestor?_succ isParent 0, frame, made, executes⟩
    | succ d =>
      obtain ⟨f₀, f₁, maker₀, given, found, found', rest⟩ := ih isLayer
      exact ⟨f₀, f₁, maker₀, given, (Heap.ancestor?_succ isParent d).trans found,
        (Heap.ancestor?_succ isParent (d + 1)).trans found', rest⟩
  | @bound f g f' g' opener y v layers maker frame cell made executes outer ih =>
    have isParent := same.parent _ _ frame
    cases d with
    | zero =>
      cases isLayer
      exact ⟨f, f', maker, _, rfl, Heap.ancestor?_succ isParent 0, frame, made, executes⟩
    | succ d =>
      obtain ⟨f₀, f₁, maker₀, given, found, found', rest⟩ := ih isLayer
      exact ⟨f₀, f₁, maker₀, given, (Heap.ancestor?_succ isParent d).trans found,
        (Heap.ancestor?_succ isParent (d + 1)).trans found', rest⟩
  | @declared f g g' opener y names layers cell inner ih =>
    cases d with
    | zero =>
      cases isLayer
      exact @ih 0 ⟨opener, names⟩ rfl
    | succ d =>
      have isOuter : (⟨opener, names⟩ :: layers : List Layer)[d + 1]? = some layer := isLayer
      exact ih isOuter

/-- There is one frame for each layer inside the global frame. -/
theorem Around.ancestor?_length (around : Around w f g layers) (same : SameHeap w h h') :
    h.ancestor? f layers.length = some globalFrame := by
  induction around with
  | root => rfl
  | opened frame _ _ _ _ ih =>
    rw [List.length_cons, Heap.ancestor?_succ (same.parent _ _ frame), ih]
  | bound frame _ _ _ _ ih =>
    rw [List.length_cons, Heap.ancestor?_succ (same.parent _ _ frame), ih]
  | declared _ _ ih => exact ih

/-- Outside every layer both are in the global frame. -/
theorem Around.eq_globalFrame (around : Around w f g layers) (top : layers = []) :
    f = globalFrame ∧ g = globalFrame := by
  cases around with
  | root => exact ⟨rfl, rfl⟩
  | _ => cases top

/-- The innermost frame of the lexical evaluator binds the name that was declared last. -/
theorem Around.cell_of_cons {opener : Node} {names : List String}
    (around : Around w f g (⟨opener, x :: names⟩ :: layers)) :
    ∃ parent, w.cells[g]? = some ⟨f, some x, parent⟩ := by
  cases around with
  | bound frame cell => exact ⟨_, cell⟩
  | declared cell => exact ⟨_, cell⟩

/-- The frames of a place exist. -/
theorem Around.inside (around : Around w f g layers) (sound : w.Sound) :
    f < w.frames.length ∧ g < w.cells.length := by
  have lt {α : Type} {l : List α} {n : Nat} {a : α} (found : l[n]? = some a) : n < l.length :=
    (List.getElem?_eq_some_iff.1 found).1
  cases around with
  | root => exact ⟨lt sound.root, lt sound.rootCell⟩
  | opened frame cell => exact ⟨lt frame, lt cell⟩
  | bound frame cell => exact ⟨lt frame, lt cell⟩
  | declared cell => exact ⟨sound.owner_lt _ _ cell, lt cell⟩

/-- The frames of a place inside a layer are not the global ones. -/
theorem Around.ne_globalFrame (around : Around w f g layers) (sound : w.Sound)
    (inner : layers ≠ []) : f ≠ globalFrame ∧ g ≠ globalFrame := by
  have ne_root {f f' : FrameId} {maker : Task} {given : Option (String × Value)}
      (frame : w.frames[f]? = some ⟨some f', some maker, given⟩) : f ≠ globalFrame := by
    rintro rfl
    rw [sound.root] at frame
    cases frame
  have ne_rootCell {g g' f : FrameId} {name : Option String}
      (cell : w.cells[g]? = some ⟨f, name, some g'⟩) : g ≠ globalFrame := by
    rintro rfl
    rw [sound.rootCell] at cell
    cases cell
  induction around with
  | root => exact absurd rfl inner
  | opened frame cell => exact ⟨ne_root frame, ne_rootCell cell⟩
  | bound frame cell => exact ⟨ne_root frame, ne_rootCell cell⟩
  | declared cell _ ih => exact ⟨(ih (List.cons_ne_nil _ _)).1, ne_rootCell cell⟩

/-! ### Global names -/

theorem SameHeap.parent?_globalFrame (same : SameHeap w h h') (sound : w.Sound) :
    h.parent? globalFrame = none ∧ h'.parent? globalFrame = none :=
  ⟨same.parent globalFrame _ sound.root, same.parent' globalFrame _ sound.rootCell⟩

/-- Both evaluators find a global name, or neither does. -/
theorem SameHeap.owner?_globalFrame (same : SameHeap w h h') (sound : w.Sound) (x : String) :
    (h.owner? globalFrame x = some globalFrame ∧ h'.owner? globalFrame x = some globalFrame ∧
      ∃ v v', h.binding? globalFrame x = some v ∧ h'.binding? globalFrame x = some v' ∧
        Same w v v') ∨
      (h.owner? globalFrame x = none ∧ h'.owner? globalFrame x = none) := by
  obtain ⟨root, root'⟩ := same.parent?_globalFrame sound
  rcases rel_cases (same.globals x) with ⟨v, v', isValue, isValue', isSame⟩ | ⟨unbound, unbound'⟩
  · exact .inl ⟨Heap.owner?_eq_self isValue, Heap.owner?_eq_self isValue', v, v', isValue, isValue',
      isSame⟩
  · exact .inr ⟨Heap.owner?_eq_none unbound root, Heap.owner?_eq_none unbound' root'⟩

theorem SameHeap.get_globalFrame (same : SameHeap w h h') (sound : w.Sound) (name : Token) :
    SameResult w (h.get globalFrame name) (h'.get globalFrame name) := by
  unfold Heap.get
  rcases same.owner?_globalFrame sound name.lexeme with
    ⟨isOwner, isOwner', v, v', isValue, isValue', isSame⟩ | ⟨noOwner, noOwner'⟩
  · rw [isOwner, isOwner', Option.bind_some, Option.bind_some, isValue, isValue']
    exact .ok isSame
  · rw [noOwner, noOwner']
    exact .error nofun

/-! ### Occurrences -/

variable {f' : FrameId}

/-- The value at a distance and the value that is found outward. -/
theorem Around.getAt (around : Around w f g layers) (same : SameHeap w h h') (sound : w.Sound)
    (isDistance : layerDistance? x layers = some d) (line line' : Nat) (kind : TokenKind) :
    ∃ v v' f₀, h.getAt f d x line = .ok v ∧ h'.get g ⟨kind, x, line'⟩ = .ok v' ∧ Same w v v' ∧
      h.ancestor? f d = some f₀ ∧ w.Fits f₀ x v := by
  obtain ⟨g₀, cell, found, named, isAncestor, isOwner⟩ := around.found same sound isDistance
  obtain ⟨v, v', isValue, isValue', isSame, fits⟩ := same.bound g₀ cell x found named
  refine ⟨v, v', cell.owner, ?_, ?_, isSame, isAncestor, fits⟩
  · rw [Heap.getAt, isAncestor, Option.bind_some, isValue]
  · rw [Heap.get, isOwner, Option.bind_some, isValue']

/-- A receiver or a superclass is what its frame was given when it was made. -/
theorem Around.given (around : Around w f g layers) (same : SameHeap w h h') (sound : w.Sound)
    (isDistance : layerDistance? x layers = some d) (special : ¬ Ordinary x) (line line' : Nat)
    (kind : TokenKind) :
    ∃ (layer : Layer) (f₀ f₁ : FrameId) (maker : Task) (v v' : Value), layers[d]? = some layer ∧
      h.ancestor? f d = some f₀ ∧ h.ancestor? f (d + 1) = some f₁ ∧ w.Made maker f₀ ∧
      Executes maker layer.opener f₁ (some (x, v)) ∧ h.getAt f d x line = .ok v ∧
      h'.get g ⟨kind, x, line'⟩ = .ok v' ∧ Same w v v' := by
  have isLayer := List.getElem?_eq_getElem (layerDistance?_lt isDistance)
  obtain ⟨f₀, f₁, maker, given, found, found', frame, made, executes⟩ := around.layer same isLayer
  obtain ⟨v, v', f₀', isValue, isValue', isSame, isAncestor, fits⟩ :=
    around.getAt same sound isDistance line line' kind
  obtain rfl : f₀ = f₀' := Option.some.inj (found.symm.trans isAncestor)
  obtain ⟨origin, found'', isGiven⟩ := fits special
  obtain rfl : _ = origin := Option.some.inj (frame.symm.trans found'')
  exact ⟨_, f₀, f₁, maker, v, v', isLayer, found, found', made, isGiven ▸ executes, isValue,
    isValue', isSame⟩

/-- The frames in which both evaluators assign to a name of a layer belong together. -/
theorem Around.targetAt (around : Around w f g layers) (same : SameHeap w h h') (sound : w.Sound)
    {name : Token} (isDistance : layerDistance? name.lexeme layers = some d) :
    ∃ (g₀ : FrameId) (cell : Cell), w.cells[g₀]? = some cell ∧ cell.name = some name.lexeme ∧
      h.targetAt f d name = .ok cell.owner ∧ h'.target g name = .ok g₀ := by
  obtain ⟨g₀, cell, found, named, isAncestor, isOwner⟩ := around.found same sound isDistance
  obtain ⟨v, v', isValue, -, -, -⟩ := same.bound g₀ cell name.lexeme found named
  have isOwnerAt : h.ownerAt? f d name.lexeme = some cell.owner := by
    rw [Heap.ownerAt?, isAncestor, Option.filter_some, Heap.binds_eq_isSome, isValue]
    rfl
  refine ⟨g₀, cell, found, named, ?_, ?_⟩
  · rw [Heap.targetAt, isOwnerAt]
  · rw [Heap.target, isOwner]

end World

end Lox
