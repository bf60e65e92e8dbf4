import Lox.Proofs.Lexical.World

/-!
# Related states

The states of the two evaluators are related when their heaps are, frame by frame and name by name,
and everything else is equal. This file says what each operation does to related states.

## Main definitions

* `World.Sound`: what holds of the frames of a world.
* `World.SameHeap`, `World.Coherent`: related heaps and states.
* `World.addFrame`, `World.addName`: worlds with another frame, or with another name in a frame.
* `World.Together`: frames in which a name stands for the same variable.

## Main results

* `World.SameHeap.newFrame`, `World.SameHeap.declare`: new frames and declarations.
* `World.SameHeap.define`: variables that the evaluators share get values.
-/

namespace Lox.World

open Scope Evaluation

/-- What holds of the frames of a world. Frames of the lexical evaluator belong to frames of the
other one, and no two bind the same name for the same frame. -/
structure Sound (w : World) : Prop where
  root : w.frames[globalFrame]? = some ⟨none, none, none⟩
  rootCell : w.cells[globalFrame]? = some ⟨globalFrame, none, none⟩
  owner_lt : ∀ (g : FrameId) (cell : Cell), w.cells[g]? = some cell → cell.owner < w.frames.length
  local_ : ∀ (g : FrameId) (cell : Cell) (x : String), w.cells[g]? = some cell →
    cell.name = some x → cell.owner ≠ globalFrame
  single : ∀ (g g' : FrameId) (cell cell' : Cell) (x : String), w.cells[g]? = some cell →
    w.cells[g']? = some cell' → cell.owner = cell'.owner → cell.name = some x →
    cell'.name = some x → g = g'
  closed : ∀ task task', w.visited task → Routine.Begets body task task' → w.visited task'

/-- Receivers and superclasses stay what they were in the beginning. -/
def Fits (w : World) (f : FrameId) (x : String) (v : Value) : Prop :=
  ¬ Ordinary x → ∃ origin, w.frames[f]? = some origin ∧ origin.given = some (x, v)

theorem Fits.of_ordinary {w : World} {f : FrameId} {x : String} {v : Value} (h : Ordinary x) :
    w.Fits f x v :=
  fun special => absurd h special

theorem Fits.mono {w w' : World} (h : LE w w') {f : FrameId} {x : String} {v : Value}
    (fits : w.Fits f x v) : w'.Fits f x v := by
  intro special
  obtain ⟨origin, found, isGiven⟩ := fits special
  exact ⟨origin, getElem?_eq_of_initial h.frames found, isGiven⟩

/-- Related heaps. -/
structure SameHeap (w : World) (h h' : Heap) : Prop where
  size : h.frames.size = w.frames.length
  size' : h'.frames.size = w.cells.length
  parent : ∀ (f : FrameId) (origin : Origin), w.frames[f]? = some origin →
    h.parent? f = origin.parent
  parent' : ∀ (g : FrameId) (cell : Cell), w.cells[g]? = some cell → h'.parent? g = cell.parent
  bound : ∀ (g : FrameId) (cell : Cell) (x : String), w.cells[g]? = some cell →
    cell.name = some x → ∃ v v', h.binding? cell.owner x = some v ∧
      h'.binding? g x = some v' ∧ Same w v v' ∧ w.Fits cell.owner x v
  only : ∀ f x v, f ≠ globalFrame → h.binding? f x = some v →
    ∃ (g : FrameId) (cell : Cell), w.cells[g]? = some cell ∧ cell.owner = f ∧ cell.name = some x
  only' : ∀ g x v, g ≠ globalFrame → h'.binding? g x = some v →
    ∃ cell : Cell, w.cells[g]? = some cell ∧ cell.name = some x
  globals : ∀ x, Option.Rel (Same w) (h.binding? globalFrame x) (h'.binding? globalFrame x)
  fieldsSize : h'.fields.size = h.fields.size
  fields : ∀ address x, Option.Rel (Same w) (h.field? address x) (h'.field? address x)
  identity : h'.nextIdentity = h.nextIdentity

/-- Related states. The distances of the first are those that are known; the second has none to do
with. -/
structure Coherent (w : World) (s s' : Interpreter) : Prop where
  sound : w.Sound
  heap : SameHeap w s.heap s'.heap
  table : ∀ p kind o, w.known p kind o → s.distances[o.id]? = p.distance? o.name.lexeme
  numbered : ∀ p kind o, w.known p kind o → o.id < w.nextId
  unnumbered : ∀ id, w.nextId ≤ id → s.distances[id]? = none
  nextId : s.nextId = w.nextId
  nextId' : s'.nextId = w.nextId
  depth : s'.depth = s.depth
  sink : s'.sink = s.sink
  clock : s'.clock = s.clock
  readings : s'.readings = s.readings

/-- A world with another frame of each evaluator. -/
def addFrame (w : World) (parent : FrameId) (maker : Task) (parent' : FrameId)
    (given : Option (String × Value)) : World :=
  { w with
    frames := w.frames ++ [⟨some parent, some maker, given⟩]
    cells := w.cells ++ [⟨w.frames.length, given.map Prod.fst, some parent'⟩] }

/-- A world with another name in a frame. -/
def addName (w : World) (f : FrameId) (x : String) (parent' : FrameId) : World :=
  { w with cells := w.cells ++ [⟨f, some x, some parent'⟩] }

variable {w w' : World} {h h' : Heap} {f g parent parent' : FrameId} {maker : Task} {x : String}
  {v v' : Value} {given : Option (String × Value)}

/-- An element of a longer list is an old one or the new one. -/
theorem getElem?_concat {α : Type} {l : List α} {a b : α} {n : Nat}
    (found : (l ++ [a])[n]? = some b) : l[n]? = some b ∨ n = l.length ∧ b = a := by
  rcases Nat.lt_trichotomy n l.length with old | rfl | beyond
  · rw [List.getElem?_append_left old] at found
    exact .inl found
  · simp only [List.getElem?_concat_length, Option.some.injEq] at found
    exact .inr ⟨rfl, found.symm⟩
  · rw [List.getElem?_eq_none (by simp only [List.length_append, List.length_singleton]; omega)]
      at found
    cases found

/-! ### Growing worlds -/

theorem addFrame_extends : Extends nowhere w (w.addFrame parent maker parent' given) := by
  refine ⟨List.prefix_append _ _, List.prefix_append _ _, rfl, rfl, rfl,
    fun g cell x found new _ => ?_⟩
  rcases getElem?_concat found with old | ⟨-, rfl⟩
  · have := (List.getElem?_eq_some_iff.1 old).1
    omega
  · exact .inl (Nat.le_refl _)

theorem addName_extends :
    Extends (fun f' x' => f' = f ∧ some x = some x') w (w.addName f x parent') := by
  refine ⟨List.prefix_rfl, List.prefix_append _ _, rfl, rfl, rfl,
    fun g cell y found new named => ?_⟩
  rcases getElem?_concat found with old | ⟨-, rfl⟩
  · have := (List.getElem?_eq_some_iff.1 old).1
    omega
  · exact .inr ⟨rfl, named⟩

theorem Sound.size_pos (h : w.Sound) : globalFrame < w.frames.length :=
  (List.getElem?_eq_some_iff.1 h.root).1

theorem Sound.size_pos' (h : w.Sound) : globalFrame < w.cells.length :=
  (List.getElem?_eq_some_iff.1 h.rootCell).1

/-- The global frame of the lexical evaluator is of no single name. -/
theorem Sound.ne_rootCell (h : w.Sound) {cell : Cell} (found : w.cells[g]? = some cell)
    (named : cell.name = some x) : g ≠ globalFrame := by
  rintro rfl
  rw [h.rootCell] at found
  cases found
  cases named

theorem Sound.addFrame (h : w.Sound) : (w.addFrame parent maker parent' given).Sound where
  root := getElem?_eq_of_initial (List.prefix_append _ _) h.root
  rootCell := getElem?_eq_of_initial (List.prefix_append _ _) h.rootCell
  owner_lt g cell found := by
    have bound : (w.addFrame parent maker parent' given).frames.length = w.frames.length + 1 := by
      simp [World.addFrame]
    rcases getElem?_concat found with old | ⟨-, rfl⟩
    · exact bound ▸ Nat.lt_succ_of_lt (h.owner_lt g cell old)
    · exact bound ▸ Nat.lt_succ_self _
  local_ g cell x found named := by
    rcases getElem?_concat found with old | ⟨-, rfl⟩
    · exact h.local_ g cell x old named
    · exact Nat.ne_of_gt h.size_pos
  single g g' cell cell' x found found' same named named' := by
    rcases getElem?_concat found with old | ⟨rfl, rfl⟩ <;>
      rcases getElem?_concat found' with old' | ⟨rfl, rfl⟩
    · exact h.single g g' cell cell' x old old' same named named'
    · exact absurd same (Nat.ne_of_lt (h.owner_lt g cell old))
    · exact absurd same.symm (Nat.ne_of_lt (h.owner_lt g' cell' old'))
    · rfl
  closed := h.closed

theorem Sound.addName (h : w.Sound) (inside : f < w.frames.length) (isLocal : f ≠ globalFrame)
    (fresh : ∀ (g : FrameId) (cell : Cell), w.cells[g]? = some cell → cell.owner = f →
      cell.name ≠ some x) : (w.addName f x parent').Sound where
  root := h.root
  rootCell := getElem?_eq_of_initial (List.prefix_append _ _) h.rootCell
  owner_lt g cell found := by
    rcases getElem?_concat found with old | ⟨-, rfl⟩
    · exact h.owner_lt g cell old
    · exact inside
  local_ g cell x found named := by
    rcases getElem?_concat found with old | ⟨-, rfl⟩
    · exact h.local_ g cell x old named
    · exact isLocal
  single g g' cell cell' y found found' same named named' := by
    rcases getElem?_concat found with old | ⟨rfl, rfl⟩ <;>
      rcases getElem?_concat found' with old' | ⟨rfl, rfl⟩
    · exact h.single g g' cell cell' y old old' same named named'
    · exact absurd (named.trans named'.symm) (fresh g cell old same)
    · exact absurd (named'.trans named.symm) (fresh g' cell' old' same.symm)
    · rfl
  closed := h.closed

/-! ### Changing heaps -/

/-- Values stay related in a larger world. -/
theorem rel_same_mono (le : LE w w') {a b : Option Value} (related : Option.Rel (Same w) a b) :
    Option.Rel (Same w') a b :=
  rel_mono (fun _ _ => Same.mono le) related

/-- Heaps stay related in a world with the same frames that knows more. -/
theorem SameHeap.mono (same : SameHeap w h h') (le : LE w w') (frames : w'.frames = w.frames)
    (cells : w'.cells = w.cells) : SameHeap w' h h' where
  size := frames ▸ same.size
  size' := cells ▸ same.size'
  parent f origin found := same.parent f origin (frames ▸ found)
  parent' g cell found := same.parent' g cell (cells ▸ found)
  bound g cell x found named := by
    obtain ⟨v, v', isValue, isValue', related, fits⟩ := same.bound g cell x (cells ▸ found) named
    exact ⟨v, v', isValue, isValue', related.mono le, fits.mono le⟩
  only := cells ▸ same.only
  only' := cells ▸ same.only'
  globals x := rel_same_mono le (same.globals x)
  fieldsSize := same.fieldsSize
  fields address x := rel_same_mono le (same.fields address x)
  identity := same.identity

/-- The frames of the lexical evaluator have the parents that their cells tell, also with a new
frame. -/
theorem SameHeap.parent?_newCell (same : SameHeap w h h') (inside' : parent' < w.cells.length)
    {b : Bindings} {name : Option String} {cell : Cell}
    (found : (w.cells ++ [⟨f, name, some parent'⟩])[g]? = some cell) :
    (h'.newFrame (some parent') b).2.parent? g = cell.parent := by
  rw [Heap.parent?_newFrame]
  rcases getElem?_concat found with old | ⟨rfl, rfl⟩
  · have older := (List.getElem?_eq_some_iff.1 old).1
    rw [if_neg (Nat.ne_of_lt (same.size' ▸ older)), same.parent' g cell old]
  · rw [if_pos same.size'.symm]
    simp [same.size', inside']

/-- They bind only the names of their cells, also with a new frame that does so. -/
theorem SameHeap.exists_newCell (same : SameHeap w h h') {b : Bindings} {name : Option String}
    (only : ∀ (y : String) u, b[y]? = some u → name = some y) (isLocal : g ≠ globalFrame)
    (isValue : (h'.newFrame (some parent') b).2.binding? g x = some v) :
    ∃ cell : Cell, (w.cells ++ [⟨f, name, some parent'⟩])[g]? = some cell ∧ cell.name = some x := by
  rw [Heap.binding?_newFrame] at isValue
  split at isValue
  · next isNew =>
    exact ⟨_, by rw [isNew, same.size']; exact List.getElem?_concat_length, only x v isValue⟩
  · obtain ⟨cell, found, named⟩ := same.only' g x v isLocal isValue
    exact ⟨cell, getElem?_eq_of_initial (List.prefix_append _ _) found, named⟩

/-- Both evaluators add a frame. It binds at most the name that the world gives to it. -/
theorem SameHeap.newFrame (same : SameHeap w h h') (sound : w.Sound)
    (inside : parent < w.frames.length) (inside' : parent' < w.cells.length) {b b' : Bindings}
    (hBound : ∀ x v, given = some (x, v) → b[x]? = some v ∧ ∃ v', b'[x]? = some v' ∧
      Same (w.addFrame parent maker parent' given) v v')
    (hOnly : ∀ (x : String) v, b[x]? = some v → given.map Prod.fst = some x)
    (hOnly' : ∀ (x : String) v, b'[x]? = some v → given.map Prod.fst = some x) :
    SameHeap (w.addFrame parent maker parent' given) (h.newFrame (some parent) b).2
      (h'.newFrame (some parent') b').2 := by
  have le : LE w (w.addFrame parent maker parent' given) := addFrame_extends.le
  have size := same.size
  have size' := same.size'
  have rootInside : globalFrame < h.frames.size := size ▸ sound.size_pos
  have rootInside' : globalFrame < h'.frames.size := size' ▸ sound.size_pos'
  constructor
  case size => simp [addFrame, size]
  case size' => simp [addFrame, size']
  case parent =>
    intro f origin found
    rw [Heap.parent?_newFrame]
    rcases getElem?_concat found with old | ⟨rfl, rfl⟩
    · have older := (List.getElem?_eq_some_iff.1 old).1
      rw [if_neg (Nat.ne_of_lt (size ▸ older)), same.parent f origin old]
    · rw [if_pos size.symm]
      simp [size, inside]
  case parent' => exact fun g cell found => same.parent?_newCell inside' found
  case bound =>
    intro g cell x found named
    rw [Heap.binding?_newFrame, Heap.binding?_newFrame]
    rcases getElem?_concat found with old | ⟨rfl, rfl⟩
    · have older := (List.getElem?_eq_some_iff.1 old).1
      have ownerOlder := sound.owner_lt g cell old
      obtain ⟨v, v', isValue, isValue', related, fits⟩ := same.bound g cell x old named
      rw [if_neg (Nat.ne_of_lt (size ▸ ownerOlder)), if_neg (Nat.ne_of_lt (size' ▸ older))]
      exact ⟨v, v', isValue, isValue', related.mono le, fits.mono le⟩
    · obtain ⟨⟨_, v⟩, isGiven, rfl⟩ := Option.map_eq_some_iff.1 named
      obtain ⟨isValue, v', isValue', related⟩ := hBound _ v isGiven
      rw [if_pos size.symm, if_pos size'.symm]
      exact ⟨v, v', isValue, isValue', related,
        fun _ => ⟨_, List.getElem?_concat_length, isGiven⟩⟩
  case only =>
    intro f x v isLocal isValue
    rw [Heap.binding?_newFrame] at isValue
    split at isValue
    · next isNew =>
      exact ⟨w.cells.length, _, List.getElem?_concat_length, by rw [isNew, size],
        hOnly x v isValue⟩
    · obtain ⟨g, cell, found, owner, named⟩ := same.only f x v isLocal isValue
      exact ⟨g, cell, getElem?_eq_of_initial le.cells found, owner, named⟩
  case only' => exact fun g x v isLocal isValue => same.exists_newCell hOnly' isLocal isValue
  case globals =>
    intro x
    rw [Heap.binding?_newFrame, Heap.binding?_newFrame, if_neg (Nat.ne_of_lt rootInside),
      if_neg (Nat.ne_of_lt rootInside')]
    exact rel_same_mono le (same.globals x)
  case fieldsSize => exact same.fieldsSize
  case fields => exact fun address x => rel_same_mono le (same.fields address x)
  case identity => exact same.identity

/-- A name is declared in a frame: the lexical evaluator adds a frame that binds only the name. -/
theorem SameHeap.declare (same : SameHeap w h h') (sound : w.Sound) (inside : f < w.frames.length)
    (isLocal : f ≠ globalFrame) (inside' : parent' < w.cells.length)
    (fresh : ∀ (g : FrameId) (cell : Cell), w.cells[g]? = some cell → cell.owner = f →
      cell.name ≠ some x)
    (related : Same (w.addName f x parent') v v') (ordinary : Ordinary x) :
    SameHeap (w.addName f x parent') (h.define f x v)
      (h'.newFrame (some parent') ((∅ : Bindings).insert x v')).2 := by
  have le : LE w (w.addName f x parent') := addName_extends.le
  have size := same.size
  have size' := same.size'
  have inHeap : f < h.frames.size := size ▸ inside
  have rootInside' : globalFrame < h'.frames.size := size' ▸ sound.size_pos'
  have only (y : String) (u : Value) (found : ((∅ : Bindings).insert x v')[y]? = some u) :
      some x = some y :=
    congrArg some (Bindings.of_getElem?_single found).1
  constructor
  case size => simp [addName, size]
  case size' => simp [addName, size']
  case parent =>
    intro f' origin found
    rw [Heap.parent?_define]
    exact same.parent f' origin found
  case parent' => exact fun g cell found => same.parent?_newCell inside' found
  case bound =>
    intro g cell y found named
    rw [Heap.binding?_define inHeap, Heap.binding?_newFrame]
    rcases getElem?_concat found with old | ⟨rfl, rfl⟩
    · have older := (List.getElem?_eq_some_iff.1 old).1
      have other : ¬ (cell.owner = f ∧ y = x) := by
        rintro ⟨isOwner, rfl⟩
        exact fresh g cell old isOwner named
      obtain ⟨u, u', isValue, isValue', related, fits⟩ := same.bound g cell y old named
      rw [if_neg other, if_neg (Nat.ne_of_lt (size' ▸ older))]
      exact ⟨u, u', isValue, isValue', related.mono le, fits.mono le⟩
    · cases named
      rw [if_pos ⟨rfl, rfl⟩, if_pos size'.symm, Bindings.getElem?_single, if_pos rfl]
      exact ⟨v, v', rfl, rfl, related, .of_ordinary ordinary⟩
  case only =>
    intro f' y u isLocal' isValue
    rw [Heap.binding?_define inHeap] at isValue
    split at isValue
    · next isNew =>
      obtain ⟨rfl, rfl⟩ := isNew
      exact ⟨w.cells.length, _, List.getElem?_concat_length, rfl, rfl⟩
    · obtain ⟨g, cell, found, owner, named⟩ := same.only f' y u isLocal' isValue
      exact ⟨g, cell, getElem?_eq_of_initial le.cells found, owner, named⟩
  case only' => exact fun g y u isLocal' isValue => same.exists_newCell only isLocal' isValue
  case globals =>
    intro y
    rw [Heap.binding?_define inHeap, Heap.binding?_newFrame, if_neg (Nat.ne_of_lt rootInside'),
      if_neg fun isSame => isLocal isSame.1.symm]
    exact rel_same_mono le (same.globals y)
  case fieldsSize => exact same.fieldsSize
  case fields => exact fun address y => rel_same_mono le (same.fields address y)
  case identity => exact same.identity

/-! ### Shared variables -/

/-- Frames of the two evaluators in which a name stands for the same variable. -/
inductive Together (w : World) (x : String) : FrameId → FrameId → Prop
  | root : Together w x globalFrame globalFrame
  | cell {g : FrameId} {cell : Cell} (found : w.cells[g]? = some cell)
      (named : cell.name = some x) : Together w x cell.owner g

theorem Together.inside (together : w.Together x f g) (sound : w.Sound) :
    f < w.frames.length ∧ g < w.cells.length := by
  cases together with
  | root => exact ⟨sound.size_pos, sound.size_pos'⟩
  | cell found => exact ⟨sound.owner_lt _ _ found, (List.getElem?_eq_some_iff.1 found).1⟩

theorem Together.globalFrame_iff (together : w.Together x f g) (sound : w.Sound) :
    globalFrame = f ↔ globalFrame = g := by
  cases together with
  | root => rfl
  | cell found named =>
    exact iff_of_false (sound.local_ _ _ _ found named).symm (sound.ne_rootCell found named).symm

/-- A frame that binds the name for the first frame is the second one. -/
theorem Together.owner_iff (together : w.Together x f g) (sound : w.Sound) {g' : FrameId}
    {cell : Cell} (found : w.cells[g']? = some cell) (named : cell.name = some x) :
    cell.owner = f ↔ g' = g := by
  cases together with
  | root =>
    exact iff_of_false (sound.local_ _ _ _ found named) (sound.ne_rootCell found named)
  | cell found' named' =>
    refine ⟨fun isOwner => sound.single _ _ _ _ _ found found' isOwner named named', ?_⟩
    rintro rfl
    exact congrArg Cell.owner (Option.some.inj (found.symm.trans found'))

/-- Both evaluators give a value to a variable that they share. -/
theorem SameHeap.define (same : SameHeap w h h') (sound : w.Sound) (together : w.Together x f g)
    (related : Same w v v') (ordinary : f ≠ globalFrame → Ordinary x) :
    SameHeap w (h.define f x v) (h'.define g x v') := by
  obtain ⟨inside, inside'⟩ := together.inside sound
  have inHeap : f < h.frames.size := same.size ▸ inside
  have inHeap' : g < h'.frames.size := same.size' ▸ inside'
  constructor
  case size => rw [Heap.size_define, same.size]
  case size' => rw [Heap.size_define, same.size']
  case parent =>
    intro f' origin found
    rw [Heap.parent?_define, same.parent f' origin found]
  case parent' =>
    intro g' cell found
    rw [Heap.parent?_define, same.parent' g' cell found]
  case bound =>
    intro g' cell y found named
    have here : cell.owner = f ∧ y = x ↔ g' = g ∧ y = x :=
      and_congr_left fun isName => together.owner_iff sound found (isName ▸ named)
    rw [Heap.binding?_define inHeap, Heap.binding?_define inHeap']
    by_cases isHere : cell.owner = f ∧ y = x
    · rw [if_pos isHere, if_pos (here.1 isHere)]
      obtain ⟨rfl, rfl⟩ := isHere
      have isOrdinary := ordinary (sound.local_ g' cell y found named)
      exact ⟨v, v', rfl, rfl, related, .of_ordinary isOrdinary⟩
    · rw [if_neg isHere, if_neg (mt here.2 isHere)]
      exact same.bound g' cell y found named
  case only =>
    intro f' y u isLocal isValue
    rw [Heap.binding?_define inHeap] at isValue
    split at isValue
    · next isHere =>
      obtain ⟨rfl, rfl⟩ := isHere
      cases together with
      | root => exact absurd rfl isLocal
      | cell found named => exact ⟨g, _, found, rfl, named⟩
    · exact same.only f' y u isLocal isValue
  case only' =>
    intro g' y u isLocal isValue
    rw [Heap.binding?_define inHeap'] at isValue
    split at isValue
    · next isHere =>
      obtain ⟨rfl, rfl⟩ := isHere
      cases together with
      | root => exact absurd rfl isLocal
      | cell found named => exact ⟨_, found, named⟩
    · exact same.only' g' y u isLocal isValue
  case globals =>
    intro y
    have here : globalFrame = f ∧ y = x ↔ globalFrame = g ∧ y = x :=
      and_congr_left' (together.globalFrame_iff sound)
    rw [Heap.binding?_define inHeap, Heap.binding?_define inHeap']
    by_cases isHere : globalFrame = f ∧ y = x
    · rw [if_pos isHere, if_pos (here.1 isHere)]
      exact .some related
    · rw [if_neg isHere, if_neg (mt here.2 isHere)]
      exact same.globals y
  case fieldsSize => exact same.fieldsSize
  case fields => exact same.fields
  case identity => exact same.identity

/-- Both evaluators assign to a local variable. -/
theorem SameHeap.assign (same : SameHeap w h h') (sound : w.Sound) {cell : Cell}
    (found : w.cells[g]? = some cell) (named : cell.name = some x) (related : Same w v v')
    (ordinary : Ordinary x) : SameHeap w (h.define cell.owner x v) (h'.define g x v') :=
  same.define sound (.cell found named) related fun _ => ordinary

/-- Both evaluators bind a global name. -/
theorem SameHeap.assignGlobal (same : SameHeap w h h') (sound : w.Sound) (related : Same w v v') :
    SameHeap w (h.define globalFrame x v) (h'.define globalFrame x v') :=
  same.define sound .root related fun isLocal => absurd rfl isLocal

/-! ### Objects -/

/-- Both evaluators give a field of an instance a value. -/
theorem SameHeap.setField (same : SameHeap w h h') (address : Nat) (related : Same w v v') :
    SameHeap w (h.setField address x v) (h'.setField address x v') := by
  refine { same with fieldsSize := ?_, fields := fun address' y => ?_ }
  · simp [Heap.setField, same.fieldsSize]
  · rw [Heap.field?_setField, Heap.field?_setField, same.fieldsSize]
    split
    · exact .some related
    · exact same.fields address' y

/-- Both evaluators add an instance. -/
theorem SameHeap.newInstance (same : SameHeap w h h') :
    SameHeap w h.newInstance.2 h'.newInstance.2 := by
  refine { same with fieldsSize := ?_, fields := fun address x => ?_ }
  · simp [Heap.newInstance, same.fieldsSize]
  · rw [Heap.field?_newInstance, Heap.field?_newInstance]
    exact same.fields address x

/-- Both evaluators make an object with an identity. -/
theorem SameHeap.newIdentity (same : SameHeap w h h') :
    SameHeap w h.newIdentity.2 h'.newIdentity.2 :=
  { same with identity := congrArg (· + 1) same.identity }

end Lox.World
