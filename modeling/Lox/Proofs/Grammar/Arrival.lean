import Lox.Proofs.Grammar.Promise

/-!
# Readings without errors

For the converse of soundness only readings without errors matter. They are described by what they
arrive at: a result, and the cursor behind it.

## Main definitions

* `Parser.Arrives`, `Parser.Answers`: a computation, or a request, has a result that meets a
  condition.
* `Parser.Gets`: the condition that the result is some tree, up to numbers, and that certain tokens
  are left.
-/

namespace Lox.Parser

variable {α β : Type} {p : Phrase}

/-- A computation has a result, and result and cursor left meet a condition. -/
def Arrives (job : Parse α) (c : Cursor) (post : α → Cursor → Prop) : Prop :=
  Job.Delivers step job c fun _ outcome t => ∃ a, outcome = .ok a ∧ post a t

/-- A request is answered by a tree, and tree and cursor left meet a condition. -/
def Answers (request : Request p) (c : Cursor) (post : p.Tree → Cursor → Prop) : Prop :=
  Job.Settled step request c fun _ outcome t => ∃ tree, outcome = .ok tree ∧ post tree t

/-- The end of the treatment of a request: a tree that meets the condition, or another request that
is answered so. -/
def Resolves (post : p.Tree → Cursor → Prop) (ending : Step p) (t : Cursor) : Prop :=
  match ending with
  | .finished tree => post tree t
  | .handOver request => Answers request t post

/-- The tree is read up to numbers, the given tokens are left, and no error was noted. -/
def Gets (last : Token) (errors : List SyntaxError) (forget : α → β) (tree : α)
    (rest : List Token) (a : α) (t : Cursor) : Prop :=
  forget a = forget tree ∧ ∃ id, t = ⟨rest, last, id, errors⟩

section

variable {c : Cursor} {post : α → Cursor → Prop}

theorem Arrives.mono {post' : α → Cursor → Prop} {job : Parse α} (h : Arrives job c post)
    (le : ∀ a t, post a t → post' a t) : Arrives job c post' := by
  refine Job.Delivers.mono h ?_
  rintro _ _ t ⟨a, rfl, met⟩
  exact ⟨a, rfl, le a t met⟩

theorem Answers.mono {request : Request p} {post post' : p.Tree → Cursor → Prop}
    (h : Answers request c post) (le : ∀ a t, post a t → post' a t) :
    Answers request c post' := by
  refine Job.Settled.mono h ?_
  rintro _ _ t ⟨a, rfl, met⟩
  exact ⟨a, rfl, le a t met⟩

theorem Arrives.bind {job : Parse β} {next : β → Parse α}
    (h : Arrives job c fun b t => Arrives (next b) t post) : Arrives (job >>= next) c post := by
  refine Job.Delivers.bind (Job.Delivers.mono h ?_)
  rintro _ _ t ⟨b, rfl, met⟩
  exact met

theorem Arrives.pure {a : α} (h : post a c) : Arrives (pure a) c post :=
  Job.Delivers.pure ⟨a, rfl, h⟩

theorem Arrives.map {job : Parse β} {f : β → α} (h : Arrives job c fun b => post (f b)) :
    Arrives (f <$> job) c post := by
  refine Job.Delivers.map (Job.Delivers.mono h ?_)
  rintro _ _ t ⟨b, rfl, met⟩
  exact ⟨f b, rfl, met⟩

/-- A result is not caught. -/
theorem Arrives.tryCatch {job : Parse α} {handler : SyntaxError → Parse α}
    (h : Arrives job c post) : Arrives (tryCatch job handler) c post := by
  refine Job.Delivers.tryCatch (Job.Delivers.mono h ?_)
  rintro _ _ t ⟨a, rfl, met⟩
  exact ⟨a, rfl, met⟩

theorem Arrives.ask {request : Request p} {post : p.Tree → Cursor → Prop}
    (h : Answers request c post) : Arrives (Parse.ask request) c post :=
  Job.Delivers.ask h

/-- A request is answered as its treatment ends. -/
theorem Answers.intro {request : Request p} {post : p.Tree → Cursor → Prop}
    (h : Arrives (step p request) c (Resolves post)) : Answers request c post := by
  refine Job.Settled.intro (Job.Delivers.mono h ?_)
  rintro _ _ t ⟨tree | request', rfl, met⟩
  · exact ⟨tree, rfl, met⟩
  · exact met

theorem Arrives.finish {tree : p.Tree} {post : p.Tree → Cursor → Prop} (h : post tree c) :
    Arrives (finish tree : Parse (Step p)) c (Resolves post) :=
  Arrives.pure h

theorem Arrives.handOver {request : Request p} {post : p.Tree → Cursor → Prop}
    (h : Answers request c post) :
    Arrives (handOver request : Parse (Step p)) c (Resolves post) :=
  Arrives.pure h

end

/-! ### Single tokens -/

section

variable {rest : List Token} {last t : Token} {id : NodeId} {errors : List SyntaxError}

theorem arrives_get {c : Cursor} {next : Cursor → Parse α} {post : α → Cursor → Prop}
    (h : Arrives (next c) c post) : Arrives (get >>= next) c post :=
  Arrives.bind (Job.Delivers.get ⟨c, rfl, h⟩)

theorem arrives_peek {c : Cursor} {next : Token → Parse α} {post : α → Cursor → Prop}
    (h : Arrives (next c.peek) c post) : Arrives (Parse.peek >>= next) c post :=
  delivers_peek h

theorem arrives_sees {c : Cursor} {s : Symbol} {next : Bool → Parse α} {post : α → Cursor → Prop}
    (h : Arrives (next (c.peek.isSymbol s)) c post) : Arrives (Parse.sees s >>= next) c post :=
  delivers_sees h

theorem arrives_atEnd {c : Cursor} {next : Bool → Parse α} {post : α → Cursor → Prop}
    (h : Arrives (next c.atEnd) c post) : Arrives (Parse.atEnd >>= next) c post :=
  delivers_atEnd h

variable {post : α → Cursor → Prop}

theorem arrives_advance {next : PUnit → Parse α}
    (h : Arrives (next ⟨⟩) ⟨rest, last, id, errors⟩ post) :
    Arrives (Parse.advance >>= next) ⟨t :: rest, last, id, errors⟩ post :=
  Arrives.bind (Job.Delivers.modify ⟨⟨⟩, rfl, h⟩)

theorem arrives_accept {s : Symbol} {next : Bool → Parse α} (isSymbol : t.isSymbol s = true)
    (h : Arrives (next true) ⟨rest, last, id, errors⟩ post) :
    Arrives (Parse.accept s >>= next) ⟨t :: rest, last, id, errors⟩ post := by
  refine delivers_accept (fun _ => arrives_advance h) fun isOther => ?_
  change t.isSymbol s = false at isOther
  rw [isSymbol] at isOther
  cases isOther

theorem arrives_accept_not {c : Cursor} {s : Symbol} {next : Bool → Parse α}
    (isOther : c.peek.isSymbol s = false) (h : Arrives (next false) c post) :
    Arrives (Parse.accept s >>= next) c post := by
  refine delivers_accept (fun isSymbol => ?_) fun _ => h
  rw [isSymbol] at isOther
  cases isOther

theorem arrives_expectSymbol {s : Symbol} {place : Place} {next : Token → Parse α}
    (isSymbol : t.isSymbol s = true) (h : Arrives (next t) ⟨rest, last, id, errors⟩ post) :
    Arrives (Parse.expectSymbol s place >>= next) ⟨t :: rest, last, id, errors⟩ post := by
  refine Arrives.bind (arrives_peek ?_)
  rw [if_pos (show (Cursor.peek ⟨t :: rest, last, id, errors⟩).isSymbol s = true from isSymbol)]
  exact arrives_advance (Arrives.pure h)

theorem arrives_expectName {role : NameRole} {next : Token → Parse α}
    (isName : t.kind = .identifier) (h : Arrives (next t) ⟨rest, last, id, errors⟩ post) :
    Arrives (Parse.expectName role >>= next) ⟨t :: rest, last, id, errors⟩ post := by
  refine Arrives.bind (arrives_peek ?_)
  rw [show (Cursor.peek ⟨t :: rest, last, id, errors⟩).kind = .identifier from isName]
  exact arrives_advance (Arrives.pure h)

theorem arrives_occurrence {name : Token} {next : Occurrence → Parse α}
    (h : Arrives (next ⟨id, name⟩) ⟨rest, last, id + 1, errors⟩ post) :
    Arrives (Parse.occurrence name >>= next) ⟨rest, last, id, errors⟩ post :=
  Arrives.bind (Job.Delivers.modifyGet ⟨_, rfl, h⟩)

end

end Lox.Parser
