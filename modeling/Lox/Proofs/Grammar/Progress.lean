import Lox.Proofs.Routine.Cost
import Lox.Proofs.Grammar.Derivation
import Lox.Proofs.Scope.Numbering
import Lox.Tree.Parser.Grammar

/-!
# Progress among tokens

Reading a phrase passes tokens, and every token that is passed pays for a hundred moves of the loop.
A phrase is read with a *credit* of moves that is granted in advance; when it has been read, a
*surplus* of what its tokens paid is handed on. Bounds on the whole are found by adding up credits
and surpluses in the order in which phrases are read.

## Main definitions

* `Cursor.Passes`: from one cursor to another, certain tokens have been passed.
* `Parser.Reads`: moves, outcome and cursor left keep to a credit and a surplus, and a result for
  which no error was noted is good.
* `Parser.Treats`: the same for the treatment of a request, which may hand over.

## Main results

* `Parser.Reads.bind`, `Parser.Treats.bind`: the surplus of what was read is credit for the rest.
-/

namespace Lox

/-- From the cursor `c`, the tokens `ts` have been passed. The token that ends the input stays, and
is one that ends an input; numbers and errors are only added. -/
structure Cursor.Passes (c : Cursor) (ts : List Token) (t : Cursor) : Prop where
  rest_eq : c.rest = ts ++ t.rest
  last_eq : t.last = c.last
  closed : t.last.kind.isEnd = true
  nextId_le : c.nextId ≤ t.nextId
  noted_le : c.errors.length ≤ t.errors.length

namespace Cursor

variable {c t u : Cursor} {ts us : List Token}

theorem Passes.refl (closed : c.last.kind.isEnd = true) : c.Passes [] c :=
  ⟨rfl, rfl, closed, Nat.le_refl _, Nat.le_refl _⟩

theorem Passes.trans (h : c.Passes ts t) (h' : t.Passes us u) : c.Passes (ts ++ us) u where
  rest_eq := by rw [h.rest_eq, h'.rest_eq, List.append_assoc]
  last_eq := h'.last_eq.trans h.last_eq
  closed := h'.closed
  nextId_le := Nat.le_trans h.nextId_le h'.nextId_le
  noted_le := Nat.le_trans h.noted_le h'.noted_le

theorem Passes.length_eq (h : c.Passes ts t) : c.rest.length = ts.length + t.rest.length := by
  rw [h.rest_eq, List.length_append]

/-- A token that does not end the input can be passed. -/
theorem passes_advance (closed : c.last.kind.isEnd = true) (inside : c.peek.kind.isEnd = false) :
    c.Passes [c.peek] c.advance := by
  obtain ⟨rest, last, nextId, errors⟩ := c
  cases rest with
  | nil =>
    change last.kind.isEnd = false at inside
    rw [closed] at inside
    cases inside
  | cons t rest => exact ⟨rfl, rfl, closed, Nat.le_refl _, Nat.le_refl _⟩

theorem isEnd_of_isSymbol {t : Token} {s : Symbol} (h : t.isSymbol s = true) :
    t.kind.isEnd = false := by
  rw [Token.isSymbol_iff.1 h]
  rfl

theorem isEnd_of_isKeyword {t : Token} {k : Keyword} (h : t.isKeyword k = true) :
    t.kind.isEnd = false := by
  rw [Token.isKeyword_iff.1 h]
  rfl

end Cursor

namespace Parser

variable {α β : Type} {p : Phrase}

/-- What reading from the cursor `c` comes to: the moves keep to the credit, a result leaves the
surplus over, and it is good if no error was noted on the way. -/
def Reads (credit surplus : Nat) (c : Cursor) (good : List Token → α → Cursor → Prop) (n : Nat)
    (outcome : Except SyntaxError α) (t : Cursor) : Prop :=
  ∃ ts, c.Passes ts t ∧
    match outcome with
    | .ok a => n + surplus ≤ 100 * ts.length + credit ∧
        (t.errors.length = c.errors.length → good ts a t)
    | .error _ => n ≤ 100 * ts.length + credit

/-- What the treatment of a request comes to: it reads, or hands over to another request that, taken
with what was read before, does. -/
def Treats (credit surplus : Nat) (c : Cursor) (good : List Token → p.Tree → Cursor → Prop)
    (n : Nat) (outcome : Except SyntaxError (Step p)) (t : Cursor) : Prop :=
  match outcome with
  | .ok (.finished tree) => Reads credit surplus c good n (.ok tree) t
  | .ok (.handOver request) =>
    Job.Settled step request t fun m => Reads credit surplus c good (n + m + 1)
  | .error e => Reads credit surplus c good n (.error e) t

section

variable {credit surplus cost gain : Nat} {c t : Cursor} {ts : List Token}
  {good : List Token → α → Cursor → Prop} {before : List Token → β → Cursor → Prop}

theorem treats_finished {good : List Token → p.Tree → Cursor → Prop} {n : Nat} {tree : p.Tree} :
    Treats credit surplus c good n (.ok (.finished tree)) t ↔
      Reads credit surplus c good n (.ok tree) t := Iff.rfl

theorem treats_error {good : List Token → p.Tree → Cursor → Prop} {n : Nat} {e : SyntaxError} :
    Treats credit surplus c good n (.error e) t ↔
      Reads credit surplus c good n (.error e) t := Iff.rfl

/-- What was read before is taken together with what is read now. -/
theorem Reads.shift {n m : Nat} {b : β} {outcome : Except SyntaxError α} {u : Cursor}
    (passes : c.Passes ts t) (enough : cost ≤ credit) (paid : n + gain ≤ 100 * ts.length + cost)
    (isBefore : t.errors.length = c.errors.length → before ts b t)
    (h : Reads (credit + gain - cost) surplus t
      (fun us a u => before ts b t → good (ts ++ us) a u) m outcome u) :
    Reads credit surplus c good (n + m) outcome u := by
  obtain ⟨us, passes', rest⟩ := h
  have isLength : (ts ++ us).length = ts.length + us.length := List.length_append
  refine ⟨ts ++ us, passes.trans passes', ?_⟩
  cases outcome with
  | ok a =>
    obtain ⟨paid', isGood⟩ := rest
    refine ⟨by omega, fun clean => ?_⟩
    have le := passes.noted_le
    have le' := passes'.noted_le
    exact isGood (by omega) (isBefore (by omega))
  | error e =>
    change m ≤ _ at rest
    change n + m ≤ _
    omega

/-- An error keeps to the credit that is left. -/
theorem Reads.shift_error {n : Nat} {e : SyntaxError} {u : Cursor} (enough : cost ≤ credit)
    (h : Reads cost gain c before n (.error e) u) :
    Reads credit surplus c good n (.error e) u := by
  obtain ⟨us, passes, paid⟩ := h
  change n ≤ _ at paid
  exact ⟨us, passes, by change n ≤ _; omega⟩

/-- Read one thing, then another: the surplus of the first is credit for the second. -/
theorem Reads.bind {job : Parse β} {next : β → Parse α}
    (first : Job.Delivers step job c (Reads cost gain c before)) (enough : cost ≤ credit)
    (rest : ∀ ts b t, c.Passes ts t → gain ≤ 100 * ts.length + cost →
      Job.Delivers step (next b) t (Reads (credit + gain - cost) surplus t
        fun us a u => before ts b t → good (ts ++ us) a u)) :
    Job.Delivers step (job >>= next) c (Reads credit surplus c good) := by
  refine .bind (first.mono ?_)
  rintro n (e | b) t h
  · exact h.shift_error enough
  · obtain ⟨ts, passes, paid, isBefore⟩ := h
    refine (rest ts b t passes (by omega)).mono fun m outcome u h' => ?_
    exact h'.shift passes enough paid isBefore

theorem Treats.shift {good : List Token → p.Tree → Cursor → Prop} {n m : Nat} {b : β}
    {outcome : Except SyntaxError (Step p)} {u : Cursor} (passes : c.Passes ts t)
    (enough : cost ≤ credit) (paid : n + gain ≤ 100 * ts.length + cost)
    (isBefore : t.errors.length = c.errors.length → before ts b t)
    (h : Treats (credit + gain - cost) surplus t
      (fun us a u => before ts b t → good (ts ++ us) a u) m outcome u) :
    Treats credit surplus c good (n + m) outcome u := by
  rcases outcome with e | tree | request
  · exact (treats_error.1 h).shift passes enough paid isBefore
  · exact (treats_finished.1 h).shift passes enough paid isBefore
  · refine Job.Settled.mono h fun m' outcome u h' => ?_
    rw [show n + m + m' + 1 = n + (m + m' + 1) by omega]
    exact h'.shift passes enough paid isBefore

theorem Treats.bind {good : List Token → p.Tree → Cursor → Prop} {job : Parse β}
    {next : β → Parse (Step p)} (first : Job.Delivers step job c (Reads cost gain c before))
    (enough : cost ≤ credit)
    (rest : ∀ ts b t, c.Passes ts t → gain ≤ 100 * ts.length + cost →
      Job.Delivers step (next b) t (Treats (credit + gain - cost) surplus t
        fun us a u => before ts b t → good (ts ++ us) a u)) :
    Job.Delivers step (job >>= next) c (Treats credit surplus c good) := by
  refine .bind (first.mono ?_)
  rintro n (e | b) t h
  · exact treats_error.2 (h.shift_error enough)
  · obtain ⟨ts, passes, paid, isBefore⟩ := h
    refine (rest ts b t passes (by omega)).mono fun m outcome u h' => ?_
    exact h'.shift passes enough paid isBefore

/-- End with a result, out of what is left of the credit. -/
theorem Reads.pure {a : α} (closed : c.last.kind.isEnd = true) (enough : surplus ≤ credit)
    (isGood : good [] a c) : Job.Delivers step (pure a : Parse α) c (Reads credit surplus c good) :=
  .pure ⟨[], .refl closed, by change 0 + surplus ≤ 0 + credit; omega, fun _ => isGood⟩

theorem Treats.finish {good : List Token → p.Tree → Cursor → Prop} {tree : p.Tree}
    (closed : c.last.kind.isEnd = true) (enough : surplus ≤ credit) (isGood : good [] tree c) :
    Job.Delivers step (finish tree : Parse (Step p)) c (Treats credit surplus c good) :=
  .pure ⟨[], .refl closed, by change 0 + surplus ≤ 0 + credit; omega, fun _ => isGood⟩

/-- Hand over to another request, which takes one move. -/
theorem Treats.handOver {good before : List Token → p.Tree → Cursor → Prop} {request : Request p}
    (h : Job.Settled step request c (Reads cost gain c before)) (enough : cost + 1 ≤ credit)
    (left : surplus + cost + 1 ≤ credit + gain) (isGood : ∀ ts tree t, before ts tree t →
      good ts tree t) :
    Job.Delivers step (handOver request : Parse (Step p)) c (Treats credit surplus c good) := by
  refine .pure (h.mono ?_)
  rintro n (e | tree) t ⟨ts, passes, rest⟩
  · change n ≤ _ at rest
    exact ⟨ts, passes, by change 0 + n + 1 ≤ _; omega⟩
  · obtain ⟨paid, isBefore⟩ := rest
    exact ⟨ts, passes, by omega, fun clean => isGood ts tree t (isBefore clean)⟩

/-- A request whose treatment reads is settled. -/
theorem Treats.settled {request : Request p} {good : List Token → p.Tree → Cursor → Prop}
    (h : Job.Delivers step (step p request) c (Treats credit surplus c good)) :
    Job.Settled step request c (Reads credit surplus c good) := by
  refine .intro (h.mono ?_)
  rintro n (e | tree | request') t h'
  · exact h'
  · exact h'
  · exact h'

/-- Asking for a phrase takes two moves besides those for reading it. -/
theorem Reads.ask {request : Request p} {good : List Token → p.Tree → Cursor → Prop}
    (h : Job.Settled step request c (Reads credit surplus c good)) :
    Job.Delivers step (Parse.ask request) c (Reads (credit + 2) surplus c good) := by
  refine .ask (h.mono ?_)
  rintro n (e | tree) t ⟨ts, passes, rest⟩
  · change n ≤ _ at rest
    exact ⟨ts, passes, by change n + 2 ≤ _; omega⟩
  · obtain ⟨paid, isGood⟩ := rest
    exact ⟨ts, passes, by omega, isGood⟩

/-- A phrase may be read with more credit and less surplus than it needs, for less than it gives. -/
theorem Reads.weaken {job : Parse α} {before : List Token → α → Cursor → Prop}
    (h : Job.Delivers step job c (Reads cost gain c before)) (enough : cost ≤ credit)
    (left : surplus + cost ≤ credit + gain)
    (isGood : ∀ ts a t, c.Passes ts t → before ts a t → good ts a t) :
    Job.Delivers step job c (Reads credit surplus c good) := by
  refine h.mono ?_
  rintro n (e | a) t ⟨ts, passes, rest⟩
  · change n ≤ _ at rest
    exact ⟨ts, passes, by change n ≤ _; omega⟩
  · obtain ⟨paid, isBefore⟩ := rest
    exact ⟨ts, passes, by omega, fun clean => isGood ts a t passes (isBefore clean)⟩

theorem Reads.map {job : Parse β} {f : β → α}
    (h : Job.Delivers step job c
      (Reads credit surplus c fun ts b t => good ts (f b) t)) :
    Job.Delivers step (f <$> job) c (Reads credit surplus c good) := by
  refine .map (h.mono ?_)
  rintro n (e | b) t met
  · exact met
  · exact met

/-! ### Single tokens -/

theorem Reads.missing {expected : Expectation} (closed : c.last.kind.isEnd = true) :
    Job.Delivers step (Parse.missing expected : Parse α) c (Reads credit surplus c good) := by
  refine .bind (.bind (.get (.pure (.throw ?_))))
  exact ⟨[], .refl closed, by change 0 + (0 + 0) + 0 ≤ _; omega⟩

/-- Passing a token pays for a hundred moves. -/
theorem Reads.advance (closed : c.last.kind.isEnd = true) (inside : c.peek.kind.isEnd = false) :
    Job.Delivers step Parse.advance c
      (Reads 0 100 c fun ts _ _ => ts = [c.peek]) :=
  .modify ⟨[c.peek], c.passes_advance closed inside, by simp, fun _ => rfl⟩

theorem Reads.expectSymbol {s : Symbol} {place : Place} (closed : c.last.kind.isEnd = true) :
    Job.Delivers step (Parse.expectSymbol s place) c
      (Reads 0 100 c fun ts tok _ => ts = [tok] ∧ tok.isSymbol s) := by
  refine .bind (.bind (.get (.pure ?_)))
  change Job.Delivers step (if _ then _ else _) _ _
  by_cases isSymbol : c.peek.isSymbol s = true
  · rw [if_pos isSymbol]
    refine .bind (.modify (.pure ⟨[c.peek], ?_, by simp, fun _ => ⟨rfl, isSymbol⟩⟩))
    exact c.passes_advance closed (Cursor.isEnd_of_isSymbol isSymbol)
  · rw [if_neg isSymbol]
    simp only [Nat.zero_add]
    exact Reads.missing closed

theorem Reads.expectName {role : NameRole} (closed : c.last.kind.isEnd = true) :
    Job.Delivers step (Parse.expectName role) c
      (Reads 0 100 c fun ts tok _ => ts = [tok] ∧ tok.kind = .identifier) := by
  refine .bind (.bind (.get (.pure ?_)))
  dsimp only
  split
  · rename_i isName
    refine .bind (.modify (.pure ⟨[c.peek], ?_, by simp, fun _ => ⟨rfl, isName⟩⟩))
    exact c.passes_advance closed (by rw [isName]; rfl)
  · simp only [Nat.zero_add]
    exact Reads.missing closed

/-- A numbered occurrence has a number that none had before. -/
theorem Reads.occurrence {name : Token} (closed : c.last.kind.isEnd = true) :
    Job.Delivers step (Parse.occurrence name) c
      (Reads 0 0 c fun ts o t => ts = [] ∧ o.name = name ∧ Apart c.nextId t.nextId [o.id]) :=
  .modifyGet ⟨[], ⟨rfl, rfl, closed, Nat.le_succ _, Nat.le_refl _⟩, by simp,
    fun _ => ⟨rfl, rfl, .single _⟩⟩

/-- Once an error is noted, no result is good. -/
theorem Reads.record {token : Token} {cause : SyntaxError.Cause}
    (closed : c.last.kind.isEnd = true) :
    Job.Delivers step (Parse.record token cause) c (Reads 0 0 c fun _ _ _ => False) :=
  .modify ⟨[], ⟨rfl, rfl, closed, Nat.le_refl _, Nat.le_succ _⟩, by simp,
    fun clean => Nat.succ_ne_self _ clean⟩

end

/-! ### Looking ahead -/

section

variable {c : Cursor} {post : Nat → Except SyntaxError α → Cursor → Prop}

/-- Looking at the next token changes nothing. -/
theorem delivers_peek {next : Token → Parse α}
    (h : Job.Delivers step (next c.peek) c post) :
    Job.Delivers step (Parse.peek >>= next) c post := by
  refine .bind (.bind (.get (.pure ?_)))
  simpa only [Nat.zero_add] using h

/-- Whether the next token is a symbol is seen without passing it. -/
theorem delivers_sees {s : Symbol} {next : Bool → Parse α}
    (h : Job.Delivers step (next (c.peek.isSymbol s)) c post) :
    Job.Delivers step (Parse.sees s >>= next) c post := by
  refine .bind (.bind (.get (.pure ?_)))
  simpa only [Nat.zero_add] using h

/-- Whether the input is at its end is seen without passing anything. -/
theorem delivers_atEnd {next : Bool → Parse α} (h : Job.Delivers step (next c.atEnd) c post) :
    Job.Delivers step (Parse.atEnd >>= next) c post := by
  refine .bind (.bind (.get (.pure ?_)))
  simpa only [Nat.zero_add] using h

/-- What follows a choice follows both of its sides. -/
theorem delivers_either {b : Bool} {job job' : Parse β} {next : β → Parse α}
    (h : Job.Delivers step ((if b = true then job else job') >>= next) c post) :
    Job.Delivers step (if b = true then job >>= next else job' >>= next) c post := by
  cases b <;> exact h

/-- A symbol that is accepted is passed. -/
theorem delivers_accept {s : Symbol} {next : Bool → Parse α}
    (yes : c.peek.isSymbol s = true →
      Job.Delivers step (Parse.advance >>= fun _ => next true) c post)
    (no : c.peek.isSymbol s = false → Job.Delivers step (next false) c post) :
    Job.Delivers step (Parse.accept s >>= next) c post := by
  have isAccept : Parse.accept s >>= next = Parse.sees s >>= fun seen =>
      if seen = true then Parse.advance >>= fun _ => next true else next false := by
    simp only [Parse.accept, bind_assoc]
    congr 1
    funext seen
    cases seen <;> simp
  rw [isAccept]
  refine delivers_sees ?_
  by_cases isSymbol : c.peek.isSymbol s = true
  · rw [if_pos isSymbol]
    exact yes isSymbol
  · rw [if_neg isSymbol]
    exact no (Bool.eq_false_iff.2 isSymbol)

end

end Parser

end Lox
