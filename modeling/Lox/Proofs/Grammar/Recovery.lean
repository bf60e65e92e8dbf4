import Lox.Proofs.Alike.Parser
import Lox.Proofs.Grammar.Segment
import Lox.Proofs.Grammar.Sequence

/-!
# Recovery

Segments behind each other are read one by one. A declaration that fails does so at a token of its
segment, and no token behind that one lets recovery stop before the semicolon: so the next round of
reading begins behind the segment, as it does if the declaration has been read. It follows by
induction that what is reported for all segments is what is reported for each.

## Main definitions

* `Ending`: what may stand behind the tokens that are read.
* `reported`: the errors of a reading.
* `Segment.Alone`: the outcome of reading one segment and nothing else.

## Main results

* `Segment.exists_round`: a round of reading a program is over behind a segment.
* `Segment.exists_answers`: segments behind each other are read to their end.
* `reading_of_segments`: errors and statements of segments are those of each of them.
-/

namespace Lox

open Lox.Parser (Request afterRound)

/-- What may stand behind the tokens that are read: nothing, or a token that ends the input and any
others behind it. -/
def Ending (ts : List Token) : Prop :=
  ∀ t ∈ ts.head?, t.kind.isEnd = true

/-- The errors that a reading reports. -/
def reported : Except (List SyntaxError) (List Stmt) → List SyntaxError
  | .ok _ => []
  | .error es => es

/-! ### The beginning and the end of a reading -/

section

variable {ts ending : List Token}

theorem exists_ofTokens_eq (inside : ∀ t ∈ ts, t.kind.isEnd = false) (isEnding : Ending ending) :
    ∃ last, last.kind.isEnd = true ∧
      ∀ nextId, Cursor.ofTokens (ts ++ ending) nextId = ⟨ts, last, nextId, []⟩ := by
  refine ⟨_, Parser.isEnd_ofTokens (ts ++ ending) 0, fun nextId => ?_⟩
  have isRest : (ts ++ ending).takeWhile (fun t => !t.kind.isEnd) = ts := by
    rw [List.takeWhile_append_of_pos fun t mem => by rw [inside t mem]; rfl]
    cases ending with
    | nil => exact List.append_nil ts
    | cons eof rest =>
      rw [List.takeWhile_cons, isEnding eof rfl]
      exact List.append_nil ts
  unfold Cursor.ofTokens
  rw [isRest]

/-- What is read depends on the tokens in front of the end only. -/
theorem parseProgram_congr {tokens tokens' : List Token} {nextId : NodeId}
    (h : Cursor.ofTokens tokens nextId = Cursor.ofTokens tokens' nextId) :
    parseProgram tokens nextId = parseProgram tokens' nextId := by
  obtain ⟨outcome, t, -, isRun, -⟩ := Parser.exists_run_program tokens nextId
  obtain ⟨outcome', t', -, isRun', -⟩ := Parser.exists_run_program tokens' nextId
  have isSame := Job.run_unique isRun (h ▸ isRun')
  unfold parseProgram Parser.run
  rw [isRun, isRun', isSame]

/-- What a program is read as follows from the answer to the request for it. -/
theorem parseProgram_of_answers {tokens : List Token} {nextId : NodeId} {ss : List Stmt}
    {t : Cursor} (answered : Routine.Answers (Job.body Parser.step)
      ((.program : Request .statements), .ofTokens tokens nextId) (.ok ss, t)) :
    (t.errors = [] → (parseProgram tokens nextId).1 = .ok ss) ∧
      (t.errors ≠ [] → (parseProgram tokens nextId).1 = .error t.errors.reverse) := by
  obtain ⟨outcome, t', -, isRun, -⟩ := Parser.exists_run_program tokens nextId
  obtain ⟨n, result⟩ := (Job.exists_run_iff Parser.step).1 ⟨_, isRun⟩
  rw [Parse.ask, Job.meaning_ask] at result
  cases answered.unique _ ⟨n, result⟩
  unfold parseProgram Parser.run
  rw [isRun]
  obtain ⟨rest, last, nextId', _ | ⟨e, es⟩⟩ := t
  · exact ⟨fun _ => rfl, fun some => absurd rfl some⟩
  · exact ⟨fun isNil => absurd isNil (List.cons_ne_nil e es), fun _ => rfl⟩

theorem reported_of_answers {tokens : List Token} {nextId : NodeId} {ss : List Stmt}
    {t : Cursor} (answered : Routine.Answers (Job.body Parser.step)
      ((.program : Request .statements), .ofTokens tokens nextId) (.ok ss, t)) :
    reported (parseProgram tokens nextId).1 = t.errors.reverse := by
  obtain ⟨clean, unclean⟩ := parseProgram_of_answers answered
  by_cases isNil : t.errors = []
  · rw [clean isNil, isNil]
    rfl
  · rw [unclean isNil]
    rfl

/-- A reading that fails reports something. -/
theorem ne_nil_of_parseProgram {tokens : List Token} {nextId : NodeId} {es : List SyntaxError}
    (h : (parseProgram tokens nextId).1 = .error es) : es ≠ [] := by
  obtain ⟨outcome, t, -, isRun, -⟩ := Parser.exists_run_program tokens nextId
  unfold parseProgram Parser.run at h
  rw [isRun] at h
  obtain e | ss := outcome
  · cases h
    exact List.cons_ne_nil e []
  · obtain ⟨rest, last, nextId', _ | ⟨e, es'⟩⟩ := t
    · cases h
    · cases h
      exact List.reverse_ne_nil_iff.2 (List.cons_ne_nil e es')

theorem ParsedAlike.reported_eq {x x' : Except (List SyntaxError) (List Stmt)}
    (h : ParsedAlike .renumbering x x') : reported x' = reported x := by
  cases h with
  | ok programs => rfl
  | error errors =>
    induction errors with
    | nil => rfl
    | cons first _ ih => exact congrArg₂ List.cons first.eq_of_lines ih

end

/-- A reading is at its end. -/
theorem Parser.answers_program_nil (last : Token) (nextId : NodeId) (errors : List SyntaxError) :
    Routine.Answers (Job.body step) ((.program : Request .statements), ⟨[], last, nextId, errors⟩)
      (.ok [], ⟨[], last, nextId, errors⟩) :=
  ⟨1, rfl⟩

/-- After a round the rest of the program is read. -/
theorem Parser.answers_round {c t : Cursor} (inside : c.atEnd = false)
    {first : Job.Answer Cursor SyntaxError Phrase.Tree .statement}
    (answered : Routine.Answers (Job.body step) ((.declaration : Request .statement), c) first)
    {ss : List Stmt} (rest : Routine.Answers (Job.body step)
      ((.program : Request .statements), afterRound first) (.ok ss, t)) :
    Routine.Answers (Job.body step) ((.program : Request .statements), c)
      (.ok (first.1.toOption.toList ++ ss), t) := by
  refine Routine.answers_of_rest_answer ?_
  rw [body_program inside]
  exact .trans (.step .refl answered) (.step .refl rest)

namespace Segment

variable {s : Segment} {w w' : Surround}

/-! ### Recovery -/

theorem nextStart_semicolon (behind : List Token) :
    Cursor.nextStart s.semicolon behind = behind := by
  cases behind with
  | nil => rfl
  | cons t rest => exact if_pos (by rw [s.isSemicolon, Bool.true_or])

/-- Where no statement begins, recovery goes on to the semicolon and passes it. -/
theorem nextStart_append {previous : Token} {ts : List Token}
    (noSemicolon : previous.isSymbol .semicolon = false)
    (within : ∀ t ∈ ts, t.isSymbol .semicolon = false ∧ Tape.startsStatement t = false)
    (behind : List Token) :
    Cursor.nextStart previous (ts ++ s.semicolon :: behind) = behind := by
  have skips {previous t : Token} (h : previous.isSymbol .semicolon = false)
      (h' : Tape.startsStatement t = false) (rest : List Token) :
      Cursor.nextStart previous (t :: rest) = Cursor.nextStart t rest :=
    if_neg (by
      change ¬ (previous.isSymbol .semicolon || Tape.startsStatement t) = true
      rw [h, h']
      exact Bool.false_ne_true)
  induction ts generalizing previous with
  | nil =>
    have noStart : Tape.startsStatement s.semicolon = false := by
      rw [Tape.startsStatement, s.kind_semicolon]
    exact (skips noSemicolon noStart behind).trans (nextStart_semicolon behind)
  | cons t ts ih =>
    obtain ⟨isOther, noStart⟩ := within t (List.mem_cons_self ..)
    rw [List.cons_append, skips noSemicolon noStart]
    exact ih isOther fun u mem => within u (List.mem_cons_of_mem _ mem)

/-- From any token of a segment, recovery leads behind the segment. -/
theorem synchronize_cursor {ts : List Token} (within : ts <:+ s.body) (nextId : NodeId)
    (noted : List SyntaxError) :
    (w.cursor (ts ++ [s.semicolon]) nextId noted).synchronize = w.cursor [] nextId noted := by
  cases ts with
  | nil => exact congrArg (Cursor.mk · w.last nextId _) (nextStart_semicolon w.behind)
  | cons t ts =>
    have others : ∀ u ∈ ts, u.isSymbol .semicolon = false ∧ Tape.startsStatement u = false := by
      intro u mem
      refine ⟨isSymbol_of_mem (within.subset (List.mem_cons_of_mem _ mem)), ?_⟩
      refine s.simple.rest u ?_
      obtain ⟨before, isBody⟩ := within
      rw [← isBody]
      cases before with
      | nil => exact mem
      | cons b before => simp [mem]
    have skipped := nextStart_append (s := s)
      (isSymbol_of_mem (within.subset (List.mem_cons_self ..))) others w.behind
    rw [← List.singleton_append, ← List.append_assoc] at skipped
    exact congrArg (Cursor.mk · w.last nextId _) skipped

/-- The next round begins behind the segment, whether the declaration was read or failed, and with
the same errors in both surroundings. -/
theorem Closed.exists_afterRound {x x' : Except SyntaxError Stmt × Cursor}
    (closed : s.Closed w w' x x') : ∃ nextId noted,
      afterRound x = w.cursor [] nextId noted ∧ afterRound x' = w'.cursor [] nextId noted := by
  cases closed with
  | ok tree nextId noted => exact ⟨nextId, noted, rfl, rfl⟩
  | error e abreast =>
    obtain ⟨ts, nextId, noted, within⟩ := abreast
    exact ⟨nextId, e :: noted, synchronize_cursor within nextId (e :: noted),
      synchronize_cursor within nextId (e :: noted)⟩

/-! ### Rounds -/

/-- A round of reading a program passes the segment and notes the given errors, whatever stands
around the segment. -/
def Passed (s : Segment) (nextId nextId' : NodeId) (noted : List SyntaxError) : Prop :=
  ∀ w : Surround, ∃ first, Routine.Answers (Job.body Parser.step)
    ((.declaration : Request .statement), w.cursor s.tokens nextId []) first ∧
      afterRound first = w.cursor [] nextId' noted

/-- What a round notes does not depend on what stands around the segment. -/
theorem exists_passed (s : Segment) (nextId : NodeId) :
    ∃ nextId' noted, s.Passed nextId nextId' noted := by
  let w₀ : Surround := ⟨[], ⟨.endOfInput, "", 1⟩, []⟩
  obtain ⟨outcome, t, -, answered, -⟩ :=
    Parser.exists_answers .declaration (c := w₀.cursor s.tokens nextId []) rfl
  refine ⟨(afterRound (outcome, t)).nextId, (afterRound (outcome, t)).errors, fun w => ?_⟩
  have abreast : s.Abreast w₀ w _ _ := .at s.body nextId [] List.suffix_rfl
  obtain ⟨x', answered', closed⟩ := abreast.exists_answers answered
  obtain ⟨nextId', noted, isAfter, isAfter'⟩ := closed.exists_afterRound
  refine ⟨x', answered', ?_⟩
  rw [isAfter', isAfter]
  simp [Surround.cursor, w₀]

/-! ### Segments behind each other -/

theorem inside_tokens (s : Segment) : ∀ t ∈ s.tokens, t.kind.isEnd = false := by
  intro t mem
  rcases List.mem_append.1 mem with mem | mem
  · exact s.simple.inside t mem
  · rw [List.mem_singleton.1 mem, s.kind_semicolon]
    rfl

/-- The outcome of reading one segment and nothing else, from any number on. -/
def Alone (s : Segment) (outcome : Except (List SyntaxError) (List Stmt)) : Prop :=
  ∃ ending nextId, Ending ending ∧ (parseProgram (s.tokens ++ ending) nextId).1 = outcome

theorem Passed.reported_eq {nextId nextId' : NodeId} {noted : List SyntaxError}
    (passed : s.Passed nextId nextId' noted) {ending : List Token} (isEnding : Ending ending) :
    reported (parseProgram (s.tokens ++ ending) nextId).1 = noted.reverse := by
  obtain ⟨last, -, isStart⟩ := exists_ofTokens_eq s.inside_tokens isEnding
  obtain ⟨first, answered, isAfter⟩ := passed ⟨[], last, []⟩
  have rest : Routine.Answers (Job.body Parser.step) (.program, afterRound first)
      (.ok [], afterRound first) := isAfter ▸ Parser.answers_program_nil last nextId' (noted ++ [])
  have inside : (Surround.cursor ⟨[], last, []⟩ s.tokens nextId []).atEnd = false := by
    simp [Surround.cursor, Cursor.atEnd, tokens]
  have all := Parser.answers_round inside answered rest
  rw [isAfter] at all
  simp only [Surround.cursor, List.append_nil] at all
  rw [← isStart] at all
  exact reported_of_answers all

/-- A round notes what is reported of the segment alone, from any number on. -/
theorem Alone.exists_passed {outcome : Except (List SyntaxError) (List Stmt)}
    (alone : s.Alone outcome) (nextId : NodeId) :
    ∃ nextId', s.Passed nextId nextId' (reported outcome).reverse := by
  obtain ⟨ending, start, isEnding, rfl⟩ := alone
  obtain ⟨nextId', noted, passed⟩ := s.exists_passed nextId
  obtain ⟨_, noted', passed'⟩ := s.exists_passed start
  let eof : Token := ⟨.endOfInput, "", 1⟩
  have isEof : Ending [eof] := fun t isHead => by cases isHead; rfl
  have alike : ParsedAlike .renumbering (parseProgram (s.tokens ++ [eof]) nextId).1
      (parseProgram (s.tokens ++ [eof]) start).1 :=
    parseProgram_alike (List.forall₂_same.2 fun t _ => t.alike_refl) ⟨eof, by simp, rfl⟩ _ _
  have isSame : (reported (parseProgram (s.tokens ++ ending) start).1).reverse = noted := by
    rw [passed'.reported_eq isEnding, ← passed'.reported_eq isEof, alike.reported_eq,
      passed.reported_eq isEof, List.reverse_reverse]
  exact ⟨nextId', isSame ▸ passed⟩

variable {segments : List Segment} {outcomes : List (Except (List SyntaxError) (List Stmt))}

/-- Segments behind each other are read to their end, and what is noted on the way is what is
reported of each of them alone. -/
theorem exists_answers (alone : List.Forall₂ Alone segments outcomes) (last : Token)
    (nextId : NodeId) (before : List SyntaxError) :
    ∃ ss nextId', Routine.Answers (Job.body Parser.step)
      ((.program : Request .statements), ⟨segments.flatMap tokens, last, nextId, before⟩)
      (.ok ss, ⟨[], last, nextId', (outcomes.flatMap reported).reverse ++ before⟩) := by
  induction alone generalizing nextId before with
  | nil => exact ⟨[], nextId, Parser.answers_program_nil last nextId before⟩
  | @cons s outcome segments outcomes first _ ih =>
    obtain ⟨nextId', passed⟩ := first.exists_passed nextId
    obtain ⟨round, answered, isAfter⟩ := passed ⟨segments.flatMap tokens, last, before⟩
    obtain ⟨ss, nextId'', rest⟩ := ih nextId' ((reported outcome).reverse ++ before)
    have inside : (Surround.cursor ⟨segments.flatMap tokens, last, before⟩ s.tokens nextId
        []).atEnd = false := by
      simp [Surround.cursor, Cursor.atEnd, tokens]
    refine ⟨round.1.toOption.toList ++ ss, nextId'', ?_⟩
    rw [List.flatMap_cons, List.flatMap_cons, List.reverse_append, List.append_assoc]
    exact Parser.answers_round inside answered (isAfter ▸ rest)

theorem flatMap_reported_ne_nil (alone : List.Forall₂ Alone segments outcomes)
    {es : List SyntaxError} (mem : .error es ∈ outcomes) : outcomes.flatMap reported ≠ [] := by
  induction alone with
  | nil => cases mem
  | cons first _ ih =>
    rw [List.flatMap_cons]
    intro isNil
    obtain ⟨isFirst, isRest⟩ := List.append_eq_nil_iff.1 isNil
    rcases mem with _ | ⟨_, mem⟩
    · obtain ⟨_, _, -, isError⟩ := first
      exact ne_nil_of_parseProgram isError isFirst
    · exact ih mem isRest

/-- Segments that are programs by themselves are one when they stand behind each other. -/
theorem derives_of_alone {programs : List (List Stmt)}
    (alone : List.Forall₂ Alone segments (programs.map .ok)) :
    Grammar.Derives .declarations (segments.flatMap tokens) programs.flatten := by
  induction segments generalizing programs with
  | nil =>
    cases programs with
    | nil => exact .noDeclarations
    | cons => cases alone
  | cons s segments ih =>
    cases programs with
    | nil => cases alone
    | cons p programs =>
      obtain ⟨⟨ending, nextId, isEnding, isParsed⟩, rest⟩ := List.forall₂_cons.1 alone
      obtain ⟨last, -, isStart⟩ := exists_ofTokens_eq s.inside_tokens isEnding
      have derives := (derives_of_parseProgram isParsed).1
      rw [show readable (s.tokens ++ ending) = s.tokens from
        congrArg Cursor.rest (isStart 0)] at derives
      exact derives.append (ih rest)

end Segment

/-- Segments behind each other, well-formed or not, are read as each of them alone. If all are
programs, so are they together, with the statements of all, up to the numbers of occurrences. If
not, the errors are those of the first segment, then those of the second, and so on. -/
theorem reading_of_segments {segments : List Segment}
    {outcomes : List (Except (List SyntaxError) (List Stmt))}
    (alone : List.Forall₂ Segment.Alone segments outcomes) {ending : List Token}
    (isEnding : Ending ending) (nextId : NodeId) :
    (∀ programs : List (List Stmt), outcomes = programs.map .ok →
      ∃ p, (parseProgram (segments.flatMap Segment.tokens ++ ending) nextId).1 = .ok p ∧
        Stmt.unnumberedList p = Stmt.unnumberedList programs.flatten) ∧
    ((∃ es, .error es ∈ outcomes) →
      (parseProgram (segments.flatMap Segment.tokens ++ ending) nextId).1 =
        .error (outcomes.flatMap reported)) := by
  have inside : ∀ t ∈ segments.flatMap Segment.tokens, t.kind.isEnd = false := by
    intro t mem
    obtain ⟨s, -, mem⟩ := List.mem_flatMap.1 mem
    exact s.inside_tokens t mem
  obtain ⟨last, isEnd, isStart⟩ := exists_ofTokens_eq inside isEnding
  refine ⟨?_, ?_⟩
  · rintro programs rfl
    have derives := Segment.derives_of_alone alone
    rw [parseProgram_congr ((isStart nextId).trans (ofTokens_append inside isEnd nextId).symm)]
    exact parseProgram_of_derives inside isEnd (.program derives isEnd) nextId
  · rintro ⟨es, mem⟩
    obtain ⟨ss, nextId', answered⟩ := Segment.exists_answers alone last nextId []
    rw [← isStart] at answered
    have errors := (parseProgram_of_answers answered).2
    rw [List.append_nil, List.reverse_reverse] at errors
    exact errors (List.reverse_ne_nil_iff.2 (Segment.flatMap_reported_ne_nil alone mem))

/-- Three statements behind each other, of which the first and the last are bad: `print ;` lacks an
expression at its semicolon, and `nil nil ;` the semicolon at its second word. -/
theorem reading_of_segments_print :
    let print : Token := ⟨.keyword .print_, "print", 1⟩
    let nil : Token := ⟨.keyword .nil_, "nil", 1⟩
    let second : Token := ⟨.keyword .nil_, "nil", 2⟩
    let semicolon : Token := ⟨.symbol .semicolon, ";", 1⟩
    (parseProgram [print, semicolon, nil, semicolon, nil, second, semicolon] 0).1 =
      .error [⟨semicolon, .missing .expression⟩,
        ⟨second, .missing (.symbol .semicolon .afterExpression)⟩] := by
  intro print nil second semicolon
  let segment (body : List Token) (simple : Simple body) : Segment := ⟨body, semicolon, simple, rfl⟩
  let segments : List Segment := [segment [print] (by decide), segment [nil] (by decide),
    segment [nil, second] (by decide)]
  have alone : List.Forall₂ Segment.Alone segments
      [.error [⟨semicolon, .missing .expression⟩], .ok [.expression (.literal .nil 1)],
        .error [⟨second, .missing (.symbol .semicolon .afterExpression)⟩]] :=
    .cons ⟨[], 0, nofun, rfl⟩ (.cons ⟨[], 0, nofun, rfl⟩ (.cons ⟨[], 0, nofun, rfl⟩ .nil))
  exact (@reading_of_segments _ _ alone [] nofun 0).2 ⟨_, List.mem_cons_self ..⟩

end Lox
