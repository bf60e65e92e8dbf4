import Lox.Proofs.Pair.Reordering
import Lox.Proofs.Pair.Start
import Lox.Proofs.Session.Graph
import Lox.Proofs.Session.Sequence

/-!
# The order of top-level functions

Functions that stand in a row at the top level of a program may change places, if their names
differ. The program that is read then is accepted too, and in every session it runs as the first one
does: a function is not looked up by other functions before it is called, and which of two objects
was made first is not to be seen.

## Main definitions

* `Interpreter.runTokens`, `Interpreter.ShowsTokens`: runs of tokens, and what they show.

## Main results

* `Session.exists_pair`: a session that is continued with two programs.
* `Session.shows_reordered`: functions in a row may change places.
-/

namespace Lox

open Scope Evaluation World

variable {i j j' : Interpreter} {p p' : List Stmt} {source : String} {tokens tokens' : List Token}
  {report : StepReport} {past : List Execution}

namespace Interpreter

/-- Read and run tokens. -/
def runTokens (moves : Nat) (tokens : List Token) (i : Interpreter) :
    Option (List Diagnostic × Interpreter) :=
  match i.readTokens tokens with
  | (.error errors, i) => some (errors, i)
  | (.ok program, i) => i.execute moves program

/-- A run of tokens shows a report. -/
def ShowsTokens (i : Interpreter) (tokens : List Token) (report : StepReport) : Prop :=
  ∃ moves, (i.runTokens moves tokens).map .of = some report

theorem shows_iff_showsTokens (isTokens : tokenize source = .ok tokens) :
    i.Shows source report ↔ i.ShowsTokens tokens report := by
  have isRun (moves : Nat) : i.run moves source = i.runTokens moves tokens := by
    rw [run_eq_runFrom, runFrom, readFrom, tokenizeFrom_one, isTokens]
    rfl
  unfold Shows ShowsTokens
  simp only [isRun]

/-- What a run of tokens shows that are read as a program. -/
theorem showsTokens_iff (isRead : i.readTokens tokens = (.ok p, j)) :
    i.ShowsTokens tokens report ↔
      ∃ outcome k, Ends (interpret p) j outcome k ∧ report = .of (faults outcome, k) := by
  unfold ShowsTokens runTokens
  rw [isRead]
  dsimp only [execute]
  constructor
  · rintro ⟨moves, isShown⟩
    obtain ⟨_, isRun, rfl⟩ := Option.map_eq_some_iff.1 isShown
    obtain ⟨⟨outcome, k⟩, ended, rfl⟩ := Option.map_eq_some_iff.1 isRun
    refine ⟨outcome, k, ⟨moves, ended⟩, ?_⟩
    cases outcome <;> rfl
  · rintro ⟨outcome, k, ⟨moves, ended⟩, rfl⟩
    refine ⟨moves, Option.map_eq_some_iff.2 ⟨_, Option.map_eq_some_iff.2 ⟨_, ended, rfl⟩, ?_⟩⟩
    cases outcome <;> rfl

/-- Tokens that are read as a program without violations are ready to run. -/
theorem loads_of_tokens (spelled : ∀ t ∈ tokens, t.Spelled)
    (isProgram : (parseProgram tokens i.nextId).1 = .ok p) (accepted : Accepted p) :
    i.readTokens tokens = (.ok p, i.adopted (parseProgram tokens i.nextId).2 p) ∧
      i.Loads p (i.adopted (parseProgram tokens i.nextId).2 p) := by
  obtain ⟨derives, apart⟩ := derives_of_parseProgram isProgram
  refine ⟨?_, accepted, derives.formed fun t mem => ?_, _, nextId_le_parseProgram .., apart, rfl⟩
  · rw [readTokens_of_ok isProgram, accepted]
  · exact spelled t ((List.takeWhile_sublist _).subset mem)

end Interpreter

/-! ### Static phases -/

theorem Scope.accepted_append_iff : Accepted (p ++ p') ↔ Accepted p ∧ Accepted p' := by
  unfold Accepted
  rw [analyse_append]
  exact List.append_eq_nil_iff

/-- Functions in a row are accepted if each of them is. -/
theorem Scope.accepted_functions_iff {ds : List FunctionDecl} :
    Accepted (ds.map .functionDecl) ↔ ∀ d ∈ ds, Accepted [.functionDecl d] := by
  induction ds with
  | nil =>
    have accepted : Accepted [] := by
      rw [Accepted, programEvents, List.map_nil, Traversal.toList_nil]
      rfl
    exact iff_of_true accepted fun d mem => (List.not_mem_nil mem).elim
  | cons d ds ih =>
    rw [List.forall_mem_cons, ← ih]
    exact accepted_append_iff (p := [.functionDecl d])

/-- A program in which functions have changed places is accepted. -/
theorem Stmt.Reordered.accepted (h : Stmt.Reordered p p') (accepted : Accepted p) :
    Accepted p' := by
  cases h with
  | mk before row _ after =>
    simp only [accepted_append_iff, accepted_functions_iff] at accepted ⊢
    obtain ⟨isBefore, isRow, isAfter⟩ := accepted
    refine ⟨Interpreter.accepted_alike (Stmt.alikeAll_of_unnumbered before) isBefore,
      fun d' mem' => ?_, Interpreter.accepted_alike (Stmt.alikeAll_of_unnumbered after) isAfter⟩
    obtain ⟨d, mem, same⟩ := List.mem_map.1 (row.mem_iff.2 (List.mem_map_of_mem mem'))
    exact Interpreter.accepted_alike
      (.cons (.functionDecl (FunctionDecl.alike_of_unnumbered same)) .nil)
      (isRow d mem)

/-! ### Runs -/

/-- The states of a pair show the same. -/
theorem Pair.report_eq {c : Pairing} (b : Pair c) (errors : List Diagnostic) :
    StepReport.of (errors, b.right) = .of (errors, b.left) := by
  have view : b.right.view = b.left.view :=
    Interpreter.view_eq (fun _ _ (value : Value.Paired c b.scene _ _) => ⟨value.sort, value.text⟩)
      (b.sound.binding _ _ b.sound.global)
  rw [StepReport.of, StepReport.of, b.sink, view]

namespace Session

/-- A session can be continued with two programs that are ready to run. The states in which they
begin are a pair, and both programs fit the top level. -/
theorem exists_pair (session : Session past i) (loads : i.Loads p j) (loads' : i.Loads p' j') :
    ∃ (c : Pairing) (b : Pair c), b.left = j ∧ b.right = j' ∧ b.Level .top .top ∧
      j.frame = globalFrame ∧ j'.frame = globalFrame ∧
      Stmt.AllWellScoped (Recorded c.table) .top p ∧
      Stmt.AllWellScoped (Recorded c.table') .top p' := by
  obtain ⟨frames, cells, s, ready⟩ := session.exists_ready
  have fits : Stmt.AllWellScoped (Recorded j.distances) .top p :=
    (show Stmt.AllWellScoped (Read (⟨p, j⟩ :: past)) .top p from loads.wellScoped).mono
      (ready.load loads ∅).coherent.table
  have fits' : Stmt.AllWellScoped (Recorded j'.distances) .top p' :=
    (show Stmt.AllWellScoped (Read (⟨p', j'⟩ :: past)) .top p' from loads'.wellScoped).mono
      (ready.load loads' ∅).coherent.table
  obtain ⟨n, le, apart, rfl⟩ := loads.exists_table
  obtain ⟨n', le', apart', rfl⟩ := loads'.exists_table
  have coherent := ready.coherent
  have tabled : (World.of frames cells i.nextId past).Tabled
      ⟨(i.adopted n p).distances, (i.adopted n' p').distances⟩ :=
    ⟨fun p kind o isKnown => (Interpreter.getElem?_adopted apart o.id
        (.inl (coherent.numbered p kind o isKnown))).trans (coherent.table p kind o isKnown),
      fun p kind o isKnown => (Interpreter.getElem?_adopted apart' o.id
        (.inl (coherent.numbered p kind o isKnown))).trans (coherent.table p kind o isKnown)⟩
  have rooted := session.rooted
  have sound := sound_alone coherent rooted tabled
  refine ⟨_, Pair.alone sound n n', rfl, rfl, ?_, ready.frame, ready.frame, fits, fits'⟩
  exact ⟨⟨⟨rooted.frame, rooted.frame, fun _ => .none⟩, rfl, rfl⟩, ⟨rfl, rooted.frame⟩, .rfl⟩

/-- What a run of a program shows, a run of the program shows in which functions have changed
places. -/
theorem showsTokens_reordered (session : Session past i) (reordered : Stmt.Reordered p p')
    (isRead : i.readTokens tokens = (.ok p, j)) (loads : i.Loads p j)
    (isRead' : i.readTokens tokens' = (.ok p', j')) (loads' : i.Loads p' j')
    (shown : i.ShowsTokens tokens report) : i.ShowsTokens tokens' report := by
  obtain ⟨outcome, k, ended, rfl⟩ := (Interpreter.showsTokens_iff isRead).1 shown
  obtain ⟨c, b, rfl, rfl, level, isFrame, isFrame', fits, fits'⟩ := session.exists_pair loads loads'
  obtain ⟨outcome', k', ended', outcomes⟩ :=
    accompanies_reordered level isFrame isFrame' reordered fits fits' _ _ ended
  refine (Interpreter.showsTokens_iff isRead').2 ⟨outcome', k', ended', ?_⟩
  cases outcomes with
  | ok b' => exact (b'.report_eq []).symm
  | error e b' => exact (b'.report_eq [.fault e]).symm

/-- **The order of top-level functions.** If functions of different names stand in a row at the top
level of an accepted program, its tokens fall into those of what is before the row, a stretch for
each of the functions, and those of what is after the row. However they do, the stretches may change
places, with the lines of their tokens: the tokens are then read as an accepted program, and from
the same state of a session both programs show the same, or neither ends. -/
theorem shows_reordered (session : Session past i) {q r : List Stmt} {ds : List FunctionDecl}
    (isLoaded : i.load source = (.ok (q ++ (ds.map .functionDecl ++ r)), j))
    (distinct : (FunctionDecl.names ds).Nodup) :
    ∃ tokens, tokenize source = .ok tokens ∧
      (∃ before blocks after, Grammar.Splits tokens q ds r before blocks after) ∧
      ∀ before blocks after, Grammar.Splits tokens q ds r before blocks after →
        ∀ blocks' : List (List Token), blocks'.Perm blocks →
          (∃ program k, i.readTokens (before ++ (blocks'.flatten ++ after)) = (.ok program, k)) ∧
          ∀ report, i.Shows source report ↔
            i.ShowsTokens (before ++ (blocks'.flatten ++ after)) report := by
  obtain ⟨tokens, p, isTokens, isProgram, accepted⟩ :=
    Interpreter.exists_tokens_of_accepts ⟨_, _, isLoaded⟩
  rw [tokenizeFrom_one] at isTokens
  obtain ⟨isRead, loads⟩ :=
    Interpreter.loads_of_tokens (fun t => spelled_of_tokenize isTokens) isProgram accepted
  obtain rfl : q ++ (ds.map .functionDecl ++ r) = p := by
    rw [Interpreter.load_eq_readFrom, Interpreter.readFrom, tokenizeFrom_one, isTokens] at isLoaded
    exact Except.ok.inj (congrArg Prod.fst (isLoaded.symm.trans isRead))
  obtain ⟨ts, rfl, inside⟩ := exists_tokenizeFrom isTokens
  refine ⟨_, isTokens, Grammar.Splits.of_parseProgram inside rfl isProgram,
    fun before blocks after splits blocks' perm => ?_⟩
  obtain ⟨q', ds', r', isProgram', sameBefore, row, sameAfter⟩ :=
    splits.parseProgram_reordered inside perm i.nextId
  have reordered := Stmt.Reordered.mk sameBefore row distinct sameAfter
  have spelled : ∀ t ∈ before ++ (blocks'.flatten ++ after), t.Spelled := by
    intro t mem
    refine spelled_of_tokenize isTokens ?_
    rw [splits.isSplit]
    simp only [List.mem_append, perm.flatten.mem_iff] at mem ⊢
    exact mem
  obtain ⟨isRead', loads'⟩ :=
    Interpreter.loads_of_tokens spelled isProgram' (reordered.accepted accepted)
  refine ⟨⟨_, _, isRead'⟩, fun report => ?_⟩
  rw [Interpreter.shows_iff_showsTokens isTokens]
  exact ⟨session.showsTokens_reordered reordered isRead loads isRead' loads',
    session.showsTokens_reordered reordered.symm isRead' loads' isRead loads⟩

/-- A function that returns the function behind it. The output is the same if they change places. -/
theorem shows_reordered_call :
    let i := Interpreter.start .unlimited fun _ => .ok 0
    let source := "fun f() \x7b return g; \x7d fun g() \x7b \x7d print f();"
    ∃ tokens before first second after f g r report, tokenize source = .ok tokens ∧
      Grammar.Splits tokens [] [f, g] r before [first, second] after ∧
      FunctionDecl.names [f, g] = ["f", "g"] ∧
      i.ShowsTokens (before ++ (second ++ (first ++ after))) report ∧ report.errors = [] ∧
      report.sink.written = "<fn g>\n".toUTF8 := by
  intro i source
  let word (text : String) : Token := ⟨.identifier, text, 1⟩
  let f : FunctionDecl := ⟨word "f", [], [.ret ⟨.keyword .return_, "return", 1⟩
    (some (.reference ⟨0, word "g"⟩))]⟩
  let g : FunctionDecl := ⟨word "g", [], []⟩
  let print : Stmt := .print (.call (.reference ⟨1, word "f"⟩) ⟨.symbol .rightParen, ")", 1⟩ [])
  have isTokens : tokenize source =
      .ok [⟨.keyword .fun_, "fun", 1⟩, word "f", ⟨.symbol .leftParen, "(", 1⟩,
        ⟨.symbol .rightParen, ")", 1⟩, ⟨.symbol .leftBrace, "\x7b", 1⟩,
        ⟨.keyword .return_, "return", 1⟩, word "g", ⟨.symbol .semicolon, ";", 1⟩,
        ⟨.symbol .rightBrace, "\x7d", 1⟩, ⟨.keyword .fun_, "fun", 1⟩, word "g",
        ⟨.symbol .leftParen, "(", 1⟩, ⟨.symbol .rightParen, ")", 1⟩,
        ⟨.symbol .leftBrace, "\x7b", 1⟩, ⟨.symbol .rightBrace, "\x7d", 1⟩,
        ⟨.keyword .print_, "print", 1⟩, word "f", ⟨.symbol .leftParen, "(", 1⟩,
        ⟨.symbol .rightParen, ")", 1⟩, ⟨.symbol .semicolon, ";", 1⟩, ⟨.endOfInput, "", 1⟩] := by
    cbv
  have isLoaded : i.load source =
      (.ok ([] ++ ([f, g].map .functionDecl ++ [print])), (i.retabled 2 ∅).recordDistances []) :=
    Interpreter.load_eq isTokens rfl (by cbv)
  have isRun : i.run 60 source =
      Interpreter.execute 60 [.functionDecl f, .functionDecl g, print]
        ((i.retabled 2 ∅).recordDistances []) := by
    rw [Interpreter.run, isLoaded]
    rfl
  have prints : (Interpreter.perform 60 (interpret [.functionDecl f, .functionDecl g, print])
      ((i.retabled 2 ∅).recordDistances [])).map
        (fun left => (left.1.isOk, left.2.sink.written.data)) =
          some (true, "<fn g>\n".toUTF8.data) := by
    decide +kernel
  obtain ⟨⟨outcome, k⟩, ended, isSame⟩ := Option.map_eq_some_iff.1 prints
  obtain ⟨isOk, isWritten⟩ := Prod.mk.inj isSame
  cases outcome with
  | error => cases isOk
  | ok =>
  have shown : i.Shows source (.of ([], k)) := by
    refine ⟨60, ?_⟩
    rw [isRun, Interpreter.execute, ended]
    rfl
  obtain ⟨tokens, isTokens, ⟨before, blocks, after, splits⟩, permuted⟩ :=
    shows_reordered (.start _ _) isLoaded (by decide)
  obtain ⟨first, rest, isFirst, isRest, rfl⟩ := List.forall₂_cons_right_iff.1 splits.isRow
  obtain ⟨second, nothing, isSecond, isNothing, rfl⟩ := List.forall₂_cons_right_iff.1 isRest
  obtain rfl := List.forall₂_nil_right_iff.1 isNothing
  have swapped := permuted _ _ _ splits [second, first] (List.Perm.swap _ _ _)
  simp only [List.flatten_cons, List.flatten_nil, List.append_nil, List.append_assoc] at swapped
  exact ⟨tokens, before, first, second, after, f, g, _, .of ([], k), isTokens, splits, rfl,
    (swapped.2 _).1 shown, rfl, ByteArray.ext isWritten⟩

end Session

end Lox
