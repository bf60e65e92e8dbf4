import Lox.Proofs.Grammar.Complete.Statement
import Lox.Proofs.Grammar.Soundness
import Lox.Proofs.Grammar.Strict

/-!
# The parser accepts exactly its grammar

What the relaxed grammar derives, the parser reads, by induction on derivations. The grammar derives
what the relaxed grammar does without violations. With soundness, the parser returns a tree if and
only if the grammar derives one, and both are the same up to the numbers of occurrences; so the
grammar is unambiguous.

## Main results

* `Grammar.Relaxed.complete`: every phrase of the relaxed grammar is read.
* `parsed_iff_derived`: programs and expressions are parsed exactly if they are derived.
-/

namespace Lox

namespace Grammar

open Lox.Parser

/-- The parser reads every phrase that the relaxed grammar derives, as the tree of the derivation,
and notes the violations in it. -/
theorem Relaxed.complete {n : Nonterminal} {ts : List Token} {tree : n.Tree} {found : n.Found}
    (h : Relaxed n ts tree found) : Complete n ts tree found := by
  induction h with
  | program h isEnd ih =>
    exact ⟨_, _, rfl, isEnd, fun id errors => ih.2 _ id errors isEnd⟩
  | noDeclarations => exact Complete.noDeclarations
  | declarations h h' ih ih' =>
    refine Complete.declarations (h.starts rfl) ih ?_ ih'
    cases h' with
    | noDeclarations => exact .inl rfl
    | declarations h'' =>
      obtain ⟨t, vs, rfl, starts⟩ := h''.starts rfl
      exact .inr ⟨t, _, rfl, starts⟩
  | classDeclaration isClass h ih => exact Complete.classDeclaration isClass ih
  | functionDeclaration isFun h ih => exact Complete.functionDeclaration isFun ih
  | varDeclaration isVar h ih => exact Complete.varDeclaration isVar ih
  | statement h ih => exact Complete.statement (h.starts rfl) ih
  | base isName isOpening h isClosing ih => exact Complete.base isName isOpening ih isClosing
  | derived isName isLess isParent isOpening h isClosing ih =>
    exact Complete.derived isName isLess isParent isOpening ih isClosing
  | noFunctions => exact Complete.noFunctions
  | functions h h' ih ih' => exact Complete.functions (h.starts rfl) ih ih'
  | function isName isLeft h isRight isOpening h' isClosing ih ih' =>
    exact Complete.function isName isLeft ih isRight isOpening ih' isClosing
  | noParameters => exact Complete.noParameters
  | parameters h ih => exact Complete.parameters (h.starts rfl) ih
  | lastName isName => exact Complete.lastName isName
  | names isName isComma h ih => exact Complete.names isName isComma ih
  | declared isName isSemicolon => exact Complete.declared isName isSemicolon
  | initialized isName isEqual h isSemicolon ih =>
    exact Complete.initialized isName isEqual ih isSemicolon
  | forLoop isFor isLeft h h' isSemicolon h'' isRight hBody ih ih' ih'' ihBody =>
    exact Complete.forLoop isFor isLeft ih ih' isSemicolon ih'' isRight ihBody
  | ifThen isIf isLeft h isRight hThen ih ihThen =>
    exact Complete.ifThen isIf isLeft ih isRight ihThen
  | ifThenElse isIf isLeft h isRight hThen isElse hElse ih ihThen ihElse =>
    exact Complete.ifThenElse isIf isLeft ih isRight ihThen isElse ihElse
  | print isPrint h isSemicolon ih => exact Complete.print isPrint ih isSemicolon
  | returns isReturn h isSemicolon ih => exact Complete.returns isReturn ih isSemicolon
  | whileLoop isWhile isLeft h isRight hBody ih ihBody =>
    exact Complete.whileLoop isWhile isLeft ih isRight ihBody
  | block isOpening h isClosing ih => exact Complete.block isOpening ih isClosing
  | effect h isSemicolon ih => exact Complete.effect (h.starts rfl) ih isSemicolon
  | forNothing isSemicolon => exact Complete.forNothing isSemicolon
  | forVar isVar h ih => exact Complete.forVar isVar ih
  | forEffect h isSemicolon ih => exact Complete.forEffect (h.starts rfl) ih isSemicolon
  | absent => exact Complete.absent
  | present h ih => exact Complete.present (h.starts rfl) ih
  | assignment h isEqual h' ih ih' => exact Complete.assignment ih isEqual ih'
  | value h ih => exact Complete.value ih
  | join h isOperator h' ih ih' => exact Complete.join ih isOperator ih'
  | operand h ih => exact Complete.level ih
  | unary isOperator h ih => exact Complete.unary isOperator ih
  | callee h ih => exact Complete.callee (h.starts rfl) ih
  | call h isLeft h' isRight ih ih' => exact Complete.call ih isLeft ih' isRight
  | get h isDot isProperty ih => exact Complete.get ih isDot isProperty
  | primary h ih => exact Complete.primary ih
  | noArguments => exact Complete.noArguments
  | arguments h ih => exact Complete.arguments (h.starts rfl) ih
  | lastValue h ih => exact Complete.lastValue ih
  | values h isComma h' ih ih' => exact Complete.values ih isComma ih'
  | literal isLiteral => exact Complete.literal isLiteral
  | this isThis => exact Complete.this isThis
  | reference isName => exact Complete.reference isName
  | grouping isLeft h isRight ih => exact Complete.grouping isLeft ih isRight
  | super isSuper isDot isMethod => exact Complete.super isSuper isDot isMethod

end Grammar

/-! ### Programs and expressions -/

section

variable {ts : List Token} {eof : Token}

/-- The reading starts with all tokens before the one that ends the input. -/
theorem ofTokens_append (inside : ∀ t ∈ ts, t.kind.isEnd = false) (isEnd : eof.kind.isEnd = true)
    (nextId : NodeId) : Cursor.ofTokens (ts ++ [eof]) nextId = ⟨ts, eof, nextId, []⟩ := by
  unfold Cursor.ofTokens
  congr 1
  · rw [List.takeWhile_append_of_pos fun t mem => by rw [inside t mem]; rfl, List.takeWhile_cons,
      isEnd]
    exact List.append_nil ts
  · have none : ts.find? (fun t => t.kind.isEnd) = none :=
      List.find?_eq_none.2 fun t mem => by rw [inside t mem]; exact Bool.false_ne_true
    rw [List.find?_append, none, List.find?_cons, isEnd]
    rfl

/-- A reading without errors is the reading within the moves that are granted. -/
theorem run_of_arrives {α : Type} {parse : Parse α} {post : α → Cursor → Prop} {nextId : NodeId}
    {outcome : Except SyntaxError α × Cursor} {tokens : List Token}
    (h : Parser.Arrives parse (.ofTokens tokens nextId) post)
    (isRun : Job.run Parser.step (Parser.moves tokens) parse (.ofTokens tokens nextId) =
      some outcome) : ∃ a, outcome.1 = .ok a ∧ post a outcome.2 := by
  obtain ⟨_, _, _, t, isRun', a, rfl, met⟩ := h.exists_run
  rw [Job.run_unique isRun isRun']
  exact ⟨a, rfl, met⟩

/-- What the relaxed grammar derives as a program is parsed as one if there are no violations, and
rejected with all its violations otherwise. -/
theorem parseProgram_of_relaxed (inside : ∀ t ∈ ts, t.kind.isEnd = false)
    (isEnd : eof.kind.isEnd = true) {p : List Stmt} {found : List SyntaxError}
    (h : Grammar.Relaxed .program (ts ++ [eof]) p found) (nextId : NodeId) :
    (found = [] → ∃ p', (parseProgram (ts ++ [eof]) nextId).1 = .ok p' ∧
      Stmt.unnumberedList p' = Stmt.unnumberedList p) ∧
    (found ≠ [] → (parseProgram (ts ++ [eof]) nextId).1 = .error found) := by
  obtain ⟨us, eof', isTokens, -, answers⟩ := h.complete
  obtain ⟨rfl, isEof⟩ := List.append_inj' isTokens rfl
  cases isEof
  have arrives := Parser.Arrives.ask (answers nextId [])
  rw [← ofTokens_append inside isEnd] at arrives
  obtain ⟨outcome, t, _, isRun, -⟩ := Parser.exists_run_program (ts ++ [eof]) nextId
  obtain ⟨p', rfl, same, id, rfl⟩ := run_of_arrives arrives isRun
  rw [Parser.noted, List.append_nil] at isRun
  unfold parseProgram Parser.run
  rw [isRun]
  refine ⟨fun isNil => ⟨p', ?_, same⟩, fun some => ?_⟩
  · rw [isNil]
    rfl
  · obtain ⟨e, es, isFound⟩ := List.exists_cons_of_ne_nil (List.reverse_ne_nil_iff.2 some)
    have isErrors : found = (e :: es).reverse := by rw [← isFound, List.reverse_reverse]
    rw [isFound, isErrors]

theorem parseProgram_of_derives (inside : ∀ t ∈ ts, t.kind.isEnd = false)
    (isEnd : eof.kind.isEnd = true) {p : List Stmt} (h : Grammar.Derives .program (ts ++ [eof]) p)
    (nextId : NodeId) : ∃ p', (parseProgram (ts ++ [eof]) nextId).1 = .ok p' ∧
      Stmt.unnumberedList p' = Stmt.unnumberedList p := by
  obtain ⟨found, relaxed, clean⟩ := h.exists_relaxed
  exact (parseProgram_of_relaxed inside isEnd relaxed nextId).1 clean

theorem parseExpression_of_derives (inside : ∀ t ∈ ts, t.kind.isEnd = false)
    (isEnd : eof.kind.isEnd = true) {e : Expr} (h : Grammar.Derives (.expression .whole) ts e)
    (nextId : NodeId) : ∃ e', (parseExpression (ts ++ [eof]) nextId).1 = .ok e' ∧
      e'.unnumbered = e.unnumbered := by
  have strong : 8 < (Parser.follower [] eof).kind.strength := by
    obtain ⟨kind, lexeme, line⟩ := eof
    cases kind <;> cases isEnd
    exact Nat.le_refl 9
  obtain ⟨_, relaxed, rfl⟩ := h.exists_relaxed
  have answers := relaxed.complete [] eof nextId [] strong
  rw [List.append_nil] at answers
  have arrives : Parser.Arrives Parser.wholeExpression ⟨ts, eof, nextId, []⟩
      (Parser.Gets eof [] Expr.unnumbered e []) := by
    refine Parser.Arrives.bind (Parser.Arrives.ask (answers.mono ?_))
    rintro e' t ⟨same, id, rfl⟩
    refine Parser.arrives_get (Parser.arrives_atEnd ?_)
    exact Parser.Arrives.pure ⟨same, id, rfl⟩
  rw [← ofTokens_append inside isEnd] at arrives
  obtain ⟨outcome, t, _, isRun, -⟩ := Parser.exists_run_expression (ts ++ [eof]) nextId
  obtain ⟨e', rfl, same, id, rfl⟩ := run_of_arrives arrives isRun
  refine ⟨e', ?_, same⟩
  unfold parseExpression Parser.run
  rw [isRun]

theorem readable_append (inside : ∀ t ∈ ts, t.kind.isEnd = false) (isEnd : eof.kind.isEnd = true) :
    readable (ts ++ [eof]) = ts :=
  congrArg Cursor.rest (ofTokens_append inside isEnd 0)

/-- The parser accepts exactly its grammar: on tokens that are closed by the first one that ends
the input, it returns a program if and only if the grammar derives one from them, and the program
returned is then the tree of the derivation, up to the numbers of occurrences. The same holds of an
expression that reaches to the end of the input. -/
theorem parsed_iff_derived (ts : List Token) (eof : Token)
    (inside : ∀ t ∈ ts, t.kind.isEnd = false) (isEnd : eof.kind.isEnd = true) (nextId : NodeId) :
    ((∀ p, (parseProgram (ts ++ [eof]) nextId).1 = .ok p →
        Grammar.Derives .program (ts ++ [eof]) p) ∧
      ∀ p, Grammar.Derives .program (ts ++ [eof]) p →
        ∃ p', (parseProgram (ts ++ [eof]) nextId).1 = .ok p' ∧
          Stmt.unnumberedList p' = Stmt.unnumberedList p) ∧
    (∀ e, (parseExpression (ts ++ [eof]) nextId).1 = .ok e →
        Grammar.Derives (.expression .whole) ts e) ∧
      ∀ e, Grammar.Derives (.expression .whole) ts e →
        ∃ e', (parseExpression (ts ++ [eof]) nextId).1 = .ok e' ∧
          e'.unnumbered = e.unnumbered := by
  have isReadable := readable_append inside isEnd
  refine ⟨⟨fun p isParsed => ?_, fun p derived => ?_⟩, fun e isParsed => ?_, fun e derived => ?_⟩
  · have derived := (derives_of_parseProgram isParsed).1
    rw [isReadable] at derived
    exact .program derived isEnd
  · exact parseProgram_of_derives inside isEnd derived nextId
  · have derived := derives_of_parseExpression isParsed
    rwa [isReadable] at derived
  · exact parseExpression_of_derives inside isEnd derived nextId

end

/-- The parser reads `print nil;` as a program, so the grammar derives it. -/
theorem parsed_iff_derived_print :
    let print : Token := ⟨.keyword .print_, "print", 1⟩
    let nil : Token := ⟨.keyword .nil_, "nil", 1⟩
    let semicolon : Token := ⟨.symbol .semicolon, ";", 1⟩
    let eof : Token := ⟨.endOfInput, "", 1⟩
    Grammar.Derives .program [print, nil, semicolon, eof] [.print (.literal .nil 1)] := by
  intro print nil semicolon eof
  have inside : ∀ t ∈ [print, nil, semicolon], t.kind.isEnd = false := by
    simp [print, nil, semicolon, TokenKind.isEnd]
  exact (parsed_iff_derived [print, nil, semicolon] eof inside rfl 0).1.1 _ rfl

end Lox
