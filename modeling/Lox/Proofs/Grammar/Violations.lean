import Lox.Proofs.Grammar.Completeness

/-!
# Errors that do not stop the reading

A bad target of an assignment and an item too many in a list are noted, and the reading goes on as
if they were in order. So what the relaxed grammar derives is read to its end, and the errors of the
reading are the violations that the derivation collects, no other ones and in the same order.

## Main definitions

* `Inside`: no token among the given ones ends the input.

## Main results

* `Grammar.Relaxed.inside`: a phrase that is not a whole program has no such token.
* `Grammar.Relaxed.exists_derives`: without violations the relaxed grammar is the grammar.
* `reported_of_relaxed`: the violations are reported, each once and in order.
-/

namespace Lox

/-- No token ends the input. -/
def Inside (ts : List Token) : Prop :=
  ∀ t ∈ ts, t.kind.isEnd = false

namespace Inside

variable {t : Token} {ts us : List Token}

theorem nil : Inside [] :=
  nofun

theorem cons (first : t.kind.isEnd = false) (h : Inside ts) : Inside (t :: ts) :=
  List.forall_mem_cons.2 ⟨first, h⟩

theorem append (h : Inside ts) (h' : Inside us) : Inside (ts ++ us) :=
  List.forall_mem_append.2 ⟨h, h'⟩

theorem symbol {s : Symbol} (isSymbol : t.isSymbol s = true) (h : Inside ts) : Inside (t :: ts) :=
  h.cons (Cursor.isEnd_of_isSymbol isSymbol)

theorem keyword {k : Keyword} (isKeyword : t.isKeyword k = true) (h : Inside ts) :
    Inside (t :: ts) :=
  h.cons (Cursor.isEnd_of_isKeyword isKeyword)

theorem name (isName : t.kind = .identifier) (h : Inside ts) : Inside (t :: ts) :=
  h.cons (by rw [isName]; rfl)

theorem operator {l : Parser.Level} (isOperator : t.kind ∈ Grammar.operators l) (h : Inside ts) :
    Inside (t :: ts) :=
  h.cons (Parser.isEnd_of_accepts (Parser.accepts_iff.2 isOperator))

theorem literal {value : Literal} (isLiteral : Grammar.literal? t.kind = some value)
    (h : Inside ts) : Inside (t :: ts) := by
  refine h.cons ?_
  cases isKind : t.kind with
  | endOfInput =>
    rw [isKind] at isLiteral
    cases isLiteral
  | _ => rfl

end Inside

namespace Grammar

/-- The token that ends the input occurs only behind a whole program. -/
theorem Relaxed.inside {n : Nonterminal} {ts : List Token} {tree : n.Tree} {found : n.Found}
    (h : Relaxed n ts tree found) (isPart : n ≠ .program) : Inside ts := by
  induction h with
  | program => exact (isPart rfl).elim
  | noDeclarations | noFunctions | noParameters | absent | noArguments => exact .nil
  | declarations h h' ih ih' | functions h h' ih ih' => exact (ih nofun).append (ih' nofun)
  | classDeclaration isKeyword h ih | functionDeclaration isKeyword h ih
  | varDeclaration isKeyword h ih | forVar isKeyword h ih => exact .keyword isKeyword (ih nofun)
  | statement h ih | parameters h ih | present h ih | value h ih | operand h ih | callee h ih
  | primary h ih | arguments h ih | lastValue h ih => exact ih nofun
  | base isName isOpening h isClosing ih =>
    exact .name isName (.symbol isOpening ((ih nofun).append (.symbol isClosing .nil)))
  | derived isName isLess isParent isOpening h isClosing ih =>
    have body := Inside.symbol isOpening ((ih nofun).append (.symbol isClosing .nil))
    exact .name isName (.symbol isLess (.name isParent body))
  | function isName isLeft h isRight isOpening h' isClosing ih ih' =>
    have body := Inside.symbol isOpening ((ih' nofun).append (.symbol isClosing .nil))
    exact .name isName (.symbol isLeft ((ih nofun).append (.symbol isRight body)))
  | lastName isName | reference isName => exact .name isName .nil
  | names isName isComma h ih => exact .name isName (.symbol isComma (ih nofun))
  | declared isName isSemicolon => exact .name isName (.symbol isSemicolon .nil)
  | initialized isName isEqual h isSemicolon ih =>
    exact .name isName (.symbol isEqual ((ih nofun).append (.symbol isSemicolon .nil)))
  | forLoop isFor isLeft h h' isSemicolon h'' isRight hBody ih ih' ih'' ihBody =>
    have rest := (ih'' nofun).append (.symbol isRight (ihBody nofun))
    have clauses := (ih nofun).append ((ih' nofun).append (.symbol isSemicolon rest))
    exact .keyword isFor (.symbol isLeft clauses)
  | ifThen isKeyword isLeft h isRight h' ih ih' | whileLoop isKeyword isLeft h isRight h' ih ih' =>
    have condition := (ih nofun).append (.symbol isRight (ih' nofun))
    exact .keyword isKeyword (.symbol isLeft condition)
  | ifThenElse isIf isLeft h isRight hThen isElse hElse ih ihThen ihElse =>
    have branches := (ihThen nofun).append (.keyword isElse (ihElse nofun))
    exact .keyword isIf (.symbol isLeft ((ih nofun).append (.symbol isRight branches)))
  | print isKeyword h isSemicolon ih | returns isKeyword h isSemicolon ih =>
    exact .keyword isKeyword ((ih nofun).append (.symbol isSemicolon .nil))
  | block isOpening h isClosing ih | grouping isOpening h isClosing ih =>
    exact .symbol isOpening ((ih nofun).append (.symbol isClosing .nil))
  | effect h isSemicolon ih | forEffect h isSemicolon ih =>
    exact (ih nofun).append (.symbol isSemicolon .nil)
  | forNothing isSemicolon => exact .symbol isSemicolon .nil
  | assignment h isSymbol h' ih ih' | values h isSymbol h' ih ih' =>
    exact (ih nofun).append (.symbol isSymbol (ih' nofun))
  | join h isOperator h' ih ih' => exact (ih nofun).append (.operator isOperator (ih' nofun))
  | unary isOperator h ih =>
    rcases isOperator with isBang | isMinus
    · exact .symbol isBang (ih nofun)
    · exact .symbol isMinus (ih nofun)
  | call h isLeft h' isRight ih ih' =>
    exact (ih nofun).append (.symbol isLeft ((ih' nofun).append (.symbol isRight .nil)))
  | get h isDot isProperty ih =>
    exact (ih nofun).append (.symbol isDot (.name isProperty .nil))
  | literal isLiteral => exact .literal isLiteral .nil
  | this isThis => exact .keyword isThis .nil
  | super isSuper isDot isMethod =>
    exact .keyword isSuper (.symbol isDot (.name isMethod .nil))

end Grammar

/-- What the relaxed grammar derives as a program without violations, the grammar derives, up to the
numbers of occurrences. -/
theorem Grammar.Relaxed.exists_derives {tokens : List Token} {p : List Stmt}
    (h : Relaxed .program tokens p []) :
    ∃ p', Derives .program tokens p' ∧ Stmt.unnumberedList p' = Stmt.unnumberedList p := by
  cases h with
  | program declarations isEnd =>
    have inside := declarations.inside nofun
    obtain ⟨p', isParsed, same⟩ :=
      (parseProgram_of_relaxed inside isEnd (.program declarations isEnd) 0).1 rfl
    have derived := (derives_of_parseProgram isParsed).1
    rw [readable_append inside isEnd] at derived
    exact ⟨p', .program derived isEnd, same⟩

/-- On tokens that the relaxed grammar derives as a program, the parser returns the program if there
are no violations; otherwise it reports the violations, each of them once, in their order, and
nothing else. -/
theorem reported_of_relaxed {tokens : List Token} {p : List Stmt} {found : List SyntaxError}
    (h : Grammar.Relaxed .program tokens p found) (nextId : NodeId) :
    (found = [] → ∃ p', (parseProgram tokens nextId).1 = .ok p' ∧
      Stmt.unnumberedList p' = Stmt.unnumberedList p) ∧
    (found ≠ [] → (parseProgram tokens nextId).1 = .error found) := by
  cases h with
  | program declarations isEnd =>
    have inside := declarations.inside nofun
    exact parseProgram_of_relaxed inside isEnd (.program declarations isEnd) nextId

/-- What the two errors say. -/
example (t : Token) :
    SyntaxError.message ⟨t, .invalidAssignmentTarget⟩ = "Invalid assignment target" ∧
      SyntaxError.message ⟨t, .tooMany .arguments⟩ = "Can't have more than 255 arguments" :=
  ⟨rfl, rfl⟩

/-- In `nil = nil = nil;` both targets are bad. The inner assignment is reported first. -/
theorem reported_of_relaxed_chain :
    let nil : Token := ⟨.keyword .nil_, "nil", 1⟩
    let outer : Token := ⟨.symbol .equal, "=", 1⟩
    let inner : Token := ⟨.symbol .equal, "=", 2⟩
    let semicolon : Token := ⟨.symbol .semicolon, ";", 2⟩
    let eof : Token := ⟨.endOfInput, "", 2⟩
    (parseProgram [nil, outer, nil, inner, nil, semicolon, eof] 0).1 =
      .error [⟨inner, .invalidAssignmentTarget⟩, ⟨outer, .invalidAssignmentTarget⟩] := by
  intro nil outer inner semicolon eof
  have operand : Grammar.Relaxed (.expression (.level .disjunction)) [nil] (.literal .nil 1) [] :=
    .of_call (.primary (.literal rfl)) _
  have value := @Grammar.Relaxed.assignment inner _ _ _ _ _ _ operand rfl (.value operand)
  have whole := @Grammar.Relaxed.assignment outer _ _ _ _ _ _ operand rfl value
  have statement := @Grammar.Relaxed.effect true semicolon _ _ _ whole rfl
  have program := @Grammar.Relaxed.program _ eof _ _
    (.declarations (.statement statement) .noDeclarations) rfl
  exact (reported_of_relaxed program 0).2 (List.cons_ne_nil _ _)

end Lox
