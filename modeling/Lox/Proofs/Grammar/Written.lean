import Lox.Proofs.Number.Reading
import Lox.Proofs.Token.Respelled
import Lox.Proofs.Tree.Constants
import Lox.Proofs.Tree.Written.Statement

/-!
# Derived trees are written

The tokens of a source have the texts of their kinds, so the trees derived from them have such
tokens where the grammar asks for them. The constants of a tree come from tokens, so that a number
among them is none that is no number.

## Main definitions

* `Grammar.Nonterminal.Written`, `Grammar.Nonterminal.constants`: what it means for the trees of
  each sort of phrases to be written, and the constants in them.

## Main results

* `Grammar.Derives.written`: derived trees whose constants are plain are written.
-/

namespace Lox.Grammar

/-- The trees of a sort of phrases are written. -/
def Nonterminal.Written : (n : Nonterminal) → n.Tree → Prop
  | .program, p | .declarations, p => ∀ s ∈ p, s.Written
  | .declaration, s | .classDecl, s | .varDecl, s | .statement _, s => s.Written
  | .functions, ds => ∀ d ∈ ds, d.Written
  | .function, d => d.Written
  | .parameters, ts | .names, ts => ∀ t ∈ ts, t.IsText .identifier
  | .forInit, s => ∀ s', s = some s' → s'.Written
  | .optional, e => ∀ e', e = some e' → e'.Written
  | .arguments, es | .values, es => ∀ e ∈ es, e.Written
  | .expression _, e => e.Written

/-- The constants in the trees of a sort of phrases. -/
def Nonterminal.constants : (n : Nonterminal) → n.Tree → List Literal
  | .program, p | .declarations, p => Stmt.constantsOfList p
  | .declaration, s | .classDecl, s | .varDecl, s | .statement _, s => s.constants
  | .functions, ds => FunctionDecl.constantsOfList ds
  | .function, d => d.constants
  | .parameters, _ | .names, _ => []
  | .forInit, s => Stmt.constantsOfOption s
  | .optional, e => Expr.constantsOfOption e
  | .arguments, es | .values, es => Expr.constantsOfList es
  | .expression _, e => e.constants

/-- A plain constant that is the value of a token is legible. -/
theorem legible_of_literal? {text : List Char} {kind : TokenKind} {value : Literal}
    (lexes : Lexes text kind) (isLiteral : literal? kind = some value)
    (plain : value.isPlain = true) : value.Legible := by
  have finite {whole fraction : List Char}
      (plain : (Literal.number (Number.ofDigits whole fraction)).isPlain = true) :
      (Literal.number (Number.ofDigits whole fraction)).Legible := by
    have isValue := Number.binary_ofDigits_ne_undefined whole fraction
    rw [Literal.isPlain] at plain
    rw [Literal.Legible]
    cases isBinary : Number.binary (Number.ofDigits whole fraction) with
    | undefined => exact absurd isBinary isValue
    | infinite negative => rw [isBinary] at plain; cases plain
    | finite negative s e => exact ⟨negative, s, e, rfl⟩
  cases lexes with
  | symbol => cases isLiteral
  | keyword k => cases k <;> cases isLiteral <;> trivial
  | identifier => cases isLiteral
  | string => cases isLiteral; cases plain
  | integer => cases isLiteral; exact finite plain
  | decimal => cases isLiteral; exact finite plain

/-- Plain constants and written parts make a written loop. -/
theorem written_forLoop {keyword : Token} {initializer : Option Stmt}
    {condition increment : Option Expr} {body : Stmt}
    (hInitializer : ∀ s, initializer = some s → s.Written)
    (hCondition : ∀ e, condition = some e → e.Written)
    (hIncrement : ∀ e, increment = some e → e.Written) (hBody : body.Written) :
    (forLoop keyword initializer condition increment body).Written := by
  have isCondition : (condition.getD (.literal (.boolean true) keyword.line)).Written := by
    cases condition with
    | none => exact .literal trivial
    | some e => exact hCondition e rfl
  have round : (increment.elim body fun e => .block [body, .expression e]).Written := by
    cases increment with
    | none => exact hBody
    | some e =>
      refine .block ?_
      rw [List.forall_mem_cons, List.forall_mem_singleton]
      exact ⟨hBody, .expression (hIncrement e rfl)⟩
  cases initializer with
  | none => exact .loop isCondition round
  | some s =>
    refine .block ?_
    rw [List.forall_mem_cons, List.forall_mem_singleton]
    exact ⟨hInitializer s rfl, .loop isCondition round⟩

/-- The constants of a loop are those of its parts. -/
theorem constants_forLoop (keyword : Token) (initializer : Option Stmt)
    (condition increment : Option Expr) (body : Stmt) :
    (forLoop keyword initializer condition increment body).constants =
      Stmt.constantsOfOption initializer ++
        ((condition.getD (.literal (.boolean true) keyword.line)).constants ++
          (body.constants ++ Expr.constantsOfOption increment)) := by
  cases initializer <;> cases increment <;>
    simp [forLoop, Stmt.constants, Stmt.constantsOfList, Stmt.constantsOfOption,
      Expr.constantsOfOption]

@[simp] theorem constants_joined (l : Parser.Level) (left right : Expr) (operator : Token) :
    (joined l left operator right).constants = left.constants ++ right.constants := by
  cases l <;> rfl

theorem written_joined {l : Parser.Level} {left right : Expr} {operator : Token}
    (isOperator : operator.kind ∈ operators l) (isText : operator.IsText operator.kind)
    (hl : left.Written) (hr : right.Written) : (joined l left operator right).Written := by
  have binary (s : Symbol) (isSymbol : operator.kind = .symbol s) (isOne : s ∈ [Symbol.minus,
      .plus, .slash, .star, .bangEqual, .equalEqual, .greater, .greaterEqual, .less,
      .lessEqual]) : (Expr.binary left operator right).Written :=
    .binary ⟨s, isSymbol, isOne⟩ isText hl hr
  cases l with
  | disjunction => exact .logical (.inr (List.mem_singleton.1 isOperator)) isText hl hr
  | conjunction => exact .logical (.inl (List.mem_singleton.1 isOperator)) isText hl hr
  | comparison =>
    simp only [operators, List.mem_cons, List.not_mem_nil, or_false] at isOperator
    rcases isOperator with h | h | h | h <;> exact binary _ h (by decide)
  | _ =>
    simp only [operators, List.mem_cons, List.not_mem_nil, or_false] at isOperator
    rcases isOperator with h | h <;> exact binary _ h (by decide)

/-- The texts of tokens are those of their kinds. -/
def Lexical (ts : List Token) : Prop :=
  ∀ t ∈ ts, Lexes t.lexeme.toList t.kind

@[simp] theorem lexical_nil : Lexical [] :=
  nofun

@[simp] theorem lexical_cons {t : Token} {ts : List Token} :
    Lexical (t :: ts) ↔ Lexes t.lexeme.toList t.kind ∧ Lexical ts :=
  List.forall_mem_cons

@[simp] theorem lexical_append {ts us : List Token} :
    Lexical (ts ++ us) ↔ Lexical ts ∧ Lexical us :=
  List.forall_mem_append

theorem isText_of_lexes {t : Token} {kind : TokenKind} (h : Lexes t.lexeme.toList t.kind)
    (isKind : t.kind = kind) : t.IsText kind :=
  ⟨isKind, isKind ▸ h⟩

/-- Trees that are derived from the tokens of a source are written, if their constants are plain. -/
theorem Derives.written {n : Nonterminal} {ts : List Token} {tree : n.Tree} (h : Derives n ts tree)
    (lexical : Lexical ts) (plain : ∀ v ∈ n.constants tree, v.isPlain = true) :
    n.Written tree := by
  induction h with
  | program _ _ ih =>
    exact ih (lexical_append.1 lexical).1 plain
  | noDeclarations => exact nofun
  | declarations _ _ ih ih' =>
    simp only [Nonterminal.constants, Stmt.constantsOfList, lexical_append,
      List.forall_mem_append] at lexical plain
    exact List.forall_mem_cons.2 ⟨ih lexical.1 plain.1, ih' lexical.2 plain.2⟩
  | classDeclaration _ _ ih => exact ih (lexical_cons.1 lexical).2 plain
  | functionDeclaration _ _ ih => exact .functionDecl (ih (lexical_cons.1 lexical).2 plain)
  | varDeclaration _ _ ih => exact ih (lexical_cons.1 lexical).2 plain
  | statement _ ih => exact ih lexical plain
  | base isName _ _ _ ih =>
    simp only [lexical_cons, lexical_append] at lexical
    exact .classDecl (isText_of_lexes lexical.1 isName) nofun (ih lexical.2.2.1 plain)
  | derived isName _ isParent _ _ _ ih =>
    simp only [lexical_cons, lexical_append] at lexical
    refine .classDecl (isText_of_lexes lexical.1 isName) ?_ (ih lexical.2.2.2.2.1 plain)
    rintro _ ⟨⟩
    exact isText_of_lexes lexical.2.2.1 isParent
  | noFunctions => exact nofun
  | functions _ _ ih ih' =>
    simp only [Nonterminal.constants, FunctionDecl.constantsOfList, lexical_append,
      List.forall_mem_append] at lexical plain
    exact List.forall_mem_cons.2 ⟨ih lexical.1 plain.1, ih' lexical.2 plain.2⟩
  | function isName _ _ _ _ _ _ ih ih' =>
    simp only [lexical_cons, lexical_append] at lexical
    exact .mk (isText_of_lexes lexical.1 isName) (ih lexical.2.2.1 nofun)
      (ih' lexical.2.2.2.2.2.1 plain)
  | noParameters => exact nofun
  | parameters _ _ ih => exact ih lexical nofun
  | lastName isName =>
    exact List.forall_mem_singleton.2 (isText_of_lexes (lexical_cons.1 lexical).1 isName)
  | names isName _ _ ih =>
    simp only [lexical_cons] at lexical
    exact List.forall_mem_cons.2 ⟨isText_of_lexes lexical.1 isName, ih lexical.2.2 nofun⟩
  | declared isName _ => exact .varDecl (isText_of_lexes (lexical_cons.1 lexical).1 isName) nofun
  | initialized isName _ _ _ ih =>
    simp only [lexical_cons, lexical_append] at lexical
    refine .varDecl (isText_of_lexes lexical.1 isName) ?_
    rintro _ ⟨⟩
    exact ih lexical.2.2.1 plain
  | forLoop _ _ _ _ _ _ _ _ ih ih' ih'' ihBody =>
    simp only [lexical_cons, lexical_append] at lexical
    obtain ⟨-, -, inInitializer, inCondition, -, inIncrement, -, inBody⟩ := lexical
    simp only [Nonterminal.constants, constants_forLoop, List.forall_mem_append] at plain
    obtain ⟨plain, plain', plainBody, plain''⟩ := plain
    refine written_forLoop (ih inInitializer plain) (fun e isCondition => ?_)
      (ih'' inIncrement plain'') (ihBody inBody plainBody)
    subst isCondition
    exact ih' inCondition plain' e rfl
  | ifThen _ _ _ _ _ ih ihThen =>
    simp only [Nonterminal.constants, Stmt.constants, Stmt.constantsOfOption, List.append_nil,
      lexical_cons, lexical_append, List.forall_mem_append] at lexical plain
    obtain ⟨-, -, inCondition, -, inThen⟩ := lexical
    exact .conditional (ih inCondition plain.1) (ihThen inThen plain.2) nofun
  | ifThenElse _ _ _ _ _ _ _ ih ihThen ihElse =>
    simp only [Nonterminal.constants, Stmt.constants, Stmt.constantsOfOption, lexical_cons,
      lexical_append, List.forall_mem_append] at lexical plain
    obtain ⟨-, -, inCondition, -, inThen, -, inElse⟩ := lexical
    refine .conditional (ih inCondition plain.1.1) (ihThen inThen plain.1.2) ?_
    rintro _ ⟨⟩
    exact ihElse inElse plain.2
  | print _ _ _ ih =>
    simp only [lexical_cons, lexical_append] at lexical
    exact .print (ih lexical.2.1 plain)
  | returns isReturn _ _ ih =>
    simp only [lexical_cons, lexical_append] at lexical
    exact .ret (isText_of_lexes lexical.1 (Token.isKeyword_iff.1 isReturn)) (ih lexical.2.1 plain)
  | whileLoop _ _ _ _ _ ih ihBody =>
    simp only [Nonterminal.constants, Stmt.constants, lexical_cons, lexical_append,
      List.forall_mem_append] at lexical plain
    obtain ⟨-, -, inCondition, -, inBody⟩ := lexical
    exact .loop (ih inCondition plain.1) (ihBody inBody plain.2)
  | block _ _ _ ih =>
    simp only [lexical_cons, lexical_append] at lexical
    exact .block (ih lexical.2.1 plain)
  | effect _ _ ih => exact .expression (ih (lexical_append.1 lexical).1 plain)
  | forNothing => exact nofun
  | forVar _ _ ih =>
    rintro _ ⟨⟩
    exact ih (lexical_cons.1 lexical).2 plain
  | forEffect _ _ ih =>
    rintro _ ⟨⟩
    exact .expression (ih (lexical_append.1 lexical).1 plain)
  | absent => exact nofun
  | present _ ih =>
    rintro _ ⟨⟩
    exact ih lexical plain
  | assign isName _ _ ih =>
    simp only [lexical_cons] at lexical
    exact .assign (isText_of_lexes lexical.1 isName) (ih lexical.2.2 plain)
  | set _ _ isProperty _ _ ih ih' =>
    simp only [Nonterminal.constants, Expr.constants, lexical_cons, lexical_append,
      List.forall_mem_append] at lexical plain
    obtain ⟨inObject, -, inProperty, -, inValue⟩ := lexical
    exact .set (isText_of_lexes inProperty isProperty) (ih inObject plain.1) (ih' inValue plain.2)
  | value _ ih => exact ih lexical plain
  | @join l operator ts us left right _ isOperator _ ih ih' =>
    simp only [Nonterminal.constants, constants_joined, lexical_cons, lexical_append,
      List.forall_mem_append] at lexical plain
    obtain ⟨inLeft, inOperator, inRight⟩ := lexical
    exact written_joined isOperator (isText_of_lexes inOperator rfl) (ih inLeft plain.1)
      (ih' inRight plain.2)
  | operand _ ih => exact ih lexical plain
  | unary isOperator _ ih =>
    simp only [lexical_cons] at lexical
    refine .unary ?_ (isText_of_lexes lexical.1 rfl) (ih lexical.2 plain)
    rcases isOperator with isBang | isMinus
    · exact .inr (Token.isSymbol_iff.1 isBang)
    · exact .inl (Token.isSymbol_iff.1 isMinus)
  | callee _ ih => exact ih lexical plain
  | call _ _ _ isRight ih ih' =>
    simp only [Nonterminal.constants, Expr.constants, lexical_cons, lexical_append,
      List.forall_mem_append] at lexical plain
    obtain ⟨inCallee, -, inArguments, inRight, -⟩ := lexical
    exact .call (isText_of_lexes inRight (Token.isSymbol_iff.1 isRight)) (ih inCallee plain.1)
      (ih' inArguments plain.2)
  | get _ _ isProperty ih =>
    simp only [lexical_cons, lexical_append] at lexical
    exact .get (isText_of_lexes lexical.2.2.1 isProperty) (ih lexical.1 plain)
  | primary _ ih => exact ih lexical plain
  | noArguments => exact nofun
  | arguments _ _ ih => exact ih lexical plain
  | lastValue _ ih =>
    simp only [Nonterminal.constants, Expr.constantsOfList, List.append_nil] at plain
    exact List.forall_mem_singleton.2 (ih lexical plain)
  | values _ _ _ ih ih' =>
    simp only [Nonterminal.constants, Expr.constantsOfList, lexical_cons, lexical_append,
      List.forall_mem_append] at lexical plain
    exact List.forall_mem_cons.2 ⟨ih lexical.1 plain.1, ih' lexical.2.2 plain.2⟩
  | literal isLiteral =>
    exact .literal (legible_of_literal? (lexical_cons.1 lexical).1 isLiteral
      (plain _ List.mem_cons_self))
  | this isThis =>
    exact .this (isText_of_lexes (lexical_cons.1 lexical).1 (Token.isKeyword_iff.1 isThis))
  | reference isName => exact .reference (isText_of_lexes (lexical_cons.1 lexical).1 isName)
  | grouping _ _ _ ih =>
    simp only [lexical_cons, lexical_append] at lexical
    exact .grouping (ih lexical.2.1 plain)
  | super isSuper _ isMethod =>
    simp only [lexical_cons] at lexical
    exact .super (isText_of_lexes lexical.1 (Token.isKeyword_iff.1 isSuper))
      (isText_of_lexes lexical.2.2.1 isMethod)

end Lox.Grammar
