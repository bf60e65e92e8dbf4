import Lox.Number.Text

/-!
# Tokens

A token is a piece of source text with its kind and the line on which it ends. Symbols and keywords
are spelled in one way each; string and number literals carry the value they denote.

## Main definitions

* `Symbol`, `Keyword`: the fixed spellings of the language.
* `TokenKind`, `Token`: kinds and tokens; `TokenKind.sameKind` compares kinds without payloads.
* `Token.text`: the line on which a token is listed.
-/

namespace Lox

/-- Punctuation and operators. -/
inductive Symbol where
  | leftParen | rightParen | leftBrace | rightBrace
  | comma | dot | minus | plus | semicolon | slash | star
  | bang | bangEqual | equal | equalEqual | greater | greaterEqual | less | lessEqual
  deriving DecidableEq, Repr, Inhabited

/-- Reserved words. -/
inductive Keyword where
  | and_ | class_ | else_ | false_ | for_ | fun_ | if_ | nil_ | or_
  | print_ | return_ | super_ | this_ | true_ | var_ | while_
  deriving DecidableEq, Repr, Inhabited

/-- The kinds of tokens, with the values of literals. -/
inductive TokenKind where
  | symbol (s : Symbol)
  | keyword (k : Keyword)
  | identifier
  | string (contents : String)
  | number (value : Float)
  | endOfInput
  deriving Inhabited

/-- A token: its kind, the text it covers, and its line, counted from one. -/
structure Token where
  kind : TokenKind
  lexeme : String
  line : Nat
  deriving Inhabited

namespace Symbol

/-- Every symbol. -/
def all : List Symbol :=
  [leftParen, rightParen, leftBrace, rightBrace, comma, dot, minus, plus, semicolon, slash, star,
    bang, bangEqual, equal, equalEqual, greater, greaterEqual, less, lessEqual]

/-- The text of a symbol in a source. -/
def spelling : Symbol → String
  | leftParen => "("
  | rightParen => ")"
  | leftBrace => "\x7b"
  | rightBrace => "\x7d"
  | comma => ","
  | dot => "."
  | minus => "-"
  | plus => "+"
  | semicolon => ";"
  | slash => "/"
  | star => "*"
  | bang => "!"
  | bangEqual => "!="
  | equal => "="
  | equalEqual => "=="
  | greater => ">"
  | greaterEqual => ">="
  | less => "<"
  | lessEqual => "<="

/-- The name of a symbol in listings. -/
def label : Symbol → String
  | leftParen => "LEFT_PAREN"
  | rightParen => "RIGHT_PAREN"
  | leftBrace => "LEFT_BRACE"
  | rightBrace => "RIGHT_BRACE"
  | comma => "COMMA"
  | dot => "DOT"
  | minus => "MINUS"
  | plus => "PLUS"
  | semicolon => "SEMICOLON"
  | slash => "SLASH"
  | star => "STAR"
  | bang => "BANG"
  | bangEqual => "BANG_EQUAL"
  | equal => "EQUAL"
  | equalEqual => "EQUAL_EQUAL"
  | greater => "GREATER"
  | greaterEqual => "GREATER_EQUAL"
  | less => "LESS"
  | lessEqual => "LESS_EQUAL"

end Symbol

namespace Keyword

/-- Every keyword. -/
def all : List Keyword :=
  [and_, class_, else_, false_, for_, fun_, if_, nil_, or_, print_, return_, super_, this_, true_,
    var_, while_]

/-- The text of a keyword in a source. -/
def spelling : Keyword → String
  | and_ => "and"
  | class_ => "class"
  | else_ => "else"
  | false_ => "false"
  | for_ => "for"
  | fun_ => "fun"
  | if_ => "if"
  | nil_ => "nil"
  | or_ => "or"
  | print_ => "print"
  | return_ => "return"
  | super_ => "super"
  | this_ => "this"
  | true_ => "true"
  | var_ => "var"
  | while_ => "while"

/-- The name of a keyword in listings. -/
def label (k : Keyword) : String :=
  k.spelling.map Char.toUpper

/-- The keyword with the given spelling. -/
def ofSpelling? (word : String) : Option Keyword :=
  all.find? fun k => k.spelling == word

/-- Whether a statement begins with the keyword. -/
def startsStatement : Keyword → Bool
  | class_ | fun_ | var_ | for_ | if_ | while_ | print_ | return_ => true
  | _ => false

end Keyword

namespace TokenKind

/-- The name of a kind in listings. -/
def label : TokenKind → String
  | symbol s => s.label
  | keyword k => k.label
  | identifier => "IDENTIFIER"
  | string _ => "STRING"
  | number _ => "NUMBER"
  | endOfInput => "EOF"

/-- The kind without payload that has the given name. -/
def ofLabel? (label : String) : Option TokenKind :=
  let kinds := identifier :: endOfInput :: (Symbol.all.map symbol ++ Keyword.all.map keyword)
  kinds.find? fun kind => kind.label == label

/-- Whether two kinds agree up to the values of literals. -/
def sameKind : TokenKind → TokenKind → Bool
  | symbol s, symbol s' => s == s'
  | keyword k, keyword k' => k == k'
  | identifier, identifier => true
  | string _, string _ => true
  | number _, number _ => true
  | endOfInput, endOfInput => true
  | _, _ => false

/-- Whether the kind is that of the end of the input. -/
def isEnd : TokenKind → Bool
  | endOfInput => true
  | _ => false

/-- The literal column of a listing. A whole number below `10 ^ 15` is shown with one decimal place
and zero without its sign; any other number is shown in the plain style. -/
def literalText : TokenKind → String
  | string contents => contents
  | number x =>
    let value := Number.binary x
    if value.isIntegral && value.natAbs < Number.powerOfTen 15 then
      if value.natAbs = 0 then "0.0" else Number.wholeText x ++ ".0"
    else Number.Style.plain.write x
  | _ => "null"

end TokenKind

namespace Token

/-- Whether two tokens agree in kind, text and line; the values of literals are not compared. -/
def same (t t' : Token) : Bool :=
  t.kind.sameKind t'.kind && t.lexeme == t'.lexeme && t.line == t'.line

/-- Whether a token is the given symbol. -/
def isSymbol (t : Token) (s : Symbol) : Bool :=
  match t.kind with
  | .symbol s' => s' == s
  | _ => false

/-- Whether a token is the given keyword. -/
def isKeyword (t : Token) (k : Keyword) : Bool :=
  match t.kind with
  | .keyword k' => k' == k
  | _ => false

/-- The line that lists a token: kind, text and literal. -/
def text (t : Token) : String :=
  t.kind.label ++ " " ++ t.lexeme ++ " " ++ t.kind.literalText

end Token

end Lox
