import Lox.Number.Reading
import Lox.Token.Basic

/-!
# From text to tokens

A source text is a sequence of *items*, tokens and lexical errors, with *trivia* between them:
blanks, tabs, carriage returns, newlines, and comments from `//` to the end of the line. Each item
is cut from the front of the text that follows the trivia, as long as the rules allow, and carries
the line on which it ends. One token for the end of the input comes last.

## Main definitions

* `skipTrivia`: the text after leading trivia.
* `Lexeme.cut`: the first item of a text that begins with no trivia.
* `scan`: all items of a source, in order.
* `tokenize`: the tokens of a source, or its lexical errors.

## Main results

* `length_skipTrivia_le`, `Lexeme.length_rest_le`: the remaining text never grows, so that scanning
  ends.
-/

namespace Lox

/-- What makes a text unreadable. -/
inductive LexError.Cause where
  | unexpected (c : Char)
  | unterminatedString
  deriving DecidableEq, Repr

/-- A lexical error and the line on which it ends. -/
structure LexError where
  cause : LexError.Cause
  line : Nat
  deriving DecidableEq, Repr

/-- The message of a lexical error. -/
def LexError.message (e : LexError) : String :=
  match e.cause with
  | .unexpected c => "Unexpected character: " ++ c.toString
  | .unterminatedString => "Unterminated string."

/-- A token, or an error in its place. -/
abbrev Item : Type :=
  Except LexError Token

/-! ### Classes of characters -/

/-- Blanks that separate tokens within a line. -/
def isBlank (c : Char) : Bool :=
  c == ' ' || c == '\t' || c == '\r'

/-- The decimal digits. -/
def isDigit (c : Char) : Bool :=
  '0' ≤ c && c ≤ '9'

/-- The characters that begin an identifier. -/
def isNameStart (c : Char) : Bool :=
  ('a' ≤ c && c ≤ 'z') || ('A' ≤ c && c ≤ 'Z') || c == '_'

/-- The characters that continue an identifier. -/
def isNameRest (c : Char) : Bool :=
  isNameStart c || isDigit c

/-! ### Trivia -/

/-- The text after leading trivia, and the number of its line. The flag says whether the text
begins inside a comment; the newline that ends a comment is trivia of its own. -/
def skipTrivia : Bool → Nat → List Char → Nat × List Char
  | _, line, [] => (line, [])
  | true, line, c :: rest =>
    if c == '\n' then skipTrivia false (line + 1) rest else skipTrivia true line rest
  | false, line, c :: rest =>
    if c == '\n' then skipTrivia false (line + 1) rest
    else if isBlank c then skipTrivia false line rest
    else if c == '/' && rest.head? == some '/' then skipTrivia true line rest
    else (line, c :: rest)

theorem length_skipTrivia_le (inComment : Bool) (line : Nat) (text : List Char) :
    (skipTrivia inComment line text).2.length ≤ text.length := by
  fun_induction skipTrivia inComment line text <;> simp_all <;> omega

/-! ### Items -/

/-- An item without its line: the characters it covers, what they are, and the text behind. -/
structure Lexeme where
  covered : List Char
  kind : Except LexError.Cause TokenKind
  rest : List Char

namespace Lexeme

/-- A lexeme of one character, or of two if an equals sign follows. -/
def operator (c : Char) (short long : Symbol) : List Char → Lexeme
  | '=' :: rest => ⟨[c, '='], .ok (.symbol long), rest⟩
  | rest => ⟨[c], .ok (.symbol short), rest⟩

/-- A string reaches to the next quote, over lines if need be. -/
def string (text : List Char) : Lexeme :=
  match text.dropWhile (· != '"') with
  | _ :: rest =>
    let contents := text.takeWhile (· != '"')
    ⟨'"' :: contents ++ ['"'], .ok (.string (String.ofList contents)), rest⟩
  | [] => ⟨'"' :: text, .error .unterminatedString, []⟩

/-- A number is a row of digits, with a fraction if a digit follows the dot. -/
def number (c : Char) (text : List Char) : Lexeme :=
  let whole := c :: text.takeWhile isDigit
  let rest := text.dropWhile isDigit
  let integer : Lexeme := ⟨whole, .ok (.number (Number.ofDigits whole [])), rest⟩
  match rest with
  | '.' :: d :: _ =>
    if isDigit d then
      let fraction := rest.tail.takeWhile isDigit
      ⟨whole ++ '.' :: fraction, .ok (.number (Number.ofDigits whole fraction)),
        rest.tail.dropWhile isDigit⟩
    else integer
  | _ => integer

/-- A word is a keyword if it is spelled as one, else an identifier. -/
def word (c : Char) (text : List Char) : Lexeme :=
  let letters := c :: text.takeWhile isNameRest
  let kind :=
    match Keyword.ofSpelling? (String.ofList letters) with
    | some k => .keyword k
    | none => .identifier
  ⟨letters, .ok kind, text.dropWhile isNameRest⟩

/-- The symbols of one character that begin no longer one. -/
def single? : Char → Option Symbol
  | '(' => some .leftParen
  | ')' => some .rightParen
  | '\x7b' => some .leftBrace
  | '\x7d' => some .rightBrace
  | ',' => some .comma
  | '.' => some .dot
  | '-' => some .minus
  | '+' => some .plus
  | ';' => some .semicolon
  | '*' => some .star
  | '/' => some .slash
  | _ => none

/-- The first item of the text that begins with `c` and goes on with `text`. A character that
begins no token is an error by itself. -/
def cut (c : Char) (text : List Char) : Lexeme :=
  match single? c with
  | some s => ⟨[c], .ok (.symbol s), text⟩
  | none =>
    if c == '!' then operator c .bang .bangEqual text
    else if c == '=' then operator c .equal .equalEqual text
    else if c == '<' then operator c .less .lessEqual text
    else if c == '>' then operator c .greater .greaterEqual text
    else if c == '"' then string text
    else if isDigit c then number c text
    else if isNameStart c then word c text
    else ⟨[c], .error (.unexpected c), text⟩

private theorem length_dropWhile_le (p : Char → Bool) (text : List Char) :
    (text.dropWhile p).length ≤ text.length :=
  (List.dropWhile_suffix p).length_le

theorem length_rest_le (c : Char) (text : List Char) : (cut c text).rest.length ≤ text.length := by
  have operator_le (short long : Symbol) :
      (operator c short long text).rest.length ≤ text.length := by
    unfold operator; split <;> simp
  have string_le : (string text).rest.length ≤ text.length := by
    have h := length_dropWhile_le (· != '"') text
    unfold string
    split <;> simp_all
    omega
  have number_le : (number c text).rest.length ≤ text.length := by
    have h := length_dropWhile_le isDigit text
    have h' := length_dropWhile_le isDigit (text.dropWhile isDigit).tail
    unfold number
    simp only
    split
    · split
      · simp_all; omega
      · simp_all
    · exact h
  unfold cut
  split
  · simp
  · repeat' split
    all_goals first
      | exact operator_le _ _
      | exact string_le
      | exact number_le
      | exact length_dropWhile_le _ _
      | exact Nat.le_refl _

/-- The item of a lexeme that begins on the given line. It belongs to the line on which it ends. -/
def item (lexeme : Lexeme) (line : Nat) : Item :=
  match lexeme.kind with
  | .ok kind => .ok ⟨kind, String.ofList lexeme.covered, line⟩
  | .error cause => .error ⟨cause, line⟩

end Lexeme

/-- The items of a text that begins on the given line, behind those already found. -/
def scanFrom (line : Nat) (text : List Char) (found : Array Item) : Array Item :=
  match _h : skipTrivia false line text with
  | (last, []) => found.push (.ok ⟨.endOfInput, "", last⟩)
  | (first, c :: rest) =>
    let lexeme := Lexeme.cut c rest
    let last := first + lexeme.covered.count '\n'
    scanFrom last lexeme.rest (found.push (lexeme.item last))
termination_by text.length
decreasing_by
  have h₁ := length_skipTrivia_le false line text
  have h₂ := Lexeme.length_rest_le c rest
  rw [_h] at h₁
  simp only [List.length_cons] at h₁
  omega

/-- All items of a source text. -/
def scan (source : String) : List Item :=
  (scanFrom 1 source.toList #[]).toList

/-- The tokens among items, if there is no error among them, else the errors. -/
def Item.gather (items : List Item) : Except (List LexError) (List Token) :=
  match items.filterMap fun item => match item with
      | .error e => some e
      | .ok _ => none with
  | [] => .ok (items.filterMap Except.toOption)
  | errors => .error errors

/-- The tokens of a source text, the end of the input last, or all its lexical errors. -/
def tokenize (source : String) : Except (List LexError) (List Token) :=
  Item.gather (scan source)

end Lox
