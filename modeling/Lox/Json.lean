import Lox.Number.Text

/-!
# Documents in JSON

A document is given as the list of its events, in the order in which its text shows them, so that
deep documents need no recursion. The text is indented by two blanks for each open container; a
container without members is closed at once.

## Main definitions

* `Json.Event`: what can come next in a document.
* `Json.quote`: the text of a string.
* `Json.pretty`: the text of a document.
-/

namespace Lox.Json

/-- What can come next in a document. -/
inductive Event where
  | beginList
  | endList
  | beginObject
  | endObject
  | key (name : String)
  | string (s : String)
  | natural (n : Nat)
  | number (x : Float)
  | null

/-- How numbers are written in documents: whole numbers keep a decimal place, halves go to the even
digit, and an exponent is used unless the point stands at most four places before the digits or
sixteen places into them. -/
def numberStyle : Number.Style where
  tie := .even
  mark := ".0"
  isPositional := fun point => -5 < point && point ≤ 16
  infinity := "null"
  undefined := "null"

/-- The text of a number; there is no way to write one that is not finite. -/
def numberText (x : Float) : String :=
  match Number.binary x with
  | .finite .. => numberStyle.write x
  | _ => "null"

/-- Two digits to the base sixteen. -/
def hexByte (n : Nat) : String :=
  String.ofList [Nat.digitChar (n / 16 % 16), Nat.digitChar (n % 16)]

/-- The text of a character within quotes: quotes, backslashes and control characters are escaped,
and all others stand for themselves. -/
def escape (c : Char) : String :=
  if c == '"' then "\\\""
  else if c == '\\' then "\\\\"
  else if c == '\n' then "\\n"
  else if c == '\r' then "\\r"
  else if c == '\t' then "\\t"
  else if c.toNat == 8 then "\\b"
  else if c.toNat == 12 then "\\f"
  else if c.toNat < 32 then "\\u00" ++ hexByte c.toNat
  else c.toString

/-- The text of a string. -/
def quote (s : String) : String :=
  s.foldl (fun text c => text ++ escape c) "\"" ++ "\""

/-- A document written so far: its text, the number of open containers, whether the innermost of
them has no member yet, and whether a key waits for its value. -/
structure Layout where
  text : String
  depth : Nat
  isEmpty : Bool
  afterKey : Bool

namespace Layout

/-- The document of which nothing is written. -/
def start : Layout :=
  ⟨"", 0, true, false⟩

/-- Begin a new line, indented for the given number of open containers. -/
def newline (layout : Layout) (depth : Nat) : Layout :=
  { layout with text := layout.text ++ "\n" ++ String.ofList (List.replicate (2 * depth) ' ') }

/-- Go to the place of the next member of the innermost container; the value of a key stands on the
line of the key, and the document itself at the start. -/
def place (layout : Layout) : Layout :=
  if layout.afterKey || layout.depth == 0 then { layout with afterKey := false }
  else if layout.isEmpty then layout.newline layout.depth
  else { layout with text := layout.text ++ "," }.newline layout.depth

/-- Write a value that is no container. -/
def scalar (layout : Layout) (value : String) : Layout :=
  let layout := layout.place
  { layout with text := layout.text ++ value, isEmpty := false }

/-- Open a container. -/
def opening (layout : Layout) (bracket : String) : Layout :=
  let layout := layout.place
  { layout with text := layout.text ++ bracket, depth := layout.depth + 1, isEmpty := true }

/-- Close the innermost container. -/
def closing (layout : Layout) (bracket : String) : Layout :=
  let depth := layout.depth - 1
  let layout := if layout.isEmpty then layout else layout.newline depth
  { layout with text := layout.text ++ bracket, depth := depth, isEmpty := false }

/-- Write the next event. -/
def write (layout : Layout) : Event → Layout
  | .beginList => layout.opening "["
  | .endList => layout.closing "]"
  | .beginObject => layout.opening "\x7b"
  | .endObject => layout.closing "\x7d"
  | .key name =>
    let layout := layout.place
    { layout with text := layout.text ++ quote name ++ ": ", isEmpty := false, afterKey := true }
  | .string s => layout.scalar (quote s)
  | .natural n => layout.scalar (toString n)
  | .number x => layout.scalar (numberText x)
  | .null => layout.scalar "null"

end Layout

/-- The text of a document. -/
def pretty (document : List Event) : String :=
  (document.foldl Layout.write .start).text

end Lox.Json
