import Lox.Text.Grapheme.Class
import Lox.Text.Printable

/-!
# Quoted names

A name is shown between double quotes, and so that each of its characters can be told: what has no
print, and marks that would merge with the character before them, are written by their number.

## Main definitions

* `Quoted.escape`: the text of a character within quotes.
* `Quoted.name`: a quoted name.
-/

namespace Lox.Quoted

/-- Whether a character has to be written by its number. The halfwidth voiced sound marks count as
extending, but have a print of their own. -/
def isHidden (c : Char) : Bool :=
  unprintable.contains c || fillers.contains c ||
    (Grapheme.extendingMarks.contains c && !(c.toNat == 0xFF9E || c.toNat == 0xFF9F))

/-- The text of a character within quotes. -/
def escape (c : Char) : String :=
  if c == '"' then "\\\""
  else if c == '\\' then "\\\\"
  else if c == '\n' then "\\n"
  else if c == '\r' then "\\r"
  else if c == '\t' then "\\t"
  else if c.toNat == 0 then "\\0"
  else if isHidden c then "\\u\x7b" ++ String.ofList (Nat.toDigits 16 c.toNat) ++ "\x7d"
  else c.toString

/-- A name in quotes. -/
def name (text : String) : String :=
  text.foldl (fun shown c => shown ++ escape c) "\"" ++ "\""

end Lox.Quoted
