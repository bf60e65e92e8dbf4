import Lox.Text.Grapheme.Cluster

/-!
# Typed lines

What a session reads was typed: a backspace erases the cluster that was typed before it.

## Main definitions

* `Typed.Line`: a line while it is typed; `Typed.Line.put`, `Typed.Line.erase`.
* `Typed.line`: what is left of a typed line.
* `Typed.lines`: the lines of an input.
-/

namespace Lox.Typed

/-- The number of bytes of some characters. Only one byte is kept of it, so that 256 counts as
none. -/
def width (text : List Char) : UInt8 :=
  .ofNat (text.foldl (fun bytes c => bytes + c.utf8Size) 0)

/-- Drop characters from the front until a number of bytes is gone. -/
def dropBytes : Nat → List Char → List Char
  | 0, text => text
  | _, [] => []
  | bytes + 1, c :: text => dropBytes (bytes + 1 - c.utf8Size) text

/-- A line while it is typed. -/
structure Line where
  /-- The characters so far, the last first. -/
  text : List Char
  /-- The widths of the clusters that can be erased, the last first. -/
  widths : List UInt8

namespace Line

/-- A line before anything is typed. -/
def empty : Line :=
  ⟨[], []⟩

/-- Type a cluster. -/
def put (line : Line) (cluster : List Char) : Line :=
  ⟨cluster.reverse ++ line.text, width cluster :: line.widths⟩

/-- Erase as many bytes as the last cluster has. -/
def erase (line : Line) : Line :=
  match line.widths with
  | [] => line
  | width :: widths => ⟨dropBytes width.toNat line.text, widths⟩

end Line

/-- What is left of a typed line. -/
def line (typed : String) : String :=
  let step (line : Line) (cluster : List Char) : Line :=
    if cluster == ['\x08'] then line.erase else line.put cluster
  let typed := (Grapheme.clusters typed.toList).foldl step .empty
  String.ofList typed.text.reverse

/-- The lines of an input, as typed. A line ends with a newline, or a carriage return and a newline;
the last line may do without. -/
def lines (input : String) : List String :=
  let pieces := input.splitOn "\n"
  let ended := pieces.dropLast.map fun line =>
    if line.endsWith "\r" then (line.dropEnd 1).toString else line
  (ended ++ pieces.getLast?.toList.filter (· != "")).map line

end Lox.Typed
