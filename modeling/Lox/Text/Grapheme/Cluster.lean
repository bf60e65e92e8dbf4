import Lox.Text.Grapheme.Class

/-!
# Clusters of characters

A cluster is what a reader takes for one character: a letter with its marks, a syllable, a flag, a
joined pictograph. A text is cut into clusters from the front; whether a character joins the cluster
before it depends on the classes of the characters in that cluster.

## Main definitions

* `Grapheme.joins`: whether a character joins a cluster.
* `Grapheme.clusters`: the clusters of a text.

## Main results

* `Grapheme.flatten_clusters`: the clusters put together are the text.
* `Grapheme.ne_nil_of_mem_clusters`: no cluster is empty.
-/

namespace Lox.Grapheme

/-- The classes of marks over the character before them. -/
def Class.extends : Class → Bool
  | .extend | .link | .nonJoiner => true
  | _ => false

/-- The classes that may stand between two joined consonants. -/
def Class.connects : Class → Bool
  | .extend | .link | .joiner => true
  | _ => false

/-- Whether the classes end with a consonant and marks of which one links, the last class first. -/
def endsLinked (before : List Class) : Bool :=
  (before.dropWhile Class.connects).head? == some .consonant &&
    (before.takeWhile Class.connects).contains .link

/-- Whether the classes end with a pictograph and marks over it, the last class first. -/
def endsWithPictograph (before : List Class) : Bool :=
  (before.dropWhile Class.extends).head? == some .pictograph

/-- Whether the classes end with a flag letter that has no partner yet, the last class first. -/
def endsWithHalfFlag (before : List Class) : Bool :=
  (before.takeWhile (· == .flagLetter)).length % 2 == 1

/-- Whether a character joins the cluster before it. The classes of the cluster come last class
first; the first rule that speaks of the two neighbours decides. -/
def joins (before : List Class) (next : Class) : Bool :=
  match before, next with
  | .carriageReturn :: _, .lineFeed => true
  | .carriageReturn :: _, _ | .lineFeed :: _, _ | .control :: _, _ => false
  | _, .carriageReturn | _, .lineFeed | _, .control => false
  | .lead :: _, .lead | .lead :: _, .vowel => true
  | .lead :: _, .openSyllable | .lead :: _, .closedSyllable => true
  | .openSyllable :: _, .vowel | .vowel :: _, .vowel => true
  | .openSyllable :: _, .trail | .vowel :: _, .trail => true
  | .closedSyllable :: _, .trail | .trail :: _, .trail => true
  | _, .extend | _, .link | _, .nonJoiner | _, .joiner | _, .spacing => true
  | .prepended :: _, _ => true
  | before, .consonant => endsLinked before
  | .joiner :: before, .pictograph => endsWithPictograph before
  | before, .flagLetter => endsWithHalfFlag before
  | _, _ => false

/-- The clusters of a text after a cluster that may go on. That cluster comes with the classes of
its characters, both last first. -/
def clustersFrom (cluster : List Char) (before : List Class) : List Char → List (List Char)
  | [] => [cluster.reverse]
  | c :: text =>
    let next := Class.of c
    if joins before next then clustersFrom (c :: cluster) (next :: before) text
    else cluster.reverse :: clustersFrom [c] [next] text

/-- The clusters of a text. -/
def clusters : List Char → List (List Char)
  | [] => []
  | c :: text => clustersFrom [c] [Class.of c] text

theorem flatten_clustersFrom (text : List Char) (cluster : List Char) (before : List Class) :
    (clustersFrom cluster before text).flatten = cluster.reverse ++ text := by
  induction text generalizing cluster before with
  | nil => simp [clustersFrom]
  | cons c text ih =>
    simp only [clustersFrom]
    split <;> simp [ih]

/-- Nothing is lost or moved by cutting a text into clusters. -/
theorem flatten_clusters (text : List Char) : (clusters text).flatten = text := by
  cases text with
  | nil => rfl
  | cons c text => simp [clusters, flatten_clustersFrom]

theorem ne_nil_of_mem_clustersFrom {text cluster part : List Char} {before : List Class}
    (nonempty : cluster ≠ []) (mem : part ∈ clustersFrom cluster before text) : part ≠ [] := by
  induction text generalizing cluster before with
  | nil =>
    simp only [clustersFrom, List.mem_singleton] at mem
    simpa [mem] using nonempty
  | cons c text ih =>
    simp only [clustersFrom] at mem
    split at mem
    · exact ih (by simp) mem
    · rcases List.mem_cons.1 mem with rfl | mem
      · simpa using nonempty
      · exact ih (by simp) mem

/-- A cluster has a character at least. -/
theorem ne_nil_of_mem_clusters {text part : List Char} (mem : part ∈ clusters text) :
    part ≠ [] := by
  cases text with
  | nil => simp [clusters] at mem
  | cons c text => exact ne_nil_of_mem_clustersFrom (by simp) mem

end Lox.Grapheme
