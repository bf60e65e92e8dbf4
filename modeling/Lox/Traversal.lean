/-!
# Traversals

A traversal turns a tree into a list, from left to right, without recursion over the depth of the
tree. It is given by the *expansion* of one node into its own contribution and its children, and
works on a list of parts still to be treated.

## Main definitions

* `Part`: a child, or a finished element of the result.
* `Traversal`: an expansion together with a measure that it decreases.
* `Traversal.toList`: the result for a list of parts.

## Main results

* `Traversal.toList_append`, `Traversal.toList_node`: the result is that of the recursive
  definition.
-/

namespace Lox

/-- A node that is still to be expanded, or an element of the result. -/
inductive Part (ν ω : Type) where
  | node (n : ν)
  | leaf (element : ω)

variable {ν ω : Type}

/-- The total weight of the nodes among some parts. -/
def Part.total (weight : ν → Nat) : List (Part ν ω) → Nat
  | [] => 0
  | .node n :: parts => weight n + total weight parts
  | .leaf _ :: parts => total weight parts

namespace Part

variable (weight : ν → Nat)

@[simp] theorem total_nil : total weight ([] : List (Part ν ω)) = 0 := rfl

@[simp] theorem total_node (n : ν) (parts : List (Part ν ω)) :
    total weight (.node n :: parts) = weight n + total weight parts := rfl

@[simp] theorem total_leaf (element : ω) (parts : List (Part ν ω)) :
    total weight (.leaf element :: parts) = total weight parts := rfl

@[simp] theorem total_append (parts parts' : List (Part ν ω)) :
    total weight (parts ++ parts') = total weight parts + total weight parts' := by
  induction parts with
  | nil => simp
  | cons part parts ih =>
    cases part with
    | node n => simp only [List.cons_append, total_node, ih, Nat.add_assoc]
    | leaf element => simp only [List.cons_append, total_leaf, ih]

end Part

/-- How each node contributes to the result. The parts of a node weigh less than the node. -/
structure Traversal (ν ω : Type) where
  expand : ν → List (Part ν ω)
  weight : ν → Nat
  total_expand_lt : ∀ n, Part.total weight (expand n) < weight n

namespace Traversal

variable (t : Traversal ν ω)

/-- Treat the parts in order, putting the elements of the result in front of those found before. -/
def collect : List (Part ν ω) → List ω → List ω
  | [], found => found.reverse
  | .leaf element :: parts, found => collect parts (element :: found)
  | .node n :: parts, found => collect (t.expand n ++ parts) found
termination_by parts => (Part.total t.weight parts, parts.length)
decreasing_by
  · simp [Prod.lex_def]
  · have h := t.total_expand_lt n
    simp [Prod.lex_def]
    omega

/-- The result of a traversal of some parts. -/
def toList (parts : List (Part ν ω)) : List ω :=
  t.collect parts []

theorem collect_eq : ∀ (parts : List (Part ν ω)) (found : List ω),
    t.collect parts found = found.reverse ++ t.toList parts
  | [], found => by simp [toList, collect]
  | .leaf element :: parts, found => by
    rw [toList, collect, collect, collect_eq parts (element :: found), collect_eq parts [element]]
    simp
  | .node n :: parts, found => by
    rw [toList, collect, collect, collect_eq (t.expand n ++ parts) found, toList]
termination_by parts => (Part.total t.weight parts, parts.length)
decreasing_by
  · simp [Prod.lex_def]
  · simp [Prod.lex_def]
  · have h := t.total_expand_lt n
    simp [Prod.lex_def]
    omega

@[simp] theorem toList_nil : t.toList ([] : List (Part ν ω)) = [] := by
  simp [toList, collect]

@[simp] theorem toList_leaf (element : ω) (parts : List (Part ν ω)) :
    t.toList (.leaf element :: parts) = element :: t.toList parts := by
  rw [toList, collect, collect_eq]
  rfl

theorem toList_append : ∀ parts parts' : List (Part ν ω),
    t.toList (parts ++ parts') = t.toList parts ++ t.toList parts'
  | [], parts' => by simp
  | .leaf element :: parts, parts' => by
    simp only [List.cons_append, toList_leaf, toList_append parts parts']
  | .node n :: parts, parts' => by
    have expanded (rest : List (Part ν ω)) :
        t.toList (.node n :: rest) = t.toList (t.expand n ++ rest) := by
      rw [toList, collect, toList]
    rw [List.cons_append, expanded, expanded, ← List.append_assoc,
      toList_append (t.expand n ++ parts) parts']
termination_by parts => (Part.total t.weight parts, parts.length)
decreasing_by
  · simp [Prod.lex_def]
  · have h := t.total_expand_lt n
    simp [Prod.lex_def]
    omega

@[simp] theorem toList_node (n : ν) (parts : List (Part ν ω)) :
    t.toList (.node n :: parts) = t.toList (t.expand n) ++ t.toList parts := by
  rw [← toList_append, toList, collect, toList]

end Traversal

end Lox
