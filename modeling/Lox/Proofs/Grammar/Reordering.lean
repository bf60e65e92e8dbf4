import Lox.Proofs.Grammar.Completeness
import Lox.Proofs.Grammar.Sequence
import Lox.Proofs.Grammar.Soundness
import Mathlib.Data.List.Perm.Basic

/-!
# Declarations in another order

The tokens of a program fall into stretches, one for each declaration at the top level. Functions
that stand in a row may change places with all their tokens: what is read then is the program in
which the functions have changed places.

## Main definitions

* `FunctionDecl.Swapped`: the functions of another list, up to numbers, in some order.
* `Grammar.Splits`: the tokens of a program, with a stretch for each function of a row.

## Main results

* `Grammar.Splits.of_parseProgram`: the tokens of a program that has been read.
* `Grammar.Splits.parseProgram_reordered`: the parser reads functions in another order.
-/

namespace Lox

/-- Two lists of functions that are the same up to the numbers of occurrences, but for the order. -/
def FunctionDecl.Swapped (ds ds' : List FunctionDecl) : Prop :=
  (ds.map FunctionDecl.unnumbered).Perm (ds'.map FunctionDecl.unnumbered)

namespace Grammar

variable {ts : List Token} {p p' : List Stmt} {ds : List FunctionDecl}
  {blocks blocks' : List (List Token)}

/-- The tokens of functions in a row, function by function. -/
abbrev Stretches (blocks : List (List Token)) (ds : List FunctionDecl) : Prop :=
  List.Forall₂ (fun block d => Derives .declaration block (.functionDecl d)) blocks ds

/-- The tokens of a program in which functions stand in a row: those of what is before the row,
those of each function, and those of what is after the row, up to the end of the input. -/
structure Splits (tokens : List Token) (q : List Stmt) (ds : List FunctionDecl) (r : List Stmt)
    (before : List Token) (blocks : List (List Token)) (after : List Token) : Prop where
  isSplit : tokens = before ++ (blocks.flatten ++ after)
  isBefore : Derives .declarations before q
  isRow : Stretches blocks ds
  isAfter : Derives .program after r

/-- The tokens of two parts of a program. -/
theorem Derives.exists_append (h : Derives .declarations ts (p ++ p')) :
    ∃ us vs, ts = us ++ vs ∧ Derives .declarations us p ∧ Derives .declarations vs p' := by
  induction p generalizing ts with
  | nil => exact ⟨[], ts, rfl, .noDeclarations, h⟩
  | cons s p ih =>
    cases h with
    | @declarations first rest _ _ isFirst isRest =>
      obtain ⟨us, vs, rfl, isPart, isPart'⟩ := ih isRest
      exact ⟨first ++ us, vs, (List.append_assoc _ _ _).symm, .declarations isFirst isPart, isPart'⟩

/-- The tokens of functions in a row fall into stretches. -/
theorem Derives.exists_stretches (h : Derives .declarations ts (ds.map .functionDecl)) :
    ∃ blocks : List (List Token), ts = blocks.flatten ∧ Stretches blocks ds := by
  induction ds generalizing ts with
  | nil =>
    cases h
    exact ⟨[], rfl, .nil⟩
  | cons d ds ih =>
    cases h with
    | declarations isFirst isRest =>
      obtain ⟨blocks, rfl, isBlocks⟩ := ih isRest
      exact ⟨_ :: blocks, rfl, .cons isFirst isBlocks⟩

theorem Stretches.derives (h : Stretches blocks ds) :
    Derives .declarations blocks.flatten (ds.map .functionDecl) := by
  induction h with
  | nil => exact .noDeclarations
  | cons first _ ih => exact .declarations first ih

/-- Stretches that change places are those of the functions in another order. -/
theorem Stretches.exists_perm (h : Stretches blocks ds) (perm : blocks'.Perm blocks) :
    ∃ mid, ds.Perm mid ∧ Stretches blocks' mid := by
  obtain ⟨mid, isBlocks, perm'⟩ := List.perm_comp_forall₂ perm h
  exact ⟨mid, perm'.symm, isBlocks⟩

end Grammar

theorem Stmt.unnumberedList_eq_map (ss : List Stmt) :
    Stmt.unnumberedList ss = ss.map Stmt.unnumbered := by
  induction ss with
  | nil => rfl
  | cons s ss ih => exact congrArg (s.unnumbered :: ·) ih

/-- What is the same as functions in a row, up to numbers, is functions in a row. -/
theorem FunctionDecl.exists_of_unnumbered {ds : List FunctionDecl} {ss : List Stmt}
    (same : ss.map Stmt.unnumbered = (ds.map Stmt.functionDecl).map Stmt.unnumbered) :
    ∃ ds' : List FunctionDecl, ss = ds'.map .functionDecl ∧
      ds'.map FunctionDecl.unnumbered = ds.map FunctionDecl.unnumbered := by
  induction ds generalizing ss with
  | nil =>
    cases List.map_eq_nil_iff.1 same
    exact ⟨[], rfl, rfl⟩
  | cons d ds ih =>
    obtain ⟨s, ss, rfl, first, rest⟩ := List.map_eq_cons_iff.1 same
    cases s with
    | functionDecl d' =>
      obtain ⟨ds', rfl, same'⟩ := ih rest
      exact ⟨d' :: ds', rfl, congrArg₂ List.cons (Stmt.functionDecl.inj first) same'⟩
    | _ => cases first

namespace Grammar.Splits

variable {tokens ts before after : List Token} {q r : List Stmt} {ds : List FunctionDecl}
  {blocks : List (List Token)} {eof : Token} {n : NodeId}

/-- The tokens of a program that has been read fall into these parts. -/
theorem of_parseProgram (inside : ∀ t ∈ ts, t.kind.isEnd = false) (isEnd : eof.kind.isEnd = true)
    (isProgram : (parseProgram (ts ++ [eof]) n).1 = .ok (q ++ (ds.map .functionDecl ++ r))) :
    ∃ before blocks after, Splits (ts ++ [eof]) q ds r before blocks after := by
  have derives := (derives_of_parseProgram isProgram).1
  rw [readable_append inside isEnd] at derives
  obtain ⟨before, rest, rfl, isBefore, isRest⟩ := derives.exists_append
  obtain ⟨_, after, rfl, isRow, isAfter⟩ := isRest.exists_append
  obtain ⟨blocks, rfl, isBlocks⟩ := isRow.exists_stretches
  exact ⟨before, blocks, after ++ [eof], by simp only [List.append_assoc], isBefore, isBlocks,
    .program isAfter isEnd⟩

/-- Functions that stand in a row may change places with all their tokens. -/
theorem parseProgram_reordered (h : Splits (ts ++ [eof]) q ds r before blocks after)
    (inside : ∀ t ∈ ts, t.kind.isEnd = false) {blocks' : List (List Token)}
    (perm : blocks'.Perm blocks) (m : NodeId) :
    ∃ q' ds' r', (parseProgram (before ++ (blocks'.flatten ++ after)) m).1 =
        .ok (q' ++ (ds'.map .functionDecl ++ r')) ∧
      Stmt.unnumberedList q = Stmt.unnumberedList q' ∧ FunctionDecl.Swapped ds ds' ∧
      Stmt.unnumberedList r = Stmt.unnumberedList r' := by
  obtain ⟨isSplit, isBefore, isRow, isAfter⟩ := h
  cases isAfter with
  | @program rest eof' _ isRest isEnd =>
  obtain ⟨mid, isPerm, isRow'⟩ := isRow.exists_perm perm
  have derives := isBefore.append (isRow'.derives.append isRest)
  have inside' : ∀ t ∈ before ++ (blocks'.flatten ++ rest), t.kind.isEnd = false := by
    simp only [← List.append_assoc] at isSplit
    obtain ⟨rfl, -⟩ := List.append_inj' isSplit rfl
    intro t mem
    refine inside t ?_
    simp only [List.mem_append, perm.flatten.mem_iff] at mem ⊢
    exact or_assoc.2 mem
  obtain ⟨p', isParsed, isSame⟩ := parseProgram_of_derives inside' isEnd (.program derives isEnd) m
  simp only [Stmt.unnumberedList_eq_map, List.map_append] at isSame
  obtain ⟨q', _, rfl, sameBefore, sameRest⟩ := List.map_eq_append_iff.1 isSame
  obtain ⟨_, r', rfl, sameRow, sameAfter⟩ := List.map_eq_append_iff.1 sameRest
  obtain ⟨ds', rfl, same⟩ := FunctionDecl.exists_of_unnumbered sameRow
  have swapped : FunctionDecl.Swapped ds ds' := by
    rw [FunctionDecl.Swapped, same]
    exact isPerm.map _
  refine ⟨q', ds', r', ?_, ?_, swapped, ?_⟩
  · rw [← isParsed]
    simp only [List.append_assoc]
  · rw [Stmt.unnumberedList_eq_map, Stmt.unnumberedList_eq_map, sameBefore]
  · rw [Stmt.unnumberedList_eq_map, Stmt.unnumberedList_eq_map, sameAfter]

end Grammar.Splits

end Lox
