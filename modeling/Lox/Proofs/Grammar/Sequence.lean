import Lox.Proofs.Alike.Relabel
import Lox.Proofs.Grammar.Completeness
import Lox.Proofs.Grammar.Soundness

/-!
# Programs behind each other

No statement at the end of a program goes on in the program behind it: the tokens of two programs,
one behind the other, are read as the statements of both.

## Main results

* `parseProgram_append`: the parser reads two programs as it reads them alone, up to the numbers of
  occurrences.
-/

namespace Lox

/-- Declarations behind each other. -/
theorem Grammar.Derives.append {ts us : List Token} {p p' : List Stmt}
    (h : Derives .declarations ts p) (h' : Derives .declarations us p') :
    Derives .declarations (ts ++ us) (p ++ p') := by
  induction p generalizing ts with
  | nil =>
    cases h
    exact h'
  | cons s p ih =>
    cases h with
    | declarations first rest =>
      rw [List.append_assoc]
      exact .declarations first (ih rest)

/-- Two programs behind each other are read as they are read alone, up to the numbers of their
occurrences. -/
theorem parseProgram_append {ts us : List Token} {eof eof' : Token} {p p' : List Stmt}
    {n n' : NodeId} (inside : ∀ t ∈ ts, t.kind.isEnd = false) (isEnd : eof.kind.isEnd = true)
    (inside' : ∀ t ∈ us, t.kind.isEnd = false) (isEnd' : eof'.kind.isEnd = true)
    (isProgram : (parseProgram (ts ++ [eof]) n).1 = .ok p)
    (isProgram' : (parseProgram (us ++ [eof']) n').1 = .ok p') (m : NodeId) :
    ∃ q q', (parseProgram (ts ++ (us ++ [eof'])) m).1 = .ok (q ++ q') ∧
      List.Forall₂ (Stmt.Alike .renumbering) p q ∧
      List.Forall₂ (Stmt.Alike .renumbering) p' q' := by
  have derives := (derives_of_parseProgram isProgram).1
  have derives' := (derives_of_parseProgram isProgram').1
  rw [readable_append inside isEnd] at derives
  rw [readable_append inside' isEnd'] at derives'
  have inside'' : ∀ t ∈ ts ++ us, t.kind.isEnd = false := fun t mem =>
    (List.mem_append.1 mem).elim (inside t) (inside' t)
  obtain ⟨r, isJoined, isSame⟩ :=
    parseProgram_of_derives inside'' isEnd' (.program (derives.append derives') isEnd') m
  rw [List.append_assoc] at isJoined
  have alike := Stmt.alikeAll_of_unnumbered isSame.symm
  have first := List.forall₂_take p.length alike
  have second := List.forall₂_drop p.length alike
  rw [List.take_left] at first
  rw [List.drop_left] at second
  refine ⟨r.take p.length, r.drop p.length, ?_, first, second⟩
  rw [List.take_append_drop]
  exact isJoined

end Lox
