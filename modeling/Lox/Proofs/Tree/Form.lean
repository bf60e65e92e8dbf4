import Mathlib.Data.List.Basic

/-!
# Symbolic expressions

The printed form of a tree is a symbolic expression: a word, or a group of a head and parts in
parentheses, with a blank before each part. Words have no blanks, parentheses or newlines in them,
so that a text can be read as a symbolic expression in at most one way, whatever stands behind it.

## Main definitions

* `Form`, `Form.chars`: symbolic expressions and their texts.
* `Form.Proper`: all words of a symbolic expression are words.

## Main results

* `Form.unique`: the text of a symbolic expression determines it and where it ends.
-/

namespace Lox

/-- A word, a name with parameters in parentheses, or a head and parts in parentheses. -/
inductive Form where
  | word (text : List Char)
  | header (name : List Char) (params : List (List Char))
  | group (head : List Char) (parts : List Form)

namespace Form

mutual

/-- The text of a symbolic expression. -/
def chars : Form → List Char
  | word text => text
  | header name params => name ++ '(' :: ([' '].intercalate params ++ [')'])
  | group head parts => '(' :: (head ++ (partsChars parts ++ [')']))

/-- The text of the parts of a group: a blank before each. -/
def partsChars : List Form → List Char
  | [] => []
  | part :: parts => ' ' :: (part.chars ++ partsChars parts)

end

/-- The characters that end a word. -/
def isBreak (c : Char) : Bool :=
  c == ' ' || c == '(' || c == ')' || c == '\n'

/-- A text without breaks. -/
def IsWord (text : List Char) : Prop :=
  text ≠ [] ∧ ∀ c ∈ text, isBreak c = false

instance (text : List Char) : Decidable (IsWord text) :=
  decidable_of_iff (text.isEmpty = false ∧ text.all (!isBreak ·) = true) <| by
    simp [IsWord]

/-- A text that may stand behind a word: it is empty or begins with a break. -/
def Breaks (text : List Char) : Prop :=
  ∀ c ∈ text.head?, isBreak c = true

/-- A text that may stand behind a symbolic expression: it does not begin with a parenthesis that
opens, so that a word in front of it is no name of a header. -/
def Closes (text : List Char) : Prop :=
  ∀ c ∈ text.head?, isBreak c = true ∧ c ≠ '('

mutual

/-- The heads and words of a symbolic expression are words. -/
inductive Proper : Form → Prop
  | word {text : List Char} (h : IsWord text) : Proper (word text)
  | header {name : List Char} {params : List (List Char)} (h : IsWord name)
      (h' : ∀ param ∈ params, IsWord param) : Proper (header name params)
  | group {head : List Char} {parts : List Form} (h : IsWord head) (h' : ProperList parts) :
      Proper (group head parts)

/-- All parts of a group are proper. -/
inductive ProperList : List Form → Prop
  | nil : ProperList []
  | cons {part : Form} {parts : List Form} (h : Proper part) (h' : ProperList parts) :
      ProperList (part :: parts)

end

/-! ### Words -/

theorem Closes.breaks {text : List Char} (h : Closes text) : Breaks text :=
  fun c first => (h c first).1

theorem closes_nil : Closes [] :=
  nofun

theorem closes_cons {c : Char} {text : List Char} (h : isBreak c = true) (h' : c ≠ '(') :
    Closes (c :: text) := by
  rintro d ⟨⟩
  exact ⟨h, h'⟩

theorem closes_partsChars (parts : List Form) (rest : List Char) :
    Closes (partsChars parts ++ ')' :: rest) := by
  cases parts with
  | nil => exact closes_cons rfl (by decide)
  | cons part parts => exact closes_cons rfl (by decide)

/-- A word ends where the first break is. -/
theorem word_unique {w w' r r' : List Char} (h : ∀ c ∈ w, isBreak c = false)
    (h' : ∀ c ∈ w', isBreak c = false) (ends : Breaks r) (ends' : Breaks r')
    (same : w ++ r = w' ++ r') : w = w' ∧ r = r' := by
  induction w generalizing w' with
  | nil =>
    cases w' with
    | nil => exact ⟨rfl, same⟩
    | cons c w' =>
      rw [List.nil_append] at same
      have isBreak := ends c (by rw [same]; rfl)
      rw [h' c List.mem_cons_self] at isBreak
      cases isBreak
  | cons c w ih =>
    cases w' with
    | nil =>
      rw [List.nil_append] at same
      have isBreak := ends' c (by rw [← same]; rfl)
      rw [h c List.mem_cons_self] at isBreak
      cases isBreak
    | cons c' w' =>
      rw [List.forall_mem_cons] at h h'
      injection same with first same
      obtain ⟨rfl, rfl⟩ := ih h.2 h'.2 same
      exact ⟨congrArg (· :: w) first, rfl⟩

theorem properList {α : Type} {form : α → Form} {as : List α}
    (h : ∀ a ∈ as, (form a).Proper) : ProperList (as.map form) := by
  induction as with
  | nil => exact .nil
  | cons a as ih =>
    rw [List.forall_mem_cons] at h
    exact .cons h.1 (ih h.2)

/-- No word begins with a break. -/
theorem IsWord.ne_cons {w r s : List Char} {c : Char} (h : IsWord w) (breaks : isBreak c = true) :
    w ++ r ≠ c :: s := by
  intro same
  obtain ⟨d, more, rfl⟩ := List.exists_cons_of_ne_nil h.1
  injection same with first
  have noBreak := h.2 d List.mem_cons_self
  rw [first, breaks] at noBreak
  cases noBreak

theorem Closes.ne_paren {r s : List Char} (h : Closes r) : r ≠ '(' :: s := by
  rintro rfl
  exact (h '(' rfl).2 rfl

theorem breaks_paren (r : List Char) : Breaks ('(' :: r) := by
  rintro c ⟨⟩
  rfl

/-! ### Parameters -/

theorem breaks_params (params : List (List Char)) (rest : List Char) :
    Breaks ((params.flatMap fun param => ' ' :: param) ++ ')' :: rest) := by
  cases params <;> rintro c ⟨⟩ <;> rfl

/-- Between the items of a list there is one separator. -/
theorem cons_intercalate_cons (c : Char) (item : List Char) (items : List (List Char)) :
    c :: [c].intercalate (item :: items) = (item :: items).flatMap fun item => c :: item := by
  induction items generalizing item with
  | nil => simp [List.intercalate]
  | cons next items ih =>
    rw [List.flatMap_cons, ← ih, List.intercalate_cons_cons]
    simp

theorem spaced_unique {params params' : List (List Char)} {r r' : List Char}
    (h : ∀ param ∈ params, IsWord param) (h' : ∀ param ∈ params', IsWord param)
    (same : (params.flatMap fun param => ' ' :: param) ++ ')' :: r =
      (params'.flatMap fun param => ' ' :: param) ++ ')' :: r') :
    params = params' ∧ r = r' := by
  induction params generalizing params' with
  | nil =>
    cases params' with
    | nil => exact ⟨rfl, List.tail_eq_of_cons_eq same⟩
    | cons param' params' => cases same
  | cons param params ih =>
    cases params' with
    | nil => cases same
    | cons param' params' =>
      rw [List.forall_mem_cons] at h h'
      simp only [List.flatMap_cons, List.cons_append, List.append_assoc, List.cons.injEq,
        true_and] at same
      obtain ⟨rfl, rest⟩ := word_unique h.1.2 h'.1.2 (breaks_params _ _) (breaks_params _ _) same
      obtain ⟨rfl, rfl⟩ := ih h.2 h'.2 rest
      exact ⟨rfl, rfl⟩

theorem params_unique {params params' : List (List Char)} {r r' : List Char}
    (h : ∀ param ∈ params, IsWord param) (h' : ∀ param ∈ params', IsWord param)
    (same : [' '].intercalate params ++ ')' :: r = [' '].intercalate params' ++ ')' :: r') :
    params = params' ∧ r = r' := by
  cases params with
  | nil =>
    cases params' with
    | nil => exact ⟨rfl, List.tail_eq_of_cons_eq same⟩
    | cons param' params' =>
      have blank := congrArg (' ' :: ·) same.symm
      simp only [← List.cons_append, cons_intercalate_cons, List.flatMap_cons,
        List.append_assoc] at blank
      exact absurd (List.tail_eq_of_cons_eq blank)
        ((h' param' List.mem_cons_self).ne_cons rfl)
  | cons param params =>
    cases params' with
    | nil =>
      have blank := congrArg (' ' :: ·) same
      simp only [← List.cons_append, cons_intercalate_cons, List.flatMap_cons,
        List.append_assoc] at blank
      exact absurd (List.tail_eq_of_cons_eq blank) ((h param List.mem_cons_self).ne_cons rfl)
    | cons param' params' =>
      refine spaced_unique h h' ?_
      rw [← cons_intercalate_cons, ← cons_intercalate_cons, List.cons_append, List.cons_append,
        same]

/-! ### Unique readability -/

mutual

/-- The text of a symbolic expression determines it, and where it ends. -/
theorem unique : ∀ {f g : Form} {r s : List Char}, f.Proper → g.Proper → Closes r → Closes s →
    f.chars ++ r = g.chars ++ s → f = g ∧ r = s
  | .word w, .word w', r, s, .word h, .word h', ends, ends', same => by
    obtain ⟨rfl, rfl⟩ := word_unique h.2 h'.2 ends.breaks ends'.breaks same
    exact ⟨rfl, rfl⟩
  | .header n ps, .header n' ps', r, s, .header h hs, .header h' hs', _, _, same => by
    simp only [chars, List.append_assoc, List.cons_append, List.nil_append] at same
    obtain ⟨rfl, rest⟩ := word_unique h.2 h'.2 (breaks_paren _) (breaks_paren _) same
    obtain ⟨rfl, rfl⟩ := params_unique hs hs' (List.tail_eq_of_cons_eq rest)
    exact ⟨rfl, rfl⟩
  | .group head fs, .group head' gs, r, s, .group h hs, .group h' hs', _, _, same => by
    simp only [chars, List.append_assoc, List.cons_append, List.nil_append, List.cons.injEq,
      true_and] at same
    obtain ⟨rfl, rest⟩ := word_unique h.2 h'.2 (closes_partsChars _ _).breaks
      (closes_partsChars _ _).breaks same
    obtain ⟨rfl, rfl⟩ := unique_parts hs hs' rest
    exact ⟨rfl, rfl⟩
  | .word w, .header n ps, r, s, .word h, .header h' _, ends, _, same => by
    simp only [chars, List.append_assoc, List.cons_append] at same
    obtain ⟨-, rfl⟩ := word_unique h.2 h'.2 ends.breaks (breaks_paren _) same
    exact absurd rfl ends.ne_paren
  | .header n ps, .word w, r, s, .header h _, .word h', _, ends', same => by
    simp only [chars, List.append_assoc, List.cons_append] at same
    obtain ⟨-, rfl⟩ := word_unique h.2 h'.2 (breaks_paren _) ends'.breaks same
    exact absurd rfl ends'.ne_paren
  | .word w, .group head gs, r, s, .word h, .group _ _, _, _, same => by
    simp only [chars, List.cons_append] at same
    exact absurd same (h.ne_cons rfl)
  | .group head fs, .word w, r, s, .group _ _, .word h', _, _, same => by
    simp only [chars, List.cons_append] at same
    exact absurd same.symm (h'.ne_cons rfl)
  | .header n ps, .group head gs, r, s, .header h _, .group _ _, _, _, same => by
    simp only [chars, List.append_assoc, List.cons_append] at same
    exact absurd same (h.ne_cons rfl)
  | .group head fs, .header n ps, r, s, .group _ _, .header h' _, _, _, same => by
    simp only [chars, List.append_assoc, List.cons_append] at same
    exact absurd same.symm (h'.ne_cons rfl)

/-- The text of the parts of a group determines them. -/
theorem unique_parts : ∀ {fs gs : List Form} {r s : List Char}, ProperList fs → ProperList gs →
    partsChars fs ++ ')' :: r = partsChars gs ++ ')' :: s → fs = gs ∧ r = s
  | [], [], _, _, _, _, same => ⟨rfl, List.tail_eq_of_cons_eq same⟩
  | [], _ :: _, _, _, _, _, same => by cases same
  | _ :: _, [], _, _, _, _, same => by cases same
  | f :: fs, g :: gs, r, s, .cons h hs, .cons h' hs', same => by
    simp only [partsChars, List.cons_append, List.append_assoc, List.cons.injEq, true_and] at same
    obtain ⟨rfl, rest⟩ := unique h h' (closes_partsChars _ _) (closes_partsChars _ _) same
    obtain ⟨rfl, rfl⟩ := unique_parts hs hs' rest
    exact ⟨rfl, rfl⟩

end

/-! ### Lines -/

theorem Proper.chars_ne_nil {f : Form} (h : f.Proper) : f.chars ≠ [] := by
  cases h with
  | word h => exact h.1
  | header => exact List.append_ne_nil_of_right_ne_nil _ (List.cons_ne_nil _ _)
  | group => exact List.cons_ne_nil _ _

theorem unique_lines {fs gs : List Form} (h : ∀ f ∈ fs, f.Proper) (h' : ∀ g ∈ gs, g.Proper)
    (same : (fs.flatMap fun f => '\n' :: f.chars) = gs.flatMap fun g => '\n' :: g.chars) :
    fs = gs := by
  have closes (fs : List Form) : Closes (fs.flatMap fun f => '\n' :: f.chars) := by
    cases fs with
    | nil => exact closes_nil
    | cons f fs => exact closes_cons rfl (by decide)
  induction fs generalizing gs with
  | nil =>
    cases gs with
    | nil => rfl
    | cons g gs => cases same
  | cons f fs ih =>
    cases gs with
    | nil => cases same
    | cons g gs =>
      rw [List.forall_mem_cons] at h h'
      simp only [List.flatMap_cons, List.cons_append, List.cons.injEq, true_and] at same
      obtain ⟨rfl, rest⟩ := unique h.1 h'.1 (closes fs) (closes gs) same
      rw [ih h.2 h'.2 rest]

/-- Symbolic expressions on lines of their own are determined by the whole text. -/
theorem lines_unique {fs gs : List Form} (h : ∀ f ∈ fs, f.Proper) (h' : ∀ g ∈ gs, g.Proper)
    (same : ['\n'].intercalate (fs.map chars) = ['\n'].intercalate (gs.map chars)) : fs = gs := by
  have first (f : Form) (fs : List Form) (isProper : f.Proper) :
      ['\n'].intercalate ((f :: fs).map chars) ≠ [] := by
    intro isNil
    have blank := cons_intercalate_cons '\n' f.chars (fs.map chars)
    rw [← List.map_cons, isNil, List.map_cons, List.flatMap_cons, List.cons_append] at blank
    exact isProper.chars_ne_nil (List.append_eq_nil_iff.1 (List.tail_eq_of_cons_eq blank).symm).1
  cases fs with
  | nil =>
    cases gs with
    | nil => rfl
    | cons g gs => exact absurd same.symm (first g gs (h' g List.mem_cons_self))
  | cons f fs =>
    cases gs with
    | nil => exact absurd same (first f fs (h f List.mem_cons_self))
    | cons g gs =>
      refine unique_lines h h' ?_
      have blank := congrArg ('\n' :: ·) same
      simp only [List.map_cons, cons_intercalate_cons] at blank
      rwa [← List.map_cons, ← List.map_cons, List.flatMap_map, List.flatMap_map] at blank

end Form

end Lox
