import Lox.Proofs.Alike.Relabel
import Lox.Proofs.Token.Joined

/-!
# Texts that begin on different lines

The items of a text depend on the line on which the text begins in their lines only, and these move
along with it.

## Main definitions

* `ScansAlike`: tokens, or lexical errors, that are the same on corresponding lines.

## Main results

* `scansAlike_shift`: a text that begins further down is scanned alike.
-/

namespace Lox

/-- Two lexical errors with one cause on corresponding lines. -/
structure LexError.Alike (lines : Nat → Nat → Prop) (e e' : LexError) : Prop where
  cause : e'.cause = e.cause
  line : lines e.line e'.line

/-- Two items that are the same on corresponding lines. -/
inductive ItemAlike (lines : Nat → Nat → Prop) : Item → Item → Prop
  | token {t t' : Token} (h : t.Alike (.ofLines lines) t') : ItemAlike lines (.ok t) (.ok t')
  | error {e e' : LexError} (h : e.Alike lines e') : ItemAlike lines (.error e) (.error e')

/-- Tokens, or lexical errors, that are the same on corresponding lines. -/
inductive ScansAlike (lines : Nat → Nat → Prop) :
    Except (List LexError) (List Token) → Except (List LexError) (List Token) → Prop
  | ok {ts ts' : List Token} (tokens : List.Forall₂ (Token.Alike (.ofLines lines)) ts ts') :
      ScansAlike lines (.ok ts) (.ok ts')
  | error {es es' : List LexError} (errors : List.Forall₂ (LexError.Alike lines) es es') :
      ScansAlike lines (.error es) (.error es')

variable {lines : Nat → Nat → Prop} {items items' : List Item}

/-- A scan is alike itself if every line corresponds to itself. -/
theorem scansAlike_refl (refl : ∀ l, lines l l) (scanned : Except (List LexError) (List Token)) :
    ScansAlike lines scanned scanned := by
  cases scanned with
  | ok ts => exact .ok (List.forall₂_same.2 fun t _ => ⟨rfl, rfl, refl t.line⟩)
  | error es => exact .error (List.forall₂_same.2 fun e _ => ⟨rfl, refl e.line⟩)

theorem ScansAlike.imp {lines' : Nat → Nat → Prop} (imp : ∀ l l', lines l l' → lines' l l')
    {scanned scanned' : Except (List LexError) (List Token)}
    (h : ScansAlike lines scanned scanned') : ScansAlike lines' scanned scanned' := by
  cases h with
  | ok tokens => exact .ok (tokens.imp fun _ _ h => h.imp imp)
  | error errors => exact .error (errors.imp fun _ _ h => ⟨h.cause, imp _ _ h.line⟩)

theorem ItemAlike.errors (h : List.Forall₂ (ItemAlike lines) items items') :
    List.Forall₂ (LexError.Alike lines) (items.filterMap Item.error?)
      (items'.filterMap Item.error?) := by
  induction h with
  | nil => exact .nil
  | cons first _ ih =>
    cases first with
    | token h => exact ih
    | error h => exact .cons h ih

theorem ItemAlike.tokens (h : List.Forall₂ (ItemAlike lines) items items') :
    List.Forall₂ (Token.Alike (.ofLines lines)) (items.filterMap Except.toOption)
      (items'.filterMap Except.toOption) := by
  induction h with
  | nil => exact .nil
  | cons first _ ih =>
    cases first with
    | token h => exact .cons h ih
    | error h => exact ih

/-- Alike items are sorted alike into tokens and errors. -/
theorem gather_alike (h : List.Forall₂ (ItemAlike lines) items items') :
    ScansAlike lines (Item.gather items) (Item.gather items') := by
  rw [Item.gather_eq, Item.gather_eq]
  have errors := ItemAlike.errors h
  generalize items.filterMap Item.error? = es at errors
  generalize items'.filterMap Item.error? = es' at errors
  cases errors with
  | nil => exact .ok (ItemAlike.tokens h)
  | cons first rest => exact .error (.cons first rest)

/-! ### Moving down -/

theorem skipTrivia_add (n : Nat) (inComment : Bool) (line : Nat) (text : List Char) :
    skipTrivia inComment (line + n) text =
      ((skipTrivia inComment line text).1 + n, (skipTrivia inComment line text).2) := by
  fun_induction skipTrivia inComment line text with
  | case1 inComment line => cases inComment <;> rfl
  | case2 line c rest isNewline ih =>
    rw [skipTrivia, if_pos isNewline, Nat.add_right_comm, ih]
  | case3 line c rest noNewline ih => rw [skipTrivia, if_neg noNewline, ih]
  | case4 line c rest isNewline ih =>
    rw [skipTrivia, if_pos isNewline, Nat.add_right_comm, ih]
  | case5 line c rest noNewline isBlank ih =>
    rw [skipTrivia, if_neg noNewline, if_pos isBlank, ih]
  | case6 line c rest noNewline noBlank isComment ih =>
    rw [skipTrivia, if_neg noNewline, if_neg noBlank, if_pos isComment, ih]
  | case7 line c rest noNewline noBlank noComment =>
    rw [skipTrivia, if_neg noNewline, if_neg noBlank, if_neg noComment]

theorem item_alike (lexeme : Lexeme) {line line' : Nat} (related : lines line line') :
    ItemAlike lines (lexeme.item line) (lexeme.item line') := by
  unfold Lexeme.item
  cases lexeme.kind with
  | ok kind => exact .token ⟨rfl, rfl, related⟩
  | error cause => exact .error ⟨rfl, related⟩

theorem itemsFrom_alike (n line : Nat) (text : List Char) :
    List.Forall₂ (ItemAlike fun l l' => l' = l + n) (itemsFrom line text)
      (itemsFrom (line + n) text) := by
  induction isLength : text.length using Nat.strongRecOn generalizing line text with
  | ind length ih =>
    have skipped := skipTrivia_add n false line text
    have shorter := length_skipTrivia_le false line text
    rcases isSkipped : skipTrivia false line text with ⟨first, _ | ⟨c, rest⟩⟩
    · rw [isSkipped] at skipped
      rw [itemsFrom_of_trivia isSkipped, itemsFrom_of_trivia skipped]
      exact .cons (.token ⟨rfl, rfl, rfl⟩) .nil
    · rw [isSkipped] at skipped shorter
      rw [itemsFrom_of_cut isSkipped, itemsFrom_of_cut skipped, Nat.add_right_comm first n]
      have le := Lexeme.length_rest_le c rest
      refine .cons (item_alike _ rfl) (ih _ ?_ _ _ rfl)
      simp only [List.length_cons] at shorter
      omega

/-- A text that begins further down is scanned alike. -/
theorem scansAlike_shift (n line : Nat) (source : String) :
    ScansAlike (fun l l' => l' = l + n) (tokenizeFrom line source)
      (tokenizeFrom (line + n) source) :=
  gather_alike (itemsFrom_alike n line source.toList)

end Lox
