/-!
# Decoding text from bytes

Text is stored in UTF-8. A sequence of bytes that is no text is rejected at the first byte of the
first character that cannot be read, with the number of bytes that make it unreadable; if the bytes
end within a character that could still become one, there is no such number.

## Main definitions

* `Utf8.Fault`, `Utf8.Fault.message`: where and why bytes are no text.
* `Utf8.decode`: the text of some bytes.
* `Utf8.decodePrefix`: the text of bytes that may have been cut off within a character.
-/

namespace Lox.Utf8

/-- Why bytes are no text: the number of bytes before the bad character, and the number of bytes of
it that are wrong together, or none if the bytes end too early. -/
structure Fault where
  validUpTo : Nat
  length : Option Nat
  deriving DecidableEq, Repr

/-- The words for a fault. -/
def Fault.message (fault : Fault) : String :=
  match fault.length with
  | some length =>
    "invalid utf-8 sequence of " ++ toString length ++ " bytes from index " ++
      toString fault.validUpTo
  | none => "incomplete utf-8 byte sequence from index " ++ toString fault.validUpTo

/-- What the first byte of a character promises: the number of bytes that follow it, and the range
of the first of them. The ranges leave out overlong forms, surrogates and numbers beyond the last
character. -/
def lead? (b : Nat) : Option (Nat × Nat × Nat) :=
  if b < 0x80 then some (0, 0, 0)
  else if b < 0xC2 then none
  else if b < 0xE0 then some (1, 0x80, 0xBF)
  else if b = 0xE0 then some (2, 0xA0, 0xBF)
  else if b = 0xED then some (2, 0x80, 0x9F)
  else if b < 0xF0 then some (2, 0x80, 0xBF)
  else if b = 0xF0 then some (3, 0x90, 0xBF)
  else if b < 0xF4 then some (3, 0x80, 0xBF)
  else if b = 0xF4 then some (3, 0x80, 0x8F)
  else none

/-- The bits of a first byte that belong to the number of the character. -/
def leadBits (b following : Nat) : Nat :=
  match following with
  | 0 => b
  | 1 => b % 0x20
  | 2 => b % 0x10
  | _ => b % 0x08

/-- A decoder between two bytes: either at a boundary of characters, or within one, of which `code`
collects the number, `seen` bytes have been read and `missing + 1` are to come, the next of them
between `low` and `high`. -/
inductive State where
  | boundary
  | within (code seen missing low high : Nat)

/-- Decode bytes, where `valid` bytes before the current character have been decoded to `text`, the
last character first. The result is the text up to the end or to the first fault. -/
def decodeFrom (valid : Nat) (text : List Char) : State → List UInt8 → List Char × Option Fault
  | .boundary, [] => (text, none)
  | .within .., [] => (text, some ⟨valid, none⟩)
  | .boundary, byte :: bytes =>
    let b := byte.toNat
    match lead? b with
    | none => (text, some ⟨valid, some 1⟩)
    | some (0, _, _) => decodeFrom (valid + 1) (Char.ofNat b :: text) .boundary bytes
    | some (missing + 1, low, high) =>
      decodeFrom valid text (.within (leadBits b (missing + 1)) 1 missing low high) bytes
  | .within code seen missing low high, byte :: bytes =>
    let b := byte.toNat
    if b < low || high < b then (text, some ⟨valid, some seen⟩)
    else
      let code := code * 0x40 + b % 0x40
      match missing with
      | 0 => decodeFrom (valid + seen + 1) (Char.ofNat code :: text) .boundary bytes
      | missing + 1 => decodeFrom valid text (.within code (seen + 1) missing 0x80 0xBF) bytes

/-- The text of some bytes. -/
def decode (bytes : List UInt8) : Except Fault String :=
  match decodeFrom 0 [] .boundary bytes with
  | (text, none) => .ok (String.ofList text.reverse)
  | (_, some fault) => .error fault

/-- The text at the front of some bytes, with a replacement character in place of what is no
text. -/
def decodePrefix (bytes : List UInt8) : String :=
  match decodeFrom 0 [] .boundary bytes with
  | (text, none) => String.ofList text.reverse
  | (text, some _) => String.ofList (Char.ofNat 0xFFFD :: text).reverse

end Lox.Utf8
