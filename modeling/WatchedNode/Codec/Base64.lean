/-
**Base 64.**

Three bytes are written as four letters of an alphabet of 64, with `=` in place of what is missing
at the end.

* `encode` writes the padded form;
* `decode` is lenient: letters outside the alphabet are skipped, and what follows a complete padding
  is not read. It fails only if the letters end inside a group of four.
-/

namespace WatchedNode.Codec.Base64

/-! ## The alphabet -/

/-- The letter for six bits. -/
def letter (value : Nat) : Char :=
  if value < 26 then Char.ofNat ('A'.toNat + value)
  else if value < 52 then Char.ofNat ('a'.toNat + (value - 26))
  else if value < 62 then Char.ofNat ('0'.toNat + (value - 52))
  else if value = 62 then '+'
  else '/'

/-- The six bits of a letter, if it is in the alphabet. -/
def value? (letter : Char) : Option Nat :=
  let code := letter.toNat
  if 65 ≤ code ∧ code ≤ 90 then some (code - 65)
  else if 97 ≤ code ∧ code ≤ 122 then some (code - 97 + 26)
  else if 48 ≤ code ∧ code ≤ 57 then some (code - 48 + 52)
  else if letter = '+' then some 62
  else if letter = '/' then some 63
  else none

/-- Six bits are read back from their letter. -/
theorem value?_letter {value : Nat} (small : value < 64) : value? (letter value) = some value := by
  have every : ∀ value : Fin 64, value? (letter value) = some value.val := by decide
  exact every ⟨value, small⟩

/-! ## Writing -/

/-- The letters of a list of bytes. -/
def encode : List UInt8 → List Char
  | [] => []
  | [first] =>
    [letter (first.toNat / 4), letter (first.toNat % 4 * 16), '=', '=']
  | [first, second] =>
    [letter (first.toNat / 4), letter (first.toNat % 4 * 16 + second.toNat / 16),
      letter (second.toNat % 16 * 4), '=']
  | first :: second :: third :: rest =>
    letter (first.toNat / 4) :: letter (first.toNat % 4 * 16 + second.toNat / 16)
      :: letter (second.toNat % 16 * 4 + third.toNat / 64) :: letter (third.toNat % 64)
      :: encode rest

/-! ## Reading -/

/-- The bytes that a group of up to four values completes. -/
def bytes : List Nat → List UInt8
  | first :: second :: rest =>
    UInt8.ofNat (first * 4 + second / 16) :: match rest with
      | [] => []
      | third :: rest =>
        UInt8.ofNat (second % 16 * 16 + third / 4) :: match rest with
          | [] => []
          | fourth :: _ => [UInt8.ofNat (third % 4 * 64 + fourth)]
  | _ => []

/-- Reads letters, where `held` are the values of the group that is open and `pads` the padding
letters since its last value. -/
def decodeFrom (held : List Nat) (pads : Nat) : List Char → Option (List UInt8)
  | [] => if held = [] then some [] else none
  | here :: rest =>
    if here = '=' then
      if 2 ≤ held.length then
        if 4 ≤ held.length + pads + 1 then some (bytes held) else decodeFrom held (pads + 1) rest
      else decodeFrom held pads rest
    else match value? here with
      | none => decodeFrom held pads rest
      | some value =>
        if held.length = 3 then (decodeFrom [] 0 rest).map (bytes (held ++ [value]) ++ ·)
        else decodeFrom (held ++ [value]) 0 rest

/-- The bytes that a text in base 64 writes. -/
def decode (letters : List Char) : Option (List UInt8) :=
  decodeFrom [] 0 letters

example : encode [0x1f, 0x8b, 0x08, 0x00] = "H4sIAA==".toList := by decide
example : decode "H4sIAA==".toList = some [0x1f, 0x8b, 0x08, 0x00] := by decide
example : decode "A===".toList = none := by decide

end WatchedNode.Codec.Base64
