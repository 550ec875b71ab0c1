/-
**Decimal digits and blanks.**

Two classes of characters that a reader of numbers has to know:

* `digit?`: the value of a decimal digit, in any script that has a run of ten of them;
* `isBlank`: the characters that count as white space around a number; `isAsciiBlank` are the few
  of them that may stand around a number that is made of bytes.
-/

namespace WatchedNode.Text

/-! ## Digits -/

/-- The zeros of the scripts whose ten digits follow each other. -/
def digitZeros : List Nat :=
  [
   0x30, 0x660, 0x6f0, 0x7c0, 0x966, 0x9e6, 0xa66, 0xae6, 0xb66, 0xbe6,
   0xc66, 0xce6, 0xd66, 0xde6, 0xe50, 0xed0, 0xf20, 0x1040, 0x1090, 0x17e0,
   0x1810, 0x1946, 0x19d0, 0x1a80, 0x1a90, 0x1b50, 0x1bb0, 0x1c40, 0x1c50, 0xa620,
   0xa8d0, 0xa900, 0xa9d0, 0xa9f0, 0xaa50, 0xabf0, 0xff10, 0x104a0, 0x10d30, 0x11066,
   0x110f0, 0x11136, 0x111d0, 0x112f0, 0x11450, 0x114d0, 0x11650, 0x116c0, 0x11730, 0x118e0,
   0x11950, 0x11c50, 0x11d50, 0x11da0, 0x16a60, 0x16ac0, 0x16b50, 0x1d7ce, 0x1d7d8, 0x1d7e2,
   0x1d7ec, 0x1d7f6, 0x1e140, 0x1e2f0, 0x1e950, 0x1fbf0]

/-- The value of a decimal digit of any script. -/
def digit? (letter : Char) : Option Nat :=
  (digitZeros.find? fun start => start ≤ letter.toNat ∧ letter.toNat < start + 10).map
    (letter.toNat - ·)

example : digitZeros.length = 66 := rfl
example : digit? '7' = some 7 := by decide
example : digit? '٣' = some 3 := by decide
example : digit? 'x' = none := by decide

/-! ## Blanks -/

/-- White space, line ends and the four separators of ASCII included. -/
def isBlank (letter : Char) : Bool :=
  let code := letter.toNat
  (0x09 ≤ code && code ≤ 0x0d) || (0x1c ≤ code && code ≤ 0x20) || code == 0x85 ||
    code == 0xa0 || code == 0x1680 || (0x2000 ≤ code && code ≤ 0x200a) || code == 0x2028 ||
    code == 0x2029 || code == 0x202f || code == 0x205f || code == 0x3000

/-- The blanks of ASCII that may stand around a number. -/
def isAsciiBlank (letter : Char) : Bool :=
  (0x09 ≤ letter.toNat && letter.toNat ≤ 0x0d) || letter.toNat == 0x20

end WatchedNode.Text
