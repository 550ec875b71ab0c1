/-
**Decimal integers in text.**

`Integer.read` accepts what people write for a whole number: blanks around it, one sign, digits of
any script, leading zeros, and single underscores between digits.

* `digits?` holds the grammar of the digits;
* `ofDigits` is their value;
* more than `digitLimit` digits are refused with their count.
-/
import WatchedNode.Text.Digit

namespace WatchedNode.Text.Integer

/-- Why a text is no integer. -/
inductive Fault
  | malformed
  | tooLong (digits : Nat)
  deriving Repr, DecidableEq

/-- The greatest number of digits that is read. -/
def digitLimit : Nat := 4300

/-- A text beyond ASCII is read with its blanks and digits in their plain forms. -/
def plain (letters : List Char) : List Char :=
  if letters.all (·.toNat < 128) then letters
  else letters.map fun letter =>
    if letter.toNat < 128 then letter
    else if isBlank letter then ' '
    else match digit? letter with
      | some value => Char.ofNat ('0'.toNat + value)
      | none => '?'

/-- Blanks at both ends removed. -/
def trim (letters : List Char) : List Char :=
  ((letters.dropWhile isAsciiBlank).reverse.dropWhile isAsciiBlank).reverse

/-- One or more digits, with single underscores only between two of them. -/
def digits? : List Char → Option (List Nat)
  | [] => none
  | [letter] => (digit? letter).map ([·])
  | letter :: '_' :: rest => do
    let value ← digit? letter
    return value :: (← digits? rest)
  | letter :: next :: rest => do
    let value ← digit? letter
    return value :: (← digits? (next :: rest))

/-- The number that the digits write. -/
def ofDigits (digits : List Nat) : Nat :=
  digits.foldl (fun number digit => 10 * number + digit) 0

/-- The sign and what follows it. -/
def sign : List Char → Bool × List Char
  | '-' :: rest => (true, rest)
  | '+' :: rest => (false, rest)
  | rest => (false, rest)

/-- The integer that a text writes. -/
def read (text : String) : Except Fault Int :=
  let (negative, rest) := sign (trim (plain text.toList))
  match digits? rest with
  | none => .error .malformed
  | some digits =>
    if digitLimit < digits.length then .error (.tooLong digits.length)
    else .ok (if negative then -(ofDigits digits : Int) else ofDigits digits)

end WatchedNode.Text.Integer
