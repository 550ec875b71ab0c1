/-
**Quoted text.**

How a text is shown inside a message: between quotes, with a backslash before the quote and the
backslash, short escapes for tab and line ends, and numbers for characters without a printed form.

* `quoteMark`: single quotes, unless the text holds one and no double quote;
* `escape`: one character between the quotes.
-/
import WatchedNode.Text.Printable

namespace WatchedNode.Text

/-- A number in lower-case base sixteen, with at least `width` digits. -/
def hexDigits (width number : Nat) : String :=
  let digits := Nat.toDigits 16 number
  String.ofList (List.replicate (width - digits.length) '0' ++ digits)

/-- One character as it stands between quotes. -/
def escape (quote letter : Char) : String :=
  let code := letter.toNat
  if letter = quote ∨ letter = '\\' then String.ofList ['\\', letter]
  else if letter = '\t' then "\\t"
  else if letter = '\n' then "\\n"
  else if letter = '\r' then "\\r"
  else if isPrintable letter then String.singleton letter
  else if code < 0x100 then "\\x" ++ hexDigits 2 code
  else if code < 0x10000 then "\\u" ++ hexDigits 4 code
  else "\\U" ++ hexDigits 8 code

/-- The mark around a text. -/
def quoteMark (text : String) : Char :=
  if '\x27' ∈ text.toList ∧ '\x22' ∉ text.toList then '\x22' else '\x27'

/-- The text between quotes. -/
def quoted (text : String) : String :=
  let mark := quoteMark text
  String.singleton mark ++ String.join (text.toList.map (escape mark)) ++ String.singleton mark

end WatchedNode.Text
