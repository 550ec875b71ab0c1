/-
**Plain scalars of a settings text.**

A scalar without quotes stands for a truth value, nothing, or a number, if it is written like one,
and for itself otherwise. A quoted scalar always stands for itself.
-/
import WatchedNode.Config.Value

namespace WatchedNode.Config.Scalar

/-- The spellings of the two truth values. -/
def truth? (content : String) : Option Bool :=
  if ["yes", "Yes", "YES", "true", "True", "TRUE", "on", "On", "ON"].contains content then some true
  else if ["no", "No", "NO", "false", "False", "FALSE", "off", "Off", "OFF"].contains content then
    some false
  else none

/-- The spellings of nothing. -/
def isNull (content : String) : Bool :=
  ["", "~", "null", "Null", "NULL"].contains content

/-- The value of a digit below a base. -/
def digit? (base : Nat) (letter : Char) : Option Nat :=
  let code := letter.toNat
  let value := if 48 ≤ code ∧ code ≤ 57 then code - 48
    else if 97 ≤ code ∧ code ≤ 102 then code - 87
    else if 65 ≤ code ∧ code ≤ 70 then code - 55
    else 16
  if value < base then some value else none

/-- The number that digits write; underscores between them are skipped. -/
def natural? (base : Nat) (letters : List Char) : Option Nat :=
  let digits := letters.filter (· ≠ '_')
  if digits.isEmpty then none
  else (digits.mapM (digit? base)).map fun values =>
    values.foldl (fun number value => base * number + value) 0

/-- A sign and what follows it. -/
def sign : List Char → Int × List Char
  | '-' :: rest => (-1, rest)
  | '+' :: rest => (1, rest)
  | rest => (1, rest)

/-- A whole number without its sign: in base two, eight, ten or sixteen, by what it starts with. -/
def magnitude? : List Char → Option Nat
  | '0' :: 'b' :: digits => natural? 2 digits
  | '0' :: 'x' :: digits => natural? 16 digits
  | '0' :: digits => if digits.all (· = '_') then some 0 else natural? 8 digits
  | first :: digits => do
    let value ← digit? 10 first
    let rest ← if digits.all (· = '_') then some 0 else natural? 10 digits
    return value * Nat.pow 10 (digits.filter (· ≠ '_')).length + rest
  | [] => none

/-- A whole number. -/
def integer? (content : String) : Option Int :=
  let (factor, letters) := sign content.toList
  (magnitude? letters).map (factor * ·)

/-- A number with a point: digits before it, and digits or nothing after it. -/
def decimal? (content : String) : Option Rat := do
  let (factor, letters) := sign content.toList
  let whole := letters.takeWhile (· ≠ '.')
  let fraction := (letters.dropWhile (· ≠ '.')).drop 1
  if !letters.contains '.' || whole.head? = some '_' then none
  else
    let before ← if whole.isEmpty && !fraction.isEmpty then some 0 else natural? 10 whole
    let places := (fraction.filter (· ≠ '_')).length
    let after ← if places = 0 then some 0 else natural? 10 fraction
    return (factor : Rat) * (before + (after : Rat) / (10 : Rat) ^ places)

/-- The value of a scalar. -/
def resolve (content : String) (isPlain : Bool) : Value :=
  if !isPlain then .text content
  else if isNull content then .null
  else match truth? content with
    | some truth => .bool truth
    | none => match integer? content with
      | some number => .int number
      | none => match decimal? content with
        | some number => .real number
        | none => .text content

/-- The name that a value gives to a field. -/
def name : Value → String
  | .text content => content
  | .int number => toString number
  | .bool truth => if truth then "true" else "false"
  | _ => "null"

end WatchedNode.Config.Scalar
