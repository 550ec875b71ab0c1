/-
**Keys of a store.**

A session keeps all its nodes below a root. `Key.below` gives the key of a path: the root itself for
`/` and for the empty path, and else the root with the path after it. `Key.nextIndex` reads off an
error where a watch has to start.
-/
import WatchedNode.Error
import WatchedNode.Text.Integer

namespace WatchedNode.Key

/-- The text may stand after a root: it starts with a slash, does not end with one, and has no two
of them side by side. -/
def isRelative (letters : List Char) : Bool :=
  letters.head? = some '/' && letters.getLast? ≠ some '/' && !Path.hasDoubleSlash letters

/-- The key of a path below a root. -/
def below (root path : String) : Except Error String :=
  if path = "/" ∨ path = "" then .ok root
  else if isRelative path.toList then .ok (root ++ path)
  else .error .badArgument

/-- The key of a value that should be a path; no other value starts with a slash. -/
def ofValue (root : String) : Value → Except Error String
  | .text path => below root path
  | _ => .error .badArgument

/-- The whole number that a value stands for. -/
def integer : Value → Except Error Int
  | .int number => .ok number
  | .bool truth => .ok (if truth then 1 else 0)
  | .real number => .ok (Int.tdiv number.num number.den)
  | .text text =>
    match Text.Integer.read text with
    | .ok number => .ok number
    | .error .malformed => .error (.noInteger text)
    | .error (.tooLong count) => .error (.tooManyDigits count)
  | other =>
    .error (.wrongType
      ("int() argument must be a string, a bytes-like object or a real number, not \x27"
        ++ other.typeWord ++ "\x27"))

/-- The index after the one in an error's payload, if it has one. -/
def nextIndex (payload : Value) : Except Error (Option Int) :=
  if payload.truth then
    match payload with
    | .map fields =>
      match Table.find? "index" fields with
      | none | some .null => .ok none
      | some index => (integer index).map fun number => some (number + 1)
    | other => .error (.noAttribute other.typeWord "get")
  else .ok none

end WatchedNode.Key
