/-
**Node paths.**

A node path is `/`, or one or more segments each with a slash before it; a segment is not empty and
holds neither a slash nor a null character.

* `fault?`: the first thing that is wrong with a text as a path, tested in a fixed order;
* `segments`: the segments of a path, which drops empty pieces wherever they stand;
* `ancestors`: the paths above a path, and the path itself, from the shallowest to the deepest.
-/

namespace WatchedNode

/-- What is wrong with a value that should be a node path. -/
inductive PathError
  | notText
  | noLeadingSlash
  | trailingSlash
  | emptySegment
  | nullCharacter
  deriving Repr, DecidableEq

/-- The wording of each fault. -/
def PathError.message : PathError → String
  | .notText => "Path must be a string"
  | .noLeadingSlash => "Path must start with a slash"
  | .trailingSlash => "Path must not end with a slash"
  | .emptySegment => "Path contains an empty segment"
  | .nullCharacter => "Path contains a null character"

namespace Path

/-! ## Checking -/

/-- Two slashes stand side by side. -/
def hasDoubleSlash : List Char → Bool
  | '/' :: '/' :: _ => true
  | _ :: rest => hasDoubleSlash rest
  | [] => false

/-- The first fault of a path's letters. -/
def letterFault? (letters : List Char) : Option PathError :=
  if letters = ['/'] then none
  else if letters.head? ≠ some '/' then some .noLeadingSlash
  else if letters.getLast? = some '/' then some .trailingSlash
  else if hasDoubleSlash letters then some .emptySegment
  else if '\x00' ∈ letters then some .nullCharacter
  else none

/-- The first fault of a text as a path. -/
def fault? (text : String) : Option PathError :=
  letterFault? text.toList

/-- A text that is a path, unchanged. -/
def check (text : String) : Except PathError String :=
  match fault? text with
  | none => .ok text
  | some fault => .error fault

/-! ## Segments -/

/-- The pieces between slashes, empty ones included. -/
def pieces : List Char → List (List Char)
  | [] => [[]]
  | letter :: rest =>
    if letter = '/' then [] :: pieces rest
    else match pieces rest with
      | [] => [[letter]]
      | piece :: more => (letter :: piece) :: more

/-- The pieces between slashes that are not empty. -/
def letterSegments (letters : List Char) : List (List Char) :=
  (pieces letters).filter (· ≠ [])

/-- The segments of a path. -/
def segments (path : String) : List String :=
  (letterSegments path.toList).map String.ofList

/-- Each segment with a slash before it. -/
def join (segments : List String) : String :=
  String.join (segments.map ("/" ++ ·))

/-- The paths that the segments build up below `above`, one segment more each time. -/
def descend (above : String) : List String → List String
  | [] => []
  | segment :: rest =>
    let here := above ++ "/" ++ segment
    here :: descend here rest

/-- The paths on the way to a path, the path itself included. -/
def ancestors (path : String) : List String :=
  descend "" (segments path)

end Path

end WatchedNode
