/-
**Settings documents.**

`Document.read` gives the value that a settings text writes, `null` if it writes none. Blocks and
flow collections nest; a missing value is `null`; of two fields of one name the later counts.

A `Reader` takes tokens from the front. A token that does not fit is a fault of the nesting;
`Token.broken` is a fault of the text itself, once it is reached.
-/
import WatchedNode.Config.Token
import WatchedNode.Config.Scalar
import WatchedNode.Error

namespace WatchedNode.Config.Document

/-- A program that takes tokens from the front. -/
abbrev Reader (result : Type) := StateT (List Token) (Except Error) result

/-- The token that comes next. -/
def peek : Reader Token := do
  return (← get).head?.getD .broken

/-- Takes one token. -/
def drop : Reader Unit := modify (·.drop 1)

/-- The token that comes next does not fit. -/
def misfit {result : Type} : Reader result := do
  if (← peek) = .broken then throw .badToken else throw .badNesting

/-- Takes a token if it comes next, and says whether it did. -/
def accept (token : Token) : Reader Bool := do
  if (← peek) = token then
    drop
    return true
  else return false

/-- Takes a token that has to come next. -/
def expect (token : Token) : Reader Unit := do
  if !(← accept token) then misfit

mutual

/-- A value; the fuel bounds the depth and the number of the entries. -/
def node (fuel : Nat) (inBlock bareList : Bool) : Reader Value :=
  match fuel with
  | 0 => misfit
  | fuel + 1 => do
    match ← peek with
    | .scalar content isPlain =>
      drop
      return Scalar.resolve content isPlain
    | .openList =>
      drop
      return .list (← flowItems fuel true)
    | .openMap =>
      drop
      return .map (← flowFields fuel true [])
    | .startList =>
      if !inBlock then misfit
      drop
      let items ← items fuel [.item, .endBlock]
      expect .endBlock
      return .list items
    | .startMap =>
      if !inBlock then misfit
      drop
      return .map (← fields fuel [])
    | .item =>
      if !bareList then misfit
      return .list (← items fuel [.item, .key, .value, .endBlock])
    | _ => misfit

/-- A value that is missing where one of the tokens `after` comes next. -/
def part (fuel : Nat) (inBlock bareList : Bool) (after : List Token) : Reader Value :=
  match fuel with
  | 0 => misfit
  | fuel + 1 => do
    if after.contains (← peek) then return .null
    node fuel inBlock bareList

/-- The items of a block list, each with its mark. -/
def items (fuel : Nat) (after : List Token) : Reader (List Value) :=
  match fuel with
  | 0 => misfit
  | fuel + 1 => do
    if ← accept .item then
      let first ← part fuel true false after
      return first :: (← items fuel after)
    else return []

/-- The fields of a block map, up to its end. -/
def fields (fuel : Nat) (known : Table Value) : Reader (Table Value) :=
  match fuel with
  | 0 => misfit
  | fuel + 1 => do
    if ← accept .key then
      let name ← part fuel true true [.key, .value, .endBlock]
      let value ←
        if ← accept .value then part fuel true true [.key, .value, .endBlock] else pure .null
      fields fuel (Table.put (Scalar.name name) value known)
    else
      expect .endBlock
      return known

/-- A field of a flow collection, after the mark of its key. -/
def flowField (fuel : Nat) (closing : Token) : Reader (String × Value) :=
  match fuel with
  | 0 => misfit
  | fuel + 1 => do
    let name ← part fuel false false [.value, .separator, closing]
    let value ←
      if ← accept .value then part fuel false false [.separator, closing] else pure .null
    return (Scalar.name name, value)

/-- The items of a flow list, up to its bracket; a field among them is a map of its own. -/
def flowItems (fuel : Nat) (isFirst : Bool) : Reader (List Value) :=
  match fuel with
  | 0 => misfit
  | fuel + 1 => do
    if ← accept .closeList then return []
    if !isFirst then expect .separator
    if ← accept .closeList then return []
    let first ←
      if ← accept .key then
        let field ← flowField fuel .closeList
        pure (.map [field])
      else node fuel false false
    return first :: (← flowItems fuel false)

/-- The fields of a flow map, up to its bracket; one without a colon has no value. -/
def flowFields (fuel : Nat) (isFirst : Bool) (known : Table Value) :
    Reader (Table Value) :=
  match fuel with
  | 0 => misfit
  | fuel + 1 => do
    if ← accept .closeMap then return known
    if !isFirst then expect .separator
    if ← accept .closeMap then return known
    let (name, value) ←
      if ← accept .key then flowField fuel .closeMap
      else
        let name ← node fuel false false
        pure (Scalar.name name, .null)
    flowFields fuel false (Table.put name value known)

end

/-- The marks that end a document. -/
def endDocuments : Reader Unit := modify (·.dropWhile (· = .endDocument))

/-- A whole text: at most one document. -/
def document (fuel : Nat) : Reader Value := do
  let value ←
    if ← accept .startDocument then
      part fuel true false [.startDocument, .endDocument, .endText]
    else part fuel true false [.endText]
  endDocuments
  if (← peek) = .startDocument then throw .manyDocuments
  expect .endText
  return value

/-- The value that a text writes. -/
def read (text : String) : Except Error Value :=
  let tokens := Token.scan text
  (document (4 * tokens.length + 4)).run' tokens

end WatchedNode.Config.Document
