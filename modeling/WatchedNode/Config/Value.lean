/-
**Settings values.**

A settings document holds `Value`s: scalars, lists, and maps from text to values in order. Arguments
that are passed on as they were configured stay `Value`s too.

* `truth`: the truth of a value; empty and zero values are false;
* `number?`: the number a value stands for, where truth values count as 0 and 1;
* `update`: one map's fields put over another's.
-/
import WatchedNode.Table

namespace WatchedNode

/-- A value of a settings document. -/
inductive Value
  | null
  | bool (truth : Bool)
  | int (number : Int)
  | real (number : Rat)
  | text (content : String)
  | list (items : List Value)
  | map (fields : List (String × Value))
  deriving Repr, BEq

namespace Value

instance : Inhabited Value := ⟨.null⟩

/-- Empty and zero values are false, all others are true. -/
def truth : Value → Bool
  | .null => false
  | .bool truth => truth
  | .int number => number ≠ 0
  | .real number => number ≠ 0
  | .text content => content ≠ ""
  | .list items => !items.isEmpty
  | .map fields => !fields.isEmpty

/-- The number that a value stands for. -/
def number? : Value → Option Rat
  | .bool truth => some (if truth then 1 else 0)
  | .int number => some number
  | .real number => some number
  | _ => none

/-- The word for a value's type in messages. -/
def typeWord : Value → String
  | .null => "NoneType"
  | .bool _ => "bool"
  | .int _ => "int"
  | .real _ => "float"
  | .text _ => "str"
  | .list _ => "list"
  | .map _ => "dict"

/-- All entries of `news` put into `fields`, in order. -/
def update (fields news : Table Value) : Table Value :=
  news.foldl (fun known field => Table.put field.1 field.2 known) fields

end Value

end WatchedNode
