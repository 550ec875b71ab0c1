/-
**Tables.**

A table is a list of named entries. Names are looked up from the front; `put` changes an entry in
its place, or adds one at the end, and `erase` takes all entries of a name out.
-/

namespace WatchedNode

/-- Entries by name, in order. -/
abbrev Table (entry : Type) := List (String × entry)

namespace Table

variable {entry : Type}

/-- The first entry of that name. -/
def find? (name : String) (table : Table entry) : Option entry :=
  (List.find? (·.1 = name) table).map (·.2)

/-- The table with one entry set. -/
def put (name : String) (value : entry) : Table entry → Table entry
  | [] => [(name, value)]
  | first :: rest =>
    if first.1 = name then (name, value) :: rest else first :: put name value rest

/-- The table without the entries of that name. -/
def erase (name : String) (table : Table entry) : Table entry :=
  List.filter (·.1 ≠ name) table

end Table

end WatchedNode
