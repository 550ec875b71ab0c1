/-
**Lists in order.**

`ordered` puts the members of a list in order. Of two members that may stand in either order, the
one that came first stays first. It has the same members as the list (`mem_ordered`).
-/

namespace WatchedNode

variable {member : Type}

/-- Puts a member before the first one that it may stand before. -/
def insertOrdered (mayPrecede : member → member → Bool) (new : member) :
    List member → List member
  | [] => [new]
  | first :: rest =>
    if mayPrecede new first then new :: first :: rest
    else first :: insertOrdered mayPrecede new rest

/-- The members of a list in order. -/
def ordered (mayPrecede : member → member → Bool) : List member → List member
  | [] => []
  | first :: rest => insertOrdered mayPrecede first (ordered mayPrecede rest)

/-- Inserting adds just the one member. -/
theorem mem_insertOrdered (mayPrecede : member → member → Bool) (new other : member)
    (list : List member) :
    other ∈ insertOrdered mayPrecede new list ↔ other = new ∨ other ∈ list := by
  induction list with
  | nil => simp [insertOrdered]
  | cons first rest step =>
    unfold insertOrdered
    split
    · simp
    · rw [List.mem_cons, step, List.mem_cons]
      exact or_left_comm

/-- Ordering keeps the members. -/
theorem mem_ordered (mayPrecede : member → member → Bool) (other : member)
    (list : List member) : other ∈ ordered mayPrecede list ↔ other ∈ list := by
  induction list with
  | nil => simp [ordered]
  | cons first rest step => rw [ordered, mem_insertOrdered, step, List.mem_cons]

end WatchedNode
