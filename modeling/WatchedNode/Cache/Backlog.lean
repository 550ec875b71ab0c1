/-
**The backlog of a cache.**

All work of a cache passes through one queue, which a single worker empties. The queue counts what
was put into it and is not done yet (`unfinished`): an item counts from when it is put until the
worker says that it is done, so the count includes the item in work.

* `put`: a new item comes last;
* `take?`: the worker takes the first item;
* `done`: an item is done; when none is left, those who wait for that are let go.
-/
import WatchedNode.Service

namespace WatchedNode

/-- One piece of work for a cache. -/
inductive Item
  /-- Look whether the node exists. -/
  | check
  /-- A look has ended. -/
  | looked (outcome : Outcome Answer)
  /-- A fetch has ended. -/
  | fetched (outcome : Outcome Answer)
  /-- Read the node again after a loss of the connection. -/
  | resync
  /-- End the work. -/
  | stop
  deriving Repr, BEq

/-- The queue of a cache's work. -/
structure Backlog where
  items : List Item := []
  unfinished : Nat := 0
  /-- The worker, if it waits for an item. -/
  getter : Option TaskId := none
  /-- Those who wait until all is done. -/
  joiners : List TaskId := []
  deriving Repr, BEq

namespace Backlog

/-- The items after one more is put; the worker is not waiting any more. -/
def put (item : Item) (backlog : Backlog) : Backlog :=
  { backlog with
    items := backlog.items ++ [item], unfinished := backlog.unfinished + 1, getter := none }

/-- The first item and what is left. -/
def take? (backlog : Backlog) : Option (Item × Backlog) :=
  match backlog.items with
  | [] => none
  | item :: rest => some (item, { backlog with items := rest })

/-- The backlog with the worker waiting. -/
def await (worker : TaskId) (backlog : Backlog) : Backlog := { backlog with getter := some worker }

/-- The backlog with somebody waiting until all is done. -/
def join (task : TaskId) (backlog : Backlog) : Backlog :=
  { backlog with joiners := backlog.joiners ++ [task] }

/-- One item is done: who is let go, and the backlog after it. -/
def done (backlog : Backlog) : List TaskId × Backlog :=
  let unfinished := backlog.unfinished - 1
  if unfinished = 0 then (backlog.joiners, { backlog with unfinished, joiners := [] })
  else ([], { backlog with unfinished })

/-- Items are taken in the order in which they were put. -/
theorem take?_eq_some {backlog rest : Backlog} {item : Item}
    (taken : backlog.take? = some (item, rest)) :
    backlog.items = item :: rest.items ∧ rest.unfinished = backlog.unfinished := by
  unfold take? at taken
  split at taken <;> simp_all
  obtain ⟨rfl, rfl⟩ := taken
  simp

end Backlog

end WatchedNode
