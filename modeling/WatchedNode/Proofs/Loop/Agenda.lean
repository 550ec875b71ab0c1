/-
**What a cache has on its agenda.**

What a cache still has to do for its view is in its queue, in flight, or under way in its worker
(`Agenda`). Each piece of it leads to a few others at most: a read to a look, a look to a fetch, and
a fetch to nothing. So an agenda to which nothing comes from elsewhere (`Agenda.Moves`) has an end:

* `Agenda.Moves.outlay`: what may still be asked on account of it, and what has been asked, do not
  grow together;
* `Agenda.Moves.toil`: each move leaves less to be done.
-/
import WatchedNode.Cache.Backlog
import Mathlib

namespace WatchedNode

/-- The item makes a cache look at its node. -/
def Item.isCheck : Item → Bool
  | .check => true
  | _ => false

/-- The item makes a cache read its node. -/
def Item.isResync : Item → Bool
  | .resync => true
  | _ => false

/-- The item says how a look has ended. -/
def Item.isLooked : Item → Bool
  | .looked _ => true
  | _ => false

/-- What is left to be done when nothing but the item is. -/
def Item.toil : Item → Nat
  | .resync => 7
  | .check => 5
  | .looked _ => 3
  | .fetched _ | .stop => 1

/-- What a cache has to do for its view, and what it has asked so far. -/
structure Agenda where
  /-- What is in its queue. -/
  items : List Item
  /-- The looks that are in flight, or have ended, which is still to become an item. -/
  looks : Nat
  /-- The fetches of which the same holds. -/
  fetches : Nat
  /-- The reads that its worker has asked for and not dealt with, which is one at most. -/
  reads : Nat
  /-- The requests that it has asked. -/
  asked : Nat

namespace Agenda

variable {agenda after : Agenda}

/-- **The requests that may still come of an agenda**: three of each item to read the node, two of
each item to look at it and of each read that is under way, and one of each look that is in flight
or to be dealt with. -/
def outlay (agenda : Agenda) : Nat :=
  3 * agenda.items.countP Item.isResync + 2 * (agenda.items.countP Item.isCheck + agenda.reads) +
    (agenda.looks + agenda.items.countP Item.isLooked)

/-- What is left to be done of an agenda: at least as much as moves. -/
def toil (agenda : Agenda) : Nat :=
  (agenda.items.map Item.toil).sum + 6 * agenda.reads + 4 * agenda.looks + 2 * agenda.fetches

/-- How a cache gets on with its agenda when nothing else comes to it. -/
inductive Moves (agenda : Agenda) : Agenda → Prop
  /-- The worker takes an item to look at the node, and asks that. -/
  | looks {rest : List Item} (isFirst : agenda.items = .check :: rest) :
      Moves agenda
        { agenda with items := rest, looks := agenda.looks + 1, asked := agenda.asked + 1 }
  /-- The worker is told that there is a node, and asks for what it holds. -/
  | fetches {outcome : Outcome Answer} {rest : List Item}
      (isFirst : agenda.items = .looked outcome :: rest) :
      Moves agenda
        { agenda with items := rest, fetches := agenda.fetches + 1, asked := agenda.asked + 1 }
  /-- The worker takes an item, and asks nothing. -/
  | drops {item : Item} {rest : List Item} (isFirst : agenda.items = item :: rest)
      (isPlain : item ≠ .resync) :
      Moves agenda { agenda with items := rest }
  /-- The worker takes an item to read the node, and asks that. -/
  | reads {rest : List Item} (isFirst : agenda.items = .resync :: rest) :
      Moves agenda
        { agenda with items := rest, reads := agenda.reads + 1, asked := agenda.asked + 1 }
  /-- The worker has read the node, and is to look at it. -/
  | returns {left : Nat} {more : List Item} (isLast : agenda.reads = left + 1)
      (either : more = [] ∨ more = [.check]) :
      Moves agenda { agenda with items := agenda.items ++ more, reads := left }
  /-- The answer to a look becomes an item. -/
  | looked {left : Nat} (outcome : Outcome Answer) (isLast : agenda.looks = left + 1) :
      Moves agenda { agenda with items := agenda.items ++ [.looked outcome], looks := left }
  /-- The answer to a fetch becomes an item. -/
  | fetched {left : Nat} (outcome : Outcome Answer) (isLast : agenda.fetches = left + 1) :
      Moves agenda { agenda with items := agenda.items ++ [.fetched outcome], fetches := left }

/-- **What has been asked and what may still be asked do not grow together.** -/
theorem Moves.outlay (moves : agenda.Moves after) :
    after.asked + after.outlay ≤ agenda.asked + agenda.outlay := by
  cases moves with
  | looks isFirst | fetches isFirst | reads isFirst =>
    simp only [Agenda.outlay, isFirst, List.countP_cons, Item.isResync, Item.isCheck, Item.isLooked]
    simp
    omega
  | @drops item rest isFirst isPlain =>
    simp only [Agenda.outlay, isFirst, List.countP_cons]
    omega
  | returns isLast either =>
    rcases either with rfl | rfl
    · simp only [Agenda.outlay, isLast, List.append_nil]
      omega
    · simp only [Agenda.outlay, isLast, List.countP_append, List.countP_singleton, Item.isResync,
        Item.isCheck,
        Item.isLooked, Bool.false_eq_true, if_true, if_false]
      omega
  | looked outcome isLast =>
    simp [Agenda.outlay, isLast, Item.isResync, Item.isCheck, Item.isLooked]
    omega
  | fetched outcome isLast => simp [Agenda.outlay, Item.isResync, Item.isCheck, Item.isLooked]

/-- **Each move leaves less to be done.** -/
theorem Moves.toil (moves : agenda.Moves after) : after.toil < agenda.toil := by
  cases moves with
  | looks isFirst | fetches isFirst | reads isFirst =>
    simp [Agenda.toil, isFirst, Item.toil]
    omega
  | @drops item rest isFirst isPlain => cases item <;> simp [Agenda.toil, isFirst, Item.toil]
  | returns isLast either =>
    rcases either with rfl | rfl
    · simp [Agenda.toil, isLast]
    · simp [Agenda.toil, isLast, Item.toil]
      omega
  | looked outcome isLast =>
    simp [Agenda.toil, isLast, Item.toil]
    omega
  | fetched outcome isLast =>
    simp [Agenda.toil, isLast, Item.toil]
    omega

end Agenda

end WatchedNode
