/-
**Requests and outcomes.**

What a cache asks of a service, and what comes of it.

* a `Request` is about the path of a node; a watcher that it names is told of the next change;
* an `Answer` is what a task ends with, and an `Outcome` is that or an error;
* a `Wake` is the reason for which a task goes on.
-/
import WatchedNode.Snapshot
import WatchedNode.Link

namespace WatchedNode

/-! ## Who and where -/

/-- The place of a cache in the order of creation. -/
abbrev CacheId := Nat

/-- The place of a task in the order of creation. -/
abbrev TaskId := Nat

/-- One of the sessions with a service. -/
abbrev Handle := Nat

/-- Who is told of news: a cache, or somebody known by name. -/
inductive Subscriber
  | cache (cache : CacheId)
  | named (name : String)
  deriving Repr, DecidableEq

/-- What a store says of one change, or of one key. -/
structure Record where
  /-- The store's own index. -/
  index : Int
  created : Int
  modified : Int
  value : Option String
  deriving Repr, DecidableEq

/-! ## Requests -/

/-- What a cache asks of a service. -/
inductive Request
  /-- The directories on the way to a path shall be there. -/
  | ensure (path : String) (parentsOnly : Bool)
  /-- Is there a node? The watcher is told of the next change. -/
  | look (path : String) (watcher : Subscriber)
  /-- What does the node hold? The watcher is told of the next change, if there is one. -/
  | fetch (path : String) (watcher : Option Subscriber) (decompress : Value)
  deriving Repr, BEq

/-- What a task ends with. -/
inductive Answer
  | nothing
  /-- The stamps of a node, if it exists. -/
  | stat (stat : Option Stat)
  /-- The content of a node and its stamps; either may be lacking. -/
  | content (data : Option (List UInt8)) (stat : Option Stat)
  | record (record : Record)
  /-- The cache that was entered. -/
  | entered
  /-- A cache was opened, with this choice of compression. -/
  | opened (cache : CacheId) (compressed : Value)
  deriving Repr, BEq

namespace Answer

/-- The stamps in an answer; no other answer says that there is a node. -/
def stat? : Answer → Option Stat
  | .stat stamps => stamps
  | _ => none

/-- The content and the stamps in an answer. -/
def parts : Answer → Option (List UInt8) × Option Stat
  | .content data stamps => (data, stamps)
  | _ => (none, none)

end Answer

/-! ## Outcomes -/

/-- How a task or a call ends. -/
inductive Outcome (result : Type)
  | returned (result : result)
  | failed (error : Error)
  | cancelled
  deriving Repr, BEq

/-- The outcome of a computation. -/
def Outcome.ofExcept {result : Type} : Except Error result → Outcome result
  | .ok value => .returned value
  | .error error => .failed error

/-- Why a task goes on. -/
inductive Wake (Reply : Type)
  /-- It has just started, or what it waited for has come about. -/
  | goOn
  /-- A request that was held is released. -/
  | reply (reply : Reply)
  /-- It was cancelled. -/
  | cancelled
  /-- A call or a task that it waited for has ended. -/
  | ended (outcome : Outcome Answer)

end WatchedNode
