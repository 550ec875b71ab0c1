/-
**Caches.**

A `Cache` is the local view of one node: what was last seen of it, whether the cache runs, whether
it believes to be connected, who monitors it, and the work it still has to do.

* a cache is `latent`, then `started`, then `closed`;
* monitors are registered under numbers that only grow; a monitor is registered at most once
  (`addMonitor`), and its registration is named by a `Token`, by its number, or by the monitor
  itself (`removeId`, `removeMonitor`).
-/
import WatchedNode.Cache.Backlog

namespace WatchedNode

/-- Where a cache is in its life. -/
inductive Phase
  | latent
  | started
  | closed
  deriving Repr, DecidableEq

/-- The written form of a phase. -/
def Phase.toText : Phase → String
  | .latent => "latent"
  | .started => "started"
  | .closed => "closed"

/-- A monitor that is registered, with its number. -/
structure Registration where
  id : Nat
  monitor : String
  deriving Repr, DecidableEq

/-- What is handed out for a registration. -/
structure Token where
  cache : CacheId
  id : Nat
  monitor : String
  deriving Repr, DecidableEq

/-- The local view of one node. -/
structure Cache where
  /-- The name it was made under. -/
  name : String
  /-- The number that its complaints carry. -/
  serial : Nat
  /-- The session it talks to, if there was one when it was made. -/
  handle : Option Handle
  path : String
  /-- Passed on to the service with every fetch. -/
  compressed : Value
  phase : Phase := .latent
  /-- The cache believes that the service can be reached. -/
  connected : Bool := true
  /-- What was last seen of the node. -/
  data : Snapshot := .absent path
  registrations : List Registration := []
  /-- The number of the next registration. -/
  nextId : Nat := 1
  /-- Requests and monitors' deeds that have not been dealt with. -/
  pending : List TaskId := []
  /-- The queue of work, once the cache has been started. -/
  backlog : Option Backlog := none
  /-- The worker, until the cache is closed. -/
  worker : Option TaskId := none
  deriving Repr

namespace Cache

/-- The cache works for its monitors. -/
def isRunning (cache : Cache) : Bool := cache.phase = .started

/-- The cache may ask the service. -/
def isActive (cache : Cache) : Bool := cache.isRunning && cache.connected

/-! ## Monitors -/

/-- The registration of a monitor. -/
def registration? (monitor : String) (cache : Cache) : Option Registration :=
  cache.registrations.find? (·.monitor = monitor)

/-- Registers a monitor: one that is registered keeps its registration. -/
def addMonitor (monitor : String) (cache : Cache) : Except Error (Registration × Cache) :=
  if cache.phase = .closed then .error .closedCache
  else match cache.registration? monitor with
    | some registration => .ok (registration, cache)
    | none =>
      let registration : Registration := ⟨cache.nextId, monitor⟩
      .ok (registration, { cache with
        registrations := cache.registrations ++ [registration], nextId := cache.nextId + 1 })

/-- Removes the registration of that number. -/
def removeId (id : Int) (cache : Cache) : Cache :=
  { cache with registrations := cache.registrations.filter fun known => (known.id : Int) ≠ id }

/-- Removes the registration of a monitor. -/
def removeMonitor (monitor : String) (cache : Cache) : Cache :=
  match cache.registration? monitor with
  | some registration => cache.removeId registration.id
  | none => cache

/-! ## Outcomes -/

/-- What a fetch without a watcher says of the node: a node that is gone is seen as absent. -/
def reading (cache : Cache) : Outcome Answer → Outcome Snapshot
  | .returned answer =>
    .ofExcept (Snapshot.make cache.path answer.parts.2 answer.parts.1)
  | .failed error => if error.isNoNode then .returned (.absent cache.path) else .failed error
  | .cancelled => .cancelled

end Cache

end WatchedNode
