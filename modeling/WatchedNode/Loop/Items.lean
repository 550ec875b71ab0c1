/-
**The items of a cache's work.**

Items are dealt with one at a time. Each looks again whether the cache still runs, so that what was
asked before the cache was closed, or before the connection was lost, comes to nothing.

* `check` asks in the background whether the node exists; the answer becomes an item;
* a node that does not exist is seen as absent; one that exists is fetched in the background, and
  the answer becomes an item again;
* failures are complained of, except for a node that is gone, whose watcher will tell.
-/
import WatchedNode.Loop.Monitors

namespace WatchedNode.Loop

variable {S : Service}

/-- The frame of a request of a cache. -/
def requestFrame (cache : Cache) (request : Request) : Frame S.Point :=
  .service (S.request cache.handle request)

/-- What a cache asks in the background; its own watcher is to be told of the next change. -/
def queryRequest (cache : CacheId) (known : Cache) : Query → Request
  | .look => .look known.path (.cache cache)
  | .fetch => .fetch known.path (some (.cache cache)) known.compressed

/-- Asks the service in the background. -/
def ask (cache : CacheId) (query : Query) (loop : Loop S) : Loop S :=
  match loop.caches[cache]? with
  | none => loop
  | some known =>
    let request := queryRequest cache known query
    let task := loop.tasks.length
    (((loop.note (.asked cache task request)).spawn (.request cache query)
      (requestFrame known request)).modifyCache cache fun cache =>
        { cache with pending := cache.pending ++ [task] }).addHook task (.answered cache query)

/-- The request for a read that somebody waits for. -/
def readRequest (cache : Cache) : Request := .fetch cache.path none cache.compressed

/-- The node is looked at, if the cache may ask. -/
def check (cache : CacheId) (loop : Loop S) : Loop S :=
  if (loop.caches[cache]?).any Cache.isActive then loop.ask cache .look else loop

/-- A look has ended. -/
def looked (cache : CacheId) (outcome : Outcome Answer) (loop : Loop S) : Loop S :=
  match loop.caches[cache]? with
  | none => loop
  | some known =>
    if !known.isRunning then loop
    else match outcome with
      | .cancelled => loop
      | .failed error => loop.complain (.lookFailed known.serial known.path error)
      | .returned answer =>
        match answer.stat? with
        | none => loop.install cache (.absent known.path)
        | some _ => loop.ask cache .fetch

/-- A fetch has ended. -/
def fetched (cache : CacheId) (outcome : Outcome Answer) (loop : Loop S) : Loop S :=
  match loop.caches[cache]? with
  | none => loop
  | some known =>
    if !known.isRunning then loop
    else match outcome with
      | .cancelled => loop
      | .failed error =>
        if error.isNoNode then loop
        else loop.complain (.fetchFailed known.serial known.path error)
      | .returned answer =>
        match Snapshot.make known.path answer.parts.2 answer.parts.1 with
        | .ok data => loop.install cache data
        | .error error => loop.complain (.itemFailed known.serial error)

/-- The read after a loss of the connection has ended; one that was cancelled is not dealt with. -/
def resynced (cache : CacheId) (outcome : Outcome Snapshot) (loop : Loop S) : Loop S :=
  match loop.caches[cache]? with
  | none => loop
  | some known =>
    match outcome with
    | .cancelled => loop
    | .failed error => (loop.complain (.resyncFailed known.serial error)).refresh cache
    | .returned data => (if known.isRunning then loop.install cache data else loop).refresh cache

/-- What a cache has asked in the background is answered: the answer becomes an item. -/
def answered (cache : CacheId) (query : Query) (task : TaskId) (outcome : Outcome Answer)
    (loop : Loop S) : Loop S :=
  let loop := loop.modifyCache cache fun cache =>
    { cache with pending := cache.pending.filter (· ≠ task) }
  if (loop.caches[cache]?).any Cache.isRunning then
    loop.post cache (match query with
      | .look => .looked outcome
      | .fetch => .fetched outcome)
  else loop

/-- A monitor's deed is over. -/
def deedDone (cache : CacheId) (task : TaskId) (outcome : Outcome Answer) (loop : Loop S) :
    Loop S :=
  let loop := loop.modifyCache cache fun cache =>
    { cache with pending := cache.pending.filter (· ≠ task) }
  match outcome with
  | .failed error =>
    loop.complain (.deedFailed ((loop.caches[cache]?).elim 0 (·.serial)) error)
  | _ => loop

end WatchedNode.Loop
