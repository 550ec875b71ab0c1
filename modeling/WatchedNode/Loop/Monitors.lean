/-
**Monitors.**

A monitor is known by name and does what its `Script` says, in order, until one of its acts fails.
It may change the registrations of its cache, look at the node again, or change the node itself. It
never changes what a cache has seen.

* `callMonitor`: one call, which is written down with what the monitor's cache has seen;
* `notify`: all monitors that are registered when the round begins are called once, in the order of
  their registration; a failure is complained of, and a deed that is left to be done becomes a task;
* `install`: a new view of the node; the monitors are called if it says something new.
-/
import WatchedNode.Loop.Effects

namespace WatchedNode.Loop

variable {S : Service}

/-- What a monitor returns. -/
inductive Yield
  | plain (value : Value)
  | later (deed : Deed)
  deriving Repr, BEq

/-- The name of the cache of a monitor without a script. -/
def defaultCache : String := "c"

/-- What a monitor does. -/
def script (monitor : String) (loop : Loop S) : Script :=
  (Table.find? monitor loop.scripts).getD ⟨defaultCache, []⟩

/-- The cache of a monitor. -/
def cacheOf (monitor : String) (loop : Loop S) : Except Error CacheId :=
  let name := (loop.script monitor).cache
  match Table.find? name loop.names with
  | some cache => .ok cache
  | none => .error (.noSetting name)

/-- What a cache has seen. -/
def seen (cache : CacheId) (loop : Loop S) : Snapshot :=
  (loop.caches[cache]?).elim (.absent "/") (·.data)

/-- Adds a monitor to a cache. -/
def addMonitor (cache : CacheId) (monitor : String) (loop : Loop S) :
    Loop S × Except Error Registration :=
  match loop.caches[cache]? with
  | none => (loop, .error .badArgument)
  | some known =>
    match known.addMonitor monitor with
    | .ok (registration, after) => (loop.modifyCache cache fun _ => after, .ok registration)
    | .error error => (loop, .error error)

/-- Removes the registration that a token was handed out for. -/
def cancelToken (token : String) (loop : Loop S) : Loop S × Except Error Unit :=
  match Table.find? token loop.tokens with
  | some token => (loop.modifyCache token.cache (·.removeId token.id), .ok ())
  | none => (loop, .error (.noSetting token))

/-- One act of a monitor of a cache. -/
def act (cache : CacheId) (act : Act) (loop : Loop S) : Loop S × Except Error (Option Yield) :=
  match act with
  | .fail => (loop, .error (.foreign "RuntimeError" "mon"))
  | .remove monitor => (loop.modifyCache cache (·.removeMonitor monitor), .ok none)
  | .add monitor =>
    let (loop, result) := loop.addMonitor cache monitor
    (loop, result.map fun _ => none)
  | .cancel token =>
    let (loop, result) := loop.cancelToken token
    (loop, result.map fun _ => none)
  | .reset => (loop.reset cache, .ok none)
  | .answer value => (loop, .ok (some (.plain value)))
  | .later deed => (loop, .ok (some (.later deed)))
  | act =>
    match S.eventOfAct act with
    | none => (loop, .ok none)
    | some event =>
      let (loop, result) := loop.happen event
      (loop, result.map fun _ => none)

/-- The acts of a monitor, and what it returns: the last of what its acts give. -/
def acts (cache : CacheId) : List Act → Yield → Loop S → Loop S × Except Error Yield
  | [], yielded, loop => (loop, .ok yielded)
  | first :: rest, yielded, loop =>
    match loop.act cache first with
    | (loop, .error error) => (loop, .error error)
    | (loop, .ok given) => acts cache rest (given.getD yielded) loop

/-- Calls a monitor, on behalf of a cache or of somebody else. -/
def callMonitor (caller : Option CacheId) (monitor : String) (loop : Loop S) :
    Loop S × Except Error Yield :=
  let loop := match caller with
    | some cache => loop.note (.called cache monitor (loop.seen cache))
    | none => loop
  match loop.cacheOf monitor with
  | .error error => (loop, .error error)
  | .ok cache =>
    (loop.note (.monitor monitor (loop.seen cache))).acts cache (loop.script monitor).acts
      (.plain .null)

/-- Starts what a monitor left to be done, as something that a cache has to wait for. -/
def startDeed (cache : CacheId) (monitor : String) (deed : Deed) (loop : Loop S) : Loop S :=
  let task := loop.tasks.length
  ((loop.spawn (.deed cache) (.deed monitor deed .beginning)).modifyCache cache fun cache =>
    { cache with pending := cache.pending ++ [task] }).addHook task (.deedDone cache)

/-- One monitor in a round. -/
def notifyOne (cache : CacheId) (loop : Loop S) (registration : Registration) : Loop S :=
  match loop.callMonitor (some cache) registration.monitor with
  | (loop, .error error) =>
    let serial := (loop.caches[cache]?).elim 0 (·.serial)
    loop.complain (.monitorFailed serial registration.monitor error)
  | (loop, .ok (.later deed)) => loop.startDeed cache registration.monitor deed
  | (loop, .ok (.plain _)) => loop

/-- A round of calls. -/
def notify (cache : CacheId) (loop : Loop S) : Loop S :=
  ((loop.caches[cache]?).elim [] (·.registrations)).foldl (notifyOne cache) loop

/-- A new view of the node, without telling anybody. -/
def setData (cache : CacheId) (data : Snapshot) (isSilent : Bool) (loop : Loop S) : Loop S :=
  (loop.modifyCache cache fun cache => { cache with data }).note (.installed cache data isSilent)

/-- A new view of the node; if it says something new, the monitors are told. -/
def install (cache : CacheId) (data : Snapshot) (loop : Loop S) : Loop S :=
  let before := loop.seen cache
  let loop := loop.setData cache data false
  if Snapshot.Same before data then loop else loop.notify cache

end WatchedNode.Loop
