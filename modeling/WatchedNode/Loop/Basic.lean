/-
**The loop.**

A `Loop` holds everything that changes: the service, the caches, the tasks, and the list of what is
ready to be done, first in, first out. One task at a time has its turn. What is worth telling is
written into the journal, the latest entry first.

This module has what the loop does with tasks:

* `spawn`: a new task comes last in the list;
* `wake`: a task that waits comes last in the list; one that does not wait stays as it is;
* `finish`: a task ends, and its hooks come last in the list, in their order;
* `cancel`: a task that waits goes on cancelled, and one that has not begun never does.
-/
import WatchedNode.Ordered
import WatchedNode.Task

namespace WatchedNode

/-- What is written down. -/
inductive Entry (Call : Type)
  | call (call : Call)
  | monitor (name : String) (seen : Snapshot)
  | deed (name : String) (seen : Snapshot)
  | listener (name : String) (link : Link)
  | watcher (name : String) (news : Option Record)
  | complaint (complaint : Complaint)
  /-- A task asked the service for a cache; nobody is told. -/
  | asked (cache : CacheId) (task : TaskId) (request : Request)
  /-- An activation of a task has ended; nobody is told. -/
  | left (task : TaskId) (activity : Activity) (outcome : Outcome Answer)
  /-- A cache was told of its connection's state; nobody else is told. -/
  | told (cache : CacheId) (link : Link)
  /-- A watcher of a cache's own was fired; nobody else is told. -/
  | fired (cache : CacheId)
  /-- Somebody asked a cache to look at its node; nobody is told. -/
  | reset (cache : CacheId)
  /-- A cache has a new view of its node; nobody is told. -/
  | installed (cache : CacheId) (data : Snapshot) (isSilent : Bool)
  /-- A cache calls a monitor, which can see that; nobody else is told. -/
  | called (cache : CacheId) (monitor : String) (seen : Snapshot)

/-- Somebody is told of an entry. -/
def Entry.isShown {Call : Type} : Entry Call → Bool
  | .asked .. | .left .. | .told .. | .fired .. | .reset .. | .installed .. | .called .. => false
  | _ => true

/-- What a monitor does. -/
structure Script where
  /-- The name of its cache. -/
  cache : String
  acts : List Act
  deriving Repr, BEq

/-- What a listener or watcher does that is known by name. -/
structure Habit where
  /-- It fails in the end. -/
  fails : Bool := false
  /-- Listeners that it adds to the session. -/
  adds : List String := []
  /-- Listeners that it removes from the session. -/
  removes : List String := []
  deriving Repr, DecidableEq

/-- The whole state. -/
structure Loop (S : Service) where
  service : S.State
  caches : List Cache := []
  /-- The number of caches that were made or refused. -/
  serial : Nat := 0
  tasks : List (Task S) := []
  ready : List Job := []
  /-- The task that has its turn, and why. -/
  turn : Option (TaskId × Wake S.Reply) := none
  clock : Rat := 0
  /-- The number of requests that were held. -/
  tickets : Nat := 0
  /-- The number of times that were waited for. -/
  alarms : Nat := 0
  scripts : Table Script := []
  habits : Table Habit := []
  names : Table CacheId := []
  tokens : Table Token := []
  journal : List (Entry S.Call) := []

namespace Loop

variable {S : Service}

/-! ## Journal -/

/-- Writes an entry. -/
def note (entry : Entry S.Call) (loop : Loop S) : Loop S :=
  { loop with journal := entry :: loop.journal }

/-- Writes a complaint. -/
def complain (complaint : Complaint) (loop : Loop S) : Loop S := loop.note (.complaint complaint)

/-! ## Parts -/

/-- A change of the service's state. -/
def setService (service : S.State) (loop : Loop S) : Loop S := { loop with service }

/-- A change of one cache. -/
def modifyCache (cache : CacheId) (change : Cache → Cache) (loop : Loop S) : Loop S :=
  { loop with caches := loop.caches.modify cache change }

/-- A change of one task. -/
def modifyTask (task : TaskId) (change : Task S → Task S) (loop : Loop S) : Loop S :=
  { loop with tasks := loop.tasks.modify task change }

/-- The status of a task. -/
def status? (task : TaskId) (loop : Loop S) : Option (Status S.Reply) :=
  (loop.tasks[task]?).map (·.status)

/-- The outcome of a task, once it has ended. -/
def outcome? (task : TaskId) (loop : Loop S) : Option (Outcome Answer) :=
  match loop.status? task with
  | some (.ended outcome) => some outcome
  | _ => none

/-- A new status. -/
def setStatus (task : TaskId) (status : Status S.Reply) (loop : Loop S) : Loop S :=
  loop.modifyTask task fun task => { task with status }

/-- One more job, at the end. -/
def push (job : Job) (loop : Loop S) : Loop S := { loop with ready := loop.ready ++ [job] }

/-! ## Tasks -/

/-- A new task with one frame; its place is the number of tasks there were. -/
def spawn (role : Role) (frame : Frame S.Point) (loop : Loop S) : Loop S :=
  let known := loop.tasks
  let loop : Loop S := { loop with tasks := known ++ [{ role, frames := [frame] }] }
  loop.push (.resume known.length)

/-- A task that waits gets its turn, for that reason. -/
def wake (task : TaskId) (wake : Wake S.Reply) (loop : Loop S) : Loop S :=
  match loop.status? task with
  | some (.waiting on) => (loop.setStatus task (.woken on wake)).push (.resume task)
  | _ => loop

/-- A hook of a task that has ended. -/
def trigger (task : TaskId) (outcome : Outcome Answer) (hook : Hook) (loop : Loop S) : Loop S :=
  match hook with
  | .resume waiter => loop.wake waiter (.ended outcome)
  | hook => loop.push (.hook hook task)

/-- A hook for the end of a task; if it has ended, the hook is ready. -/
def addHook (task : TaskId) (hook : Hook) (loop : Loop S) : Loop S :=
  match loop.outcome? task with
  | some outcome => loop.trigger task outcome hook
  | none => loop.modifyTask task fun task => { task with hooks := task.hooks ++ [hook] }

/-- A task ends. -/
def finish (task : TaskId) (outcome : Outcome Answer) (loop : Loop S) : Loop S :=
  let hooks := (loop.tasks[task]?).elim [] (·.hooks)
  let loop := loop.modifyTask task fun task =>
    { task with status := .ended outcome, hooks := [], frames := [] }
  hooks.foldl (fun loop hook => loop.trigger task outcome hook) loop

/-- A task is cancelled. -/
def cancel (task : TaskId) (loop : Loop S) : Loop S :=
  match loop.status? task with
  | some .fresh => loop.setStatus task .doomed
  | some (.waiting _) => loop.wake task .cancelled
  | some (.woken on _) => loop.setStatus task (.woken on .cancelled)
  | _ => loop

/-! ## Held requests -/

/-- A task that waits for a ticket, or whose ticket has been called. -/
structure Held where
  number : Nat
  what : String
  key : String
  task : TaskId
  isWaiting : Bool
  deriving Repr

/-- The ticket of a task. -/
def held? (task : TaskId) (status : Status S.Reply) : Option Held :=
  match status with
  | .waiting (.ticket number what key) => some ⟨number, what, key, task, true⟩
  | .woken (.ticket number what key) _ => some ⟨number, what, key, task, false⟩
  | _ => none

/-- All tickets, in the order in which they were given out. -/
def held (loop : Loop S) : List Held :=
  ordered (fun first second => first.number ≤ second.number)
    ((List.range loop.tasks.length).filterMap fun task => (loop.status? task).bind (held? task))

/-- Releases held requests at points that are wanted. -/
def release (wanted : S.Point → Bool) (reply : S.Reply) (loop : Loop S) : Loop S :=
  (loop.held.filter fun held =>
      held.isWaiting && ((loop.tasks[held.task]?).bind Task.point?).any wanted).foldl
    (fun loop held => loop.wake held.task (.reply reply)) loop

/-! ## Backlogs -/

/-- Puts an item into a cache's backlog, and wakes the worker if it waits for one. -/
def post (cache : CacheId) (item : Item) (loop : Loop S) : Loop S :=
  match (loop.caches[cache]?).bind (·.backlog) with
  | none => loop
  | some backlog =>
    let loop := loop.modifyCache cache fun cache =>
      { cache with backlog := some (backlog.put item) }
    match backlog.getter with
    | some worker => loop.wake worker .goOn
    | none => loop

/-- An item of a cache is done. -/
def itemDone (cache : CacheId) (loop : Loop S) : Loop S :=
  match (loop.caches[cache]?).bind (·.backlog) with
  | none => loop
  | some backlog =>
    let (joiners, backlog) := backlog.done
    let loop := loop.modifyCache cache fun cache => { cache with backlog := some backlog }
    joiners.foldl (fun loop joiner => loop.wake joiner .goOn) loop

/-- The node is to be looked at again, if the cache runs and is connected. -/
def refresh (cache : CacheId) (loop : Loop S) : Loop S :=
  if (loop.caches[cache]?).any Cache.isActive then loop.post cache .check else loop

/-- Somebody asks a cache to look at its node again. -/
def reset (cache : CacheId) (loop : Loop S) : Loop S := (loop.note (.reset cache)).refresh cache

/-- What the time and the next task are. -/
def moment (self : TaskId) (loop : Loop S) : Moment := ⟨loop.clock, loop.tasks.length, self⟩

end Loop

end WatchedNode
