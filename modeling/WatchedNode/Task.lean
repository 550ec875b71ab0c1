/-
**Tasks.**

A `Task` runs in turns, between which it waits. It is a stack of `Frame`s: the first frame is what
it is doing, the others wait for that one to end, each for the one before it. A frame is either a
call of the service or an operation of a cache, together with the place where that stands.

* `Await` is what a task waits for, and `Status` where it is between its start and its end;
* a `Hook` is what is still to be done when a task has ended;
* a `Job` is an entry of the list of what is ready to be done.
-/
import WatchedNode.Cache.Basic
import WatchedNode.Config.Settings

namespace WatchedNode

/-! ## Frames -/

/-- What a cache asks in the background. -/
inductive Query
  | look
  | fetch
  deriving Repr, DecidableEq

/-- Where the worker of a cache stands. -/
inductive WorkerStage
  | taking
  | resyncing
  deriving Repr, DecidableEq

/-- Where the start of a cache stands. -/
inductive StartStage
  | beginning
  | ensuring
  | reading
  deriving Repr, DecidableEq

/-- Where somebody stands who waits for a cache to come to rest. -/
inductive WaitStage
  | looking
  | joining
  | checking
  deriving Repr, DecidableEq

/-- Where a monitor's deed stands. -/
inductive DeedStage
  | beginning
  | under
  deriving Repr, DecidableEq

/-- What a cache is to be opened with. -/
structure Opening where
  /-- The name it gets. -/
  name : String
  path : Value
  source : Source
  /-- The settings file that is used if none is named. -/
  defaultFile : SettingsFile
  /-- What wins over the settings. -/
  arguments : Table Value
  /-- It gets a session of its own. -/
  hasOwnSession : Bool
  deriving Repr

/-- Where the opening of a cache stands. -/
inductive OpenStage
  | beginning
  | connecting (options : CacheOptions) (handle : Handle)
  | starting (cache : CacheId) (options : CacheOptions) (session : Option Handle)
  deriving Repr

/-- One activation within a task. -/
inductive Frame (Point : Type)
  /-- A call of the service. -/
  | service (point : Point)
  /-- The worker of a cache. -/
  | worker (cache : CacheId) (stage : WorkerStage)
  | start (cache : CacheId) (buildInitial : Bool) (stage : StartStage)
  | close (cache : CacheId) (isJoining : Bool)
  | rebuild (cache : CacheId) (isReading : Bool)
  | wait (cache : CacheId) (stage : WaitStage)
  /-- A cache is started on entering a block. -/
  | enter (cache : CacheId) (isStarting : Bool)
  /-- What a monitor left to be done. -/
  | deed (monitor : String) (deed : Deed) (stage : DeedStage)
  /-- A session is opened from settings. -/
  | openSession (source : Source) (defaultFile : SettingsFile) (handle : Option Handle)
  /-- A cache is opened from settings. -/
  | openCache (opening : Opening) (stage : OpenStage)

/-- What an activation does, wherever it stands. -/
inductive Activity
  | call
  | work (cache : CacheId)
  | start (cache : CacheId)
  | close (cache : CacheId)
  | rebuild (cache : CacheId)
  | wait (cache : CacheId)
  | enter (cache : CacheId)
  | deed (monitor : String)
  | opening
  deriving Repr, DecidableEq

/-- What a frame does. -/
def Frame.activity {Point : Type} : Frame Point → Activity
  | .service _ => .call
  | .worker cache _ => .work cache
  | .start cache _ _ => .start cache
  | .close cache _ => .close cache
  | .rebuild cache _ => .rebuild cache
  | .wait cache _ => .wait cache
  | .enter cache _ => .enter cache
  | .deed monitor _ _ => .deed monitor
  | .openSession .. | .openCache .. => .opening

/-! ## Tasks -/

/-- What a task waits for. -/
inductive Await
  /-- The release of a held request. -/
  | ticket (number : Nat) (what key : String)
  /-- An item for the worker. -/
  | item
  /-- The end of all work in a backlog. -/
  | drained
  /-- The end of so many other tasks. -/
  | count (left : Nat)
  /-- The end of another task. -/
  | task (task : TaskId)
  /-- A time; of two of the same time the smaller number is first. -/
  | due (time : Rat) (number : Nat)
  deriving Repr

/-- Where a task is. -/
inductive Status (Reply : Type)
  /-- It has not had a turn yet. -/
  | fresh
  /-- It was cancelled before its first turn. -/
  | doomed
  | waiting (on : Await)
  /-- What it waited for has come; its turn is to come. -/
  | woken (on : Await) (wake : Wake Reply)
  | running
  | ended (outcome : Outcome Answer)

/-- What is still to be done when a task has ended. -/
inductive Hook
  /-- A task that waits for it goes on. -/
  | resume (task : TaskId)
  /-- A request of a cache has been answered. -/
  | answered (cache : CacheId) (query : Query)
  /-- A monitor's deed is over. -/
  | deedDone (cache : CacheId)
  /-- A task that waits for several has one less to wait for. -/
  | count (task : TaskId)
  deriving Repr, DecidableEq

/-- On whose account a task runs. -/
inductive Role
  /-- Somebody outside waits for it. -/
  | caller
  /-- The service started it. -/
  | errand
  | worker (cache : CacheId)
  | request (cache : CacheId) (query : Query)
  | deed (cache : CacheId)
  deriving Repr, DecidableEq

/-- A task. -/
structure Task (S : Service) where
  role : Role
  frames : List (Frame S.Point)
  status : Status S.Reply := .fresh
  hooks : List Hook := []

/-- The point where a task's call of the service stands. -/
def Task.point? {S : Service} (task : Task S) : Option S.Point :=
  match task.frames with
  | .service point :: _ => some point
  | _ => none

/-- What is ready to be done. -/
inductive Job
  /-- A task has its turn. -/
  | resume (task : TaskId)
  /-- A hook of a task that has ended is done. -/
  | hook (hook : Hook) (task : TaskId)
  deriving Repr, DecidableEq

/-- How a frame goes on. -/
inductive Move (Point : Type)
  /-- As that frame, at once. -/
  | goOn (frame : Frame Point)
  /-- As that frame, when the other one has ended, which is called at once. -/
  | call (caller callee : Frame Point)
  /-- As that frame, when what it waits for has come about. -/
  | await (frame : Frame Point) (on : Await)
  /-- Not at all. -/
  | finish (outcome : Outcome Answer)

end WatchedNode
