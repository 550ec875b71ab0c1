/-
**Services.**

A cache talks to a coordination service. A `Service` is given by what it does when it is called:

* a `Request` of a cache, and an operation that somebody else asks for, are calls; a call stands at
  a `Point` of the service's own, and goes on from there when it is woken (`Service.resume`);
* a `Reaction` to that changes the service's state, has effects outside, and says how the call goes
  on;
* `Service.occur` is what happens at the service without a call.

Effects name their targets: a service can tell listeners and fire watchers, but cannot look into a
cache. Theorems about caches hold for every `Service`.
-/
import WatchedNode.Request
import WatchedNode.Complaint
import WatchedNode.Act

namespace WatchedNode

/-! ## Reactions -/

/-- What a service does to others. -/
inductive Effect (Call Point Reply : Type)
  /-- A call is written down. -/
  | note (call : Call)
  /-- A listener of a session is told of the connection's new state. -/
  | tell (handle : Handle) (listener : Subscriber) (link : Link)
  /-- A watcher of a key is told of a change, or that it should look for itself. -/
  | fire (watcher : Subscriber) (key : String) (news : Option Record)
  /-- A task of the service's own is started. -/
  | spawn (point : Point)
  /-- A task of the service's own is cancelled. -/
  | cancel (task : TaskId)
  /-- Held requests at a point that is wanted are released, in the order in which they came. -/
  | release (wanted : Point → Bool) (reply : Reply)
  /-- A failure is written down. -/
  | complain (complaint : Complaint)

/-- How a call goes on. -/
inductive Verdict (Point : Type)
  /-- At once, from there. -/
  | goOn (point : Point)
  /-- From there, when the request is released. -/
  | hold (point : Point) (what key : String)
  /-- From there, when the time has passed. -/
  | sleep (point : Point) (delay : Rat)
  /-- Not at all. -/
  | finish (outcome : Outcome Answer)

/-- What a service does in one turn of a call. -/
structure Reaction (State Call Point Reply : Type) where
  state : State
  effects : List (Effect Call Point Reply) := []
  verdict : Verdict Point

/-- What a service does when something happens at it. -/
structure Occurrence (State Call Point Reply : Type) where
  state : State
  effects : List (Effect Call Point Reply) := []
  /-- A call that somebody still has to wait for. -/
  remainder : Option Point := none

/-- When and where a call goes on. -/
structure Moment where
  /-- The time. -/
  now : Rat
  /-- The place of the task that is started next. -/
  next : TaskId
  /-- The task that makes the call. -/
  self : TaskId
  deriving Repr

/-! ## Services -/

/-- A coordination service, by what it does. -/
structure Service where
  State : Type
  /-- Where a call stands. -/
  Point : Type
  /-- What can be asked for besides the requests of caches. -/
  Operation : Type
  /-- What can happen without a call. -/
  Event : Type
  /-- What a held request can be released with. -/
  Reply : Type
  /-- What is written down of a call. -/
  Call : Type
  /-- The session that new caches use, if there is one. -/
  current : State → Option Handle
  /-- Makes a session the one that new caches use. -/
  adopt : Handle → State → State
  /-- Opens a session. -/
  connect : Table Value → State →
    Except Error (State × List (Effect Call Point Reply) × Handle)
  /-- The point where a new session is started. -/
  opening : Handle → Point
  /-- The point where a request begins; without a session it comes to nothing. -/
  request : Option Handle → Request → Point
  /-- The point where an operation begins. -/
  operation : Option Handle → Operation → Point
  /-- One turn of a call. -/
  resume : Moment → Point → Wake Reply → State → Reaction State Call Point Reply
  /-- Adds a connection listener. -/
  listen : Option Handle → Subscriber → State → State
  /-- Removes a connection listener. -/
  unlisten : Option Handle → Subscriber → State → State
  /-- Something happens. -/
  occur : Moment → Event → State → Except Error (Occurrence State Call Point Reply)
  /-- The event that a monitor's act is, if it is one at the service. -/
  eventOfAct : Act → Option Event
  /-- A request held at this point can be cancelled. -/
  mayCancel : Point → Bool

end WatchedNode
