/-
**A service that reads late.**

A coordination service in memory that holds every request. It reads the node, arms the watcher and
answers all in one moment, when it lets the request go; it can also refuse the request then. Each
change of a node takes out the watches of its path and fires them.
-/
import WatchedNode.Service

namespace WatchedNode.Late

/-- The nodes, the watches with their paths, and those who listen to the connection. -/
structure State where
  nodes : String → Option Content := fun _ => none
  watches : List (String × Subscriber) := []
  listeners : List Subscriber := []

/-- How a request is let go. -/
inductive Reply
  | answered
  | refused

/-- What can happen at the service. -/
inductive Event
  | set (path : String) (content : Option Content)
  | link (link : Link)

/-- The path of a request. -/
def pathOf : Request → String
  | .ensure path _ | .look path _ | .fetch path _ _ => path

/-- A watcher that is armed already is armed once. -/
def State.watch (path : String) (watcher : Subscriber) (state : State) : State :=
  if (path, watcher) ∈ state.watches then state
  else { state with watches := state.watches ++ [(path, watcher)] }

theorem State.watch_nodes (path : String) (watcher : Subscriber) (state : State) :
    (state.watch path watcher).nodes = state.nodes := by
  unfold watch
  split <;> rfl

theorem State.mem_watch {path : String} {watcher : Subscriber} {state : State}
    {watch : String × Subscriber} : watch ∈ (state.watch path watcher).watches ↔
      watch = (path, watcher) ∨ watch ∈ state.watches := by
  unfold State.watch
  split
  · next known => exact ⟨.inr, fun either => either.elim (fun same => same ▸ known) id⟩
  · simp [or_comm]

/-- What the service does in a turn of a call. -/
abbrev Answering := Reaction State Request Request Reply

/-- The answer to a request that is let go. -/
def answer (request : Request) (state : State) : Answering :=
  match request with
  | .ensure _ _ => { state, verdict := .finish (.returned .nothing) }
  | .look path watcher =>
    { state := state.watch path watcher
      verdict := .finish (.returned (.stat ((state.nodes path).map (·.stat)))) }
  | .fetch path watcher _ =>
    match state.nodes path with
    | none => { state, verdict := .finish (.failed (.noNode path)) }
    | some content =>
      { state := watcher.elim state fun watcher => state.watch path watcher
        verdict := .finish (.returned (.content (some content.data) (some content.stat))) }

/-- One turn of a call. -/
def resume (request : Request) (wake : Wake Reply) (state : State) : Answering :=
  match wake with
  | .goOn => { state, verdict := .hold request "request" (pathOf request) }
  | .reply .answered => answer request state
  | .reply .refused => { state, verdict := .finish (.failed (.unavailable "late")) }
  | .cancelled | .ended _ => { state, verdict := .finish .cancelled }

/-- Something happens at the service. -/
def occur (event : Event) (state : State) : Occurrence State Request Request Reply :=
  match event with
  | .set path content =>
    { state := { state with
        nodes := fun other => if other = path then content else state.nodes other
        watches := state.watches.filter (·.1 ≠ path) }
      effects := (state.watches.filter (·.1 = path)).map fun watch => .fire watch.2 path none }
  | .link link => { state, effects := state.listeners.map fun listener => .tell 0 listener link }

/-- The service. -/
def service : Service where
  State := State
  Point := Request
  Operation := Empty
  Event := Event
  Reply := Reply
  Call := Request
  current _ := none
  adopt _ := id
  connect _ _ := .error .badArgument
  opening _ := .ensure "/" false
  request _ := id
  operation _ := nofun
  resume _ := resume
  listen _ listener state := { state with listeners := state.listeners ++ [listener] }
  unlisten _ listener state := { state with listeners := state.listeners.filter (· ≠ listener) }
  occur _ event state := .ok (occur event state)
  eventOfAct
    | .setLink link => some (.link link)
    | _ => none
  mayCancel _ := true

end WatchedNode.Late
