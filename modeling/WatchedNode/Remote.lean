/-
**A service in memory.**

The simplest service: nodes, the directories that were asked for, and watchers that are told of the
next change of a path. It can be told to hold requests of some kinds, and to let requests fail.

* a request sees the node as it was when it was made, even if it is held;
* each change of a node fires the watchers of its path, once, in the order in which they were added;
* the first failure in line for a kind of request is used up by it.
-/
import WatchedNode.Service
import WatchedNode.Codec.Content

namespace WatchedNode.Remote

/-! ## State -/

/-- A node; content and stamps are independent of each other. -/
structure Node where
  data : Option (List UInt8)
  stat : Option Stat
  deriving Repr, DecidableEq

/-- The kinds of requests. -/
inductive Kind
  | ensure
  | look
  /-- A fetch with a watcher. -/
  | fetch
  /-- A fetch without a watcher. -/
  | read
  deriving Repr, DecidableEq

/-- The written form of a kind. -/
def Kind.toText : Kind → String
  | .ensure => "ensure_path"
  | .look => "exists"
  | .fetch => "get_data"
  | .read => "read"

/-- The kind of a request. -/
def kindOf : Request → Kind
  | .ensure .. => .ensure
  | .look .. => .look
  | .fetch _ (some _) _ => .fetch
  | .fetch _ none _ => .read

/-- The path of a request. -/
def pathOf : Request → String
  | .ensure path _ | .look path _ | .fetch path _ _ => path

/-- A failure that waits for a request. -/
structure Failure where
  /-- The kind of request that it strikes; nothing stands for all kinds. -/
  kind : Option String
  error : Error
  deriving Repr, BEq

/-- The state of the service. -/
structure State where
  /-- The number of changes. -/
  index : Int := 0
  nodes : Table Node := []
  dirs : List String := []
  watches : Table (List Subscriber) := []
  listeners : List Subscriber := []
  /-- The kinds of requests that are held. -/
  held : List String := []
  failures : List Failure := []
  deriving Repr

/-- Where a request stands. -/
inductive Point
  | asking (request : Request)
  | held (request : Request) (node : Option Node)
  deriving Repr

/-- What a held request is released with. -/
inductive Reply
  | ok
  | fail (error : Error)
  deriving Repr, BEq

/-- What can happen at the service. -/
inductive Event
  | set (path : String) (data : List UInt8)
  /-- A node is written with the content that it has. -/
  | touch (path : String)
  | delete (path : String)
  /-- A node gets these stamps and this content, and no new index. -/
  | raw (path : String) (node : Node)
  | fire (path : String)
  | hold (kinds : List String)
  | fail (failure : Failure) (times : Nat)
  | link (link : Link)
  deriving Repr

/-! ## Nodes and watches -/

/-- The node of a path. -/
def State.node? (path : String) (state : State) : Option Node := Table.find? path state.nodes

/-- The watchers of a path. -/
def State.watchers (path : String) (state : State) : List Subscriber :=
  (Table.find? path state.watches).getD []

/-- Adds a watcher; one that is there already stays in its place. -/
def State.watch (path : String) (watcher : Subscriber) (state : State) : State :=
  let known := state.watchers path
  if known.contains watcher then state
  else { state with watches := Table.put path (known ++ [watcher]) state.watches }

/-- What the service does to others. -/
abbrev Effects := List (Effect Request Point Reply)

/-- The watchers of a path are taken out and told. -/
def State.fire (path : String) (state : State) : State × Effects :=
  ({ state with watches := Table.erase path state.watches },
    (state.watchers path).map fun watcher => .fire watcher path none)

/-- A node is written: it keeps the index of its creation. -/
def State.write (path : String) (data : Option (List UInt8)) (state : State) : State × Effects :=
  let index := state.index + 1
  let created := (((state.node? path).bind (·.stat)).map (·.created)).getD index
  let nodes := Table.put path ⟨data, some ⟨created, index⟩⟩ state.nodes
  { state with index, nodes }.fire path

/-- Directories are added. -/
def State.makeDirs (paths : List String) (state : State) : State :=
  { state with dirs := state.dirs ++ paths.filter fun path => !state.dirs.contains path }

/-! ## Requests -/

/-- The answer to a request, with the node as it was when it was made. -/
def answer (request : Request) (node : Option Node) (state : State) : State × Outcome Answer :=
  match request with
  | .ensure path parentsOnly =>
    let paths := Path.ancestors path
    (state.makeDirs (if parentsOnly then paths.dropLast else paths), .returned .nothing)
  | .look path watcher => (state.watch path watcher, .returned (.stat (node.bind (·.stat))))
  | .fetch path watcher decompress =>
    match node with
    | none => (state, .failed (.noNode path))
    | some node =>
      let state := match watcher with
        | some watcher => state.watch path watcher
        | none => state
      if decompress.truth then
        match Codec.Content.unpack (node.data.getD []) with
        | .ok data => (state, .returned (.content (some data) node.stat))
        | .error error => (state, .failed error)
      else (state, .returned (.content node.data node.stat))

/-- The first failure for a kind of request, and those that are left. -/
def takeFailure (kind : String) : List Failure → Option (Error × List Failure)
  | [] => none
  | failure :: rest =>
    if failure.kind.all (· = kind) then some (failure.error, rest)
    else (takeFailure kind rest).map fun (error, left) => (error, failure :: left)

/-- A request that is not held, or not any more, fails or is answered. -/
def serve (request : Request) (node : Option Node) (state : State) : State × Outcome Answer :=
  match takeFailure (kindOf request).toText state.failures with
  | some (error, failures) => ({ state with failures }, .failed error)
  | none => answer request node state

/-- One turn of a request. -/
def resume (point : Point) (wake : Wake Reply) (state : State) :
    Reaction State Request Point Reply :=
  match point, wake with
  | _, .cancelled => { state, verdict := .finish .cancelled }
  | .asking request, _ =>
    let node := state.node? (pathOf request)
    let kind := (kindOf request).toText
    if state.held.contains kind then
      { state, effects := [.note request]
        verdict := .hold (.held request node) kind (pathOf request) }
    else
      let (state, outcome) := serve request node state
      { state, effects := [.note request], verdict := .finish outcome }
  | .held _ _, .reply (.fail error) => { state, verdict := .finish (.failed error) }
  | .held request node, _ =>
    let (state, outcome) := serve request node state
    { state, verdict := .finish outcome }

/-! ## Events -/

/-- Something happens at the service. -/
def occur (event : Event) (state : State) : Occurrence State Request Point Reply :=
  let of (result : State × Effects) : Occurrence State Request Point Reply :=
    { state := result.1, effects := result.2 }
  match event with
  | .set path data => of (state.write path (some data))
  | .touch path =>
    match state.node? path with
    | some node => of (state.write path node.data)
    | none => { state }
  | .delete path =>
    match state.node? path with
    | some _ =>
      of ({ state with index := state.index + 1, nodes := Table.erase path state.nodes }.fire path)
    | none => { state }
  | .raw path node => of ({ state with nodes := Table.put path node state.nodes }.fire path)
  | .fire path => of (state.fire path)
  | .hold kinds => { state := { state with held := kinds } }
  | .fail failure times =>
    { state := { state with failures := state.failures ++ List.replicate times failure } }
  | .link link => { state, effects := state.listeners.map fun listener => .tell 0 listener link }

/-- Requests with a watcher can be cancelled while they are held. -/
def mayCancel : Point → Bool
  | .asking request | .held request _ =>
    match kindOf request with
    | .look | .fetch => true
    | .ensure | .read => false

/-- The service in memory; all caches share one session. -/
def service : Service where
  State := State
  Point := Point
  Operation := Request
  Event := Event
  Reply := Reply
  Call := Request
  current _ := some 0
  adopt _ state := state
  connect _ state := .ok (state, [], 0)
  opening _ := .asking (.ensure "/" true)
  request _ request := .asking request
  operation _ request := .asking request
  resume _ point wake state := resume point wake state
  listen _ listener state := { state with listeners := state.listeners ++ [listener] }
  unlisten _ listener state := { state with listeners := state.listeners.erase listener }
  occur _ event state := .ok (occur event state)
  eventOfAct
    | .setNode path data => some (.set path data)
    | .setLink link => some (.link link)
    | _ => none
  mayCancel := mayCancel

end WatchedNode.Remote
