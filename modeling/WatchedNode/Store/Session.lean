/-
**Sessions.**

A `Session` speaks to the store for caches and others.

* its `link` says what it knows of the connection; listeners are told of each change, and while the
  connection is down a probe tries it again and again (`Session.setLink`);
* every request is repeated while the store cannot be reached, a limited number of times; its
  outcome shows whether the connection works (`Session.retry`);
* a watch that was armed for a watcher goes on until it has something to tell, or the connection
  fails (`Session.watched`); a watcher waits at most once for the same key (`Session.arm`);
* directories that are known to exist are not asked for again.
-/
import WatchedNode.Store.Basic
import WatchedNode.Store.Key
import WatchedNode.Codec.Content
import WatchedNode.Config.Settings

namespace WatchedNode

/-! ## Sessions and what they do -/

/-- A watch that is armed. -/
structure Watch where
  key : String
  watcher : Subscriber
  task : TaskId
  deriving Repr, DecidableEq

/-- A session with the store. -/
structure Session where
  options : SessionOptions
  /-- It can make calls. -/
  isOpen : Bool := true
  /-- What it knows of the connection. -/
  link : Option Link := none
  listeners : List Subscriber := []
  /-- The watches, in the order in which they were armed. -/
  watches : List Watch := []
  /-- The directories that are known to exist. -/
  ensured : List String := []
  /-- The index of the last change it made, or saw at its start. -/
  lastIndex : Option Int := none
  probe : Option TaskId := none
  deriving Repr

/-- What can be asked of a session. -/
inductive Operation
  | start
  | stop
  | ensure (path : Value) (parentsOnly : Bool)
  | look (path : Value) (watcher : Option Subscriber)
  | fetch (path : Value) (watcher : Option Subscriber) (decompress : Value)
  | set (path : Value) (content : List UInt8) (previous : Option (List UInt8)) (index : Option Int)
      (create : Option Bool) (compress : Bool)
  | delete (path : Value) (previous : Option (List UInt8)) (index : Option Int)
  deriving Repr, BEq

/-- The name of an operation. -/
def Operation.name : Operation → String
  | .start => "start"
  | .stop => "stop"
  | .ensure .. => "ensure_path"
  | .look .. => "exists"
  | .fetch .. => "get_data"
  | .set .. => "set"
  | .delete .. => "delete"

/-- Why a session calls the store. -/
inductive Errand
  /-- It starts, and reads its root. -/
  | opening
  /-- It starts, and makes its root. -/
  | founding
  /-- A directory shall exist; the others are below it. -/
  | ensuring (path : String) (below : List String)
  | making (path : String) (below : List String)
  | looking (watcher : Option Subscriber)
  | fetching (path : Value) (watcher : Option Subscriber) (decompress : Value)
  | changing
  | probing
  | watching (watcher : Subscriber) (index : Option Int)
  deriving Repr, BEq

/-- Where a task of a session stands. -/
inductive Point
  | begin (operation : Operation)
  /-- Directories one below the other are to be ensured. -/
  | ensure (above : String) (below : List String)
  /-- A call is to be made; it has failed so often before. -/
  | ask (errand : Errand) (call : StoreCall) (failures : Nat)
  /-- A call waits for its answer. -/
  | asked (errand : Errand) (call : StoreCall) (failures : Nat)
  /-- The probe is to go on, if the connection is still down. -/
  | probe
  /-- The probe has slept. -/
  | probeWakes
  /-- A watch is to ask again. -/
  | poll (key : String) (watcher : Subscriber) (index : Option Int)
  /-- The session's connection is being closed. -/
  | closing
  deriving Repr, BEq

/-- What is written down of a session's calls. -/
inductive SessionCall
  | connect (arguments : Table Value)
  | store (call : StoreCall)
  | close
  | closed
  deriving Repr, BEq

/-- A point of one of several sessions; without a session nothing can be asked. -/
structure At where
  handle : Option Handle
  point : Point
  deriving Repr, BEq

/-- An effect of a session. -/
abbrev SessionEffect := Effect SessionCall At Plan

/-- A session after something it did, and the effects of that. -/
abbrev SessionEffects := Session × List SessionEffect

namespace Session

/-! ## The connection -/

/-- The connection is known to be down. -/
def isDown (session : Session) : Bool := session.link.any fun link => !link.isUp

/-- The connection has a new state: the listeners are told, and a probe is started if it is down and
there is none. -/
def setLink (handle : Handle) (next : TaskId) (link : Link) (session : Session) : SessionEffects :=
  if session.link = some link then (session, [])
  else
    let told : List SessionEffect :=
      session.listeners.map fun listener => .tell handle listener link
    if !link.isUp && session.probe.isNone then
      ({ session with link := some link, probe := some next },
        told ++ [.spawn ⟨some handle, .probe⟩])
    else ({ session with link := some link }, told)

/-- The store has answered. -/
def alive (handle : Handle) (next : TaskId) (session : Session) : SessionEffects :=
  match session.link with
  | none => session.setLink handle next .connected
  | some link => if link.isUp then (session, []) else session.setLink handle next .reconnected

/-- A call of the store could not be made. -/
def failed (handle : Handle) (next : TaskId) (session : Session) : SessionEffects :=
  if Link.isUpOrUnset session.link then session.setLink handle next .suspended else (session, [])

/-! ## Listeners -/

/-- Adds a listener, once. -/
def listen (listener : Subscriber) (session : Session) : Session :=
  if session.listeners.contains listener then session
  else { session with listeners := session.listeners ++ [listener] }

/-- Removes a listener. -/
def unlisten (listener : Subscriber) (session : Session) : Session :=
  { session with listeners := session.listeners.erase listener }

/-! ## Watches -/

/-- Arms a watch from an index on, unless the watcher waits for that key already. -/
def arm (handle : Handle) (next : TaskId) (key : String) (watcher : Option Subscriber)
    (index : Option Int) (session : Session) : SessionEffects :=
  match watcher with
  | none => (session, [])
  | some watcher =>
    if session.watches.any fun watch => watch.key = key && watch.watcher = watcher then
      (session, [])
    else
      ({ session with watches := session.watches ++ [⟨key, watcher, next⟩] },
        [.spawn ⟨some handle, .poll key watcher index⟩])

/-- A watch is over; only its own entry is taken out. -/
def disarm (key : String) (watcher : Subscriber) (task : TaskId) (session : Session) : Session :=
  { session with watches := session.watches.filter fun watch => watch ≠ ⟨key, watcher, task⟩ }

/-! ## Closing -/

/-- The probe and the watches are cancelled, and no call can be made any more. Tells whether there
was a connection to close. -/
def close (session : Session) : SessionEffects × Bool :=
  let tasks := session.probe.toList ++ session.watches.map (·.task)
  (({ session with probe := none, watches := [], isOpen := false },
    tasks.map .cancel ++ if session.isOpen then [.note .close] else []), session.isOpen)

end Session

/-! ## Turns -/

/-- How a session's task goes on, with the session and its effects. -/
abbrev SessionTurn := Session × List SessionEffect × Verdict Point

namespace Session

/-- The error of a call without a connection. -/
def detached : Error := .noAttribute "EtcClient" "client"

/-- A task ends. -/
def ends (outcome : Outcome Answer) (session : Session) : SessionTurn :=
  (session, [], .finish outcome)

/-- A task goes on at once. -/
def goesOn (point : Point) (session : Session) : SessionTurn := (session, [], .goOn point)

/-- More effects before those of a turn. -/
def after (effects : List SessionEffect) (turn : SessionTurn) : SessionTurn :=
  (turn.1, effects ++ turn.2.1, turn.2.2)

/-- A call is to be made, if there is a connection. -/
def request (errand : Errand) (call : StoreCall) (session : Session) : SessionTurn :=
  if session.isOpen then session.goesOn (.ask errand call 0)
  else session.ends (.failed detached)

/-! ### Operations -/

/-- The call that writes a content, and what it expects to find. -/
def writeCall (root : String) (path : Value) (content : List UInt8)
    (previous : Option (List UInt8)) (index : Option Int) (create : Option Bool) (compress : Bool) :
    Except Error StoreCall := do
  let key ← Key.ofValue root path
  let condition : Condition ←
    if create = some true then
      if previous.isSome || index.isSome then throw .badArgument
      else pure { isThere := some false }
    else do
      let value ← previous.mapM fun previous => Codec.Content.encode previous compress
      pure { isThere := if create = some false then some true else none, value, index }
  let value ← Codec.Content.encode content compress
  return .write key (some value) false condition

/-- The call that deletes a node, and what it expects to find. -/
def deleteCall (root : String) (path : Value) (previous : Option (List UInt8))
    (index : Option Int) : Except Error StoreCall := do
  let value ← previous.mapM fun previous => Codec.Content.encode previous false
  let key ← Key.ofValue root path
  return .delete key { value, index }

/-- A call that may not be possible. -/
def requestOf (errand : Errand) (call : Except Error StoreCall) (session : Session) : SessionTurn :=
  match call with
  | .ok call => session.request errand call
  | .error error => session.ends (.failed error)

/-- An operation begins. -/
def begins (isSlow : Bool) (operation : Operation) (session : Session) : SessionTurn :=
  let root := session.options.root
  match operation with
  | .start =>
    match session.lastIndex with
    | some _ => session.ends (.returned .nothing)
    | none => session.request .opening (.read root)
  | .stop =>
    let ((session, effects), wasOpen) := session.close
    (session, effects,
      if wasOpen && isSlow then .goOn .closing else .finish (.returned .nothing))
  | .ensure (.text path) parentsOnly =>
    let segments := Path.segments path
    session.goesOn (.ensure "" (if parentsOnly then segments.dropLast else segments))
  | .ensure path _ => session.ends (.failed (.noAttribute path.typeWord "split"))
  | .look path watcher => session.requestOf (.looking watcher) ((Key.ofValue root path).map .read)
  | .fetch path watcher decompress =>
    session.requestOf (.fetching path watcher decompress) ((Key.ofValue root path).map .read)
  | .set path content previous index create compress =>
    session.requestOf .changing (writeCall root path content previous index create compress)
  | .delete path previous index => session.requestOf .changing (deleteCall root path previous index)

/-- The next directory that is not known to exist is asked for. -/
def ensures (above : String) : List String → Session → SessionTurn
  | [], session => session.ends (.returned .nothing)
  | segment :: below, session =>
    let path := above ++ "/" ++ segment
    if session.ensured.contains path then ensures path below session
    else
      match Key.below session.options.root path with
      | .ok key => session.request (.ensuring path below) (.read key)
      | .error error => session.ends (.failed error)

/-- A directory is known to exist. -/
def remember (path : String) (session : Session) : Session :=
  if session.ensured.contains path then session
  else { session with ensured := session.ensured ++ [path] }

/-! ### Answers -/

/-- The store has answered a request. -/
def answered (handle : Handle) (next : TaskId) (errand : Errand) (key : String) (record : Record)
    (session : Session) : SessionTurn :=
  match errand with
  | .opening | .founding =>
    { session with lastIndex := some record.index }.ends (.returned .nothing)
  | .ensuring path below | .making path below =>
    (session.remember path).goesOn (.ensure path below)
  | .looking watcher =>
    let (session, effects) := session.arm handle next key watcher (some (record.index + 1))
    (session, effects, .finish (.returned (.stat (some ⟨record.created, record.modified⟩))))
  | .fetching _ watcher decompress =>
    let (session, effects) := session.arm handle next key watcher (some (record.index + 1))
    (session, effects,
      .finish (match Codec.Content.decode record.value decompress.truth with
        | .ok data => .returned (.content (some data) (some ⟨record.created, record.modified⟩))
        | .error error => .failed error))
  | .changing =>
    { session with lastIndex := some record.modified }.ends (.returned (.record record))
  | .probing | .watching .. => session.ends (.returned .nothing)

/-- The key of a request is not there. -/
def notFound (handle : Handle) (next : TaskId) (errand : Errand) (key : String) (error : Error)
    (payload : Value) (session : Session) : SessionTurn :=
  match errand with
  | .opening => session.request .founding (.write key none true {})
  | .ensuring path below =>
    session.request (.making path below) (.write key none true { isThere := some false })
  | .looking watcher =>
    match Key.nextIndex payload with
    | .error error => session.ends (.failed error)
    | .ok index =>
      let (session, effects) := session.arm handle next key watcher index
      (session, effects, .finish (.returned (.stat none)))
  | .fetching (.text path) _ _ => session.ends (.failed (.noNode path))
  | _ => session.ends (.failed error)

/-- A request has failed in another way. -/
def refused (errand : Errand) (error : Error) (session : Session) : SessionTurn :=
  match errand, error with
  | .making path below, .store .alreadyExist _ _ =>
    (session.remember path).goesOn (.ensure path below)
  | _, _ => session.ends (.failed error)

/-- The limit for repeating a request is reached, if it can be told. -/
def isLast (failures : Nat) (session : Session) : Except Error Bool :=
  match session.options.retries.number? with
  | some limit => .ok (limit ≤ failures)
  | none =>
    .error (.wrongType ("\x27>=\x27 not supported between instances of \x27int\x27 and \x27"
      ++ session.options.retries.typeWord ++ "\x27"))

/-- A request that may be repeated has come to a result. -/
def retry (handle : Handle) (next : TaskId) (errand : Errand) (call : StoreCall) (failures : Nat)
    (result : Except Error Record) (session : Session) : SessionTurn :=
  match result with
  | .ok record =>
    let (session, effects) := session.alive handle next
    after effects (session.answered handle next errand call.key record)
  | .error error =>
    match error with
    | .store .keyNotFound _ payload =>
      let (session, effects) := session.alive handle next
      after effects (session.notFound handle next errand call.key error payload)
    | .store fault _ _ =>
      if fault.isConnection then
        match session.isLast failures with
        | .error error => session.ends (.failed error)
        | .ok true =>
          let (session, effects) := session.setLink handle next .lost
          (session, effects, .finish (.failed (.unavailable session.options.host)))
        | .ok false =>
          let (session, effects) := session.failed handle next
          (session, effects, .goOn (.ask errand call (failures + 1)))
      else session.refused errand error
    | _ => session.refused errand error

/-! ### Probes -/

/-- The probe ends. -/
def probeEnds (outcome : Outcome Answer) (session : Session) : SessionTurn :=
  { session with probe := none }.ends outcome

/-- The probe goes on while the connection is down. -/
def probes (session : Session) : SessionTurn :=
  if session.isDown then
    match session.options.delay.number? with
    | some delay => (session, [], .sleep .probeWakes delay)
    | none =>
      session.probeEnds (.failed (.wrongType
        ("\x27<=\x27 not supported between instances of \x27" ++ session.options.delay.typeWord
          ++ "\x27 and \x27int\x27")))
  else session.probeEnds (.returned .nothing)

/-- The probe has slept, and reads the root. -/
def probeReads (session : Session) : SessionTurn :=
  if session.isOpen then
    let root := session.options.root
    session.goesOn (.ask .probing (.read (if root = "" then "/" else root)) 0)
  else session.probeEnds (.failed detached)

/-- The probe's read has come to a result. -/
def probed (handle : Handle) (next : TaskId) (result : Except Error Record) (session : Session) :
    SessionTurn :=
  match result with
  | .ok _ | .error (.store .keyNotFound _ _) =>
    let (session, effects) := session.alive handle next
    (session, effects, .goOn .probe)
  | .error (.store fault message payload) =>
    if fault.isConnection then session.goesOn .probe
    else (session, [.complain (.probeFailed (.store fault message payload))], .goOn .probe)
  | .error error => session.probeEnds (.failed error)

/-! ### Watches -/

/-- A watch asks the store. -/
def polls (self : TaskId) (key : String) (watcher : Subscriber) (index : Option Int)
    (session : Session) : SessionTurn :=
  if session.isOpen then session.goesOn (.ask (.watching watcher index) (.watch key index) 0)
  else (session.disarm key watcher self).ends (.failed detached)

/-- A watch has come to a result. -/
def watched (handle : Handle) (next self : TaskId) (key : String) (watcher : Subscriber)
    (index : Option Int) (result : Except Error Record) (session : Session) : SessionTurn :=
  let tells (news : Option Record) (complaints : List SessionEffect) : SessionTurn :=
    (session.disarm key watcher self, complaints ++ [.fire watcher key news],
      .finish (.returned .nothing))
  match result with
  | .ok record => tells (some record) []
  | .error (.store fault message payload) =>
    match fault with
    | .watchTimedOut => session.goesOn (.poll key watcher index)
    | .eventIndexCleared => tells none []
    | .connectionFailed =>
      let (session, effects) := session.setLink handle next .suspended
      (session.disarm key watcher self, effects, .finish (.returned .nothing))
    | fault => tells none [.complain (.watchFailed key (.store fault message payload))]
  | .error error => (session.disarm key watcher self).ends (.failed error)

/-! ### All tasks -/

/-- A call has come to a result. -/
def concludes (handle : Handle) (next self : TaskId) (errand : Errand) (call : StoreCall)
    (failures : Nat) (result : Except Error Record) (session : Session) : SessionTurn :=
  match errand with
  | .probing => session.probed handle next result
  | .watching watcher index => session.watched handle next self call.key watcher index result
  | errand => session.retry handle next errand call failures result

/-- A task is cancelled. -/
def cancelled (self : TaskId) (point : Point) (session : Session) : SessionTurn :=
  match point with
  | .probe | .probeWakes | .ask .probing _ _ | .asked .probing _ _ => session.probeEnds .cancelled
  | .poll key watcher _ => (session.disarm key watcher self).ends .cancelled
  | .ask (.watching watcher _) call _ | .asked (.watching watcher _) call _ =>
    (session.disarm call.key watcher self).ends .cancelled
  | _ => session.ends .cancelled

end Session

end WatchedNode
