/-
**The service of sessions with a store.**

Several sessions, one of them the current one, share a store. A task of a session stands at a point
of that session; `Sessions.turn` is one turn of it. Calls of the store are written down when they
are made, and every change of the store releases the watches that wait for it, even while the store
is down.
-/
import WatchedNode.Store.Session

namespace WatchedNode

/-- A store and the sessions with it. -/
structure Sessions where
  store : Store := {}
  sessions : List Session := []
  /-- The session that new caches use. -/
  current : Option Handle := none
  /-- Closing a connection takes a turn of its own. -/
  isSlow : Bool := false
  deriving Repr

/-- What can happen without a call. -/
inductive SessionEvent
  | connect (arguments : Table Value)
  | close
  | listen (name : String)
  | unlisten (name : String)
  /-- What becomes of the next calls of a kind. -/
  | plan (method : String) (plans : List Plan)
  /-- The store goes down or up; with `isDropping`, the watches that wait are dropped. -/
  | down (isDown isDropping : Bool)
  /-- A key is written by somebody else, maybe without a value. -/
  | write (key : String) (value : Option String)
  /-- A key is deleted by somebody else. -/
  | delete (key : String)
  deriving Repr, BEq

namespace Sessions

/-! ## Calls of the store -/

/-- A held watch that a change is for. -/
def isFor (change : Change) (point : At) : Bool :=
  match point.point with
  | .asked _ (.watch key index) _ =>
    key = change.key && index.all (· ≤ change.record.modified)
  | _ => false

/-- Any held watch. -/
def isWatch (point : At) : Bool :=
  match point.point with
  | .asked _ (.watch _ _) _ => true
  | _ => false

/-- The effects of a change of the store. -/
def tells (change : Change) : List SessionEffect :=
  [.release (isFor change) (.answer change.record)]

/-- What a turn changes: the store, the session, the effects, and how the task goes on. -/
abbrev StoreTurn := Store × SessionTurn

/-- The answer of the store, or the waiting for it, as a turn. -/
def await (moment : Moment) (handle : Handle) (errand : Errand) (call : StoreCall) (failures : Nat)
    (written : List SessionEffect) (result : Store × Store.Response × Option Change)
    (session : Session) : StoreTurn :=
  let (store, response, change) := result
  let effects := written ++ change.elim [] tells
  match response with
  | .held => (store, session, effects, .hold (.asked errand call failures) call.method call.key)
  | .answered result =>
    (store, Session.after effects
      (session.concludes handle moment.next moment.self errand call failures result))

/-- One turn of a task of a session. -/
def turn (moment : Moment) (handle : Handle) (isSlow : Bool) (point : Point) (wake : Wake Plan)
    (store : Store) (session : Session) : StoreTurn :=
  match point, wake with
  | point, .cancelled => (store, session.cancelled moment.self point)
  | .begin operation, _ => (store, session.begins isSlow operation)
  | .ensure above below, _ => (store, session.ensures above below)
  | .ask errand call failures, _ =>
    await moment handle errand call failures [.note (.store call)] (store.submit call) session
  | .asked errand call failures, .reply plan =>
    await moment handle errand call failures [] (store.follow plan call) session
  | .asked errand call failures, _ =>
    await moment handle errand call failures [] (store.follow .serve call) session
  | .probe, _ => (store, session.probes)
  | .probeWakes, _ => (store, session.probeReads)
  | .poll key watcher index, _ => (store, session.polls moment.self key watcher index)
  | .closing, _ => (store, session, [.note .closed], .finish (.returned .nothing))

/-- How a task goes on, at a point of its session. -/
def verdictAt (handle : Handle) : Verdict Point → Verdict At
  | .goOn point => .goOn ⟨some handle, point⟩
  | .hold point what key => .hold ⟨some handle, point⟩ what key
  | .sleep point delay => .sleep ⟨some handle, point⟩ delay
  | .finish outcome => .finish outcome

/-- The session of a handle. -/
def session? (handle : Option Handle) (state : Sessions) : Option Session :=
  handle.bind fun place => state.sessions[place]?

/-- The error of something that is asked for without a session. -/
def nobody (name : String) : Error := .noAttribute "NoneType" name

/-- What a task without a session asks for. -/
def wantedAt : Point → String
  | .begin operation => operation.name
  | _ => "client"

/-- One turn of a task. -/
def resume (moment : Moment) (point : At) (wake : Wake Plan) (state : Sessions) :
    Reaction Sessions SessionCall At Plan :=
  match point.handle, state.session? point.handle with
  | some handle, some session =>
    let (store, session, effects, verdict) :=
      turn moment handle state.isSlow point.point wake state.store session
    { state := { state with store, sessions := state.sessions.set handle session }
      effects, verdict := verdictAt handle verdict }
  | _, _ => { state, verdict := .finish (.failed (nobody (wantedAt point.point))) }

/-! ## Opening sessions -/

/-- A new session. -/
def connect (arguments : Table Value) (state : Sessions) :
    Except Error (Sessions × List SessionEffect × Handle) := do
  let options ← SessionOptions.ofArguments arguments
  return ({ state with sessions := state.sessions ++ [{ options }] },
    [.note (.connect options.others)], state.sessions.length)

/-- A change of one session, if there is one. -/
def modify (handle : Option Handle) (change : Session → Session) (state : Sessions) : Sessions :=
  match handle with
  | some handle => { state with sessions := state.sessions.modify handle change }
  | none => state

/-! ## Events -/

/-- A change of the store by somebody else; one that fails does nothing. -/
def changed (key : String) (result : Except Error (Store × Record)) (state : Sessions) :
    Occurrence Sessions SessionCall At Plan :=
  match result with
  | .ok (store, record) => { state := { state with store }, effects := tells ⟨key, record⟩ }
  | .error _ => { state }

/-- The current session changes; `name` is what is asked for. -/
def modifyCurrent (name : String) (change : Session → Session) (state : Sessions) :
    Except Error (Occurrence Sessions SessionCall At Plan) :=
  match state.current with
  | some _ => .ok { state := state.modify state.current change }
  | none => .error (nobody name)

/-- Something happens. -/
def occur (event : SessionEvent) (state : Sessions) :
    Except Error (Occurrence Sessions SessionCall At Plan) :=
  match event with
  | .connect arguments => do
    let (state, effects, handle) ← state.connect arguments
    return { state := { state with current := some handle }, effects }
  | .close =>
    match state.session? state.current with
    | none => .error (nobody "close")
    | some session =>
      let ((after, effects), wasOpen) := session.close
      .ok {
        state := state.modify state.current fun _ => after, effects
        remainder := if wasOpen && state.isSlow then some ⟨state.current, .closing⟩ else none }
  | .listen name => state.modifyCurrent "add_connection_listener" (·.listen (.named name))
  | .unlisten name => state.modifyCurrent "remove_connection_listener" (·.unlisten (.named name))
  | .plan method plans => .ok { state := { state with store := state.store.plan method plans } }
  | .down isDown isDropping =>
    .ok {
      state := { state with store := { state.store with isDown } }
      effects := if isDropping then
          [.release isWatch (.fail (Store.failure .connectionFailed "scripted" .null))]
        else [] }
  | .write key value => .ok (state.changed key (state.store.write key value {}))
  | .delete key => .ok (state.changed key (state.store.delete key {}))

/-- The operation that a request of a cache is. -/
def operationOf : Request → Operation
  | .ensure path parentsOnly => .ensure (.text path) parentsOnly
  | .look path watcher => .look (.text path) (some watcher)
  | .fetch path watcher decompress => .fetch (.text path) watcher decompress

/-- The service of sessions with a store. -/
def service : Service where
  State := Sessions
  Point := At
  Operation := Operation
  Event := SessionEvent
  Reply := Plan
  Call := SessionCall
  current := Sessions.current
  adopt handle state := { state with current := some handle }
  connect := connect
  opening handle := ⟨some handle, .begin .start⟩
  request handle request := ⟨handle, .begin (operationOf request)⟩
  operation handle operation := ⟨handle, .begin operation⟩
  resume := resume
  listen handle listener state := state.modify handle (·.listen listener)
  unlisten handle listener state := state.modify handle (·.unlisten listener)
  occur _ event state := occur event state
  eventOfAct _ := none
  mayCancel _ := true

end Sessions

end WatchedNode
