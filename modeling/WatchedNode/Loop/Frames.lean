/-
**Frames.**

What each kind of frame does in one turn, from the place where it stands and the reason for which it
goes on, and how it goes on after that.

* the worker deals with items one after the other; only reading the node anew makes it wait
  (`workerTurn`);
* a cache is started once; its worker is there before anything is asked, its listener after the
  directories are there (`startTurn`);
* closing lets the worker end after the items that are there already (`closeTurn`);
* a rebuild reads the node and calls no monitor (`rebuildTurn`);
* a cache is at rest when no request is pending and all items are done (`waitTurn`).
-/
import WatchedNode.Loop.Items

namespace WatchedNode.Loop

variable {S : Service}

/-- How a turn ends: the state, and how the frame goes on. -/
abbrev Turn (S : Service) := Loop S × Move S.Point

/-! ## Calls of the service -/

/-- One turn of a call. -/
def serviceTurn (self : TaskId) (point : S.Point) (wake : Wake S.Reply) (loop : Loop S) : Turn S :=
  let reaction := S.resume (loop.moment self) point wake loop.service
  let loop := (loop.setService reaction.state).perform reaction.effects
  match reaction.verdict with
  | .goOn point => (loop, .goOn (.service point))
  | .hold point what key =>
    let number := loop.tickets + 1
    ({ loop with tickets := number }, .await (.service point) (.ticket number what key))
  | .sleep point delay =>
    let number := loop.alarms + 1
    ({ loop with alarms := number }, .await (.service point) (.due (loop.clock + delay) number))
  | .finish outcome => (loop, .finish outcome)

/-- A frame asks the service something for a cache, and goes on with the answer. -/
def callService (self : TaskId) (cache : CacheId) (known : Cache) (request : Request)
    (caller : Frame S.Point) (loop : Loop S) : Turn S :=
  (loop.note (.asked cache self request), .call caller (requestFrame known request))

/-! ## The worker -/

/-- One item of the worker. -/
def work (self : TaskId) (cache : CacheId) (known : Cache) (item : Item) (loop : Loop S) :
    Turn S :=
  match item with
  | .stop => (loop.itemDone cache, .finish (.returned .nothing))
  | .check => ((loop.check cache).itemDone cache, .goOn (.worker cache .taking))
  | .looked outcome => ((loop.looked cache outcome).itemDone cache, .goOn (.worker cache .taking))
  | .fetched outcome => ((loop.fetched cache outcome).itemDone cache, .goOn (.worker cache .taking))
  | .resync => loop.callService self cache known (readRequest known) (.worker cache .resyncing)

/-- One turn of the worker. -/
def workerTurn (self : TaskId) (cache : CacheId) (known : Cache) (stage : WorkerStage)
    (wake : Wake S.Reply) (loop : Loop S) : Turn S :=
  match stage, wake with
  | .taking, .cancelled => (loop, .finish .cancelled)
  | .taking, _ =>
    match known.backlog.bind Backlog.take? with
    | none =>
      (loop.modifyCache cache fun cache =>
          { cache with backlog := cache.backlog.map (Backlog.await self) },
        .await (.worker cache .taking) .item)
    | some (item, rest) =>
      (loop.modifyCache cache fun cache =>
        { cache with backlog := some rest }).work self cache known item
  | .resyncing, .ended outcome =>
    let outcome := known.reading outcome
    let loop := (loop.resynced cache outcome).itemDone cache
    match outcome with
    | .cancelled => (loop, .finish .cancelled)
    | _ => (loop, .goOn (.worker cache .taking))
  | .resyncing, _ => (loop.itemDone cache, .finish .cancelled)

/-! ## Starting, rebuilding, closing -/

/-- The end of a read that somebody waits for: no monitor is called. -/
def rebuilt (cache : CacheId) (known : Cache) (outcome : Outcome Answer) (loop : Loop S) : Turn S :=
  match known.reading outcome with
  | .returned data =>
    let loop := if known.isRunning then loop.setData cache data true else loop
    (loop.refresh cache, .finish (.returned .nothing))
  | .failed error => (loop, .finish (.failed error))
  | .cancelled => (loop, .finish .cancelled)

/-- One turn of the start of a cache. -/
def startTurn (self : TaskId) (cache : CacheId) (known : Cache) (buildInitial : Bool)
    (stage : StartStage) (wake : Wake S.Reply) (loop : Loop S) : Turn S :=
  match stage, wake with
  | _, .cancelled => (loop, .finish .cancelled)
  | .beginning, _ =>
    if known.phase = .latent then
      let worker := loop.tasks.length
      let loop := (loop.modifyCache cache fun cache =>
        { cache with phase := .started, backlog := some {}, worker := some worker }).spawn
          (.worker cache) (.worker cache .taking)
      loop.callService self cache known (.ensure known.path true)
        (.start cache buildInitial .ensuring)
    else (loop, .finish (.failed .startedTwice))
  | .ensuring, .ended (.returned _) =>
    let loop := loop.setService (S.listen known.handle (.cache cache) loop.service)
    if buildInitial then
      loop.callService self cache known (readRequest known) (.start cache buildInitial .reading)
    else (loop.refresh cache, .finish (.returned .nothing))
  | .reading, .ended outcome => loop.rebuilt cache known outcome
  | _, .ended outcome => (loop, .finish outcome)
  | _, _ => (loop, .finish .cancelled)

/-- One turn of a rebuild. -/
def rebuildTurn (self : TaskId) (cache : CacheId) (known : Cache) (isReading : Bool)
    (wake : Wake S.Reply) (loop : Loop S) : Turn S :=
  match isReading, wake with
  | false, _ =>
    if known.isRunning then
      loop.callService self cache known (readRequest known) (.rebuild cache true)
    else (loop, .finish (.failed .notStarted))
  | true, .ended outcome => loop.rebuilt cache known outcome
  | true, _ => (loop, .finish .cancelled)

/-- A running cache stops: its monitors are forgotten, and its worker is to end. -/
def stopCache (cache : CacheId) (loop : Loop S) : Loop S :=
  if (loop.caches[cache]?).any Cache.isRunning then
    (loop.modifyCache cache fun cache =>
      { cache with phase := .closed, registrations := [] }).post cache .stop
  else loop

/-- The outcome of waiting for a task of which no answer is expected. -/
def joined : Outcome Answer → Outcome Answer
  | .returned _ => .returned .nothing
  | other => other

/-- One turn of closing a cache. -/
def closeTurn (self : TaskId) (cache : CacheId) (known : Cache) (isJoining : Bool)
    (wake : Wake S.Reply) (loop : Loop S) : Turn S :=
  match isJoining, wake with
  | false, _ =>
    let loop := loop.stopCache cache
    let loop := loop.setService (S.unlisten known.handle (.cache cache) loop.service)
    let loop := loop.modifyCache cache fun cache => { cache with worker := none }
    match known.worker with
    | none => (loop, .finish (.returned .nothing))
    | some worker =>
      match loop.outcome? worker with
      | some outcome => (loop, .finish (joined outcome))
      | none => (loop.addHook worker (.resume self), .await (.close cache true) (.task worker))
  | true, .ended outcome => (loop, .finish (joined outcome))
  | true, _ => (loop, .finish .cancelled)

/-- One turn of entering a block. -/
def enterTurn (cache : CacheId) (isStarting : Bool) (wake : Wake S.Reply) (loop : Loop S) :
    Turn S :=
  match isStarting, wake with
  | false, _ => (loop, .call (.enter cache true) (.start cache false .beginning))
  | true, .ended (.returned _) => (loop, .finish (.returned .entered))
  | true, .ended outcome => (loop, .finish outcome)
  | true, _ => (loop, .finish .cancelled)

/-! ## Coming to rest -/

/-- One turn of waiting for a cache to come to rest. -/
def waitTurn (self : TaskId) (cache : CacheId) (known : Cache) (stage : WaitStage)
    (wake : Wake S.Reply) (loop : Loop S) : Turn S :=
  match stage, wake with
  | _, .cancelled => (loop, .finish .cancelled)
  | .looking, _ =>
    if known.pending.isEmpty then (loop, .goOn (.wait cache .joining))
    else
      (known.pending.foldl (fun loop task => loop.addHook task (.count self)) loop,
        .await (.wait cache .joining) (.count known.pending.length))
  | .joining, _ =>
    if known.worker.isSome && known.backlog.any (0 < ·.unfinished) then
      (loop.modifyCache cache fun cache =>
          { cache with backlog := cache.backlog.map (Backlog.join self) },
        .await (.wait cache .checking) .drained)
    else (loop, .goOn (.wait cache .checking))
  | .checking, _ =>
    if known.pending.isEmpty then (loop, .finish (.returned .nothing))
    else (loop, .goOn (.wait cache .looking))

/-! ## Deeds -/

/-- A deed is done: it is written down, and fails if it is one that fails. -/
def deedEnds (monitor : String) (deed : Deed) (loop : Loop S) : Turn S :=
  let loop := match loop.cacheOf monitor with
    | .ok cache => loop.note (.deed monitor (loop.seen cache))
    | .error _ => loop
  (loop, .finish (if deed = .fail then .failed (.foreign "RuntimeError" "amon")
    else .returned .nothing))

/-- One turn of a monitor's deed. -/
def deedTurn (monitor : String) (deed : Deed) (stage : DeedStage) (wake : Wake S.Reply)
    (loop : Loop S) : Turn S :=
  match stage, wake with
  | .beginning, _ =>
    match deed, loop.cacheOf monitor with
    | .nothing, _ | .fail, _ => loop.deedEnds monitor deed
    | .cancel, _ => (loop, .finish .cancelled)
    | .hold, _ =>
      let number := loop.tickets + 1
      ({ loop with tickets := number },
        .await (.deed monitor deed .under) (.ticket number "mon" monitor))
    | .rebuild, .ok cache => (loop, .call (.deed monitor deed .under) (.rebuild cache false))
    | .close, .ok cache => (loop, .call (.deed monitor deed .under) (.close cache false))
    | _, .error error => (loop, .finish (.failed error))
  | .under, .cancelled => (loop, .finish .cancelled)
  | .under, .ended (.failed error) => (loop, .finish (.failed error))
  | .under, .ended .cancelled => (loop, .finish .cancelled)
  | .under, _ => loop.deedEnds monitor deed

/-! ## Opening -/

/-- A new cache; its number is used up even if its path is refused. -/
def makeCache (name : String) (handle : Option Handle) (path compressed : Value) (loop : Loop S) :
    Loop S × Except Error CacheId :=
  let serial := loop.serial + 1
  let loop := { loop with serial }
  match path.asPath with
  | .error error => (loop, .error error)
  | .ok path =>
    ({ loop with caches := loop.caches ++ [{ name, serial, handle, path, compressed }] },
      .ok loop.caches.length)

/-- Opens a session with the arguments in settings. -/
def connect (settings : Value) (loop : Loop S) : Loop S × Except Error Handle :=
  match SessionOptions.arguments settings with
  | .error error => (loop, .error error)
  | .ok arguments =>
    match S.connect arguments loop.service with
    | .error error => (loop, .error error)
    | .ok (state, effects, handle) => ((loop.setService state).perform effects, .ok handle)

/-- One turn of opening a session. -/
def openSessionTurn (source : Source) (defaultFile : SettingsFile) (handle : Option Handle)
    (wake : Wake S.Reply) (loop : Loop S) : Turn S :=
  match handle, wake with
  | none, _ =>
    match source.load defaultFile with
    | .error error => (loop, .finish (.failed error))
    | .ok settings =>
      match loop.connect settings with
      | (loop, .error error) => (loop, .finish (.failed error))
      | (loop, .ok handle) =>
        (loop, .call (.openSession source defaultFile (some handle)) (.service (S.opening handle)))
  | some handle, .ended (.returned _) =>
    (loop.setService (S.adopt handle loop.service), .finish (.returned .nothing))
  | some _, .ended outcome => (loop, .finish outcome)
  | some _, _ => (loop, .finish .cancelled)

/-- A cache is made and started. -/
def startNew (opening : Opening) (options : CacheOptions) (handle : Option Handle)
    (session : Option Handle) (loop : Loop S) : Turn S :=
  match loop.makeCache opening.name handle opening.path options.compressed with
  | (loop, .error error) => (loop, .finish (.failed error))
  | (loop, .ok cache) =>
    (loop, .call (.openCache opening (.starting cache options session))
      (.start cache options.buildInitial.truth .beginning))

/-- One turn of opening a cache. -/
def openCacheTurn (opening : Opening) (stage : OpenStage) (wake : Wake S.Reply) (loop : Loop S) :
    Turn S :=
  match stage, wake with
  | .beginning, _ =>
    match (do
      let settings ← opening.source.load opening.defaultFile
      return (settings, ← cacheOptions settings opening.arguments) :
        Except Error (Value × CacheOptions)) with
    | .error error => (loop, .finish (.failed error))
    | .ok (settings, options) =>
      if opening.hasOwnSession || (S.current loop.service).isNone then
        match loop.connect settings with
        | (loop, .error error) => (loop, .finish (.failed error))
        | (loop, .ok handle) =>
          (loop, .call (.openCache opening (.connecting options handle))
            (.service (S.opening handle)))
      else loop.startNew opening options (S.current loop.service) none
  | .connecting options handle, .ended (.returned _) =>
    loop.startNew opening options (some handle) (some handle)
  | .starting cache options session, .ended (.returned _) =>
    let loop := { loop with names := Table.put opening.name cache loop.names }
    let loop := match session with
      | some handle => loop.setService (S.adopt handle loop.service)
      | none => loop
    (loop, .finish (.returned (.opened cache options.compressed)))
  | _, .ended outcome => (loop, .finish outcome)
  | _, _ => (loop, .finish .cancelled)

/-! ## All frames -/

/-- One turn of a frame of a cache's own. -/
def cacheTurn (self : TaskId) (cache : CacheId) (known : Cache) (frame : Frame S.Point)
    (wake : Wake S.Reply) (loop : Loop S) : Turn S :=
  match frame with
  | .worker _ stage => loop.workerTurn self cache known stage wake
  | .start _ buildInitial stage => loop.startTurn self cache known buildInitial stage wake
  | .close _ isJoining => loop.closeTurn self cache known isJoining wake
  | .rebuild _ isReading => loop.rebuildTurn self cache known isReading wake
  | .wait _ stage => loop.waitTurn self cache known stage wake
  | .enter _ isStarting => loop.enterTurn cache isStarting wake
  | _ => (loop, .finish .cancelled)

/-- One turn of a frame. -/
def frameTurn (self : TaskId) (frame : Frame S.Point) (wake : Wake S.Reply) (loop : Loop S) :
    Turn S :=
  match frame with
  | .service point => loop.serviceTurn self point wake
  | .deed monitor deed stage => loop.deedTurn monitor deed stage wake
  | .openSession source defaultFile handle =>
    loop.openSessionTurn source defaultFile handle wake
  | .openCache opening stage => loop.openCacheTurn opening stage wake
  | .worker cache _ | .start cache _ _ | .close cache _ | .rebuild cache _ | .wait cache _
  | .enter cache _ =>
    match loop.caches[cache]? with
    | some known => loop.cacheTurn self cache known frame wake
    | none => (loop, .finish .cancelled)

end WatchedNode.Loop
