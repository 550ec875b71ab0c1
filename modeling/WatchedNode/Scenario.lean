/-
**Scenarios.**

A scenario is a sequence of `Command`s to a loop. A command has its effect at once, or starts a task
that goes on by itself; after it the loop usually settles.

* `perform`: what a command does, what it answers, and the task it starts;
* `Run.step`: a command within a scenario, with what has ended and what was written down since the
  last one;
* `Run.play`: a whole scenario.
-/
import WatchedNode.Loop.Step

namespace WatchedNode

/-! ## Commands -/

/-- Which registration is to be removed. -/
inductive Removal
  | id (id : Int)
  | token (token : String)
  | monitor (monitor : String)
  /-- Something that is registered nowhere. -/
  | nobody
  deriving Repr, DecidableEq

/-- How held requests are released. -/
inductive Release (Reply : Type)
  | reply (reply : Reply)
  | cancel

/-- What can be asked for in a scenario; caches, tokens and monitors go by name. -/
inductive Command (S : Service)
  | make (name : String) (path compressed : Value)
  | start (name : String) (buildInitial : Value)
  | close (name : String)
  | rebuild (name : String)
  | wait (name : String)
  | enter (name : String)
  | reset (name : String)
  | get (name : String)
  | addMonitor (name monitor token : String)
  | remove (name : String) (removal : Removal)
  | cancelToken (token : String)
  | callToken (token : String)
  | install (name : String) (path : Option String) (stat : Option Stat) (data : Option (List UInt8))
  | release (tickets : List Nat) (release : Release S.Reply)
  | settle
  | openSession (source : Source) (defaultFile : SettingsFile)
  | openCache (opening : Opening)
  | operate (operation : S.Operation)
  | occur (event : S.Event)
  | advance (span : Rat)

/-- What a command answers at once. -/
inductive Reply
  | nothing
  /-- What a cache has seen: whether there is a node, and its path. -/
  | view (isThere : Bool) (path : String)
  /-- The number of a registration, and whether its token was handed out before and kept. -/
  | token (id : Nat) (isKnown : Bool)
  | value (value : Value)
  | released (which : List Bool)
  deriving Repr, BEq

namespace Loop

variable {S : Service}

/-- What a command leads to: the state, an answer at once, and a task. -/
abbrev Effected (S : Service) := Loop S × Except Error Reply × Option TaskId

/-- Starts a task for a command. -/
def launch (frame : Frame S.Point) (loop : Loop S) : Effected S :=
  (loop.spawn .caller frame, .ok .nothing, some loop.tasks.length)

/-- Releases one held request, if it still waits and may be released in this way. -/
def releaseOne (release : Release S.Reply) (loop : Loop S) (ticket : Nat) : Loop S × Bool :=
  match loop.held.find? fun held => held.number = ticket && held.isWaiting with
  | none => (loop, false)
  | some held =>
    match release with
    | .reply reply => (loop.wake held.task (.reply reply), true)
    | .cancel =>
      let isAllowed := match (loop.tasks[held.task]?).bind Task.point? with
        | some point => S.mayCancel point
        | none => true
      if isAllowed then (loop.wake held.task .cancelled, true) else (loop, false)

/-- Releases held requests, in the order given. -/
def releaseAll (release : Release S.Reply) : List Nat → Loop S → Loop S × List Bool
  | [], loop => (loop, [])
  | ticket :: rest, loop =>
    let (loop, first) := loop.releaseOne release ticket
    let (loop, others) := releaseAll release rest loop
    (loop, first :: others)

/-- A command to a cache. -/
def withCache (name : String) (loop : Loop S) (action : CacheId → Effected S) : Effected S :=
  match Table.find? name loop.names with
  | some cache => action cache
  | none => (loop, .error (.noSetting name), none)

/-- Registers a monitor, and keeps its token under a name. -/
def keepMonitor (cache : CacheId) (monitor token : String) (loop : Loop S) : Effected S :=
  match loop.addMonitor cache monitor with
  | (loop, .error error) => (loop, .error error, none)
  | (loop, .ok registration) =>
    let given : Token := ⟨cache, registration.id, monitor⟩
    let isKnown := loop.tokens.any fun entry => entry.2 = given
    ({ loop with tokens := Table.put token given loop.tokens },
      .ok (.token registration.id isKnown), none)

/-- Calls the monitor of a token; a deed that it leaves becomes a task. -/
def callToken (token : String) (loop : Loop S) : Effected S :=
  match Table.find? token loop.tokens with
  | none => (loop, .error (.noSetting token), none)
  | some token =>
    match loop.callMonitor none token.monitor with
    | (loop, .error error) => (loop, .error error, none)
    | (loop, .ok (.plain value)) => (loop, .ok (.value value), none)
    | (loop, .ok (.later deed)) => loop.launch (.deed token.monitor deed .beginning)

/-- Removes a registration from a cache. -/
def removeFrom (cache : CacheId) (removal : Removal) (loop : Loop S) :
    Loop S × Except Error Reply :=
  match removal with
  | .id id => (loop.modifyCache cache (·.removeId id), .ok .nothing)
  | .monitor monitor => (loop.modifyCache cache (·.removeMonitor monitor), .ok .nothing)
  | .nobody => (loop, .ok .nothing)
  | .token token =>
    match Table.find? token loop.tokens with
    | some token => (loop.modifyCache cache (·.removeId token.id), .ok .nothing)
    | none => (loop, .error (.noSetting token))

/-- A view of the node that comes from outside. -/
def installFrom (cache : CacheId) (path : Option String) (stat : Option Stat)
    (data : Option (List UInt8)) (loop : Loop S) : Loop S × Except Error Reply :=
  match loop.caches[cache]? with
  | none => (loop, .error .badArgument)
  | some known =>
    match Snapshot.make (path.getD known.path) stat data with
    | .ok snapshot => (loop.install cache snapshot, .ok .nothing)
    | .error error => (loop, .error error)

/-- What a command does. -/
def command (command : Command S) (loop : Loop S) : Effected S :=
  match command with
  | .make name path compressed =>
    match loop.makeCache name (S.current loop.service) path compressed with
    | (loop, .error error) => (loop, .error error, none)
    | (loop, .ok cache) =>
      ({ loop with names := Table.put name cache loop.names }, .ok .nothing, none)
  | .start name buildInitial =>
    loop.withCache name fun cache => loop.launch (.start cache buildInitial.truth .beginning)
  | .close name => loop.withCache name fun cache => loop.launch (.close cache false)
  | .rebuild name => loop.withCache name fun cache => loop.launch (.rebuild cache false)
  | .wait name => loop.withCache name fun cache => loop.launch (.wait cache .looking)
  | .enter name => loop.withCache name fun cache => loop.launch (.enter cache false)
  | .reset name => loop.withCache name fun cache => (loop.reset cache, .ok .nothing, none)
  | .get name =>
    loop.withCache name fun cache =>
      let data := loop.seen cache
      (loop, .ok (.view data.exists? data.path), none)
  | .addMonitor name monitor token =>
    loop.withCache name fun cache => loop.keepMonitor cache monitor token
  | .remove name removal =>
    loop.withCache name fun cache =>
      let (loop, result) := loop.removeFrom cache removal
      (loop, result, none)
  | .cancelToken token =>
    let (loop, result) := loop.cancelToken token
    (loop, result.map fun _ => .nothing, none)
  | .callToken token => loop.callToken token
  | .install name path stat data =>
    loop.withCache name fun cache =>
      let (loop, result) := loop.installFrom cache path stat data
      (loop, result, none)
  | .release tickets release =>
    let (loop, which) := loop.releaseAll release tickets
    (loop, .ok (.released which), none)
  | .settle => (loop, .ok .nothing, none)
  | .openSession source defaultFile => loop.launch (.openSession source defaultFile none)
  | .openCache opening => loop.launch (.openCache opening .beginning)
  | .operate operation =>
    loop.launch (.service (S.operation (S.current loop.service) operation))
  | .occur event =>
    match loop.happen event with
    | (loop, .error error) => (loop, .error error, none)
    | (loop, .ok none) => (loop, .ok .nothing, none)
    | (loop, .ok (some point)) => loop.launch (.service point)
  | .advance span => (loop.advance span, .ok .nothing, none)

end Loop

/-! ## Runs -/

/-- A scenario under way. -/
structure Run (S : Service) where
  loop : Loop S
  /-- The number of commands so far. -/
  count : Nat := 0
  /-- The tasks of commands that have not ended, with the commands' numbers. -/
  unfinished : List (Nat × TaskId) := []

/-- What is to be told after a command. -/
structure Report (S : Service) where
  result : Except Error Reply
  /-- The commands whose tasks have ended, with the outcomes. -/
  ended : List (Nat × Outcome Answer)
  /-- What was written down, the earliest entry first. -/
  entries : List (Entry S.Call)
  /-- The scenario after the command. -/
  run : Run S

namespace Run

variable {S : Service}

/-- What was written down between two states, the earliest entry first. -/
def entriesSince (before after : Loop S) : List (Entry S.Call) :=
  (after.journal.take (after.journal.length - before.journal.length)).reverse

/-- One command; then the loop settles, unless it is told not to. -/
def step (command : Command S) (isSettling : Bool) (run : Run S) : Report S :=
  let (loop, result, task) := run.loop.command command
  let loop := if isSettling then loop.settle Loop.settling else loop
  let unfinished := run.unfinished ++ (task.map (run.count, ·)).toList
  { result
    ended := unfinished.filterMap fun entry => (loop.outcome? entry.2).map (entry.1, ·)
    entries := entriesSince run.loop loop
    run := {
      loop, count := run.count + 1
      unfinished := unfinished.filter fun entry => (loop.outcome? entry.2).isNone } }

/-- The last report. When a scenario is over, the jobs that are ready have one more round, and all
that has not ended is cancelled; what is written down then is told with the last command, if that
one has something to tell. -/
def last (report : Report S) : Report S :=
  if report.entries.any Entry.isShown then
    let loop := report.run.loop
    let final := (loop.round Loop.settling).abandon Loop.settling
    { report with entries := report.entries ++ entriesSince loop final }
  else report

/-- All commands of a scenario. -/
def play : List (Command S × Bool) → Run S → List (Report S)
  | [], _ => []
  | [(command, isSettling)], run => [last (run.step command isSettling)]
  | (command, isSettling) :: rest, run =>
    let report := run.step command isSettling
    report :: play rest report.run

end Run

end WatchedNode
