/-
**Effects of a service.**

What a service does to others is carried out in order, each effect at once:

* a cache that is told of its connection's state keeps in mind whether it can ask (`linkChanged`),
  and when it can again, it has to read its node anew;
* a cache whose watcher is fired looks at its node again;
* listeners and watchers that are known by name are written down; where one fails, nobody else is
  affected, and where a listener adds or removes others, those of the present round stay the same.
-/
import WatchedNode.Loop.Basic

namespace WatchedNode.Loop

variable {S : Service}

/-- A cache is told of the connection's state. -/
def linkChanged (cache : CacheId) (link : Link) (loop : Loop S) : Loop S :=
  match loop.caches[cache]? with
  | none => loop
  | some known =>
    let loop := (loop.note (.told cache link)).modifyCache cache fun cache =>
      { cache with connected := link.isUp }
    if link.isUp && !known.connected && known.isRunning then loop.post cache .resync else loop

/-- What somebody does who is known by name. -/
def habit (name : String) (loop : Loop S) : Habit := (Table.find? name loop.habits).getD {}

/-- The listeners of a session that a listener adds and removes when it is told something. -/
def changeListeners (handle : Handle) (habit : Habit) (loop : Loop S) : Loop S :=
  let added := habit.adds.foldl (fun state name => S.listen (some handle) (.named name) state)
    loop.service
  loop.setService
    (habit.removes.foldl (fun state name => S.unlisten (some handle) (.named name) state) added)

/-- A listener of a session is told of the connection's state. -/
def tell (handle : Handle) (listener : Subscriber) (link : Link) (loop : Loop S) : Loop S :=
  match listener with
  | .cache cache => loop.linkChanged cache link
  | .named name =>
    let habit := loop.habit name
    let loop := (loop.note (.listener name link)).changeListeners handle habit
    if habit.fails then
      loop.complain (.listenerFailed name (.foreign "RuntimeError" "listener"))
    else loop

/-- A watcher of a key is told of a change. -/
def fire (watcher : Subscriber) (key : String) (news : Option Record) (loop : Loop S) : Loop S :=
  match watcher with
  | .cache cache => (loop.note (.fired cache)).refresh cache
  | .named name =>
    let loop := loop.note (.watcher name news)
    if (loop.habit name).fails then
      loop.complain (.watcherFailed key (.foreign "RuntimeError" "watcher"))
    else loop

/-- A task that the service started itself is cancelled. -/
def cancelErrand (task : TaskId) (loop : Loop S) : Loop S :=
  if (loop.tasks[task]?).any (·.role = .errand) then loop.cancel task else loop

/-- One effect. -/
def effect (loop : Loop S) : Effect S.Call S.Point S.Reply → Loop S
  | .note call => loop.note (.call call)
  | .tell handle listener link => loop.tell handle listener link
  | .fire watcher key news => loop.fire watcher key news
  | .spawn point => loop.spawn .errand (.service point)
  | .cancel task => loop.cancelErrand task
  | .release wanted reply => loop.release wanted reply
  | .complain complaint => loop.complain complaint

/-- Several effects, in order. -/
def perform (effects : List (Effect S.Call S.Point S.Reply)) (loop : Loop S) : Loop S :=
  effects.foldl effect loop

/-- Something happens at the service; a call that somebody has to wait for may be left. -/
def happen (event : S.Event) (loop : Loop S) : Loop S × Except Error (Option S.Point) :=
  match S.occur (loop.moment loop.tasks.length) event loop.service with
  | .error error => (loop, .error error)
  | .ok occurrence =>
    ((loop.setService occurrence.state).perform occurrence.effects, .ok occurrence.remainder)

end WatchedNode.Loop
