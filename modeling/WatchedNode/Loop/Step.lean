/-
**Steps of the loop.**

`step` is the smallest thing that happens: the task that has its turn goes on by one frame, or else
the first job that is ready is begun. Between two jobs no task has its turn (`isBetween`); when none
is ready either, the loop is at rest (`isIdle`).

* `settle` goes on until the loop is at rest; the time stands still;
* `round` begins only the jobs that are ready now, and `abandon` cancels what has not ended;
* `advance` lets time pass, and settles whenever a time has come that somebody waits for.
-/
import WatchedNode.Loop.Frames

namespace WatchedNode.Loop

variable {S : Service}

/-- No task has its turn. -/
def isBetween (loop : Loop S) : Bool := loop.turn.isNone

/-- Nothing is left to be done. -/
def isIdle (loop : Loop S) : Bool := loop.turn.isNone && loop.ready.isEmpty

/-! ## Turns -/

/-- The frames of a task. -/
def setFrames (task : TaskId) (frames : List (Frame S.Point)) (loop : Loop S) : Loop S :=
  loop.modifyTask task fun task => { task with frames }

/-- The turn goes to a task. -/
def give (task : TaskId) (wake : Wake S.Reply) (loop : Loop S) : Loop S :=
  { loop with turn := some (task, wake) }

/-- A task waits; for a time that has come already it only waits for its next turn. -/
def suspend (task : TaskId) (on : Await) (loop : Loop S) : Loop S :=
  match on with
  | .due time _ =>
    if time ≤ loop.clock then (loop.setStatus task (.woken on .goOn)).push (.resume task)
    else loop.setStatus task (.waiting on)
  | _ => loop.setStatus task (.waiting on)

/-- A frame has had its turn; `rest` are those that wait for it. -/
def move (task : TaskId) (rest : List (Frame S.Point)) (loop : Loop S) : Move S.Point → Loop S
  | .goOn frame => (loop.setFrames task (frame :: rest)).give task .goOn
  | .call caller callee => (loop.setFrames task (callee :: caller :: rest)).give task .goOn
  | .await frame on => (loop.setFrames task (frame :: rest)).suspend task on
  | .finish outcome =>
    match rest with
    | [] => loop.finish task outcome
    | _ :: _ => (loop.setFrames task rest).give task (.ended outcome)

/-- Writes down that an activation has ended. -/
def noteEnd (task : TaskId) (frame : Frame S.Point) (way : Move S.Point) (loop : Loop S) : Loop S :=
  match way with
  | .finish outcome => loop.note (.left task frame.activity outcome)
  | _ => loop

/-- The task that has its turn goes on. -/
def goOn (task : TaskId) (wake : Wake S.Reply) (loop : Loop S) : Loop S :=
  let loop := { loop with turn := none }
  match (loop.tasks[task]?).map (·.frames) with
  | some (frame :: rest) =>
    let (loop, way) := loop.frameTurn task frame wake
    (loop.noteEnd task frame way).move task rest way
  | _ => loop

/-! ## Jobs -/

/-- A task that waits for several others has one less to wait for. -/
def countDown (task : TaskId) (loop : Loop S) : Loop S :=
  match loop.status? task with
  | some (.waiting (.count left)) =>
    if left ≤ 1 then loop.wake task .goOn else loop.setStatus task (.waiting (.count (left - 1)))
  | _ => loop

/-- A hook of a task that has ended. -/
def runHook (hook : Hook) (task : TaskId) (outcome : Outcome Answer) (loop : Loop S) : Loop S :=
  match hook with
  | .resume waiter => loop.wake waiter (.ended outcome)
  | .answered cache query => loop.answered cache query task outcome
  | .deedDone cache => loop.deedDone cache task outcome
  | .count waiter => loop.countDown waiter

/-- A job is begun. -/
def start (job : Job) (loop : Loop S) : Loop S :=
  match job with
  | .resume task =>
    match loop.status? task with
    | some .fresh => (loop.setStatus task .running).give task .goOn
    | some (.woken _ wake) => (loop.setStatus task .running).give task wake
    | some .doomed => loop.finish task .cancelled
    | _ => loop
  | .hook hook task =>
    match loop.outcome? task with
    | some outcome => loop.runHook hook task outcome
    | none => loop

/-- The smallest thing that happens. -/
def step (loop : Loop S) : Loop S :=
  match loop.turn with
  | some (task, wake) => loop.goOn task wake
  | none =>
    match loop.ready with
    | [] => loop
    | job :: ready => { loop with ready }.start job

/-- Goes on until the loop is at rest; the fuel bounds the number of steps. -/
def settle : Nat → Loop S → Loop S
  | 0, loop => loop
  | fuel + 1, loop => if loop.isIdle then loop else settle fuel loop.step

/-- Goes on until no task has its turn; the fuel bounds the number of steps. -/
def endTurn : Nat → Loop S → Loop S
  | 0, loop => loop
  | fuel + 1, loop => if loop.isBetween then loop else endTurn fuel loop.step

/-- A number of jobs, each up to the end of its turn. -/
def jobs (fuel : Nat) : Nat → Loop S → Loop S
  | 0, loop => loop
  | count + 1, loop => jobs fuel count ((loop.endTurn fuel).step.endTurn fuel)

/-- The jobs that are ready now; those that they make ready have to wait. -/
def round (fuel : Nat) (loop : Loop S) : Loop S := loop.jobs fuel loop.ready.length

/-- All tasks are cancelled, and come to their ends. -/
def abandon (fuel : Nat) (loop : Loop S) : Loop S :=
  ((List.range loop.tasks.length).foldl (fun loop task => loop.cancel task) loop).settle fuel

/-! ## Time -/

/-- The times that tasks wait for, with their numbers, and the tasks. -/
def alarmed (loop : Loop S) : List (Rat × Nat × TaskId) :=
  (List.range loop.tasks.length).filterMap fun task =>
    match loop.status? task with
    | some (.waiting (.due time number)) => some (time, number, task)
    | _ => none

/-- The earliest of some times. -/
def earliest : List (Rat × Nat × TaskId) → Option Rat
  | [] => none
  | first :: rest =>
    match earliest rest with
    | none => some first.1
    | some time => some (if first.1 ≤ time then first.1 else time)

/-- Tasks whose time has come have their turns, the earlier ones first. -/
def ring (loop : Loop S) : Loop S :=
  (ordered (fun first second =>
      first.1 < second.1 || (first.1 = second.1 && first.2.1 ≤ second.2.1))
    (loop.alarmed.filter (·.1 ≤ loop.clock))).foldl
      (fun loop alarm => loop.wake alarm.2.2 .goOn) loop

/-- Lets the time come that is given; each count of `fuel` settles and goes on to one time. -/
def elapse (settling : Nat) (target : Rat) : Nat → Loop S → Loop S
  | 0, loop => loop
  | fuel + 1, loop =>
    let loop := loop.settle settling
    match earliest loop.alarmed with
    | some time =>
      if time ≤ target then elapse settling target fuel ({ loop with clock := time }.ring)
      else { loop with clock := target }
    | none => { loop with clock := target }

/-- More steps than a scenario takes between two of its own. -/
def settling : Nat := 1000000

/-- Lets time pass. -/
def advance (span : Rat) (loop : Loop S) : Loop S :=
  loop.elapse settling (loop.clock + span) settling

end WatchedNode.Loop
