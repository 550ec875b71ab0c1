/-
**Each cache that has begun has one worker.**

A cache has no worker and no queue before it is started, and the same worker and queue from then on
(`Reaches.isManned`). The worker takes items, or has a read made for it, or is over (`Manner`): what
is counted as unfinished are the items in the queue, and the one that it reads for. The end mark
comes last in the queue when the cache is closed, and never before (`Marks`), and once the worker
has taken it nothing is left. The only other thing that ends a worker is that its own read is
cancelled.
-/
import WatchedNode.Proofs.Loop.Queue
import WatchedNode.Proofs.Loop.Requests

namespace WatchedNode

open Relation

variable {S : Service}

/-- A worker that takes items waits for nothing else, and nobody has cancelled it. -/
def Status.isWork {Reply : Type} : Status Reply → Prop
  | .fresh | .running | .waiting .item => True
  | .woken _ why => why ≠ .cancelled
  | _ => False

theorem Status.Leads.isWork {Reply : Type} {status after : Status Reply}
    (leads : status.Leads after) (isWork : status.isWork) : after.isWork := by
  cases leads with
  | stays => exact isWork
  | @woken on still wake waits isPlain =>
    subst waits
    cases on with
    | item => exact (isPlain trivial).2
    | _ => exact isWork.elim
  | counted waits =>
    subst waits
    exact isWork.elim

theorem Status.cases_of_isWork {Reply : Type} {status : Status Reply} (isWork : status.isWork) :
    status.isDue = true ∨ status = .running ∨ status = .waiting .item := by
  unfold Status.isWork at isWork
  split at isWork
  · exact .inl rfl
  · exact .inr (.inl rfl)
  · exact .inr (.inr rfl)
  · exact .inl rfl
  · cases isWork

/-- Only a task that has ended is at that stage. -/
theorem Status.ended_of_stage {Reply : Type} {status : Status Reply} {outcome : Outcome Answer}
    (stage : status.stage = .ended outcome) : status = .ended outcome := by
  cases status with
  | ended outcome =>
    cases stage
    rfl
  | _ => cases stage

namespace Loop

variable {before after loop : Loop S} {cache : CacheId} {worker self : TaskId}

/-! ## No other workers -/

/-- The roles of all tasks. -/
def roles (loop : Loop S) : List Role := loop.tasks.map (·.role)

theorem modifyTask_roles (task : TaskId) {change : Task S → Task S}
    (same : ∀ known, (change known).role = known.role) (loop : Loop S) :
    (loop.modifyTask task change).roles = loop.roles := by
  refine List.ext_getElem? fun other => ?_
  simp only [roles, modifyTask, List.getElem?_map, List.getElem?_modify]
  by_cases here : task = other
  · subst here
    cases loop.tasks[task]? <;> simp [same]
  · simp [here]

theorem wake_roles (task : TaskId) (why : Wake S.Reply) (loop : Loop S) :
    (loop.wake task why).roles = loop.roles := by
  unfold wake
  split
  · next on _ => exact modifyTask_roles task (by intro; rfl) loop
  · rfl

theorem finish_roles (task : TaskId) (outcome : Outcome Answer) (loop : Loop S) :
    (loop.finish task outcome).roles = loop.roles := by
  refine (foldl_keeps roles _ (fun loop hook => ?_) _ _).trans
    (modifyTask_roles task (by intro; rfl) loop)
  cases hook with
  | resume waiter => exact wake_roles waiter _ loop
  | _ => rfl

theorem afterTurn_roles (task : TaskId) (frame : Frame S.Point) (rest : List (Frame S.Point))
    (turn : Turn S) :
    (afterTurn task frame rest turn).roles = turn.1.roles := by
  obtain ⟨loop, way⟩ := turn
  have noted : (loop.noteEnd task frame way).roles = loop.roles := by
    rw [roles, (noteEnd_tasks task frame way loop).1, roles]
  have set : ∀ frames, ((loop.noteEnd task frame way).setFrames task frames).roles = loop.roles :=
    fun frames =>
    (modifyTask_roles task (by intro; rfl) _).trans noted
  cases way with
  | goOn next => exact set (next :: rest)
  | call caller callee => exact set (callee :: caller :: rest)
  | await next on =>
    have state : ∀ (loop : Loop S) status, (loop.setStatus task status).roles = loop.roles :=
      fun loop status =>
      modifyTask_roles task (by intro; rfl) loop
    refine Eq.trans ?_ (set (next :: rest))
    show (Loop.suspend task on _).roles = _
    unfold suspend
    split
    · split
      · exact state _ _
      · exact state _ _
    · exact state _ _
  | finish outcome =>
    cases rest with
    | nil => exact (finish_roles task outcome _).trans noted
    | cons caller rest => exact set (caller :: rest)

/-- No worker of the cache comes in. -/
def Settled (cache : CacheId) (before after : Loop S) : Prop :=
  ∀ task : TaskId, after.roles[task]? = some (Role.worker cache) →
    before.roles[task]? = some (Role.worker cache)

theorem Settled.trans {first second third : Loop S} (left : Settled cache first second)
    (right : Settled cache second third) : Settled cache first third := fun task is =>
      left task (right task is)

theorem Settled.of_roles (roles : after.roles = before.roles) : Settled cache before after :=
  fun _ is => roles ▸ is

theorem Stays.settled (stays : Stays before after) : Settled cache before after := by
  intro task is
  rw [roles, List.getElem?_map, Option.map_eq_some_iff] at is
  obtain ⟨known, found, role⟩ := is
  rw [roles, List.getElem?_map]
  cases earlier : before.tasks[task]? with
  | none =>
    obtain ⟨-, -, -, isOther, -⟩ := stays.new task known earlier found
    exact absurd role (isOther cache)
  | some old =>
    obtain ⟨known', found', same, -⟩ := stays.old task old earlier
    cases found.symm.trans found'
    rw [← role, same]
    rfl

/-- No worker of a cache comes in with a turn, unless the cache begins to run. -/
theorem Plays.settled {frame : Frame S.Point} {wake : Wake S.Reply} {turn : Turn S}
    (plays : Plays self loop frame wake turn) (cache : CacheId) : Settled cache loop turn.1 ∨
      (∃ duty, loop.duty? cache = some duty ∧ duty.phase = .latent) ∧
        turn.1.duty? cache = some ⟨.started, some {}, some loop.tasks.length⟩ := by
  rcases plays.stays with stays | ⟨owner, known, found, isLatent, caches, tasks⟩
  · exact .inl stays.settled
  · by_cases here : cache = owner
    · subst here
      have was := duty?_of_found found
      refine .inr ⟨⟨_, was, isLatent⟩, ?_⟩
      rw [show turn.1.duty? cache = (loop.begin cache).duty? cache by
        rw [duty?, caches, duty?], begin_duty?,
        if_pos rfl, was]
      rfl
    · refine .inl fun task is => ?_
      rw [roles, tasks, List.map_append, List.getElem?_append] at is
      split at is
      · exact is
      · simp only [List.map_cons, List.map_nil, List.getElem?_singleton] at is
        split at is
        · cases is
          exact absurd rfl here
        · cases is

/-! ## The task that had its turn -/

/-- Where a task is after its turn. -/
theorem afterTurn_self {task : TaskId} {known : Task S} (frame : Frame S.Point)
    (rest : List (Frame S.Point)) {turn : Turn S} (found : turn.1.tasks[task]? = some known)
    (runs : known.status = .running) :
    ∃ known', (afterTurn task frame rest turn).tasks[task]? = some known' ∧
      known'.role = known.role ∧
      known'.frames = turn.2.frames rest ∧
        ((known'.status = .running ∧ turn.2.frames rest ≠ [] ∧
            ∃ wake, (afterTurn task frame rest turn).turn = some (task, wake)) ∨
          (∃ next on, turn.2 = .await next on ∧
            (known'.status = .waiting on ∨ known'.status = .woken on .goOn)) ∨
            ∃ outcome, turn.2 = .finish outcome ∧ rest = [] ∧ known'.status = .ended outcome) := by
  obtain ⟨loop, way⟩ := turn
  have noted : (loop.noteEnd task frame way).tasks[task]? = some known := by
    rw [(noteEnd_tasks task frame way loop).1]
    exact found
  have set : ∀ frames, ((loop.noteEnd task frame way).setFrames task frames).tasks[task]? =
      some { known with frames } := fun frames => by
    simp [setFrames, modifyTask, noted]
  cases way with
  | goOn next => exact ⟨_, set (next :: rest), rfl, rfl, .inl ⟨runs, by simp [Move.frames], _, rfl⟩⟩
  | call caller callee =>
    exact ⟨_, set (callee :: caller :: rest), rfl, rfl, .inl ⟨runs, by simp [Move.frames], _, rfl⟩⟩
  | await next on =>
    have state :
        ∀ status,
          (((loop.noteEnd task frame (.await next on)).setFrames task (next :: rest)).setStatus
        task status).tasks[task]? = some { known with frames := next :: rest, status } :=
      fun status => by
      simp only [setStatus, modifyTask, List.getElem?_modify_eq, set]
      rfl
    have waits :
        ∃ known',
          (((loop.noteEnd task frame (.await next on)).setFrames task (next :: rest)).suspend
        task on).tasks[task]? = some known' ∧ known'.role = known.role ∧
          known'.frames = next :: rest ∧
          (known'.status = .waiting on ∨ known'.status = .woken on .goOn) := by
      unfold suspend
      split
      · split
        · exact ⟨_, state _, rfl, rfl, .inr rfl⟩
        · exact ⟨_, state _, rfl, rfl, .inl rfl⟩
      · exact ⟨_, state _, rfl, rfl, .inl rfl⟩
    obtain ⟨known', found', role, frames, status⟩ := waits
    exact ⟨known', found', role, frames, .inr (.inl ⟨next, on, rfl, status⟩)⟩
  | finish outcome =>
    cases rest with
    | nil =>
      obtain ⟨known', found', role, frames⟩ :=
        (finish_ends task outcome (loop.noteEnd task frame _)).self known noted
      have ended := finish_outcome noted outcome
      obtain ⟨known'', found'', stage⟩ := outcome?_eq_some.mp ended
      cases found'.symm.trans found''
      refine ⟨known', found', role, frames, .inr (.inr ⟨outcome, rfl, rfl, ?_⟩)⟩
      exact Status.ended_of_stage stage
    | cons caller rest =>
      exact ⟨_, set (caller :: rest), rfl, rfl, .inl ⟨runs, by simp [Move.frames], _, rfl⟩⟩

/-- A task that goes on at once goes on for a plain reason. -/
theorem afterTurn_goesOn_plain {task : TaskId} {frame : Frame S.Point} {rest : List (Frame S.Point)}
    {turn : Turn S} (isBetween : turn.1.turn = none) {other : TaskId} {wake : Wake S.Reply}
    (given : (afterTurn task frame rest turn).turn = some (other, wake)) :
    other = task ∧ wake ≠ .cancelled := by
  obtain ⟨loop, way⟩ := turn
  have noted : (loop.noteEnd task frame way).turn = none := by
    unfold noteEnd
    split <;> exact isBetween
  cases way with
  | goOn next =>
    cases given
    exact ⟨rfl, by simp⟩
  | call caller callee =>
    cases given
    exact ⟨rfl, by simp⟩
  | await next on =>
    have isNone :
        (((loop.noteEnd task frame (.await next on)).setFrames task (next :: rest)).suspend
          task on).turn =
        none := by
      rw [(suspend_keeps _ task on).2.2.2]
      exact noted
    cases isNone.symm.trans given
  | finish outcome =>
    cases rest with
    | nil =>
      have isNone :
          ((loop.noteEnd task frame (.finish outcome)).finish task outcome).turn = none := by
        rw [(finish_keeps _ task outcome).2.2.2]
        exact noted
      cases isNone.symm.trans given
    | cons caller rest =>
      cases given
      exact ⟨rfl, by simp⟩

/-! ## Who runs -/

/-- A task that is running and is not through has its turn. -/
def RunningTurns (loop : Loop S) : Prop :=
  ∀ (task : TaskId) (known : Task S), loop.tasks[task]? = some known → known.status = .running →
    known.frames ≠ [] → ∃ wake, loop.turn = some (task, wake)

theorem RunningTurns.stays (runningTurns : before.RunningTurns) (stays : Stays before after)
    (turn : after.turn = before.turn) : after.RunningTurns := by
  intro task known found runs isBusy
  rw [turn]
  cases earlier : before.tasks[task]? with
  | none =>
    obtain ⟨-, -, stage, -⟩ := stays.new task known earlier found
    rw [runs] at stage
    cases stage
  | some old =>
    obtain ⟨known', found', -, frames, stage⟩ := stays.old task old earlier
    cases found.symm.trans found'
    rw [runs] at stage
    exact runningTurns task old earlier (Status.running_of_stage stage.symm) (frames ▸ isBusy)

/-- Where nobody has a turn, nobody runs but those who are through. -/
theorem RunningTurns.not_running (runningTurns : before.RunningTurns)
    (isBetween : before.turn = none) {task : TaskId} {known : Task S}
    (found : before.tasks[task]? = some known) (isBusy : known.frames ≠ []) :
    known.status ≠ .running := by
  intro runs
  obtain ⟨wake, given⟩ := runningTurns task known found runs isBusy
  cases isBetween.symm.trans given

/-- A task that runs after another one has got its frames has been running. -/
theorem Ends.running {self task : TaskId} {frames : List (Frame S.Point)}
    (ends : Ends self frames before after) (different : task ≠ self) {known : Task S}
    (found : after.tasks[task]? = some known) (runs : known.status = .running) :
    ∃ old, before.tasks[task]? = some old ∧ old.status = .running ∧ known.frames = old.frames := by
  cases earlier : before.tasks[task]? with
  | none =>
    obtain ⟨-, -, -, isNew⟩ := ends.new task known earlier found
    rw [runs] at isNew
    cases isNew
  | some old =>
    obtain ⟨known', found', -, frames, stage⟩ := ends.others task old different earlier
    cases found.symm.trans found'
    rw [runs] at stage
    exact ⟨old, rfl, Status.running_of_stage stage.symm, frames⟩

/-- After a turn only the task that had it may have a turn, and runs then. -/
theorem RunningTurns.turn {self : TaskId} {frame : Frame S.Point} {rest : List (Frame S.Point)}
    {wake : Wake S.Reply} {turn : Turn S} (runningTurns : before.RunningTurns)
    (turnRuns : before.TurnRuns) (isAt : before.IsAt self wake frame rest)
    (same : turn = before.inTurn.frameTurn self frame wake) :
    (afterTurn self frame rest turn).RunningTurns := by
  have runs := frameTurn_running isAt turnRuns
  rw [← same] at runs
  obtain ⟨own, isThere, status⟩ := Option.map_eq_some_iff.mp runs
  intro task known found isUp isBusy
  by_cases here : task = self
  · subst here
    obtain ⟨known', found', -, -, ⟨-, -, given⟩ | ⟨next, on, -, either⟩ | ⟨outcome, -, -, ended⟩⟩ :=
      afterTurn_self frame rest isThere status
    · exact given
    · cases found.symm.trans found'
      rcases either with waits | woken
      · cases isUp.symm.trans waits
      · cases isUp.symm.trans woken
    · cases found.symm.trans found'
      cases isUp.symm.trans ended
  · obtain ⟨middle, isMiddle, isUp, frames⟩ :=
      (afterTurn_ends frame rest isThere).running here found isUp
    have spares : Spares before.inTurn turn.1 :=
      same ▸ frameTurn_spares self frame wake before.inTurn
    cases earlier : before.tasks[task]? with
    | none =>
      obtain ⟨-, -, -, isNew⟩ := spares.new task middle earlier isMiddle
      rw [isUp] at isNew
      cases isNew
    | some old =>
      obtain ⟨middle', isMiddle', -, frames', stage⟩ := spares.old task old earlier
      cases isMiddle.symm.trans isMiddle'
      rw [isUp] at stage
      obtain ⟨why, given⟩ := runningTurns task old earlier (Status.running_of_stage stage.symm)
        (by rw [← frames', ← frames]; exact isBusy)
      cases isAt.turn.symm.trans given
      exact absurd rfl here

/-- A task that ends before its first turn does not run. -/
theorem RunningTurns.doom {self : TaskId} {ready : List Job} (runningTurns : before.RunningTurns)
    (isBetween : before.turn = none) (was : before.status? self = some .doomed) :
    (({ before with ready } : Loop S).finish self .cancelled).RunningTurns := by
  intro task known found isUp isBusy
  have ends := finish_ends self .cancelled ({ before with ready } : Loop S)
  by_cases here : task = self
  · subst here
    obtain ⟨old, earlier, -⟩ := Option.map_eq_some_iff.mp was
    obtain ⟨known', found', -, frames⟩ := ends.self old earlier
    cases found.symm.trans found'
    exact absurd frames isBusy
  · obtain ⟨old, earlier, runs, frames⟩ := ends.running here found isUp
    exact absurd runs (runningTurns.not_running isBetween earlier (frames ▸ isBusy))

theorem Passes.runningTurns (passes : Passes before after) (turnRuns : before.TurnRuns)
    (runningTurns : before.RunningTurns) : after.RunningTurns := by
  cases passes with
  | grains grains => exact runningTurns.stays (Grains.stays grains) (Grains.turn grains)
  | turn isAt same plays => exact runningTurns.turn turnRuns isAt same
  | @pause self wake given isOver =>
    intro task known found isUp isBusy
    obtain ⟨why, given'⟩ := runningTurns task known found isUp isBusy
    cases given.symm.trans given'
    obtain ⟨frame, rest, frames⟩ := List.exists_cons_of_ne_nil isBusy
    exact absurd (by rw [show before.tasks[self]? = some known from found, Option.map_some, frames])
      (isOver frame rest)
  | @run self status wake ready isBetween isFirst was either =>
    intro task known found isUp isBusy
    by_cases here : task = self
    · exact ⟨wake, by rw [here]; rfl⟩
    · have earlier : before.tasks[task]? = some known := by
        rw [← found]
        exact (List.getElem?_modify_ne _ _ (Ne.symm here)).symm
      exact absurd isUp (runningTurns.not_running isBetween earlier isBusy)
  | doom isBetween isFirst was => exact runningTurns.doom isBetween was
  | stale isBetween isFirst isOver => exact runningTurns.stays (.of_eq rfl) rfl
  | answer isBetween isFirst ended =>
    exact runningTurns.stays (.trans (.of_eq (by rfl)) (answered_stays _ _ _ _ _).1)
      (answered_stays _ _ _ _ _).2
  | @hook hook task ready after isBetween isFirst isPlain does =>
    have popped : ({ before with ready } : Loop S).RunningTurns :=
      runningTurns.stays (.of_eq rfl) rfl
    rcases does with grains | ⟨waiter, outcome, -, same⟩
    · exact popped.stays (Grains.stays grains) (Grains.turn grains)
    · subst same
      exact popped.stays (wake_stays _ _ _) (wake_keeps _ _ _).2.2.2

/-! ## Workers and their queues -/

/-- How the worker of a cache stands with its queue. -/
inductive Manner (cache : CacheId) (backlog : Backlog) (task : Task S) : Prop
  /-- It takes items. -/
  | takes (frames : task.frames = [.worker cache .taking]) (isWork : task.status.isWork)
      (count : backlog.unfinished = backlog.items.length)
  /-- It has its node read, and that item is not done. -/
  | reads (point : S.Point) (frames : task.frames = [.service point, .worker cache .resyncing])
      (isUp : task.status.stage = .running ∨ task.status.stage = .between)
      (count : backlog.unfinished = backlog.items.length + 1)
  /-- Its node has been read. -/
  | hasRead (frames : task.frames = [.worker cache .resyncing])
      (isUp : task.status.stage = .running ∨ task.status.stage = .between)
      (count : backlog.unfinished = backlog.items.length + 1)
  /-- It has ended: it was cancelled, or has taken the end mark. -/
  | finished {outcome : Outcome Answer} (ended : task.status = .ended outcome)
      (frames : task.frames = []) (either : outcome = .cancelled ∨ outcome = .returned .nothing)
      (count : backlog.unfinished = backlog.items.length)

/-- Where the end mark is: last in the queue of a cache that is closed, unless the worker has taken
it. -/
inductive Marks (items : List Item) (task : Task S) : Phase → Prop
  | started (isUnmarked : .stop ∉ items) (isUp : task.status ≠ .ended (.returned .nothing)) :
      Marks items task .started
  | closed {earlier : List Item} (same : items = earlier ++ [.stop]) (isUnmarked : .stop ∉ earlier)
      (isUp : task.status ≠ .ended (.returned .nothing)) : Marks items task .closed
  | done (isEmpty : items = []) (isOver : task.status = .ended (.returned .nothing)) :
      Marks items task .closed

/-- A cache has a queue and a worker, which is its only one. -/
structure Crew (cache : CacheId) (duty : Duty) (backlog : Backlog) (worker : TaskId) (task : Task S)
    (loop : Loop S) : Prop where
  is : loop.duty? cache = some duty
  has : duty.backlog = some backlog
  knows : duty.worker = some worker ∨ duty.worker = none ∧ duty.phase = .closed
  found : loop.tasks[worker]? = some task
  role : task.role = .worker cache
  only (other : TaskId) : loop.roles[other]? = some (Role.worker cache) → other = worker
  manner : Manner cache backlog task
  plain (wake : Wake S.Reply) : loop.turn = some (worker, wake) →
    task.frames = [.worker cache .taking] →
    wake ≠ .cancelled
  marks : Marks backlog.items task duty.phase
  idle : backlog.getter ≠ none → backlog.items = []
  free : backlog.unfinished = 0 → backlog.joiners = []

/-- A cache has a queue and one worker, or has not begun to run. -/
inductive IsManned (cache : CacheId) (loop : Loop S) : Prop
  | off (isNew : ∀ duty, loop.duty? cache = some duty → duty = ⟨.latent, none, none⟩)
      (nobody : ∀ task : TaskId, loop.roles[task]? ≠ some (Role.worker cache))
  | on {duty : Duty} {backlog : Backlog} {worker : TaskId} {task : Task S}
      (crew : Crew cache duty backlog worker task loop)

/-! ## Items that come and go -/

section Items

variable {backlog : Backlog} {task : Task S}

/-- What is put into the queue comes after what waits there for the worker. -/
theorem puts_idle {items : List Item} (idle : backlog.getter ≠ none → backlog.items = []) :
    (backlog.puts items).getter ≠ none → (backlog.puts items).items = [] := by
  rw [Backlog.puts_eq]
  show (if items = [] then backlog.getter else none) ≠ none → backlog.items ++ items = []
  split
  · next isNone =>
    rw [isNone, List.append_nil]
    exact idle
  · intro isSome
    exact absurd rfl isSome

/-- What comes last in the queue while the cache runs, or not at all, leaves the end mark where it
is. -/
theorem Marks.append {items more : List Item} {phase : Phase} (marks : Marks items task phase)
    (areNoMarks : .stop ∉ more) (runs : more = [] ∨ phase = .started) :
    Marks (items ++ more) task phase := by
  rcases runs with isNone | isStarted
  · rw [isNone, List.append_nil]
    exact marks
  · subst isStarted
    cases marks with
    | started isUnmarked isUp =>
      refine .started (fun member => ?_) isUp
      exact (List.mem_append.mp member).elim isUnmarked areNoMarks

/-- An item that is no end mark leaves the queue. -/
theorem Marks.tail {item : Item} {items : List Item} {phase : Phase}
    (marks : Marks (item :: items) task phase) (isPlain : item ≠ .stop) :
    Marks items task phase := by
  cases marks with
  | started isUnmarked isUp =>
    exact .started (fun member => isUnmarked (List.mem_cons_of_mem _ member)) isUp
  | @closed earlier same isUnmarked isUp =>
    cases earlier with
    | nil =>
      cases same
      exact absurd rfl isPlain
    | cons first earlier =>
      cases same
      exact .closed rfl (fun member => isUnmarked (List.mem_cons_of_mem _ member)) isUp
  | done isEmpty isOver => cases isEmpty

/-- The end mark leaves the queue: nothing is behind it, and the cache is closed. -/
theorem Marks.last {items : List Item} {phase : Phase} (marks : Marks (.stop :: items) task phase) :
    items = [] ∧ phase = .closed := by
  cases marks with
  | started isUnmarked isUp => exact absurd List.mem_cons_self isUnmarked
  | @closed earlier same isUnmarked isUp =>
    cases earlier with
    | nil =>
      cases same
      exact ⟨rfl, rfl⟩
    | cons first earlier =>
      cases same
      exact absurd List.mem_cons_self isUnmarked
  | done isEmpty isOver => cases isEmpty

theorem not_stop_of_asking {items : List Item} (areAsking : ∀ item ∈ items, item.isAsking) :
    .stop ∉ items :=
  fun member => areAsking _ member

/-- An item is done. -/
theorem done_eq (backlog : Backlog) : backlog.done.2.items = backlog.items ∧
    backlog.done.2.unfinished = backlog.unfinished - 1 ∧ backlog.done.2.getter = backlog.getter ∧
      (backlog.done.2.unfinished = 0 → backlog.done.2.joiners = []) := by
  unfold Backlog.done
  dsimp only
  split
  · exact ⟨rfl, rfl, rfl, fun _ => rfl⟩
  · next isMore => exact ⟨rfl, rfl, rfl, fun isNone => absurd isNone isMore⟩

end Items

/-! ## What others do to a worker -/

section Others

variable {duty duty' : Duty} {backlog backlog' : Backlog} {task task' : Task S}

theorem Marks.of_ended {items : List Item} {phase : Phase} (marks : Marks items task phase)
    (same : task'.status = .ended (.returned .nothing) ↔
      task.status = .ended (.returned .nothing)) :
    Marks items task' phase := by
  cases marks with
  | started isUnmarked isUp => exact .started isUnmarked fun ended => isUp (same.mp ended)
  | closed queued isUnmarked isUp =>
    exact .closed queued isUnmarked fun ended => isUp (same.mp ended)
  | done isEmpty isOver => exact .done isEmpty (same.mpr isOver)

theorem Marks.of_stage {items : List Item} {phase : Phase} (marks : Marks items task phase)
    (stage : task'.status.stage = task.status.stage) : Marks items task' phase := by
  refine marks.of_ended ⟨fun ended => ?_, fun ended => ?_⟩
  · exact Status.ended_of_stage (by rw [← stage, ended]; rfl)
  · exact Status.ended_of_stage (by rw [stage, ended]; rfl)

/-- A worker that is let work stands as it did with a queue of which as many items are not done. -/
theorem Manner.lets (manner : Manner cache backlog task) (frames : task'.frames = task.frames)
    (leads : task.status.Leads task'.status)
    (count :
      backlog'.unfinished + backlog.items.length = backlog.unfinished + backlog'.items.length) :
    Manner cache backlog' task' := by
  have stage := leads.stage
  cases manner with
  | takes was isWork count' => exact .takes (frames.trans was) (leads.isWork isWork) (by omega)
  | reads point was isUp count' => exact .reads point (frames.trans was) (stage ▸ isUp) (by omega)
  | hasRead was isUp count' => exact .hasRead (frames.trans was) (stage ▸ isUp) (by omega)
  | finished ended was either count' =>
    exact .finished (Status.ended_of_stage (by rw [stage, ended]; rfl)) (frames.trans was)
      either (by omega)

/-- What happens without the worker. -/
theorem Crew.lets (crew : Crew cache duty backlog worker task before)
    (lets : Lets worker before after) (settled : Settled cache before after)
    (is : after.duty? cache = some duty') (has : duty'.backlog = some backlog')
    (knows : duty'.worker = some worker ∨ duty'.worker = none ∧ duty'.phase = .closed)
    (turn : ∀ wake, after.turn = some (worker, wake) → before.turn = some (worker, wake))
    (count :
      backlog'.unfinished + backlog.items.length = backlog.unfinished + backlog'.items.length)
    (marks : Marks backlog'.items task duty'.phase)
    (idle : backlog'.getter ≠ none → backlog'.items = [])
    (free : backlog'.unfinished = 0 → backlog'.joiners = []) : IsManned cache after := by
  obtain ⟨task', found, role, frames, leads⟩ :=
    lets task crew.found (fun isErrand => by cases crew.role.symm.trans isErrand)
  exact .on {
    is, has, knows, found, idle, free
    role := role.trans crew.role
    only := fun other is => crew.only other (settled other is)
    manner := crew.manner.lets frames leads count
    plain := fun wake given isTaking => crew.plain wake (turn wake given) (frames ▸ isTaking)
    marks := marks.of_stage leads.stage }

/-- Items come last in the queue. -/
theorem Crew.feeds (crew : Crew cache duty backlog worker task before) {items : List Item}
    (feeds : Feeds cache items before after) (areNoMarks : .stop ∉ items)
    (lets : Lets worker before after) (settled : Settled cache before after)
    (turn : ∀ wake, after.turn = some (worker, wake) → before.turn = some (worker, wake)) :
    IsManned cache after := by
  have same := backlog.puts_eq items
  have runs := feeds.mayRun crew.is
  refine crew.lets lets settled (feeds.old duty crew.is)
    (show (duty.backlog.map _) = some (backlog.puts items) by
    rw [crew.has]; rfl) crew.knows turn ?_ ?_ ?_ ?_
  · simp only [same, List.length_append]
    omega
  · rw [same]
    exact crew.marks.append areNoMarks runs
  · exact puts_idle crew.idle
  · rw [same]
    show backlog.unfinished + items.length = 0 → backlog.joiners = []
    intro isNone
    exact crew.free (by omega)

/-- The phase of a cache that has a worker. -/
theorem Crew.hasBegun (crew : Crew cache duty backlog worker task loop) : duty.phase ≠ .latent := by
  intro isLatent
  have marks := crew.marks
  rw [isLatent] at marks
  cases marks

/-- The cache is closed. -/
theorem Crew.closes (crew : Crew cache duty backlog worker task before)
    (is : after.duty? cache = some duty.closed) (lets : Lets worker before after)
    (settled : Settled cache before after)
    (turn : ∀ wake, after.turn = some (worker, wake) → before.turn = some (worker, wake)) :
    IsManned cache after := by
  have marks := crew.marks
  unfold Duty.closed at is
  split at is
  · next isStarted =>
    rw [isStarted] at marks
    refine crew.lets lets settled is (show duty.backlog.map _ = some (backlog.put .stop) by
      rw [crew.has]; rfl)
      (.inr ⟨rfl, rfl⟩) turn ?_ ?_ ?_ ?_
    · simp only [Backlog.put, List.length_append, List.length_singleton]
      omega
    · cases marks with
      | started isUnmarked isUp => exact .closed rfl isUnmarked isUp
    · intro isSome
      exact absurd rfl isSome
    · intro isNone
      exact absurd isNone (Nat.succ_ne_zero _)
  · next isOther =>
    have isClosed : duty.phase = .closed := by
      cases same : duty.phase with
      | latent => exact absurd same crew.hasBegun
      | started => exact absurd same isOther
      | closed => rfl
    exact crew.lets lets settled is crew.has (.inr ⟨rfl, isClosed⟩) turn rfl marks
      crew.idle crew.free

/-- Somebody joins the queue. -/
theorem Crew.joins (crew : Crew cache duty backlog worker task before)
    (isBusy : 0 < backlog.unfinished)
    (is : after.duty? cache = some { duty with backlog := some (backlog.join self) })
    (lets : Lets worker before after) (settled : Settled cache before after)
    (turn : ∀ wake, after.turn = some (worker, wake) → before.turn = some (worker, wake)) :
    IsManned cache after :=
  crew.lets lets settled is rfl crew.knows turn rfl crew.marks crew.idle fun isNone =>
    absurd isNone (Nat.ne_of_gt isBusy)

end Others

/-! ## The worker's own turns -/

section Own

variable {duty : Duty} {backlog : Backlog} {task : Task S}

/-- A worker after its turn. -/
structure HasPlayed (cache : CacheId) (worker : TaskId) (task task' : Task S)
    (rest : List (Frame S.Point)) (loop : Loop S) (turn : Turn S) (after : Loop S) : Prop where
  settled : Settled cache loop after
  plain (wake : Wake S.Reply) : after.turn = some (worker, wake) → wake ≠ .cancelled
  duty : after.duty? cache = turn.1.duty? cache
  found : after.tasks[worker]? = some task'
  role : task'.role = task.role
  frames : task'.frames = turn.2.frames rest
  was : task.status = .running
  status : task'.status = .running ∧ turn.2.frames rest ≠ [] ∨
    (∃ next on, turn.2 = .await next on ∧
      (task'.status = .waiting on ∨ task'.status = .woken on .goOn)) ∨
      ∃ outcome, turn.2 = .finish outcome ∧ rest = [] ∧ task'.status = .ended outcome

theorem Crew.hasPlayed (crew : Crew cache duty backlog self task loop) {wake : Wake S.Reply}
    {frame : Frame S.Point} (rest : List (Frame S.Point)) {turn : Turn S}
    (runs : task.status = .running) (plays : Plays self loop frame wake turn)
    (isBetween : turn.1.turn = none) :
    ∃ task', HasPlayed cache self task task' rest loop turn (afterTurn self frame rest turn) := by
  obtain ⟨task₁, found₁, role₁, -, leads⟩ :=
    plays.lets task crew.found (fun isErrand => by cases crew.role.symm.trans isErrand)
  have runs₁ : task₁.status = .running := Status.running_of_stage (by rw [leads.stage, runs]; rfl)
  obtain ⟨task', found', role', frames', status'⟩ := afterTurn_self frame rest found₁ runs₁
  refine ⟨task', ?_, fun wake given => (afterTurn_goesOn_plain isBetween given).2,
    afterTurn_duty? self frame rest turn cache, found', role'.trans role₁, frames', runs,
    status'.imp_left fun goesOn => ⟨goesOn.1, goesOn.2.1⟩⟩
  refine Settled.trans ?_ (.of_roles (afterTurn_roles self frame rest turn))
  rcases plays.settled cache with settled | ⟨⟨duty', was, isLatent⟩, -⟩
  · exact settled
  · cases crew.is.symm.trans was
    exact absurd isLatent crew.hasBegun

section Played

variable {task' : Task S} {rest : List (Frame S.Point)} {turn : Turn S} {wake : Wake S.Reply}

theorem HasPlayed.isManned (played : HasPlayed cache self task task' rest loop turn after)
    (crew : Crew cache duty backlog self task loop) {duty' : Duty} {backlog' : Backlog}
    (is : turn.1.duty? cache = some duty') (has : duty'.backlog = some backlog')
    (knows : duty'.worker = duty.worker) (phase : duty'.phase = duty.phase)
    (manner : Manner cache backlog' task') (marks : Marks backlog'.items task' duty.phase)
    (idle : backlog'.getter ≠ none → backlog'.items = [])
    (free : backlog'.unfinished = 0 → backlog'.joiners = []) : IsManned cache after :=
  .on {
    is := played.duty.trans is
    has, manner, idle, free
    knows := by rw [knows, phase]; exact crew.knows
    found := played.found
    role := played.role.trans crew.role
    only := fun other is => crew.only other (played.settled other is)
    plain := fun wake given _ => played.plain wake given
    marks := by rw [phase]; exact marks }

/-- The worker goes on at once. -/
theorem HasPlayed.running (played : HasPlayed cache self task task' rest loop turn after)
    (isOn : ∀ next on, turn.2 ≠ .await next on) (isUp : ∀ outcome, turn.2 ≠ .finish outcome) :
    task'.status = .running := by
  rcases played.status with ⟨status, -⟩ | ⟨next, on, goesOn, -⟩ | ⟨outcome, goesOn, -⟩
  · exact status
  · exact absurd goesOn (isOn next on)
  · exact absurd goesOn (isUp outcome)

/-- The worker has ended. -/
theorem HasPlayed.ended (played : HasPlayed cache self task task' [] loop turn after)
    {outcome : Outcome Answer} (way : turn.2 = .finish outcome) : task'.status = .ended outcome ∧
      task'.frames = [] := by
  refine ⟨?_, by rw [played.frames, way]; rfl⟩
  rcases played.status with ⟨-, isSome⟩ | ⟨next, on, goesOn, -⟩ | ⟨outcome', goesOn, -, status⟩
  · exact absurd (by rw [way]; rfl) isSome
  · cases way.symm.trans goesOn
  · cases way.symm.trans goesOn
    exact status

/-- A worker that has not ended has left the end mark where it is. -/
theorem HasPlayed.marks (played : HasPlayed cache self task task' rest loop turn after)
    {items : List Item} {phase : Phase} (isUp : task'.status ≠ .ended (.returned .nothing))
    (marks : Marks items task phase) :
    Marks items task' phase :=
  marks.of_ended ⟨fun ended => absurd ended isUp, fun ended => by cases played.was.symm.trans ended⟩

/-- The worker waits for an item. -/
theorem HasPlayed.idles (played : HasPlayed cache self task task' [] loop turn after)
    (crew : Crew cache duty backlog self task loop)
    (count : backlog.unfinished = backlog.items.length)
    (isEmpty : duty.backlog.bind Backlog.take? = none)
    (is : turn.1.duty? cache = some { duty with backlog := duty.backlog.map (Backlog.await self) })
    (way : turn.2 = .await (.worker cache .taking) .item) : IsManned cache after := by
  have isEmpty : backlog.items = [] := by
    rw [crew.has, Option.bind_some] at isEmpty
    exact Backlog.items_of_take?_none isEmpty
  have works : task'.status.isWork ∧ task'.status ≠ .ended (.returned .nothing) := by
    rcases played.status with ⟨status, -⟩ | ⟨next, on, goesOn, status | status⟩
      | ⟨outcome, goesOn, -⟩
    · simp [status, Status.isWork]
    · cases way.symm.trans goesOn
      simp [status, Status.isWork]
    · simp [status, Status.isWork]
    · cases way.symm.trans goesOn
  refine played.isManned crew is (show duty.backlog.map _ = some (backlog.await self) by
    rw [crew.has]; rfl) rfl rfl
    (.takes ?_ works.1 count) (played.marks works.2 crew.marks) (fun _ => isEmpty) crew.free
  rw [played.frames, way]
  rfl

/-- The worker begins to read the node. -/
theorem HasPlayed.reads (played : HasPlayed cache self task task' [] loop turn after)
    (crew : Crew cache duty backlog self task loop)
    (count : backlog.unfinished = backlog.items.length) {queue : Backlog} {point : S.Point}
    (taken : backlog.take? = some (.resync, queue))
    (is : turn.1.duty? cache = some { duty with backlog := some queue })
    (way : turn.2 = .call (.worker cache .resyncing) (.service point)) : IsManned cache after := by
  have status := played.running (fun next on goesOn => by cases way.symm.trans goesOn)
    (fun outcome goesOn => by cases way.symm.trans goesOn)
  obtain ⟨items, unfinished⟩ := Backlog.take?_eq_some taken
  have marks := crew.marks
  rw [items] at marks
  refine played.isManned crew is rfl rfl rfl (.reads point ?_ (.inl (by rw [status]; rfl)) ?_)
    (played.marks (by rw [status]; simp) (marks.tail (by simp))) ?_ ?_
  · rw [played.frames, way]
    rfl
  · rw [unfinished, count, items]
    rfl
  · intro isSome
    rw [Backlog.eq_of_take? taken] at isSome
    cases items.symm.trans (crew.idle isSome)
  · rw [unfinished, Backlog.eq_of_take? taken]
    exact crew.free

/-- The worker deals with an item. -/
theorem HasPlayed.works (played : HasPlayed cache self task task' [] loop turn after)
    (crew : Crew cache duty backlog self task loop)
    (count : backlog.unfinished = backlog.items.length) {queue : Backlog} {item : Item}
    {items : List Item} (taken : backlog.take? = some (item, queue))
    (areAsking : ∀ item ∈ items, item.isAsking) (mayRun : items = [] ∨ duty.phase = .started)
    (is : turn.1.duty? cache = some { duty with backlog := some (queue.puts items).done.2 })
    (either : item = .stop ∧ turn.2 = .finish (.returned .nothing) ∨
      item ≠ .stop ∧ turn.2 = .goOn (.worker cache .taking)) : IsManned cache after := by
  obtain ⟨queued, unfinished⟩ := Backlog.take?_eq_some taken
  obtain ⟨items', unfinished', getter', free'⟩ := done_eq (queue.puts items)
  have same := Backlog.puts_eq items queue
  have marks := crew.marks
  rw [queued] at marks
  have idle : (queue.puts items).done.2.getter ≠ none → (queue.puts items).done.2.items = [] := by
    rw [getter', items']
    refine puts_idle fun isSome => ?_
    rw [Backlog.eq_of_take? taken] at isSome
    cases queued.symm.trans (crew.idle isSome)
  have count' : (queue.puts items).done.2.unfinished = (queue.puts items).done.2.items.length := by
    rw [unfinished', items', same]
    simp only [unfinished, count, queued, List.length_cons, List.length_append]
    omega
  rcases either with ⟨rfl, way⟩ | ⟨isOther, way⟩
  · obtain ⟨isLast, isClosed⟩ := marks.last
    obtain ⟨status, frames⟩ := played.ended way
    have isNone : items = [] := mayRun.resolve_right (by rw [isClosed]; simp)
    refine played.isManned crew is rfl rfl rfl (.finished status frames (.inr rfl) count')
      ?_ idle free'
    rw [items', same, isNone, isLast, isClosed]
    exact .done rfl status
  · have status := played.running (fun next on goesOn => by cases way.symm.trans goesOn)
      (fun outcome goesOn => by cases way.symm.trans goesOn)
    refine played.isManned crew is rfl rfl rfl (.takes ?_ (by rw [status]; trivial) count')
      (played.marks (by rw [status]; simp) ?_) idle free'
    · rw [played.frames, way]
      rfl
    · rw [items', same]
      exact (marks.tail isOther).append (not_stop_of_asking areAsking) mayRun

/-- The read that the worker has made goes on, or has ended. -/
theorem HasPlayed.awaits {point : S.Point}
    (played : HasPlayed cache self task task' [.worker cache .resyncing] loop turn after)
    (crew : Crew cache duty backlog self task loop)
    (count : backlog.unfinished = backlog.items.length + 1)
    (same : turn = loop.frameTurn self (.service point) wake) {items : List Item}
    (areAsking : ∀ item ∈ items, item.isAsking) (feeds : Feeds cache items loop turn.1) :
    IsManned cache after := by
  have queue := Backlog.puts_eq items backlog
  have runs := feeds.mayRun crew.is
  have count' : (backlog.puts items).unfinished = (backlog.puts items).items.length + 1 := by
    rw [queue]
    simp only [List.length_append]
    omega
  have stage : task'.status.stage = .running ∨ task'.status.stage = .between := by
    rcases played.status with ⟨status, -⟩ | ⟨next, on, -, status | status⟩ | ⟨outcome, -, isNone, -⟩
    · exact .inl (by rw [status]; rfl)
    · exact .inr (by rw [status]; rfl)
    · exact .inr (by rw [status]; rfl)
    · cases isNone
  refine played.isManned crew (feeds.old duty crew.is)
    (show duty.backlog.map _ = some (backlog.puts items) by
    rw [crew.has]; rfl) rfl rfl ?_ (played.marks ?_ ?_) (puts_idle crew.idle) ?_
  · rcases serviceTurn_next self point wake loop with ⟨outcome, -, finishes⟩ | ⟨next, -, goesOn⟩
    · refine .hasRead ?_ stage count'
      rw [played.frames, same,
        show (loop.frameTurn self (.service point) wake).2 = .finish outcome from finishes]
      rfl
    · refine .reads next ?_ stage count'
      rw [played.frames, same]
      exact goesOn _
  · intro ended
    rw [ended] at stage
    rcases stage with stage | stage <;> cases stage
  · rw [queue]
    exact crew.marks.append (not_stop_of_asking areAsking) runs
  · rw [queue]
    show backlog.unfinished + items.length = 0 → backlog.joiners = []
    intro isNone
    exact crew.free (by omega)

/-- The worker has read the node. -/
theorem HasPlayed.returns (played : HasPlayed cache self task task' [] loop turn after)
    (crew : Crew cache duty backlog self task loop)
    (count : backlog.unfinished = backlog.items.length + 1) {items : List Item}
    (areAsking : ∀ item ∈ items, item.isAsking) (mayRun : items = [] ∨ duty.phase = .started)
    (is : turn.1.duty? cache = some (itemDoneDuty (duty.feed items)))
    (either : turn.2 = .finish .cancelled ∨ turn.2 = .goOn (.worker cache .taking)) :
    IsManned cache after := by
  obtain ⟨items', unfinished', getter', free'⟩ := done_eq (backlog.puts items)
  have queue := Backlog.puts_eq items backlog
  have idle : (backlog.puts items).done.2.getter ≠ none →
      (backlog.puts items).done.2.items = [] := by
    rw [getter', items']
    exact puts_idle crew.idle
  have count' :
      (backlog.puts items).done.2.unfinished = (backlog.puts items).done.2.items.length := by
    rw [unfinished', items', queue]
    simp only [List.length_append]
    omega
  have marks : Marks (backlog.puts items).done.2.items task duty.phase := by
    rw [items', queue]
    exact crew.marks.append (not_stop_of_asking areAsking) mayRun
  have has : (itemDoneDuty (duty.feed items)).backlog = some (backlog.puts items).done.2 := by
    show (duty.backlog.map _).map _ = _
    rw [crew.has]
    rfl
  rcases either with way | way
  · obtain ⟨status, frames⟩ := played.ended way
    exact played.isManned crew is has rfl rfl (.finished status frames (.inl rfl) count')
      (played.marks (by rw [status]; simp) marks) idle free'
  · have status := played.running (fun next on goesOn => by cases way.symm.trans goesOn)
      (fun outcome goesOn => by cases way.symm.trans goesOn)
    refine played.isManned crew is has rfl rfl (.takes ?_ (by rw [status]; trivial) count')
      (played.marks (by rw [status]; simp) marks) idle free'
    rw [played.frames, way]
    rfl

end Played

/-- A worker has its turn. -/
theorem Crew.turn (crew : Crew cache duty backlog self task loop) {wake : Wake S.Reply}
    {frame : Frame S.Point} {rest : List (Frame S.Point)} {turn : Turn S}
    (same : turn = loop.frameTurn self frame wake) (frames : task.frames = frame :: rest)
    (runs : task.status = .running)
    (isPlain : task.frames = [.worker cache .taking] → wake ≠ .cancelled)
    (plays : Plays self loop frame wake turn) (isBetween : turn.1.turn = none) :
    IsManned cache (afterTurn self frame rest turn) := by
  obtain ⟨task', played⟩ := crew.hasPlayed rest runs plays isBetween
  have tends := plays.tends cache
  cases crew.manner with
  | takes taking isWork count =>
    cases frames.symm.trans taking
    cases tends with
    | feeds isOther areAsking feeds => exact absurd rfl (isOther .taking)
    | quits isGone =>
      rcases isGone with isNone | ⟨-, isCancelled⟩
      · cases crew.is.symm.trans isNone
      · exact absurd isCancelled (isPlain taking)
    | idles was isPlain isEmpty is way =>
      cases crew.is.symm.trans was
      exact played.idles crew count isEmpty is way
    | reads was isPlain has taken is way =>
      cases crew.is.symm.trans was
      cases crew.has.symm.trans has
      exact played.reads crew count taken is way
    | works was isPlain has taken areAsking mayRun is either =>
      cases crew.is.symm.trans was
      cases crew.has.symm.trans has
      exact played.works crew count taken areAsking mayRun is either
  | reads point reading isUp count =>
    cases frames.symm.trans reading
    cases tends with
    | feeds isOther areAsking feeds => exact played.awaits crew count same areAsking feeds
  | hasRead reading isUp count =>
    cases frames.symm.trans reading
    cases tends with
    | feeds isOther areAsking feeds => exact absurd rfl (isOther .resyncing)
    | quits isGone =>
      rcases isGone with isNone | ⟨isTaking, -⟩
      · cases crew.is.symm.trans isNone
      · cases isTaking
    | returns was areAsking mayRun is either =>
      cases crew.is.symm.trans was
      exact played.returns crew count areAsking mayRun is either
  | finished ended bare either count => cases frames.symm.trans bare

end Own

/-! ## Everything that happens -/

section Steps

/-- A cache that has not begun to run stays like that. -/
theorem IsManned.stays_off {items : List Item}
    (isNew : ∀ duty, before.duty? cache = some duty → duty = ⟨.latent, none, none⟩)
    (nobody : ∀ task : TaskId, before.roles[task]? ≠ some (Role.worker cache))
    (feeds : Feeds cache items before after) (settled : Settled cache before after) :
    IsManned cache after := by
  refine .off (fun duty is => ?_) fun task is => nobody task (settled task is)
  cases was : before.duty? cache with
  | none => exact feeds.new was duty is
  | some known =>
    have fed := feeds.old known was
    rw [isNew known was] at fed
    cases is.symm.trans fed
    rfl

/-- What happens between turns. -/
theorem IsManned.between {items : List Item} (isManned : IsManned cache before)
    (feeds : Feeds cache items before after) (areNoMarks : .stop ∉ items)
    (lets : ∀ worker, Lets worker before after) (settled : Settled cache before after)
    (turn : ∀ worker wake, after.turn = some (worker, wake) → before.turn = some (worker, wake)) :
    IsManned cache after := by
  cases isManned with
  | off isNew nobody => exact .stays_off isNew nobody feeds settled
  | on crew => exact crew.feeds feeds areNoMarks (lets _) settled (turn _)

/-- Where nothing happens to the cache, and no turn follows. -/
theorem IsManned.settled (isManned : IsManned cache before)
    (duty : after.duty? cache = before.duty? cache)
    (lets : ∀ duty backlog worker task, Crew cache duty backlog worker task before →
      Lets worker before after)
    (settled : Settled cache before after) (isBetween : after.turn = none) :
    IsManned cache after := by
  cases isManned with
  | off isNew nobody => exact .stays_off isNew nobody (.of_eq duty) settled
  | on crew =>
    refine crew.feeds (.of_eq duty) (by simp) (lets _ _ _ _ crew) settled fun wake given => ?_
    cases isBetween.symm.trans given

/-- A worker is not cancelled before its first turn. -/
theorem Crew.not_doomed {duty : Duty} {backlog : Backlog} {task : Task S}
    (crew : Crew cache duty backlog worker task loop) : loop.status? worker ≠ some .doomed := by
  intro was
  rw [status?, crew.found] at was
  have was : task.status = .doomed := Option.some.inj was
  cases crew.manner with
  | takes frames isWork count =>
    rw [was] at isWork
    exact isWork
  | finished ended frames either count => cases was.symm.trans ended
  | reads point frames isUp count =>
    rw [was] at isUp
    rcases isUp with stage | stage <;> cases stage
  | hasRead frames isUp count =>
    rw [was] at isUp
    rcases isUp with stage | stage <;> cases stage

/-- A task gets its turn. -/
theorem IsManned.run {task : TaskId} {status : Status S.Reply} {wake : Wake S.Reply}
    {ready : List Job} (isManned : IsManned cache before) (was : before.status? task = some status)
    (either : status = .fresh ∧ wake = .goOn ∨ ∃ on, status = .woken on wake) :
    IsManned cache ((({ before with ready } : Loop S).setStatus task .running).give task wake) := by
  have roled :
      Settled cache before
        ((({ before with ready } : Loop S).setStatus task .running).give task wake) :=
    .of_roles (modifyTask_roles task (by intro; rfl) { before with ready })
  cases isManned with
  | off isNew nobody => exact .off isNew fun other is => nobody other (roled other is)
  | @on duty backlog worker known crew =>
    by_cases here : task = worker
    · subst here
      rw [status?, crew.found] at was
      have was : known.status = status := Option.some.inj was
      have found :
          ((({ before with ready } : Loop S).setStatus task .running).give task wake).tasks[task]? =
          some { known with status := .running } := by
        show (before.tasks.modify task _)[task]? = _
        rw [List.getElem?_modify_eq, crew.found]
        rfl
      have isUp : ∀ outcome, known.status ≠ .ended outcome := fun outcome ended => by
        rw [was] at ended
        rcases either with ⟨same, -⟩ | ⟨on, same⟩ <;> cases same.symm.trans ended
      refine .on { crew with
        is := crew.is
        found := found
        role := crew.role
        only := fun other is => crew.only other (roled other is)
        manner := ?_
        plain := fun why given isTaking => ?_
        marks :=
          crew.marks.of_ended ⟨fun ended => (by cases ended), fun ended => absurd ended (isUp _)⟩ }
      · cases crew.manner with
        | takes frames isWork count => exact .takes frames trivial count
        | reads point frames isUp count => exact .reads point frames (.inl rfl) count
        | hasRead frames isUp count => exact .hasRead frames (.inl rfl) count
        | finished ended frames _ count => exact absurd ended (isUp _)
      · cases given
        cases crew.manner with
        | takes frames isWork count =>
          rw [was] at isWork
          rcases either with ⟨-, same⟩ | ⟨on, same⟩
          · simp [same]
          · rw [same] at isWork
            exact isWork
        | reads point frames isUp count => cases frames.symm.trans isTaking
        | hasRead frames isUp count => cases frames.symm.trans isTaking
        | finished ended frames _ count => exact absurd ended (isUp _)
    · refine crew.feeds (.of_eq rfl) (by simp) ?_ roled fun why given => ?_
      · exact Lets.trans (.of_eq (by rfl)) (.modifyTask task fun same => absurd same here)
      · cases given
        exact absurd rfl here

section Turns

variable {frame : Frame S.Point} {rest : List (Frame S.Point)} {wake : Wake S.Reply} {turn : Turn S}

/-- The worker of a cache that begins to run is new, and the only one. -/
theorem IsManned.begun (isThere : self < loop.tasks.length) (isBetween : turn.1.turn = none)
    (nobody : ∀ task : TaskId, loop.roles[task]? ≠ some (Role.worker cache))
    (is : turn.1.duty? cache = some ⟨.started, some {}, some loop.tasks.length⟩)
    (tasks :
      turn.1.tasks = loop.tasks ++ [{ role := .worker cache, frames := [.worker cache .taking] }]) :
    IsManned cache (afterTurn self frame rest turn) := by
  have entered : turn.1.tasks[loop.tasks.length]? =
      some { role := .worker cache, frames := [.worker cache .taking] } := by
    rw [tasks, List.getElem?_concat_length]
  obtain ⟨task', found', role', frames', leads⟩ :=
    afterTurn_lets isThere.ne frame rest turn _ entered (by simp)
  have isWork := leads.isWork trivial
  have isUp : task'.status ≠ .ended (.returned .nothing) := fun isOver => by
    rw [isOver] at isWork
    exact isWork
  have crew : Crew cache ⟨.started, some {}, some loop.tasks.length⟩ {} loop.tasks.length task'
      (afterTurn self frame rest turn) := {
    is := (afterTurn_duty? self frame rest turn cache).trans is
    has := rfl
    knows := .inl rfl
    found := found'
    role := role'
    only := fun other is => ?_
    manner := .takes frames' isWork rfl
    plain := fun wake given _ => (afterTurn_goesOn_plain isBetween given).2
    marks := .started (by simp) isUp
    idle := fun _ => rfl
    free := fun _ => rfl }
  · exact .on crew
  · have is := Settled.of_roles (afterTurn_roles self frame rest turn) other is
    rw [roles, tasks, List.map_append, List.getElem?_append] at is
    split at is
    · exact absurd is (nobody other)
    · next isMore =>
      simp only [List.map_cons, List.map_nil, List.getElem?_singleton] at is
      split at is
      · next here =>
        simp only [List.length_map] at isMore here
        exact Nat.le_antisymm (Nat.sub_eq_zero_iff_le.mp here) (Nat.not_lt.mp isMore)
      · cases is

/-- A turn where the cache has no worker yet. -/
theorem Plays.isManned_of_off (plays : Plays self loop frame wake turn)
    (isBetween : turn.1.turn = none) (isThere : self < loop.tasks.length)
    (isRole : ∀ stage, frame = .worker cache stage → loop.roles[self]? = some (Role.worker cache))
    (isNew : ∀ duty, loop.duty? cache = some duty → duty = ⟨.latent, none, none⟩)
    (nobody : ∀ task : TaskId, loop.roles[task]? ≠ some (Role.worker cache)) :
    IsManned cache (afterTurn self frame rest turn) := by
  have noOwn : ∀ stage, frame ≠ .worker cache stage := fun stage isOwn =>
      nobody self (isRole stage isOwn)
  have ended := afterTurn_duty? self frame rest turn cache
  have roled : Settled cache turn.1 (afterTurn self frame rest turn) :=
    .of_roles (afterTurn_roles self frame rest turn)
  cases plays.tends cache with
  | feeds isOther areAsking feeds =>
    rcases plays.settled cache with settled | ⟨⟨duty, was, isLatent⟩, began⟩
    · exact .stays_off isNew nobody (feeds.still ended) (settled.trans roled)
    · have fed := feeds.old duty was
      rw [isNew duty was] at fed
      cases began.symm.trans fed
  | begins was isLatent is tasks => exact .begun isThere isBetween nobody is tasks
  | closes is =>
    have isStill : turn.1.duty? cache = loop.duty? cache := by
      rw [is]
      cases was : loop.duty? cache with
      | none => rfl
      | some duty =>
        rw [isNew duty was]
        rfl
    refine .stays_off isNew nobody ((Feeds.of_eq isStill).still ended) ?_
    rcases plays.settled cache with settled | ⟨⟨duty, was, isLatent⟩, began⟩
    · exact settled.trans roled
    · rw [isStill, was] at began
      cases began
      cases isLatent
  | joins was has isBusy is =>
    cases isNew _ was
    cases has
  | _ => exact absurd rfl (noOwn _)

/-- The turn of a task that is not the worker of the cache. -/
theorem Crew.besides {duty : Duty} {backlog : Backlog} {task : Task S}
    (crew : Crew cache duty backlog worker task loop) (different : self ≠ worker)
    (plays : Plays self loop frame wake turn) (isBetween : turn.1.turn = none)
    (isRole : ∀ stage, frame = .worker cache stage → loop.roles[self]? = some (Role.worker cache)) :
    IsManned cache (afterTurn self frame rest turn) := by
  have ended := afterTurn_duty? self frame rest turn cache
  have roled : Settled cache turn.1 (afterTurn self frame rest turn) :=
    .of_roles (afterTurn_roles self frame rest turn)
  have settled : Settled cache loop (afterTurn self frame rest turn) := by
    rcases plays.settled cache with settled | ⟨⟨duty', was, isLatent⟩, -⟩
    · exact settled.trans roled
    · cases crew.is.symm.trans was
      exact absurd isLatent crew.hasBegun
  have lets : Lets worker loop (afterTurn self frame rest turn) :=
    plays.lets.trans (afterTurn_lets different frame rest turn)
  have noTurn : ∀ wake, (afterTurn self frame rest turn).turn = some (worker, wake) →
      loop.turn = some (worker, wake) := fun wake given =>
    absurd (afterTurn_goesOn_plain isBetween given).1.symm different
  have noOwn : ∀ stage, frame ≠ .worker cache stage := fun stage isOwn =>
      different (crew.only self (isRole stage isOwn))
  cases plays.tends cache with
  | feeds isOther areAsking feeds =>
    exact crew.feeds (feeds.still ended) (not_stop_of_asking areAsking) lets settled noTurn
  | begins was isLatent is tasks =>
    cases crew.is.symm.trans was
    exact absurd isLatent crew.hasBegun
  | closes is =>
    rw [crew.is] at is
    exact crew.closes (ended.trans is) lets settled noTurn
  | joins was has isBusy is =>
    cases crew.is.symm.trans was
    cases crew.has.symm.trans has
    exact crew.joins isBusy (ended.trans is) lets settled noTurn
  | _ => exact absurd rfl (noOwn _)

/-- **A turn leaves a cache its queue and its one worker**, whoever has it. -/
theorem Plays.isManned {own : Task S} (same : turn = loop.frameTurn self frame wake)
    (plays : Plays self loop frame wake turn) (isBetween : turn.1.turn = none)
    (found : loop.tasks[self]? = some own) (frames : own.frames = frame :: rest)
    (runs : own.status = .running)
    (owns : ∀ stage, frame = .worker cache stage → own.role = .worker cache)
    (isPlain : own.role = .worker cache → own.frames = [.worker cache .taking] → wake ≠ .cancelled)
    (isManned : IsManned cache loop) : IsManned cache (afterTurn self frame rest turn) := by
  have isRole : ∀ stage, frame = .worker cache stage →
      loop.roles[self]? = some (Role.worker cache) :=
    fun stage isOwn => by
      rw [roles, List.getElem?_map, found, Option.map_some, owns stage isOwn]
  cases isManned with
  | off isNew nobody =>
    exact plays.isManned_of_off isBetween (List.getElem?_eq_some_iff.mp found).1 isRole isNew nobody
  | @on duty backlog worker task crew =>
    by_cases here : self = worker
    · subst here
      cases found.symm.trans crew.found
      exact crew.turn same frames runs (isPlain crew.role) plays isBetween
    · exact crew.besides here plays isBetween isRole

end Turns

theorem IsManned.inTurn (isManned : IsManned cache before) : IsManned cache before.inTurn := by
  cases isManned with
  | off isNew nobody => exact .off isNew nobody
  | on crew => exact .on { crew with plain := fun wake given => by cases given }

/-- **A cache has a queue and one worker from when it begins to run on, whatever happens.** -/
theorem Passes.isManned (passes : Passes before after) (turnRuns : before.TurnRuns)
    (workersOwn : before.WorkersOwn) (isManned : IsManned cache before) : IsManned cache after := by
  have quiet := isManned.inTurn
  cases passes with
  | grains grains =>
    obtain ⟨items, areAsking, feeds⟩ := Grains.feeds grains cache
    exact isManned.between feeds (not_stop_of_asking areAsking) (fun _ => Grains.lets grains)
      (Grains.stays grains).settled fun _ _ given => (Grains.turn grains) ▸ given
  | @turn task wake frame rest turn isAt same plays =>
    obtain ⟨own, found, frames⟩ := Option.map_eq_some_iff.mp isAt.frames
    have runs := status_of_running (turnRuns task wake isAt.turn) found
    refine plays.isManned same ?_ found frames runs (fun stage isOwn => ?_)
      (fun role taking => ?_) quiet
    · rw [same]
      exact frameTurn_turn task frame wake before.inTurn
    · exact workersOwn task own cache stage found (by rw [frames, isOwn]; exact List.mem_cons_self)
    · cases isManned with
      | off isNew nobody =>
        exact absurd (by rw [roles, List.getElem?_map, found, Option.map_some, role]) (nobody task)
      | on crew =>
        have here := crew.only task (by rw [roles, List.getElem?_map, found, Option.map_some, role])
        subst here
        cases found.symm.trans crew.found
        exact crew.plain wake isAt.turn taking
  | pause turn isOver => exact quiet
  | @run task status wake ready isBetween isFirst was either => exact isManned.run was either
  | @doom task ready isBetween isFirst was =>
    refine isManned.settled (by rw [duty?, (finish_keeps _ _ _).2.1, duty?])
      (fun duty backlog worker known crew => ?_)
      (.of_roles (finish_roles task .cancelled _)) ?_
    · by_cases here : task = worker
      · subst here
        exact absurd was crew.not_doomed
      · exact .trans (.of_eq (by rfl)) (finish_lets here .cancelled _)
    · exact (finish_keeps _ _ _).2.2.2.trans isBetween
  | stale isBetween isFirst isOver =>
    exact isManned.settled rfl (fun _ _ _ _ _ => .of_eq rfl) (.of_roles rfl) isBetween
  | @answer owner query task outcome ready isBetween isFirst ended =>
    have kept : (({ before with ready } : Loop S).answered owner query task outcome).turn = none ∧
        Stays before (({ before with ready } : Loop S).answered owner query task outcome) ∧
          ∀ worker,
            Lets worker before
              (({ before with ready } : Loop S).answered owner query task outcome) := by
      refine ⟨(answered_stays _ _ _ _ _).2.trans isBetween,
        .trans (.of_eq (by rfl)) (answered_stays _ _ _ _ _).1,
        fun worker => ?_⟩
      unfold answered
      dsimp only
      split
      · exact .trans (.of_eq (by rfl)) (post_lets _ _ _)
      · exact .of_eq rfl
    have noTurn :
        ∀ worker wake, (({ before with ready } : Loop S).answered owner query task outcome).turn =
        some (worker, wake) → before.turn = some (worker, wake) := fun worker wake given => by
      cases kept.1.symm.trans given
    rcases (Passes.answer isBetween isFirst ended).fares cache with ⟨areAsking, feeds⟩
      | ⟨-, -, -, feeds⟩ | ⟨isAt, -, -⟩
    · exact isManned.between feeds (not_stop_of_asking areAsking) kept.2.2 kept.2.1.settled noTurn
    · refine isManned.between feeds (fun member => ?_) kept.2.2 kept.2.1.settled noTurn
      rw [List.mem_singleton] at member
      next query' _ _ _ =>
      cases query' <;> cases member
    · cases isBetween.symm.trans isAt.turn
  | hook isBetween isFirst isPlain does =>
    rcases does with grains | ⟨waiter, outcome, -, same⟩
    · obtain ⟨items, areAsking, feeds⟩ := Grains.feeds grains cache
      exact isManned.between ((Feeds.of_eq (by rfl)).trans feeds) (not_stop_of_asking areAsking)
        (fun worker => .trans (.of_eq (by rfl)) (Grains.lets grains))
        (.trans (.of_roles (by rfl)) (Grains.stays grains).settled) fun _ _ given =>
          (Grains.turn grains) ▸ given
    · subst same
      exact isManned.settled (wake_duty? _ _ _ _) (fun _ _ worker _ _ => .trans (.of_eq (by rfl))
        (wake_lets waiter (.inl (by simp)))) (.of_roles (wake_roles _ _ _)) (by
          simpa using isBetween)

/-- A task with that role is the cache's worker. -/
theorem IsManned.crew {task : TaskId} {known : Task S} (isManned : IsManned cache loop)
    (found : loop.tasks[task]? = some known) (role : known.role = .worker cache) :
    ∃ duty backlog, Crew cache duty backlog task known loop := by
  have isRole : loop.roles[task]? = some (Role.worker cache) := by
    rw [roles, List.getElem?_map, found, Option.map_some, role]
  cases isManned with
  | off isNew nobody => exact absurd isRole (nobody task)
  | @on duty backlog worker own crew =>
    cases crew.only task isRole
    cases found.symm.trans crew.found
    exact ⟨duty, backlog, crew⟩

/-- Only the worker waits for an item. -/
theorem Crew.getter {duty : Duty} {backlog : Backlog} {task : Task S}
    (crew : Crew cache duty backlog worker task loop) (areSeated : loop.AreSeated)
    (workersOwn : loop.WorkersOwn) {other : TaskId} (waits : backlog.getter = some other) :
    other = worker ∧ task.status = .waiting .item := by
  obtain ⟨known, found, same⟩ := Option.map_eq_some_iff.mp crew.is
  have has : known.backlog = some backlog := by
    have has := crew.has
    rw [← same] at has
    exact has
  have isOn : other ∈ loop.seated (.item cache) := by
    rw [(seated_of_found found has).1, waits]
    simp
  have sits := (areSeated other (.item cache)).mpr isOn
  rw [seat?, Option.bind_eq_some_iff] at sits
  obtain ⟨own, found, sits⟩ := sits
  unfold Task.seat? at sits
  split at sits
  · next owner stage rest status frames =>
    cases sits
    have role := workersOwn other own cache _ found (by rw [frames]; exact List.mem_cons_self)
    have here := crew.only other (by rw [roles, List.getElem?_map, found, Option.map_some, role])
    subst here
    cases found.symm.trans crew.found
    exact ⟨rfl, status⟩
  · cases sits
  · cases sits
  · cases sits

/-- Those who wait are on the lists after whatever happens, where each cache has at most one
worker. -/
theorem Passes.areSeated_of_manned (passes : Passes before after) (turnRuns : before.TurnRuns)
    (errandsCall : before.ErrandsCall) (isQueued : before.IsQueued) (workersOwn : before.WorkersOwn)
    (areManned : ∀ cache, IsManned cache before) (areSeated : before.AreSeated) :
    after.AreSeated := by
  refine passes.areSeated turnRuns errandsCall isQueued (fun cache known found isLatent => ?_)
    (fun self wake cache stage rest isAt => ?_) (fun cache known worker found knows => ?_) areSeated
  · have is := duty?_of_found found
    cases areManned cache with
    | off isNew nobody =>
      have same := isNew _ is
      exact congrArg Duty.backlog same
    | on crew =>
      cases is.symm.trans crew.is
      exact absurd isLatent crew.hasBegun
  · obtain ⟨own, found, frames⟩ := Option.map_eq_some_iff.mp isAt.frames
    have role := workersOwn self own cache stage found (by rw [frames]; exact List.mem_cons_self)
    obtain ⟨duty, backlog, crew⟩ := (areManned cache).crew found role
    obtain ⟨known, isThere, same⟩ := Option.map_eq_some_iff.mp crew.is
    have has := crew.has
    rw [← same] at has
    refine ⟨known, backlog, isThere, has, ?_⟩
    cases waits : backlog.getter with
    | none => rfl
    | some other =>
      obtain ⟨-, waiting⟩ := crew.getter areSeated workersOwn waits
      have runs := status_of_running (turnRuns self wake isAt.turn) found
      cases runs.symm.trans waiting
  · have is := duty?_of_found found
    cases areManned cache with
    | off isNew nobody =>
      have same := congrArg Duty.worker (isNew _ is)
      cases knows.symm.trans same
    | @on duty backlog own task crew =>
      cases is.symm.trans crew.is
      rcases crew.knows with same | ⟨same, -⟩
      · cases knows.symm.trans same
        exact ⟨task, crew.found⟩
      · cases knows.symm.trans same

end Steps

/-! ## Runs -/

section Runs

variable {allowed : Outside S} {service : S.State} {last : Loop S}

/-- **Nobody runs without having a turn**, but those who are through. -/
theorem Reaches.runningTurns (run : Reaches allowed (fresh service) last) : last.RunningTurns := by
  induction run with
  | refl => exact fun task known found => by cases found
  | tail earlier happens step => exact happens.passes.runningTurns (Reaches.turnRuns earlier) step

/-- Each cache has at most one worker, in all that can happen. -/
theorem Reaches.isManned (run : Reaches allowed (fresh service) last) (cache : CacheId) :
    IsManned cache last := by
  induction run with
  | refl => exact .off (fun duty is => by cases is) fun task is => by cases is
  | tail earlier happens isManned =>
    exact happens.passes.isManned (Reaches.turnRuns earlier) (Reaches.workersOwn earlier) isManned

/-- **Who waits is on the list for that, and nobody else is.** -/
theorem Reaches.areSeated (run : Reaches allowed (fresh service) last) : last.AreSeated := by
  induction run with
  | refl =>
    intro task place
    cases place <;> simp [seat?, seated, duty?, fresh]
  | tail earlier happens areSeated =>
    exact happens.passes.areSeated_of_manned (Reaches.turnRuns earlier)
      (Reaches.errandsCall earlier)
      (Reaches.isQueued earlier) (Reaches.workersOwn earlier) (Reaches.isManned earlier) areSeated

end Runs

end Loop

end WatchedNode
