/-
**Refreshing is bounded, and comes to rest.**

A cache that runs asks at most three requests for each item to read its node, two for each item to
look at it and for each read that is under way, and one for each look that is not dealt with, as
long as it is left alone (`LeftAlone`). If all its requests are answered, there is less and less for
it to do, and some time there is nothing: its queue is empty, its worker waits for an item, and no
request is pending (`HasSettled`). What comes into its queue from outside is one item to read its
node for each time that the connection is back, and one at most to look at it for each time that a
watcher of its own is fired; and in every ledger each request leaves those that are pending once,
with one answer (`refreshing_settles`).
-/
import WatchedNode.Proofs.Loop.Ledger
import WatchedNode.Proofs.Loop.Onward
import WatchedNode.Proofs.Loop.Summons
import WatchedNode.Proofs.Provenance

namespace WatchedNode.Loop

open Relation

variable {S : Service} {before after loop : Loop S} {cache : CacheId} {service : S.State}

/-- A cache that is left alone goes on to run. -/
theorem LeftAlone.runs (alone : LeftAlone cache before after)
    (runs : before.phase? cache = some .started) :
    after.phase? cache = some .started := by
  obtain ⟨duty, is, phase⟩ := Option.map_eq_some_iff.mp runs
  obtain ⟨known, found, -⟩ := Option.map_eq_some_iff.mp is
  obtain ⟨known', found', -⟩ := alone.happens.remains.grows cache known found
  have is' := duty?_of_found found'
  rw [phase_of_some is']
  refine congrArg some ?_
  generalize phase' : known'.duty.phase = later
  have matures := (alone.happens.passes.fares cache).matures is'
  rw [phase'] at matures
  cases matures with
  | comes isNew => cases isNew.symm.trans is
  | stays was =>
    cases was.symm.trans is
    exact phase
  | begins was isLatent =>
    cases was.symm.trans is
    cases isLatent.symm.trans phase
  | closes was ran isAt => exact absurd rfl (alone.noOperation isAt)

/-- **A cache that is left alone asks no more than what is on its agenda.** -/
theorem requests_bounded {first last : Loop S} (run : Reaches published (fresh service) first)
    (runs : first.phase? cache = some .started)
    (continues : ReflTransGen (LeftAlone cache) first last) :
    (last.agenda cache).asked + (last.agenda cache).outlay ≤
      (first.agenda cache).asked + (first.agenda cache).outlay := by
  have kept : Reaches published (fresh service) last ∧ last.phase? cache = some .started ∧
      (last.agenda cache).asked + (last.agenda cache).outlay ≤
        (first.agenda cache).asked + (first.agenda cache).outlay := by
    induction continues with
    | refl => exact ⟨run, runs, Nat.le_refl _⟩
    | tail _ alone step =>
      obtain ⟨run, runs, atMost⟩ := step
      refine ⟨run.tail alone.happens, alone.runs runs, ?_⟩
      rcases alone.moves run runs with same | moves
      · rwa [same]
      · exact moves.outlay.trans atMost
  exact kept.2.2

/-! ## Courses -/

/-- A cache is left alone from some moment on: the loop goes on, all that is asked for the cache is
answered, and no read of its worker is cancelled. -/
structure LeftToItself (cache : CacheId) (course : Nat → Loop S) : Prop where
  alone (moment : Nat) : LeftAlone cache (course moment) (course (moment + 1))
  goesOn (moment : Nat) : ∃ later ≥ moment, (course later).turn = none ∧
    course (later + 1) = (course later).step
  answered (moment : Nat) (task : TaskId) (request : Request) :
    posed? task (course moment).record = some (cache, request) →
      ∃ later ≥ moment, posed? task (course later).record = none
  spared (moment : Nat) (worker : TaskId) : (course moment).roles[worker]? = some (.worker cache) →
    .left worker .call .cancelled ∉ (course moment).journal

/-- Nothing is to be done for a cache: its queue is empty, its worker waits for an item, and no
request of its own is pending. -/
structure HasSettled (cache : CacheId) (loop : Loop S) : Prop where
  isEmpty : loop.items cache = []
  isIdle : ∃ known worker, loop.caches[cache]? = some known ∧ known.worker = some worker ∧
    loop.status? worker = some (.waiting .item)
  noRequest (task : TaskId) (query : Query) : loop.roles[task]? = some (.request cache query) →
    task ∉ loop.pending cache

/-- A task that is to wait for an item does so. -/
theorem afterTurn_awaits {task : TaskId} {frame next : Frame S.Point} {rest : List (Frame S.Point)}
    {turn : Turn S} (runs : turn.1.status? task = some .running)
    (way : turn.2 = .await next .item) :
    (afterTurn task frame rest turn).status? task = some (.waiting .item) := by
  obtain ⟨known, found, -⟩ := Option.map_eq_some_iff.mp runs
  unfold afterTurn
  rw [way]
  show ((turn.1.setFrames task (next :: rest)).setStatus task (.waiting .item)).status? task = _
  simp [status?, setStatus, setFrames, modifyTask, found]

/-- A worker that is to have its turn, and is at work, has it when that is begun. -/
theorem TakesUp.isAt {task : TaskId} {known : Task S} {frame : Frame S.Point}
    {rest : List (Frame S.Point)} (takesUp : TakesUp (.resume task) before after)
    (isQueued : before.IsQueued) (found : before.tasks[task]? = some known)
    (isWork : known.status.isWork) (frames : known.frames = frame :: rest) :
    ∃ wake, after.IsAt task wake frame rest := by
  obtain ⟨-, ready, isFirst, rfl⟩ := takesUp
  have isDue := isQueued.isDue_of_first isFirst
  have status : ({ before with ready } : Loop S).status? task = some known.status := by
    rw [status?, found, Option.map_some]
  have given (wake : Wake S.Reply) :
      ((({ before with ready } : Loop S).setStatus task .running).give task wake).IsAt
      task wake frame rest := by
    refine ⟨rfl, ?_⟩
    simp [setStatus, modifyTask, give, found, frames]
  rw [Loop.isDue, status?, found] at isDue
  cases was : known.status with
  | fresh => exact ⟨.goOn, by rw [start, status, was]; exact given .goOn⟩
  | woken on wake => exact ⟨wake, by rw [start, status, was]; exact given wake⟩
  | doomed =>
    rw [was] at isWork
    exact isWork.elim
  | _ =>
    rw [Option.map_some, Option.any_some, was] at isDue
    cases isDue

/-- A cache that runs has its crew. -/
theorem Reaches.crew (run : Reaches published (fresh service) loop)
    (runs : loop.phase? cache = some .started) :
    ∃ duty backlog worker task, Crew cache duty backlog worker task loop ∧ duty.phase = .started ∧
      duty.worker = some worker := by
  obtain ⟨duty, is, phase⟩ := Option.map_eq_some_iff.mp runs
  cases run.isManned cache with
  | off isNew =>
    cases isNew duty is
    cases phase
  | on crew =>
    cases is.symm.trans crew.is
    refine ⟨_, _, _, _, crew, phase, crew.knows.resolve_right ?_⟩
    rintro ⟨-, isClosed⟩
    cases isClosed.symm.trans phase

/-- From that moment on nothing is done for the cache. -/
def IsStill (cache : CacheId) (course : Nat → Loop S) (moment : Nat) : Prop :=
  ∀ later ≥ moment, (course later).agenda cache = (course moment).agenda cache

variable {course : Nat → Loop S} {moment : Nat}

theorem IsStill.later (isStill : IsStill cache course moment) {later : Nat}
    (isLater : later ≥ moment) :
    IsStill cache course later := fun last isLast => by
  rw [isStill last (Nat.le_trans isLater isLast), isStill later isLater]

/-- Where nothing is done, the agenda is the same after each thing that happens. -/
theorem IsStill.next (isStill : IsStill cache course moment) :
    (course (moment + 1)).agenda cache = (course moment).agenda cache :=
  isStill _ (Nat.le_succ moment)

namespace LeftToItself

section Course

variable (leftToItself : LeftToItself cache course)
  (run : Reaches published (fresh service) (course 0))
  (runs : (course 0).phase? cache = some .started)

include leftToItself

theorem onward : Onward published course :=
  ⟨fun moment => (leftToItself.alone moment).happens, leftToItself.goesOn⟩

include runs in
theorem runs_at (moment : Nat) : (course moment).phase? cache = some .started := by
  induction moment with
  | zero => exact runs
  | succ moment earlier => exact (leftToItself.alone moment).runs earlier

include run in
/-- Tasks keep their roles. -/
theorem role_later {task : TaskId} {role : Role} (is : (course moment).roles[task]? = some role)
    {later : Nat} (isLater : later ≥ moment) : (course later).roles[task]? = some role := by
  induction later, isLater using Nat.le_induction with
  | base => exact is
  | succ later _ earlier =>
    have there := leftToItself.onward.reaches run later
    exact roles_kept
      ((leftToItself.alone later).happens.passes.custody there.hooksFit).grows earlier

include run in
/-- Tasks that have ended stay so. -/
theorem outcome_later {task : TaskId} {outcome : Outcome Answer}
    (ended : (course moment).outcome? task = some outcome) {later : Nat}
    (isLater : later ≥ moment) : (course later).outcome? task = some outcome := by
  induction later, isLater using Nat.le_induction with
  | base => exact ended
  | succ later _ earlier =>
    exact (leftToItself.alone later).happens.outcome
      (leftToItself.onward.reaches run later).endedAreBare earlier

include run in
/-- The task of a request has ended when that is answered. -/
theorem ends {task : TaskId} {query : Query}
    (role : (course moment).roles[task]? = some (.request cache query)) :
    ∃ later ≥ moment, ∃ outcome, (course later).outcome? task = some outcome := by
  cases isOpen : (course moment).outcome? task with
  | some outcome => exact ⟨moment, Nat.le_refl _, outcome, isOpen⟩
  | none =>
    have there := leftToItself.onward.reaches run moment
    obtain ⟨known, -, posed, -⟩ := (there.isTraced cache).requests task cache query role
    obtain ⟨later, isLater, answered⟩ := leftToItself.answered moment task _ (posed isOpen)
    have there' := leftToItself.onward.reaches run later
    obtain ⟨known', -, posed', -⟩ :=
      (there'.isTraced cache).requests task cache query (leftToItself.role_later run role isLater)
    cases isOpen' : (course later).outcome? task with
    | some outcome => exact ⟨later, isLater, outcome, isOpen'⟩
    | none => cases answered.symm.trans (posed' isOpen')

include run runs in
/-- Less is left to be done at some time, or nothing is done any more. -/
theorem progresses (moment : Nat) : IsStill cache course moment ∨
    ∃ later ≥ moment, ((course later).agenda cache).toil < ((course moment).agenda cache).toil := by
  by_cases less :
    ∃ later ≥ moment, ((course later).agenda cache).toil < ((course moment).agenda cache).toil
  · exact .inr less
  refine .inl fun later isLater => ?_
  induction later, isLater using Nat.le_induction with
  | base => rfl
  | succ later isLater same =>
    have moves := (leftToItself.alone later).moves (leftToItself.onward.reaches run later)
      (leftToItself.runs_at runs later)
    rcases moves with stays | moves
    · exact stays.trans same
    · exact absurd ⟨later + 1, by omega, same ▸ moves.toil⟩ less

/-! ### Where nothing is done -/

section Still

variable (isStill : IsStill cache course moment)

omit leftToItself in
include isStill in
/-- No answer is dealt with. -/
theorem not_clears (there : Reaches published (fresh service) (course moment)) {query : Query}
    {task : TaskId} {outcome : Outcome Answer} :
    ¬ Clears cache query task outcome (course moment) (course (moment + 1)) := by
  intro clears
  have flown := clears.flights there.requestsArePending cache query
  rw [if_pos ⟨rfl, rfl⟩] at flown
  have still : (course (moment + 1)).flights cache query = (course moment).flights cache query := by
    cases query with
    | look => exact congrArg Agenda.looks isStill.next
    | fetch => exact congrArg Agenda.fetches isStill.next
  omega

include isStill run

/-- A request that is pending stays so. -/
theorem pending_later {task : TaskId} {query : Query}
    (role : (course moment).roles[task]? = some (.request cache query))
    (isPending : task ∈ (course moment).pending cache) {later : Nat} (isLater : later ≥ moment) :
    task ∈ (course later).pending cache := by
  induction later, isLater using Nat.le_induction with
  | base => exact isPending
  | succ later isLater earlier =>
    have there := leftToItself.onward.reaches run later
    cases (leftToItself.alone later).happens.tidies there with
    | clears clears => exact absurd clears (not_clears (isStill.later isLater) there)
    | keeps pending =>
      have count := pending query task (leftToItself.role_later run role isLater)
      exact List.count_pos_iff.mp (count ▸ List.count_pos_iff.mpr earlier)

/-- **No request is pending**: its task ends, and then its answer is dealt with. -/
theorem noRequest {task : TaskId} {query : Query}
    (role : (course moment).roles[task]? = some (.request cache query)) :
    task ∉ (course moment).pending cache := by
  intro isPending
  obtain ⟨later, isLater, outcome, ended⟩ := leftToItself.ends run role
  have isPending := leftToItself.pending_later run isStill role isPending isLater
  have role := leftToItself.role_later run role isLater
  have there := leftToItself.onward.reaches run later
  -- The answer is due once as long as the request is pending, and in its turn it is dealt with.
  have isDue : (Hook.answered cache query, task) ∈ (course later).dues := by
    have owed := (there.requestsArePending cache query task role).1
    rw [owed_of_ended ended] at owed
    exact List.count_pos_iff.mp (owed ▸ List.count_pos_iff.mpr isPending)
  obtain ⟨job, isReady, isHook⟩ := List.mem_filterMap.mp isDue
  obtain rfl : job = .hook (.answered cache query) task := by
    cases job with
    | resume => cases isHook
    | hook hook other =>
      rw [Job.hook?] at isHook
      split at isHook
      · cases isHook
        rfl
      · cases isHook
  obtain ⟨last, isLast, isBetween, rest, isFirst, same⟩ := leftToItself.onward.begun run isReady
  have there' := leftToItself.onward.reaches run last
  have ended' := leftToItself.outcome_later run ended isLast
  have dealt :
      course (last + 1) = ({ course last with ready := rest } : Loop S).answered cache query task
        outcome := by
    rw [same, start,
      show ({ course last with ready := rest } : Loop S).outcome? task = some outcome from ended']
    rfl
  exact not_clears (isStill.later (Nat.le_trans isLater isLast)) there'
    (answered_clears there'.hooksFit isFirst ended' dealt)

/-! ### Workers -/

include runs in
/-- **A worker that has its turn then waits for an item**: else it would do something. -/
theorem settled_after {later : Nat} (isLater : later ≥ moment) {worker : TaskId}
    {wake : Wake S.Reply} {stage : WorkerStage} {rest : List (Frame S.Point)}
    (isAt : (course later).IsAt worker wake (.worker cache stage) rest)
    (same : course (later + 1) = afterTurn worker (.worker cache stage) rest
      ((course later).inTurn.frameTurn worker (.worker cache stage) wake)) :
    HasSettled cache (course (later + 1)) := by
  have there := leftToItself.onward.reaches run later
  have there' := leftToItself.onward.reaches run (later + 1)
  have alone := leftToItself.alone later
  have next := (isStill.later isLater).next
  have isStill := isStill.later (Nat.le_succ_of_le isLater)
  obtain ⟨rfl, duty, backlog, labors⟩ := isAt.labors there same alone.happens
  rcases labors.moves alone there with moves | ⟨way, isEmpty, -⟩
  · have less := moves.toil
    rw [next] at less
    exact absurd less (Nat.lt_irrefl _)
  obtain ⟨duty', backlog', worker', task, crew, phase, knows⟩ :=
    there'.crew (leftToItself.runs_at runs (later + 1))
  obtain ⟨known, found, isDuty⟩ := Option.map_eq_some_iff.mp crew.is
  have role := leftToItself.role_later run (there.workersOwn.isAt isAt) (Nat.le_succ later)
  cases crew.only worker role
  refine ⟨(congrArg Agenda.items next).trans isEmpty,
    ⟨known, worker, found, (congrArg Duty.worker isDuty).trans knows, ?_⟩,
    fun task query role => leftToItself.noRequest run isStill role⟩
  rw [same]
  exact afterTurn_awaits (frameTurn_running isAt there.turnRuns) way

end Still

/-! ### Workers at work -/

include run runs

/-- The worker of the cache has not ended. -/
theorem crewed (moment : Nat) :
    ∃ duty backlog worker task, Crew cache duty backlog worker task (course moment) ∧
    (course moment).roles[worker]? = some (.worker cache) ∧
      (course moment).outcome? worker = none := by
  have there := leftToItself.onward.reaches run moment
  obtain ⟨duty, backlog, worker, task, crew, phase, -⟩ :=
    there.crew (leftToItself.runs_at runs moment)
  have role : (course moment).roles[worker]? = some (.worker cache) := by
    rw [roles, List.getElem?_map, crew.found, Option.map_some, crew.role]
  refine ⟨duty, backlog, worker, task, crew, role, ?_⟩
  cases ended : (course moment).outcome? worker with
  | none => rfl
  | some outcome =>
    have lost : .left worker .call .cancelled ∈ (course moment).journal ↔
        (course moment).IsLost cache worker := there.isLost fun other found => by
      cases found.symm.trans crew.found
      exact crew.role
    rcases crew.either_of_ended ended with rfl | ⟨-, isClosed⟩
    · exact absurd (lost.mpr (.inl ended)) (leftToItself.spared moment worker role)
    · cases phase.symm.trans isClosed

section Still

variable (isStill : IsStill cache course moment)

include isStill

/-- **A read that is under way comes to its end**: it is answered, and then the worker has its
turn. -/
theorem settles_of_read (isReading : (course moment).readers cache ≠ 0) :
    ∃ later ≥ moment, HasSettled cache (course later) := by
  have stays {later : Nat} (isLater : later ≥ moment) : (course later).readers cache ≠ 0 := by
    rwa [show (course later).readers cache = (course moment).readers cache from
      congrArg Agenda.reads (isStill later isLater)]
  have counts {later : Nat} {duty : Duty} {backlog : Backlog} {worker : TaskId} {task : Task S}
      (crew : Crew cache duty backlog worker task (course later)) :
      backlog.unfinished = backlog.items.length + (course later).readers cache := by
    have there := leftToItself.onward.reaches run later
    exact (there.isManned cache).readers there.workersOwn crew.is crew.has
  -- A worker whose node has been read has its turn now.
  have hasRead {later : Nat} (isLater : later ≥ moment) {worker : TaskId} {task : Task S}
      (found : (course later).tasks[worker]? = some task)
      (frames : task.frames = [.worker cache .resyncing]) :
      ∃ later ≥ moment, HasSettled cache (course later) := by
    have there := leftToItself.onward.reaches run later
    obtain ⟨-, outcome, -, turn, -⟩ :=
      (there.isTraced cache).reads worker task _ [] cache found frames rfl
    have isAt : (course later).IsAt worker (.ended outcome) (.worker cache .resyncing) [] :=
      ⟨turn, by rw [found, Option.map_some, frames]⟩
    obtain ⟨last, isLast, isAt, same⟩ := leftToItself.onward.turn run isAt
    exact ⟨last + 1, by omega, leftToItself.settled_after run runs isStill (by omega) isAt same⟩
  obtain ⟨duty, backlog, worker, task, crew, role, isOpen⟩ := leftToItself.crewed run runs moment
  cases crew.manner with
  | takes frames isWork count =>
    have counted := counts crew
    have isReading := stays (Nat.le_refl moment)
    omega
  | hasRead frames => exact hasRead (Nat.le_refl moment) crew.found frames
  | finished ended => simp [outcome?, status?, crew.found, ended] at isOpen
  | reads point frames =>
    have there := leftToItself.onward.reaches run moment
    obtain ⟨owner, -, posed⟩ :=
      (there.isTraced cache).posed worker task point _ [] cache crew.found frames rfl
    obtain ⟨later, isLater, answered⟩ := leftToItself.answered moment worker _ posed
    have there' := leftToItself.onward.reaches run later
    obtain ⟨duty', backlog', worker', task', crew', role', isOpen'⟩ :=
      leftToItself.crewed run runs later
    cases crew'.only worker (leftToItself.role_later run role isLater)
    cases crew'.manner with
    | takes frames' isWork count =>
      have counted := counts crew'
      have isReading := stays isLater
      omega
    | hasRead frames' => exact hasRead isLater crew'.found frames'
    | finished ended => simp [outcome?, status?, crew'.found, ended] at isOpen'
    | reads point' frames' =>
      obtain ⟨owner', -, posed'⟩ :=
        (there'.isTraced cache).posed worker task' point' _ [] cache crew'.found frames' rfl
      cases answered.symm.trans posed'

/-- **Where nothing is done, nothing is left to be done.** -/
theorem settles_of_still : ∃ later ≥ moment, HasSettled cache (course later) := by
  by_cases isReading : (course moment).readers cache = 0
  swap
  · exact leftToItself.settles_of_read run runs isStill isReading
  -- The worker takes items as long as nothing is done.
  have takes {later : Nat} (isLater : later ≥ moment) {duty : Duty} {backlog : Backlog}
      {worker : TaskId} {task : Task S} (crew : Crew cache duty backlog worker task (course later))
      (isOpen : (course later).outcome? worker = none) :
      task.frames = [.worker cache .taking] ∧ task.status.isWork := by
    have there := leftToItself.onward.reaches run later
    have counted := (there.isManned cache).readers there.workersOwn crew.is crew.has
    have same : (course later).readers cache = (course moment).readers cache :=
      congrArg Agenda.reads (isStill later isLater)
    cases crew.manner with
    | takes frames isWork count => exact ⟨frames, isWork⟩
    | reads point frames isUp count => omega
    | hasRead frames isUp count => omega
    | finished ended => simp [outcome?, status?, crew.found, ended] at isOpen
  obtain ⟨later, isLater, isBetween, -⟩ := leftToItself.onward.goesOn moment
  have there := leftToItself.onward.reaches run later
  obtain ⟨duty, backlog, worker, task, crew, role, isOpen⟩ := leftToItself.crewed run runs later
  cases crew.isAtWork isBetween there.isQueued there.areSeated there.runningTurns
    there.endsAreWritten isOpen with
  | waits isWaiting isEmpty =>
    obtain ⟨duty', backlog', worker', task', crew', -, knows⟩ :=
      there.crew (leftToItself.runs_at runs later)
    cases crew'.only worker role
    obtain ⟨known, found, isDuty⟩ := Option.map_eq_some_iff.mp crew'.is
    refine ⟨later, isLater, ?_,
      ⟨known, worker, found, (congrArg Duty.worker isDuty).trans knows, isWaiting⟩,
      fun task query role => leftToItself.noRequest run (isStill.later isLater) role⟩
    rw [items_of_some crew.is crew.has, isEmpty]
  | isNext isReady =>
    obtain ⟨next, isNext, takesUp⟩ := leftToItself.onward.begun run isReady
    have there' := leftToItself.onward.reaches run next
    obtain ⟨duty', backlog', worker', task', crew', -, isOpen'⟩ := leftToItself.crewed run runs next
    cases crew'.only worker (leftToItself.role_later run role isNext)
    obtain ⟨frames, isWork⟩ := takes (Nat.le_trans isLater isNext) crew' isOpen'
    obtain ⟨wake, isAt⟩ := takesUp.isAt there'.isQueued crew'.found isWork frames
    obtain ⟨last, isLast, isAt, same⟩ := leftToItself.onward.turn run isAt
    exact ⟨last + 1, by omega, leftToItself.settled_after run runs isStill (by omega) isAt same⟩
  | reads point frames =>
    rw [crew.found, Option.map_some, (takes isLater crew isOpen).1] at frames
    cases frames

end Still

/-- **A cache that is left to itself settles**: as long as something is done for it less is left,
and that has an end. -/
theorem settles : ∃ later, HasSettled cache (course later) := by
  have onwards (toil : Nat) : ∀ moment, ((course moment).agenda cache).toil = toil →
      ∃ later, HasSettled cache (course later) := by
    induction toil using Nat.strong_induction_on with
    | _ toil step =>
      intro moment same
      rcases leftToItself.progresses run runs moment with isStill | ⟨later, -, less⟩
      · obtain ⟨later, -, hasSettled⟩ := leftToItself.settles_of_still run runs isStill
        exact ⟨later, hasSettled⟩
      · exact step _ (same ▸ less) later rfl
  exact onwards _ 0 rfl

end Course

end LeftToItself

/-! ## Refreshing -/

/-- **Refreshing is bounded, and comes to rest**, for a cache that runs:

* each time that its connection is back it has one item more to read its node, and each time that a
  watcher of its own is fired one more at most to look at it;
* as long as it is left alone, it asks no more than its outlay;
* left to itself, it settles;
* the run has a ledger, and in the ledger of whichever way it has come each request of its own has
  either left those that are pending, once, or is pending, once; and of each that has left there is
  one completion, which has been taken from the queue, or is in it. -/
theorem refreshing_settles {first : Loop S} {known : Cache}
    (run : Reaches published (fresh service) first) (found : first.caches[cache]? = some known)
    (runs : known.phase = .started) :
    (∀ effects, (first.perform effects).items cache =
      first.items cache ++ summons cache known.connected effects) ∧
      (∀ last, ReflTransGen (LeftAlone cache) first last →
        (last.requestsOf cache).length ≤
          (first.requestsOf cache).length + (first.agenda cache).outlay) ∧
      (∀ course, LeftToItself cache course → course 0 = first →
        ∃ later, HasSettled cache (course later)) ∧
      (∃ ledger, Recounts published service (Accounts cache) {} first ledger) ∧
      ∀ ledger, Recounts published service (Accounts cache) {} first ledger →
        (∀ task query, first.roles[task]? = some (.request cache query) →
          ledger.left.count task + (first.pending cache).count task = 1) ∧
        ledger.left.map (completion? cache first) =
          ((ledger.chronicle.taken ++ first.items cache).filter Item.isCompletion).map some := by
  have is := duty?_of_found found
  have phase : first.phase? cache = some .started := by rw [phase_of_some is, Cache.duty, runs]
  refine ⟨fun effects => ?_, fun last continues => ?_, ?_, run.hasLedger cache, ?_⟩
  · obtain ⟨duty, backlog, is', -, has⟩ := run.queue phase
    cases is.symm.trans is'
    have isOn : IsOn cache known.connected (first.items cache) first :=
      ⟨known, backlog, found, runs, rfl, has, (items_of_some is has).symm⟩
    exact isOn.perform effects
  · have bounded := requests_bounded run phase continues
    have asked (loop : Loop S) : (loop.agenda cache).asked = (loop.requestsOf cache).length := rfl
    rw [asked, asked] at bounded
    omega
  · rintro course leftToItself rfl
    exact leftToItself.settles run phase
  · intro ledger recounts
    have isAccounted := recounts.isAccounted
    refine ⟨isAccounted.once, ?_⟩
    rw [← isAccounted.isChronicled.order]
    exact isAccounted.completions phase

/-! ## After an outage -/

instance {Point : Type} (cache : CacheId) : (frame : Frame Point) →
    Decidable (frame.isOperation cache)
  | .start owner .. | .rebuild owner _ | .close owner _ =>
    inferInstanceAs (Decidable (owner = cache))
  | .service _ | .worker .. | .wait .. | .enter .. | .deed .. | .openSession .. | .openCache .. =>
    isFalse id

/-- No call of a worker is seen to be cancelled, the one who has his turn does nothing that he has
asked the cache for, and nothing that is written down in the next step disturbs it. -/
def isAlone (cache : CacheId) (loop : Loop S) : Bool :=
  (loop.journal.all fun entry => match entry with
    | .left _ .call .cancelled => false
    | _ => true) &&
  (loop.turn.all fun turn => (loop.tasks[turn.1]?).all fun task => task.frames.all fun frame =>
    !decide (frame.isOperation cache)) &&
  (loop.caches[cache]?).all fun known =>
    (loop.step.journal.take (loop.step.journal.length - loop.journal.length)).all fun entry =>
      !entry.disturbs cache known.connected

theorem step_alone (isAlone : loop.isAlone cache = true) : LeftAlone cache loop loop.step := by
  simp only [Loop.isAlone, Bool.and_eq_true] at isAlone
  obtain ⟨⟨-, noOperation⟩, undisturbed⟩ := isAlone
  have noOperation {task : TaskId} {wake : Wake S.Reply} {frame : Frame S.Point}
      {rest : List (Frame S.Point)} (isAt : loop.IsAt task wake frame rest) :
      ¬ frame.isOperation cache := fun isOperation => by
    obtain ⟨known, found, frames⟩ := Option.map_eq_some_iff.mp isAt.frames
    rw [isAt.turn, Option.all_some, found, Option.all_some, frames] at noOperation
    simp [isOperation] at noOperation
  have happens : Happens published loop loop.step := .step
  refine ⟨happens, noOperation, fun found => ?_⟩
  rw [found, Option.all_some] at undisturbed
  have written : Writes (fun _ => True) loop loop.step := by
    have abides := happens.abides fun _ _ _ _ isAt looks =>
      Frame.resyncs_of_looksAgain looks (noOperation isAt)
    exact abides.elim Abides.writes fun resynced => resynced.1.writes
  obtain ⟨entries, journal, -⟩ := written
  refine ⟨entries, journal, fun entry member => ?_⟩
  rw [journal, List.length_append, Nat.add_sub_cancel, List.take_left] at undisturbed
  simpa using List.all_eq_true.mp undisturbed entry member

theorem not_cancelled (isAlone : loop.isAlone cache = true) (worker : TaskId) :
    .left worker .call .cancelled ∉ loop.journal := by
  simp only [Loop.isAlone, Bool.and_eq_true] at isAlone
  exact fun written => Bool.noConfusion (List.all_eq_true.mp isAlone.1.1 _ written)

/-- The cache is alone in so many steps, and then the loop is at rest, and all that was asked is
answered. -/
def restsAlone (cache : CacheId) : Nat → Loop S → Bool
  | 0, loop => loop.isAlone cache && loop.isIdle && loop.record.all fun entry => match entry with
    | .asked _ task _ => (posed? task loop.record).isNone
    | _ => true
  | steps + 1, loop => loop.isAlone cache && restsAlone cache steps loop.step

theorem step_of_isIdle (isIdle : loop.isIdle = true) : loop.step = loop := by
  simp only [Loop.isIdle, Bool.and_eq_true, Option.isNone_iff_eq_none, List.isEmpty_iff] at isIdle
  rw [step, isIdle.1, isIdle.2]

/-- Who has been asked, as far as is known, is written down to have been asked. -/
theorem asked_of_posed {entries : List (Entry S.Call)} {task : TaskId} {request : Request}
    (posed : posed? task entries = some (cache, request)) :
    .asked cache task request ∈ entries := by
  obtain ⟨entry, found, isRequest⟩ := Option.bind_eq_some_iff.mp posed
  have member := List.mem_of_find?_eq_some found
  have isOf := List.find?_some found
  cases entry with
  | asked owner asker asked =>
    cases isRequest
    rwa [show asker = task from of_decide_eq_true isOf] at member
  | _ => cases isRequest

/-- Steps in which a cache is alone, up to one that leads nowhere. -/
theorem leftToItself_of_steps (steps : Nat) (alone : restsAlone cache steps loop = true) :
    LeftToItself cache fun moment => step^[moment] loop := by
  -- At each moment the cache is alone, and from the last of the steps on nothing changes.
  have kept (moment : Nat) : ∃ left, restsAlone cache left (step^[moment] loop) = true ∧
      left = steps - moment := by
    induction moment with
    | zero => exact ⟨steps, alone, rfl⟩
    | succ moment earlier =>
      obtain ⟨left, alone, same⟩ := earlier
      rw [Function.iterate_succ_apply']
      cases left with
      | zero =>
        refine ⟨0, ?_, by omega⟩
        have isIdle := alone
        simp only [restsAlone, Bool.and_eq_true] at isIdle
        rwa [step_of_isIdle isIdle.1.2]
      | succ left =>
        simp only [restsAlone, Bool.and_eq_true] at alone
        exact ⟨left, alone.2, by omega⟩
  have isAlone (moment : Nat) : (step^[moment] loop).isAlone cache = true := by
    obtain ⟨left, alone, -⟩ := kept moment
    cases left with
    | zero =>
      simp only [restsAlone, Bool.and_eq_true] at alone
      exact alone.1.1
    | succ left =>
      simp only [restsAlone, Bool.and_eq_true] at alone
      exact alone.1
  have rests (moment : Nat) : restsAlone cache 0 (step^[moment + steps] loop) = true := by
    obtain ⟨left, alone, same⟩ := kept (moment + steps)
    obtain rfl : left = 0 := by omega
    exact alone
  refine ⟨fun moment => ?_, fun moment => ?_, fun moment task request posed => ?_,
    fun moment worker _ => ?_⟩
  · rw [Function.iterate_succ_apply']
    exact step_alone (isAlone moment)
  · have rests := rests moment
    simp only [restsAlone, Loop.isIdle, Bool.and_eq_true, Option.isNone_iff_eq_none] at rests
    exact ⟨moment + steps, by omega, rests.1.2.1, Function.iterate_succ_apply' _ _ _⟩
  · have rests := rests moment
    simp only [restsAlone, Bool.and_eq_true] at rests
    refine ⟨moment + steps, by omega, ?_⟩
    cases posed : posed? task (step^[moment + steps] loop).record with
    | none => rfl
    | some asked =>
      have answered : (posed? task (step^[moment + steps] loop).record).isNone = true :=
        List.all_eq_true.mp rests.2 _ (asked_of_posed posed)
      rw [posed] at answered
      cases answered
  · exact not_cancelled (isAlone moment) worker

/-- A cache has seen its node, and its connection is lost. -/
def interrupting : List (Command Remote.service) :=
  [.make "c" (.text "/a") .null, .occur (Remote.Event.set "/a" [7]), .start "c" (.bool false),
    .occur (Remote.Event.link .suspended)]

/-- The connection is back, and then the node changes. -/
def reviving : List (Command Remote.service) :=
  [.occur (Remote.Event.link .reconnected), .occur (Remote.Event.set "/a" [8])]

/-- The cache is to read its node, and to look at it. -/
def interrupted : Loop Remote.service := enact 0 reviving (settled interrupting)

theorem interrupted_reaches : Reaches published (fresh ({} : Remote.State)) interrupted := by
  have first : Reaches published (fresh ({} : Remote.State)) (settled interrupting) :=
    enact_reaches 60 interrupting _ (by simp [published, interrupting, Command.isPublic])
      (by decide +kernel)
  have second : Reaches published (settled interrupting) interrupted :=
    enact_reaches 0 reviving _ (by simp [published, reviving, Command.isPublic]) (by decide +kernel)
  exact first.trans second

/-- What the cache may ask it does ask: for the node, then whether it is there, twice, and each time
for what it holds; and then it settles. If its watcher were fired once more, it would have one look
more on its agenda. Of the look and the fetch from before the outage each has left those that are
pending once, in whichever ledger. -/
theorem refreshing_settles_after_outage :
    (interrupted.agenda 0).outlay = 5 ∧
      ((step^[27] interrupted).requestsOf 0).length = (interrupted.requestsOf 0).length + 5 ∧
      ReflTransGen (LeftAlone 0) interrupted (step^[27] interrupted) ∧
      (∃ later, HasSettled 0 (step^[later] interrupted)) ∧
      (interrupted.perform [.fire (.cache 0) "/a" none]).items 0 = interrupted.items 0 ++ [.check] ∧
      (∃ ledger, Recounts published ({} : Remote.State) (Accounts 0) {} interrupted ledger) ∧
      ∀ ledger, Recounts published ({} : Remote.State) (Accounts 0) {} interrupted ledger →
        ledger.left.count 2 = 1 ∧ ledger.left.count 3 = 1 := by
  have is :
      (interrupted.caches[0]?).map (fun known => (known.phase, known.connected)) =
        some (.started, true) := by
    decide +kernel
  obtain ⟨known, found, same⟩ := Option.map_eq_some_iff.mp is
  obtain ⟨phase, connected⟩ := Prod.mk.inj same
  have leftToItself : LeftToItself 0 fun moment => step^[moment] interrupted :=
    leftToItself_of_steps 27 (by decide +kernel)
  obtain ⟨comes, -, settles, hasLedger, accounts⟩ :=
    refreshing_settles interrupted_reaches found phase
  refine ⟨by decide +kernel, by decide +kernel, ?_, settles _ leftToItself rfl, ?_, hasLedger,
    fun ledger recounts => ?_⟩
  · generalize 27 = steps
    induction steps with
    | zero => exact .refl
    | succ steps earlier => exact earlier.tail (leftToItself.alone steps)
  · rw [comes, connected]
    rfl
  · have once := (accounts ledger recounts).1
    have nobody : interrupted.pending 0 = [] := by decide +kernel
    have look := once 2 .look (by decide +kernel)
    have fetch := once 3 .fetch (by decide +kernel)
    rw [nobody] at look fetch
    exact ⟨look, fetch⟩

end WatchedNode.Loop
