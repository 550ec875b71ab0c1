/-
**Lulls.**

There is a lull when nothing prompts a cache to look at its node and nothing that was prompted is
under way: its start has returned, its worker reads nothing, and each look has ended that it asked
for since the connection was last back (`IsLull`). A cache that is at rest is in a lull
(`IsAtRest`).

Whatever happens, a lull does not come about without a look: either there was one before, or a look
has just ended (`Happens.isLull`). So if a property of the service is there after each look that
succeeds, and is not lost without an alert (`Lasting`), it is there in every lull, unless a look has
failed.
-/
import WatchedNode.Proofs.Loop.Prompt

namespace WatchedNode

open Relation

variable {S : Service}

/-- The start of the cache has returned. -/
def Entry.isReturn {Call : Type} (cache : CacheId) : Entry Call → Bool
  | .left _ (.start owner) (.returned _) => owner = cache
  | _ => false

/-- The task is the worker of the cache, and waits for an item. -/
def Task.isTaking (cache : CacheId) (task : Task S) : Bool :=
  match task.frames, task.status with
  | [.worker owner .taking], .waiting .item => owner = cache
  | _, _ => false

theorem Task.frames_of_isTaking {cache : CacheId} {task : Task S} (isTaking : task.isTaking cache) :
    task.frames = [.worker cache .taking] := by
  unfold Task.isTaking at isTaking
  split at isTaking
  · next frames _ => rw [frames, of_decide_eq_true isTaking]
  · cases isTaking

/-- The task has ended. -/
def Task.hasEnded (task : Task S) : Bool :=
  match task.status with
  | .ended _ => true
  | _ => false

theorem Task.stage_of_hasEnded {task : Task S} (hasEnded : task.hasEnded) :
    ∃ outcome, task.status.stage = .ended outcome := by
  unfold Task.hasEnded at hasEnded
  split at hasEnded
  · next outcome status => exact ⟨outcome, by rw [status, Status.stage]⟩
  · cases hasEnded

/-- The job deals with the answer to a request of the cache. -/
def Job.isAnswer (cache : CacheId) : Job → Bool
  | .hook (.answered owner _) _ => owner = cache
  | _ => false

namespace Loop

/-! ## Ends of activations -/

section Steps

variable {allowed : Outside S} {before after : Loop S} {cache : CacheId}

/-- One thing besides the turn of a frame: a toil, or one that only matters to tasks. -/
inductive Trifle (before : Loop S) : Loop S → Prop
  | toil {after : Loop S} (toil : Toil before after) : Trifle before after
  | aside {after : Loop S} (service : after.service = before.service)
      (caches : after.caches = before.caches) (journal : after.journal = before.journal) :
      Trifle before after

/-- Several of them. -/
abbrev Trifles : Loop S → Loop S → Prop := ReflTransGen Trifle

theorem Toils.trifles {before after : Loop S} (toils : Toils before after) : Trifles before after :=
  toils.lift id fun _ _ => .toil

theorem start_trifles (job : Job) (loop : Loop S) : Trifles loop (loop.start job) := by
  unfold Loop.start
  split
  · split
    · exact .single (.aside rfl rfl rfl)
    · exact .single (.aside rfl rfl rfl)
    · obtain ⟨service, caches, journal, -⟩ := finish_keeps loop _ .cancelled
      exact .single (.aside service caches journal)
    · exact .refl
  · split
    · obtain ⟨owner, labours⟩ := runHook_labours _ _ _ loop
      exact labours.toils.trifles
    · exact .refl

theorem command_trifles (loop : Loop S) {command : Command S} (isMomentary : command.isMomentary) :
    Trifles loop (loop.command command).1 := by
  have order := command_isOrder loop command isMomentary
  generalize (loop.command command).1 = after at order
  cases order with
  | stirs stirs => exact stirs.toils.trifles
  | call stirs point => exact stirs.toils.trifles.tail (.aside rfl rfl rfl)
  | release tickets release _ =>
    refine releaseAll_keeps loop release (fun middle task trifles => trifles.tail ?_) tickets .refl
    obtain ⟨service, caches, journal, -⟩ := wake_keeps middle task (wakeOf release)
    exact .aside service caches journal
  | install name owner path stat data same =>
    exact (installFrom_toils owner path stat data loop).trifles

/-- Whatever happens is the turn of a frame, or a number of trifles. -/
theorem Happens.trifles (happens : Happens allowed before after) :
    Trifles before after ∨
      ∃ task wake frame rest, before.IsAt task wake frame rest ∧
        after = afterTurn task frame rest (before.inTurn.frameTurn task frame wake) := by
  cases happens with
  | step =>
    have step := step_isStep before
    generalize before.step = after at step
    cases step with
    | turn isAt => exact .inr ⟨_, _, _, _, isAt, rfl⟩
    | pause turn isOver => exact .inl (.single (.aside rfl rfl rfl))
    | @job job ready turn isFirst =>
      have taken : Trifle before { before with ready } := .aside rfl rfl rfl
      exact .inl (.head taken (start_trifles job _))
    | rest turn => exact .inl .refl
  | command command isBetween isMomentary isAllowed =>
    exact .inl (command_trifles before isMomentary)
  | elapse time => exact .inl (.single (.aside rfl rfl rfl))
  | ring =>
    obtain ⟨service, caches, journal, -⟩ := ring_keeps before
    exact .inl (.single (.aside service caches journal))
  | decide scripts habits => exact .inl (.single (.aside rfl rfl rfl))

theorem Trifles.writes {before after : Loop S} (trifles : Trifles before after) :
    Writes (fun entry => entry.isEnd = false) before after := by
  induction trifles with
  | refl => exact .of_eq rfl
  | tail _ trifle step =>
    cases trifle with
    | toil toil => exact step.trans (Toils.writes (.single toil))
    | aside _ _ journal => exact step.trans (.of_eq journal)

/-- Unless a turn ends, no entry about an end is written. -/
theorem Happens.writes (happens : Happens allowed before after) :
    Writes (fun entry => entry.isEnd = false) before after ∨
      ∃ task wake frame rest, before.IsAt task wake frame rest ∧
        after = afterTurn task frame rest (before.inTurn.frameTurn task frame wake) :=
  happens.trifles.imp_left Trifles.writes

/-- What is written at the end of a turn comes after what was written in it. -/
theorem afterTurn_journal (task : TaskId) (frame : Frame S.Point) (rest : List (Frame S.Point))
    (turn : Turn S) :
    (afterTurn task frame rest turn).journal =
      match turn.2 with
      | .finish outcome => .left task frame.activity outcome :: turn.1.journal
      | _ => turn.1.journal := by
  obtain ⟨loop, way⟩ := turn
  rw [afterTurn, (move_keeps (loop.noteEnd task frame way) task rest way).2.2]
  cases way <;> rfl

/-- An entry about the end of an activation was written at the end of a turn. -/
theorem Happens.left (happens : Happens allowed before after) {task : TaskId} {activity : Activity}
    {outcome : Outcome Answer} (member : .left task activity outcome ∈ after.journal) :
    .left task activity outcome ∈ before.journal ∨
      ∃ wake frame rest, before.IsAt task wake frame rest ∧ frame.activity = activity ∧
        (before.inTurn.frameTurn task frame wake).2 = .finish outcome ∧
        after = afterTurn task frame rest (before.inTurn.frameTurn task frame wake) := by
  have isOther : ¬ (Entry.left task activity outcome : Entry S.Call).isEnd = false :=
    Bool.noConfusion
  rcases happens.writes with writes | ⟨self, wake, frame, rest, isAt, same⟩
  · exact .inl ((writes.mem_iff isOther).mp member)
  · have wrote := frameTurn_writes self frame wake before.inTurn
    rw [same, afterTurn_journal] at member
    split at member
    · next ending finishes =>
      rcases List.mem_cons.mp member with isNew | isOld
      · cases isNew
        exact .inr ⟨wake, frame, rest, isAt, rfl, finishes, same⟩
      · exact .inl ((wrote.mem_iff isOther).mp isOld)
    · exact .inl ((wrote.mem_iff isOther).mp member)

/-- What is written stays written. -/
theorem Happens.written (happens : Happens allowed before after) {entry : Entry S.Call}
    (member : entry ∈ before.journal) : entry ∈ after.journal := by
  rcases happens.writes with ⟨entries, same, -⟩ | ⟨self, wake, frame, rest, isAt, same⟩
  · rw [same]
    exact List.mem_append_right entries member
  · obtain ⟨entries, wrote, -⟩ := frameTurn_writes self frame wake before.inTurn
    have early : entry ∈ (before.inTurn.frameTurn self frame wake).1.journal := by
      rw [wrote]
      exact List.mem_append_right entries member
    rw [same, afterTurn_journal]
    split
    · exact List.mem_cons_of_mem _ early
    · exact early

/-- The start of the cache has returned. -/
def HasStarted (cache : CacheId) (loop : Loop S) : Prop :=
  ∃ entry ∈ loop.journal, entry.isReturn cache = true

/-- The start of the cache had returned, or it returns in its turn, and has left a prompt behind. -/
theorem Happens.returned (happens : Happens allowed before after)
    (hasStarted : after.HasStarted cache) :
    before.HasStarted cache ∨ ∃ task wake buildInitial stage rest answer,
      before.IsAt task wake (.start cache buildInitial stage) rest ∧ stage ≠ .beginning ∧
        (before.inTurn.frameTurn task (.start cache buildInitial stage) wake).2 =
          .finish (.returned answer) ∧
        ¬ (before.inTurn.frameTurn task (.start cache buildInitial stage) wake).1.IsUnprompted
          cache ∧
        after = afterTurn task (.start cache buildInitial stage) rest
          (before.inTurn.frameTurn task (.start cache buildInitial stage) wake) := by
  obtain ⟨entry, member, isReturn⟩ := hasStarted
  unfold Entry.isReturn at isReturn
  split at isReturn
  · next task owner answer =>
    cases of_decide_eq_true isReturn
    rcases happens.left member with isOld | ⟨wake, frame, rest, isAt, activity, finishes, same⟩
    · exact .inl ⟨_, isOld, isReturn⟩
    refine .inr ?_
    cases frame with
    | start owner buildInitial stage =>
      cases activity
      have turn : stage ≠ .beginning ∧ ¬ (before.inTurn.frameTurn task
          (.start cache buildInitial stage) wake).1.IsUnprompted cache := by
        have ends := finishes
        unfold frameTurn at ends ⊢
        dsimp only at ends ⊢
        split at ends
        · exact startTurn_prompts ends
        · cases ends
      exact ⟨task, wake, buildInitial, stage, rest, answer, isAt, turn.1, finishes, turn.2, same⟩
    | _ => cases activity
  · cases isReturn

/-- A start that has just returned has left a prompt behind. -/
theorem Happens.hasStarted (happens : Happens allowed before after)
    (hasStarted : after.HasStarted cache) :
    before.HasStarted cache ∨ ¬ after.IsUnprompted cache ∧
      ∃ task wake buildInitial stage rest,
        before.IsAt task wake (.start cache buildInitial stage) rest ∧
        stage ≠ .beginning := by
  refine (happens.returned hasStarted).imp_right ?_
  rintro ⟨task, wake, buildInitial, stage, rest, answer, isAt, isUnderWay, -, prompted, rfl⟩
  exact ⟨fun unprompted => prompted ((afterTurn_retains task _ rest _).prompts unprompted),
    task, wake, buildInitial, stage, rest, isAt, isUnderWay⟩

/-! ## Lulls -/

/-- What is so in every run. -/
structure IsRegular (loop : Loop S) : Prop where
  believes : loop.Believes
  startsAreBegun : loop.StartsAreBegun
  areStacked : loop.AreStacked
  workersOwn : loop.WorkersOwn
  requestsStand : loop.RequestsStand fun _ _ => True
  askedStand : loop.AskedStand
  endedAreBare : loop.EndedAreBare
  hasBegun (cache : CacheId) : loop.HasStarted cache → loop.HasBegun cache

theorem Happens.hasBegun (happens : Happens allowed before after)
    (startsAreBegun : before.StartsAreBegun)
    (hasBegun : before.HasStarted cache → before.HasBegun cache)
    (hasStarted : after.HasStarted cache) :
    after.HasBegun cache := by
  have grows := happens.course.grows
  rcases happens.hasStarted hasStarted with
    earlier | ⟨-, task, wake, buildInitial, stage, rest, isAt, isUnderWay⟩
  · exact grows.hasBegun (hasBegun earlier)
  · exact grows.hasBegun (startsAreBegun.frame isAt.frames cache ⟨rfl, isUnderWay⟩)

theorem Reaches.isRegular {service : S.State} {last : Loop S}
    (run : Reaches allowed (fresh service) last) : last.IsRegular := by
  have started : last.StartsAreBegun ∧ ∀ cache, last.HasStarted cache → last.HasBegun cache := by
    induction run with
    | refl =>
      refine ⟨fresh_startsAreBegun service, ?_⟩
      rintro cache ⟨entry, member, -⟩
      simp [fresh] at member
    | tail run happens step =>
      exact ⟨happens.startsAreBegun step.1, fun cache => happens.hasBegun step.1 (step.2 cache)⟩
  exact {
    believes := run.believes
    startsAreBegun := started.1
    areStacked := run.areStacked (fresh_areStacked service)
    workersOwn := run.workersOwn
    requestsStand := run.requestsStand ⟨fun _ _ => trivial, fun _ _ _ _ _ _ _ _ => trivial⟩
    askedStand := run.askedStand
    endedAreBare := run.endedAreBare
    hasBegun := started.2 }

/-- Nothing prompts the cache to look at its node, and nothing that was prompted is under way. -/
structure IsLull (cache : CacheId) (loop : Loop S) : Prop where
  isUnprompted : loop.IsUnprompted cache
  hasStarted : loop.HasStarted cache
  isIdle (task : TaskId) (known : Task S) : loop.tasks[task]? = some known →
    known.role = .worker cache → known.frames = [.worker cache .taking]
  looks (task : TaskId) (path : String) (watcher : Subscriber) :
    (task, .look path watcher) ∈ loop.askedSince cache →
      ∃ outcome, loop.outcome? task = some outcome

/-- The cache is at rest: it is started and its start has returned, it believes to be connected, its
backlog is empty and its worker waits for an item, and neither a request nor the answer to one is
still to be dealt with. -/
structure IsAtRest (cache : CacheId) (known : Cache) (loop : Loop S) : Prop where
  isStarted : known.phase = .started
  hasStarted : loop.HasStarted cache
  isConnected : known.connected = true
  isEmpty : known.backlog.any (·.items.isEmpty) = true
  isIdle : ∀ worker ∈ loop.tasks, worker.role = .worker cache → worker.isTaking cache = true
  noRequest : ∀ request ∈ loop.tasks, request.role = .request cache .look ∨
    request.role = .request cache .fetch → request.hasEnded = true
  noAnswer : ∀ job ∈ loop.ready, job.isAnswer cache = false

instance (cache : CacheId) (known : Cache) (loop : Loop S) :
    Decidable (loop.IsAtRest cache known) :=
  have : Decidable (loop.HasStarted cache) :=
    inferInstanceAs (Decidable (∃ entry ∈ loop.journal, entry.isReturn cache = true))
  decidable_of_iff (known.phase = .started ∧ loop.HasStarted cache ∧ known.connected = true ∧
      known.backlog.any (·.items.isEmpty) = true ∧
      (∀ worker ∈ loop.tasks, worker.role = .worker cache → worker.isTaking cache = true) ∧
      (∀ request ∈ loop.tasks, request.role = .request cache .look ∨
        request.role = .request cache .fetch → request.hasEnded = true) ∧
      ∀ job ∈ loop.ready, job.isAnswer cache = false)
    ⟨fun ⟨isStarted, hasStarted, isConnected, isEmpty, isIdle, noRequest, noAnswer⟩ =>
      ⟨isStarted, hasStarted, isConnected, isEmpty, isIdle, noRequest, noAnswer⟩,
    fun ⟨isStarted, hasStarted, isConnected, isEmpty, isIdle, noRequest, noAnswer⟩ =>
      ⟨isStarted, hasStarted, isConnected, isEmpty, isIdle, noRequest, noAnswer⟩⟩

/-- A look that was asked for has its task. -/
theorem AskedStand.look {loop : Loop S} (askedStand : loop.AskedStand) {task : TaskId}
    {path : String} {watcher : Subscriber}
    (asked : (task, .look path watcher) ∈ loop.askedSince cache) :
    ∃ known, loop.tasks[task]? = some known ∧ known.role = .request cache .look := by
  obtain ⟨known, owner, query, isTask, role, -, isQuery⟩ :=
    askedStand cache task _ (askedSince_mem asked) (by simp [Request.watcher?])
  cases query with
  | look => exact ⟨known, isTask, role⟩
  | fetch => cases isQuery

/-- There is a lull when a cache is at rest. -/
theorem IsAtRest.isLull {known : Cache} {loop : Loop S} (isAtRest : loop.IsAtRest cache known)
    (isThere : loop.caches[cache]? = some known) (askedStand : loop.AskedStand) :
    loop.IsLull cache := by
  obtain ⟨backlog, has, empty⟩ := (Option.any_eq_true _ _).mp isAtRest.isEmpty
  refine ⟨⟨known, isThere, ?_, backlog, has, by simp [List.isEmpty_iff.mp empty]⟩,
    isAtRest.hasStarted,
    fun task worker found isWorker => ?_, fun task path watcher asked => ?_⟩
  · simp [Cache.isActive, Cache.isRunning, isAtRest.isStarted, isAtRest.isConnected]
  · exact Task.frames_of_isTaking (isAtRest.isIdle worker (List.mem_of_getElem? found) isWorker)
  · obtain ⟨request, found, role⟩ := askedStand.look asked
    obtain ⟨outcome, ended⟩ := Task.stage_of_hasEnded
      (isAtRest.noRequest request (List.mem_of_getElem? found) (.inl role))
    exact ⟨outcome, outcome?_eq_some.mpr ⟨request, found, ended⟩⟩

/-- A task whose turn is over and which is then an idle worker has been one, or it has just read the
node again. -/
theorem isIdle_of_turn (areStacked : before.AreStacked) {task : TaskId} {wake : Wake S.Reply}
    {frame : Frame S.Point} {rest : List (Frame S.Point)} (isAt : before.IsAt task wake frame rest)
    (isIdle : (before.inTurn.frameTurn task frame wake).2.frames rest = [.worker cache .taking]) :
    rest = [] ∧ ∃ stage, frame = .worker cache stage := by
  have isStack := areStacked.isAt isAt
  have follows := frameTurn_follows task frame wake before.inTurn
  generalize (before.inTurn.frameTurn task frame wake).2 = way at follows isIdle
  have ofFrame : ∀ next : Frame S.Point, next.activity = frame.activity →
      next :: rest = [.worker cache .taking] →
        rest = [] ∧ ∃ stage, frame = .worker cache stage := by
    intro next activity same
    cases same
    cases frame with
    | worker owner stage =>
      cases activity
      exact ⟨rfl, stage, rfl⟩
    | _ => cases activity
  cases follows with
  | goOn activity _ => exact ofFrame _ activity isIdle
  | await activity _ => exact ofFrame _ activity isIdle
  | call activity awaits isFirst => cases isIdle
  | finish outcome =>
    have below : rest = [.worker cache .taking] := isIdle
    subst below
    exact ((List.isChain_cons_cons.mp isStack).1).elim

theorem not_idle_of_stack {frame : Frame S.Point} {rest : List (Frame S.Point)}
    (isStack : IsStack (frame :: rest)) : rest ≠ [.worker cache .taking] := by
  rintro rfl
  exact (List.isChain_cons_cons.mp isStack).1

/-- A worker whose turn leaves a lull is idle after that. -/
theorem turn_isIdle (isRegular : before.IsRegular) {task : TaskId} {wake : Wake S.Reply}
    {stage : WorkerStage} {rest : List (Frame S.Point)}
    (isAt : before.IsAt task wake (.worker cache stage) rest)
    (lull : (afterTurn task (.worker cache stage) rest
      (before.inTurn.frameTurn task (.worker cache stage) wake)).IsLull cache) :
    (before.inTurn.frameTurn task (.worker cache stage) wake).2.frames rest =
      [.worker cache .taking] := by
  obtain ⟨self, found, frames⟩ := Option.map_eq_some_iff.mp isAt.frames
  obtain ⟨self', found', role', -⟩ :=
    (frameTurn_spares task (.worker cache stage) wake before.inTurn).old task self found
  have isWorker : self.role = .worker cache :=
    isRegular.workersOwn task self cache stage found (frames ▸ List.mem_cons_self)
  obtain ⟨last, isLast, role, lastFrames⟩ := (afterTurn_ends (.worker cache stage) rest found').self
    self' found'
  exact lastFrames.symm.trans (lull.isIdle task last isLast (role.trans (role'.trans isWorker)))

/-- In a turn no prompt is lost that would be missing in a lull. -/
theorem turn_retains (isRegular : before.IsRegular) (hasBegun : before.HasBegun cache)
    {task : TaskId} {wake : Wake S.Reply} {frame : Frame S.Point} {rest : List (Frame S.Point)}
    (isAt : before.IsAt task wake frame rest)
    (lull : (afterTurn task frame rest (before.inTurn.frameTurn task frame wake)).IsLull cache) :
    Retains cache before (before.inTurn.frameTurn task frame wake).1 := by
  obtain ⟨self, found, -⟩ := Option.map_eq_some_iff.mp isAt.frames
  have spares := frameTurn_spares task frame wake before.inTurn
  obtain ⟨self', found', -⟩ := spares.old task self found
  have ends := afterTurn_ends frame rest found'
  have inTurn : Retains cache before before.inTurn := .of_eq rfl rfl
  have believes : before.inTurn.Believes := isRegular.believes.of_eq rfl rfl
  refine inTurn.trans ?_
  rcases frameTurn_kinds task frame wake before.inTurn with
    ⟨point, tickets, alarms, rfl, same⟩ | ⟨owner, middle, -, prepares, labours⟩
  · rw [same]
    have set : Retains cache before.inTurn (before.inTurn.setService
        (S.resume (before.inTurn.moment task) point wake before.inTurn.service).state) :=
      .of_eq rfl rfl
    have reacted : Retains cache before.inTurn (before.inTurn.react task point wake) :=
      set.trans (perform_retains _ (setService_believes _ believes))
    exact reacted.trans (.of_eq rfl rfl)
  · have pulses := prepares.pulses (isRegular.startsAreBegun.frame isAt.frames)
    refine .trans (prepares.retains fun known item left isWorker isThere isFirst => ?_)
      (labours.toils.retains (pulses.believes believes) (pulses.grows.hasBegun hasBegun))
    by_contra isPrompt
    subst isWorker
    have isIdle := turn_isIdle isRegular isAt lull
    have isFree : rest ≠ [.worker cache .taking] :=
      not_idle_of_stack (isRegular.areStacked.isAt isAt)
    have turn : before.inTurn.frameTurn task (.worker cache .taking) wake =
        before.inTurn.workerTurn task cache known .taking wake := by
      unfold frameTurn
      simp only [isThere]
      rfl
    have unprompted :=
      (afterTurn_retains task (.worker cache .taking) rest _).prompts lull.isUnprompted
    rw [turn] at isIdle unprompted
    obtain ⟨path, watcher, asks⟩ := workerTurn_prompt isThere isFirst
      (Bool.not_eq_false _ ▸ isPrompt) rest isFree isIdle unprompted
    rw [← turn] at asks
    obtain ⟨outcome, ended⟩ := lull.looks _ path watcher
      ((afterTurn_retains task (.worker cache .taking) rest _).asked _ lull.isUnprompted asks)
    have isOld : task < before.tasks.length := (List.getElem?_eq_some_iff.mp found).1
    rw [ends.outcome_of_ne (by exact Nat.ne_of_gt isOld), spares.outcome] at ended
    obtain ⟨new, isNew, -⟩ := outcome?_eq_some.mp ended
    exact absurd (List.getElem?_eq_some_iff.mp isNew).1 (Nat.lt_irrefl _)

theorem Happens.retains (happens : Happens allowed before after) (isRegular : before.IsRegular)
    (hasBegun : before.HasBegun cache) (lull : after.IsLull cache) :
    Retains cache before after := by
  cases happens with
  | step =>
    have step := step_isStep before
    generalize before.step = after at step lull
    cases step with
    | @turn task wake frame rest isAt =>
      exact (turn_retains isRegular hasBegun isAt lull).trans (afterTurn_retains task frame rest _)
    | pause turn isOver => exact .of_eq rfl rfl
    | @job job ready turn isFirst =>
      have taken : Retains cache before { before with ready } := .of_eq rfl rfl
      have believes : ({ before with ready } : Loop S).Believes := isRegular.believes.of_eq rfl rfl
      refine taken.trans ?_
      unfold Loop.start
      split
      · split
        · exact .of_eq rfl rfl
        · exact .of_eq rfl rfl
        · exact .of_eq (finish_keeps _ _ _).2.1 (finish_keeps _ _ _).2.2.1
        · exact .refl _
      · split
        · obtain ⟨owner, labours⟩ := runHook_labours _ _ _ ({ before with ready } : Loop S)
          exact labours.toils.retains believes hasBegun
        · exact .refl _
    | rest turn => exact .refl before
  | command command isBetween isMomentary isAllowed =>
    have order := command_isOrder before command isMomentary
    generalize (before.command command).1 = after at order
    cases order with
    | stirs stirs => exact stirs.toils.retains isRegular.believes hasBegun
    | call stirs point =>
      exact (stirs.toils.retains isRegular.believes hasBegun).trans (.of_eq rfl rfl)
    | release tickets release _ =>
      refine releaseAll_keeps before release (fun loop task retains => retains.trans ?_) tickets
        (.refl before)
      exact .of_eq (wake_keeps loop task _).2.1 (wake_keeps loop task _).2.2.1
    | install name owner path stat data same =>
      exact (installFrom_toils owner path stat data before).retains isRegular.believes hasBegun
  | elapse time => exact .of_eq rfl rfl
  | ring => exact .of_eq (ring_keeps before).2.1 (ring_keeps before).2.2.1
  | decide scripts habits => exact .of_eq rfl rfl

theorem Happens.remains (happens : Happens allowed before after) : Remains before after := by
  have course := happens.course
  clear happens
  cases course with
  | spared spares steady => exact spares.remains
  | given isBetween found ends => exact ends.remains
  | @turn task wake frame rest isAt =>
    obtain ⟨known, found, -⟩ := Option.map_eq_some_iff.mp isAt.frames
    have spares := frameTurn_spares task frame wake before.inTurn
    obtain ⟨known', found', -⟩ := spares.old task known found
    have turn := spares.remains
    have ends := (afterTurn_ends frame rest found').remains
    refine ⟨turn.grows.trans ends.grows, fun other old earlier => ?_⟩
    obtain ⟨old', earlier', role⟩ := turn.roles other old earlier
    obtain ⟨old'', earlier'', role'⟩ := ends.roles other old' earlier'
    exact ⟨old'', earlier'', role'.trans role⟩
  | doomed isBetween was ends => exact ends.remains

/-- The workers that are idle in a lull have been idle. -/
theorem Happens.isIdle (happens : Happens allowed before after) (isRegular : before.IsRegular)
    (lull : after.IsLull cache) {task : TaskId} {old : Task S}
    (earlier : before.tasks[task]? = some old) (isWorker : old.role = .worker cache) :
    old.frames = [.worker cache .taking] := by
  obtain ⟨known, found, role⟩ := happens.remains.roles task old earlier
  have isIdle := lull.isIdle task known found (role.trans isWorker)
  cases happens.inherits found with
  | new unknown frames enters isNew => cases unknown.symm.trans earlier
  | doomed earlier' role' was frames => cases frames.symm.trans isIdle
  | kept earlier' role' frames steady =>
    cases earlier.symm.trans earlier'
    exact frames.symm.trans isIdle
  | @turn old' wake frame rest earlier' role' isAt same frames =>
    cases earlier.symm.trans earlier'
    obtain ⟨old', earlier', stack⟩ := Option.map_eq_some_iff.mp isAt.frames
    cases earlier.symm.trans earlier'
    rw [frames] at isIdle
    obtain ⟨rfl, stage, rfl⟩ := isIdle_of_turn isRegular.areStacked isAt isIdle
    cases stage with
    | taking => exact stack
    | resyncing =>
      rw [same] at lull
      have unprompted := (afterTurn_retains task (.worker cache .resyncing) [] _).prompts
        lull.isUnprompted
      unfold frameTurn at isIdle unprompted
      dsimp only at isIdle unprompted
      split at isIdle
      · next owner isThere =>
        simp only [isThere] at unprompted
        exact absurd unprompted (workerTurn_resynced isThere isIdle (by simp))
      · cases isIdle

/-- **A lull does not come about without a look**: either there was one before, or a look has just
ended that the cache asked for since the connection was last back. -/
theorem Happens.isLull (happens : Happens allowed before after) (isRegular : before.IsRegular)
    (lull : after.IsLull cache) :
    before.IsLull cache ∨ ∃ task path watcher outcome,
      (task, .look path watcher) ∈ after.askedSince cache ∧ before.outcome? task = none ∧
        after.outcome? task = some outcome := by
  by_cases looked : ∃ task path watcher, (task, .look path watcher) ∈ after.askedSince cache ∧
      before.outcome? task = none
  · obtain ⟨task, path, watcher, asked, isOpen⟩ := looked
    obtain ⟨outcome, ended⟩ := lull.looks task path watcher asked
    exact .inr ⟨task, path, watcher, outcome, asked, isOpen, ended⟩
  · have hasStarted : before.HasStarted cache := by
      rcases happens.hasStarted lull.hasStarted with earlier | ⟨prompted, -⟩
      · exact earlier
      · exact absurd lull.isUnprompted prompted
    have retains := happens.retains isRegular (isRegular.hasBegun cache hasStarted) lull
    refine .inl ⟨retains.prompts lull.isUnprompted, hasStarted, fun task known found isWorker =>
      happens.isIdle isRegular lull found isWorker, fun task path watcher asked => ?_⟩
    by_contra isOpen
    refine looked ⟨task, path, watcher, retains.asked _ lull.isUnprompted asked, ?_⟩
    exact Option.eq_none_iff_forall_ne_some.mpr fun outcome ended => isOpen ⟨outcome, ended⟩

end Steps

/-! ## What lasts through a lull -/

theorem afterTurn_service (task : TaskId) (frame : Frame S.Point) (rest : List (Frame S.Point))
    (turn : Turn S) : (afterTurn task frame rest turn).service = turn.1.service := by
  have noted : (turn.1.noteEnd task frame turn.2).service = turn.1.service := by
    unfold noteEnd
    split <;> rfl
  rw [afterTurn, (move_keeps _ task rest _).1, noted]

section Lasting

variable {allowed : Outside S} {before after : Loop S} {cache : CacheId} {holds : S.State → Prop}

/-- A property of the service that it does not lose, unless it alerts the cache, but for what comes
of calls. -/
structure Lasting (cache : CacheId) (holds : S.State → Prop) : Prop where
  occurred (moment : Moment) (event : S.Event) (state : S.State)
    (occurrence : Occurrence S.State S.Call S.Point S.Reply) : holds state →
      S.occur moment event state = .ok occurrence →
        holds occurrence.state ∨ Alerts cache occurrence.effects
  connected (arguments : Table Value) (state state' : S.State)
    (effects : List (Effect S.Call S.Point S.Reply)) (handle : Handle) : holds state →
      S.connect arguments state = .ok (state', effects, handle) →
        holds state' ∨ Alerts cache effects
  adopted (handle : Handle) (state : S.State) : holds state → holds (S.adopt handle state)
  listens (handle : Option Handle) (listener : Subscriber) (state : S.State) :
    holds state → holds (S.listen handle listener state)
  unlistens (handle : Option Handle) (listener : Subscriber) (state : S.State) :
    holds state → holds (S.unlisten handle listener state)

variable (lasting : Lasting cache holds)

include lasting

theorem changeListeners_lasts (handle : Handle) (habit : Habit) {loop : Loop S}
    (start : holds loop.service) : holds (loop.changeListeners handle habit).service := by
  have added : ∀ (names : List String) (state : S.State), holds state →
      holds (names.foldl (fun state name => S.listen (some handle) (.named name) state) state) := by
    intro names
    induction names with
    | nil => exact fun state => id
    | cons name rest step => exact fun state start => step _ (lasting.listens _ _ state start)
  have removed : ∀ (names : List String) (state : S.State), holds state →
      holds
        (names.foldl (fun state name => S.unlisten (some handle) (.named name) state) state) := by
    intro names
    induction names with
    | nil => exact fun state => id
    | cons name rest step => exact fun state start => step _ (lasting.unlistens _ _ state start)
  exact removed _ _ (added _ _ start)

theorem Ripple.lasts (ripple : Ripple before after) (start : holds before.service) :
    holds after.service := by
  cases ripple with
  | note entry isShown => exact start
  | told owner link => exact (linkChanged_keeps before owner link).1 ▸ start
  | fired owner => exact (refresh_keeps (before.note (.fired owner)) owner).1 ▸ start
  | listeners handle habit => exact changeListeners_lasts lasting handle habit start
  | reply task reply => exact (wake_keeps before task _).1 ▸ start
  | cancel task => exact (cancelErrand_keeps before task).1 ▸ start
  | errand point => exact start

theorem perform_lasts (effects : List (Effect S.Call S.Point S.Reply)) {loop : Loop S}
    (start : holds loop.service) : holds (loop.perform effects).service := by
  have ripples := perform_ripples effects loop
  generalize loop.perform effects = after at ripples
  induction ripples with
  | refl => exact start
  | tail _ ripple step => exact ripple.lasts lasting step

/-- What a service does with effects keeps the property, where nothing prompts the cache after
that. -/
theorem effected_lasts {effects : List (Effect S.Call S.Point S.Reply)} {state : S.State}
    {loop : Loop S} (believes : loop.Believes) (kept : holds state ∨ Alerts cache effects)
    (unprompted : ((loop.setService state).perform effects).IsUnprompted cache) :
    holds ((loop.setService state).perform effects).service := by
  rcases kept with start | alerts
  · exact perform_lasts lasting effects start
  · exact absurd unprompted (alerts.prompts (setService_believes state believes))

theorem Stir.lasts (stir : Stir before after) (believes : before.Believes)
    (unprompted : after.IsUnprompted cache) (start : holds before.service) :
    holds after.service := by
  cases stir with
  | reset owner => exact (refresh_keeps (before.note (.reset owner)) owner).1 ▸ start
  | happen event =>
    unfold Loop.happen at unprompted ⊢
    split at unprompted
    · exact start
    · next occurrence occurs =>
      exact effected_lasts lasting believes
        (lasting.occurred _ _ _ occurrence start occurs) unprompted
  | connect settings =>
    unfold Loop.connect at unprompted ⊢
    split at unprompted
    · exact start
    · split at unprompted
      · exact start
      · next opens =>
        exact effected_lasts lasting believes (lasting.connected _ _ _ _ _ start opens) unprompted
  | adopt handle => exact lasting.adopted handle _ start
  | shut owner known found =>
    unfold Loop.shut
    refine lasting.unlistens _ _ _ ?_
    unfold stopCache
    split
    · rwa [(post_keeps _ owner .stop).1]
    · exact start
  | wake task why isPlain => exact (wake_keeps before task why).1 ▸ start
  | count task => exact (countDown_keeps before task).1 ▸ start
  | hook task hook isPlain => exact (addHook_keeps before task hook).1 ▸ start
  | _ => exact start

theorem Toil.lasts (toil : Toil before after) (believes : before.Believes)
    (unprompted : after.IsUnprompted cache) (start : holds before.service) :
    holds after.service := by
  cases toil with
  | stir stir => exact stir.lasts lasting believes unprompted start
  | ask owner query =>
    cases found : before.caches[owner]? with
    | none => rwa [ask_none query found]
    | some known =>
      rwa [ask_eq query found, (addHook_keeps _ _ _).1]
  | post owner item => exact (post_keeps before owner item).1 ▸ start
  | refresh owner => exact (refresh_keeps before owner).1 ▸ start
  | _ => exact start

theorem Toils.lasts (toils : Toils before after) (believes : before.Believes)
    (hasBegun : before.HasBegun cache) (unprompted : after.IsUnprompted cache)
    (start : holds before.service) : holds after.service := by
  induction toils with
  | refl => exact start
  | tail earlier toil step =>
    have pulses := Toils.pulses earlier
    have believed := pulses.believes believes
    have still := (toil.retains believed (pulses.grows.hasBegun hasBegun)).prompts unprompted
    exact toil.lasts lasting believed unprompted (step still)

theorem turn_lasts (isRegular : before.IsRegular) (hasBegun : before.HasBegun cache) {task : TaskId}
    {wake : Wake S.Reply} {frame : Frame S.Point} {rest : List (Frame S.Point)}
    (isAt : before.IsAt task wake frame rest)
    (unprompted : (before.inTurn.frameTurn task frame wake).1.IsUnprompted cache)
    (resumed : ∀ point, frame = .service point →
      holds (S.resume (before.inTurn.moment task) point wake before.service).state ∨
        Alerts cache (S.resume (before.inTurn.moment task) point wake before.service).effects)
    (start : holds before.service) : holds (before.inTurn.frameTurn task frame wake).1.service := by
  have believes : before.inTurn.Believes := isRegular.believes.of_eq rfl rfl
  rcases frameTurn_kinds task frame wake before.inTurn with
    ⟨point, tickets, alarms, rfl, same⟩ | ⟨owner, middle, -, prepares, labours⟩
  · rw [same] at unprompted ⊢
    exact effected_lasts lasting believes (resumed point rfl) unprompted
  · have pulses := prepares.pulses (isRegular.startsAreBegun.frame isAt.frames)
    refine labours.toils.lasts lasting (pulses.believes believes) (pulses.grows.hasBegun hasBegun)
      unprompted ?_
    cases prepares with
    | listen isStart isReady found => exact lasting.listens _ _ _ start
    | _ => exact start

/-- **What lasts is so after a step that leaves a lull**, if calls keep it. -/
theorem Happens.lasts (happens : Happens allowed before after) (isRegular : before.IsRegular)
    (lull : after.IsLull cache)
    (resumed : ∀ task wake point rest, before.IsAt task wake (.service point) rest →
      holds (S.resume (before.inTurn.moment task) point wake before.service).state ∨
        Alerts cache (S.resume (before.inTurn.moment task) point wake before.service).effects)
    (start : holds before.service) : holds after.service := by
  have hasStarted : before.HasStarted cache :=
    (happens.hasStarted lull.hasStarted).resolve_right fun prompted => prompted.1 lull.isUnprompted
  have hasBegun := isRegular.hasBegun cache hasStarted
  cases happens with
  | step =>
    have step := step_isStep before
    generalize before.step = after at step lull
    cases step with
    | @turn task wake frame rest isAt =>
      have unprompted := (afterTurn_retains task frame rest _).prompts lull.isUnprompted
      have kept := turn_lasts lasting isRegular hasBegun isAt unprompted
        (fun point same => resumed task wake point rest (same ▸ isAt)) start
      rwa [afterTurn_service]
    | pause turn isOver => exact start
    | @job job ready turn isFirst =>
      have believes : ({ before with ready } : Loop S).Believes := isRegular.believes.of_eq rfl rfl
      have unprompted := lull.isUnprompted
      unfold Loop.start at unprompted ⊢
      split at unprompted
      · split at unprompted
        · exact start
        · exact start
        · rwa [(finish_keeps _ _ _).1]
        · exact start
      · split at unprompted
        · obtain ⟨owner, labours⟩ := runHook_labours _ _ _ ({ before with ready } : Loop S)
          exact labours.toils.lasts lasting believes hasBegun unprompted start
        · exact start
    | rest turn => exact start
  | command command isBetween isMomentary isAllowed =>
    have order := command_isOrder before command isMomentary
    have unprompted := lull.isUnprompted
    generalize (before.command command).1 = after at order unprompted
    cases order with
    | stirs stirs => exact stirs.toils.lasts lasting isRegular.believes hasBegun unprompted start
    | @call after stirs point =>
      have still : after.IsUnprompted cache := unprompted
      have kept : holds after.service :=
        stirs.toils.lasts lasting isRegular.believes hasBegun still start
      exact kept
    | release tickets release _ =>
      have kept : ∀ (loop : Loop S) (task : TaskId), holds loop.service →
          holds (loop.wake task (wakeOf release)).service := fun loop task start => by
        rwa [(wake_keeps loop task _).1]
      exact releaseAll_keeps before release kept tickets start
    | install name owner path stat data same =>
      exact (installFrom_toils owner path stat data before).lasts lasting
        isRegular.believes hasBegun
        unprompted start
  | elapse time => exact start
  | ring => exact (ring_keeps before).1 ▸ start
  | decide scripts habits => exact start

end Lasting

end Loop

end WatchedNode
