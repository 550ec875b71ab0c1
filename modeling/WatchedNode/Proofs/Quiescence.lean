/-
**Waiting until a cache has come to rest.**

Who waits for a cache looks whether a request is pending, waits for the queue to be drained, and
looks again. When the queue is drained, the waiting task is let go, but its turn comes only after
what was ready before that. If the answer to a request is among these jobs, it is put into the queue
again, and the request is not pending any more: the task returns, and the answer is still to be
dealt with (`returns_before_answer`). This is the only way in which that can happen (`rests_iff`).
-/
import WatchedNode.Proofs.Loop.Workers
import WatchedNode.Proofs.Loop.Progress
import WatchedNode.Proofs.Closing

namespace WatchedNode

open Relation

variable {S : Service}

/-- The item says what a request has ended in. -/
def Item.isCompletion : Item → Bool
  | .looked _ | .fetched _ => true
  | _ => false

theorem Item.isCompletion_of_asking {item : Item} (isAsking : item.isAsking) :
    item.isCompletion = false := by
  cases item with
  | check | resync => rfl
  | looked _ | fetched _ | stop => exact isAsking.elim

/-- Only waiting does what waiting does. -/
theorem Frame.eq_wait {Point : Type} {frame : Frame Point} {cache : CacheId}
    (activity : frame.activity = .wait cache) : ∃ stage, frame = .wait cache stage := by
  cases frame with
  | wait owner stage =>
    cases activity
    exact ⟨stage, rfl⟩
  | _ => cases activity

namespace Loop

variable {allowed : Outside S} {before after loop last : Loop S} {cache : CacheId} {waiter : TaskId}

/-! ## Completions in the queue -/

/-- The cache runs. -/
def Runs (cache : CacheId) (loop : Loop S) : Prop :=
  ∃ duty, loop.duty? cache = some duty ∧ duty.phase = .started

/-- What a request of the cache has ended in is still to be dealt with. -/
def HasCompletion (cache : CacheId) (loop : Loop S) : Prop :=
  ∃ duty backlog, loop.duty? cache = some duty ∧ duty.backlog = some backlog ∧
    ∃ item ∈ backlog.items, item.isCompletion = true

section Completions

theorem hasCompletion_of_eq (duty : after.duty? cache = before.duty? cache) :
    after.HasCompletion cache ↔ before.HasCompletion cache := by
  rw [HasCompletion, duty, HasCompletion]

/-- What the queue of a cache has. -/
theorem hasCompletion_iff {duty : Duty} {backlog : Backlog} (is : loop.duty? cache = some duty)
    (has : duty.backlog = some backlog) :
    loop.HasCompletion cache ↔ ∃ item ∈ backlog.items, item.isCompletion = true := by
  constructor
  · rintro ⟨duty', backlog', is', has', found⟩
    cases is.symm.trans is'
    cases has.symm.trans has'
    exact found
  · exact fun found => ⟨duty, backlog, is, has, found⟩

/-- A cache that has no queue has nothing to deal with. -/
theorem not_hasCompletion_of_bare
    (isBare : ∀ duty, loop.duty? cache = some duty → duty.backlog = none) :
    ¬ loop.HasCompletion cache := by
  rintro ⟨duty, backlog, is, has, -⟩
  cases (isBare duty is).symm.trans has

/-- What comes last in the queue. -/
theorem exists_append {items more : List Item} :
    (∃ item ∈ items ++ more, item.isCompletion = true) ↔
      (∃ item ∈ items, item.isCompletion = true) ∨ ∃ item ∈ more, item.isCompletion = true := by
  simp only [List.mem_append, or_and_right, exists_or]

/-- Prompts are nothing that requests have ended in. -/
theorem not_exists_of_asking {items : List Item} (areAsking : ∀ item ∈ items, item.isAsking) :
    ¬ ∃ item ∈ items, item.isCompletion = true := by
  rintro ⟨item, member, isCompletion⟩
  rw [Item.isCompletion_of_asking (areAsking item member)] at isCompletion
  cases isCompletion

theorem Feeds.hasCompletion {items : List Item} (feeds : Feeds cache items before after)
    (areAsking : ∀ item ∈ items, item.isAsking) :
    after.HasCompletion cache ↔ before.HasCompletion cache := by
  cases was : before.duty? cache with
  | none =>
    have bare : ∀ duty, before.duty? cache = some duty → duty.backlog = none := by simp [was]
    have bare' : ∀ duty, after.duty? cache = some duty → duty.backlog = none := by
      intro duty is
      rw [feeds.new was duty is]
    exact iff_of_false (not_hasCompletion_of_bare bare') (not_hasCompletion_of_bare bare)
  | some duty =>
    have is := feeds.old duty was
    cases has : duty.backlog with
    | none =>
      refine iff_of_false (not_hasCompletion_of_bare fun duty' is' => ?_)
        (not_hasCompletion_of_bare fun duty' was' => ?_)
      · cases is.symm.trans is'
        simp [Duty.feed, has]
      · cases was.symm.trans was'
        exact has
    | some backlog =>
      have has' : (duty.feed items).backlog = some (backlog.puts items) := by simp [Duty.feed, has]
      rw [hasCompletion_iff is has', hasCompletion_iff was has, Backlog.puts_eq, exists_append]
      exact or_iff_left (not_exists_of_asking areAsking)

/-- The end mark is nothing that a request has ended in. -/
theorem hasCompletion_of_closed (is : after.duty? cache = (before.duty? cache).map Duty.closed) :
    after.HasCompletion cache ↔ before.HasCompletion cache := by
  cases was : before.duty? cache with
  | none =>
    rw [was, Option.map_none] at is
    exact iff_of_false (not_hasCompletion_of_bare (by simp [is]))
      (not_hasCompletion_of_bare (by simp [was]))
  | some duty =>
    rw [was, Option.map_some] at is
    cases has : duty.backlog with
    | none =>
      have bare : duty.closed.backlog = none := by
        unfold Duty.closed
        split <;> simp [has]
      exact iff_of_false (not_hasCompletion_of_bare (by simp [is, bare]))
        (not_hasCompletion_of_bare (by simp [was, has]))
    | some backlog =>
      rw [hasCompletion_iff was has]
      by_cases runs : duty.phase = .started
      · have has' : duty.closed.backlog = some (backlog.put .stop) := by
          simp [Duty.closed, runs, has]
        rw [hasCompletion_iff is has', Backlog.put, exists_append]
        exact or_iff_left (by simp [Item.isCompletion])
      · have has' : duty.closed.backlog = some backlog := by simp [Duty.closed, runs, has]
        exact hasCompletion_iff is has'

/-- The worker puts nothing into the queue that requests have ended in. -/
theorem hasCompletion_of_taken {duty duty' : Duty} {backlog backlog' : Backlog}
    (was : before.duty? cache = some duty) (had : duty.backlog = some backlog)
    (is : after.duty? cache = some duty') (has : duty'.backlog = some backlog')
    (same : ∀ item ∈ backlog'.items, item ∈ backlog.items ∨ item.isAsking)
    (completed : after.HasCompletion cache) :
    before.HasCompletion cache := by
  rw [hasCompletion_iff is has] at completed
  obtain ⟨item, member, isCompletion⟩ := completed
  refine (hasCompletion_iff was had).mpr ⟨item, (same item member).resolve_right fun isAsking => ?_,
    isCompletion⟩
  rw [Item.isCompletion_of_asking isAsking] at isCompletion
  cases isCompletion

/-- **In a turn nothing is put into the queue that requests have ended in**, and only the worker
takes out what was there. -/
theorem Tends.hasCompletion {self : TaskId} {frame : Frame S.Point} {wake : Wake S.Reply}
    {turn : Turn S} (tends : Tends cache self loop frame wake turn)
    (isBare : ∀ duty, loop.duty? cache = some duty → duty.phase = .latent → duty.backlog = none) :
    (turn.1.HasCompletion cache ↔ loop.HasCompletion cache) ∨
      (∃ stage, frame = .worker cache stage) ∧
        (turn.1.HasCompletion cache → loop.HasCompletion cache) := by
  cases tends with
  | feeds isOther areAsking feeds => exact .inl (feeds.hasCompletion areAsking)
  | begins was isLatent is =>
    refine .inl (iff_of_false ?_ (not_hasCompletion_of_bare fun duty was' => ?_))
    · rw [hasCompletion_iff is rfl]
      simp
    · cases was.symm.trans was'
      exact isBare _ was isLatent
  | closes is => exact .inl (hasCompletion_of_closed is)
  | joins was has isBusy is =>
    exact .inl ((hasCompletion_iff is rfl).trans (hasCompletion_iff was has).symm)
  | quits => exact .inl .rfl
  | @idles _ _ duty was isPlain isEmpty is way =>
    refine .inl ?_
    cases has : duty.backlog with
    | none =>
      refine iff_of_false (not_hasCompletion_of_bare fun duty' is' => ?_)
        (not_hasCompletion_of_bare fun duty' was' => ?_)
      · cases is.symm.trans is'
        simp [has]
      · cases was.symm.trans was'
        exact has
    | some backlog =>
      have has' : duty.backlog.map (Backlog.await self) = some (backlog.await self) := by
        rw [has]; rfl
      exact (hasCompletion_iff is has').trans (hasCompletion_iff was has).symm
  | reads was isPlain has taken is way =>
    refine .inr ⟨⟨_, rfl⟩, hasCompletion_of_taken was has is rfl fun item member => .inl ?_⟩
    rw [(Backlog.take?_eq_some taken).1]
    exact List.mem_cons_of_mem _ member
  | @works _ _ duty backlog rest item items was isPlain has taken areAsking runs is either =>
    refine .inr ⟨⟨_, rfl⟩, hasCompletion_of_taken was has is rfl fun item member => ?_⟩
    rw [(done_eq _).1, Backlog.puts_eq] at member
    rcases List.mem_append.mp member with isOld | isNew
    · rw [(Backlog.take?_eq_some taken).1]
      exact .inl (List.mem_cons_of_mem _ isOld)
    · exact .inr (areAsking item isNew)
  | @returns _ _ duty items was areAsking runs is either =>
    refine .inr ⟨⟨_, rfl⟩, fun completed => ?_⟩
    cases has : duty.backlog with
    | none =>
      refine absurd completed (not_hasCompletion_of_bare fun duty' is' => ?_)
      cases is.symm.trans is'
      simp [itemDoneDuty, Duty.feed, has]
    | some backlog =>
      refine hasCompletion_of_taken was has is (show (itemDoneDuty (duty.feed items)).backlog =
        some (backlog.puts items).done.2 by simp [itemDoneDuty, Duty.feed, has]) (fun item member =>
          ?_) completed
      rw [(done_eq _).1, Backlog.puts_eq] at member
      exact (List.mem_append.mp member).imp_right (areAsking item)

end Completions

/-! ## Before a task's turn -/

/-- What happens while a task is to have its turn: more becomes ready after what was, or the first
job is begun, and what requests have ended in comes into the queue only if that is what the job is
for. -/
inductive Progresses (cache : CacheId) (waiter : TaskId) (before : Loop S) : Loop S → Prop
  /-- The task has its turn. -/
  | own {wake : Wake S.Reply} {frame : Frame S.Point} {rest : List (Frame S.Point)}
      (isAt : before.IsAt waiter wake frame rest) :
      Progresses cache waiter before
        (afterTurn waiter frame rest (before.inTurn.frameTurn waiter frame wake))
  | lines {after : Loop S} {jobs : List Job} (ready : after.ready = before.ready ++ jobs)
      (lets : Lets waiter before after)
      (turn : ∀ task wake, after.turn = some (task, wake) → ∃ why, before.turn = some (task, why))
      (completions : (after.HasCompletion cache ↔ before.HasCompletion cache) ∨
        (∃ task wake stage rest, before.IsAt task wake (.worker cache stage) rest) ∧
          (after.HasCompletion cache → before.HasCompletion cache)) :
          Progresses cache waiter before after
  | begun {after : Loop S} {job : Job} {rest jobs : List Job} (isBetween : before.turn = none)
      (isFirst : before.ready = job :: rest) (ready : after.ready = rest ++ jobs)
      (lets : job ≠ .resume waiter → Lets waiter before after)
      (runs : job = .resume waiter → (∃ known, before.tasks[waiter]? = some known ∧
          after.tasks[waiter]? = some { known with status := .running }) ∨
        (after.tasks[waiter]?).map (·.frames) = some [] ∨ before.isDue waiter = false)
      (turn : ∀ task wake, after.turn = some (task, wake) → job = .resume task)
      (completions : before.Runs cache →
        (after.HasCompletion cache ↔ before.HasCompletion cache ∨ job.isAnswer cache = true)) :
      Progresses cache waiter before after

/-- What becomes of an answer comes into the queue of its cache, which runs. -/
theorem answered_hasCompletion {owner : CacheId} {query : Query} {task : TaskId}
    {outcome : Outcome Answer} (isManned : IsManned cache loop) (runs : loop.Runs cache) :
    (loop.answered owner query task outcome).HasCompletion cache ↔
      loop.HasCompletion cache ∨ owner = cache := by
  obtain ⟨duty, was, isStarted⟩ := runs
  have answered := answered_duty? owner query task outcome loop cache
  cases isManned with
  | off isNew => cases (congrArg Duty.phase (isNew duty was)).symm.trans isStarted
  | @on duty' backlog worker known crew =>
    cases was.symm.trans crew.is
    by_cases here : cache = owner
    · rw [if_pos ⟨here, by simp [was, isStarted]⟩, was, Option.map_some] at answered
      refine iff_of_true ?_ (.inr here.symm)
      refine (hasCompletion_iff answered
        (show (duty.feed _).backlog = some (backlog.puts [query.answer outcome]) by
        simp [Duty.feed, crew.has])).mpr ⟨query.answer outcome, ?_, ?_⟩
      · simp [Backlog.puts_eq]
      · cases query <;> rfl
    · rw [if_neg fun both => here both.1] at answered
      rw [hasCompletion_of_eq answered]
      exact (or_iff_left fun same => here same.symm).symm

/-- The turn of another task. -/
theorem IsAt.progresses {task : TaskId} {wake : Wake S.Reply} {frame : Frame S.Point}
    {rest : List (Frame S.Point)} {turn : Turn S} (isAt : before.IsAt task wake frame rest)
    (different : task ≠ waiter) (same : turn = before.inTurn.frameTurn task frame wake)
    (plays : Plays task before.inTurn frame wake turn) (turnRuns : before.TurnRuns)
    (isBare : ∀ duty, before.duty? cache = some duty → duty.phase = .latent → duty.backlog = none) :
    Progresses cache waiter before (afterTurn task frame rest turn) := by
  have runsOn := frameTurn_running isAt turnRuns
  rw [← same] at runsOn
  obtain ⟨jobs, ready⟩ := (plays.queues.trans (afterTurn_queues frame rest runsOn)).ready
  refine .lines ready
    (.trans (.of_eq (by rfl)) (plays.lets.trans (afterTurn_lets different frame rest turn)))
    (fun other why given => ?_) ?_
  · have isBetween : turn.1.turn = none := by
      rw [same]
      exact frameTurn_turn task frame wake before.inTurn
    obtain ⟨rfl, -⟩ := afterTurn_goesOn_plain isBetween given
    exact ⟨wake, isAt.turn⟩
  · have ended := hasCompletion_of_eq (afterTurn_duty? task frame rest turn cache)
    refine ((plays.tends cache).hasCompletion isBare).imp (fun same => ended.trans same)
      fun worked => ?_
    obtain ⟨⟨stage, rfl⟩, fewer⟩ := worked
    exact ⟨⟨task, wake, stage, rest, isAt⟩, fun completed => fewer (ended.mp completed)⟩

section Begun

variable {task : TaskId} {ready : List Job} (isBetween : before.turn = none)

include isBetween

/-- A task is given its turn. -/
theorem Progresses.run {status : Status S.Reply} {wake : Wake S.Reply}
    (isFirst : before.ready = .resume task :: ready) (was : before.status? task = some status) :
    Progresses cache waiter before
      ((({ before with ready } : Loop S).setStatus task .running).give task wake) := by
  refine .begun isBetween isFirst (List.append_nil _).symm (fun isOther => ?_) (fun same => ?_)
    (fun other why given => ?_) ?_
  · exact .trans (.of_eq (by rfl))
      (.trans (.modifyTask task fun here => absurd (by rw [here]) isOther) (.of_eq (by rfl)))
  · cases same
    obtain ⟨known, found, -⟩ := Option.map_eq_some_iff.mp was
    refine .inl ⟨known, found, ?_⟩
    show (before.tasks.modify waiter fun task => { task with status := .running })[waiter]? = _
    rw [List.getElem?_modify_eq, found]
    rfl
  · cases given
    rfl
  · exact fun _ => (hasCompletion_of_eq rfl).trans (or_iff_left (by simp [Job.isAnswer])).symm

/-- A task ends that was cancelled before its first turn. -/
theorem Progresses.doom (isFirst : before.ready = .resume task :: ready)
    (was : before.status? task = some .doomed) :
    Progresses cache waiter before (({ before with ready } : Loop S).finish task .cancelled) := by
  have queues : Queues (({ before with ready } : Loop S).modifyTask task fun task =>
      { task with status := .ended .cancelled, hooks := [], frames := [] })
      (({ before with ready } : Loop S).finish task .cancelled) :=
    .changes _ (fun loop hook => trigger_queues task .cancelled hook loop) _ _
  obtain ⟨jobs, pushed⟩ := queues.ready
  refine .begun isBetween isFirst pushed (fun isOther => ?_) (fun same => .inr (.inl ?_))
    (fun other why given => ?_) ?_
  · exact .trans (.of_eq (by rfl)) (finish_lets (fun here => isOther (by rw [here])) .cancelled _)
  · cases same
    obtain ⟨known, found, -⟩ := Option.map_eq_some_iff.mp was
    obtain ⟨known', found', -, frames⟩ :=
      (finish_ends waiter .cancelled ({ before with ready } : Loop S)).self known found
    rw [found', Option.map_some, frames]
  · rw [(finish_keeps _ _ _).2.2.2] at given
    cases isBetween.symm.trans given
  · refine fun _ => (hasCompletion_of_eq ?_).trans (or_iff_left (by simp [Job.isAnswer])).symm
    exact congrArg (fun caches => (caches[cache]?).map Cache.duty) (finish_keeps _ _ _).2.1

/-- A task that has had its turn is passed over. -/
theorem Progresses.stale (isFirst : before.ready = .resume task :: ready)
    (isOver : before.status? task ≠ some .fresh ∧ before.status? task ≠ some .doomed ∧
      ∀ on wake, before.status? task ≠ some (.woken on wake)) :
    Progresses cache waiter before { before with ready } := by
  refine .begun isBetween isFirst (List.append_nil _).symm (fun _ => .of_eq rfl)
    (fun same => .inr (.inr ?_))
    (fun other why given => ?_) ?_
  · cases same
    obtain ⟨notFresh, notDoomed, notWoken⟩ := isOver
    cases status : before.status? waiter with
    | none => simp [isDue, status]
    | some status' =>
      cases status' with
      | fresh => exact absurd status notFresh
      | doomed => exact absurd status notDoomed
      | woken on wake => exact absurd status (notWoken on wake)
      | _ => simp [isDue, status, Status.isDue]
  · cases isBetween.symm.trans given
  · exact fun _ => (hasCompletion_of_eq rfl).trans (or_iff_left (by simp [Job.isAnswer])).symm

/-- What a request has ended in comes into the queue of its cache. -/
theorem Progresses.answer {owner : CacheId} {query : Query} {outcome : Outcome Answer}
    (isFirst : before.ready = .hook (.answered owner query) task :: ready)
    (isManned : IsManned cache before) :
    Progresses cache waiter before
      (({ before with ready } : Loop S).answered owner query task outcome) := by
  have kept :
      (∃ jobs, (({ before with ready } : Loop S).answered owner query task outcome).ready =
        ready ++ jobs) ∧
      Lets waiter before (({ before with ready } : Loop S).answered owner query task outcome) := by
    unfold answered
    dsimp only
    split
    · exact ⟨(post_queues _ _ _).ready, .trans (.of_eq (by rfl)) (post_lets _ _ _)⟩
    · exact ⟨⟨[], (List.append_nil _).symm⟩, .of_eq rfl⟩
  obtain ⟨⟨jobs, pushed⟩, lets⟩ := kept
  refine .begun isBetween isFirst pushed (fun _ => lets) (fun same => by cases same)
    (fun other why given => ?_) ?_
  · rw [(answered_stays _ _ _ _ _).2] at given
    cases isBetween.symm.trans given
  · intro runs
    have quiet : IsManned cache ({ before with ready } : Loop S) := by
      cases isManned with
      | off isNew nobody => exact .off isNew nobody
      | on crew => exact .on { crew with }
    exact (answered_hasCompletion quiet runs).trans (or_congr .rfl (by simp [Job.isAnswer]))

/-- A hook puts nothing into a queue that a request has ended in. -/
theorem Progresses.hook {hook : Hook} {drops : TaskId → Prop}
    (isFirst : before.ready = .hook hook task :: ready)
    (isOther : (Job.hook hook task).isAnswer cache = false)
    (does : Grains False drops { before with ready } after ∨
      ∃ waiting outcome, hook = .resume waiting ∧
        after = ({ before with ready } : Loop S).wake waiting (.ended outcome)) :
    Progresses cache waiter before after := by
  rcases does with grains | ⟨waiting, outcome, -, same⟩
  · obtain ⟨items, areAsking, feeds⟩ := Grains.feeds grains cache
    obtain ⟨jobs, pushed⟩ := (Grains.queues grains).ready
    refine .begun isBetween isFirst pushed (fun _ => .trans (.of_eq (by rfl)) (Grains.lets grains))
      (fun same => by cases same) (fun other why given => ?_) ?_
    · cases isBetween.symm.trans ((Grains.turn grains) ▸ given)
    · exact fun _ => (feeds.hasCompletion areAsking).trans (or_iff_left (by simp [isOther])).symm
  · subst same
    obtain ⟨jobs, pushed⟩ :=
      (wake_queues waiting (.ended outcome) ({ before with ready } : Loop S)).ready
    refine .begun isBetween isFirst pushed
      (fun _ => .trans (.of_eq (by rfl)) (wake_lets waiting (.inl (by simp))))
      (fun same => by cases same) (fun other why given => ?_) ?_
    · rw [(wake_keeps _ _ _).2.2.2] at given
      cases isBetween.symm.trans given
    · exact fun _ =>
        (hasCompletion_of_eq (wake_duty? _ _ _ _)).trans (or_iff_left (by simp [isOther])).symm

end Begun

/-- **Whatever happens while a task is to have its turn** is of these kinds. -/
theorem Passes.progresses (passes : Passes before after) (turnRuns : before.TurnRuns)
    (answersAreDue : before.AnswersAreDue) (isManned : IsManned cache before) (waiter : TaskId) :
    Progresses cache waiter before after := by
  have isBare : ∀ duty, before.duty? cache = some duty → duty.phase = .latent →
      duty.backlog = none := by
    intro duty is isLatent
    cases isManned with
    | off isNew =>
      rw [isNew duty is]
    | on crew =>
      cases is.symm.trans crew.is
      exact absurd isLatent crew.hasBegun
  cases passes with
  | grains grains =>
    obtain ⟨items, areAsking, feeds⟩ := Grains.feeds grains cache
    obtain ⟨jobs, ready⟩ := (Grains.queues grains).ready
    exact .lines ready (Grains.lets grains) (fun task wake given =>
      ⟨wake, (Grains.turn grains) ▸ given⟩)
      (.inl (feeds.hasCompletion areAsking))
  | @turn task wake frame rest turn isAt same plays =>
    by_cases here : task = waiter
    · subst here same
      exact .own isAt
    · exact isAt.progresses here same plays turnRuns isBare
  | pause turn isOver =>
    exact .lines (List.append_nil _).symm (.of_eq rfl) (fun task wake given => by
      cases given) (.inl .rfl)
  | run isBetween isFirst was either => exact .run isBetween isFirst was
  | doom isBetween isFirst was => exact .doom isBetween isFirst was
  | stale isBetween isFirst isOver => exact .stale isBetween isFirst isOver
  | answer isBetween isFirst ended => exact .answer isBetween isFirst isManned
  | @hook hook task ready after isBetween isFirst isPlain does =>
    -- An answer that is due has come, so the hook for one that has not is none of the cache's.
    have isOther : (Job.hook hook task).isAnswer cache = false := by
      cases hook with
      | answered owner query =>
        obtain ⟨outcome, ended⟩ := answersAreDue (.answered owner query, task) (by
          rw [dues, isFirst, List.filterMap_cons]
          simp [Job.hook?, Hook.isAnswer])
        cases (isPlain owner query rfl).symm.trans ended
      | _ => rfl
    exact .hook isBetween isFirst isOther does

/-! ## When the queue is drained -/

section Drained

/-- Who joins a queue is let go when nothing is left that is not done. -/
theorem done_joiners (backlog : Backlog) :
    backlog.done.2.unfinished = 0 ∨ backlog.done.2.joiners = backlog.joiners := by
  unfold Backlog.done
  dsimp only
  split
  · next isNone => exact .inl isNone
  · exact .inr rfl

/-- A worker's turn that leaves nobody waiting for the queue is one after which nothing is left to
be done. -/
theorem Tends.drains {self : TaskId} {frame : Frame S.Point} {wake : Wake S.Reply} {turn : Turn S}
    (tends : Tends cache self loop frame wake turn) {duty : Duty} {backlog : Backlog}
    (was : loop.duty? cache = some duty) (has : duty.backlog = some backlog)
    (hasBegun : duty.phase ≠ .latent) (waits : waiter ∈ backlog.joiners) :
    (∃ duty' backlog', turn.1.duty? cache = some duty' ∧ duty'.backlog = some backlog' ∧
      waiter ∈ backlog'.joiners) ∨
      (∃ stage, frame = .worker cache stage) ∧ (∀ next on, turn.2 ≠ .await next on) ∧
        ∃ duty' backlog', turn.1.duty? cache = some duty' ∧ duty'.backlog = some backlog' ∧
          backlog'.unfinished = 0 := by
  cases tends with
  | @feeds _ _ _ items isOther areAsking feeds =>
    refine .inl ⟨_, backlog.puts items, feeds.old duty was, by simp [Duty.feed, has], ?_⟩
    rw [Backlog.puts_eq]
    exact waits
  | begins was' isLatent =>
    cases was.symm.trans was'
    exact absurd isLatent hasBegun
  | closes is =>
    rw [was, Option.map_some] at is
    by_cases runs : duty.phase = .started
    · exact .inl ⟨_, backlog.put .stop, is, by simp [Duty.closed, runs, has], waits⟩
    · exact .inl ⟨_, backlog, is, by simp [Duty.closed, runs, has], waits⟩
  | joins was' has' isBusy is =>
    cases was.symm.trans was'
    cases has.symm.trans has'
    exact .inl ⟨_, _, is, rfl, List.mem_append_left _ waits⟩
  | quits => exact .inl ⟨duty, backlog, was, has, waits⟩
  | idles was' isPlain isEmpty is =>
    cases was.symm.trans was'
    exact .inl ⟨_, backlog.await self, is, by rw [has]; rfl, waits⟩
  | reads was' isPlain has' taken is =>
    cases was.symm.trans was'
    cases has.symm.trans has'
    refine .inl ⟨_, _, is, rfl, ?_⟩
    rw [Backlog.eq_of_take? taken]
    exact waits
  | @works _ _ _ _ rest item items was' isPlain has' taken areAsking runs is either =>
    cases was.symm.trans was'
    cases has.symm.trans has'
    rcases done_joiners (rest.puts items) with isNone | same
    · refine .inr ⟨⟨_, rfl⟩, fun next on waiting => ?_, _, _, is, rfl, isNone⟩
      rcases either with ⟨-, way⟩ | ⟨-, way⟩ <;> cases way.symm.trans waiting
    · refine .inl ⟨_, _, is, rfl, ?_⟩
      rw [same, Backlog.puts_eq, Backlog.eq_of_take? taken]
      exact waits
  | @returns _ _ _ items was' areAsking runs is either =>
    cases was.symm.trans was'
    have has' : (itemDoneDuty (duty.feed items)).backlog = some (backlog.puts items).done.2 := by
      simp [itemDoneDuty, Duty.feed, has]
    rcases done_joiners (backlog.puts items) with isNone | same
    · refine .inr ⟨⟨_, rfl⟩, fun next on waiting => ?_, _, _, is, has', isNone⟩
      rcases either with way | way <;> cases way.symm.trans waiting
    · refine .inl ⟨_, _, is, has', ?_⟩
      rw [same, Backlog.puts_eq]
      exact waits

/-- A queue in which nothing is left to be done is empty. -/
theorem Crew.isEmpty {duty : Duty} {backlog : Backlog} {worker : TaskId} {task : Task S}
    (crew : Crew cache duty backlog worker task loop) (isNone : backlog.unfinished = 0) :
    backlog.items = [] := by
  refine List.length_eq_zero_iff.mp ?_
  cases crew.manner with
  | takes frames isWork count => omega
  | reads point frames isUp count => omega
  | hasRead frames isUp count => omega
  | finished ended frames either count => omega

/-- **When a task is let go that waits for a queue, the queue is empty**, and the worker is not to
have its turn, unless it has it. -/
theorem Passes.drained (passes : Passes before after) (turnRuns : before.TurnRuns)
    (workersOwn : before.WorkersOwn) (wasManned : IsManned cache before)
    (isManned : IsManned cache after) (wereSeated : before.AreSeated) (areSeated : after.AreSeated)
    (isQueued : after.IsQueued) (waits : before.seat? waiter = some (.drained cache))
    (isUp : after.seat? waiter ≠ some (.drained cache)) :
    ¬ after.HasCompletion cache ∧ ∀ (worker : TaskId)
    (task : Task S), after.tasks[worker]? = some task →
      task.role = .worker cache → .resume worker ∉ after.ready := by
  cases wasManned with
  | off isNew =>
    have isOn := (wereSeated waiter (.drained cache)).mp waits
    cases was : before.duty? cache with
    | none => simp [seated, was] at isOn
    | some duty => simp [seated, was, isNew duty was, Duty.seated] at isOn
  | @on duty backlog worker task crew =>
    have isOn := (mem_joiners_iff wereSeated crew.is crew.has).mpr waits
    have stays : ∀ {duty' backlog'}, after.duty? cache = some duty' →
        duty'.backlog = some backlog' →
        waiter ∉ backlog'.joiners := fun is has member =>
          isUp ((mem_joiners_iff areSeated is has).mp member)
    have feeds {items : List Item} (feeds : Feeds cache items before after) : False := by
      refine stays (feeds.old duty crew.is)
        (show (duty.feed items).backlog = some (backlog.puts items) by
        simp [Duty.feed, crew.has]) ?_
      rw [Backlog.puts_eq]
      exact isOn
    cases passes.fares cache with
    | feeds areAsking fed => exact (feeds fed).elim
    | answers isBetween isFirst ended fed => exact (feeds fed).elim
    | @turn self wake frame rest turn isAt made tends same =>
      have ended := afterTurn_duty? self frame rest turn cache
      rw [← same] at ended
      rcases tends.drains crew.is crew.has crew.hasBegun isOn with
        ⟨duty', backlog', is, has, member⟩
          | ⟨⟨stage, isOwn⟩, goesOn, duty', backlog', is, has, isNone⟩
      · exact absurd member (stays (ended.trans is) has)
      · subst isOwn
        have runs := frameTurn_running isAt turnRuns
        rw [← made] at runs
        obtain ⟨known, found, running⟩ := Option.map_eq_some_iff.mp runs
        obtain ⟨known', found', keptRole, -, course⟩ :=
          afterTurn_self (.worker cache stage) rest found running
        rw [← same] at found'
        have isOff : after.isDue self = false := by
          rw [Loop.isDue, status?, found']
          rcases course with ⟨runsOn, -⟩ | ⟨next, on, waiting, -⟩ | ⟨outcome, -, -, isOver⟩
          · simp [runsOn, Status.isDue]
          · exact absurd waiting (goesOn next on)
          · simp [isOver, Status.isDue]
        obtain ⟨own, isThere, frames⟩ := Option.map_eq_some_iff.mp isAt.frames
        have role := workersOwn self own cache stage isThere (frames ▸ List.mem_cons_self)
        have isRole : after.roles[self]? = some (Role.worker cache) := by
          obtain ⟨middle, isMiddle, role', -⟩ :=
            (frameTurn_spares self (.worker cache stage) wake before.inTurn).old
            self own isThere
          rw [← made] at isMiddle
          cases found.symm.trans isMiddle
          rw [roles, List.getElem?_map, found', Option.map_some, keptRole, role', role]
        cases isManned with
        | off _ nobody => exact absurd isRole (nobody self)
        | @on duty₁ backlog₁ worker₁ task₁ crew' =>
          cases (ended.trans is).symm.trans crew'.is
          cases has.symm.trans crew'.has
          refine ⟨?_, fun other task' found'' role' => ?_⟩
          · rw [hasCompletion_iff crew'.is crew'.has, crew'.isEmpty isNone]
            simp
          · have isSame : other = self := (crew'.only other (by
              rw [roles, List.getElem?_map, found'', Option.map_some, role'])).trans
                (crew'.only self isRole).symm
            rw [isSame, ← List.count_eq_zero, isQueued.once, isOff]
            rfl

end Drained

/-! ## Setting out to wait -/

/-- How a task sets out to wait for a queue: it puts itself on the list if anything is left to be
done, and else goes on at once. -/
inductive SetsOut (cache : CacheId) (self : TaskId) (loop : Loop S) : Turn S → Prop
  | sits {known : Cache} {backlog : Backlog} (found : loop.caches[cache]? = some known)
      (has : known.backlog = some backlog) :
      SetsOut cache self loop (loop.setBacklog cache (backlog.join self),
        .await (.wait cache .checking) .drained)
  | passes {known : Cache} (found : loop.caches[cache]? = some known)
      (isFree : known.worker = none ∨ ∀ backlog, known.backlog = some backlog →
        backlog.unfinished = 0) :
      SetsOut cache self loop (loop, .goOn (.wait cache .checking))

theorem waitTurn_joining {self : TaskId} {known : Cache} {wake : Wake S.Reply}
    (isPlain : wake ≠ .cancelled) (found : loop.caches[cache]? = some known) :
    SetsOut cache self loop (loop.waitTurn self cache known .joining wake) := by
  have plain : loop.waitTurn self cache known .joining wake =
      if known.worker.isSome && known.backlog.any (0 < ·.unfinished) then
        (loop.modifyCache cache fun cache =>
          { cache with backlog := cache.backlog.map (Backlog.join self) },
          .await (.wait cache .checking) .drained)
      else (loop, .goOn (.wait cache .checking)) := by
    cases wake with
    | cancelled => exact absurd rfl isPlain
    | _ => rfl
  rw [plain]
  split
  · next isBusy =>
    rw [Bool.and_eq_true] at isBusy
    obtain ⟨backlog, has, -⟩ := (Option.any_eq_true _ _).mp isBusy.2
    have same :
        loop.modifyCache cache
          (fun cache => { cache with backlog := cache.backlog.map (Backlog.join self) }) =
        loop.setBacklog cache (backlog.join self) := modifyCache_setBacklog found _ (by simp [has])
    rw [same]
    exact .sits found has
  · next isFree =>
    refine .passes found ?_
    cases knows : known.worker with
    | none => exact .inl rfl
    | some worker =>
      refine .inr fun backlog has => ?_
      simpa [knows, has] using isFree

/-- A task that is to look again when the queue has been drained has just set out to wait for
that. -/
theorem setsOut_of_turn {self : TaskId} {frame : Frame S.Point} {wake : Wake S.Reply}
    {below rest : List (Frame S.Point)} (isStack : IsStack (frame :: below))
    (checks : (loop.frameTurn self frame wake).2.frames below = .wait cache .checking :: rest) :
    frame = .wait cache .joining ∧ below = rest ∧
      SetsOut cache self loop (loop.frameTurn self frame wake) := by
  have notFinished (outcome : Outcome Answer) :
      (loop.frameTurn self frame wake).2 ≠ .finish outcome := by
    intro way
    rw [way] at checks
    have same : below = .wait cache .checking :: rest := checks
    rw [same] at isStack
    exact (List.isChain_cons_cons.mp isStack).1
  have isWait : frame.activity = .wait cache := by
    have follows := frameTurn_follows self frame wake loop
    generalize (loop.frameTurn self frame wake).2 = way at follows checks notFinished
    cases follows with
    | goOn same =>
      cases checks
      exact same.symm
    | await same =>
      cases checks
      exact same.symm
    | call same awaits isFirst =>
      cases checks
      cases isFirst
    | finish outcome => exact absurd rfl (notFinished outcome)
  obtain ⟨stage, rfl⟩ := Frame.eq_wait isWait
  cases found : loop.caches[cache]? with
  | none => exact absurd (by simp only [frameTurn, found]) (notFinished .cancelled)
  | some known =>
    have turn :
        loop.frameTurn self (.wait cache stage) wake =
          loop.waitTurn self cache known stage wake := by
      simp only [frameTurn, found]
      rfl
    rw [turn] at checks notFinished ⊢
    have isPlain : wake ≠ .cancelled := by
      rintro rfl
      exact notFinished .cancelled (by cases stage <;> rfl)
    cases stage with
    | joining =>
      have setsOut : SetsOut cache self loop (loop.waitTurn self cache known .joining wake) :=
        waitTurn_joining isPlain found
      refine ⟨rfl, ?_, setsOut⟩
      generalize loop.waitTurn self cache known .joining wake = played at setsOut checks
      cases setsOut with
      | sits => exact (List.cons.inj checks).2
      | passes => exact (List.cons.inj checks).2
    | looking =>
      have plain : (loop.waitTurn self cache known .looking wake).2.frames below =
          .wait cache .joining :: below := by
        cases wake with
        | cancelled => exact absurd rfl isPlain
        | _ =>
          unfold waitTurn
          dsimp only
          split <;> rfl
      cases plain.symm.trans checks
    | checking =>
      have plain : loop.waitTurn self cache known .checking wake =
          if known.pending.isEmpty then (loop, .finish (.returned .nothing)) else
            (loop, .goOn (.wait cache .looking)) := by
        cases wake with
        | cancelled => exact absurd rfl isPlain
        | _ => rfl
      rw [plain] at checks notFinished
      split at checks
      · next isEmpty => exact absurd (by rw [if_pos isEmpty]) (notFinished (.returned .nothing))
      · cases checks

/-! ## What a waiting task remembers -/

/-- What is to be done before the task has its turn. -/
def readyBefore (task : TaskId) (loop : Loop S) : List Job :=
  loop.ready.takeWhile (· ≠ .resume task)

theorem readyBefore_of_append {task : TaskId} {jobs : List Job}
    (ready : after.ready = before.ready ++ jobs) (isDue : .resume task ∈ before.ready) :
    after.readyBefore task = before.readyBefore task := by
  rw [readyBefore, ready, readyBefore]
  generalize before.ready = earlier at isDue
  induction earlier with
  | nil => cases isDue
  | cons job rest step =>
    rw [List.cons_append, List.takeWhile_cons, List.takeWhile_cons]
    split
    · next isOther =>
      rw [step ((List.mem_cons.mp isDue).resolve_left fun same =>
        (of_decide_eq_true isOther) same.symm)]
    · rfl

/-- The first job is begun, and is not the turn of the task. -/
theorem readyBefore_of_first {task : TaskId} {job : Job} {rest jobs : List Job}
    (isOther : job ≠ .resume task) (isFirst : before.ready = job :: rest)
    (ready : after.ready = rest ++ jobs) (isDue : .resume task ∈ before.ready) :
    before.readyBefore task = job :: after.readyBefore task := by
  rw [isFirst] at isDue
  have isLeft : .resume task ∈ ({ before with ready := rest } : Loop S).ready :=
    (List.mem_cons.mp isDue).resolve_left fun same => isOther same.symm
  have same : after.readyBefore task = ({ before with ready := rest } : Loop S).readyBefore task :=
    readyBefore_of_append ready isLeft
  rw [same, readyBefore, isFirst, List.takeWhile_cons, if_pos (by simpa using isOther)]
  rfl

/-- What a waiting task remembers: what is to be done before its turn, when it is let go, and
nothing when it sets out to wait for a queue. -/
inductive Remembers (waiter : TaskId) (before after : Loop S) (jobs : List Job) : List Job → Prop
  | letGo {on : Await} (waits : before.status? waiter = some (.waiting on))
      (isUp : ∀ still, after.status? waiter ≠ some (.waiting still)) :
      Remembers waiter before after jobs (after.readyBefore waiter)
  | setsOut {wake : Wake S.Reply} {cache : CacheId} {rest : List (Frame S.Point)}
      (isAt : before.IsAt waiter wake (.wait cache .joining) rest) :
      Remembers waiter before after jobs []
  | keeps (isOn : ∀ on, before.status? waiter = some (.waiting on) →
        ∃ still, after.status? waiter = some (.waiting still))
      (isElsewhere : ∀ wake cache rest, ¬ before.IsAt waiter wake (.wait cache .joining) rest) :
      Remembers waiter before after jobs jobs

/-- Something is remembered, whatever happens. -/
theorem exists_remembers (waiter : TaskId) (before after : Loop S) (jobs : List Job) :
    ∃ more, Remembers waiter before after jobs more := by
  by_cases isAt : ∃ wake cache rest, before.IsAt waiter wake (.wait cache .joining) rest
  · obtain ⟨wake, cache, rest, isAt⟩ := isAt
    exact ⟨[], .setsOut isAt⟩
  · by_cases isUp : ∃ on, before.status? waiter = some (.waiting on) ∧
        ∀ still, after.status? waiter ≠ some (.waiting still)
    · obtain ⟨on, waits, isUp⟩ := isUp
      exact ⟨_, .letGo waits isUp⟩
    · refine ⟨jobs, .keeps (fun on waits => ?_) fun wake cache rest here =>
        isAt ⟨wake, cache, rest, here⟩⟩
      by_contra isOff
      exact isUp ⟨on, waits, fun still waiting => isOff ⟨still, waiting⟩⟩

/-! ## What is remembered, and what comes -/

section Remembering

/-- A cache that has begun runs only if it ran. -/
theorem Grows.runs (grows : Grows before after) (hasBegun : before.HasBegun cache)
    (runs : after.Runs cache) :
    before.Runs cache := by
  obtain ⟨known, found, begun⟩ := hasBegun
  obtain ⟨known', found', ages⟩ := grows cache known found
  obtain ⟨duty, is, isStarted⟩ := runs
  cases (duty?_of_found found').symm.trans is
  exact ⟨_, duty?_of_found found, ages.isStarted begun isStarted⟩

theorem Runs.hasBegun (runs : loop.Runs cache) : loop.HasBegun cache := by
  obtain ⟨duty, is, isStarted⟩ := runs
  obtain ⟨known, found, rfl⟩ := Option.map_eq_some_iff.mp is
  exact ⟨known, found, fun isLatent => by cases isLatent.symm.trans isStarted⟩

/-- Only a start lets a cache run. -/
theorem Fares.runs (fares : Fares cache before after)
    (isOther :
      ∀ task wake buildInitial rest,
        ¬ before.IsAt task wake (.start cache buildInitial .beginning) rest)
    (runs : after.Runs cache) : before.Runs cache := by
  obtain ⟨duty, is, isStarted⟩ := runs
  have matures := fares.matures is
  rw [isStarted] at matures
  generalize phase : Phase.started = now at matures
  cases matures with
  | comes => cases phase
  | stays was => exact ⟨_, was, phase.symm⟩
  | begins was isLatent isAt => exact absurd isAt (isOther _ _ _ _)
  | closes => cases phase

/-- A cache that has a queue has begun. -/
theorem IsManned.hasBegun {backlog : Backlog} {duty : Duty} (isManned : IsManned cache loop)
    (is : loop.duty? cache = some duty) (has : duty.backlog = some backlog) :
    loop.HasBegun cache := by
  obtain ⟨known, found, rfl⟩ := Option.map_eq_some_iff.mp is
  refine ⟨known, found, fun isLatent => ?_⟩
  cases isManned with
  | off isNew =>
    cases has.symm.trans (congrArg Duty.backlog (isNew _ is))
  | on crew =>
    cases is.symm.trans crew.is
    exact crew.hasBegun isLatent

/-- The worker of a cache that has begun stays the only one. -/
theorem Happens.sameWorker (happens : Happens allowed before after)
    (wasManned : IsManned cache before) (isManned : IsManned cache after)
    (hasBegun : before.HasBegun cache) {worker : TaskId}
    (is : after.roles[worker]? = some (Role.worker cache)) :
    before.roles[worker]? = some (Role.worker cache) := by
  obtain ⟨known, found, begun⟩ := hasBegun
  cases wasManned with
  | off isNew => exact absurd (congrArg Duty.phase (isNew _ (duty?_of_found found))) begun
  | @on _ _ first task crew =>
    obtain ⟨task', found', role⟩ := happens.remains.roles first task crew.found
    cases isManned with
    | off _ nobody => exact absurd is (nobody worker)
    | on crew' =>
      have same : worker = first := (crew'.only worker is).trans (crew'.only first (by
        rw [roles, List.getElem?_map, found', Option.map_some, role, crew.role])).symm
      rw [same, roles, List.getElem?_map, crew.found, Option.map_some, crew.role]

/-- What a task remembers that is to have its turn tallies with what the queue has and will have
until then, and the worker has no turn in the meantime in which it takes out any of it. -/
structure IsAhead (cache : CacheId) (waiter : TaskId) (jobs : List Job) (loop : Loop S) : Prop where
  answers :
    (loop.HasCompletion cache ∨ ∃ job ∈ loop.readyBefore waiter, job.isAnswer cache = true) ↔
    ∃ job ∈ jobs, job.isAnswer cache = true
  later (worker : TaskId) : loop.roles[worker]? = some (Role.worker cache) →
    .resume worker ∉ loop.readyBefore waiter
  isOut (worker : TaskId) (wake : Wake S.Reply) : loop.roles[worker]? = some (Role.worker cache) →
    loop.turn = some (worker, wake) → ¬ loop.HasCompletion cache

/-- What a task remembers, which is to look again when a queue is drained, tallies with what the
queue has. -/
structure Tallies (cache : CacheId) (waiter : TaskId) (jobs : List Job) (status : Status S.Reply)
    (loop : Loop S) :
    Prop where
  waits (on : Await) : status = .waiting on → on = .drained
  hasBegun : status ≠ .running → loop.HasBegun cache
  isNext : loop.Runs cache → status = .running →
    (loop.HasCompletion cache ↔ ∃ job ∈ jobs, job.isAnswer cache = true)
  isAhead : loop.Runs cache → status.isDue = true → loop.IsAhead cache waiter jobs

/-- More comes in behind the turn of the task. -/
theorem IsAhead.lines {jobs more : List Job} (isAhead : before.IsAhead cache waiter jobs)
    (ready : after.ready = before.ready ++ more) (isDue : .resume waiter ∈ before.ready)
    (settled : ∀ worker : TaskId, after.roles[worker]? = some (Role.worker cache) →
      before.roles[worker]? = some (Role.worker cache))
    (turn : ∀ task wake, after.turn = some (task, wake) → ∃ why, before.turn = some (task, why))
    (completions : (after.HasCompletion cache ↔ before.HasCompletion cache) ∨
      (∃ worker wake, before.roles[worker]? = some (Role.worker cache) ∧
        before.turn = some (worker, wake)) ∧
        (after.HasCompletion cache → before.HasCompletion cache)) :
        after.IsAhead cache waiter jobs := by
  have kept := readyBefore_of_append ready isDue
  have same : after.HasCompletion cache ↔ before.HasCompletion cache := by
    rcases completions with same | ⟨⟨worker, wake, owns, given⟩, fewer⟩
    · exact same
    · exact iff_of_false (fun completed => isAhead.isOut worker wake owns given (fewer completed))
        (isAhead.isOut worker wake owns given)
  refine ⟨?_, fun worker owns => ?_, fun worker wake owns given => ?_⟩
  · rw [same, kept]
    exact isAhead.answers
  · rw [kept]
    exact isAhead.later worker (settled worker owns)
  · obtain ⟨why, given'⟩ := turn worker wake given
    rw [same]
    exact isAhead.isOut worker why (settled worker owns) given'

/-- The first job is begun, which is not the turn of the task. -/
theorem IsAhead.begun {jobs rest more : List Job} {job : Job}
    (isAhead : before.IsAhead cache waiter jobs) (isOther : job ≠ .resume waiter)
    (isFirst : before.ready = job :: rest) (ready : after.ready = rest ++ more)
    (isDue : .resume waiter ∈ before.ready)
    (settled : ∀ worker : TaskId, after.roles[worker]? = some (Role.worker cache) →
      before.roles[worker]? = some (Role.worker cache))
    (turn : ∀ task wake, after.turn = some (task, wake) → job = .resume task)
    (completions : after.HasCompletion cache ↔
      before.HasCompletion cache ∨ job.isAnswer cache = true) :
    after.IsAhead cache waiter jobs := by
  have kept := readyBefore_of_first isOther isFirst ready isDue
  refine ⟨?_, fun worker owns member => ?_, fun worker wake owns given => ?_⟩
  · rw [completions, ← isAhead.answers, kept, or_assoc]
    simp [List.mem_cons, or_and_right, exists_or]
  · exact isAhead.later worker (settled worker owns) (kept ▸ List.mem_cons_of_mem job member)
  · refine absurd ?_ (isAhead.later worker (settled worker owns))
    rw [kept, turn worker wake given]
    exact List.mem_cons_self

/-- A task that has been let go has nothing before it in the queue but the answers that come in
until its turn. -/
theorem Passes.isAhead (passes : Passes before after) (turnRuns : before.TurnRuns)
    (workersOwn : before.WorkersOwn) (wasManned : IsManned cache before)
    (isManned : IsManned cache after) (wereSeated : before.AreSeated) (areSeated : after.AreSeated)
    (isQueued : after.IsQueued) (waits : before.seat? waiter = some (.drained cache))
    (isUp : after.seat? waiter ≠ some (.drained cache)) :
    after.IsAhead cache waiter (after.readyBefore waiter) := by
  obtain ⟨isDrained, isOut⟩ :=
    passes.drained turnRuns workersOwn wasManned isManned wereSeated areSeated isQueued
    waits isUp
  refine ⟨or_iff_right isDrained, fun worker owns member => ?_,
    fun worker wake owns given => isDrained⟩
  obtain ⟨task, found, role⟩ : ∃ task, after.tasks[worker]? = some task ∧
    task.role = .worker cache := by
    rwa [roles, List.getElem?_map, Option.map_eq_some_iff] at owns
  exact isOut worker task found role ((List.takeWhile_sublist _).subset member)

/-- What others make of a task that is to look again. -/
theorem Tallies.leads {jobs more : List Job} {known known' : Task S} {rest : List (Frame S.Point)}
    (tallies : Tallies cache waiter jobs known.status before)
    (found : before.tasks[waiter]? = some known) (found' : after.tasks[waiter]? = some known')
    (frames : known.frames = .wait cache .checking :: rest)
    (leads : known.status.Leads known'.status) (remembers : Remembers waiter before after jobs more)
    (grows : Grows before after)
    (letGo : before.seat? waiter = some (.drained cache) →
      after.seat? waiter ≠ some (.drained cache) →
      after.IsAhead cache waiter (after.readyBefore waiter))
    (isNext : known.status = .running → after.Runs cache →
      before.Runs cache ∧ (after.HasCompletion cache ↔ before.HasCompletion cache))
    (isAhead : known.status.isDue = true → before.Runs cache → before.IsAhead cache waiter jobs →
      after.Runs cache → after.IsAhead cache waiter jobs) :
    Tallies cache waiter more known'.status after := by
  have status : before.status? waiter = some known.status := by rw [status?, found, Option.map_some]
  have status' : after.status? waiter = some known'.status := by
    rw [status?, found', Option.map_some]
  cases remembers with
  | setsOut isAt =>
    have frames' := isAt.frames
    rw [found, Option.map_some, frames] at frames'
    cases frames'
  | @letGo on waits isUp =>
    have waits : known.status = .waiting on := Option.some.inj (status.symm.trans waits)
    cases tallies.waits on waits
    generalize stage : known'.status = next at leads
    rw [stage] at status'
    have begun := grows.hasBegun (tallies.hasBegun (by simp [waits]))
    cases leads with
    | stays =>
      rw [waits] at status'
      exact absurd status' (isUp .drained)
    | counted waits' => cases waits.symm.trans waits'
    | @woken _ still wake waits' isPlain =>
      refine ⟨fun on isWaiting => (by cases isWaiting), fun _ => begun,
        fun _ runs => (by cases runs), fun _ _ => ?_⟩
      refine letGo ?_ ?_
      · simp [seat?, found, Task.seat?, waits, frames]
      · simp [seat?, found', Task.seat?, stage]
  | keeps isOn =>
    generalize stage : known'.status = next at leads
    rw [stage] at status'
    cases leads with
    | stays =>
      refine ⟨tallies.waits, fun isUp => grows.hasBegun (tallies.hasBegun isUp),
        fun runs isRunning => ?_,
        fun runs isDue => ?_⟩
      · obtain ⟨ran, same⟩ := isNext isRunning runs
        rw [same]
        exact tallies.isNext ran isRunning
      · have ran := grows.runs (tallies.hasBegun fun isRunning => by
          rw [isRunning] at isDue
          cases isDue) runs
        exact isAhead isDue ran (tallies.isAhead ran isDue) runs
    | woken waits =>
      obtain ⟨still, isWaiting⟩ := isOn _ (status.trans (congrArg some waits))
      cases status'.symm.trans isWaiting
    | counted waits => cases tallies.waits _ waits

/-- The task gets its turn: nothing is to come any more. -/
theorem Tallies.given {jobs first : List Job} {status : Status S.Reply}
    (tallies : Tallies cache waiter jobs status before)
    (isFirst : before.ready = .resume waiter :: first) (isDue : status.isDue = true)
    (grows : Grows before after)
    (completions : before.Runs cache → (after.HasCompletion cache ↔ before.HasCompletion cache)) :
    Tallies cache waiter jobs .running after := by
  refine ⟨fun on waits => (by cases waits), fun isUp => absurd rfl isUp, fun runs _ => ?_,
    fun _ isDue => (by cases isDue)⟩
  have ran := grows.runs (tallies.hasBegun fun isRunning => by
    rw [isRunning] at isDue
    cases isDue) runs
  rw [completions ran, ← (tallies.isAhead ran isDue).answers, readyBefore, isFirst]
  simp

/-- **A task that sets out to wait for a queue has nothing to remember**: it waits, or all has been
dealt with. -/
theorem SetsOut.tallies {turn : Turn S} {rest : List (Frame S.Point)} {known : Task S}
    (setsOut : SetsOut cache waiter loop turn) (isManned : IsManned cache loop)
    (runs : turn.1.status? waiter = some .running)
    (found : (afterTurn waiter (.wait cache .joining) rest turn).tasks[waiter]? = some known) :
    Tallies cache waiter [] known.status (afterTurn waiter (.wait cache .joining) rest turn) := by
  obtain ⟨own, isThere, running⟩ := Option.map_eq_some_iff.mp runs
  obtain ⟨known', found', -, -, course⟩ :=
    afterTurn_self (.wait cache .joining) rest isThere running
  cases found.symm.trans found'
  cases setsOut with
  | @sits owner backlog ownerFound has =>
    have begun : (loop.setBacklog cache (backlog.join waiter)).HasBegun cache := by
      obtain ⟨known, found, begun⟩ := isManned.hasBegun (duty?_of_found ownerFound) has
      exact ⟨_, modifyCache_self found _, begun⟩
    rw [afterTurn_await _ _ _ (by trivial)] at found ⊢
    have status : known.status = .waiting .drained := by
      simp only [setStatus, setFrames, modifyTask] at found
      rw [List.getElem?_modify_eq, List.getElem?_modify_eq] at found
      obtain ⟨other, -, rfl⟩ := Option.map_eq_some_iff.mp found
      rfl
    rw [status]
    exact ⟨fun on waits => (by cases waits; rfl), fun _ => begun, fun _ runs => (by cases runs),
      fun _ isDue => (by cases isDue)⟩
  | @passes owner ownerFound isFree =>
    have status : known.status = .running := by
      rcases course with ⟨runs, -⟩ | ⟨next, on, waits, -⟩ | ⟨outcome, ends, -⟩
      · exact runs
      · cases waits
      · cases ends
    rw [status]
    refine ⟨fun on waits => (by cases waits), fun isUp => absurd rfl isUp, fun runs _ => ?_,
      fun _ isDue => (by cases isDue)⟩
    have same := afterTurn_duty? waiter (.wait cache .joining) rest
      (loop, (.goOn (.wait cache .checking) : Move S.Point)) cache
    obtain ⟨duty, is, isStarted⟩ := runs
    have is := same.symm.trans is
    rw [hasCompletion_of_eq same]
    refine iff_of_false ?_ (by simp)
    cases isManned with
    | off isNew =>
      exact not_hasCompletion_of_bare fun duty is => congrArg Duty.backlog (isNew duty is)
    | @on _ backlog _ _ crew =>
      cases is.symm.trans crew.is
      cases is.symm.trans (duty?_of_found ownerFound)
      have isNone : backlog.unfinished = 0 := by
        rcases isFree with isNone | isNone
        · rcases crew.knows with knows | ⟨-, isClosed⟩
          · cases isNone.symm.trans knows
          · cases isStarted.symm.trans isClosed
        · exact isNone backlog crew.has
      rw [hasCompletion_iff crew.is crew.has, crew.isEmpty isNone]
      simp

/-- The task whose turn it is for a worker's frame is that worker. -/
theorem WorkersOwn.isAt (workersOwn : loop.WorkersOwn) {worker : TaskId} {wake : Wake S.Reply}
    {stage : WorkerStage} {rest : List (Frame S.Point)}
    (isAt : loop.IsAt worker wake (.worker cache stage) rest) :
    loop.roles[worker]? = some (Role.worker cache) := by
  obtain ⟨task, found, frames⟩ := Option.map_eq_some_iff.mp isAt.frames
  rw [roles, List.getElem?_map, found, Option.map_some,
    workersOwn worker task cache stage found (frames ▸ List.mem_cons_self)]

section Tallying

variable {service : S.State} {jobs more : List Job} {known : Task S} {rest : List (Frame S.Point)}
  (run : Reaches allowed (fresh service) before) (happens : Happens allowed before after)
  (remembers : Remembers waiter before after jobs more)
  (tallied : ∀ (known : Task S) rest, before.tasks[waiter]? = some known →
    known.frames = .wait cache .checking :: rest → Tallies cache waiter jobs known.status before)
  (found : after.tasks[waiter]? = some known)
  (frames : known.frames = .wait cache .checking :: rest)

include run

/-- A task that is to look again runs only in its turn. -/
theorem Reaches.isAt_of_running {old : Task S} (earlier : before.tasks[waiter]? = some old)
    (frames : old.frames = .wait cache .checking :: rest) (runs : old.status = .running) :
    ∃ wake, before.IsAt waiter wake (.wait cache .checking) rest := by
  obtain ⟨wake, given⟩ := Reaches.runningTurns run waiter old earlier runs (by simp [frames])
  exact ⟨wake, given, by rw [earlier, Option.map_some, frames]⟩

include happens remembers tallied found frames

/-- What a task remembers tallies where others are at work. -/
theorem Happens.tallies_of_lets (lets : Lets waiter before after)
    (isNext : ∀ old, before.tasks[waiter]? = some old → old.frames = known.frames →
      old.status = .running →
      after.Runs cache →
        before.Runs cache ∧ (after.HasCompletion cache ↔ before.HasCompletion cache))
    (isAhead : .resume waiter ∈ before.ready → before.Runs cache →
      before.IsAhead cache waiter jobs →
      after.IsAhead cache waiter jobs) : Tallies cache waiter more known.status after := by
  have later := run.tail happens
  cases earlier : before.tasks[waiter]? with
  | none =>
    cases happens.inherits found with
    | new unknown single enters =>
      cases frames.symm.trans single
      exact absurd enters.isFirst (by simp [Frame.isFirst, Frame.isOpening])
    | doomed there => cases earlier.symm.trans there
    | kept there => cases earlier.symm.trans there
    | turn there => cases earlier.symm.trans there
  | some old =>
    have noErrand : old.role ≠ .errand := by
      intro isErrand
      obtain ⟨known', found', role⟩ := happens.remains.roles waiter old earlier
      cases found.symm.trans found'
      exact Reaches.errandsCall later waiter known found (role.trans isErrand) _
        (frames ▸ List.mem_cons_self)
    obtain ⟨known', found', -, same, leads⟩ := lets old earlier noErrand
    cases found.symm.trans found'
    have was := same.symm.trans frames
    have letGo : before.seat? waiter = some (.drained cache) →
        after.seat? waiter ≠ some (.drained cache) →
        after.IsAhead cache waiter (after.readyBefore waiter) :=
      happens.passes.isAhead (Reaches.turnRuns run) (Reaches.workersOwn run)
        (Reaches.isManned run cache)
        (Reaches.isManned later cache) (Reaches.areSeated run) (Reaches.areSeated later)
          (Reaches.isQueued later)
    refine (tallied old rest earlier was).leads earlier found was leads remembers
      happens.remains.grows letGo
      (isNext old earlier same.symm) fun isDue ran isAhead' _ => isAhead ?_ ran isAhead'
    have once := (Reaches.isQueued run).once waiter
    rw [show before.isDue waiter = true by simp [Loop.isDue, status?, earlier, isDue]] at once
    exact List.count_pos_iff.mp (by rw [once]; decide)

omit happens tallied in
/-- What a task remembers tallies after the turn in which it set out to wait. -/
theorem IsAt.tallies {wake : Wake S.Reply} {frame : Frame S.Point} {below : List (Frame S.Point)}
    (isAt : before.IsAt waiter wake frame below)
    (same : after = afterTurn waiter frame below (before.inTurn.frameTurn waiter frame wake)) :
    Tallies cache waiter more known.status after := by
  subst same
  have turnRuns := Reaches.turnRuns run
  obtain ⟨own, isThere, running⟩ := Option.map_eq_some_iff.mp (frameTurn_running isAt turnRuns)
  obtain ⟨known', found', -, left, -⟩ := afterTurn_self frame below isThere running
  cases found.symm.trans found'
  obtain ⟨rfl, rfl, setsOut⟩ :=
    setsOut_of_turn ((Reaches.areStacked run (fresh_areStacked service)).isAt isAt)
    (left.symm.trans frames)
  have nothing : more = [] := by
    cases remembers with
    | setsOut => rfl
    | letGo waits => cases waits.symm.trans (turnRuns waiter wake isAt.turn)
    | keeps _ isElsewhere => exact absurd isAt (isElsewhere _ _ _)
  rw [nothing]
  exact setsOut.tallies (Reaches.isManned run cache).inTurn (frameTurn_running isAt turnRuns) found

/-- What a task remembers tallies when it gets its turn. -/
theorem Happens.tallies_of_given {first : List Job} (isBetween : before.turn = none)
    (isFirst : before.ready = .resume waiter :: first)
    (runs :
      (∃ old, before.tasks[waiter]? = some old ∧
        after.tasks[waiter]? = some { old with status := .running }) ∨
      (after.tasks[waiter]?).map (·.frames) = some [] ∨ before.isDue waiter = false)
    (completions : before.Runs cache → (after.HasCompletion cache ↔ before.HasCompletion cache)) :
    Tallies cache waiter more known.status after := by
  have isDue := (Reaches.isQueued run).isDue_of_first isFirst
  rcases runs with ⟨old, earlier, now⟩ | isOver | isOff
  · cases found.symm.trans now
    have due : old.status.isDue = true := by simpa [Loop.isDue, status?, earlier] using isDue
    have same : more = jobs := by
      cases remembers with
      | setsOut isAt => cases isBetween.symm.trans isAt.turn
      | letGo waits =>
        rw [status?, earlier, Option.map_some] at waits
        cases (congrArg Status.isDue (Option.some.inj waits)).symm.trans due
      | keeps => rfl
    rw [same]
    exact (tallied old rest earlier frames).given isFirst due happens.remains.grows completions
  · rw [found, Option.map_some, frames] at isOver
    cases isOver
  · cases isOff.symm.trans isDue

/-- **What a task remembers goes on to tally**, whatever happens. -/
theorem Happens.tallies : Tallies cache waiter more known.status after := by
  have turnRuns := Reaches.turnRuns run
  have wasManned := Reaches.isManned run cache
  have isManned := Reaches.isManned (run.tail happens) cache
  cases happens.passes.progresses turnRuns (Reaches.isOrderly run).answersAreDue
    wasManned waiter with
  | own isAt => exact isAt.tallies run remembers found frames rfl
  | lines ready lets turn completions =>
    refine happens.tallies_of_lets run remembers tallied found frames lets
      (fun old earlier same isRunning runs => ?_) fun isDue ran isAhead => ?_
    · obtain ⟨wake, isAt⟩ := Reaches.isAt_of_running run earlier (same.trans frames) isRunning
      refine ⟨(happens.passes.fares cache).runs (fun task wake' buildInitial rest isStart =>
        ?_) runs, ?_⟩
      · cases isAt.turn.symm.trans isStart.turn
        cases isAt.frames.symm.trans isStart.frames
      · rcases completions with same | ⟨⟨task, wake', stage, rest, isWorker⟩, -⟩
        · exact same
        · cases isAt.turn.symm.trans isWorker.turn
          cases isAt.frames.symm.trans isWorker.frames
    · refine isAhead.lines ready isDue
        (fun worker => happens.sameWorker wasManned isManned ran.hasBegun) turn
        (completions.imp_right fun worked => ?_)
      obtain ⟨⟨task, wake, stage, rest, isWorker⟩, fewer⟩ := worked
      exact ⟨⟨task, wake, (Reaches.workersOwn run).isAt isWorker, isWorker.turn⟩, fewer⟩
  | @begun after job first behind isBetween isFirst ready lets runs turn completions =>
    by_cases isOwn : job = .resume waiter
    · subst isOwn
      exact happens.tallies_of_given run remembers tallied found frames isBetween isFirst
        (runs rfl) fun ran => by
        rw [completions ran]
        simp [Job.isAnswer]
    · refine happens.tallies_of_lets run remembers tallied found frames (lets isOwn)
        (fun old earlier same isRunning runs => ?_) fun isDue ran isAhead => ?_
      · obtain ⟨wake, isAt⟩ := Reaches.isAt_of_running run earlier (same.trans frames) isRunning
        cases isBetween.symm.trans isAt.turn
      · exact isAhead.begun isOwn isFirst ready isDue
          (fun worker => happens.sameWorker wasManned isManned ran.hasBegun) turn (completions ran)

end Tallying

/-- What a task remembers that is to look again when a queue is drained tallies in every run. -/
theorem Recounts.tallies {service : S.State} {jobs : List Job}
    (recounts : Recounts allowed service (Remembers waiter) [] last jobs) {known : Task S}
    {rest : List (Frame S.Point)} (found : last.tasks[waiter]? = some known)
    (frames : known.frames = .wait cache .checking :: rest) :
    Tallies cache waiter jobs known.status last := by
  induction recounts generalizing known rest with
  | start => cases found
  | next earlier happens noted step =>
    exact happens.tallies earlier.run noted (fun known rest found frames =>
      step found frames) found frames

end Remembering

/-! ## Who returns -/

section Returning

/-- Who looks again returns if no request is pending, and changes nothing. -/
theorem waitTurn_returns {self : TaskId} {known : Cache} {stage : WaitStage} {wake : Wake S.Reply}
    {answer : Answer}
    (returns : (loop.waitTurn self cache known stage wake).2 = .finish (.returned answer)) :
    stage = .checking ∧ known.pending = [] := by
  cases wake with
  | cancelled => cases stage <;> cases returns
  | _ =>
    cases stage with
    | looking =>
      unfold waitTurn at returns
      dsimp only at returns
      split at returns <;> cases returns
    | joining =>
      unfold waitTurn at returns
      dsimp only at returns
      split at returns <;> cases returns
    | checking =>
      unfold waitTurn at returns
      dsimp only at returns
      split at returns
      · next isEmpty => exact ⟨rfl, List.isEmpty_iff.mp isEmpty⟩
      · cases returns

/-- **When somebody returns who has waited for a cache that runs, no request is pending**; and what
a request has ended in is still in the queue if it was to come in before that turn when the task was
let go, and only then. -/
theorem rests_iff {service : S.State} {jobs : List Job} {wake : Wake S.Reply} {stage : WaitStage}
    {rest : List (Frame S.Point)} {answer : Answer} {known : Cache}
    (recounts : Recounts allowed service (Remembers waiter) [] last jobs)
    (isAt : last.IsAt waiter wake (.wait cache stage) rest)
    (returns :
      (last.inTurn.frameTurn waiter (.wait cache stage) wake).2 = .finish (.returned answer))
    (found : last.caches[cache]? = some known) (runs : known.phase = .started) :
    known.pending = [] ∧ ∃ backlog, known.backlog = some backlog ∧
      ((∃ item ∈ backlog.items, item.isCompletion = true) ↔
        ∃ job ∈ jobs, job.isAnswer cache = true) := by
  have isThere := duty?_of_found found
  have turn : last.inTurn.frameTurn waiter (.wait cache stage) wake =
      last.inTurn.waitTurn waiter cache known stage wake := by
    have found : last.inTurn.caches[cache]? = some known := found
    simp only [frameTurn, found]
    rfl
  rw [turn] at returns
  obtain ⟨rfl, isEmpty⟩ := waitTurn_returns returns
  refine ⟨isEmpty, ?_⟩
  obtain ⟨task, isThere', frames⟩ := Option.map_eq_some_iff.mp isAt.frames
  have isRunning := status_of_running (Reaches.turnRuns recounts.run waiter wake isAt.turn) isThere'
  have same := (recounts.tallies isThere' frames).isNext ⟨_, isThere, runs⟩ isRunning
  cases Reaches.isManned recounts.run cache with
  | off isNew => cases (congrArg Duty.phase (isNew _ isThere)).symm.trans runs
  | @on duty backlog worker own crew =>
    cases isThere.symm.trans crew.is
    exact ⟨backlog, crew.has, by rw [← same, hasCompletion_iff crew.is crew.has]⟩

/-- A cache is watched, and all that it asks is held. -/
def watching : List (Command Remote.service) :=
  [.make "c" (.text "/a") .null, .occur (Remote.Event.set "/a" [7]), .start "c" (.bool true),
    .occur (Remote.Event.hold ["exists", "read", "get_data"])]

/-- Somebody waits for the cache, which is to look, and loses its connection. -/
def leaving : List (Command Remote.service) :=
  [.wait "c", .reset "c", .occur (Remote.Event.link .suspended)]

/-- The connection is there for a while. -/
def flipping : List (Command Remote.service) :=
  [.occur (Remote.Event.link .reconnected), .occur (Remote.Event.link .suspended)]

/-- The look is answered, and so is the read that the worker has made in the meantime. -/
def releasing : List (Command Remote.service) := [.release [2, 1] (.reply Remote.Reply.ok)]

/-- Who waits has its turn. -/
def returning : Loop Remote.service :=
  (enact 0 releasing (enact 60 flipping (enact 0 leaving (settled watching)))).settle 8

theorem returning_reaches : Reaches anything (fresh ({} : Remote.State)) returning := by
  have first : Reaches anything (fresh ({} : Remote.State)) (settled watching) :=
    enact_reaches 60 watching _ (by simp [anything]) (by decide +kernel)
  have second : Reaches anything (settled watching) (enact 0 leaving (settled watching)) :=
    enact_reaches 0 leaving _ (by simp [anything]) (by decide +kernel)
  have third : Reaches anything (enact 0 leaving (settled watching))
      (enact 60 flipping (enact 0 leaving (settled watching))) :=
    enact_reaches 60 flipping _ (by simp [anything]) (by decide +kernel)
  have fourth : Reaches anything (enact 60 flipping (enact 0 leaving (settled watching)))
      (enact 0 releasing (enact 60 flipping (enact 0 leaving (settled watching)))) :=
    enact_reaches 0 releasing _ (by simp [anything]) (by decide +kernel)
  exact first.trans (second.trans (third.trans (fourth.trans (settle_reaches 8 _))))

/-- Who waits was let go when the answer to the look was still to come in. -/
theorem returning_before_answer :
    ∃ jobs, Recounts anything ({} : Remote.State) (Remembers 4) [] returning jobs ∧
    ∃ job ∈ jobs, job.isAnswer 0 = true := by
  obtain ⟨jobs, recounts⟩ :
    ∃ jobs, Recounts anything ({} : Remote.State) (Remembers 4) [] returning jobs :=
    returning_reaches.recounts fun before after jobs _ _ => exists_remembers 4 before after jobs
  have isAt : returning.IsAt 4 .goOn (.wait 0 .checking) [] := ⟨rfl, rfl⟩
  have runs : (returning.caches[0]?).map (fun known =>
      (known.phase, known.backlog.map (·.items.any Item.isCompletion))) =
        some (.started, some true) := by decide +kernel
  obtain ⟨known, found, same⟩ := Option.map_eq_some_iff.mp runs
  obtain ⟨phase, completed⟩ := Prod.mk.inj same
  obtain ⟨-, backlog, has, same⟩ := rests_iff recounts isAt rfl found phase
  rw [has, Option.map_some, Option.some.injEq, List.any_eq_true] at completed
  exact ⟨jobs, recounts, same.mp completed⟩

/-- **Somebody returns who has waited, and what a request has ended in is still in the queue.** -/
theorem returns_before_answer :
    Reaches anything (fresh ({} : Remote.State)) returning ∧ returning.outcome? 4 = none ∧
      returning.step.outcome? 4 = some (.returned .nothing) ∧
      (returning.step.caches[0]?).map (fun known =>
        (known.phase, known.backlog.map (·.items.map Item.isCompletion))) =
          some (.started, some [true]) := by
  refine ⟨returning_reaches, by decide +kernel, rfl, by decide +kernel⟩

end Returning

end Loop

end WatchedNode
