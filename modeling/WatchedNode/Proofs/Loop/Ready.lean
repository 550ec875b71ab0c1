/-
**Who has a turn, and who is to have one.**

Nobody changes a task but the task itself, in its turns, except that it is woken, cancelled, or gets
a hook (`Stays`). The one that has its turn is running (`Reaches.turnRuns`), and the list of what is
ready has each task once that is to have its turn, and no other (`Reaches.isQueued`): jobs come last
in it, when a task is made or woken (`Queues`), and only the first one is begun.
-/
import WatchedNode.Proofs.Loop.Chores
import WatchedNode.Proofs.Loop.Grain

namespace WatchedNode

open Relation

variable {S : Service} {asks : Prop} {drops : TaskId → Prop}

/-- Only a task that has its turn is at that stage. -/
theorem Status.running_of_stage {Reply : Type} {status : Status Reply}
    (stage : status.stage = .running) :
    status = .running := by
  cases status <;> first | rfl | cases stage

/-- A task with that status is to have its turn. -/
def Status.isDue {Reply : Type} : Status Reply → Bool
  | .fresh | .doomed | .woken .. => true
  | _ => false

/-- What others make of the status of a task: if it waits, it may be woken, which is no cancellation
where the wait is on a list, and it may have less to wait for. -/
inductive Status.Leads {Reply : Type} (status : Status Reply) : Status Reply → Prop
  | stays : Leads status status
  | woken {on still : Await} {wake : Wake Reply} (waits : status = .waiting on)
      (isPlain : on.isListed → still = on ∧ wake ≠ .cancelled) : Leads status (.woken still wake)
  | counted {left less : Nat} (waits : status = .waiting (.count left)) :
      Leads status (.waiting (.count less))

theorem Status.Leads.trans {Reply : Type} {first second third : Status Reply}
    (left : first.Leads second) (right : second.Leads third) : first.Leads third := by
  cases left with
  | stays => exact right
  | woken waits isPlain =>
    cases right with
    | stays => exact .woken waits isPlain
    | woken waits' => cases waits'
    | counted waits' => cases waits'
  | counted waits =>
    cases right with
    | stays => exact .counted waits
    | woken waits' =>
      cases waits'
      exact .woken waits fun isListed => isListed.elim
    | counted waits' => exact .counted waits

theorem Status.Leads.stage {Reply : Type} {status after : Status Reply}
    (leads : status.Leads after) :
    after.stage = status.stage := by
  cases leads with
  | stays => rfl
  | woken waits => rw [waits]; rfl
  | counted waits => rw [waits]; rfl

namespace Loop

/-! ## What stays as it is -/

section Stay

variable {before after loop : Loop S} {task : TaskId}

/-- Errands do nothing but make calls. -/
def ErrandsCall (loop : Loop S) : Prop :=
  ∀ (task : TaskId) (known : Task S), loop.tasks[task]? = some known → known.role = .errand →
    ∀ frame ∈ known.frames, frame.isService

/-- The tasks after one has come in. -/
theorem spawn_tasks (role : Role) (frame : Frame S.Point) (loop : Loop S) (task : TaskId) :
    (loop.spawn role frame).tasks[task]? =
      if task = loop.tasks.length then some { role, frames := [frame] } else loop.tasks[task]? := by
  show (loop.tasks ++ [{ role, frames := [frame] }])[task]? = _
  rcases Nat.lt_trichotomy task loop.tasks.length with isOld | isNew | isNone
  · rw [List.getElem?_append_left isOld, if_neg (Nat.ne_of_lt isOld)]
  · rw [isNew, List.getElem?_concat_length, if_pos rfl]
  · rw [if_neg (Nat.ne_of_gt isNone), List.getElem?_eq_none (Nat.le_of_lt isNone)]
    exact List.getElem?_eq_none (by simpa [Nat.succ_le_iff] using isNone)

theorem status_of_running {known : Task S} (runs : loop.status? task = some .running)
    (found : loop.tasks[task]? = some known) : known.status = .running := by
  rw [status?, found] at runs
  exact Option.some.inj runs

theorem setFrames_status? (self : TaskId) (frames : List (Frame S.Point)) (loop : Loop S)
    (other : TaskId) :
    (loop.setFrames self frames).status? other = loop.status? other := by
  unfold status? setFrames modifyTask
  dsimp only
  rw [List.getElem?_modify]
  cases loop.tasks[other]? with
  | none => rfl
  | some known => by_cases here : self = other <;> simp [here]

/-- Tasks stay what they are but for what others can change, and those that come in are no
workers. -/
structure Stays (before after : Loop S) : Prop where
  old (task : TaskId) (known : Task S) : before.tasks[task]? = some known →
    ∃ known', after.tasks[task]? = some known' ∧ known'.role = known.role ∧
      known'.frames = known.frames ∧ known'.status.stage = known.status.stage
  new (task : TaskId) (known : Task S) : before.tasks[task]? = none →
    after.tasks[task]? = some known →
    ∃ frame, known.frames = [frame] ∧ known.status.stage = .new ∧
      (∀ cache, known.role ≠ .worker cache) ∧
      (known.role = .errand → frame.isService)

namespace Stays

variable {first second third : Loop S}

theorem of_eq (tasks : second.tasks = first.tasks) : Stays first second :=
  ⟨fun _ known found => ⟨known, tasks ▸ found, rfl, rfl, rfl⟩, fun task known isNone found => by
    rw [tasks, isNone] at found
    cases found⟩

theorem trans (left : Stays first second) (right : Stays second third) : Stays first third := by
  refine ⟨fun task known found => ?_, fun task known isNone found => ?_⟩
  · obtain ⟨known', found', role, frames, stage⟩ := left.old task known found
    obtain ⟨known'', found'', role', frames', stage'⟩ := right.old task known' found'
    exact ⟨known'', found'', role'.trans role, frames'.trans frames, stage'.trans stage⟩
  · cases between : second.tasks[task]? with
    | none => exact right.new task known between found
    | some known' =>
      obtain ⟨known'', found'', role, frames, stage⟩ := right.old task known' between
      cases found.symm.trans found''
      obtain ⟨frame, same, isNew, isOther, isCall⟩ := left.new task known' isNone between
      exact ⟨frame, frames.trans same, stage.trans isNew, fun cache => role ▸ isOther cache,
        fun isErrand => isCall (role ▸ isErrand)⟩

/-- What is spared stays, where no worker comes in. -/
theorem of_spares (spares : Spares first second)
    (isOther : ∀ (task : TaskId) (known : Task S) cache, first.tasks[task]? = none →
      second.tasks[task]? = some known → known.role ≠ .worker cache) : Stays first second := by
  refine ⟨spares.old, fun task known isNone found => ?_⟩
  obtain ⟨frame, frames, enters, isNew⟩ := spares.new task known isNone found
  refine ⟨frame, frames, isNew, fun cache => isOther task known cache isNone found,
    fun isErrand => ?_⟩
  rw [isErrand] at enters
  cases enters with
  | errand point => trivial
  | opening isOwn isOpening => rcases isOwn with same | ⟨_, same⟩ <;> cases same

/-- Where no task comes in. -/
theorem of_length (spares : Spares first second)
    (length : second.tasks.length = first.tasks.length) :
    Stays first second :=
  of_spares spares fun task known _ isNone found => by
    rw [List.getElem?_eq_none_iff, ← length, ← List.getElem?_eq_none_iff, found] at isNone
    cases isNone

theorem errandsCall (stays : Stays first second) (errandsCall : first.ErrandsCall) :
    second.ErrandsCall := by
  intro task known found isErrand frame member
  cases earlier : first.tasks[task]? with
  | none =>
    obtain ⟨only, frames, -, -, isCall⟩ := stays.new task known earlier found
    rw [frames, List.mem_singleton] at member
    exact member ▸ isCall isErrand
  | some old =>
    obtain ⟨known', found', role, frames, -⟩ := stays.old task old earlier
    cases found.symm.trans found'
    exact errandsCall task old earlier (role ▸ isErrand) frame (frames ▸ member)

end Stays

theorem wake_stays (task : TaskId) (why : Wake S.Reply) (loop : Loop S) :
    Stays loop (loop.wake task why) :=
  .of_length (wake_spares task why loop) (wake_taskCount task why loop)

theorem wakes_stays (why : Wake S.Reply) (tasks : List TaskId) (loop : Loop S) :
    Stays loop (tasks.foldl (fun loop task => loop.wake task why) loop) :=
  foldl_relates (fun _ => .of_eq rfl) .trans (fun loop task => wake_stays task why loop) tasks loop

theorem post_stays (cache : CacheId) (item : Item) (loop : Loop S) :
    Stays loop (loop.post cache item) := by
  unfold post
  split
  · exact .of_eq rfl
  · dsimp only
    split
    · next worker _ =>
      exact (Stays.of_eq (modifyCache_keeps loop cache _).2.1).trans (wake_stays worker .goOn _)
    · exact .of_eq rfl

/-- What becomes of an answer leaves all tasks as they are. -/
theorem answered_stays (cache : CacheId) (query : Query) (task : TaskId) (outcome : Outcome Answer)
    (loop : Loop S) : Stays loop (loop.answered cache query task outcome) ∧
      (loop.answered cache query task outcome).turn = loop.turn := by
  unfold answered
  dsimp only
  split
  · exact ⟨.trans (.of_eq (by rfl)) (post_stays _ _ _), (post_keeps _ _ _).2.2⟩
  · exact ⟨.of_eq rfl, rfl⟩

theorem Grain.stays (grain : Grain asks drops before after) : Stays before after := by
  cases grain with
  | still service duty tasks ready turn => exact .of_eq tasks
  | serve drift => exact .of_eq rfl
  | create known isNew => exact .of_eq rfl
  | post found runs isPlain => exact post_stays _ _ before
  | @spawn role frame isOther enters =>
    refine .of_spares (spawn_spares enters) fun task known cache isNone found => ?_
    rw [spawn_tasks] at found
    split at found
    · cases found
      exact isOther cache
    · cases isNone.symm.trans found
  | @ask asker owner query mayAsk isThere =>
    have spawned : Spares before (before.spawn _ _) := spawn_spares (.request query isThere)
    refine (Stays.of_spares spawned fun task known cache isNone found => ?_).trans (.of_eq (by rfl))
    rw [spawn_tasks] at found
    split at found
    · cases found
      exact Role.noConfusion
    · cases isNone.symm.trans found
  | @wake task why isFree => exact wake_stays task why before
  | count task => exact .of_length (countDown_spares task before) (countDown_taskCount task before)
  | cancel task =>
    refine .of_length ?_ (cancelErrand_taskCount task before)
    unfold cancelErrand
    split
    · exact cancel_spares task before
    · exact .refl before
  | hook task isPlain => exact .of_length (addHook_spares _ _ _) (addHook_taskCount _ _ _)

theorem Grains.stays (grains : Grains asks drops before after) : Stays before after := by
  induction grains with
  | refl => exact .of_eq rfl
  | tail _ grain step => exact step.trans grain.stays

theorem itemDone_stays (cache : CacheId) (loop : Loop S) : Stays loop (loop.itemDone cache) := by
  unfold itemDone
  split
  · exact .of_eq rfl
  · exact (Stays.of_eq (modifyCache_keeps loop cache _).2.1).trans (wakes_stays .goOn _ _)

theorem retire_stays (cache : CacheId) (handle : Option Handle) (loop : Loop S) :
    Stays loop (loop.retire cache handle) := by
  have stopped : Stays loop (loop.stopCache cache) := by
    unfold stopCache
    split
    · exact (Stays.of_eq (modifyCache_keeps loop cache _).2.1).trans (post_stays cache .stop _)
    · exact .of_eq rfl
  exact stopped.trans (.of_eq rfl)

/-- In a turn tasks stay what they are, unless a cache begins to run. -/
theorem Plays.stays {self : TaskId} {frame : Frame S.Point} {wake : Wake S.Reply} {turn : Turn S}
    (plays : Plays self loop frame wake turn) : Stays loop turn.1 ∨
      ∃ cache known, loop.caches[cache]? = some known ∧ known.phase = .latent ∧
        turn.1.caches = (loop.begin cache).caches ∧
          turn.1.tasks =
            loop.tasks ++ [{ role := .worker cache, frames := [.worker cache .taking] }] := by
  cases plays with
  | plain isOther grains isFree => exact .inl grains.stays
  | begins found isLatent => exact .inr ⟨_, _, found, isLatent, rfl, rfl⟩
  | listens found grains isFree => exact .inl (.trans (.of_eq (by rfl)) grains.stays)
  | retires outcome found => exact .inl (retire_stays _ _ loop)
  | shuts found knows isOpen =>
    exact .inl
      ((retire_stays _ _ loop).trans (.of_length (addHook_spares _ _ _) (addHook_taskCount _ _ _)))
  | joins found has isBusy => exact .inl (.of_eq rfl)
  | quits isGone => exact .inl (.of_eq rfl)
  | idles found isPlain isEmpty => exact .inl (.of_eq rfl)
  | reads found isPlain has taken => exact .inl (.of_eq rfl)
  | works found isPlain has taken grains either =>
    exact .inl (.trans (.trans (.of_eq (by rfl)) grains.stays) (itemDone_stays _ _))
  | returns found grains either => exact .inl (grains.stays.trans (itemDone_stays _ _))

end Stay

/-! ## What others make of a task -/

section Lets

variable {before after loop : Loop S} {tracked self : TaskId}

/-- A task stays what it is, but that it may be woken, or have less to wait for, unless the service
has sent it out. -/
def Lets (tracked : TaskId) (before after : Loop S) : Prop :=
  ∀ known : Task S, before.tasks[tracked]? = some known → known.role ≠ .errand →
    ∃ known', after.tasks[tracked]? = some known' ∧ known'.role = known.role ∧
      known'.frames = known.frames ∧
      known.status.Leads known'.status

namespace Lets

variable {first second third : Loop S}

theorem of_same (tasks : second.tasks[tracked]? = first.tasks[tracked]?) :
    Lets tracked first second :=
  fun known found _ => ⟨known, tasks.trans found, rfl, rfl, .stays⟩

theorem of_eq (tasks : second.tasks = first.tasks) : Lets tracked first second :=
  of_same (by rw [tasks])

theorem trans (left : Lets tracked first second) (right : Lets tracked second third) :
    Lets tracked first third := by
  intro known found isOther
  obtain ⟨known', found', role, frames, leads⟩ := left known found isOther
  obtain ⟨known'', found'', role', frames', leads'⟩ := right known' found' (role ▸ isOther)
  exact ⟨known'', found'', role'.trans role, frames'.trans frames, leads.trans leads'⟩

theorem changes {kind : Type} (change : Loop S → kind → Loop S)
    (each : ∀ loop item, Lets tracked loop (change loop item)) (items : List kind) (loop : Loop S) :
    Lets tracked loop (items.foldl change loop) :=
  foldl_relates (fun _ => of_eq rfl) trans each items loop

/-- A change of one task. -/
theorem modifyTask (task : TaskId) {change : Task S → Task S} {loop : Loop S}
    (keeps : task = tracked → ∀ known, loop.tasks[task]? = some known → known.role ≠ .errand →
      (change known).role = known.role ∧ (change known).frames = known.frames ∧
        known.status.Leads (change known).status) :
    Lets tracked loop (loop.modifyTask task change) := by
  intro known found isOther
  by_cases here : task = tracked
  · subst here
    refine ⟨change known, ?_, keeps rfl known found isOther⟩
    show (loop.tasks.modify task change)[task]? = _
    rw [List.getElem?_modify_eq, found]
    rfl
  · refine ⟨known, ?_, rfl, rfl, .stays⟩
    show (loop.tasks.modify task change)[tracked]? = _
    rw [List.getElem?_modify_ne _ _ here]
    exact found

theorem setStatus {task : TaskId} {old : Status S.Reply} (status : Status S.Reply) {loop : Loop S}
    (was : loop.status? task = some old)
    (leads : task = tracked → old.Leads status) :
    Lets tracked loop (loop.setStatus task status) := by
  refine modifyTask task fun here known found _ => ?_
  rw [status?, found] at was
  cases was
  exact ⟨rfl, rfl, leads here⟩

end Lets

theorem wake_lets (task : TaskId) {why : Wake S.Reply} {loop : Loop S}
    (isPlain : why ≠ .cancelled ∨ loop.IsFree task) : Lets tracked loop (loop.wake task why) := by
  unfold wake
  split
  · next on was =>
    refine Lets.trans (Lets.setStatus (.woken on why) was fun _ => .woken rfl fun isListed =>
      ⟨rfl, ?_⟩) (.of_eq rfl)
    exact isPlain.resolve_right fun isFree => isFree on was isListed
  · exact .of_eq rfl

theorem wakes_lets (tasks : List TaskId) (loop : Loop S) :
    Lets tracked loop (tasks.foldl (fun loop task => loop.wake task .goOn) loop) :=
  .changes _ (fun _ task => wake_lets task (.inl (by simp))) tasks loop

theorem trigger_lets (task : TaskId) (outcome : Outcome Answer) (hook : Hook) (loop : Loop S) :
    Lets tracked loop (loop.trigger task outcome hook) := by
  cases hook with
  | resume waiter => exact wake_lets waiter (.inl (by simp))
  | _ => exact .of_eq rfl

theorem addHook_lets (task : TaskId) (hook : Hook) (loop : Loop S) :
    Lets tracked loop (loop.addHook task hook) := by
  unfold addHook
  split
  · exact trigger_lets task _ hook loop
  · exact .modifyTask task fun _ _ _ _ => ⟨rfl, rfl, .stays⟩

theorem countDown_lets (task : TaskId) (loop : Loop S) :
    Lets tracked loop (loop.countDown task) := by
  unfold countDown
  split
  · next left was =>
    split
    · exact wake_lets task (.inl (by simp))
    · exact .setStatus _ was fun _ => .counted rfl
  · exact .of_eq rfl

theorem cancelErrand_lets (task : TaskId) (loop : Loop S) :
    Lets tracked loop (loop.cancelErrand task) := by
  intro known found isOther
  by_cases here : task = tracked
  · subst here
    refine ⟨known, ?_, rfl, rfl, .stays⟩
    have isNone : ((loop.tasks[task]?).any fun known => known.role = .errand) = false := by
      rw [found, Option.any_some]
      exact decide_eq_false isOther
    rw [cancelErrand, if_neg (by rw [isNone]; simp)]
    exact found
  · refine ⟨known, ?_, rfl, rfl, .stays⟩
    have set : ∀ status, (loop.setStatus task status).tasks[tracked]? = loop.tasks[tracked]? :=
      fun status =>
      List.getElem?_modify_ne _ _ here
    rw [← found]
    unfold cancelErrand cancel
    split
    · split
      · exact set _
      · unfold wake
        split
        · exact set _
        · rfl
      · exact set _
      · rfl
    · rfl

theorem spawn_lets (role : Role) (frame : Frame S.Point) (loop : Loop S) :
    Lets tracked loop (loop.spawn role frame) := by
  intro known found _
  refine ⟨known, ?_, rfl, rfl, .stays⟩
  rw [spawn_tasks, if_neg, found]
  intro here
  rw [here, List.getElem?_eq_none (Nat.le_refl _)] at found
  cases found

theorem post_lets (owner : CacheId) (item : Item) (loop : Loop S) :
    Lets tracked loop (loop.post owner item) := by
  unfold post
  split
  · exact .of_eq rfl
  · dsimp only
    split
    · next getter _ =>
      exact (Lets.of_eq (modifyCache_keeps loop owner _).2.1).trans
        (wake_lets getter (.inl (by simp)))
    · exact .of_eq rfl

theorem itemDone_lets (owner : CacheId) (loop : Loop S) :
    Lets tracked loop (loop.itemDone owner) := by
  unfold itemDone
  split
  · exact .of_eq rfl
  · exact (Lets.of_eq (modifyCache_keeps loop owner _).2.1).trans (wakes_lets _ _)

theorem retire_lets (owner : CacheId) (handle : Option Handle) (loop : Loop S) :
    Lets tracked loop (loop.retire owner handle) := by
  have stopped : Lets tracked loop (loop.stopCache owner) := by
    unfold stopCache
    split
    · exact (Lets.of_eq (modifyCache_keeps loop owner _).2.1).trans (post_lets owner .stop _)
    · exact .of_eq rfl
  exact stopped.trans (.of_eq rfl)

theorem Grain.lets (grain : Grain asks drops before after) : Lets tracked before after := by
  cases grain with
  | still service duty tasks ready turn => exact .of_eq tasks
  | serve drift => exact .of_eq rfl
  | create known isNew => exact .of_eq rfl
  | post found runs isPlain => exact post_lets _ _ before
  | spawn isOther enters => exact spawn_lets _ _ before
  | ask query mayAsk found => exact (spawn_lets _ _ before).trans (.of_eq (by rfl))
  | wake isFree => exact wake_lets _ (.inr isFree)
  | count task => exact countDown_lets task before
  | cancel task => exact cancelErrand_lets task before
  | hook task isPlain => exact addHook_lets task _ before

theorem Grains.lets (grains : Grains asks drops before after) : Lets tracked before after := by
  induction grains with
  | refl => exact .of_eq rfl
  | tail _ grain step => exact step.trans grain.lets

/-- What a frame does in its turn. -/
theorem Plays.lets {frame : Frame S.Point} {wake : Wake S.Reply} {turn : Turn S}
    (plays : Plays self loop frame wake turn) : Lets tracked loop turn.1 := by
  cases plays with
  | plain isOther grains isFree => exact grains.lets
  | begins found isLatent => exact .trans (.of_eq rfl) (spawn_lets _ _ _)
  | listens found grains isFree => exact .trans (.of_eq rfl) grains.lets
  | retires outcome found => exact retire_lets _ _ loop
  | shuts found knows isOpen => exact (retire_lets _ _ loop).trans (addHook_lets _ _ _)
  | joins found has isBusy => exact .of_eq rfl
  | quits isGone => exact .of_eq rfl
  | idles found isPlain isEmpty => exact .of_eq rfl
  | reads found isPlain has taken => exact .of_eq rfl
  | works found isPlain has taken grains either =>
    exact .trans (.trans (.of_eq rfl) grains.lets) (itemDone_lets _ _)
  | returns found grains either => exact grains.lets.trans (itemDone_lets _ _)

theorem finish_lets {task : TaskId} (isOther : task ≠ tracked) (outcome : Outcome Answer)
    (loop : Loop S) :
    Lets tracked loop (loop.finish task outcome) :=
  .trans (.modifyTask task fun here => absurd here isOther)
    (.changes _ (fun loop hook => trigger_lets task outcome hook loop) _ _)

/-- The end of another task's turn. -/
theorem afterTurn_lets {task : TaskId} (isOther : task ≠ tracked) (frame : Frame S.Point)
    (rest : List (Frame S.Point)) (turn : Turn S) :
    Lets tracked turn.1 (afterTurn task frame rest turn) := by
  obtain ⟨loop, way⟩ := turn
  have noted : Lets tracked loop (loop.noteEnd task frame way) :=
    .of_eq (noteEnd_tasks task frame way loop).1
  have set : ∀ frames (loop : Loop S), Lets tracked loop (loop.setFrames task frames) :=
    fun frames loop =>
    .modifyTask task fun here => absurd here isOther
  have state : ∀ status (loop : Loop S), Lets tracked loop (loop.setStatus task status) :=
    fun status loop =>
    .modifyTask task fun here => absurd here isOther
  refine noted.trans ?_
  cases way with
  | goOn next => exact (set (next :: rest) _).trans (.of_eq rfl)
  | call caller callee => exact (set (callee :: caller :: rest) _).trans (.of_eq rfl)
  | await next on =>
    refine (set (next :: rest) _).trans ?_
    show Lets tracked _ (Loop.suspend task on _)
    unfold suspend
    split
    · split
      · exact (state _ _).trans (.of_eq rfl)
      · exact state _ _
    · exact state _ _
  | finish outcome =>
    cases rest with
    | nil => exact finish_lets isOther outcome _
    | cons caller rest => exact (set (caller :: rest) _).trans (.of_eq rfl)

end Lets

/-! ## What is ready -/

section Queue

variable {before after loop : Loop S} {first second third : Loop S}

/-- The task is to have its turn. -/
def isDue (task : TaskId) (loop : Loop S) : Bool := (loop.status? task).any Status.isDue

/-- A task is in the list of what is ready once if it is to have its turn, and no hook is that lets
a task go on. -/
structure IsQueued (loop : Loop S) : Prop where
  once (task : TaskId) : loop.ready.count (.resume task) = (loop.isDue task).toNat
  hooks (waiter task : TaskId) : .hook (.resume waiter) task ∉ loop.ready

/-- Jobs come last in the list: a turn for each task that is to have one now, and was not. -/
def Queues (before after : Loop S) : Prop :=
  ∃ jobs, after.ready = before.ready ++ jobs ∧ (∀ waiter task, .hook (.resume waiter) task ∉ jobs) ∧
    ∀ task, jobs.count (.resume task) + (before.isDue task).toNat = (after.isDue task).toNat

namespace Queues

theorem of_due (ready : second.ready = first.ready)
    (due : ∀ task, second.isDue task = first.isDue task) :
    Queues first second := ⟨[], by simp [ready], by simp, fun task => by simp [due]⟩

theorem of_eq (ready : second.ready = first.ready) (tasks : second.tasks = first.tasks) :
    Queues first second := of_due ready fun task => by rw [isDue, status?, tasks, isDue, status?]

theorem trans (left : Queues first second) (right : Queues second third) : Queues first third := by
  obtain ⟨jobs, ready, hooks, count⟩ := left
  obtain ⟨jobs', ready', hooks', count'⟩ := right
  refine ⟨jobs ++ jobs', by rw [ready', ready, List.append_assoc], fun waiter task member => ?_,
    fun task => ?_⟩
  · exact (List.mem_append.mp member).elim (hooks waiter task) (hooks' waiter task)
  · rw [List.count_append, ← count' task, ← count task]
    omega

theorem isQueued (queues : Queues before after) (isQueued : before.IsQueued) : after.IsQueued := by
  obtain ⟨jobs, ready, hooks, count⟩ := queues
  refine ⟨fun task => ?_, fun waiter task member => ?_⟩
  · rw [ready, List.count_append, isQueued.once, ← count task]
    omega
  · rw [ready] at member
    exact (List.mem_append.mp member).elim (isQueued.hooks waiter task) (hooks waiter task)

/-- What is ready when a task is made or woken comes last. -/
theorem ready (queues : Queues before after) : ∃ jobs, after.ready = before.ready ++ jobs :=
  queues.imp fun _ queued => queued.1

/-- A job that is not the turn of a task. -/
theorem push {job : Job} (isOther : ∀ task, job ≠ .resume task)
    (isPlain : ∀ waiter task, job ≠ .hook (.resume waiter) task) (loop : Loop S) :
    Queues loop (loop.push job) := by
  refine ⟨[job], rfl, fun waiter task member => ?_, fun task => ?_⟩
  · exact isPlain waiter task (List.mem_singleton.mp member).symm
  · rw [List.count_eq_zero_of_not_mem, Nat.zero_add]
    · rfl
    · exact fun member => isOther task (List.mem_singleton.mp member).symm

/-- Each of several changes queues. -/
theorem changes {kind : Type} (change : Loop S → kind → Loop S)
    (each : ∀ loop item, Queues loop (change loop item)) (items : List kind) (loop : Loop S) :
    Queues loop (items.foldl change loop) :=
  foldl_relates (fun _ => of_eq rfl rfl) trans each items loop

end Queues

/-- Who is to have a turn after a change of one task. -/
theorem modifyTask_isDue (task : TaskId) (change : Task S → Task S) (loop : Loop S)
    (other : TaskId) :
    (loop.modifyTask task change).isDue other =
      if other = task then (loop.tasks[task]?).any fun known => (change known).status.isDue
      else loop.isDue other := by
  unfold isDue status? modifyTask
  rw [List.getElem?_modify]
  by_cases here : task = other
  · subst here
    cases loop.tasks[task]? <;> simp
  · simp [here, Ne.symm here]

/-- A change of a task that leaves it as it is in that. -/
theorem modifyTask_queues (task : TaskId) {change : Task S → Task S} {loop : Loop S}
    (same : ∀ known, loop.tasks[task]? = some known →
      (change known).status.isDue = known.status.isDue) :
    Queues loop (loop.modifyTask task change) := by
  refine .of_due rfl fun other => ?_
  rw [modifyTask_isDue]
  split
  · next here =>
    rw [here, isDue, status?]
    cases found : loop.tasks[task]? with
    | none => rfl
    | some known => simp [same known found]
  · rfl

theorem setStatus_queues {task : TaskId} {old : Status S.Reply} (status : Status S.Reply)
    {loop : Loop S} (was : loop.status? task = some old) (same : status.isDue = old.isDue) :
    Queues loop (loop.setStatus task status) := by
  refine modifyTask_queues task fun known found => ?_
  rw [status?, found] at was
  cases was
  exact same

/-- A task that was not to have a turn, and is now. -/
theorem due_queues {task : TaskId} {old : Status S.Reply} {status : Status S.Reply} {loop : Loop S}
    (was : loop.status? task = some old) (wasNot : old.isDue = false) (is : status.isDue = true) :
    Queues loop ((loop.setStatus task status).push (.resume task)) := by
  obtain ⟨known, found, same⟩ := Option.map_eq_some_iff.mp was
  refine ⟨[.resume task], rfl, by simp, fun other => ?_⟩
  have due : ((loop.setStatus task status).push (.resume task)).isDue other =
      if other = task then true else loop.isDue other := by
    show (loop.modifyTask task fun known => { known with status }).isDue other = _
    rw [modifyTask_isDue, found]
    simp [is]
  rw [due]
  by_cases here : other = task
  · rw [here, isDue, was]
    simp [wasNot]
  · simp [here, Ne.symm here]

theorem wake_queues (task : TaskId) (why : Wake S.Reply) (loop : Loop S) :
    Queues loop (loop.wake task why) := by
  unfold wake
  split
  · next on was => exact due_queues was rfl rfl
  · exact .of_eq rfl rfl

theorem wakes_queues (why : Wake S.Reply) (tasks : List TaskId) (loop : Loop S) :
    Queues loop (tasks.foldl (fun loop task => loop.wake task why) loop) :=
  .changes _ (fun loop task => wake_queues task why loop) tasks loop

theorem spawn_queues (role : Role) (frame : Frame S.Point) (loop : Loop S) :
    Queues loop (loop.spawn role frame) := by
  refine ⟨[.resume loop.tasks.length], rfl, by simp, fun task => ?_⟩
  have due : (loop.spawn role frame).isDue task = if task = loop.tasks.length then true else
      loop.isDue task := by
    unfold isDue status?
    rw [spawn_tasks]
    split <;> rfl
  rw [due]
  by_cases here : task = loop.tasks.length
  · simp [here, isDue, status?]
  · simp [here, Ne.symm here]

theorem countDown_queues (task : TaskId) (loop : Loop S) : Queues loop (loop.countDown task) := by
  unfold countDown
  split
  · next left was =>
    split
    · exact wake_queues task .goOn loop
    · exact setStatus_queues _ was rfl
  · exact .of_eq rfl rfl

theorem cancelErrand_queues (task : TaskId) (loop : Loop S) :
    Queues loop (loop.cancelErrand task) := by
  unfold cancelErrand cancel
  split
  · split
    · next was => exact setStatus_queues _ was rfl
    · exact wake_queues task .cancelled loop
    · next on why was => exact setStatus_queues _ was rfl
    · exact .of_eq rfl rfl
  · exact .of_eq rfl rfl

theorem trigger_queues (task : TaskId) (outcome : Outcome Answer) (hook : Hook) (loop : Loop S) :
    Queues loop (loop.trigger task outcome hook) := by
  cases hook with
  | resume waiter => exact wake_queues waiter _ loop
  | _ => exact .push (by simp) (by simp) loop

theorem addHook_queues (task : TaskId) (hook : Hook) (loop : Loop S) :
    Queues loop (loop.addHook task hook) := by
  unfold addHook
  split
  · exact trigger_queues task _ hook loop
  · exact modifyTask_queues task fun _ _ => rfl

theorem post_queues (cache : CacheId) (item : Item) (loop : Loop S) :
    Queues loop (loop.post cache item) := by
  unfold post
  split
  · exact .of_eq rfl rfl
  · dsimp only
    split
    · next worker _ => exact .trans (.of_eq rfl rfl) (wake_queues worker .goOn _)
    · exact .of_eq rfl rfl

theorem itemDone_queues (cache : CacheId) (loop : Loop S) : Queues loop (loop.itemDone cache) := by
  unfold itemDone
  split
  · exact .of_eq rfl rfl
  · exact .trans (.of_eq rfl rfl) (wakes_queues .goOn _ _)

theorem retire_queues (cache : CacheId) (handle : Option Handle) (loop : Loop S) :
    Queues loop (loop.retire cache handle) := by
  have stopped : Queues loop (loop.stopCache cache) := by
    unfold stopCache
    split
    · exact .trans (.of_eq rfl rfl) (post_queues cache .stop _)
    · exact .of_eq rfl rfl
  exact stopped.trans (.of_eq rfl rfl)

theorem Grain.queues (grain : Grain asks drops before after) : Queues before after := by
  cases grain with
  | still service duty tasks ready turn => exact .of_eq ready tasks
  | serve drift => exact .of_eq rfl rfl
  | create known isNew => exact .of_eq rfl rfl
  | post found runs isPlain => exact post_queues _ _ before
  | spawn isOther enters => exact spawn_queues _ _ before
  | ask query mayAsk found => exact (spawn_queues _ _ before).trans (.of_eq (by rfl) (by rfl))
  | wake isFree => exact wake_queues _ _ before
  | count task => exact countDown_queues task before
  | cancel task => exact cancelErrand_queues task before
  | hook task isPlain => exact addHook_queues task _ before

theorem Grains.queues (grains : Grains asks drops before after) : Queues before after := by
  induction grains with
  | refl => exact .of_eq rfl rfl
  | tail _ grain step => exact step.trans grain.queues

/-- What a frame does in its turn queues. -/
theorem Plays.queues {self : TaskId} {frame : Frame S.Point} {wake : Wake S.Reply} {turn : Turn S}
    (plays : Plays self loop frame wake turn) : Queues loop turn.1 := by
  cases plays with
  | plain isOther grains isFree => exact grains.queues
  | begins found isLatent => exact .trans (.of_eq rfl rfl) (spawn_queues _ _ _)
  | listens found grains isFree => exact .trans (.of_eq rfl rfl) grains.queues
  | retires outcome found => exact retire_queues _ _ loop
  | shuts found knows isOpen => exact (retire_queues _ _ loop).trans (addHook_queues _ _ _)
  | joins found has isBusy => exact .of_eq rfl rfl
  | quits isGone => exact .of_eq rfl rfl
  | idles found isPlain isEmpty => exact .of_eq rfl rfl
  | reads found isPlain has taken => exact .of_eq rfl rfl
  | works found isPlain has taken grains either =>
    exact .trans (.trans (.of_eq rfl rfl) grains.queues) (itemDone_queues _ _)
  | returns found grains either => exact grains.queues.trans (itemDone_queues _ _)

/-- A task that is not to have a turn ends. -/
theorem finish_queues {task : TaskId} (outcome : Outcome Answer) {loop : Loop S}
    (isOff : loop.isDue task = false) :
    Queues loop (loop.finish task outcome) := by
  refine .trans (modifyTask_queues task fun known found => ?_) (.changes _ (fun loop hook =>
    trigger_queues task outcome hook loop) _ _)
  rw [isDue, status?, found] at isOff
  exact isOff.symm

/-- The end of a turn queues. -/
theorem afterTurn_queues {task : TaskId} (frame : Frame S.Point) (rest : List (Frame S.Point))
    {turn : Turn S} (runs : turn.1.status? task = some .running) :
    Queues turn.1 (afterTurn task frame rest turn) := by
  obtain ⟨loop, way⟩ := turn
  have noted : Queues loop (loop.noteEnd task frame way) := by
    unfold noteEnd
    split <;> exact .of_eq rfl rfl
  have runs' : (loop.noteEnd task frame way).status? task = some .running := by
    rw [status?, (noteEnd_tasks task frame way loop).1]
    exact runs
  have set :
      ∀ frames,
        Queues (loop.noteEnd task frame way)
          ((loop.noteEnd task frame way).setFrames task frames) :=
    fun frames => modifyTask_queues task fun _ _ => rfl
  refine noted.trans ?_
  cases way with
  | goOn next => exact (set (next :: rest)).trans (.of_eq rfl rfl)
  | call caller callee => exact (set (callee :: caller :: rest)).trans (.of_eq rfl rfl)
  | await next on =>
    refine (set (next :: rest)).trans ?_
    have still :=
      (setFrames_status? task (next :: rest) (loop.noteEnd task frame (.await next on)) task).trans
        runs'
    show Queues _ (Loop.suspend task on _)
    unfold suspend
    split
    · split
      · exact due_queues still rfl rfl
      · exact setStatus_queues _ still rfl
    · exact setStatus_queues _ still rfl
  | finish outcome =>
    cases rest with
    | nil => exact finish_queues outcome (by rw [isDue, runs']; rfl)
    | cons caller rest => exact (set (caller :: rest)).trans (.of_eq rfl rfl)

end Queue

/-! ## Who has a turn -/

section Turn

variable {before after loop : Loop S}

/-- A task that has its turn is running. -/
def TurnRuns (loop : Loop S) : Prop :=
  ∀ task wake, loop.turn = some (task, wake) → loop.status? task = some .running

theorem Grain.turn (grain : Grain asks drops before after) : after.turn = before.turn := by
  cases grain with
  | still service duty tasks ready turn => exact turn
  | serve drift => rfl
  | create known isNew => rfl
  | post found runs isPlain => exact (post_keeps _ _ _).2.2
  | spawn isOther enters => rfl
  | ask query mayAsk found => rfl
  | wake isFree => exact (wake_keeps _ _ _).2.2.2
  | count task => exact (countDown_keeps _ _).2.2.2
  | cancel task => exact (cancelErrand_keeps _ _).2.2.2
  | hook task isPlain => exact (addHook_keeps _ _ _).2.2.2

theorem Grains.turn (grains : Grains asks drops before after) : after.turn = before.turn := by
  induction grains with
  | refl => rfl
  | tail _ grain step => exact grain.turn.trans step

/-- A task that has its turn stays as it is. -/
theorem Stays.running (stays : Stays before after) {task : TaskId}
    (runs : before.status? task = some .running) : after.status? task = some .running := by
  obtain ⟨known, found, same⟩ := Option.map_eq_some_iff.mp runs
  obtain ⟨known', found', -, -, stage⟩ := stays.old task known found
  rw [same] at stage
  rw [status?, found', Option.map_some, Status.running_of_stage stage]

theorem TurnRuns.stays (turnRuns : before.TurnRuns) (turn : after.turn = before.turn)
    (stays : Stays before after) : after.TurnRuns :=
  fun task wake given => stays.running (turnRuns task wake (turn ▸ given))

theorem turnRuns_of_between (isBetween : loop.turn = none) : loop.TurnRuns :=
  fun task wake given => by
  rw [isBetween] at given
  cases given

/-- A frame's turn leaves its task running. -/
theorem frameTurn_running {task : TaskId} {wake : Wake S.Reply} {frame : Frame S.Point}
    {rest : List (Frame S.Point)} (isAt : before.IsAt task wake frame rest)
    (turnRuns : before.TurnRuns) :
    (before.inTurn.frameTurn task frame wake).1.status? task = some .running := by
  have runs := turnRuns task wake isAt.turn
  obtain ⟨known, found, same⟩ := Option.map_eq_some_iff.mp runs
  obtain ⟨known', found', -, -, stage⟩ :=
    (frameTurn_spares task frame wake before.inTurn).old task known found
  rw [same] at stage
  rw [status?, found', Option.map_some, Status.running_of_stage stage]

theorem afterTurn_turnRuns {task : TaskId} (frame : Frame S.Point) (rest : List (Frame S.Point))
    {turn : Turn S} (runs : turn.1.status? task = some .running) (isBetween : turn.1.turn = none) :
    (afterTurn task frame rest turn).TurnRuns := by
  obtain ⟨loop, way⟩ := turn
  have noted : (loop.noteEnd task frame way).turn = none := by
    unfold noteEnd
    split <;> exact isBetween
  have given : ∀ frames wake,
      (((loop.noteEnd task frame way).setFrames task frames).give task wake).TurnRuns := by
    intro frames wake other why same
    cases same
    rw [show (((loop.noteEnd task frame way).setFrames task frames).give task wake).status? task =
      ((loop.noteEnd task frame way).setFrames task frames).status? task from rfl,
        setFrames_status?,
      status?, (noteEnd_tasks task frame way loop).1]
    exact runs
  cases way with
  | goOn next => exact given (next :: rest) .goOn
  | call caller callee => exact given (callee :: caller :: rest) .goOn
  | await next on =>
    refine turnRuns_of_between ?_
    show (((loop.noteEnd task frame (.await next on)).setFrames task (next :: rest)).suspend task
      on).turn = none
    rw [(suspend_keeps _ task on).2.2.2]
    exact noted
  | finish outcome =>
    cases rest with
    | nil =>
      refine turnRuns_of_between ?_
      show ((loop.noteEnd task frame (.finish outcome)).finish task outcome).turn = none
      rw [(finish_keeps _ task outcome).2.2.2]
      exact noted
    | cons caller rest => exact given (caller :: rest) (.ended outcome)

theorem Passes.turnRuns (passes : Passes before after) (turnRuns : before.TurnRuns) :
    after.TurnRuns := by
  cases passes with
  | grains grains => exact turnRuns.stays (Grains.turn grains) (Grains.stays grains)
  | turn isAt same plays =>
    subst same
    exact afterTurn_turnRuns _ _ (frameTurn_running isAt turnRuns) (frameTurn_turn _ _ _ _)
  | pause turn isOver => exact turnRuns_of_between rfl
  | @run task status wake ready isBetween isFirst was either =>
    intro other why given
    cases given
    show (({ before with ready } : Loop S).modifyTask task fun known =>
      { known with status := .running }).status?
      task = some .running
    obtain ⟨known, found, -⟩ := Option.map_eq_some_iff.mp was
    rw [status?, modifyTask]
    simp [found]
  | doom isBetween isFirst was => exact turnRuns_of_between (by simpa using isBetween)
  | stale isBetween isFirst isOver => exact turnRuns_of_between isBetween
  | answer isBetween isFirst ended =>
    exact turnRuns_of_between ((answered_stays _ _ _ _ _).2.trans isBetween)
  | hook isBetween isFirst isPlain does =>
    rcases does with grains | ⟨waiter, outcome, -, same⟩
    · exact turnRuns_of_between ((Grains.turn grains).trans isBetween)
    · subst same
      exact turnRuns_of_between (by simpa using isBetween)

/-- A task that has had its turn, or has ended, is not in the list any more. -/
theorem IsQueued.pop {task : TaskId} {ready : List Job} (change : Task S → Task S)
    (isQueued : before.IsQueued) (isFirst : before.ready = .resume task :: ready)
    (isOff : ∀ known, (change known).status.isDue = false) :
    (({ before with ready } : Loop S).modifyTask task change).IsQueued := by
  refine ⟨fun other => ?_, fun waiter other member => isQueued.hooks waiter other ?_⟩
  · have once := isQueued.once other
    rw [isFirst, List.count_cons] at once
    rw [modifyTask_isDue]
    show ready.count (.resume other) = _
    by_cases here : other = task
    · subst here
      have most : (before.isDue other).toNat ≤ 1 := Bool.toNat_le _
      rw [if_pos rfl, show ((({ before with ready } : Loop S).tasks[other]?).any fun known =>
        (change known).status.isDue) = false from by
        cases ({ before with ready } : Loop S).tasks[other]? <;> simp [isOff]]
      simp only [beq_self_eq_true, if_true] at once
      simp only [Bool.toNat_false]
      omega
    · rw [if_neg here]
      simp only [beq_iff_eq, Job.resume.injEq, Ne.symm here, if_false, Nat.add_zero] at once
      exact once
  · rw [isFirst]
    exact List.mem_cons_of_mem _ member

/-- A job that is not the turn of a task is begun. -/
theorem IsQueued.popHook {hook : Hook} {task : TaskId} {ready : List Job}
    (isQueued : before.IsQueued) (isFirst : before.ready = .hook hook task :: ready) :
    ({ before with ready } : Loop S).IsQueued := by
  refine ⟨fun other => ?_, fun waiter other member => isQueued.hooks waiter other ?_⟩
  · have once := isQueued.once other
    rw [isFirst, List.count_cons_of_ne (by simp)] at once
    exact once
  · rw [isFirst]
    exact List.mem_cons_of_mem _ member

/-- The first task in the list is to have its turn. -/
theorem IsQueued.isDue_of_first {task : TaskId} {ready : List Job} (isQueued : before.IsQueued)
    (isFirst : before.ready = .resume task :: ready) : before.isDue task = true := by
  have once := isQueued.once task
  rw [isFirst, List.count_cons_self] at once
  cases isOff : before.isDue task with
  | true => rfl
  | false =>
    rw [isOff, Bool.toNat_false] at once
    omega

theorem Passes.isQueued (passes : Passes before after) (turnRuns : before.TurnRuns)
    (isQueued : before.IsQueued) :
    after.IsQueued := by
  cases passes with
  | grains grains => exact (Grains.queues grains).isQueued isQueued
  | @turn task wake frame rest turn isAt same plays =>
    refine Queues.isQueued ?_ isQueued
    refine .trans (.of_eq rfl rfl) (plays.queues.trans (afterTurn_queues frame rest ?_))
    rw [same]
    exact frameTurn_running isAt turnRuns
  | pause turn isOver => exact ⟨isQueued.once, isQueued.hooks⟩
  | @run task status wake ready isBetween isFirst was either =>
    have popped :=
      isQueued.pop (fun known => { known with status := .running }) isFirst fun _ => rfl
    exact ⟨popped.once, popped.hooks⟩
  | @doom task ready isBetween isFirst was =>
    have popped := isQueued.pop (fun known =>
      { known with status := .ended .cancelled, hooks := [], frames := [] }) isFirst fun _ => rfl
    exact Queues.isQueued
      (.changes _ (fun loop hook => trigger_queues task .cancelled hook loop) _ _) popped
  | @stale task ready isBetween isFirst isOver =>
    have due := isQueued.isDue_of_first isFirst
    obtain ⟨status, was, isDue⟩ := (Option.any_eq_true _ _).mp due
    cases status with
    | fresh => exact absurd was isOver.1
    | doomed => exact absurd was isOver.2.1
    | woken on wake => exact absurd was (isOver.2.2 on wake)
    | _ => cases isDue
  | answer isBetween isFirst ended =>
    refine Queues.isQueued ?_ (isQueued.popHook isFirst)
    unfold answered
    dsimp only
    split
    · exact .trans (.of_eq rfl rfl) (post_queues _ _ _)
    · exact .of_eq rfl rfl
  | hook isBetween isFirst isPlain does =>
    refine Queues.isQueued ?_ (isQueued.popHook isFirst)
    rcases does with grains | ⟨waiter, outcome, -, same⟩
    · exact Grains.queues grains
    · rw [same]
      exact wake_queues _ _ _

end Turn

/-! ## Runs -/

section Runs

variable {allowed : Outside S} {service : S.State} {last : Loop S}

theorem Reaches.turnRuns (run : Reaches allowed (fresh service) last) : last.TurnRuns :=
  run.keeps (turnRuns_of_between rfl) fun _ _ happens => happens.passes.turnRuns

/-- **Who is to have a turn is in the list once, and nobody else is.** -/
theorem Reaches.isQueued (run : Reaches allowed (fresh service) last) : last.IsQueued := by
  induction run with
  | refl => exact ⟨fun _ => rfl, fun _ _ => by simp [fresh]⟩
  | tail earlier happens isQueued =>
    exact happens.passes.isQueued (Reaches.turnRuns earlier) isQueued

/-- Errands do nothing but make calls, whatever happens. -/
theorem Happens.errandsCall {before after : Loop S} (happens : Happens allowed before after)
    (errandsCall : before.ErrandsCall) : after.ErrandsCall := by
  intro task known found isErrand frame member
  cases happens.inherits found with
  | new unknown frames enters isNew =>
    rw [frames, List.mem_singleton] at member
    rw [isErrand] at enters
    subst member
    cases enters with
    | errand point => trivial
    | opening isOwn isOpening => rcases isOwn with same | ⟨_, same⟩ <;> cases same
  | doomed earlier role was frames =>
    rw [frames] at member
    cases member
  | @kept old earlier role frames steady =>
    exact errandsCall task old earlier (role ▸ isErrand) frame (frames ▸ member)
  | @turn old wake first rest earlier role isAt same frames =>
    have areCalls := errandsCall task old earlier (role ▸ isErrand)
    have stack := isAt.frames
    rw [earlier] at stack
    have stack : old.frames = first :: rest := Option.some.inj stack
    have isCall := areCalls first (by rw [stack]; exact List.mem_cons_self)
    have below : ∀ frame ∈ rest, frame.isService := fun frame isBelow =>
      areCalls frame (by rw [stack]; exact List.mem_cons_of_mem _ isBelow)
    cases first with
    | service point =>
      rw [frames] at member
      rcases serviceTurn_next task point wake before.inTurn with ⟨outcome, -, finishes⟩
        | ⟨next, -, goesOn⟩
      · rw [show (before.inTurn.frameTurn task (.service point) wake).2 = .finish outcome from
          finishes] at member
        exact below frame member
      · rw [show (before.inTurn.frameTurn task (.service point) wake).2.frames rest =
          .service next :: rest from
          goesOn rest] at member
        rcases List.mem_cons.mp member with here | isBelow
        · exact here ▸ trivial
        · exact below frame isBelow
    | _ => exact isCall.elim

theorem Reaches.errandsCall (run : Reaches allowed (fresh service) last) : last.ErrandsCall :=
  run.keeps (fun _ _ found => by simp [fresh] at found) fun _ _ happens => happens.errandsCall

end Runs

end Loop

end WatchedNode
