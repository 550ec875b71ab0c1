/-
**What is cancelled stays so.**

A task that is to go on cancelled does so whatever others do (`StaysCancelled`), until it has its
turn or, if it had not begun, ends without one (`Happens.keeps_cancelled`). Effects that cancel a
task which waits, or is to have its turn, leave it cancelled (`perform_cancels`).
-/
import WatchedNode.Proofs.Loop.Ready
import WatchedNode.Proofs.Loop.Standing

namespace WatchedNode

open Relation

variable {S : Service}

/-- A task with that status goes on cancelled, if it goes on. -/
def Status.isCancelled {Reply : Type} : Status Reply → Prop
  | .doomed | .woken _ .cancelled => True
  | _ => False

/-- What a task gets without the service is no cancellation. -/
theorem Status.isPlain.not_cancelled {Reply : Type} {status : Status Reply}
    (isPlain : status.isPlain) :
    ¬ status.isCancelled := by
  unfold Status.isPlain at isPlain
  unfold isCancelled
  split at isPlain
  · exact isPlain.elim
  · next why =>
    rcases isPlain with rfl | ⟨outcome, rfl⟩ <;> exact id
  · next isUp isDone =>
    split
    · exact absurd rfl isUp
    · exact absurd rfl (isDone _ _)
    · exact id

/-- A task with that status waits, or is to have its turn. -/
def Status.isOff {Reply : Type} (status : Status Reply) : Prop :=
  status.stage = .new ∨ status.stage = .between

theorem Status.isOff_of_stage {Reply : Type} {status other : Status Reply}
    (stage : other.stage = status.stage) (isOff : status.isOff) : other.isOff := by
  unfold Status.isOff
  rw [stage]
  exact isOff

theorem Status.isOff_or {Reply : Type} (status : Status Reply) :
    status.isOff ∨ status = .running ∨ ∃ outcome, status = .ended outcome := by
  cases status with
  | running => exact .inr (.inl rfl)
  | ended outcome => exact .inr (.inr ⟨outcome, rfl⟩)
  | fresh | doomed => exact .inl (.inl rfl)
  | waiting | woken => exact .inl (.inr rfl)

namespace Loop

/-- The task goes on cancelled, if it goes on. -/
def IsCancelled (task : TaskId) (loop : Loop S) : Prop :=
  loop.turn = some (task, .cancelled) ∨ ∃ known, loop.tasks[task]? = some known ∧
    known.status.isCancelled

/-! ## What others do -/

/-- If the task is to go on cancelled, it still is. -/
def StaysCancelled (task : TaskId) (before after : Loop S) : Prop :=
  ∀ known : Task S, before.tasks[task]? = some known → known.status.isCancelled →
    ∃ known', after.tasks[task]? = some known' ∧ known'.status.isCancelled

section Others

variable {task : TaskId} {first second third before after loop : Loop S}

namespace StaysCancelled

theorem of_eq (tasks : second.tasks = first.tasks) : StaysCancelled task first second :=
  fun known found isCancelled => ⟨known, tasks ▸ found, isCancelled⟩

theorem trans (left : StaysCancelled task first second) (right : StaysCancelled task second third) :
    StaysCancelled task first third := by
  intro known found isCancelled
  obtain ⟨known', found', isCancelled'⟩ := left known found isCancelled
  exact right known' found' isCancelled'

/-- A change of a task that was not cancelled, or still is. -/
theorem modifyTask (other : TaskId) {change : Task S → Task S}
    (keeps : other = task → ∀ known, loop.tasks[other]? = some known → known.status.isCancelled →
      (change known).status.isCancelled) :
      StaysCancelled task loop (loop.modifyTask other change) := by
  intro known found isCancelled
  have changed : (loop.modifyTask other change).tasks = loop.tasks.modify other change := rfl
  by_cases here : other = task
  · subst here
    exact ⟨change known, by rw [changed, List.getElem?_modify_eq, found]; rfl,
      keeps rfl known found isCancelled⟩
  · exact ⟨known, by rw [changed, List.getElem?_modify_ne _ _ here, found], isCancelled⟩

/-- A new status for a task that was not cancelled, or still is. -/
theorem setStatus {other : TaskId} {old status : Status S.Reply}
    (was : loop.status? other = some old)
    (keeps : other = task → old.isCancelled → status.isCancelled) :
    StaysCancelled task loop (loop.setStatus other status) := by
  refine modifyTask other fun here known found isCancelled => keeps here ?_
  rw [status?, found] at was
  cases was
  exact isCancelled

theorem changes {kind : Type} (change : Loop S → kind → Loop S)
    (each : ∀ loop item, StaysCancelled task loop (change loop item)) (items : List kind)
    (loop : Loop S) :
    StaysCancelled task loop (items.foldl change loop) :=
  foldl_relates (fun _ => of_eq rfl) trans each items loop

/-- What is so of one status is so of the task. -/
theorem isCancelled (stays : StaysCancelled task before after)
    (was : ∃ known, before.tasks[task]? = some known ∧ known.status.isCancelled) :
    ∃ known, after.tasks[task]? = some known ∧ known.status.isCancelled := by
  obtain ⟨known, found, isCancelled⟩ := was
  exact stays known found isCancelled

end StaysCancelled

theorem wake_staysCancelled (other : TaskId) (why : Wake S.Reply) (loop : Loop S) :
    StaysCancelled task loop (loop.wake other why) := by
  unfold wake
  split
  · next on was =>
    have woken : StaysCancelled task loop (loop.setStatus other (.woken on why)) :=
      .setStatus was fun _ => False.elim
    exact woken.trans (.of_eq rfl)
  · exact .of_eq rfl

theorem trigger_staysCancelled (other : TaskId) (outcome : Outcome Answer) (hook : Hook)
    (loop : Loop S) :
    StaysCancelled task loop (loop.trigger other outcome hook) := by
  unfold trigger
  split
  · exact wake_staysCancelled _ _ loop
  · exact .of_eq rfl

theorem addHook_staysCancelled (other : TaskId) (hook : Hook) (loop : Loop S) :
    StaysCancelled task loop (loop.addHook other hook) := by
  unfold addHook
  split
  · exact trigger_staysCancelled other _ hook loop
  · exact .modifyTask other fun _ _ _ => id

theorem countDown_staysCancelled (other : TaskId) (loop : Loop S) :
    StaysCancelled task loop (loop.countDown other) := by
  unfold countDown
  split
  · next was =>
    split
    · exact wake_staysCancelled other .goOn loop
    · exact .setStatus was fun _ => False.elim
  · exact .of_eq rfl

theorem cancelErrand_staysCancelled (other : TaskId) (loop : Loop S) :
    StaysCancelled task loop (loop.cancelErrand other) := by
  unfold cancelErrand cancel
  split
  · split
    · next was => exact .setStatus was fun _ => False.elim
    · exact wake_staysCancelled other .cancelled loop
    · next was => exact .setStatus was fun _ _ => trivial
    · exact .of_eq rfl
  · exact .of_eq rfl

theorem spawn_staysCancelled (role : Role) (frame : Frame S.Point) (loop : Loop S) :
    StaysCancelled task loop (loop.spawn role frame) := by
  intro known found isCancelled
  refine ⟨known, ?_, isCancelled⟩
  rw [spawn_tasks, if_neg, found]
  intro here
  rw [here, List.getElem?_eq_none (Nat.le_refl _)] at found
  cases found

theorem ask_staysCancelled (cache : CacheId) (query : Query) (loop : Loop S) :
    StaysCancelled task loop (loop.ask cache query) := by
  cases found : loop.caches[cache]? with
  | none =>
    rw [ask_none query found]
    exact .of_eq rfl
  | some known =>
    rw [ask_eq query found]
    have posed : StaysCancelled task loop (loop.posed cache query known) :=
      .trans (.of_eq rfl) ((spawn_staysCancelled _ _ _).trans (.of_eq rfl))
    exact posed.trans (addHook_staysCancelled _ _ _)

theorem Nudge.staysCancelled {isServed : Prop} (nudge : Nudge isServed before after) :
    StaysCancelled task before after := by
  cases nudge with
  | still grows tasks ready => exact .of_eq tasks
  | spawn role frame => exact spawn_staysCancelled role frame before
  | begin cache => exact spawn_staysCancelled _ _ before
  | ask cache query => exact ask_staysCancelled cache query before
  | wake other why => exact wake_staysCancelled other why before
  | count other => exact countDown_staysCancelled other before
  | hook other hook => exact addHook_staysCancelled other hook before
  | reply served other reply => exact wake_staysCancelled other _ before
  | cancel served other => exact cancelErrand_staysCancelled other before
  | errand served point => exact spawn_staysCancelled _ _ before

/-- **Nobody goes on otherwise who was cancelled.** -/
theorem Nudges.staysCancelled {isServed : Prop} (nudges : Nudges isServed before after) :
    StaysCancelled task before after := by
  induction nudges with
  | refl => exact .of_eq rfl
  | tail _ nudge step => exact step.trans nudge.staysCancelled

theorem finish_staysCancelled {self : TaskId} (isOther : self ≠ task) (outcome : Outcome Answer)
    (loop : Loop S) :
    StaysCancelled task loop (loop.finish self outcome) :=
  .trans (.modifyTask self fun here => absurd here isOther)
    (.changes _ (fun loop hook => trigger_staysCancelled self outcome hook loop) _ _)

/-- The end of another task's turn. -/
theorem afterTurn_staysCancelled {self : TaskId} (isOther : self ≠ task) (frame : Frame S.Point)
    (rest : List (Frame S.Point)) (turn : Turn S) :
    StaysCancelled task turn.1 (afterTurn self frame rest turn) := by
  obtain ⟨loop, way⟩ := turn
  have noted : StaysCancelled task loop (loop.noteEnd self frame way) :=
    .of_eq (noteEnd_tasks self frame way loop).1
  have set : ∀ frames (loop : Loop S), StaysCancelled task loop (loop.setFrames self frames) :=
    fun frames loop => .modifyTask self fun here => absurd here isOther
  have state : ∀ status (loop : Loop S), StaysCancelled task loop (loop.setStatus self status) :=
    fun status loop => .modifyTask self fun here => absurd here isOther
  refine noted.trans ?_
  cases way with
  | goOn next => exact (set (next :: rest) _).trans (.of_eq rfl)
  | call caller callee => exact (set (callee :: caller :: rest) _).trans (.of_eq rfl)
  | await next on =>
    refine (set (next :: rest) _).trans ?_
    show StaysCancelled task _ (Loop.suspend self on _)
    unfold suspend
    split
    · split
      · exact (state _ _).trans (.of_eq rfl)
      · exact state _ _
    · exact state _ _
  | finish outcome =>
    cases rest with
    | nil => exact finish_staysCancelled isOther outcome _
    | cons caller rest => exact (set (caller :: rest) _).trans (.of_eq rfl)

/-- The turn of another task. -/
theorem turn_staysCancelled {self : TaskId} (isOther : self ≠ task) (wake : Wake S.Reply)
    (frame : Frame S.Point) (rest : List (Frame S.Point)) :
    StaysCancelled task before
      (afterTurn self frame rest (before.inTurn.frameTurn self frame wake)) :=
  .trans (.of_eq rfl)
    ((frameTurn_nudges self frame wake before.inTurn).staysCancelled.trans
      (afterTurn_staysCancelled isOther frame rest _))

end Others

/-! ## Who is cancelled -/

section Cancelling

variable {task : TaskId} {known : Task S} {before after loop : Loop S}

theorem cancelErrand_cancels (found : loop.tasks[task]? = some known)
    (isErrand : known.role = .errand) (isOff : known.status.isOff) :
    ∃ known', (loop.cancelErrand task).tasks[task]? = some known' ∧ known'.status.isCancelled := by
  have isNamed : (loop.tasks[task]?).any (fun known => known.role = .errand) = true := by
    rw [found, Option.any_some]
    exact decide_eq_true isErrand
  have status : loop.status? task = some known.status := by rw [status?, found, Option.map_some]
  have set : ∀ status, (loop.setStatus task status).tasks[task]? = some { known with status } :=
    fun status => by
    show (loop.tasks.modify task _)[task]? = _
    rw [List.getElem?_modify_eq, found]
    rfl
  rw [cancelErrand, if_pos isNamed, cancel, status]
  cases was : known.status with
  | fresh => exact ⟨_, set .doomed, trivial⟩
  | doomed => exact ⟨known, found, by rw [was]; trivial⟩
  | waiting on =>
    dsimp only
    rw [wake, status, was]
    exact ⟨_, set (.woken on .cancelled), trivial⟩
  | woken on why => exact ⟨_, set (.woken on .cancelled), trivial⟩
  | running => rw [was] at isOff; rcases isOff with isNew | isBetween <;> contradiction
  | ended outcome => rw [was] at isOff; rcases isOff with isNew | isBetween <;> contradiction

/-- **Whom effects cancel is cancelled**, if the service has sent it out, and it waits or is to have
its turn. -/
theorem perform_cancels {effects : List (Effect S.Call S.Point S.Reply)}
    (named : .cancel task ∈ effects) (found : loop.tasks[task]? = some known)
    (isErrand : known.role = .errand) (isOff : known.status.isOff) :
    ∃ known', (loop.perform effects).tasks[task]? = some known' ∧ known'.status.isCancelled := by
  induction effects generalizing loop known with
  | nil => cases named
  | cons effect rest step =>
    have same : loop.perform (effect :: rest) = (loop.effect effect).perform rest := rfl
    rw [same]
    rcases List.mem_cons.mp named with rfl | later
    · exact (perform_nudges rest _).staysCancelled.isCancelled
        (cancelErrand_cancels found isErrand isOff)
    · have spares : Spares loop (loop.effect effect) := (perform_nudges [effect] loop).spares
      obtain ⟨known', found', role, -, stage⟩ := spares.old task known found
      exact step later found' (role.trans isErrand) (Status.isOff_of_stage stage isOff)

end Cancelling

/-! ## Who is sent out -/

section Sending

variable {isServed : Prop} {task : TaskId} {known : Task S} {before after : Loop S}

theorem Nudge.sent (nudge : Nudge isServed before after) (unknown : before.tasks[task]? = none)
    (found : after.tasks[task]? = some known) : known.role = .errand ∨ known.IsOwn := by
  have own : Nudge False before after → known.IsOwn := fun nudge =>
      (nudge.rests.new task known unknown found).2
  have nobody : after.tasks.length ≠ before.tasks.length := fun same =>
    absurd (same ▸ (List.getElem?_eq_some_iff.mp found).1)
      (Nat.not_lt_of_le (List.getElem?_eq_none_iff.mp unknown))
  cases nudge with
  | still grows tasks ready => exact .inr (own (.still grows tasks ready))
  | spawn role frame isOwn isOpening => exact .inr (own (.spawn role frame isOwn isOpening))
  | begin cache => exact .inr (own (.begin cache))
  | ask cache query => exact .inr (own (.ask cache query))
  | wake other why isPlain => exact .inr (own (.wake other why isPlain))
  | count other => exact .inr (own (.count other))
  | hook other hook isPlain => exact .inr (own (.hook other hook isPlain))
  | reply served other reply => exact absurd (wake_taskCount _ _ _) nobody
  | cancel served other => exact absurd (cancelErrand_taskCount _ _) nobody
  | errand served point =>
    rw [spawn_tasks, unknown] at found
    split at found
    · cases found
      exact .inl rfl
    · cases found

/-- Who comes in is an errand of the service, or stands at a beginning of its own. -/
theorem Nudges.sent (nudges : Nudges isServed before after) (unknown : before.tasks[task]? = none)
    (found : after.tasks[task]? = some known) : known.role = .errand ∨ known.IsOwn := by
  induction nudges generalizing known with
  | refl => cases unknown.symm.trans found
  | @tail middle after _ nudge step =>
    cases between : middle.tasks[task]? with
    | none => exact nudge.sent between found
    | some old =>
      obtain ⟨known', found', role, frames, -⟩ := nudge.spares.old task old between
      cases found.symm.trans found'
      rw [role, Task.IsOwn, frames]
      exact step between

end Sending

/-! ## Whatever happens -/

section Runs

variable {allowed : Outside S} {task : TaskId} {before after : Loop S}

/-- A task whose status is cancelled is not the one that has its turn. -/
theorem TurnRuns.not_cancelled {self : TaskId} {wake : Wake S.Reply} (turnRuns : before.TurnRuns)
    (given : before.turn = some (self, wake)) {known : Task S}
    (found : before.tasks[self]? = some known) :
    ¬ known.status.isCancelled := by
  rw [status_of_running (turnRuns self wake given) found]
  exact id

theorem start_keeps_cancelled (job : Job) {loop : Loop S} {known : Task S}
    (found : loop.tasks[task]? = some known) (isCancelled : known.status.isCancelled) :
    (loop.start job).IsCancelled task ∨ (loop.start job).at? task = none := by
  have kept : ∀ {after : Loop S}, StaysCancelled task loop after → after.IsCancelled task :=
    fun stays => .inr (stays known found isCancelled)
  have status : loop.status? task = some known.status := by rw [status?, found, Option.map_some]
  cases job with
  | resume other =>
    unfold start
    dsimp only
    by_cases here : other = task
    · subst here
      rw [status]
      cases was : known.status with
      | woken on wake =>
        rw [was] at isCancelled
        cases wake with
        | cancelled => exact .inl (.inl rfl)
        | _ => exact isCancelled.elim
      | doomed =>
        obtain ⟨known', found', frames, -⟩ := (finish_moves other .cancelled loop).self known found
        refine .inr ?_
        show (loop.finish other .cancelled).at? other = none
        rw [at?_of_found found', Task.point?, frames]
      | _ =>
        rw [was] at isCancelled
        exact isCancelled.elim
    · split
      · exact .inl (kept (.trans (.modifyTask other fun same => absurd same here) (.of_eq rfl)))
      · exact .inl (kept (.trans (.modifyTask other fun same => absurd same here) (.of_eq rfl)))
      · exact .inl (kept (finish_staysCancelled here _ loop))
      · exact .inl (kept (.of_eq rfl))
  | hook hook other =>
    unfold start
    dsimp only
    split
    · next outcome _ =>
      obtain ⟨owner, labours⟩ := runHook_labours hook other outcome loop
      exact .inl (kept labours.toils.nudges.staysCancelled)
    · exact .inl (kept (.of_eq rfl))

theorem command_staysCancelled (loop : Loop S) (command : Command S)
    (isMomentary : command.isMomentary) :
    StaysCancelled task loop (loop.command command).1 := by
  have order := command_isOrder loop command isMomentary
  generalize (loop.command command).1 = after at order
  cases order with
  | stirs stirs => exact stirs.toils.nudges.staysCancelled
  | call stirs point => exact stirs.toils.nudges.staysCancelled.trans (spawn_staysCancelled _ _ _)
  | release tickets release same =>
    exact releaseAll_keeps loop release (fun _ _ stays => stays.trans (wake_staysCancelled _ _ _))
      tickets (.of_eq rfl)
  | install name cache path stat data same =>
    exact (installFrom_toils cache path stat data loop).nudges.staysCancelled

/-- **A task that is cancelled stays so** until it has its turn; if it had not begun, it ends. -/
theorem Happens.keeps_cancelled (happens : Happens allowed before after)
    (turnRuns : before.TurnRuns) (isCancelled : before.IsCancelled task)
    (isOther : ∀ frame rest, before.IsAt task .cancelled frame rest → after ≠ before.step) :
    after.IsCancelled task ∨ after.at? task = none := by
  have given : ∀ {after : Loop S}, after.turn = before.turn → StaysCancelled task before after →
      after.IsCancelled task ∨ after.at? task = none := by
    intro after turn stays
    rcases isCancelled with given | was
    · exact .inl (.inl (turn.trans given))
    · exact .inl (.inr (stays.isCancelled was))
  cases happens with
  | step =>
    have step := step_isStep before
    generalize same : before.step = after at step isOther
    cases step with
    | @turn self wake frame rest isAt =>
      have different : self ≠ task := by
        rintro rfl
        rcases isCancelled with given | ⟨known, found, isCancelled⟩
        · cases isAt.turn.symm.trans given
          exact isOther frame rest isAt rfl
        · exact turnRuns.not_cancelled isAt.turn found isCancelled
      rcases isCancelled with given | was
      · cases isAt.turn.symm.trans given
        exact absurd rfl different
      · exact .inl (.inr ((turn_staysCancelled different wake frame rest).isCancelled was))
    | @pause self wake turn isOver =>
      rcases isCancelled with given | ⟨known, found, isCancelled⟩
      · cases turn.symm.trans given
        refine .inr ?_
        cases found : before.tasks[task]? with
        | none => rw [Loop.at?, show before.inTurn.tasks[task]? = none from found, Option.bind_none]
        | some known =>
          rw [at?_of_found (show before.inTurn.tasks[task]? = some known from found), Task.point?]
          split
          · next frame rest frames =>
              exact absurd (by rw [found, Option.map_some, frames]) (isOver _ rest)
          · rfl
      · exact .inl (.inr ⟨known, found, isCancelled⟩)
    | @job job ready turn isFirst =>
      rcases isCancelled with given | ⟨known, found, isCancelled⟩
      · cases turn.symm.trans given
      · exact start_keeps_cancelled job (show ({ before with ready } : Loop S).tasks[task]? = _ from
          found) isCancelled
    | rest turn => exact .inl isCancelled
  | command command isBetween isMomentary _ =>
    rw [Loop.isBetween, Option.isNone_iff_eq_none] at isBetween
    rcases isCancelled with given | was
    · cases isBetween.symm.trans given
    · exact .inl (.inr ((command_staysCancelled before command isMomentary).isCancelled was))
  | elapse time => exact given rfl (.of_eq rfl)
  | ring =>
    have ringing : Nudges True before before.ring := ring_nudges before
    exact given (ring_keeps before).2.2.2 ringing.staysCancelled
  | decide scripts habits => exact given rfl (.of_eq rfl)

end Runs

end Loop

end WatchedNode
