/-
**What a turn amounts to for tasks.**

Most of what happens in a turn lets tasks alone. The rest is little: a task comes in, is woken, has
one less to wait for, or gets a hook (`Nudge`); a service can also answer a held request, and send
out or cancel an errand. Whatever a frame does in its turn is a number of these
(`frameTurn_nudges`).

All of them spare the frames of tasks (`Spares`), and those that come in have one frame, with which
a task of that role begins (`Enters`).
-/
import WatchedNode.Proofs.Loop.Pulse

namespace WatchedNode

open Relation

variable {S : Service}

/-- The frame stands where a task begins. -/
def Frame.isFirst {Point : Type} : Frame Point → Prop
  | .service _ | .worker _ .taking => True
  | frame => frame.isOpening

theorem Frame.isFirst_of_isOpening {Point : Type} {frame : Frame Point}
    (isOpening : frame.isOpening) : frame.isFirst := by
  cases frame with
  | service point => trivial
  | worker cache stage => exact isOpening.elim
  | _ => exact isOpening

/-- Where a task is, as far as only its own turns change that. -/
inductive Stage
  /-- It has had no turn. -/
  | new
  | between
  | running
  | ended (outcome : Outcome Answer)

/-- Where a task is with that status. -/
def Status.stage {Reply : Type} : Status Reply → Stage
  | .fresh | .doomed => .new
  | .waiting _ | .woken .. => .between
  | .running => .running
  | .ended outcome => .ended outcome

namespace Loop

/-! ## Tasks that come in -/

/-- A task of that role begins with that frame; a request is one of a cache that is there. -/
inductive Enters (caches : List Cache) : Role → Frame S.Point → Prop
  | opening {role : Role} {frame : Frame S.Point}
      (isOwn : role = .caller ∨ ∃ cache, role = .deed cache) (isOpening : frame.isOpening) :
      Enters caches role frame
  | outside (point : S.Point) : Enters caches .caller (.service point)
  | errand (point : S.Point) : Enters caches .errand (.service point)
  | worker (cache : CacheId) : Enters caches (.worker cache) (.worker cache .taking)
  | request {cache : CacheId} {known : Cache} (query : Query)
      (found : caches[cache]? = some known) :
      Enters caches (.request cache query) (requestFrame known (queryRequest cache known query))

theorem Enters.isFirst {caches : List Cache} {role : Role} {frame : Frame S.Point}
    (enters : Enters caches role frame) : frame.isFirst := by
  cases enters with
  | opening isOwn isOpening => exact Frame.isFirst_of_isOpening isOpening
  | _ => trivial

/-- A cache asks the same as long as it is there. -/
theorem requestFrame_ages {before after : Cache} (ages : before.Ages after) (cache : CacheId)
    (query : Query) :
    requestFrame (S := S) after (queryRequest cache after query) =
      requestFrame before (queryRequest cache before query) := by
  cases query <;> simp [requestFrame, queryRequest, ages.path, ages.handle, ages.compressed]

theorem Enters.grows {before after : Loop S} {role : Role} {frame : Frame S.Point}
    (enters : Enters before.caches role frame) (grows : Grows before after) :
    Enters after.caches role frame := by
  cases enters with
  | opening isOwn isOpening => exact .opening isOwn isOpening
  | outside point => exact .outside point
  | errand point => exact .errand point
  | worker cache => exact .worker cache
  | @request cache known query found =>
    obtain ⟨known', found', ages⟩ := grows cache known found
    rw [← requestFrame_ages ages cache query]
    exact .request query found'

/-! ## Nudges -/

/-- One thing, as far as it matters to tasks and to what is ready. -/
inductive Nudge (isServed : Prop) (loop : Loop S) : Loop S → Prop
  | still {after : Loop S} (grows : Grows loop after) (tasks : after.tasks = loop.tasks)
      (ready : after.ready = loop.ready) : Nudge isServed loop after
  | spawn (role : Role) (frame : Frame S.Point)
      (isOwn : role = .caller ∨ ∃ cache, role = .deed cache) (isOpening : frame.isOpening) :
      Nudge isServed loop (loop.spawn role frame)
  | begin (cache : CacheId) :
      Nudge isServed loop (loop.spawn (.worker cache) (.worker cache .taking))
  | ask (cache : CacheId) (query : Query) : Nudge isServed loop (loop.ask cache query)
  | wake (task : TaskId) (why : Wake S.Reply)
      (isPlain : why = .goOn ∨ ∃ outcome, why = .ended outcome) :
      Nudge isServed loop (loop.wake task why)
  | count (task : TaskId) : Nudge isServed loop (loop.countDown task)
  | hook (task : TaskId) (hook : Hook) (isPlain : ∀ cache query, hook ≠ .answered cache query) :
      Nudge isServed loop (loop.addHook task hook)
  /-- The service answers a held request. -/
  | reply (served : isServed) (task : TaskId) (reply : S.Reply) :
      Nudge isServed loop (loop.wake task (.reply reply))
  | cancel (served : isServed) (task : TaskId) : Nudge isServed loop (loop.cancelErrand task)
  | errand (served : isServed) (point : S.Point) :
      Nudge isServed loop (loop.spawn .errand (.service point))

/-- Several of them. -/
abbrev Nudges (isServed : Prop) : Loop S → Loop S → Prop := ReflTransGen (Nudge isServed)

variable {isServed : Prop}

theorem post_nudges (cache : CacheId) (item : Item) (loop : Loop S) :
    Nudges isServed loop (loop.post cache item) := by
  unfold post
  split
  · exact .refl
  · next backlog _ =>
    have put : Nudges isServed loop (loop.modifyCache cache fun cache =>
        { cache with backlog := some (backlog.put item) }) := by
      refine .single (.still (Calm.modify_of_eq loop cache _ fun _ => ?_).grows rfl rfl)
      exact ⟨rfl, rfl, rfl, rfl, rfl, rfl, rfl⟩
    dsimp only
    split
    · exact put.tail (.wake _ _ (.inl rfl))
    · exact put

theorem refresh_nudges (cache : CacheId) (loop : Loop S) :
    Nudges isServed loop (loop.refresh cache) := by
  unfold refresh
  split
  · exact post_nudges cache .check loop
  · exact .refl

theorem linkChanged_nudges (cache : CacheId) (link : Link) (loop : Loop S) :
    Nudges isServed loop (loop.linkChanged cache link) := by
  unfold linkChanged
  split
  · exact .refl
  · have told : Nudges isServed loop ((loop.note (.told cache link)).modifyCache cache fun cache =>
        { cache with connected := link.isUp }) := by
      refine .single (.still ?_ rfl rfl)
      have noted : Grows loop (loop.note (.told cache link)) := .of_eq rfl
      refine noted.trans (Calm.modify_of_eq _ cache _ fun _ => ?_).grows
      exact ⟨rfl, rfl, rfl, rfl, rfl, rfl, rfl⟩
    dsimp only
    split
    · exact told.trans (post_nudges cache .resync _)
    · exact told

theorem Ripple.nudges {before after : Loop S} (ripple : Ripple before after) :
    Nudges True before after := by
  cases ripple with
  | note entry isShown => exact .single (.still (.of_eq rfl) rfl rfl)
  | told cache link => exact linkChanged_nudges cache link _
  | fired cache =>
    have noted : Nudge True before (before.note (.fired cache)) := .still (.of_eq rfl) rfl rfl
    exact .head noted (refresh_nudges cache _)
  | listeners handle habit => exact .single (.still (.of_eq rfl) rfl rfl)
  | reply task reply => exact .single (.reply trivial task reply)
  | cancel task => exact .single (.cancel trivial task)
  | errand point => exact .single (.errand trivial point)

theorem perform_nudges (effects : List (Effect S.Call S.Point S.Reply)) (loop : Loop S) :
    Nudges True loop (loop.perform effects) := by
  have ripples := perform_ripples effects loop
  generalize loop.perform effects = after at ripples
  induction ripples with
  | refl => exact .refl
  | tail _ ripple step => exact step.trans ripple.nudges

theorem setService_nudge (service : S.State) (loop : Loop S) :
    Nudge isServed loop (loop.setService service) := .still (.of_eq rfl) rfl rfl

theorem happen_nudges (event : S.Event) (loop : Loop S) :
    Nudges True loop (loop.happen event).1 := by
  unfold happen
  split
  · exact .refl
  · exact .head (setService_nudge _ loop) (perform_nudges _ _)

theorem connect_nudges (settings : Value) (loop : Loop S) :
    Nudges True loop (loop.connect settings).1 := by
  unfold connect
  split
  · exact .refl
  · split
    · exact .refl
    · exact .head (setService_nudge _ loop) (perform_nudges _ _)

theorem stopCache_nudges (cache : CacheId) (loop : Loop S) :
    Nudges isServed loop (loop.stopCache cache) := by
  unfold stopCache
  split
  · have calm : Calm loop (loop.modifyCache cache fun cache =>
        { cache with phase := .closed, registrations := [] }) :=
      .modify loop cache _ fun known _ => ⟨.close known, rfl⟩
    exact .head (.still calm.grows rfl rfl) (post_nudges cache .stop _)
  · exact .refl

/-- Where a stir is nothing that happens at the service, the service does nothing to tasks. -/
theorem Stir.nudges {before after : Loop S} (stir : Stir before after) :
    (∃ event, after = (before.happen event).1) ∨ (∃ settings, after = (before.connect settings).1) ∨
      Nudges isServed before after := by
  have grows := stir.calm.grows
  cases stir with
  | happen event => exact .inl ⟨event, rfl⟩
  | connect settings => exact .inr (.inl ⟨settings, rfl⟩)
  | reset cache =>
    have noted : Nudge isServed before (before.note (.reset cache)) := .still (.of_eq rfl) rfl rfl
    exact .inr (.inr (.head noted (refresh_nudges cache _)))
  | shut cache known found =>
    exact .inr (.inr ((stopCache_nudges cache before).tail (setService_nudge _ _)))
  | spawn role frame isOwn isOpening =>
    exact .inr (.inr (.single (.spawn role frame isOwn isOpening)))
  | wake task why isPlain => exact .inr (.inr (.single (.wake task why isPlain)))
  | count task => exact .inr (.inr (.single (.count task)))
  | hook task hook isPlain => exact .inr (.inr (.single (.hook task hook isPlain)))
  | _ => exact .inr (.inr (.single (.still grows rfl rfl)))

/-- The same for all that is part of a cache's own work. -/
theorem Toil.nudges {before after : Loop S} (toil : Toil before after) :
    (∃ event, after = (before.happen event).1) ∨ (∃ settings, after = (before.connect settings).1) ∨
      Nudges isServed before after := by
  cases toil with
  | stir stir => exact stir.nudges
  | call cache monitor => exact .inr (.inr (.single (.still (.of_eq rfl) rfl rfl)))
  | asked cache task request => exact .inr (.inr (.single (.still (.of_eq rfl) rfl rfl)))
  | setData cache data isSilent =>
    exact .inr (.inr (.single (.still (setData_pulses cache data isSilent before).grows rfl rfl)))
  | ask cache query => exact .inr (.inr (.single (.ask cache query)))
  | post cache item => exact .inr (.inr (post_nudges cache item _))
  | refresh cache => exact .inr (.inr (refresh_nudges cache _))
  | begin cache known found isLatent =>
    have begun : Nudge isServed before (before.modifyCache cache fun known =>
        { known with phase := .started, backlog := some {}, worker := some before.tasks.length }) :=
      .still (begin_pulses found isLatent).grows rfl rfl
    exact .inr (.inr (.head begun (.single (.begin cache))))

theorem Toils.nudges {before after : Loop S} (toils : Toils before after) :
    Nudges True before after := by
  induction toils with
  | refl => exact .refl
  | tail _ toil step =>
    rcases toil.nudges with ⟨event, rfl⟩ | ⟨settings, rfl⟩ | nudges
    · exact step.trans (happen_nudges event _)
    · exact step.trans (connect_nudges settings _)
    · exact step.trans nudges

theorem Prepares.nudge {frame : Frame S.Point} {wake : Wake S.Reply} {before after : Loop S}
    (prepares : Prepares frame wake before after) : Nudge isServed before after := by
  cases prepares with
  | nothing => exact .still (.of_eq rfl) rfl rfl
  | listen isStart isReady found => exact setService_nudge _ before
  | @take cache known item rest isWorker found isFirst =>
    have taken : Calm before (before.modifyCache cache fun cache =>
        { cache with backlog := some rest }) :=
      .modify_of_eq before cache _ fun _ => ⟨rfl, rfl, rfl, rfl, rfl, rfl, rfl⟩
    exact .still taken.grows rfl rfl

/-- **Whatever a frame does in its turn is a number of nudges.** -/
theorem frameTurn_nudges (self : TaskId) (frame : Frame S.Point) (wake : Wake S.Reply)
    (loop : Loop S) : Nudges True loop (loop.frameTurn self frame wake).1 := by
  rcases frameTurn_kinds self frame wake loop with
    ⟨point, tickets, alarms, rfl, same⟩ | ⟨owner, middle, -, prepares, labours⟩
  · have reacted : Nudges True loop (loop.react self point wake) :=
      .head (setService_nudge _ loop) (perform_nudges _ _)
    rw [same]
    exact reacted.tail (.still (.of_eq rfl) rfl rfl)
  · exact .head prepares.nudge labours.toils.nudges

/-! ## What is spared -/

/-- The frames of tasks are spared, and where tasks are; those that come in stand at a beginning. -/
structure Spares (before after : Loop S) : Prop where
  grows : Grows before after
  old (task : TaskId) (known : Task S) : before.tasks[task]? = some known →
    ∃ known', after.tasks[task]? = some known' ∧ known'.role = known.role ∧
      known'.frames = known.frames ∧ known'.status.stage = known.status.stage
  new (task : TaskId) (known : Task S) : before.tasks[task]? = none →
    after.tasks[task]? = some known →
      ∃ frame, known.frames = [frame] ∧ Enters after.caches known.role frame ∧
        known.status.stage = .new

namespace Spares

variable {first second third : Loop S}

theorem of_eq (grows : Grows first second) (tasks : second.tasks = first.tasks) :
    Spares first second := by
  refine ⟨grows, fun task known found => ?_, fun task known unknown found => ?_⟩
  · exact ⟨known, tasks ▸ found, rfl, rfl, rfl⟩
  · rw [tasks, unknown] at found
    cases found

theorem refl (loop : Loop S) : Spares loop loop := of_eq (.of_eq rfl) rfl

theorem trans (left : Spares first second) (right : Spares second third) : Spares first third := by
  refine ⟨left.grows.trans right.grows, fun task known found => ?_,
    fun task known unknown found => ?_⟩
  · obtain ⟨known', found', role, frames, stage⟩ := left.old task known found
    obtain ⟨known'', found'', role', frames', stage'⟩ := right.old task known' found'
    exact ⟨known'', found'', role'.trans role, frames'.trans frames, stage'.trans stage⟩
  · cases between : second.tasks[task]? with
    | none => exact right.new task known between found
    | some known' =>
      obtain ⟨known'', found'', role, frames, stage⟩ := right.old task known' between
      cases found.symm.trans found''
      obtain ⟨frame, same, enters, isNew⟩ := left.new task known' unknown between
      rw [role, frames, stage]
      exact ⟨frame, same, enters.grows right.grows, isNew⟩

/-- A change of a task that spares it. -/
theorem modifyTask (loop : Loop S) (task : TaskId) (change : Task S → Task S)
    (same : ∀ known, loop.tasks[task]? = some known → (change known).role = known.role ∧
      (change known).frames = known.frames ∧ (change known).status.stage = known.status.stage) :
    Spares loop (loop.modifyTask task change) := by
  have changed : (loop.modifyTask task change).tasks = loop.tasks.modify task change := rfl
  refine ⟨.of_eq rfl, fun other known found => ?_, fun other known unknown found => ?_⟩
  · rw [changed, List.getElem?_modify, found]
    by_cases here : task = other
    · subst here
      exact ⟨change known, by simp, same known found⟩
    · exact ⟨known, by simp [here], rfl, rfl, rfl⟩
  · rw [changed, List.getElem?_modify, unknown] at found
    cases found

/-- A new status of the same kind. -/
theorem setStatus (loop : Loop S) (task : TaskId) (status : Status S.Reply) {old : Status S.Reply}
    (was : loop.status? task = some old) (stage : status.stage = old.stage) :
    Spares loop (loop.setStatus task status) := by
  refine modifyTask loop task _ fun known found => ⟨rfl, rfl, ?_⟩
  rw [status?, found, Option.map_some, Option.some.injEq] at was
  rw [was]
  exact stage

end Spares

theorem push_spares (job : Job) (loop : Loop S) : Spares loop (loop.push job) :=
  .of_eq (.of_eq rfl) rfl

theorem wake_spares (task : TaskId) (why : Wake S.Reply) (loop : Loop S) :
    Spares loop (loop.wake task why) := by
  unfold wake
  split
  · next on was =>
    exact (Spares.setStatus loop task (.woken on why) was rfl).trans (push_spares _ _)
  · exact .refl loop

theorem cancel_spares (task : TaskId) (loop : Loop S) : Spares loop (loop.cancel task) := by
  unfold cancel
  split
  · next was => exact .setStatus loop task _ was rfl
  · exact wake_spares task _ loop
  · next was => exact .setStatus loop task _ was rfl
  · exact .refl loop

theorem spawn_spares {role : Role} {frame : Frame S.Point} {loop : Loop S}
    (enters : Enters loop.caches role frame) : Spares loop (loop.spawn role frame) := by
  have tasks : (loop.spawn role frame).tasks = loop.tasks ++ [{ role, frames := [frame] }] := rfl
  refine ⟨.of_eq rfl, fun task known found => ⟨known, ?_, rfl, rfl, rfl⟩,
    fun task known unknown found => ?_⟩
  · have isOld : task < loop.tasks.length := (List.getElem?_eq_some_iff.mp found).1
    rw [tasks, List.getElem?_append_left isOld, found]
  · have isLate : loop.tasks.length ≤ task := List.getElem?_eq_none_iff.mp unknown
    rw [tasks, List.getElem?_append_right isLate] at found
    rw [List.mem_singleton.mp (List.mem_of_getElem? found)]
    exact ⟨frame, rfl, enters, rfl⟩

theorem trigger_spares (task : TaskId) (outcome : Outcome Answer) (hook : Hook) (loop : Loop S) :
    Spares loop (loop.trigger task outcome hook) := by
  unfold trigger
  split
  · exact wake_spares _ _ loop
  · exact push_spares _ loop

theorem addHook_spares (task : TaskId) (hook : Hook) (loop : Loop S) :
    Spares loop (loop.addHook task hook) := by
  unfold addHook
  split
  · exact trigger_spares task _ hook loop
  · exact .modifyTask loop task _ fun _ _ => ⟨rfl, rfl, rfl⟩

theorem countDown_spares (task : TaskId) (loop : Loop S) : Spares loop (loop.countDown task) := by
  unfold countDown
  split
  · next was =>
    split
    · exact wake_spares task _ loop
    · exact .setStatus loop task _ was rfl
  · exact .refl loop

theorem ask_spares (cache : CacheId) (query : Query) (loop : Loop S) :
    Spares loop (loop.ask cache query) := by
  cases found : loop.caches[cache]? with
  | none =>
    rw [ask_none query found]
    exact .refl loop
  | some known =>
    have posed : Spares loop (loop.posed cache query known) := by
      have enters : Enters loop.caches (.request cache query)
          (requestFrame (S := S) known (queryRequest cache known query)) := .request query found
      have noted : Spares loop
          (loop.note (.asked cache loop.tasks.length (queryRequest cache known query))) :=
        .of_eq (.of_eq rfl) rfl
      have pending : ∀ before : Loop S, Calm before (before.modifyCache cache fun cache =>
          { cache with pending := cache.pending ++ [loop.tasks.length] }) := fun before =>
        .modify_of_eq before cache _ fun _ => ⟨rfl, rfl, rfl, rfl, rfl, rfl, rfl⟩
      exact (noted.trans (spawn_spares enters)).trans (.of_eq (pending _).grows rfl)
    rw [ask_eq query found]
    exact posed.trans (addHook_spares _ _ _)

theorem Nudge.spares {before after : Loop S} (nudge : Nudge isServed before after) :
    Spares before after := by
  cases nudge with
  | still grows tasks ready => exact .of_eq grows tasks
  | spawn role frame isOwn isOpening => exact spawn_spares (.opening isOwn isOpening)
  | begin cache => exact spawn_spares (.worker cache)
  | ask cache query => exact ask_spares cache query before
  | wake task why isPlain => exact wake_spares task why before
  | count task => exact countDown_spares task before
  | hook task hook isPlain => exact addHook_spares task hook before
  | reply served task reply => exact wake_spares task _ before
  | cancel served task =>
    unfold cancelErrand
    split
    · exact cancel_spares task before
    · exact .refl before
  | errand served point => exact spawn_spares (.errand point)

theorem Nudges.spares {before after : Loop S} (nudges : Nudges isServed before after) :
    Spares before after := by
  induction nudges with
  | refl => exact .refl _
  | tail _ nudge step => exact step.trans nudge.spares

end Loop

end WatchedNode
