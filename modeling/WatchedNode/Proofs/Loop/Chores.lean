/-
**What happens to tasks and to the service together.**

A service may keep account of the tasks that it has sent out, and then what is so of the one cannot
be said without the other. Whatever happens is the turn of a call, or a number of `Chore`s
(`Happens.chores`), and each of these says what becomes of both:

* mostly tasks are nudged, and the service at most minds who listens to it (`Heeds`); tasks stay
  where they stand, and none comes in that the service has sent out (`Nudges.rests`);
* a call of the service has its turn, or something happens there; the tasks that come in then are
  those that its effects name, in their order (`perform_performs`);
* a task gets its turn, or its turn ends, and it goes on from its new frames (`afterTurn_moves`).
-/
import WatchedNode.Proofs.Loop.Stack

namespace WatchedNode

open Relation

variable {S : Service}

/-- The task that an effect sends out. -/
def Effect.errand? {Call Point Reply : Type} : Effect Call Point Reply → Option Point
  | .spawn point => some point
  | _ => none

/-- The tasks that are sent out. -/
def errands {Call Point Reply : Type} (effects : List (Effect Call Point Reply)) : List Point :=
  effects.filterMap Effect.errand?

@[simp] theorem errands_append {Call Point Reply : Type}
    (first second : List (Effect Call Point Reply)) :
    errands (first ++ second) = errands first ++ errands second := List.filterMap_append ..

/-- A reason that is neither an answer of the service nor that the task was cancelled. -/
def Wake.isPlain {Reply : Type} (why : Wake Reply) : Prop :=
  why = .goOn ∨ ∃ outcome, why = .ended outcome

/-- A status that a task can get without the service. -/
def Status.isPlain {Reply : Type} : Status Reply → Prop
  | .doomed => False
  | .woken _ why => why.isPlain
  | _ => True

/-- The task stands where it begins with a frame of its own, or with a request of a cache. -/
def Task.IsOwn (task : Task S) : Prop := ∃ frame, task.frames = [frame] ∧ S.Begins frame

theorem Task.point?_of_frames {first second : Task S} (frames : first.frames = second.frames) :
    first.point? = second.point? := by
  unfold Task.point?
  rw [frames]

/-- The service minds who listens to it, or which session new caches use. -/
inductive Service.Heed (S : Service) (state : S.State) : S.State → Prop
  | adopt (handle : Handle) : Heed S state (S.adopt handle state)
  | listen (handle : Option Handle) (listener : Subscriber) :
      Heed S state (S.listen handle listener state)
  | unlisten (handle : Option Handle) (listener : Subscriber) :
      Heed S state (S.unlisten handle listener state)

/-- Any number of times. -/
abbrev Service.Heeds (S : Service) : S.State → S.State → Prop := ReflTransGen S.Heed

theorem Service.heeds_of_eq {before after : S.State} (same : after = before) :
    S.Heeds before after :=
  same ▸ .refl

namespace Loop

/-! ## Tasks that stay where they stand -/

/-- A status that a task can get, standing at that point. -/
abbrev Fates (S : Service) := TaskId → Option S.Point → Status S.Reply → Prop

/-- No status but what is plain. -/
def noFate : Fates S := fun _ _ _ => False

/-- Tasks that are there stand where they stood; if their status has changed, the new one is plain,
or one of those. -/
def Stand (fates : Fates S) (before after : Loop S) : Prop :=
  ∀ (task : TaskId) (known : Task S), before.tasks[task]? = some known →
    ∃ known', after.tasks[task]? = some known' ∧ known'.frames = known.frames ∧
      (known'.status = known.status ∨ known'.status.isPlain ∨ fates task known.point? known'.status)

namespace Stand

variable {fates : Fates S} {first second third : Loop S}

theorem of_eq (tasks : second.tasks = first.tasks) : Stand fates first second :=
  fun _ known found => ⟨known, tasks ▸ found, rfl, .inl rfl⟩

theorem refl (loop : Loop S) : Stand fates loop loop := of_eq rfl

theorem trans (left : Stand fates first second) (right : Stand fates second third) :
    Stand fates first third := by
  intro task known found
  obtain ⟨known', found', frames, either⟩ := left task known found
  obtain ⟨known'', found'', frames', either'⟩ := right task known' found'
  refine ⟨known'', found'', frames'.trans frames, ?_⟩
  rw [Task.point?_of_frames frames] at either'
  rcases either' with same | new
  · rw [same]
    exact either
  · exact .inr new

theorem mono {fates' : Fates S} (wider : ∀ task point status, fates task point status →
    fates' task point status) (stand : Stand fates first second) : Stand fates' first second := by
  intro task known found
  obtain ⟨known', found', frames, either⟩ := stand task known found
  exact ⟨known', found', frames, either.imp_right (Or.imp_right (wider task _ _))⟩

/-- A change of one task that stays where it stands. -/
theorem modifyTask (loop : Loop S) (task : TaskId) (change : Task S → Task S)
    (same : ∀ known, loop.tasks[task]? = some known → (change known).frames = known.frames ∧
      ((change known).status = known.status ∨ (change known).status.isPlain ∨
        fates task known.point? (change known).status)) :
        Stand fates loop (loop.modifyTask task change) := by
  intro other known found
  rw [show (loop.modifyTask task change).tasks = loop.tasks.modify task change from rfl,
    List.getElem?_modify, found]
  by_cases here : task = other
  · subst here
    exact ⟨change known, by simp, same known found⟩
  · exact ⟨known, by simp [here], rfl, .inl rfl⟩

/-- A new status of one task. -/
theorem setStatus (loop : Loop S) (task : TaskId) {status : Status S.Reply}
    (either : ∀ known, loop.tasks[task]? = some known →
      status.isPlain ∨ fates task known.point? status) :
      Stand fates loop (loop.setStatus task status) :=
  modifyTask loop task _ fun known found => ⟨rfl, .inr (either known found)⟩

theorem spawn (role : Role) (frame : Frame S.Point) (loop : Loop S) :
    Stand fates loop (loop.spawn role frame) := by
  intro task known found
  refine ⟨known, ?_, rfl, .inl rfl⟩
  have isOld : task < loop.tasks.length := (List.getElem?_eq_some_iff.mp found).1
  rw [show (loop.spawn role frame).tasks = loop.tasks ++ [_] from rfl,
    List.getElem?_append_left isOld]
  exact found

end Stand

section Parts

variable {fates : Fates S}

/-- A task that is woken has that reason for it. -/
theorem wake_stand (task : TaskId) {why : Wake S.Reply} {loop : Loop S}
    (either : ∀ known on, loop.tasks[task]? = some known →
      why.isPlain ∨ fates task known.point? (.woken on why)) :
      Stand fates loop (loop.wake task why) := by
  unfold wake
  split
  · next on _ =>
    have woken : Stand fates loop (loop.setStatus task (.woken on why)) :=
      .setStatus loop task fun known found => either known on found
    exact woken.trans (.of_eq rfl)
  · exact .refl loop

theorem wake_plain (task : TaskId) {why : Wake S.Reply} (isPlain : why.isPlain) (loop : Loop S) :
    Stand fates loop (loop.wake task why) := wake_stand task fun _ _ _ => .inl isPlain

theorem trigger_stand (task : TaskId) (outcome : Outcome Answer) (hook : Hook) (loop : Loop S) :
    Stand fates loop (loop.trigger task outcome hook) := by
  unfold trigger
  split
  · exact wake_plain _ (.inr ⟨outcome, rfl⟩) loop
  · exact .of_eq rfl

theorem addHook_stand (task : TaskId) (hook : Hook) (loop : Loop S) :
    Stand fates loop (loop.addHook task hook) := by
  unfold addHook
  split
  · exact trigger_stand task _ hook loop
  · exact .modifyTask loop task _ fun known _ => ⟨rfl, .inl rfl⟩

theorem countDown_stand (task : TaskId) (loop : Loop S) :
    Stand fates loop (loop.countDown task) := by
  unfold countDown
  split
  · split
    · exact wake_plain task (.inl rfl) loop
    · exact .setStatus loop task fun _ _ => .inl trivial
  · exact .refl loop

end Parts

@[simp] theorem modifyTask_taskCount (task : TaskId) (change : Task S → Task S) (loop : Loop S) :
    (loop.modifyTask task change).tasks.length = loop.tasks.length := List.length_modify ..

@[simp] theorem wake_taskCount (task : TaskId) (why : Wake S.Reply) (loop : Loop S) :
    (loop.wake task why).tasks.length = loop.tasks.length := by
  unfold wake
  split
  · exact modifyTask_taskCount ..
  · rfl

@[simp] theorem trigger_taskCount (task : TaskId) (outcome : Outcome Answer) (hook : Hook)
    (loop : Loop S) :
    (loop.trigger task outcome hook).tasks.length = loop.tasks.length := by
  unfold trigger
  split
  · exact wake_taskCount ..
  · rfl

@[simp] theorem addHook_taskCount (task : TaskId) (hook : Hook) (loop : Loop S) :
    (loop.addHook task hook).tasks.length = loop.tasks.length := by
  unfold addHook
  split
  · exact trigger_taskCount ..
  · exact modifyTask_taskCount ..

@[simp] theorem countDown_taskCount (task : TaskId) (loop : Loop S) :
    (loop.countDown task).tasks.length = loop.tasks.length := by
  unfold countDown
  split
  · split
    · exact wake_taskCount ..
    · exact modifyTask_taskCount ..
  · rfl

@[simp] theorem cancelErrand_taskCount (task : TaskId) (loop : Loop S) :
    (loop.cancelErrand task).tasks.length = loop.tasks.length := by
  unfold cancelErrand cancel
  split
  · split
    · exact modifyTask_taskCount ..
    · exact wake_taskCount ..
    · exact modifyTask_taskCount ..
    · rfl
  · rfl

@[simp] theorem post_taskCount (cache : CacheId) (item : Item) (loop : Loop S) :
    (loop.post cache item).tasks.length = loop.tasks.length := by
  unfold post
  split
  · rfl
  · dsimp only
    split
    · exact wake_taskCount ..
    · rfl

@[simp] theorem refresh_taskCount (cache : CacheId) (loop : Loop S) :
    (loop.refresh cache).tasks.length = loop.tasks.length := by
  unfold refresh
  split
  · exact post_taskCount ..
  · rfl

@[simp] theorem linkChanged_taskCount (cache : CacheId) (link : Link) (loop : Loop S) :
    (loop.linkChanged cache link).tasks.length = loop.tasks.length := by
  unfold linkChanged
  split
  · rfl
  · dsimp only
    split
    · exact post_taskCount ..
    · rfl

/-! ## Nudges without the service -/

/-- Tasks stand where they stood, and none comes in that the service has sent out. -/
structure Rests (before after : Loop S) : Prop where
  old : Stand noFate before after
  new (task : TaskId) (known : Task S) : before.tasks[task]? = none →
    after.tasks[task]? = some known → known.status.isPlain ∧ known.IsOwn

namespace Rests

variable {first second third : Loop S}

/-- Where no task comes in. -/
theorem of_length (stand : Stand noFate first second)
    (length : second.tasks.length = first.tasks.length) : Rests first second := by
  refine ⟨stand, fun task known unknown found => ?_⟩
  have isNew : first.tasks.length ≤ task := List.getElem?_eq_none_iff.mp unknown
  have isThere : task < second.tasks.length := (List.getElem?_eq_some_iff.mp found).1
  exact absurd (length ▸ isThere) (Nat.not_lt_of_le isNew)

theorem refl (loop : Loop S) : Rests loop loop := of_length (.refl loop) rfl

theorem trans (left : Rests first second) (right : Rests second third) : Rests first third := by
  refine ⟨left.old.trans right.old, fun task known unknown found => ?_⟩
  cases between : second.tasks[task]? with
  | none => exact right.new task known between found
  | some known' =>
    obtain ⟨isPlain, isOwn⟩ := left.new task known' unknown between
    obtain ⟨known'', found'', frames, either⟩ := right.old task known' between
    cases found.symm.trans found''
    refine ⟨?_, ?_⟩
    · rcases either with same | isPlain' | impossible
      · rwa [same]
      · exact isPlain'
      · exact impossible.elim
    · unfold Task.IsOwn
      rwa [frames]

theorem spawn {frame : Frame S.Point} (role : Role) (loop : Loop S)
    (isOwn : S.Begins frame) : Rests loop (loop.spawn role frame) := by
  refine ⟨.spawn role frame loop, fun task known unknown found => ?_⟩
  have isLate : loop.tasks.length ≤ task := List.getElem?_eq_none_iff.mp unknown
  rw [show (loop.spawn role frame).tasks = loop.tasks ++ [{ role, frames := [frame] }] from rfl,
    List.getElem?_append_right isLate] at found
  rw [List.mem_singleton.mp (List.mem_of_getElem? found)]
  exact ⟨trivial, frame, rfl, isOwn⟩

end Rests

theorem ask_rests (cache : CacheId) (query : Query) (loop : Loop S) :
    Rests loop (loop.ask cache query) := by
  cases found : loop.caches[cache]? with
  | none =>
    rw [ask_none query found]
    exact .refl loop
  | some known =>
    rw [ask_eq query found]
    have posed : Rests loop (loop.posed cache query known) := by
      have noted : Rests loop
          (loop.note (.asked cache loop.tasks.length (queryRequest cache known query))) :=
        .of_length (.of_eq rfl) rfl
      have spawned := noted.trans (.spawn (.request cache query) _
        (Service.begins_request known.handle (queryRequest cache known query)))
      exact spawned.trans (.of_length (.of_eq rfl) rfl)
    exact posed.trans (.of_length (addHook_stand _ _ _) (addHook_taskCount _ _ _))

theorem Nudge.rests {before after : Loop S} (nudge : Nudge False before after) :
    Rests before after := by
  cases nudge with
  | still grows tasks ready => exact .of_length (.of_eq tasks) (by rw [tasks])
  | spawn role frame isOwn isOpening =>
    refine .spawn role before fun point same => ?_
    subst same
    exact isOpening.elim
  | begin cache => exact .spawn _ before nofun
  | ask cache query => exact ask_rests cache query before
  | wake task why isPlain =>
    exact .of_length (wake_plain task isPlain before) (wake_taskCount _ _ _)
  | count task => exact .of_length (countDown_stand task before) (countDown_taskCount _ _)
  | hook task hook isPlain =>
    exact .of_length (addHook_stand task hook before) (addHook_taskCount _ _ _)
  | reply served task reply => exact served.elim
  | cancel served task => exact served.elim
  | errand served point => exact served.elim

theorem Nudges.rests {before after : Loop S} (nudges : Nudges False before after) :
    Rests before after := by
  induction nudges with
  | refl => exact .refl _
  | tail _ nudge step => exact step.trans nudge.rests

/-! ## Who listens to the service -/

theorem stopCache_service (cache : CacheId) (loop : Loop S) :
    (loop.stopCache cache).service = loop.service := by
  unfold stopCache
  split
  · exact (post_keeps _ cache .stop).1
  · rfl

theorem changeListeners_heeds (handle : Handle) (habit : Habit) (loop : Loop S) :
    S.Heeds loop.service (loop.changeListeners handle habit).service := by
  have added : ∀ (names : List String) (state : S.State), S.Heeds state
      (names.foldl (fun state name => S.listen (some handle) (.named name) state) state) :=
    foldl_relates (fun _ => .refl) .trans fun _ _ => .single (.listen _ _)
  have removed : ∀ (names : List String) (state : S.State), S.Heeds state
      (names.foldl (fun state name => S.unlisten (some handle) (.named name) state) state) :=
    foldl_relates (fun _ => .refl) .trans fun _ _ => .single (.unlisten _ _)
  exact (added habit.adds loop.service).trans (removed habit.removes _)

/-- Unless something happens at the service, it at most minds who listens. -/
theorem Stir.heeds {before after : Loop S} (stir : Stir before after) :
    (∃ event, after = (before.happen event).1) ∨ (∃ settings, after = (before.connect settings).1) ∨
      S.Heeds before.service after.service := by
  cases stir with
  | happen event => exact .inl ⟨event, rfl⟩
  | connect settings => exact .inr (.inl ⟨settings, rfl⟩)
  | reset cache =>
    exact .inr (.inr (Service.heeds_of_eq (refresh_keeps (before.note (.reset cache)) cache).1))
  | adopt handle => exact .inr (.inr (.single (.adopt handle)))
  | shut cache known found =>
    have stopped : S.Heeds before.service (before.stopCache cache).service :=
      Service.heeds_of_eq (stopCache_service cache before)
    exact .inr (.inr (stopped.tail (.unlisten _ _)))
  | wake task why isPlain => exact .inr (.inr (Service.heeds_of_eq (wake_keeps before task why).1))
  | count task => exact .inr (.inr (Service.heeds_of_eq (countDown_keeps before task).1))
  | hook task hook isPlain =>
    exact .inr (.inr (Service.heeds_of_eq (addHook_keeps before task hook).1))
  | _ => exact .inr (.inr .refl)

theorem Toil.heeds {before after : Loop S} (toil : Toil before after) :
    (∃ event, after = (before.happen event).1) ∨ (∃ settings, after = (before.connect settings).1) ∨
      S.Heeds before.service after.service := by
  cases toil with
  | stir stir => exact stir.heeds
  | ask cache query =>
    refine .inr (.inr (Service.heeds_of_eq ?_))
    cases found : before.caches[cache]? with
    | none => rw [ask_none query found]
    | some known =>
      rw [ask_eq query found]
      exact (addHook_keeps _ _ _).1
  | post cache item => exact .inr (.inr (Service.heeds_of_eq (post_keeps before cache item).1))
  | refresh cache => exact .inr (.inr (Service.heeds_of_eq (refresh_keeps before cache).1))
  | _ => exact .inr (.inr .refl)

theorem Prepares.heeds {frame : Frame S.Point} {wake : Wake S.Reply} {before after : Loop S}
    (prepares : Prepares frame wake before after) : S.Heeds before.service after.service := by
  cases prepares with
  | listen isStart isReady found => exact .single (.listen _ _)
  | _ => exact .refl

/-! ## What effects come to -/

/-- What effects bring upon a task: it is cancelled, or what it holds is answered. -/
inductive Befalls (effects : List (Effect S.Call S.Point S.Reply)) : Fates S
  | cancel {task : TaskId} {point : Option S.Point} {status : Status S.Reply}
      (named : .cancel task ∈ effects) : Befalls effects task point status
  | release {task : TaskId} {point : S.Point} {on : Await} {wanted : S.Point → Bool}
      {reply : S.Reply} (named : .release wanted reply ∈ effects) (isWanted : wanted point = true) :
      Befalls effects task (some point) (.woken on (.reply reply))

theorem Befalls.mono {effects others : List (Effect S.Call S.Point S.Reply)}
    (wider : ∀ effect ∈ effects, effect ∈ others) (task : TaskId) (point : Option S.Point)
    (status : Status S.Reply) (befalls : Befalls effects task point status) :
    Befalls others task point status := by
  cases befalls with
  | cancel named => exact .cancel (wider _ named)
  | release named isWanted => exact .release (wider _ named) isWanted

/-- What effects come to: what is named in them befalls the tasks that are there, and those come in
that are sent out, in their order. -/
structure Performs (effects : List (Effect S.Call S.Point S.Reply))
    (before after : Loop S) : Prop where
  old : Stand (Befalls effects) before after
  length : after.tasks.length = before.tasks.length + (errands effects).length
  new (place : Nat) (point : S.Point) : (errands effects)[place]? = some point →
    ∃ known, after.tasks[before.tasks.length + place]? = some known ∧
      known.frames = [.service point] ∧
      (known.status.isPlain ∨
        Befalls effects (before.tasks.length + place) (some point) known.status)
  heeds : S.Heeds before.service after.service
  turn : after.turn = before.turn

namespace Performs

variable {effects later : List (Effect S.Call S.Point S.Reply)} {first second third : Loop S}

/-- Effects that send out nobody. -/
theorem of_stand (nobody : errands effects = []) (old : Stand (Befalls effects) first second)
    (length : second.tasks.length = first.tasks.length)
    (heeds : S.Heeds first.service second.service) (turn : second.turn = first.turn) :
    Performs effects first second := by
  refine ⟨old, by rw [length, nobody, List.length_nil, Nat.add_zero],
    fun place point sent => ?_, heeds, turn⟩
  rw [nobody] at sent
  cases sent

theorem append (left : Performs effects first second) (right : Performs later second third) :
    Performs (effects ++ later) first third := by
  have old : Stand (Befalls (effects ++ later)) first second :=
    left.old.mono (Befalls.mono fun _ member => List.mem_append_left _ member)
  have old' : Stand (Befalls (effects ++ later)) second third :=
    right.old.mono (Befalls.mono fun _ member => List.mem_append_right _ member)
  refine ⟨old.trans old', ?_, fun place point sent => ?_, left.heeds.trans right.heeds,
    right.turn.trans left.turn⟩
  · rw [right.length, left.length, errands_append, List.length_append, Nat.add_assoc]
  · rw [errands_append] at sent
    by_cases isEarly : place < (errands effects).length
    · rw [List.getElem?_append_left isEarly] at sent
      obtain ⟨known, found, frames, either⟩ := left.new place point sent
      obtain ⟨known', found', frames', either'⟩ := old' _ known found
      refine ⟨known', found', frames'.trans frames, ?_⟩
      have here : known.point? = some point := by
        unfold Task.point?
        rw [frames]
      rw [here] at either'
      rcases either' with same | new
      · rw [same]
        exact either.imp_right (Befalls.mono (fun _ member => List.mem_append_left _ member) _ _ _)
      · exact new
    · have isLate := Nat.le_of_not_lt isEarly
      rw [List.getElem?_append_right isLate] at sent
      obtain ⟨known, found, frames, either⟩ := right.new _ point sent
      have place' : second.tasks.length + (place - (errands effects).length) =
          first.tasks.length + place := by
        rw [left.length]
        omega
      rw [place'] at found either
      exact ⟨known, found, frames,
        either.imp_right (Befalls.mono (fun _ member => List.mem_append_right _ member) _ _ _)⟩

end Performs

theorem refresh_stand {fates : Fates S} (cache : CacheId) (loop : Loop S) :
    Stand fates loop (loop.refresh cache) :=
  ((refresh_nudges cache loop).rests.old).mono fun _ _ _ => False.elim

theorem cancelErrand_stand (task : TaskId) {effects : List (Effect S.Call S.Point S.Reply)}
    (named : .cancel task ∈ effects) (loop : Loop S) :
    Stand (Befalls effects) loop (loop.cancelErrand task) := by
  unfold cancelErrand cancel
  split
  · split
    · exact .setStatus loop task fun _ _ => .inr (.cancel named)
    · exact wake_stand task fun _ _ _ => .inr (.cancel named)
    · exact .setStatus loop task fun _ _ => .inr (.cancel named)
    · exact .refl loop
  · exact .refl loop

/-- Those that are released are held at points that are wanted. -/
theorem release_stand {wanted : S.Point → Bool} {reply : S.Reply}
    {effects : List (Effect S.Call S.Point S.Reply)} (named : .release wanted reply ∈ effects)
    (loop : Loop S) : Stand (Befalls effects) loop (loop.release wanted reply) ∧
      (loop.release wanted reply).tasks.length = loop.tasks.length := by
  unfold release
  have areWanted : ∀ held ∈ loop.held.filter fun held =>
      held.isWaiting && ((loop.tasks[held.task]?).bind Task.point?).any wanted,
      ((loop.tasks[held.task]?).bind Task.point?).any wanted = true := fun held member =>
    (Bool.and_eq_true_iff.mp (List.mem_filter.mp member).2).2
  generalize loop.held.filter _ = called at areWanted
  induction called generalizing loop with
  | nil => exact ⟨.refl loop, rfl⟩
  | cons held rest step =>
    have woken : Stand (Befalls effects) loop (loop.wake held.task (.reply reply)) := by
      refine wake_stand held.task fun known on found => .inr ?_
      have isWanted := areWanted held List.mem_cons_self
      rw [found, Option.bind_some] at isWanted
      obtain ⟨point, here, isWanted⟩ := (Option.any_eq_true _ _).mp isWanted
      rw [here]
      exact .release named isWanted
    obtain ⟨stand, length⟩ := step (loop.wake held.task (.reply reply)) fun other member => by
      have isWanted := areWanted other (List.mem_cons_of_mem _ member)
      obtain ⟨point, here, isWanted⟩ := (Option.any_eq_true _ _).mp isWanted
      obtain ⟨known, found, here⟩ := Option.bind_eq_some_iff.mp here
      obtain ⟨known', found', frames, -⟩ := woken other.task known found
      rw [found', Option.bind_some, Task.point?_of_frames frames, here]
      exact isWanted
    exact ⟨woken.trans stand, length.trans (wake_taskCount _ _ _)⟩

theorem effect_performs (effect : Effect S.Call S.Point S.Reply) (loop : Loop S) :
    Performs [effect] loop (loop.effect effect) := by
  have quiet : ∀ after : Loop S, errands [effect] = [] → after.tasks = loop.tasks →
      S.Heeds loop.service after.service → after.turn = loop.turn → Performs [effect] loop after :=
    fun after nobody tasks heeds turn => .of_stand nobody (.of_eq tasks) (by rw [tasks]) heeds turn
  cases effect with
  | note call => exact quiet _ rfl rfl .refl rfl
  | tell handle listener link =>
    cases listener with
    | cache cache =>
      refine .of_stand rfl ?_ (linkChanged_taskCount cache link loop)
        (Service.heeds_of_eq (linkChanged_keeps loop cache link).1)
          (linkChanged_keeps loop cache link).2
      exact ((linkChanged_nudges cache link loop).rests.old).mono fun _ _ _ => False.elim
    | named name =>
      have heeds := changeListeners_heeds handle (loop.habit name) (loop.note (.listener name link))
      refine quiet _ rfl ?_ ?_ ?_ <;> (unfold effect tell; dsimp only; split)
      · rfl
      · rfl
      · exact heeds
      · exact heeds
      · rfl
      · rfl
  | fire watcher key news =>
    cases watcher with
    | cache cache =>
      have refreshed := refresh_keeps (loop.note (.fired cache)) cache
      exact .of_stand rfl (refresh_stand cache (loop.note (.fired cache)))
        (refresh_taskCount cache _) (Service.heeds_of_eq refreshed.1) refreshed.2.2
    | named name =>
      refine quiet _ rfl ?_ ?_ ?_ <;> (unfold effect fire; dsimp only; split)
      · rfl
      · rfl
      · exact .refl
      · exact .refl
      · rfl
      · rfl
  | spawn point =>
    refine ⟨.spawn _ _ loop, List.length_append, fun place sent found => ?_, .refl, rfl⟩
    have isOnly : (errands [(.spawn point : Effect S.Call S.Point S.Reply)]) = [point] := rfl
    rw [isOnly] at found
    obtain ⟨rfl, rfl⟩ : place = 0 ∧ point = sent := by
      cases place with
      | zero => exact ⟨rfl, Option.some.inj found⟩
      | succ place => cases found
    refine ⟨{ role := .errand, frames := [.service point] }, ?_, rfl, .inl trivial⟩
    rw [show (loop.effect (.spawn point)).tasks = loop.tasks ++ [_] from rfl, Nat.add_zero]
    exact List.getElem?_concat_length
  | cancel task =>
    exact .of_stand rfl (cancelErrand_stand task List.mem_cons_self loop)
      (cancelErrand_taskCount task loop)
      (Service.heeds_of_eq (cancelErrand_keeps loop task).1) (cancelErrand_keeps loop task).2.2.2
  | release wanted reply =>
    have named :
        (.release wanted reply : Effect S.Call S.Point S.Reply) ∈ [.release wanted reply] :=
      List.mem_cons_self
    obtain ⟨stand, length⟩ := release_stand named loop
    exact .of_stand rfl stand length (Service.heeds_of_eq (release_keeps loop wanted reply).1)
      (release_keeps loop wanted reply).2.2.2
  | complain complaint => exact quiet _ rfl rfl .refl rfl

/-- **What the effects of a service come to.** -/
theorem perform_performs (effects : List (Effect S.Call S.Point S.Reply)) (loop : Loop S) :
    Performs effects loop (loop.perform effects) := by
  unfold perform
  induction effects generalizing loop with
  | nil => exact .of_stand rfl (.refl loop) rfl .refl rfl
  | cons effect rest step => exact (effect_performs effect loop).append (step (loop.effect effect))

/-- The effects of a turn of a call. -/
theorem serviceTurn_performs (self : TaskId) (point : S.Point) (wake : Wake S.Reply)
    (loop : Loop S) :
    Performs (S.resume (loop.moment self) point wake loop.service).effects
      (loop.setService (S.resume (loop.moment self) point wake loop.service).state)
      (loop.serviceTurn self point wake).1 := by
  obtain ⟨tickets, alarms, same⟩ := serviceTurn_loop loop self point wake
  obtain ⟨old, length, new, heeds, turn⟩ := perform_performs
    (S.resume (loop.moment self) point wake loop.service).effects
    (loop.setService (S.resume (loop.moment self) point wake loop.service).state)
  rw [same]
  exact ⟨old, length, new, heeds, turn⟩

/-! ## The end of a turn -/

/-- A task goes on from new frames; the others stand where they stood, and none comes in. -/
structure Moves (task : TaskId) (frames : List (Frame S.Point)) (before after : Loop S) : Prop where
  self (known : Task S) : before.tasks[task]? = some known →
    ∃ known', after.tasks[task]? = some known' ∧ known'.frames = frames ∧
      (known'.status = known.status ∨ known'.status.isPlain)
  others (other : TaskId) (known : Task S) : other ≠ task → before.tasks[other]? = some known →
    ∃ known', after.tasks[other]? = some known' ∧ known'.frames = known.frames ∧
      (known'.status = known.status ∨ known'.status.isPlain)
  length : after.tasks.length = before.tasks.length
  service : after.service = before.service
  turn : after.turn = before.turn ∨ ∃ wake, after.turn = some (task, wake) ∧ wake.isPlain

namespace Moves

variable {task : TaskId} {frames : List (Frame S.Point)} {first second third : Loop S}

/-- What comes after leaves the task at its new frames. -/
theorem stand (moves : Moves task frames first second) (stand : Stand noFate second third)
    (length : third.tasks.length = second.tasks.length) (service : third.service = second.service)
    (turn : third.turn = second.turn ∨ ∃ wake, third.turn = some (task, wake) ∧ wake.isPlain) :
    Moves task frames first third := by
  have kept : ∀ (other : TaskId) (before between : Task S), second.tasks[other]? = some between →
      (between.status = before.status ∨ between.status.isPlain) →
      ∃ after, third.tasks[other]? = some after ∧ after.frames = between.frames ∧
        (after.status = before.status ∨ after.status.isPlain) := by
    intro other before between found either
    obtain ⟨after, found', frames, either'⟩ := stand other between found
    refine ⟨after, found', frames, ?_⟩
    rcases either' with same | isPlain | impossible
    · rwa [same]
    · exact .inr isPlain
    · exact impossible.elim
  refine ⟨fun known found => ?_, fun other known different found => ?_, length.trans moves.length,
    service.trans moves.service, ?_⟩
  · obtain ⟨between, found', same, either⟩ := moves.self known found
    obtain ⟨after, found'', same', either'⟩ := kept task known between found' either
    exact ⟨after, found'', same'.trans same, either'⟩
  · obtain ⟨between, found', same, either⟩ := moves.others other known different found
    obtain ⟨after, found'', same', either'⟩ := kept other known between found' either
    exact ⟨after, found'', same'.trans same, either'⟩
  · rcases turn with same | given
    · rw [same]
      exact moves.turn
    · exact .inr given

theorem modifyTask (loop : Loop S) (change : Task S → Task S)
    (same : ∀ known : Task S, (change known).frames = frames ∧
      ((change known).status = known.status ∨ (change known).status.isPlain)) :
    Moves task frames loop (loop.modifyTask task change) := by
  have changed : (loop.modifyTask task change).tasks = loop.tasks.modify task change := rfl
  refine ⟨fun known found => ⟨change known, ?_, same known⟩, fun other known different found =>
    ⟨known, ?_, rfl, .inl rfl⟩, modifyTask_taskCount _ _ _, rfl, .inl rfl⟩
  · rw [changed, List.getElem?_modify_eq, found]
    rfl
  · rw [changed, List.getElem?_modify_ne _ _ different.symm]
    exact found

end Moves

theorem finish_moves (task : TaskId) (outcome : Outcome Answer) (loop : Loop S) :
    Moves task [] loop (loop.finish task outcome) := by
  have ended : Moves task [] loop (loop.modifyTask task fun task =>
      { task with status := .ended outcome, hooks := [], frames := [] }) :=
    .modifyTask loop _ fun _ => ⟨rfl, .inr trivial⟩
  have triggered : ∀ (hooks : List Hook) (loop : Loop S), Stand noFate loop
      (hooks.foldl (fun loop hook => loop.trigger task outcome hook) loop) :=
    foldl_relates .refl .trans fun loop hook => trigger_stand task outcome hook loop
  refine ended.stand (triggered _ _) ?_ ?_ (.inl ?_)
  · exact foldl_keeps (·.tasks.length) _
      (fun loop hook => trigger_taskCount task outcome hook loop) _ _
  · exact foldl_keeps (·.service) _ (by simp) _ _
  · exact foldl_keeps (·.turn) _ (by simp) _ _

theorem setFrames_moves (task : TaskId) (frames : List (Frame S.Point)) (loop : Loop S) :
    Moves task frames loop (loop.setFrames task frames) := .modifyTask loop _ fun _ =>
      ⟨rfl, .inl rfl⟩

theorem suspend_stand (task : TaskId) (on : Await) (loop : Loop S) :
    Stand noFate loop (loop.suspend task on) ∧
      (loop.suspend task on).tasks.length = loop.tasks.length := by
  have waits : Stand noFate loop (loop.setStatus task (.waiting on)) :=
    .setStatus loop task fun _ _ => .inl trivial
  unfold suspend
  split
  · split
    · next time number _ =>
      have woken : Stand noFate loop (loop.setStatus task (.woken (.due time number) .goOn)) :=
        .setStatus loop task fun _ _ => .inl (.inl rfl)
      exact ⟨woken.trans (.of_eq rfl), modifyTask_taskCount _ _ _⟩
    · exact ⟨waits, modifyTask_taskCount _ _ _⟩
  · exact ⟨waits, modifyTask_taskCount _ _ _⟩

/-- **After its turn a task goes on from its new frames.** -/
theorem afterTurn_moves (task : TaskId) (frame : Frame S.Point) (rest : List (Frame S.Point))
    (turn : Turn S) : Moves task (turn.2.frames rest) turn.1 (afterTurn task frame rest turn) := by
  obtain ⟨loop, way⟩ := turn
  have given : ∀ (loop : Loop S) frames (wake : Wake S.Reply), wake.isPlain →
      Moves task frames loop ((loop.setFrames task frames).give task wake) :=
    fun loop frames wake isPlain =>
      (setFrames_moves task frames loop).stand (.of_eq rfl) rfl rfl (.inr ⟨wake, rfl, isPlain⟩)
  have noted : ∀ after, Moves task (way.frames rest) (loop.noteEnd task frame way) after →
      Moves task (way.frames rest) loop after := by
    unfold noteEnd
    split
    · rintro after ⟨self, others, length, service, turn⟩
      exact ⟨self, others, length, service, turn⟩
    · exact fun after => id
  refine noted _ ?_
  unfold afterTurn Loop.move
  dsimp only
  cases way with
  | goOn next => exact given _ _ _ (.inl rfl)
  | call caller callee => exact given _ _ _ (.inl rfl)
  | await next on =>
    obtain ⟨stand, length⟩ := suspend_stand task on
      ((loop.noteEnd task frame (.await next on)).setFrames task (next :: rest))
    exact (setFrames_moves task (next :: rest) _).stand stand length (suspend_keeps _ _ _).1
      (.inl (suspend_keeps _ _ _).2.2.2)
  | finish outcome =>
    cases rest with
    | nil => exact finish_moves task outcome _
    | cons caller rest => exact given _ _ _ (.inr ⟨outcome, rfl⟩)

/-! ## Chores -/

end Loop

/-- The point of a call that somebody outside makes, or of what is left to be waited for. -/
def Service.IsAsked (S : Service) (point : S.Point) : Prop :=
  (∃ handle operation, point = S.operation handle operation) ∨
    ∃ moment event state occurrence, S.occur moment event state = .ok occurrence ∧
      occurrence.remainder = some point

namespace Loop

/-- A call of the service has its turn. -/
inductive ServiceTurn (before : Loop S) : Loop S → Prop
  | turn {task : TaskId} {wake : Wake S.Reply} {point : S.Point} {rest : List (Frame S.Point)}
      (isAt : before.IsAt task wake (.service point) rest)
      (isStack : IsStack (.service point :: rest)) :
      ServiceTurn before
        (afterTurn task (.service point) rest (before.inTurn.serviceTurn task point wake))

/-- One thing that happens besides, as far as it matters to tasks and to the service. -/
inductive Chore (allowed : Outside S) (before : Loop S) : Loop S → Prop
  /-- Something else changes; the turn may be over. -/
  | aside {after : Loop S} (tasks : after.tasks = before.tasks)
      (service : after.service = before.service)
      (turn : after.turn = before.turn ∨ after.turn = none) : Chore allowed before after
  /-- The service minds who listens, and tasks go on by themselves. -/
  | mind {after : Loop S} (rests : Rests before after)
      (heeds : S.Heeds before.service after.service) (turn : after.turn = before.turn) :
      Chore allowed before after
  | happen (event : S.Event) : Chore allowed before (before.happen event).1
  | connect (settings : Value) : Chore allowed before (before.connect settings).1
  /-- Somebody outside calls the service. -/
  | call {point : S.Point} (isAsked : S.IsAsked point) :
      Chore allowed before (before.spawn .caller (.service point))
  | release (tickets : List Nat) (release : Release S.Reply)
      (isAllowed : allowed before (.release tickets release)) :
      Chore allowed before (before.releaseAll release tickets).1
  /-- The turn of another frame ends. -/
  | move {task : TaskId} {known : Task S} {frame : Frame S.Point} {rest : List (Frame S.Point)}
      {way : Move S.Point} {after : Loop S} (found : before.tasks[task]? = some known)
      (frames : known.frames = frame :: rest) (isOther : ¬ frame.isService)
      (isStack : IsStack (frame :: rest)) (follows : Follows frame way)
      (moves : Moves task (way.frames rest) before after) : Chore allowed before after
  /-- A task gets its turn. -/
  | run {task : TaskId} {known : Task S} {wake : Wake S.Reply}
      (found : before.tasks[task]? = some known)
      (either : known.status = .fresh ∧ wake = .goOn ∨ ∃ on, known.status = .woken on wake) :
      Chore allowed before ((before.setStatus task .running).give task wake)
  /-- A task ends that was cancelled before its first turn. -/
  | doom {task : TaskId} {known : Task S} (found : before.tasks[task]? = some known)
      (was : known.status = .doomed) : Chore allowed before (before.finish task .cancelled)

/-- Several of them. -/
abbrev Chores (allowed : Outside S) : Loop S → Loop S → Prop := ReflTransGen (Chore allowed)

variable {allowed : Outside S}

theorem Toil.chore {before after : Loop S} (toil : Toil before after) :
    Chore allowed before after := by
  rcases toil.heeds with ⟨event, rfl⟩ | ⟨settings, rfl⟩ | heeds
  · exact .happen event
  · exact .connect settings
  · rcases toil.nudges with ⟨event, rfl⟩ | ⟨settings, rfl⟩ | nudges
    · exact .happen event
    · exact .connect settings
    · exact .mind (Nudges.rests nudges) heeds (Toils.turn (.single toil))

theorem Toils.chores {before after : Loop S} (toils : Toils before after) :
    Chores allowed before after := by
  induction toils with
  | refl => exact .refl
  | tail _ toil step => exact step.tail toil.chore

theorem Prepares.chore {frame : Frame S.Point} {wake : Wake S.Reply} {before after : Loop S}
    (prepares : Prepares frame wake before after) : Chore allowed before after :=
  .mind prepares.nudge.rests prepares.heeds prepares.turn

theorem turn_chores {before : Loop S} (areStacked : before.AreStacked) {task : TaskId}
    {wake : Wake S.Reply} {frame : Frame S.Point} {rest : List (Frame S.Point)}
    (isAt : before.IsAt task wake frame rest) :
    ServiceTurn before (afterTurn task frame rest (before.inTurn.frameTurn task frame wake)) ∨
      Chores allowed before
        (afterTurn task frame rest (before.inTurn.frameTurn task frame wake)) := by
  by_cases isService : frame.isService
  · cases frame with
    | service point => exact .inl (.turn isAt (areStacked.isAt isAt))
    | _ => exact isService.elim
  · obtain ⟨known, found, frames⟩ := Option.map_eq_some_iff.mp isAt.frames
    obtain ⟨known', found', -, frames', -⟩ :=
      (frameTurn_spares task frame wake before.inTurn).old task known found
    obtain ⟨owner, middle, -, prepares, labours⟩ :=
      frameTurn_endeavours task frame wake before.inTurn isService
    have begun : Chores allowed before before.inTurn := .single (.aside rfl rfl (.inr rfl))
    refine .inr (((begun.tail prepares.chore).trans labours.toils.chores).tail ?_)
    exact .move found' (frames'.trans frames) isService (areStacked.isAt isAt)
      (frameTurn_follows task frame wake before.inTurn) (afterTurn_moves task frame rest _)

theorem start_chores (job : Job) (loop : Loop S) : Chores allowed loop (loop.start job) := by
  unfold start
  split
  · split
    · next was =>
      obtain ⟨known, found, was⟩ := Option.map_eq_some_iff.mp was
      exact .single (.run found (.inl ⟨was, rfl⟩))
    · next was =>
      obtain ⟨known, found, was⟩ := Option.map_eq_some_iff.mp was
      exact .single (.run found (.inr ⟨_, was⟩))
    · next was =>
      obtain ⟨known, found, was⟩ := Option.map_eq_some_iff.mp was
      exact .single (.doom found was)
    · exact .refl
  · split
    · obtain ⟨owner, labours⟩ := runHook_labours _ _ _ loop
      exact labours.toils.chores
    · exact .refl

theorem command_chores {loop : Loop S} {command : Command S} (isMomentary : command.isMomentary)
    (isAllowed : allowed loop command) : Chores allowed loop (loop.command command).1 := by
  by_cases isSpecial : command.isSpecial
  · cases command with
    | install name path stat data =>
      exact withCache_keeps loop name _ .refl fun cache =>
        (installFrom_toils cache path stat data loop).chores
    | release tickets release => exact .single (.release tickets release isAllowed)
    | operate operation => exact .single (.call (.inl ⟨_, operation, rfl⟩))
    | occur event =>
      have happened : Chores allowed loop (loop.happen event).1 := .single (.happen event)
      unfold Loop.command
      dsimp only
      split
      · next result =>
        rw [result] at happened
        exact happened
      · next result =>
        rw [result] at happened
        exact happened
      · next after point result =>
        have remains : ∃ occurrence, S.occur (loop.moment loop.tasks.length) event loop.service =
            .ok occurrence ∧ occurrence.remainder = some point := by
          unfold Loop.happen at result
          split at result
          · cases (Prod.mk.inj result).2
          · next occurrence occurs =>
            exact ⟨occurrence, occurs, Except.ok.inj (Prod.mk.inj result).2⟩
        obtain ⟨occurrence, occurs, remainder⟩ := remains
        rw [result] at happened
        exact happened.tail (.call (.inr ⟨_, event, _, occurrence, occurs, remainder⟩))
    | advance span => simp [Command.isMomentary] at isMomentary
    | _ => exact isSpecial.elim
  · exact (command_stirs loop command isSpecial).toils.chores

/-- **Whatever happens is the turn of a call, or a number of chores.** -/
theorem Happens.chores {before after : Loop S} (happens : Happens allowed before after)
    (areStacked : before.AreStacked) : ServiceTurn before after ∨ Chores allowed before after := by
  cases happens with
  | step =>
    have step := step_isStep before
    generalize before.step = after at step
    cases step with
    | turn isAt => exact turn_chores areStacked isAt
    | pause turn isOver => exact .inr (.single (.aside rfl rfl (.inr rfl)))
    | @job job ready turn isFirst =>
      have taken : Chore allowed before { before with ready } := .aside rfl rfl (.inl rfl)
      exact .inr (.head taken (start_chores job _))
    | rest turn => exact .inr .refl
  | command command isBetween isMomentary isAllowed =>
    exact .inr (command_chores isMomentary isAllowed)
  | elapse time => exact .inr (.single (.aside rfl rfl (.inl rfl)))
  | ring =>
    exact .inr
      (.single (.mind (ring_nudges before).rests (Service.heeds_of_eq (ring_keeps before).1)
      (ring_keeps before).2.2.2))
  | decide scripts habits => exact .inr (.single (.aside rfl rfl (.inl rfl)))

/-- What each turn of a call and each chore keeps is kept by whatever happens. -/
theorem Happens.keeps_chores {holds : Loop S → Prop} {before after : Loop S}
    (happens : Happens allowed before after) (areStacked : before.AreStacked)
    (turned : ∀ before after, ServiceTurn before after → holds before → holds after)
    (kept : ∀ before after, Chore allowed before after → holds before → holds after)
    (start : holds before) : holds after := by
  rcases happens.chores areStacked with turn | chores
  · exact turned _ _ turn start
  · clear happens areStacked
    induction chores with
    | refl => exact start
    | tail _ chore step => exact kept _ _ chore step

/-- What each of them keeps is kept by every run. -/
theorem Reaches.keeps_chores {holds : Loop S → Prop} {first last : Loop S}
    (run : Reaches allowed first last) (areStacked : first.AreStacked)
    (turned : ∀ before after, ServiceTurn before after → holds before → holds after)
    (kept : ∀ before after, Chore allowed before after → holds before → holds after)
    (start : holds first) : holds last := by
  have step : ∀ before after, Happens allowed before after →
      before.AreStacked ∧ holds before → after.AreStacked ∧ holds after :=
    fun before after happens ⟨areStacked, start⟩ =>
      ⟨happens.areStacked areStacked, happens.keeps_chores areStacked turned kept start⟩
  exact (@Reaches.keeps _ _ (fun loop => loop.AreStacked ∧ holds loop) _ _ run ⟨areStacked,
    start⟩ step).2

end Loop

end WatchedNode
