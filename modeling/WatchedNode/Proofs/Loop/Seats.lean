/-
**Who waits is on a list.**

A task that waits for an item, for the end of all work, or for the end of another task has a seat,
and is on the list of that seat: the queue's getter, the queue's joiners, or the hooks of the other
task. Nobody else is on these lists (`Passes.areSeated`), so those are let go who wait, and nobody
who waits is forgotten.
-/
import WatchedNode.Proofs.Loop.Ready

namespace WatchedNode

open Relation

variable {S : Service} {asks : Prop} {drops : TaskId → Prop}

/-- A place to wait at that has a list. -/
inductive Seat
  | item (cache : CacheId)
  | drained (cache : CacheId)
  | task (task : TaskId)
  deriving DecidableEq

/-- Where a task waits. -/
def Task.seat? (task : Task S) : Option Seat :=
  match task.status, task.frames with
  | .waiting .item, .worker cache _ :: _ => some (.item cache)
  | .waiting .drained, .wait cache _ :: _ => some (.drained cache)
  | .waiting (.task other), .close .. :: _ => some (.task other)
  | _, _ => none

/-- The task that a hook lets go on. -/
def Hook.waiter? : Hook → Option TaskId
  | .resume task => some task
  | _ => none

/-- Who is on the lists of a queue. -/
def Duty.seated (duty : Duty) : Seat → List TaskId
  | .item _ => duty.backlog.elim [] (·.getter.toList)
  | .drained _ => duty.backlog.elim [] (·.joiners)
  | .task _ => []

/-- A task that does not wait has no seat. -/
theorem Task.seat?_of_not_waiting {task : Task S} (isUp : ∀ on, task.status ≠ .waiting on) :
    task.seat? = none := by
  unfold seat?
  split
  · next was _ => exact absurd was (isUp _)
  · next was _ => exact absurd was (isUp _)
  · next was _ => exact absurd was (isUp _)
  · rfl

/-- A wait that is on no list is at no seat. -/
theorem Task.seat?_of_free {task : Task S}
    (isFree : ∀ on, task.status = .waiting on → ¬ on.isListed) :
    task.seat? = none := by
  unfold seat?
  split
  · next was _ => exact absurd trivial (isFree _ was)
  · next was _ => exact absurd trivial (isFree _ was)
  · next was _ => exact absurd trivial (isFree _ was)
  · rfl

/-- Where no item can be taken, there is none. -/
theorem Backlog.items_of_take?_none {backlog : Backlog} (isEmpty : backlog.take? = none) :
    backlog.items = [] := by
  unfold take? at isEmpty
  split at isEmpty
  · assumption
  · cases isEmpty

/-- Taking an item changes nothing but the items. -/
theorem Backlog.eq_of_take? {backlog rest : Backlog} {item : Item}
    (taken : backlog.take? = some (item, rest)) : rest = { backlog with items := rest.items } := by
  unfold take? at taken
  split at taken
  · cases taken
  · cases taken
    rfl

namespace Loop

/-- Where a task waits. -/
def seat? (task : TaskId) (loop : Loop S) : Option Seat := (loop.tasks[task]?).bind Task.seat?

/-- Who is on the list of a seat. -/
def seated (loop : Loop S) : Seat → List TaskId
  | .item cache => (loop.duty? cache).elim [] (·.seated (.item cache))
  | .drained cache => (loop.duty? cache).elim [] (·.seated (.drained cache))
  | .task task => (loop.tasks[task]?).elim [] (·.hooks.filterMap Hook.waiter?)

/-- Those who wait are on the lists, and nobody else. -/
def AreSeated (loop : Loop S) : Prop := ∀ task seat, loop.seat? task = some seat ↔
    task ∈ loop.seated seat

/-- A task that waits for a queue is on the list of it, as long as it waits. -/
theorem mem_joiners_iff {loop : Loop S} {cache : CacheId} {waiter : TaskId}
    (areSeated : loop.AreSeated) {duty : Duty} {backlog : Backlog}
    (is : loop.duty? cache = some duty) (has : duty.backlog = some backlog) :
    waiter ∈ backlog.joiners ↔ loop.seat? waiter = some (.drained cache) := by
  rw [areSeated waiter (.drained cache)]
  simp [seated, is, Duty.seated, has]

/-! ## Lists that are called, and lists that grow -/

section Lists

variable {before after : Loop S}

theorem AreSeated.of_eq (seat : ∀ task, after.seat? task = before.seat? task)
    (seated : ∀ seat, after.seated seat = before.seated seat) (areSeated : before.AreSeated) :
    after.AreSeated := by
  intro task place
  rw [seat, seated]
  exact areSeated task place

/-- All who are on a list are let go. -/
theorem AreSeated.call (place : Seat)
    (seat : ∀ task, after.seat? task = if task ∈ before.seated place then none else
      before.seat? task)
    (empty : after.seated place = [])
    (others : ∀ other, other ≠ place → after.seated other = before.seated other)
    (areSeated : before.AreSeated) : after.AreSeated := by
  intro task other
  rw [seat]
  by_cases here : other = place
  · subst here
    rw [empty]
    split
    · simp
    · next isOff => simpa [areSeated task other] using isOff
  · rw [others other here, ← areSeated task other]
    split
    · next isOn =>
      have sits := (areSeated task place).mpr isOn
      simp [sits, Ne.symm here]
    · rfl

/-- Somebody comes to a list. -/
theorem AreSeated.sit {self : TaskId} (place : Seat) (isUp : before.seat? self = none)
    (sits : after.seat? self = some place)
    (seat : ∀ task, task ≠ self → after.seat? task = before.seat? task)
    (grows : ∀ task, task ∈ after.seated place ↔ task ∈ before.seated place ∨ task = self)
    (others : ∀ other, other ≠ place → after.seated other = before.seated other)
    (areSeated : before.AreSeated) : after.AreSeated := by
  have isOff : ∀ other, self ∉ before.seated other := fun other isOn => by
    have sat := (areSeated self other).mpr isOn
    rw [isUp] at sat
    cases sat
  intro task other
  by_cases isSelf : task = self
  · subst isSelf
    rw [sits]
    by_cases here : other = place
    · subst here
      simp [grows]
    · rw [others other here]
      simp [isOff other, Ne.symm here]
  · rw [seat task isSelf, areSeated task other]
    by_cases here : other = place
    · subst here
      simp [grows, isSelf]
    · rw [others other here]

end Lists

/-! ## Where tasks wait -/

section Parts

variable {loop : Loop S}

theorem seat?_of_tasks {before after : Loop S} (tasks : after.tasks = before.tasks)
    (task : TaskId) :
    after.seat? task = before.seat? task := by
  rw [seat?, tasks, seat?]

theorem seat?_of_free {task : TaskId} (isFree : loop.IsFree task) : loop.seat? task = none := by
  unfold seat?
  cases found : loop.tasks[task]? with
  | none => rfl
  | some known =>
    refine Task.seat?_of_free fun on waits => isFree on ?_
    rw [status?, found, Option.map_some, waits]

/-- A change of one task. -/
theorem modifyTask_seat? (task : TaskId) (change : Task S → Task S) (other : TaskId) :
    (loop.modifyTask task change).seat? other =
      if other = task then (loop.tasks[task]?).bind fun known => (change known).seat?
      else loop.seat? other := by
  unfold seat? modifyTask
  rw [List.getElem?_modify]
  by_cases here : task = other
  · subst here
    cases loop.tasks[task]? <;> simp
  · simp [here, Ne.symm here]

/-- A task that is woken waits no longer. -/
theorem wake_seat? (task : TaskId) (why : Wake S.Reply) (loop : Loop S) (other : TaskId) :
    (loop.wake task why).seat? other = if other = task then none else loop.seat? other := by
  unfold wake
  split
  · next on waits =>
    show (loop.setStatus task (.woken on why)).seat? other = _
    rw [setStatus, modifyTask_seat?]
    split
    · cases loop.tasks[task]? with
      | none => rfl
      | some known =>
        show Task.seat? { known with status := .woken on why } = none
        exact Task.seat?_of_not_waiting fun on => by simp
    · rfl
  · next isUp =>
    split
    · next here =>
      subst here
      refine seat?_of_free fun on waits => ?_
      exact absurd waits (isUp on)
    · rfl

/-- Only the duties of caches and the hooks of tasks count. -/
theorem seated_of_eq {before after : Loop S}
    (duty : ∀ cache, after.duty? cache = before.duty? cache)
    (hooks : ∀ task :
      TaskId, (after.tasks[task]?).map (·.hooks) = (before.tasks[task]?).map (·.hooks))
    (seat : Seat) :
    after.seated seat = before.seated seat := by
  cases seat with
  | item cache => rw [seated, seated, duty]
  | drained cache => rw [seated, seated, duty]
  | task task =>
    have hooks := hooks task
    unfold seated
    cases found : after.tasks[task]? <;> cases found' : before.tasks[task]? <;> simp_all

theorem modifyTask_hooks (task : TaskId) {change : Task S → Task S}
    (same : ∀ known, loop.tasks[task]? = some known → (change known).hooks = known.hooks)
    (other : TaskId) :
    ((loop.modifyTask task change).tasks[other]?).map (·.hooks) =
      (loop.tasks[other]?).map (·.hooks) := by
  unfold modifyTask
  rw [List.getElem?_modify]
  by_cases here : task = other
  · subst here
    cases found : loop.tasks[task]? with
    | none => rfl
    | some known => simp [same known found]
  · simp [here]

theorem setStatus_seated (task : TaskId) (status : Status S.Reply) (seat : Seat) :
    (loop.setStatus task status).seated seat = loop.seated seat :=
  seated_of_eq (by intro; rfl) (by exact modifyTask_hooks task fun _ _ => rfl) seat

theorem setFrames_seated (task : TaskId) (frames : List (Frame S.Point)) (seat : Seat) :
    (loop.setFrames task frames).seated seat = loop.seated seat :=
  seated_of_eq (by intro; rfl) (by exact modifyTask_hooks task fun _ _ => rfl) seat

theorem wake_seated (task : TaskId) (why : Wake S.Reply) (loop : Loop S) (seat : Seat) :
    (loop.wake task why).seated seat = loop.seated seat := by
  unfold wake
  split
  · next on _ =>
    show (loop.setStatus task (.woken on why)).seated seat = _
    exact setStatus_seated task _ seat
  · rfl

/-- Several tasks are woken. -/
theorem wakes_seat? (why : Wake S.Reply) (tasks : List TaskId) (loop : Loop S) (other : TaskId) :
    (tasks.foldl (fun loop task => loop.wake task why) loop).seat? other =
      if other ∈ tasks then none else loop.seat? other := by
  induction tasks generalizing loop with
  | nil => rfl
  | cons task rest step =>
    rw [List.foldl_cons, step, wake_seat?]
    by_cases here : other = task <;> simp [here]

theorem wakes_seated (why : Wake S.Reply) (tasks : List TaskId) (loop : Loop S) (seat : Seat) :
    (tasks.foldl (fun loop task => loop.wake task why) loop).seated seat = loop.seated seat :=
  foldl_keeps (·.seated seat) _ (fun loop task => wake_seated task why loop seat) tasks loop

/-- The duties of caches after one of them has changed. -/
theorem setBacklog_duty? {cache : CacheId} {known : Cache}
    (found : loop.caches[cache]? = some known) (backlog : Backlog) (other : CacheId) :
    (loop.setBacklog cache backlog).duty? other =
      if other = cache then some ⟨known.phase, some backlog, known.worker⟩ else
        loop.duty? other := by
  unfold setBacklog
  by_cases here : cache = other
  · subst here
    rw [duty?, modifyCache_self found]
    simp [Cache.duty]
  · rw [duty?, modifyCache_of_ne loop here, if_neg (Ne.symm here), duty?]

/-- Who gets another backlog has the lists of that one. -/
theorem setBacklog_seated {cache : CacheId} {known : Cache}
    (found : loop.caches[cache]? = some known) (backlog : Backlog) (seat : Seat) :
    (loop.setBacklog cache backlog).seated seat =
      if seat = .item cache then backlog.getter.toList
      else if seat = .drained cache then backlog.joiners else loop.seated seat := by
  have duty := setBacklog_duty? found backlog
  cases seat with
  | item other =>
    rw [seated, duty]
    by_cases here : other = cache <;> simp [here, Duty.seated, seated]
  | drained other =>
    rw [seated, duty]
    by_cases here : other = cache <;> simp [here, Duty.seated, seated]
  | task task => simp [seated, setBacklog, modifyCache]

/-- The lists of a queue. -/
theorem seated_of_found {cache : CacheId} {known : Cache} {backlog : Backlog}
    (found : loop.caches[cache]? = some known) (has : known.backlog = some backlog) :
    loop.seated (.item cache) = backlog.getter.toList ∧
      loop.seated (.drained cache) = backlog.joiners := by
  simp [seated, duty?, found, Duty.seated, Cache.duty, has]

end Parts

/-! ## What is kept -/

section Kept

variable {before after loop : Loop S}

theorem wake_areSeated {task : TaskId} {why : Wake S.Reply} (isFree : loop.seat? task = none)
    (areSeated : loop.AreSeated) : (loop.wake task why).AreSeated := by
  refine .of_eq (fun other => ?_) (wake_seated task why loop) areSeated
  rw [wake_seat?]
  split
  · next here => rw [here, isFree]
  · rfl

theorem post_areSeated (cache : CacheId) (item : Item) (areSeated : loop.AreSeated) :
    (loop.post cache item).AreSeated := by
  unfold post
  split
  · exact areSeated
  · next backlog isThere =>
    obtain ⟨known, found, has⟩ := Option.bind_eq_some_iff.mp isThere
    have seated := setBacklog_seated found (backlog.put item)
    obtain ⟨getter, joiners⟩ := seated_of_found found has
    suffices called : (backlog.getter.toList.foldl (fun loop task => loop.wake task .goOn)
        (loop.setBacklog cache (backlog.put item))).AreSeated by
      dsimp only
      split
      · next worker isWaiting =>
        rw [isWaiting] at called
        exact called
      · next isBusy =>
        rw [isBusy] at called
        exact called
    refine .call (.item cache) (fun task => ?_) ?_ (fun other different => ?_) areSeated
    · rw [wakes_seat?, getter]
      rfl
    · rw [wakes_seated, seated, if_pos rfl]
      rfl
    · rw [wakes_seated, seated, if_neg different]
      split
      · next here => rw [here, joiners]; rfl
      · rfl

/-- A queue whose lists stay as they are. -/
theorem setBacklog_areSeated {cache : CacheId} {known : Cache} {backlog : Backlog} (after : Backlog)
    (found : loop.caches[cache]? = some known) (has : known.backlog = some backlog)
    (getter : after.getter = backlog.getter) (joiners : after.joiners = backlog.joiners)
    (areSeated : loop.AreSeated) : (loop.setBacklog cache after).AreSeated := by
  obtain ⟨isGetter, areJoiners⟩ := seated_of_found found has
  refine .of_eq (by intro; rfl) (fun place => ?_) areSeated
  rw [setBacklog_seated found]
  split
  · next here => rw [here, isGetter, getter]
  · split
    · next here => rw [here, areJoiners, joiners]
    · rfl

theorem itemDone_areSeated (cache : CacheId) (areSeated : loop.AreSeated) :
    (loop.itemDone cache).AreSeated := by
  unfold itemDone
  split
  · exact areSeated
  · next backlog isThere =>
    obtain ⟨known, found, has⟩ := Option.bind_eq_some_iff.mp isThere
    have seated := setBacklog_seated found backlog.done.2
    obtain ⟨getter, joiners⟩ := seated_of_found found has
    show (backlog.done.1.foldl (fun loop joiner => loop.wake joiner .goOn)
      (loop.setBacklog cache backlog.done.2)).AreSeated
    unfold Backlog.done at seated ⊢
    dsimp only at seated ⊢
    split
    · next isLast =>
      rw [if_pos isLast] at seated
      refine .call (.drained cache) (fun task => ?_) ?_ (fun other different => ?_) areSeated
      · rw [wakes_seat?, joiners]
        rfl
      · rw [wakes_seated, seated, if_neg (by simp), if_pos rfl]
      · rw [wakes_seated, seated, if_neg different]
        split
        · next here => rw [here, getter]
        · rfl
    · exact setBacklog_areSeated _ found has rfl rfl areSeated

/-- A task that comes in waits for nothing. -/
theorem spawn_areSeated (role : Role) (frame : Frame S.Point) (areSeated : loop.AreSeated) :
    (loop.spawn role frame).AreSeated := by
  refine .of_eq (fun task => ?_) (fun seat => ?_) areSeated
  · rw [seat?, spawn_tasks, seat?]
    split
    · next here => simp [here, Task.seat?]
    · rfl
  · cases seat with
    | task task =>
      rw [seated, spawn_tasks, seated]
      split
      · next here => simp [here]
      · rfl
    | _ => rfl

/-- A task that keeps its seat, and the tasks that it lets go on. -/
theorem modifyTask_areSeated {task : TaskId} {change : Task S → Task S}
    (seat : ∀ known, loop.tasks[task]? = some known → (change known).seat? = known.seat?)
    (hooks : ∀ known, loop.tasks[task]? = some known →
      (change known).hooks.filterMap Hook.waiter? = known.hooks.filterMap Hook.waiter?)
    (areSeated : loop.AreSeated) : (loop.modifyTask task change).AreSeated := by
  refine .of_eq (fun other => ?_) (fun place => ?_) areSeated
  · rw [modifyTask_seat?]
    split
    · next here =>
      rw [here, seat?]
      cases found : loop.tasks[task]? with
      | none => rfl
      | some known => exact seat known found
    · rfl
  · cases place with
    | task other =>
      unfold seated modifyTask
      dsimp only
      rw [List.getElem?_modify]
      by_cases here : task = other
      · subst here
        cases found : loop.tasks[task]? with
        | none => rfl
        | some known => simp [hooks known found]
      · simp [here]
    | _ => rfl

/-- A hook that lets nobody go on. -/
theorem addHook_areSeated (task : TaskId) {hook : Hook} (isPlain : ∀ waiter, hook ≠ .resume waiter)
    (areSeated : loop.AreSeated) : (loop.addHook task hook).AreSeated := by
  have isNone : hook.waiter? = none := by
    cases hook with
    | resume waiter => exact absurd rfl (isPlain waiter)
    | _ => rfl
  unfold addHook
  split
  · unfold trigger
    split
    · exact absurd rfl (isPlain _)
    · exact .of_eq (by intro; rfl) (by intro; rfl) areSeated
  · exact modifyTask_areSeated (fun _ _ => rfl) (fun _ _ => by simp [isNone]) areSeated

theorem countDown_areSeated (task : TaskId) (areSeated : loop.AreSeated) :
    (loop.countDown task).AreSeated := by
  unfold countDown
  split
  · next left was =>
    have isFree : loop.IsFree task := fun on waits => by
      cases was.symm.trans waits
      exact id
    split
    · exact wake_areSeated (seat?_of_free isFree) areSeated
    · refine modifyTask_areSeated (fun known found => ?_) (fun _ _ => rfl) areSeated
      have noSeat := seat?_of_free isFree
      rw [seat?, found, Option.bind_some] at noSeat
      rw [noSeat]
      exact Task.seat?_of_free fun on waits => by
        cases waits
        exact id
  · exact areSeated

/-- An errand is not seated. -/
theorem ErrandsCall.seat? (errandsCall : loop.ErrandsCall) {task : TaskId} {known : Task S}
    (found : loop.tasks[task]? = some known) (isErrand : known.role = .errand) :
    loop.seat? task = none := by
  rw [Loop.seat?, found, Option.bind_some]
  have areCalls := errandsCall task known found isErrand
  unfold Task.seat?
  split
  · next frames => exact absurd (areCalls _ (frames ▸ List.mem_cons_self)) id
  · next frames => exact absurd (areCalls _ (frames ▸ List.mem_cons_self)) id
  · next frames => exact absurd (areCalls _ (frames ▸ List.mem_cons_self)) id
  · rfl

theorem cancelErrand_areSeated (task : TaskId) (errandsCall : loop.ErrandsCall)
    (areSeated : loop.AreSeated) : (loop.cancelErrand task).AreSeated := by
  unfold cancelErrand
  split
  · next isErrand =>
    obtain ⟨known, found, isErrand⟩ := (Option.any_eq_true _ _).mp isErrand
    have noSeat := errandsCall.seat? found (of_decide_eq_true isErrand)
    have noSeat' : known.seat? = none := by rwa [Loop.seat?, found, Option.bind_some] at noSeat
    have moved : ∀ status, (∀ on, status ≠ .waiting on) → (loop.setStatus task status).AreSeated :=
      fun status isUp => modifyTask_areSeated (fun other here => by
        cases found.symm.trans here
        rw [noSeat']
        exact Task.seat?_of_not_waiting isUp) (fun _ _ => rfl) areSeated
    unfold cancel
    split
    · exact moved _ fun on => by simp
    · exact wake_areSeated noSeat areSeated
    · exact moved _ fun on => by simp
    · exact areSeated
  · exact areSeated

/-- The duties of caches after one has been made. -/
theorem create_duty? (known : Cache) (loop : Loop S) (cache : CacheId) :
    ({ loop with caches := loop.caches ++ [known] } : Loop S).duty? cache =
      if cache = loop.caches.length then some known.duty else loop.duty? cache := by
  unfold duty?
  dsimp only
  rcases Nat.lt_trichotomy cache loop.caches.length with isOld | isNew | isNone
  · rw [List.getElem?_append_left isOld, if_neg (Nat.ne_of_lt isOld)]
  · rw [isNew, List.getElem?_concat_length, if_pos rfl]
    rfl
  · rw [if_neg (Nat.ne_of_gt isNone), List.getElem?_eq_none (Nat.le_of_lt isNone),
      List.getElem?_eq_none (by simpa [Nat.succ_le_iff] using isNone)]

/-- A cache that has just been made has nobody on its lists. -/
theorem create_areSeated {known : Cache} (isNew : known.duty = ⟨.latent, none, none⟩)
    (areSeated : loop.AreSeated) :
    ({ loop with caches := loop.caches ++ [known] } : Loop S).AreSeated := by
  have isNone : loop.duty? loop.caches.length = none := by
    rw [duty?, List.getElem?_eq_none (Nat.le_refl _)]
    rfl
  refine .of_eq (by intro; rfl) (fun seat => ?_) areSeated
  cases seat with
  | task task => rfl
  | _ cache =>
    rw [seated, create_duty?, seated]
    split
    · next here => simp [here, isNone, isNew, Duty.seated]
    · rfl

theorem Grain.areSeated (grain : Grain asks drops before after) (errandsCall : before.ErrandsCall)
    (areSeated : before.AreSeated) : after.AreSeated := by
  cases grain with
  | still service duty tasks ready turn =>
    exact .of_eq (fun task => seat?_of_tasks tasks task)
      (fun seat => seated_of_eq duty (fun task => by rw [tasks]) seat) areSeated
  | serve drift => exact .of_eq (by intro; rfl) (by intro; rfl) areSeated
  | create known isNew => exact create_areSeated isNew areSeated
  | post found runs isPlain => exact post_areSeated _ _ areSeated
  | spawn isOther enters => exact spawn_areSeated _ _ areSeated
  | @ask owner known query mayAsk found =>
    let frame : Frame S.Point := requestFrame known (queryRequest owner known query)
    have same : ∀ seat, (before.posed owner query known).seated seat =
        (before.spawn (.request owner query) frame).seated seat :=
      seated_of_eq (posed_duty? owner query known before) fun _ => rfl
    exact .of_eq (by intro; rfl) same (spawn_areSeated (.request owner query) frame areSeated)
  | wake isFree => exact wake_areSeated (seat?_of_free isFree) areSeated
  | count task => exact countDown_areSeated task areSeated
  | cancel task => exact cancelErrand_areSeated task errandsCall areSeated
  | hook task isPlain => exact addHook_areSeated task isPlain areSeated

theorem Grains.areSeated (grains : Grains asks drops before after)
    (errandsCall : before.ErrandsCall) (areSeated : before.AreSeated) : after.AreSeated := by
  induction grains with
  | refl => exact areSeated
  | tail earlier grain step =>
    exact grain.areSeated (Grains.stays earlier |>.errandsCall errandsCall) step

end Kept

/-! ## Turns -/

section Turns

variable {before after loop : Loop S} {task : TaskId}

/-- A task that has its turn waits for nothing. -/
theorem seat?_of_running (runs : loop.status? task = some .running) : loop.seat? task = none := by
  refine seat?_of_free fun on waits => ?_
  cases runs.symm.trans waits

/-- A task that has its turn gets a status with which it waits at no seat. -/
theorem setStatus_areSeated {status : Status S.Reply} (runs : loop.status? task = some .running)
    (isFree : ∀ on, status = .waiting on → ¬ on.isListed) (areSeated : loop.AreSeated) :
    (loop.setStatus task status).AreSeated := by
  refine modifyTask_areSeated (fun known found => ?_) (fun _ _ => rfl) areSeated
  have was := status_of_running runs found
  rw [Task.seat?_of_free isFree, Task.seat?_of_not_waiting (by simp [was])]

/-- A task that has its turn goes on from other frames. -/
theorem setFrames_areSeated (frames : List (Frame S.Point))
    (runs : loop.status? task = some .running) (areSeated : loop.AreSeated) :
    (loop.setFrames task frames).AreSeated := by
  refine modifyTask_areSeated (fun known found => ?_) (fun _ _ => rfl) areSeated
  have status := status_of_running runs found
  rw [Task.seat?_of_not_waiting (by simp [status]), Task.seat?_of_not_waiting (by simp [status])]

/-- What hooks do to those who wait. -/
theorem triggers_seat? (self : TaskId) (outcome : Outcome Answer) (hooks : List Hook)
    (loop : Loop S) (other : TaskId) :
    (hooks.foldl (fun loop hook => loop.trigger self outcome hook) loop).seat? other =
      if other ∈ hooks.filterMap Hook.waiter? then none else loop.seat? other := by
  induction hooks generalizing loop with
  | nil => rfl
  | cons hook rest step =>
    rw [List.foldl_cons, step]
    cases hook with
    | resume waiter =>
      rw [trigger, wake_seat?]
      by_cases here : other = waiter <;> simp [Hook.waiter?, here]
    | _ => rfl

theorem triggers_seated (self : TaskId) (outcome : Outcome Answer) (hooks : List Hook)
    (loop : Loop S) (seat : Seat) :
    (hooks.foldl (fun loop hook => loop.trigger self outcome hook) loop).seated seat =
      loop.seated seat := by
  refine foldl_keeps (·.seated seat) _ (fun loop hook => ?_) hooks loop
  cases hook with
  | resume waiter => exact wake_seated waiter _ loop seat
  | _ => rfl

/-- Those who wait for the end of a task are let go when it ends. -/
theorem finish_areSeated (outcome : Outcome Answer) (isUp : loop.seat? task = none)
    (areSeated : loop.AreSeated) : (loop.finish task outcome).AreSeated := by
  have hooks : loop.seated (.task task) =
      ((loop.tasks[task]?).elim [] (·.hooks)).filterMap Hook.waiter? := by
    rw [seated]
    cases loop.tasks[task]? <;> rfl
  have others : ∀ place, place ≠ .task task → (loop.modifyTask task fun task =>
      { task with status := .ended outcome, hooks := [], frames := [] }).seated place =
        loop.seated place := fun place different => by
    cases place with
    | task other =>
      have here : task ≠ other := fun same => different (by rw [same])
      simp [seated, modifyTask, here]
    | _ => rfl
  unfold finish
  refine .call (.task task) (fun other => ?_) ?_ (fun place different => ?_) areSeated
  · rw [triggers_seat?, hooks, modifyTask_seat?]
    split
    · rfl
    · split
      · next here =>
        rw [here, isUp]
        cases loop.tasks[task]? with
        | none => rfl
        | some known =>
          show Task.seat? ({ known with status := .ended outcome, hooks := [], frames := [] } :
            Task S) = none
          exact Task.seat?_of_not_waiting fun on => by simp
      · rfl
  · rw [triggers_seated]
    simp only [seated, modifyTask, List.getElem?_modify_eq]
    cases loop.tasks[task]? <;> rfl
  · rw [triggers_seated, others place different]

theorem noteEnd_areSeated (frame : Frame S.Point) (way : Move S.Point)
    (areSeated : loop.AreSeated) :
    (loop.noteEnd task frame way).AreSeated := by
  unfold noteEnd
  split
  · exact .of_eq (by intro; rfl) (by intro; rfl) areSeated
  · exact areSeated

theorem suspend_areSeated {on : Await} (isFree : ¬ on.isListed)
    (runs : loop.status? task = some .running) (areSeated : loop.AreSeated) :
    (loop.suspend task on).AreSeated := by
  have waits : (loop.setStatus task (.waiting on)).AreSeated :=
    setStatus_areSeated runs (fun other same => by
    cases same
    exact isFree) areSeated
  unfold suspend
  split
  · split
    · exact .of_eq (by intro; rfl) (by intro; rfl)
        (setStatus_areSeated runs (fun other same => by cases same) areSeated)
    · exact waits
  · exact waits

/-- A task has its turn, and then waits at no seat. -/
theorem afterTurn_areSeated (frame : Frame S.Point) (rest : List (Frame S.Point)) {turn : Turn S}
    (runs : turn.1.status? task = some .running)
    (isFree : ∀ next on, turn.2 = .await next on → ¬ on.isListed) (areSeated : turn.1.AreSeated) :
    (afterTurn task frame rest turn).AreSeated := by
  obtain ⟨loop, way⟩ := turn
  have runs' : (loop.noteEnd task frame way).status? task = some .running := by
    rw [status?, (noteEnd_tasks task frame way loop).1]
    exact runs
  have set := fun frames => setFrames_areSeated frames runs' (noteEnd_areSeated frame way areSeated)
  unfold afterTurn Loop.move
  cases way with
  | goOn next => exact .of_eq (by intro; rfl) (by intro; rfl) (set (next :: rest))
  | call caller callee =>
    exact .of_eq (by intro; rfl) (by intro; rfl) (set (callee :: caller :: rest))
  | await next on =>
    have still :=
      (setFrames_status? task (next :: rest) (loop.noteEnd task frame (.await next on)) task).trans
        runs'
    exact suspend_areSeated (isFree next on rfl) still (set (next :: rest))
  | finish outcome =>
    cases rest with
    | nil =>
      exact finish_areSeated outcome (seat?_of_running runs') (noteEnd_areSeated frame _ areSeated)
    | cons caller rest => exact .of_eq (by intro; rfl) (by intro; rfl) (set (caller :: rest))

theorem afterTurn_await (frame next : Frame S.Point) (rest : List (Frame S.Point)) {on : Await}
    (isListed : on.isListed) (loop : Loop S) :
    afterTurn task frame rest (loop, .await next on) =
      (loop.setFrames task (next :: rest)).setStatus task (.waiting on) := by
  cases on with
  | due time number => exact isListed.elim
  | _ => rfl

/-- A task has its turn, puts itself on a list, and waits for that. -/
theorem sits_areSeated {middle : Loop S} (place : Seat) {frame next : Frame S.Point}
    {rest : List (Frame S.Point)} {on : Await} (isListed : on.isListed)
    (runs : middle.status? task = some .running)
    (sits : ∀ known : Task S,
      ({ known with frames := next :: rest, status := .waiting on } : Task S).seat? = some place)
    (seat : ∀ other, middle.seat? other = loop.seat? other)
    (grows : ∀ other, other ∈ middle.seated place ↔ other ∈ loop.seated place ∨ other = task)
    (others : ∀ other, other ≠ place → middle.seated other = loop.seated other)
    (areSeated : loop.AreSeated) :
    (afterTurn task frame rest (middle, .await next on)).AreSeated := by
  have seated :
      ∀ place, ((middle.setFrames task (next :: rest)).setStatus task (.waiting on)).seated place =
      middle.seated place := fun place => by rw [setStatus_seated, setFrames_seated]
  obtain ⟨known, found, -⟩ := Option.map_eq_some_iff.mp runs
  rw [afterTurn_await frame next rest isListed middle]
  refine .sit place ((seat task).symm.trans (seat?_of_running runs)) ?_ (fun other isOther => ?_)
    (fun other => by rw [seated]; exact grows other) (fun other different => by
      rw [seated]; exact others other different) areSeated
  · rw [setStatus, modifyTask_seat?, if_pos rfl]
    simp only [setFrames, modifyTask, List.getElem?_modify_eq, found]
    exact sits known
  · rw [setStatus, modifyTask_seat?, if_neg isOther, setFrames, modifyTask_seat?,
      if_neg isOther, seat]

end Turns

/-! ## Everything that happens -/

section Steps

variable {before after loop : Loop S}

/-- A change of a cache that leaves alone what it has to do. -/
theorem modifyCache_areSeated (cache : CacheId) {change : Cache → Cache}
    (same : ∀ known, (change known).backlog = known.backlog) (areSeated : loop.AreSeated) :
    (loop.modifyCache cache change).AreSeated := by
  have backlog := loop.modifyCache_map (·.backlog) cache
  refine .of_eq (by intro; rfl) (fun place => ?_) areSeated
  have lists :
      ∀ other place, ((loop.modifyCache cache change).duty? other).elim [] (·.seated place) =
      (loop.duty? other).elim [] (·.seated place) := fun other place => by
    have kept := backlog other change same
    unfold duty?
    cases found : loop.caches[other]? <;> cases found' :
      (loop.modifyCache cache change).caches[other]? <;>
      simp_all [Duty.seated, Cache.duty]
  cases place with
  | task task => rfl
  | _ other => exact lists other _

theorem retire_areSeated (cache : CacheId) (handle : Option Handle) (areSeated : loop.AreSeated) :
    (loop.retire cache handle).AreSeated := by
  have stopped : (loop.stopCache cache).AreSeated := by
    unfold stopCache
    split
    · exact post_areSeated cache .stop (modifyCache_areSeated cache (fun _ => rfl) areSeated)
    · exact areSeated
  refine modifyCache_areSeated cache (fun _ => rfl) ?_
  exact .of_eq (by intro; rfl) (by intro; rfl) stopped

/-- A cache that begins to run has nobody on its lists. -/
theorem begin_areSeated {cache : CacheId} {known : Cache} (found : loop.caches[cache]? = some known)
    (isBare : known.backlog = none) (areSeated : loop.AreSeated) :
    (loop.begin cache).AreSeated := by
  refine spawn_areSeated _ _ (.of_eq (by intro; rfl) (fun place => ?_) areSeated)
  cases place with
  | task task => rfl
  | _ other =>
    unfold seated duty?
    by_cases here : cache = other
    · subst here
      simp [modifyCache, found, Cache.duty, Duty.seated, isBare]
    · simp [modifyCache, here]

section Sitting

variable {self worker : TaskId} {cache : CacheId} {known : Cache} {frame : Frame S.Point}
  (rest : List (Frame S.Point))

/-- Who closes a cache waits for its worker. -/
theorem shuts_areSeated {task : Task S}
    (isOpen : (loop.retire cache known.handle).outcome? worker = none)
    (isThere : loop.tasks[worker]? = some task)
    (runs : ((loop.retire cache known.handle).addHook worker (.resume self)).status? self =
      some .running)
    (areSeated : loop.AreSeated) :
    (afterTurn self frame rest ((loop.retire cache known.handle).addHook worker (.resume self),
      .await (.close cache true) (.task worker))).AreSeated := by
  have hooked : (loop.retire cache known.handle).addHook worker (.resume self) =
      (loop.retire cache known.handle).modifyTask worker fun task =>
        { task with hooks := task.hooks ++ [.resume self] } := by
    rw [addHook, isOpen]
  obtain ⟨task', isTask', -⟩ := (retire_stays cache known.handle loop).old worker task isThere
  rw [hooked] at runs ⊢
  refine sits_areSeated (.task worker) trivial runs (fun _ => rfl) (fun other => ?_)
    (fun other => ?_)
    (fun place different => ?_) (retire_areSeated cache known.handle areSeated)
  · rw [modifyTask_seat?]
    split
    · next here => rw [here, seat?, isTask']; rfl
    · rfl
  · simp [seated, modifyTask, isTask', Hook.waiter?]
  · cases place with
    | task other =>
      have here : worker ≠ other := fun same => different (by rw [same])
      simp [seated, modifyTask, here]
    | _ => rfl

/-- Who joins a queue waits until it is drained. -/
theorem joins_areSeated {backlog : Backlog} (found : loop.caches[cache]? = some known)
    (has : known.backlog = some backlog)
    (runs : (loop.setBacklog cache (backlog.join self)).status? self = some .running)
    (areSeated : loop.AreSeated) :
    (afterTurn self frame rest (loop.setBacklog cache (backlog.join self),
      .await (.wait cache .checking) .drained)).AreSeated := by
  obtain ⟨getter, joiners⟩ := seated_of_found found has
  have seated := setBacklog_seated found (backlog.join self)
  refine sits_areSeated (.drained cache) trivial runs (fun _ => rfl) (by intro; rfl)
    (fun other => ?_)
    (fun place different => ?_) areSeated
  · rw [seated, joiners]
    simp [Backlog.join]
  · rw [seated, if_neg different]
    split
    · next here => rw [here, getter]; rfl
    · rfl

/-- A worker that finds nothing in its queue waits for an item. -/
theorem idles_areSeated {backlog : Backlog} (found : loop.caches[cache]? = some known)
    (has : known.backlog = some backlog) (isAlone : backlog.getter = none)
    (runs : (loop.modifyCache cache fun cache =>
      { cache with backlog := cache.backlog.map (Backlog.await self) }).status? self =
        some .running)
    (areSeated : loop.AreSeated) :
    (afterTurn self frame rest (loop.modifyCache cache fun cache =>
        { cache with backlog := cache.backlog.map (Backlog.await self) },
      .await (.worker cache .taking) .item)).AreSeated := by
  obtain ⟨getter, joiners⟩ := seated_of_found found has
  have queued : loop.modifyCache cache (fun cache =>
      { cache with backlog := cache.backlog.map (Backlog.await self) }) =
        loop.setBacklog cache (backlog.await self) := modifyCache_setBacklog found _ (by simp [has])
  rw [queued] at runs ⊢
  have seated := setBacklog_seated found (backlog.await self)
  refine sits_areSeated (.item cache) trivial runs (fun _ => rfl) (by intro; rfl) (fun other => ?_)
    (fun place different => ?_) areSeated
  · rw [seated, getter]
    simp [Backlog.await, isAlone]
  · rw [seated, if_neg different]
    split
    · next here => rw [here, joiners]; rfl
    · rfl

end Sitting

/-- Those who wait are on the lists after a turn. -/
theorem Plays.areSeated {self : TaskId} {frame : Frame S.Point} {wake : Wake S.Reply}
    {turn : Turn S} (rest : List (Frame S.Point)) (plays : Plays self loop frame wake turn)
    (runs : turn.1.status? self = some .running) (errandsCall : loop.ErrandsCall)
    (isBare : ∀ (cache : CacheId) (known : Cache), loop.caches[cache]? = some known →
      known.phase = .latent → known.backlog = none)
    (alone : ∀ cache stage, frame = .worker cache stage →
      ∃ known backlog, loop.caches[cache]? = some known ∧ known.backlog = some backlog ∧
        backlog.getter = none)
    (isThere : ∀ (cache : CacheId) (known : Cache)
      (worker : TaskId), loop.caches[cache]? = some known →
      known.worker = some worker → ∃ task, loop.tasks[worker]? = some task)
    (areSeated : loop.AreSeated) : (afterTurn self frame rest turn).AreSeated := by
  have free : ∀ {middle : Loop S} {way : Move S.Point}, (∀ next on, way ≠ .await next on) →
      ∀ next on, (middle, way).2 = .await next on → ¬ on.isListed :=
    fun isFree next on same => absurd same (isFree next on)
  cases plays with
  | plain isOther grains isFree =>
    exact afterTurn_areSeated _ rest runs isFree (grains.areSeated errandsCall areSeated)
  | begins found isLatent =>
    refine afterTurn_areSeated _ rest runs (free fun _ _ => by simp) ?_
    exact .of_eq (by intro; rfl) (by intro; rfl)
      (begin_areSeated found (isBare _ _ found isLatent) areSeated)
  | @listens cache known buildInitial answer turn found grains isFree =>
    refine afterTurn_areSeated _ rest runs (free isFree) (grains.areSeated ?_ ?_)
    · exact errandsCall
    · exact .of_eq (by intro; rfl) (by intro; rfl) areSeated
  | retires outcome found =>
    exact afterTurn_areSeated _ rest runs (free fun _ _ => by simp) (retire_areSeated _ _ areSeated)
  | @shuts cache known worker wake found knows isOpen =>
    obtain ⟨task, isTask⟩ := isThere cache known worker found knows
    exact shuts_areSeated rest isOpen isTask runs areSeated
  | joins found has isBusy => exact joins_areSeated rest found has runs areSeated
  | quits isGone => exact afterTurn_areSeated _ rest runs (free fun _ _ => by simp) areSeated
  | @idles cache known wake found isPlain isEmpty =>
    obtain ⟨known', backlog, found', has, isAlone⟩ := alone cache .taking rfl
    cases found.symm.trans found'
    exact idles_areSeated rest found has isAlone runs areSeated
  | reads found isPlain has taken =>
    have same := Backlog.eq_of_take? taken
    refine afterTurn_areSeated _ rest runs (free fun _ _ => by simp) ?_
    exact .of_eq (by intro; rfl) (by intro; rfl)
      (setBacklog_areSeated _ found has (by rw [same]) (by rw [same]) areSeated)
  | works found isPlain has taken grains either =>
    have same := Backlog.eq_of_take? taken
    refine afterTurn_areSeated _ rest runs (free fun _ _ => ?_) ?_
    · rcases either with ⟨-, way⟩ | ⟨-, way⟩ <;> simp [way]
    · refine itemDone_areSeated _ (grains.areSeated ?_ ?_)
      · exact errandsCall
      · exact setBacklog_areSeated _ found has (by rw [same]) (by rw [same]) areSeated
  | returns found grains either =>
    refine afterTurn_areSeated _ rest runs (free fun _ _ => ?_) ?_
    · rcases either with way | way <;> simp [way]
    · exact itemDone_areSeated _ (grains.areSeated errandsCall areSeated)

/-- Those who wait are on the lists after whatever happens. -/
theorem Passes.areSeated (passes : Passes before after) (turnRuns : before.TurnRuns)
    (errandsCall : before.ErrandsCall) (isQueued : before.IsQueued)
    (isBare : ∀ (cache : CacheId) (known : Cache), before.caches[cache]? = some known →
      known.phase = .latent → known.backlog = none)
    (alone : ∀ self wake cache stage rest, before.IsAt self wake (.worker cache stage) rest →
      ∃ known backlog, before.caches[cache]? = some known ∧ known.backlog = some backlog ∧
        backlog.getter = none)
    (isThere : ∀ (cache : CacheId) (known : Cache)
      (worker : TaskId), before.caches[cache]? = some known →
      known.worker = some worker → ∃ task, before.tasks[worker]? = some task)
    (areSeated : before.AreSeated) : after.AreSeated := by
  have popped : ∀ ready, ({ before with ready } : Loop S).AreSeated := fun ready =>
    .of_eq (by intro; rfl) (by intro; rfl) areSeated
  cases passes with
  | grains grains => exact grains.areSeated errandsCall areSeated
  | @turn task wake frame rest turn isAt same plays =>
    refine plays.areSeated rest ?_ errandsCall isBare (fun cache stage worker => ?_) isThere
      (popped before.ready)
    · rw [same]
      exact frameTurn_running isAt turnRuns
    · subst worker
      exact alone task wake cache stage rest isAt
  | pause turn isOver => exact .of_eq (by intro; rfl) (by intro; rfl) areSeated
  | @run task status wake ready isBetween isFirst was either =>
    have isUp : ∀ on, status ≠ .waiting on := fun on same => by
      subst same
      rcases either with ⟨same, -⟩ | ⟨_, same⟩ <;> cases same
    have runs : (({ before with ready } : Loop S).setStatus task .running).AreSeated := by
      refine modifyTask_areSeated (fun known found => ?_) (fun _ _ => rfl) (popped ready)
      have was' : known.status = status := by
        rw [status?, show before.tasks[task]? = some known from found] at was
        exact Option.some.inj was
      rw [Task.seat?_of_not_waiting (fun on => by simp), Task.seat?_of_not_waiting (was' ▸ isUp)]
    exact .of_eq (by intro; rfl) (by intro; rfl) runs
  | @doom task ready isBetween isFirst was =>
    have isFree : ({ before with ready } : Loop S).IsFree task := fun on waits => by
      cases was.symm.trans waits
    exact finish_areSeated .cancelled (seat?_of_free isFree) (popped ready)
  | stale isBetween isFirst isOver => exact popped _
  | answer isBetween isFirst ended =>
    unfold answered
    dsimp only
    split
    · exact post_areSeated _ _ (modifyCache_areSeated _ (fun _ => rfl) (popped _))
    · exact modifyCache_areSeated _ (fun _ => rfl) (popped _)
  | hook isBetween isFirst isPlain does =>
    rcases does with grains | ⟨waiter, outcome, same, -⟩
    · exact grains.areSeated errandsCall (popped _)
    · subst same
      exact absurd (isFirst ▸ List.mem_cons_self) (isQueued.hooks waiter _)

end Steps

end Loop

end WatchedNode
