/-
**What happens to the queues of caches, grain by grain.**

The queue of a cache and the phases of its life change in few places. Everything else that happens
is a number of `Grain`s: an item that asks for a look or a read is posted to a cache that runs, a
cache is made, a task that is no worker comes in, is woken from a wait that is on no list, or gets a
hook. Whether a cache may ask something among them, and which of those that it waits for may be
dealt with, is said with them.

The frames that do more do one thing more each (`Plays`): a start brings in the worker, closing
posts the end mark, waiting joins the queue, and the worker takes an item, waits for one, or is done
with one.
-/
import WatchedNode.Proofs.Loop.Stack

namespace WatchedNode

open Relation

variable {S : Service}

/-- Who waits like that is on a list, and goes on when what the list is for has come about. -/
def Await.isListed : Await → Prop
  | .item | .drained | .task _ => True
  | .ticket .. | .count _ | .due .. => False

/-- Where a cache is in its life, and its work. -/
structure Duty where
  phase : Phase
  backlog : Option Backlog
  worker : Option TaskId

/-- The duty of a cache. -/
def Cache.duty (cache : Cache) : Duty := ⟨cache.phase, cache.backlog, cache.worker⟩

theorem Cache.Registers.duty {before after : Cache} (registers : before.Registers after) :
    after.duty = before.duty ∧ after.pending = before.pending := by
  obtain ⟨⟨registrations, nextId, rfl⟩, -, -⟩ := registers
  exact ⟨rfl, rfl⟩

/-- The service goes on, and no cache comes to those who listen or goes from them. -/
inductive Service.Drift (S : Service) (state : S.State) : S.State → Prop
  | resume (moment : Moment) (point : S.Point) (wake : Wake S.Reply) :
      Drift S state (S.resume moment point wake state).state
  | occur {moment : Moment} {event : S.Event}
      {occurrence : Occurrence S.State S.Call S.Point S.Reply}
      (happened : S.occur moment event state = .ok occurrence) : Drift S state occurrence.state
  | connect {arguments : Table Value} {after : S.State}
      {effects : List (Effect S.Call S.Point S.Reply)} {handle : Handle}
      (connected : S.connect arguments state = .ok (after, effects, handle)) :
      Drift S state after
  | adopt (handle : Handle) : Drift S state (S.adopt handle state)
  | listen (handle : Option Handle) (name : String) :
      Drift S state (S.listen handle (.named name) state)
  | unlisten (handle : Option Handle) (name : String) :
      Drift S state (S.unlisten handle (.named name) state)

/-- The hook is one that a task of that role can have. -/
def Hook.fits : Hook → Role → Prop
  | .answered cache query, role => role = .request cache query
  | .deedDone cache, role => role = .deed cache
  | .resume _, _ | .count _, _ => True

/-- What a cache goes on to ask when its worker deals with an item. -/
def Item.query? : Item → Option Query
  | .check => some .look
  | .looked (.returned answer) => if answer.stat?.isSome then some .fetch else none
  | _ => none

namespace Loop

/-- The duty of a cache that is there. -/
def duty? (cache : CacheId) (loop : Loop S) : Option Duty := (loop.caches[cache]?).map Cache.duty

/-- If the task waits, its wait is on no list. -/
def IsFree (task : TaskId) (loop : Loop S) : Prop :=
  ∀ on, loop.status? task = some (.waiting on) → ¬ on.isListed

/-- Those that a cache waits for: its requests, and what its monitors left to be done. -/
def pending (cache : CacheId) (loop : Loop S) : List TaskId :=
  (loop.caches[cache]?).elim [] (·.pending)

/-- What becomes of those that a cache waits for, where no request comes in: a deed comes last, or
one of those goes that may be dealt with. -/
inductive Pends (drops : TaskId → Prop) (loop : Loop S) (pending : List TaskId) : List TaskId → Prop
  | same : Pends drops loop pending pending
  | deed {task : TaskId} {owner : CacheId}
      (isDeed : (loop.tasks[task]?).map (·.role) = some (.deed owner)) :
      Pends drops loop pending (pending ++ [task])
  | gone {task : TaskId} (isDone : drops task) :
      Pends drops loop pending (pending.filter (· ≠ task))

/-- One thing that happens, as far as it matters to queues; `asks` says whether a cache may ask
something in the background, and `drops` which of the tasks may be dealt with that caches wait
for. -/
inductive Grain (asks : Prop) (drops : TaskId → Prop) (before : Loop S) : Loop S → Prop
  /-- Nothing that matters. -/
  | still {after : Loop S} (service : after.service = before.service)
      (duty : ∀ cache, after.duty? cache = before.duty? cache) (tasks : after.tasks = before.tasks)
      (ready : after.ready = before.ready) (turn : after.turn = before.turn)
      (pends : ∀ cache, Pends drops before (before.pending cache) (after.pending cache)) :
      Grain asks drops before after
  | serve {state : S.State} (drift : S.Drift before.service state) :
      Grain asks drops before (before.setService state)
  | create (known : Cache) (isNew : known.duty = ⟨.latent, none, none⟩)
      (isBare : known.pending = []) :
      Grain asks drops before { before with caches := before.caches ++ [known] }
  | post {cache : CacheId} {known : Cache} {item : Item}
      (found : before.caches[cache]? = some known) (runs : known.phase = .started)
      (isPlain : item = .check ∨ item = .resync) :
      Grain asks drops before (before.post cache item)
  | spawn {role : Role} {frame : Frame S.Point} (isOther : ∀ cache, role ≠ .worker cache)
      (enters : Enters before.caches role frame)
      (isPlain : ∀ cache query, role ≠ .request cache query) :
      Grain asks drops before (before.spawn role frame)
  /-- A cache asks in the background. -/
  | ask {cache : CacheId} {known : Cache} (query : Query) (mayAsk : asks)
      (found : before.caches[cache]? = some known) :
      Grain asks drops before (before.posed cache query known)
  | wake {task : TaskId} {why : Wake S.Reply} (isFree : before.IsFree task) :
      Grain asks drops before (before.wake task why)
  | count (task : TaskId) : Grain asks drops before (before.countDown task)
  | cancel (task : TaskId) : Grain asks drops before (before.cancelErrand task)
  | hook (task : TaskId) {hook : Hook} (isPlain : ∀ waiter, hook ≠ .resume waiter)
      (fits : ∀ known, before.tasks[task]? = some known → hook.fits known.role) :
      Grain asks drops before (before.addHook task hook)

/-- Several of them. -/
abbrev Grains (asks : Prop) (drops : TaskId → Prop) : Loop S → Loop S → Prop :=
  ReflTransGen (Grain asks drops)

/-- No task at all. -/
def nobody : TaskId → Prop := fun _ => False

/-- A cache has asked something, which is no part of its duty. -/
theorem posed_duty? (owner : CacheId) (query : Query) (known : Cache) (loop : Loop S)
    (cache : CacheId) :
    (loop.posed owner query known).duty? cache = loop.duty? cache :=
  modifyCache_map _ Cache.duty owner cache _ fun _ => rfl

/-! ## The smallest parts -/

section Parts

variable {asks : Prop} {drops : TaskId → Prop} (loop : Loop S)

theorem Grain.of_eq {before after : Loop S} (service : after.service = before.service)
    (caches : after.caches = before.caches) (tasks : after.tasks = before.tasks)
    (ready : after.ready = before.ready) (turn : after.turn = before.turn) :
    Grain asks drops before after :=
  .still service (fun cache => by rw [duty?, caches, duty?]) tasks ready turn fun cache => by
    rw [show after.pending cache = before.pending cache by rw [pending, caches, pending]]
    exact .same

theorem note_grain (entry : Entry S.Call) : Grain asks drops loop (loop.note entry) :=
  .of_eq rfl rfl rfl rfl rfl

/-- A change of a cache that leaves it its duty. -/
theorem change_grain (cache : CacheId) (change : Cache → Cache)
    (same : ∀ known, loop.caches[cache]? = some known → (change known).duty = known.duty)
    (pends : ∀ known, loop.caches[cache]? = some known →
      Pends drops loop known.pending (change known).pending) :
    Grain asks drops loop (loop.modifyCache cache change) := by
  refine .still rfl (fun other => ?_) rfl rfl rfl fun other => ?_
  · by_cases here : cache = other
    · subst here
      cases found : loop.caches[cache]? with
      | none => simp [duty?, modifyCache_caches, found]
      | some known => simp [duty?, modifyCache_self found, found, same known found]
    · rw [duty?, modifyCache_of_ne loop here, duty?]
  · unfold pending
    by_cases here : cache = other
    · subst here
      cases found : loop.caches[cache]? with
      | none =>
        rw [modifyCache_caches, List.getElem?_modify_eq, found]
        exact .same
      | some known =>
        rw [modifyCache_self found]
        exact pends known found
    · rw [modifyCache_of_ne loop here]
      exact .same

/-- A change of a cache that leaves it its duty, and those that it waits for. -/
theorem modifyCache_grain (cache : CacheId) (change : Cache → Cache)
    (same : ∀ known, loop.caches[cache]? = some known →
      (change known).duty = known.duty ∧ (change known).pending = known.pending) :
    Grain asks drops loop (loop.modifyCache cache change) := by
  refine change_grain loop cache change (fun known found => (same known found).1) fun known found =>
    ?_
  rw [(same known found).2]
  exact .same

/-- What a cache waits for is no part of its duty. -/
theorem pend_grain (cache : CacheId) {change : List TaskId → List TaskId}
    (pends : ∀ pending, Pends drops loop pending (change pending)) :
    Grain asks drops loop (loop.modifyCache cache fun cache =>
      { cache with pending := change cache.pending }) :=
  change_grain loop cache _ (fun _ _ => rfl) fun known _ => pends known.pending

theorem changes_grains {kind : Type} (change : Loop S → kind → Loop S)
    (each : ∀ loop item, Grains asks drops loop (change loop item)) (items : List kind) :
    Grains asks drops loop (items.foldl change loop) :=
  foldl_relates (fun _ => .refl) .trans each items loop

/-- A task that is woken waits no longer, and the others wait as they did. -/
theorem wake_isFree {task : TaskId} (why : Wake S.Reply) {other : TaskId} {loop : Loop S}
    (isFree : loop.IsFree other) : (loop.wake task why).IsFree other := by
  intro on waits
  unfold wake at waits
  split at waits
  · by_cases here : task = other
    · subst here
      simp only [status?, push, setStatus, modifyTask, List.getElem?_modify_eq] at waits
      cases found : loop.tasks[task]? <;> simp [found] at waits
    · refine isFree on ?_
      simpa [status?, push, setStatus, modifyTask, here] using waits
  · exact isFree on waits

/-- Several tasks are woken whose waits are on no list. -/
theorem wakes_grains {kind : Type} (task : kind → TaskId) (why : Wake S.Reply) (items : List kind)
    (areFree : ∀ item ∈ items, loop.IsFree (task item)) :
    Grains asks drops loop (items.foldl (fun loop item => loop.wake (task item) why) loop) := by
  induction items generalizing loop with
  | nil => exact .refl
  | cons item rest step =>
    refine .head (.wake (areFree item List.mem_cons_self)) (step _ fun other member => ?_)
    exact wake_isFree why (areFree other (List.mem_cons_of_mem _ member))

theorem refresh_grains (cache : CacheId) : Grains asks drops loop (loop.refresh cache) := by
  unfold refresh
  split
  · next isActive =>
    obtain ⟨known, found, isActive⟩ := (Option.any_eq_true _ _).mp isActive
    have runs : known.phase = .started := by
      simpa [Cache.isRunning] using (Bool.and_eq_true_iff.mp isActive).1
    exact .single (.post found runs (.inl rfl))
  · exact .refl

theorem linkChanged_grains (cache : CacheId) (link : Link) :
    Grains asks drops loop (loop.linkChanged cache link) := by
  unfold linkChanged
  split
  · exact .refl
  · next known found =>
    have told :
        Grains asks drops loop ((loop.note (.told cache link)).modifyCache cache fun cache =>
        { cache with connected := link.isUp }) :=
      .tail (.single (note_grain _ _)) (modifyCache_grain _ _ _ fun _ _ => ⟨rfl, rfl⟩)
    dsimp only
    split
    · next isBack =>
      have runs : known.phase = .started := by
        simpa [Cache.isRunning] using (Bool.and_eq_true_iff.mp isBack).2
      have found' : ((loop.note (.told cache link)).modifyCache cache fun cache =>
          { cache with connected := link.isUp }).caches[cache]? =
            some { known with connected := link.isUp } := modifyCache_self found _
      exact told.tail (.post found' runs (.inr rfl))
    · exact told

/-- A task whose ticket waits to be called is on no list. -/
theorem isFree_of_held {held : Held} (member : held ∈ loop.held)
    (isWaiting : held.isWaiting = true) :
    loop.IsFree held.task := by
  rw [Loop.held, mem_ordered] at member
  obtain ⟨task, -, isHeld⟩ := List.mem_filterMap.mp member
  obtain ⟨status, was, isHeld⟩ := Option.bind_eq_some_iff.mp isHeld
  intro on waits
  unfold held? at isHeld
  split at isHeld
  · cases isHeld
    cases was.symm.trans waits
    exact id
  · cases isHeld
    cases isWaiting
  · cases isHeld

theorem release_grains (wanted : S.Point → Bool) (reply : S.Reply) :
    Grains asks drops loop (loop.release wanted reply) := by
  refine wakes_grains loop Held.task (.reply reply) _ fun held member => ?_
  obtain ⟨isHeld, isWaiting⟩ := List.mem_filter.mp member
  exact isFree_of_held loop isHeld (Bool.and_eq_true_iff.mp isWaiting).1

theorem changeListeners_grain_fold (names : List String) (change : String → S.State → S.State)
    (drifts : ∀ name state, S.Drift state (change name state)) :
    Grains asks drops loop
      (loop.setService (names.foldl (fun state name => change name state) loop.service)) := by
  induction names generalizing loop with
  | nil => exact .single (.of_eq rfl rfl rfl rfl rfl)
  | cons name rest step => exact .head (.serve (drifts name loop.service)) (step _)

theorem changeListeners_grains (handle : Handle) (habit : Habit) :
    Grains asks drops loop (loop.changeListeners handle habit) := by
  have added : Grains asks drops loop _ := changeListeners_grain_fold loop habit.adds
    (fun name state => S.listen (some handle) (.named name) state) fun name state => .listen _ name
  exact added.trans (changeListeners_grain_fold _ habit.removes
    (fun name state => S.unlisten (some handle) (.named name) state) fun name state =>
      .unlisten _ name)

theorem tell_grains (handle : Handle) (listener : Subscriber) (link : Link) :
    Grains asks drops loop (loop.tell handle listener link) := by
  cases listener with
  | cache cache => exact linkChanged_grains loop cache link
  | named name =>
    have changed : Grains asks drops loop ((loop.note (.listener name link)).changeListeners handle
        (loop.habit name)) :=
      .head (note_grain loop _) (changeListeners_grains _ handle _)
    unfold tell
    dsimp only
    split
    · exact changed.tail (note_grain _ _)
    · exact changed

theorem fire_grains (watcher : Subscriber) (key : String) (news : Option Record) :
    Grains asks drops loop (loop.fire watcher key news) := by
  cases watcher with
  | cache cache => exact .head (note_grain loop _) (refresh_grains _ cache)
  | named name =>
    unfold fire
    dsimp only
    split
    · exact .tail (.single (note_grain loop _)) (note_grain _ _)
    · exact .single (note_grain loop _)

theorem effect_grains (effect : Effect S.Call S.Point S.Reply) :
    Grains asks drops loop (loop.effect effect) := by
  cases effect with
  | note call => exact .single (note_grain loop _)
  | tell handle listener link => exact tell_grains loop handle listener link
  | fire watcher key news => exact fire_grains loop watcher key news
  | spawn point =>
    exact .single (.spawn (fun _ => Role.noConfusion) (.errand point) fun _ _ => Role.noConfusion)
  | cancel task => exact .single (.cancel task)
  | release wanted reply => exact release_grains loop wanted reply
  | complain complaint => exact .single (note_grain loop _)

theorem perform_grains (effects : List (Effect S.Call S.Point S.Reply)) :
    Grains asks drops loop (loop.perform effects) :=
      changes_grains loop effect effect_grains effects

theorem react_grains (self : TaskId) (point : S.Point) (wake : Wake S.Reply) :
    Grains asks drops loop (loop.react self point wake) :=
      .head (.serve (.resume _ _ _)) (perform_grains _ _)

theorem happen_grains (event : S.Event) : Grains asks drops loop (loop.happen event).1 := by
  unfold happen
  split
  · exact .refl
  · next happened => exact .head (.serve (.occur happened)) (perform_grains _ _)

theorem connect_grains (settings : Value) : Grains asks drops loop (loop.connect settings).1 := by
  unfold connect
  split
  · exact .refl
  · split
    · exact .refl
    · next connected => exact .head (.serve (.connect connected)) (perform_grains _ _)

theorem ring_grains : Grains asks drops loop loop.ring := by
  refine wakes_grains loop (fun alarm : Rat × Nat × TaskId => alarm.2.2) .goOn _ fun alarm member =>
    ?_
  rw [mem_ordered] at member
  obtain ⟨task, -, isThere⟩ := List.mem_filterMap.mp (List.mem_filter.mp member).1
  intro on waits
  split at isThere
  · next was =>
    cases isThere
    cases was.symm.trans waits
    exact id
  · cases isThere

/-! ## Monitors -/

theorem addMonitor_grains (cache : CacheId) (monitor : String) :
    Grains asks drops loop (loop.addMonitor cache monitor).1 := by
  unfold addMonitor
  split
  · exact .refl
  · next known found =>
    split
    · next registration after added =>
      refine .single (modifyCache_grain loop cache _ fun other same => ?_)
      cases found.symm.trans same
      exact (Cache.addMonitor_registers added).duty
    · exact .refl

theorem removeId_grain (cache : CacheId) (number : Int) :
    Grain asks drops loop (loop.modifyCache cache (·.removeId number)) :=
  modifyCache_grain loop cache _ fun _ _ => ⟨rfl, rfl⟩

theorem removeMonitor_grain (cache : CacheId) (monitor : String) :
    Grain asks drops loop (loop.modifyCache cache (·.removeMonitor monitor)) :=
  modifyCache_grain loop cache _ fun known _ => (Cache.removeMonitor_registers monitor known).duty

theorem cancelToken_grains (token : String) :
    Grains asks drops loop (loop.cancelToken token).1 := by
  unfold cancelToken
  split
  · exact .single (removeId_grain loop _ _)
  · exact .refl

theorem act_grains (cache : CacheId) (act : Act) :
    Grains asks drops loop (loop.act cache act).1 := by
  unfold Loop.act
  split
  · exact .refl
  · exact .single (removeMonitor_grain loop cache _)
  · exact addMonitor_grains loop cache _
  · exact cancelToken_grains loop _
  · exact .head (note_grain loop _) (refresh_grains _ cache)
  · exact .refl
  · exact .refl
  · split
    · exact .refl
    · exact happen_grains loop _

theorem acts_grains (cache : CacheId) (list : List Act) (yielded : Yield) :
    Grains asks drops loop (loop.acts cache list yielded).1 := by
  induction list generalizing yielded loop with
  | nil => exact .refl
  | cons first rest step =>
    have acted : Grains asks drops loop (loop.act cache first).1 := act_grains loop cache first
    unfold Loop.acts
    split
    · next after error result =>
      rw [result] at acted
      exact acted
    · next after given result =>
      rw [result] at acted
      exact acted.trans (step _ _)

theorem callMonitor_grains (caller : Option CacheId) (monitor : String) :
    Grains asks drops loop (loop.callMonitor caller monitor).1 := by
  have called : ∀ loop : Loop S, Grains asks drops loop (loop.callMonitor none monitor).1 :=
    fun loop => by
    unfold callMonitor
    dsimp only
    split
    · exact .refl
    · exact .head (note_grain loop _) (acts_grains _ _ _ _)
  cases caller with
  | none => exact called loop
  | some cache => exact .head (note_grain loop _) (called _)

theorem startDeed_grains (cache : CacheId) (monitor : String) (deed : Deed) :
    Grains asks drops loop (loop.startDeed cache monitor deed) := by
  have spawned : Grain asks drops loop (loop.spawn (.deed cache) (.deed monitor deed .beginning)) :=
    .spawn (fun _ => Role.noConfusion) (.opening (.inr ⟨cache, rfl⟩) rfl) fun _ _ =>
      Role.noConfusion
  have isDeed :
      ((loop.spawn (.deed cache) (.deed monitor deed .beginning)).tasks[loop.tasks.length]?).map
        (·.role) =
      some (.deed cache) := by
    rw [spawn]
    simp [push]
  refine ((ReflTransGen.single spawned).tail (pend_grain _ cache fun _ => .deed isDeed)).tail
    (.hook _ ?_ ?_)
  · rintro waiter ⟨⟩
  · intro known found
    have same : (some known : Option (Task S)).map (·.role) = some (.deed cache) := found ▸ isDeed
    exact Option.some.inj same

theorem notify_grains (cache : CacheId) : Grains asks drops loop (loop.notify cache) := by
  refine changes_grains loop (notifyOne cache) (fun loop registration => ?_) _
  have called : Grains asks drops loop (loop.callMonitor (some cache) registration.monitor).1 :=
    callMonitor_grains loop (some cache) registration.monitor
  unfold notifyOne
  split
  · next result =>
    rw [result] at called
    exact called.tail (note_grain _ _)
  · next result =>
    rw [result] at called
    exact called.trans (startDeed_grains _ _ _ _)
  · next result =>
    rw [result] at called
    exact called

theorem setData_grains (cache : CacheId) (data : Snapshot) (isSilent : Bool) :
    Grains asks drops loop (loop.setData cache data isSilent) :=
  .tail
    (.single
      (modifyCache_grain loop cache (fun cache => { cache with data }) fun _ _ => ⟨rfl, rfl⟩))
    (note_grain _ _)

theorem install_grains (cache : CacheId) (data : Snapshot) :
    Grains asks drops loop (loop.install cache data) := by
  unfold install
  dsimp only
  split
  · exact setData_grains loop cache data false
  · exact (setData_grains loop cache data false).trans (notify_grains _ cache)

/-! ## Items -/

theorem ask_grains (mayAsk : asks) (cache : CacheId) (query : Query) :
    Grains asks drops loop (loop.ask cache query) := by
  cases found : loop.caches[cache]? with
  | none => rw [ask_none query found]
  | some known =>
    rw [ask_eq query found]
    refine .tail (.single (.ask query mayAsk found)) (.hook _ ?_ ?_)
    · rintro waiter ⟨⟩
    · intro task isThere
      rw [show (loop.posed cache query known).tasks = loop.tasks ++ [_] from rfl,
        List.getElem?_concat_length] at isThere
      rw [← Option.some.inj isThere]
      rfl

theorem check_grains (mayAsk : asks) (cache : CacheId) :
    Grains asks drops loop (loop.check cache) := by
  unfold check
  split
  · exact ask_grains loop mayAsk cache .look
  · exact .refl

theorem looked_grains (mayAsk : asks) (cache : CacheId) (outcome : Outcome Answer) :
    Grains asks drops loop (loop.looked cache outcome) := by
  unfold looked
  split
  · exact .refl
  · split
    · exact .refl
    · split
      · exact .refl
      · exact .single (note_grain loop _)
      · split
        · exact install_grains loop cache _
        · exact ask_grains loop mayAsk cache .fetch

theorem fetched_grains (cache : CacheId) (outcome : Outcome Answer) :
    Grains asks drops loop (loop.fetched cache outcome) := by
  unfold fetched
  split
  · exact .refl
  · split
    · exact .refl
    · split
      · exact .refl
      · split
        · exact .refl
        · exact .single (note_grain loop _)
      · split
        · exact install_grains loop cache _
        · exact .single (note_grain loop _)

theorem resynced_grains (cache : CacheId) (outcome : Outcome Snapshot) :
    Grains asks drops loop (loop.resynced cache outcome) := by
  unfold resynced
  split
  · exact .refl
  · split
    · exact .refl
    · exact .head (note_grain loop _) (refresh_grains _ cache)
    · split
      · exact (install_grains loop cache _).trans (refresh_grains _ cache)
      · exact refresh_grains loop cache

theorem rebuilt_grains (cache : CacheId) (known : Cache) (outcome : Outcome Answer) :
    Grains asks drops loop (loop.rebuilt cache known outcome).1 := by
  unfold rebuilt
  split
  · dsimp only
    split
    · exact (setData_grains loop cache _ true).trans (refresh_grains _ cache)
    · exact refresh_grains loop cache
  · exact .refl
  · exact .refl

theorem deedDone_grains (cache : CacheId) {task : TaskId} (isDone : drops task)
    (outcome : Outcome Answer) :
    Grains asks drops loop (loop.deedDone cache task outcome) := by
  have left : Grain asks drops loop (loop.modifyCache cache fun cache =>
      { cache with pending := cache.pending.filter (· ≠ task) }) :=
    pend_grain loop cache fun _ => .gone isDone
  unfold deedDone
  dsimp only
  split
  · exact .tail (.single left) (note_grain _ _)
  · exact .single left

/-! ## Frames that do nothing to queues but post -/

theorem serviceTurn_grains (self : TaskId) (point : S.Point) (wake : Wake S.Reply) :
    Grains asks drops loop (loop.serviceTurn self point wake).1 := by
  obtain ⟨tickets, alarms, same⟩ := serviceTurn_loop loop self point wake
  rw [same]
  exact (react_grains loop self point wake).tail (.of_eq rfl rfl rfl rfl rfl)

theorem deedEnds_grains (monitor : String) (deed : Deed) :
    Grains asks drops loop (loop.deedEnds monitor deed).1 := by
  unfold deedEnds
  dsimp only
  split
  · exact .single (note_grain loop _)
  · exact .refl

theorem deedTurn_grains (monitor : String) (deed : Deed) (stage : DeedStage) (wake : Wake S.Reply) :
    Grains asks drops loop (loop.deedTurn monitor deed stage wake).1 := by
  unfold deedTurn
  split
  · split
    · exact deedEnds_grains loop monitor _
    · exact deedEnds_grains loop monitor _
    · exact .refl
    · exact .single (.of_eq rfl rfl rfl rfl rfl)
    · exact .refl
    · exact .refl
    · exact .refl
  · exact .refl
  · exact .refl
  · exact .refl
  · exact deedEnds_grains loop monitor deed

theorem makeCache_grains (name : String) (handle : Option Handle) (path compressed : Value) :
    Grains asks drops loop (loop.makeCache name handle path compressed).1 := by
  have counted : Grain asks drops loop { loop with serial := loop.serial + 1 } :=
    .of_eq rfl rfl rfl rfl rfl
  unfold makeCache
  dsimp only
  split
  · exact .single counted
  · exact .tail (.single counted) (.create _ rfl rfl)

theorem openSessionTurn_grains (source : Source) (defaultFile : SettingsFile)
    (handle : Option Handle) (wake : Wake S.Reply) :
    Grains asks drops loop (loop.openSessionTurn source defaultFile handle wake).1 := by
  unfold openSessionTurn
  split
  · split
    · exact .refl
    · next settings _ =>
      have connected : Grains asks drops loop (loop.connect settings).1 :=
        connect_grains loop settings
      split
      · next result =>
        rw [result] at connected
        exact connected
      · next result =>
        rw [result] at connected
        exact connected
  · exact .single (.serve (.adopt _))
  · exact .refl
  · exact .refl

theorem startNew_grains (opening : Opening) (options : CacheOptions)
    (handle session : Option Handle) :
    Grains asks drops loop (loop.startNew opening options handle session).1 := by
  have made :
      Grains asks drops loop
        (loop.makeCache opening.name handle opening.path options.compressed).1 :=
    makeCache_grains loop opening.name handle opening.path options.compressed
  unfold startNew
  split
  · next result =>
    rw [result] at made
    exact made
  · next result =>
    rw [result] at made
    exact made

theorem openCacheTurn_grains (opening : Opening) (stage : OpenStage) (wake : Wake S.Reply) :
    Grains asks drops loop (loop.openCacheTurn opening stage wake).1 := by
  unfold openCacheTurn
  split
  · split
    · exact .refl
    · next settings options _ =>
      split
      · have connected : Grains asks drops loop (loop.connect settings).1 :=
          connect_grains loop settings
        split
        · next result =>
          rw [result] at connected
          exact connected
        · next result =>
          rw [result] at connected
          exact connected
      · exact startNew_grains loop opening options _ none
  · exact startNew_grains loop opening _ _ _
  · have named :
        ∀ cache,
          Grain asks drops loop { loop with names := Table.put opening.name cache loop.names } :=
      fun cache => .of_eq rfl rfl rfl rfl rfl
    dsimp only
    split
    · exact .tail (.single (named _)) (.serve (.adopt _))
    · exact .single (named _)
  · exact .refl
  · exact .refl

end Parts

/-! ## Commands -/

section Commands

variable {asks : Prop} {drops : TaskId → Prop} (loop : Loop S)

theorem launch_grains (frame : Frame S.Point) (isOpening : frame.isOpening) :
    Grains asks drops loop (loop.launch frame).1 :=
  .single (.spawn (fun _ => Role.noConfusion) (.opening (.inl rfl) isOpening) fun _ _ =>
    Role.noConfusion)

theorem releaseAll_grains (release : Release S.Reply) (tickets : List Nat) :
    Grains asks drops loop (loop.releaseAll release tickets).1 := by
  induction tickets generalizing loop with
  | nil => exact .refl
  | cons ticket rest step =>
    refine ReflTransGen.trans ?_ (step _)
    have woken :
        ∀ held, loop.held.find? (fun held => held.number = ticket && held.isWaiting) = some held →
        ∀ why, Grains asks drops loop (loop.wake held.task why) := fun held isFirst why => by
      have isWaiting := List.find?_some isFirst
      rw [Bool.and_eq_true] at isWaiting
      exact .single (.wake (isFree_of_held loop (List.mem_of_find?_eq_some isFirst) isWaiting.2))
    show Grains asks drops loop (loop.releaseOne release ticket).1
    unfold releaseOne
    split
    · exact .refl
    · next held isFirst =>
      split
      · exact woken held isFirst _
      · dsimp only
        split
        · split
          · exact woken held isFirst _
          · exact .refl
        · exact woken held isFirst _

theorem command_grains (command : Command S) (isMomentary : command.isMomentary) :
    Grains asks drops loop (loop.command command).1 := by
  have launched : ∀ frame : Frame S.Point, frame.isOpening →
      Grains asks drops loop (loop.launch frame).1 :=
    launch_grains loop
  have called : ∀ (after : Loop S) (point : S.Point), Grains asks drops loop after →
      Grains asks drops loop (after.launch (.service point)).1 := fun after point grains =>
    grains.tail (.spawn (fun _ => Role.noConfusion) (.outside point) fun _ _ => Role.noConfusion)
  cases command with
  | make name path compressed =>
    have made :
        Grains asks drops loop (loop.makeCache name (S.current loop.service) path compressed).1 :=
      makeCache_grains loop name (S.current loop.service) path compressed
    unfold Loop.command
    dsimp only
    split
    · next result =>
      rw [result] at made
      exact made
    · next result =>
      rw [result] at made
      exact made.tail (.of_eq rfl rfl rfl rfl rfl)
  | start name _ => exact withCache_keeps loop name _ .refl fun _ => launched _ rfl
  | close name => exact withCache_keeps loop name _ .refl fun _ => launched _ rfl
  | rebuild name => exact withCache_keeps loop name _ .refl fun _ => launched _ rfl
  | wait name => exact withCache_keeps loop name _ .refl fun _ => launched _ rfl
  | enter name => exact withCache_keeps loop name _ .refl fun _ => launched _ rfl
  | reset name =>
    exact withCache_keeps loop name _ .refl fun cache =>
      .head (note_grain loop _) (refresh_grains _ cache)
  | get name => exact withCache_keeps loop name _ .refl fun _ => .refl
  | addMonitor name monitor token =>
    refine withCache_keeps loop name _ .refl fun cache => ?_
    have added : Grains asks drops loop (loop.addMonitor cache monitor).1 :=
      addMonitor_grains loop cache monitor
    unfold keepMonitor
    split
    · next result =>
      rw [result] at added
      exact added
    · next result =>
      rw [result] at added
      exact added.tail (.of_eq rfl rfl rfl rfl rfl)
  | remove name removal =>
    refine withCache_keeps loop name _ .refl fun cache => ?_
    show Grains asks drops loop (loop.removeFrom cache removal).1
    unfold removeFrom
    split
    · exact .single (removeId_grain loop cache _)
    · exact .single (removeMonitor_grain loop cache _)
    · exact .refl
    · split
      · exact .single (removeId_grain loop cache _)
      · exact .refl
  | cancelToken token => exact cancelToken_grains loop token
  | callToken token =>
    unfold Loop.command Loop.callToken
    dsimp only
    split
    · exact .refl
    · next token _ =>
      have called : Grains asks drops loop (loop.callMonitor none token.monitor).1 :=
        callMonitor_grains loop none token.monitor
      split
      · next result =>
        rw [result] at called
        exact called
      · next result =>
        rw [result] at called
        exact called
      · next result =>
        rw [result] at called
        exact called.trans (launch_grains _ _ rfl)
  | install name path stat data =>
    refine withCache_keeps loop name _ .refl fun cache => ?_
    show Grains asks drops loop (loop.installFrom cache path stat data).1
    unfold installFrom
    split
    · exact .refl
    · split
      · exact install_grains loop cache _
      · exact .refl
  | release tickets release => exact releaseAll_grains loop release tickets
  | settle => exact .refl
  | openSession source defaultFile => exact launched _ rfl
  | openCache opening => exact launched _ rfl
  | operate operation => exact called loop _ .refl
  | occur event =>
    have happened : Grains asks drops loop (loop.happen event).1 := happen_grains loop event
    unfold Loop.command
    dsimp only
    split
    · next result =>
      rw [result] at happened
      exact happened
    · next result =>
      rw [result] at happened
      exact happened
    · next result =>
      rw [result] at happened
      exact called _ _ happened
  | advance span => simp [Command.isMomentary] at isMomentary

end Commands

/-! ## Turns -/

/-- A cache gets this backlog. -/
def setBacklog (cache : CacheId) (backlog : Backlog) (loop : Loop S) : Loop S :=
  loop.modifyCache cache fun cache => { cache with backlog := some backlog }

/-- A cache is closed, does not listen any more, and has forgotten its worker. -/
def retire (cache : CacheId) (handle : Option Handle) (loop : Loop S) : Loop S :=
  (loop.shut cache handle).modifyCache cache fun cache => { cache with worker := none }

/-- A worker deals with an item: its cache asks nothing in the background, or one thing. -/
inductive Asking (cache : CacheId) (known : Cache) (item : Item) (loop : Loop S) : Loop S → Prop
  | nothing {after : Loop S} (isResync : item ≠ .resync)
      (isSilent : item.query? = none ∨ after = loop) (grains : Grains False nobody loop after) :
      Asking cache known item loop after
  | asks {query : Query} (isNext : item.query? = some query) (runs : known.phase = .started) :
      Asking cache known item loop (loop.ask cache query)

/-- How a frame's turn plays out, as far as it matters to queues. -/
inductive Plays (self : TaskId) (loop : Loop S) : Frame S.Point → Wake S.Reply → Turn S → Prop
  | plain {frame : Frame S.Point} {wake : Wake S.Reply} {turn : Turn S}
      (isOther : ∀ cache stage, frame ≠ .worker cache stage)
      (grains : Grains False nobody loop turn.1)
      (isFree : ∀ next on, turn.2 = .await next on → ¬ on.isListed) :
      Plays self loop frame wake turn
  /-- A cache begins to run, and has a worker. -/
  | begins {cache : CacheId} {known : Cache} {buildInitial : Bool} {wake : Wake S.Reply}
      (found : loop.caches[cache]? = some known) (isLatent : known.phase = .latent) :
      Plays self loop (.start cache buildInitial .beginning) wake
        ((loop.begin cache).callService self cache known (.ensure known.path true)
          (.start cache buildInitial .ensuring))
  /-- A cache has its directories, and begins to listen. -/
  | listens {cache : CacheId} {known : Cache} {buildInitial : Bool} {answer : Answer}
      {turn : Turn S} (found : loop.caches[cache]? = some known)
      (grains :
        Grains False nobody
          (loop.setService (S.listen known.handle (.cache cache) loop.service)) turn.1)
      (isFree : ∀ next on, turn.2 ≠ .await next on) :
      Plays self loop (.start cache buildInitial .ensuring) (.ended (.returned answer)) turn
  /-- A cache is closed, and its worker has ended or is forgotten already. -/
  | retires {cache : CacheId} {known : Cache} {wake : Wake S.Reply} (outcome : Outcome Answer)
      (found : loop.caches[cache]? = some known) :
      Plays self loop (.close cache false) wake (loop.retire cache known.handle, .finish outcome)
  /-- A cache is closed, and the end of its worker is waited for. -/
  | shuts {cache : CacheId} {known : Cache} {worker : TaskId} {wake : Wake S.Reply}
      (found : loop.caches[cache]? = some known) (knows : known.worker = some worker)
      (isOpen : (loop.retire cache known.handle).outcome? worker = none) :
      Plays self loop (.close cache false) wake
        ((loop.retire cache known.handle).addHook worker (.resume self),
          .await (.close cache true) (.task worker))
  /-- Somebody waits until all work is done. -/
  | joins {cache : CacheId} {known : Cache} {backlog : Backlog} {wake : Wake S.Reply}
      (found : loop.caches[cache]? = some known) (has : known.backlog = some backlog)
      (isBusy : 0 < backlog.unfinished) :
      Plays self loop (.wait cache .joining) wake
        (loop.setBacklog cache (backlog.join self), .await (.wait cache .checking) .drained)
  /-- The cache of a worker is not there, or the worker is cancelled. -/
  | quits {cache : CacheId} {stage : WorkerStage} {wake : Wake S.Reply}
      (isGone : loop.caches[cache]? = none ∨ stage = .taking ∧ wake = .cancelled) :
      Plays self loop (.worker cache stage) wake (loop, .finish .cancelled)
  /-- The worker waits for an item. -/
  | idles {cache : CacheId} {known : Cache} {wake : Wake S.Reply}
      (found : loop.caches[cache]? = some known) (isPlain : wake ≠ .cancelled)
      (isEmpty : known.backlog.bind Backlog.take? = none) :
      Plays self loop (.worker cache .taking) wake
        (loop.modifyCache cache fun cache =>
          { cache with backlog := cache.backlog.map (Backlog.await self) },
          .await (.worker cache .taking) .item)
  /-- The worker begins to read the node. -/
  | reads {cache : CacheId} {known : Cache} {backlog rest : Backlog} {wake : Wake S.Reply}
      (found : loop.caches[cache]? = some known) (isPlain : wake ≠ .cancelled)
      (has : known.backlog = some backlog) (taken : backlog.take? = some (.resync, rest)) :
      Plays self loop (.worker cache .taking) wake
        ((loop.setBacklog cache rest).callService self cache known (readRequest known)
          (.worker cache .resyncing))
  /-- The worker deals with an item. -/
  | works {cache : CacheId} {known : Cache} {backlog rest : Backlog} {item : Item}
      {wake : Wake S.Reply} {middle : Loop S} {way : Move S.Point}
      (found : loop.caches[cache]? = some known) (isPlain : wake ≠ .cancelled)
      (has : known.backlog = some backlog) (taken : backlog.take? = some (item, rest))
      (grains : Grains True nobody (loop.setBacklog cache rest) middle)
      (either : item = .stop ∧ way = .finish (.returned .nothing) ∨
        item ≠ .stop ∧ way = .goOn (.worker cache .taking))
      (asking : Asking cache known item (loop.setBacklog cache rest) middle) :
      Plays self loop (.worker cache .taking) wake (middle.itemDone cache, way)
  /-- The worker has read the node. -/
  | returns {cache : CacheId} {known : Cache} {wake : Wake S.Reply} {middle : Loop S}
      {way : Move S.Point} (found : loop.caches[cache]? = some known)
      (grains : Grains False nobody loop middle)
      (either : way = .finish .cancelled ∨ way = .goOn (.worker cache .taking)) :
      Plays self loop (.worker cache .resyncing) wake (middle.itemDone cache, way)

/-- A change of a cache that is there gives it its backlog. -/
theorem modifyCache_setBacklog {cache : CacheId} {known : Cache} {loop : Loop S}
    (found : loop.caches[cache]? = some known) (change : Cache → Cache) {backlog : Backlog}
    (same : change known = { known with backlog := some backlog }) :
    loop.modifyCache cache change = loop.setBacklog cache backlog := by
  have caches : loop.caches.modify cache change =
      loop.caches.modify cache fun cache => { cache with backlog := some backlog } := by
    refine List.ext_getElem? fun other => ?_
    by_cases here : cache = other
    · subst here
      simp [found, same]
    · simp [here]
  rw [setBacklog, modifyCache, modifyCache, caches]

/-- A worker that is to look at the node asks for that, or nothing. -/
theorem check_asking {cache : CacheId} {known known' : Cache} {loop : Loop S}
    (found : loop.caches[cache]? = some known') (phase : known'.phase = known.phase) :
    Asking cache known .check loop (loop.check cache) := by
  unfold check
  rw [found, Option.any_some]
  split
  · next isActive =>
    have runs : known'.phase = .started := of_decide_eq_true (Bool.and_eq_true_iff.mp isActive).1
    exact .asks rfl (phase ▸ runs)
  · exact .nothing Item.noConfusion (.inr rfl) .refl

/-- A worker that has looked at the node asks for its content if there is one, or nothing. -/
theorem looked_asking {cache : CacheId} {known known' : Cache} {loop : Loop S}
    (found : loop.caches[cache]? = some known') (phase : known'.phase = known.phase)
    (outcome : Outcome Answer) :
    Asking cache known (.looked outcome) loop (loop.looked cache outcome) := by
  unfold looked
  rw [found]
  dsimp only
  split
  · exact .nothing Item.noConfusion (.inr rfl) .refl
  · next runs =>
    have runs : known'.phase = .started := by simpa [Cache.isRunning] using runs
    split
    · exact .nothing Item.noConfusion (.inr rfl) .refl
    · exact .nothing Item.noConfusion (.inl rfl) (.single (note_grain loop _))
    · next answer =>
      split
      · next isAbsent =>
        exact .nothing Item.noConfusion (.inl (by simp [Item.query?, isAbsent]))
          (install_grains loop cache _)
      · next stat isThere => exact .asks (by simp [Item.query?, isThere]) (phase ▸ runs)

section Turns

variable (loop : Loop S) (self : TaskId)

theorem workerTurn_plays {cache : CacheId} {known : Cache} (stage : WorkerStage)
    (wake : Wake S.Reply) (found : loop.caches[cache]? = some known) :
    Plays self loop (.worker cache stage) wake (loop.workerTurn self cache known stage wake) := by
  unfold workerTurn
  split
  · exact .quits (.inr ⟨rfl, rfl⟩)
  · next isPlain =>
    split
    · next isEmpty => exact .idles found isPlain isEmpty
    · next item rest taken =>
      obtain ⟨backlog, has, taken⟩ := Option.bind_eq_some_iff.mp taken
      have worked : ∀ {middle : Loop S}, item ≠ .stop →
          Grains True nobody (loop.setBacklog cache rest) middle →
          Asking cache known item (loop.setBacklog cache rest) middle →
          Plays self loop (.worker cache .taking) wake
            (middle.itemDone cache, .goOn (.worker cache .taking)) := fun isOther grains asking =>
        .works found isPlain has taken grains (.inr ⟨isOther, rfl⟩) asking
      have found' :
          (loop.setBacklog cache rest).caches[cache]? = some { known with backlog := some rest } :=
        modifyCache_self found _
      have phase : ({ known with backlog := some rest } : Cache).phase = known.phase := rfl
      unfold work
      split
      · exact .works found isPlain has taken .refl (.inl ⟨rfl, rfl⟩)
          (.nothing Item.noConfusion (.inr rfl) .refl)
      · exact worked Item.noConfusion (check_grains _ trivial cache) (check_asking found' phase)
      · exact worked Item.noConfusion (looked_grains _ trivial cache _)
          (looked_asking found' phase _)
      · exact worked Item.noConfusion (fetched_grains _ cache _)
          (.nothing Item.noConfusion (.inl rfl) (fetched_grains _ cache _))
      · exact .reads found isPlain has taken
  · dsimp only
    split
    · exact .returns found (resynced_grains loop cache _) (.inl rfl)
    · exact .returns found (resynced_grains loop cache _) (.inr rfl)
  · exact .returns found .refl (.inl rfl)

theorem rebuilt_finishes (cache : CacheId) (known : Cache) (outcome : Outcome Answer) :
    ∃ ending, (loop.rebuilt cache known outcome).2 = .finish ending := by
  unfold rebuilt
  split <;> exact ⟨_, rfl⟩

theorem startTurn_plays {cache : CacheId} {known : Cache} (buildInitial : Bool) (stage : StartStage)
    (wake : Wake S.Reply) (found : loop.caches[cache]? = some known) :
    Plays self loop (.start cache buildInitial stage) wake
      (loop.startTurn self cache known buildInitial stage wake) := by
  have ends :
      ∀ outcome, Plays self loop (.start cache buildInitial stage) wake (loop, .finish outcome) :=
    fun outcome => .plain (fun _ _ same => by cases same) .refl fun _ _ same => by cases same
  cases stage with
  | beginning =>
    by_cases isCancelled : wake = .cancelled
    · subst isCancelled
      exact ends .cancelled
    · rw [startTurn_beginning self cache known buildInitial isCancelled]
      split
      · next isLatent => exact .begins found isLatent
      · exact ends _
  | ensuring =>
    cases wake with
    | ended outcome =>
      cases outcome with
      | returned answer =>
        unfold startTurn
        dsimp only
        split
        · exact .listens found (.single (note_grain _ _)) fun _ _ same => by cases same
        · exact .listens found (refresh_grains _ cache) fun _ _ same => by cases same
      | _ => exact ends _
    | _ => exact ends _
  | reading =>
    cases wake with
    | ended outcome =>
      refine .plain (fun _ _ same => by cases same) (rebuilt_grains loop cache known outcome)
        fun _ _ same => ?_
      obtain ⟨ending, finishes⟩ := rebuilt_finishes loop cache known outcome
      cases finishes.symm.trans same
    | _ => exact ends _

theorem rebuildTurn_plays {cache : CacheId} {known : Cache} (isReading : Bool)
    (wake : Wake S.Reply) :
    Plays self loop (.rebuild cache isReading) wake
      (loop.rebuildTurn self cache known isReading wake) := by
  unfold rebuildTurn
  split
  · split
    · exact .plain (fun _ _ same => by cases same) (.single (note_grain _ _)) fun _ _ same => by
        cases same
    · exact .plain (fun _ _ same => by cases same) .refl fun _ _ same => by cases same
  · refine .plain (fun _ _ same => by cases same) (rebuilt_grains loop cache known _)
      fun _ _ same => ?_
    obtain ⟨ending, finishes⟩ := rebuilt_finishes loop cache known _
    cases finishes.symm.trans same
  · exact .plain (fun _ _ same => by cases same) .refl fun _ _ same => by cases same

theorem closeTurn_plays {cache : CacheId} {known : Cache} (isJoining : Bool) (wake : Wake S.Reply)
    (found : loop.caches[cache]? = some known) :
    Plays self loop (.close cache isJoining) wake
      (loop.closeTurn self cache known isJoining wake) := by
  unfold closeTurn
  split
  · dsimp only
    split
    · exact .retires _ found
    · next worker knows =>
      split
      · exact .retires _ found
      · next isOpen => exact .shuts found knows isOpen
  · exact .plain (fun _ _ same => by cases same) .refl fun _ _ same => by cases same
  · exact .plain (fun _ _ same => by cases same) .refl fun _ _ same => by cases same

theorem enterTurn_plays (cache : CacheId) (isStarting : Bool) (wake : Wake S.Reply) :
    Plays self loop (.enter cache isStarting) wake (loop.enterTurn cache isStarting wake) := by
  unfold enterTurn
  split <;> exact .plain (fun _ _ same => by cases same) .refl fun _ _ same => by cases same

theorem waitTurn_plays {cache : CacheId} {known : Cache} (stage : WaitStage) (wake : Wake S.Reply)
    (found : loop.caches[cache]? = some known) :
    Plays self loop (.wait cache stage) wake (loop.waitTurn self cache known stage wake) := by
  have plain : ∀ {turn : Turn S}, Grains False nobody loop turn.1 →
      (∀ next on, turn.2 = .await next on → ¬ on.isListed) →
      Plays self loop (.wait cache stage) wake turn := fun grains isFree =>
    .plain (fun _ _ same => by cases same) grains isFree
  unfold waitTurn
  split
  · exact plain .refl fun _ _ same => by cases same
  · split
    · exact plain .refl fun _ _ same => by cases same
    · refine plain (changes_grains loop _ (fun loop task => .single (.hook task ?_ ?_)) _)
        fun _ _ same => ?_
      · intro waiter same
        cases same
      · exact fun _ _ => trivial
      · cases same
        exact id
  · split
    · next isBusy =>
      obtain ⟨-, isBusy⟩ := Bool.and_eq_true_iff.mp isBusy
      obtain ⟨backlog, has, isBusy⟩ := (Option.any_eq_true _ _).mp isBusy
      rw [modifyCache_setBacklog found _
        (show _ = { known with backlog := some (backlog.join self) } by
        simp [has])]
      exact .joins found has (of_decide_eq_true isBusy)
    · exact plain .refl fun _ _ same => by cases same
  · split <;> exact plain .refl fun _ _ same => by cases same

theorem serviceTurn_plays (point : S.Point) (wake : Wake S.Reply) :
    Plays self loop (.service point) wake (loop.serviceTurn self point wake) := by
  refine .plain (fun _ _ same => by cases same) (serviceTurn_grains loop self point wake)
    fun next on same => ?_
  unfold serviceTurn at same
  dsimp only at same
  split at same <;> cases same
  · exact id
  · exact id

theorem deedTurn_plays (monitor : String) (deed : Deed) (stage : DeedStage) (wake : Wake S.Reply) :
    Plays self loop (.deed monitor deed stage) wake (loop.deedTurn monitor deed stage wake) := by
  refine .plain (fun _ _ same => by cases same) (deedTurn_grains loop monitor deed stage wake)
    fun next on same => ?_
  have ends : (loop.deedEnds monitor deed).2 ≠ .await next on := fun same => by cases same
  unfold deedTurn at same
  split at same
  · split at same
    · exact absurd same ends
    · exact absurd same ends
    · cases same
    · cases same
      exact id
    · cases same
    · cases same
    · cases same
  · cases same
  · cases same
  · cases same
  · exact absurd same ends

theorem openSessionTurn_plays (source : Source) (defaultFile : SettingsFile)
    (handle : Option Handle) (wake : Wake S.Reply) :
    Plays self loop (.openSession source defaultFile handle) wake
      (loop.openSessionTurn source defaultFile handle wake) := by
  refine .plain (fun _ _ same => by cases same)
    (openSessionTurn_grains loop source defaultFile handle wake) fun next on same => ?_
  unfold openSessionTurn at same
  split at same
  · split at same
    · cases same
    · split at same <;> cases same
  · cases same
  · cases same
  · cases same

theorem openCacheTurn_plays (opening : Opening) (stage : OpenStage) (wake : Wake S.Reply) :
    Plays self loop (.openCache opening stage) wake (loop.openCacheTurn opening stage wake) := by
  refine .plain (fun _ _ same => by cases same) (openCacheTurn_grains loop opening stage wake)
    fun next on same => ?_
  have makes : ∀ options handle session, (loop.startNew opening options handle session).2 ≠
      .await next on := by
    intro options handle session same
    unfold startNew at same
    split at same <;> cases same
  unfold openCacheTurn at same
  split at same
  · split at same
    · cases same
    · split at same
      · split at same <;> cases same
      · exact absurd same (makes _ _ _)
  · exact absurd same (makes _ _ _)
  · cases same
  · cases same
  · cases same

/-- **How each frame's turn plays out.** -/
theorem frameTurn_plays (frame : Frame S.Point) (wake : Wake S.Reply) :
    Plays self loop frame wake (loop.frameTurn self frame wake) := by
  have gone : ∀ {frame : Frame S.Point}, (∀ cache stage, frame ≠ .worker cache stage) →
      Plays self loop frame wake (loop, .finish .cancelled) := fun isOther =>
    .plain isOther .refl fun _ _ same => by cases same
  cases frame with
  | service point => exact serviceTurn_plays loop self point wake
  | deed monitor deed stage => exact deedTurn_plays loop self monitor deed stage wake
  | openSession source defaultFile handle =>
    exact openSessionTurn_plays loop self source defaultFile handle wake
  | openCache opening stage =>
    exact openCacheTurn_plays loop self opening stage wake
  | worker cache stage =>
    unfold frameTurn
    dsimp only
    split
    · next found => exact workerTurn_plays loop self stage wake found
    · next isGone => exact .quits (.inl isGone)
  | start cache buildInitial stage =>
    unfold frameTurn
    dsimp only
    split
    · next found => exact startTurn_plays loop self buildInitial stage wake found
    · exact gone fun _ _ same => by cases same
  | rebuild cache isReading =>
    unfold frameTurn
    dsimp only
    split
    · exact rebuildTurn_plays loop self isReading wake
    · exact gone fun _ _ same => by cases same
  | close cache isJoining =>
    unfold frameTurn
    dsimp only
    split
    · next found => exact closeTurn_plays loop self isJoining wake found
    · exact gone fun _ _ same => by cases same
  | wait cache stage =>
    unfold frameTurn
    dsimp only
    split
    · next found => exact waitTurn_plays loop self stage wake found
    · exact gone fun _ _ same => by cases same
  | enter cache isStarting =>
    unfold frameTurn
    dsimp only
    split
    · exact enterTurn_plays loop self cache isStarting wake
    · exact gone fun _ _ same => by cases same

end Turns

/-! ## Everything that happens -/

/-- What happens, as far as it matters to queues. -/
inductive Passes (before : Loop S) : Loop S → Prop
  | grains {after : Loop S} (grains : Grains False nobody before after) : Passes before after
  | turn {task : TaskId} {wake : Wake S.Reply} {frame : Frame S.Point} {rest : List (Frame S.Point)}
      {turn : Turn S} (isAt : before.IsAt task wake frame rest)
      (same : turn = before.inTurn.frameTurn task frame wake)
      (plays : Plays task before.inTurn frame wake turn) :
      Passes before (afterTurn task frame rest turn)
  /-- A task that has its turn has no frames. -/
  | pause {task : TaskId} {wake : Wake S.Reply} (turn : before.turn = some (task, wake))
      (isOver : ∀ frame rest, (before.tasks[task]?).map (·.frames) ≠ some (frame :: rest)) :
      Passes before before.inTurn
  /-- A task gets its turn. -/
  | run {task : TaskId} {status : Status S.Reply} {wake : Wake S.Reply} {ready : List Job}
      (isBetween : before.turn = none) (isFirst : before.ready = .resume task :: ready)
      (was : before.status? task = some status)
      (either : status = .fresh ∧ wake = .goOn ∨ ∃ on, status = .woken on wake) :
      Passes before ((({ before with ready } : Loop S).setStatus task .running).give task wake)
  /-- A task ends that was cancelled before its first turn. -/
  | doom {task : TaskId} {ready : List Job} (isBetween : before.turn = none)
      (isFirst : before.ready = .resume task :: ready) (was : before.status? task = some .doomed) :
      Passes before (({ before with ready } : Loop S).finish task .cancelled)
  /-- A task is to have its turn, but has had it. -/
  | stale {task : TaskId} {ready : List Job} (isBetween : before.turn = none)
      (isFirst : before.ready = .resume task :: ready) (isOver : before.status? task ≠ some .fresh ∧
        before.status? task ≠ some .doomed ∧ ∀ on wake, before.status? task ≠
          some (.woken on wake)) :
      Passes before { before with ready }
  /-- A request of a cache has been answered. -/
  | answer {cache : CacheId} {query : Query} {task : TaskId} {outcome : Outcome Answer}
      {ready : List Job} (isBetween : before.turn = none)
      (isFirst : before.ready = .hook (.answered cache query) task :: ready)
      (ended : before.outcome? task = some outcome) :
      Passes before (({ before with ready } : Loop S).answered cache query task outcome)
  /-- Another hook is done. -/
  | hook {hook : Hook} {task : TaskId} {ready : List Job} {after : Loop S}
      (isBetween : before.turn = none) (isFirst : before.ready = .hook hook task :: ready)
      (isPlain : ∀ cache query, hook = .answered cache query → before.outcome? task = none)
      (does :
        Grains False (fun other => other = task ∧ ∃ owner, hook = .deedDone owner)
          { before with ready } after ∨
        ∃ waiter outcome, hook = .resume waiter ∧
          after = ({ before with ready } : Loop S).wake waiter (.ended outcome)) :
          Passes before after

theorem start_passes {loop : Loop S} {job : Job} {ready : List Job} (isBetween : loop.turn = none)
    (isFirst : loop.ready = job :: ready) :
    Passes loop (({ loop with ready } : Loop S).start job) := by
  cases job with
  | resume task =>
    unfold Loop.start
    dsimp only
    split
    · next was => exact .run isBetween isFirst was (.inl ⟨rfl, rfl⟩)
    · next on wake was => exact .run isBetween isFirst was (.inr ⟨on, rfl⟩)
    · next was => exact .doom isBetween isFirst was
    · next noFresh noWoken noDoomed =>
      exact .stale isBetween isFirst ⟨noFresh, noDoomed, fun on wake => noWoken on wake⟩
  | hook hook task =>
    unfold Loop.start
    dsimp only
    split
    · next outcome ended =>
      cases hook with
      | resume waiter =>
        exact .hook isBetween isFirst (fun _ _ same => by cases same)
          (.inr ⟨waiter, outcome, rfl, rfl⟩)
      | answered cache query => exact .answer isBetween isFirst ended
      | deedDone cache =>
        exact .hook isBetween isFirst (fun _ _ same => by cases same)
          (.inl (deedDone_grains _ cache ⟨rfl, cache, rfl⟩ outcome))
      | count waiter =>
        exact .hook isBetween isFirst (fun _ _ same => by cases same)
          (.inl (.single (.count waiter)))
    · next isOpen => exact .hook isBetween isFirst (fun _ _ _ => isOpen) (.inl .refl)

/-- **Whatever happens passes like that.** -/
theorem Happens.passes {allowed : Outside S} {before after : Loop S}
    (happens : Happens allowed before after) : Passes before after := by
  cases happens with
  | step =>
    have step := step_isStep before
    generalize before.step = after at step
    cases step with
    | turn isAt => exact .turn isAt rfl (frameTurn_plays _ _ _ _)
    | pause turn isOver => exact .pause turn isOver
    | job turn isFirst => exact start_passes turn isFirst
    | rest turn => exact .grains .refl
  | command command isBetween isMomentary isAllowed =>
    exact .grains (command_grains before command isMomentary)
  | elapse time => exact .grains (.single (.of_eq rfl rfl rfl rfl rfl))
  | ring => exact .grains (ring_grains before)
  | decide scripts habits => exact .grains (.single (.of_eq rfl rfl rfl rfl rfl))

end Loop

end WatchedNode
