/-
**What a step consists of.**

A step of the loop is a number of smaller things. Most of them are about what others do: a service
tells listeners, fires watchers and releases requests, monitors act, tasks wait for each other. All
of these come about in a few ways:

* `Ripple`: one effect of a service;
* `Stir`: one thing that is no part of a cache's own work on its view;
* `Bustle`: one of these, or the call of a monitor.

What each of them keeps is kept by all the effects of a service (`perform_ripples`), by most frames
and commands (`frameTurn_stirs`, `command_stirs`) and by a round of calls (`notify_bustles`). What
is left are calls of the service, the items of a worker, the start of a cache, and the reads that
somebody waits for.
-/
import WatchedNode.Proofs.Cache
import WatchedNode.Proofs.Run

namespace WatchedNode

open Relation

variable {S : Service}

/-- The frame is at its beginning and stands for something that somebody asks a cache for. -/
def Frame.isOpening {Point : Type} : Frame Point → Prop
  | .start _ _ stage => stage = .beginning
  | .close _ isJoining => isJoining = false
  | .rebuild _ isReading => isReading = false
  | .wait _ stage => stage = .looking
  | .enter _ isStarting => isStarting = false
  | .deed _ _ stage => stage = .beginning
  | .openSession _ _ handle => handle = none
  | .openCache _ stage => stage = .beginning
  | .service _ | .worker .. => False

/-- The frame is a call of the service. -/
def Frame.isService {Point : Type} : Frame Point → Prop
  | .service _ => True
  | _ => False

instance {Point : Type} : (frame : Frame Point) → Decidable frame.isService
  | .service _ => isTrue trivial
  | .worker .. | .start .. | .close .. | .rebuild .. | .wait .. | .enter .. | .deed ..
      | .openSession ..
  | .openCache .. => isFalse id

/-- The frame is part of a cache's own work on its view. -/
def Frame.isOwnWork {Point : Type} : Frame Point → Prop
  | .worker .. | .start .. | .rebuild .. => True
  | _ => False

/-- A listener is told of a connection's state. -/
def Entry.isTelling {Call : Type} : Entry Call → Bool
  | .listener .. | .told .. => true
  | _ => false

namespace Loop

/-! ## Effects of a service -/

/-- One effect of a service. -/
inductive Ripple : Loop S → Loop S → Prop
  | note (loop : Loop S) (entry : Entry S.Call) (isShown : entry.isShown) :
      Ripple loop (loop.note entry)
  | told (loop : Loop S) (cache : CacheId) (link : Link) : Ripple loop (loop.linkChanged cache link)
  | fired (loop : Loop S) (cache : CacheId) :
      Ripple loop ((loop.note (.fired cache)).refresh cache)
  | listeners (loop : Loop S) (handle : Handle) (habit : Habit) :
      Ripple loop (loop.changeListeners handle habit)
  | reply (loop : Loop S) (task : TaskId) (reply : S.Reply) :
      Ripple loop (loop.wake task (.reply reply))
  | cancel (loop : Loop S) (task : TaskId) : Ripple loop (loop.cancelErrand task)
  | errand (loop : Loop S) (point : S.Point) : Ripple loop (loop.spawn .errand (.service point))

/-- Several effects. -/
abbrev Ripples : Loop S → Loop S → Prop := ReflTransGen Ripple

theorem tell_ripples (handle : Handle) (listener : Subscriber) (link : Link) (loop : Loop S) :
    Ripples loop (loop.tell handle listener link) := by
  cases listener with
  | cache cache => exact .single (.told loop cache link)
  | named name =>
    have noted : Ripples loop ((loop.note (.listener name link)).changeListeners handle
        (loop.habit name)) :=
      .tail (.single (.note _ _ rfl)) (.listeners _ handle _)
    unfold tell
    dsimp only
    split
    · exact noted.tail (.note _ _ rfl)
    · exact noted

theorem fire_ripples (watcher : Subscriber) (key : String) (news : Option Record) (loop : Loop S) :
    Ripples loop (loop.fire watcher key news) := by
  cases watcher with
  | cache cache => exact .single (.fired loop cache)
  | named name =>
    unfold fire
    dsimp only
    split
    · exact .tail (.single (.note _ _ rfl)) (.note _ _ rfl)
    · exact .single (.note _ _ rfl)

theorem release_ripples (wanted : S.Point → Bool) (reply : S.Reply) (loop : Loop S) :
    Ripples loop (loop.release wanted reply) := by
  unfold release
  exact foldl_relates (fun _ => .refl) .trans
    (fun loop held => .single (.reply loop held.task reply)) _ loop

theorem effect_ripples (loop : Loop S) (effect : Effect S.Call S.Point S.Reply) :
    Ripples loop (loop.effect effect) := by
  cases effect with
  | note call => exact .single (.note loop _ rfl)
  | tell handle listener link => exact tell_ripples handle listener link loop
  | fire watcher key news => exact fire_ripples watcher key news loop
  | spawn point => exact .single (.errand loop point)
  | cancel task => exact .single (.cancel loop task)
  | release wanted reply => exact release_ripples wanted reply loop
  | complain complaint => exact .single (.note loop _ rfl)

/-- All effects of a service are of these kinds. -/
theorem perform_ripples (effects : List (Effect S.Call S.Point S.Reply)) (loop : Loop S) :
    Ripples loop (loop.perform effects) :=
  foldl_relates (fun _ => .refl) .trans effect_ripples effects loop

/-! ## What others do -/

/-- What a turn of a call does at the service and to others. -/
def react (self : TaskId) (point : S.Point) (wake : Wake S.Reply) (loop : Loop S) : Loop S :=
  let reaction := S.resume (loop.moment self) point wake loop.service
  (loop.setService reaction.state).perform reaction.effects

/-- A cache is closed, and its listener removed. -/
def shut (cache : CacheId) (handle : Option Handle) (loop : Loop S) : Loop S :=
  let loop := loop.stopCache cache
  loop.setService (S.unlisten handle (.cache cache) loop.service)

/-- One thing that is no part of a cache's own work on its view. -/
inductive Stir : Loop S → Loop S → Prop
  | note (loop : Loop S) (entry : Entry S.Call) (isShown : entry.isShown)
      (isOther : entry.isTelling = false) :
      Stir loop (loop.note entry)
  | reset (loop : Loop S) (cache : CacheId) : Stir loop (loop.reset cache)
  | register (loop : Loop S) (cache : CacheId) (change : Cache → Cache)
      (isOnly : ∀ known, loop.caches[cache]? = some known → known.Registers (change known)) :
      Stir loop (loop.modifyCache cache change)
  | tend (loop : Loop S) (cache : CacheId) (change : Cache → Cache)
      (isOnly : ∀ known, loop.caches[cache]? = some known → known.Tends (change known)) :
      Stir loop (loop.modifyCache cache change)
  | happen (loop : Loop S) (event : S.Event) : Stir loop (loop.happen event).1
  | connect (loop : Loop S) (settings : Value) : Stir loop (loop.connect settings).1
  | adopt (loop : Loop S) (handle : Handle) :
      Stir loop (loop.setService (S.adopt handle loop.service))
  | shut (loop : Loop S) (cache : CacheId) (known : Cache)
      (found : loop.caches[cache]? = some known) : Stir loop (loop.shut cache known.handle)
  | create (loop : Loop S) (known : Cache) (isNew : known.IsNew)
      (isPath : Path.fault? known.path = none) :
      Stir loop { loop with caches := loop.caches ++ [known] }
  | spawn (loop : Loop S) (role : Role) (frame : Frame S.Point)
      (isOwn : role = .caller ∨ ∃ cache, role = .deed cache) (isOpening : frame.isOpening) :
      Stir loop (loop.spawn role frame)
  | wake (loop : Loop S) (task : TaskId) (why : Wake S.Reply)
      (isPlain : why = .goOn ∨ ∃ outcome, why = .ended outcome) : Stir loop (loop.wake task why)
  | count (loop : Loop S) (task : TaskId) : Stir loop (loop.countDown task)
  | hook (loop : Loop S) (task : TaskId) (hook : Hook)
      (isPlain : ∀ cache query, hook ≠ .answered cache query) : Stir loop (loop.addHook task hook)
  | aside (loop : Loop S) (serial tickets alarms : Nat) (names : Table CacheId)
      (tokens : Table Token) : Stir loop { loop with serial, tickets, alarms, names, tokens }

/-- Several of them. -/
abbrev Stirs : Loop S → Loop S → Prop := ReflTransGen Stir

theorem foldl_stirs {kind : Type} (change : Loop S → kind → Loop S)
    (each : ∀ loop item, Stir loop (change loop item)) (items : List kind) (loop : Loop S) :
    Stirs loop (items.foldl change loop) :=
  foldl_relates (fun _ => .refl) .trans (fun loop item => .single (each loop item)) items loop

/-! ## Monitors -/

theorem addMonitor_stirs (cache : CacheId) (monitor : String) (loop : Loop S) :
    Stirs loop (loop.addMonitor cache monitor).1 := by
  unfold addMonitor
  split
  · exact .refl
  · next known found =>
    split
    · next registration after added =>
      refine .single (.register loop cache _ fun other same => ?_)
      rw [found] at same
      cases same
      exact Cache.addMonitor_registers added
    · exact .refl

theorem removeId_stir (cache : CacheId) (number : Int) (loop : Loop S) :
    Stir loop (loop.modifyCache cache (·.removeId number)) :=
  .register loop cache _ fun known _ => Cache.removeId_registers number known

theorem removeMonitor_stir (cache : CacheId) (monitor : String) (loop : Loop S) :
    Stir loop (loop.modifyCache cache (·.removeMonitor monitor)) :=
  .register loop cache _ fun known _ => Cache.removeMonitor_registers monitor known

theorem cancelToken_stirs (token : String) (loop : Loop S) :
    Stirs loop (loop.cancelToken token).1 := by
  unfold cancelToken
  split
  · exact .single (removeId_stir _ _ loop)
  · exact .refl

theorem act_stirs (cache : CacheId) (act : Act) (loop : Loop S) :
    Stirs loop (loop.act cache act).1 := by
  unfold Loop.act
  split
  · exact .refl
  · exact .single (removeMonitor_stir cache _ loop)
  · exact addMonitor_stirs cache _ loop
  · exact cancelToken_stirs _ loop
  · exact .single (.reset loop cache)
  · exact .refl
  · exact .refl
  · split
    · exact .refl
    · exact .single (.happen loop _)

theorem acts_stirs (cache : CacheId) (list : List Act) (yielded : Yield) (loop : Loop S) :
    Stirs loop (loop.acts cache list yielded).1 := by
  induction list generalizing yielded loop with
  | nil => exact .refl
  | cons first rest step =>
    have acted := act_stirs cache first loop
    unfold Loop.acts
    split
    · next after error result =>
      rw [result] at acted
      exact acted
    · next after given result =>
      rw [result] at acted
      exact acted.trans (step _ _)

/-- All that a monitor does when somebody outside calls it is of these kinds. -/
theorem callMonitor_stirs (monitor : String) (loop : Loop S) :
    Stirs loop (loop.callMonitor none monitor).1 := by
  unfold callMonitor
  dsimp only
  split
  · exact .refl
  · exact .head (.note loop _ rfl rfl) (acts_stirs _ _ _ _)

theorem startDeed_stirs (cache : CacheId) (monitor : String) (deed : Deed) (loop : Loop S) :
    Stirs loop (loop.startDeed cache monitor deed) := by
  have spawned : Stirs loop (loop.spawn (.deed cache) (.deed monitor deed .beginning)) :=
    .single (.spawn loop _ _ (.inr ⟨cache, rfl⟩) rfl)
  refine (spawned.tail (.tend _ cache _ fun known _ => ?_)).tail
    (.hook _ _ _ fun _ _ => Hook.noConfusion)
  exact ⟨_, _, _, rfl, rfl⟩

/-! ## Rounds of calls -/

/-- One thing that happens in a round of calls. -/
inductive Bustle : Loop S → Loop S → Prop
  | stir {before after : Loop S} (stir : Stir before after) : Bustle before after
  | call (loop : Loop S) (cache : CacheId) (monitor : String) :
      Bustle loop (loop.note (.called cache monitor (loop.seen cache)))

/-- Several of them. -/
abbrev Bustles : Loop S → Loop S → Prop := ReflTransGen Bustle

theorem Stirs.bustles {before after : Loop S} (stirs : Stirs before after) :
    Bustles before after := by
  induction stirs with
  | refl => exact .refl
  | tail _ stir step => exact step.tail (.stir stir)

/-- A call on behalf of a cache is the call of somebody else after the cache's note of it. -/
theorem callMonitor_some (cache : CacheId) (monitor : String) (loop : Loop S) :
    loop.callMonitor (some cache) monitor =
      (loop.note (.called cache monitor (loop.seen cache))).callMonitor none monitor := rfl

/-- What one monitor does in a round, after the note of its call. -/
theorem notifyOne_stirs (cache : CacheId) (registration : Registration) (loop : Loop S) :
    Stirs (loop.note (.called cache registration.monitor (loop.seen cache)))
      (loop.notifyOne cache registration) := by
  have called := callMonitor_stirs registration.monitor
    (loop.note (.called cache registration.monitor (loop.seen cache)))
  unfold notifyOne
  rw [callMonitor_some]
  split
  · next after error result =>
    rw [result] at called
    exact called.tail (.note _ _ rfl rfl)
  · next after deed result =>
    rw [result] at called
    exact called.trans (startDeed_stirs _ _ _ _)
  · next after value result =>
    rw [result] at called
    exact called

/-- All that happens in a round of calls is of these kinds. -/
theorem notify_bustles (cache : CacheId) (loop : Loop S) : Bustles loop (loop.notify cache) := by
  unfold notify
  refine foldl_relates (fun _ => .refl) .trans (fun loop registration => ?_) _ loop
  exact .head (.call loop cache registration.monitor)
    (notifyOne_stirs cache registration loop).bustles

/-! ## Frames -/

section Frames

variable (loop : Loop S)

/-- The tickets and alarms are counted on. -/
theorem count_stir (tickets alarms : Nat) : Stir loop { loop with tickets, alarms } :=
  .aside loop loop.serial tickets alarms loop.names loop.tokens

theorem itemDone_stirs (cache : CacheId) : Stirs loop (loop.itemDone cache) := by
  unfold itemDone
  split
  · exact .refl
  · next backlog known =>
    have done : Stir loop (loop.modifyCache cache fun cache =>
        { cache with backlog := some backlog.done.2 }) := by
      refine .tend loop cache _ fun other found => ⟨_, _, _, rfl, ?_⟩
      rw [found] at known
      rw [show other.backlog = some backlog from known]
      simp [Cache.done_items]
    exact .head done (foldl_stirs _ (fun loop joiner => .wake loop joiner .goOn (.inl rfl)) _ _)

/-- A call of the service does what the service does, and may count on tickets or alarms. -/
theorem serviceTurn_loop (self : TaskId) (point : S.Point) (wake : Wake S.Reply) :
    ∃ tickets alarms, (loop.serviceTurn self point wake).1 =
      { loop.react self point wake with tickets, alarms } := by
  unfold serviceTurn
  dsimp only
  split
  · exact ⟨_, _, rfl⟩
  · exact ⟨_, _, rfl⟩
  · exact ⟨_, _, rfl⟩
  · exact ⟨_, _, rfl⟩

theorem closeTurn_stirs (self : TaskId) {cache : CacheId} {known : Cache} (isJoining : Bool)
    (wake : Wake S.Reply) (found : loop.caches[cache]? = some known) :
    Stirs loop (loop.closeTurn self cache known isJoining wake).1 := by
  unfold closeTurn
  split
  · have forgotten : Stirs loop ((loop.shut cache known.handle).modifyCache cache fun cache =>
        { cache with worker := none }) :=
      .tail (.single (.shut loop cache known found))
        (.tend _ cache _ fun known _ => ⟨_, _, _, rfl, rfl⟩)
    dsimp only
    split
    · exact forgotten
    · split
      · exact forgotten
      · exact forgotten.tail (.hook _ _ _ fun _ _ => Hook.noConfusion)
  · exact .refl
  · exact .refl

theorem enterTurn_stirs (cache : CacheId) (isStarting : Bool) (wake : Wake S.Reply) :
    Stirs loop (loop.enterTurn cache isStarting wake).1 := by
  unfold enterTurn
  split <;> exact .refl

theorem waitTurn_stirs (self : TaskId) (cache : CacheId) (known : Cache) (stage : WaitStage)
    (wake : Wake S.Reply) : Stirs loop (loop.waitTurn self cache known stage wake).1 := by
  unfold waitTurn
  split
  · exact .refl
  · split
    · exact .refl
    · exact foldl_stirs _ (fun loop task => .hook loop task _ fun _ _ => Hook.noConfusion) _ loop
  · split
    · exact .single (.tend loop cache _ fun known _ =>
        Cache.tends_backlog (Backlog.join self) (fun _ => rfl) known)
    · exact .refl
  · split <;> exact .refl

theorem deedEnds_stirs (monitor : String) (deed : Deed) :
    Stirs loop (loop.deedEnds monitor deed).1 := by
  unfold deedEnds
  dsimp only
  split
  · exact .single (.note loop _ rfl rfl)
  · exact .refl

theorem deedTurn_stirs (monitor : String) (deed : Deed) (stage : DeedStage)
    (wake : Wake S.Reply) : Stirs loop (loop.deedTurn monitor deed stage wake).1 := by
  unfold deedTurn
  split
  · split
    · exact deedEnds_stirs loop monitor _
    · exact deedEnds_stirs loop monitor _
    · exact .refl
    · exact .single (count_stir loop _ _)
    · exact .refl
    · exact .refl
    · exact .refl
  · exact .refl
  · exact .refl
  · exact .refl
  · exact deedEnds_stirs loop monitor deed

theorem isPath_of_asPath {value : Value} {path : String} (isPath : value.asPath = .ok path) :
    Path.fault? path = none := by
  cases value with
  | text text =>
    cases fault : Path.fault? text with
    | none =>
      simp only [Value.asPath, Path.check, fault, Except.mapError, Except.ok.injEq] at isPath
      exact isPath ▸ fault
    | some error => simp [Value.asPath, Path.check, fault, Except.mapError] at isPath
  | _ => cases isPath

theorem makeCache_stirs (name : String) (handle : Option Handle) (path compressed : Value) :
    Stirs loop (loop.makeCache name handle path compressed).1 := by
  have counted : Stirs loop { loop with serial := loop.serial + 1 } :=
    .single (.aside loop _ loop.tickets loop.alarms loop.names loop.tokens)
  unfold makeCache
  dsimp only
  split
  · exact counted
  · next isPath =>
      exact counted.tail (.create _ _ ⟨rfl, rfl, rfl, rfl, rfl⟩ (isPath_of_asPath isPath))

theorem openSessionTurn_stirs (source : Source) (defaultFile : SettingsFile)
    (handle : Option Handle) (wake : Wake S.Reply) :
    Stirs loop (loop.openSessionTurn source defaultFile handle wake).1 := by
  unfold openSessionTurn
  split
  · split
    · exact .refl
    · next settings _ =>
      have connected : Stirs loop (loop.connect settings).1 := .single (.connect loop settings)
      split
      · next result =>
        rw [result] at connected
        exact connected
      · next result =>
        rw [result] at connected
        exact connected
  · exact .single (.adopt loop _)
  · exact .refl
  · exact .refl

theorem startNew_stirs (opening : Opening) (options : CacheOptions) (handle : Option Handle)
    (session : Option Handle) : Stirs loop (loop.startNew opening options handle session).1 := by
  have made := makeCache_stirs loop opening.name handle opening.path options.compressed
  unfold startNew
  split
  · next result =>
    rw [result] at made
    exact made
  · next result =>
    rw [result] at made
    exact made

theorem openCacheTurn_stirs (opening : Opening) (stage : OpenStage) (wake : Wake S.Reply) :
    Stirs loop (loop.openCacheTurn opening stage wake).1 := by
  unfold openCacheTurn
  split
  · split
    · exact .refl
    · next settings options _ =>
      split
      · have connected : Stirs loop (loop.connect settings).1 := .single (.connect loop settings)
        split
        · next result =>
          rw [result] at connected
          exact connected
        · next result =>
          rw [result] at connected
          exact connected
      · exact startNew_stirs loop opening options _ none
  · exact startNew_stirs loop opening _ _ _
  · have named : ∀ cache, Stirs loop
        { loop with names := Table.put opening.name cache loop.names } := fun cache =>
      .single (.aside loop loop.serial loop.tickets loop.alarms _ loop.tokens)
    dsimp only
    split
    · exact (named _).tail (.adopt _ _)
    · exact named _
  · exact .refl
  · exact .refl

/-- All that the other frames do is of these kinds. -/
theorem frameTurn_stirs (self : TaskId) (frame : Frame S.Point) (wake : Wake S.Reply)
    (isOther : ¬ frame.isOwnWork) (isNoCall : ¬ frame.isService) :
    Stirs loop (loop.frameTurn self frame wake).1 := by
  cases frame with
  | service point => exact absurd trivial isNoCall
  | deed monitor deed stage => exact deedTurn_stirs loop monitor deed stage wake
  | openSession source defaultFile handle =>
    exact openSessionTurn_stirs loop source defaultFile handle wake
  | openCache opening stage => exact openCacheTurn_stirs loop opening stage wake
  | worker cache stage => exact absurd trivial isOther
  | start cache buildInitial stage => exact absurd trivial isOther
  | rebuild cache isReading => exact absurd trivial isOther
  | close cache isJoining =>
    unfold frameTurn
    dsimp only
    split
    · next known found => exact closeTurn_stirs loop self isJoining wake found
    · exact .refl
  | wait cache stage =>
    unfold frameTurn
    dsimp only
    split
    · exact waitTurn_stirs loop self cache _ stage wake
    · exact .refl
  | enter cache isStarting =>
    unfold frameTurn
    dsimp only
    split
    · exact enterTurn_stirs loop cache isStarting wake
    · exact .refl

end Frames

/-! ## Hooks and commands -/

section Commands

variable (loop : Loop S)

theorem deedDone_stirs (cache : CacheId) (task : TaskId) (outcome : Outcome Answer) :
    Stirs loop (loop.deedDone cache task outcome) := by
  have left : Stirs loop (loop.modifyCache cache fun cache =>
      { cache with pending := cache.pending.filter (· ≠ task) }) :=
    .single (.tend loop cache _ fun known _ => ⟨_, _, _, rfl, rfl⟩)
  unfold deedDone
  dsimp only
  split
  · exact left.tail (.note _ _ rfl rfl)
  · exact left

/-- All that comes of a hook is of these kinds, unless it is the answer to a request of a cache. -/
theorem runHook_stirs (hook : Hook) (task : TaskId) (outcome : Outcome Answer)
    (isPlain : ∀ cache query, hook ≠ .answered cache query) :
    Stirs loop (loop.runHook hook task outcome) := by
  cases hook with
  | resume waiter => exact .single (.wake loop waiter _ (.inr ⟨outcome, rfl⟩))
  | answered cache query => exact absurd rfl (isPlain cache query)
  | deedDone cache => exact deedDone_stirs loop cache task outcome
  | count waiter => exact .single (.count loop waiter)

theorem launch_stir (frame : Frame S.Point) (isOpening : frame.isOpening) :
    Stir loop (loop.launch frame).1 := .spawn loop .caller frame (.inl rfl) isOpening

theorem callToken_stirs (token : String) : Stirs loop (loop.callToken token).1 := by
  unfold callToken
  split
  · exact .refl
  · next token _ =>
    have called := callMonitor_stirs token.monitor loop
    split
    · next result =>
      rw [result] at called
      exact called
    · next result =>
      rw [result] at called
      exact called
    · next result =>
      rw [result] at called
      exact called.tail (launch_stir _ _ rfl)

theorem keepMonitor_stirs (cache : CacheId) (monitor token : String) :
    Stirs loop (loop.keepMonitor cache monitor token).1 := by
  have added := addMonitor_stirs cache monitor loop
  unfold keepMonitor
  split
  · next result =>
    rw [result] at added
    exact added
  · next after registration result =>
    rw [result] at added
    exact added.tail (.aside after after.serial after.tickets after.alarms after.names _)

theorem removeFrom_stirs (cache : CacheId) (removal : Removal) :
    Stirs loop (loop.removeFrom cache removal).1 := by
  unfold removeFrom
  split
  · exact .single (removeId_stir cache _ loop)
  · exact .single (removeMonitor_stir cache _ loop)
  · exact .refl
  · split
    · exact .single (removeId_stir cache _ loop)
    · exact .refl

theorem withCache_keeps {holds : Loop S → Prop} (name : String) (action : CacheId → Effected S)
    (start : holds loop) (each : ∀ cache, holds (action cache).1) :
    holds (loop.withCache name action).1 := by
  unfold withCache
  split
  · exact each _
  · exact start

end Commands

end Loop

/-- The command gives a cache its view, releases held requests, or is for the service. -/
def Command.isSpecial : Command S → Prop
  | .install .. | .release .. | .operate _ | .occur _ | .advance _ => True
  | _ => False

namespace Loop

/-- All that the other commands do is of these kinds. -/
theorem command_stirs (loop : Loop S) (command : Command S) (isOther : ¬ command.isSpecial) :
    Stirs loop (loop.command command).1 := by
  have launched : ∀ frame : Frame S.Point, frame.isOpening → Stirs loop (loop.launch frame).1 :=
    fun frame isOpening => .single (launch_stir loop frame isOpening)
  cases command with
  | make name path compressed =>
    have made := makeCache_stirs loop name (S.current loop.service) path compressed
    unfold Loop.command
    dsimp only
    split
    · next result =>
      rw [result] at made
      exact made
    · next after cache result =>
      rw [result] at made
      exact made.tail (.aside after after.serial after.tickets after.alarms _ after.tokens)
  | start name _ => exact withCache_keeps loop name _ .refl fun _ => launched _ rfl
  | close name => exact withCache_keeps loop name _ .refl fun _ => launched _ rfl
  | rebuild name => exact withCache_keeps loop name _ .refl fun _ => launched _ rfl
  | wait name => exact withCache_keeps loop name _ .refl fun _ => launched _ rfl
  | enter name => exact withCache_keeps loop name _ .refl fun _ => launched _ rfl
  | reset name => exact withCache_keeps loop name _ .refl fun cache => .single (.reset loop cache)
  | get name => exact withCache_keeps loop name _ .refl fun _ => .refl
  | addMonitor name monitor token =>
    exact withCache_keeps loop name _ .refl fun cache => keepMonitor_stirs loop cache monitor token
  | remove name removal =>
    exact withCache_keeps loop name _ .refl fun cache => removeFrom_stirs loop cache removal
  | cancelToken token => exact cancelToken_stirs token loop
  | callToken token => exact callToken_stirs loop token
  | settle => exact .refl
  | openSession source defaultFile => exact launched _ rfl
  | openCache opening => exact launched _ rfl
  | install name path stat data => exact absurd trivial isOther
  | release tickets release => exact absurd trivial isOther
  | operate operation => exact absurd trivial isOther
  | occur event => exact absurd trivial isOther
  | advance span => exact absurd trivial isOther

/-- What a command is, by what it does. -/
inductive IsOrder (loop : Loop S) (command : Command S) : Loop S → Prop
  | stirs {after : Loop S} (stirs : Stirs loop after) : IsOrder loop command after
  /-- Something is asked of the service, maybe after something has happened there. -/
  | call {after : Loop S} (stirs : Stirs loop after) (point : S.Point) :
      IsOrder loop command (after.spawn .caller (.service point))
  /-- Held requests are released. -/
  | release (tickets : List Nat) (release : Release S.Reply)
      (same : command = .release tickets release) :
      IsOrder loop command (loop.releaseAll release tickets).1
  /-- A cache is given a view. -/
  | install (name : String) (cache : CacheId) (path : Option String) (stat : Option Stat)
      (data : Option (List UInt8)) (same : command = .install name path stat data) :
      IsOrder loop command (loop.installFrom cache path stat data).1

theorem command_isOrder (loop : Loop S) (command : Command S) (isMomentary : command.isMomentary) :
    IsOrder loop command (loop.command command).1 := by
  by_cases isSpecial : command.isSpecial
  · cases command with
    | install name path stat data =>
      exact withCache_keeps loop name _ (.stirs .refl) fun cache =>
        .install name cache path stat data rfl
    | release tickets release => exact .release tickets release rfl
    | operate operation => exact .call .refl _
    | occur event =>
      have happened : Stirs loop (loop.happen event).1 := .single (.happen loop event)
      unfold Loop.command
      dsimp only
      split
      · next result =>
        rw [result] at happened
        exact .stirs happened
      · next result =>
        rw [result] at happened
        exact .stirs happened
      · next after point result =>
        rw [result] at happened
        exact .call happened point
    | advance span => simp [Command.isMomentary] at isMomentary
    | _ => exact isSpecial.elim
  · exact .stirs (command_stirs loop command isSpecial)

end Loop

end WatchedNode
