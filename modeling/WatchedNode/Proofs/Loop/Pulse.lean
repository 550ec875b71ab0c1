/-
**What a step amounts to for the service.**

For what passes between the service and the caches, most of what the loop does is the same: tasks
change, an entry is written, a cache grows older without changing what it believes of the
connection. A `Pulse` is one such thing, or one at the service with all its effects. Whatever
happens is a number of pulses (`Happens.pulses`), if each start that is under way is the start of a
cache that has begun (`StartsAreBegun`): it is only such caches that add their listeners.
-/
import WatchedNode.Proofs.Loop.Calm
import WatchedNode.Proofs.Loop.Toil

namespace WatchedNode

open Relation

variable {S : Service}

/-- What a cache is told of the connection's state. -/
def Entry.told? {Call : Type} (cache : CacheId) : Entry Call → Option Link
  | .told owner link => if owner = cache then some link else none
  | _ => none

theorem Entry.told?_of_isShown {Call : Type} {entry : Entry Call} (isShown : entry.isShown)
    (cache : CacheId) : entry.told? cache = none := by
  cases entry with
  | told owner link => cases isShown
  | _ => rfl

/-- The frame is the start of a cache, and has asked for its directories. -/
def Frame.isUnderWay {Point : Type} (cache : CacheId) : Frame Point → Prop
  | .start owner _ stage => owner = cache ∧ stage ≠ .beginning
  | _ => False

namespace Loop

/-- A cache that is there has been started. -/
def HasBegun (cache : CacheId) (loop : Loop S) : Prop :=
  ∃ known, loop.caches[cache]? = some known ∧ known.phase ≠ .latent

/-- Where a start is under way, the cache has begun. -/
def StartsAreBegun (loop : Loop S) : Prop :=
  ∀ (task : TaskId) (known : Task S) (frame : Frame S.Point) (cache : CacheId),
    loop.tasks[task]? = some known → frame ∈ known.frames → frame.isUnderWay cache →
      loop.HasBegun cache

/-- One thing, as far as it matters to the service and to what caches believe. -/
inductive Pulse : Loop S → Loop S → Prop
  | tasks (before after : Loop S) (service : after.service = before.service)
      (caches : after.caches = before.caches) (journal : after.journal = before.journal) :
      Pulse before after
  | note (loop : Loop S) (entry : Entry S.Call) (isOther : ∀ cache, entry.told? cache = none) :
      Pulse loop (loop.note entry)
  | modify (loop : Loop S) (cache : CacheId) (change : Cache → Cache)
      (keeps : ∀ known, loop.caches[cache]? = some known →
        known.Ages (change known) ∧ (change known).connected = known.connected) :
      Pulse loop (loop.modifyCache cache change)
  | create (loop : Loop S) (known : Cache) (isNew : known.IsNew)
      (isPath : Path.fault? known.path = none) :
      Pulse loop { loop with caches := loop.caches ++ [known] }
  | happen (loop : Loop S) (event : S.Event) : Pulse loop (loop.happen event).1
  | call (loop : Loop S) (self : TaskId) (point : S.Point) (wake : Wake S.Reply) :
      Pulse loop (loop.react self point wake)
  | connect (loop : Loop S) (settings : Value) : Pulse loop (loop.connect settings).1
  | adopt (loop : Loop S) (handle : Handle) :
      Pulse loop (loop.setService (S.adopt handle loop.service))
  | listen (loop : Loop S) (cache : CacheId) (known : Cache)
      (found : loop.caches[cache]? = some known) (isBegun : known.phase ≠ .latent) :
      Pulse loop (loop.setService (S.listen known.handle (.cache cache) loop.service))
  | unlisten (loop : Loop S) (cache : CacheId) (handle : Option Handle)
      (isOver : ∀ known, loop.caches[cache]? = some known → known.phase ≠ .started) :
      Pulse loop (loop.setService (S.unlisten handle (.cache cache) loop.service))

/-- Several of them. -/
abbrev Pulses : Loop S → Loop S → Prop := ReflTransGen Pulse

/-! ## Caches -/

/-- Every cache grows older. -/
def Grows (before after : Loop S) : Prop :=
  ∀ (cache : CacheId) (known : Cache), before.caches[cache]? = some known →
    ∃ known', after.caches[cache]? = some known' ∧ known.Ages known'

theorem Grows.of_eq {before after : Loop S} (caches : after.caches = before.caches) :
    Grows before after := fun _ known found => ⟨known, caches ▸ found, .refl known⟩

theorem Grows.trans {first second third : Loop S} (left : Grows first second)
    (right : Grows second third) : Grows first third := by
  intro cache known found
  obtain ⟨known', found', ages⟩ := left cache known found
  obtain ⟨known'', found'', ages'⟩ := right cache known' found'
  exact ⟨known'', found'', ages.trans ages'⟩

theorem Calm.grows {before after : Loop S} (calm : Calm before after) : Grows before after := by
  intro cache known found
  obtain ⟨known', found', ages, -⟩ := calm.caches cache known found
  exact ⟨known', found', ages⟩

theorem Pulse.grows {before after : Loop S} (pulse : Pulse before after) : Grows before after := by
  cases pulse with
  | tasks _ _ caches _ => exact .of_eq caches
  | note entry _ => exact .of_eq rfl
  | modify cache change keeps =>
    intro other known found
    by_cases here : cache = other
    · subst here
      exact ⟨_, modifyCache_self found change, (keeps known found).1⟩
    · exact ⟨known, (modifyCache_of_ne before here change).trans found, .refl known⟩
  | create known isNew => exact (create_calm isNew before).grows
  | happen event => exact (happen_calm event before).grows
  | call self point wake => exact ((setService_calm before _).trans (perform_calm _ _)).grows
  | connect settings => exact (connect_calm settings before).grows
  | adopt handle => exact .of_eq rfl
  | listen cache known _ _ => exact .of_eq rfl
  | unlisten cache handle _ => exact .of_eq rfl

theorem Pulses.grows {before after : Loop S} (pulses : Pulses before after) :
    Grows before after := by
  induction pulses with
  | refl => exact .of_eq rfl
  | tail _ pulse step => exact step.trans pulse.grows

theorem Grows.hasBegun {before after : Loop S} (grows : Grows before after) {cache : CacheId}
    (hasBegun : before.HasBegun cache) : after.HasBegun cache := by
  obtain ⟨known, found, begun⟩ := hasBegun
  obtain ⟨known', found', ages⟩ := grows cache known found
  exact ⟨known', found', ages.isBegun begun⟩

/-! ## What others do -/

theorem wake_pulse (task : TaskId) (why : Wake S.Reply) (loop : Loop S) :
    Pulse loop (loop.wake task why) := .tasks _ _ (by simp) (by simp) (by simp)

theorem spawn_pulse (role : Role) (frame : Frame S.Point) (loop : Loop S) :
    Pulse loop (loop.spawn role frame) := .tasks _ _ rfl rfl rfl

theorem addHook_pulse (task : TaskId) (hook : Hook) (loop : Loop S) :
    Pulse loop (loop.addHook task hook) := .tasks _ _ (by simp) (by simp) (by simp)

/-- A change of something about a cache that it does not keep for good. -/
theorem modify_pulse (loop : Loop S) (cache : CacheId) (change : Cache → Cache)
    (same : ∀ known : Cache, (change known).path = known.path ∧
      (change known).handle = known.handle ∧ (change known).compressed = known.compressed ∧
      (change known).phase = known.phase ∧ (change known).registrations = known.registrations ∧
      (change known).nextId = known.nextId ∧ (change known).connected = known.connected) :
      Pulse loop (loop.modifyCache cache change) := by
  refine .modify loop cache change fun known _ => ?_
  obtain ⟨path, handle, compressed, phase, registrations, nextId, connected⟩ := same known
  exact ⟨.of_eq path handle compressed phase registrations nextId, connected⟩

theorem post_pulses (cache : CacheId) (item : Item) (loop : Loop S) :
    Pulses loop (loop.post cache item) := by
  unfold post
  split
  · exact .refl
  · next backlog _ =>
    have put : Pulses loop (loop.modifyCache cache fun cache =>
        { cache with backlog := some (backlog.put item) }) :=
      .single (modify_pulse loop cache _ fun _ => ⟨rfl, rfl, rfl, rfl, rfl, rfl, rfl⟩)
    dsimp only
    split
    · exact put.tail (wake_pulse _ _ _)
    · exact put

theorem refresh_pulses (cache : CacheId) (loop : Loop S) : Pulses loop (loop.refresh cache) := by
  unfold refresh
  split
  · exact post_pulses cache .check loop
  · exact .refl

/-- After that a cache does not run. -/
theorem stopCache_phase {cache : CacheId} {known : Cache} {loop : Loop S}
    (found : (loop.stopCache cache).caches[cache]? = some known) : known.phase ≠ .started := by
  unfold stopCache at found
  split at found
  · have posted := (post_calm cache .stop (loop.modifyCache cache fun cache =>
      { cache with phase := .closed, registrations := [] })).caches cache
    cases there : loop.caches[cache]? with
    | none =>
      next running => simp [there] at running
    | some old =>
      obtain ⟨known', found', ages, -⟩ := posted _ (modifyCache_self there _)
      cases found.symm.trans found'
      rw [ages.isClosed rfl]
      exact Phase.noConfusion
  · next idle =>
    intro started
    simp [found, Cache.isRunning, started] at idle

theorem stopCache_pulses (cache : CacheId) (loop : Loop S) :
    Pulses loop (loop.stopCache cache) := by
  unfold stopCache
  split
  · refine .head ?_ (post_pulses cache .stop _)
    exact .modify loop cache _ fun known _ => ⟨.close known, rfl⟩
  · exact .refl

theorem Stir.pulses {before after : Loop S} (stir : Stir before after) : Pulses before after := by
  cases stir with
  | note entry isShown =>
    exact .single (.note _ entry (Entry.told?_of_isShown isShown))
  | reset cache => exact .head (.note _ _ fun _ => rfl) (refresh_pulses cache _)
  | register cache change isOnly =>
    refine .single (.modify _ cache change fun known found => ?_)
    have registers := isOnly known found
    obtain ⟨registrations, nextId, changed⟩ := registers.1
    exact ⟨registers.ages, by rw [changed]⟩
  | tend cache change isOnly =>
    refine .single (.modify _ cache change fun known found => ?_)
    have tends := isOnly known found
    refine ⟨tends.ages, ?_⟩
    obtain ⟨pending, worker, backlog, changed, -⟩ := tends
    rw [changed]
  | happen event => exact .single (.happen _ event)
  | connect settings => exact .single (.connect _ settings)
  | adopt handle => exact .single (.adopt _ handle)
  | shut cache known found =>
    exact (stopCache_pulses cache _).tail
      (.unlisten _ cache known.handle fun _ found => stopCache_phase found)
  | create known isNew isPath => exact .single (.create _ known isNew isPath)
  | spawn role frame isOwn isOpening => exact .single (spawn_pulse role frame _)
  | wake task why isPlain => exact .single (wake_pulse _ _ _)
  | count task => exact .single (.tasks _ _ (by simp) (by simp) (by simp))
  | hook task hook isPlain => exact .single (addHook_pulse task hook _)
  | aside serial tickets alarms names tokens => exact .single (.tasks _ _ rfl rfl rfl)

/-! ## A cache's own work -/

theorem setData_pulses (cache : CacheId) (data : Snapshot) (isSilent : Bool) (loop : Loop S) :
    Pulses loop (loop.setData cache data isSilent) := by
  have changed : Pulses loop (loop.modifyCache cache fun cache => { cache with data }) :=
    .single (modify_pulse loop cache _ fun _ => ⟨rfl, rfl, rfl, rfl, rfl, rfl, rfl⟩)
  exact changed.tail (.note _ _ fun _ => rfl)

theorem ask_pulses (cache : CacheId) (query : Query) (loop : Loop S) :
    Pulses loop (loop.ask cache query) := by
  cases found : loop.caches[cache]? with
  | none =>
    rw [ask_none query found]
  | some known =>
    rw [ask_eq query found]
    refine .head (.note loop (.asked cache loop.tasks.length (queryRequest cache known query))
      fun _ => rfl) ?_
    refine .head (spawn_pulse (.request cache query)
      (requestFrame known (queryRequest cache known query)) _) ?_
    refine .head ?_ (.single (addHook_pulse _ _ _))
    exact modify_pulse _ cache _ fun _ => ⟨rfl, rfl, rfl, rfl, rfl, rfl, rfl⟩

theorem begin_pulses {cache : CacheId} {known : Cache} {loop : Loop S}
    (found : loop.caches[cache]? = some known) (isLatent : known.phase = .latent) :
    Pulses loop (loop.begin cache) := by
  refine .head ?_ (.single (spawn_pulse _ _ _))
  refine .modify loop cache _ fun other same => ?_
  cases found.symm.trans same
  exact ⟨.begin isLatent _ _, rfl⟩

theorem Toil.pulses {before after : Loop S} (toil : Toil before after) : Pulses before after := by
  cases toil with
  | stir stir => exact stir.pulses
  | call cache monitor => exact .single (.note _ _ fun _ => rfl)
  | asked cache task request => exact .single (.note _ _ fun _ => rfl)
  | setData cache data isSilent => exact setData_pulses cache data isSilent before
  | ask cache query => exact ask_pulses cache query before
  | post cache item => exact post_pulses cache item before
  | refresh cache => exact refresh_pulses cache before
  | begin cache known found isLatent => exact begin_pulses found isLatent

theorem Toils.pulses {before after : Loop S} (toils : Toils before after) :
    Pulses before after := by
  induction toils with
  | refl => exact .refl
  | tail _ toil step => exact step.trans toil.pulses

/-! ## Everything that happens -/

theorem Prepares.pulses {frame : Frame S.Point} {wake : Wake S.Reply} {before after : Loop S}
    (prepares : Prepares frame wake before after)
    (isBegun : ∀ cache, frame.isUnderWay cache → before.HasBegun cache) : Pulses before after := by
  cases prepares with
  | nothing => exact .refl
  | @listen cache buildInitial answer known isStart isReady found =>
    have isUnderWay : frame.isUnderWay cache := by
      rw [isStart]
      exact ⟨rfl, StartStage.noConfusion⟩
    obtain ⟨known', found', begun⟩ := isBegun cache isUnderWay
    cases found.symm.trans found'
    exact .single (.listen before _ _ found begun)
  | take isWorker found isFirst =>
    exact .single (modify_pulse before _ _ fun _ => ⟨rfl, rfl, rfl, rfl, rfl, rfl, rfl⟩)

theorem frameTurn_pulses (self : TaskId) {frame : Frame S.Point} (wake : Wake S.Reply)
    (loop : Loop S) (isBegun : ∀ cache, frame.isUnderWay cache → loop.HasBegun cache) :
    Pulses loop (loop.frameTurn self frame wake).1 := by
  rcases frameTurn_kinds self frame wake loop with
    ⟨point, tickets, alarms, rfl, same⟩ | ⟨owner, middle, -, prepares, labours⟩
  · rw [same]
    exact .head (.call loop self point wake) (.single (.tasks _ _ rfl rfl rfl))
  · exact (prepares.pulses isBegun).trans labours.toils.pulses

theorem afterTurn_pulses (task : TaskId) (frame : Frame S.Point) (rest : List (Frame S.Point))
    (turn : Turn S) : Pulses turn.1 (afterTurn task frame rest turn) := by
  have noted : Pulses turn.1 (turn.1.noteEnd task frame turn.2) := by
    unfold noteEnd
    split
    · exact .single (.note _ _ fun _ => rfl)
    · exact .refl
  have moved := move_keeps (turn.1.noteEnd task frame turn.2) task rest turn.2
  exact noted.tail (.tasks _ _ moved.1 moved.2.1 moved.2.2)

theorem start_pulses (job : Job) (loop : Loop S) : Pulses loop (loop.start job) := by
  unfold start
  split
  · split
    · exact .single (.tasks _ _ rfl rfl rfl)
    · exact .single (.tasks _ _ rfl rfl rfl)
    · exact .single (.tasks _ _ (by simp) (by simp) (by simp))
    · exact .refl
  · next hook task =>
    split
    · next outcome _ =>
      obtain ⟨owner, labours⟩ := runHook_labours hook task outcome loop
      exact labours.toils.pulses
    · exact .refl

theorem StartsAreBegun.frame {loop : Loop S} (startsAreBegun : loop.StartsAreBegun) {task : TaskId}
    {frame : Frame S.Point} {rest : List (Frame S.Point)}
    (frames : (loop.tasks[task]?).map (·.frames) = some (frame :: rest)) (cache : CacheId)
    (isUnderWay : frame.isUnderWay cache) : loop.HasBegun cache := by
  obtain ⟨known, found, same⟩ := Option.map_eq_some_iff.mp frames
  exact startsAreBegun task known frame cache found (same ▸ List.mem_cons_self) isUnderWay

theorem step_pulses {loop : Loop S} (startsAreBegun : loop.StartsAreBegun) :
    Pulses loop loop.step := by
  have step := step_isStep loop
  generalize loop.step = after at step
  cases step with
  | @turn task wake frame rest isAt =>
    refine .head (.tasks loop loop.inTurn rfl rfl rfl) ?_
    refine .trans ?_ (afterTurn_pulses task frame rest _)
    exact frameTurn_pulses task wake loop.inTurn (startsAreBegun.frame isAt.frames)
  | pause turn _ => exact .single (.tasks _ _ rfl rfl rfl)
  | @job job ready turn isFirst =>
    exact .head (.tasks loop { loop with ready } rfl rfl rfl) (start_pulses job _)
  | rest turn => exact .refl

theorem command_pulses (loop : Loop S) (command : Command S) (isMomentary : command.isMomentary) :
    Pulses loop (loop.command command).1 := by
  have order := command_isOrder loop command isMomentary
  generalize (loop.command command).1 = after at order
  cases order with
  | stirs stirs => exact stirs.toils.pulses
  | call stirs point => exact stirs.toils.pulses.tail (spawn_pulse _ _ _)
  | release tickets release _ =>
    exact releaseAll_keeps loop release (fun _ _ pulses => pulses.tail (wake_pulse _ _ _)) tickets
      .refl
  | install name cache path stat data _ =>
    exact (installFrom_toils cache path stat data loop).pulses

/-- **Whatever happens is a number of pulses.** -/
theorem Happens.pulses {allowed : Outside S} {before after : Loop S}
    (happens : Happens allowed before after) (startsAreBegun : before.StartsAreBegun) :
    Pulses before after := by
  cases happens with
  | step => exact step_pulses startsAreBegun
  | command command _ isMomentary _ => exact command_pulses before command isMomentary
  | elapse time => exact .single (.tasks _ _ rfl rfl rfl)
  | ring => exact .single (.tasks _ _ (by simp) (by simp) (by simp))
  | decide scripts habits => exact .single (.tasks _ _ rfl rfl rfl)

end Loop

end WatchedNode
