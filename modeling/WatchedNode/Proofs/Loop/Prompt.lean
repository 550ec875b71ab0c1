/-
**Prompts.**

A cache is prompted to look at its node by a `check` in its backlog, and by a `resync`, which ends
with one. A prompt is never lost (`Retains`): whatever others do, and whatever a cache does in its
turns, the items that prompt it stay, but for the one that its worker takes. The connection comes
back with a `resync`. What a service tells a cache to be alarmed at prompts it, or stops it from
asking (`Alerts`).

The worker that takes a `check` asks, unless the cache may not (`workerTurn_prompt`); a start that
returns and a read that ends leave a `check` behind (`startTurn_prompts`, `workerTurn_resynced`).
What was asked since the connection was last back (`askedSince`) is not forgotten, as long as
nothing prompts the cache.
-/
import WatchedNode.Proofs.Loop.Requests

namespace WatchedNode

open Relation

variable {S : Service}

/-- The item makes a cache look at its node. -/
def Item.isPrompt : Item → Bool
  | .check | .resync => true
  | .looked _ | .fetched _ | .stop => false

/-- The cache may ask, and no item makes it look at its node. -/
structure Cache.IsUnprompted (cache : Cache) : Prop where
  isActive : cache.isActive = true
  items : ∃ backlog, cache.backlog = some backlog ∧ ∀ item ∈ backlog.items, item.isPrompt = false

/-- The items of a cache that nothing prompts were part of those of one that nothing prompts now. -/
theorem Cache.IsUnprompted.of_items {before after : Cache}
    (unprompted : after.IsUnprompted) (isActive : before.isActive = after.isActive)
    (items : ∀ backlog, after.backlog = some backlog → ∃ backlog', before.backlog = some backlog' ∧
      ∀ item ∈ backlog'.items, item ∈ backlog.items) : before.IsUnprompted := by
  obtain ⟨backlog, has, plain⟩ := unprompted.items
  obtain ⟨backlog', has', kept⟩ := items backlog has
  exact ⟨isActive.trans unprompted.isActive, backlog', has', fun item member =>
    plain item (kept item member)⟩

/-- What a cache has asked since it was last told that the connection is back, with the tasks that
made the requests; all it has asked, if it never was. -/
def askedSince {Call : Type} (cache : CacheId) : List (Entry Call) → List (TaskId × Request)
  | [] => []
  | .asked owner task request :: older =>
    if owner = cache then (task, request) :: askedSince cache older else askedSince cache older
  | .told owner link :: older =>
    if owner = cache ∧ link.isUp ∧ ¬ Link.isUpOrUnset (older.findSome? (Entry.told? cache)) then []
    else askedSince cache older
  | _ :: older => askedSince cache older

/-- What is not told to the cache takes nothing away from what it has asked. -/
theorem askedSince_cons {Call : Type} {cache : CacheId} {entry : Entry Call}
    (isOther : entry.told? cache = none) {older : List (Entry Call)} {asked : TaskId × Request}
    (member : asked ∈ askedSince cache older) : asked ∈ askedSince cache (entry :: older) := by
  cases entry with
  | asked owner task request =>
    unfold askedSince
    split
    · exact List.mem_cons_of_mem _ member
    · exact member
  | told owner link =>
    have different : owner ≠ cache := by
      rintro rfl
      simp [Entry.told?] at isOther
    simpa [askedSince, different] using member
  | _ => exact member

theorem askedSince_mem {Call : Type} {cache : CacheId} {task : TaskId} {request : Request}
    {journal : List (Entry Call)} (member : (task, request) ∈ askedSince cache journal) :
    .asked cache task request ∈ journal := by
  induction journal with
  | nil => cases member
  | cons entry older step =>
    cases entry with
    | asked owner asker other =>
      unfold askedSince at member
      split at member
      · next here =>
        rcases List.mem_cons.mp member with isNew | isOld
        · cases isNew
          rw [here]
          exact List.mem_cons_self
        · exact List.mem_cons_of_mem _ (step isOld)
      · exact List.mem_cons_of_mem _ (step member)
    | told owner link =>
      unfold askedSince at member
      split at member
      · cases member
      · exact List.mem_cons_of_mem _ (step member)
    | _ => exact List.mem_cons_of_mem _ (step member)

/-- The effect tells the cache that its node has changed, or that the connection is down. -/
def Effect.alarms {Call Point Reply : Type} (cache : CacheId) : Effect Call Point Reply → Prop
  | .fire (.cache owner) _ _ => owner = cache
  | .tell _ (.cache owner) link => owner = cache ∧ link.isUp = false
  | _ => False

namespace Loop

/-- What a cache has asked since the connection was last back. -/
def askedSince (cache : CacheId) (loop : Loop S) : List (TaskId × Request) :=
  WatchedNode.askedSince cache loop.journal

/-- The cache may ask, and no item makes it look at its node. -/
def IsUnprompted (cache : CacheId) (loop : Loop S) : Prop :=
  ∃ known, loop.caches[cache]? = some known ∧ known.IsUnprompted

/-! ## Prompts -/

/-- No prompt of the cache is lost in between, nor a request of its. -/
structure Retains (cache : CacheId) (before after : Loop S) : Prop where
  prompts : after.IsUnprompted cache → before.IsUnprompted cache
  asked (asked : TaskId × Request) : after.IsUnprompted cache → asked ∈ before.askedSince cache →
    asked ∈ after.askedSince cache

namespace Retains

variable {cache : CacheId} {first second third : Loop S}

theorem of_eq (caches : second.caches = first.caches) (journal : second.journal = first.journal) :
    Retains cache first second := by
  refine ⟨fun unprompted => ?_, fun asked _ member => ?_⟩
  · rwa [IsUnprompted, ← caches]
  · rwa [askedSince, journal]

theorem refl (loop : Loop S) : Retains cache loop loop := of_eq rfl rfl

theorem trans (left : Retains cache first second) (right : Retains cache second third) :
    Retains cache first third :=
  ⟨fun unprompted => left.prompts (right.prompts unprompted), fun asked unprompted member =>
    right.asked asked unprompted (left.asked asked (right.prompts unprompted) member)⟩

theorem note (loop : Loop S) {entry : Entry S.Call} (isOther : entry.told? cache = none) :
    Retains cache loop (loop.note entry) :=
  ⟨id, fun _ _ member => askedSince_cons isOther member⟩

theorem modify (loop : Loop S) (owner : CacheId) (change : Cache → Cache)
    (keeps : owner = cache → ∀ known, loop.caches[owner]? = some known →
      (change known).IsUnprompted → known.IsUnprompted) :
    Retains cache loop (loop.modifyCache owner change) := by
  refine ⟨?_, fun _ _ => id⟩
  rintro ⟨known, found, unprompted⟩
  by_cases here : owner = cache
  · subst here
    rw [modifyCache_caches, List.getElem?_modify_eq] at found
    obtain ⟨old, earlier, rfl⟩ := Option.map_eq_some_iff.mp found
    exact ⟨old, earlier, keeps rfl old earlier unprompted⟩
  · rw [modifyCache_of_ne loop here] at found
    exact ⟨known, found, unprompted⟩

end Retains

/-! ## Effects of a service -/

section Effects

variable {cache : CacheId}

theorem post_retains (owner : CacheId) (item : Item) (loop : Loop S) :
    Retains cache loop (loop.post owner item) := by
  unfold post
  split
  · exact .refl loop
  · next backlog isThere =>
    have put : Retains cache loop (loop.modifyCache owner fun cache =>
        { cache with backlog := some (backlog.put item) }) := by
      refine .modify loop owner _ fun _ known found unprompted => ?_
      rw [found] at isThere
      refine unprompted.of_items rfl fun after has => ⟨backlog, isThere, ?_⟩
      cases has
      exact fun item member => List.mem_append_left _ member
    dsimp only
    split
    · exact put.trans (.of_eq (by simp) (by simp))
    · exact put

theorem post_prompts {item : Item} (isPrompt : item.isPrompt = true) {known : Cache}
    {backlog : Backlog} {loop : Loop S} (found : loop.caches[cache]? = some known)
    (has : known.backlog = some backlog) : ¬ (loop.post cache item).IsUnprompted cache := by
  have put : ¬ (loop.modifyCache cache fun cache =>
      { cache with backlog := some (backlog.put item) }).IsUnprompted cache := by
    rintro ⟨after, found', -, items⟩
    rw [modifyCache_self found] at found'
    cases found'
    obtain ⟨backlog', has', plain⟩ := items
    cases has'
    rw [plain item (List.mem_append_right _ List.mem_cons_self)] at isPrompt
    cases isPrompt
  unfold post
  rw [found, Option.bind_some, has]
  dsimp only
  split
  · exact fun unprompted => put ((Retains.of_eq (by simp) (by simp)).prompts unprompted)
  · exact put

theorem refresh_retains (owner : CacheId) (loop : Loop S) :
    Retains cache loop (loop.refresh owner) := by
  unfold refresh
  split
  · exact post_retains owner .check loop
  · exact .refl loop

/-- A cache that has been told to look at its node is prompted, unless it may not ask. -/
theorem refresh_prompts (cache : CacheId) (loop : Loop S) :
    ¬ (loop.refresh cache).IsUnprompted cache := by
  intro unprompted
  obtain ⟨known, found, isActive, backlog, has, plain⟩ :=
    (refresh_retains cache loop).prompts unprompted
  unfold refresh at unprompted
  rw [found, Option.any_some, if_pos isActive] at unprompted
  exact post_prompts rfl found has unprompted

theorem believe_caches {known : Cache} {loop : Loop S} (found : loop.caches[cache]? = some known)
    (link : Link) :
    (loop.believe cache link).caches[cache]? = some { known with connected := link.isUp } :=
  modifyCache_self (show (loop.note (.told cache link)).caches[cache]? = some known from found) _

/-- A cache that is not prompted by what it is told was connected before. -/
theorem linkChanged_unprompted {known : Cache} {link : Link} {loop : Loop S}
    (found : loop.caches[cache]? = some known)
    (unprompted : (loop.linkChanged cache link).IsUnprompted cache) :
    known.connected = true ∧ (loop.believe cache link).IsUnprompted cache := by
  have believed := believe_caches found link
  unfold linkChanged at unprompted
  rw [found] at unprompted
  dsimp only at unprompted
  split at unprompted
  · obtain ⟨known', found', -, backlog, has, -⟩ :=
      (post_retains cache .resync (loop.believe cache link)).prompts unprompted
    cases believed.symm.trans found'
    exact absurd unprompted (post_prompts rfl believed has)
  · next isSteady =>
    refine ⟨?_, unprompted⟩
    obtain ⟨known', found', isActive, -⟩ := unprompted
    cases believed.symm.trans found'
    simp only [Cache.isActive, Cache.isRunning, Bool.and_eq_true] at isActive isSteady
    simpa [isActive.1, isActive.2] using isSteady

/-- The connection comes back with a prompt. -/
theorem linkChanged_retains (owner : CacheId) (link : Link) {loop : Loop S}
    (believes : loop.Believes) : Retains cache loop (loop.linkChanged owner link) := by
  cases found : loop.caches[owner]? with
  | none =>
    unfold linkChanged
    rw [found]
    exact .refl loop
  | some known =>
    by_cases here : owner = cache
    · subst here
      refine ⟨fun unprompted => ?_, fun asked unprompted member => ?_⟩
      · obtain ⟨connected, known', found', unprompted⟩ := linkChanged_unprompted found unprompted
        cases (believe_caches found link).symm.trans found'
        have isActive := unprompted.isActive
        simp only [Cache.isActive, Bool.and_eq_true] at isActive
        refine ⟨known, found, ?_, unprompted.items⟩
        simp only [Cache.isActive, Bool.and_eq_true]
        exact ⟨isActive.1, connected⟩
      · obtain ⟨connected, -⟩ := linkChanged_unprompted found unprompted
        rw [believes.flag owner known found, lastTold] at connected
        have journal :
            (loop.linkChanged owner link).journal = .told owner link :: loop.journal := by
          unfold linkChanged
          rw [found]
          dsimp only
          split
          · exact (post_keeps _ owner .resync).2.1
          · rfl
        unfold askedSince at member ⊢
        rw [journal, WatchedNode.askedSince]
        simpa [connected] using member
    · have told : Retains cache loop (loop.believe owner link) :=
        (Retains.note loop (by simp [Entry.told?, here])).trans (.modify _ owner _ (absurd · here))
      unfold linkChanged
      rw [found]
      dsimp only
      split
      · exact told.trans (post_retains owner .resync _)
      · exact told

theorem linkChanged_prompts (cache : CacheId) {link : Link} (isDown : link.isUp = false)
    (loop : Loop S) : ¬ (loop.linkChanged cache link).IsUnprompted cache := by
  rintro ⟨known, found, isActive, -⟩
  unfold linkChanged at found
  split at found
  · next unknown =>
    rw [unknown] at found
    cases found
  · next old isThere =>
    rw [isDown, Bool.false_and, Bool.false_and, if_neg Bool.false_ne_true,
      modifyCache_self (show (loop.note _).caches[cache]? = _ from isThere)] at found
    cases found
    simp [Cache.isActive] at isActive

theorem Ripple.retains {before after : Loop S} (ripple : Ripple before after)
    (believes : before.Believes) : Retains cache before after := by
  cases ripple with
  | note entry isShown => exact .note before (Entry.told?_of_isShown isShown cache)
  | told owner link => exact linkChanged_retains owner link believes
  | fired owner => exact .trans (.note before rfl) (refresh_retains owner _)
  | listeners handle habit => exact .of_eq rfl rfl
  | reply task reply => exact .of_eq (by simp) (by simp)
  | cancel task => exact .of_eq (by simp) (by simp)
  | errand point => exact .of_eq rfl rfl

theorem Ripples.retains {before after : Loop S} (ripples : Ripples before after)
    (believes : before.Believes) : after.Believes ∧ Retains cache before after := by
  induction ripples with
  | refl => exact ⟨believes, .refl before⟩
  | tail _ ripple step =>
    exact ⟨ripple.believes step.1, step.2.trans (ripple.retains step.1)⟩

theorem perform_retains (effects : List (Effect S.Call S.Point S.Reply)) {loop : Loop S}
    (believes : loop.Believes) : Retains cache loop (loop.perform effects) :=
  (Ripples.retains (perform_ripples effects loop) believes).2

/-- One of the effects alarms the cache. -/
def Alerts (cache : CacheId) (effects : List (Effect S.Call S.Point S.Reply)) : Prop :=
  ∃ effect ∈ effects, effect.alarms cache

theorem effect_prompts {effect : Effect S.Call S.Point S.Reply} (alarms : effect.alarms cache)
    (loop : Loop S) : ¬ (loop.effect effect).IsUnprompted cache := by
  cases effect with
  | fire watcher key news =>
    cases watcher with
    | cache owner =>
      cases alarms
      exact refresh_prompts _ (loop.note _)
    | named name => exact alarms.elim
  | tell handle listener link =>
    cases listener with
    | cache owner =>
      obtain ⟨rfl, isDown⟩ := alarms
      exact linkChanged_prompts owner isDown loop
    | named name => exact alarms.elim
  | _ => exact alarms.elim

/-- **After an alert the cache is prompted, or may not ask.** -/
theorem Alerts.prompts {effects : List (Effect S.Call S.Point S.Reply)}
    (alerts : Alerts cache effects) {loop : Loop S} (believes : loop.Believes) :
    ¬ (loop.perform effects).IsUnprompted cache := by
  obtain ⟨effect, member, alarms⟩ := alerts
  obtain ⟨first, rest, rfl⟩ := List.append_of_mem member
  have earlier : (loop.perform first).Believes := perform_believes first believes
  have there : ((loop.perform first).effect effect).Believes := perform_believes [effect] earlier
  intro unprompted
  rw [perform, List.foldl_append, List.foldl_cons] at unprompted
  exact effect_prompts alarms _ ((perform_retains rest there).prompts unprompted)

end Effects

/-! ## Everything in a turn -/

section Toils

variable {cache : CacheId} {before after : Loop S}

theorem happen_retains (event : S.Event) {loop : Loop S} (believes : loop.Believes) :
    Retains cache loop (loop.happen event).1 := by
  unfold happen
  split
  · exact .refl loop
  · next occurrence _ =>
    have set : Retains cache loop (loop.setService occurrence.state) := .of_eq rfl rfl
    exact set.trans (perform_retains _ (setService_believes _ believes))

theorem connect_retains (settings : Value) {loop : Loop S} (believes : loop.Believes) :
    Retains cache loop (loop.connect settings).1 := by
  unfold connect
  split
  · exact .refl loop
  · split
    · exact .refl loop
    · next state _ _ _ =>
      have set : Retains cache loop (loop.setService state) := .of_eq rfl rfl
      exact set.trans (perform_retains _ (setService_believes _ believes))

theorem stopCache_retains (owner : CacheId) (loop : Loop S) :
    Retains cache loop (loop.stopCache owner) := by
  unfold stopCache
  split
  · refine .trans (.modify loop owner _ fun _ known found unprompted => ?_)
      (post_retains owner .stop _)
    have isActive := unprompted.isActive
    simp [Cache.isActive, Cache.isRunning] at isActive
  · exact .refl loop

theorem Stir.retains (stir : Stir before after) (believes : before.Believes) :
    Retains cache before after := by
  cases stir with
  | note entry isShown => exact .note before (Entry.told?_of_isShown isShown cache)
  | reset owner => exact .trans (.note before rfl) (refresh_retains owner _)
  | register owner change isOnly =>
    refine .modify before owner change fun _ known found unprompted => ?_
    obtain ⟨⟨registrations, nextId, changed⟩, -⟩ := isOnly known found
    rw [changed] at unprompted
    exact unprompted.of_items rfl fun backlog has => ⟨backlog, has, fun _ => id⟩
  | tend owner change isOnly =>
    refine .modify before owner change fun _ known found unprompted => ?_
    obtain ⟨pending, worker, backlog, changed, items⟩ := isOnly known found
    rw [changed] at unprompted
    refine unprompted.of_items rfl fun after has => ?_
    rw [show backlog = some after from has, Option.map_some] at items
    obtain ⟨older, isOlder, same⟩ := Option.map_eq_some_iff.mp items.symm
    exact ⟨older, isOlder, fun item member => same ▸ member⟩
  | happen event => exact happen_retains event believes
  | connect settings => exact connect_retains settings believes
  | adopt handle => exact .of_eq rfl rfl
  | shut owner known found => exact (stopCache_retains owner before).trans (.of_eq rfl rfl)
  | create new isNew =>
    refine ⟨?_, fun _ _ => id⟩
    rintro ⟨known, found, unprompted⟩
    by_cases isOld : cache < before.caches.length
    · rw [List.getElem?_append_left isOld] at found
      exact ⟨known, found, unprompted⟩
    · rw [List.getElem?_append_right (Nat.le_of_not_lt isOld)] at found
      have isActive := unprompted.isActive
      rw [List.mem_singleton.mp (List.mem_of_getElem? found)] at isActive
      simp [Cache.isActive, Cache.isRunning, isNew.phase] at isActive
  | spawn role frame isOwn isOpening => exact .of_eq rfl rfl
  | wake task why isPlain => exact .of_eq (by simp) (by simp)
  | count task => exact .of_eq (by simp) (by simp)
  | hook task hook isPlain => exact .of_eq (by simp) (by simp)
  | aside serial tickets alarms names tokens => exact .of_eq rfl rfl

theorem ask_retains (owner : CacheId) (query : Query) (loop : Loop S) :
    Retains cache loop (loop.ask owner query) := by
  cases found : loop.caches[owner]? with
  | none =>
    rw [ask_none query found]
    exact .refl loop
  | some known =>
    let request := queryRequest owner known query
    have noted : Retains cache loop (loop.note (.asked owner loop.tasks.length request)) :=
      .note loop rfl
    have spawned : Retains cache loop ((loop.note (.asked owner loop.tasks.length request)).spawn
        (.request owner query) (requestFrame known request)) := noted.trans (.of_eq rfl rfl)
    have posed : Retains cache loop (loop.posed owner query known) := by
      refine spawned.trans (.modify _ owner _ fun _ known _ unprompted => ?_)
      exact unprompted.of_items rfl fun backlog has => ⟨backlog, has, fun _ => id⟩
    rw [ask_eq query found]
    exact posed.trans (.of_eq (by simp) (by simp))

theorem Toil.retains (toil : Toil before after) (believes : before.Believes)
    (hasBegun : before.HasBegun cache) : Retains cache before after := by
  cases toil with
  | stir stir => exact stir.retains believes
  | call owner monitor => exact .note before rfl
  | asked owner task request => exact .note before rfl
  | setData owner data isSilent =>
    refine .trans (.modify before owner _ fun _ known _ unprompted => ?_) (.note _ rfl)
    exact unprompted.of_items rfl fun backlog has => ⟨backlog, has, fun _ => id⟩
  | ask owner query => exact ask_retains owner query before
  | post owner item => exact post_retains owner item before
  | refresh owner => exact refresh_retains owner before
  | begin owner known found isLatent =>
    have begun : Retains cache before (before.modifyCache owner fun known =>
        { known with
          phase := .started, backlog := some {}, worker := some before.tasks.length }) := by
      refine .modify before owner _ fun here other found' _ => ?_
      obtain ⟨other', isThere, begun⟩ := hasBegun
      cases found.symm.trans found'
      rw [here] at found
      cases found.symm.trans isThere
      exact absurd isLatent begun
    exact begun.trans (.of_eq rfl rfl)

theorem Pulses.believes (pulses : Pulses before after) (believes : before.Believes) :
    after.Believes := by
  induction pulses with
  | refl => exact believes
  | tail _ pulse step => exact pulse.believes step

theorem Toils.retains (toils : Toils before after) (believes : before.Believes)
    (hasBegun : before.HasBegun cache) : Retains cache before after := by
  induction toils with
  | refl => exact .refl before
  | tail earlier toil step =>
    have pulses := Toils.pulses earlier
    exact step.trans (toil.retains (pulses.believes believes) (pulses.grows.hasBegun hasBegun))

/-- Where the worker takes no prompt, what a frame prepares loses none. -/
theorem Prepares.retains {frame : Frame S.Point} {wake : Wake S.Reply}
    (prepares : Prepares frame wake before after)
    (plain : ∀ known item rest, frame = .worker cache .taking → before.caches[cache]? = some known →
      known.backlog.bind Backlog.take? = some (item, rest) → item.isPrompt = false) :
    Retains cache before after := by
  cases prepares with
  | nothing => exact .refl before
  | listen isStart isReady found => exact .of_eq rfl rfl
  | @take owner known item rest isWorker found isFirst =>
    refine .modify before owner _ fun here other found' unprompted => ?_
    subst here
    cases found.symm.trans found'
    obtain ⟨backlog, has, others⟩ := unprompted.items
    cases has
    obtain ⟨older, isOlder, taken⟩ := Option.bind_eq_some_iff.mp isFirst
    refine ⟨unprompted.isActive, older, isOlder, fun other member => ?_⟩
    rw [(Backlog.take?_eq_some taken).1] at member
    rcases List.mem_cons.mp member with rfl | isRest
    · exact plain known other rest isWorker found isFirst
    · exact others other isRest

end Toils

/-- The end of a turn is none of the cache's business. -/
theorem afterTurn_retains {cache : CacheId} (task : TaskId) (frame : Frame S.Point)
    (rest : List (Frame S.Point)) (turn : Turn S) :
    Retains cache turn.1 (afterTurn task frame rest turn) := by
  have noted : Retains cache turn.1 (turn.1.noteEnd task frame turn.2) := by
    unfold noteEnd
    split
    · exact .note _ rfl
    · exact .refl _
  obtain ⟨-, caches, journal⟩ := move_keeps (turn.1.noteEnd task frame turn.2) task rest turn.2
  exact noted.trans (.of_eq caches journal)

/-! ## Turns that leave a prompt behind -/

section Turns

variable {cache : CacheId} {known : Cache} {loop : Loop S}

theorem itemDone_retains (owner : CacheId) (loop : Loop S) :
    Retains cache loop (loop.itemDone owner) := by
  unfold itemDone
  split
  · exact .refl loop
  · next backlog isThere =>
    have done : Retains cache loop (loop.modifyCache owner fun cache =>
        { cache with backlog := some backlog.done.2 }) := by
      refine .modify loop owner _ fun _ other found unprompted => ?_
      rw [found] at isThere
      refine unprompted.of_items rfl fun after has => ⟨backlog, isThere, ?_⟩
      cases has
      exact fun item member => (Cache.done_items backlog).symm ▸ member
    exact done.trans (.of_eq (foldl_keeps (·.caches) _ (by simp) _ _)
      (foldl_keeps (·.journal) _ (by simp) _ _))

theorem rebuilt_prompts {outcome : Outcome Answer} {answer : Answer}
    (returns : (loop.rebuilt cache known outcome).2 = .finish (.returned answer)) :
    ¬ (loop.rebuilt cache known outcome).1.IsUnprompted cache := by
  unfold rebuilt at returns ⊢
  split at returns
  · exact refresh_prompts cache _
  · cases returns
  · cases returns

/-- A start that returns leaves a prompt behind. -/
theorem startTurn_prompts {self : TaskId} {buildInitial : Bool} {stage : StartStage}
    {wake : Wake S.Reply} {answer : Answer}
    (returns :
      (loop.startTurn self cache known buildInitial stage wake).2 = .finish (.returned answer)) :
    stage ≠ .beginning ∧
      ¬ (loop.startTurn self cache known buildInitial stage wake).1.IsUnprompted cache := by
  unfold startTurn at returns ⊢
  split at returns
  · cases returns
  · split at returns <;> cases returns
  · dsimp only at returns ⊢
    split at returns
    · cases returns
    · next builds =>
      rw [if_neg builds]
      exact ⟨StartStage.noConfusion, refresh_prompts cache _⟩
  · exact ⟨StartStage.noConfusion, rebuilt_prompts returns⟩
  · next notBeginning notReturned notReading =>
    cases returns
    cases stage with
    | beginning => exact (notBeginning rfl).elim
    | ensuring => exact (notReturned _ rfl rfl).elim
    | reading => exact (notReading rfl).elim
  · cases returns

theorem resynced_prompts {outcome : Outcome Snapshot} (found : loop.caches[cache]? = some known)
    (isPlain : outcome ≠ .cancelled) : ¬ (loop.resynced cache outcome).IsUnprompted cache := by
  unfold resynced
  rw [found]
  dsimp only
  split
  · exact absurd rfl isPlain
  · exact refresh_prompts cache _
  · exact refresh_prompts cache _

/-- A worker that has read the node again, and goes on, leaves a prompt behind. -/
theorem workerTurn_resynced {self : TaskId} {wake : Wake S.Reply} {rest : List (Frame S.Point)}
    (found : loop.caches[cache]? = some known)
    (goesOn : (loop.workerTurn self cache known .resyncing wake).2.frames rest =
      [.worker cache .taking])
    (isFree : rest ≠ [.worker cache .taking]) :
    ¬ (loop.workerTurn self cache known .resyncing wake).1.IsUnprompted cache := by
  cases wake with
  | ended outcome =>
    unfold workerTurn at goesOn ⊢
    dsimp only at goesOn ⊢
    split at goesOn
    · exact absurd goesOn isFree
    · next isPlain =>
      exact fun unprompted => resynced_prompts found isPlain
        ((itemDone_retains cache _).prompts unprompted)
  | _ => exact absurd goesOn isFree

/-- A worker that takes a prompt reads the node again, or asks whether it is there. -/
theorem workerTurn_prompt {self : TaskId} {wake : Wake S.Reply} {item : Item} {rest : Backlog}
    (found : loop.caches[cache]? = some known)
    (isFirst : known.backlog.bind Backlog.take? = some (item, rest))
    (isPrompt : item.isPrompt = true) (below : List (Frame S.Point))
    (isFree : below ≠ [.worker cache .taking])
    (goesOn : (loop.workerTurn self cache known .taking wake).2.frames below =
      [.worker cache .taking])
    (unprompted : (loop.workerTurn self cache known .taking wake).1.IsUnprompted cache) :
    ∃ path watcher, (loop.tasks.length, .look path watcher) ∈
      (loop.workerTurn self cache known .taking wake).1.askedSince cache := by
  by_cases isCancelled : wake = .cancelled
  · subst isCancelled
    exact absurd goesOn isFree
  · have taking : loop.workerTurn self cache known .taking wake =
        (loop.modifyCache cache fun cache => { cache with backlog := some rest }).work
          self cache known
          item := by
      cases wake <;> first | exact absurd rfl isCancelled | simp only [workerTurn, isFirst]
    rw [taking] at goesOn unprompted ⊢
    cases item with
    | check =>
      have taken := modifyCache_self found fun cache => { cache with backlog := some rest }
      generalize same : (loop.modifyCache cache fun cache =>
        { cache with backlog := some rest }) = middle at goesOn unprompted taken ⊢
      have tasks : middle.tasks = loop.tasks := by rw [← same, (modifyCache_keeps _ _ _).2.1]
      have done : Retains cache (middle.check cache) ((middle.check cache).itemDone cache) :=
        itemDone_retains cache _
      have checked := done.prompts unprompted
      refine ⟨known.path, .cache cache, done.asked _ unprompted ?_⟩
      unfold check at checked ⊢
      rw [taken] at checked ⊢
      split at checked
      · next isActive =>
        rw [if_pos isActive, askedSince, ask_eq .look taken, (addHook_keeps _ _ _).2.2.1, ← tasks]
        exact List.mem_of_mem_head? (by simp [posed, WatchedNode.askedSince, queryRequest])
      · next isActive =>
        obtain ⟨other, found', unprompted⟩ := checked
        cases taken.symm.trans found'
        exact absurd unprompted.isActive isActive
    | resync => cases goesOn
    | _ => cases isPrompt

end Turns

end Loop

end WatchedNode
