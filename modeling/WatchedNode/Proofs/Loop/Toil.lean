/-
**What a step consists of, all told.**

A cache's own work on its view is made of small things, too: a new view, a request, an item that is
put, one look more. A `Toil` is one of these, or one of the things that others do; a `Labour` is one
that a cache does, under the condition on which it does it, so every labour is a number of toils
(`Labours.toils`). What a frame does in its turn is a turn of a call of the service, or a number of
labours (`frameTurn_kinds`), before which a start may add the cache's listener, and a worker may
take an item (`Prepares`). What comes of a hook is a number of labours, too (`runHook_labours`).
What is left of a step is how tasks get their turns.
-/
import WatchedNode.Proofs.Loop.Stir

namespace WatchedNode

/-- The item that a request of a cache becomes when it has ended. -/
def Query.answer (outcome : Outcome Answer) : Query → Item
  | .look => .looked outcome
  | .fetch => .fetched outcome

/-- The watcher that is told of the next change after a request. -/
def Request.watcher? : Request → Option Subscriber
  | .ensure .. => none
  | .look _ watcher => some watcher
  | .fetch _ watcher _ => watcher

/-- The frame may go on with a look at the node of its cache: it has read that, or it is a start. -/
def Frame.looksAgain {Point : Type} (cache : CacheId) : Frame Point → Prop
  | .worker owner .resyncing | .start owner _ .ensuring | .start owner _ .reading
  | .rebuild owner true => owner = cache
  | _ => False

/-- The cache whose own work an activity is, if it is one of those. -/
def Activity.owner? : Activity → Option CacheId
  | .work cache | .start cache | .rebuild cache => some cache
  | _ => none

namespace Loop

open Relation

variable {S : Service}

/-- The start of a cache begins: the cache runs, and has a worker. -/
def begin (cache : CacheId) (loop : Loop S) : Loop S :=
  (loop.modifyCache cache fun known =>
    { known with phase := .started, backlog := some {}, worker := some loop.tasks.length }).spawn
      (.worker cache) (.worker cache .taking)

/-- A cache has asked in the background; nobody waits for the answer yet. -/
def posed (cache : CacheId) (query : Query) (known : Cache) (loop : Loop S) : Loop S :=
  let request := queryRequest cache known query
  let task := loop.tasks.length
  ((loop.note (.asked cache task request)).spawn (.request cache query)
    (requestFrame known request)).modifyCache cache fun cache =>
      { cache with pending := cache.pending ++ [task] }

theorem ask_eq {cache : CacheId} {known : Cache} (query : Query) {loop : Loop S}
    (found : loop.caches[cache]? = some known) :
    loop.ask cache query =
      (loop.posed cache query known).addHook loop.tasks.length (.answered cache query) := by
  simp only [ask, found, posed]

theorem ask_none {cache : CacheId} (query : Query) {loop : Loop S}
    (unknown : loop.caches[cache]? = none) : loop.ask cache query = loop := by
  simp only [ask, unknown]

/-- One thing that is part of a cache's own work, or that others do. -/
inductive Toil : Loop S → Loop S → Prop
  | stir {before after : Loop S} (stir : Stir before after) : Toil before after
  | call (loop : Loop S) (cache : CacheId) (monitor : String) :
      Toil loop (loop.note (.called cache monitor (loop.seen cache)))
  | asked (loop : Loop S) (cache : CacheId) (task : TaskId) (request : Request) :
      Toil loop (loop.note (.asked cache task request))
  | setData (loop : Loop S) (cache : CacheId) (data : Snapshot) (isSilent : Bool) :
      Toil loop (loop.setData cache data isSilent)
  | ask (loop : Loop S) (cache : CacheId) (query : Query) : Toil loop (loop.ask cache query)
  | post (loop : Loop S) (cache : CacheId) (item : Item) : Toil loop (loop.post cache item)
  | refresh (loop : Loop S) (cache : CacheId) : Toil loop (loop.refresh cache)
  | begin (loop : Loop S) (cache : CacheId) (known : Cache)
      (found : loop.caches[cache]? = some known) (isLatent : known.phase = .latent) :
      Toil loop (loop.begin cache)

/-- Several of them. -/
abbrev Toils : Loop S → Loop S → Prop := ReflTransGen Toil

theorem Stirs.toils {before after : Loop S} (stirs : Stirs before after) : Toils before after := by
  induction stirs with
  | refl => exact .refl
  | tail _ stir step => exact step.tail (.stir stir)

theorem install_toils (cache : CacheId) (data : Snapshot) (loop : Loop S) :
    Toils loop (loop.install cache data) := by
  have set : Toils loop (loop.setData cache data false) := .single (.setData loop cache data false)
  have round := notify_bustles cache (loop.setData cache data false)
  unfold install
  dsimp only
  split
  · exact set
  · generalize (loop.setData cache data false).notify cache = after at round
    induction round with
    | refl => exact set
    | tail _ bustle step =>
      cases bustle with
      | stir stir => exact step.tail (.stir stir)
      | call caller monitor => exact step.tail (.call _ caller monitor)

/-! ## Labours -/

/-- One thing that is part of the owner's own work, under the condition on which it is done, or that
others do. A cache that does not run asks only what it is due to read, and only what it asks in the
background has a watcher; it looks at its node once more only where it is to do so. -/
inductive Labour (owner : CacheId) (isDue looks : Prop) : Loop S → Loop S → Prop
  | stir {before after : Loop S} (stir : Stir before after) : Labour owner isDue looks before after
  | refresh (loop : Loop S) (isRight : looks) : Labour owner isDue looks loop (loop.refresh owner)
  | asked (loop : Loop S) (task : TaskId) (known : Cache) (request : Request)
      (found : loop.caches[owner]? = some known)
      (isPlain : request.watcher? = none)
      (isRight : known.phase = .started ∨ isDue ∧ request = readRequest known) :
      Labour owner isDue looks loop (loop.note (.asked owner task request))
  | install (loop : Loop S) (known : Cache) (data : Snapshot)
      (found : loop.caches[owner]? = some known) (isStarted : known.phase = .started) :
      Labour owner isDue looks loop (loop.install owner data)
  | rebuild (loop : Loop S) (known : Cache) (data : Snapshot)
      (found : loop.caches[owner]? = some known) (isStarted : known.phase = .started) :
      Labour owner isDue looks loop (loop.setData owner data true)
  | look (loop : Loop S) (known : Cache) (found : loop.caches[owner]? = some known)
      (isActive : known.isActive = true) : Labour owner isDue looks loop (loop.ask owner .look)
  | fetch (loop : Loop S) (known : Cache) (found : loop.caches[owner]? = some known)
      (isStarted : known.phase = .started) :
      Labour owner isDue looks loop (loop.ask owner .fetch)
  | answer (loop : Loop S) (known : Cache) (query : Query) (outcome : Outcome Answer)
      (found : loop.caches[owner]? = some known) (isStarted : known.phase = .started) :
      Labour owner isDue looks loop (loop.post owner (query.answer outcome))
  | begin (loop : Loop S) (known : Cache) (found : loop.caches[owner]? = some known)
      (isLatent : known.phase = .latent) : Labour owner isDue looks loop (loop.begin owner)

/-- Several of them. -/
abbrev Labours (owner : CacheId) (isDue looks : Prop) : Loop S → Loop S → Prop :=
  ReflTransGen (Labour owner isDue looks)

section Labours

variable {cache : CacheId} {isDue looks : Prop}

theorem Stirs.labours {before after : Loop S} (stirs : Stirs before after) :
    Labours cache isDue looks before after := by
  induction stirs with
  | refl => exact .refl
  | tail _ stir step => exact step.tail (.stir stir)

theorem Labour.toils {before after : Loop S} (labour : Labour cache isDue looks before after) :
    Toils before after := by
  cases labour with
  | stir stir => exact .single (.stir stir)
  | refresh _ => exact .single (.refresh before cache)
  | asked task known request _ _ _ => exact .single (.asked _ cache task request)
  | install known data _ _ => exact install_toils cache data before
  | rebuild known data _ _ => exact .single (.setData before cache data true)
  | look known _ _ => exact .single (.ask before cache .look)
  | fetch known _ _ => exact .single (.ask before cache .fetch)
  | answer known query outcome _ _ => exact .single (.post before cache _)
  | begin known found isLatent => exact .single (.begin before cache known found isLatent)

/-- A cache's labours are toils. -/
theorem Labours.toils {before after : Loop S} (labours : Labours cache isDue looks before after) :
    Toils before after := by
  induction labours with
  | refl => exact .refl
  | tail _ labour step => exact step.trans labour.toils

theorem refresh_labours (isRight : looks) (loop : Loop S) :
    Labours cache isDue looks loop (loop.refresh cache) :=
  .single (.refresh loop isRight)

theorem complain_labours (complaint : Complaint) (loop : Loop S) :
    Labours cache isDue looks loop (loop.complain complaint) :=
  .single (.stir (.note loop _ rfl rfl))

theorem looked_labours (outcome : Outcome Answer) (loop : Loop S) :
    Labours cache isDue looks loop (loop.looked cache outcome) := by
  unfold looked
  split
  · exact .refl
  · next known found =>
    split
    · exact .refl
    · next runs =>
      have isStarted := Cache.phase_of_isRunning runs
      split
      · exact .refl
      · exact complain_labours _ loop
      · split
        · exact .single (.install loop known _ found isStarted)
        · exact .single (.fetch loop known found isStarted)

theorem fetched_labours (outcome : Outcome Answer) (loop : Loop S) :
    Labours cache isDue looks loop (loop.fetched cache outcome) := by
  unfold fetched
  split
  · exact .refl
  · next known found =>
    split
    · exact .refl
    · next runs =>
      split
      · exact .refl
      · split
        · exact .refl
        · exact complain_labours _ loop
      · split
        · exact .single (.install loop known _ found (Cache.phase_of_isRunning runs))
        · exact complain_labours _ loop

theorem resynced_labours (isRight : looks) (outcome : Outcome Snapshot) (loop : Loop S) :
    Labours cache isDue looks loop (loop.resynced cache outcome) := by
  unfold resynced
  split
  · exact .refl
  · next known found =>
    split
    · exact .refl
    · exact (complain_labours _ loop).trans (refresh_labours isRight _)
    · refine .trans ?_ (refresh_labours isRight _)
      split
      · next runs => exact .single (.install loop known _ found (of_decide_eq_true runs))
      · exact .refl

theorem check_labours (loop : Loop S) : Labours cache isDue looks loop (loop.check cache) := by
  unfold check
  split
  · next active =>
    obtain ⟨known, found, isActive⟩ := (Option.any_eq_true _ _).mp active
    exact .single (.look loop known found isActive)
  · exact .refl

theorem itemDone_labours (loop : Loop S) : Labours cache isDue looks loop (loop.itemDone cache) :=
  (itemDone_stirs loop cache).labours

theorem work_labours (self : TaskId) {known known' : Cache} (item : Item) {loop : Loop S}
    (found : loop.caches[cache]? = some known') (isRead : readRequest known = readRequest known')
    (isRight : item = .resync → isDue) :
    Labours cache isDue looks loop (loop.work self cache known item).1 := by
  cases item with
  | check => exact (check_labours loop).trans (itemDone_labours _)
  | looked outcome => exact (looked_labours outcome loop).trans (itemDone_labours _)
  | fetched outcome => exact (fetched_labours outcome loop).trans (itemDone_labours _)
  | resync => exact .single (.asked loop self known' _ found rfl (.inr ⟨isRight rfl, isRead⟩))
  | stop => exact itemDone_labours loop

theorem rebuilt_labours (isRight : looks) {known : Cache} (outcome : Outcome Answer) {loop : Loop S}
    (found : loop.caches[cache]? = some known) :
    Labours cache isDue looks loop (loop.rebuilt cache known outcome).1 := by
  unfold rebuilt
  split
  · refine .trans ?_ (refresh_labours isRight _)
    split
    · next runs => exact .single (.rebuild loop known _ found (of_decide_eq_true runs))
    · exact .refl
  · exact .refl
  · exact .refl

end Labours

/-- What a frame does before anything else. -/
inductive Prepares (frame : Frame S.Point) (wake : Wake S.Reply) (loop : Loop S) : Loop S → Prop
  | nothing : Prepares frame wake loop loop
  /-- A start whose directories are there adds the cache's listener. -/
  | listen {cache : CacheId} {buildInitial : Bool} {answer : Answer} {known : Cache}
      (isStart : frame = .start cache buildInitial .ensuring)
      (isReady : wake = .ended (.returned answer)) (found : loop.caches[cache]? = some known) :
      Prepares frame wake loop (loop.setService (S.listen known.handle (.cache cache) loop.service))
  /-- A worker takes the first item. -/
  | take {cache : CacheId} {known : Cache} {item : Item} {rest : Backlog}
      (isWorker : frame = .worker cache .taking) (found : loop.caches[cache]? = some known)
      (isFirst : known.backlog.bind Backlog.take? = some (item, rest)) :
      Prepares frame wake loop
        (loop.modifyCache cache fun cache => { cache with backlog := some rest })

/-- The frame is due to read the node, whether the cache runs or not: the worker takes the item for
that, or a start that reads the node has its directories. -/
def IsDue (cache : CacheId) (frame : Frame S.Point) (loop : Loop S) : Prop :=
  frame = .start cache true .ensuring ∨
    frame = .worker cache .taking ∧ ∃ known rest, loop.caches[cache]? = some known ∧
      known.backlog.bind Backlog.take? = some (.resync, rest)

/-- A frame prepares its turn, and goes on with a number of labours of its cache. -/
def Endeavours (frame : Frame S.Point) (wake : Wake S.Reply) (before after : Loop S) : Prop :=
  ∃ owner middle, (frame.isOwnWork → frame.activity.owner? = some owner) ∧
    Prepares frame wake before middle ∧
      Labours owner (before.IsDue owner frame) (frame.looksAgain owner) middle after

theorem Stirs.endeavours {before after : Loop S} (stirs : Stirs before after)
    {frame : Frame S.Point} (isOther : ¬ frame.isOwnWork) (wake : Wake S.Reply) :
    Endeavours frame wake before after :=
  ⟨0, before, fun isOwn => absurd isOwn isOther, .nothing, stirs.labours⟩

section OwnWork

variable {cache : CacheId} {known : Cache} {loop : Loop S}

theorem workerTurn_endeavours (self : TaskId) (stage : WorkerStage) (wake : Wake S.Reply)
    (found : loop.caches[cache]? = some known) :
    Endeavours (.worker cache stage) wake loop
      (loop.workerTurn self cache known stage wake).1 := by
  have plain : ∀ after, Labours cache (loop.IsDue cache (.worker cache stage))
        (Frame.looksAgain cache (.worker cache stage : Frame S.Point)) loop after →
      Endeavours (.worker cache stage) wake loop after := fun after labours =>
    ⟨cache, loop, fun _ => rfl, .nothing, labours⟩
  unfold workerTurn
  split
  · exact plain _ .refl
  · split
    · refine plain _ (.single (.stir (.tend loop cache _ fun known _ => ?_)))
      exact Cache.tends_backlog (Backlog.await self) (fun _ => rfl) known
    · next item rest isFirst =>
      refine ⟨cache, _, fun _ => rfl, .take rfl found isFirst, ?_⟩
      refine work_labours self item (modifyCache_self found _) rfl ?_
      rintro rfl
      exact .inr ⟨rfl, known, rest, found, isFirst⟩
  · next outcome =>
    refine plain _ ?_
    dsimp only
    split <;> exact (resynced_labours rfl _ loop).trans (itemDone_labours _)
  · exact plain _ (itemDone_labours loop)

theorem startTurn_endeavours (self : TaskId) (buildInitial : Bool) (stage : StartStage)
    (wake : Wake S.Reply) (found : loop.caches[cache]? = some known) :
    Endeavours (.start cache buildInitial stage) wake loop
      (loop.startTurn self cache known buildInitial stage wake).1 := by
  have plain :
      ∀ after, Labours cache (loop.IsDue cache (.start cache buildInitial stage))
        (Frame.looksAgain cache (.start cache buildInitial stage : Frame S.Point)) loop after →
      Endeavours (.start cache buildInitial stage) wake loop after := fun after labours =>
    ⟨cache, loop, fun _ => rfl, .nothing, labours⟩
  unfold startTurn
  split
  · exact plain _ .refl
  · split
    · next latent =>
      refine plain _ (.head (.begin loop known found latent) (.single ?_))
      exact .asked (loop.begin cache) self _ _ (modifyCache_self found _) rfl (.inl rfl)
    · exact plain _ .refl
  · refine ⟨cache, _, fun _ => rfl, .listen rfl rfl found, ?_⟩
    dsimp only
    split
    · next builds =>
      rw [builds]
      exact .single (.asked _ self known _ found rfl (.inr ⟨.inl rfl, rfl⟩))
    · exact refresh_labours rfl _
  · exact plain _ (rebuilt_labours rfl _ found)
  · exact plain _ .refl
  · exact plain _ .refl

theorem rebuildTurn_endeavours (self : TaskId) (isReading : Bool) (wake : Wake S.Reply)
    (found : loop.caches[cache]? = some known) :
    Endeavours (.rebuild cache isReading) wake loop
      (loop.rebuildTurn self cache known isReading wake).1 := by
  have plain : ∀ after, Labours cache (loop.IsDue cache (.rebuild cache isReading))
        (Frame.looksAgain cache (.rebuild cache isReading : Frame S.Point)) loop after →
      Endeavours (.rebuild cache isReading) wake loop after := fun after labours =>
    ⟨cache, loop, fun _ => rfl, .nothing, labours⟩
  unfold rebuildTurn
  split
  · split
    · next runs =>
      exact plain _ (.single (.asked loop self known _ found rfl (.inl (of_decide_eq_true runs))))
    · exact plain _ .refl
  · exact plain _ (rebuilt_labours rfl _ found)
  · exact plain _ .refl

end OwnWork

/-! ## Frames, hooks and commands -/

/-- What a frame does in its turn, unless it is a call of the service. -/
theorem frameTurn_endeavours (self : TaskId) (frame : Frame S.Point) (wake : Wake S.Reply)
    (loop : Loop S) (isNoCall : ¬ frame.isService) :
    Endeavours frame wake loop (loop.frameTurn self frame wake).1 := by
  by_cases isOwn : frame.isOwnWork
  · have idle : ∀ owner, frame.activity.owner? = some owner → Endeavours frame wake loop loop :=
      fun owner isOwner => ⟨owner, loop, fun _ => isOwner, .nothing, .refl⟩
    cases frame with
    | worker cache stage =>
      unfold frameTurn
      dsimp only
      split
      · next known found => exact workerTurn_endeavours self stage wake found
      · exact idle cache rfl
    | start cache buildInitial stage =>
      unfold frameTurn
      dsimp only
      split
      · next known found => exact startTurn_endeavours self buildInitial stage wake found
      · exact idle cache rfl
    | rebuild cache isReading =>
      unfold frameTurn
      dsimp only
      split
      · next known found => exact rebuildTurn_endeavours self isReading wake found
      · exact idle cache rfl
    | _ => exact isOwn.elim
  · exact (frameTurn_stirs loop self frame wake isOwn isNoCall).endeavours isOwn wake

/-- **A frame's turn is a turn of a call, or what it prepares and a number of labours.** -/
theorem frameTurn_kinds (self : TaskId) (frame : Frame S.Point) (wake : Wake S.Reply)
    (loop : Loop S) :
    (∃ point tickets alarms, frame = .service point ∧ (loop.frameTurn self frame wake).1 =
        { loop.react self point wake with tickets, alarms }) ∨
      Endeavours frame wake loop (loop.frameTurn self frame wake).1 := by
  by_cases isService : frame.isService
  · cases frame with
    | service point =>
      obtain ⟨tickets, alarms, same⟩ := serviceTurn_loop loop self point wake
      exact .inl ⟨point, tickets, alarms, rfl, same⟩
    | _ => exact isService.elim
  · exact .inr (frameTurn_endeavours self frame wake loop isService)

theorem answered_labours (cache : CacheId) (query : Query) (task : TaskId)
    (outcome : Outcome Answer) (loop : Loop S) :
    Labours cache False False loop (loop.answered cache query task outcome) := by
  have left : Labours cache False False loop (loop.modifyCache cache fun cache =>
      { cache with pending := cache.pending.filter (· ≠ task) }) :=
    .single (.stir (.tend loop cache _ fun known _ => ⟨_, _, _, rfl, rfl⟩))
  unfold answered
  dsimp only
  split
  · next runs =>
    obtain ⟨known, found, isRunning⟩ := (Option.any_eq_true _ _).mp runs
    have isStarted : known.phase = .started := of_decide_eq_true isRunning
    cases query with
    | look => exact left.tail (.answer _ known .look outcome found isStarted)
    | fetch => exact left.tail (.answer _ known .fetch outcome found isStarted)
  · exact left

/-- What comes of a hook is a number of labours, which never are to read the node. -/
theorem runHook_labours (hook : Hook) (task : TaskId) (outcome : Outcome Answer) (loop : Loop S) :
    ∃ owner, Labours owner False False loop (loop.runHook hook task outcome) := by
  by_cases isAnswer : ∃ cache query, hook = .answered cache query
  · obtain ⟨cache, query, rfl⟩ := isAnswer
    exact ⟨cache, answered_labours cache query task outcome loop⟩
  · refine ⟨0, (runHook_stirs loop hook task outcome fun cache query same => ?_).labours⟩
    exact isAnswer ⟨cache, query, same⟩

theorem installFrom_toils (cache : CacheId) (path : Option String) (stat : Option Stat)
    (data : Option (List UInt8)) (loop : Loop S) :
    Toils loop (loop.installFrom cache path stat data).1 := by
  unfold installFrom
  split
  · exact .refl
  · split
    · exact install_toils cache _ loop
    · exact .refl

/-! ## The turn -/

theorem Ripple.turn {before after : Loop S} (ripple : Ripple before after) :
    after.turn = before.turn := by
  cases ripple with
  | told cache link => exact (linkChanged_keeps before cache link).2
  | fired cache => exact (refresh_keeps (before.note (.fired cache)) cache).2.2
  | reply task reply => exact (wake_keeps before task _).2.2.2
  | cancel task => exact (cancelErrand_keeps before task).2.2.2
  | _ => rfl

theorem perform_turn (effects : List (Effect S.Call S.Point S.Reply)) (loop : Loop S) :
    (loop.perform effects).turn = loop.turn := by
  have ripples := perform_ripples effects loop
  generalize loop.perform effects = after at ripples
  induction ripples with
  | refl => rfl
  | tail _ ripple step => exact ripple.turn.trans step

theorem Stir.turn {before after : Loop S} (stir : Stir before after) :
    after.turn = before.turn := by
  cases stir with
  | reset cache => exact (refresh_keeps (before.note (.reset cache)) cache).2.2
  | happen event =>
    unfold Loop.happen
    split
    · rfl
    · exact perform_turn _ _
  | connect settings =>
    unfold Loop.connect
    split
    · rfl
    · split
      · rfl
      · exact perform_turn _ _
  | shut cache known found =>
    unfold Loop.shut stopCache
    dsimp only
    split
    · exact (post_keeps _ cache .stop).2.2
    · rfl
  | wake task why isPlain => exact (wake_keeps before task why).2.2.2
  | count task => exact (countDown_keeps before task).2.2.2
  | hook task hook isPlain => exact (addHook_keeps before task hook).2.2.2
  | _ => rfl

theorem ask_turn (cache : CacheId) (query : Query) (loop : Loop S) :
    (loop.ask cache query).turn = loop.turn := by
  unfold ask
  split
  · rfl
  · exact (addHook_keeps _ _ _).2.2.2

/-- The turn is nobody's business but the task's own. -/
theorem Toils.turn {before after : Loop S} (toils : Toils before after) :
    after.turn = before.turn := by
  induction toils with
  | refl => rfl
  | tail _ toil step =>
    refine Eq.trans ?_ step
    cases toil with
    | stir stir => exact stir.turn
    | ask cache query => exact ask_turn cache query _
    | post cache item => exact (post_keeps _ cache item).2.2
    | refresh cache => exact (refresh_keeps _ cache).2.2
    | _ => rfl

theorem Prepares.turn {frame : Frame S.Point} {wake : Wake S.Reply} {before after : Loop S}
    (prepares : Prepares frame wake before after) : after.turn = before.turn := by
  cases prepares <;> rfl

theorem frameTurn_turn (self : TaskId) (frame : Frame S.Point) (wake : Wake S.Reply)
    (loop : Loop S) : (loop.frameTurn self frame wake).1.turn = loop.turn := by
  rcases frameTurn_kinds self frame wake loop with
    ⟨point, tickets, alarms, rfl, same⟩ | ⟨owner, middle, -, prepares, labours⟩
  · rw [same]
    exact perform_turn _ (loop.setService _)
  · exact labours.toils.turn.trans prepares.turn

/-! ## The journal -/

end Loop

/-- The entry is about the end of an activation. -/
def Entry.isEnd {Call : Type} : Entry Call → Bool
  | .left .. => true
  | _ => false

/-- Somebody, or a cache, is told of the entry. -/
def Entry.isReport {Call : Type} : Entry Call → Bool
  | .told .. | .fired .. | .reset .. => true
  | entry => entry.isShown

theorem Entry.isReport_of_isShown {Call : Type} {entry : Entry Call} (isShown : entry.isShown) :
    entry.isReport = true := by
  cases entry <;> simp_all [Entry.isShown, Entry.isReport]

theorem Entry.isEnd_of_isReport {Call : Type} {entry : Entry Call} (isReport : entry.isReport) :
    entry.isEnd = false := by
  cases entry <;> simp_all [Entry.isShown, Entry.isReport, Entry.isEnd]

namespace Loop

/-- Entries of a kind are written, and no others. -/
def Writes (kind : Entry S.Call → Prop) (before after : Loop S) : Prop :=
  ∃ entries, after.journal = entries ++ before.journal ∧ ∀ entry ∈ entries, kind entry

namespace Writes

variable {kind : Entry S.Call → Prop} {first second third : Loop S}

theorem of_eq (same : second.journal = first.journal) : Writes kind first second :=
  ⟨[], same, by simp⟩

theorem note (loop : Loop S) {entry : Entry S.Call} (isOfKind : kind entry) :
    Writes kind loop (loop.note entry) := ⟨[entry], rfl, by simpa using isOfKind⟩

theorem trans (left : Writes kind first second) (right : Writes kind second third) :
    Writes kind first third := by
  obtain ⟨entries, same, plain⟩ := left
  obtain ⟨entries', same', plain'⟩ := right
  refine ⟨entries' ++ entries, by rw [same', same, List.append_assoc], fun entry member => ?_⟩
  rcases List.mem_append.mp member with late | early
  · exact plain' entry late
  · exact plain entry early

theorem mono {kind' : Entry S.Call → Prop} (wider : ∀ entry, kind entry → kind' entry)
    (writes : Writes kind first second) : Writes kind' first second := by
  obtain ⟨entries, same, plain⟩ := writes
  exact ⟨entries, same, fun entry member => wider entry (plain entry member)⟩

/-- What is not of the kind has been written before. -/
theorem mem_iff (writes : Writes kind first second) {entry : Entry S.Call}
    (isOther : ¬ kind entry) : entry ∈ second.journal ↔ entry ∈ first.journal := by
  obtain ⟨entries, same, plain⟩ := writes
  rw [same, List.mem_append]
  exact ⟨fun either => either.resolve_left fun isNew => isOther (plain entry isNew), .inr⟩

/-- What is made of the entries that are not of the kind stays the same. -/
theorem filterMap {part : Type} (writes : Writes kind first second)
    (view : Entry S.Call → Option part) (isOther : ∀ entry, kind entry → view entry = none) :
    second.journal.filterMap view = first.journal.filterMap view := by
  obtain ⟨entries, same, plain⟩ := writes
  have none : entries.filterMap view = [] :=
    List.filterMap_eq_nil_iff.mpr fun entry member => isOther entry (plain entry member)
  rw [same, List.filterMap_append, none, List.nil_append]

end Writes

theorem linkChanged_writes (cache : CacheId) (link : Link) (loop : Loop S) :
    Writes (fun entry => entry.isReport) loop (loop.linkChanged cache link) := by
  unfold linkChanged
  split
  · exact .of_eq rfl
  · have told : Writes (fun entry => entry.isReport) loop
        ((loop.note (.told cache link)).modifyCache cache fun cache =>
          { cache with connected := link.isUp }) := .note loop rfl
    dsimp only
    split
    · exact told.trans (.of_eq (post_keeps _ cache .resync).2.1)
    · exact told

theorem refresh_writes {kind : Entry S.Call → Prop} {first second : Loop S} (cache : CacheId)
    (writes : Writes kind first second) : Writes kind first (second.refresh cache) :=
  writes.trans (.of_eq (refresh_keeps second cache).2.1)

theorem Ripple.writes {before after : Loop S} (ripple : Ripple before after) :
    Writes (fun entry => entry.isReport) before after := by
  cases ripple with
  | note entry isShown => exact .note _ (Entry.isReport_of_isShown isShown)
  | told cache link => exact linkChanged_writes cache link before
  | fired cache => exact refresh_writes cache (.note before rfl)
  | listeners handle habit => exact .of_eq rfl
  | reply task reply => exact .of_eq (wake_keeps before task _).2.2.1
  | cancel task => exact .of_eq (cancelErrand_keeps before task).2.2.1
  | errand point => exact .of_eq rfl

theorem perform_writes (effects : List (Effect S.Call S.Point S.Reply)) (loop : Loop S) :
    Writes (fun entry => entry.isReport) loop (loop.perform effects) := by
  have ripples := perform_ripples effects loop
  generalize loop.perform effects = after at ripples
  induction ripples with
  | refl => exact .of_eq rfl
  | tail _ ripple step => exact step.trans ripple.writes

theorem happen_writes (event : S.Event) (loop : Loop S) :
    Writes (fun entry => entry.isReport) loop (loop.happen event).1 := by
  unfold Loop.happen
  split
  · exact .of_eq rfl
  · exact perform_writes _ (loop.setService _)

/-- What others do is written down only where somebody is told of it. -/
theorem Stir.writes {before after : Loop S} (stir : Stir before after) :
    Writes (fun entry => entry.isReport) before after := by
  cases stir with
  | note entry isShown => exact .note _ (Entry.isReport_of_isShown isShown)
  | reset cache => exact refresh_writes cache (.note before rfl)
  | happen event => exact happen_writes event before
  | connect settings =>
    unfold Loop.connect
    split
    · exact .of_eq rfl
    · split
      · exact .of_eq rfl
      · exact perform_writes _ (before.setService _)
  | shut cache known found =>
    unfold Loop.shut stopCache
    dsimp only
    split
    · exact .of_eq (post_keeps _ cache .stop).2.1
    · exact .of_eq rfl
  | wake task why isPlain => exact .of_eq (wake_keeps before task why).2.2.1
  | count task => exact .of_eq (countDown_keeps before task).2.2.1
  | hook task hook isPlain => exact .of_eq (addHook_keeps before task hook).2.2.1
  | _ => exact .of_eq rfl

theorem Stirs.writes {before after : Loop S} (stirs : Stirs before after) :
    Writes (fun entry => entry.isReport) before after := by
  induction stirs with
  | refl => exact .of_eq rfl
  | tail _ stir step => exact step.trans stir.writes

/-- A request of a cache is written down. -/
theorem ask_writes {cache : CacheId} {query : Query} {loop : Loop S}
    {kind : Entry S.Call → Prop}
    (isOfKind : ∀ known, loop.caches[cache]? = some known →
      kind (.asked cache loop.tasks.length (queryRequest cache known query))) :
    Writes kind loop (loop.ask cache query) := by
  unfold ask
  split
  · exact .of_eq rfl
  · next known found =>
    have noted : Writes kind loop
        (loop.note (.asked cache loop.tasks.length (queryRequest cache known query))) :=
      .note loop (isOfKind known found)
    exact noted.trans (.of_eq (addHook_keeps _ _ _).2.2.1)

/-- What happens in a turn is no end of an activation. -/
theorem Toils.writes {before after : Loop S} (toils : Toils before after) :
    Writes (fun entry => entry.isEnd = false) before after := by
  induction toils with
  | refl => exact .of_eq rfl
  | tail _ toil step =>
    refine step.trans ?_
    cases toil with
    | stir stir => exact stir.writes.mono fun _ => Entry.isEnd_of_isReport
    | call cache monitor => exact .note _ rfl
    | asked cache task request => exact .note _ rfl
    | setData cache data isSilent => exact .note _ rfl
    | ask cache query => exact ask_writes fun _ _ => rfl
    | post cache item => exact .of_eq (post_keeps _ cache item).2.1
    | refresh cache => exact .of_eq (refresh_keeps _ cache).2.1
    | begin cache known found isLatent => exact .of_eq rfl

theorem Prepares.journal {frame : Frame S.Point} {wake : Wake S.Reply} {before after : Loop S}
    (prepares : Prepares frame wake before after) : after.journal = before.journal := by
  cases prepares <;> rfl

theorem react_writes (self : TaskId) (point : S.Point) (wake : Wake S.Reply) (loop : Loop S) :
    Writes (fun entry => entry.isReport) loop (loop.react self point wake) :=
  perform_writes _ (loop.setService _)

theorem frameTurn_writes (self : TaskId) (frame : Frame S.Point) (wake : Wake S.Reply)
    (loop : Loop S) : Writes (fun entry => entry.isEnd = false) loop
      (loop.frameTurn self frame wake).1 := by
  rcases frameTurn_kinds self frame wake loop with
    ⟨point, tickets, alarms, rfl, same⟩ | ⟨owner, middle, -, prepares, labours⟩
  · rw [same]
    have reacted := (react_writes self point wake loop).mono fun _ => Entry.isEnd_of_isReport
    exact reacted.trans (.of_eq rfl)
  · exact .trans (.of_eq prepares.journal) labours.toils.writes

end Loop

end WatchedNode
