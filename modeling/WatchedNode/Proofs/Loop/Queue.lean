/-
**What happens to the queue of a cache.**

Seen from one cache, nothing happens to its phase, its queue and its worker but that prompts and
answers come last in the queue while it runs (`Feeds`), unless one of its own frames has its turn
(`Tends`): a start gives it an empty queue and a worker, closing puts the end mark there, somebody
joins the queue, or the worker takes the first item, waits for one, or is done with one.
-/
import WatchedNode.Proofs.Loop.Seats

namespace WatchedNode

open Relation

variable {S : Service} {asks : Prop} {drops : TaskId → Prop}

/-- An item that asks a cache to look at its node, or to read it. -/
def Item.isAsking : Item → Prop
  | .check | .resync => True
  | _ => False

namespace Backlog

/-- The backlog after several items more are put. -/
def puts (items : List Item) (backlog : Backlog) : Backlog :=
  items.foldl (fun backlog item => backlog.put item) backlog

theorem puts_eq (items : List Item) (backlog : Backlog) :
    backlog.puts items = { backlog with
      items := backlog.items ++ items
      unfinished := backlog.unfinished + items.length
      getter := if items = [] then backlog.getter else none } := by
  induction items generalizing backlog with
  | nil => simp [puts]
  | cons item rest step =>
    show (backlog.put item).puts rest = _
    rw [step]
    simp [put]
    omega

theorem puts_append (first second : List Item) (backlog : Backlog) :
    backlog.puts (first ++ second) = (backlog.puts first).puts second := List.foldl_append ..

end Backlog

namespace Duty

/-- The duty after several items more are put into the queue. -/
def feed (items : List Item) (duty : Duty) : Duty :=
  { duty with backlog := duty.backlog.map (·.puts items) }

/-- The duty of a cache that is closed: if it ran, the end mark is in the queue. -/
def closed (duty : Duty) : Duty :=
  if duty.phase = .started then ⟨.closed, duty.backlog.map (·.put .stop), none⟩ else
    { duty with worker := none }

theorem feed_nil (duty : Duty) : duty.feed [] = duty := by
  obtain ⟨phase, backlog, worker⟩ := duty
  cases backlog <;> rfl

theorem feed_append (first second : List Item) (duty : Duty) :
    duty.feed (first ++ second) = (duty.feed first).feed second := by
  obtain ⟨phase, backlog, worker⟩ := duty
  cases backlog with
  | none => rfl
  | some backlog => simp [feed, Backlog.puts_append]

end Duty

namespace Loop

variable {before after loop : Loop S} {cache owner : CacheId}

/-! ## Changes of one cache -/

/-- A cache that is there has its duty. -/
theorem duty?_of_found {known : Cache} (found : loop.caches[cache]? = some known) :
    loop.duty? cache = some known.duty := by rw [duty?, found]; rfl

/-- The duties of caches after one of them has changed. -/
theorem modifyCache_duty? (owner : CacheId) (change : Cache → Cache) (effect : Duty → Duty)
    (same : ∀ known, (change known).duty = effect known.duty) (loop : Loop S) (cache : CacheId) :
    (loop.modifyCache owner change).duty? cache =
      if cache = owner then (loop.duty? cache).map effect else loop.duty? cache := by
  unfold duty?
  by_cases here : owner = cache
  · subst here
    rw [modifyCache_caches, List.getElem?_modify_eq, if_pos rfl]
    cases loop.caches[owner]? <;> simp [same]
  · rw [modifyCache_of_ne loop here, if_neg (Ne.symm here)]

theorem wake_duty? (task : TaskId) (why : Wake S.Reply) (loop : Loop S) (cache : CacheId) :
    (loop.wake task why).duty? cache = loop.duty? cache := by
  rw [duty?, (wake_keeps loop task why).2.1, duty?]

theorem wakes_duty? (why : Wake S.Reply) (tasks : List TaskId) (loop : Loop S) (cache : CacheId) :
    (tasks.foldl (fun loop task => loop.wake task why) loop).duty? cache = loop.duty? cache :=
  foldl_keeps (·.duty? cache) _ (fun loop task => wake_duty? task why loop cache) tasks loop

/-- An item is put. -/
theorem post_duty? (owner : CacheId) (item : Item) (loop : Loop S) (cache : CacheId) :
    (loop.post owner item).duty? cache =
      if cache = owner then (loop.duty? cache).map (Duty.feed [item]) else loop.duty? cache := by
  unfold post
  split
  · next isNone =>
    split
    · next here =>
      subst here
      unfold duty?
      cases found : loop.caches[cache]? with
      | none => rfl
      | some known =>
        rw [found] at isNone
        simp only [Option.bind_some] at isNone
        simp [Duty.feed, Cache.duty, isNone]
    · rfl
  · next backlog isThere =>
    obtain ⟨known, found, has⟩ := Option.bind_eq_some_iff.mp isThere
    have put : (loop.setBacklog owner (backlog.put item)).duty? cache =
        if cache = owner then (loop.duty? cache).map (Duty.feed [item]) else loop.duty? cache := by
      rw [setBacklog_duty? found]
      split
      · next here =>
        subst here
        simp [duty?, found, Cache.duty, Duty.feed, has, Backlog.puts]
      · rfl
    dsimp only
    split
    · rw [wake_duty?]
      exact put
    · exact put

/-- An item is done. -/
theorem itemDone_duty? (owner : CacheId) (loop : Loop S) (cache : CacheId) :
    (loop.itemDone owner).duty? cache =
      if cache = owner then
        (loop.duty? cache).map fun duty =>
          { duty with backlog := duty.backlog.map fun backlog => backlog.done.2 }
      else loop.duty? cache := by
  unfold itemDone
  split
  · next isNone =>
    split
    · next here =>
      subst here
      unfold duty?
      cases found : loop.caches[cache]? with
      | none => rfl
      | some known =>
        rw [found] at isNone
        simp only [Option.bind_some] at isNone
        simp [Cache.duty, isNone]
    · rfl
  · next backlog isThere =>
    obtain ⟨known, found, has⟩ := Option.bind_eq_some_iff.mp isThere
    dsimp only
    rw [wakes_duty?]
    show (loop.setBacklog owner backlog.done.2).duty? cache = _
    rw [setBacklog_duty? found]
    split
    · next here =>
      subst here
      simp [duty?, found, Cache.duty, has]
    · rfl

/-- A cache is closed. -/
theorem retire_duty? (owner : CacheId) (handle : Option Handle) (loop : Loop S) (cache : CacheId) :
    (loop.retire owner handle).duty? cache =
      if cache = owner then (loop.duty? cache).map Duty.closed else loop.duty? cache := by
  have left : (loop.retire owner handle).duty? cache =
      if cache = owner then ((loop.stopCache owner).duty? cache).map fun duty =>
        { duty with worker := none }
      else (loop.stopCache owner).duty? cache :=
    modifyCache_duty? owner _ _ (fun _ => rfl) _ cache
  rw [left]
  by_cases runs : (loop.caches[owner]?).any Cache.isRunning = true
  · rw [stopCache, if_pos runs, post_duty?,
      modifyCache_duty? owner _ (fun duty => { duty with phase := .closed }) fun _ => rfl]
    split
    · next here =>
      subst here
      obtain ⟨known, found, isRunning⟩ := (Option.any_eq_true _ _).mp runs
      have isStarted : known.phase = .started := of_decide_eq_true isRunning
      simp [duty?, found, Duty.closed, Duty.feed, Backlog.puts, Cache.duty, isStarted]
    · rfl
  · rw [stopCache, if_neg runs]
    split
    · next here =>
      subst here
      unfold duty?
      cases found : loop.caches[cache]? with
      | none => rfl
      | some known =>
        have rests : ¬ known.phase = .started := by simpa [found, Cache.isRunning] using runs
        simp [Duty.closed, Cache.duty, rests]
    · rfl

/-- A cache begins to run. -/
theorem begin_duty? (owner : CacheId) (loop : Loop S) (cache : CacheId) :
    (loop.begin owner).duty? cache =
      if cache = owner then (loop.duty? cache).map fun _ =>
        ⟨.started, some {}, some loop.tasks.length⟩
      else loop.duty? cache :=
  modifyCache_duty? owner _ _ (fun _ => rfl) loop cache

/-! ## Queues that are fed -/

/-- Items come last in the queue of a cache, which runs if there are any. -/
structure Feeds (cache : CacheId) (items : List Item) (before after : Loop S) : Prop where
  runs : items = [] ∨ ∃ duty, before.duty? cache = some duty ∧ duty.phase = .started
  old (duty : Duty) : before.duty? cache = some duty → after.duty? cache = some (duty.feed items)
  new : before.duty? cache = none → ∀ duty, after.duty? cache = some duty →
    duty = ⟨.latent, none, none⟩

namespace Feeds

/-- If items come, the cache runs. -/
theorem mayRun {items : List Item} {duty : Duty} (feeds : Feeds cache items before after)
    (was : before.duty? cache = some duty) : items = [] ∨ duty.phase = .started := by
  rcases feeds.runs with isNone | ⟨known, was', isStarted⟩
  · exact .inl isNone
  · cases was.symm.trans was'
    exact .inr isStarted

theorem of_eq (duty : after.duty? cache = before.duty? cache) : Feeds cache [] before after := by
  refine ⟨.inl rfl, fun known was => ?_, fun isNone known is => ?_⟩
  · rw [duty, was, Duty.feed_nil]
  · rw [duty, isNone] at is
    cases is

theorem trans {first second : List Item} {middle : Loop S} (left : Feeds cache first before middle)
    (right : Feeds cache second middle after) : Feeds cache (first ++ second) before after := by
  refine ⟨?_, fun duty was => ?_, fun isNone duty is => ?_⟩
  · rcases left.runs with isNone | runs
    · rcases right.runs with isNone' | ⟨duty, is, isStarted⟩
      · exact .inl (by rw [isNone, isNone']; rfl)
      · cases was : before.duty? cache with
        | none =>
          rw [left.new was duty is] at isStarted
          cases isStarted
        | some known =>
          have same := (left.old known was).symm.trans is
          cases same
          exact .inr ⟨known, rfl, isStarted⟩
    · exact .inr runs
  · rw [right.old _ (left.old duty was), Duty.feed_append]
  · cases between : middle.duty? cache with
    | none => exact right.new between duty is
    | some known =>
      have isNew := left.new isNone known between
      have same := (right.old known between).symm.trans is
      cases same
      rw [isNew]
      rfl

theorem still {items : List Item} {middle : Loop S} (feeds : Feeds cache items before middle)
    (same : after.duty? cache = middle.duty? cache) : Feeds cache items before after := by
  simpa using feeds.trans (.of_eq same)

theorem post {item : Item} {duty : Duty} (was : loop.duty? owner = some duty)
    (runs : duty.phase = .started) (cache : CacheId) :
    Feeds cache (if cache = owner then [item] else []) loop (loop.post owner item) := by
  have is := post_duty? owner item loop cache
  split
  · next here =>
    subst here
    rw [if_pos rfl] at is
    exact ⟨.inr ⟨duty, was, runs⟩, fun known was => by rw [is, was]; rfl,
      fun isNone known found => by
      rw [is, isNone] at found
      cases found⟩
  · next different =>
    rw [if_neg different] at is
    exact .of_eq is

end Feeds

theorem Grain.feeds (grain : Grain asks drops before after) (cache : CacheId) :
    ∃ items, (∀ item ∈ items, item.isAsking) ∧ Feeds cache items before after := by
  have still : after.duty? cache = before.duty? cache →
      ∃ items : List Item, (∀ item ∈ items, item.isAsking) ∧ Feeds cache items before after :=
    fun same => ⟨[], by simp, .of_eq same⟩
  cases grain with
  | still service duty tasks ready turn => exact still (duty cache)
  | serve drift => exact still rfl
  | create known isNew =>
    refine ⟨[], by simp, .inl rfl, fun duty was => ?_, fun isNone duty is => ?_⟩
    · rw [create_duty?, Duty.feed_nil]
      split
      · next here =>
        rw [here, duty?, List.getElem?_eq_none (Nat.le_refl _)] at was
        cases was
      · exact was
    · rw [create_duty?] at is
      split at is
      · cases is
        exact isNew
      · rw [isNone] at is
        cases is
  | @post owner known item found runs isPlain =>
    refine ⟨_, fun other member => ?_, .post (duty?_of_found found) runs cache⟩
    split at member
    · rw [List.mem_singleton] at member
      rcases isPlain with same | same <;> exact member ▸ same ▸ trivial
    · cases member
  | spawn isOther enters => exact still rfl
  | ask query mayAsk found => exact still (posed_duty? _ query _ before cache)
  | wake isFree => exact still (wake_duty? _ _ _ _)
  | count task => exact still (by rw [duty?, (countDown_keeps _ _).2.1, duty?])
  | cancel task => exact still (by rw [duty?, (cancelErrand_keeps _ _).2.1, duty?])
  | hook task isPlain => exact still (by rw [duty?, (addHook_keeps _ _ _).2.1, duty?])

theorem Grains.feeds (grains : Grains asks drops before after) (cache : CacheId) :
    ∃ items, (∀ item ∈ items, item.isAsking) ∧ Feeds cache items before after := by
  induction grains with
  | refl => exact ⟨[], by simp, .of_eq rfl⟩
  | tail _ grain step =>
    obtain ⟨items, areAsking, feeds⟩ := step
    obtain ⟨items', areAsking', feeds'⟩ := grain.feeds cache
    refine ⟨items ++ items', fun item member => ?_, feeds.trans feeds'⟩
    exact (List.mem_append.mp member).elim (areAsking item) (areAsking' item)

/-! ## Turns -/

/-- The duty of a cache after an item is done. -/
def itemDoneDuty (duty : Duty) : Duty :=
  { duty with backlog := duty.backlog.map fun backlog => backlog.done.2 }

/-- What a frame's turn comes to for the phase, the queue and the worker of a cache. -/
inductive Tends (cache : CacheId) (self : TaskId) (loop : Loop S) : Frame S.Point → Wake S.Reply →
    Turn S → Prop
  | feeds {frame : Frame S.Point} {wake : Wake S.Reply} {turn : Turn S} {items : List Item}
      (isOther : ∀ stage, frame ≠ .worker cache stage) (areAsking : ∀ item ∈ items, item.isAsking)
      (feeds : Feeds cache items loop turn.1) : Tends cache self loop frame wake turn
  | begins {buildInitial : Bool} {wake : Wake S.Reply} {turn : Turn S} {duty : Duty}
      (was : loop.duty? cache = some duty) (isLatent : duty.phase = .latent)
      (is : turn.1.duty? cache = some ⟨.started, some {}, some loop.tasks.length⟩)
      (tasks :
        turn.1.tasks =
          loop.tasks ++ [{ role := .worker cache, frames := [.worker cache .taking] }]) :
      Tends cache self loop (.start cache buildInitial .beginning) wake turn
  | closes {wake : Wake S.Reply} {turn : Turn S}
      (is : turn.1.duty? cache = (loop.duty? cache).map Duty.closed) :
      Tends cache self loop (.close cache false) wake turn
  | joins {wake : Wake S.Reply} {turn : Turn S} {duty : Duty} {backlog : Backlog}
      (was : loop.duty? cache = some duty) (has : duty.backlog = some backlog)
      (isBusy : 0 < backlog.unfinished)
      (is : turn.1.duty? cache = some { duty with backlog := some (backlog.join self) }) :
      Tends cache self loop (.wait cache .joining) wake turn
  | quits {stage : WorkerStage} {wake : Wake S.Reply}
      (isGone : loop.duty? cache = none ∨ stage = .taking ∧ wake = .cancelled) :
      Tends cache self loop (.worker cache stage) wake (loop, .finish .cancelled)
  | idles {wake : Wake S.Reply} {turn : Turn S} {duty : Duty} (was : loop.duty? cache = some duty)
      (isPlain : wake ≠ .cancelled) (isEmpty : duty.backlog.bind Backlog.take? = none)
      (is :
        turn.1.duty? cache = some { duty with backlog := duty.backlog.map (Backlog.await self) })
      (way : turn.2 = .await (.worker cache .taking) .item) :
      Tends cache self loop (.worker cache .taking) wake turn
  | reads {wake : Wake S.Reply} {turn : Turn S} {duty : Duty} {backlog rest : Backlog}
      {point : S.Point} (was : loop.duty? cache = some duty) (isPlain : wake ≠ .cancelled)
      (has : duty.backlog = some backlog) (taken : backlog.take? = some (.resync, rest))
      (is : turn.1.duty? cache = some { duty with backlog := some rest })
      (way : turn.2 = .call (.worker cache .resyncing) (.service point)) :
      Tends cache self loop (.worker cache .taking) wake turn
  | works {wake : Wake S.Reply} {turn : Turn S} {duty : Duty} {backlog rest : Backlog} {item : Item}
      {items : List Item} (was : loop.duty? cache = some duty) (isPlain : wake ≠ .cancelled)
      (has : duty.backlog = some backlog) (taken : backlog.take? = some (item, rest))
      (areAsking : ∀ item ∈ items, item.isAsking) (runs : items = [] ∨ duty.phase = .started)
      (is : turn.1.duty? cache = some { duty with backlog := some (rest.puts items).done.2 })
      (either : item = .stop ∧ turn.2 = .finish (.returned .nothing) ∨
        item ≠ .stop ∧ turn.2 = .goOn (.worker cache .taking)) :
      Tends cache self loop (.worker cache .taking) wake turn
  | returns {wake : Wake S.Reply} {turn : Turn S} {duty : Duty} {items : List Item}
      (was : loop.duty? cache = some duty) (areAsking : ∀ item ∈ items, item.isAsking)
      (runs : items = [] ∨ duty.phase = .started)
      (is : turn.1.duty? cache = some (itemDoneDuty (duty.feed items)))
      (either : turn.2 = .finish .cancelled ∨ turn.2 = .goOn (.worker cache .taking)) :
      Tends cache self loop (.worker cache .resyncing) wake turn

/-- A turn that does nothing to a cache, or lets another cache's worker go on. -/
theorem Tends.still {self : TaskId} {frame : Frame S.Point} {wake : Wake S.Reply} {turn : Turn S}
    (isOther : ∀ stage, frame ≠ .worker cache stage)
    (same : turn.1.duty? cache = loop.duty? cache) :
    Tends cache self loop frame wake turn :=
  .feeds isOther (fun item (member : item ∈ []) => by cases member) (.of_eq same)

/-- An item is done in another cache's queue. -/
theorem Feeds.itemDone {items : List Item} (feeds : Feeds cache items before after)
    (different : cache ≠ owner) :
    Feeds cache items before (after.itemDone owner) :=
  feeds.still (by rw [itemDone_duty?, if_neg different])

/-- **What a frame's turn comes to for each cache.** -/
theorem Plays.tends {self : TaskId} {frame : Frame S.Point} {wake : Wake S.Reply} {turn : Turn S}
    (plays : Plays self loop frame wake turn) (cache : CacheId) :
    Tends cache self loop frame wake turn := by
  have other : ∀ {owner : CacheId} {stage : WorkerStage}, cache ≠ owner →
      ∀ stage', (.worker owner stage : Frame S.Point) ≠ .worker cache stage' :=
    fun different _ same => by
      cases same
      exact different rfl
  cases plays with
  | plain isOther grains isFree =>
    obtain ⟨items, areAsking, feeds⟩ := grains.feeds cache
    exact .feeds (isOther cache) areAsking feeds
  | @begins owner known buildInitial wake found isLatent =>
    by_cases here : cache = owner
    · subst here
      refine .begins (duty?_of_found found) isLatent ?_ rfl
      show (loop.begin cache).duty? cache = _
      rw [begin_duty?, if_pos rfl, duty?_of_found found]
      rfl
    · refine .still (by simp) ?_
      show (loop.begin owner).duty? cache = _
      rw [begin_duty?, if_neg here]
  | listens found grains isFree =>
    obtain ⟨items, areAsking, feeds⟩ := grains.feeds cache
    exact .feeds (by simp) areAsking ((Feeds.of_eq (by rfl)).trans feeds)
  | @retires owner known wake outcome found =>
    by_cases here : cache = owner
    · subst here
      exact .closes (by rw [retire_duty?, if_pos rfl])
    · exact .still (by simp) (by rw [retire_duty?, if_neg here])
  | @shuts owner known worker wake found knows isOpen =>
    have hooked : ((loop.retire owner known.handle).addHook worker (.resume self)).duty? cache =
        (loop.retire owner known.handle).duty? cache := by
      rw [duty?, (addHook_keeps _ _ _).2.1, duty?]
    by_cases here : cache = owner
    · subst here
      exact .closes (by rw [hooked, retire_duty?, if_pos rfl])
    · exact .still (by simp) (by rw [hooked, retire_duty?, if_neg here])
  | @joins owner known backlog wake found has isBusy =>
    have is := setBacklog_duty? found (backlog.join self) cache
    by_cases here : cache = owner
    · subst here
      exact .joins (duty?_of_found found) has isBusy (by rw [is, if_pos rfl]; rfl)
    · exact .still (by simp) (by rw [is, if_neg here])
  | @quits owner stage wake isGone =>
    by_cases here : cache = owner
    · subst here
      refine .quits (isGone.imp_left fun isNone => ?_)
      rw [duty?, isNone]
      rfl
    · exact .still (other here) rfl
  | @idles owner known wake found isPlain isEmpty =>
    have is : (loop.modifyCache owner fun cache =>
        { cache with backlog := cache.backlog.map (Backlog.await self) }).duty? cache =
          if cache = owner then
            (loop.duty? cache).map fun duty =>
              { duty with backlog := duty.backlog.map (Backlog.await self) }
          else loop.duty? cache := modifyCache_duty? owner _ _ (fun _ => rfl) loop cache
    by_cases here : cache = owner
    · subst here
      exact .idles (duty?_of_found found) isPlain isEmpty (by
        rw [is, if_pos rfl, duty?_of_found found]; rfl) rfl
    · exact .still (other here) (by rw [is, if_neg here])
  | @reads owner known backlog rest wake found isPlain has taken =>
    have is := setBacklog_duty? found rest cache
    by_cases here : cache = owner
    · subst here
      exact .reads (duty?_of_found found) isPlain has taken ((is).trans (if_pos rfl)) rfl
    · exact .still (other here) ((is).trans (if_neg here))
  | @works owner known backlog rest item wake middle way found isPlain has taken grains either =>
    obtain ⟨items, areAsking, feeds⟩ := grains.feeds cache
    have is := setBacklog_duty? found rest cache
    by_cases here : cache = owner
    · subst here
      rw [if_pos rfl] at is
      have mayRun := feeds.mayRun is
      refine .works (duty?_of_found found) isPlain has taken areAsking mayRun ?_ either
      rw [itemDone_duty?, if_pos rfl, feeds.old _ is]
      rfl
    · rw [if_neg here] at is
      refine .feeds (other here) areAsking (Feeds.itemDone ?_ here)
      exact (Feeds.of_eq is).trans feeds
  | @returns owner known wake middle way found grains either =>
    obtain ⟨items, areAsking, feeds⟩ := grains.feeds cache
    by_cases here : cache = owner
    · subst here
      have was := duty?_of_found found
      refine .returns was areAsking (feeds.mayRun was) ?_ either
      rw [itemDone_duty?, if_pos rfl, feeds.old _ was]
      rfl
    · exact .feeds (other here) areAsking (feeds.itemDone here)

/-! ## Everything that happens -/

theorem afterTurn_duty? (task : TaskId) (frame : Frame S.Point) (rest : List (Frame S.Point))
    (turn : Turn S) (cache : CacheId) :
    (afterTurn task frame rest turn).duty? cache = turn.1.duty? cache := by
  rw [duty?, afterTurn, (move_keeps _ task rest turn.2).2.1,
    (noteEnd_tasks task frame turn.2 turn.1).2, duty?]

/-- What happens to the phase, the queue and the worker of a cache. -/
inductive Fares (cache : CacheId) (before after : Loop S) : Prop
  | feeds {items : List Item} (areAsking : ∀ item ∈ items, item.isAsking)
      (feeds : Feeds cache items before after) : Fares cache before after
  /-- The answer to a request of the cache becomes an item. -/
  | answers {query : Query} {task : TaskId} {outcome : Outcome Answer} {ready : List Job}
      (isBetween : before.turn = none)
      (isFirst : before.ready = .hook (.answered cache query) task :: ready)
      (ended : before.outcome? task = some outcome)
      (feeds : Feeds cache [query.answer outcome] before after) :
      Fares cache before after
  | turn {task : TaskId} {wake : Wake S.Reply} {frame : Frame S.Point} {rest : List (Frame S.Point)}
      {turn : Turn S} (isAt : before.IsAt task wake frame rest)
      (made : turn = before.inTurn.frameTurn task frame wake)
      (tends : Tends cache task before.inTurn frame wake turn)
      (same : after = afterTurn task frame rest turn) :
      Fares cache before after

theorem Fares.still (same : after.duty? cache = before.duty? cache) : Fares cache before after :=
  .feeds (fun item (member : item ∈ []) => by cases member) (.of_eq same)

/-- A cache runs if its duty says so. -/
theorem any_isRunning (loop : Loop S) (cache : CacheId) :
    (loop.caches[cache]?).any Cache.isRunning = (loop.duty? cache).any (·.phase = .started) := by
  unfold duty?
  cases loop.caches[cache]? <;> rfl

/-- What becomes of an answer, for each cache. -/
theorem answered_duty? (owner : CacheId) (query : Query) (task : TaskId) (outcome : Outcome Answer)
    (loop : Loop S) (cache : CacheId) :
    (loop.answered owner query task outcome).duty? cache =
      if cache = owner ∧ (loop.duty? cache).any (·.phase = .started) then
        (loop.duty? cache).map (Duty.feed [query.answer outcome])
      else loop.duty? cache := by
  have kept : ∀ cache, (loop.modifyCache owner fun cache =>
      { cache with pending := cache.pending.filter (· ≠ task) }).duty? cache = loop.duty? cache :=
    fun cache =>
    (modifyCache_duty? owner
      (fun cache => { cache with pending := cache.pending.filter (· ≠ task) }) id
      (fun _ => rfl) loop cache).trans (by simp)
  have whole : loop.answered owner query task outcome =
      let loop := loop.modifyCache owner fun cache =>
          { cache with pending := cache.pending.filter (· ≠ task) }
      if (loop.caches[owner]?).any Cache.isRunning then
        loop.post owner (query.answer outcome) else loop := by
    cases query <;> rfl
  rw [whole]
  dsimp only
  rw [any_isRunning, kept owner]
  by_cases runs : (loop.duty? owner).any (·.phase = .started) = true
  · rw [if_pos runs, post_duty?, kept]
    by_cases here : cache = owner
    · subst here
      rw [if_pos rfl, if_pos ⟨rfl, runs⟩]
    · rw [if_neg here, if_neg fun both => here both.1]
  · rw [if_neg runs, kept, if_neg]
    rintro ⟨rfl, runs'⟩
    exact runs runs'

theorem Passes.fares (passes : Passes before after) (cache : CacheId) :
    Fares cache before after := by
  cases passes with
  | grains grains =>
    obtain ⟨items, areAsking, feeds⟩ := Grains.feeds grains cache
    exact .feeds areAsking feeds
  | turn isAt same plays => exact .turn isAt same (plays.tends cache) rfl
  | pause turn isOver => exact .still rfl
  | run isBetween isFirst was either => exact .still rfl
  | @doom task ready isBetween isFirst was =>
    exact .still (by rw [duty?, (finish_keeps _ _ _).2.1, duty?])
  | stale isBetween isFirst isOver => exact .still rfl
  | @answer owner query task outcome ready isBetween isFirst ended =>
    have is := answered_duty? owner query task outcome { before with ready } cache
    by_cases runs : cache = owner ∧ (before.duty? cache).any (·.phase = .started)
    · obtain ⟨rfl, runs⟩ := runs
      obtain ⟨duty, was, isStarted⟩ := (Option.any_eq_true _ _).mp runs
      refine .answers isBetween isFirst ended ⟨.inr ⟨duty, was, of_decide_eq_true isStarted⟩,
        fun known was => ?_,
        fun isNone => ?_⟩
      · rw [is, if_pos ⟨rfl, runs⟩]
        show (before.duty? cache).map _ = _
        rw [was]
        rfl
      · cases was.symm.trans isNone
    · exact .still (is.trans (if_neg runs))
  | hook isBetween isFirst isPlain does =>
    rcases does with grains | ⟨waiter, outcome, -, same⟩
    · obtain ⟨items, areAsking, feeds⟩ := Grains.feeds grains cache
      exact .feeds areAsking ((Feeds.of_eq (by rfl)).trans feeds)
    · subst same
      exact .still (wake_duty? _ _ _ _)

/-- How a cache has come to the phase of its life in which it is after something has happened. -/
inductive Matures (cache : CacheId) (before after : Loop S) : Phase → Prop
  /-- It has been made. -/
  | comes (isNew : before.duty? cache = none) : Matures cache before after .latent
  | stays {duty : Duty} (was : before.duty? cache = some duty) :
      Matures cache before after duty.phase
  /-- A start has had its first turn. -/
  | begins {duty : Duty} {task : TaskId} {wake : Wake S.Reply} {buildInitial : Bool}
      {rest : List (Frame S.Point)} (was : before.duty? cache = some duty)
      (isLatent : duty.phase = .latent)
      (isAt : before.IsAt task wake (.start cache buildInitial .beginning) rest)
      (same : after = afterTurn task (.start cache buildInitial .beginning) rest
        (before.inTurn.frameTurn task (.start cache buildInitial .beginning) wake)) :
        Matures cache before after .started
  /-- It has been closed. -/
  | closes {duty : Duty} {task : TaskId} {wake : Wake S.Reply} {rest : List (Frame S.Point)}
      (was : before.duty? cache = some duty) (ran : duty.phase = .started)
      (isAt : before.IsAt task wake (.close cache false) rest)
      (same : after = afterTurn task (.close cache false) rest
        (before.inTurn.frameTurn task (.close cache false) wake)) :
        Matures cache before after .closed

theorem Feeds.matures {items : List Item} (feeds : Feeds cache items before after) {duty : Duty}
    (is : after.duty? cache = some duty) : Matures cache before after duty.phase := by
  cases was : before.duty? cache with
  | none =>
    rw [feeds.new was duty is]
    exact .comes was
  | some old =>
    cases (feeds.old old was).symm.trans is
    show Matures cache before after old.phase
    exact .stays was

/-- **A cache goes from one phase of its life to the next in turns of its own frames**, and else
stays in it. -/
theorem Fares.matures (fares : Fares cache before after) {duty : Duty}
    (is : after.duty? cache = some duty) :
    Matures cache before after duty.phase := by
  cases fares with
  | feeds areAsking feeds => exact feeds.matures is
  | answers isBetween isFirst ended feeds => exact feeds.matures is
  | @turn task wake frame rest turn isAt made tends same =>
    have given := is
    rw [same, afterTurn_duty?] at given
    rw [made] at same
    have stays {old new : Duty} (was : before.duty? cache = some old)
        (now : turn.1.duty? cache = some new) (phase : new.phase = old.phase) :
        Matures cache before after duty.phase := by
      cases now.symm.trans given
      rw [phase]
      exact .stays was
    cases tends with
    | feeds _ _ feeds =>
      cases was : before.duty? cache with
      | none =>
        rw [feeds.new was duty given]
        exact .comes was
      | some old => exact stays was (feeds.old old was) rfl
    | begins was isLatent now =>
      cases now.symm.trans given
      exact .begins was isLatent isAt same
    | closes now =>
      obtain ⟨old, was, rfl⟩ := Option.map_eq_some_iff.mp (now.symm.trans given)
      by_cases ran : old.phase = .started
      · have phase : old.closed.phase = .closed := by simp [Duty.closed, ran]
        rw [phase]
        exact .closes was ran isAt same
      · exact stays was given (by simp [Duty.closed, ran])
    | quits => exact stays given given rfl
    | joins was _ _ now => exact stays was now rfl
    | idles was _ _ now => exact stays was now rfl
    | reads was _ _ _ now => exact stays was now rfl
    | works was _ _ _ _ _ now => exact stays was now rfl
    | returns was _ _ now => exact stays was now rfl

end Loop

end WatchedNode
