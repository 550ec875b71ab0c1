/-
**A cache that is left alone.**

A cache is left alone in a step (`LeftAlone`) if nothing comes to it from outside: nobody does what
he has asked it for, no watcher of its own is fired, nobody asks it to look at its node, and of its
connection it is told only what it believes. Then no item to read the node comes into its queue, nor
one to look at it, but for the look with which a read of its own ends (`LeftAlone.noResync`,
`LeftAlone.noCheck`). So in such a step, whoever may be about, the cache does nothing but get on
with its agenda (`LeftAlone.moves`).
-/
import WatchedNode.Proofs.Loop.Abiding
import WatchedNode.Proofs.Loop.Agenda
import WatchedNode.Proofs.Loop.Flights

namespace WatchedNode

open Relation

variable {S : Service}

/-- Somebody has asked the cache for what the frame does, and it is something that may reach its
queue. -/
def Frame.isOperation {Point : Type} (cache : CacheId) : Frame Point → Prop
  | .start owner .. | .rebuild owner _ | .close owner _ => owner = cache
  | _ => False

/-- Only a worker that has read the node goes on to look at it, unless somebody has asked the cache
for something. -/
theorem Frame.resyncs_of_looksAgain {Point : Type} {frame : Frame Point} {cache : CacheId}
    (looks : frame.looksAgain cache) (isOther : ¬ frame.isOperation cache) :
    frame = .worker cache .resyncing := by
  cases frame with
  | worker owner stage =>
    cases stage with
    | taking => exact looks.elim
    | resyncing =>
      cases (show owner = cache from looks)
      rfl
  | start owner buildInitial stage =>
    cases stage with
    | beginning => exact looks.elim
    | _ => exact absurd looks isOther
  | rebuild owner isReading =>
    cases isReading with
    | false => exact looks.elim
    | true => exact absurd looks isOther
  | _ => exact looks.elim

theorem Item.isPrompt_of_isResync {item : Item} (isResync : item.isResync = true) :
    item.isPrompt = true := by
  cases item <;> first | rfl | cases isResync

theorem Item.isPrompt_of_isCheck {item : Item} (isCheck : item.isCheck = true) :
    item.isPrompt = true := by
  cases item <;> first | rfl | cases isCheck

/-- A look is asked for on account of an item to do that, and a fetch when a look has ended. -/
theorem Item.cases_of_query {item : Item} {query : Query} (isNext : item.query? = some query) :
    item = .check ∧ query = .look ∨ ∃ outcome, item = .looked outcome ∧ query = .fetch := by
  unfold query? at isNext
  split at isNext
  · exact .inl ⟨rfl, (Option.some.inj isNext).symm⟩
  · split at isNext
    · exact .inr ⟨_, rfl, (Option.some.inj isNext).symm⟩
    · cases isNext
  · cases isNext

/-- Only workers read for a cache, and what somebody has asked it for. -/
theorem Frame.works_or_operates {Point : Type} {frame caller : Frame Point} {cache : CacheId}
    (reads : caller.reads cache) (same : caller.activity = frame.activity) :
    (∃ stage, frame = .worker cache stage) ∨ frame.isOperation cache := by
  cases caller with
  | worker owner stage =>
    cases stage with
    | taking => exact reads.elim
    | resyncing =>
      cases (show owner = cache from reads)
      cases frame <;> cases same
      exact .inl ⟨_, rfl⟩
  | start owner buildInitial stage =>
    cases stage with
    | reading =>
      cases (show owner = cache from reads)
      cases frame <;> cases same
      exact .inr rfl
    | _ => exact reads.elim
  | rebuild owner isReading =>
    cases isReading with
    | false => exact reads.elim
    | true =>
      cases (show owner = cache from reads)
      cases frame <;> cases same
      exact .inr rfl
  | _ => exact reads.elim

/-- One thing at most is of a kind if it can be only in one place. -/
theorem countP_eq_toNat {kind : Type} {things : List kind} {isOne : kind → Bool}
    {place : Nat} {one : kind} (found : things[place]? = some one)
    (only : ∀ (other : Nat) (thing : kind), things[other]? = some thing → isOne thing = true →
      other = place) :
    things.countP isOne = (isOne one).toNat := by
  induction things generalizing place with
  | nil => cases found
  | cons first rest step =>
    rw [List.countP_cons]
    cases place with
    | zero =>
      cases found
      have none : rest.countP isOne = 0 := by
        refine List.countP_eq_zero.mpr fun thing member is => ?_
        obtain ⟨other, there⟩ := List.getElem?_of_mem member
        cases only (other + 1) thing there is
      rw [none, Nat.zero_add]
      cases isOne one <;> rfl
    | succ place =>
      have isOther : ¬ isOne first = true := fun is => by cases only 0 first rfl is
      rw [if_neg isOther, Nat.add_zero]
      exact step found fun other thing there is => Nat.succ.inj (only (other + 1) thing there is)

namespace Loop

variable {allowed : Outside S} {before after loop : Loop S} {cache : CacheId} {worker : TaskId}

/-! ## Agendas -/

/-- The workers that read the node of the cache, of which there is one at most. -/
def readers (cache : CacheId) (loop : Loop S) : Nat := loop.tasks.countP (Task.isReading cache)

/-- What a cache has to do for its view, and what it has asked. -/
def agenda (cache : CacheId) (loop : Loop S) : Agenda where
  items := loop.items cache
  looks := loop.flights cache .look
  fetches := loop.flights cache .fetch
  reads := loop.readers cache
  asked := (loop.requestsOf cache).length

theorem agenda_eq {items : List Item} {looks fetches reads asked : Nat}
    (areItems : loop.items cache = items) (areLooks : loop.flights cache .look = looks)
    (areFetches : loop.flights cache .fetch = fetches) (areReads : loop.readers cache = reads)
    (areAsked : (loop.requestsOf cache).length = asked) :
    loop.agenda cache = ⟨items, looks, fetches, reads, asked⟩ := by
  subst areItems areLooks areFetches areReads areAsked
  rfl

/-- The cache is left alone in what happens: nobody does what he has asked it for, no watcher of its
own is fired, nobody asks it to look at its node, and of its connection it is told only what it
believes. -/
structure LeftAlone (cache : CacheId) (before after : Loop S) : Prop where
  happens : Happens published before after
  noOperation {task : TaskId} {wake : Wake S.Reply} {frame : Frame S.Point}
  {rest : List (Frame S.Point)} :
    before.IsAt task wake frame rest → ¬ frame.isOperation cache
  undisturbed {known : Cache} : before.caches[cache]? = some known →
    Writes (fun entry => entry.disturbs cache known.connected = false) before after

/-! ## Reads that are under way -/

/-- A worker reads the node if more is to be done than is in the queue. -/
theorem IsManned.readers {duty : Duty} {backlog : Backlog} (isManned : IsManned cache loop)
    (workersOwn : loop.WorkersOwn) (is : loop.duty? cache = some duty)
    (has : duty.backlog = some backlog) :
    backlog.unfinished = backlog.items.length + loop.readers cache := by
  cases isManned with
  | off isNew =>
    cases isNew duty is
    cases has
  | @on _ _ worker task crew =>
    cases is.symm.trans crew.is
    cases has.symm.trans crew.has
    rw [crew.count, Loop.readers, countP_eq_toNat crew.found]
    intro other known found isReading
    have role : known.role = .worker cache := by
      obtain ⟨frame, member, reads⟩ := List.any_eq_true.mp isReading
      cases frame with
      | worker owner stage =>
        cases stage with
        | taking => cases reads
        | resyncing =>
          exact of_decide_eq_true reads ▸ workersOwn other known owner .resyncing found member
      | _ => cases reads
    exact crew.only other (by rw [roles, List.getElem?_map, found, Option.map_some, role])

/-! ## What is asked -/

theorem requestsOf_eq (record : after.record = before.record) (cache : CacheId) :
    after.requestsOf cache = before.requestsOf cache := by
  rw [requestsOf_record, requestsOf_record, record]

/-- What is recorded last is a request of the cache, or none. -/
theorem requestsOf_cons {entry : Entry S.Call} (record : after.record = entry :: before.record)
    (cache : CacheId) :
    after.requestsOf cache = (entry.asked? cache).toList ++ before.requestsOf cache := by
  rw [requestsOf_record, requestsOf_record, record]
  cases asked : entry.asked? cache with
  | none => rw [List.filterMap_cons_none asked]; rfl
  | some request => rw [List.filterMap_cons_some asked]; rfl

/-- The worker of the cache has its turn. -/
def HasWorked (cache : CacheId) (before after : Loop S) : Prop :=
  ∃ worker wake stage rest, before.IsAt worker wake (.worker cache stage) rest ∧
    after = afterTurn worker (.worker cache stage) rest
      (before.inTurn.frameTurn worker (.worker cache stage) wake)

/-- **A cache asks something only in turns of its worker, and where somebody has asked it for
something.** -/
theorem Happens.requestsOf (happens : Happens published before after)
    (noOperation : ∀ task wake frame rest, before.IsAt task wake frame rest →
      ¬ frame.isOperation cache)
    (isOther : ¬ HasWorked cache before after) :
    after.requestsOf cache = before.requestsOf cache := by
  have silent {entry : Entry S.Call} (record : after.record = entry :: before.record)
      (isNone : entry.asked? cache = none) : after.requestsOf cache = before.requestsOf cache := by
    rw [requestsOf_cons record, isNone]
    rfl
  rcases happens.turns with same | ⟨task, wake, frame, rest, isAt, rfl⟩
  · exact requestsOf_eq same cache
  · by_cases isCall : frame.isService
    · cases frame with
      | service point =>
        have record := afterTurn_service_record task point wake rest before.inTurn
        split at record
        · exact silent record rfl
        · exact requestsOf_eq record cache
      | _ => exact isCall.elim
    · have record : (afterTurn task frame rest (before.inTurn.frameTurn task frame wake)).record =
          (before.inTurn.frameTurn task frame wake).1.record := afterTurn_own_record isCall task _
      have different {owner : CacheId} {request : Request} (isOwn : owner ≠ cache)
          (made :
            (before.inTurn.frameTurn task frame wake).1.record =
              .asked owner task request :: before.record) :
          (afterTurn task frame rest (before.inTurn.frameTurn task frame wake)).requestsOf cache =
            before.requestsOf cache :=
        silent (record.trans made) (if_neg isOwn)
      have follows := frameTurn_follows task frame wake before.inTurn
      cases frameTurn_adds task wake before.inTurn frame with
      | nothing made => exact requestsOf_eq (record.trans made) cache
      | begins found isLatent made =>
        exact different (fun here => noOperation _ _ _ _ isAt here) made
      | @reads owner _ _ caller _ _ found reads hasBegun made way =>
        refine different (fun here => ?_) made
        subst here
        rw [way] at follows
        cases follows with
        | call same =>
          rcases Frame.works_or_operates reads same with ⟨stage, rfl⟩ | isOperation
          · exact isOther ⟨task, wake, stage, rest, isAt, rfl⟩
          · exact noOperation _ _ _ _ isAt isOperation
      | asks found runs isFirst isNext made =>
        refine silent (record.trans made) (if_neg fun here => ?_)
        subst here
        exact isOther ⟨task, wake, .taking, rest, isAt, rfl⟩
      | sees found runs shows made => exact silent (record.trans made) rfl

/-! ## What comes into the queue -/

/-- Prompts that are no reads are looks. -/
theorem eq_replicate_of_asking {items : List Item} (areAsking : ∀ item ∈ items, item.isAsking)
    (noResync : items.countP Item.isResync = 0) :
    items = List.replicate (items.countP Item.isCheck) .check := by
  induction items with
  | nil => rfl
  | cons item rest step =>
    rw [List.countP_cons] at noResync
    have areAsking' := fun other member => areAsking other (List.mem_cons_of_mem item member)
    cases item with
    | check =>
      have isCheck : Item.isCheck .check = true := rfl
      rw [List.countP_cons, if_pos isCheck, List.replicate_succ]
      exact congrArg _ (step areAsking' (Nat.eq_zero_of_add_eq_zero_right noResync))
    | resync => cases noResync
    | _ => exact (areAsking _ List.mem_cons_self).elim

/-! ## The worker's turns -/

section Worker

variable {duty : Duty} {backlog : Backlog} {task : Task S} {known : Cache}

/-- A worker takes items, or has read the node, when it has its turn. -/
theorem Crew.stage {stage : WorkerStage} {rest : List (Frame S.Point)}
    (crew : Crew cache duty backlog worker task loop)
    (frames : task.frames = .worker cache stage :: rest) :
    rest = [] ∧ (stage = .taking ∧ backlog.unfinished = backlog.items.length ∨
      stage = .resyncing ∧ backlog.unfinished = backlog.items.length + 1) := by
  cases crew.manner with
  | takes same _ count =>
    cases frames.symm.trans same
    exact ⟨rfl, .inl ⟨rfl, count⟩⟩
  | reads point same => cases frames.symm.trans same
  | hasRead same _ count =>
    cases frames.symm.trans same
    exact ⟨rfl, .inr ⟨rfl, count⟩⟩
  | finished _ same => cases frames.symm.trans same

/-- A worker has its turn, and this is what comes of it. -/
structure Labors (cache : CacheId) (worker : TaskId) (stage : WorkerStage) (wake : Wake S.Reply)
    (duty : Duty) (backlog : Backlog) (turn : Turn S) (before after : Loop S) : Prop where
  is : before.duty? cache = some duty
  has : duty.backlog = some backlog
  was : before.items cache = backlog.items
  count : stage = .taking ∧ backlog.unfinished = backlog.items.length ∨
    stage = .resyncing ∧ backlog.unfinished = backlog.items.length + 1
  read : backlog.unfinished = backlog.items.length + before.readers cache
  plain : stage = .taking → wake ≠ .cancelled
  plays : Plays worker before.inTurn (.worker cache stage) wake turn
  adds : Adds worker before.inTurn (.worker cache stage) wake turn
  record : after.record = turn.1.record
  stalls : Stalls turn.1 after
  /-- What is in the queue after that, and who reads. -/
  left {duty' : Duty} {backlog' : Backlog} : turn.1.duty? cache = some duty' →
    duty'.backlog = some backlog' →
    after.items cache = backlog'.items ∧
      backlog'.unfinished = backlog'.items.length + after.readers cache

theorem IsAt.labors {service : S.State} {wake : Wake S.Reply} {stage : WorkerStage}
    {rest : List (Frame S.Point)} (isAt : before.IsAt worker wake (.worker cache stage) rest)
    (run : Reaches allowed (fresh service) before)
    (same : after = afterTurn worker (.worker cache stage) rest
      (before.inTurn.frameTurn worker (.worker cache stage) wake))
      (happens : Happens allowed before after) :
    rest = [] ∧ ∃ duty backlog, Labors cache worker stage wake duty backlog
      (before.inTurn.frameTurn worker (.worker cache stage) wake) before after := by
  have later : Reaches allowed (fresh service) after := run.tail happens
  obtain ⟨task, found, frames⟩ := Option.map_eq_some_iff.mp isAt.frames
  have role := run.workersOwn worker task cache stage found (frames ▸ List.mem_cons_self)
  obtain ⟨duty, backlog, crew⟩ := (run.isManned cache).crew found role
  obtain ⟨rfl, count⟩ := crew.stage frames
  have duties := afterTurn_duty? worker (.worker cache stage) []
    (before.inTurn.frameTurn worker (.worker cache stage) wake) cache
  rw [← same] at duties
  exact ⟨rfl, duty, backlog, {
    is := crew.is
    has := crew.has
    was := items_of_some crew.is crew.has
    count
    read := (run.isManned cache).readers run.workersOwn crew.is crew.has
    plain := fun isTaking => crew.plain wake isAt.turn (isTaking ▸ frames)
    plays := frameTurn_plays before.inTurn worker (.worker cache stage) wake
    adds := frameTurn_adds worker wake before.inTurn (.worker cache stage)
    record := same ▸ afterTurn_own_record id worker _
    stalls := same ▸ afterTurn_stalls worker (.worker cache stage) [] _
    left := fun is has => ⟨items_of_some (duties.trans is) has,
      (later.isManned cache).readers later.workersOwn (duties.trans is) has⟩ }⟩

theorem ask_duty? (asker : CacheId) (query : Query) (loop : Loop S) (cache : CacheId) :
    (loop.ask asker query).duty? cache = loop.duty? cache := by
  cases found : loop.caches[asker]? with
  | none => rw [ask_none query found]
  | some known =>
    rw [ask_eq query found, duty?, (addHook_keeps _ _ _).2.1]
    exact posed_duty? asker query known loop cache

section Labors

variable {service : S.State} {stage : WorkerStage} {wake : Wake S.Reply} {turn : Turn S}
  {known : Cache} {rest : Backlog} {item : Item} {middle : Loop S}

/-- A cache whose worker has its turn is there. -/
theorem Labors.isThere (labors : Labors cache worker stage wake duty backlog turn before after) :
    before.caches[cache]? ≠ none := by
  obtain ⟨known, found, -⟩ := Option.map_eq_some_iff.mp labors.is
  exact fun isNone => nomatch isNone.symm.trans found

/-- What a cache has on its agenda when its worker has asked nothing in the background. -/
theorem Labors.quiet (labors : Labors cache worker stage wake duty backlog turn before after)
    (bides : Bides before.inTurn turn.1) {items : List Item} {reads asked : Nat}
    (areItems : after.items cache = items) (areReads : after.readers cache = reads)
    (areAsked : (after.requestsOf cache).length = asked) :
    after.agenda cache = ⟨items, before.flights cache .look, before.flights cache .fetch,
      reads, asked⟩ := by
  have inTurn : Bides before before.inTurn := .of_stalls ⟨rfl, fun _ => rfl, fun _ _ => id⟩
  have bides := inTurn.trans (bides.trans (.of_stalls labors.stalls))
  exact agenda_eq areItems (bides.flights cache .look) (bides.flights cache .fetch)
    areReads areAsked

/-- A worker that does not read, and that has taken nothing on which it asks something, asks
nothing. -/
theorem Labors.requestsOf (labors : Labors cache worker stage wake duty backlog turn before after)
    (noCall : ¬ turn.2.isCall)
    (isSilent : stage = .taking → ∀ item rest, backlog.take? = some (item, rest) →
      item.query? = none) : after.requestsOf cache = before.requestsOf cache := by
  rw [requestsOf_eq labors.record]
  cases labors.adds with
  | nothing record => exact requestsOf_eq record cache
  | reads found reads hasBegun record way => exact (noCall (way ▸ trivial)).elim
  | asks found runs isFirst isNext =>
    cases (duty?_of_found found).symm.trans labors.is
    rw [show Cache.backlog _ = some backlog from labors.has] at isFirst
    cases (isSilent rfl _ _ isFirst).symm.trans isNext
  | sees found runs shows record =>
    rw [requestsOf_cons record]
    rfl

/-- The worker waits for an item. -/
theorem Labors.idles (labors : Labors cache worker stage wake duty backlog turn before after)
    (same : turn.1 = before.inTurn.modifyCache cache fun cache =>
      { cache with backlog := cache.backlog.map (Backlog.await worker) }) :
    after.agenda cache = before.agenda cache := by
  have is :=
    modifyCache_duty? cache
      (fun cache => { cache with backlog := cache.backlog.map (Backlog.await worker) })
    (fun duty => { duty with backlog := duty.backlog.map (Backlog.await worker) }) (fun _ => rfl)
      before.inTurn cache
  rw [if_pos rfl, show before.inTurn.duty? cache = some duty from labors.is, ← same] at is
  obtain ⟨items, unfinished⟩ :=
    labors.left is (congrArg (Option.map (Backlog.await worker)) labors.has)
  have stalls := modifyCache_stalls cache
    (fun cache => { cache with backlog := cache.backlog.map (Backlog.await worker) })
      (by intro; rfl) before.inTurn
  have readers : after.readers cache = before.readers cache := by
    have unfinished : backlog.unfinished = backlog.items.length + after.readers cache := unfinished
    have read := labors.read
    omega
  have record : after.record = before.record := labors.record.trans (by rw [same]; rfl)
  exact labors.quiet (same ▸ .of_stalls stalls) (items.trans labors.was.symm) readers
    (congrArg List.length (requestsOf_eq record cache))

/-- The worker takes an item to read the node. -/
theorem Labors.reads (labors : Labors cache worker stage wake duty backlog turn before after)
    (found : before.inTurn.caches[cache]? = some known)
    (taken : backlog.take? = some (.resync, rest))
    (same :
      turn.1 =
        (before.inTurn.setBacklog cache rest).note (.asked cache worker (readRequest known))) :
    (before.agenda cache).Moves (after.agenda cache) := by
  obtain ⟨first, unfinished⟩ := Backlog.take?_eq_some taken
  have is : turn.1.duty? cache = _ :=
    (congrArg (·.duty? cache) same).trans (setBacklog_duty? found rest cache)
  rw [if_pos rfl] at is
  obtain ⟨items, unfinished'⟩ := labors.left is rfl
  have record : after.record = .asked cache worker (readRequest known) :: before.record :=
    labors.record.trans (by rw [same]; rfl)
  have asked : (after.requestsOf cache).length = (before.requestsOf cache).length + 1 := by
    rw [requestsOf_cons record, Entry.asked?, if_pos rfl]
    rfl
  have readers : after.readers cache = before.readers cache + 1 := by
    have length := congrArg List.length first
    rw [List.length_cons] at length
    have read := labors.read
    omega
  have noted : Stalls (before.inTurn.setBacklog cache rest) turn.1 :=
    same ▸ ⟨rfl, fun _ => rfl, fun _ _ => id⟩
  rw [labors.quiet (.of_stalls ((setBacklog_stalls cache rest before.inTurn).trans noted)) items
    readers asked]
  exact .reads (labors.was.trans first)

/-- Where a read of the cache's own has ended, what is new in the queue comes last there. -/
theorem Labors.ends (labors : Labors cache worker .resyncing wake duty backlog turn before after)
    (grains : Grains False nobody before.inTurn middle) (same : turn.1 = middle.itemDone cache) :
    ∃ more, (∀ item ∈ more, item.isAsking) ∧ after.items cache = before.items cache ++ more ∧
      before.readers cache = 1 ∧ after.readers cache = 0 := by
  have count : backlog.unfinished = backlog.items.length + 1 := by
    rcases labors.count with ⟨isTaking, -⟩ | ⟨-, count⟩
    · cases isTaking
    · exact count
  obtain ⟨more, areAsking, feeds⟩ := grains.feeds cache
  have is : turn.1.duty? cache = _ :=
    (congrArg (·.duty? cache) same).trans (itemDone_duty? cache middle cache)
  rw [if_pos rfl, feeds.old duty labors.is, Option.map_some] at is
  obtain ⟨items, unfinished⟩ := labors.left is (by rw [Duty.feed, labors.has]; rfl)
  obtain ⟨doneItems, doneCount, -⟩ := done_eq (backlog.puts more)
  rw [doneItems, Backlog.puts_eq] at items
  rw [doneCount, doneItems, Backlog.puts_eq] at unfinished
  simp only [List.length_append] at unfinished
  have read := labors.read
  exact ⟨more, areAsking, items.trans (congrArg (· ++ more) labors.was.symm), by omega, by omega⟩

/-- A worker that has its turn after a read has read, and reads no more. -/
theorem Labors.readers
    (labors : Labors cache worker .resyncing wake duty backlog turn before after) :
    before.readers cache = 1 ∧ after.readers cache = 0 := by
  have plays := labors.plays
  cases plays with
  | plain isOther => exact absurd rfl (isOther cache .resyncing)
  | quits isGone =>
    rcases isGone with isNone | ⟨isTaking, -⟩
    · exact absurd isNone labors.isThere
    · cases isTaking
  | returns found grains either =>
    obtain ⟨-, -, -, readers⟩ := labors.ends grains rfl
    exact readers

/-! ### What comes into the queue -/

/-- What makes a cache that is left alone look at its node is the end of a read of its own, or
nothing. -/
theorem LeftAlone.abides (alone : LeftAlone cache before after)
    (run : Reaches published (fresh service) before) :
    ∃ more, Abides cache more before after ∧
      (more = [] ∨ more = [.check] ∧ before.readers cache = 1 ∧ after.readers cache = 0) := by
  have abides := alone.happens.abides fun _ _ _ _ isAt looks =>
    Frame.resyncs_of_looksAgain looks (alone.noOperation isAt)
  rcases abides with abides | ⟨abides, worker, wake, rest, isAt, same⟩
  · exact ⟨[], abides, .inl rfl⟩
  · obtain ⟨-, duty, backlog, labors⟩ := isAt.labors run same alone.happens
    exact ⟨[.check], abides, .inr ⟨rfl, labors.readers⟩⟩

/-- No item to read the node comes to a cache that is left alone. -/
theorem LeftAlone.noResync (alone : LeftAlone cache before after)
    (run : Reaches published (fresh service) before) (is : before.duty? cache = some duty) :
    (after.items cache).countP Item.isResync ≤ (before.items cache).countP Item.isResync := by
  obtain ⟨known, found, -⟩ := Option.map_eq_some_iff.mp is
  obtain ⟨more, abides, either⟩ := alone.abides run
  have counted := abides.countP found (alone.undisturbed found) fun _ => Item.isPrompt_of_isResync
  rcases either with rfl | ⟨rfl, -⟩
  · exact counted
  · exact counted

/-- No item to look at the node comes to a cache that is left alone, but for the one with which a
read of its own ends. -/
theorem LeftAlone.noCheck (alone : LeftAlone cache before after)
    (run : Reaches published (fresh service) before) (is : before.duty? cache = some duty) :
    (after.items cache).countP Item.isCheck ≤
      (before.items cache).countP Item.isCheck +
        (before.readers cache - after.readers cache) := by
  obtain ⟨known, found, -⟩ := Option.map_eq_some_iff.mp is
  obtain ⟨more, abides, either⟩ := alone.abides run
  have counted := abides.countP found (alone.undisturbed found) fun _ => Item.isPrompt_of_isCheck
  rcases either with rfl | ⟨rfl, reads, ended⟩
  · exact counted.trans (Nat.le_add_right _ _)
  · rwa [reads, ended]

/-- Nothing comes into the queue of a cache that is left alone, but for the look with which a read
ends. -/
theorem LeftAlone.more (alone : LeftAlone cache before after)
    (run : Reaches published (fresh service) before) (was : before.duty? cache = some duty)
    {rest more : List Item} (is : after.items cache = rest ++ more)
    (areAsking : ∀ item ∈ more, item.isAsking)
    (resyncs : rest.countP Item.isResync = (before.items cache).countP Item.isResync)
    (checks : rest.countP Item.isCheck = (before.items cache).countP Item.isCheck) :
    ∃ count, more = List.replicate count .check ∧
      count ≤ before.readers cache - after.readers cache := by
  have noResync := alone.noResync run was
  have noCheck := alone.noCheck run was
  rw [is, List.countP_append] at noResync noCheck
  have none : more.countP Item.isResync = 0 := by omega
  refine ⟨_, eq_replicate_of_asking areAsking none, ?_⟩
  omega

/-- Nothing comes into the queue of a cache that is left alone where no read ends. -/
theorem LeftAlone.nothing (alone : LeftAlone cache before after)
    (run : Reaches published (fresh service) before) (was : before.duty? cache = some duty)
    {rest more : List Item} (is : after.items cache = rest ++ more)
    (areAsking : ∀ item ∈ more, item.isAsking)
    (resyncs : rest.countP Item.isResync = (before.items cache).countP Item.isResync)
    (checks : rest.countP Item.isCheck = (before.items cache).countP Item.isCheck)
    (readers : after.readers cache = before.readers cache) : after.items cache = rest := by
  obtain ⟨count, rfl, atMost⟩ := alone.more run was is areAsking resyncs checks
  rw [readers, Nat.sub_self, Nat.le_zero] at atMost
  rw [is, atMost, List.replicate_zero, List.append_nil]

/-! ### What the worker does -/

/-- The worker takes an item, and asks nothing. -/
theorem Labors.drops (labors : Labors cache worker stage wake duty backlog turn before after)
    (alone : LeftAlone cache before after) (run : Reaches published (fresh service) before)
    (found : before.inTurn.caches[cache]? = some known)
    (taken : backlog.take? = some (item, rest)) (isOther : item ≠ .resync)
    (isSilent : item.query? = none ∨ middle = before.inTurn.setBacklog cache rest)
    (grains : Grains False nobody (before.inTurn.setBacklog cache rest) middle)
    (same : turn.1 = middle.itemDone cache) (noCall : ¬ turn.2.isCall) :
    (before.agenda cache).Moves (after.agenda cache) := by
  obtain ⟨first, unfinished⟩ := Backlog.take?_eq_some taken
  have taking := setBacklog_duty? found rest cache
  rw [if_pos rfl] at taking
  -- Nothing comes into the queue where nothing is done, and else only what comes there by itself.
  obtain ⟨more, areAsking, feeds, either⟩ : ∃ more, (∀ item ∈ more, item.isAsking) ∧
      Feeds cache more (before.inTurn.setBacklog cache rest) middle ∧
        (item.query? = none ∨ more = []) := by
    rcases isSilent with isSilent | rfl
    · obtain ⟨more, areAsking, feeds⟩ := grains.feeds cache
      exact ⟨more, areAsking, feeds, .inl isSilent⟩
    · exact ⟨[], List.forall_mem_nil _, .of_eq rfl, .inr rfl⟩
  have is : turn.1.duty? cache = _ :=
    (congrArg (·.duty? cache) same).trans (itemDone_duty? cache middle cache)
  rw [if_pos rfl, feeds.old _ taking] at is
  obtain ⟨items, unfinished'⟩ := labors.left is rfl
  obtain ⟨doneItems, doneCount, -⟩ := done_eq (rest.puts more)
  rw [doneItems, Backlog.puts_eq] at items
  rw [doneCount, doneItems, Backlog.puts_eq] at unfinished'
  have readers : after.readers cache = before.readers cache := by
    have length := congrArg List.length first
    simp only [List.length_append] at unfinished'
    rw [List.length_cons] at length
    have read := labors.read
    omega
  have areItems : after.items cache = rest.items := by
    rcases either with isSilent | rfl
    · have isNoResync : Item.isResync item = false := by
        cases item <;> first | rfl | exact absurd rfl isOther
      have isNoCheck : Item.isCheck item = false := by cases item <;> first | rfl | cases isSilent
      refine alone.nothing run labors.is items areAsking ?_ ?_ readers
      · rw [labors.was, first, List.countP_cons, isNoResync]
        rfl
      · rw [labors.was, first, List.countP_cons, isNoCheck]
        rfl
    · exact items.trans (List.append_nil _)
  have areAsked : after.requestsOf cache = before.requestsOf cache := by
    rcases isSilent with isSilent | rfl
    · refine labors.requestsOf noCall fun _ item' rest' isFirst => ?_
      cases taken.symm.trans isFirst
      exact isSilent
    · exact requestsOf_eq (labors.record.trans (by rw [same, itemDone_record]; rfl)) cache
  have bides := (Bides.of_stalls (setBacklog_stalls cache rest before.inTurn)).trans
    (grains.bides_of_nobody.trans (.of_stalls (itemDone_stalls cache middle)))
  rw [labors.quiet (same ▸ bides) areItems readers (congrArg List.length areAsked)]
  exact .drops (labors.was.trans first) isOther

/-- The worker takes an item, and asks something on that. -/
theorem Labors.asks {query : Query}
    (labors : Labors cache worker stage wake duty backlog turn before after)
    (areKnown : before.PendingAreKnown) (found : before.inTurn.caches[cache]? = some known)
    (taken : backlog.take? = some (item, rest)) (isNext : item.query? = some query)
    (same : turn.1 = ((before.inTurn.setBacklog cache rest).ask cache query).itemDone cache) :
    (before.agenda cache).Moves (after.agenda cache) := by
  obtain ⟨first, unfinished⟩ := Backlog.take?_eq_some taken
  have taking := setBacklog_duty? found rest cache
  rw [if_pos rfl] at taking
  have found' :
      (before.inTurn.setBacklog cache rest).caches[cache]? =
        some { known with backlog := some rest } :=
    modifyCache_self found _
  have is : turn.1.duty? cache = _ := (congrArg (·.duty? cache) same).trans
    (itemDone_duty? cache ((before.inTurn.setBacklog cache rest).ask cache query) cache)
  rw [if_pos rfl, ask_duty?, taking] at is
  obtain ⟨items, unfinished'⟩ := labors.left is rfl
  obtain ⟨doneItems, doneCount, -⟩ := done_eq rest
  have areItems : after.items cache = rest.items := items.trans doneItems
  rw [doneCount, doneItems] at unfinished'
  have readers : after.readers cache = before.readers cache := by
    have length := congrArg List.length first
    rw [List.length_cons] at length
    have read := labors.read
    omega
  have areAsked : (after.requestsOf cache).length = (before.requestsOf cache).length + 1 := by
    have record : after.record = _ :: before.record :=
      labors.record.trans
        (by rw [same]; exact (itemDone_record cache _).trans (ask_record found' query))
    rw [requestsOf_cons record, Entry.asked?, if_pos rfl]
    rfl
  have asks : Asks cache query before after := by
    have inTurn : Stalls before before.inTurn := ⟨rfl, fun _ => rfl, fun _ _ => id⟩
    have asks := (inTurn.trans (setBacklog_stalls cache rest _)).thenAsks (ask_asks found' query)
    exact (asks.stalls (same ▸ itemDone_stalls cache _)).stalls labors.stalls
  have areLooks := asks.flights areKnown cache .look
  have areFetches := asks.flights areKnown cache .fetch
  rw [agenda_eq areItems areLooks areFetches readers areAsked]
  rcases Item.cases_of_query isNext with ⟨rfl, rfl⟩ | ⟨outcome, rfl, rfl⟩
  · simp only [and_self, if_true, reduceCtorEq, and_false, if_false, Nat.add_zero]
    exact .looks (labors.was.trans first)
  · simp only [and_self, if_true, reduceCtorEq, and_false, if_false, Nat.add_zero]
    exact .fetches (labors.was.trans first)

/-- The worker has read the node. -/
theorem Labors.returns (labors : Labors cache worker .resyncing wake duty backlog turn before after)
    (alone : LeftAlone cache before after) (run : Reaches published (fresh service) before)
    (grains : Grains False nobody before.inTurn middle)
    (same : turn.1 = middle.itemDone cache) (noCall : ¬ turn.2.isCall) :
    (before.agenda cache).Moves (after.agenda cache) := by
  obtain ⟨more, areAsking, items, wasRead, readers⟩ := labors.ends grains same
  obtain ⟨checks, rfl, atMost⟩ := alone.more run labors.is items areAsking rfl rfl
  have areAsked := labors.requestsOf noCall fun isTaking => by cases isTaking
  have bides := grains.bides_of_nobody.trans (.of_stalls (itemDone_stalls cache middle))
  rw [labors.quiet (same ▸ bides) items readers (congrArg List.length areAsked)]
  have either : checks = 0 ∨ checks = 1 := by omega
  refine .returns wasRead ?_
  rcases either with rfl | rfl
  · exact .inl rfl
  · exact .inr rfl

/-- **A cache gets on with its agenda in the turns of its worker**, unless there is nothing to be
done. -/
theorem Labors.moves (labors : Labors cache worker stage wake duty backlog turn before after)
    (alone : LeftAlone cache before after) (run : Reaches published (fresh service) before) :
    (before.agenda cache).Moves (after.agenda cache) ∨
      turn.2 = .await (.worker cache .taking) .item ∧ before.items cache = [] ∧
        after.agenda cache = before.agenda cache := by
  have plays := labors.plays
  cases plays with
  | plain isOther => exact absurd rfl (isOther cache stage)
  | quits isGone =>
    rcases isGone with isNone | ⟨isTaking, isCancelled⟩
    · exact absurd isNone labors.isThere
    · exact absurd isCancelled (labors.plain isTaking)
  | idles found isPlain isEmpty =>
    cases (duty?_of_found found).symm.trans labors.is
    rw [show Cache.backlog _ = some backlog from labors.has] at isEmpty
    exact .inr ⟨rfl, labors.was.trans (Backlog.items_of_take?_none isEmpty), labors.idles rfl⟩
  | reads found isPlain has taken =>
    cases (duty?_of_found found).symm.trans labors.is
    cases has.symm.trans labors.has
    exact .inl (labors.reads found taken rfl)
  | works found isPlain has taken grains either asking =>
    cases (duty?_of_found found).symm.trans labors.is
    cases has.symm.trans labors.has
    cases asking with
    | nothing isOther isSilent grains =>
      refine .inl (labors.drops alone run found taken isOther isSilent grains rfl ?_)
      rcases either with ⟨-, rfl⟩ | ⟨-, rfl⟩ <;> exact id
    | asks isNext runs => exact .inl (labors.asks run.pendingAreKnown found taken isNext rfl)
  | returns found grains either =>
    refine .inl (labors.returns alone run grains rfl ?_)
    rcases either with rfl | rfl <;> exact id

end Labors

end Worker

/-! ## Everything that happens -/

section Moves

variable {service : S.State}

/-- A cache that runs has its queue. -/
theorem Reaches.queue (run : Reaches allowed (fresh service) loop)
    (runs : loop.phase? cache = some .started) :
    ∃ duty backlog, loop.duty? cache = some duty ∧ duty.phase = .started ∧
      duty.backlog = some backlog := by
  obtain ⟨duty, is, phase⟩ := Option.map_eq_some_iff.mp runs
  cases run.isManned cache with
  | off isNew =>
    cases isNew duty is
    cases phase
  | on crew =>
    cases is.symm.trans crew.is
    exact ⟨_, _, is, phase, crew.has⟩

/-- What comes last in the queue of a cache that runs is all that is counted where its worker does
nothing. -/
theorem Reaches.fed (run : Reaches published (fresh service) before)
    (happens : Happens published before after) {duty duty' : Duty} {backlog backlog' : Backlog}
    (is : before.duty? cache = some duty) (has : duty.backlog = some backlog)
    (is' : after.duty? cache = some duty') (has' : duty'.backlog = some backlog') {more : List Item}
    (items : backlog'.items = backlog.items ++ more)
    (count : backlog'.unfinished = backlog.unfinished + more.length) :
    after.items cache = before.items cache ++ more ∧
      after.readers cache = before.readers cache := by
  have later : Reaches published (fresh service) after := run.tail happens
  have read := (run.isManned cache).readers run.workersOwn is has
  have read' := (later.isManned cache).readers later.workersOwn is' has'
  rw [items, List.length_append] at read'
  refine ⟨?_, by omega⟩
  rw [items_of_some is' has', items_of_some is has, items]

theorem Feeds.fed {more : List Item} (feeds : Feeds cache more before after)
    (run : Reaches published (fresh service) before) (happens : Happens published before after)
    (runs : before.phase? cache = some .started) :
    after.items cache = before.items cache ++ more ∧
      after.readers cache = before.readers cache := by
  obtain ⟨duty, backlog, is, -, has⟩ := run.queue runs
  have has' : (duty.feed more).backlog = some (backlog.puts more) := by
    rw [Duty.feed, has, Option.map_some]
  exact run.fed happens is has (feeds.old duty is) has' (by rw [Backlog.puts_eq])
    (by rw [Backlog.puts_eq])

/-- Where a cache that is left alone asks and reads nothing, and no answer is dealt with, its agenda
stays. -/
theorem LeftAlone.stays (alone : LeftAlone cache before after)
    (run : Reaches published (fresh service) before) (runs : before.phase? cache = some .started)
    {more : List Item} (areAsking : ∀ item ∈ more, item.isAsking)
    (fed : after.items cache = before.items cache ++ more ∧
      after.readers cache = before.readers cache)
    (areFlights : ∀ query, after.flights cache query = before.flights cache query)
    (asked : after.requestsOf cache = before.requestsOf cache) :
    after.agenda cache = before.agenda cache := by
  obtain ⟨duty, -, is, -⟩ := run.queue runs
  exact agenda_eq (alone.nothing run is fed.1 areAsking rfl rfl fed.2) (areFlights .look)
    (areFlights .fetch) fed.2 (congrArg List.length asked)

/-- The answer to a request becomes an item of its cache, if that runs. -/
theorem Clears.feeds {query : Query} {task : TaskId} {outcome : Outcome Answer}
    (clears : Clears cache query task outcome before after)
    (runs : before.phase? cache = some .started) :
    Feeds cache [query.answer outcome] before after := by
  obtain ⟨duty, is, phase⟩ := Option.map_eq_some_iff.mp runs
  obtain ⟨ready, -, same⟩ := clears.same
  have is' := answered_duty? cache query task outcome ({ before with ready } : Loop S) cache
  rw [← same, show ({ before with ready } : Loop S).duty? cache = some duty from is,
    if_pos ⟨rfl, by simp [phase]⟩, Option.map_some] at is'
  exact {
    runs := .inr ⟨duty, is, phase⟩
    old := fun duty' is'' => Option.some.inj (is''.symm.trans is) ▸ is'
    new := fun isNone => nomatch isNone.symm.trans is }

/-- A cache gets on with its agenda when an answer of its own is dealt with. -/
theorem Clears.moves {query : Query} {task : TaskId} {outcome : Outcome Answer} {owner : CacheId}
    (clears : Clears owner query task outcome before after) (alone : LeftAlone cache before after)
    (run : Reaches published (fresh service) before) (runs : before.phase? cache = some .started)
    (asked : after.requestsOf cache = before.requestsOf cache) :
    if owner = cache then (before.agenda cache).Moves (after.agenda cache)
    else after.agenda cache = before.agenda cache := by
  have flown := clears.flights run.requestsArePending cache
  split
  · next here =>
    subst here
    obtain ⟨items, readers⟩ := (clears.feeds runs).fed run alone.happens runs
    have areLooks := flown .look
    have areFetches := flown .fetch
    rw [agenda_eq items rfl rfl readers (congrArg List.length asked)]
    cases query with
    | look =>
      simp only [and_self, if_true, reduceCtorEq, and_false, if_false, Nat.add_zero]
        at areLooks areFetches
      rw [← areFetches]
      exact .looked outcome areLooks
    | fetch =>
      simp only [and_self, if_true, reduceCtorEq, and_false, if_false, Nat.add_zero]
        at areLooks areFetches
      rw [← areLooks]
      exact .fetched outcome areFetches
  · next different =>
    obtain ⟨ready, -, same⟩ := clears.same
    have is := answered_duty? owner query task outcome ({ before with ready } : Loop S) cache
    rw [← same, if_neg fun both => different both.1.symm] at is
    have feeds : Feeds cache [] before after := .of_eq is
    refine alone.stays run runs (List.forall_mem_nil _) (feeds.fed run alone.happens runs)
      (fun kind => ?_) asked
    rw [flown kind, if_neg fun both => different both.1.symm, Nat.add_zero]

/-- What a turn does to the requests of a cache that asks nothing in it. -/
theorem Custody.flights {task : TaskId} {wake : Wake S.Reply} (custody : Custody before after)
    (turn : before.turn = some (task, wake)) (areKnown : before.PendingAreKnown)
    (asked : after.requestsOf cache = before.requestsOf cache) (query : Query) :
    after.flights cache query = before.flights cache query := by
  cases custody with
  | bides bides => exact bides.flights cache query
  | @asks _ _ _ owner _ _ _ _ _ isAt isPlain found runs has taken isNext asks record =>
    have different : cache ≠ owner := fun here => by
      rw [requestsOf_cons record, Entry.asked?, if_pos here.symm] at asked
      exact absurd asked (List.cons_ne_self _ _)
    rw [asks.flights areKnown, if_neg fun both => different both.1, Nat.add_zero]
  | answers isBetween => cases isBetween.symm.trans turn

/-- **A cache that is left alone does nothing but get on with its agenda.** -/
theorem LeftAlone.moves (alone : LeftAlone cache before after)
    (run : Reaches published (fresh service) before) (runs : before.phase? cache = some .started) :
    after.agenda cache = before.agenda cache ∨
      (before.agenda cache).Moves (after.agenda cache) := by
  by_cases worked : HasWorked cache before after
  · obtain ⟨worker, wake, stage, rest, isAt, same⟩ := worked
    obtain ⟨-, duty, backlog, labors⟩ := isAt.labors run same alone.happens
    exact (labors.moves alone run).symm.imp (fun idles => idles.2.2) id
  have asked := alone.happens.requestsOf (fun _ _ _ _ isAt => alone.noOperation isAt) worked
  cases alone.happens.passes.betides run.hooksFit with
  | @turn task wake frame rest isAt plays =>
    have areFlights := (plays.custody isAt).flights isAt.turn run.pendingAreKnown asked
    have duties := afterTurn_duty? task frame rest (before.inTurn.frameTurn task frame wake) cache
    have isOther : ∀ stage, frame ≠ .worker cache stage := fun stage is =>
      worked ⟨task, wake, stage, rest, is ▸ isAt, by rw [is]⟩
    have inTurn : Feeds cache [] before before.inTurn := .of_eq rfl
    have tends := plays.tends cache
    obtain ⟨duty, backlog, is, phase, has⟩ := run.queue runs
    generalize before.inTurn.frameTurn task frame wake = turn at tends areFlights duties asked alone
    cases tends with
    | feeds _ areAsking feeds =>
      have feeds := inTurn.trans (feeds.still duties)
      have fed := feeds.fed run alone.happens runs
      exact .inl (alone.stays run runs areAsking fed areFlights asked)
    | begins was isLatent =>
      cases was.symm.trans is
      cases isLatent.symm.trans phase
    | closes => exact absurd rfl (alone.noOperation isAt)
    | joins was' has' isBusy is' =>
      cases was'.symm.trans is
      cases has'.symm.trans has
      have fed := run.fed alone.happens is has (duties.trans is') rfl (List.append_nil _).symm rfl
      exact .inl (alone.stays run runs (List.forall_mem_nil _) fed areFlights asked)
    | quits | idles | reads | works | returns => exact absurd rfl (isOther _)
  | answer isBetween isFirst ended =>
    have moves := (answered_clears run.hooksFit isFirst ended rfl).moves alone run runs asked
    split at moves
    · exact .inr moves
    · exact .inl moves
  | plain feeds bides =>
    obtain ⟨more, areAsking, feeds⟩ := feeds cache
    have fed := feeds.fed run alone.happens runs
    exact .inl (alone.stays run runs areAsking fed (bides.flights cache) asked)

end Moves

end Loop

end WatchedNode
