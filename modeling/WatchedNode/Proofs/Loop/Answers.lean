/-
**Answers to requests.**

A request in the background has been posed until its task ends, and is answered by that
(`RequestsAreAnswered`); its answer is what becomes an item (`ItemsAreAnswers`). A read that
somebody waits for has been posed while the call stands above the reader (`ReadsArePosed`), who goes
on with its answer (`ReadsAreAnswered`).
-/
import WatchedNode.Proofs.Loop.Pending
import WatchedNode.Proofs.Discipline

namespace WatchedNode

open Relation

variable {S : Service}

theorem Cache.Ages.readRequest {before after : Cache} (ages : before.Ages after) :
    Loop.readRequest after = Loop.readRequest before := by
  rw [Loop.readRequest, ages.path, ages.compressed, Loop.readRequest]

theorem Frame.isCalling_of_reads {Point : Type} {frame : Frame Point} {cache : CacheId}
    (reads : frame.reads cache) : frame.isCalling := by
  cases frame with
  | worker owner stage => cases stage <;> first | exact reads.elim | exact trivial
  | start owner buildInitial stage => cases stage <;> first | exact reads.elim | exact trivial
  | rebuild owner isReading => cases isReading <;> first | exact reads.elim | exact trivial
  | _ => exact reads.elim

/-- A reader waits for a call. -/
theorem Frame.activity_of_reads {Point : Type} {frame : Frame Point} {cache : CacheId}
    {activity : Activity} (reads : frame.reads cache) (awaits : frame.awaits activity) :
    activity = .call := by
  cases frame with
  | worker owner stage =>
    cases stage <;> cases activity <;> first | rfl | exact reads.elim | exact awaits.elim
  | start owner buildInitial stage =>
    cases stage <;> cases activity <;> first | rfl | exact reads.elim | exact awaits.elim
  | rebuild owner isReading =>
    cases isReading <;> cases activity <;> first | rfl | exact reads.elim | exact awaits.elim
  | _ => exact reads.elim

/-- A frame reads for one cache. -/
theorem Frame.reads_unique {Point : Type} {frame : Frame Point} {cache owner : CacheId}
    (reads : frame.reads cache) (reads' : frame.reads owner) : cache = owner := by
  cases frame with
  | worker known stage =>
    cases stage <;> first | exact reads.elim | exact Eq.trans (Eq.symm reads) reads'
  | start known buildInitial stage =>
    cases stage <;> first | exact reads.elim | exact Eq.trans (Eq.symm reads) reads'
  | rebuild known isReading =>
    cases isReading <;> first | exact reads.elim | exact Eq.trans (Eq.symm reads) reads'
  | _ => exact reads.elim

theorem Frame.service_of_activity {Point : Type} {frame : Frame Point}
    (activity : frame.activity = .call) :
    ∃ point, frame = .service point := by
  cases frame <;> first | exact ⟨_, rfl⟩ | cases activity

namespace Loop

variable {before after loop last : Loop S} {cache : CacheId} {task : TaskId}

/-! ## What is added to the record -/

section Turns

variable {wake : Wake S.Reply} {frame : Frame S.Point} {rest : List (Frame S.Point)}

/-- The end of a call is recorded, and nothing else that it does. -/
theorem afterTurn_service_record (self : TaskId) (point : S.Point) (wake : Wake S.Reply)
    (rest : List (Frame S.Point)) (loop : Loop S) :
    (afterTurn self (.service point) rest (loop.frameTurn self (.service point) wake)).record =
      match (loop.frameTurn self (.service point) wake).2 with
      | .finish outcome => .left self .call outcome :: loop.record
      | _ => loop.record := by
  rw [afterTurn_record, show (loop.frameTurn self (.service point) wake).1.record = loop.record from
    serviceTurn_record self wake loop point]
  cases (loop.frameTurn self (.service point) wake).2 <;> rfl

/-- The turn of another frame adds to the record what the frame adds. -/
theorem afterTurn_own_record (isNoCall : ¬ frame.isService) (self : TaskId) (turn : Turn S) :
    (afterTurn self frame rest turn).record = turn.1.record := by
  rw [afterTurn_record]
  cases turn.2 with
  | finish outcome => exact if_neg isNoCall
  | _ => rfl

end Turns

/-- A task has its turn in what happens. -/
def HasTurn (task : TaskId) (before after : Loop S) : Prop :=
  ∃ wake frame rest, before.IsAt task wake frame rest ∧
    after = afterTurn task frame rest (before.inTurn.frameTurn task frame wake)

/-- **Whatever happens is recorded by at most one entry**, which is about a view, a request that
comes in, or a call of the task that has its turn. -/
theorem Happens.entry (happens : Happens published before after) :
    after.record = before.record ∨ ∃ entry, after.record = entry :: before.record ∧
      ∀ task, task < before.tasks.length → entry.isCallOf task = true →
        HasTurn task before after := by
  rcases happens.turns with same | ⟨self, wake, frame, rest, isAt, rfl⟩
  · exact .inl same
  have own : ∀ task, self = task → HasTurn task before
      (afterTurn self frame rest (before.inTurn.frameTurn self frame wake)) := by
    rintro task rfl
    exact ⟨wake, frame, rest, isAt, rfl⟩
  by_cases isCall : frame.isService
  · cases frame with
    | service point =>
      rw [afterTurn_service_record]
      split
      · exact .inr ⟨_, rfl, fun task _ is => own task (of_decide_eq_true is)⟩
      · exact .inl rfl
    | _ => exact isCall.elim
  · rw [afterTurn_own_record isCall]
    cases frameTurn_adds self wake before.inTurn frame with
    | nothing record => exact .inl record
    | begins found isLatent record way =>
      exact .inr ⟨_, record, fun task _ is => own task (of_decide_eq_true is)⟩
    | reads found reads hasBegun record way =>
      exact .inr ⟨_, record, fun task _ is => own task (of_decide_eq_true is)⟩
    | asks found runs isFirst isNext record way =>
      refine .inr ⟨_, record, fun task isThere is => ?_⟩
      exact absurd (of_decide_eq_true is) (Nat.ne_of_gt isThere)
    | sees found runs shows record noCall => exact .inr ⟨_, record, fun _ _ is => by cases is⟩

/-- A task without a turn has asked what it had. -/
theorem Happens.posed (happens : Happens published before after)
    (isThere : task < before.tasks.length) :
    posed? task after.record = posed? task before.record ∨ HasTurn task before after := by
  rcases happens.entry with same | ⟨entry, record, own⟩
  · exact .inl (by rw [same])
  · cases is : entry.isCallOf task with
    | false => exact .inl (by rw [record, posed_of_other is])
    | true => exact .inr (own task isThere is)

/-- What has been answered stays so. -/
theorem Happens.answered (happens : Happens published before after)
    {answer : Request × Outcome Answer} (answered : answer ∈ answersTo cache before.record) :
    answer ∈ answersTo cache after.record := by
  rcases happens.entry with same | ⟨entry, record, -⟩
  · rwa [same]
  · rw [record]
    exact answersTo_cons answered

/-! ## Requests in the background -/

/-- A request in the background has been posed until its task ends, and is answered by that, unless
the task is cancelled. -/
def RequestsAreAnswered (loop : Loop S) : Prop :=
  ∀ (task : TaskId) (cache : CacheId)
  (query : Query), loop.roles[task]? = some (.request cache query) →
    ∃ known, loop.caches[cache]? = some known ∧
      (loop.outcome? task = none →
        posed? task loop.record = some (cache, queryRequest cache known query)) ∧
      ∀ outcome, loop.outcome? task = some outcome → outcome ≠ .cancelled →
        (queryRequest cache known query, outcome) ∈ answersTo cache loop.record

/-- A task that has just come in has not ended. -/
theorem Happens.outcome_of_new {allowed : Outside S} (happens : Happens allowed before after)
    (isNew : before.tasks[task]? = none) : after.outcome? task = none := by
  cases ended : after.outcome? task with
  | none => rfl
  | some outcome =>
    obtain ⟨known, found, stage⟩ := outcome?_eq_some.mp ended
    cases happens.inherits found with
    | new unknown frames enters begins => cases begins.symm.trans stage
    | doomed earlier role was frames => cases isNew.symm.trans earlier
    | kept earlier role frames steady => cases isNew.symm.trans earlier
    | turn earlier role isAt same frames => cases isNew.symm.trans earlier

/-- A task whose last frame has come to its end has ended. -/
theorem afterTurn_finish {wake : Wake S.Reply} {frame : Frame S.Point}
    (isAt : before.IsAt task wake frame []) {outcome : Outcome Answer}
    (finishes : (before.inTurn.frameTurn task frame wake).2 = .finish outcome) :
    (afterTurn task frame [] (before.inTurn.frameTurn task frame wake)).outcome? task =
      some outcome := by
  obtain ⟨known, found, -⟩ := Option.map_eq_some_iff.mp isAt.frames
  obtain ⟨known', found', -⟩ :=
    (frameTurn_spares task frame wake before.inTurn).old task known found
  generalize before.inTurn.frameTurn task frame wake = turn at finishes found' ⊢
  obtain ⟨loop, way⟩ := turn
  cases finishes
  have noted : (loop.noteEnd task frame (.finish outcome)).tasks[task]? = some known' := by
    rw [(noteEnd_tasks task frame _ loop).1]
    exact found'
  exact finish_outcome noted outcome

/-- A call stands for any request. -/
theorem stands_anything : Stands (fun (_ : S.Point) (_ : Request) => True) :=
  ⟨fun _ _ => trivial, fun _ _ _ _ _ _ _ _ => trivial⟩

/-- The task of a request that has its turn does so in its call. -/
theorem RequestsStand.isAt (requestsStand : loop.RequestsStand fun _ _ => True)
    {wake : Wake S.Reply} {frame : Frame S.Point} {rest : List (Frame S.Point)} {query : Query}
    (isAt : loop.IsAt task wake frame rest)
    (role : loop.roles[task]? = some (.request cache query)) : ∃ point, frame = .service point ∧
      rest = [] := by
  obtain ⟨known, found, frames⟩ := Option.map_eq_some_iff.mp isAt.frames
  rw [roles, List.getElem?_map, found] at role
  rcases requestsStand task known cache query found (Option.some.inj role) with none
    | ⟨_, point, _, single, _⟩
  · cases frames.symm.trans none
  · cases frames.symm.trans single
    exact ⟨point, rfl, rfl⟩

theorem Happens.requestsAreAnswered (happens : Happens published before after)
    (hooksFit : before.HooksFit) (requestsStand : before.RequestsStand fun _ _ => True)
    (endedAreBare : before.EndedAreBare) (answered : before.RequestsAreAnswered) :
    after.RequestsAreAnswered := by
  intro task cache query role
  by_cases earlier : before.roles[task]? = some (.request cache query)
  · obtain ⟨known, found, posed, ended⟩ := answered task cache query earlier
    obtain ⟨known', found', ages⟩ := happens.course.grows cache _ found
    have isThere : task < before.tasks.length := by
      rw [← roles_length]
      exact (List.getElem?_eq_some_iff.mp earlier).1
    refine ⟨known', found', fun isOpen => ?_, fun outcome isOver isPlain => ?_⟩
    all_goals rw [ages.queryRequest]
    · have wasOpen : before.outcome? task = none := by
        cases was : before.outcome? task with
        | none => rfl
        | some outcome => cases isOpen.symm.trans (happens.outcome endedAreBare was)
      rcases happens.posed isThere with same | ⟨wake, frame, rest, isAt, rfl⟩
      · rw [same, posed wasOpen]
      · obtain ⟨point, rfl, rfl⟩ := requestsStand.isAt isAt earlier
        rw [afterTurn_service_record]
        split
        · next outcome finishes => cases isOpen.symm.trans (afterTurn_finish isAt finishes)
        · exact posed wasOpen
    · cases was : before.outcome? task with
      | some earlier =>
        cases isOver.symm.trans (happens.outcome endedAreBare was)
        exact happens.answered (ended outcome was isPlain)
      | none =>
        cases happens.ends was isOver with
        | @turn wake frame isAt finishes =>
          obtain ⟨point, rfl, -⟩ := requestsStand.isAt isAt earlier
          rw [afterTurn_service_record, finishes]
          exact answersTo_left (posed was) outcome
        | doomed isBetween was isFirst isCancelled => exact absurd isCancelled isPlain
  · -- A request that was not there has just been asked.
    cases happens.passes.custody hooksFit with
    | bides bides => exact absurd (bides.requests task cache query role) earlier
    | answers isBetween isFirst ended same roles pending hooks =>
      exact absurd (roles ▸ role) earlier
    | asks isAt isPlain found runs has taken isNext asks record =>
      rw [asks.roles] at role
      rcases Nat.lt_or_ge task before.roles.length with isOld | isNew
      · exact absurd (by rwa [List.getElem?_append_left isOld] at role) earlier
      rw [List.getElem?_append_right isNew] at role
      cases List.mem_singleton.mp (List.mem_of_getElem? role)
      obtain rfl : task = before.tasks.length := by
        have := (List.getElem?_eq_some_iff.mp role).1
        rw [roles_length] at this isNew
        simp only [List.length_singleton] at this
        exact Nat.le_antisymm (Nat.sub_eq_zero_iff_le.mp (Nat.lt_one_iff.mp this)) isNew
      obtain ⟨known', found', ages⟩ := happens.course.grows cache _ found
      have isOpen :=
        happens.outcome_of_new (List.getElem?_eq_none (Nat.le_refl before.tasks.length))
      refine ⟨known', found', fun _ => ?_, fun outcome ended => ?_⟩
      · rw [record, posed_asked, ages.queryRequest]
      · cases isOpen.symm.trans ended

/-! ## Items -/

/-- What is in a queue after it is fed was there, or is what it is fed with. -/
theorem Feeds.mem {items : List Item} (feeds : Feeds cache items before after) {item : Item}
    (member : item ∈ after.items cache) : item ∈ before.items cache ∨ item ∈ items := by
  rw [items_of_duty] at member ⊢
  cases was : before.duty? cache with
  | none =>
    cases is : after.duty? cache with
    | none => simp [is] at member
    | some duty => simp [is, feeds.new was duty is] at member
  | some duty =>
    rw [feeds.old duty was, Option.elim_some] at member
    cases has : duty.backlog with
    | none => simp [Duty.feed, has] at member
    | some backlog =>
      simp only [Duty.feed, has, Option.map_some, Option.elim_some, Backlog.puts_eq,
        List.mem_append] at member
      simpa [has] using member

/-- What is in a queue that is closed was there, or is the end mark. -/
theorem items_of_closed {duty : Duty} {item : Item}
    (member : item ∈ duty.closed.backlog.elim [] (·.items)) :
    item ∈ duty.backlog.elim [] (·.items) ∨ item = .stop := by
  unfold Duty.closed at member
  split at member
  · cases has : duty.backlog with
    | none => simp [has] at member
    | some backlog =>
      rw [has] at member
      exact (List.mem_append.mp member).imp_right List.mem_singleton.mp
  · exact .inl member

/-- In a turn nothing comes into a queue but prompts and the end mark. -/
theorem Tends.mem {self : TaskId} {frame : Frame S.Point} {wake : Wake S.Reply} {turn : Turn S}
    (tends : Tends cache self loop frame wake turn) {item : Item}
    (member : item ∈ turn.1.items cache) :
    item ∈ loop.items cache ∨ item.isAsking ∨ item = .stop := by
  have is {duty : Duty} (now : turn.1.duty? cache = some duty) :
      item ∈ duty.backlog.elim [] (·.items) := by
    rwa [items_of_duty, now, Option.elim_some] at member
  have was {duty : Duty} (earlier : loop.duty? cache = some duty)
      (isOld : item ∈ duty.backlog.elim [] (·.items)) :
      item ∈ loop.items cache := by
    rwa [items_of_duty, earlier, Option.elim_some]
  cases tends with
  | feeds _ areAsking feeds =>
    exact (feeds.mem member).imp_right fun isNew => .inl (areAsking item isNew)
  | begins earlier isLatent now => cases is now
  | closes now =>
    cases earlier : loop.duty? cache with
    | none => rw [items_of_duty, now, earlier] at member; cases member
    | some duty =>
      exact (items_of_closed (is (now.trans (congrArg (Option.map Duty.closed) earlier)))).imp
        (was earlier) .inr
  | joins earlier has isBusy now => exact .inl (was earlier (by rw [has]; exact is now))
  | quits isGone => exact .inl member
  | @idles _ _ duty earlier isPlain isEmpty now way =>
    have isThere := is now
    refine .inl (was earlier ?_)
    cases has : duty.backlog with
    | none => simp [has] at isThere
    | some backlog =>
      rw [has] at isThere
      exact isThere
  | reads earlier isPlain has taken now way =>
    refine .inl (was earlier ?_)
    rw [has, Option.elim_some, (Backlog.take?_eq_some taken).1]
    exact List.mem_cons_of_mem _ (is now)
  | works earlier isPlain has taken areAsking runs now either =>
    have isThere := is now
    rw [Option.elim_some, (done_eq _).1, Backlog.puts_eq] at isThere
    refine (List.mem_append.mp isThere).imp (fun isOld => was earlier ?_) fun isNew =>
      .inl (areAsking item isNew)
    rw [has, Option.elim_some, (Backlog.take?_eq_some taken).1]
    exact List.mem_cons_of_mem _ isOld
  | @returns _ _ duty items earlier areAsking runs now either =>
    have isThere := is now
    cases has : duty.backlog with
    | none => simp [itemDoneDuty, Duty.feed, has] at isThere
    | some backlog =>
      simp only [itemDoneDuty, Duty.feed, has, Option.map_some, Option.elim_some, (done_eq _).1,
        Backlog.puts_eq,
        List.mem_append] at isThere
      exact isThere.imp (fun isOld => was earlier (by rw [has]; exact isOld)) fun isNew =>
        .inl (areAsking item isNew)

/-- **What comes into a queue is a prompt, the end mark, or the answer to a request.** -/
theorem Fares.mem (fares : Fares cache before after) {item : Item}
    (member : item ∈ after.items cache) :
    item ∈ before.items cache ∨ item.isAsking ∨ item = .stop ∨ ∃ query task outcome ready,
      before.ready = .hook (.answered cache query) task :: ready ∧
        before.outcome? task = some outcome ∧
        item = query.answer outcome := by
  cases fares with
  | feeds areAsking feeds =>
    exact (feeds.mem member).imp_right fun isNew => .inl (areAsking item isNew)
  | answers isBetween isFirst ended feeds =>
    refine (feeds.mem member).imp_right fun isNew => .inr (.inr ⟨_, _, _, _, isFirst, ended, ?_⟩)
    exact List.mem_singleton.mp isNew
  | @turn self wake frame rest turn isAt made tends same =>
    have ended := afterTurn_duty? self frame rest turn cache
    rw [← same] at ended
    have member : item ∈ turn.1.items cache := by rwa [items_of_duty, ← ended, ← items_of_duty]
    have isOld : before.inTurn.items cache = before.items cache := rfl
    exact isOld ▸ (tends.mem member).imp_right (Or.imp_right .inl)

/-- The answers among the items of a cache are answers to its requests, unless those were
cancelled. -/
def ItemsAreAnswers (cache : CacheId) (loop : Loop S) : Prop :=
  ∀ (known : Cache) (query : Query) (outcome : Outcome Answer), loop.caches[cache]? = some known →
    query.answer outcome ∈ loop.items cache → outcome ≠ .cancelled →
      (queryRequest cache known query, outcome) ∈ answersTo cache loop.record

theorem Query.answer_injective {query query' : Query} {outcome outcome' : Outcome Answer}
    (same : query.answer outcome = query'.answer outcome') :
    query = query' ∧ outcome = outcome' := by
  cases query <;> cases query' <;> cases same <;> exact ⟨rfl, rfl⟩

/-- A cache that was not there has no items. -/
theorem isThere_of_item {item : Item} (member : item ∈ loop.items cache) :
    ∃ known, loop.caches[cache]? = some known := by
  cases found : loop.caches[cache]? with
  | none => simp [items, found] at member
  | some known => exact ⟨known, rfl⟩

theorem Happens.itemsAreAnswers (happens : Happens published before after)
    (hooksFit : before.HooksFit) (answered : before.RequestsAreAnswered)
    (itemsAreAnswers : before.ItemsAreAnswers cache) :
    after.ItemsAreAnswers cache := by
  intro known query outcome found member isPlain
  rcases (happens.passes.fares cache).mem member with isOld | isAsking | isMark |
    ⟨query', task, outcome', ready, isFirst, ended, same⟩
  · obtain ⟨known', found'⟩ := isThere_of_item isOld
    obtain ⟨_, found'', ages⟩ := happens.course.grows cache known' found'
    cases found.symm.trans found''
    rw [ages.queryRequest]
    exact happens.answered (itemsAreAnswers known' query outcome found' isOld isPlain)
  · cases query <;> exact isAsking.elim
  · exact absurd isMark (Query.answer_ne_stop query outcome)
  · obtain ⟨rfl, rfl⟩ := Query.answer_injective same
    obtain ⟨role, is, fits⟩ :=
      hooksFit (.answered cache query) task (.inr (isFirst ▸ List.mem_cons_self))
    cases (show role = .request cache query from fits)
    obtain ⟨known', found', -, isAnswered⟩ := answered task cache query is
    obtain ⟨_, found'', ages⟩ := happens.course.grows cache known' found'
    cases found.symm.trans found''
    rw [ages.queryRequest]
    exact happens.answered (isAnswered outcome ended isPlain)

/-! ## Reads -/

/-- A read has been posed while the call stands above the frame that waits for it. -/
def ReadsArePosed (loop : Loop S) : Prop :=
  ∀ (task : TaskId) (known : Task S) (point : S.Point) (reader : Frame S.Point)
  (rest : List (Frame S.Point))
    (cache : CacheId), loop.tasks[task]? = some known →
      known.frames = .service point :: reader :: rest →
      reader.reads cache → ∃ owner, loop.caches[cache]? = some owner ∧
        posed? task loop.record = some (cache, readRequest owner)

/-- A frame that has waited for a read goes on with its answer. -/
def ReadsAreAnswered (loop : Loop S) : Prop :=
  ∀ (task : TaskId) (known : Task S) (reader : Frame S.Point) (rest : List (Frame S.Point))
  (cache : CacheId),
    loop.tasks[task]? = some known → known.frames = reader :: rest → reader.reads cache →
      ∃ owner outcome, loop.caches[cache]? = some owner ∧ loop.turn = some (task, .ended outcome) ∧
        (readRequest owner, outcome) ∈ answersTo cache loop.record

section Reads

variable {reader : Frame S.Point} {rest more : List (Frame S.Point)} {point : S.Point}
  {wake : Wake S.Reply} {frame : Frame S.Point}

/-- What a cache reads stays the same. -/
theorem Happens.readRequest {allowed : Outside S} (happens : Happens allowed before after)
    {owner : Cache} (found : before.caches[cache]? = some owner) :
    ∃ owner', after.caches[cache]? = some owner' ∧
      Loop.readRequest owner' = Loop.readRequest owner := by
  obtain ⟨owner', found', ages⟩ := happens.course.grows cache owner found
  exact ⟨owner', found', ages.readRequest⟩

/-- A turn that leaves a call above a reader leaves a read that is posed. -/
theorem ReadsArePosed.turn (readsArePosed : before.ReadsArePosed)
    (happens : Happens published before after) (areStacked : before.AreStacked)
    (isAt : before.IsAt task wake frame rest)
    (same : after = afterTurn task frame rest (before.inTurn.frameTurn task frame wake))
    (frames :
      (before.inTurn.frameTurn task frame wake).2.frames rest = .service point :: reader :: more)
    (reads : reader.reads cache) :
    ∃ owner, after.caches[cache]? = some owner ∧
      posed? task after.record = some (cache, Loop.readRequest owner) := by
  obtain ⟨known, found, stands⟩ := Option.map_eq_some_iff.mp isAt.frames
  have isStack := areStacked.isAt isAt
  have follows := frameTurn_follows task frame wake before.inTurn
  have adds := frameTurn_adds task wake before.inTurn frame
  -- The call goes on, and has been posed before.
  have goesOn : ∀ {next : Frame S.Point}, next.activity = frame.activity →
      next :: rest = .service point :: reader :: more →
      (∀ outcome, (before.inTurn.frameTurn task frame wake).2 ≠ .finish outcome) →
      ∃ owner, after.caches[cache]? = some owner ∧
        posed? task after.record = some (cache, Loop.readRequest owner) := by
    intro next activity left noEnd
    cases left
    obtain ⟨earlier, rfl⟩ := Frame.service_of_activity activity.symm
    obtain ⟨owner, isThere, posed⟩ :=
      readsArePosed task known earlier reader more cache found stands reads
    obtain ⟨owner', isThere', request⟩ := happens.readRequest isThere
    refine ⟨owner', isThere', ?_⟩
    rw [same, afterTurn_service_record]
    split
    · next outcome finishes => exact absurd finishes (noEnd outcome)
    · rw [request]
      exact posed
  generalize result : before.inTurn.frameTurn task frame wake = turn
    at frames follows same goesOn adds
  obtain ⟨middle, way⟩ := turn
  cases follows with
  | goOn activity isFree => exact goesOn activity frames fun _ same => by cases same
  | await activity isFree => exact goesOn activity frames fun _ same => by cases same
  | finish outcome =>
    obtain rfl : .service point :: reader :: more = rest := frames.symm
    exact ((List.isChain_cons_cons.mp isStack).1 : (Frame.service point).awaits _).elim
  | call activity awaits isFirst begins =>
    cases frames
    have isNoCall : ¬ frame.isService := fun isCall => by
      cases frame with
      | service point => exact absurd awaits (by
          obtain ⟨earlier, rfl⟩ := Frame.service_of_activity activity
          exact id)
      | _ => exact isCall.elim
    rw [same, afterTurn_own_record isNoCall]
    rw [← same]
    cases adds with
    | nothing record noCall => exact absurd reads (noCall cache _ _ rfl)
    | begins found isLatent record way =>
      cases way
      exact reads.elim
    | @reads owner known _ _ _ _ isThere reads' hasBegun record way =>
      cases way
      cases Frame.reads_unique reads reads'
      obtain ⟨known', isThere', request⟩ := happens.readRequest isThere
      refine ⟨known', isThere', ?_⟩
      rw [record, posed_asked, request]
    | asks found runs isFirst isNext record way => cases way
    | sees found runs shows record noCall => exact absurd trivial noCall

theorem Happens.readsArePosed (happens : Happens published before after)
    (areStacked : before.AreStacked) (readsArePosed : before.ReadsArePosed) :
    after.ReadsArePosed := by
  intro task known point reader rest cache found frames reads
  cases happens.inherits found with
  | new unknown single enters isNew => cases frames.symm.trans single
  | doomed earlier role was bare => cases frames.symm.trans bare
  | turn earlier role isAt same left =>
    exact readsArePosed.turn happens areStacked isAt same (left.symm.trans frames) reads
  | @kept old earlier role same steady =>
    have isThere : task < before.tasks.length := (List.getElem?_eq_some_iff.mp earlier).1
    rcases happens.posed isThere with kept | ⟨wake, frame, below, isAt, turned⟩
    · obtain ⟨owner, isOwner, posed⟩ :=
        readsArePosed task old point reader rest cache earlier (same.symm.trans frames) reads
      obtain ⟨owner', isOwner', request⟩ := happens.readRequest isOwner
      exact ⟨owner', isOwner', by rw [kept, posed, request]⟩
    · obtain ⟨played, isPlayed, -⟩ :=
        (frameTurn_spares task frame wake before.inTurn).old task old earlier
      obtain ⟨known', found', -, left⟩ := (afterTurn_ends frame below isPlayed).self played isPlayed
      rw [← turned, found] at found'
      cases found'
      exact readsArePosed.turn happens areStacked isAt turned (left.symm.trans frames) reads

theorem Happens.readsAreAnswered (happens : Happens published before after)
    (areStacked : before.AreStacked) (readsArePosed : before.ReadsArePosed)
    (readsAreAnswered : before.ReadsAreAnswered) : after.ReadsAreAnswered := by
  intro task known reader rest cache found frames reads
  have isCalling := Frame.isCalling_of_reads reads
  cases happens.inherits found with
  | new unknown single enters isNew =>
    cases frames.symm.trans single
    exact absurd isCalling (Frame.not_isCalling enters.isFirst)
  | doomed earlier role was bare => cases frames.symm.trans bare
  | @kept old earlier role same steady =>
    have frames := same.symm.trans frames
    obtain ⟨owner, outcome, isOwner, turn, isAnswer⟩ :=
      readsAreAnswered task old reader rest cache earlier frames reads
    obtain ⟨owner', isOwner', request⟩ := happens.readRequest isOwner
    have isAt : before.IsAt task (.ended outcome) reader rest :=
      ⟨turn, by rw [earlier, Option.map_some, frames]⟩
    exact ⟨owner', outcome, isOwner', (steady _ _ _ isAt).trans turn,
      request ▸ happens.answered isAnswer⟩
  | @turn old wake frame below earlier role isAt same left =>
    have isStack := areStacked.isAt isAt
    have follows := frameTurn_follows task frame wake before.inTurn
    rw [frames] at left
    cases way : (before.inTurn.frameTurn task frame wake).2 with
    | goOn next =>
      rw [way] at follows left
      cases follows with
      | goOn activity isFree =>
        cases left
        exact absurd isCalling isFree
    | await next on =>
      rw [way] at follows left
      cases follows with
      | await activity isFree =>
        cases left
        exact absurd isCalling isFree
    | call caller callee =>
      rw [way] at follows left
      cases follows with
      | call activity awaits isFirst begins =>
        cases left
        exact absurd isCalling (Frame.not_isCalling isFirst)
    | finish outcome =>
      -- The frame above the reader has come to its end: it was the call.
      rw [way] at left
      obtain rfl : reader :: rest = below := left
      obtain ⟨point, rfl⟩ :=
        Frame.service_of_activity
          (Frame.activity_of_reads reads (List.isChain_cons_cons.mp isStack).1)
      obtain ⟨known', found', stands⟩ := Option.map_eq_some_iff.mp isAt.frames
      obtain ⟨owner, isOwner, posed⟩ :=
        readsArePosed task known' point reader rest cache found' stands reads
      obtain ⟨owner', isOwner', request⟩ := happens.readRequest isOwner
      refine ⟨owner', outcome, isOwner', ?_, ?_⟩
      · generalize before.inTurn.frameTurn task (.service point) wake = turn at way same
        obtain ⟨middle, left⟩ := turn
        cases way
        rw [same]
        exact afterTurn_turn task _ reader rest middle outcome
      · rw [same, afterTurn_service_record, way, request]
        exact answersTo_left posed outcome

end Reads

end Loop

end WatchedNode
