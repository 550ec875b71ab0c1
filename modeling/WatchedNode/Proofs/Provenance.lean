/-
**Views are what one answer says.**

What a cache has seen of its node is what one answer to one of its own requests says: a look that
found no node, a read that found none, or a fetch or read that returned what the node holds, stamps
and content together (`Stems`). Nothing is put together from several answers, and an answer that
says nothing of the node, as its request has failed or was cancelled, leaves the view as it is.

* `Sees`: a task of the cache has its turn with an answer that says how the node is;
* `Happens.viewsOf`: a cache gets a new view only when it sees one;
* `IsSeen`: what a cache has seen is its latest view, or nothing as long as it has none;
* `AsksFollow`: what a cache asks comes after its start.
-/
import WatchedNode.Proofs.Hearing
import WatchedNode.Proofs.Loop.Answers

namespace WatchedNode

open Relation

variable {S : Service}

/-- The outcome is in kind: a look that returns says whether there is a node, a fetch what the node
holds. -/
def Request.admits : Request → Outcome Answer → Bool
  | .look .., .returned (.stat _) | .fetch .., .returned (.content (some _) (some _)) => true
  | .look .., .returned _ | .fetch .., .returned _ => false
  | _, _ => true

theorem Request.look_admits {path : String} {watcher : Subscriber} {answer : Answer}
    (admits : (Request.look path watcher).admits (.returned answer) = true) :
    ∃ stat, answer = .stat stat := by
  cases answer <;> first | exact ⟨_, rfl⟩ | cases admits

theorem Request.fetch_admits {path : String} {watcher : Option Subscriber} {choice : Value}
    {answer : Answer}
    (admits : (Request.fetch path watcher choice).admits (.returned answer) = true) :
    ∃ data stat, answer = .content (some data) (some stat) := by
  cases answer with
  | content data stat => cases data <;> cases stat <;> first | exact ⟨_, _, rfl⟩ | cases admits
  | _ => cases admits

namespace Loop

variable {before after loop last : Loop S} {cache : CacheId} {task : TaskId}

/-! ## Views -/

/-- A task of a cache has its turn with an answer that says how the node is. -/
def Sees (cache : CacheId) (known : Cache) (loop : Loop S) (data : Snapshot) : Prop :=
  ∃ task wake frame rest, loop.IsAt task wake frame rest ∧ Shows cache known frame wake data

/-- A view that an answer says, whatever the answers are. -/
inductive Said (cache : CacheId) (known : Cache) (answers : List (Request × Outcome Answer)) :
    Snapshot → Prop
  | looked {answer : Answer}
      (answered : (queryRequest cache known .look, .returned answer) ∈ answers)
      (isNone : answer.stat? = none) : Said cache known answers (.absent known.path)
  | fetched {answer : Answer} {data : Snapshot}
      (answered : (queryRequest cache known .fetch, .returned answer) ∈ answers)
      (made : Snapshot.make known.path answer.parts.2 answer.parts.1 = .ok data) :
      Said cache known answers data
  | read {outcome : Outcome Answer} {data : Snapshot}
      (answered : (readRequest known, outcome) ∈ answers)
      (meant : known.reading outcome = .returned data) : Said cache known answers data

/-- Where a view of a node comes from: an answer to a look or a read that says that there is none,
or one to a fetch or a read that returns what the node holds. -/
inductive Stems (cache : CacheId) (known : Cache) (answers : List (Request × Outcome Answer)) :
    Snapshot → Prop
  | looked (answered : (queryRequest cache known .look, .returned (.stat none)) ∈ answers) :
      Stems cache known answers (.absent known.path)
  | gone {error : Error} (isNoNode : error.isNoNode = true)
      (answered : (readRequest known, .failed error) ∈ answers) :
      Stems cache known answers (.absent known.path)
  | returned {request : Request} {stat : Stat} {data : List UInt8}
      (isReading : request = queryRequest cache known .fetch ∨ request = readRequest known)
      (answered : (request, .returned (.content (some data) (some stat))) ∈ answers) :
      Stems cache known answers (.present known.path stat data)

section Views

variable {known : Cache} {data : Snapshot} {answers : List (Request × Outcome Answer)}

theorem Stems.path (stems : Stems cache known answers data) : data.path = known.path := by
  cases stems <;> rfl

/-- What answers in kind say stems from one of them. -/
theorem Said.stems (said : Said cache known answers data)
    (areInKind : ∀ answered ∈ answers, answered.1.admits answered.2 = true) :
    Stems cache known answers data := by
  have made : ∀ {request : Request} {answer : Answer}, (request, .returned answer) ∈ answers →
      request = queryRequest cache known .fetch ∨ request = readRequest known →
      Snapshot.make known.path answer.parts.2 answer.parts.1 = .ok data →
        Stems cache known answers data := by
    intro request answer answered isReading made
    have admits := areInKind _ answered
    obtain ⟨content, stat, rfl⟩ : ∃ content stat, answer = .content (some content) (some stat) := by
      rcases isReading with rfl | rfl <;> exact Request.fetch_admits admits
    cases made
    exact .returned isReading answered
  cases said with
  | looked answered isNone =>
    obtain ⟨stat, rfl⟩ := Request.look_admits (areInKind _ answered)
    cases (show stat = none from isNone)
    exact .looked answered
  | fetched answered isMade => exact made answered (.inl rfl) isMade
  | @read outcome _ answered meant =>
    cases outcome with
    | returned answer =>
      refine made answered (.inr rfl) ?_
      have meant : Outcome.ofExcept (Snapshot.make known.path answer.parts.2 answer.parts.1) =
          .returned data := meant
      cases result : Snapshot.make known.path answer.parts.2 answer.parts.1 with
      | ok view =>
        rw [result] at meant
        cases meant
        rfl
      | error error =>
        rw [result] at meant
        cases meant
    | failed error =>
      unfold Cache.reading at meant
      dsimp only at meant
      split at meant
      · next isNoNode =>
        cases meant
        exact .gone isNoNode answered
      · cases meant
    | cancelled => cases meant

/-- What a cache says is said as long as it is there. -/
theorem Said.ages {known' : Cache} (said : Said cache known answers data) (ages : known.Ages known')
    {answers' : List (Request × Outcome Answer)}
    (more : ∀ answered ∈ answers, answered ∈ answers') :
    Said cache known' answers' data := by
  cases said with
  | looked answered isNone =>
    rw [← ages.path]
    exact .looked (by rw [ages.queryRequest]; exact more _ answered) isNone
  | fetched answered made =>
    exact .fetched (by rw [ages.queryRequest]; exact more _ answered)
      (by rw [ages.path]; exact made)
  | @read outcome _ answered meant =>
    refine .read (by rw [ages.readRequest]; exact more _ answered) ?_
    rw [← meant]
    cases outcome <;> simp only [Cache.reading, ages.path]

/-- The first item of a queue is one of its items. -/
theorem mem_of_first {item : Item} {rest : Backlog} (found : loop.caches[cache]? = some known)
    (isFirst : known.backlog.bind Backlog.take? = some (item, rest)) : item ∈ loop.items cache := by
  obtain ⟨backlog, has, taken⟩ := Option.bind_eq_some_iff.mp isFirst
  rw [items_eq found, Cache.items, has, Option.elim_some, (Backlog.take?_eq_some taken).1]
  exact List.mem_cons_self

/-- **What a cache sees is what an answer to one of its requests says.** -/
theorem Sees.said (sees : Sees cache known loop data) (found : loop.caches[cache]? = some known)
    (itemsAreAnswers : loop.ItemsAreAnswers cache) (readsAreAnswered : loop.ReadsAreAnswered) :
    Said cache known (answersTo cache loop.record) data := by
  obtain ⟨task, wake, frame, rest, isAt, shows⟩ := sees
  cases shows with
  | looked isFirst isNone =>
    exact .looked
      (itemsAreAnswers known .look _ found (mem_of_first found isFirst) (by simp)) isNone
  | fetched isFirst made =>
    exact .fetched
      (itemsAreAnswers known .fetch _ found (mem_of_first found isFirst) (by simp)) made
  | read reads meant =>
    obtain ⟨own, isThere, frames⟩ := Option.map_eq_some_iff.mp isAt.frames
    obtain ⟨owner, outcome, isOwner, turn, answered⟩ :=
      readsAreAnswered task own frame rest cache isThere frames reads
    cases found.symm.trans isOwner
    cases isAt.turn.symm.trans turn
    exact .read answered meant

/-- **Whatever happens, a cache gets no new view, or sees one.** -/
theorem Happens.viewsOf (happens : Happens published before after) (cache : CacheId) :
    after.viewsOf cache = before.viewsOf cache ∨ ∃ known data, before.caches[cache]? = some known ∧
      Sees cache known before data ∧ after.viewsOf cache = data :: before.viewsOf cache := by
  have same : after.record = before.record → after.viewsOf cache = before.viewsOf cache :=
    fun same => by
    rw [Loop.viewsOf, same, Loop.viewsOf]
  have other : ∀ {entry : Entry S.Call}, after.record = entry :: before.record →
      entry.view? cache = none →
      after.viewsOf cache = before.viewsOf cache := fun record isNone => by
    rw [Loop.viewsOf, record, List.filterMap_cons_none isNone, Loop.viewsOf]
  rcases happens.turns with record | ⟨self, wake, frame, rest, isAt, turned⟩
  · exact .inl (same record)
  by_cases isCall : frame.isService
  · cases frame with
    | service point =>
      have record := afterTurn_service_record self point wake rest before.inTurn
      rw [← turned] at record
      split at record
      · exact .inl (other record rfl)
      · exact .inl (same record)
    | _ => exact isCall.elim
  · have left : after.record = (before.inTurn.frameTurn self frame wake).1.record :=
      turned ▸ afterTurn_own_record isCall self _
    cases frameTurn_adds self wake before.inTurn frame with
    | nothing record => exact .inl (same (left.trans record))
    | begins found isLatent record way => exact .inl (other (left.trans record) rfl)
    | reads found reads hasBegun record way => exact .inl (other (left.trans record) rfl)
    | asks found runs isFirst isNext record way => exact .inl (other (left.trans record) rfl)
    | @sees owner known _ _ _ data isSilent found runs shows record noCall =>
      by_cases here : owner = cache
      · subst here
        refine .inr ⟨known, data, found, ⟨self, wake, frame, rest, isAt, shows⟩, ?_⟩
        rw [Loop.viewsOf, left.trans record]
        exact List.filterMap_cons_some (if_pos rfl)
      · exact .inl (other (left.trans record) (if_neg here))

/-- The views that a cache has got are what answers say. -/
def ViewsAreSaid (cache : CacheId) (loop : Loop S) : Prop :=
  ∀ data ∈ loop.viewsOf cache, ∃ known, loop.caches[cache]? = some known ∧
    Said cache known (answersTo cache loop.record) data

theorem Happens.viewsAreSaid (happens : Happens published before after)
    (itemsAreAnswers : before.ItemsAreAnswers cache) (readsAreAnswered : before.ReadsAreAnswered)
    (viewsAreSaid : before.ViewsAreSaid cache) : after.ViewsAreSaid cache := by
  have kept : ∀ {known data}, before.caches[cache]? = some known →
      Said cache known (answersTo cache before.record) data →
      ∃ known, after.caches[cache]? = some known ∧
        Said cache known (answersTo cache after.record) data := by
    intro known data found said
    obtain ⟨known', found', ages⟩ := happens.course.grows cache known found
    exact ⟨known', found', said.ages ages fun _ => happens.answered⟩
  intro data member
  rcases happens.viewsOf cache with same | ⟨known, view, found, sees, more⟩
  · obtain ⟨known, found, said⟩ := viewsAreSaid data (same ▸ member)
    exact kept found said
  · rw [more] at member
    rcases List.mem_cons.mp member with rfl | isOld
    · exact kept found (sees.said found itemsAreAnswers readsAreAnswered)
    · obtain ⟨known, found, said⟩ := viewsAreSaid data isOld
      exact kept found said

/-! ## What a cache has seen -/

/-- What a cache has seen is its latest view, or that there is no node as long as it has none. -/
structure IsSeen (cache : CacheId) (loop : Loop S) : Prop where
  absent : loop.caches[cache]? = none → loop.viewsOf cache = []
  data (known : Cache) : loop.caches[cache]? = some known →
    known.data = (loop.viewsOf cache).headD (.absent known.path)

/-- What leaves views alone leaves a cache with what it has seen. -/
theorem IsSeen.calm (isSeen : before.IsSeen cache) (calm : Calm before after) :
    after.IsSeen cache := by
  have same : after.viewsOf cache = before.viewsOf cache := by
    rw [viewsOf_notices, calm.notices, ← viewsOf_notices]
  cases found : before.caches[cache]? with
  | none =>
    refine ⟨fun _ => same.trans (isSeen.absent found), fun known' found' => ?_⟩
    rw [(calm.news cache known' found found').2.2, same, isSeen.absent found]
    rfl
  | some known =>
    obtain ⟨known', found', ages, data⟩ := calm.caches cache known found
    refine ⟨fun isGone => ?_, fun other found'' => ?_⟩
    · cases isGone.symm.trans found'
    · cases found'.symm.trans found''
      rw [data, isSeen.data known found, same, ages.path]

theorem IsSeen.note {entry : Entry S.Call} (isSeen : loop.IsSeen cache)
    (isNone : entry.view? cache = none) :
    (loop.note entry).IsSeen cache := by
  have same : (loop.note entry).viewsOf cache = loop.viewsOf cache := by
    rw [viewsOf, note_record]
    split
    · rw [List.filterMap_cons_none isNone, viewsOf]
    · rfl
  exact ⟨fun isGone => same.trans (isSeen.absent isGone),
    fun known found => same ▸ isSeen.data known found⟩

/-- A cache that is there has a new view. -/
theorem IsSeen.setData {owner : CacheId} {old : Cache} (isSeen : loop.IsSeen cache)
    (found : loop.caches[owner]? = some old) (data : Snapshot) (isSilent : Bool) :
    (loop.setData owner data isSilent).IsSeen cache := by
  have record := setData_record owner data isSilent loop
  by_cases here : owner = cache
  · subst here
    have isThere : (loop.setData owner data isSilent).caches[owner]? = some { old with data } :=
      modifyCache_self found _
    refine ⟨fun isGone => (by cases isGone.symm.trans isThere), fun known found' => ?_⟩
    cases isThere.symm.trans found'
    rw [viewsOf, record,
      List.filterMap_cons_some (show (Entry.installed owner data isSilent).view? owner = some data
      from if_pos rfl)]
    rfl
  · have same : (loop.setData owner data isSilent).viewsOf cache = loop.viewsOf cache := by
      rw [viewsOf, record,
        List.filterMap_cons_none (show (Entry.installed owner data isSilent).view? cache = none
        from if_neg here), viewsOf]
    have stays : (loop.setData owner data isSilent).caches[cache]? = loop.caches[cache]? :=
      modifyCache_of_ne loop here _
    exact ⟨fun isGone => same.trans (isSeen.absent (stays ▸ isGone)), fun known found' =>
      same ▸ isSeen.data known (stays ▸ found')⟩

theorem IsSeen.notify (isSeen : loop.IsSeen cache) (owner : CacheId) :
    (loop.notify owner).IsSeen cache := by
  have all : ∀ {after : Loop S}, Bustles loop after → after.IsSeen cache := by
    intro after bustles
    induction bustles with
    | refl => exact isSeen
    | tail _ bustle step =>
      cases bustle with
      | stir stir => exact step.calm stir.calm
      | call cache monitor => exact step.note rfl
  exact all (notify_bustles owner loop)

theorem IsSeen.labours {owner : CacheId} {isDue looks : Prop} (isSeen : before.IsSeen cache)
    (labours : Labours owner isDue looks before after) : after.IsSeen cache := by
  induction labours with
  | refl => exact isSeen
  | tail _ labour step =>
    cases labour with
    | stir stir => exact step.calm stir.calm
    | asked task known request found isPlain isRight => exact step.note rfl
    | install known data found isStarted =>
      unfold install
      dsimp only
      split
      · exact step.setData found data false
      · exact (step.setData found data false).notify owner
    | rebuild known data found isStarted => exact step.setData found data true
    | look known found isActive => exact step.calm (ask_calm owner .look _)
    | fetch known found isStarted => exact step.calm (ask_calm owner .fetch _)
    | answer known query outcome found isStarted => exact step.calm (post_calm owner _ _)
    | refresh isRight => exact step.calm (refresh_calm owner _)
    | begin known found isLatent =>
      refine step.calm (.trans (.modify _ owner _ fun known' found' => ?_) (.of_eq rfl rfl))
      cases found.symm.trans found'
      exact ⟨.begin isLatent _ _, rfl⟩

/-- **What a cache has seen is its latest view**, whatever happens. -/
theorem Happens.isSeen (happens : Happens published before after) (isSeen : before.IsSeen cache) :
    after.IsSeen cache := by
  cases happens with
  | step =>
    have step := step_isStep before
    generalize before.step = after at step
    cases step with
    | @turn task wake frame rest isAt =>
      refine IsSeen.calm ?_ (afterTurn_calm task frame rest _)
      have inTurn : before.inTurn.IsSeen cache := isSeen.calm (.of_eq rfl rfl)
      rcases frameTurn_kinds task frame wake before.inTurn with
        ⟨point, tickets, alarms, rfl, same⟩ |
        ⟨owner, middle, -, prepares, labours⟩
      · exact inTurn.calm (serviceTurn_calm task point wake _)
      · refine IsSeen.labours ?_ labours
        cases prepares with
        | nothing => exact inTurn
        | listen isStart isReady found => exact inTurn.calm (.of_eq rfl rfl)
        | take isWorker found isFirst => exact inTurn.calm (take_calm _)
    | pause turn isOver => exact isSeen.calm (.of_eq rfl rfl)
    | @job job ready turn isFirst =>
      have begun : ({ before with ready } : Loop S).IsSeen cache := isSeen.calm (.of_eq rfl rfl)
      exact begun.calm (start_calm job _)
    | rest turn => exact isSeen
  | command command isBetween isMomentary isAllowed =>
    have isOrder := command_isOrder before command isMomentary
    generalize (before.command command).1 = after at isOrder
    cases isOrder with
    | stirs stirs => exact isSeen.calm (Stirs.calm stirs)
    | call stirs point => exact isSeen.calm ((Stirs.calm stirs).trans (.of_eq rfl rfl))
    | release tickets release same => exact isSeen.calm (releaseAll_calm release tickets before)
    | install name owner path stat data same =>
      subst same
      exact isAllowed.elim
  | elapse time => exact isSeen.calm (.of_eq rfl rfl)
  | ring => exact isSeen.calm (.of_eq (ring_keeps before).2.2.1 (ring_keeps before).2.1)
  | decide scripts habits => exact isSeen.calm (.of_eq rfl rfl)

end Views

/-! ## Requests come after the start -/

/-- A start of the cache has asked for its directories. -/
def HasAsked (cache : CacheId) (known : Cache) (entries : List (Entry S.Call)) : Prop :=
  ∃ starter, .asked cache starter (.ensure known.path true) ∈ entries

/-- A cache that has begun has asked for its directories. -/
def StartIsAsked (cache : CacheId) (loop : Loop S) : Prop :=
  ∀ known, loop.caches[cache]? = some known → known.phase ≠ .latent →
    HasAsked cache known loop.record

/-- What a cache asks is what its start asks, or comes after that. -/
def AsksFollow (cache : CacheId) (loop : Loop S) : Prop :=
  ∀ (newer older : List (Entry S.Call)) (task : TaskId) (request : Request),
    loop.record = newer ++ .asked cache task request :: older →
      ∃ known, loop.caches[cache]? = some known ∧
      (request = .ensure known.path true ∨ HasAsked cache known older)

section Starts

theorem HasAsked.ages {known known' : Cache} {entries : List (Entry S.Call)}
    (hasAsked : HasAsked cache known entries) (ages : known.Ages known') :
    HasAsked cache known' entries := by
  rw [HasAsked, ages.path]
  exact hasAsked

theorem HasAsked.more {known : Cache} {entries : List (Entry S.Call)}
    (hasAsked : HasAsked cache known entries) (entry : Entry S.Call) :
    HasAsked cache known (entry :: entries) :=
  hasAsked.imp fun _ member => List.mem_cons_of_mem entry member

/-- What has been asked stays so. -/
theorem Happens.hasAsked (happens : Happens published before after) {known known' : Cache}
    (ages : known.Ages known') (hasAsked : HasAsked cache known before.record) :
    HasAsked cache known' after.record := by
  rcases happens.entry with same | ⟨entry, record, -⟩
  · rw [same]
    exact hasAsked.ages ages
  · rw [record]
    exact (hasAsked.more entry).ages ages

/-- A start that makes its cache run asks for the directories. -/
theorem begins_record {self : TaskId} {wake : Wake S.Reply} {buildInitial : Bool}
    {rest : List (Frame S.Point)} {known : Cache} {duty : Duty} (loop : Loop S)
    (found : loop.caches[cache]? = some known) (isLatent : known.phase = .latent)
    (is :
      (loop.frameTurn self (.start cache buildInitial .beginning) wake).1.duty? cache = some duty)
    (runs : duty.phase = .started) :
    HasAsked cache known (afterTurn self (.start cache buildInitial .beginning) rest
      (loop.frameTurn self (.start cache buildInitial .beginning) wake)).record := by
  rw [afterTurn_own_record id]
  have turn : loop.frameTurn self (.start cache buildInitial .beginning) wake =
      loop.startTurn self cache known buildInitial .beginning wake := by
    rw [frameTurn, found]
    rfl
  rw [turn] at is ⊢
  by_cases isCancelled : wake = .cancelled
  · subst isCancelled
    have is : loop.duty? cache = some duty := is
    rw [duty?_of_found found] at is
    cases is
    cases isLatent.symm.trans runs
  · rw [startTurn_beginning self cache known buildInitial isCancelled, if_pos isLatent]
    exact ⟨self, by
      rw [show ((loop.begin cache).callService self cache known (.ensure known.path true)
        (.start cache buildInitial .ensuring)).1.record = _ from note_record _ (loop.begin cache)]
      exact List.mem_cons_self⟩

theorem Happens.startIsAsked (happens : Happens published before after)
    (isAsked : before.StartIsAsked cache) :
    after.StartIsAsked cache := by
  intro known' found' hasBegun
  -- A cache that had begun has asked before.
  have earlier {duty : Duty} (was : before.duty? cache = some duty) (begun : duty.phase ≠ .latent) :
      HasAsked cache known' after.record := by
    obtain ⟨known, found, rfl⟩ := Option.map_eq_some_iff.mp was
    obtain ⟨_, found'', ages⟩ := happens.course.grows cache known found
    cases found'.symm.trans found''
    exact happens.hasAsked ages (isAsked known found begun)
  have is := duty?_of_found found'
  have fed {items : List Item} (feeds : Feeds cache items before after) :
      HasAsked cache known' after.record := by
    cases was : before.duty? cache with
    | none => exact absurd (congrArg Duty.phase (feeds.new was _ is)) hasBegun
    | some duty =>
      have same := (feeds.old duty was).symm.trans is
      exact earlier was fun isLatent =>
        hasBegun ((congrArg Duty.phase (Option.some.inj same)).symm.trans isLatent)
  cases happens.passes.fares cache with
  | feeds areAsking feeds => exact fed feeds
  | answers isBetween isFirst ended feeds => exact fed feeds
  | @turn self wake frame rest turn isAt made tends same =>
    have ended := afterTurn_duty? self frame rest turn cache
    rw [← same, is] at ended
    have stays {duty new : Duty} (was : before.inTurn.duty? cache = some duty)
        (now : turn.1.duty? cache = some new) (phase : new.phase = duty.phase) :
        HasAsked cache known' after.record :=
      earlier was fun isLatent => hasBegun <|
        (congrArg Duty.phase (Option.some.inj (ended.trans now))).trans (phase.trans isLatent)
    cases tends with
    | feeds isOther areAsking feeds =>
      exact fed (.still ⟨feeds.runs, feeds.old, feeds.new⟩ (is.trans ended))
    | begins was isLatent now =>
      obtain ⟨known, found, rfl⟩ := Option.map_eq_some_iff.mp was
      obtain ⟨_, found'', ages⟩ := happens.course.grows cache known found
      cases found'.symm.trans found''
      rw [made] at now same
      have asked : HasAsked cache known after.record := by
        rw [same]
        exact begins_record before.inTurn found isLatent now rfl
      exact asked.ages ages
    | closes now =>
      cases was : before.inTurn.duty? cache with
      | none =>
        rw [now, was] at ended
        cases ended
      | some duty =>
        refine earlier was fun isLatent => hasBegun ?_
        rw [now, was] at ended
        rw [show known'.phase = duty.closed.phase from congrArg Duty.phase (Option.some.inj ended)]
        simp [Duty.closed, isLatent]
    | joins was has isBusy now => exact stays was now rfl
    | quits isGone =>
      exact earlier ended.symm hasBegun
    | idles was isPlain isEmpty now way => exact stays was now rfl
    | reads was isPlain has taken now way => exact stays was now rfl
    | works was isPlain has taken areAsking runs now either => exact stays was now rfl
    | returns was areAsking runs now either => exact stays was now rfl

/-- A request that is made is what a start asks, or its cache has asked for its directories. -/
theorem Happens.follows (happens : Happens published before after)
    (isManned : IsManned cache before) (startsAreBegun : before.StartsAreBegun)
    (startIsAsked : before.StartIsAsked cache) :
    after.record = before.record ∨ ∃ entry, after.record = entry :: before.record ∧
      ∀ task request, entry = .asked cache task request →
        ∃ known, before.caches[cache]? = some known ∧
        (request = .ensure known.path true ∨ HasAsked cache known before.record) := by
  rcases happens.turns with same | ⟨self, wake, frame, rest, isAt, rfl⟩
  · exact .inl same
  by_cases isCall : frame.isService
  · cases frame with
    | service point =>
      rw [afterTurn_service_record]
      split
      · exact .inr ⟨_, rfl, fun _ _ same => by cases same⟩
      · exact .inl rfl
    | _ => exact isCall.elim
  · rw [afterTurn_own_record isCall]
    cases frameTurn_adds self wake before.inTurn frame with
    | nothing record => exact .inl record
    | begins found isLatent record way =>
      refine .inr ⟨_, record, fun task request same => ?_⟩
      cases same
      exact ⟨_, found, .inl rfl⟩
    | @reads owner known _ _ _ _ found reads hasBegun record way =>
      refine .inr ⟨_, record, fun task request same => ?_⟩
      cases same
      refine ⟨known, found, .inr (startIsAsked known found fun isLatent => ?_)⟩
      rcases hasBegun with runs | isUnderWay | isManaged
      · cases isLatent.symm.trans runs
      · obtain ⟨known', found', isBegun⟩ := startsAreBegun.frame isAt.frames cache isUnderWay
        cases (show some known = some known' from found.symm.trans found')
        exact isBegun isLatent
      · have is : before.duty? cache = some known.duty := duty?_of_found found
        cases isManned with
        | off isNew nobody => exact isManaged (congrArg Duty.backlog (isNew _ is))
        | on crew =>
          cases crew.is.symm.trans is
          exact crew.hasBegun isLatent
    | asks found runs isFirst isNext record way =>
      refine .inr ⟨_, record, fun task request same => ?_⟩
      cases same
      refine ⟨_, found, .inr (startIsAsked _ found fun isLatent => ?_)⟩
      cases isLatent.symm.trans runs
    | sees found runs shows record noCall => exact .inr ⟨_, record, fun _ _ same => by cases same⟩

theorem Happens.asksFollow (happens : Happens published before after)
    (isManned : IsManned cache before) (startsAreBegun : before.StartsAreBegun)
    (startIsAsked : before.StartIsAsked cache) (asksFollow : before.AsksFollow cache) :
    after.AsksFollow cache := by
  have aged {entries : List (Entry S.Call)} {request : Request}
      (earlier : ∃ known, before.caches[cache]? = some known ∧
      (request = .ensure known.path true ∨ HasAsked cache known entries)) :
      ∃ known, after.caches[cache]? = some known ∧
        (request = .ensure known.path true ∨ HasAsked cache known entries) := by
    obtain ⟨known, found, either⟩ := earlier
    obtain ⟨known', found', ages⟩ := happens.course.grows cache known found
    exact ⟨known', found', either.imp (fun same => by rw [ages.path, same]) (·.ages ages)⟩
  intro newer older task request record
  rcases happens.follows isManned startsAreBegun startIsAsked with same | ⟨entry, more, follows⟩
  · exact aged (asksFollow newer older task request (same.symm.trans record))
  · rw [more] at record
    cases newer with
    | nil =>
      obtain ⟨same, rfl⟩ := List.cons.inj record
      exact aged (follows task request same)
    | cons first newer => exact aged (asksFollow newer older task request (List.cons.inj record).2)

end Starts

/-! ## Runs -/

/-- A cache is traced: what it has seen stems from answers to what it has asked. -/
structure IsTraced (cache : CacheId) (loop : Loop S) : Prop where
  requests : loop.RequestsAreAnswered
  items : loop.ItemsAreAnswers cache
  posed : loop.ReadsArePosed
  reads : loop.ReadsAreAnswered
  views : loop.ViewsAreSaid cache
  seen : loop.IsSeen cache
  start : loop.StartIsAsked cache
  follow : loop.AsksFollow cache

section Runs

variable {service : S.State} {known : Cache}

theorem fresh_isTraced (service : S.State) (cache : CacheId) : (fresh service).IsTraced cache where
  requests task cache query role := by cases role
  items known query outcome found := by cases found
  posed task known point reader rest cache found := by cases found
  reads task known reader rest cache found := by cases found
  views data member := by cases member
  seen := ⟨fun _ => rfl, fun known found => by cases found⟩
  start known found := by cases found
  follow newer older task request record := by cases newer <;> cases record

/-- **In every run each cache is traced.** -/
theorem Reaches.isTraced (run : Reaches published (fresh service) last) (cache : CacheId) :
    last.IsTraced cache := by
  induction run with
  | refl => exact fresh_isTraced service cache
  | @tail before after earlier happens traced =>
    have earlier : Reaches published (fresh service) before := earlier
    have areStacked := Reaches.areStacked earlier (fresh_areStacked service)
    exact {
      requests :=
        happens.requestsAreAnswered earlier.hooksFit (Reaches.requestsStand stands_anything earlier)
        earlier.endedAreBare traced.requests
      items := happens.itemsAreAnswers earlier.hooksFit traced.requests traced.items
      posed := happens.readsArePosed areStacked traced.posed
      reads := happens.readsAreAnswered areStacked traced.posed traced.reads
      views := happens.viewsAreSaid traced.items traced.reads traced.views
      seen := happens.isSeen traced.seen
      start := happens.startIsAsked traced.start
      follow := happens.asksFollow (earlier.isManned cache)
        (Reaches.startsAreBegun earlier (fresh_startsAreBegun service)) traced.start traced.follow }

/-- A worker that deals with a fetch sees what that has returned. -/
theorem Sees.returned {data : Snapshot} {wake : Wake S.Reply} {rest : List (Frame S.Point)}
    {outcome : Outcome Answer} {later : List Item} (sees : Sees cache known loop data)
    (isAt : loop.IsAt task wake (.worker cache .taking) rest)
    (found : loop.caches[cache]? = some known)
    (isFirst : loop.items cache = .fetched outcome :: later) :
    ∃ answer, outcome = .returned answer := by
  have first : ∀ {item : Item} {rest : Backlog}, known.backlog.bind Backlog.take? =
      some (item, rest) →
      item = .fetched outcome := by
    intro item rest taken
    obtain ⟨backlog, has, taken⟩ := Option.bind_eq_some_iff.mp taken
    rw [items_eq found, Cache.items, has, Option.elim_some, (Backlog.take?_eq_some taken).1]
      at isFirst
    exact (List.cons.inj isFirst).1
  obtain ⟨other, wake', frame, rest', isAt', shows⟩ := sees
  cases isAt.turn.symm.trans isAt'.turn
  cases isAt.frames.symm.trans isAt'.frames
  cases shows with
  | looked taken isNone => cases first taken
  | fetched taken made =>
    cases first taken
    exact ⟨_, rfl⟩
  | read reads meant => exact reads.elim

/-- **What a cache has seen is what one answer to one of its requests says**, in every run in which
answers are in kind. Its view is the latest that it has got, or absent as long as it has got none;
each of these is that there is no node, as a look or a read has found, or what a fetch or a read has
returned, and all that the cache has asked comes after its start. Whatever happens then, it gets a
view only if it sees one, which a worker that deals with a fetch does only if that has returned. -/
theorem views_stem_from_answers (run : Reaches published (fresh service) last)
    (found : last.caches[cache]? = some known)
    (areInKind : ∀ answered ∈ answersTo cache last.record, answered.1.admits answered.2 = true) :
    known.data = (last.viewsOf cache).headD (.absent known.path) ∧ known.data.path = known.path ∧
      (∀ data ∈ last.viewsOf cache, Stems cache known (answersTo cache last.record) data) ∧
      (∀ (newer older : List (Entry S.Call)) (task : TaskId) (request : Request),
        last.record = newer ++ .asked cache task request :: older →
          request = .ensure known.path true ∨ HasAsked cache known older) ∧
      (∀ after, Happens published last after → after.viewsOf cache = last.viewsOf cache ∨
        ∃ data, Sees cache known last data ∧ after.viewsOf cache = data :: last.viewsOf cache) ∧
      ∀ (after : Loop S) (task : TaskId) (wake : Wake S.Reply) (rest : List (Frame S.Point))
        (outcome : Outcome Answer) (later : List Item), Happens published last after →
          last.IsAt task wake (.worker cache .taking) rest →
            last.items cache = .fetched outcome :: later →
            (∀ answer, outcome ≠ .returned answer) → after.viewsOf cache = last.viewsOf cache := by
  have traced := run.isTraced cache
  have stems :
      ∀ data ∈ last.viewsOf cache, Stems cache known (answersTo cache last.record) data := by
    intro data member
    obtain ⟨known', found', said⟩ := traced.views data member
    cases found.symm.trans found'
    exact said.stems areInKind
  have views : ∀ after, Happens published last after → after.viewsOf cache = last.viewsOf cache ∨
      ∃ data, Sees cache known last data ∧ after.viewsOf cache = data :: last.viewsOf cache := by
    intro after happens
    refine (happens.viewsOf cache).imp_right ?_
    rintro ⟨known', data, found', sees, more⟩
    cases found.symm.trans found'
    exact ⟨data, sees, more⟩
  have seen := traced.seen.data known found
  refine ⟨seen, ?_, stems, fun newer older task request record => ?_, views, ?_⟩
  · rw [seen]
    cases newest : last.viewsOf cache with
    | nil => rfl
    | cons data older => exact (stems data (newest ▸ List.mem_cons_self)).path
  · obtain ⟨known', found', either⟩ := traced.follow newer older task request record
    cases found.symm.trans found'
    exact either
  · intro after task wake rest outcome later happens isAt isFirst isNone
    rcases views after happens with same | ⟨data, sees, -⟩
    · exact same
    · obtain ⟨answer, returned⟩ := sees.returned isAt found isFirst
      exact absurd returned (isNone answer)

end Runs

end Loop

namespace Late

/-- The node of a cache is read while the cache fetches it, and changes before the fetch ends. -/
def overlapping : List (Command service) :=
  [.make "c" (.text "/a") .null, .start "c" (.bool false), .release [1] (.reply Reply.answered),
    .occur (Event.set "/a" (some ⟨⟨1, 1⟩, [7]⟩)), .release [2] (.reply Reply.answered),
      .rebuild "c",
    .release [4] (.reply Reply.answered), .occur (Event.set "/a" (some ⟨⟨1, 2⟩, [8]⟩)),
    .release [3] (.reply Reply.answered)]

/-- The read and the fetch have both given the cache a view, each its own. -/
theorem overlapping_views_stem :
    (settled overlapping).viewsOf 0 = [.present "/a" ⟨1, 2⟩ [8], .present "/a" ⟨1, 1⟩ [7]] ∧
      ∃ known, (settled overlapping).caches[0]? = some known ∧
        ∀ data ∈ (settled overlapping).viewsOf 0,
          Loop.Stems 0 known (answersTo 0 (settled overlapping).record) data := by
  have run : Loop.Reaches Loop.published (Loop.fresh ({} : State)) (settled overlapping) :=
    Loop.enact_reaches 60 overlapping _ (by simp [overlapping, Loop.published, Command.isPublic])
      (by decide +kernel)
  have views :
      (settled overlapping).viewsOf 0 = [.present "/a" ⟨1, 2⟩ [8], .present "/a" ⟨1, 1⟩ [7]] := by
    decide +kernel
  have areInKind : ∀ answered ∈ answersTo 0 (settled overlapping).record,
      answered.1.admits answered.2 = true := by
    decide +kernel
  have isThere : ((settled overlapping).caches[0]?).isSome = true := by decide +kernel
  obtain ⟨known, found⟩ := Option.isSome_iff_exists.mp isThere
  exact ⟨views, known, found, (Loop.views_stem_from_answers run found areInKind).2.2.1⟩

end Late

end WatchedNode
