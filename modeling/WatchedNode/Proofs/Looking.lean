/-
**What a look leaves behind.**

The task of a look makes one request, and of no other session than that of its cache
(`LooksAreOwn`). While that session is open nobody cancels it (`Carries.looked`). So over a
transport that fails in usual ways only, a look that ends has left the cache's watcher waiting for
its node, or the connection is down.
-/
import WatchedNode.Proofs.Probing
import WatchedNode.Proofs.Retrying
import WatchedNode.Proofs.Loop.Workers
import WatchedNode.Proofs.Store.Aftermath

namespace WatchedNode

open Relation

namespace Loop

/-! ## Tasks without frames -/

section Bare

variable {S : Service} {allowed : Outside S} {before after loop : Loop S}

/-- A task without frames has ended. -/
def BareHaveEnded (loop : Loop S) : Prop :=
  ∀ (task : TaskId) (known : Task S), loop.tasks[task]? = some known → known.frames = [] →
    loop.outcome? task ≠ none

theorem Happens.bareHaveEnded (happens : Happens allowed before after) (turnRuns : before.TurnRuns)
    (endedAreBare : before.EndedAreBare) (bareHaveEnded : before.BareHaveEnded) :
    after.BareHaveEnded := by
  intro task known found bare
  cases happens.inherits found with
  | new unknown frames enters isNew => cases frames.symm.trans bare
  | doomed earlier role was frames finishes =>
    obtain ⟨middle, tasks, rfl⟩ := finishes
    rw [finish_outcome (tasks ▸ earlier) .cancelled]
    exact Option.some_ne_none _
  | kept earlier role frames steady =>
    obtain ⟨outcome, ended⟩ :=
      Option.ne_none_iff_exists'.mp (bareHaveEnded task _ earlier (frames.symm.trans bare))
    rw [happens.outcome endedAreBare ended]
    exact Option.some_ne_none outcome
  | @turn old wake frame rest earlier role isAt same frames =>
    obtain ⟨own, isThere, runs⟩ := Option.map_eq_some_iff.mp (frameTurn_running isAt turnRuns)
    obtain ⟨own', isThere', -, -, ⟨-, isBusy, -⟩ | ⟨next, on, waits, -⟩ | ⟨outcome, -, -, ended⟩⟩ :=
      afterTurn_self frame rest isThere runs
    · exact absurd (frames.symm.trans bare) isBusy
    · rw [waits] at frames
      cases frames.symm.trans bare
    · rw [← same] at isThere'
      rw [outcome?_eq_some.mpr ⟨own', isThere', by rw [ended]; rfl⟩]
      exact Option.some_ne_none outcome

theorem Reaches.bareHaveEnded {service : S.State} (run : Reaches allowed (fresh service) loop) :
    loop.BareHaveEnded := by
  induction run with
  | refl => exact fun _ _ found => by cases found
  | tail earlier happens step =>
    exact happens.bareHaveEnded (Reaches.turnRuns earlier) (Reaches.endedAreBare earlier) step

end Bare

/-! ## Whom a look asks -/

variable {allowed : Outside Sessions.service} {before after loop : Loop Sessions.service}
  {cache : CacheId} {store : Store} {isSlow : Bool} {owner known : Cache} {handle : Handle}
  {point : At} {task : TaskId}

/-- The call is that of a look of the cache at its node: it is to begin, or has come to the cache's
own session. -/
inductive IsLook (cache : CacheId) (owner : Cache) (loop : Loop Sessions.service) : At → Prop
  | begins :
      IsLook cache owner loop ⟨owner.handle,
        .begin (.look (.text owner.path) (some (.cache cache)))⟩
  | asks {handle : Handle} {options : SessionOptions} {point : Point}
      (own : owner.handle = some handle) (has : loop.HasOptions handle options)
      (aim : point.aim options.root =
        .looking (Key.ofValue options.root (.text owner.path)) (.cache cache)) :
      IsLook cache owner loop ⟨some handle, point⟩

theorem IsLook.later (isLook : before.IsLook cache owner point) (ages : owner.Ages known)
    (kept : ∀ handle options, before.HasOptions handle options → after.HasOptions handle options) :
    after.IsLook cache known point := by
  cases isLook with
  | begins =>
    rw [← ages.handle, ← ages.path]
    exact .begins
  | asks own has aim =>
    rw [← ages.path] at aim
    exact .asks (ages.handle.trans own) (kept _ _ has) aim

theorem IsLook.isOwn (isLook : loop.IsLook cache owner point) : point.handle = owner.handle := by
  cases isLook with
  | begins => rfl
  | asks own => exact own.symm

/-- What a look is there for, at its session. -/
theorem IsLook.aim {session : Session} {here : Point}
    (isLook : loop.IsLook cache owner ⟨some handle, here⟩)
    (found : loop.service.sessions[handle]? = some session) :
    here.aim session.options.root =
      .looking (Key.ofValue session.options.root (.text owner.path)) (.cache cache) := by
  generalize place : At.mk (some handle) here = point at isLook
  cases isLook with
  | begins =>
    obtain ⟨-, rfl⟩ := At.mk.inj place
    rfl
  | asks own has aim =>
    obtain ⟨same, rfl⟩ := At.mk.inj place
    cases same
    obtain ⟨session', found', rfl⟩ := has
    cases found.symm.trans found'
    exact aim

/-- The tasks of looks make the requests of their caches. -/
def LooksAreOwn (loop : Loop Sessions.service) : Prop :=
  ∀ (task : TaskId) (known : Task Sessions.service)
  (cache : CacheId), loop.tasks[task]? = some known →
    known.role = .request cache .look → known.frames = [] ∨
      ∃ owner point, loop.caches[cache]? = some owner ∧ known.frames = [.service point] ∧
        loop.IsLook cache owner point

/-- A look that goes on is still that of its cache. -/
theorem IsLook.goesOn (isKept : before.IsKept) {wake : Wake Plan}
    {rest : List (Frame At)} {next : At} (isAt : before.IsAt task wake (.service point) rest)
    (isLook : before.IsLook cache owner point)
    (goesOn :
      (Sessions.resume (before.moment task) point wake before.service).verdict.next? = some next) :
    before.IsLook cache owner next := by
  rcases Sessions.resume_eq (before.moment task) point wake before.service with
    ⟨handle, here, session, found, rfl, resumed⟩ | ⟨-, outcome, resumed⟩
  · rw [resumed] at goesOn
    dsimp only at goesOn
    rw [Sessions.verdictAt_next?] at goesOn
    obtain ⟨stands, isNext, rfl⟩ := Option.map_eq_some_iff.mp goesOn
    refine .asks isLook.isOwn.symm ⟨session, found, rfl⟩ ?_
    have isSound : here.IsSound := isKept.isSound (isAt.at? : before.roll.stands task = _)
    have isLeft : wake ≠ .cancelled := by
      rintro rfl
      rw [Sessions.turn_cancelled, Session.cancelled_eq] at isNext
      cases isNext
    cases Sessions.turn_goesOn (before.moment task) handle before.service.isSlow
      before.service.store session
      isSound isLeft with
    | goOn isThere same =>
      cases isThere.symm.trans isNext
      exact same.trans (isLook.aim found)
    | finish ends =>
      rw [ends] at isNext
      cases isNext
  · rw [resumed] at goesOn
    cases goesOn

theorem Happens.looksAreOwn (happens : Happens allowed before after)
    (areStacked : before.AreStacked) (isKept : before.IsKept) (looksAreOwn : before.LooksAreOwn) :
    after.LooksAreOwn := by
  have grows := happens.course.grows
  have kept : ∀ handle options, before.HasOptions handle options →
      after.HasOptions handle options :=
    fun _ _ => happens.hasOptions areStacked isKept
  have later : ∀ {cache : CacheId} {owner : Cache}
      {point : At}, before.caches[cache]? = some owner →
      before.IsLook cache owner point →
        ∃ owner, after.caches[cache]? = some owner ∧ after.IsLook cache owner point := by
    intro cache owner point isThere isLook
    obtain ⟨owner', isThere', ages⟩ := grows cache owner isThere
    exact ⟨owner', isThere', isLook.later ages kept⟩
  intro task known cache found role
  cases happens.inherits found with
  | new unknown frames enters isNew =>
    rw [role] at enters
    cases enters with
    | opening isOwn isOpening =>
      rcases isOwn with isCaller | ⟨owner, isDeed⟩
      · cases isCaller
      · cases isDeed
    | @request _ owner _ isThere => exact .inr ⟨owner, _, isThere, frames, .begins⟩
  | doomed earlier role' was frames => exact .inl frames
  | kept earlier role' frames steady =>
    rcases looksAreOwn task _ cache earlier (role'.symm.trans role) with past
      | ⟨owner, point, isThere, same, isLook⟩
    · exact .inl (frames.trans past)
    · obtain ⟨owner', isThere', isLook'⟩ := later isThere isLook
      exact .inr ⟨owner', point, isThere', frames.trans same, isLook'⟩
  | @turn old wake frame rest earlier role' isAt _ frames =>
    obtain ⟨old', earlier', stack⟩ := Option.map_eq_some_iff.mp isAt.frames
    cases earlier.symm.trans earlier'
    rcases looksAreOwn task _ cache earlier (role'.symm.trans role) with past
      | ⟨owner, point, isThere, same, isLook⟩
    · cases past.symm.trans stack
    · cases same.symm.trans stack
      have turn : before.inTurn.frameTurn task (.service point) wake =
        before.inTurn.serviceTurn task point wake := rfl
      rw [turn] at frames
      rcases serviceTurn_next task point wake before.inTurn with
        ⟨outcome, -, finishes⟩ | ⟨next, isNext, goesOn⟩
      · rw [finishes] at frames
        exact .inl frames
      · rw [goesOn] at frames
        obtain ⟨owner', isThere', isLook'⟩ := later isThere (isLook.goesOn isKept isAt isNext)
        exact .inr ⟨owner', next, isThere', frames, isLook'⟩

theorem Reaches.looksAreOwn (run : Reaches allowed (unconnected store isSlow) loop) :
    loop.LooksAreOwn := by
  induction run with
  | refl => exact fun _ _ _ found => by cases found
  | tail earlier happens step =>
    exact happens.looksAreOwn (Reaches.areStacked earlier (fresh_areStacked _))
      (Reaches.isKept earlier) step

/-! ## Looks that end -/

section Ending

variable {wake : Wake Plan} {here : Point} {rest : List (Frame At)} {session earlier : Session}
  {key : String}

/-- The turn in which a look ends leaves its watcher waiting, or the connection down. -/
theorem SessionTurns.looked (turns : SessionTurns task wake handle here earlier before before.step)
    (carries : Carries usual before before.step) (areSpared : before.AreSpared)
    (isKept : before.IsKept) (isLater : before.step.IsKept)
    (isAt : before.IsAt task wake (.service ⟨some handle, here⟩) rest)
    (aim : here.aim earlier.options.root = .looking (.ok key) (.cache cache))
    (isOver : before.step.at? task = none)
    (found : before.step.service.sessions[handle]? = some session) (isFit : session.IsFit) :
    (∃ task index, before.step.Watches handle ⟨key, .cache cache, index⟩ task) ∨
      session.isDown = true := by
  obtain ⟨listeners, found'⟩ := turns.session
  cases found.symm.trans found'
  have options : _ = earlier.options := turns.accounts.options
  have isOpen : earlier.isOpen = true := by
    cases isOpen : earlier.isOpen with
    | true => rfl
    | false => cases isFit.isOpen.symm.trans (turns.accounts.closed isOpen)
  have wasFit : earlier.IsFit :=
    ⟨isOpen, options ▸ isFit.isLimited, options ▸ isFit.isTimed⟩
  have isLeft : wake ≠ .cancelled := areSpared.isLeft isAt fun ⟨session', found', closed⟩ => by
    cases turns.found.symm.trans found'
    cases isOpen.symm.trans closed
  have isOver :
      (Sessions.turn (before.moment task) handle before.service.isSlow here wake
        before.service.store
      earlier).2.2.2.next? = none :=
    Option.map_eq_none_iff.mp (turns.turns.self.symm.trans isOver)
  have may : ∀ errand call result, here.made? = some (errand, call) →
      Sessions.heard here wake before.service.store = some result → usual call result = true := by
    intro errand call result isMade heard
    obtain ⟨errand', call', isMade', hears⟩ := turns.hears isAt heard
    cases isMade.symm.trans isMade'
    exact carries.may hears
  refine (Sessions.turn_looks (before.moment task) handle before.service.isSlow aim
    (isKept.isSound turns.stands)
    wasFit isLeft may isOver).imp_left fun ⟨task', isListed⟩ => ?_
  obtain ⟨⟨index, isWatch⟩, -⟩ := (isLater.sessions found).watch isListed
  exact ⟨task', index, isWatch⟩

/-- **A look that has ended has left the cache's watcher waiting for its node, or the connection is
down.** -/
theorem Carries.looked (run : Carried usual (unconnected store isSlow) before)
    (carries : Carries usual before after) (isThere : before.caches[cache]? = some owner)
    (own : owner.handle = some handle) (has : before.service.sessions[handle]? = some earlier)
    {look : Task Sessions.service} (isTask : before.tasks[task]? = some look)
    (role : look.role = .request cache .look) (isOpen : before.outcome? task = none)
    {outcome : Outcome Answer} (ended : after.outcome? task = some outcome)
    (found : after.service.sessions[handle]? = some session) (isFit : session.IsFit)
    (isKey : Key.ofValue earlier.options.root (.text owner.path) = .ok key) :
    (∃ task index, after.Watches handle ⟨key, .cache cache, index⟩ task) ∨
      session.isDown = true := by
  have reaches := Carried.run run
  have areStacked := Reaches.areStacked reaches (fresh_areStacked _)
  have isKept : before.IsKept := Reaches.isKept reaches
  have later := reaches.tail carries.happens
  have areSpared := Reaches.areSpared reaches
  have isLeft : ¬ Sessions.IsClosed handle before.service := fun closed =>
    (Sessions.IsOpen.not_closed ⟨session, found, isFit.isOpen⟩)
      (carries.happens.closed areStacked isKept closed)
  rcases Reaches.looksAreOwn reaches task look cache isTask role with bare
    | ⟨owner', point, isThere', frames, isLook⟩
  · exact absurd isOpen (Reaches.bareHaveEnded reaches task look isTask bare)
  cases isThere.symm.trans isThere'
  have isOver : after.at? task = none := by
    refine Option.eq_none_iff_forall_ne_some.mpr fun point stands => ?_
    cases ended.symm.trans (open_of_stands (Reaches.endedAreBare later) stands)
  obtain ⟨place, here⟩ := point
  obtain rfl : place = some handle := isLook.isOwn.trans own
  cases carries.happens.ends isOpen ended with
  | doomed isBetween was =>
    -- Nobody cancels it whose session is open.
    obtain ⟨known, found', status⟩ := Option.map_eq_some_iff.mp was
    cases isTask.symm.trans found'
    exact absurd (.inr ⟨look, isTask, by rw [status]; trivial⟩)
      (areSpared.not_cancelled isTask frames isLeft)
  | @turn wake frame isAt finishes =>
    obtain ⟨known, found', stack⟩ := Option.map_eq_some_iff.mp isAt.frames
    cases isTask.symm.trans found'
    cases frames.symm.trans stack
    have step : before.step = afterTurn task (.service (At.mk (some handle) here)) []
      (before.inTurn.serviceTurn task (At.mk (some handle) here) wake) := isAt.step
    have same : before.inTurn.frameTurn task (.service (At.mk (some handle) here)) wake =
      before.inTurn.serviceTurn task (At.mk (some handle) here) wake := rfl
    rw [same, ← step] at carries later isOver found
    rw [same, ← step]
    refine (isAt.sessionTurns areStacked isKept has).looked carries areSpared isKept
      (Reaches.isKept later) isAt ?_
      isOver found isFit
    rw [← isKey]
    exact isLook.aim has

end Ending

end Loop

end WatchedNode
