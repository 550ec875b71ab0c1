/-
**A cache recovers from outages.**

A watch is lost when it has been told of a change, or when its poll could not reach the store. The
first makes the cache look at its node, the second leaves the connection down, and so does a look
that fails. A cache that has `Joined` its session while the connection was up, or not known yet,
knows of its session's connection what the session knows (`ListensOn.knows`), and reads its node
again when it comes back (`Happens.comesBack`). So it is never left alone (`recovers`): it is cut
off and will read its node when the connection comes back, or has something to do, or its watcher
waits.

The invariant is about lulls (`Joined.isGuarded`): in a lull the watcher waits, or the connection is
down.
-/
import WatchedNode.Proofs.Looking
import WatchedNode.Proofs.Manning
import WatchedNode.Proofs.Paths
import WatchedNode.Proofs.Loop.Summons

namespace WatchedNode

open Relation

/-- A connection that is down is one that is neither up nor not known yet. -/
theorem Session.isDown_eq (session : Session) :
    session.isDown = !Link.isUpOrUnset session.link := by
  unfold Session.isDown
  cases session.link <;> rfl

namespace Loop

/-! ## What is said of the connection -/

section Tidings

variable {S : Service} {before : Loop S} {cache : CacheId} {task : TaskId} {wake : Wake S.Reply}
  {point : S.Point} {rest : List (Frame S.Point)}

/-- A cache that is told that its connection is there, and believes that it is not, is to read its
node. -/
theorem resync_mem_summons {place : Handle} {link : Link} (isUp : link.isUp = true)
    {effects : List (Effect S.Call S.Point S.Reply)}
    (tells : .tell place (.cache cache) link ∈ effects) :
    .resync ∈ summons cache false effects := by
  induction effects with
  | nil => cases tells
  | cons effect rest step =>
    rcases List.mem_cons.mp tells with rfl | later
    · simp [summons, isUp]
    · cases effect with
      | tell other listener known =>
        cases listener with
        | cache owner =>
          unfold summons
          split
          · cases known.isUp with
            | true => simp
            | false => simpa using step later
          · exact step later
        | named name => exact step later
      | fire watcher key news =>
        cases watcher with
        | cache owner => simpa [summons] using step later
        | named name => exact step later
      | _ => exact step later

/-- The caches after the turn of a call are those after what the service does. -/
theorem IsAt.caches (isAt : before.IsAt task wake (.service point) rest) :
    before.step.caches = (before.inTurn.react task point wake).caches := by
  obtain ⟨tickets, alarms, turn⟩ := serviceTurn_loop before.inTurn task point wake
  have same : (before.inTurn.frameTurn task (.service point) wake).1 =
      { before.inTurn.react task point wake with tickets, alarms } := turn
  rw [isAt.step, afterTurn, (move_keeps _ task rest _).2.1,
    (noteEnd_tasks task (.service point) _ _).2, same]

/-- What alerts the cache in the turn of a call leaves a prompt behind. -/
theorem IsAt.prompts (isAt : before.IsAt task wake (.service point) rest)
    (believes : before.Believes)
    (alerts : Alerts cache (S.resume (before.moment task) point wake before.service).effects) :
    ¬ before.step.IsUnprompted cache := by
  have earlier : before.inTurn.Believes := believes.of_eq rfl rfl
  unfold IsUnprompted
  rw [isAt.caches]
  exact alerts.prompts
    (setService_believes (S.resume (before.moment task) point wake before.service).state earlier)

end Tidings

open Sessions

variable {allowed : Outside Sessions.service} {before after loop : Loop Sessions.service}
  {store : Store} {isSlow : Bool} {handle : Handle} {cache : CacheId} {known : Cache}
  {link : Option Link}

/-- What a session knows of its connection changes only in turns of its own. -/
theorem Happens.link_turned (happens : Happens allowed before after)
    (run : Reaches allowed (unconnected store isSlow) before) (handle : Handle) :
    Sessions.link? handle after.service = Sessions.link? handle before.service ∨
      ∃ (task : TaskId) (wake : Wake Plan) (point : Point) (rest : List (Frame At))
      (session : Session),
        before.IsAt task wake (.service ⟨some handle, point⟩) rest ∧ after = before.step ∧
          SessionTurns task wake handle point session before after := by
  have isKept : before.IsKept := Reaches.isKept run
  rcases happens.turned (Reaches.areStacked run (fresh_areStacked _)) isKept with
    ⟨task, wake, place, point, rest, session, isAt, same, turns⟩ | ⟨task, point, idles⟩ | chores
  · by_cases here : place = handle
    · subst here
      exact .inr ⟨task, wake, point, rest, session, isAt, same, turns⟩
    · refine .inl ((turns.minds.link handle).trans ?_)
      unfold Sessions.link?
      dsimp only
      rw [List.getElem?_set_ne here]
  · exact .inl (idles.minds.link handle)
  · exact .inl (Chores.leaves_watches chores isKept handle).link

/-- The cache is given to read its node again. -/
def IsSummoned (cache : CacheId) (before after : Loop Sessions.service) : Prop :=
  ∃ more, after.items cache = before.items cache ++ more ∧ .resync ∈ more

/-- A cache that runs has a queue. -/
theorem Reaches.has_backlog {S : Service} {allowed : Outside S} {service : S.State} {loop : Loop S}
    (run : Reaches allowed (fresh service) loop) (isThere : loop.caches[cache]? = some known)
    (runs : known.phase = .started) : ∃ backlog, known.backlog = some backlog := by
  cases Reaches.isManned run cache with
  | off isNew => cases (congrArg Duty.phase (isNew _ (duty?_of_found isThere))).symm.trans runs
  | on crew =>
    cases (duty?_of_found isThere).symm.trans crew.is
    exact ⟨_, crew.has⟩

/-- **When the connection comes back** a cache that listens, runs, and knows that it was down is to
read its node. -/
theorem Happens.comesBack (happens : Happens allowed before after)
    (run : Reaches allowed (unconnected store isSlow) before)
    (hears : Hears handle cache link before.service) (wasDown : Link.isUpOrUnset link = false)
    (isUp : Link.isUpOrUnset (Sessions.link? handle after.service) = true)
    (found : before.caches[cache]? = some known) (runs : known.phase = .started)
    (isCut : known.connected = false) :
    IsSummoned cache before after := by
  obtain ⟨session, isThere, rfl, isListed⟩ := hears
  rcases happens.link_turned run handle with same
    | ⟨task, wake, point, rest, session', isAt, rfl, turns⟩
  · rw [same, link?_of_found isThere, wasDown] at isUp
    cases isUp
  cases isThere.symm.trans turns.found
  have speaks :=
    turn_speaks (before.moment task) handle before.service.isSlow point wake
      before.service.store session
  rw [turns.link] at isUp
  rcases speaks.tellings with ⟨same, -⟩ | ⟨now, -, new, told⟩
  · rw [same, wasDown] at isUp
    cases isUp
  rw [new] at isUp
  have tells :
      .tell handle (.cache cache) now ∈ (before.reaction task wake handle point).effects := by
    obtain ⟨effects, -⟩ := @reaction_eq before handle task wake point session turns.found
    rw [effects]
    have member :
        .tell handle (.cache cache) now ∈ tellings (Sessions.turn (before.moment task) handle
        before.service.isSlow point wake before.service.store session).2.2.1 :=
      told ▸ List.mem_map_of_mem isListed
    exact List.mem_of_mem_filter member
  obtain ⟨backlog, has⟩ := Reaches.has_backlog run found runs
  have isOn : IsOn cache false (before.items cache) before.inTurn :=
    ⟨known, backlog, found, runs, isCut,
      has, by rw [items_eq found, Cache.items, has, Option.elim_some]⟩
  refine ⟨_, ?_, @resync_mem_summons Sessions.service cache handle now isUp _ tells⟩
  show ((before.step.caches[cache]?).map Cache.items).getD [] = _
  rw [isAt.caches]
  have told :
      IsOn cache false (before.items cache)
        (before.inTurn.setService (Sessions.resume (before.moment task)
      ⟨some handle, point⟩ wake before.service).state) := isOn.of_caches rfl
  exact told.perform _

/-- Who is given to read its node again has a prompt to look at it. -/
theorem IsUnprompted.not_summoned (unprompted : after.IsUnprompted cache) :
    ¬ IsSummoned cache before after := by
  rintro ⟨more, items, member⟩
  obtain ⟨known, isThere, -, backlog, has, plain⟩ := unprompted
  have isQueued : .resync ∈ after.items cache := items ▸ List.mem_append_right _ member
  rw [items_eq isThere, Cache.items, has, Option.elim_some] at isQueued
  cases plain _ isQueued

/-- A connection that a cache knows to be down stays so while nothing prompts the cache. -/
theorem Happens.stays_down (happens : Happens allowed before after)
    (run : Reaches allowed (unconnected store isSlow) before)
    (hears : Hears handle cache link before.service) (wasDown : Link.isUpOrUnset link = false)
    (found : before.caches[cache]? = some known) (runs : known.phase = .started)
    (isCut : known.connected = false) (unprompted : after.IsUnprompted cache) :
    Link.isUpOrUnset (Sessions.link? handle after.service) = false := by
  by_contra isBack
  rw [Bool.not_eq_false] at isBack
  exact unprompted.not_summoned (happens.comesBack run hears wasDown isBack found runs isCut)

/-! ## Caches that have joined their sessions -/

/-- A run over the usual transport in which the cache has begun to listen to the session when the
connection was up, or not known yet. -/
inductive Joined (store : Store) (isSlow : Bool) (handle : Handle) (cache : CacheId) :
    Loop Sessions.service → Prop
  | begins {before after : Loop Sessions.service} {link : Option Link}
      (run : Carried usual (unconnected store isSlow) before) (carries : Carries usual before after)
      (begins : BeginsToListen cache before after) (hears : Hears handle cache link after.service)
      (isUp : Link.isUpOrUnset link = true) : Joined store isSlow handle cache after
  | goesOn {before after : Loop Sessions.service} (joined : Joined store isSlow handle cache before)
      (carries : Carries usual before after) : Joined store isSlow handle cache after

theorem Joined.run (joined : Joined store isSlow handle cache loop) :
    Carried usual (unconnected store isSlow) loop := by
  induction joined with
  | begins run carries => exact run.tail carries
  | goesOn _ carries step => exact step.tail carries

theorem Joined.listensOn (joined : Joined store isSlow handle cache loop) :
    ∃ link, Link.isUpOrUnset link = true ∧ loop.ListensOn handle cache link := by
  induction joined with
  | @begins _ after link run carries _ hears isUp =>
    obtain ⟨known, found, -, begun⟩ :=
      (Reaches.attuned (Carried.run (run.tail carries))).2.own hears
    exact ⟨link, isUp, ⟨known, found, begun⟩, fun _ _ _ => ⟨link, hears, fun _ => rfl⟩⟩
  | goesOn joined carries step =>
    obtain ⟨link, isUp, listensOn⟩ := step
    exact ⟨link, isUp,
      Reaches.listensOn (Carried.run joined.run) (.single carries.happens) listensOn⟩

/-- Such a cache knows of its session's connection what the session knows. -/
theorem ListensOn.knows (listensOn : loop.ListensOn handle cache link)
    (isUp : Link.isUpOrUnset link = true) (run : Reaches allowed (unconnected store isSlow) loop)
    (found : loop.caches[cache]? = some known) (runs : known.phase = .started) :
    ∃ now, Hears handle cache now loop.service ∧ known.connected = Link.isUpOrUnset now := by
  obtain ⟨believes, attuned⟩ := run.attuned
  obtain ⟨now, hears, isOld⟩ := listensOn.hears known found (by simp [runs])
  refine ⟨now, hears, ?_⟩
  rw [believes.flag cache known found]
  rcases attuned.told hears found runs with untold | told
  · rw [untold, isOld untold, isUp]
    rfl
  · rw [told]

/-! ## What becomes of watches in lulls -/

/-- Who is told of a change is alerted. -/
theorem alerts_of_news {effects : List SessionEffect} {key : String} {node : Option Record}
    (member : ⟨.cache cache, key, node⟩ ∈ newsIn effects) :
    @Alerts Sessions.service cache effects := by
  obtain ⟨effect, isThere, isNews⟩ := List.mem_filterMap.mp member
  refine ⟨effect, isThere, ?_⟩
  cases effect with
  | fire watcher key news =>
    cases isNews
    rfl
  | _ => cases isNews

/-- A call over the usual transport fails with a fault of the store. -/
theorem Carries.heard_fault (carries : Carries usual before before.step) {session : Session}
    (isThere : before.service.sessions[handle]? = some session) {task : TaskId} {wake : Wake Plan}
    {point : Point} {rest : List (Frame At)}
    (isAt : before.IsAt task wake (.service ⟨some handle, point⟩) rest) {error : Error}
    (isHeard : Sessions.heard point wake before.service.store = some (.error error)) :
    ∃ fault message payload, error = .store fault message payload := by
  obtain ⟨errand, call, isMade⟩ := Sessions.made_of_heard isHeard
  have hearing : before.hears? = some ⟨handle, errand, call, .error error⟩ :=
    hears?_eq_some.mpr ⟨task, wake, point, rest, session, isAt, isThere, isMade, isHeard⟩
  exact isFault_of_faults (faults_of_usual (carries.may hearing))

/-- **A watch that ends leaves a prompt behind, or the connection down.** -/
theorem Carries.keeps_watch (run : Carried usual (unconnected store isSlow) before)
    (carries : Carries usual before after) {session : Session}
    (found : after.service.sessions[handle]? = some session) (isOpen : session.isOpen = true)
    {vigil : Vigil} {task : TaskId} (isWatch : before.Watches handle vigil task)
    (isOwn : vigil.watcher = .cache cache) (unprompted : after.IsUnprompted cache) :
    after.Watches handle vigil task ∨ session.isDown = true := by
  have reaches := Carried.run run
  have isKept : before.IsKept := Reaches.isKept reaches
  have isLeft : ¬ Sessions.IsClosed handle after.service :=
    Sessions.IsOpen.not_closed ⟨session, found, isOpen⟩
  have wasLeft : ¬ Sessions.IsClosed handle before.service := fun closed =>
    isLeft (carries.happens.closed (Reaches.areStacked reaches (fresh_areStacked _)) isKept closed)
  have later : Sessions.link? handle after.service = session.link := link?_of_found found
  cases carries.happens.watch_course reaches isLeft isWatch with
  | goesOn stays => exact .inl stays
  | @ends wake point outcome isAt ended ends =>
    obtain ⟨here, stands, -⟩ := id isWatch
    obtain rfl : after = before.step := by
      cases carries.happens.ends (open_of_stands (Reaches.endedAreBare reaches) stands) ended with
      | doomed isBetween => cases isBetween.symm.trans isAt.turn
      | turn isAt' =>
        cases isAt.turn.symm.trans isAt'.turn
        cases isAt.frames.symm.trans isAt'.frames
        exact isAt.step.symm
    generalize hears : Sessions.heard point wake before.service.store = heard at ends
    generalize told : newsIn (before.reaction task wake handle point).effects = news at ends
    generalize knows : Sessions.link? handle before.step.service = now at ends later
    cases ends with
    | @tells node isNews =>
      have member : (⟨.cache cache, vigil.key, node⟩ : News) ∈
          newsIn (before.reaction task wake handle point).effects := by
        rw [told, isOwn]
        exact List.mem_singleton_self _
      exact absurd unprompted
        (isAt.prompts (Reaches.isRegular reaches).believes (alerts_of_news member))
    | suspends isFailure =>
      refine .inr ?_
      rw [Session.isDown, ← later]
      rfl
    | @fails error isHeard isOther =>
      obtain ⟨earlier, isThere⟩ := isKept.isThere isWatch
      obtain ⟨fault, message, payload, rfl⟩ :=
        carries.heard_fault isThere isAt (hears.trans isHeard)
      exact absurd rfl (isOther fault message payload)
    | cancelled isCancelled =>
      exact absurd isCancelled ((Reaches.areSpared reaches).isLeft isAt wasLeft)

/-! ## Lulls -/

/-- A session that is fit has been so, with the same options. -/
theorem Happens.wasFit (happens : Happens allowed before after)
    (run : Reaches allowed (unconnected store isSlow) before) {earlier session : Session}
    (isThere : before.service.sessions[handle]? = some earlier)
    (found : after.service.sessions[handle]? = some session) (isFit : session.IsFit) :
    earlier.IsFit ∧ session.options = earlier.options := by
  have areStacked : before.AreStacked := Reaches.areStacked run (fresh_areStacked _)
  have isKept : before.IsKept := Reaches.isKept run
  obtain ⟨session', found', options⟩ := happens.hasOptions areStacked isKept ⟨earlier, isThere, rfl⟩
  cases found.symm.trans found'
  refine ⟨⟨isOpen_of_found isThere fun closed => ?_, options ▸ isFit.isLimited,
    options ▸ isFit.isTimed⟩, options⟩
  exact Sessions.IsOpen.not_closed ⟨session, found, isFit.isOpen⟩
    (happens.closed areStacked isKept closed)

/-- **In a lull the cache's watcher waits for its node, or the connection is down.** -/
theorem Joined.isGuarded (joined : Joined store isSlow handle cache loop)
    (isThere : loop.caches[cache]? = some known) {session : Session}
    (found : loop.service.sessions[handle]? = some session) (isFit : session.IsFit) {key : String}
    (isKey : Key.ofValue session.options.root (.text known.path) = .ok key)
    (lull : loop.IsLull cache) :
    (∃ task index, loop.Watches handle ⟨key, .cache cache, index⟩ task) ∨
      session.isDown = true := by
  induction joined generalizing known session with
  | begins run carries begins =>
    -- The start that lets the cache listen is still under way.
    have reaches := Carried.run run
    rcases carries.happens.hasStarted lull.hasStarted with started | ⟨prompted, -⟩
    · obtain ⟨task, isStarting, -⟩ :=
        begins.isStarting (Reaches.turnRuns reaches)
          (Reaches.areStacked reaches (fresh_areStacked _))
      exact absurd isStarting (Reaches.start_isOver reaches started StartStage.noConfusion)
    · exact absurd lull.isUnprompted prompted
  | @goesOn before after joined carries step =>
    have reaches := Carried.run joined.run
    obtain ⟨link, isUp, listensOn⟩ := joined.listensOn
    obtain ⟨old, wasThere, begun⟩ := listensOn.hasBegun
    obtain ⟨known', isThere', ages⟩ := carries.happens.course.grows cache old wasThere
    cases isThere.symm.trans isThere'
    obtain ⟨known', isThere', isActive, -⟩ := id lull.isUnprompted
    cases isThere.symm.trans isThere'
    rw [Cache.isActive, Bool.and_eq_true] at isActive
    have ran : old.phase = .started := ages.isStarted begun (of_decide_eq_true isActive.1)
    obtain ⟨now, hears, believes⟩ := listensOn.knows isUp reaches wasThere ran
    obtain ⟨earlier, wasFound, rfl, -⟩ := id hears
    obtain ⟨wasFit, options⟩ := carries.happens.wasFit reaches wasFound found isFit
    have wasKey : Key.ofValue earlier.options.root (.text old.path) = .ok key := by
      rw [← options, ← ages.path]
      exact isKey
    rcases carries.happens.isLull (Reaches.isRegular reaches) lull with
      wasLull | ⟨task, path, watcher, outcome, asked, isOpen, ended⟩
    · rcases step wasThere wasFound wasFit wasKey wasLull with ⟨task, index, isWatch⟩ | wasDown
      · exact (carries.keeps_watch joined.run found isFit.isOpen isWatch rfl
          lull.isUnprompted).imp_left
          fun stays => ⟨task, index, stays⟩
      · rw [Session.isDown_eq, Bool.not_eq_true'] at wasDown
        have isDown :=
          carries.happens.stays_down reaches hears wasDown wasThere ran (believes.trans wasDown)
          lull.isUnprompted
        rw [link?_of_found found] at isDown
        exact .inr (by rw [Session.isDown_eq, isDown]; rfl)
    · obtain ⟨request, isTask, role⟩ :=
        (Reaches.askedStand (reaches.tail carries.happens)).look asked
      obtain ⟨look, wasTask⟩ := (carries.happens.ends isOpen ended).isThere
      obtain ⟨request', isTask', role'⟩ := carries.happens.remains.roles task look wasTask
      cases isTask.symm.trans isTask'
      obtain ⟨owner, isOwner, own, -⟩ := (Reaches.attuned reaches).2.own hears
      cases wasThere.symm.trans isOwner
      exact carries.looked joined.run wasThere own wasFound wasTask (role'.symm.trans role) isOpen
        ended found isFit
        wasKey

/-! ## Recovery -/

/-- The connection of the session is down, which the cache knows, and it is being probed. Whenever
it comes back, and the cache still runs, the cache is to read its node. -/
structure IsCutOff (handle : Handle) (cache : CacheId) (loop : Loop Sessions.service) : Prop where
  isDown : Link.isUpOrUnset (Sessions.link? handle loop.service) = false
  isKnown : ∃ known, loop.caches[cache]? = some known ∧ known.connected = false
  isProbed : ∃ task, loop.IsProbing handle task
  comesBack {before after : Loop Sessions.service} {known : Cache} : Reaches lenient loop before →
    Happens lenient before after → Link.isUpOrUnset (Sessions.link? handle before.service) = false →
      Link.isUpOrUnset (Sessions.link? handle after.service) = true →
        before.caches[cache]? = some known →
        known.phase = .started → IsSummoned cache before after

/-- The cache has something to do: an item is in its queue, its worker deals with one, or a request
of it is under way. -/
inductive IsRefreshing (cache : CacheId) (loop : Loop Sessions.service) : Prop
  | queued {item : Item} (member : item ∈ loop.items cache)
  | worked {worker : TaskId} {task : Task Sessions.service}
      (isTask : loop.tasks[worker]? = some task) (role : task.role = .worker cache)
      (isBusy : task.frames ≠ [.worker cache .taking]) (isOpen : loop.outcome? worker = none)
  | asked {request : TaskId} {task : Task Sessions.service} {query : Query}
      (isTask : loop.tasks[request]? = some task) (role : task.role = .request cache query)
      (isOpen : loop.outcome? request = none)

/-- The session has a watch for the cache's watcher and the key in its account, and that goes on. -/
def IsArmed (handle : Handle) (key : String) (cache : CacheId)
    (loop : Loop Sessions.service) : Prop :=
  ∃ session task index, loop.service.sessions[handle]? = some session ∧
    ⟨key, .cache cache, task⟩ ∈ session.watches ∧
      loop.Watches handle ⟨key, .cache cache, index⟩ task ∧
      loop.outcome? task = none

/-- There is a lull where a cache that runs, and believes to be connected, has nothing to do. -/
theorem isLull_of_not_isRefreshing (run : Reaches lenient (unconnected store isSlow) loop)
    (isThere : loop.caches[cache]? = some known) (runs : known.phase = .started)
    (isConnected : known.connected = true) (own : known.handle = some handle)
    (isOpen : ¬ Sessions.IsClosed handle loop.service) (hasStarted : loop.HasStarted cache)
    (isFree : ¬ loop.IsRefreshing cache) : loop.IsLull cache := by
  obtain ⟨backlog, has⟩ := Reaches.has_backlog run isThere runs
  refine ⟨⟨known, isThere, ?_, backlog, has, fun item member => ?_⟩, hasStarted,
    fun worker task isTask role => ?_,
    fun request path watcher asked => ?_⟩
  · simp [Cache.isActive, Cache.isRunning, runs, isConnected]
  · have isQueued : item ∈ loop.items cache := by
      rwa [items_eq isThere, Cache.items, has, Option.elim_some]
    exact absurd (.queued isQueued) isFree
  · by_contra isBusy
    exact isFree
      (.worked isTask role isBusy (Reaches.worker_lives run isThere own isOpen runs isTask role))
  · obtain ⟨task, isTask, role⟩ := (Reaches.askedStand run).look asked
    by_contra isPending
    refine isFree
      (.asked isTask role (Option.eq_none_iff_forall_ne_some.mpr fun outcome ended => ?_))
    exact isPending ⟨outcome, ended⟩

/-- A connection that is down is being probed, if its session is fit. -/
theorem Carried.isProbed (run : Carried usual (unconnected store isSlow) loop) {session : Session}
    (found : loop.service.sessions[handle]? = some session) (isFit : session.IsFit)
    (isDown : session.isDown = true) :
    ∃ task, loop.IsProbing handle task := by
  have probing :=
    ((run.mono fun _ _ => faults_of_usual).areProbed handle session found).probes isFit.isOpen
    isFit.isTimed isDown
  obtain ⟨task, probe⟩ := Option.ne_none_iff_exists'.mp probing
  have reaches := Carried.run run
  exact ⟨task,
    (Reaches.isProbing_iff reaches).mpr (((Reaches.isKept reaches).sessions found).probe probe).1⟩

/-- **A cache recovers from outages.** Whatever happens over a transport that fails in the usual
ways only, where nobody outside cancels anything, a cache is never left alone that has begun to
listen to its session when the connection was up, or not known yet. As long as the session is open,
and the cache runs and its start has returned:

* its connection is down, which it knows, and is being probed, and it is to read its node when that
  comes back; or
* it has something to do that makes it read its node or look at it; or
* its watcher waits for its node. -/
theorem recovers (joined : Joined store isSlow handle cache loop)
    (isThere : loop.caches[cache]? = some known) (runs : known.phase = .started)
    (hasStarted : loop.HasStarted cache) {session : Session}
    (found : loop.service.sessions[handle]? = some session) (isFit : session.IsFit) :
    loop.IsCutOff handle cache ∨ loop.IsRefreshing cache ∨
      ∃ key, Key.ofValue session.options.root (.text known.path) = .ok key ∧
        loop.IsArmed handle key cache := by
  have run := joined.run
  have reaches := Carried.run run
  have isOpen : ¬ Sessions.IsClosed handle loop.service :=
    Sessions.IsOpen.not_closed ⟨session, found, isFit.isOpen⟩
  obtain ⟨link, isUp, listensOn⟩ := joined.listensOn
  obtain ⟨now, hears, believes⟩ := listensOn.knows isUp reaches isThere runs
  obtain ⟨session', found', rfl, -⟩ := id hears
  cases found.symm.trans found'
  obtain ⟨known', isThere', own, -⟩ := (Reaches.attuned reaches).2.own hears
  cases isThere.symm.trans isThere'
  cases isConnected : known.connected with
  | false =>
    have isDown : Link.isUpOrUnset session.link = false := believes.symm.trans isConnected
    refine .inl ⟨(congrArg _ (link?_of_found found)).trans isDown,
      ⟨known, isThere, isConnected⟩, ?_, ?_⟩
    · exact Carried.isProbed run found isFit (by rw [Session.isDown_eq, isDown]; rfl)
    · intro before after old later happens wasDown isBack wasThere ran
      have reaches' := reaches.trans later
      obtain ⟨then', hears', believes'⟩ :=
        (Reaches.listensOn reaches later listensOn).knows isUp reaches' wasThere ran
      obtain ⟨earlier, wasFound, rfl, -⟩ := id hears'
      rw [link?_of_found wasFound] at wasDown
      exact happens.comesBack reaches' hears' wasDown isBack wasThere ran (believes'.trans wasDown)
  | true =>
    refine .inr (or_iff_not_imp_left.mpr fun isFree => ?_)
    obtain ⟨key, isKey⟩ :=
      Key.exists_below (Reaches.arePaths reaches cache known isThere) session.options.root
    refine ⟨key, isKey, ?_⟩
    have lull :=
      isLull_of_not_isRefreshing reaches isThere runs isConnected own isOpen hasStarted isFree
    rcases joined.isGuarded isThere found isFit isKey lull with ⟨task, index, isWatch⟩ | isDown
    · obtain ⟨session', found', -, isListed⟩ :=
        Watches.listed (Reaches.isKept reaches) isOpen isWatch
      cases found.symm.trans found'
      obtain ⟨point, stands, -⟩ := id isWatch
      exact ⟨session, task, index, found, isListed, isWatch,
        open_of_stands (Reaches.endedAreBare reaches) stands⟩
    · rw [Session.isDown_eq, ← believes, isConnected] at isDown
      cases isDown

/-! ## A watch is dropped -/

theorem Joined.trans (joined : Joined store isSlow handle cache before)
    (carried : Carried usual before after) :
    Joined store isSlow handle cache after := by
  induction carried with
  | refl => exact joined
  | tail _ carries step => exact step.goesOn carries

/-- A cache is started, and its start is about to let it listen to the session. -/
def aboutToListen : Loop Sessions.service :=
  (enact 0 (connecting :: starting) (unconnected {} false)).settle 4

/-- The store has gone down, and the cache's watch has been dropped. -/
def dropped : Loop Sessions.service :=
  enact 60 [.occur (SessionEvent.down true true)] (aboutToListen.step.settle 60)

theorem dropped_joined : Joined {} false 0 0 dropped := by
  have first :
      Carried usual (unconnected {} false)
        (enact 0 (connecting :: starting) (unconnected {} false)) :=
    Carried.enact (by decide +kernel)
  have run : Carried usual (unconnected {} false) aboutToListen :=
    first.trans (Carried.settle (by decide +kernel))
  have carries : Carries usual aboutToListen aboutToListen.step :=
    ⟨.step, fun _ => by decide +kernel⟩
  have isAt : aboutToListen.IsAt 0 (.ended (.returned .nothing)) (.start 0 false .ensuring) [] :=
    ⟨rfl, rfl⟩
  have own : (aboutToListen.caches[0]?).map (·.handle) = some (some 0) := by decide +kernel
  obtain ⟨known, found, own⟩ := Option.map_eq_some_iff.mp own
  have isOne : (aboutToListen.service.sessions[0]?).isSome := by decide +kernel
  obtain ⟨session, isThere⟩ := Option.isSome_iff_exists.mp isOne
  have begins : BeginsToListen 0 aboutToListen aboutToListen.step :=
    ⟨0, false, .nothing, [], known, 0, session, isAt, isAt.step, found, own, isThere⟩
  have listens :
      (aboutToListen.step.service.sessions[0]?).map
        (fun session => (session.link, session.listeners)) =
      some (none, [.cache 0]) := by decide +kernel
  obtain ⟨session', isThere', same⟩ := Option.map_eq_some_iff.mp listens
  obtain ⟨link, listeners⟩ := Prod.mk.inj same
  have joined : Joined {} false 0 0 aboutToListen.step :=
    .begins run carries begins ⟨session', isThere', link, listeners ▸ List.mem_singleton_self _⟩ rfl
  exact (joined.trans (Carried.settle (by decide +kernel))).trans
    (Carried.enact (by decide +kernel))

/-- The cache has nothing to do: its worker waits for an item, and there is none, and its requests
have ended. -/
theorem dropped_not_refreshing : ¬ dropped.IsRefreshing 0 := by
  have isEmpty : dropped.items 0 = [] := by decide +kernel
  have areFree : ∀ task ∈ dropped.tasks, (task.role = .worker 0 → task.isTaking 0 = true) ∧
      (task.role = .request 0 .look ∨ task.role = .request 0 .fetch → task.hasEnded = true) := by
    decide +kernel
  rintro (⟨member⟩ | ⟨isTask, role, isBusy, -⟩ | @⟨request, task, query, isTask, role, isOpen⟩)
  · rw [isEmpty] at member
    cases member
  · exact isBusy (Task.frames_of_isTaking ((areFree _ (List.mem_of_getElem? isTask)).1 role))
  · have isRequest : task.role = .request 0 .look ∨ task.role = .request 0 .fetch := by
      rw [role]
      cases query <;> simp
    obtain ⟨outcome, ended⟩ :=
      Task.stage_of_hasEnded ((areFree _ (List.mem_of_getElem? isTask)).2 isRequest)
    cases isOpen.symm.trans (outcome?_eq_some.mpr ⟨task, isTask, ended⟩)

/-- A cache whose watch was dropped is cut off, and is to read its node when the connection comes
back. -/
theorem recovers_after_drop : dropped.IsCutOff 0 0 := by
  have isStarted : (dropped.caches[0]?).map (·.phase) = some .started := by decide +kernel
  obtain ⟨known, isThere, runs⟩ := Option.map_eq_some_iff.mp isStarted
  have facts :
      (dropped.service.sessions[0]?).map
        (fun session => (session.isOpen, session.options.retries.number?,
      session.options.delay.number?, session.watches)) = some (true, some 0, some 1, []) := by
    decide +kernel
  obtain ⟨session, found, same⟩ := Option.map_eq_some_iff.mp facts
  simp only [Prod.mk.injEq] at same
  obtain ⟨isOpen, retries, delay, watches⟩ := same
  have isFit : session.IsFit := ⟨isOpen, by simp [retries], by simp [delay]⟩
  have hasStarted : dropped.HasStarted 0 := by
    have written : ∃ entry ∈ dropped.journal, entry.isReturn 0 = true := by decide +kernel
    exact written
  rcases recovers dropped_joined isThere runs hasStarted found isFit with cutOff | refreshing
    | ⟨key, -, armed⟩
  · exact cutOff
  · exact absurd refreshing dropped_not_refreshing
  · obtain ⟨session', task, index, found', isListed, -⟩ := armed
    cases found.symm.trans found'
    rw [watches] at isListed
    cases isListed

end Loop

end WatchedNode
