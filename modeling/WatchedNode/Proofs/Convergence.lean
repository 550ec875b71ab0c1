/-
**A cache at rest has seen its node.**

A coordination service is a `Coordination` if it watches and tells the truth: what an outcome says
of the node is so at the moment in which the request is answered (`Reads`).

On such a service, whatever happens, the view of a cache at rest is what its node holds, unless a
request has failed since the connection was last back (`converges`). In a lull the view may be
stale, and answers in line may be stale, too; but what the cache will have seen when it has dealt
with all of them is its node, or else its node is there and a fetch is still to end (`IsFresh`). For
each change of the node ends the lull, and each request that ends in a lull has read the node as it
is (`Happens.reads`).
-/
import WatchedNode.Proofs.Hearing
import WatchedNode.Proofs.Loop.Progress

namespace WatchedNode

open Relation

variable {S : Service}

/-- The path of a request. -/
def Request.path : Request → String
  | .ensure path _ | .look path _ | .fetch path _ _ => path

/-- What the outcome of a request with a watcher says of the node is so. -/
def Reads (node : Value → Option Content) : Request → Outcome Answer → Prop
  | .look _ _, .returned answer => ∀ choice, answer.stat?.isSome = (node choice).isSome
  | .look _ _, .failed error => error.isNoNode = false
  | .fetch _ (some _) choice, .returned answer =>
    ∃ content, node choice = some content ∧ answer.parts = (some content.data, some content.stat)
  | .fetch _ (some _) choice, .failed error => error.isNoNode = true → node choice = none
  | _, _ => True

/-- Something has been returned, or there was no node. -/
def Outcome.isUsual {result : Type} : Outcome result → Bool
  | .returned _ => true
  | .failed error => error.isNoNode
  | .cancelled => false

/-- A coordination service that watches and reads nodes. -/
structure Coordination (S : Service) extends Watching S where
  reads (moment : Moment) (point : S.Point) (wake : Wake S.Reply) (state : S.State)
  (request : Request)
    (outcome : Outcome Answer) : asks point = some request →
      (S.resume moment point wake state).verdict = .finish outcome →
        Reads (node (S.resume moment point wake state).state request.path) request outcome

namespace Late

theorem answer_reads {request : Request} {state : State} {outcome : Outcome Answer}
    (finishes : (answer request state).verdict = .finish outcome) :
    Reads (fun _ => (answer request state).state.nodes request.path) request outcome := by
  cases request with
  | ensure path parentsOnly => trivial
  | look path watcher =>
    cases finishes
    intro choice
    have same := congrFun (state.watch_nodes path watcher) path
    simp only [answer, Request.path, Answer.stat?, same, Option.isSome_map]
  | fetch path watcher choice =>
    cases watcher with
    | none => trivial
    | some watcher =>
      cases found : state.nodes path with
      | none =>
        simp only [answer, found] at finishes ⊢
        cases finishes
        exact fun _ => found
      | some content =>
        simp only [answer, found] at finishes ⊢
        cases finishes
        refine ⟨content, ?_, rfl⟩
        simp only [Request.path, Option.elim_some, State.watch_nodes, found]

/-- The service that reads late reads nodes. -/
def coordination : Coordination service where
  toWatching := watching
  reads moment point wake state request outcome asks finishes := by
    cases asks
    have resumed : (resume point wake state).verdict = .finish outcome := finishes
    cases wake with
    | goOn => cases resumed
    | reply reply =>
      cases reply with
      | answered => exact answer_reads resumed
      | refused =>
        cases resumed
        cases point with
        | ensure path parentsOnly => trivial
        | look path watcher => rfl
        | fetch path watcher choice =>
          cases watcher with
          | none => trivial
          | some watcher => exact fun isNoNode => nomatch isNoNode
    | cancelled =>
      cases resumed
      unfold Reads
      split <;> simp_all
    | ended ended =>
      cases resumed
      unfold Reads
      split <;> simp_all

end Late

/-! ## What a cache will have seen -/

/-- What the cache will have seen of the node at the path when it has dealt with the items. -/
def Item.outlook (path : String) (seen : Snapshot) (items : List Item) : Snapshot :=
  items.foldl (fun seen item => (item.view? path).getD seen) seen

theorem Item.outlook_append (path : String) (seen : Snapshot) (items : List Item) (item : Item) :
    Item.outlook path seen (items ++ [item]) =
      (item.view? path).getD (Item.outlook path seen items) := by
  simp [Item.outlook]

namespace Loop

variable {before after : Loop S} {cache : CacheId} (coordination : Coordination S)

/-- The requests with a watcher that the cache has made since the connection was last back, and that
have ended, have returned, or there was no node. -/
def RequestsReturn (cache : CacheId) (loop : Loop S) : Prop :=
  ∀ asked ∈ loop.askedSince cache, asked.2.watcher?.isSome = true →
    ∀ outcome ∈ loop.outcome? asked.1, outcome.isUsual = true

instance (cache : CacheId) (loop : Loop S) : Decidable (loop.RequestsReturn cache) :=
  inferInstanceAs (Decidable (∀ asked ∈ loop.askedSince cache, asked.2.watcher?.isSome = true →
    ∀ outcome ∈ loop.outcome? asked.1, outcome.isUsual = true))

/-- What the cache will have seen is its node, or its node is there and will be fetched. -/
def Foresees (cache : CacheId) (known : Cache) (loop : Loop S) : Prop :=
  Item.outlook known.path known.data (loop.line cache) =
      ⟨known.path, coordination.node loop.service known.path known.compressed⟩ ∨
    (coordination.node loop.service known.path known.compressed).isSome = true ∧
      ((∃ item ∈ loop.line cache, item.isPromise = true) ∨
        ∃ task, (task, queryRequest cache known .fetch) ∈ loop.askedSince cache ∧
          loop.outcome? task = none)

/-- In a lull a cache foresees its node, unless a request has failed. -/
def IsFresh (cache : CacheId) (loop : Loop S) : Prop :=
  ∀ known, loop.caches[cache]? = some known → loop.IsLull cache → loop.RequestsReturn cache →
    loop.Foresees coordination cache known

/-- Looks never end because there is no node. -/
def LooksTell (loop : Loop S) : Prop :=
  ∀ (task : TaskId) (known : Task S) (cache : CacheId)
  (error : Error), loop.tasks[task]? = some known →
    known.role = .request cache .look → loop.outcome? task = some (.failed error) →
      error.isNoNode = false

section Steps

variable {allowed : Outside S}

theorem Happens.looksTell (happens : Happens allowed before after)
    (requestsStand : before.RequestsStand coordination.Stands) (endedAreBare : before.EndedAreBare)
    (looksTell : before.LooksTell) : after.LooksTell := by
  intro task known cache error found role ended
  cases earlier : before.outcome? task with
  | none =>
    have comes := happens.ends earlier ended
    obtain ⟨old, isThere⟩ := comes.isThere
    obtain ⟨known', found', role'⟩ := happens.remains.roles task old isThere
    cases found.symm.trans found'
    obtain ⟨owner, wake, point, -, -, asks, verdict, -⟩ :=
      comes.finishes requestsStand isThere (role'.symm.trans role) nofun
    exact coordination.reads _ point wake _ _ _ asks verdict
  | some outcome =>
    obtain ⟨old, isThere, -⟩ := outcome?_eq_some.mp earlier
    obtain ⟨known', found', role'⟩ := happens.remains.roles task old isThere
    cases found.symm.trans found'
    refine looksTell task old cache error isThere (role'.symm.trans role) ?_
    exact earlier.trans ((happens.outcome endedAreBare earlier).symm.trans ended)

/-- **A request that ends in a lull has read the node as it is**, if a watch was there, or if it has
left one. -/
theorem Happens.reads (happens : Happens allowed before after) (isRegular : before.IsRegular)
    (requestsStand : before.RequestsStand coordination.Stands) (lull : after.IsLull cache)
    {known : Cache} (found : after.caches[cache]? = some known) {task : TaskId} {request : Task S}
    {query : Query} (isThere : before.tasks[task]? = some request)
    (role : request.role = .request cache query) (isOpen : before.outcome? task = none)
    {outcome : Outcome Answer} (ended : after.outcome? task = some outcome)
    (isPlain : outcome ≠ .cancelled)
    (watched : coordination.IsArmed before.service known.path (.cache cache) ∨
      query = .look ∧ outcome.isReturn = true) :
    Reads (coordination.node after.service known.path) (queryRequest cache known query)
      outcome := by
  obtain ⟨owner, wake, point, isThere', isAt, asks, verdict, same⟩ :=
    (happens.ends isOpen ended).finishes requestsStand isThere role isPlain
  obtain ⟨owner', found', ages⟩ := happens.course.grows cache owner isThere'
  cases found.symm.trans found'
  have stands := ages.queryRequest cache query
  rw [← stands] at asks
  have path : (queryRequest cache known query).path = known.path := by cases query <;> rfl
  have reads :=
    coordination.reads (before.inTurn.moment task) point wake before.service _ outcome asks
    verdict
  rw [path] at reads
  have kept : coordination.Guards known.path cache
        (coordination.node
          (S.resume (before.inTurn.moment task) point wake before.service).state known.path)
        (S.resume (before.inTurn.moment task) point wake before.service).state ∨
      Alerts cache (S.resume (before.inTurn.moment task) point wake before.service).effects := by
    rcases watched with armed | ⟨rfl, isReturn⟩
    · rcases coordination.resumed (before.inTurn.moment task) point wake before.service
        known.path _ armed
        with ⟨armed, -⟩ | fires
      · exact .inl ⟨armed, rfl⟩
      · exact .inr (Watching.alerts fires)
    · obtain ⟨answer, rfl⟩ := Outcome.eq_of_isReturn isReturn
      exact .inl ⟨coordination.looks _ point wake _ known.path (.cache cache) answer asks verdict,
        rfl⟩
  have unprompted := lull.isUnprompted
  rw [same] at unprompted ⊢
  obtain ⟨tickets, alarms, turn⟩ := serviceTurn_loop before.inTurn task point wake
  have still := (afterTurn_retains task (.service point) [] _).prompts unprompted
  rw [turn] at still
  rw [afterTurn_service, turn]
  have believes : before.inTurn.Believes := isRegular.believes.of_eq rfl rfl
  have guards := effected_lasts (coordination.lasting known.path cache _) believes kept still
  exact guards.2.symm ▸ reads

end Steps

/-- What has been returned is what the cache will have seen. -/
theorem foresees_of_return {known : Cache} {query : Query} {answer : Answer} {items : List Item}
    {loop : Loop S} (reads : Reads (coordination.node loop.service known.path)
      (queryRequest cache known query) (.returned answer))
    (line : loop.line cache = items ++ [query.answer (.returned answer)]) :
    loop.Foresees coordination cache known := by
  cases query with
  | look =>
    have same :
        answer.stat?.isSome = (coordination.node loop.service known.path known.compressed).isSome :=
      reads known.compressed
    cases stamps : answer.stat? with
    | none =>
      rw [stamps] at same
      refine .inl ?_
      rw [line, Item.outlook_append,
        Option.isNone_iff_eq_none.mp (Option.isSome_eq_false_iff.mp same.symm)]
      simp [Query.answer, Item.view?, stamps, Snapshot.absent]
    | some stat =>
      rw [stamps] at same
      refine .inr ⟨same.symm, .inl ⟨_, line ▸ List.mem_append_right _ List.mem_cons_self, ?_⟩⟩
      simp [Query.answer, Item.isPromise, stamps]
  | fetch =>
    obtain ⟨content, isThere, parts⟩ := reads
    refine .inl ?_
    rw [line, Item.outlook_append, isThere]
    simp [Query.answer, Item.view?, parts, Snapshot.make, Snapshot.present, Except.toOption]

/-- An outcome that returns nothing gives no view, and promises nothing. -/
theorem answer_of_not_isReturn {outcome : Outcome Answer} (isOther : outcome.isReturn = false)
    (query : Query) (path : String) :
    (query.answer outcome).view? path = none ∧ (query.answer outcome).isPromise = false := by
  cases outcome with
  | returned answer => cases isOther
  | _ => cases query <;> exact ⟨rfl, rfl⟩

theorem IsRequest.isRequestOf {task : TaskId} {request : Request} {loop : Loop S}
    (isRequest : loop.IsRequest cache task request) : loop.IsRequestOf cache task := by
  obtain ⟨known, -, query, found, role, -⟩ := isRequest
  exact ⟨known, query, found, role⟩

/-- The task of a fetch is that of no other request. -/
theorem asksOnce {known : Cache} {task : TaskId} {request : Task S} {query : Query} {loop : Loop S}
    (askedStand : loop.AskedStand)
    (asked : (task, queryRequest cache known .fetch) ∈ loop.askedSince cache)
    (isTask : loop.tasks[task]? = some request) (role : request.role = .request cache query) :
    query = .fetch := by
  obtain ⟨request', owner, query', isTask', role', -, same⟩ :=
    askedStand cache task _ (askedSince_mem asked) (by simp [queryRequest, Request.watcher?])
  cases isTask.symm.trans isTask'
  cases role.symm.trans role'
  cases query with
  | look => cases same
  | fetch => rfl

section Steps

variable {allowed : Outside S}

/-- What a cache foresees is kept up when its line moves on, as long as its watcher is armed. -/
theorem Happens.foresees (happens : Happens published before after) (isRegular : before.IsRegular)
    (isOrderly : before.IsOrderly) (requestsStand : before.RequestsStand coordination.Stands)
    (lull : after.IsLull cache) {old known : Cache} (isThere : before.caches[cache]? = some old)
    (armed : coordination.IsArmed before.service old.path (.cache cache))
    (foresees : before.Foresees coordination cache old) (found : after.caches[cache]? = some known)
    (returns : after.RequestsReturn cache) : after.Foresees coordination cache known := by
  obtain ⟨known', found', ages⟩ := happens.course.grows cache old isThere
  cases found.symm.trans found'
  have guards : coordination.Guards old.path cache (coordination.node before.service old.path)
      before.service := ⟨armed, rfl⟩
  have node := (happens.lasts (coordination.lasting old.path cache _) isRegular lull
    (fun task wake point rest _ => coordination.guards_resumed guards _ point wake) guards).2
  have hasStarted : before.HasStarted cache :=
    (happens.hasStarted lull.hasStarted).resolve_right fun prompted => prompted.1 lull.isUnprompted
  have retains := happens.retains isRegular (isRegular.hasBegun cache hasStarted) lull
  have awaits : ∀ task, (task, queryRequest cache old .fetch) ∈ before.askedSince cache →
      (task, queryRequest cache old .fetch) ∈ after.askedSince cache ∧
        before.IsRequestOf cache task := fun task asked =>
    ⟨retains.asked _ lull.isUnprompted asked,
      (isRegular.askedStand cache task _ (askedSince_mem asked)
      (by simp [queryRequest, Request.watcher?])).isRequestOf⟩
  have reads : ∀ (task : TaskId) (request : Task S) (query : Query) (outcome : Outcome Answer),
      before.tasks[task]? = some request → request.role = .request cache query →
      before.outcome? task = none → after.outcome? task = some outcome → outcome ≠ .cancelled →
      Reads (coordination.node after.service known.path) (queryRequest cache known query) outcome :=
    fun task request query outcome isTask role isOpen ended isPlain =>
      happens.reads coordination isRegular requestsStand lull found isTask role isOpen ended isPlain
        (.inl (ages.path ▸ armed))
  have node' : coordination.node after.service known.path known.compressed =
      coordination.node before.service old.path old.compressed := by
    rw [ages.path, ages.compressed, node]
  cases happens.advances isRegular isOrderly lull with
  | stays view line outcomes =>
    have data := (view_eq found).symm.trans (view.trans (view_eq isThere))
    rw [Foresees, node', ages.queryRequest, ages.path, line, Option.some.inj data]
    refine foresees.imp_right (And.imp_right (Or.imp_right ?_))
    rintro ⟨task, asked, isOpen⟩
    exact ⟨task, (awaits task asked).1, (outcomes task (awaits task asked).2).trans isOpen⟩
  | @dealt old' item isHere line view promised outcomes =>
    cases isThere.symm.trans isHere
    have data := (view_eq found).symm.trans view
    rw [Foresees, node', ages.queryRequest, ages.path, Option.some.inj data]
    rw [Foresees, line, Item.outlook, List.foldl_cons] at foresees
    refine foresees.imp_right (And.imp_right ?_)
    rintro (⟨promise, member, isPromise⟩ | ⟨task, asked, isOpen⟩)
    · rcases List.mem_cons.mp member with rfl | member
      · exact .inr (promised isPromise)
      · exact .inl ⟨promise, member, isPromise⟩
    · exact .inr ⟨task, (awaits task asked).1, (outcomes task (awaits task asked).2).trans isOpen⟩
  | @ended task request query outcome isTask role isOpen isOver view line outcomes =>
    cases isReturn : outcome.isReturn with
    | true =>
      obtain ⟨answer, rfl⟩ := Outcome.eq_of_isReturn isReturn
      exact foresees_of_return coordination
        (reads task request query _ isTask role isOpen isOver (by simp)) line
    | false =>
      have data := (view_eq found).symm.trans (view.trans (view_eq isThere))
      have silent := (answer_of_not_isReturn isReturn query old.path).1
      rw [Foresees, node', ages.queryRequest, ages.path, line, Option.some.inj data,
        Item.outlook_append,
        silent, Option.getD_none]
      refine foresees.imp_right ?_
      rintro ⟨isSome, awaited⟩
      refine ⟨isSome, ?_⟩
      rcases awaited with ⟨promise, member, isPromise⟩ | ⟨other, asked, isOpen'⟩
      · exact .inl ⟨promise, List.mem_append_left _ member, isPromise⟩
      · by_cases here : other = task
        · subst here
          -- The fetch that was to end has failed: as the node is there, it has not failed as usual.
          have isUsual :=
            returns _ (awaits other asked).1 (by simp [queryRequest, Request.watcher?]) outcome
            isOver
          cases outcome with
          | returned answer => cases isReturn
          | cancelled => cases isUsual
          | failed error =>
            have gone := reads other request query _ isTask role isOpen isOver (by simp)
            cases asksOnce isRegular.askedStand asked isTask role
            have absent : coordination.node after.service known.path known.compressed = none :=
              gone isUsual
            rw [← node', absent] at isSome
            cases isSome
        · exact .inr ⟨other, (awaits other asked).1, (outcomes other here).trans isOpen'⟩

/-- Looks whose requests have returned have returned. -/
theorem RequestsReturn.looksReturn {loop : Loop S} (returns : loop.RequestsReturn cache)
    (askedStand : loop.AskedStand) (looksTell : loop.LooksTell) : loop.LooksReturn cache := by
  rintro ⟨task, request⟩ asked isLook outcome ended
  have watched : request.watcher?.isSome = true := by
    cases request with
    | look => rfl
    | _ => cases isLook
  have isUsual := returns _ asked watched outcome ended
  cases outcome with
  | returned answer => rfl
  | cancelled => cases isUsual
  | failed error =>
    obtain ⟨known, owner, query, found, role, -, same⟩ :=
      askedStand cache task request (askedSince_mem asked) (Option.isSome_iff_ne_none.mp watched)
    cases query with
    | fetch =>
      cases same
      cases isLook
    | look => cases isUsual.symm.trans (looksTell task known cache error found role ended)

/-- Requests that have returned after a step that leaves a lull have returned before it. -/
theorem Happens.requestsReturn (happens : Happens allowed before after)
    (isRegular : before.IsRegular) (lull : after.IsLull cache)
    (returns : after.RequestsReturn cache) : before.RequestsReturn cache := by
  intro asked isOld watched outcome ended
  have hasStarted : before.HasStarted cache :=
    (happens.hasStarted lull.hasStarted).resolve_right fun prompted => prompted.1 lull.isUnprompted
  have retains := happens.retains isRegular (isRegular.hasBegun cache hasStarted) lull
  exact returns asked (retains.asked _ lull.isUnprompted isOld) watched outcome
    (happens.outcome isRegular.endedAreBare ended)

/-- What is so in every run on a coordination service. -/
structure IsSound (cache : CacheId) (loop : Loop S) : Prop where
  isRegular : loop.IsRegular
  isOrderly : loop.IsOrderly
  requestsStand : loop.RequestsStand coordination.Stands
  looksTell : loop.LooksTell
  isHearing : loop.IsHearing coordination.toWatching cache

theorem Reaches.isSound {service : S.State} {last : Loop S}
    (run : Reaches allowed (fresh service) last) (cache : CacheId) :
    last.IsSound coordination cache where
  isRegular := run.isRegular
  isOrderly := run.isOrderly
  requestsStand := run.requestsStand coordination.stands
  isHearing := run.isHearing coordination.toWatching cache
  looksTell := by
    induction run with
    | refl => exact fun task known cache error found => by simp [fresh] at found
    | tail run happens step =>
      exact happens.looksTell coordination (Reaches.requestsStand coordination.stands run)
        (Reaches.endedAreBare run) step

/-- **A cache goes on to foresee its node**, whatever happens. -/
theorem Happens.isFresh (happens : Happens published before after)
    (isSound : before.IsSound coordination cache) (isSound' : after.IsSound coordination cache)
    (isFresh : before.IsFresh coordination cache) : after.IsFresh coordination cache := by
  intro known found lull returns
  have isRegular := isSound.isRegular
  have askedStand := isSound'.isRegular.askedStand
  rcases happens.isLull isRegular lull with earlier
    | ⟨task, path, watcher, outcome, asked, isOpen, ended⟩
  · obtain ⟨old, isThere, -⟩ := earlier.isUnprompted
    have returned := happens.requestsReturn isRegular lull returns
    have armed := isSound.isHearing old isThere earlier
      (returned.looksReturn isRegular.askedStand isSound.looksTell)
    exact happens.foresees coordination isRegular isSound.isOrderly isSound.requestsStand lull
      isThere armed
      (isFresh old isThere earlier returned) found returns
  · obtain ⟨answer, rfl⟩ := Outcome.eq_of_isReturn
      (returns.looksReturn askedStand isSound'.looksTell _ asked rfl outcome ended)
    obtain ⟨request, owner, query, isTask, role, -, isQuery⟩ :=
      askedStand cache task _ (askedSince_mem asked) (by simp [Request.watcher?])
    obtain ⟨old, earlier⟩ := (happens.ends isOpen ended).isThere
    obtain ⟨request', isTask', role'⟩ := happens.remains.roles task old earlier
    cases isTask.symm.trans isTask'
    have role := role'.symm.trans role
    have changes : after.outcome? task ≠ before.outcome? task := by
      rw [ended, isOpen]
      simp
    cases happens.advances isRegular isSound.isOrderly lull with
    | stays view line outcomes => exact absurd (outcomes task ⟨old, query, earlier, role⟩) changes
    | dealt isHere line view promised outcomes =>
      exact absurd (outcomes task ⟨old, query, earlier, role⟩) changes
    | @ended other request' query' outcome' isTask'' role'' isOpen' isOver view line outcomes =>
      by_cases here : task = other
      · subst here
        cases earlier.symm.trans isTask''
        cases role.symm.trans role''
        cases ended.symm.trans isOver
        have isLook : query = .look := by
          cases query with
          | look => rfl
          | fetch => cases isQuery
        exact foresees_of_return coordination
          (happens.reads coordination isRegular isSound.requestsStand
          lull found earlier role isOpen ended (by simp) (.inr ⟨isLook, rfl⟩)) line
      · exact absurd (outcomes task here) changes

theorem Reaches.isFresh {service : S.State} {last : Loop S}
    (run : Reaches published (fresh service) last) (cache : CacheId) :
    last.IsFresh coordination cache := by
  induction run with
  | refl => exact fun known found => by simp [fresh] at found
  | tail run happens step =>
    exact happens.isFresh coordination (Reaches.isSound coordination run cache)
      (Reaches.isSound coordination (run.tail happens) cache) step

end Steps

/-- When a cache is at rest, nothing is in line. -/
theorem IsAtRest.line {known : Cache} {loop : Loop S} (isAtRest : loop.IsAtRest cache known)
    (found : loop.caches[cache]? = some known) : loop.line cache = [] := by
  obtain ⟨backlog, has, empty⟩ := (Option.any_eq_true _ _).mp isAtRest.isEmpty
  have answers : loop.answers cache = [] := by
    refine List.filterMap_eq_nil_iff.mpr fun due member => ?_
    obtain ⟨job, isReady, isDue⟩ := List.mem_filterMap.mp member
    have isOther := isAtRest.noAnswer job isReady
    cases job with
    | resume task => cases isDue
    | hook hook task =>
      cases hook with
      | answered owner query =>
        cases isDue
        exact if_neg (of_decide_eq_false isOther)
      | _ => cases isDue
  rw [Loop.line, items_eq found, answers, List.append_nil, Cache.items, has]
  exact List.isEmpty_iff.mp empty

/-- **A cache at rest has seen its node as it is**, in every run, unless a request with a watcher
has failed that it made since the connection was last back. -/
theorem converges {service : S.State} {loop : Loop S} (run : Reaches published (fresh service) loop)
    {known : Cache} (found : loop.caches[cache]? = some known)
    (isAtRest : loop.IsAtRest cache known) (returns : loop.RequestsReturn cache) :
    known.data = ⟨known.path, coordination.node loop.service known.path known.compressed⟩ := by
  have isRegular := Reaches.isRegular run
  have lull := isAtRest.isLull found isRegular.askedStand
  have line := isAtRest.line found
  rcases run.isFresh coordination cache known found lull returns with seen | ⟨-, awaited⟩
  · rwa [line] at seen
  · exfalso
    rcases awaited with ⟨promise, member, -⟩ | ⟨task, asked, isOpen⟩
    · rw [line] at member
      cases member
    · obtain ⟨request, owner, query, isTask, role, -⟩ :=
        isRegular.askedStand cache task _ (askedSince_mem asked)
          (by simp [queryRequest, Request.watcher?])
      have hasEnded := isAtRest.noRequest request (List.mem_of_getElem? isTask)
        (by rw [role]; cases query <;> simp)
      cases hasEnded.symm.trans (hasEnded_of_outcome isTask isOpen)

end Loop

namespace Late

/-- The node of a cache changes while the cache looks at it, goes while it fetches it, and comes
back. -/
def changing : List (Command service) :=
  [.make "c" (.text "/a") .null, .start "c" (.bool false), .release [1] (.reply Reply.answered),
    .occur (Event.set "/a" (some ⟨⟨1, 1⟩, [7]⟩)), .release [2] (.reply Reply.answered),
    .occur (Event.set "/a" none), .release [3] (.reply Reply.answered),
    .occur (Event.set "/a" (some ⟨⟨3, 3⟩, [9]⟩)), .release [4] (.reply Reply.answered),
    .release [5] (.reply Reply.answered)]

/-- The cache has seen the node that has come back. -/
theorem sees_what_comes_back :
    (settled changing).service.nodes "/a" = some ⟨⟨3, 3⟩, [9]⟩ ∧
      ((settled changing).caches[0]?).map (·.data) = some (.present "/a" ⟨3, 3⟩ [9]) := by
  have run : Loop.Reaches Loop.published (Loop.fresh ({} : State)) (settled changing) :=
    Loop.enact_reaches 60 changing _ (by simp [changing, Loop.published, Command.isPublic])
      (by decide +kernel)
  have node : (settled changing).service.nodes "/a" = some ⟨⟨3, 3⟩, [9]⟩ := by decide +kernel
  have paths : ((settled changing).caches[0]?).map (·.path) = some "/a" := by decide +kernel
  have rests : ((settled changing).caches[0]?).all fun known =>
      decide ((settled changing).IsAtRest 0 known) := by decide +kernel
  have returns : (settled changing).RequestsReturn 0 := by decide +kernel
  obtain ⟨known, found, path⟩ := Option.map_eq_some_iff.mp paths
  rw [found, Option.all_some] at rests
  have data : known.data = ⟨known.path, (settled changing).service.nodes known.path⟩ :=
    Loop.converges coordination run found (of_decide_eq_true rests) returns
  rw [path, node] at data
  exact ⟨node, by rw [found, Option.map_some, data]; rfl⟩

end Late

end WatchedNode
