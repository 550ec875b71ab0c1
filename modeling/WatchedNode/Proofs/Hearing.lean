/-
**A cache never goes deaf.**

A coordination service is `Watching` if each look leaves its watcher armed in the same moment in
which it reads the node, and if a watch is lost only by being fired, which every change of the node
does. Nothing is said about fetches: they may fail in any way, and as often as they like.

On such a service, whatever happens, the watcher of a cache that is at rest is armed, unless a look
has failed since the connection was last back (`armed_at_rest`); so the next change of the node will
not leave the cache at rest. In between the watcher may be gone, but never in a lull
(`Happens.isHearing`): it is fired only with a prompt, and a lull comes about only by a look.
-/
import WatchedNode.Proofs.Late
import WatchedNode.Proofs.Loop.Lull

namespace WatchedNode

open Relation

variable {S : Service}

/-- The request asks whether there is a node. -/
def Request.isLook : Request → Bool
  | .look .. => true
  | _ => false

/-- Something has been returned. -/
def Outcome.isReturn {result : Type} : Outcome result → Bool
  | .returned _ => true
  | _ => false

theorem Outcome.eq_of_isReturn {result : Type} {outcome : Outcome result}
    (isReturn : outcome.isReturn = true) : ∃ answer, outcome = .returned answer := by
  cases outcome with
  | returned answer => exact ⟨answer, rfl⟩
  | _ => cases isReturn

/-- A coordination service with watches that are fired by the next change. -/
structure Watching (S : Service) where
  /-- The request that a call stands for. -/
  asks : S.Point → Option Request
  /-- The watcher is told of the next change of the node at the path. -/
  IsArmed : S.State → String → Subscriber → Prop
  /-- What the node at the path holds, if there is one, as it is read with a choice of
  compression. -/
  node : S.State → String → Value → Option Content
  opens (handle : Option Handle) (request : Request) :
    asks (S.request handle request) = some request
  goesOn (moment : Moment) (point next : S.Point) (wake : Wake S.Reply) (state : S.State) :
    (S.resume moment point wake state).verdict.next? = some next → asks next = asks point
  looks (moment : Moment) (point : S.Point) (wake : Wake S.Reply) (state : S.State) (path : String)
    (watcher : Subscriber) (answer : Answer) : asks point = some (.look path watcher) →
      (S.resume moment point wake state).verdict = .finish (.returned answer) →
        IsArmed (S.resume moment point wake state).state path watcher
  resumed (moment : Moment) (point : S.Point) (wake : Wake S.Reply) (state : S.State)
  (path : String)
    (watcher : Subscriber) : IsArmed state path watcher →
      IsArmed (S.resume moment point wake state).state path watcher ∧
          node (S.resume moment point wake state).state path = node state path ∨
        ∃ key news, .fire watcher key news ∈ (S.resume moment point wake state).effects
  occurred (moment : Moment) (event : S.Event) (state : S.State)
    (occurrence : Occurrence S.State S.Call S.Point S.Reply) (path : String)
    (watcher : Subscriber) :
    IsArmed state path watcher → S.occur moment event state = .ok occurrence →
      IsArmed occurrence.state path watcher ∧ node occurrence.state path = node state path ∨
        ∃ key news, .fire watcher key news ∈ occurrence.effects
  connected (arguments : Table Value) (state state' : S.State)
    (effects : List (Effect S.Call S.Point S.Reply)) (handle : Handle) (path : String)
    (watcher : Subscriber) : IsArmed state path watcher →
      S.connect arguments state = .ok (state', effects, handle) →
        IsArmed state' path watcher ∧ node state' path = node state path ∨
          ∃ key news, .fire watcher key news ∈ effects
  adopted (handle : Handle) (state : S.State) (path : String) (watcher : Subscriber) :
    IsArmed state path watcher → IsArmed (S.adopt handle state) path watcher ∧
      node (S.adopt handle state) path = node state path
  listens (handle : Option Handle) (listener : Subscriber) (state : S.State) (path : String)
    (watcher : Subscriber) : IsArmed state path watcher →
      IsArmed (S.listen handle listener state) path watcher ∧
        node (S.listen handle listener state) path = node state path
  unlistens (handle : Option Handle) (listener : Subscriber) (state : S.State) (path : String)
    (watcher : Subscriber) : IsArmed state path watcher →
      IsArmed (S.unlisten handle listener state) path watcher ∧
        node (S.unlisten handle listener state) path = node state path

namespace Watching

variable (watching : Watching S)

/-- The call stands for the request. -/
def Stands (point : S.Point) (request : Request) : Prop := watching.asks point = some request

theorem stands : Loop.Stands watching.Stands :=
  ⟨watching.opens, fun moment point next wake state _ stands goesOn =>
    (watching.goesOn moment point next wake state goesOn).trans stands⟩

/-- A cache's watch is there, and the node is what it was. -/
def Guards (path : String) (cache : CacheId) (node : Value → Option Content)
    (state : S.State) : Prop :=
  watching.IsArmed state path (.cache cache) ∧ watching.node state path = node

theorem alerts {cache : CacheId} {effects : List (Effect S.Call S.Point S.Reply)}
    (fires : ∃ key news, .fire (.cache cache) key news ∈ effects) : Loop.Alerts cache effects := by
  obtain ⟨key, news, member⟩ := fires
  exact ⟨_, member, rfl⟩

/-- A watch that is there lasts, and so does the node. -/
theorem guards_resumed {path : String} {cache : CacheId} {node : Value → Option Content}
    {state : S.State} (guards : watching.Guards path cache node state) (moment : Moment)
    (point : S.Point) (wake : Wake S.Reply) :
    watching.Guards path cache node (S.resume moment point wake state).state ∨
      Loop.Alerts cache (S.resume moment point wake state).effects := by
  rcases watching.resumed moment point wake state path _ guards.1 with ⟨armed, same⟩ | fires
  · exact .inl ⟨armed, same.trans guards.2⟩
  · exact .inr (alerts fires)

theorem lasting (path : String) (cache : CacheId) (node : Value → Option Content) :
    Loop.Lasting cache (watching.Guards path cache node) where
  occurred moment event state occurrence guards occurs := by
    rcases watching.occurred moment event state occurrence path _ guards.1 occurs with
      ⟨armed, same⟩ | fires
    · exact .inl ⟨armed, same.trans guards.2⟩
    · exact .inr (alerts fires)
  connected arguments state state' effects handle guards connects := by
    rcases watching.connected arguments state state' effects handle path _ guards.1 connects with
      ⟨armed, same⟩ | fires
    · exact .inl ⟨armed, same.trans guards.2⟩
    · exact .inr (alerts fires)
  adopted handle state guards := by
    obtain ⟨armed, same⟩ := watching.adopted handle state path _ guards.1
    exact ⟨armed, same.trans guards.2⟩
  listens handle listener state guards := by
    obtain ⟨armed, same⟩ := watching.listens handle listener state path _ guards.1
    exact ⟨armed, same.trans guards.2⟩
  unlistens handle listener state guards := by
    obtain ⟨armed, same⟩ := watching.unlistens handle listener state path _ guards.1
    exact ⟨armed, same.trans guards.2⟩

end Watching

/-! ## A service that reads late -/

namespace Late

theorem answer_finishes (request : Request) (state : State) :
    ∃ outcome, (answer request state).verdict = .finish outcome := by
  cases request with
  | ensure path parentsOnly => exact ⟨_, rfl⟩
  | look path watcher => exact ⟨_, rfl⟩
  | fetch path watcher compressed =>
    unfold answer
    dsimp only
    split <;> exact ⟨_, rfl⟩

/-- An answer changes no node, and takes no watch away. -/
theorem answer_keeps (request : Request) (state : State) :
    (answer request state).state.nodes = state.nodes ∧
      ∀ watch ∈ state.watches, watch ∈ (answer request state).state.watches := by
  have watched : ∀ path watcher, (state.watch path watcher).nodes = state.nodes ∧
      ∀ watch ∈ state.watches, watch ∈ (state.watch path watcher).watches := fun path watcher =>
    ⟨state.watch_nodes path watcher, fun watch member => State.mem_watch.mpr (.inr member)⟩
  cases request with
  | ensure path parentsOnly => exact ⟨rfl, fun _ => id⟩
  | look path watcher => exact watched path watcher
  | fetch path watcher compressed =>
    unfold answer
    dsimp only
    split
    · exact ⟨rfl, fun _ => id⟩
    · cases watcher with
      | none => exact ⟨rfl, fun _ => id⟩
      | some watcher => exact watched path watcher

theorem resume_keeps (request : Request) (wake : Wake Reply) (state : State) :
    (resume request wake state).state.nodes = state.nodes ∧
      ∀ watch ∈ state.watches, watch ∈ (resume request wake state).state.watches := by
  unfold resume
  split
  · exact ⟨rfl, fun _ => id⟩
  · exact answer_keeps request state
  · exact ⟨rfl, fun _ => id⟩
  · exact ⟨rfl, fun _ => id⟩
  · exact ⟨rfl, fun _ => id⟩

/-- What happens takes out the watches of a node that changes, and fires them. -/
theorem occur_keeps (event : Event) {state : State} {path : String} {watcher : Subscriber}
    (isArmed : (path, watcher) ∈ state.watches) :
    (path, watcher) ∈ (occur event state).state.watches ∧
        (occur event state).state.nodes path = state.nodes path ∨
      ∃ key news, .fire watcher key news ∈ (occur event state).effects := by
  cases event with
  | link link => exact .inl ⟨isArmed, rfl⟩
  | set changed content =>
    by_cases here : path = changed
    · subst here
      refine .inr ⟨path, none, List.mem_map.mpr ⟨(path, watcher), ?_, rfl⟩⟩
      simpa using isArmed
    · exact .inl ⟨List.mem_filter.mpr ⟨isArmed, by simpa using here⟩, if_neg here⟩

/-- The service that reads late is one that watches. -/
def watching : Watching service where
  asks := some
  IsArmed state path watcher := (path, watcher) ∈ state.watches
  node state path _ := state.nodes path
  opens _ _ := rfl
  goesOn moment point next wake state goesOn := by
    have resumed : (resume point wake state).verdict.next? = some next := goesOn
    cases wake with
    | goOn =>
      cases resumed
      rfl
    | reply reply =>
      cases reply with
      | answered =>
        obtain ⟨outcome, finishes⟩ := answer_finishes point state
        have answered : (answer point state).verdict.next? = some next := resumed
        rw [finishes] at answered
        cases answered
      | refused => cases resumed
    | cancelled => cases resumed
    | ended outcome => cases resumed
  looks moment point wake state path watcher result asks finishes := by
    cases asks
    have resumed : (resume (.look path watcher) wake state).verdict = .finish (.returned result) :=
      finishes
    cases wake with
    | reply reply =>
      cases reply with
      | answered => exact State.mem_watch.mpr (.inl rfl)
      | refused => cases resumed
    | _ => cases resumed
  resumed moment point wake state path watcher isArmed := by
    obtain ⟨nodes, watches⟩ := resume_keeps point wake state
    exact .inl ⟨watches _ isArmed, funext fun _ => congrFun nodes path⟩
  occurred moment event state occurrence path watcher isArmed occurs := by
    cases occurs
    exact (occur_keeps event isArmed).imp_left fun ⟨stays, same⟩ => ⟨stays, funext fun _ => same⟩
  connected _ _ _ _ _ _ _ _ connects := nomatch connects
  adopted _ _ _ _ isArmed := ⟨isArmed, rfl⟩
  listens _ _ _ _ _ isArmed := ⟨isArmed, rfl⟩
  unlistens _ _ _ _ _ isArmed := ⟨isArmed, rfl⟩

end Late

/-! ## Caches on a service that watches -/

namespace Loop

variable {allowed : Outside S} {before after : Loop S} {cache : CacheId} (watching : Watching S)

/-- No look has failed, or was cancelled, that the cache asked for since the connection was last
back. -/
def LooksReturn (cache : CacheId) (loop : Loop S) : Prop :=
  ∀ asked ∈ loop.askedSince cache, asked.2.isLook = true →
    ∀ outcome ∈ loop.outcome? asked.1, outcome.isReturn = true

instance (cache : CacheId) (loop : Loop S) : Decidable (loop.LooksReturn cache) :=
  inferInstanceAs (Decidable (∀ asked ∈ loop.askedSince cache, asked.2.isLook = true →
    ∀ outcome ∈ loop.outcome? asked.1, outcome.isReturn = true))

/-- In a lull the cache's watcher is armed, unless a look has failed. -/
def IsHearing (cache : CacheId) (loop : Loop S) : Prop :=
  ∀ known, loop.caches[cache]? = some known → loop.IsLull cache → loop.LooksReturn cache →
    watching.IsArmed loop.service known.path (.cache cache)

/-- Looks that have returned after a step that leaves a lull have returned before it. -/
theorem Happens.looksReturn (happens : Happens allowed before after) (isRegular : before.IsRegular)
    (lull : after.IsLull cache) (looksReturn : after.LooksReturn cache) :
    before.LooksReturn cache := by
  intro asked isOld isLook outcome ended
  have hasStarted : before.HasStarted cache :=
    (happens.hasStarted lull.hasStarted).resolve_right fun prompted => prompted.1 lull.isUnprompted
  have retains := happens.retains isRegular (isRegular.hasBegun cache hasStarted) lull
  exact looksReturn asked (retains.asked _ lull.isUnprompted isOld) isLook outcome
    (happens.outcome isRegular.endedAreBare ended)

/-- A look that has just returned has armed the cache's watcher. -/
theorem Happens.looked (happens : Happens allowed before after)
    (requestsStand : before.RequestsStand watching.Stands) (askedStand : after.AskedStand)
    {known : Cache} (found : after.caches[cache]? = some known) {task : TaskId} {path : String}
    {watcher : Subscriber} (asked : (task, .look path watcher) ∈ after.askedSince cache)
    (isOpen : before.outcome? task = none) {answer : Answer}
    (ended : after.outcome? task = some (.returned answer)) :
    watching.IsArmed after.service known.path (.cache cache) := by
  obtain ⟨request, owner, query, isTask, role, isThere, isQuery⟩ :=
    askedStand cache task _ (askedSince_mem asked) (by simp [Request.watcher?])
  cases found.symm.trans isThere
  have comes := happens.ends isOpen ended
  obtain ⟨old, earlier⟩ := comes.isThere
  obtain ⟨request', isTask', role'⟩ := happens.remains.roles task old earlier
  cases isTask.symm.trans isTask'
  obtain ⟨owner, wake, point, isThere', isAt, asks, verdict, same⟩ :=
    comes.finishes requestsStand earlier (role'.symm.trans role) (by simp)
  obtain ⟨owner', found', ages⟩ := happens.course.grows cache owner isThere'
  cases found.symm.trans found'
  cases query with
  | fetch => cases isQuery
  | look =>
    rw [← ages.queryRequest cache .look] at asks
    have armed := watching.looks _ point wake _ known.path (.cache cache) answer asks verdict
    obtain ⟨tickets, alarms, turn⟩ := serviceTurn_loop before.inTurn task point wake
    rw [same, afterTurn_service, turn]
    exact (perform_lasts (watching.lasting known.path cache _) _ ⟨armed, rfl⟩).1

/-- **A cache does not stop hearing**, whatever happens. -/
theorem Happens.isHearing (happens : Happens allowed before after) (isRegular : before.IsRegular)
    (requestsStand : before.RequestsStand watching.Stands) (askedStand : after.AskedStand)
    (isHearing : before.IsHearing watching cache) : after.IsHearing watching cache := by
  intro known found lull looksReturn
  rcases happens.isLull isRegular lull with earlier
    | ⟨task, path, watcher, outcome, asked, isOpen, ended⟩
  · obtain ⟨old, isThere, -⟩ := earlier.isUnprompted
    obtain ⟨known', found', ages⟩ := happens.course.grows cache old isThere
    cases found.symm.trans found'
    have armed := isHearing old isThere earlier (happens.looksReturn isRegular lull looksReturn)
    rw [ages.path]
    have guards :
        watching.Guards old.path cache (watching.node before.service old.path) before.service :=
      ⟨armed, rfl⟩
    exact (happens.lasts (watching.lasting old.path cache _) isRegular lull
      (fun task wake point rest _ => watching.guards_resumed guards _ point wake) guards).1
  · obtain ⟨answer, rfl⟩ := Outcome.eq_of_isReturn (looksReturn _ asked rfl outcome ended)
    exact happens.looked watching requestsStand askedStand found asked isOpen ended

theorem Reaches.isHearing {service : S.State} {last : Loop S}
    (run : Reaches allowed (fresh service) last) (cache : CacheId) :
    last.IsHearing watching cache := by
  induction run with
  | refl => exact fun known found => by simp [fresh] at found
  | tail run happens step =>
    exact happens.isHearing watching (Reaches.isRegular run)
      (Reaches.requestsStand watching.stands run)
      (happens.askedStand (Reaches.askedStand run)) step

/-- **The watcher of a cache at rest is armed**, in every run, unless a look has failed that the
cache asked for since the connection was last back. A change of the node will not leave the cache at
rest. -/
theorem armed_at_rest {service : S.State} {loop : Loop S}
    (run : Reaches allowed (fresh service) loop) {known : Cache}
    (found : loop.caches[cache]? = some known) (isAtRest : loop.IsAtRest cache known)
    (looksReturn : loop.LooksReturn cache) :
    watching.IsArmed loop.service known.path (.cache cache) ∧
      ∀ after known', Happens allowed loop after → after.caches[cache]? = some known' →
        after.IsAtRest cache known' →
          watching.node after.service known.path = watching.node loop.service known.path := by
  have isRegular := Reaches.isRegular run
  have armed := Reaches.isHearing watching run cache known found
    (isAtRest.isLull found isRegular.askedStand) looksReturn
  refine ⟨armed, fun after known' happens found' still => ?_⟩
  have guards :
      watching.Guards known.path cache (watching.node loop.service known.path) loop.service :=
    ⟨armed, rfl⟩
  exact (happens.lasts (watching.lasting known.path cache _) isRegular
    (still.isLull found' (happens.askedStand isRegular.askedStand))
    (fun task wake point rest _ => watching.guards_resumed guards _ point wake) guards).2

end Loop

namespace Late

/-- What comes of commands that are given at the beginning. -/
def settled (commands : List (Command service)) : Loop service :=
  Loop.enact 60 commands (Loop.fresh ({} : State))

/-- A cache is started, and its node comes into being; the fetches that follow are refused. -/
def refusing : List (Command service) :=
  [.make "c" (.text "/a") .null, .start "c" (.bool false), .release [1] (.reply Reply.answered),
    .occur (Event.set "/a" (some ⟨⟨1, 1⟩, [7]⟩)), .release [2] (.reply Reply.answered),
    .release [3] (.reply Reply.refused)]

/-- A cache whose fetch was refused has not seen its node, but hears of the next change. -/
theorem armed_after_refusal :
    ((settled refusing).caches[0]?).map (·.data) = some (.absent "/a") ∧
      ("/a", .cache 0) ∈ (settled refusing).service.watches := by
  have run : Loop.Reaches Loop.anything (Loop.fresh ({} : State)) (settled refusing) :=
    Loop.enact_reaches 60 refusing _ (fun _ _ _ => trivial) (by decide +kernel)
  have view : ((settled refusing).caches[0]?).map (·.data) = some (.absent "/a") := by
    decide +kernel
  have rests : ((settled refusing).caches[0]?).all fun known =>
      decide (known.path = "/a" ∧ (settled refusing).IsAtRest 0 known) := by decide +kernel
  obtain ⟨known, found, -⟩ := Option.map_eq_some_iff.mp view
  rw [found, Option.all_some] at rests
  obtain ⟨path, isAtRest⟩ := of_decide_eq_true rests
  have looksReturn : (settled refusing).LooksReturn 0 := by decide +kernel
  have armed := (Loop.armed_at_rest watching run found isAtRest looksReturn).1
  rw [path] at armed
  exact ⟨view, armed⟩

end Late

end WatchedNode
