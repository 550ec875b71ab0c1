/-
**Whom a session sends out.**

In one turn a session sends out at most one task (`Sends`): the probe, when the connection is down
and there is none, or a watch for somebody who does not wait for that key yet. A watch is armed by
the answer to a look or to a fetch (`Arms`), and after such an answer the watcher waits for the key
(`Sessions.turn_arms`).

A look that has ended has armed its watch, or the connection is down (`Sessions.turn_looks`); the
probe goes on as long as the connection is down (`Sessions.turn_probes`); and a watch goes on as it
is, or it tells its watcher, or it ends because the connection has failed (`Sessions.turn_watches`).
-/
import WatchedNode.Proofs.Loop.Chores
import WatchedNode.Proofs.Store.Transport
import WatchedNode.Proofs.Store.Vigil

namespace WatchedNode

/-! ## What a session hears -/

/-- What is answered, if anything is. -/
def Store.Response.answer? : Store.Response → Option (Except Error Record)
  | .answered result => some result
  | .held => none

/-- What the store says in a turn of a task, if it says anything. -/
def Sessions.heard (point : Point) (wake : Wake Plan) (store : Store) :
    Option (Except Error Record) :=
  match point, wake with
  | _, .cancelled => none
  | .ask _ call _, _ => (store.submit call).2.1.answer?
  | .asked _ call _, .reply plan => (store.follow plan call).2.1.answer?
  | .asked _ call _, _ => (store.follow .serve call).2.1.answer?
  | _, _ => none

/-- What an answer to a watch has to tell: a change, or that its watcher should look for itself. -/
def newsOf : Except Error Record → Option (Option Record)
  | .ok record => some (some record)
  | .error (.store .watchTimedOut _ _) | .error (.store .connectionFailed _ _) => none
  | .error (.store _ _ _) => some none
  | .error _ => none

theorem newsOf_other {fault : StoreFault} {message : String} {payload : Value}
    (isPatient : fault ≠ .watchTimedOut) (isReached : fault ≠ .connectionFailed) :
    newsOf (.error (.store fault message payload)) = some none := by
  cases fault <;> first | rfl | contradiction

/-! ## Whom a session sends out -/

/-- Nobody is cancelled, no watcher is told, and held calls are only released with answers. -/
def Harmless (effects : List SessionEffect) : Prop :=
  ∀ effect ∈ effects,
    match effect with
    | .cancel _ | .fire .. => False
    | .release _ plan => ∃ record, plan = .answer record
    | _ => True

theorem Harmless.nil : Harmless [] := fun effect member => by cases member

theorem Harmless.append {first second : List SessionEffect} (left : Harmless first)
    (right : Harmless second) : Harmless (first ++ second) := by
  intro effect member
  rcases List.mem_append.mp member with early | late
  · exact left effect early
  · exact right effect late

/-- A session sends out nobody and cancels nobody; if the connection goes down, there is a probe. -/
structure Stays (before after : Session) (effects : List SessionEffect) : Prop where
  options : after.options = before.options
  isOpen : after.isOpen = before.isOpen
  watches : after.watches = before.watches
  probe : after.probe = before.probe
  guarded : after.isDown → before.isDown ∨ after.probe ≠ none
  harmless : Harmless effects
  silent : errands effects = []

/-- Somebody waits for a key. -/
def Session.IsArmed (key : String) (watcher : Subscriber) (session : Session) : Prop :=
  ∃ task, ⟨key, watcher, task⟩ ∈ session.watches

/-- A session sends out at most one task, `next`: its probe, or one of those watches, for somebody
who does not wait for that key yet. -/
inductive Sends (handle : Handle) (next : TaskId) (arms : Vigil → Prop) (before after : Session)
    (effects : List SessionEffect) : Prop
  | nobody (stays : Stays before after effects)
  | probe (options : after.options = before.options) (isOpen : after.isOpen = before.isOpen)
      (watches : after.watches = before.watches) (isFirst : before.probe = none)
      (probe : after.probe = some next) (harmless : Harmless effects)
      (sent : errands effects = [⟨some handle, .probe⟩]) (isDown : after.isDown = true)
  | watch (vigil : Vigil) (isRight : arms vigil) (isNew : ¬ before.IsArmed vigil.key vigil.watcher)
      (options : after.options = before.options) (isOpen : after.isOpen = before.isOpen)
      (watches : after.watches = before.watches ++ [⟨vigil.key, vigil.watcher, next⟩])
      (probe : after.probe = before.probe)
      (guarded : after.isDown → before.isDown ∨ after.probe ≠ none) (harmless : Harmless effects)
      (sent : errands effects = [⟨some handle, .poll vigil.key vigil.watcher vigil.index⟩])

/-- The watch that a session arms when a request for a key has been answered like that. -/
inductive Arms (key : String) : Errand → Except Error Record → Vigil → Prop
  | look (watcher : Subscriber) (record : Record) :
      Arms key (.looking (some watcher)) (.ok record) ⟨key, watcher, some (record.index + 1)⟩
  | fetch (path decompress : Value) (watcher : Subscriber) (record : Record) :
      Arms key (.fetching path (some watcher) decompress) (.ok record)
        ⟨key, watcher, some (record.index + 1)⟩
  | absent (watcher : Subscriber) {message : String} {payload : Value} {index : Option Int}
      (isIndex : Key.nextIndex payload = .ok index) :
      Arms key (.looking (some watcher)) (.error (.store .keyNotFound message payload))
        ⟨key, watcher, index⟩

theorem Sends.mono {handle : Handle} {next : TaskId} {arms others : Vigil → Prop}
    {before after : Session} {effects : List SessionEffect}
    (sends : Sends handle next arms before after effects)
    (wider : ∀ vigil, arms vigil → others vigil) :
    Sends handle next others before after effects := by
  cases sends with
  | nobody stays => exact .nobody stays
  | probe options isOpen watches isFirst probe harmless sent isDown =>
    exact .probe options isOpen watches isFirst probe harmless sent isDown
  | watch vigil isRight isNew options isOpen watches probe guarded harmless sent =>
    exact .watch vigil (wider vigil isRight) isNew options isOpen watches probe guarded
      harmless sent

section

variable {handle : Handle} {next : TaskId} {arms : Vigil → Prop} {before after : Session}
  {effects : List SessionEffect} (sends : Sends handle next arms before after effects)

include sends

theorem Sends.sent : errands effects = [] ∨
    ∃ point : Point, errands effects = [⟨some handle, point⟩] ∧ point.IsSound := by
  cases sends with
  | nobody stays => exact .inl stays.silent
  | probe _ _ _ _ _ _ sent _ => exact .inr ⟨_, sent, trivial⟩
  | watch vigil _ _ _ _ _ _ _ _ sent => exact .inr ⟨_, sent, trivial⟩

theorem Sends.isOpen : after.isOpen = before.isOpen := by
  cases sends with
  | nobody stays => exact stays.isOpen
  | probe _ isOpen _ _ _ _ _ _ => exact isOpen
  | watch _ _ _ _ isOpen _ _ _ _ _ => exact isOpen

theorem Sends.harmless : Harmless effects := by
  cases sends with
  | nobody stays => exact stays.harmless
  | probe _ _ _ _ _ harmless _ _ => exact harmless
  | watch vigil _ _ _ _ _ _ _ harmless _ => exact harmless

end

theorem Harmless.not_cancels {effects : List SessionEffect} (harmless : Harmless effects)
    (task : TaskId) :
    .cancel task ∉ effects := fun member => harmless _ member

namespace Stays

variable {first second third : Session} {effects later : List SessionEffect}

/-- A change of something else. -/
theorem of_eq (options : second.options = first.options) (isOpen : second.isOpen = first.isOpen)
    (watches : second.watches = first.watches) (probe : second.probe = first.probe)
    (link : second.link = first.link) : Stays first second [] := by
  refine ⟨options, isOpen, watches, probe, fun isDown => .inl ?_, .nil, rfl⟩
  rwa [Session.isDown, ← link]

theorem refl (session : Session) : Stays session session [] := of_eq rfl rfl rfl rfl rfl

/-- Effects that are written down or release somebody. -/
theorem idle (session : Session) (harmless : Harmless effects) (silent : errands effects = []) :
    Stays session session effects := ⟨rfl, rfl, rfl, rfl, .inl, harmless, silent⟩

theorem guards (stays : Stays first second effects)
    (guarded : third.isDown → second.isDown ∨ third.probe ≠ none)
    (probe : third.probe = second.probe) : third.isDown → first.isDown ∨ third.probe ≠ none := by
  intro isDown
  rcases guarded isDown with earlier | probing
  · rw [probe]
    exact stays.guarded earlier
  · exact .inr probing

theorem trans (left : Stays first second effects) (right : Stays second third later) :
    Stays first third (effects ++ later) := by
  refine ⟨right.options.trans left.options, right.isOpen.trans left.isOpen,
    right.watches.trans left.watches, right.probe.trans left.probe,
    left.guards right.guarded right.probe, left.harmless.append right.harmless, ?_⟩
  rw [errands_append, left.silent, right.silent, List.append_nil]

/-- Whom it sends out after that is whom it sends out. -/
theorem trans_sends {handle : Handle} {next : TaskId} {arms : Vigil → Prop}
    (stays : Stays first second effects) (sends : Sends handle next arms second third later) :
    Sends handle next arms first third (effects ++ later) := by
  have sent : errands (effects ++ later) = errands later := by
    rw [errands_append, stays.silent, List.nil_append]
  cases sends with
  | nobody others => exact .nobody (stays.trans others)
  | probe options isOpen watches isFirst probe harmless sent' isDown =>
    exact .probe (options.trans stays.options) (isOpen.trans stays.isOpen)
      (watches.trans stays.watches) (stays.probe.symm.trans isFirst) probe
      (stays.harmless.append harmless) (sent.trans sent') isDown
  | watch vigil isRight isNew options isOpen watches probe guarded harmless sent' =>
    rw [Session.IsArmed, stays.watches] at isNew
    refine .watch vigil isRight isNew (options.trans stays.options) (isOpen.trans stays.isOpen) ?_
      (probe.trans stays.probe) (stays.guards guarded probe) (stays.harmless.append harmless)
      (sent.trans sent')
    rw [watches, stays.watches]

end Stays

namespace Session

variable (handle : Handle) (next self : TaskId) (session : Session)

theorem tells_harmless (listeners : List Subscriber) (link : Link) :
    Harmless (listeners.map fun listener => .tell handle listener link) ∧
      errands (listeners.map fun listener => (.tell handle listener link : SessionEffect)) =
        [] := by
  induction listeners with
  | nil => exact ⟨.nil, rfl⟩
  | cons listener rest step =>
    refine ⟨fun effect member => ?_, step.2⟩
    rcases List.mem_cons.mp member with rfl | later
    · trivial
    · exact step.1 effect later

theorem setLink_sends {arms : Vigil → Prop} (link : Link) :
    Sends handle next arms session (session.setLink handle next link).1
      (session.setLink handle next link).2 := by
  obtain ⟨harmless, silent⟩ := tells_harmless handle session.listeners link
  unfold setLink
  split
  · exact .nobody (.refl session)
  · dsimp only
    split
    · next isFirst =>
      rw [Bool.and_eq_true, Option.isNone_iff_eq_none] at isFirst
      refine .probe rfl rfl rfl isFirst.2 rfl (harmless.append fun effect member => ?_) ?_ isFirst.1
      · rw [List.mem_singleton.mp member]
        trivial
      · rw [errands_append, silent]
        rfl
    · next isWatched =>
      refine .nobody ⟨rfl, rfl, rfl, rfl, fun isDown => .inr fun unprobed => isWatched ?_, harmless,
        silent⟩
      have isDown : (!link.isUp) = true := isDown
      have unprobed : session.probe = none := unprobed
      rw [isDown, unprobed]
      rfl

/-- A session that learns that the connection works sends out nobody. -/
theorem setLink_stays {link : Link} (isUp : link.isUp = true) :
    Stays session (session.setLink handle next link).1 (session.setLink handle next link).2 := by
  obtain ⟨harmless, silent⟩ := tells_harmless handle session.listeners link
  unfold setLink
  split
  · exact .refl session
  · dsimp only
    rw [isUp]
    refine ⟨rfl, rfl, rfl, rfl, fun isDown => ?_, harmless, silent⟩
    have isDown : (!link.isUp) = true := isDown
    rw [isUp] at isDown
    cases isDown

/-- After that the connection has that state. -/
theorem setLink_link (link : Link) : (session.setLink handle next link).1.link = some link := by
  unfold setLink
  split
  · next same => exact same
  · dsimp only
    split <;> rfl

theorem alive_stays :
    Stays session (session.alive handle next).1 (session.alive handle next).2 := by
  unfold alive
  split
  · exact setLink_stays handle next session rfl
  · split
    · exact .refl session
    · exact setLink_stays handle next session rfl

theorem failed_sends {arms : Vigil → Prop} :
    Sends handle next arms session (session.failed handle next).1
      (session.failed handle next).2 := by
  unfold failed
  split
  · exact setLink_sends handle next session _
  · exact .nobody (.refl session)

theorem arm_sends {arms : Vigil → Prop} (key : String) (watcher : Option Subscriber)
    (index : Option Int) (isRight : ∀ asker, watcher = some asker → arms ⟨key, asker, index⟩) :
    Sends handle next arms session (session.arm handle next key watcher index).1
      (session.arm handle next key watcher index).2 := by
  unfold arm
  split
  · exact .nobody (.refl session)
  · next watcher =>
    split
    · exact .nobody (.refl session)
    · next unarmed =>
      refine .watch ⟨key, watcher, index⟩ (isRight watcher rfl) ?_ rfl rfl rfl rfl .inl
        (fun effect member => ?_) rfl
      · rintro ⟨task, member⟩
        exact unarmed (List.any_eq_true.mpr ⟨_, member, by simp⟩)
      · rw [List.mem_singleton.mp member]
        trivial

theorem arm_isArmed (key : String) (watcher : Subscriber) (index : Option Int) :
    (session.arm handle next key (some watcher) index).1.IsArmed key watcher := by
  unfold arm
  dsimp only
  split
  · next known =>
    obtain ⟨watch, member, same⟩ := List.any_eq_true.mp known
    rw [Bool.and_eq_true, decide_eq_true_eq, decide_eq_true_eq] at same
    obtain ⟨rfl, rfl⟩ := same
    exact ⟨watch.task, member⟩
  · exact ⟨next, List.mem_append_right _ List.mem_cons_self⟩

/-! ### Requests -/

theorem request_stays (errand : Errand) (call : StoreCall) :
    Stays session (session.request errand call).1 (session.request errand call).2.1 := by
  unfold request
  split <;> exact .refl session

theorem requestOf_stays (errand : Errand) (call : Except Error StoreCall) :
    Stays session (session.requestOf errand call).1 (session.requestOf errand call).2.1 := by
  unfold requestOf
  split
  · exact request_stays session errand _
  · exact .refl session

theorem begins_stays (isSlow : Bool) {operation : Operation} (isOther : operation ≠ .stop) :
    Stays session (session.begins isSlow operation).1 (session.begins isSlow operation).2.1 := by
  unfold begins
  dsimp only
  split
  · split
    · exact .refl session
    · exact request_stays session _ _
  · exact absurd rfl isOther
  · exact .refl session
  · exact .refl session
  · exact requestOf_stays session _ _
  · exact requestOf_stays session _ _
  · exact requestOf_stays session _ _
  · exact requestOf_stays session _ _

theorem ensures_stays (above : String) (below : List String) :
    Stays session (session.ensures above below).1 (session.ensures above below).2.1 := by
  induction below generalizing above with
  | nil => exact .refl session
  | cons segment below step =>
    unfold ensures
    dsimp only
    split
    · exact step _
    · split
      · exact request_stays session _ _
      · exact .refl session

theorem remember_stays (path : String) : Stays session (session.remember path) [] := by
  unfold remember
  split
  · exact .refl session
  · exact .of_eq rfl rfl rfl rfl rfl

theorem answered_sends (errand : Errand) (key : String) (record : Record) :
    Sends handle next (Arms key errand (.ok record)) session
      (session.answered handle next errand key record).1
      (session.answered handle next errand key record).2.1 := by
  unfold answered
  split
  · exact .nobody (.of_eq rfl rfl rfl rfl rfl)
  · exact .nobody (.of_eq rfl rfl rfl rfl rfl)
  · exact .nobody (remember_stays session _)
  · exact .nobody (remember_stays session _)
  · refine arm_sends handle next session key _ _ fun asker same => ?_
    rw [same]
    exact .look asker record
  · refine arm_sends handle next session key _ _ fun asker same => ?_
    rw [same]
    exact .fetch _ _ asker record
  · exact .nobody (.of_eq rfl rfl rfl rfl rfl)
  · exact .nobody (.refl session)
  · exact .nobody (.refl session)

theorem notFound_sends (errand : Errand) (key : String) (error : Error) (message : String)
    (payload : Value) :
    Sends handle next (Arms key errand (.error (.store .keyNotFound message payload))) session
      (session.notFound handle next errand key error payload).1
      (session.notFound handle next errand key error payload).2.1 := by
  unfold notFound
  split
  · exact .nobody (request_stays session _ _)
  · exact .nobody (request_stays session _ _)
  · split
    · exact .nobody (.refl session)
    · next isIndex =>
      refine arm_sends handle next session key _ _ fun asker same => ?_
      rw [same]
      exact .absent asker isIndex
  · exact .nobody (.refl session)
  · exact .nobody (.refl session)

theorem refused_stays (errand : Errand) (error : Error) :
    Stays session (session.refused errand error).1 (session.refused errand error).2.1 := by
  unfold refused
  split
  · exact remember_stays session _
  · exact .refl session

theorem retry_sends (errand : Errand) (call : StoreCall) (failures : Nat)
    (result : Except Error Record) :
    Sends handle next (Arms call.key errand result) session
      (session.retry handle next errand call failures result).1
      (session.retry handle next errand call failures result).2.1 := by
  have alive := alive_stays handle next session
  unfold retry
  split
  · exact alive.trans_sends (answered_sends handle next _ errand _ _)
  · split
    · exact alive.trans_sends (notFound_sends handle next _ errand _ _ _ _)
    · split
      · split
        · exact .nobody (.refl session)
        · exact setLink_sends handle next session _
        · exact failed_sends handle next session
      · exact .nobody (refused_stays session errand _)
    · exact .nobody (refused_stays session errand _)

/-- **After such an answer the watcher waits for the key.** -/
theorem retry_arms {errand : Errand} {call : StoreCall} {result : Except Error Record}
    {vigil : Vigil} (arms : Arms call.key errand result vigil) (failures : Nat) :
    (session.retry handle next errand call failures result).1.IsArmed vigil.key vigil.watcher := by
  cases arms with
  | look watcher record => exact arm_isArmed handle next _ call.key watcher _
  | fetch path decompress watcher record => exact arm_isArmed handle next _ call.key watcher _
  | @absent watcher message payload index isIndex =>
    unfold retry notFound
    dsimp only [after]
    rw [isIndex]
    exact arm_isArmed handle next _ call.key watcher index

theorem isLast_ok (failures : Nat) (isLimited : session.options.retries.number? ≠ none) :
    ∃ isOver, session.isLast failures = .ok isOver := by
  obtain ⟨limit, isNumber⟩ := Option.ne_none_iff_exists'.mp isLimited
  unfold isLast
  rw [isNumber]
  exact ⟨_, rfl⟩

/-- **A look that has come to an end has armed its watch, or the connection is down.** -/
theorem retry_looks {watcher : Subscriber} {key : String} {failures : Nat}
    {result : Except Error Record} (may : usual (.read key) result = true)
    (isLimited : session.options.retries.number? ≠ none)
    (isOver : (session.retry handle next (.looking (some watcher)) (.read key) failures
      result).2.2.next? = none) :
    (session.retry handle next (.looking (some watcher)) (.read key) failures
        result).1.IsArmed key watcher ∨
      (session.retry handle next (.looking (some watcher)) (.read key) failures
        result).1.isDown := by
  cases result with
  | ok record =>
    have arms : Arms (StoreCall.read key).key _ _ _ := .look watcher record
    exact .inl (retry_arms handle next session arms failures)
  | error error =>
    cases error with
    | store fault message payload =>
      cases fault with
      | connectionFailed =>
        obtain ⟨isLast, lasts⟩ := isLast_ok session failures isLimited
        simp only [retry, StoreFault.isConnection, if_true, lasts] at isOver ⊢
        cases isLast with
        | true =>
          refine .inr ?_
          rw [isDown, setLink_link]
          rfl
        | false => cases isOver
      | keyNotFound =>
        obtain ⟨index, isIndex⟩ : ∃ index, Key.nextIndex payload = .ok index := by
          cases told : Key.nextIndex payload with
          | ok index => exact ⟨index, rfl⟩
          | error error => simp [usual, told, Except.isOk, Except.toBool] at may
        have arms : Arms (StoreCall.read key).key (.looking (some watcher))
            (.error (.store .keyNotFound message payload)) ⟨key, watcher, index⟩ :=
          .absent watcher isIndex
        exact .inl (retry_arms handle next session arms failures)
      | _ => cases may
    | _ => cases may

/-! ### Probes -/

/-- The probe goes on, or the connection is not down. -/
inductive Probes (turn : SessionTurn) : Prop
  | goesOn (stays : Stays session turn.1 turn.2.1) (isThere : turn.2.2.next? ≠ none)
  | ends (isUp : session.isDown = false) (session' : turn.1 = { session with probe := none })
      (effects : turn.2.1 = []) (isOver : turn.2.2.next? = none)

theorem probes_probes (isTimed : session.options.delay.number? ≠ none) :
    session.Probes session.probes := by
  obtain ⟨delay, isNumber⟩ := Option.ne_none_iff_exists'.mp isTimed
  unfold probes
  split
  · rw [isNumber]
    exact .goesOn (.refl session) nofun
  · next isUp => exact .ends (Bool.eq_false_iff.mpr isUp) rfl rfl rfl

/-- A read of the probe that fails in some way of the store's own leaves the probe there. -/
theorem probed_goesOn_with {result : Except Error Record}
    (isFault : ∀ error, result = .error error →
      ∃ fault message payload, error = .store fault message payload) :
    Stays session (session.probed handle next result).1 (session.probed handle next result).2.1 ∧
      (session.probed handle next result).2.2.next? ≠ none := by
  have alive := alive_stays handle next session
  unfold probed
  split
  · exact ⟨alive, nofun⟩
  · exact ⟨alive, nofun⟩
  · split
    · exact ⟨.refl session, nofun⟩
    · refine ⟨.idle session (fun effect member => ?_) rfl, nofun⟩
      rw [List.mem_singleton.mp member]
      trivial
  · next error _ isOther =>
    obtain ⟨fault, message, payload, rfl⟩ := isFault error rfl
    exact absurd rfl (isOther fault message payload)

/-! ### Watches -/

/-- What becomes of a watch in its turn, in which the store says that, if it says anything. -/
inductive Watches (vigil : Vigil) (wake : Wake Plan) (heard : Option (Except Error Record))
    (turn : SessionTurn) : Prop
  /-- It goes on as before, if the store says nothing, or that it took too long. -/
  | goesOn {point : Point} (patient : ∀ result, heard = some result →
        ∃ message payload, result = .error (.store .watchTimedOut message payload))
      (found : turn.2.2.next? = some point) (same : point.vigil? = some vigil)
      (session' : turn.1 = session) (harmless : Harmless turn.2.1) (silent : errands turn.2.1 = [])
  /-- Its watcher is told. -/
  | tells {news : Option Record} {earlier : List SessionEffect}
      (isNews : heard.bind newsOf = some news) (harmless : Harmless earlier)
      (silent : errands earlier = []) (same : turn = (session.disarm vigil.key vigil.watcher self,
        earlier ++ [.fire vigil.watcher vigil.key news], .finish (.returned .nothing)))
  /-- The connection has failed. -/
  | suspends {message : String} {payload : Value} {middle : Session}
      (isFailure : heard = some (.error (.store .connectionFailed message payload)))
      (sends : Sends handle next (fun _ => False) session middle turn.2.1)
      (link : middle.link = some .suspended)
      (session' : turn.1 = middle.disarm vigil.key vigil.watcher self)
      (isOver : turn.2.2 = .finish (.returned .nothing))
  /-- There is no connection any more, or what was said is no failure of the store. -/
  | fails {error : Error} (isOther : session.isOpen = false ∧ heard = none ∨
        heard = some (.error error) ∧ ∀ fault message payload, error ≠ .store fault message payload)
      (session' : turn.1 = session.disarm vigil.key vigil.watcher self)
      (harmless : Harmless turn.2.1) (silent : errands turn.2.1 = [])
      (isOver : turn.2.2 = .finish (.failed error))
  | cancelled (isCancelled : wake = .cancelled)
      (same : turn = (session.disarm vigil.key vigil.watcher self, [], .finish .cancelled))

/-- What comes before the turn itself sends out nobody. -/
theorem Watches.after {session : Session} {vigil : Vigil} {wake : Wake Plan}
    {heard : Option (Except Error Record)} {turn : SessionTurn} {effects : List SessionEffect}
    (before : Stays session session effects) (isLeft : wake ≠ .cancelled)
    (watches : session.Watches handle next self vigil wake heard turn) :
    session.Watches handle next self vigil wake heard (Session.after effects turn) := by
  cases watches with
  | goesOn patient found same session' harmless silent =>
    refine .goesOn patient found same session' (before.harmless.append harmless) ?_
    rw [show (Session.after effects turn).2.1 = effects ++ turn.2.1 from rfl, errands_append,
      before.silent, silent, List.append_nil]
  | @tells news earlier isNews harmless silent same =>
    refine .tells isNews (before.harmless.append harmless) ?_ ?_
    · rw [errands_append, before.silent, silent, List.append_nil]
    · rw [same, Session.after, List.append_assoc]
  | suspends isFailure sends link session' isOver =>
    exact .suspends isFailure (before.trans_sends sends) link session' isOver
  | fails isOther session' harmless silent isOver =>
    refine .fails isOther session' (before.harmless.append harmless) ?_ isOver
    rw [show (Session.after effects turn).2.1 = effects ++ turn.2.1 from rfl, errands_append,
      before.silent, silent, List.append_nil]
  | cancelled isCancelled same => exact absurd isCancelled isLeft

theorem watched_watches (vigil : Vigil) (wake : Wake Plan) (result : Except Error Record) :
    session.Watches handle next self vigil wake (some result)
      (session.watched handle next self vigil.key vigil.watcher vigil.index result) := by
  unfold watched
  dsimp only
  split
  · exact .tells rfl .nil rfl rfl
  · split
    · exact .goesOn (fun result same => ⟨_, _, (Option.some.inj same).symm⟩) rfl rfl rfl .nil rfl
    · exact .tells rfl .nil rfl rfl
    · exact .suspends rfl (setLink_sends handle next session .suspended)
        (setLink_link handle next session .suspended) rfl rfl
    · next isPatient isHidden isReached =>
      refine .tells ?_ (fun effect member => ?_) (show errands [.complain _] = [] from rfl) rfl
      · exact newsOf_other isPatient isReached
      · rw [List.mem_singleton.mp member]
        trivial
  · next error isOther =>
    exact .fails (.inr ⟨rfl, isOther⟩) rfl .nil rfl rfl

end Session

namespace Sessions

theorem tells_stays (session : Session) (change : Option Change) :
    Stays session session (change.elim [] tells) := by
  cases change with
  | none => exact .refl session
  | some change =>
    refine .idle session (fun effect member => ?_) rfl
    rw [List.mem_singleton.mp member]
    exact ⟨change.record, rfl⟩

theorem noted_stays (session : Session) (call : StoreCall) :
    Stays session session [.note (.store call)] := by
  refine .idle session (fun effect member => ?_) rfl
  rw [List.mem_singleton.mp member]
  trivial

variable (moment : Moment) (handle : Handle) (isSlow : Bool)

/-- What is written down and what follows from a change come before the turn itself. -/
theorem await_eq (errand : Errand) (call : StoreCall) (failures : Nat)
    (written : List SessionEffect) (made : Store × Store.Response × Option Change)
    (session : Session) :
    made.2.1 = .held ∧ await moment handle errand call failures written made session =
        (made.1, session, written ++ made.2.2.elim [] tells,
          .hold (.asked errand call failures) call.method call.key) ∨
      ∃ result, made.2.1 = .answered result ∧
        await moment handle errand call failures written made session =
          (made.1, Session.after (written ++ made.2.2.elim [] tells)
            (session.concludes handle moment.next moment.self errand call failures result)) := by
  obtain ⟨store, response, change⟩ := made
  cases response with
  | held => exact .inl ⟨rfl, rfl⟩
  | answered result => exact .inr ⟨result, rfl, rfl⟩

/-- A task that is there for something else, or looks. -/
theorem await_sends {errand : Errand} (call : StoreCall) (failures : Nat)
    {written : List SessionEffect} (made : Store × Store.Response × Option Change)
    {session : Session} (stays : Stays session session written) (isNoProbe : errand ≠ .probing)
    (isNoWatch : ∀ watcher index, errand ≠ .watching watcher index) :
    Sends handle moment.next (fun vigil => ∃ result, made.2.1.answer? = some result ∧
        Arms call.key errand result vigil) session
      (await moment handle errand call failures written made session).2.1
      (await moment handle errand call failures written made session).2.2.1 := by
  have before := stays.trans (tells_stays session made.2.2)
  rcases await_eq moment handle errand call failures written made session with
    ⟨-, same⟩ | ⟨result, answered, same⟩
  · rw [same]
    exact .nobody before
  · rw [same]
    refine before.trans_sends ?_
    unfold Session.concludes
    split
    · exact absurd rfl isNoProbe
    · exact absurd rfl (isNoWatch _ _)
    · exact (Session.retry_sends handle moment.next session errand call failures result).mono
        fun vigil arms => ⟨result, by rw [answered, Store.Response.answer?], arms⟩

end Sessions

/-- A session that can make calls, and whose options have the types that they should have. -/
structure Session.IsFit (session : Session) : Prop where
  isOpen : session.isOpen = true
  isLimited : session.options.retries.number? ≠ none
  isTimed : session.options.delay.number? ≠ none

/-- The call of a task that makes one or waits for one. -/
def Point.made? : Point → Option (Errand × StoreCall)
  | .ask errand call _ | .asked errand call _ => some (errand, call)
  | _ => none

section

variable {root : String} {errand : Errand} {call : StoreCall}

theorem Point.of_made {point : Point} (isMade : point.made? = some (errand, call)) :
    point.aim root = (Point.ask errand call 0).aim root ∧ (point.IsSound → errand.Suits call) := by
  cases point with
  | ask known made failures =>
    cases isMade
    exact ⟨(Point.aim_ask root errand call _ _).1, id⟩
  | asked known made failures =>
    cases isMade
    exact ⟨(Point.aim_ask root errand call _ _).2, id⟩
  | _ => cases isMade

theorem Errand.of_looking {key : String} {watcher : Subscriber}
    (aim : (Point.ask errand call 0).aim root = .looking (.ok key) watcher)
    (suits : errand.Suits call) : errand = .looking (some watcher) ∧ call = .read key := by
  cases errand with
  | looking asker =>
    obtain ⟨key, rfl⟩ := suits
    cases asker <;> cases aim
    exact ⟨rfl, rfl⟩
  | _ => cases aim

theorem Errand.of_probing (aim : (Point.ask errand call 0).aim root = .probing)
    (suits : errand.Suits call) : errand = .probing ∧ ∃ key, call = .read key := by
  cases errand with
  | probing => exact ⟨rfl, suits⟩
  | looking asker => cases asker <;> cases aim
  | _ => cases aim

end

namespace Sessions

variable (moment : Moment) (handle : Handle) (isSlow : Bool)

/-- The turn of a task that makes a call or waits for one. -/
theorem turn_await {point : Point} {wake : Wake Plan} (store : Store) (session : Session)
    {errand : Errand} {call : StoreCall} (isMade : point.made? = some (errand, call))
    (isLeft : wake ≠ .cancelled) :
    ∃ failures written made, turn moment handle isSlow point wake store session =
        await moment handle errand call failures written made session ∧
      heard point wake store = made.2.1.answer? ∧ Stays session session written := by
  cases point with
  | ask errand call failures =>
    cases isMade
    cases wake with
    | cancelled => exact absurd rfl isLeft
    | _ => exact ⟨failures, _, _, rfl, rfl, noted_stays session call⟩
  | asked errand call failures =>
    cases isMade
    cases wake with
    | cancelled => exact absurd rfl isLeft
    | _ => exact ⟨failures, _, _, rfl, rfl, .refl session⟩
  | _ => cases isMade

/-- The watch that is armed in a turn of a task, by what the store says. -/
def ArmedBy (point : Point) (wake : Wake Plan) (store : Store) (vigil : Vigil) : Prop :=
  ∃ errand call result, point.made? = some (errand, call) ∧ heard point wake store = some result ∧
    Arms call.key errand result vigil

/-- **Whom a session sends out in the turn of a task that looks, or is there for something
else.** -/
theorem turn_sends {point : Point} {wake : Wake Plan} {store : Store} {session : Session}
    (root : String) (isNoProbe : point.aim root ≠ .probing)
    (isNoWatch : ∀ vigil, point.aim root ≠ .watching vigil) (isNoStop : point ≠ .begin .stop)
    (isLeft : wake ≠ .cancelled) :
    Sends handle moment.next (ArmedBy point wake store) session
      (turn moment handle isSlow point wake store session).2.1
      (turn moment handle isSlow point wake store session).2.2.1 := by
  cases isMade : point.made? with
  | some made =>
    obtain ⟨errand, call⟩ := made
    obtain ⟨failures, written, made, same, hears, stays⟩ :=
      turn_await moment handle isSlow store session isMade isLeft
    rw [same]
    refine (await_sends moment handle call failures made stays ?_ ?_).mono fun vigil ⟨result,
      answer, arms⟩ =>
      ⟨errand, call, result, isMade, hears.trans answer, arms⟩
    · rintro rfl
      cases point <;> cases isMade <;> exact isNoProbe rfl
    · rintro watcher index rfl
      cases point <;> cases isMade <;> exact isNoWatch _ rfl
  | none =>
    unfold turn
    split
    · exact absurd rfl isLeft
    · next operation _ _ =>
      refine .nobody (Session.begins_stays session isSlow ?_)
      rintro rfl
      exact isNoStop rfl
    · exact .nobody (Session.ensures_stays session _ _)
    · cases isMade
    · cases isMade
    · cases isMade
    · exact absurd rfl isNoProbe
    · exact absurd rfl isNoProbe
    · exact absurd rfl (isNoWatch _)
    · refine .nobody (.idle session (fun effect member => ?_) rfl)
      rw [List.mem_singleton.mp member]
      trivial

/-- **After an answer that arms a watch, the watcher waits for the key.** -/
theorem turn_arms {point : Point} {wake : Wake Plan} {store : Store} (session : Session)
    {vigil : Vigil} (armed : ArmedBy point wake store vigil) :
    (turn moment handle isSlow point wake store session).2.1.IsArmed vigil.key vigil.watcher := by
  obtain ⟨errand, call, result, isMade, hears, arms⟩ := armed
  have isLeft : wake ≠ .cancelled := by
    rintro rfl
    cases point <;> cases hears
  obtain ⟨failures, written, made, same, hears', -⟩ :=
    turn_await moment handle isSlow store session isMade isLeft
  rw [same]
  rcases await_eq moment handle _ _ failures written made session with
    ⟨held, -⟩ | ⟨answer, answered, same⟩
  · rw [hears, held] at hears'
    cases hears'
  · rw [hears, answered] at hears'
    cases hears'
    rw [same]
    have concludes : session.concludes handle moment.next moment.self errand call failures result =
        session.retry handle moment.next errand call failures result := by
      cases arms <;> rfl
    rw [concludes]
    exact Session.retry_arms handle moment.next session arms failures

/-- **A look that has come to an end has armed its watch, or the connection is down**, if it fails
in usual ways only. -/
theorem turn_looks {point : Point} {wake : Wake Plan} {store : Store} {session : Session}
    {key : String} {watcher : Subscriber}
    (aim : point.aim session.options.root = .looking (.ok key) watcher) (isSound : point.IsSound)
    (isFit : session.IsFit) (isLeft : wake ≠ .cancelled)
    (may : ∀ errand call result, point.made? = some (errand, call) →
      heard point wake store = some result →
      usual call result = true)
    (isOver : (turn moment handle isSlow point wake store session).2.2.2.next? = none) :
    (turn moment handle isSlow point wake store session).2.1.IsArmed key watcher ∨
      (turn moment handle isSlow point wake store session).2.1.isDown := by
  cases isMade : point.made? with
  | some made =>
    obtain ⟨errand, call⟩ := made
    obtain ⟨failures, written, made, same, hears, -⟩ :=
      turn_await moment handle isSlow store session isMade isLeft
    rw [same] at isOver ⊢
    obtain ⟨sameAim, suits⟩ := Point.of_made isMade
    obtain ⟨rfl, rfl⟩ := Errand.of_looking (sameAim.symm.trans aim) (suits isSound)
    rcases await_eq moment handle _ _ failures written made session with
      ⟨-, same⟩ | ⟨result, answered, same⟩
    · rw [same] at isOver
      cases isOver
    · rw [answered] at hears
      rw [same] at isOver ⊢
      exact Session.retry_looks handle moment.next session (may _ _ result isMade hears)
        isFit.isLimited isOver
  | none =>
    cases point with
    | begin operation =>
      cases operation with
      | look path asker =>
        cases asker with
        | none => cases aim
        | some asker =>
          have isKey : Key.ofValue session.options.root path = .ok key := (Aim.looking.inj aim).1
          cases wake with
          | cancelled => exact absurd rfl isLeft
          | _ =>
            simp [turn, Session.begins, isKey, Except.map, Session.requestOf, Session.request,
              isFit.isOpen, Session.goesOn, Verdict.next?] at isOver
      | _ => cases aim
    | ask errand call failures => cases isMade
    | asked errand call failures => cases isMade
    | _ => cases aim

/-- **The probe goes on as long as the connection is down**, unless its read fails in some way that
is not the store's own. -/
theorem turn_probes {point : Point} {wake : Wake Plan} {store : Store} {session : Session}
    {root : String} (aim : point.aim root = .probing) (isSound : point.IsSound)
    (isOpen : session.isOpen = true) (isTimed : session.options.delay.number? ≠ none)
    (isLeft : wake ≠ .cancelled)
    (isFault : ∀ error, heard point wake store = some (.error error) →
      ∃ fault message payload, error = .store fault message payload) :
    session.Probes (turn moment handle isSlow point wake store session).2 := by
  cases isMade : point.made? with
  | some made =>
    obtain ⟨errand, call⟩ := made
    obtain ⟨failures, written, made, same, hears, stays⟩ :=
      turn_await moment handle isSlow store session isMade isLeft
    obtain ⟨sameAim, suits⟩ := Point.of_made isMade
    obtain ⟨rfl, key, rfl⟩ := Errand.of_probing (sameAim.symm.trans aim) (suits isSound)
    have before := stays.trans (tells_stays session made.2.2)
    rw [same]
    rcases await_eq moment handle _ _ failures written made session with
      ⟨held, same⟩ | ⟨result, answered, same⟩
    · rw [same]
      exact .goesOn before nofun
    · rw [same]
      rw [answered] at hears
      have isFault : ∀ error, result = .error error →
          ∃ fault message payload, error = .store fault message payload := by
        rintro error rfl
        exact isFault error hears
      obtain ⟨stays, isThere⟩ := Session.probed_goesOn_with handle moment.next session isFault
      exact .goesOn (before.trans stays) isThere
  | none =>
    cases point with
    | probe =>
      cases wake with
      | cancelled => exact absurd rfl isLeft
      | _ => exact Session.probes_probes session isTimed
    | probeWakes =>
      have goes : session.Probes session.probeReads := by
        unfold Session.probeReads
        rw [isOpen]
        exact .goesOn (.refl session) nofun
      cases wake with
      | cancelled => exact absurd rfl isLeft
      | _ => exact goes
    | begin operation =>
      cases operation with
      | look path asker => cases asker <;> cases aim
      | _ => cases aim
    | ask errand call failures => cases isMade
    | asked errand call failures => cases isMade
    | _ => cases aim

/-- **What becomes of a watch in its turn.** -/
theorem turn_watches {point : Point} (wake : Wake Plan) (store : Store) (session : Session)
    {vigil : Vigil} (isWatch : point.vigil? = some vigil) :
    session.Watches handle moment.next moment.self vigil wake (heard point wake store)
      (turn moment handle isSlow point wake store session).2 := by
  by_cases isLeft : wake = .cancelled
  · subst isLeft
    refine .cancelled rfl ?_
    rcases Point.cases_of_vigil isWatch with rfl | ⟨failures, rfl | rfl⟩ <;> rfl
  have asks (isMade :
      point.made? = some (.watching vigil.watcher vigil.index, .watch vigil.key vigil.index)) :
      session.Watches handle moment.next moment.self vigil wake (heard point wake store)
        (turn moment handle isSlow point wake store session).2 := by
    obtain ⟨failures, written, made, same, hears, stays⟩ :=
      turn_await moment handle isSlow store session isMade isLeft
    have before := stays.trans (tells_stays session made.2.2)
    rw [same, hears]
    rcases await_eq moment handle _ _ failures written made session with
      ⟨held, same⟩ | ⟨result, answered, same⟩
    · rw [same, held]
      exact .goesOn (fun _ isHeard => by cases isHeard) rfl
        (by simp [Point.vigil?, StoreCall.key]) rfl
        before.harmless before.silent
    · rw [same, answered]
      exact .after _ _ _ before isLeft
        (Session.watched_watches handle moment.next moment.self session vigil wake result)
  rcases Point.cases_of_vigil isWatch with rfl | ⟨failures, rfl | rfl⟩
  · have polls : session.Watches handle moment.next moment.self vigil wake none
        (session.polls moment.self vigil.key vigil.watcher vigil.index) := by
      unfold Session.polls
      split
      · exact .goesOn (fun _ isHeard => by cases isHeard) rfl
          (by simp [Point.vigil?, StoreCall.key]) rfl .nil rfl
      · next closed =>
        exact .fails (.inl ⟨Bool.eq_false_iff.mpr closed, rfl⟩) rfl .nil rfl rfl
    cases wake with
    | cancelled => exact absurd rfl isLeft
    | _ => exact polls
  · exact asks rfl
  · exact asks rfl

end Sessions

end WatchedNode
