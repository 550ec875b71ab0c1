/-
**Every request is repeated by the same law.**

From the moment at which a task is about to make a request of its session, a `Trial` is kept of it:
how often the request is made, what the store has said, which states of the connection its own turns
have led to, whether anybody else has changed that state, and how the request has ended. Whatever
happens meanwhile is noted in the trial (`Tries`): a turn of the task, or something else.

* `IsUnderWay`: the request is made in the next step, or waits for an answer; all answers so far are
  failures, and there are no more of them than the limit allows;
* `HasEnded`: how the request has ended;
* `retries_by_law`: the law in terms of the outcomes that the store has for the request, of which
  `failuresOf` come before the first that is no failure.
-/
import WatchedNode.Proofs.Carriage
import WatchedNode.Proofs.Store.Retry

namespace WatchedNode

open Relation

/-! ## Requests that stay -/

/-- A request is no watch, and no probe. -/
theorem Errand.isRepeated_point {errand : Errand} (isRepeated : errand.isRepeated = true)
    (call : StoreCall) (failures : Nat) : (Point.ask errand call failures).vigil? = none ∧
      (Point.ask errand call failures).isProbe = false ∧
        (Point.asked errand call failures).vigil? = none ∧
      (Point.asked errand call failures).isProbe = false := by
  cases errand <;> first | exact ⟨rfl, rfl, rfl, rfl⟩ | cases isRepeated

/-- A session keeps its options, whoever listens to it. -/
theorem Sessions.Minds.hasOptions {before after : Sessions} (minds : before.Minds after)
    {handle : Handle} {options : SessionOptions}
    (has : ∃ session, before.sessions[handle]? = some session ∧ session.options = options) :
    ∃ session, after.sessions[handle]? = some session ∧ session.options = options := by
  obtain ⟨session, found, same⟩ := has
  obtain ⟨listeners, found'⟩ := minds.old found
  exact ⟨_, found', same⟩

namespace Loop

variable {allowed : Outside Sessions.service} {before after loop : Loop Sessions.service}
  {handle : Handle} {task : TaskId} {point : Point}

/-- A session is there with these options. -/
def HasOptions (handle : Handle) (options : SessionOptions) (loop : Loop Sessions.service) : Prop :=
  ∃ session, loop.service.sessions[handle]? = some session ∧ session.options = options

theorem Chore.hasOptions {options : SessionOptions} (chore : Chore allowed before after)
    (has : before.HasOptions handle options) : after.HasOptions handle options := by
  rcases chore.steady with ⟨-, minds⟩ | ⟨place, session, found, performs⟩
  · exact minds.hasOptions has
  · refine (Sessions.Minds.of_heeds performs.heeds).hasOptions ?_
    obtain ⟨session', found', same⟩ := has
    have closed := Sessions.modify_close found handle
    by_cases here : handle = place
    · subst here
      cases found.symm.trans found'
      rw [if_pos rfl] at closed
      exact ⟨_, closed, same⟩
    · rw [if_neg here] at closed
      exact ⟨session', closed.trans found', same⟩

theorem Happens.hasOptions {options : SessionOptions} (happens : Happens allowed before after)
    (areStacked : before.AreStacked) (isKept : before.IsKept)
    (has : before.HasOptions handle options) :
    after.HasOptions handle options := by
  rcases happens.turned areStacked isKept with
    ⟨other, wake, place, here, rest, session, -, -, turns⟩ | ⟨other, here, idles⟩ | chores
  · refine turns.minds.hasOptions ?_
    obtain ⟨session', found', same⟩ := has
    by_cases isHere : place = handle
    · subst isHere
      cases turns.found.symm.trans found'
      exact ⟨_, List.getElem?_set_self (List.getElem?_eq_some_iff.mp found').1,
        turns.accounts.options.trans same⟩
    · exact ⟨session', (List.getElem?_set_ne isHere).trans found', same⟩
  · exact idles.minds.hasOptions has
  · clear happens
    induction chores with
    | refl => exact has
    | tail _ chore step => exact chore.hasOptions step

/-- A task stands at a point of a session, and is not cancelled before it begins. -/
structure Lingers (handle : Handle) (task : TaskId) (point : Point)
    (loop : Loop Sessions.service) : Prop where
  stands : loop.at? task = some ⟨some handle, point⟩
  isLive : ¬ loop.IsDoomed task

section Lingering

variable (noWatch : point.vigil? = none) (noProbe : point.isProbe = false)

include noWatch noProbe

/-- Sessions only cancel their watches and probes. -/
theorem Lingers.uncounted (lingers : before.Lingers handle task point) (isKept : before.IsKept)
    {place : Handle} {session : Session} (found : before.service.sessions[place]? = some session) :
    ¬ session.Counts task := by
  intro counts
  obtain ⟨here, stands, counted⟩ := (isKept.sessions found).stands counts
  have stands' : before.roll.stands task = some ⟨some handle, point⟩ := lingers.stands
  cases stands'.symm.trans stands
  rcases counted with isWatch | isProbe
  · exact isWatch noWatch
  · cases noProbe.symm.trans isProbe

theorem Chore.lingers (chore : Chore allowed before after) (isKept : before.IsKept)
    (lingers : before.Lingers handle task point) : after.Lingers handle task point := by
  rcases chore.steady with ⟨steady, -⟩ | ⟨place, session, found, performs⟩
  · exact ⟨(steady.kept lingers.stands lingers.isLive).1,
      (steady.kept lingers.stands lingers.isLive).2⟩
  · exact ⟨(performs.at? session.close_silent task).trans lingers.stands,
      performs.isLive lingers.isLive fun cancelled =>
      lingers.uncounted noWatch noProbe isKept found (Session.close_cancels cancelled)⟩

/-- **A task with a request stays where it is until its turn.** -/
theorem Happens.lingers (happens : Happens allowed before after) (areStacked : before.AreStacked)
    (isKept : before.IsKept) {options : SessionOptions} (has : before.HasOptions handle options)
    (isOther : after = before.step → ∀ wake, before.turn ≠ some (task, wake))
    (lingers : before.Lingers handle task point) : after.Lingers handle task point := by
  rcases happens.turned areStacked isKept with
    ⟨other, wake, place, here, rest, session, isAt, isStep, turns⟩ | ⟨other, here, idles⟩ | chores
  · have different : task ≠ other := by
      rintro rfl
      exact isOther isStep wake isAt.turn
    exact ⟨turns.turns.kept different lingers.stands,
      turns.turns.isLive lingers.isLive fun cancelled =>
      lingers.uncounted noWatch noProbe isKept turns.found (turns.accounts.cancels cancelled)⟩
  · have different : task ≠ other := by
      rintro rfl
      cases idles.stands.symm.trans lingers.stands
      obtain ⟨session, found, -⟩ := has
      exact idles.nobody handle session rfl found
    exact ⟨idles.turns.kept different lingers.stands,
      idles.turns.isLive lingers.isLive List.not_mem_nil⟩
  · have both : after.Lingers handle task point ∧ after.IsKept := by
      clear happens isOther
      induction chores with
      | refl => exact ⟨lingers, isKept⟩
      | tail _ chore step =>
        exact ⟨chore.lingers noWatch noProbe step.2 step.1, chore.isKept step.2⟩
    exact both.1

end Lingering

/-- A task whose turn it is has its turn at its first frame. -/
theorem isAt_of_stands {wake : Wake Plan} (turn : loop.turn = some (task, wake))
    (stands : loop.at? task = some ⟨some handle, point⟩) :
    ∃ rest, loop.IsAt task wake (.service ⟨some handle, point⟩) rest := by
  obtain ⟨known, found, stands⟩ := Option.bind_eq_some_iff.mp stands
  unfold Task.point? at stands
  split at stands
  · next here rest frames =>
    cases stands
    exact ⟨rest, turn, by rw [found, Option.map_some, frames]⟩
  · cases stands

/-- A turn that was given stays so until it is taken. -/
theorem Happens.waits_turn (happens : Happens allowed before after) {wake : Wake Plan}
    (turn : before.turn = some (task, wake)) (isOther : after ≠ before.step) :
    after.turn = some (task, wake) := by
  cases happens with
  | step => exact absurd rfl isOther
  | command command isBetween =>
    rw [Loop.isBetween, turn] at isBetween
    cases isBetween
  | elapse time => exact turn
  | ring => exact (ring_keeps before).2.2.2.trans turn
  | decide scripts habits => exact turn

/-- A task that goes on at once has its turn again. -/
theorem IsAt.turn_of_goOn {wake : Wake Plan} {rest : List (Frame At)} {next : Point}
    {session : Session} (isAt : before.IsAt task wake (.service ⟨some handle, point⟩) rest)
    (found : before.service.sessions[handle]? = some session)
    (goesOn :
      (Sessions.turn (before.moment task) handle before.service.isSlow point wake
        before.service.store
      session).2.2.2 = .goOn next) : before.step.turn = some (task, .goOn) := by
  have step : before.step = afterTurn task (.service (At.mk (some handle) point)) rest
    (before.inTurn.serviceTurn task (At.mk (some handle) point) wake) := isAt.step
  have verdict :
      (Sessions.service.resume (before.inTurn.moment task) (At.mk (some handle) point) wake
      before.inTurn.service).verdict = .goOn ⟨some handle, next⟩ := by
    have same :
        (Sessions.service.resume (before.inTurn.moment task) (At.mk (some handle) point) wake
        before.inTurn.service).verdict = _ := (reaction_eq found).2
    rw [goesOn] at same
    exact same
  have way : (before.inTurn.serviceTurn task (At.mk (some handle) point) wake).2 =
      .goOn (.service ⟨some handle, next⟩) := by
    unfold serviceTurn
    dsimp only
    rw [verdict]
  rw [step]
  generalize before.inTurn.serviceTurn task (At.mk (some handle) point) wake = turn at way
  obtain ⟨after, move⟩ := turn
  cases way
  rfl

end Loop

/-! ## Trials -/

/-- How often a request is made in a turn at that point. -/
def Point.makes : Point → Wake Plan → Nat
  | _, .cancelled => 0
  | .ask .., _ => 1
  | _, _ => 0

/-- The last turn of a request: why it came, which task was to come next, what the session was, and
what it came to. -/
structure Ending where
  wake : Wake Plan
  next : TaskId
  session : Session
  turn : SessionTurn

/-- What is kept of a request. -/
structure Trial where
  /-- How often it has been made. -/
  sent : Nat := 0
  /-- What the store has said. -/
  heard : List (Except Error Record) := []
  /-- The states of the connection that its turns have led to. -/
  links : List Link := []
  /-- Nobody else has changed the state of the connection. -/
  isAlone : Bool := true
  ending : Option Ending := none

namespace Loop

variable {allowed : Outside Sessions.service} {before after loop : Loop Sessions.service}
  {handle : Handle} {task : TaskId} {errand : Errand} {call : StoreCall}

/-- A turn of a task at its session. -/
def sessionTurn (task : TaskId) (handle : Handle) (point : Point) (wake : Wake Plan)
    (session : Session) (loop : Loop Sessions.service) : SessionTurn :=
  (Sessions.turn (loop.moment task) handle loop.service.isSlow point wake
    loop.service.store session).2

/-- What is noted of a request in a turn of its task. -/
def noted (task : TaskId) (handle : Handle) (point : Point) (wake : Wake Plan) (session : Session)
    (trial : Trial) (loop : Loop Sessions.service) : Trial :=
  { trial with
    sent := trial.sent + point.makes wake
    heard := trial.heard ++ (Sessions.heard point wake loop.service.store).toList
    links :=
      trial.links ++ Link.between session.link
        (loop.sessionTurn task handle point wake session).1.link }

/-- What is noted of a turn when it is the last one. -/
def ending (task : TaskId) (handle : Handle) (point : Point) (wake : Wake Plan) (session : Session)
    (loop : Loop Sessions.service) : Ending :=
  ⟨wake, loop.tasks.length, session, loop.sessionTurn task handle point wake session⟩

/-- After a turn a task goes on with its request. -/
def IsRepeating (task : TaskId) (handle : Handle) (errand : Errand) (call : StoreCall)
    (point : Point) (wake : Wake Plan) (session : Session) (loop : Loop Sessions.service) : Prop :=
  (loop.sessionTurn task handle point wake session).2.2.next?.bind Point.made? = some (errand, call)

/-- What is noted of a request when something happens. -/
inductive Tries (task : TaskId) (handle : Handle) (errand : Errand) (call : StoreCall)
    (before after : Loop Sessions.service) (trial : Trial) : Trial → Prop
  /-- Something else happens, and may change the state of the connection. -/
  | other (isOpen : trial.ending = none)
      (isOther : after = before.step → ∀ wake, before.turn ≠ some (task, wake)) :
      Tries task handle errand call before after trial { trial with
        isAlone := trial.isAlone &&
          decide (Sessions.link? handle after.service = Sessions.link? handle before.service) }
  /-- The task has its turn, and goes on with the request. -/
  | goesOn (isOpen : trial.ending = none) (isStep : after = before.step) {wake : Wake Plan}
      {point : Point} {rest : List (Frame At)} {session : Session}
      (isAt : before.IsAt task wake (.service ⟨some handle, point⟩) rest)
      (found : before.service.sessions[handle]? = some session)
      (isRepeating : before.IsRepeating task handle errand call point wake session) :
      Tries task handle errand call before after trial
        (before.noted task handle point wake session trial)
  /-- The task has its turn, which is the last one of the request. -/
  | ends (isOpen : trial.ending = none) (isStep : after = before.step) {wake : Wake Plan}
      {point : Point} {rest : List (Frame At)} {session : Session}
      (isAt : before.IsAt task wake (.service ⟨some handle, point⟩) rest)
      (found : before.service.sessions[handle]? = some session)
      (isLast : ¬ before.IsRepeating task handle errand call point wake session) :
      Tries task handle errand call before after trial
        { before.noted task handle point wake session trial with
          ending := some (before.ending task handle point wake session) }
  | past (isOver : trial.ending ≠ none) : Tries task handle errand call before after trial trial

/-- Something happens, and is noted. -/
def Proceeds (allowed : Outside Sessions.service) (task : TaskId) (handle : Handle)
    (errand : Errand) (call : StoreCall) (earlier later : Loop Sessions.service × Trial) : Prop :=
  Happens allowed earlier.1 later.1 ∧
    Tries task handle errand call earlier.1 later.1 earlier.2 later.2

end Loop

/-! ## The law -/

/-- The state of the connection after so many failures, if nobody else changes it. -/
def Link.afterFailures (limit : Nat) (start : Option Link) (failures : Nat) : Option Link :=
  if 1 ≤ failures ∧ 1 ≤ limit ∧ Link.isUpOrUnset start = true then some .suspended else start

/-- The states that so many failures lead to. -/
def Link.ofFailures (limit : Nat) (start : Option Link) (failures : Nat) : List Link :=
  if 1 ≤ failures ∧ 1 ≤ limit ∧ Link.isUpOrUnset start = true then [.suspended] else []

/-- One more failure, before the limit. -/
theorem Link.afterFailures_succ {limit : Nat} (start : Option Link) {failures : Nat}
    (few : failures < limit) :
    afterFailures limit start (failures + 1) =
      (if isUpOrUnset (afterFailures limit start failures) then
      some .suspended else afterFailures limit start failures) ∧
    ofFailures limit start (failures + 1) = ofFailures limit start failures ++
      between (afterFailures limit start failures) (afterFailures limit start (failures + 1)) := by
  have isLimited : 1 ≤ limit := by omega
  unfold afterFailures ofFailures
  cases isUp : isUpOrUnset start with
  | false => simp [isUp, between]
  | true =>
    cases failures with
    | zero =>
      have changes : start ≠ some .suspended := by
        rintro rfl
        cases isUp
      simp [isUp, isLimited, between, changes.symm]
    | succ failures => simp [isLimited, between, isUpOrUnset]

namespace Loop

open Sessions

section Law

variable {allowed : Outside Sessions.service} {before after loop : Loop Sessions.service}
  (handle : Handle) (task : TaskId) (errand : Errand) (call : StoreCall) (options : SessionOptions)
  (limit : Nat) (start : Option Link)

/-- **A request that is under way.** -/
structure IsUnderWay (trial : Trial) (loop : Loop Sessions.service) : Prop where
  isOpen : trial.ending = none
  /-- All that the store has said are failures. -/
  failing : ∀ result ∈ trial.heard, isFailure result = true
  few : trial.heard.length ≤ limit
  /-- It is made in the next step, or waits for the answer to its last attempt. -/
  stands : trial.sent = trial.heard.length ∧ loop.turn = some (task, .goOn) ∧
      loop.at? task = some ⟨some handle, .ask errand call trial.heard.length⟩ ∨
    trial.sent = trial.heard.length + 1 ∧
      loop.at? task = some ⟨some handle, .asked errand call trial.heard.length⟩
  isLive : ¬ loop.IsDoomed task
  hasOptions : loop.HasOptions handle options
  alone : trial.isAlone = true → trial.links = Link.ofFailures limit start trial.heard.length ∧
    link? handle loop.service = Link.afterFailures limit start trial.heard.length

/-- How many failures come before the last turn, and what they and that turn lead to. -/
structure LastTurn (failures : List (Except Error Record)) (last : Option (Except Error Record))
    (trial : Trial) (ending : Ending) : Prop where
  ending' : trial.ending = some ending
  heard : trial.heard = failures ++ last.toList
  failing : ∀ result ∈ failures, isFailure result = true
  few : failures.length ≤ limit
  sent : trial.sent = failures.length + 1
  alone : trial.isAlone = true →
    ending.session.link = Link.afterFailures limit start failures.length ∧
    trial.links = Link.ofFailures limit start failures.length ++
      Link.between ending.session.link ending.turn.1.link

/-- **A request that has ended.** -/
inductive HasEnded (trial : Trial) (ending : Ending) : Prop
  /-- An outcome that is no failure was handed on. -/
  | returns {failures : List (Except Error Record)} {outcome : Except Error Record}
      {earlier : List SessionEffect}
      (lastTurn : LastTurn limit start failures (some outcome) trial ending)
      (isOther : isFailure outcome = false)
      (turn :
        ending.turn =
          Session.after (earlier ++ (ending.session.learns handle ending.next outcome).2)
        ((ending.session.learns handle ending.next outcome).1.receives handle ending.next errand
          call.key outcome))
  /-- There were too many failures. -/
  | givesUp {failures : List (Except Error Record)} {result : Except Error Record}
      (lastTurn : LastTurn limit start failures (some result) trial ending)
      (isFailing : isFailure result = true) (many : limit ≤ failures.length)
      (link : ending.turn.1.link = some .lost)
      (turn : ending.turn.2.2 = .finish (.failed (.unavailable options.host)))
  /-- The task was cancelled. -/
  | cancelled {failures : List (Except Error Record)}
      (lastTurn : LastTurn limit start failures none trial ending)
      (isCancelled : ending.wake = .cancelled) (turn : ending.turn.2.2 = .finish .cancelled)

end Law

/-! ## What happens to a request -/

section Steps

variable {allowed : Outside Sessions.service} {before after loop : Loop Sessions.service}
  {handle : Handle} {task : TaskId} {errand : Errand} {call : StoreCall} {options : SessionOptions}
  {limit : Int} {start : Option Link} {trial : Trial}

namespace IsUnderWay

variable (isUnderWay : IsUnderWay handle task errand call options limit.toNat start trial before)

include isUnderWay

/-- The point at which a request that is under way stands. -/
theorem point : ∃ point : Point, before.at? task = some ⟨some handle, point⟩ ∧
    (point = .ask errand call trial.heard.length ∨
      point = .asked errand call trial.heard.length) := by
  rcases isUnderWay.stands with ⟨-, -, stands⟩ | ⟨-, stands⟩
  · exact ⟨_, stands, .inl rfl⟩
  · exact ⟨_, stands, .inr rfl⟩

/-- After a turn that is not cancelled, or in which the task waited, the request has been made once
more than it has failed. -/
theorem sent {wake : Wake Plan} {point : Point} {rest : List (Frame At)}
    (isAt : before.IsAt task wake (.service ⟨some handle, point⟩) rest) :
    trial.sent + point.makes wake = trial.heard.length + 1 ∧
      (point = .ask errand call trial.heard.length ∧ wake = .goOn ∨
        point = .asked errand call trial.heard.length) := by
  have here : before.at? task = some ⟨some handle, point⟩ := isAt.at?
  rcases isUnderWay.stands with ⟨sent, given, stands⟩ | ⟨sent, stands⟩
  · cases isAt.turn.symm.trans given
    cases here.symm.trans stands
    exact ⟨congrArg (· + 1) sent, .inl ⟨rfl, rfl⟩⟩
  · cases here.symm.trans stands
    refine ⟨?_, .inr rfl⟩
    rw [sent]
    cases wake <;> rfl

/-- Something else happens. -/
theorem other (isRepeated : errand.isRepeated = true) (happens : Happens allowed before after)
    (areStacked : before.AreStacked) (isKept : before.IsKept)
    (isOther : after = before.step → ∀ wake, before.turn ≠ some (task, wake)) :
    IsUnderWay handle task errand call options limit.toNat start { trial with
      isAlone :=
        trial.isAlone && decide (link? handle after.service = link? handle before.service) }
          after := by
  obtain ⟨noWatch, noProbe, noWatch', noProbe'⟩ :=
    errand.isRepeated_point isRepeated call trial.heard.length
  have lingers {point : Point} (stands : before.at? task = some ⟨some handle, point⟩)
      (noWatch : point.vigil? = none) (noProbe : point.isProbe = false) :
      after.Lingers handle task point :=
    happens.lingers noWatch noProbe areStacked isKept isUnderWay.hasOptions isOther ⟨stands,
      isUnderWay.isLive⟩
  have live : ¬ after.IsDoomed task := by
    rcases isUnderWay.stands with ⟨-, -, stands⟩ | ⟨-, stands⟩
    · exact (lingers stands noWatch noProbe).isLive
    · exact (lingers stands noWatch' noProbe').isLive
  refine ⟨isUnderWay.isOpen, isUnderWay.failing, isUnderWay.few, ?_, live,
    happens.hasOptions areStacked isKept isUnderWay.hasOptions, fun isAlone => ?_⟩
  · rcases isUnderWay.stands with ⟨sent, given, stands⟩ | ⟨sent, stands⟩
    · exact .inl ⟨sent, happens.waits_turn given fun isStep => isOther isStep _ given,
        (lingers stands noWatch noProbe).stands⟩
    · exact .inr ⟨sent, (lingers stands noWatch' noProbe').stands⟩
  · have isAlone :
        (trial.isAlone && decide (link? handle after.service = link? handle before.service)) =
          true :=
      isAlone
    rw [Bool.and_eq_true, decide_eq_true_eq] at isAlone
    obtain ⟨links, link⟩ := isUnderWay.alone isAlone.1
    exact ⟨links, isAlone.2.trans link⟩

section Turn

variable {wake : Wake Plan} {point : Point} {rest : List (Frame At)} {session : Session}
  (isAt : before.IsAt task wake (.service ⟨some handle, point⟩) rest)
  (found : before.service.sessions[handle]? = some session)

include isAt

/-- If the request ends in this turn, what the store has said before is all that goes before its
last turn. -/
theorem isLast (link : session.link = link? handle before.service)
    {last : Option (Except Error Record)} (hears : heard point wake before.service.store = last) :
    LastTurn limit.toNat start trial.heard last
      { before.noted task handle point wake session trial with
        ending := some (before.ending task handle point wake session) }
      (before.ending task handle point wake session) := by
  refine ⟨rfl, by rw [noted, hears], isUnderWay.failing, isUnderWay.few, (isUnderWay.sent isAt).1,
    fun isAlone => ?_⟩
  obtain ⟨links, link'⟩ := isUnderWay.alone isAlone
  exact ⟨link.trans link', by rw [noted, links, ending]⟩

include found

/-- The session does not cancel the task in its turn. -/
theorem lives (isRepeated : errand.isRepeated = true) (areStacked : before.AreStacked)
    (isKept : before.IsKept) :
    ¬ before.step.IsDoomed task := by
  have turns := isAt.sessionTurns areStacked isKept found
  refine turns.turns.isLive isUnderWay.isLive fun cancelled => ?_
  obtain ⟨noWatch, noProbe, noWatch', noProbe'⟩ :=
    errand.isRepeated_point isRepeated call trial.heard.length
  have counts := turns.accounts.cancels cancelled
  rcases (isUnderWay.sent isAt).2 with ⟨rfl, -⟩ | rfl
  · exact Lingers.uncounted noWatch noProbe ⟨isAt.at?, isUnderWay.isLive⟩ isKept found counts
  · exact Lingers.uncounted noWatch' noProbe' ⟨isAt.at?, isUnderWay.isLive⟩ isKept found counts

/-- The request waits for its answer: all that was noted stays. -/
theorem waits (areStacked : before.AreStacked) (isKept : before.IsKept)
    (live : ¬ before.step.IsDoomed task) (silent : heard point wake before.service.store = none)
    (same : (before.sessionTurn task handle point wake session).1 = session)
    (next : (before.sessionTurn task handle point wake session).2.2.next? =
      some (.asked errand call trial.heard.length)) :
    IsUnderWay handle task errand call options limit.toNat start
      (before.noted task handle point wake session trial) before.step := by
  have turns := isAt.sessionTurns areStacked isKept found
  have link :
      link? handle before.step.service =
        (before.sessionTurn task handle point wake session).1.link := turns.link
  have self :
      before.step.at? task = (before.sessionTurn task handle point wake session).2.2.next?.map
      (At.mk (some handle)) := turns.turns.self
  have happens : Happens anything before before.step := .step
  have unheard : trial.heard ++ (heard point wake before.service.store).toList = trial.heard := by
    rw [silent, Option.toList_none, List.append_nil]
  refine ⟨isUnderWay.isOpen, ?_, ?_, .inr ⟨?_, ?_⟩, live,
    happens.hasOptions areStacked isKept isUnderWay.hasOptions, fun isAlone => ?_⟩
  all_goals simp only [noted, unheard]
  · exact isUnderWay.failing
  · exact isUnderWay.few
  · exact (isUnderWay.sent isAt).1
  · rw [self, next]
    rfl
  · obtain ⟨links, isLink⟩ := isUnderWay.alone isAlone
    rw [same, Link.between_self, List.append_nil, link, same, ← link?_of_found found]
    exact ⟨links, isLink⟩

/-- The request has failed, and is made again. -/
theorem repeats (areStacked : before.AreStacked) (isKept : before.IsKept)
    (live : ¬ before.step.IsDoomed task) {result : Except Error Record}
    (hears : heard point wake before.service.store = some result)
    (isFailing : isFailure result = true) (few : trial.heard.length < limit.toNat)
    (failed : (before.sessionTurn task handle point wake session).1.link =
      if Link.isUpOrUnset session.link then some .suspended else session.link)
    (goesOn : (before.sessionTurn task handle point wake session).2.2 =
      .goOn (.ask errand call (trial.heard.length + 1))) :
    IsUnderWay handle task errand call options limit.toNat start
      (before.noted task handle point wake session trial) before.step := by
  have turns := isAt.sessionTurns areStacked isKept found
  have link :
      link? handle before.step.service =
        (before.sessionTurn task handle point wake session).1.link := turns.link
  have self :
      before.step.at? task = (before.sessionTurn task handle point wake session).2.2.next?.map
      (At.mk (some handle)) := turns.turns.self
  have happens : Happens anything before before.step := .step
  have isHeard : trial.heard ++ (heard point wake before.service.store).toList =
      trial.heard ++ [result] := by
    rw [hears, Option.toList_some]
  have length : (trial.heard ++ [result]).length = trial.heard.length + 1 := List.length_append
  refine ⟨isUnderWay.isOpen, ?_, ?_, .inl ⟨?_, isAt.turn_of_goOn found goesOn, ?_⟩, live,
    happens.hasOptions areStacked isKept isUnderWay.hasOptions, fun isAlone => ?_⟩
  all_goals simp only [noted, isHeard, length]
  · intro other member
    rcases List.mem_append.mp member with isOld | isNew
    · exact isUnderWay.failing other isOld
    · rw [List.mem_singleton.mp isNew]
      exact isFailing
  · exact few
  · exact (isUnderWay.sent isAt).1
  · rw [self, goesOn]
    rfl
  · obtain ⟨links, isLink⟩ := isUnderWay.alone isAlone
    obtain ⟨state, states⟩ := Link.afterFailures_succ start few
    have isLink' : session.link = Link.afterFailures limit.toNat start trial.heard.length :=
      (link?_of_found found).symm.trans isLink
    rw [links, link, states, state, failed, isLink']
    exact ⟨rfl, rfl⟩

/-- **A turn of the task**: the request goes on, or it has ended. -/
theorem turned (isRepeated : errand.isRepeated = true) (limited : options.retries = .int limit)
    (areStacked : before.AreStacked) (isKept : before.IsKept) :
    before.IsRepeating task handle errand call point wake session ∧
        IsUnderWay handle task errand call options limit.toNat start
          (before.noted task handle point wake session trial) before.step ∨
      ¬ before.IsRepeating task handle errand call point wake session ∧
        HasEnded handle errand call options limit.toNat start
          { before.noted task handle point wake session trial with
            ending := some (before.ending task handle point wake session) }
          (before.ending task handle point wake session) := by
  have isFor := (isUnderWay.sent isAt).2
  obtain ⟨session', found', same⟩ := isUnderWay.hasOptions
  cases found.symm.trans found'
  have link : session.link = link? handle before.service := (link?_of_found found).symm
  by_cases isLeft : wake = .cancelled
  · obtain rfl : point = .asked errand call trial.heard.length := by
      rcases isFor with ⟨-, rfl⟩ | same
      · cases isLeft
      · exact same
    subst isLeft
    have turn :
        before.sessionTurn task handle (.asked errand call trial.heard.length) .cancelled session =
        session.ends .cancelled := by
      unfold sessionTurn Sessions.turn Session.cancelled
      cases errand <;> first | rfl | cases isRepeated
    refine .inr ⟨?_, .cancelled (isUnderWay.isLast isAt link rfl) rfl (by rw [ending, turn]; rfl)⟩
    rw [IsRepeating, turn]
    exact nofun
  · have retries :
        Retries handle before.tasks.length errand call limit.toNat trial.heard.length session
        (heard point wake before.service.store)
          (before.sessionTurn task handle point wake session) :=
      turn_retries isRepeated (same ▸ limited) (before.moment task) before.service.isSlow
        before.service.store
        (isFor.imp_left And.left) isLeft
    have live := isUnderWay.lives isAt found isRepeated areStacked isKept
    cases retries with
    | waits silent session' next =>
      exact .inl ⟨by rw [IsRepeating, next]; rfl,
        isUnderWay.waits isAt found areStacked isKept live silent session' next⟩
    | repeats hears isFailing few failed goesOn =>
      exact .inl ⟨by rw [IsRepeating, goesOn]; rfl,
        isUnderWay.repeats isAt found areStacked isKept live hears isFailing few failed goesOn⟩
    | givesUp hears isFailing many lost fails =>
      refine .inr ⟨by rw [IsRepeating, fails]; exact nofun, ?_⟩
      exact .givesUp (isUnderWay.isLast isAt link hears) isFailing many lost
        (by rw [ending, fails, same])
    | returns hears isOther turn =>
      refine .inr ⟨?_, .returns (isUnderWay.isLast isAt link hears) isOther turn⟩
      rw [IsRepeating, turn]
      exact Session.receives_made handle _ errand call _ call.key _

end Turn

end IsUnderWay

/-- Whatever happens to a request that is under way can be noted. -/
theorem IsUnderWay.canTry
    (isUnderWay : IsUnderWay handle task errand call options limit.toNat start trial before)
    (isRepeated : errand.isRepeated = true) (limited : options.retries = .int limit)
    (areStacked : before.AreStacked) (isKept : before.IsKept) (after : Loop Sessions.service) :
    ∃ later, Tries task handle errand call before after trial later := by
  by_cases isTurn : after = before.step ∧ ∃ wake, before.turn = some (task, wake)
  · obtain ⟨isStep, wake, given⟩ := isTurn
    obtain ⟨point, stands, -⟩ := isUnderWay.point
    obtain ⟨rest, isAt⟩ := isAt_of_stands given stands
    obtain ⟨session, found, -⟩ := isUnderWay.hasOptions
    rcases isUnderWay.turned isAt found isRepeated limited areStacked isKept with
      ⟨isRepeating, -⟩ | ⟨isLast, -⟩
    · exact ⟨_, .goesOn isUnderWay.isOpen isStep isAt found isRepeating⟩
    · exact ⟨_, .ends isUnderWay.isOpen isStep isAt found isLast⟩
  · exact ⟨_, .other isUnderWay.isOpen fun isStep wake given => isTurn ⟨isStep, wake, given⟩⟩

/-- A request that is under way goes on, or ends. -/
theorem IsUnderWay.tries
    (isUnderWay : IsUnderWay handle task errand call options limit.toNat start trial before)
    (isRepeated : errand.isRepeated = true) (limited : options.retries = .int limit)
    (happens : Happens allowed before after) (areStacked : before.AreStacked)
    (isKept : before.IsKept) {later : Trial}
    (tries : Tries task handle errand call before after trial later) :
    IsUnderWay handle task errand call options limit.toNat start later after ∨
      ∃ ending, HasEnded handle errand call options limit.toNat start later ending := by
  cases tries with
  | other isOpen isOther =>
    exact .inl (isUnderWay.other isRepeated happens areStacked isKept isOther)
  | goesOn isOpen isStep isAt found isRepeating =>
    rcases isUnderWay.turned isAt found isRepeated limited areStacked isKept with
      ⟨-, goesOn⟩ | ⟨isLast, -⟩
    · exact .inl (isStep ▸ goesOn)
    · exact absurd isRepeating isLast
  | ends isOpen isStep isAt found isLast =>
    rcases isUnderWay.turned isAt found isRepeated limited areStacked isKept with
      ⟨isRepeating, -⟩ | ⟨-, hasEnded⟩
    · exact absurd isRepeating isLast
    · exact .inr ⟨_, hasEnded⟩
  | past isOver => exact absurd isUnderWay.isOpen isOver

theorem HasEnded.lastTurn {ending : Ending}
    (hasEnded : HasEnded handle errand call options limit.toNat start trial ending) :
    ∃ failures last, LastTurn limit.toNat start failures last trial ending := by
  cases hasEnded with
  | returns lastTurn => exact ⟨_, _, lastTurn⟩
  | givesUp lastTurn => exact ⟨_, _, lastTurn⟩
  | cancelled lastTurn => exact ⟨_, _, lastTurn⟩

/-- What was noted of a request that has ended stays so. -/
theorem HasEnded.tries {ending : Ending}
    (hasEnded : HasEnded handle errand call options limit.toNat start trial ending) {later : Trial}
    (tries : Tries task handle errand call before after trial later) : later = trial := by
  obtain ⟨failures, last, lastTurn⟩ := hasEnded.lastTurn
  have isOver : trial.ending ≠ none := lastTurn.ending' ▸ Option.some_ne_none ending
  cases tries with
  | other isOpen => exact absurd isOpen isOver
  | goesOn isOpen => exact absurd isOpen isOver
  | ends isOpen => exact absurd isOpen isOver
  | past => rfl

end Steps

/-! ## Outcomes -/

/-- What the law says of a request that has ended, in terms of the outcomes that the store has for
it. -/
structure IsByLaw (handle : Handle) (errand : Errand) (call : StoreCall) (options : SessionOptions)
    (limit : Nat) (start : Option Link) (outcomes : ℕ → Except Error Record) (trial : Trial)
    (ending : Ending) : Prop where
  /-- It was made once more than it was repeated. -/
  sent : (trial.sent : ℕ∞) = min (failuresOf outcomes) limit + 1
  /-- The first outcome that is no failure is handed on, if it comes in time. -/
  returns : failuresOf outcomes ≤ limit → ∃ earlier, ending.turn =
    Session.after
      (earlier ++
        (ending.session.learns handle ending.next (outcomes (failuresOf outcomes).toNat)).2)
      ((ending.session.learns handle ending.next (outcomes (failuresOf outcomes).toNat)).1.receives
        handle
        ending.next errand call.key (outcomes (failuresOf outcomes).toNat))
  /-- The connection is up then, if that was an answer. -/
  isUp : failuresOf outcomes ≤ limit → isAnswer (outcomes (failuresOf outcomes).toNat) = true →
    ending.turn.1.isUp = true
  /-- Otherwise the service is unavailable, and the connection lost. -/
  givesUp : limit < failuresOf outcomes →
    ending.turn.2.2 = .finish (.failed (.unavailable options.host)) ∧
      ending.turn.1.link = some .lost
  /-- The states that the connection has come to, if nobody else has changed it. -/
  links : trial.isAlone = true → trial.links =
    (if 1 ≤ failuresOf outcomes ∧ 1 ≤ limit ∧ Link.isUpOrUnset start = true then
      [.suspended] else []) ++
      if limit < failuresOf outcomes then if ending.session.link = some .lost then [] else [.lost]
      else if isAnswer (outcomes (failuresOf outcomes).toNat) then Link.ofAnswer ending.session.link
      else []

section Outcomes

variable {handle : Handle} {task : TaskId} {errand : Errand} {call : StoreCall}
  {options : SessionOptions} {limit : Nat} {start : Option Link} {trial : Trial} {ending : Ending}
  {outcomes : ℕ → Except Error Record} {failures : List (Except Error Record)}

/-- What has been heard first is what the store has had first. -/
theorem LastTurn.agrees {last : Option (Except Error Record)}
    (lastTurn : LastTurn limit start failures last trial ending)
    (agrees : ∀ place result, trial.heard[place]? = some result → outcomes place = result) :
    (∀ place < failures.length, isFailure (outcomes place) = true) ∧
      ∀ outcome, last = some outcome → outcomes failures.length = outcome := by
  rw [lastTurn.heard] at agrees
  refine ⟨fun place isEarly => ?_, fun outcome isLast => ?_⟩
  · rw [agrees place failures[place] (by simp [List.getElem?_append_left, isEarly])]
    exact lastTurn.failing _ (List.getElem_mem _)
  · exact agrees failures.length outcome (by simp [isLast])

/-- **A request that has ended keeps to the law**, if it was not cancelled. -/
theorem HasEnded.isByLaw (hasEnded : HasEnded handle errand call options limit start trial ending)
    (agrees : ∀ place result, trial.heard[place]? = some result → outcomes place = result) :
    ending.wake = .cancelled ∧ ending.turn.2.2 = .finish .cancelled ∨
      IsByLaw handle errand call options limit start outcomes trial ending := by
  cases hasEnded with
  | @returns failures outcome earlier lastTurn isOther turn =>
    obtain ⟨failing, isLast⟩ := lastTurn.agrees agrees
    have isLast := isLast outcome rfl
    have count : failuresOf outcomes = failures.length := failuresOf_eq failing (isLast ▸ isOther)
    have few : (failures.length : ℕ∞) ≤ limit := Nat.cast_le.mpr lastTurn.few
    have link : ending.turn.1.link = (ending.session.learns handle ending.next outcome).1.link := by
      rw [turn]
      exact Session.receives_link handle _ errand _ call.key outcome
    right
    constructor
    all_goals rw [count]
    · rw [lastTurn.sent, min_eq_left few, Nat.cast_add, Nat.cast_one]
    · intro _
      rw [ENat.toNat_natCast, isLast]
      exact ⟨earlier, turn⟩
    · intro _ answers
      rw [ENat.toNat_natCast, isLast] at answers
      rw [Session.isUp, link, Session.learns, if_pos answers]
      exact ending.session.alive_isUp handle ending.next
    · exact fun many => absurd many (not_lt.mpr few)
    · intro isAlone
      obtain ⟨-, links⟩ := lastTurn.alone isAlone
      rw [links, Link.ofFailures, if_neg (not_lt.mpr few), ENat.toNat_natCast, isLast, link,
        Session.learns_between]
      simp only [Nat.one_le_cast]
  | @givesUp failures result lastTurn isFailing many link turn =>
    obtain ⟨failing, isLast⟩ := lastTurn.agrees agrees
    have isLast := isLast result rfl
    have isFull : failures.length = limit := Nat.le_antisymm lastTurn.few many
    have count : ((limit + 1 : ℕ) : ℕ∞) ≤ failuresOf outcomes :=
      le_failuresOf fun place isEarly => by
      rcases Nat.lt_succ_iff_lt_or_eq.mp isEarly with isEarlier | rfl
      · exact failing place (isFull ▸ isEarlier)
      · rw [← isFull, isLast]
        exact isFailing
    have many : (limit : ℕ∞) < failuresOf outcomes :=
      lt_of_lt_of_le (Nat.cast_lt.mpr (Nat.lt_succ_self limit)) count
    have isSome : 1 ≤ failuresOf outcomes :=
      le_trans (Nat.one_le_cast.mpr (Nat.succ_le_succ (Nat.zero_le _))) count
    refine .inr ⟨?_, fun few => absurd few (not_le.mpr many),
      fun few => absurd few (not_le.mpr many),
      fun _ => ⟨turn, link⟩, fun isAlone => ?_⟩
    · rw [lastTurn.sent, isFull, min_eq_right many.le, Nat.cast_add, Nat.cast_one]
    · obtain ⟨-, links⟩ := lastTurn.alone isAlone
      have same : (1 ≤ limit ∧ 1 ≤ limit ∧ Link.isUpOrUnset start = true) ↔
          (1 ≤ failuresOf outcomes ∧ 1 ≤ limit ∧ Link.isUpOrUnset start = true) :=
        ⟨fun all => ⟨isSome, all.2⟩, fun all => ⟨all.2.1, all.2⟩⟩
      rw [links, Link.ofFailures, isFull, if_pos many, link, Link.between_some]
      simp only [same]
  | cancelled _ isCancelled turn => exact .inl ⟨isCancelled, turn⟩

end Outcomes

/-! ## Runs -/

section Runs

variable {allowed : Outside Sessions.service} {store : Store} {isSlow : Bool}
  {first last : Loop Sessions.service} {handle : Handle} {task : TaskId} {errand : Errand}
  {call : StoreCall} {session : Session} {retries : Int} {rest : List (Frame At)} {trial : Trial}

/-- A request that is about to be made for the first time is under way. -/
theorem IsAt.isUnderWay (run : Reaches allowed (unconnected store isSlow) first)
    (found : first.service.sessions[handle]? = some session)
    (isAt : first.IsAt task .goOn (.service ⟨some handle, .ask errand call 0⟩) rest) (limit : Nat) :
    IsUnderWay handle task errand call session.options limit session.link {} first := by
  refine ⟨rfl, fun _ => nofun, Nat.zero_le _, .inl ⟨rfl, isAt.turn, isAt.at?⟩, ?_,
    ⟨session, found, rfl⟩,
    fun _ => ⟨?_, ?_⟩⟩
  · rintro ⟨known, there, isDoomed⟩
    have runs := Reaches.turnRuns run task .goOn isAt.turn
    rw [status?, there, Option.map_some, isDoomed] at runs
    cases runs
  · simp [Link.ofFailures]
  · simp [Link.afterFailures, link?_of_found found]

/-- **In every run a request is under way until it has ended.** -/
theorem law_of_proceeds (run : Reaches allowed (unconnected store isSlow) first)
    (found : first.service.sessions[handle]? = some session)
    (limited : session.options.retries = .int retries) (isRepeated : errand.isRepeated = true)
    (isAt : first.IsAt task .goOn (.service ⟨some handle, .ask errand call 0⟩) rest)
    {state : Loop Sessions.service × Trial}
    (proceeds : ReflTransGen (Proceeds allowed task handle errand call) (first, {}) state) :
    Reaches allowed (unconnected store isSlow) state.1 ∧
      (IsUnderWay handle task errand call session.options retries.toNat session.link
        state.2 state.1 ∨
        ∃ ending, HasEnded handle errand call session.options retries.toNat session.link state.2
          ending) := by
  induction proceeds with
  | refl => exact ⟨run, .inl (isAt.isUnderWay run found _)⟩
  | @tail before after _ next step =>
    obtain ⟨happens, tries⟩ := next
    obtain ⟨run, isUnderWay | ⟨ending, hasEnded⟩⟩ := step
    · exact ⟨run.tail happens, isUnderWay.tries isRepeated limited happens
        (Reaches.areStacked run (fresh_areStacked _)) (Reaches.isKept run) tries⟩
    · refine ⟨run.tail happens, .inr ⟨ending, ?_⟩⟩
      rw [hasEnded.tries tries]
      exact hasEnded

/-- A trial can be kept of every request. -/
theorem Reaches.proceeds (run : Reaches allowed (unconnected store isSlow) first)
    (found : first.service.sessions[handle]? = some session)
    (limited : session.options.retries = .int retries) (isRepeated : errand.isRepeated = true)
    (isAt : first.IsAt task .goOn (.service ⟨some handle, .ask errand call 0⟩) rest)
    (later : Reaches allowed first last) :
    ∃ trial, ReflTransGen (Proceeds allowed task handle errand call) (first, {}) (last, trial) := by
  induction later with
  | refl => exact ⟨{}, .refl⟩
  | @tail before after _ happens step =>
    obtain ⟨trial, proceeds⟩ := step
    obtain ⟨run, isUnderWay | ⟨ending, hasEnded⟩⟩ :=
      law_of_proceeds run found limited isRepeated isAt proceeds
    · obtain ⟨later, tries⟩ := isUnderWay.canTry isRepeated limited
        (Reaches.areStacked run (fresh_areStacked _)) (Reaches.isKept run) after
      exact ⟨later, proceeds.tail ⟨happens, tries⟩⟩
    · obtain ⟨failures, last, lastTurn⟩ := hasEnded.lastTurn
      exact ⟨trial, proceeds.tail ⟨happens, .past (lastTurn.ending' ▸ Option.some_ne_none ending)⟩⟩

/-- **Every request is repeated by the same law**, whatever happens meanwhile. It is made as often
as it fails before its first other outcome, up to the limit, and once more; that outcome is handed
on, and the connection is up then, if it was an answer; if there are too many failures, the service
is unavailable, and the connection lost. If nobody else changes the state of the connection, then it
is suspended by the first failure that is not the last one, lost by the last failure, and up again
by an answer, each if it was not so before, and changes in no other way. Until then the request is
made in the next step, or waits for its answer. -/
theorem retries_by_law (run : Reaches allowed (unconnected store isSlow) first)
    (found : first.service.sessions[handle]? = some session)
    (limited : session.options.retries = .int retries) (isRepeated : errand.isRepeated = true)
    (isAt : first.IsAt task .goOn (.service ⟨some handle, .ask errand call 0⟩) rest)
    (later : Reaches allowed first last) :
    (∃ trial, ReflTransGen (Proceeds allowed task handle errand call) (first, {}) (last, trial)) ∧
      ∀ trial, ReflTransGen (Proceeds allowed task handle errand call) (first, {}) (last, trial) →
        ∀ outcomes : ℕ → Except Error Record,
          (∀ place result, trial.heard[place]? = some result → outcomes place = result) →
            match trial.ending with
            | none =>
              IsUnderWay handle task errand call session.options retries.toNat
                session.link trial last ∧
                (trial.sent : ℕ∞) ≤ min (failuresOf outcomes) retries.toNat + 1
            | some ending =>
              ending.wake = .cancelled ∧ ending.turn.2.2 = .finish .cancelled ∨
                IsByLaw handle errand call session.options retries.toNat session.link outcomes
                  trial ending := by
  refine ⟨Reaches.proceeds run found limited isRepeated isAt later,
    fun trial proceeds outcomes agrees => ?_⟩
  obtain ⟨-, isUnderWay | ⟨ending, hasEnded⟩⟩ :=
    law_of_proceeds run found limited isRepeated isAt proceeds
  · rw [isUnderWay.isOpen]
    refine ⟨isUnderWay, ?_⟩
    have failing : ∀ place < trial.heard.length, isFailure (outcomes place) = true :=
      fun place isEarly => by
      rw [agrees place trial.heard[place] (List.getElem?_eq_getElem isEarly)]
      exact isUnderWay.failing _ (List.getElem_mem isEarly)
    have sent : trial.sent ≤ trial.heard.length + 1 := by
      rcases isUnderWay.stands with ⟨sent, -⟩ | ⟨sent, -⟩
      · exact Nat.le_succ_of_le sent.le
      · exact sent.le
    have most : (trial.heard.length : ℕ∞) ≤ min (failuresOf outcomes) retries.toNat :=
      le_min (le_failuresOf failing) (Nat.cast_le.mpr isUnderWay.few)
    calc (trial.sent : ℕ∞) ≤ (trial.heard.length + 1 : ℕ) := Nat.cast_le.mpr sent
      _ = trial.heard.length + 1 := Nat.cast_succ _
      _ ≤ min (failuresOf outcomes) retries.toNat + 1 := by gcongr
  · obtain ⟨failures, last', lastTurn⟩ := hasEnded.lastTurn
    rw [lastTurn.ending']
    exact hasEnded.isByLaw agrees

end Runs

/-! ## A failure, and an answer -/

/-- Somebody is about to look, and the first call of the store is going to fail. -/
def doubtful : Loop Sessions.service :=
  (commanded [.occur (SessionEvent.connect [("retries", .int 1)]),
    .occur (SessionEvent.plan "read" [.fail (Store.failure .connectionFailed "down" .null)]),
    .operate (Operation.look (.text "/a") none)] (unconnected {} false)).step.step

/-- The session that is asked. -/
def doubted (loop : Loop Sessions.service) : Session :=
  loop.service.sessions.headD { options := ⟨"", .null, .null, []⟩ }

/-- What is noted of the look after its first turn. -/
def oneLook : Trial :=
  doubtful.noted 0 0 (.ask (.looking none) (.read "/a") 0) .goOn doubtful.doubted {}

/-- The last turn of the look. -/
def lastLook : Ending :=
  doubtful.step.ending 0 0 (.ask (.looking none) (.read "/a") 1) .goOn doubtful.step.doubted

/-- What is noted of the look after its last turn. -/
def twoLooks : Trial :=
  { doubtful.step.noted 0 0 (.ask (.looking none) (.read "/a") 1) .goOn
      doubtful.step.doubted oneLook with
    ending := some lastLook }

theorem doubtful_isAt :
    doubtful.IsAt 0 .goOn (.service ⟨some 0, .ask (.looking none) (.read "/a") 0⟩) [] :=
  ⟨rfl, rfl⟩

theorem oneLook_tries : Tries 0 0 (.looking none) (.read "/a") doubtful doubtful.step {} oneLook :=
  .goesOn rfl rfl doubtful_isAt rfl rfl

theorem twoLooks_tries :
    Tries 0 0 (.looking none) (.read "/a") doubtful.step doubtful.step.step oneLook twoLooks := by
  have isAt :
      doubtful.step.IsAt 0 .goOn (.service ⟨some 0, .ask (.looking none) (.read "/a") 1⟩) [] :=
    ⟨rfl, rfl⟩
  exact .ends rfl rfl isAt rfl nofun

/-- The look is made twice; the connection is suspended, and up again. -/
theorem retries_by_law_once : twoLooks.sent = 2 ∧ twoLooks.links = [.suspended, .reconnected] ∧
    ∃ outcomes, IsByLaw 0 (.looking none) (.read "/a") doubtful.doubted.options 1 none outcomes
      twoLooks lastLook := by
  have next : ∀ (loop : Loop Sessions.service) (command : Command Sessions.service),
      loop.isBetween → command.isMomentary → Happens anything loop (loop.command command).1 :=
    fun loop command isBetween isMomentary => .command command isBetween isMomentary trivial
  have run : Reaches anything (unconnected {} false) doubtful :=
    .head (next _ _ rfl rfl)
      (.head (next _ _ (by decide +kernel) rfl) (.head (next _ _ (by decide +kernel) rfl)
      (.head .step (.single .step))))
  have first :
      Proceeds anything 0 0 (.looking none) (.read "/a") (doubtful, {}) (doubtful.step, oneLook) :=
    ⟨.step, oneLook_tries⟩
  have second : Proceeds anything 0 0 (.looking none) (.read "/a") (doubtful.step, oneLook)
      (doubtful.step.step, twoLooks) := ⟨.step, twoLooks_tries⟩
  have later : Reaches anything doubtful doubtful.step.step := .tail (.single .step) .step
  have isThere : doubtful.service.sessions[0]? = some doubtful.doubted := rfl
  have limited : doubtful.doubted.options.retries = .int 1 := rfl
  have law := (retries_by_law run isThere limited rfl doubtful_isAt later).2 twoLooks
    (.tail (.single first) second)
      (fun place => (twoLooks.heard[place]?).getD (.error .badArgument))
    fun place result hears => by rw [hears, Option.getD_some]
  refine ⟨by decide +kernel, by decide +kernel, _, law.resolve_left ?_⟩
  rintro ⟨impossible, -⟩
  cases impossible

end Loop

end WatchedNode
