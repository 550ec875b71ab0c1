/-
**The turns of one task.**

A task of a session that somebody has called for an operation has one turn after the other, at the
points at which it goes on. In between, others have their turns, and may do to the session whatever
they may do to it; the store may be any one each time. A `Passage` is the list of the turns of a
task, from the beginning of its operation on, each with what it finds (`Visit`).

* `Visit.turn_calls`: in a turn the task writes down the call that it makes, and nothing else;
* `Sessions.turn_repeats`: a turn of a task with a request waits, makes it again, fails, or has the
  outcome;
* `Passage.requests`: a task whose operation is one request makes that call only.
-/
import WatchedNode.Proofs.Store.Retry
import WatchedNode.Proofs.Store.Aftermath

namespace WatchedNode

/-! ## What is written down -/

/-- The calls of the store that are written down. -/
def callsOf (effects : List SessionEffect) : List StoreCall :=
  effects.filterMap fun
    | .note (.store call) => some call
    | _ => none

@[simp] theorem callsOf_append (first second : List SessionEffect) :
    callsOf (first ++ second) = callsOf first ++ callsOf second := List.filterMap_append ..

@[simp] theorem callsOf_nil : callsOf [] = [] := rfl

@[simp] theorem callsOf_tells (handle : Handle) (listeners : List Subscriber) (link : Link) :
    callsOf (listeners.map fun listener => .tell handle listener link) = [] := by
  induction listeners with
  | nil => rfl
  | cons listener rest step => exact step

namespace Session

variable (handle : Handle) (next self : TaskId) (session : Session)

@[simp] theorem setLink_calls (link : Link) :
    callsOf (session.setLink handle next link).2 = [] := by
  unfold setLink
  split
  · rfl
  · dsimp only
    split <;> simp [callsOf]

@[simp] theorem alive_calls : callsOf (session.alive handle next).2 = [] := by
  unfold alive
  split
  · exact setLink_calls handle next session _
  · split
    · rfl
    · exact setLink_calls handle next session _

@[simp] theorem failed_calls : callsOf (session.failed handle next).2 = [] := by
  unfold failed
  split
  · exact setLink_calls handle next session _
  · rfl

@[simp] theorem arm_calls (key : String) (watcher : Option Subscriber) (index : Option Int) :
    callsOf (session.arm handle next key watcher index).2 = [] := by
  unfold arm
  split
  · rfl
  · split <;> rfl

@[simp] theorem close_calls : callsOf session.close.1.2 = [] := by
  have cancels (tasks : List TaskId) : callsOf (tasks.map .cancel) = [] := by
    induction tasks with
    | nil => rfl
    | cons task rest step => exact step
  unfold close
  simp only [callsOf_append, cancels, List.nil_append]
  split <;> rfl

@[simp] theorem after_calls (effects : List SessionEffect) (turn : SessionTurn) :
    callsOf (after effects turn).2.1 = callsOf effects ++ callsOf turn.2.1 := callsOf_append ..

@[simp] theorem request_calls (errand : Errand) (call : StoreCall) :
    callsOf (session.request errand call).2.1 = [] := by
  unfold request
  split <;> rfl

@[simp] theorem requestOf_calls (errand : Errand) (call : Except Error StoreCall) :
    callsOf (session.requestOf errand call).2.1 = [] := by
  unfold requestOf
  split
  · exact request_calls session errand _
  · rfl

theorem begins_calls (isSlow : Bool) (operation : Operation) :
    callsOf (session.begins isSlow operation).2.1 = [] := by
  unfold begins
  split
  · split
    · rfl
    · exact request_calls session _ _
  · exact close_calls session
  · rfl
  · rfl
  · exact requestOf_calls session _ _
  · exact requestOf_calls session _ _
  · exact requestOf_calls session _ _
  · exact requestOf_calls session _ _

theorem ensures_calls (above : String) (below : List String) :
    callsOf (session.ensures above below).2.1 = [] := by
  induction below generalizing above with
  | nil => rfl
  | cons segment below step =>
    unfold ensures
    dsimp only
    split
    · exact step _
    · split
      · exact request_calls session _ _
      · rfl

theorem answered_calls (errand : Errand) (key : String) (record : Record) :
    callsOf (session.answered handle next errand key record).2.1 = [] := by
  unfold answered
  split
  all_goals first
    | rfl
    | exact arm_calls handle next session _ _ _

theorem notFound_calls (errand : Errand) (key : String) (error : Error) (payload : Value) :
    callsOf (session.notFound handle next errand key error payload).2.1 = [] := by
  unfold notFound
  split
  · exact request_calls session _ _
  · exact request_calls session _ _
  · split
    · rfl
    · exact arm_calls handle next session _ _ _
  · rfl
  · rfl

theorem refused_calls (errand : Errand) (error : Error) :
    callsOf (session.refused errand error).2.1 = [] := by
  unfold refused
  split <;> rfl

theorem retry_calls (errand : Errand) (call : StoreCall) (failures : Nat)
    (result : Except Error Record) :
    callsOf (session.retry handle next errand call failures result).2.1 = [] := by
  unfold retry
  split
  · simp [answered_calls]
  · split
    · simp [notFound_calls]
    · split
      · split
        · rfl
        · exact setLink_calls handle next session _
        · exact failed_calls handle next session
      · exact refused_calls session _ _
    · exact refused_calls session _ _

theorem probed_calls (result : Except Error Record) :
    callsOf (session.probed handle next result).2.1 = [] := by
  unfold probed
  split
  · exact alive_calls handle next session
  · exact alive_calls handle next session
  · split <;> rfl
  · rfl

theorem watched_calls (key : String) (watcher : Subscriber) (index : Option Int)
    (result : Except Error Record) :
    callsOf (session.watched handle next self key watcher index result).2.1 = [] := by
  unfold watched
  dsimp only
  split
  · rfl
  · split
    · rfl
    · rfl
    · exact setLink_calls handle next session _
    · rfl
  · rfl

theorem concludes_calls (errand : Errand) (call : StoreCall) (failures : Nat)
    (result : Except Error Record) :
    callsOf (session.concludes handle next self errand call failures result).2.1 = [] := by
  unfold concludes
  split
  · exact probed_calls handle next session result
  · exact watched_calls handle next self session _ _ _ result
  · exact retry_calls handle next session _ call failures result

theorem probes_calls : callsOf session.probes.2.1 = [] := by
  unfold probes
  split
  · split <;> rfl
  · rfl

theorem probeReads_calls : callsOf session.probeReads.2.1 = [] := by
  unfold probeReads
  split <;> rfl

theorem polls_calls (key : String) (watcher : Subscriber) (index : Option Int) :
    callsOf (session.polls self key watcher index).2.1 = [] := by
  unfold polls
  split <;> rfl

theorem cancelled_calls (point : Point) : callsOf (session.cancelled self point).2.1 = [] := by
  unfold cancelled
  split <;> rfl

end Session

/-- The call that a task makes in its turn, if it makes one. -/
def Point.sends? : Point → Wake Plan → Option StoreCall
  | _, .cancelled => none
  | .ask _ call _, _ => some call
  | _, _ => none

namespace Sessions

theorem await_calls (moment : Moment) (handle : Handle) (errand : Errand) (call : StoreCall)
    (failures : Nat) (written : List SessionEffect) (made : Store × Store.Response × Option Change)
    (session : Session) :
    callsOf (await moment handle errand call failures written made session).2.2.1 =
      callsOf written := by
  have told (change : Option Change) : callsOf (change.elim [] tells) = [] := by
    cases change <;> rfl
  rcases await_eq moment handle errand call failures written made session with ⟨-, same⟩
    | ⟨result, -, same⟩
  · simp [same, told]
  · simp [same, told, Session.concludes_calls]

/-- **In a turn a task writes down the call that it makes**, and nothing else. -/
theorem turn_calls (moment : Moment) (handle : Handle) (isSlow : Bool) (point : Point)
    (wake : Wake Plan) (store : Store) (session : Session) :
    callsOf (turn moment handle isSlow point wake store session).2.2.1 =
      (point.sends? wake).toList := by
  unfold turn
  split
  · rw [Session.cancelled_calls]
    rfl
  · rw [Session.begins_calls]
    cases wake <;> rfl
  · rw [Session.ensures_calls]
    cases wake <;> rfl
  · next isLeft =>
    rw [await_calls]
    cases wake with
    | cancelled => exact (isLeft rfl).elim
    | _ => rfl
  · rw [await_calls]
    rfl
  · rw [await_calls]
    cases wake <;> rfl
  · rw [Session.probes_calls]
    cases wake <;> rfl
  · rw [Session.probeReads_calls]
    cases wake <;> rfl
  · rw [Session.polls_calls]
    cases wake <;> rfl
  · cases wake <;> rfl

end Sessions

/-! ## Requests in a turn -/

namespace Session

variable (handle : Handle) (next : TaskId) (session : Session)

@[simp] theorem setLink_ensured (link : Link) :
    (session.setLink handle next link).1.ensured = session.ensured := by
  unfold setLink
  split
  · rfl
  · dsimp only
    split <;> rfl

@[simp] theorem alive_ensured : (session.alive handle next).1.ensured = session.ensured := by
  unfold alive
  split
  · exact setLink_ensured handle next session _
  · split
    · rfl
    · exact setLink_ensured handle next session _

@[simp] theorem failed_ensured : (session.failed handle next).1.ensured = session.ensured := by
  unfold failed
  split
  · exact setLink_ensured handle next session _
  · rfl

@[simp] theorem learns_ensured (outcome : Except Error Record) :
    (session.learns handle next outcome).1.ensured = session.ensured := by
  unfold learns
  split
  · exact alive_ensured handle next session
  · rfl

/-- A task with a request leaves nothing behind if it is cancelled. -/
theorem cancelled_request (self : TaskId) {point : Point} {errand : Errand} {call : StoreCall}
    (isMade : point.made? = some (errand, call)) (isRepeated : errand.isRepeated = true) :
    session.cancelled self point = session.ends .cancelled := by
  cases point with
  | ask errand call failures =>
    cases isMade
    cases errand <;> first | rfl | cases isRepeated
  | asked errand call failures =>
    cases isMade
    cases errand <;> first | rfl | cases isRepeated
  | _ => cases isMade

end Session

namespace Sessions

/-- What a turn of a task with a request comes to, whatever the limit is. -/
inductive Repeats (handle : Handle) (next : TaskId) (errand : Errand) (call : StoreCall)
    (wake : Wake Plan) (session : Session) (heard : Option (Except Error Record))
    (turn : SessionTurn) : Prop
  /-- The store says nothing yet. -/
  | waits {failures : Nat} (silent : heard = none) (ensured : turn.1.ensured = session.ensured)
      (found : turn.2.2.next? = some (.asked errand call failures))
  /-- The request is made again. -/
  | again {result : Except Error Record} {failures : Nat} (hears : heard = some result)
      (isFailing : isFailure result = true) (ensured : turn.1.ensured = session.ensured)
      (goesOn : turn.2.2 = .goOn (.ask errand call failures))
  /-- It fails for good. -/
  | fails {result : Except Error Record} {error : Error} (hears : heard = some result)
      (isFailing : isFailure result = true) (ensured : turn.1.ensured = session.ensured)
      (fails : turn.2.2 = .finish (.failed error))
  /-- The outcome is handed on. -/
  | returns {outcome : Except Error Record} {earlier : List SessionEffect}
      (hears : heard = some outcome) (isOther : isFailure outcome = false)
      (same : turn = Session.after (earlier ++ (session.learns handle next outcome).2)
        ((session.learns handle next outcome).1.receives handle next errand call.key outcome))
  | cancelled (isCancelled : wake = .cancelled) (same : turn = session.ends .cancelled)

section Requests

variable {handle : Handle} {next : TaskId} {errand : Errand} {call : StoreCall} {session : Session}

/-- The answer to a request. -/
theorem concludes_repeats (isRepeated : errand.isRepeated = true) (wake : Wake Plan) (self : TaskId)
    (failures : Nat) (result : Except Error Record) (effects : List SessionEffect) :
    Repeats handle next errand call wake session (some result)
      (Session.after effects (session.concludes handle next self errand call failures result)) := by
  have same : session.concludes handle next self errand call failures result =
      session.retry handle next errand call failures result := by
    unfold Session.concludes
    split
    · cases isRepeated
    · cases isRepeated
    · rfl
  rw [same]
  cases failing : isFailure result with
  | false =>
    have returned : Session.after effects (session.retry handle next errand call failures result) =
        Session.after (effects ++ (session.learns handle next result).2)
          ((session.learns handle next result).1.receives handle next errand call.key result) := by
      rw [session.retry_returns handle next errand call failing]
      simp only [Session.after, List.append_assoc]
    exact .returns rfl failing returned
  | true =>
    obtain ⟨fault, message, payload, rfl, isConnection, isOther⟩ := Session.failure_cases failing
    unfold Session.retry
    simp only [isConnection, if_true]
    split
    · exact .fails rfl failing rfl rfl
    · exact .fails rfl failing (session.setLink_ensured handle next .lost) rfl
    · exact .again rfl failing (session.failed_ensured handle next) rfl

/-- **What becomes of a request in a turn of its task.** -/
theorem turn_repeats (isRepeated : errand.isRepeated = true) (moment : Moment) (isSlow : Bool)
    {point : Point} (wake : Wake Plan) (store : Store)
    (isMade : point.made? = some (errand, call)) :
    Repeats handle moment.next errand call wake session (heard point wake store)
      (turn moment handle isSlow point wake store session).2 := by
  by_cases isLeft : wake = .cancelled
  · subst isLeft
    rw [turn_cancelled, session.cancelled_request moment.self isMade isRepeated]
    exact .cancelled rfl rfl
  · obtain ⟨failures, written, made, same, hears, -⟩ :=
      turn_await moment handle isSlow store session isMade isLeft
    rw [same, hears]
    rcases await_eq moment handle errand call failures written made session with
      ⟨held, same⟩ | ⟨result, answered, same⟩
    · rw [same, held]
      exact .waits rfl rfl rfl
    · rw [same, answered]
      exact concludes_repeats isRepeated wake moment.self failures result _

end Requests

end Sessions

/-! ## Passages -/

/-- One turn of a task, with what it finds. -/
structure Visit where
  moment : Moment
  isSlow : Bool
  point : Point
  wake : Wake Plan
  store : Store
  session : Session

namespace Visit

/-- What the turn comes to. -/
def turn (handle : Handle) (visit : Visit) : SessionTurn :=
  (Sessions.turn visit.moment handle visit.isSlow visit.point visit.wake visit.store
    visit.session).2

/-- The call that is made. -/
def sends? (visit : Visit) : Option StoreCall := visit.point.sends? visit.wake

/-- What the store says. -/
def heard (visit : Visit) : Option (Except Error Record) :=
  Sessions.heard visit.point visit.wake visit.store

/-- A task that is about to make a call makes it, unless it is cancelled. -/
theorem sends_of_ask {visit : Visit} {errand : Errand} {call : StoreCall} {failures : Nat}
    (stands : visit.point = .ask errand call failures) (isLeft : visit.wake ≠ .cancelled) :
    visit.sends? = some call := by
  unfold sends?
  rw [stands]
  cases why : visit.wake <;> first | rfl | exact absurd why isLeft

/-- Only a task that is about to make a call makes it. -/
theorem made_of_sends {visit : Visit} {call : StoreCall} (sends : visit.sends? = some call) :
    ∃ errand, visit.point.made? = some (errand, call) := by
  unfold sends? at sends
  cases stands : visit.point with
  | ask errand made failures =>
    rw [stands] at sends
    cases why : visit.wake <;> rw [why] at sends <;> cases sends <;> exact ⟨errand, rfl⟩
  | _ =>
    rw [stands] at sends
    cases why : visit.wake <;> rw [why] at sends <;> cases sends

/-- A turn of a task that is cancelled. -/
theorem turn_cancelled {visit : Visit} {handle : Handle} (isCancelled : visit.wake = .cancelled) :
    visit.turn handle = visit.session.cancelled visit.moment.self visit.point := by
  unfold turn
  rw [isCancelled, Sessions.turn_cancelled]

/-- A task that is cancelled in its turn does not go on. -/
theorem not_cancelled {visit : Visit} {handle : Handle} {point : Point}
    (isNext : (visit.turn handle).2.2.next? = some point) : visit.wake ≠ .cancelled := by
  intro isCancelled
  rw [turn_cancelled isCancelled, Session.cancelled_eq] at isNext
  cases isNext

theorem turn_options (handle : Handle) (visit : Visit) (isSound : visit.point.IsSound) :
    (visit.turn handle).1.options = visit.session.options :=
  (Sessions.turn_accounts visit.moment handle visit.isSlow visit.wake visit.store visit.session
    isSound).options

/-- A task that goes on after its turn is there for the same. -/
theorem turn_isSound (handle : Handle) (visit : Visit) (isSound : visit.point.IsSound)
    {point : Point} (isNext : (visit.turn handle).2.2.next? = some point) : point.IsSound := by
  cases Sessions.turn_goesOn visit.moment handle visit.isSlow visit.store visit.session isSound
    (not_cancelled isNext) with
  | goOn found _ isSound' =>
    cases isNext.symm.trans found
    exact isSound'
  | finish found _ =>
    have isOver : (visit.turn handle).2.2 = .finish _ := found
    rw [isOver] at isNext
    cases isNext

/-- What becomes of a request in a turn. -/
theorem turn_repeats (handle : Handle) (visit : Visit) {errand : Errand} {call : StoreCall}
    (isRepeated : errand.isRepeated = true) (isMade : visit.point.made? = some (errand, call)) :
    Sessions.Repeats handle visit.moment.next errand call visit.wake visit.session visit.heard
      (visit.turn handle) :=
  Sessions.turn_repeats isRepeated visit.moment visit.isSlow visit.wake visit.store isMade

theorem turn_calls (handle : Handle) (visit : Visit) :
    callsOf (visit.turn handle).2.1 = visit.sends?.toList :=
  Sessions.turn_calls ..

end Visit

/-- The turns of a task from the beginning of an operation on, where `others` says what becomes of
the session in between: with them go the session as it is now, and how the task goes on. -/
inductive Passage (handle : Handle) (others : Session → Session → Prop) (operation : Operation) :
    List Visit → Session → Verdict Point → Prop
  | begins (session : Session) :
      Passage handle others operation [] session (.goOn (.begin operation))
  | waits {visits : List Visit} {session later : Session} {verdict : Verdict Point}
      (earlier : Passage handle others operation visits session verdict)
      (change : others session later) :
      Passage handle others operation visits later verdict
  | turns {visits : List Visit} {visit : Visit} {verdict : Verdict Point}
      (earlier : Passage handle others operation visits visit.session verdict)
      (isNext : verdict.next? = some visit.point) :
      Passage handle others operation (visits ++ [visit]) (visit.turn handle).1
        (visit.turn handle).2.2

section Passages

variable {handle : Handle} {others : Session → Session → Prop} {operation : Operation}
  {visits : List Visit} {session : Session} {verdict : Verdict Point}

theorem Passage.isSound (passage : Passage handle others operation visits session verdict)
    {point : Point} (isNext : verdict.next? = some point) : point.IsSound := by
  induction passage generalizing point with
  | begins session =>
    cases isNext
    trivial
  | waits _ _ step => exact step isNext
  | turns _ isNext' step => exact Visit.turn_isSound handle _ (step isNext') isNext

end Passages

/-- The calls that are made in turns, in order. -/
def sentIn (visits : List Visit) : List StoreCall := visits.filterMap Visit.sends?

@[simp] theorem sentIn_singleton (visit : Visit) : sentIn [visit] = visit.sends?.toList := by
  unfold sentIn
  cases sends : visit.sends? <;> simp [sends]

@[simp] theorem sentIn_append (first second : List Visit) :
    sentIn (first ++ second) = sentIn first ++ sentIn second :=
  List.filterMap_append ..

/-! ## Operations that are one request -/

/-- Others may do anything to a session but for its options. -/
def Session.KeepsOptions (before after : Session) : Prop := after.options = before.options

/-- Once such a request has had its outcome, nothing is left to do. -/
structure Errand.IsSingle (errand : Errand) : Prop where
  isRepeated : errand.isRepeated = true
  isOver : ∀ (handle : Handle) (next : TaskId) (session : Session) (key : String)
    (outcome : Except Error Record),
    (session.receives handle next errand key outcome).2.2.next? = none

theorem Errand.isSingle_changing : Errand.IsSingle .changing where
  isRepeated := rfl
  isOver handle next session key outcome := by
    unfold Session.receives
    split
    · rfl
    · split <;> rfl

theorem Errand.isSingle_fetching (path decompress : Value) (watcher : Option Subscriber) :
    Errand.IsSingle (.fetching path watcher decompress) where
  isRepeated := rfl
  isOver handle next session key outcome := by
    unfold Session.receives
    split
    · rfl
    · split
      · cases path <;> rfl
      · rfl

/-- An operation is a request, whose call depends on the root. -/
def Operation.IsRequest (operation : Operation) (errand : Errand)
    (call : String → Except Error StoreCall) : Prop :=
  ∀ (isSlow : Bool) (session : Session),
    session.begins isSlow operation = session.requestOf errand (call session.options.root)

section Requests

variable {handle : Handle} {operation : Operation} {errand : Errand}
  {calls : String → Except Error StoreCall}

/-- **Such a request makes the same call again**, or is over. -/
theorem Visit.turn_single (isSingle : errand.IsSingle) {visit : Visit} {call : StoreCall}
    (isMade : visit.point.made? = some (errand, call)) {point : Point}
    (isNext : (visit.turn handle).2.2.next? = some point) : point.made? = some (errand, call) := by
  cases visit.turn_repeats handle isSingle.isRepeated isMade with
  | waits _ _ found =>
    cases isNext.symm.trans found
    rfl
  | again _ _ _ goesOn =>
    rw [goesOn] at isNext
    cases isNext
    rfl
  | fails _ _ _ fails =>
    rw [fails] at isNext
    cases isNext
  | returns _ _ same =>
    rw [same] at isNext
    cases isNext.symm.trans (isSingle.isOver _ _ _ _ _)
  | cancelled _ same =>
    rw [same] at isNext
    cases isNext

/-- The first turn of the operation. -/
theorem Visit.turn_begin (isRequest : operation.IsRequest errand calls) {visit : Visit}
    (isFirst : visit.point = .begin operation) (isLeft : visit.wake ≠ .cancelled) :
    visit.turn handle = visit.session.requestOf errand (calls visit.session.options.root) := by
  rw [← isRequest visit.isSlow visit.session]
  unfold turn
  rw [isFirst]
  cases why : visit.wake <;> first | rfl | exact absurd why isLeft

/-- What is known of a task whose operation is a request. -/
structure Requests (operation : Operation) (errand : Errand) (call : Except Error StoreCall)
    (visits : List Visit) (verdict : Verdict Point) : Prop where
  /-- It begins, or makes its call. -/
  stands : ∀ point, verdict.next? = some point → point = .begin operation ∨
    ∃ made, call = .ok made ∧ point.made? = some (errand, made)
  sent : ∀ made ∈ sentIn visits, call = .ok made

/-- **A task whose operation is a request** makes that call only. -/
theorem Passage.requests (isRequest : operation.IsRequest errand calls) (isSingle : errand.IsSingle)
    {visits : List Visit} {session : Session} {verdict : Verdict Point}
    (passage : Passage handle Session.KeepsOptions operation visits session verdict) :
    Requests operation errand (calls session.options.root) visits verdict := by
  induction passage with
  | begins session =>
    refine ⟨fun point isNext => .inl ?_, fun call isSent => ?_⟩
    · exact (Option.some.inj isNext).symm
    · cases isSent
  | waits _ change step =>
    rw [show _ = _ from change]
    exact step
  | @turns visits visit verdict earlier isNext step =>
    rw [visit.turn_options handle (earlier.isSound isNext)]
    constructor
    · intro point isNext'
      rcases step.stands _ isNext with isFirst | ⟨call, isCall, isMade⟩
      · rw [Visit.turn_begin isRequest isFirst (Visit.not_cancelled isNext')] at isNext'
        unfold Session.requestOf at isNext'
        split at isNext'
        · next call isCall =>
          unfold Session.request at isNext'
          split at isNext'
          · cases isNext'
            exact .inr ⟨call, isCall, rfl⟩
          · cases isNext'
        · cases isNext'
      · exact .inr ⟨call, isCall, Visit.turn_single isSingle isMade isNext'⟩
    · intro call isSent
      rw [sentIn_append, sentIn_singleton] at isSent
      rcases List.mem_append.mp isSent with isOld | isNew
      · exact step.sent call isOld
      · obtain ⟨other, isMade⟩ := Visit.made_of_sends (Option.mem_toList.mp isNew)
        rcases step.stands _ isNext with isFirst | ⟨made, isCall, isMade'⟩
        · rw [isFirst] at isMade
          cases isMade
        · cases isMade.symm.trans isMade'
          exact isCall

end Requests

end WatchedNode
