/-
**A session that is closed starts nothing, but for what its requests still hear.**

When a session is closed, its watches and its probe are cancelled, and nobody is left in its account
(`Happens.isRecalled`). Those who have been sent out do nothing any more (`AreRecalled`), so no
watcher is called (`AreRecalled.reaction`). But a request that was under way goes on, and what it
hears is dealt with as if the session were open: an answer may arm a watch, and a failure may let
the session look for the connection (`Upsets`). This, and nothing else, starts something
(`starts_nothing_iff`).
-/
import WatchedNode.Proofs.Watching
import WatchedNode.Proofs.Carriage
import WatchedNode.Proofs.Loop.Cancelled
import WatchedNode.Proofs.Loop.Lull
import WatchedNode.Proofs.Loop.Workers
import WatchedNode.Proofs.Store.Aftermath

namespace WatchedNode

open Relation

/-! ## Sessions with nobody sent out -/

namespace Sessions

/-- The session has been closed, and has nobody in its account. -/
def IsBare (handle : Handle) (state : Sessions) : Prop :=
  ∃ session, state.sessions[handle]? = some session ∧ session.IsBare

variable {handle place : Handle} {state after : Sessions} {session : Session}

/-- Who listens does not matter, and a session that is new is open. -/
theorem Minds.isClosed_iff (minds : Minds state after) : after.IsClosed handle ↔
    state.IsClosed handle := by
  refine ⟨?_, minds.closed⟩
  rintro ⟨session, found, closed⟩
  rcases minds.new found with ⟨old, found'⟩ | ⟨options, listeners, rfl⟩
  · obtain ⟨listeners, same⟩ := minds.old found'
    cases found.symm.trans same
    exact ⟨old, found', closed⟩
  · cases closed

theorem Minds.isBare_iff (minds : Minds state after) : after.IsBare handle ↔
    state.IsBare handle := by
  constructor
  · rintro ⟨session, found, bare⟩
    rcases minds.new found with ⟨old, found'⟩ | ⟨options, listeners, rfl⟩
    · obtain ⟨listeners, same⟩ := minds.old found'
      cases found.symm.trans same
      exact ⟨old, found', bare.closed, bare.unwatched, bare.unprobed⟩
    · cases bare.closed
  · rintro ⟨session, found, bare⟩
    obtain ⟨listeners, same⟩ := minds.old found
    exact ⟨_, same, bare.closed, bare.unwatched, bare.unprobed⟩

/-- A session that is closed has nobody in its account, whether it is that one or not. -/
theorem IsBare.close (found : state.sessions[place]? = some session)
    (isBare : state.IsBare handle) :
    IsBare handle (state.modify (some place) fun _ => session.close.1.1) := by
  obtain ⟨session', found', bare⟩ := isBare
  unfold IsBare
  rw [modify_close found]
  split
  · exact ⟨_, rfl, session.close_isBare⟩
  · exact ⟨session', found', bare⟩

/-- Whose session is closed after one has been closed, and was not before, is the one that has been
closed. -/
theorem eq_of_close (found : state.sessions[place]? = some session)
    (isOpen : ¬ state.IsClosed handle)
    (closed : IsClosed handle (state.modify (some place) fun _ => session.close.1.1)) :
    handle = place := by
  by_contra isOther
  obtain ⟨session', found', closed⟩ := closed
  rw [modify_close found, if_neg isOther] at found'
  exact isOpen ⟨session', found', closed⟩

end Sessions

namespace Loop

variable {allowed : Outside Sessions.service} {before after first loop : Loop Sessions.service}
  {handle : Handle} {task : TaskId} {store : Store} {isSlow : Bool}

/-! ## Those who are sent out -/

/-- A task that stands at a point has a call for its first frame. -/
theorem frames_of_stands {S : Service} {known : Task S} {point : S.Point}
    (stands : known.point? = some point) :
    ∃ rest, known.frames = .service point :: rest := by
  unfold Task.point? at stands
  split at stands
  · next here rest frames =>
    cases stands
    exact ⟨rest, frames⟩
  · cases stands

theorem not_isErrand_of_isFirst {point : At} (isFirst : Sessions.service.IsFirst point) :
    ¬ point.point.IsErrand := by
  rcases Sessions.begins_or_closes isFirst with ⟨operation, same⟩ | same
  · rw [same]
    exact Point.not_isErrand_begin operation
  · rw [same]
    exact Point.not_isErrand_closing

/-- Where a task comes from that stands where one stands who has been sent out by a session. -/
inductive ErrandComes (handle : Handle) (point : Point) (task : TaskId)
    (known : Task Sessions.service) (before after : Loop Sessions.service) : Prop
  /-- It has been sent out. -/
  | sent (unknown : before.tasks[task]? = none) (role : known.role = .errand)
      (isIdle : point.isIdle = true)
  /-- It stood there, and it has not had its turn. -/
  | stays {old : Task Sessions.service} (found : before.tasks[task]? = some old)
      (role : known.role = old.role) (stands : old.point? = some ⟨some handle, point⟩)
      (isOther : ∀ wake frame rest, before.IsAt task wake frame rest → after ≠ before.step)
  /-- It has had its turn. -/
  | turn {old : Task Sessions.service} {wake : Wake Plan} {here : Point} {rest : List (Frame At)}
      {session : Session} (found : before.tasks[task]? = some old) (role : known.role = old.role)
      (stands : old.point? = some ⟨some handle, here⟩) (isErrand : here.IsErrand)
      (isAt : before.IsAt task wake (.service ⟨some handle, here⟩) rest)
      (turns : SessionTurns task wake handle here session before after)
      (next :
        (Sessions.turn (before.moment task) handle before.service.isSlow here wake
          before.service.store
        session).2.2.2.next? = some point)

section Comes

variable {known old : Task Sessions.service} {point : Point}

/-- Who comes in where one stands who has been sent out, has been sent out. -/
theorem Happens.sends (happens : Happens allowed before after) (areStacked : before.AreStacked)
    (isKept : before.IsKept) (unknown : before.tasks[task]? = none)
    (found : after.tasks[task]? = some known) (stands : known.point? = some ⟨some handle, point⟩)
    (isErrand : point.IsErrand) :
    known.role = .errand ∧ point.isIdle = true := by
  have here : after.roll.stands task = some ⟨some handle, point⟩ :=
    (at?_of_found found).trans stands
  have nowhere : before.roll.stands task = none := by
    show before.at? task = none
    rw [Loop.at?, unknown, Option.bind_none]
  rcases happens.chores areStacked with turn | chores
  · obtain @⟨self, wake, place, rest, isAt, isStack⟩ := turn
    obtain ⟨own, isThere, -⟩ := Option.map_eq_some_iff.mp isAt.frames
    have different : task ≠ self := by
      rintro rfl
      cases unknown.symm.trans isThere
    constructor
    · -- Nobody comes in when the turn ends, and who has come in before is no request of a cache.
      have nudges : Nudges True before.inTurn (before.inTurn.serviceTurn self place wake).1 :=
        frameTurn_nudges self (.service place) wake before.inTurn
      obtain ⟨own', isThere', -⟩ := nudges.spares.old self own isThere
      have moves :=
        afterTurn_moves self (.service place) rest (before.inTurn.serviceTurn self place wake)
      have ends := afterTurn_ends (.service place) rest isThere'
      cases between : (before.inTurn.serviceTurn self place wake).1.tasks[task]? with
      | none =>
        rw [List.getElem?_eq_none_iff, ← moves.length, ← List.getElem?_eq_none_iff] at between
        cases between.symm.trans found
      | some middle =>
        obtain ⟨known', found', role, frames, -⟩ := ends.others task middle different between
        cases found.symm.trans found'
        rcases nudges.sent (show before.inTurn.tasks[task]? = none from unknown) between with
          isSent | isOwn
        · exact role.trans isSent
        · obtain ⟨frame, same, begins⟩ := isOwn
          obtain ⟨below, same'⟩ := frames_of_stands stands
          cases (frames.trans same).symm.trans same'
          exact absurd isErrand (@not_isErrand_of_isFirst ⟨some handle, point⟩ (.inr begins))
    · rcases turn_atSession isAt isStack isKept with ⟨place, here', session, -, turns⟩ | idles
      · rcases turns.turns.old here with same | isOld | ⟨-, isSent⟩
        · exact absurd same different
        · cases nowhere.symm.trans isOld
        · exact (turns.accounts.sent_isIdle isSent).2
      · rcases idles.turns.old here with same | isOld | ⟨-, isSent⟩
        · exact absurd same different
        · cases nowhere.symm.trans isOld
        · cases isSent
  · have stays : ∀ {first last : Loop Sessions.service}, Chores allowed first last →
        last.roll.stands task = some ⟨some handle, point⟩ →
          first.roll.stands task = some ⟨some handle, point⟩ := by
      intro first last chores here
      induction chores with
      | refl => exact here
      | tail _ chore step =>
        refine step ?_
        rcases chore.steady with ⟨steady, -⟩ | ⟨place, session, found, performs⟩
        · exact (steady.old here).resolve_right fun isFirst =>
            not_isErrand_of_isFirst isFirst isErrand
        · exact (performs.at? session.close_silent task).symm.trans here
    cases nowhere.symm.trans (stays chores here)

/-- **Who stands where one stands who has been sent out** stood there before, or has come there in a
turn of its own, or has been sent out. -/
theorem Happens.errandComes (happens : Happens allowed before after)
    (areStacked : before.AreStacked) (isKept : before.IsKept)
    (found : after.tasks[task]? = some known) (stands : known.point? = some ⟨some handle, point⟩)
    (isErrand : point.IsErrand) :
    ErrandComes handle point task known before after := by
  have here : after.roll.stands task = some ⟨some handle, point⟩ :=
    (at?_of_found found).trans stands
  cases earlier : before.tasks[task]? with
  | none =>
    obtain ⟨role, isIdle⟩ := happens.sends areStacked isKept earlier found stands isErrand
    exact .sent earlier role isIdle
  | some old =>
    obtain ⟨known', found', role⟩ := happens.remains.roles task old earlier
    cases found.symm.trans found'
    by_cases ownTurn : ∃ wake frame rest, before.IsAt task wake frame rest ∧ after = before.step
    · obtain ⟨wake, frame, rest, isAt, rfl⟩ := ownTurn
      have isStack := areStacked.isAt isAt
      obtain ⟨old', earlier', frames⟩ := Option.map_eq_some_iff.mp isAt.frames
      cases earlier.symm.trans earlier'
      by_cases isService : frame.isService
      · cases frame with
        | service here' =>
          have step : before.step = afterTurn task (.service here') rest
            (before.inTurn.serviceTurn task here' wake) := isAt.step
          rcases turn_atSession isAt isStack isKept with
            ⟨place, point', session, rfl, turns⟩ | idles
          · rw [← step] at turns
            obtain ⟨next, isNext, same⟩ :=
              Option.map_eq_some_iff.mp (turns.turns.self.symm.trans here)
            cases same
            refine .turn earlier role ?_ ((turns.accounts.isErrand isNext).mp isErrand)
              isAt turns isNext
            rw [Task.point?, frames]
          · rw [← step] at idles
            cases idles.turns.self.symm.trans here
        | _ => exact isService.elim
      · obtain ⟨below, same⟩ := frames_of_stands stands
        have left : known.frames = (before.inTurn.frameTurn task frame wake).2.frames rest := by
          obtain ⟨middle, isThere, -, -, -⟩ :=
            (frameTurn_spares task frame wake before.inTurn).old task old earlier
          obtain ⟨known', found', -, frames'⟩ :=
            (afterTurn_ends frame rest isThere).self middle isThere
          rw [← isAt.step] at found'
          cases found.symm.trans found'
          exact frames'
        have begins :=
          begins_of_follows isService isStack (frameTurn_follows task frame wake before.inTurn)
          (left.symm.trans same)
        exact absurd isErrand (@not_isErrand_of_isFirst ⟨some handle, point⟩ (.inr begins))
    · have isOther : ∀ wake frame rest, before.IsAt task wake frame rest → after ≠ before.step :=
        fun wake frame rest isAt same => ownTurn ⟨wake, frame, rest, isAt, same⟩
      cases happens.inherits found with
      | new unknown => cases unknown.symm.trans earlier
      | doomed earlier' role' was bare =>
        rw [Task.point?, bare] at stands
        cases stands
      | kept earlier' role' frames =>
        cases earlier.symm.trans earlier'
        exact .stays earlier role ((Task.point?_of_frames frames).symm.trans stands) isOther
      | turn earlier' role' isAt same =>
        exact absurd (same.trans isAt.step.symm) (isOther _ _ _ isAt)

end Comes

/-- Tasks that stand where those stand who have been sent out are errands. -/
def AreErrands (loop : Loop Sessions.service) : Prop :=
  ∀ (handle : Handle) (point : Point) (task : TaskId) (known : Task Sessions.service),
    loop.tasks[task]? = some known → known.point? = some ⟨some handle, point⟩ → point.IsErrand →
      known.role = .errand

theorem Happens.areErrands (happens : Happens allowed before after) (areStacked : before.AreStacked)
    (isKept : before.IsKept) (areErrands : before.AreErrands) : after.AreErrands := by
  intro handle point task known found stands isErrand
  cases happens.errandComes areStacked isKept found stands isErrand with
  | sent unknown role => exact role
  | stays earlier role stands' =>
    exact role.trans (areErrands handle point task _ earlier stands' isErrand)
  | turn earlier role stands' isErrand' =>
    exact role.trans (areErrands handle _ task _ earlier stands' isErrand')

/-! ## What closing does to those who are sent out -/

/-- A task that the session has sent out waits, or is to have its turn. -/
def IsOut (handle : Handle) (task : TaskId) (loop : Loop Sessions.service) : Prop :=
  ∃ known point, loop.tasks[task]? = some known ∧ known.role = .errand ∧ known.status.isOff ∧
    known.point? = some ⟨some handle, point⟩ ∧ point.IsErrand

theorem Spares.isOut (spares : Spares before after) (isOut : before.IsOut handle task) :
    after.IsOut handle task := by
  obtain ⟨known, point, found, role, isOff, stands, isErrand⟩ := isOut
  obtain ⟨known', found', role', frames, stage⟩ := spares.old task known found
  exact ⟨known', point, found', role'.trans role, Status.isOff_of_stage stage isOff,
    (Task.point?_of_frames frames).trans stands, isErrand⟩

/-- The task is cancelled, and has not begun its turn. -/
def IsStopped (task : TaskId) (loop : Loop Sessions.service) : Prop :=
  ∃ known, loop.tasks[task]? = some known ∧ known.status.isCancelled

/-- Who has been sent out is cancelled by the effects of closing the session. -/
theorem IsOut.stopped {session : Session} (isOut : before.IsOut handle task)
    (isKept : before.IsKept) (found : before.service.sessions[handle]? = some session)
    (isOpen : session.isOpen = true) (service : Sessions) :
    ((before.setService service).perform session.close.1.2).IsStopped task := by
  obtain ⟨known, point, isThere, role, isOff, stands, isErrand⟩ := isOut
  have here : before.roll.stands task = some ⟨some handle, point⟩ :=
    (at?_of_found isThere).trans stands
  have counts := (isKept.sessions found).counts isOpen here isErrand
  exact perform_cancels (Session.close_cancels_all counts) isThere role isOff

/-- Who has been sent out is there, and is cancelled if the session has been closed. -/
structure IsRecalled (handle : Handle) (task : TaskId) (loop : Loop Sessions.service) : Prop where
  isKept : loop.IsKept
  isOut : loop.IsOut handle task
  stopped : Sessions.IsClosed handle loop.service → loop.IsStopped task

theorem happen_stops (event : SessionEvent) (isKept : before.IsKept)
    (isOut : before.IsOut handle task) (isOpen : ¬ Sessions.IsClosed handle before.service)
    (closed : Sessions.IsClosed handle (before.happen event).1.service) :
    (before.happen event).1.IsStopped task := by
  unfold Loop.happen at closed ⊢
  split at closed
  · exact absurd closed isOpen
  · next occurrence occurs =>
    have performs := perform_performs occurrence.effects (before.setService occurrence.state)
    have closed : Sessions.IsClosed handle occurrence.state :=
      (Sessions.Minds.of_heeds performs.heeds).isClosed_iff.mp closed
    by_cases isClose : event = .close
    · subst isClose
      obtain ⟨place, session, -, found, state, effects, -⟩ := Sessions.occur_close occurs
      rw [state] at closed
      obtain rfl := Sessions.eq_of_close found isOpen closed
      dsimp only
      rw [effects]
      exact isOut.stopped isKept found (Sessions.isOpen_of_found found isOpen) occurrence.state
    · obtain ⟨minds, -⟩ := Sessions.Minds.occur isClose occurs
      exact absurd (minds.isClosed_iff.mp closed) isOpen

theorem Toil.isRecalled (toil : Toil before after) (isRecalled : before.IsRecalled handle task) :
    after.IsRecalled handle task := by
  have chore : Chore anything before after := toil.chore
  have nudges : Nudges True before after := Toils.nudges (.single toil)
  refine ⟨chore.isKept isRecalled.isKept, nudges.spares.isOut isRecalled.isOut, fun closed => ?_⟩
  by_cases isOpen : Sessions.IsClosed handle before.service
  · exact nudges.staysCancelled.isCancelled (isRecalled.stopped isOpen)
  · rcases toil.heeds with ⟨event, rfl⟩ | ⟨settings, rfl⟩ | heeds
    · exact happen_stops event isRecalled.isKept isRecalled.isOut isOpen closed
    · exact absurd ((connect_steady settings before).2.isClosed_iff.mp closed) isOpen
    · exact absurd ((Sessions.Minds.of_heeds heeds).isClosed_iff.mp closed) isOpen

theorem Toils.isRecalled (toils : Toils before after) (isRecalled : before.IsRecalled handle task) :
    after.IsRecalled handle task := by
  induction toils with
  | refl => exact isRecalled
  | tail _ toil step => exact toil.isRecalled step

/-- The turn of another frame than a call. -/
theorem IsRecalled.turn {self : TaskId} {wake : Wake Plan} {frame : Frame Sessions.service.Point}
    {rest : List (Frame Sessions.service.Point)}
    (isOther : self ≠ task) (isNoCall : ¬ frame.isService)
    (isRecalled : before.IsRecalled handle task)
    (isOpen : ¬ Sessions.IsClosed handle before.service) (closed : Sessions.IsClosed handle
      (afterTurn self frame rest (before.inTurn.frameTurn self frame wake)).service) :
    (afterTurn self frame rest (before.inTurn.frameTurn self frame wake)).IsStopped task := by
  obtain ⟨owner, middle, -, prepares, labours⟩ :=
    frameTurn_endeavours self frame wake before.inTurn isNoCall
  have prepared : Chore anything before.inTurn middle := prepares.chore
  have nudged : Nudge True before.inTurn middle := prepares.nudge
  have recalled : middle.IsRecalled handle task := by
    refine ⟨prepared.isKept isRecalled.isKept, nudged.spares.isOut isRecalled.isOut,
      fun closed => ?_⟩
    exact absurd ((Sessions.Minds.of_heeds prepares.heeds).isClosed_iff.mp closed) isOpen
  have recalled := labours.toils.isRecalled recalled
  have service :=
    (afterTurn_moves self frame rest (before.inTurn.frameTurn self frame wake)).service
  have closed : Sessions.IsClosed handle (before.inTurn.frameTurn self frame wake).1.service :=
    service.subst (motive := Sessions.IsClosed handle) closed
  exact (afterTurn_staysCancelled isOther frame rest _).isCancelled (recalled.stopped closed)

/-- The turn of a call. -/
theorem IsOut.serviceTurn {self : TaskId} {wake : Wake Plan} {point : At} {rest : List (Frame At)}
    (isOther : self ≠ task) (isOut : before.IsOut handle task) (isKept : before.IsKept)
    (isAt : before.IsAt self wake (.service point) rest)
    (isStack : IsStack (.service point :: rest))
    (isOpen : ¬ Sessions.IsClosed handle before.service) (closed : Sessions.IsClosed handle
      (afterTurn self (.service point) rest (before.inTurn.serviceTurn self point wake)).service) :
    (afterTurn self (.service point) rest (before.inTurn.serviceTurn self point wake)).IsStopped
      task := by
  refine (afterTurn_staysCancelled (S :=
    Sessions.service) isOther (.service point) rest _).isCancelled ?_
  rcases turn_atSession isAt isStack isKept with ⟨place, here, session, rfl, turns⟩ | idles
  · obtain ⟨session', found', closed⟩ := turns.minds.isClosed_iff.mp closed
    dsimp only at found'
    by_cases isHere : place = handle
    · subst isHere
      rw [List.getElem?_set_self (List.getElem?_eq_some_iff.mp turns.found).1] at found'
      cases found'
      have isOpen' := Sessions.isOpen_of_found turns.found isOpen
      obtain ⟨-, -, effects⟩ := turns.accounts.closes_of_closed isOpen' closed
      obtain ⟨tickets, alarms, same⟩ :=
        serviceTurn_loop before.inTurn self (At.mk (some place) here) wake
      obtain ⟨reacts, -⟩ := @reaction_eq before place self wake here session turns.found
      have reacts :
          (Sessions.resume (before.moment self) ⟨some place, here⟩ wake before.service).effects =
        session.close.1.2 := reacts.trans effects
      have isOut : before.inTurn.IsOut place task := isOut
      have stopped := isOut.stopped isKept turns.found isOpen'
        (Sessions.resume (before.moment self) ⟨some place, here⟩ wake before.service).state
      rw [← reacts] at stopped
      rw [same]
      exact stopped
    · rw [List.getElem?_set_ne isHere] at found'
      exact absurd ⟨session', found', closed⟩ isOpen
  · exact absurd (idles.minds.isClosed_iff.mp closed) isOpen

theorem hook_toils (hook : Hook) (other : TaskId) (loop : Loop Sessions.service) :
    Toils loop (loop.start (.hook hook other)) := by
  unfold start
  dsimp only
  split
  · next outcome _ =>
    obtain ⟨owner, labours⟩ := runHook_labours hook other outcome loop
    exact labours.toils
  · exact .refl

/-- **Who has been sent out is cancelled when the session is closed.** -/
theorem Happens.recalls (happens : Happens allowed before after) (areStacked : before.AreStacked)
    (turnRuns : before.TurnRuns) (isKept : before.IsKept) (isOut : before.IsOut handle task)
    (isOpen : ¬ Sessions.IsClosed handle before.service)
    (closed : Sessions.IsClosed handle after.service) :
    after.IsStopped task := by
  have unchanged : after.service = before.service → after.IsStopped task := fun same =>
    absurd (same ▸ closed) isOpen
  have recalled : before.IsRecalled handle task :=
    ⟨isKept, isOut, fun closed => absurd closed isOpen⟩
  cases happens with
  | step =>
    have step := step_isStep before
    generalize before.step = after at step closed unchanged
    cases step with
    | @turn self wake frame rest isAt =>
      have isOther : self ≠ task := by
        rintro rfl
        obtain ⟨known, -, found, -, isOff, -⟩ := isOut
        rw [status_of_running (turnRuns self wake isAt.turn) found] at isOff
        rcases isOff with isNew | isBetween <;> contradiction
      by_cases isService : frame.isService
      · cases frame with
        | service point =>
          exact isOut.serviceTurn isOther isKept isAt (areStacked.isAt isAt) isOpen closed
        | _ => exact isService.elim
      · exact recalled.turn isOther isService isOpen closed
    | pause turn isOver => exact unchanged rfl
    | @job job ready turn isFirst =>
      have recalled : ({ before with ready } : Loop Sessions.service).IsRecalled handle task :=
        ⟨recalled.isKept, recalled.isOut, recalled.stopped⟩
      cases job with
      | resume other =>
        refine unchanged ?_
        unfold start
        dsimp only
        split
        · rfl
        · rfl
        · exact (finish_moves other .cancelled _).service
        · rfl
      | hook hook other =>
        exact ((hook_toils hook other _).isRecalled recalled).stopped closed
    | rest turn => exact unchanged rfl
  | command command isBetween isMomentary _ =>
    have order := command_isOrder before command isMomentary
    generalize (before.command command).1 = after at order closed unchanged
    cases order with
    | stirs stirs => exact (stirs.toils.isRecalled recalled).stopped closed
    | @call after stirs point =>
      exact (spawn_staysCancelled _ _ _).isCancelled
        ((stirs.toils.isRecalled recalled).stopped closed)
    | release tickets release same =>
      exact unchanged
        (releaseAll_keeps before release (fun loop task kept =>
          (wake_keeps loop task _).1.trans kept)
        tickets rfl)
    | install name cache path stat data same =>
      exact ((installFrom_toils cache path stat data before).isRecalled recalled).stopped closed
  | elapse time => exact unchanged rfl
  | ring => exact unchanged (ring_keeps before).1
  | decide scripts habits => exact unchanged rfl

/-! ## Those who have been sent out do nothing any more -/

/-- **Who has been sent out by a session that is closed** is cancelled, or is to see whether calls
can be made. -/
def AreRecalled (loop : Loop Sessions.service) : Prop :=
  ∀ (handle : Handle) (point : Point) (task : TaskId) (known : Task Sessions.service),
    Sessions.IsClosed handle loop.service → loop.tasks[task]? = some known →
      known.point? = some ⟨some handle, point⟩ → point.IsErrand → loop.IsCancelled task ∨
        point.isIdle = true

theorem IsCancelled.wake {wake : Wake Plan} (isCancelled : before.IsCancelled task)
    (turnRuns : before.TurnRuns) (given : before.turn = some (task, wake)) : wake = .cancelled := by
  rcases isCancelled with given' | ⟨known, found, isCancelled⟩
  · cases given.symm.trans given'
    rfl
  · exact absurd isCancelled (turnRuns.not_cancelled given found)

/-- Where a session is closed in an event in which a task has no turn that stands at a point, the
task waits, or is to have its turn. -/
theorem Happens.isOff (happens : Happens allowed before after) (runningTurns : before.RunningTurns)
    (endedAreBare : before.EndedAreBare) {known : Task Sessions.service} {point : At}
    (found : before.tasks[task]? = some known) (stands : known.point? = some point)
    (isOther : ∀ wake frame rest, before.IsAt task wake frame rest → after ≠ before.step)
    (changes : after.service ≠ before.service) : known.status.isOff := by
  obtain ⟨rest, frames⟩ := frames_of_stands stands
  rcases known.status.isOff_or with isOff | runs | ⟨outcome, ended⟩
  · exact isOff
  · have isBusy : known.frames ≠ [] := by
      rw [frames]
      exact List.cons_ne_nil _ _
    obtain ⟨wake, given⟩ := runningTurns task known found runs isBusy
    have isAt : before.IsAt task wake (.service point) rest :=
      ⟨given, by rw [found, Option.map_some, frames]⟩
    cases happens with
    | step => exact absurd rfl (isOther _ _ _ isAt)
    | command command isBetween =>
      rw [Loop.isBetween, Option.isNone_iff_eq_none] at isBetween
      cases isBetween.symm.trans given
    | elapse time => exact absurd rfl changes
    | ring => exact absurd (ring_keeps before).1 changes
    | decide scripts habits => exact absurd rfl changes
  · have bare := endedAreBare task known outcome found (by rw [ended]; rfl)
    cases frames.symm.trans bare

/-- A turn of who has been sent out, in a session that is closed. -/
theorem AreRecalled.isIdle {wake : Wake Plan} {point : Point} {rest : List (Frame At)}
    {session : Session} (areRecalled : before.AreRecalled) (turnRuns : before.TurnRuns)
    (isAt : before.IsAt task wake (.service ⟨some handle, point⟩) rest)
    (found : before.service.sessions[handle]? = some session) (closed : session.isOpen = false)
    (isErrand : point.IsErrand) : SessionTurn.IsIdle (Sessions.turn (before.moment task) handle
      before.service.isSlow point wake before.service.store session).2 := by
  obtain ⟨known, isThere, frames⟩ := Option.map_eq_some_iff.mp isAt.frames
  have stands : known.point? = some ⟨some handle, point⟩ := by rw [Task.point?, frames]
  rcases areRecalled handle point task known ⟨session, found, closed⟩ isThere stands isErrand with
    isCancelled | isIdle
  · cases isCancelled.wake turnRuns isAt.turn
    exact Session.cancelled_isIdle task point session
  · exact Sessions.turn_isIdle _ handle _ wake _ isIdle closed

theorem Happens.areRecalled (happens : Happens allowed before after)
    (areStacked : before.AreStacked) (turnRuns : before.TurnRuns)
    (runningTurns : before.RunningTurns) (endedAreBare : before.EndedAreBare)
    (isKept : before.IsKept) (areErrands : before.AreErrands) (areRecalled : before.AreRecalled) :
    after.AreRecalled := by
  intro handle point task known closed found stands isErrand
  cases happens.errandComes areStacked isKept found stands isErrand with
  | sent unknown role isIdle => exact .inr isIdle
  | @stays old earlier role stands' isOther =>
    by_cases was : Sessions.IsClosed handle before.service
    · rcases areRecalled handle point task old was earlier stands' isErrand with
        isCancelled | isIdle
      · rcases happens.keeps_cancelled turnRuns isCancelled fun frame rest =>
          isOther _ frame rest with stays | gone
        · exact .inl stays
        · cases gone.symm.trans ((at?_of_found found).trans stands)
      · exact .inr isIdle
    · have isOff := happens.isOff runningTurns endedAreBare earlier stands' isOther fun same =>
          was (same ▸ closed)
      have isOut : before.IsOut handle task :=
        ⟨old, point, earlier, areErrands handle point task old earlier stands' isErrand, isOff,
          stands', isErrand⟩
      exact .inl (.inr (happens.recalls areStacked turnRuns isKept isOut was closed))
  | @turn old wake here rest session earlier role stands' isErrand' isAt turns next =>
    obtain ⟨listeners, found'⟩ := turns.session
    obtain ⟨session', found'', closed⟩ := closed
    cases found'.symm.trans found''
    have wasClosed : session.isOpen = false := by
      refine Bool.eq_false_iff.mpr fun isOpen => ?_
      obtain ⟨isStop, -⟩ := turns.accounts.closes_of_closed isOpen closed
      exact Point.not_isErrand_begin _ (isStop ▸ isErrand')
    exact .inr ((areRecalled.isIdle turnRuns isAt turns.found wasClosed isErrand').2 point next)

theorem Reaches.areRecalled (run : Reaches allowed (unconnected store isSlow) loop) :
    loop.AreRecalled := by
  have both : loop.AreErrands ∧ loop.AreRecalled := by
    induction run with
    | refl =>
      have nobody : ∀ task, (unconnected store isSlow).tasks[task]? = none := fun _ =>
          List.getElem?_nil
      refine ⟨fun handle point task known found => ?_,
        fun handle point task known closed found => ?_⟩
      · cases (nobody task).symm.trans found
      · cases (nobody task).symm.trans found
    | @tail before after run happens step =>
      have run : Reaches allowed (unconnected store isSlow) before := run
      have areStacked : before.AreStacked := Reaches.areStacked run (fresh_areStacked _)
      have isKept : before.IsKept := run.isKept
      exact ⟨happens.areErrands areStacked isKept step.1,
        happens.areRecalled areStacked (Reaches.turnRuns run)
        (Reaches.runningTurns run) (Reaches.endedAreBare run) isKept step.1 step.2⟩
  exact both.2

/-- **In a session that is closed no watcher is called**, and who has been sent out does nothing
else either. -/
theorem Reaches.reaction_of_closed (run : Reaches allowed (unconnected store isSlow) before)
    {wake : Wake Plan} {point : Point} {rest : List (Frame At)}
    (isAt : before.IsAt task wake (.service ⟨some handle, point⟩) rest)
    (closed : Sessions.IsClosed handle before.service) :
    newsIn (before.reaction task wake handle point).effects = [] ∧
      (point.IsErrand → (before.reaction task wake handle point).effects = []) := by
  obtain ⟨session, found, closed⟩ := closed
  obtain ⟨effects, -⟩ := @reaction_eq before handle task wake point session found
  have turnRuns : before.TurnRuns := Reaches.turnRuns run
  have quiet : point.IsErrand → (before.reaction task wake handle point).effects = [] :=
    fun isErrand =>
    effects.trans (run.areRecalled.isIdle turnRuns isAt found closed isErrand).1
  refine ⟨?_, quiet⟩
  by_cases isErrand : point.IsErrand
  · rw [quiet isErrand]
    rfl
  · have accounts := Sessions.turn_accounts (before.moment task) handle before.service.isSlow wake
      before.service.store session (run.isKept.isSound (isAt.at? : before.roll.stands task = _))
    rw [effects]
    exact Session.newsIn_of_accounts accounts (by_contra fun isWatch => isErrand (.inl isWatch))

/-! ## What starts something -/

/-- The session has sent out the task. -/
def IsErrandOf (handle : Handle) (task : TaskId) (loop : Loop Sessions.service) : Prop :=
  ∃ point, loop.roll.stands task = some ⟨some handle, point⟩ ∧ point.IsErrand

/-- Nobody is in the account of the session, and nobody has been sent out by it. -/
structure StartsNothing (handle : Handle) (before after : Loop Sessions.service) : Prop where
  bare : Sessions.IsBare handle after.service
  nobody (task : TaskId) : after.IsErrandOf handle task → before.IsErrandOf handle task

/-- In a turn at the session something is heard that lets it send out somebody: an answer to a look,
or to a fetch, that is to arm a watch, or a failure from which it learns that the connection is
down. -/
def Upsets (handle : Handle) (before after : Loop Sessions.service) : Prop :=
  after = before.step ∧ ((∃ vigil result, before.Answers handle vigil result) ∨
    Sessions.link? handle after.service ≠ Sessions.link? handle before.service ∧
      (Sessions.link? handle after.service).any (fun link => !link.isUp) = true)

/-- What leaves a session alone that has nobody in its account. -/
structure LetsBe (handle : Handle) (before after : Loop Sessions.service) : Prop where
  bare : Sessions.IsBare handle before.service → Sessions.IsBare handle after.service
  link : Sessions.link? handle after.service = Sessions.link? handle before.service
  nobody (task : TaskId) : after.IsErrandOf handle task → before.IsErrandOf handle task

theorem Steady.letsBe (steady : Steady before after)
    (minds : Sessions.Minds before.service after.service) (handle : Handle) :
    before.LetsBe handle after := by
  refine ⟨minds.isBare_iff.mpr, minds.link handle, ?_⟩
  rintro task ⟨point, stands, isErrand⟩
  exact ⟨point, (steady.old stands).resolve_right fun isFirst =>
    not_isErrand_of_isFirst isFirst isErrand, isErrand⟩

theorem Chore.letsBe (chore : Chore allowed before after) (handle : Handle) :
    before.LetsBe handle after := by
  rcases chore.steady with ⟨steady, minds⟩ | ⟨place, session, found, performs⟩
  · exact steady.letsBe minds handle
  · have minds :
        Sessions.Minds (before.service.modify (some place) fun _ => session.close.1.1)
          after.service :=
      .of_heeds performs.heeds
    refine ⟨fun bare => minds.isBare_iff.mpr (bare.close found),
      (minds.link handle).trans (Sessions.link?_close found handle), ?_⟩
    rintro task ⟨point, stands, isErrand⟩
    exact ⟨point, (performs.at? session.close_silent task).symm.trans stands, isErrand⟩

theorem Chores.letsBe (chores : Chores allowed before after) (handle : Handle) :
    before.LetsBe handle after := by
  induction chores with
  | refl => exact ⟨id, rfl, fun _ => id⟩
  | tail _ chore step =>
    have next := chore.letsBe handle
    exact ⟨fun bare => next.bare (step.bare bare), next.link.trans step.link, fun task isErrand =>
      step.nobody task (next.nobody task isErrand)⟩

theorem Idles.letsBe {point : At} (idles : Idles task point before after) (handle : Handle) :
    before.LetsBe handle after := by
  refine ⟨idles.minds.isBare_iff.mpr, idles.minds.link handle, ?_⟩
  rintro other ⟨here, stands, isErrand⟩
  rcases idles.turns.old stands with rfl | isOld | ⟨-, isSent⟩
  · cases idles.turns.self.symm.trans stands
  · exact ⟨here, isOld, isErrand⟩
  · cases isSent

section Turns

variable {wake : Wake Plan} {place : Handle} {point : Point} {session : Session}

/-- Who has been sent out after a turn at a session has been sent out before, or in that turn. -/
theorem SessionTurns.isErrandOf (turns : SessionTurns task wake place point session before after)
    {other : TaskId} (isErrandOf : after.IsErrandOf handle other) : before.IsErrandOf handle other ∨
      ∃ sent, errands (Sessions.turn (before.moment task) place before.service.isSlow point wake
        before.service.store session).2.2.1 = [⟨some handle, sent⟩] := by
  obtain ⟨here, stands, isErrand⟩ := isErrandOf
  rcases turns.turns.old stands with rfl | isOld | ⟨-, isSent⟩
  · obtain ⟨next, isNext, same⟩ := Option.map_eq_some_iff.mp (turns.turns.self.symm.trans stands)
    cases same
    exact .inl ⟨point, turns.stands, (turns.accounts.isErrand isNext).mp isErrand⟩
  · exact .inl ⟨here, isOld, isErrand⟩
  · exact .inr ⟨here, isSent⟩

/-- A turn at another session. -/
theorem SessionTurns.letsBe (turns : SessionTurns task wake place point session before after)
    (isOther : place ≠ handle) : before.LetsBe handle after := by
  refine ⟨?_, ?_, fun other isErrandOf => ?_⟩
  · rintro ⟨session', found, bare⟩
    exact turns.minds.isBare_iff.mpr ⟨session', (List.getElem?_set_ne isOther).trans found, bare⟩
  · rw [turns.minds.link]
    unfold Sessions.link?
    dsimp only
    rw [List.getElem?_set_ne isOther]
  · rcases turns.isErrandOf isErrandOf with isOld | ⟨sent, isSent⟩
    · exact isOld
    · rcases turns.accounts.sent with silent | ⟨sent', isSent', -⟩
      · cases silent.symm.trans isSent
      · cases isSent'.symm.trans isSent
        exact absurd rfl isOther

/-- **A turn at a session that is closed and has nobody starts nothing exactly if nothing upsets
it.** -/
theorem SessionTurns.startsNothing_iff {rest : List (Frame At)}
    (turns : SessionTurns task wake handle point session before before.step)
    (isAt : before.IsAt task wake (.service ⟨some handle, point⟩) rest) (isBare : session.IsBare) :
    before.StartsNothing handle before.step ↔ ¬ before.Upsets handle before.step := by
  have stays : Sessions.IsBare handle before.step.service ↔
      (Sessions.turn (before.moment task) handle
      before.service.isSlow point wake before.service.store session).2.1.IsBare := by
    rw [turns.minds.isBare_iff]
    unfold Sessions.IsBare
    dsimp only
    rw [List.getElem?_set_self (List.getElem?_eq_some_iff.mp turns.found).1]
    exact ⟨fun ⟨_, same, bare⟩ => Option.some.inj same ▸ bare, fun bare => ⟨_, rfl, bare⟩⟩
  have upsets : before.Upsets handle before.step ↔ Sessions.Rouses (before.moment task) handle
      before.service.isSlow point wake before.service.store session := by
    unfold Upsets Sessions.Rouses
    rw [turns.link, Sessions.link?_of_found turns.found]
    refine (and_iff_right rfl).trans (or_congr ⟨?_, ?_⟩ Iff.rfl)
    · rintro ⟨vigil, result, task', wake', point', rest', errand, call, isAt', -,
        isMade, heard, arms⟩
      cases isAt.turn.symm.trans isAt'.turn
      cases isAt.frames.symm.trans isAt'.frames
      exact ⟨vigil, errand, call, result, isMade, heard, arms⟩
    · rintro ⟨vigil, errand, call, result, isMade, heard, arms⟩
      exact ⟨vigil, result, task, wake, point, rest, errand, call, isAt, ⟨session, turns.found⟩,
        isMade, heard, arms⟩
  have bare_iff :=
    Sessions.turn_isBare (before.moment task) handle before.service.isSlow isBare turns.accounts
  rw [upsets, ← bare_iff, ← stays]
  refine ⟨fun starts => starts.bare, fun bare => ⟨bare, fun other isErrandOf => ?_⟩⟩
  rcases turns.isErrandOf isErrandOf with isOld | ⟨sent, isSent⟩
  · exact isOld
  · cases (turns.accounts.silent isBare (stays.mp bare)).symm.trans isSent

end Turns

/-- **Whatever happens, a session that is closed and has nobody starts nothing exactly if nothing
upsets it.** -/
theorem Happens.startsNothing_iff (happens : Happens allowed before after)
    (areStacked : before.AreStacked) (isKept : before.IsKept)
    (isBare : Sessions.IsBare handle before.service) :
    before.StartsNothing handle after ↔ ¬ before.Upsets handle after := by
  by_cases ownTurn :
    ∃ task wake point rest, before.IsAt task wake (.service ⟨some handle, point⟩) rest ∧
      after = before.step
  · obtain ⟨task, wake, point, rest, isAt, rfl⟩ := ownTurn
    obtain ⟨session, found, bare⟩ := isBare
    exact (isAt.sessionTurns areStacked isKept found).startsNothing_iff isAt bare
  · have letsBe : before.LetsBe handle after := by
      rcases happens.chores areStacked with turn | chores
      · obtain @⟨task, wake, point, rest, isAt, isStack⟩ := turn
        rcases turn_atSession isAt isStack isKept with ⟨place, here, session, rfl, turns⟩ | idles
        · refine turns.letsBe ?_
          rintro rfl
          exact ownTurn ⟨task, wake, here, rest, isAt, isAt.step.symm⟩
        · exact idles.letsBe handle
      · exact chores.letsBe handle
    refine iff_of_true ⟨letsBe.bare isBare, letsBe.nobody⟩ ?_
    rintro ⟨same, ⟨vigil, result, task, wake, point, rest, errand, call, isAt, -⟩ | ⟨link, -⟩⟩
    · exact ownTurn ⟨task, wake, point, rest, isAt, same⟩
    · exact link letsBe.link

/-- **A session that is closed has nobody in its account then.** -/
theorem Happens.isBare (happens : Happens allowed before after) (areStacked : before.AreStacked)
    (isKept : before.IsKept) (isOpen : Sessions.IsOpen handle before.service)
    (closed : Sessions.IsClosed handle after.service) : Sessions.IsBare handle after.service := by
  rcases happens.turned areStacked isKept with
    ⟨task, wake, place, point, rest, session, isAt, rfl, turns⟩ | ⟨task, point, idles⟩ | chores
  · obtain ⟨session', found, closed⟩ := turns.minds.isClosed_iff.mp closed
    refine turns.minds.isBare_iff.mpr ⟨session', found, ?_⟩
    dsimp only at found
    by_cases isHere : place = handle
    · subst isHere
      rw [List.getElem?_set_self (List.getElem?_eq_some_iff.mp turns.found).1] at found
      cases found
      obtain ⟨-, same, -⟩ := turns.accounts.closes_of_closed
        (Sessions.isOpen_of_found turns.found isOpen.not_closed) closed
      rw [same]
      exact session.close_isBare
    · rw [List.getElem?_set_ne isHere] at found
      exact absurd ⟨session', found, closed⟩ isOpen.not_closed
  · exact absurd (idles.minds.isClosed_iff.mp closed) isOpen.not_closed
  · clear happens areStacked isKept
    induction chores with
    | refl => exact absurd closed isOpen.not_closed
    | tail _ chore step =>
      rcases chore.steady with ⟨-, minds⟩ | ⟨place, session, found, performs⟩
      · exact minds.isBare_iff.mpr (step (minds.isClosed_iff.mp closed))
      · have minds : Sessions.Minds _ _ := .of_heeds performs.heeds
        refine minds.isBare_iff.mpr ?_
        by_cases isHere : handle = place
        · subst isHere
          exact ⟨_, (Sessions.modify_close found handle).trans (if_pos rfl), session.close_isBare⟩
        · refine Sessions.IsBare.close found (step ?_)
          by_contra isOpen
          exact isHere (Sessions.eq_of_close found isOpen (minds.isClosed_iff.mp closed))

/-! ## What happens after a session has been closed -/

/-- A session that has been closed stays so. -/
theorem Reaches.staysClosed (run : Reaches allowed (unconnected store isSlow) first)
    (later : Reaches allowed first before) (closed : Sessions.IsClosed handle first.service) :
    Sessions.IsClosed handle before.service := by
  induction later with
  | refl => exact closed
  | @tail middle last later happens step =>
    have reached : Reaches allowed (unconnected store isSlow) middle := run.trans later
    rcases happens.turned (Reaches.areStacked reached (fresh_areStacked _)) reached.isKept with
      ⟨task, wake, place, point, rest, session, -, -, turns⟩ | ⟨task, point, idles⟩ | chores
    · exact turns.closed step
    · exact idles.closed step
    · exact (Chores.leaves_watches chores reached.isKept handle).closed step

/-- Things that happen, none of which upsets the session. -/
abbrev Peaceful (allowed : Outside Sessions.service) (handle : Handle) :
    Loop Sessions.service → Loop Sessions.service → Prop :=
  ReflTransGen fun before after => Happens allowed before after ∧ ¬ before.Upsets handle after

theorem Peaceful.reaches (peaceful : Peaceful allowed handle first before) :
    Reaches allowed first before :=
  ReflTransGen.mono (fun _ _ step => step.1) _ _ peaceful

/-- **A session that has been closed starts nothing, except that it deals with what its requests
hear.** When it is closed it has nobody in its account. From then on

* as long as nothing upsets it, it has nobody in its account, and nobody is sent out by it;
* in each step that upsets it, and in no other, somebody comes into its account;
* whether or not it is upset, no watcher is called in a turn at it, and a task that it has sent out
  has no effect there. -/
theorem starts_nothing_iff {earlier : Loop Sessions.service}
    (run : Reaches allowed (unconnected store isSlow) earlier)
    (closes : Happens allowed earlier first) (isOpen : Sessions.IsOpen handle earlier.service)
    (closed : Sessions.IsClosed handle first.service) :
    (∀ before after, Peaceful allowed handle first before → Happens allowed before after →
      Sessions.IsBare handle before.service ∧
        (before.StartsNothing handle after ↔ ¬ before.Upsets handle after)) ∧
    ∀ before, Reaches allowed first before → ∀ task wake point rest,
      before.IsAt task wake (.service ⟨some handle, point⟩) rest →
        newsIn (before.reaction task wake handle point).effects = [] ∧
          (point.IsErrand → (before.reaction task wake handle point).effects = []) := by
  have isBare : Sessions.IsBare handle first.service :=
    closes.isBare (Reaches.areStacked run (fresh_areStacked _)) run.isKept isOpen closed
  have begun : Reaches allowed (unconnected store isSlow) first := run.tail closes
  have iff : ∀ {before after}, Reaches allowed (unconnected store isSlow) before →
      Happens allowed before after →
      Sessions.IsBare handle before.service →
        (before.StartsNothing handle after ↔ ¬ before.Upsets handle after) :=
    fun run happens isBare =>
    happens.startsNothing_iff (Reaches.areStacked run (fresh_areStacked _))
      (Reaches.isKept run) isBare
  constructor
  · intro before after peaceful happens
    have bare : Sessions.IsBare handle before.service := by
      clear happens
      induction peaceful with
      | refl => exact isBare
      | tail peaceful step bare =>
        exact ((iff (begun.trans (Peaceful.reaches peaceful)) step.1 bare).mpr step.2).bare
    exact ⟨bare, iff (begun.trans peaceful.reaches) happens bare⟩
  · intro before later task wake point rest isAt
    exact Reaches.reaction_of_closed (begun.trans later) isAt
      (Reaches.staysClosed begun later closed)

/-! ## A look that fails after the session has been closed -/

/-- Somebody looks, and waits for the answer. -/
def lookHeld : Loop Sessions.service :=
  enact 60 [connecting, .occur (SessionEvent.plan "read" [.hold]),
    .operate (Operation.look (.text "/x") none)]
    (unconnected {} false)

/-- The session has been closed meanwhile. -/
def closedMeanwhile : Loop Sessions.service := (lookHeld.command (.occur SessionEvent.close)).1

/-- The look is to fail. -/
def failLook : Command Sessions.service :=
  .release [1] (.reply (.fail (Store.failure .connectionFailed "scripted" .null)))

/-- The look is about to hear that it has failed. -/
def failingLook : Loop Sessions.service := (closedMeanwhile.command failLook).1.step

theorem not_upsets (isQuiet : before.isQuiet = true)
    (link : Sessions.link? handle after.service = Sessions.link? handle before.service) :
    ¬ before.Upsets handle after := by
  rintro ⟨-, ⟨vigil, result, answers⟩ | ⟨changes, -⟩⟩
  · exact not_answers isQuiet vigil result answers
  · exact changes link

theorem lookHeld_reaches : Reaches anything (unconnected {} false) lookHeld :=
  enact_reaches 60 _ _ (by simp [anything]) (by decide +kernel)

theorem lookHeld_closes : Happens anything lookHeld closedMeanwhile := by
  have isBetween : lookHeld.isBetween = true := by decide +kernel
  exact @Happens.command _ anything lookHeld (.occur SessionEvent.close) isBetween rfl trivial

theorem failLook_happens : Happens anything closedMeanwhile (closedMeanwhile.command failLook).1 :=
  .command failLook (by decide +kernel) rfl trivial

/-- Before a look fails nothing is started by a session that has been closed, and then somebody
is. -/
theorem starts_nothing_iff_fails : Sessions.IsBare 0 failingLook.service ∧
    ¬ failingLook.StartsNothing 0 failingLook.step ∧
      ∀ task wake point rest, failingLook.IsAt task wake (.service ⟨some 0, point⟩) rest →
        newsIn (failingLook.reaction task wake 0 point).effects = [] := by
  have wasOpen : (lookHeld.service.sessions[0]?).map (·.isOpen) = some true := by decide +kernel
  have isClosed : (closedMeanwhile.service.sessions[0]?).map (·.isOpen) = some false := by
    decide +kernel
  obtain ⟨starts, silent⟩ := starts_nothing_iff lookHeld_reaches lookHeld_closes
    (Option.map_eq_some_iff.mp wasOpen) (Option.map_eq_some_iff.mp isClosed)
  have released : ¬ closedMeanwhile.Upsets 0 (closedMeanwhile.command failLook).1 :=
    not_upsets (by decide +kernel) (by decide +kernel)
  have begun : ¬ (closedMeanwhile.command failLook).1.Upsets 0 failingLook :=
    not_upsets (by decide +kernel) (by decide +kernel)
  have peaceful : Peaceful anything 0 closedMeanwhile failingLook :=
    .tail (.single ⟨failLook_happens, released⟩) ⟨.step, begun⟩
  have learns : Sessions.link? 0 failingLook.step.service = some .lost := by decide +kernel
  have knew : Sessions.link? 0 failingLook.service = none := by decide +kernel
  have upsets : failingLook.Upsets 0 failingLook.step := by
    refine ⟨rfl, .inr ⟨?_, ?_⟩⟩
    · rw [learns, knew]
      exact Option.some_ne_none _
    · rw [learns]
      rfl
  obtain ⟨bare, iff⟩ := starts _ _ peaceful .step
  exact ⟨bare, fun nothing => iff.mp nothing upsets, fun task wake point rest isAt =>
    (silent _ peaceful.reaches task wake point rest isAt).1⟩

/-- **A session that has been closed sends out a probe**: it has none when it is closed, and a
request that was under way fails after that. -/
theorem probes_after_closing :
    Reaches anything (unconnected {} false) lookHeld ∧ Happens anything lookHeld closedMeanwhile ∧
      Sessions.IsOpen 0 lookHeld.service ∧ Sessions.IsBare 0 closedMeanwhile.service ∧
      Reaches anything closedMeanwhile (enact 60 [failLook] closedMeanwhile) ∧
      (enact 60 [failLook] closedMeanwhile).isIdle ∧
      ((enact 60 [failLook] closedMeanwhile).service.sessions[0]?).map (fun session =>
        (session.isOpen, session.probe)) = some (false, some 1) ∧
      closedMeanwhile.tasks.length = 1 := by
  have wasOpen : (lookHeld.service.sessions[0]?).map (·.isOpen) = some true := by decide +kernel
  have isBare : (closedMeanwhile.service.sessions[0]?).map (fun session =>
      (session.isOpen, session.watches.isEmpty, session.probe)) = some (false, true, none) := by
    decide +kernel
  obtain ⟨session, found, same⟩ := Option.map_eq_some_iff.mp isBare
  simp only [Prod.mk.injEq] at same
  refine ⟨lookHeld_reaches, lookHeld_closes, Option.map_eq_some_iff.mp wasOpen,
    ⟨session, found, same.1, List.isEmpty_iff.mp same.2.1, same.2.2⟩,
    enact_reaches 60 [failLook] _ (by simp [anything]) (by decide +kernel), ?_, ?_, ?_⟩
  all_goals decide +kernel

end Loop

end WatchedNode
