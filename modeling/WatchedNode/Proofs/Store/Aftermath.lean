/-
**What a session still does that has been closed.**

Requests that were under way when a session was closed still have their turns, and what they hear is
dealt with as before. So such a session, which has nobody in its account, sends somebody out again
exactly if an answer arms a watch, or it learns that the connection is down
(`Sessions.turn_isBare`).

Who has been sent out does nothing for a session that is closed: who is cancelled ends
(`Session.cancelled_eq`), and who stands where it is to see whether calls can be made ends sooner or
later, without a call (`Sessions.turn_isIdle`).
-/
import WatchedNode.Proofs.Store.Roll
import WatchedNode.Proofs.Store.Watching

namespace WatchedNode

/-! ## Those who are sent out -/

/-- Who stands at that point has been sent out by a session. -/
def Point.IsErrand (point : Point) : Prop := point.vigil? ≠ none ∨ point.isProbe = true

/-- Who stands at that point is to see whether calls can be made before it makes one. -/
def Point.isIdle : Point → Bool
  | .poll .. | .probe | .probeWakes => true
  | _ => false

theorem Point.not_isErrand_begin (operation : Operation) : ¬ (Point.begin operation).IsErrand := by
  rintro (isWatch | isProbe)
  · exact isWatch rfl
  · cases isProbe

theorem Point.not_isErrand_closing : ¬ Point.closing.IsErrand := by
  rintro (isWatch | isProbe)
  · exact isWatch rfl
  · cases isProbe

theorem Sends.sent_isIdle {handle : Handle} {next : TaskId} {arms : Vigil → Prop}
    {before after : Session} {effects : List SessionEffect}
    (sends : Sends handle next arms before after effects) {point : At}
    (isSent : errands effects = [point]) : point.point.IsErrand ∧ point.point.isIdle = true := by
  cases sends with
  | nobody stays => cases stays.silent.symm.trans isSent
  | probe _ _ _ _ _ _ sent =>
    cases sent.symm.trans isSent
    exact ⟨.inr rfl, rfl⟩
  | watch vigil _ _ _ _ _ _ _ _ sent =>
    cases sent.symm.trans isSent
    exact ⟨.inl (Option.some_ne_none vigil), rfl⟩

/-- **Who is sent out begins by seeing whether calls can be made.** -/
theorem Accounts.sent_isIdle {handle : Handle} {next self : TaskId} {arms : Vigil → Prop}
    {point : Point} {session : Session} {turn : SessionTurn}
    (accounts : Accounts handle next self arms point session turn) {sent : At}
    (isSent : errands turn.2.1 = [sent]) : sent.point.IsErrand ∧ sent.point.isIdle = true := by
  cases accounts with
  | goesOn sends => exact sends.sent_isIdle isSent
  | ends sends => exact sends.sent_isIdle isSent
  | disarms isWatch sends same effects silent =>
    rw [effects, errands_append, silent, List.append_nil] at isSent
    exact sends.sent_isIdle isSent
  | unprobes isProbe same harmless silent => cases silent.symm.trans isSent
  | closes isStop same effects =>
    rw [effects, Session.close_silent] at isSent
    cases isSent

/-- Who has been sent out, and goes on, has gone on before. -/
theorem Accounts.isErrand {handle : Handle} {next self : TaskId} {arms : Vigil → Prop}
    {point stands : Point} {session : Session} {turn : SessionTurn}
    (accounts : Accounts handle next self arms point session turn)
    (found : turn.2.2.next? = some stands) : stands.IsErrand ↔ point.IsErrand := by
  cases accounts with
  | goesOn sends found' isSound vigil isProbe =>
    cases found'.symm.trans found
    rw [Point.IsErrand, Point.IsErrand, vigil, isProbe]
  | ends sends isOver => cases isOver.symm.trans found
  | disarms isWatch sends same effects silent noCancel isOver => cases isOver.symm.trans found
  | unprobes isProbe same harmless silent isOver => cases isOver.symm.trans found
  | closes isStop same effects goes =>
    subst isStop
    cases goes stands found
    exact iff_of_false Point.not_isErrand_closing (Point.not_isErrand_begin _)

/-- A session is closed in a turn only by the call that is for that. -/
theorem Accounts.closes_of_closed {handle : Handle} {next self : TaskId} {arms : Vigil → Prop}
    {point : Point} {session : Session} {turn : SessionTurn}
    (accounts : Accounts handle next self arms point session turn) (isOpen : session.isOpen = true)
    (closed : turn.1.isOpen = false) :
    point = .begin .stop ∧ turn.1 = session.close.1.1 ∧ turn.2.1 = session.close.1.2 := by
  cases accounts with
  | goesOn sends => cases (sends.isOpen.trans isOpen).symm.trans closed
  | ends sends => cases (sends.isOpen.trans isOpen).symm.trans closed
  | disarms isWatch sends same =>
    rw [same, Session.disarm] at closed
    cases (sends.isOpen.trans isOpen).symm.trans closed
  | unprobes isProbe same =>
    rw [same] at closed
    cases isOpen.symm.trans closed
  | closes isStop same effects => exact ⟨isStop, same, effects⟩

/-- All who are in the account are cancelled when the session is closed. -/
theorem Session.close_cancels_all {session : Session} {task : TaskId}
    (counts : session.Counts task) :
    .cancel task ∈ session.close.1.2 := by
  refine List.mem_append_left _ (List.mem_map_of_mem (List.mem_append.mpr ?_))
  rcases counts with isProbe | ⟨key, watcher, member⟩
  · exact .inl (Option.mem_toList.mpr isProbe)
  · exact .inr (List.mem_map.mpr ⟨_, member, rfl⟩)

/-- Who has been sent out by a session that is open is in its account. -/
theorem Session.IsKept.counts {roll : Roll} {handle : Handle} {session : Session} {task : TaskId}
    {point : Point} (isKept : session.IsKept roll handle) (isOpen : session.isOpen = true)
    (stands : roll.stands task = some ⟨some handle, point⟩) (isErrand : point.IsErrand) :
    session.Counts task := by
  rcases isErrand with isWatch | isProbe
  · obtain ⟨vigil, isWatch⟩ := Option.ne_none_iff_exists'.mp isWatch
    exact .inr ⟨_, _, isKept.listed isOpen ⟨point, stands, isWatch⟩⟩
  · exact .inl (isKept.sole isOpen ⟨point, stands, isProbe⟩)

namespace Session

theorem newsIn_close (session : Session) : newsIn session.close.1.2 = [] := by
  refine List.filterMap_eq_nil_iff.mpr fun effect member => ?_
  rcases List.mem_append.mp member with isCancel | isNote
  · obtain ⟨task, -, rfl⟩ := List.mem_map.mp isCancel
    rfl
  · split at isNote
    · cases List.mem_singleton.mp isNote
      rfl
    · cases isNote

/-- A task that is cancelled ends, and does nothing else. -/
theorem cancelled_eq (self : TaskId) (point : Point) (session : Session) :
    (session.cancelled self point).2 = ([], .finish .cancelled) := by
  unfold cancelled
  split <;> rfl

/-- Nobody is told of a change in a turn of a task that is no watch. -/
theorem newsIn_of_accounts {handle : Handle} {next self : TaskId} {arms : Vigil → Prop}
    {point : Point} {session : Session} {turn : SessionTurn}
    (accounts : Accounts handle next self arms point session turn) (noWatch : point.vigil? = none) :
    newsIn turn.2.1 = [] := by
  cases accounts with
  | goesOn sends => exact sends.harmless.newsIn
  | ends sends => exact sends.harmless.newsIn
  | disarms isWatch => cases noWatch.symm.trans isWatch
  | unprobes isProbe same harmless => exact harmless.newsIn
  | closes isStop same effects => exact effects ▸ newsIn_close session

end Session

/-- In that turn a task does nothing, and if it goes on, it is to see whether calls can be made. -/
def SessionTurn.IsIdle (turn : SessionTurn) : Prop :=
  turn.2.1 = [] ∧ ∀ stands, turn.2.2.next? = some stands → stands.isIdle = true

namespace Session

theorem ends_isIdle (outcome : Outcome Answer) (session : Session) :
    (session.ends outcome).IsIdle := by
  refine ⟨rfl, fun stands next => ?_⟩
  cases next

theorem probeEnds_isIdle (outcome : Outcome Answer) (session : Session) :
    (session.probeEnds outcome).IsIdle :=
  ends_isIdle outcome _

theorem probes_isIdle (session : Session) : session.probes.IsIdle := by
  unfold probes
  split
  · split
    · exact ⟨rfl, fun stands next => by cases next; rfl⟩
    · exact probeEnds_isIdle _ _
  · exact probeEnds_isIdle _ _

theorem probeReads_isIdle {session : Session} (closed : session.isOpen = false) :
    session.probeReads.IsIdle := by
  rw [probeReads, if_neg (by rw [closed]; exact Bool.false_ne_true)]
  exact probeEnds_isIdle _ _

theorem polls_isIdle {session : Session} (closed : session.isOpen = false) (self : TaskId)
    (key : String) (watcher : Subscriber) (index : Option Int) :
    (session.polls self key watcher index).IsIdle := by
  rw [polls, if_neg (by rw [closed]; exact Bool.false_ne_true)]
  exact ends_isIdle _ _

theorem cancelled_isIdle (self : TaskId) (point : Point) (session : Session) :
    (session.cancelled self point).IsIdle := by
  unfold cancelled
  split <;> first | exact probeEnds_isIdle _ _ | exact ends_isIdle _ _

end Session

/-- **Who is to see whether calls can be made finds that they cannot**: it does nothing, and if it
goes on, it is to see that again. -/
theorem Sessions.turn_isIdle (moment : Moment) (handle : Handle) (isSlow : Bool) {point : Point}
    (wake : Wake Plan) (store : Store) {session : Session} (isIdle : point.isIdle = true)
    (closed : session.isOpen = false) :
    SessionTurn.IsIdle (turn moment handle isSlow point wake store session).2 := by
  by_cases isCancelled : wake = .cancelled
  · subst isCancelled
    exact Session.cancelled_isIdle moment.self point session
  · cases point with
    | probe =>
      have turns : (turn moment handle isSlow .probe wake store session).2 = session.probes := by
        cases wake <;> first | rfl | exact absurd rfl isCancelled
      rw [turns]
      exact session.probes_isIdle
    | probeWakes =>
      have turns :
          (turn moment handle isSlow .probeWakes wake store session).2 = session.probeReads := by
        cases wake <;> first | rfl | exact absurd rfl isCancelled
      rw [turns]
      exact Session.probeReads_isIdle closed
    | poll key watcher index =>
      have turns : (turn moment handle isSlow (.poll key watcher index) wake store session).2 =
          session.polls moment.self key watcher index := by
        cases wake <;> first | rfl | exact absurd rfl isCancelled
      rw [turns]
      exact Session.polls_isIdle closed moment.self key watcher index
    | _ => cases isIdle

/-! ## When a probe is sent out -/

/-- A session sends out a probe only when it learns that the connection is down, and has one
then. -/
inductive Session.Probed (before after : Session) : Prop
  | still (link : after.link = before.link)
      (probe : after.probe = before.probe ∨ after.probe = none)
  | down (link : after.link ≠ before.link) (isDown : after.isDown = true)
      (probe : after.probe ≠ none)
  | up (link : after.link ≠ before.link) (isUp : after.isDown = false)
      (probe : after.probe = before.probe)

namespace Session

/-- What leaves the connection and the probe alone. -/
theorem Probed.trans {first second third : Session} (probed : first.Probed second)
    (link : third.link = second.link) (probe : third.probe = second.probe) :
    first.Probed third := by
  have isDown : third.isDown = second.isDown := by rw [Session.isDown, Session.isDown, link]
  cases probed with
  | still link' probe' => exact .still (link.trans link') (by rw [probe]; exact probe')
  | down link' isDown' probe' => exact .down (link ▸ link') (isDown.trans isDown') (probe ▸ probe')
  | up link' isUp probe' => exact .up (link ▸ link') (isDown.trans isUp) (probe.trans probe')

theorem Probed.refl (session : Session) : session.Probed session := .still rfl (.inl rfl)

/-- A turn in which a session says nothing, and keeps its probe. -/
theorem Probed.of_quiet {before after : Session} {effects others : List SessionEffect}
    (quiet : Quiet before after effects) (stays : Stays before after others) :
    before.Probed after :=
  .still quiet.link (.inl stays.probe)

variable (handle : Handle) (next : TaskId) (session : Session)

theorem setLink_probed (link : Link) : session.Probed (session.setLink handle next link).1 := by
  unfold setLink
  split
  · exact .refl session
  · next isNew =>
    dsimp only
    split
    · next isFirst =>
      rw [Bool.and_eq_true] at isFirst
      exact .down (Ne.symm isNew) isFirst.1 (Option.some_ne_none next)
    · next isWatched =>
      cases isUp : link.isUp with
      | true => exact .up (Ne.symm isNew) (by simp [isDown, isUp]) rfl
      | false =>
        refine .down (Ne.symm isNew) (by simp [isDown, isUp]) fun unprobed => isWatched ?_
        have unprobed : session.probe = none := unprobed
        rw [isUp, unprobed]
        rfl

theorem alive_probed : session.Probed (session.alive handle next).1 := by
  unfold alive
  split
  · exact setLink_probed handle next session _
  · split
    · exact .refl session
    · exact setLink_probed handle next session _

theorem failed_probed : session.Probed (session.failed handle next).1 := by
  unfold failed
  split
  · exact setLink_probed handle next session _
  · exact .refl session

theorem arm_probe (key : String) (watcher : Option Subscriber) (index : Option Int) :
    (session.arm handle next key watcher index).1.probe = session.probe := by
  unfold arm
  split
  · rfl
  · split <;> rfl

theorem answered_probe (errand : Errand) (key : String) (record : Record) :
    (session.answered handle next errand key record).1.probe = session.probe := by
  unfold answered
  split
  · rfl
  · rfl
  · exact (remember_stays session _).probe
  · exact (remember_stays session _).probe
  · exact arm_probe handle next session key _ _
  · exact arm_probe handle next session key _ _
  · rfl
  · rfl
  · rfl

theorem notFound_probe (errand : Errand) (key : String) (error : Error) (payload : Value) :
    (session.notFound handle next errand key error payload).1.probe = session.probe := by
  unfold notFound
  split
  · exact (request_stays session _ _).probe
  · exact (request_stays session _ _).probe
  · split
    · rfl
    · exact arm_probe handle next session key _ _
  · rfl
  · rfl

theorem retry_probed (errand : Errand) (call : StoreCall) (failures : Nat)
    (result : Except Error Record) :
    session.Probed (session.retry handle next errand call failures result).1 := by
  have alive := alive_probed handle next session
  unfold retry
  split
  · exact alive.trans (answered_quiet handle next _ errand _ _).link
      (answered_probe handle next _ errand _ _)
  · split
    · exact alive.trans (notFound_quiet handle next _ errand _ _ _).link
        (notFound_probe handle next _ errand _ _ _)
    · split
      · split
        · exact .refl session
        · exact setLink_probed handle next session _
        · exact failed_probed handle next session
      · exact .of_quiet (refused_quiet session errand _) (refused_stays session errand _)
    · exact .of_quiet (refused_quiet session errand _) (refused_stays session errand _)

theorem probed_probed (result : Except Error Record) :
    session.Probed (session.probed handle next result).1 := by
  unfold probed
  split
  · exact alive_probed handle next session
  · exact alive_probed handle next session
  · split <;> exact .refl session
  · exact .still rfl (.inr rfl)

theorem watched_probed (self : TaskId) (key : String) (watcher : Subscriber) (index : Option Int)
    (result : Except Error Record) :
    session.Probed (session.watched handle next self key watcher index result).1 := by
  have disarmed : session.Probed (session.disarm key watcher self) := .still rfl (.inl rfl)
  unfold watched
  dsimp only
  split
  · exact disarmed
  · split
    · exact .refl session
    · exact disarmed
    · exact (setLink_probed handle next session .suspended).trans rfl rfl
    · exact disarmed
  · exact disarmed

theorem concludes_probed (self : TaskId) (errand : Errand) (call : StoreCall) (failures : Nat)
    (result : Except Error Record) :
    session.Probed (session.concludes handle next self errand call failures result).1 := by
  unfold concludes
  split
  · exact probed_probed handle next session _
  · exact watched_probed handle next session self _ _ _ _
  · exact retry_probed handle next session _ _ _ _

theorem cancelled_probed (self : TaskId) (point : Point) :
    session.Probed (session.cancelled self point).1 := by
  refine .still (cancelled_quiet session self point).link ?_
  unfold cancelled
  split <;> first | exact .inr rfl | exact .inl rfl

end Session

namespace Sessions

variable (moment : Moment) (handle : Handle) (isSlow : Bool)

/-- The turn of a task that is cancelled. -/
theorem turn_cancelled (point : Point) (store : Store) (session : Session) :
    turn moment handle isSlow point .cancelled store session =
      (store, session.cancelled moment.self point) := rfl

theorem await_probed (errand : Errand) (call : StoreCall) (failures : Nat)
    (written : List SessionEffect) (made : Store × Store.Response × Option Change)
    (session : Session) :
    session.Probed (await moment handle errand call failures written made session).2.1 := by
  rcases await_eq moment handle errand call failures written made session with ⟨-, same⟩
    | ⟨result, -, same⟩
  · rw [same]
    exact .refl session
  · rw [same]
    exact Session.concludes_probed handle moment.next session moment.self errand call
      failures result

/-- **A probe is sent out exactly when a session without one learns that the connection is
down.** -/
theorem turn_probes_link (point : Point) (wake : Wake Plan) (store : Store) (session : Session) :
    session.Probed (turn moment handle isSlow point wake store session).2.1 := by
  unfold turn
  split
  · exact Session.cancelled_probed session _ _
  · next wake operation _ =>
    by_cases isStop : operation = Operation.stop
    · subst isStop
      exact .still rfl (.inr rfl)
    · exact .of_quiet (Session.begins_quiet session isSlow _)
        (Session.begins_stays session isSlow isStop)
  · exact .of_quiet (Session.ensures_quiet session _ _) (Session.ensures_stays session _ _)
  · exact await_probed moment handle _ _ _ _ _ session
  · exact await_probed moment handle _ _ _ _ _ session
  · exact await_probed moment handle _ _ _ _ _ session
  · refine .still (Session.probes_quiet session).link ?_
    unfold Session.probes
    split
    · split <;> first | exact .inl rfl | exact .inr rfl
    · exact .inr rfl
  · refine .still (Session.probeReads_quiet session).link ?_
    unfold Session.probeReads
    split
    · exact .inl rfl
    · exact .inr rfl
  · refine .still (Session.polls_quiet session _ _ _ _).link ?_
    unfold Session.polls
    split <;> exact .inl rfl
  · exact .refl session

end Sessions

/-! ## Sessions with nobody sent out -/

/-- The session has been closed, and has nobody in its account. -/
structure Session.IsBare (session : Session) : Prop where
  closed : session.isOpen = false
  unwatched : session.watches = []
  unprobed : session.probe = none

theorem Session.close_isBare (session : Session) : session.close.1.1.IsBare := ⟨rfl, rfl, rfl⟩

/-- With nobody in its account afterwards it has sent out nobody. -/
theorem Sends.silent {handle : Handle} {next : TaskId} {arms : Vigil → Prop}
    {before after : Session} {effects : List SessionEffect}
    (sends : Sends handle next arms before after effects) (unwatched : after.watches = [])
    (unprobed : after.probe = none) : errands effects = [] := by
  cases sends with
  | nobody stays => exact stays.silent
  | probe _ _ _ _ probe => cases unprobed.symm.trans probe
  | watch vigil _ _ _ _ watches =>
    rw [watches] at unwatched
    exact absurd unwatched (by simp)

namespace Sessions

variable (moment : Moment) (handle : Handle) (isSlow : Bool) {point : Point} {wake : Wake Plan}
  {store : Store} {session : Session}

/-- What makes a session send out somebody in a turn that has nobody: an answer that arms a watch,
or that the connection is down. -/
def Rouses (moment : Moment) (handle : Handle) (isSlow : Bool) (point : Point) (wake : Wake Plan)
    (store : Store) (session : Session) : Prop :=
  (∃ vigil, ArmedBy point wake store vigil) ∨
    (turn moment handle isSlow point wake store session).2.1.link ≠ session.link ∧
      (turn moment handle isSlow point wake store session).2.1.isDown = true

theorem sends_unwatched {next : TaskId} {arms : Vigil → Prop} {before after : Session}
    {effects : List SessionEffect} (sends : Sends handle next arms before after effects)
    (unwatched : before.watches = []) (unarmed : ∀ vigil, ¬ arms vigil) : after.watches = [] := by
  cases sends with
  | nobody stays => exact stays.watches.trans unwatched
  | probe _ _ watches => exact watches.trans unwatched
  | watch vigil isRight => exact absurd isRight (unarmed vigil)

/-- **A session that is closed and has nobody sends out somebody exactly if an answer arms a watch,
or it learns that the connection is down.** -/
theorem turn_isBare (isBare : session.IsBare)
    (accounts : Accounts handle moment.next moment.self (ArmedBy point wake store) point session
      (turn moment handle isSlow point wake store session).2) :
    (turn moment handle isSlow point wake store session).2.1.IsBare ↔
      ¬ Rouses moment handle isSlow point wake store session := by
  have probed := turn_probes_link moment handle isSlow point wake store session
  constructor
  · rintro bare (⟨vigil, armed⟩ | ⟨link, isDown⟩)
    · obtain ⟨task, member⟩ := turn_arms moment handle isSlow session armed
      rw [bare.unwatched] at member
      cases member
    · cases probed with
      | still same => exact link same
      | down _ _ probe => exact probe bare.unprobed
      | up _ isUp => cases isUp.symm.trans isDown
  · intro calm
    have unarmed : ∀ vigil, ¬ ArmedBy point wake store vigil := fun vigil armed =>
        calm (.inl ⟨vigil, armed⟩)
    refine ⟨accounts.closed isBare.closed, ?_, ?_⟩
    · cases accounts with
      | goesOn sends => exact sends_unwatched handle sends isBare.unwatched unarmed
      | ends sends => exact sends_unwatched handle sends isBare.unwatched unarmed
      | disarms isWatch sends same =>
        rw [same, Session.disarm, sends_unwatched handle sends isBare.unwatched fun _ => id]
        rfl
      | unprobes isProbe same =>
        rw [same]
        exact isBare.unwatched
      | closes isStop same =>
        rw [same]
        rfl
    · cases probed with
      | still link probe => exact probe.elim (·.trans isBare.unprobed) id
      | down link isDown => exact absurd (.inr ⟨link, isDown⟩) calm
      | up link isUp probe => exact probe.trans isBare.unprobed

end Sessions

/-- A session that has nobody afterwards has sent out nobody. -/
theorem Accounts.silent {handle : Handle} {next self : TaskId} {arms : Vigil → Prop} {point : Point}
    {session : Session} {turn : SessionTurn}
    (accounts : Accounts handle next self arms point session turn) (isBare : session.IsBare)
    (bare : turn.1.IsBare) : errands turn.2.1 = [] := by
  cases accounts with
  | goesOn sends => exact sends.silent bare.unwatched bare.unprobed
  | ends sends => exact sends.silent bare.unwatched bare.unprobed
  | disarms isWatch sends same effects silent =>
    rw [effects, errands_append, silent, List.append_nil]
    refine sends.silent (Sessions.sends_unwatched handle sends isBare.unwatched fun _ => id) ?_
    have unprobed := bare.unprobed
    rw [same] at unprobed
    exact unprobed
  | unprobes isProbe same harmless silent => exact silent
  | closes isStop same effects => exact effects ▸ session.close_silent

end WatchedNode
