/-
**A connection that is down is being probed.**

As long as a session is open, the transport fails in no way that is not the store's own, and nobody
outside cancels anything (`Carried faults`):

* the probe of the session is the one task that probes for it, and is there while the connection is
  down (`Reaches.areProbed`);
* it goes on until the connection is up (`Carries.keeps_probe`);
* a read of it that finds its key, or finds that it is not there, leaves the connection up
  (`Carries.probed_isUp`).

`probed_while_down` puts these together.
-/
import WatchedNode.Proofs.Carriage
import WatchedNode.Proofs.Store.Probing

namespace WatchedNode

open Relation

/-- What new sessions have, and sessions have whoever listens to them, is kept by those who
listen. -/
theorem Sessions.Minds.keeps {before after : Sessions} (minds : before.Minds after)
    {holds : Session → Prop} (new : ∀ options listeners, holds { options, listeners })
    (listeners : ∀ session listeners, holds session → holds { session with listeners })
    (start : ∀ (handle : Handle) session, before.sessions[handle]? = some session → holds session)
    (handle : Handle) (session : Session) (found : after.sessions[handle]? = some session) :
    holds session := by
  rcases minds.new found with ⟨earlier, found'⟩ | ⟨options, heard, rfl⟩
  · obtain ⟨heard, found''⟩ := minds.old found'
    cases found.symm.trans found''
    exact listeners earlier heard (start handle earlier found')
  · exact new options heard

namespace Loop

variable {allowed : Outside Sessions.service} {before after loop : Loop Sessions.service}
  {store : Store} {isSlow : Bool} {handle : Handle} {task : TaskId}

/-- A task probes for the session, and has not ended. -/
def IsProbing (handle : Handle) (task : TaskId) (loop : Loop Sessions.service) : Prop :=
  loop.roll.Probes handle task ∧ loop.outcome? task = none

/-- A task that stands at a point has not ended. -/
theorem open_of_stands (endedAreBare : loop.EndedAreBare) {point : At}
    (stands : loop.at? task = some point) :
    loop.outcome? task = none := by
  refine Option.eq_none_iff_forall_ne_some.mpr fun outcome ended => ?_
  obtain ⟨known, found, stage⟩ := outcome?_eq_some.mp ended
  rw [at?_of_found found, Task.point?, endedAreBare task known outcome found stage] at stands
  cases stands

theorem Reaches.isProbing_iff (run : Reaches allowed (unconnected store isSlow) loop) :
    loop.IsProbing handle task ↔ loop.roll.Probes handle task :=
  ⟨And.left, fun probes => ⟨probes, by
    obtain ⟨point, stands, -⟩ := probes
    exact open_of_stands (Reaches.endedAreBare run) stands⟩⟩

/-- All sessions have probes while their connections are down. -/
def AreProbed (loop : Loop Sessions.service) : Prop :=
  ∀ (handle : Handle) (session : Session), loop.service.sessions[handle]? = some session →
    session.IsProbed

/-! ## Chores -/

theorem Closes.areProbed (closes : Closes before after) (areProbed : before.AreProbed) :
    after.AreProbed := by
  obtain ⟨place, session, found, performs⟩ := closes
  refine (Sessions.Minds.of_heeds performs.heeds).keeps .new (fun _ _ probed => probed.listeners _)
    fun handle session' found' => ?_
  have found' := (Sessions.modify_close found handle).symm.trans found'
  split at found'
  · cases found'
    exact .closed session
  · exact areProbed handle session' found'

theorem Chore.areProbed (chore : Chore allowed before after) (areProbed : before.AreProbed) :
    after.AreProbed := by
  rcases chore.steady with ⟨-, minds⟩ | closes
  · exact minds.keeps .new (fun _ _ probed => probed.listeners _) areProbed
  · exact closes.areProbed areProbed

/-! ## Turns -/

section Turn

variable {wake : Wake Plan} {point : Point} {rest : List (Frame At)} {session : Session}

/-- A turn of the probe leaves it there, unless the connection is up. -/
theorem SessionTurns.probes (turns : SessionTurns task wake handle point session before before.step)
    (carries : Carries faults before before.step) (areSpared : before.AreSpared)
    (isKept : before.IsKept) (isAt : before.IsAt task wake (.service ⟨some handle, point⟩) rest)
    (isProbe : point.isProbe = true) (isOpen : session.isOpen = true)
    (isTimed : session.options.delay.number? ≠ none) :
    session.Probes (Sessions.turn (before.moment task) handle before.service.isSlow point wake
      before.service.store session).2 := by
  have isLeft : wake ≠ .cancelled := areSpared.isLeft isAt fun ⟨session', found', closed⟩ => by
    cases turns.found.symm.trans found'
    cases isOpen.symm.trans closed
  refine Sessions.turn_probes (before.moment task) handle before.service.isSlow
    ((Point.isProbe_iff session.options.root).mp isProbe) (isKept.isSound turns.stands) isOpen
      isTimed isLeft ?_
  intro error heard
  obtain ⟨errand, call, -, hears⟩ := turns.hears isAt heard
  exact isFault_of_faults (carries.may hears)

theorem SessionTurns.areProbed
    (turns : SessionTurns task wake handle point session before before.step)
    (carries : Carries faults before before.step) (areSpared : before.AreSpared)
    (isKept : before.IsKept) (isAt : before.IsAt task wake (.service ⟨some handle, point⟩) rest)
    (areProbed : before.AreProbed) :
    before.step.AreProbed := by
  refine turns.minds.keeps .new (fun _ _ probed => probed.listeners _) fun other session' found =>
    ?_
  dsimp only at found
  by_cases here : other = handle
  · subst here
    rw [List.getElem?_set_self (List.getElem?_eq_some_iff.mp turns.found).1] at found
    cases found
    exact Sessions.turn_isProbed _ _ _ (areProbed other session turns.found) turns.accounts
      (turns.probes carries areSpared isKept isAt)
  · rw [List.getElem?_set_ne (Ne.symm here)] at found
    exact areProbed other session' found

end Turn

/-- **Sessions have probes while their connections are down**, whatever happens over such a
transport. -/
theorem Carries.areProbed (run : Reaches lenient (unconnected store isSlow) before)
    (carries : Carries faults before after) (areProbed : before.AreProbed) : after.AreProbed := by
  have isKept := Reaches.isKept run
  rcases carries.happens.turned (Reaches.areStacked run (fresh_areStacked _)) isKept with
    ⟨task, wake, handle, point, rest, session, isAt, rfl, turns⟩ | ⟨task, point, idles⟩ | chores
  · exact turns.areProbed carries (Reaches.areSpared run) isKept isAt areProbed
  · exact idles.minds.keeps .new (fun _ _ probed => probed.listeners _) areProbed
  · clear carries
    induction chores with
    | refl => exact areProbed
    | tail _ chore step => exact chore.areProbed step

theorem Carried.areProbed (run : Carried faults (unconnected store isSlow) loop) :
    loop.AreProbed := by
  induction run with
  | refl => exact fun _ _ found => by cases found
  | tail earlier carries step => exact carries.areProbed (Carried.run earlier) step

/-! ## How a probe ends -/

/-- Who probes for a session that is open goes on while there are chores. -/
theorem Chore.keeps_probe (chore : Chore allowed before after) (isKept : before.IsKept)
    (isOpen : ¬ Sessions.IsClosed handle after.service) (probes : before.roll.Probes handle task) :
    ¬ Sessions.IsClosed handle before.service ∧ after.roll.Probes handle task := by
  have wasOpen : ¬ Sessions.IsClosed handle before.service := fun closed =>
    isOpen ((chore.leaves_watches isKept handle).closed closed)
  refine ⟨wasOpen, ?_⟩
  obtain ⟨session, found⟩ := isKept.isHere probes
  have probe := (isKept.sessions found).sole (Sessions.isOpen_of_found found wasOpen) probes
  have isLive := ((isKept.sessions found).probe probe).2
  obtain ⟨point, stands, isProbe⟩ := probes
  rcases chore.steady with ⟨steady, minds⟩ | ⟨place, session', found', performs⟩
  · exact ⟨point, (steady.kept stands isLive).1, isProbe⟩
  · exact ⟨point, (performs.at? session'.close_silent task).trans stands, isProbe⟩

theorem Chores.keeps_probe (chores : Chores allowed before after) (isKept : before.IsKept)
    (isOpen : ¬ Sessions.IsClosed handle after.service) (probes : before.roll.Probes handle task) :
    after.roll.Probes handle task := by
  induction chores using ReflTransGen.head_induction_on with
  | refl => exact probes
  | head chore chores step =>
    have wasOpen := fun closed =>
        isOpen ((Chores.leaves_watches chores (chore.isKept isKept) handle).closed closed)
    exact step (chore.isKept isKept) (chore.keeps_probe isKept wasOpen probes).2

/-- A probe that has its turn goes on, or the connection is up. -/
theorem SessionTurns.keeps_probe {wake : Wake Plan} {point : Point} {rest : List (Frame At)}
    {session after' : Session}
    (turns : SessionTurns task wake handle point session before before.step)
    (carries : Carries faults before before.step) (areSpared : before.AreSpared)
    (isKept : before.IsKept) (areProbed : before.AreProbed)
    (isAt : before.IsAt task wake (.service ⟨some handle, point⟩) rest)
    (isProbe : point.isProbe = true) (found : before.step.service.sessions[handle]? = some after')
    (isOpen : after'.isOpen = true) (isTimed : after'.options.delay.number? ≠ none) :
    before.step.roll.Probes handle task ∨ after'.isUp = true := by
  obtain ⟨listeners, found'⟩ := turns.session
  cases found.symm.trans found'
  cases turns.accounts with
  | goesOn sends next isSound vigil isProbe' =>
    refine .inl ⟨_, turns.turns.self.trans (congrArg (Option.map _) next), isProbe'.trans isProbe⟩
  | ends _ _ _ noProbe => cases noProbe.symm.trans isProbe
  | disarms isWatch => cases isWatch.symm.trans (Point.vigil?_of_isProbe isProbe)
  | unprobes _ same _ _ isOver =>
    have isOpen : session.isOpen = true := by rw [same] at isOpen; exact isOpen
    have isTimed : session.options.delay.number? ≠ none := by rw [same] at isTimed; exact isTimed
    have probing := (isKept.sessions turns.found).sole isOpen ⟨point, turns.stands, isProbe⟩
    have isSet :=
      (areProbed handle session turns.found).isSet (by rw [probing]; exact Option.some_ne_none _)
    exact .inr
      ((turns.probes carries areSpared isKept isAt isProbe isOpen isTimed).isUp isSet isOver)
  | closes isStop => cases isStop ▸ isProbe

/-- **The probe of a session goes on until the connection is up**, as long as the session is
open. -/
theorem Carries.keeps_probe (run : Carried faults (unconnected store isSlow) before)
    (carries : Carries faults before after) {session : Session}
    (found : after.service.sessions[handle]? = some session) (isOpen : session.isOpen = true)
    (isTimed : session.options.delay.number? ≠ none) (probes : before.roll.Probes handle task) :
    after.roll.Probes handle task ∨ session.isUp = true := by
  have isKept := Reaches.isKept (Carried.run run)
  have isLeft : ¬ Sessions.IsClosed handle after.service :=
    Sessions.IsOpen.not_closed ⟨session, found, isOpen⟩
  rcases carries.happens.turned
    (Reaches.areStacked (Carried.run run) (fresh_areStacked _)) isKept with
    ⟨self, wake, place, point, rest, session', isAt, rfl, turns⟩ | ⟨self, point, idles⟩ | chores
  · obtain ⟨here, stands, isProbe⟩ := probes
    by_cases same : task = self
    · subst same
      cases stands.symm.trans turns.stands
      exact turns.keeps_probe carries (Reaches.areSpared (Carried.run run)) isKept
        run.areProbed isAt isProbe
        found isOpen isTimed
    · exact .inl ⟨here, turns.turns.kept same stands, isProbe⟩
  · obtain ⟨session', found'⟩ := isKept.isHere probes
    obtain ⟨here, stands, isProbe⟩ := probes
    refine .inl ⟨here, idles.turns.kept ?_ stands, isProbe⟩
    rintro rfl
    cases stands.symm.trans idles.stands
    exact idles.nobody handle session' rfl found'
  · exact .inl (chores.keeps_probe isKept isLeft probes)

/-- **A read of the probe that is answered leaves the connection up.** -/
theorem Carries.probed_isUp (run : Carried faults (unconnected store isSlow) before)
    {session : Session} (found : before.step.service.sessions[handle]? = some session)
    {call : StoreCall} {result : Except Error Record}
    (hears : before.hears? = some ⟨handle, .probing, call, result⟩)
    (answers : Sessions.isAnswer result = true) : session.isUp = true := by
  obtain ⟨task, wake, point, rest, earlier, isAt, turns, isMade, heard⟩ := turns_of_hears
    (Reaches.areStacked (Carried.run run) (fresh_areStacked _))
      (Reaches.isKept (Carried.run run)) hears
  obtain ⟨listeners, found'⟩ := turns.session
  cases found.symm.trans found'
  exact Sessions.turn_probed (before.moment task) handle before.service.isSlow earlier isMade
    heard answers

/-- **A connection that is down is being probed.** Whatever happens over a transport that fails only
in ways of the store, where nobody outside cancels anything, if a session is open:

* its probe is the one task that probes for it;
* if its connection is down, it has a probe;
* a probe ends only when the connection is up;
* a read of the probe that finds its key, or finds that it is not there, leaves the connection
  up. -/
theorem probed_while_down (run : Carried faults (unconnected store isSlow) before)
    (carries : Carries faults before after) {session : Session}
    (found : after.service.sessions[handle]? = some session) (isOpen : session.isOpen = true)
    (isTimed : session.options.delay.number? ≠ none) :
    (∀ task, after.IsProbing handle task ↔ session.probe = some task) ∧
    (session.isDown = true → ∃ task, after.IsProbing handle task) ∧
    (∀ task, before.IsProbing handle task → after.IsProbing handle task ∨ session.isUp = true) ∧
    (∀ call result, after = before.step → before.hears? = some ⟨handle, .probing, call, result⟩ →
      Sessions.isAnswer result = true → session.isUp = true) := by
  have later : Carried faults (unconnected store isSlow) after := run.tail carries
  have isKept := (Reaches.isKept (Carried.run later)).sessions found
  have counted : ∀ task, after.IsProbing handle task ↔ session.probe = some task := fun task =>
    (Reaches.isProbing_iff (Carried.run later)).trans ⟨isKept.sole isOpen,
      fun probe => (isKept.probe probe).1⟩
  refine ⟨counted, fun isDown => ?_, fun task probes => ?_, ?_⟩
  · have isSent := (later.areProbed handle session found).probes isOpen isTimed isDown
    obtain ⟨task, probe⟩ := Option.ne_none_iff_exists'.mp isSent
    exact ⟨task, (counted task).mpr probe⟩
  · exact (carries.keeps_probe run found isOpen isTimed probes.1).imp_left
      (Reaches.isProbing_iff (Carried.run later)).mpr
  · rintro call result rfl hears answers
    exact Carries.probed_isUp run found hears answers

/-! ## After an outage -/

/-- Somebody's look fails while the store is down. -/
def recovering : Loop Sessions.service :=
  enact 60 (connecting :: failing ++ [.occur (SessionEvent.down false false)])
    (unconnected {} false)

/-- The probe has slept, and the store is about to answer its read. -/
def recovered : Loop Sessions.service :=
  Loop.settle 2 ({ recovering with clock := 1 } : Loop Sessions.service).ring

/-- What a session hears is an answer to a read of its probe. -/
def answersProbe : Hearing → Bool
  | ⟨_, .probing, _, result⟩ => Sessions.isAnswer result
  | _ => false

theorem recovered_carried : Carried faults (unconnected {} false) recovered := by
  have first : Carried faults (unconnected {} false) recovering := Carried.enact (by decide +kernel)
  have slept : Carries faults recovering { recovering with clock := 1 } :=
    .of_between (.elapse 1) (by decide +kernel)
  have woken : Carries faults { recovering with clock := 1 }
      ({ recovering with clock := 1 } : Loop Sessions.service).ring :=
    .of_between .ring (by decide +kernel)
  exact ((first.tail slept).tail woken).trans (Carried.settle (by decide +kernel))

/-- The answer to the probe finds it there, and leaves the connection up. -/
theorem probed_after_outage : recovered.step.IsProbing 0 1 ∧
    (recovered.step.service.sessions[0]?).map Session.isUp = some true := by
  have facts : (recovered.step.service.sessions[0]?).map (fun session =>
      (session.isOpen, session.options.delay.number?, session.probe)) =
        some (true, some 1, some 1) := by
    decide +kernel
  obtain ⟨session, found, facts⟩ := Option.map_eq_some_iff.mp facts
  simp only [Prod.mk.injEq] at facts
  obtain ⟨isOpen, delay, probe⟩ := facts
  have answers :
      recovered.hears?.any (fun hearing => hearing.handle == 0 && answersProbe hearing) = true := by
    decide +kernel
  obtain ⟨⟨handle, errand, call, result⟩, hears, answers⟩ := (Option.any_eq_true _ _).mp answers
  obtain ⟨isFirst, answers⟩ := (Bool.and_eq_true _ _).mp answers
  obtain rfl : handle = 0 := beq_iff_eq.mp isFirst
  obtain rfl : errand = .probing := by
    cases errand with
    | probing => rfl
    | _ => cases answers
  have carries : Carries faults recovered recovered.step := ⟨.step, fun _ => by decide +kernel⟩
  obtain ⟨counted, -, -, probed⟩ := probed_while_down recovered_carried carries found isOpen
    (by rw [delay]; exact Option.some_ne_none _)
  refine ⟨(counted 1).mpr probe, ?_⟩
  rw [found, Option.map_some, probed call result rfl hears answers]

end Loop

end WatchedNode
