/-
**Directories that sessions know.**

In every run, all tasks that ensure directories are on their way at their sessions (`AreOnWay`), so
what a session knows only grows (`Happens.learns`), is closed under parents (`AreRooted`), and stems
from what the session has heard (`HaveHeard`). Calls that ensure directories, any number of them, go
through the directories on their way meanwhile (`Ensures`).
-/
import WatchedNode.Proofs.Attending
import WatchedNode.Proofs.Store.Aftermath
import WatchedNode.Proofs.Store.Climb

namespace WatchedNode

open Relation

/-! ## What leaves directories alone -/

/-- Who is sent out by a session does not ensure directories. -/
theorem Point.isBeside_of_isIdle {point : Point} (isIdle : point.isIdle = true) :
    point.IsBeside := by
  unfold Point.isIdle at isIdle
  split at isIdle
  · trivial
  · trivial
  · trivial
  · cases isIdle

theorem Session.Learns.listeners (session : Session) (listeners : List Subscriber) :
    Session.Learns session { session with listeners } := ⟨rfl, fun _ isThere => isThere⟩

theorem Sessions.Minds.learns {before after : Sessions} (minds : before.Minds after)
    {handle : Handle} {session : Session} (found : before.sessions[handle]? = some session) :
    ∃ session', after.sessions[handle]? = some session' ∧ session.Learns session' := by
  obtain ⟨listeners, found'⟩ := minds.old found
  exact ⟨_, found', .listeners session listeners⟩

namespace Loop

variable {allowed : Outside Sessions.service} {before after loop : Loop Sessions.service}
  {handle : Handle} {task : TaskId} {store : Store} {isSlow : Bool}

/-- Sessions come to know more directories only. -/
def Learns (before after : Loop Sessions.service) : Prop :=
  ∀ (handle : Handle) (session : Session), before.service.sessions[handle]? = some session →
    ∃ session', after.service.sessions[handle]? = some session' ∧ session.Learns session'

/-- Tasks that ensure directories are on their way, at their sessions. -/
def AreOnWay (loop : Loop Sessions.service) : Prop :=
  ∀ (task : TaskId) (handle : Handle) (point : Point), loop.at? task = some ⟨some handle, point⟩ →
    point.IsBeside ∨ (∃ path parentsOnly, point = .begin (.ensure path parentsOnly)) ∨
      ∃ session, loop.service.sessions[handle]? = some session ∧ point.IsOnWay session

/-- At its session a task is on its way. -/
theorem AreOnWay.isOnWay (areOnWay : before.AreOnWay) {point : Point} {session : Session}
    (stands : before.at? task = some ⟨some handle, point⟩)
    (found : before.service.sessions[handle]? = some session) : point.IsOnWay session := by
  rcases areOnWay task handle point stands with isBeside | ⟨path, parentsOnly, rfl⟩
    | ⟨session', found', isOnWay⟩
  · exact isBeside.isOnWay session
  · trivial
  · cases found.symm.trans found'
    exact isOnWay

/-! ## Chores -/

theorem Closes.learns (closes : Closes before after) : before.Learns after := by
  intro handle session found
  obtain ⟨place, closed, isThere, performs⟩ := closes
  have minds := Sessions.Minds.of_heeds performs.heeds
  have same := Sessions.modify_close isThere handle
  by_cases here : handle = place
  · subst here
    cases found.symm.trans isThere
    rw [if_pos rfl] at same
    obtain ⟨session', found', learns⟩ := minds.learns same
    have closing : session.Learns session.close.1.1 := ⟨rfl, fun _ isThere => isThere⟩
    exact ⟨session', found', closing.trans learns⟩
  · rw [if_neg here] at same
    exact minds.learns (same.trans found)

theorem Chore.learns (chore : Chore allowed before after) : before.Learns after := by
  rcases chore.steady with ⟨-, minds⟩ | closes
  · exact fun _ _ => minds.learns
  · exact closes.learns

/-- Tasks stay on their way, where they stay and new ones only begin. -/
theorem AreOnWay.later (areOnWay : before.AreOnWay) (learns : before.Learns after)
    (old : ∀ task point, after.at? task = some point → before.at? task = some point ∨
      point.point.IsBeside ∨ ∃ path parentsOnly, point.point = .begin (.ensure path parentsOnly)) :
    after.AreOnWay := by
  intro task handle point stands
  rcases old task _ stands with isOld | isBeside | isFirst
  · rcases areOnWay task handle point isOld with isBeside | isFirst | ⟨session, found, isOnWay⟩
    · exact .inl isBeside
    · exact .inr (.inl isFirst)
    · obtain ⟨session', found', learns⟩ := learns handle session found
      exact .inr (.inr ⟨session', found', learns.isOnWay isOnWay⟩)
  · exact .inl isBeside
  · exact .inr (.inl isFirst)

theorem Chore.areOnWay (chore : Chore allowed before after) (areOnWay : before.AreOnWay) :
    after.AreOnWay := by
  refine areOnWay.later chore.learns fun task point stands => ?_
  rcases chore.steady with ⟨steady, -⟩ | ⟨place, session, found, performs⟩
  · refine (steady.old stands).imp_right fun isFirst => ?_
    rcases Sessions.begins_or_closes isFirst with ⟨operation, same⟩ | same
    · rw [same]
      rcases (Point.begin operation).directory_cases with
        isBeside | isFirst | ⟨above, below, isHere⟩ | ⟨errand, call, path, below, isMade, -⟩
      · exact .inl isBeside
      · exact .inr isFirst
      · cases isHere
      · cases isMade
    · rw [same]
      exact .inl trivial
  · exact .inl ((performs.at? session.close_silent task).symm.trans stands)

/-! ## Turns -/

section Turns

variable {wake : Wake Plan} {point : Point} {session : Session}

theorem SessionTurns.learns (turns : SessionTurns task wake handle point session before after)
    (isKept : before.IsKept) (areOnWay : before.AreOnWay) : before.Learns after := by
  intro other session' found
  by_cases here : other = handle
  · subst here
    cases found.symm.trans turns.found
    obtain ⟨listeners, found'⟩ := turns.session
    have learns :=
      (before.visit task point wake session).turn_learns other (isKept.isSound turns.stands)
      (areOnWay.isOnWay turns.stands turns.found)
    exact ⟨_, found', learns.trans (.listeners _ listeners)⟩
  · exact turns.minds.learns ((List.getElem?_set_ne (Ne.symm here)).trans found)

theorem SessionTurns.areOnWay (turns : SessionTurns task wake handle point session before after)
    (isKept : before.IsKept) (areOnWay : before.AreOnWay) : after.AreOnWay := by
  have learns := turns.learns isKept areOnWay
  intro other place here stands
  rcases turns.turns.old stands with rfl | isOld | ⟨-, isSent⟩
  · -- The task itself goes on.
    have isNext := turns.turns.self.symm.trans stands
    obtain ⟨next, isNext, same⟩ := Option.map_eq_some_iff.mp isNext
    cases same
    obtain ⟨listeners, found⟩ := turns.session
    have isOnWay : here.IsOnWay ((before.visit other point wake session).turn handle).1 :=
      Visit.turn_isOnWay (isKept.isSound turns.stands)
        (areOnWay.isOnWay turns.stands turns.found) isNext
    exact .inr (.inr ⟨_, found, (Session.Learns.listeners _ listeners).isOnWay isOnWay⟩)
  · rcases areOnWay other place here isOld with isBeside | isFirst | ⟨session', found, isOnWay⟩
    · exact .inl isBeside
    · exact .inr (.inl isFirst)
    · obtain ⟨session'', found', learns⟩ := learns place session' found
      exact .inr (.inr ⟨session'', found', learns.isOnWay isOnWay⟩)
  · exact .inl (Point.isBeside_of_isIdle (turns.accounts.sent_isIdle isSent).2)

theorem Idles.areOnWay {point : At} (idles : Idles task point before after)
    (areOnWay : before.AreOnWay) :
    after.AreOnWay := by
  refine areOnWay.later (fun _ _ => idles.minds.learns) fun other place stands => ?_
  rcases idles.turns.old stands with rfl | isOld | ⟨-, isSent⟩
  · cases idles.turns.self.symm.trans stands
  · exact .inl isOld
  · cases isSent

end Turns

/-! ## Runs -/

/-- **Tasks that ensure directories stay on their way**, and sessions forget no directory. -/
theorem Happens.areOnWay (happens : Happens allowed before after) (areStacked : before.AreStacked)
    (isKept : before.IsKept) (areOnWay : before.AreOnWay) :
    before.Learns after ∧ after.AreOnWay := by
  rcases happens.turned areStacked isKept with
    ⟨task, wake, handle, point, rest, session, -, -, turns⟩ | ⟨task, point, idles⟩ | chores
  · exact ⟨turns.learns isKept areOnWay, turns.areOnWay isKept areOnWay⟩
  · exact ⟨fun _ _ => idles.minds.learns, idles.areOnWay areOnWay⟩
  · clear happens
    induction chores with
    | refl => exact ⟨fun _ session found => ⟨session, found, .refl session⟩, areOnWay⟩
    | tail _ chore step =>
      refine ⟨fun handle session found => ?_, chore.areOnWay step.2⟩
      obtain ⟨session', found', learns⟩ := step.1 handle session found
      obtain ⟨session'', found'', learns'⟩ := chore.learns handle session' found'
      exact ⟨session'', found'', learns.trans learns'⟩

theorem Reaches.areOnWay (run : Reaches allowed (unconnected store isSlow) loop) :
    loop.AreOnWay := by
  induction run with
  | refl => exact fun _ _ _ stands => by cases stands
  | tail earlier happens step =>
    exact (happens.areOnWay (Reaches.areStacked earlier (fresh_areStacked _))
      (Reaches.isKept earlier) step).2

/-- Others only add to what a session knows. -/
theorem areOthers_learns : AreOthers allowed (unconnected store isSlow) Session.Learns where
  listen := .listeners
  change run happens _ _ found :=
    (happens.areOnWay (Reaches.areStacked run (fresh_areStacked _)) (Reaches.isKept run)
      (Reaches.areOnWay run)).1
      _ _ found

/-! ## What is heard -/

end Loop

/-- **What a session knows is closed under parents, and it has heard of all of it** that it is
there. -/
structure Session.IsTruthful (handle : Handle) (heard : List Hearing)
    (session : Session) : Prop where
  isRooted : session.IsRooted
  hasHeard : ∀ path ∈ session.ensured, ∃ hearing ∈ heard, hearing.handle = handle ∧
    Directory.Shows session.options.root path hearing.call hearing.result

namespace Session.IsTruthful

variable {handle : Handle} {heard : List Hearing} {session : Session}

theorem listeners (isTruthful : session.IsTruthful handle heard) (listeners : List Subscriber) :
    Session.IsTruthful handle heard { session with listeners } :=
  ⟨isTruthful.isRooted, isTruthful.hasHeard⟩

theorem append (isTruthful : session.IsTruthful handle heard) (more : List Hearing) :
    session.IsTruthful handle (heard ++ more) := by
  refine ⟨isTruthful.isRooted, fun path isThere => ?_⟩
  obtain ⟨hearing, isHeard, both⟩ := isTruthful.hasHeard path isThere
  exact ⟨hearing, List.mem_append_left _ isHeard, both⟩

theorem new (options : SessionOptions) (listeners : List Subscriber) :
    Session.IsTruthful handle heard { options, listeners } :=
  ⟨List.forall_mem_nil _, List.forall_mem_nil _⟩

/-- After a turn of a task of its own. -/
theorem turned {visit : Visit} (isTruthful : visit.session.IsTruthful handle heard)
    (isSound : visit.point.IsSound) (isOnWay : visit.point.IsOnWay visit.session)
    {more : List Hearing}
    (hears : ∀ errand call result, visit.point.made? = some (errand, call) →
      visit.heard = some result →
      ⟨handle, errand, call, result⟩ ∈ more) :
    (visit.turn handle).1.IsTruthful handle (heard ++ more) := by
  have learns := visit.turn_learns handle isSound isOnWay
  constructor
  · intro path isThere
    rcases Visit.turn_knows isOnWay isThere with isOld
      | ⟨errand, call, result, below, -, -, -, leads⟩
    · obtain ⟨isThere, areKnown⟩ := isTruthful.isRooted path isOld
      exact ⟨isThere, fun above isChild => learns.knows (areKnown above isChild)⟩
    · obtain ⟨above, isChild, knows⟩ := leads.parent
      refine ⟨⟨above, isChild⟩, fun other isOther => ?_⟩
      rw [isOther.unique isChild]
      exact learns.knows knows
  · intro path isThere
    rw [learns.options]
    rcases Visit.turn_knows isOnWay isThere with isOld
      | ⟨errand, call, result, below, isMade, isHeard, shows, -⟩
    · exact (isTruthful.append more).hasHeard path isOld
    · exact ⟨_, List.mem_append_right _ (hears errand call result isMade isHeard), rfl, shows⟩

end Session.IsTruthful

namespace Loop

variable {allowed : Outside Sessions.service} {before after first last : Loop Sessions.service}
  {handle : Handle} {task : TaskId} {store : Store} {isSlow : Bool} {heard longer : List Hearing}

/-- What sessions hear is noted. -/
inductive Overhears (before after : Loop Sessions.service) (heard : List Hearing) :
    List Hearing → Prop
  | step (isStep : after = before.step) :
      Overhears before after heard (heard ++ before.hears?.toList)
  | other (isOther : after ≠ before.step) : Overhears before after heard heard

/-- What the sessions know is true. -/
def AreTruthful (heard : List Hearing) (loop : Loop Sessions.service) : Prop :=
  ∀ (handle : Handle) (session : Session), loop.service.sessions[handle]? = some session →
    session.IsTruthful handle heard

theorem AreTruthful.append (areTruthful : before.AreTruthful heard) (more : List Hearing) :
    before.AreTruthful (heard ++ more) := fun handle session found =>
      (areTruthful handle session found).append more

theorem AreTruthful.minds {sessions : Sessions} (minds : sessions.Minds after.service)
    (areTruthful : ∀ (handle : Handle) (session : Session), sessions.sessions[handle]? =
      some session →
      session.IsTruthful handle heard) : after.AreTruthful heard := by
  intro handle session found
  rcases minds.new found with ⟨earlier, found'⟩ | ⟨options, listeners, rfl⟩
  · obtain ⟨listeners, found''⟩ := minds.old found'
    cases found.symm.trans found''
    exact (areTruthful handle earlier found').listeners listeners
  · exact .new options listeners

theorem Chore.areTruthful (chore : Chore allowed before after)
    (areTruthful : before.AreTruthful heard) :
    after.AreTruthful heard := by
  rcases chore.steady with ⟨-, minds⟩ | ⟨place, closed, isThere, performs⟩
  · exact .minds minds areTruthful
  · refine .minds (Sessions.Minds.of_heeds performs.heeds) fun handle session found => ?_
    have found := (Sessions.modify_close isThere handle).symm.trans found
    split at found
    · next here =>
      cases found
      subst here
      exact ⟨(areTruthful handle closed isThere).isRooted,
        (areTruthful handle closed isThere).hasHeard⟩
    · exact areTruthful handle session found

theorem SessionTurns.areTruthful {wake : Wake Plan} {point : Point} {rest : List (Frame At)}
    {session : Session} (turns : SessionTurns task wake handle point session before before.step)
    (isAt : before.IsAt task wake (.service ⟨some handle, point⟩) rest) (isKept : before.IsKept)
    (areOnWay : before.AreOnWay) (areTruthful : before.AreTruthful heard) :
    before.step.AreTruthful (heard ++ before.hears?.toList) := by
  refine .minds turns.minds fun other session' found => ?_
  dsimp only at found
  by_cases here : other = handle
  · subst here
    rw [List.getElem?_set_self (List.getElem?_eq_some_iff.mp turns.found).1] at found
    cases found
    have wasTruthful : (before.visit task point wake session).session.IsTruthful other heard :=
      areTruthful other session turns.found
    refine wasTruthful.turned (isKept.isSound turns.stands)
      (areOnWay.isOnWay turns.stands turns.found)
      fun errand call result isMade isHeard => ?_
    obtain ⟨errand', call', isMade', hears⟩ := turns.hears isAt isHeard
    cases isMade.symm.trans isMade'
    rw [hears]
    exact List.mem_singleton_self _
  · rw [List.getElem?_set_ne (Ne.symm here)] at found
    exact (areTruthful other session' found).append _

/-- **What sessions know stays true.** -/
theorem Happens.areTruthful (happens : Happens allowed before after)
    (areStacked : before.AreStacked) (isKept : before.IsKept) (areOnWay : before.AreOnWay)
    (overhears : Overhears before after heard longer) (areTruthful : before.AreTruthful heard) :
    after.AreTruthful longer := by
  have later : before.AreTruthful longer := by
    cases overhears with
    | step => exact areTruthful.append _
    | other => exact areTruthful
  rcases happens.turned areStacked isKept with
    ⟨task, wake, handle, point, rest, session, isAt, isStep, turns⟩ | ⟨task, point, idles⟩ | chores
  · subst isStep
    cases overhears with
    | step => exact turns.areTruthful isAt isKept areOnWay areTruthful
    | other isOther => exact absurd rfl isOther
  · exact .minds idles.minds later
  · clear happens overhears
    induction chores with
    | refl => exact later
    | tail _ chore step => exact chore.areTruthful step

theorem Recounts.areTruthful
    (recounts : Recounts allowed ({ store, isSlow } : Sessions) Overhears [] last heard) :
    last.AreTruthful heard := by
  induction recounts with
  | start => exact fun _ _ found => by cases found
  | next earlier happens noted step =>
    have run := earlier.run
    exact happens.areTruthful (Reaches.areStacked run (fresh_areStacked _)) (Reaches.isKept run)
      (Reaches.areOnWay run) noted step

/-! ## Calls that ensure directories -/

/-- **Directories are ensured from the top down, and what is remembered of them is true.** In every
run, whoever ensures directories meanwhile: what a session knows is closed under parents, and it has
heard of all of it that it is there; and each call that ensures directories goes through those on
its way as `Ensures` says, at all times. -/
theorem ensures_downward (run : Reaches allowed (unconnected store isSlow) first) :
    (∃ heard, Recounts allowed ({ store, isSlow } : Sessions) Overhears [] first heard) ∧
      (∀ heard, Recounts allowed ({ store, isSlow } : Sessions) Overhears [] first heard →
        first.AreTruthful heard) ∧
      ∀ (handle : Handle) (task : TaskId) (path : String) (parentsOnly : Bool) (session : Session),
        first.service.sessions[handle]? = some session →
        first.Lingers handle task (.begin (.ensure (.text path) parentsOnly)) →
        ∀ last, Reaches allowed first last →
          (∃ turned, ReflTransGen (Attended allowed task handle)
            (first, [], .goOn (.begin (.ensure (.text path) parentsOnly))) (last, turned)) ∧
          ∀ turned, ReflTransGen (Attended allowed task handle)
              (first, [], .goOn (.begin (.ensure (.text path) parentsOnly))) (last, turned) →
            ∃ session done rest, last.service.sessions[handle]? = some session ∧
              Ensures handle path parentsOnly done rest turned.1 session turned.2 := by
  refine ⟨run.recounts fun before after heard _ _ => ?_,
    fun heard recounts => recounts.areTruthful, ?_⟩
  · by_cases isStep : after = before.step
    · exact ⟨_, .step isStep⟩
    · exact ⟨_, .other isStep⟩
  · intro handle task path parentsOnly session found lingers last later
    refine ⟨Reaches.attended areOthers_learns run found lingers later, fun turned attended => ?_⟩
    obtain ⟨⟨session', found', passage⟩, -⟩ :=
      Attended.passage areOthers_learns run found lingers attended
    obtain ⟨done, rest, ensures⟩ := passage.ensures
    exact ⟨session', done, rest, found', ensures⟩

/-! ### A directory that is not there -/

/-- Somebody is about to ensure the directory above `/a/b`. -/
def climbing : Loop Sessions.service :=
  commanded [.occur (SessionEvent.connect []), .operate (Operation.ensure (.text "/a/b") true)]
    (unconnected {} false)

theorem climbing_reaches : Reaches anything (unconnected {} false) climbing :=
  .head (.command _ rfl rfl trivial) (.single (.command _ (by decide +kernel) rfl trivial))

/-- It has been made in the end, and the session knows it. -/
theorem ensures_downward_once : ∃ (turned : Turned) (session : Session) (done rest : List String),
    (climbing.settle 20).service.sessions[0]? = some session ∧
      Ensures 0 "/a/b" true done rest turned.1 session turned.2 ∧ session.ensured = ["/a"] ∧
        (climbing.settle 20).service.store.nodes.map (·.1) = ["/a"] := by
  obtain ⟨session, found⟩ : ∃ session, climbing.service.sessions[0]? = some session := ⟨_, rfl⟩
  have lingers : climbing.Lingers 0 0 (.begin (.ensure (.text "/a/b") true)) := ⟨rfl, by
    rintro ⟨known, ⟨⟩, ⟨⟩⟩⟩
  have later : Reaches anything climbing (climbing.settle 20) := settle_reaches 20 climbing
  obtain ⟨⟨turned, attended⟩, ensured⟩ :=
    (ensures_downward climbing_reaches).2.2 0 0 "/a/b" true session found lingers _ later
  obtain ⟨session', done, rest, found', ensures⟩ := ensured turned attended
  have known : ((climbing.settle 20).service.sessions[0]?).map (·.ensured) = some ["/a"] := by
    decide +kernel
  rw [found'] at known
  exact ⟨turned, session', done, rest, found', ensures, Option.some.inj known, by decide +kernel⟩

end Loop

end WatchedNode
