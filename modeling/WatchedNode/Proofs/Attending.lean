/-
**The turns that a task has in a run.**

From the beginning of an operation on, all turns of its task are noted, each with what it finds
(`Attends`). They are a passage: between them others may do to the session what they may do to it in
such runs (`Attended.passage`).
-/
import WatchedNode.Proofs.Retrying
import WatchedNode.Proofs.Store.Passage

namespace WatchedNode

open Relation

/-! ## Tasks that are no watch and no probe -/

/-- The task is no watch, and no probe. -/
def Point.IsPlain (point : Point) : Prop := point.vigil? = none ∧ point.isProbe = false

/-- A task that is no watch and no probe stays so. -/
theorem Visit.turn_isPlain {handle : Handle} {visit : Visit} (isSound : visit.point.IsSound)
    (isPlain : visit.point.IsPlain) {point : Point}
    (isNext : (visit.turn handle).2.2.next? = some point) :
    point.IsPlain := by
  have accounts :=
    Sessions.turn_accounts visit.moment handle visit.isSlow visit.wake visit.store
      visit.session isSound
  have isNext : (Sessions.turn visit.moment handle visit.isSlow visit.point visit.wake visit.store
    visit.session).2.2.2.next? = some point := isNext
  cases accounts with
  | goesOn _ found _ vigil isProbe =>
    cases isNext.symm.trans found
    exact ⟨vigil.trans isPlain.1, isProbe.trans isPlain.2⟩
  | ends _ isOver => cases isNext.symm.trans isOver
  | disarms _ _ _ _ _ _ isOver => cases isNext.symm.trans isOver
  | unprobes _ _ _ _ isOver => cases isNext.symm.trans isOver
  | closes _ _ _ stands =>
    rw [stands point isNext]
    exact ⟨rfl, rfl⟩

theorem Passage.isPlain {handle : Handle} {others : Session → Session → Prop}
    {operation : Operation} {visits : List Visit} {session : Session} {verdict : Verdict Point}
    (passage : Passage handle others operation visits session verdict) {point : Point}
    (isNext : verdict.next? = some point) : point.IsPlain := by
  induction passage generalizing point with
  | begins session =>
    cases isNext
    exact ⟨rfl, rfl⟩
  | waits _ _ step => exact step isNext
  | turns earlier isNext' step =>
    exact Visit.turn_isPlain (earlier.isSound isNext') (step isNext') isNext

namespace Loop

variable {allowed : Outside Sessions.service} {before after loop first last : Loop Sessions.service}
  {handle : Handle} {task : TaskId} {store : Store} {isSlow : Bool} {operation : Operation}

/-! ## What is noted -/

/-- A turn of a task at a point of its session, with what it finds. -/
def visit (task : TaskId) (point : Point) (wake : Wake Plan) (session : Session)
    (loop : Loop Sessions.service) : Visit :=
  ⟨loop.moment task, loop.service.isSlow, point, wake, loop.service.store, session⟩

/-- The turns that a task has had, and how it goes on after the last one. -/
abbrev Turned := List Visit × Verdict Point

/-- What is noted of a task when something happens. -/
inductive Attends (task : TaskId) (handle : Handle) (before after : Loop Sessions.service)
    (turned : Turned) :
    Turned → Prop
  /-- Something else happens. -/
  | other (isOpen : turned.2.next? ≠ none)
      (isOther : after = before.step → ∀ wake, before.turn ≠ some (task, wake)) :
      Attends task handle before after turned turned
  /-- The task has its turn. -/
  | turns (isOpen : turned.2.next? ≠ none) (isStep : after = before.step) {wake : Wake Plan}
      {point : Point} {rest : List (Frame At)} {session : Session}
      (isAt : before.IsAt task wake (.service ⟨some handle, point⟩) rest)
      (found : before.service.sessions[handle]? = some session) :
      Attends task handle before after turned
        (turned.1 ++ [before.visit task point wake session],
          ((before.visit task point wake session).turn handle).2.2)
  /-- The operation is over. -/
  | past (isOver : turned.2.next? = none) : Attends task handle before after turned turned

/-- Something happens, and is noted. -/
def Attended (allowed : Outside Sessions.service) (task : TaskId) (handle : Handle)
    (earlier later : Loop Sessions.service × Turned) : Prop :=
  Happens allowed earlier.1 later.1 ∧ Attends task handle earlier.1 later.1 earlier.2 later.2

/-- A task whose operation has begun is at its next turn, and the turns so far are a passage. -/
structure IsAttended (task : TaskId) (handle : Handle) (others : Session → Session → Prop)
    (operation : Operation) (loop : Loop Sessions.service) (turned : Turned) : Prop where
  passage : ∃ session, loop.service.sessions[handle]? = some session ∧
    Passage handle others operation turned.1 session turned.2
  stands : ∀ point, turned.2.next? = some point → loop.Lingers handle task point

/-- What others do to sessions in such runs. -/
structure AreOthers (allowed : Outside Sessions.service) (start : Loop Sessions.service)
    (others : Session → Session → Prop) : Prop where
  listen (session : Session) (listeners : List Subscriber) :
    others session { session with listeners }
  change {before after : Loop Sessions.service} (run : Reaches allowed start before)
    (happens : Happens allowed before after) {handle : Handle} {session : Session}
    (found : before.service.sessions[handle]? = some session) :
    ∃ session', after.service.sessions[handle]? = some session' ∧ others session session'

section Passages

variable {others : Session → Session → Prop} {turned later : Turned}

/-- What happens besides leaves a task where it is. -/
theorem IsAttended.other (isAttended : IsAttended task handle others operation before turned)
    (areOthers : AreOthers allowed (unconnected store isSlow) others)
    (run : Reaches allowed (unconnected store isSlow) before)
    (happens : Happens allowed before after)
    (isOther : turned.2.next? ≠ none → after = before.step →
      ∀ wake, before.turn ≠ some (task, wake)) :
    IsAttended task handle others operation after turned := by
  obtain ⟨⟨session, found, passage⟩, stands⟩ := isAttended
  obtain ⟨session', found', change⟩ := areOthers.change run happens found
  refine ⟨⟨session', found', passage.waits change⟩, fun point isNext => ?_⟩
  obtain ⟨noWatch, noProbe⟩ := passage.isPlain isNext
  exact happens.lingers noWatch noProbe (Reaches.areStacked run (fresh_areStacked _))
    (Reaches.isKept run)
    ⟨session, found, rfl⟩ (isOther (isNext ▸ Option.some_ne_none point)) (stands point isNext)

/-- The task has its turn. -/
theorem IsAttended.turns (isAttended : IsAttended task handle others operation before turned)
    (areOthers : AreOthers allowed (unconnected store isSlow) others)
    (run : Reaches allowed (unconnected store isSlow) before) (isOpen : turned.2.next? ≠ none)
    {wake : Wake Plan} {point : Point} {rest : List (Frame At)} {session : Session}
    (isAt : before.IsAt task wake (.service ⟨some handle, point⟩) rest)
    (found : before.service.sessions[handle]? = some session) :
    IsAttended task handle others operation before.step
      (turned.1 ++ [before.visit task point wake session],
      ((before.visit task point wake session).turn handle).2.2) := by
  obtain ⟨⟨session', found', passage⟩, stands⟩ := isAttended
  cases found.symm.trans found'
  obtain ⟨here, isNext⟩ := Option.ne_none_iff_exists'.mp isOpen
  have lingers := stands here isNext
  have isHere : before.at? task = some ⟨some handle, point⟩ := isAt.at?
  cases isHere.symm.trans lingers.stands
  have isKept : before.IsKept := Reaches.isKept run
  have turns := isAt.sessionTurns (Reaches.areStacked run (fresh_areStacked _)) isKept found
  have passage' :
      Passage handle others operation (turned.1 ++ [before.visit task point wake session]) _ _ :=
    .turns passage isNext
  obtain ⟨listeners, found'⟩ := turns.session
  refine ⟨⟨_, found', passage'.waits (areOthers.listen _ listeners)⟩, fun next isNext' => ?_⟩
  obtain ⟨noWatch, noProbe⟩ := passage.isPlain isNext
  refine ⟨turns.turns.self.trans (congrArg (Option.map (At.mk (some handle))) isNext'), ?_⟩
  exact turns.turns.isLive lingers.isLive fun cancelled =>
    lingers.uncounted noWatch noProbe isKept turns.found (turns.accounts.cancels cancelled)

theorem IsAttended.attends (isAttended : IsAttended task handle others operation before turned)
    (areOthers : AreOthers allowed (unconnected store isSlow) others)
    (run : Reaches allowed (unconnected store isSlow) before)
    (happens : Happens allowed before after)
    (attends : Attends task handle before after turned later) :
    IsAttended task handle others operation after later := by
  cases attends with
  | other _ isOther => exact isAttended.other areOthers run happens fun _ => isOther
  | turns isOpen isStep isAt found =>
    subst isStep
    exact isAttended.turns areOthers run isOpen isAt found
  | past isOver => exact isAttended.other areOthers run happens fun isOpen => absurd isOver isOpen

/-- Whatever happens can be noted. -/
theorem IsAttended.canNote (isAttended : IsAttended task handle others operation before turned)
    (after : Loop Sessions.service) : ∃ later, Attends task handle before after turned later := by
  by_cases isOpen : turned.2.next? = none
  · exact ⟨turned, .past isOpen⟩
  by_cases isOther : after = before.step → ∀ wake, before.turn ≠ some (task, wake)
  · exact ⟨turned, .other isOpen isOther⟩
  push Not at isOther
  obtain ⟨isStep, wake, given⟩ := isOther
  obtain ⟨⟨session, found, -⟩, stands⟩ := isAttended
  obtain ⟨point, isNext⟩ := Option.ne_none_iff_exists'.mp isOpen
  obtain ⟨rest, isAt⟩ := isAt_of_stands given (stands point isNext).stands
  exact ⟨_, .turns isOpen isStep isAt found⟩

theorem IsAttended.begins {session : Session}
    (found : loop.service.sessions[handle]? = some session)
    (lingers : loop.Lingers handle task (.begin operation)) :
    IsAttended task handle others operation loop ([], .goOn (.begin operation)) := by
  refine ⟨⟨session, found, .begins session⟩, fun point isNext => ?_⟩
  cases isNext
  exact lingers

variable {session : Session} (areOthers : AreOthers allowed (unconnected store isSlow) others)
  (run : Reaches allowed (unconnected store isSlow) first)
  (found : first.service.sessions[handle]? = some session)
  (lingers : first.Lingers handle task (.begin operation))

include areOthers run found lingers

/-- **The turns of a task are a passage.** -/
theorem Attended.passage
    (attended :
      ReflTransGen (Attended allowed task handle) (first, [], .goOn (.begin operation))
        (last, turned)) :
    IsAttended task handle others operation last turned := by
  have both : Reaches allowed (unconnected store isSlow) last ∧
      IsAttended task handle others operation last turned := by
    generalize same : (last, turned) = end' at attended
    induction attended generalizing last turned with
    | refl =>
      cases same
      exact ⟨run, .begins found lingers⟩
    | @tail middle _ _ noted step =>
      subst same
      obtain ⟨earlier, isAttended⟩ := step rfl
      exact ⟨earlier.tail noted.1, isAttended.attends areOthers earlier noted.1 noted.2⟩
  exact both.2

/-- Whatever happens to a task can be noted. -/
theorem Reaches.attended (later : Reaches allowed first last) :
    ∃ turned, ReflTransGen (Attended allowed task handle) (first, [], .goOn (.begin operation))
      (last, turned) := by
  induction later with
  | refl => exact ⟨_, .refl⟩
  | @tail before after _ happens step =>
    obtain ⟨turned, attended⟩ := step
    obtain ⟨later, attends⟩ := (Attended.passage areOthers run found lingers attended).canNote after
    exact ⟨later, attended.tail ⟨happens, attends⟩⟩

end Passages

end Loop

end WatchedNode
