/-
**Runs over a transport.**

A `Transport` says what calls of the store may come to. In a run over a transport (`Carried`)
sessions hear nothing else from the store, be it planned, said when a call is released, or said by
the store itself, and nobody outside cancels what is held. The commands of a scenario are such a run
if that can be seen at each step (`Carried.enact`).
-/
import WatchedNode.Proofs.Sparing

namespace WatchedNode

open Relation

/-- What a session hears, and for which call. -/
structure Hearing where
  handle : Handle
  errand : Errand
  call : StoreCall
  result : Except Error Record

/-- Who has said something has been asked. -/
theorem Sessions.made_of_heard {point : Point} {wake : Wake Plan} {store : Store}
    {result : Except Error Record} (hears : Sessions.heard point wake store = some result) :
    ∃ errand call, point.made? = some (errand, call) := by
  cases point with
  | ask errand call failures => exact ⟨errand, call, rfl⟩
  | asked errand call failures => exact ⟨errand, call, rfl⟩
  | _ => cases wake <;> cases hears

namespace Loop

/-- What a session hears from the store in the next step, if it hears anything. -/
def hears? (loop : Loop Sessions.service) : Option Hearing :=
  loop.turn.bind fun turn => (loop.at? turn.1).bind fun point => point.handle.bind fun handle =>
    (loop.service.sessions[handle]?).bind fun _ => point.point.made?.bind fun made =>
      (Sessions.heard point.point turn.2 loop.service.store).map (⟨handle, made.1, made.2, ·⟩)

variable {allowed : Outside Sessions.service} {before after loop : Loop Sessions.service}
  {transport : Transport}

/-- A task of a session has its turn there, or one that has no session, or there are chores. -/
theorem Happens.turned (happens : Happens allowed before after) (areStacked : before.AreStacked)
    (isKept : before.IsKept) :
    (∃ task wake handle point rest session,
      before.IsAt task wake (.service ⟨some handle, point⟩) rest ∧
      after = before.step ∧ SessionTurns task wake handle point session before after) ∨
    (∃ task point, Idles task point before after) ∨ Chores allowed before after := by
  rcases happens.chores areStacked with @⟨task, wake, point, rest, isAt, isStack⟩ | chores
  · rcases turn_atSession isAt isStack isKept with ⟨handle, here, session, rfl, turns⟩ | idles
    · exact .inl ⟨task, wake, handle, here, rest, session, isAt, isAt.step.symm, turns⟩
    · exact .inr (.inl ⟨task, point, idles⟩)
  · exact .inr (.inr chores)

/-- **A session that is closed stays so.** -/
theorem Happens.closed (happens : Happens allowed before after) (areStacked : before.AreStacked)
    (isKept : before.IsKept) {handle : Handle} (closed : Sessions.IsClosed handle before.service) :
    Sessions.IsClosed handle after.service := by
  rcases happens.turned areStacked isKept with
    ⟨task, wake, place, point, rest, session, -, -, turns⟩ | ⟨task, point, idles⟩ | chores
  · exact turns.closed closed
  · exact idles.closed closed
  · exact (Chores.leaves_watches chores isKept handle).closed closed

/-- What a session is after the turn of a task of its own. -/
theorem SessionTurns.session {task : TaskId} {wake : Wake Plan} {handle : Handle} {point : Point}
    {session : Session} (turns : SessionTurns task wake handle point session before after) :
    ∃ listeners, after.service.sessions[handle]? = some { (Sessions.turn (before.moment task) handle
      before.service.isSlow point wake before.service.store session).2.1 with listeners } :=
  turns.minds.old (List.getElem?_set_self (List.getElem?_eq_some_iff.mp turns.found).1)

/-- A session hears something when a task of its own has its turn. -/
theorem hears?_eq_some {hearing : Hearing} : loop.hears? = some hearing ↔
    ∃ task wake point rest session,
      loop.IsAt task wake (.service ⟨some hearing.handle, point⟩) rest ∧
      loop.service.sessions[hearing.handle]? = some session ∧
      point.made? = some (hearing.errand, hearing.call) ∧
      Sessions.heard point wake loop.service.store = some hearing.result := by
  constructor
  · intro hears
    obtain ⟨⟨task, wake⟩, given, hears⟩ := Option.bind_eq_some_iff.mp hears
    obtain ⟨⟨place, point⟩, stands, hears⟩ := Option.bind_eq_some_iff.mp hears
    obtain ⟨handle, rfl, hears⟩ := Option.bind_eq_some_iff.mp hears
    obtain ⟨session, found, hears⟩ := Option.bind_eq_some_iff.mp hears
    obtain ⟨made, isMade, hears⟩ := Option.bind_eq_some_iff.mp hears
    obtain ⟨result, isHeard, rfl⟩ := Option.map_eq_some_iff.mp hears
    obtain ⟨known, isTask, stands⟩ := Option.bind_eq_some_iff.mp stands
    unfold Task.point? at stands
    split at stands
    · next here rest frames =>
      cases stands
      exact ⟨task, wake, point, rest, session, ⟨given, by rw [isTask, Option.map_some, frames]⟩,
        found, isMade,
        isHeard⟩
    · cases stands
  · rintro ⟨task, wake, point, rest, session, isAt, found, isMade, isHeard⟩
    exact Option.bind_eq_some_iff.mpr ⟨(task, wake), isAt.turn, Option.bind_eq_some_iff.mpr
      ⟨⟨some hearing.handle, point⟩, isAt.at?, Option.bind_eq_some_iff.mpr ⟨hearing.handle, rfl,
        Option.bind_eq_some_iff.mpr ⟨session, found, Option.bind_eq_some_iff.mpr
          ⟨(hearing.errand, hearing.call), isMade,
            Option.map_eq_some_iff.mpr ⟨hearing.result, isHeard, rfl⟩⟩⟩⟩⟩⟩

/-- What a session hears in a turn of a task of its own. -/
theorem SessionTurns.hears {task : TaskId} {wake : Wake Plan} {handle : Handle} {point : Point}
    {rest : List (Frame At)} {session : Session}
    (turns : SessionTurns task wake handle point session before after)
    (isAt : before.IsAt task wake (.service ⟨some handle, point⟩) rest)
    {result : Except Error Record}
    (heard : Sessions.heard point wake before.service.store = some result) :
    ∃ errand call, point.made? = some (errand, call) ∧
      before.hears? = some ⟨handle, errand, call, result⟩ := by
  obtain ⟨errand, call, isMade⟩ := Sessions.made_of_heard heard
  exact ⟨errand, call, isMade,
    hears?_eq_some.mpr ⟨task, wake, point, rest, session, isAt, turns.found, isMade, heard⟩⟩

/-- A session that hears something has a turn there. -/
theorem turns_of_hears (areStacked : before.AreStacked) (isKept : before.IsKept) {hearing : Hearing}
    (hears : before.hears? = some hearing) : ∃ task wake point rest session,
      before.IsAt task wake (.service ⟨some hearing.handle, point⟩) rest ∧
      SessionTurns task wake hearing.handle point session before before.step ∧
      point.made? = some (hearing.errand, hearing.call) ∧
      Sessions.heard point wake before.service.store = some hearing.result := by
  obtain ⟨task, wake, point, rest, session, isAt, found, isMade, heard⟩ := hears?_eq_some.mp hears
  exact ⟨task, wake, point, rest, session, isAt, isAt.sessionTurns areStacked isKept found,
    isMade, heard⟩

/-- Between two turns no session hears anything. -/
theorem hears?_of_between (isBetween : loop.isBetween = true) : loop.hears? = none := by
  rw [Loop.isBetween, Option.isNone_iff_eq_none] at isBetween
  rw [hears?, isBetween, Option.bind_none]

/-- What is heard in the next step is what calls may come to. -/
def isCarried (transport : Transport) (loop : Loop Sessions.service) : Bool :=
  loop.hears?.all fun hearing => transport hearing.call hearing.result

/-- One thing that happens over a transport. -/
structure Carries (transport : Transport) (before after : Loop Sessions.service) : Prop where
  happens : Happens lenient before after
  isCarried : after = before.step → before.isCarried transport = true

/-- A run over a transport. -/
abbrev Carried (transport : Transport) : Loop Sessions.service → Loop Sessions.service → Prop :=
  ReflTransGen (Carries transport)

theorem Carried.run (carried : Carried transport before after) : Reaches lenient before after :=
  carried.lift id fun _ _ carries => carries.happens

theorem Carries.mono {wider : Transport} (carries : Carries transport before after)
    (may : ∀ call result, transport call result = true → wider call result = true) :
    Carries wider before after :=
  ⟨carries.happens, fun same => (Option.all_eq_true _ _).mpr fun hearing hears =>
    may _ _ ((Option.all_eq_true _ _).mp (carries.isCarried same) hearing hears)⟩

/-- A run over a transport is one over a wider one. -/
theorem Carried.mono {wider : Transport} (carried : Carried transport before after)
    (may : ∀ call result, transport call result = true → wider call result = true) :
    Carried wider before after :=
  carried.lift id fun _ _ carries => carries.mono may

/-- What is heard in a step is what the call may come to. -/
theorem Carries.may (carries : Carries transport before before.step) {hearing : Hearing}
    (hears : before.hears? = some hearing) : transport hearing.call hearing.result = true := by
  have isCarried := carries.isCarried rfl
  rw [Loop.isCarried, hears] at isCarried
  exact isCarried

/-! ## Scenarios -/

theorem Carries.of_between (happens : Happens lenient before after)
    (isBetween : before.isBetween = true) :
    Carries transport before after :=
  ⟨happens, fun _ => by rw [Loop.isCarried, hears?_of_between isBetween]; rfl⟩

/-- What is heard until the loop is at rest is what calls may come to. -/
def settlesOver (transport : Transport) : Nat → Loop Sessions.service → Bool
  | 0, _ => true
  | fuel + 1, loop =>
    loop.isIdle || loop.isCarried transport && settlesOver transport fuel loop.step

theorem Carried.settle {fuel : Nat} (settles : settlesOver transport fuel loop = true) :
    Carried transport loop (loop.settle fuel) := by
  induction fuel generalizing loop with
  | zero => exact .refl
  | succ fuel step =>
    unfold Loop.settle
    split
    · exact .refl
    · next isBusy =>
      rw [settlesOver, Bool.or_eq_true, Bool.and_eq_true] at settles
      obtain ⟨isCarried, settles⟩ := settles.resolve_left isBusy
      exact .head ⟨.step, fun _ => isCarried⟩ (step settles)

/-- The command cancels nothing that is held. -/
def isLenient : Command Sessions.service → Bool
  | .release _ .cancel => false
  | _ => true

theorem lenient_of_isLenient {command : Command Sessions.service}
    (mild : isLenient command = true) :
    lenient loop command := by
  rintro tickets rfl
  cases mild

/-- The commands come between two jobs, and all that is heard after them is what calls may come
to. -/
def canCarry (transport : Transport) (fuel : Nat) : List (Command Sessions.service) →
    Loop Sessions.service → Bool
  | [], _ => true
  | command :: rest, loop =>
    loop.isBetween && command.isMomentary && isLenient command &&
      settlesOver transport fuel (loop.command command).1 &&
      canCarry transport fuel rest ((loop.command command).1.settle fuel)

/-- **The commands of a scenario are a run over a transport.** -/
theorem Carried.enact {fuel : Nat} {commands : List (Command Sessions.service)}
    (can : canCarry transport fuel commands loop = true) :
    Carried transport loop (loop.enact fuel commands) := by
  induction commands generalizing loop with
  | nil => exact .refl
  | cons command rest step =>
    simp only [canCarry, Bool.and_eq_true] at can
    obtain ⟨⟨⟨⟨isBetween, isMomentary⟩, mild⟩, settles⟩, can⟩ := can
    have given : Carries transport loop (loop.command command).1 :=
      .of_between (.command command isBetween isMomentary (lenient_of_isLenient mild)) isBetween
    exact .head given ((Carried.settle settles).trans (step can))

end Loop

end WatchedNode
