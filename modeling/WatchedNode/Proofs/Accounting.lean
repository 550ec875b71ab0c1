/-
**Sessions keep account of those whom they send out.**

Mostly accounts are left alone, as are those who are in them (`Sessions.IsKept.steady`); besides, a
task of a session has its turn (`turn_isKept`), or a session is closed. So accounts are kept in
every run (`Reaches.isKept`).
-/
import WatchedNode.Proofs.Agreement
import WatchedNode.Proofs.Loop.Standing
import WatchedNode.Proofs.Store.Roll

namespace WatchedNode

open Relation

/-! ## What leaves accounts alone -/

namespace Sessions

/-- Sessions are the same up to who listens, and new ones have nobody in their accounts. -/
structure Minds (before after : Sessions) : Prop where
  old {handle : Handle} {session : Session} : before.sessions[handle]? = some session →
    ∃ listeners, after.sessions[handle]? = some { session with listeners }
  new {handle : Handle} {session : Session} : after.sessions[handle]? = some session →
    (∃ session', before.sessions[handle]? = some session') ∨
      ∃ options listeners, session = { options, listeners }

namespace Minds

variable {first second third : Sessions}

theorem of_eq (same : second.sessions = first.sessions) : Minds first second :=
  ⟨fun {_ session} found => ⟨session.listeners, same ▸ found⟩,
    fun {_ session} found => .inl ⟨session, same ▸ found⟩⟩

theorem refl (state : Sessions) : Minds state state := of_eq rfl

theorem trans (left : Minds first second) (right : Minds second third) : Minds first third := by
  refine ⟨fun {handle session} found => ?_, fun {handle session} found => ?_⟩
  · obtain ⟨listeners, found'⟩ := left.old found
    obtain ⟨listeners', found''⟩ := right.old found'
    exact ⟨listeners', found''⟩
  · rcases right.new found with ⟨session', found'⟩ | isNew
    · rcases left.new found' with isOld | ⟨options, listeners, rfl⟩
      · exact .inl isOld
      · obtain ⟨listeners', found''⟩ := right.old found'
        cases found.symm.trans found''
        exact .inr ⟨options, listeners', rfl⟩
    · exact .inr isNew

theorem modify (place : Option Handle) {change : Session → Session}
    (same : ∀ session, ∃ listeners, change session = { session with listeners })
    (state : Sessions) :
    Minds state (state.modify place change) := by
  cases place with
  | none => exact .refl state
  | some place =>
    unfold Sessions.modify
    refine ⟨fun {handle session} found => ?_, fun {handle session} found => .inl ?_⟩
    · dsimp only
      by_cases here : place = handle
      · subst here
        rw [List.getElem?_modify_eq, found]
        obtain ⟨listeners, changed⟩ := same session
        exact ⟨listeners, congrArg some changed⟩
      · rw [List.getElem?_modify_ne _ _ here, found]
        exact ⟨session.listeners, rfl⟩
    · have isThere : handle < (state.sessions.modify place change).length :=
        (List.getElem?_eq_some_iff.mp found).1
      rw [List.length_modify] at isThere
      exact ⟨_, List.getElem?_eq_getElem isThere⟩

theorem listen_eq (listener : Subscriber) (session : Session) :
    ∃ listeners, session.listen listener = { session with listeners } := by
  unfold Session.listen
  split
  · exact ⟨session.listeners, rfl⟩
  · exact ⟨_, rfl⟩

theorem listen (place : Option Handle) (listener : Subscriber) (state : Sessions) :
    Minds state (state.modify place (·.listen listener)) := .modify place (listen_eq listener) state

theorem unlisten (place : Option Handle) (listener : Subscriber) (state : Sessions) :
    Minds state (state.modify place (·.unlisten listener)) :=
  .modify place (fun _ => ⟨_, rfl⟩) state

theorem connect {arguments : Table Value} {state after : Sessions} {effects : List SessionEffect}
    {handle : Handle} (connected : state.connect arguments = .ok (after, effects, handle)) :
    Minds state after ∧ ∃ call, effects = [.note call] := by
  unfold Sessions.connect at connected
  cases options : SessionOptions.ofArguments arguments with
  | error error => simp [options, bind, Except.bind] at connected
  | ok options' =>
    simp only [options, bind, Except.bind, pure, Except.pure, Except.ok.injEq, Prod.mk.injEq]
      at connected
    obtain ⟨rfl, rfl, -⟩ := connected
    refine ⟨⟨fun {handle session} found => ⟨session.listeners, ?_⟩,
      fun {handle session} found => ?_⟩, _, rfl⟩
    · dsimp only
      rw [List.getElem?_append_left (List.getElem?_eq_some_iff.mp found).1]
      exact found
    · dsimp only at found
      by_cases isOld : handle < state.sessions.length
      · exact .inl ⟨_, List.getElem?_eq_getElem isOld⟩
      · rw [List.getElem?_append_right (Nat.le_of_not_lt isOld)] at found
        exact .inr ⟨options', [], List.mem_singleton.mp (List.mem_of_getElem? found)⟩

theorem of_heed {state after : Sessions.service.State} (heed : Sessions.service.Heed state after) :
    Minds state after := by
  cases heed with
  | adopt handle => exact .of_eq rfl
  | listen handle listener => exact .listen handle listener state
  | unlisten handle listener => exact .unlisten handle listener state

theorem of_heeds {state after : Sessions.service.State}
    (heeds : Sessions.service.Heeds state after) :
    Minds state after := by
  induction heeds with
  | refl => exact .refl state
  | tail _ heed step => exact step.trans (.of_heed heed)

/-- What happens, unless a session is closed, is not in the accounts. -/
theorem occur {event : SessionEvent} {state : Sessions}
    {occurrence : Occurrence Sessions SessionCall At Plan} (isOther : event ≠ .close)
    (happened : Sessions.occur event state = .ok occurrence) :
    Minds state occurrence.state ∧ (∀ task, .cancel task ∉ occurrence.effects) ∧
      errands occurrence.effects = [] ∧ occurrence.remainder = none := by
  have silent : ∀ task, (.cancel task : SessionEffect) ∉ [] := fun _ => List.not_mem_nil
  have released : ∀ wanted reply task, .cancel task ∉ [(.release wanted reply : SessionEffect)] :=
    fun wanted reply task member => by cases List.mem_singleton.mp member
  have ofStore : ∀ key result, Minds state (state.changed key result).state ∧
      (∀ task, .cancel task ∉ (state.changed key result).effects) ∧
        errands (state.changed key result).effects = [] ∧
          (state.changed key result).remainder = none := by
    intro key result
    unfold changed
    split
    · exact ⟨.of_eq rfl, released _ _, rfl, rfl⟩
    · exact ⟨.refl state, silent, rfl, rfl⟩
  have ofCurrent : ∀ {name : String} {change : Session → Session},
      (∀ session, ∃ listeners, change session = { session with listeners }) →
      state.modifyCurrent name change = .ok occurrence → Minds state occurrence.state ∧
        (∀ task, .cancel task ∉ occurrence.effects) ∧ errands occurrence.effects = [] ∧
          occurrence.remainder = none := by
    intro name change same changed
    unfold modifyCurrent at changed
    split at changed
    · cases changed
      exact ⟨.modify _ same state, silent, rfl, rfl⟩
    · cases changed
  cases event with
  | connect arguments =>
    cases connected : state.connect arguments with
    | error error => simp [Sessions.occur, connected, bind, Except.bind] at happened
    | ok result =>
      obtain ⟨after, effects, handle⟩ := result
      simp only [Sessions.occur, connected, bind, Except.bind, pure, Except.pure, Except.ok.injEq]
        at happened
      subst happened
      obtain ⟨minds, call, rfl⟩ := Minds.connect connected
      refine ⟨minds.trans (.of_eq rfl), fun task member => ?_, rfl, rfl⟩
      cases List.mem_singleton.mp member
  | close => exact absurd rfl isOther
  | listen name => exact ofCurrent (listen_eq _) happened
  | unlisten name => exact ofCurrent (fun session => ⟨_, rfl⟩) happened
  | plan method plans =>
    cases happened
    exact ⟨.of_eq rfl, silent, rfl, rfl⟩
  | down isDown isDropping =>
    cases happened
    cases isDropping
    · exact ⟨.of_eq rfl, silent, rfl, rfl⟩
    · exact ⟨.of_eq rfl, released _ _, rfl, rfl⟩
  | write key value =>
    cases happened
    exact ofStore _ _
  | delete key =>
    cases happened
    exact ofStore _ _

end Minds

variable {roll others : Roll} {state after : Sessions}

/-- Where the accounts stay, and so do the tasks. -/
theorem IsKept.steady (isKept : state.IsKept roll) (minds : state.Minds after)
    (kept : ∀ task handle point, (∃ session, state.sessions[handle]? = some session) →
      roll.stands task = some ⟨some handle, point⟩ → ¬ roll.isDoomed task →
      others.stands task = some ⟨some handle, point⟩ ∧ ¬ others.isDoomed task)
    (old : ∀ task point, others.stands task = some point → roll.stands task = some point ∨
      point.point.vigil? = none ∧ point.point.isProbe = false ∧ point.point.IsSound) :
      after.IsKept others := by
  have oldWatch : ∀ {handle vigil task}, others.Watches handle vigil task →
      roll.Watches handle vigil task := by
    rintro handle vigil task ⟨point, stands, isWatch⟩
    rcases old task _ stands with isOld | ⟨noWatch, -⟩
    · exact ⟨point, isOld, isWatch⟩
    · cases noWatch.symm.trans isWatch
  have oldProbe : ∀ {handle task}, others.Probes handle task → roll.Probes handle task := by
    rintro handle task ⟨point, stands, isProbe⟩
    rcases old task _ stands with isOld | ⟨-, noProbe, -⟩
    · exact ⟨point, isOld, isProbe⟩
    · cases noProbe.symm.trans isProbe
  refine ⟨fun {task point} stands => ?_, fun {handle vigil task} isWatch => ?_,
    fun {handle task} isProbe => ?_, fun {handle session} found => ?_⟩
  · rcases old task point stands with isOld | ⟨-, -, isSound⟩
    · exact isKept.isSound isOld
    · exact isSound
  · obtain ⟨session, found⟩ := isKept.isThere (oldWatch isWatch)
    obtain ⟨listeners, found'⟩ := minds.old found
    exact ⟨_, found'⟩
  · obtain ⟨session, found⟩ := isKept.isHere (oldProbe isProbe)
    obtain ⟨listeners, found'⟩ := minds.old found
    exact ⟨_, found'⟩
  · by_cases isOld : ∃ session', state.sessions[handle]? = some session'
    · obtain ⟨session', found'⟩ := isOld
      obtain ⟨listeners, found''⟩ := minds.old found'
      cases found.symm.trans found''
      refine (isKept.sessions found').steady rfl rfl rfl ?_ ?_ (fun task vigil => oldWatch)
        fun task => oldProbe
      · rintro task vigil ⟨point, stands, isWatch⟩ isLive
        obtain ⟨stands, isLive⟩ := kept task handle point ⟨session', found'⟩ stands isLive
        exact ⟨⟨point, stands, isWatch⟩, isLive⟩
      · rintro task ⟨point, stands, isProbe⟩ isLive
        obtain ⟨stands, isLive⟩ := kept task handle point ⟨session', found'⟩ stands isLive
        exact ⟨⟨point, stands, isProbe⟩, isLive⟩
    · obtain ⟨options, listeners, rfl⟩ := (minds.new found).resolve_left isOld
      refine ⟨fun {key watcher task} member => ?_, fun {vigil task} isOpen isWatch => ?_,
        fun {key watcher task other} member => ?_, nofun, fun {task} isOpen isProbe => ?_⟩
      · cases member
      · exact absurd (isKept.isThere (oldWatch isWatch)) isOld
      · cases member
      · exact absurd (isKept.isHere (oldProbe isProbe)) isOld

theorem Minds.isKept (minds : state.Minds after) (isKept : state.IsKept roll) : after.IsKept roll :=
  isKept.steady minds (fun _ _ _ _ stands isLive => ⟨stands, isLive⟩) fun _ _ stands => .inl stands

end Sessions

/-- A task has its turn at its session; without one it ends. -/
theorem Sessions.resume_eq (moment : Moment) (point : At) (wake : Wake Plan) (state : Sessions) :
    (∃ handle here session, state.sessions[handle]? = some session ∧ point = ⟨some handle, here⟩ ∧
      state.resume moment point wake =
        { state := { state with
            store := (turn moment handle state.isSlow here wake state.store session).1
            sessions := state.sessions.set handle
              (turn moment handle state.isSlow here wake state.store session).2.1 }
          effects := (turn moment handle state.isSlow here wake state.store session).2.2.1
          verdict :=
            verdictAt handle
              (turn moment handle state.isSlow here wake state.store session).2.2.2 }) ∨
    (∀ handle session, point.handle = some handle → state.sessions[handle]? ≠ some session) ∧
      ∃ outcome, state.resume moment point wake = { state, verdict := .finish outcome } := by
  obtain ⟨place, here⟩ := point
  unfold resume
  split
  · next handle session isHere isThere =>
    cases isHere
    exact .inl ⟨handle, here, session, isThere, rfl, rfl⟩
  · next missing =>
    refine .inr ⟨fun handle session isHere isThere => ?_, _, rfl⟩
    cases isHere
    exact missing handle session rfl isThere

theorem Sessions.verdictAt_next? (handle : Handle) (verdict : Verdict Point) :
    (verdictAt handle verdict).next? = verdict.next?.map (At.mk (some handle)) := by
  cases verdict <;> rfl

/-! ## Chores -/

/-- The session that is in use is closed. -/
theorem Sessions.occur_close {state : Sessions}
    {occurrence : Occurrence Sessions SessionCall At Plan}
    (happened : Sessions.occur .close state = .ok occurrence) :
    ∃ handle session, state.current = some handle ∧ state.sessions[handle]? = some session ∧
      occurrence.state = state.modify (some handle) (fun _ => session.close.1.1) ∧
      occurrence.effects = session.close.1.2 ∧
      ∀ point, occurrence.remainder = some point → point.point = .closing := by
  unfold occur at happened
  dsimp only at happened
  split at happened
  · cases happened
  · next session isThere =>
    cases happened
    cases isCurrent : state.current with
    | none =>
      rw [isCurrent] at isThere
      cases isThere
    | some handle =>
      rw [isCurrent] at isThere
      refine ⟨handle, session, rfl, isThere, rfl, rfl, fun point remains => ?_⟩
      dsimp only at remains
      split at remains
      · cases remains
        rfl
      · cases remains

/-- A call begins as an operation, or is the closing of a session. -/
theorem Sessions.begins_or_closes {point : At} (isFirst : Sessions.service.IsFirst point) :
    (∃ operation, point.point = .begin operation) ∨ point.point = .closing := by
  rcases isFirst with
    (⟨handle, operation, rfl⟩ | ⟨moment, event, state, occurrence, occurs, remains⟩) | begins
  · exact .inl ⟨operation, rfl⟩
  · by_cases isClose : event = .close
    · subst isClose
      obtain ⟨handle, session, -, -, -, -, isClosing⟩ := occur_close occurs
      exact .inr (isClosing point remains)
    · obtain ⟨-, -, -, nobody⟩ := Minds.occur isClose occurs
      cases nobody.symm.trans remains
  · rcases begins point rfl with ⟨handle, request, rfl⟩ | ⟨handle, rfl⟩
    · exact .inl ⟨_, rfl⟩
    · exact .inl ⟨_, rfl⟩

namespace Loop

/-- Where the tasks of a loop stand. -/
def roll (loop : Loop Sessions.service) : Roll :=
  ⟨fun task => loop.at? task, fun task => loop.IsDoomed task⟩

/-- The sessions' accounts are kept. -/
abbrev IsKept (loop : Loop Sessions.service) : Prop := Sessions.IsKept loop.roll loop.service

variable {allowed : Outside Sessions.service} {before after : Loop Sessions.service}

theorem Steady.isKept (steady : Steady before after)
    (minds : Sessions.Minds before.service after.service) (isKept : before.IsKept) :
    after.IsKept := by
  refine Sessions.IsKept.steady isKept minds (fun task handle point _ stands isLive =>
    steady.kept stands isLive) fun task point stands =>
      (steady.old stands).imp_right fun isFirst => ?_
  rcases Sessions.begins_or_closes isFirst with ⟨operation, same⟩ | same
  · rw [same]
    exact ⟨rfl, rfl, trivial⟩
  · rw [same]
    exact ⟨rfl, rfl, trivial⟩

/-- The turn of a call, as far as it matters to the sessions' accounts. -/
theorem Turns.roll {task : TaskId} {effects : List SessionEffect} {goal : Option At}
    (turns : Turns task effects goal before after) (isThere : ∃ point, before.at? task = some point)
    (few : errands effects = [] ∨ ∃ point, errands effects = [point]) :
    before.roll.Turns task before.tasks.length effects goal after.roll := by
  obtain ⟨point, stands⟩ := isThere
  obtain ⟨known, found, -⟩ := Option.bind_eq_some_iff.mp stands
  have isOld : task < before.tasks.length := (List.getElem?_eq_some_iff.mp found).1
  refine ⟨turns.self, turns.kept, fun {other point} here => ?_, fun {point} isSent => ?_,
    turns.isLive,
    Nat.ne_of_gt isOld, ?_⟩
  · rcases turns.old here with same | isOld | ⟨place, isSent, rfl⟩
    · exact .inl same
    · exact .inr (.inl isOld)
    · have isSent : (errands effects)[place]? = some point := isSent
      rcases few with silent | ⟨sent, isOnly⟩
      · rw [silent] at isSent
        cases isSent
      · rw [isOnly] at isSent ⊢
        cases place with
        | zero =>
          cases isSent
          exact .inr (.inr ⟨rfl, rfl⟩)
        | succ place => cases isSent
  · have isFirst : (errands effects)[0]? = some point := by rw [isSent]; rfl
    exact turns.sent isFirst
  · rintro ⟨known, found, -⟩
    exact absurd (List.getElem?_eq_some_iff.mp found).1 (Nat.lt_irrefl _)

/-- A task of a session has its turn there. -/
structure SessionTurns (task : TaskId) (wake : Wake Plan) (handle : Handle) (point : Point)
    (session : Session) (before after : Loop Sessions.service) : Prop where
  found : before.service.sessions[handle]? = some session
  stands : before.at? task = some ⟨some handle, point⟩
  turns : before.roll.Turns task before.tasks.length
    (Sessions.turn (before.moment task) handle before.service.isSlow point wake before.service.store
      session).2.2.1
    ((Sessions.turn (before.moment task) handle before.service.isSlow point wake
      before.service.store
      session).2.2.2.next?.map (At.mk (some handle))) after.roll
  accounts :
    Accounts handle before.tasks.length task (Sessions.ArmedBy point wake before.service.store)
    point session
    (Sessions.turn (before.moment task) handle before.service.isSlow point wake before.service.store
      session).2
  minds : Sessions.Minds { before.service with
      store := (Sessions.turn (before.moment task) handle before.service.isSlow point wake
        before.service.store session).1
      sessions := before.service.sessions.set handle
        (Sessions.turn (before.moment task) handle before.service.isSlow point wake
          before.service.store
          session).2.1 } after.service

/-- A task that has no session ends in its turn. -/
structure Idles (task : TaskId) (point : At) (before after : Loop Sessions.service) : Prop where
  stands : before.at? task = some point
  nobody (handle : Handle) (session : Session) : point.handle = some handle →
    before.service.sessions[handle]? ≠ some session
  turns : before.roll.Turns task before.tasks.length [] none after.roll
  minds : Sessions.Minds before.service after.service

/-- **A call has its turn at its session**, if it has one. -/
theorem turn_atSession {task : TaskId} {wake : Wake Plan} {point : At} {rest : List (Frame At)}
    (isAt : before.IsAt task wake (.service point) rest)
    (isStack : IsStack (.service point :: rest)) (isKept : before.IsKept) :
    (∃ handle here session, point = ⟨some handle, here⟩ ∧
      SessionTurns task wake handle here session before
      (afterTurn task (.service point) rest (before.inTurn.serviceTurn task point wake))) ∨
    Idles task point before
      (afterTurn task (.service point) rest (before.inTurn.serviceTurn task point wake)) := by
  obtain ⟨turns, heeds⟩ := turn_turns isAt isStack
  generalize afterTurn task (.service point) rest (before.inTurn.serviceTurn task point wake) =
    after
    at turns heeds ⊢
  have minds : Sessions.Minds (Sessions.resume (before.moment task) point wake before.service).state
      after.service := .of_heeds heeds
  have turns : Turns task (Sessions.resume (before.moment task) point wake before.service).effects
      (Sessions.resume (before.moment task) point wake before.service).verdict.next? before after :=
    turns
  rcases Sessions.resume_eq (before.moment task) point wake before.service with
    ⟨handle, here, session, found, rfl, resumed⟩ | ⟨nobody, outcome, resumed⟩
  · have accounts := Sessions.turn_accounts (before.moment task) handle before.service.isSlow wake
      before.service.store session (isKept.isSound (isAt.at? : before.roll.stands task = _))
    rw [resumed] at turns minds
    dsimp only at turns minds
    rw [Sessions.verdictAt_next?] at turns
    refine .inl ⟨handle, here, session, rfl, found, isAt.at?, turns.roll ⟨_, isAt.at?⟩ ?_,
      accounts, minds⟩
    rcases accounts.sent with silent | ⟨sent, isOnly, -⟩
    · exact .inl silent
    · exact .inr ⟨_, isOnly⟩
  · rw [resumed] at turns minds
    exact .inr ⟨isAt.at?, nobody, Turns.roll turns ⟨_, isAt.at?⟩ (.inl rfl), minds⟩

theorem SessionTurns.isKept {task : TaskId} {wake : Wake Plan} {handle : Handle} {point : Point}
    {session : Session} (turns : SessionTurns task wake handle point session before after)
    (isKept : before.IsKept) : after.IsKept :=
  turns.minds.isKept
    (Sessions.IsKept.turned turns.turns turns.stands turns.accounts isKept turns.found _)

theorem Idles.isKept {task : TaskId} {point : At} (idles : Idles task point before after)
    (isKept : before.IsKept) : after.IsKept := by
  refine Sessions.IsKept.steady isKept idles.minds ?_ fun task' point' stands' => .inl ?_
  · rintro task' handle point' ⟨session, found⟩ stands' isLive
    refine ⟨idles.turns.kept ?_ stands', idles.turns.isLive isLive List.not_mem_nil⟩
    rintro rfl
    have stands : before.roll.stands task' = some point := idles.stands
    cases stands.symm.trans stands'
    exact idles.nobody handle session rfl found
  · rcases idles.turns.old stands' with rfl | isOld | ⟨-, isSent⟩
    · cases idles.turns.self.symm.trans stands'
    · exact isOld
    · cases isSent

/-- **Accounts are kept in the turn of a call.** -/
theorem ServiceTurn.isKept (turn : ServiceTurn before after) (isKept : before.IsKept) :
    after.IsKept := by
  obtain ⟨isAt, isStack⟩ := turn
  rcases turn_atSession isAt isStack isKept with ⟨handle, here, session, -, turns⟩ | idles
  · exact turns.isKept isKept
  · exact idles.isKept isKept

/-- A session is closed. -/
def Closes (before after : Loop Sessions.service) : Prop :=
  ∃ (handle : Handle) (session : Session), before.service.sessions[handle]? = some session ∧
    Performs session.close.1.2
      (before.setService (before.service.modify (some handle) fun _ => session.close.1.1)) after

/-- **Accounts are kept when a session is closed.** -/
theorem Performs.isKept_closed {session : Session} {handle : Handle} {state : Sessions}
    (found : state.sessions[handle]? = some session)
    (performs : Performs session.close.1.2 before after)
    (isKept : Sessions.IsKept before.roll state) :
    Sessions.IsKept after.roll (state.modify (some handle) fun _ => session.close.1.1) := by
  have same : ∀ task, after.roll.stands task = before.roll.stands task :=
    performs.at? session.close_silent
  have modified : (state.modify (some handle) fun _ => session.close.1.1).sessions =
      state.sessions.modify handle fun _ => session.close.1.1 := rfl
  have there : ∀ {other : Handle}, (∃ session', state.sessions[other]? = some session') →
      ∃ session', (state.sessions.modify handle fun _ => session.close.1.1)[other]? =
        some session' := by
    rintro other ⟨session', found'⟩
    have isThere : other < (state.sessions.modify handle fun _ => session.close.1.1).length := by
      rw [List.length_modify]
      exact (List.getElem?_eq_some_iff.mp found').1
    exact ⟨_, List.getElem?_eq_getElem isThere⟩
  refine ⟨fun {task point} stands => isKept.isSound ((same task).symm.trans stands),
    fun {other vigil task} isWatch => ?_, fun {other task} isProbe =>
      ?_, fun {other session'} found' => ?_⟩
  · obtain ⟨point, stands, isWatch⟩ := isWatch
    exact there (isKept.isThere ⟨point, (same task).symm.trans stands, isWatch⟩)
  · obtain ⟨point, stands, isProbe⟩ := isProbe
    exact there (isKept.isHere ⟨point, (same task).symm.trans stands, isProbe⟩)
  · rw [modified] at found'
    by_cases here : handle = other
    · subst here
      rw [List.getElem?_modify_eq, found] at found'
      cases found'
      exact .closed _ handle session
    · rw [List.getElem?_modify_ne _ _ here] at found'
      have isLive :
          ∀ {task : TaskId} {point : Point}, before.roll.stands task = some ⟨some other, point⟩ →
          ¬ before.roll.isDoomed task → ¬ after.roll.isDoomed task := by
        intro task point stands isLive
        refine performs.isLive isLive fun cancelled => ?_
        obtain ⟨point', stands', -⟩ :=
          (isKept.sessions found).stands (Session.close_cancels cancelled)
        cases stands.symm.trans stands'
        exact here rfl
      refine (isKept.sessions found').steady rfl rfl rfl ?_ ?_ ?_ ?_
      · rintro task vigil ⟨point, stands, isWatch⟩ isLive'
        exact ⟨⟨point, (same task).trans stands, isWatch⟩, isLive stands isLive'⟩
      · rintro task ⟨point, stands, isProbe⟩ isLive'
        exact ⟨⟨point, (same task).trans stands, isProbe⟩, isLive stands isLive'⟩
      · rintro task vigil ⟨point, stands, isWatch⟩
        exact ⟨point, (same task).symm.trans stands, isWatch⟩
      · rintro task ⟨point, stands, isProbe⟩
        exact ⟨point, (same task).symm.trans stands, isProbe⟩

theorem Closes.isKept (closes : Closes before after) (isKept : before.IsKept) : after.IsKept := by
  obtain ⟨handle, session, found, performs⟩ := closes
  have minds : Sessions.Minds (before.service.modify (some handle) fun _ => session.close.1.1)
      after.service := .of_heeds performs.heeds
  exact minds.isKept (performs.isKept_closed found isKept)

theorem happen_steady (event : SessionEvent) (before : Loop Sessions.service) :
    Steady before (before.happen event).1 ∧
      Sessions.Minds before.service (before.happen event).1.service ∨
      Closes before (before.happen event).1 := by
  unfold Loop.happen
  split
  · exact .inl ⟨.of_eq rfl, .refl _⟩
  · next occurrence occurs =>
    have performs := perform_performs occurrence.effects (before.setService occurrence.state)
    by_cases isClose : event = .close
    · subst isClose
      obtain ⟨handle, session, -, found, state, effects, -⟩ := Sessions.occur_close occurs
      rw [effects, state] at performs
      rw [effects, state]
      exact .inr ⟨handle, session, found, performs⟩
    · obtain ⟨minds, noCancel, nobody, -⟩ := Sessions.Minds.occur isClose occurs
      obtain ⟨kept, old⟩ := performs.steady noCancel nobody
      exact .inl ⟨⟨kept, old⟩, minds.trans (.of_heeds performs.heeds)⟩

theorem connect_steady (settings : Value) (before : Loop Sessions.service) :
    Steady before (before.connect settings).1 ∧
      Sessions.Minds before.service (before.connect settings).1.service := by
  unfold Loop.connect
  split
  · exact ⟨.of_eq rfl, .refl _⟩
  · split
    · exact ⟨.of_eq rfl, .refl _⟩
    · next state effects handle connected =>
      obtain ⟨minds, call, rfl⟩ := Sessions.Minds.connect connected
      have performs :=
        perform_performs (S := Sessions.service) [.note call] (before.setService state)
      have noCancel : ∀ task, (.cancel task : SessionEffect) ∉ [.note call] := fun task member => by
        cases List.mem_singleton.mp member
      obtain ⟨kept, old⟩ := performs.steady noCancel rfl
      exact ⟨⟨kept, old⟩, minds.trans (.of_heeds performs.heeds)⟩

/-- **Chores leave tasks and accounts alone**, unless a session is closed. -/
theorem Chore.steady (chore : Chore allowed before after) :
    Steady before after ∧ Sessions.Minds before.service after.service ∨ Closes before after := by
  have same : ∀ {after : Loop Sessions.service}, after.service = before.service →
      Sessions.Minds before.service after.service := fun same => .of_eq (by rw [same])
  cases chore with
  | aside tasks service turn => exact .inl ⟨.of_eq tasks, same service⟩
  | mind rests heeds turn => exact .inl ⟨rests.steady, .of_heeds heeds⟩
  | happen event => exact happen_steady event before
  | connect settings => exact .inl (connect_steady settings before)
  | call isAsked => exact .inl ⟨spawn_steady .caller (.inl isAsked) before, same rfl⟩
  | release tickets release isAllowed =>
    have service : (before.releaseAll release tickets).1.service = before.service :=
      releaseAll_keeps before release (fun loop task kept =>
        (wake_keeps loop task _).1.trans kept) tickets rfl
    exact .inl ⟨releaseAll_steady release tickets before, same service⟩
  | move found frames isOther isStack follows moves =>
    exact .inl ⟨move_steady found frames isOther isStack follows moves, same moves.service⟩
  | run found either => exact .inl ⟨run_steady _ _ before, same rfl⟩
  | doom found was =>
    exact .inl ⟨doom_steady .cancelled found was, same (finish_moves _ _ before).service⟩

theorem Chore.isKept (chore : Chore allowed before after) (isKept : before.IsKept) :
    after.IsKept := by
  rcases chore.steady with ⟨steady, minds⟩ | closes
  · exact steady.isKept minds isKept
  · exact closes.isKept isKept

/-- **Accounts are kept in every run.** -/
theorem Reaches.isKept {store : Store} {isSlow : Bool} {loop : Loop Sessions.service}
    (run : Reaches allowed (unconnected store isSlow) loop) : loop.IsKept := by
  refine run.keeps_chores (fresh_areStacked _) (fun _ _ turn => turn.isKept)
    (fun _ _ chore => chore.isKept) ?_
  have nobody : ∀ task, (unconnected store isSlow).roll.stands task = none := fun _ => rfl
  have noSession : ∀ handle : Handle, (unconnected store isSlow).service.sessions[handle]? = none :=
    fun _ => rfl
  refine ⟨fun {task point} stands => ?_, fun {handle vigil task} isWatch => ?_,
    fun {handle task} isProbe => ?_,
    fun {handle session} found => ?_⟩
  · cases (nobody task).symm.trans stands
  · obtain ⟨point, stands, -⟩ := isWatch
    cases (nobody task).symm.trans stands
  · obtain ⟨point, stands, -⟩ := isProbe
    cases (nobody task).symm.trans stands
  · cases (noSession handle).symm.trans found

end Loop

end WatchedNode
